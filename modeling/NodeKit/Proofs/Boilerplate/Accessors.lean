import NodeKit.Proofs.Boilerplate.Layout
import NodeKit.Proofs.Declaration.Basic
import NodeKit.Proofs.Text.Lines

/-!
# The layout of the runtime block

The runtime block has one accessor for each property. With texts that were read from
declarations the only blanks in an accessor are spaces, so that the lines of the block
are the accessors, and the tags can be taken off line by line.
-/
namespace NodeKit

namespace Text

/-- Has no blanks other than spaces. -/
def SpacesOnly (t : Text) : Prop := ∀ c ∈ t, isBlank c → c = ' '

instance (t : Text) : Decidable (SpacesOnly t) := List.decidableBAll ..

lemma IsWord.spacesOnly {t : Text} (h : IsWord t) : SpacesOnly t :=
  fun c hc hblank => absurd hblank (h.not_isBlank c hc)

lemma spacesOnly_flatten {pieces : List Text} (h : ∀ piece ∈ pieces, SpacesOnly piece) :
    SpacesOnly pieces.flatten := by
  intro c hc
  obtain ⟨piece, hpiece, hmem⟩ := List.mem_flatten.1 hc
  exact h piece hpiece c hmem

lemma SpacesOnly.lf_notMem {t : Text} (h : SpacesOnly t) : '\n' ∉ t :=
  fun hmem => absurd (h _ hmem (by decide)) (by decide)

/-- Joined texts are found again as lines when they have no blanks but spaces. -/
lemma map_body_splitLines_joinLines {parts : List Text} (hne : ∀ part ∈ parts, part ≠ [])
    (h : ∀ part ∈ parts, SpacesOnly part) :
    (splitLines (joinLines parts)).map Line.body = parts := by
  rw [splitLines, Line.map_body_split (by decide)]
  induction parts with
  | nil => rfl
  | cons part rest ih =>
    obtain ⟨hpart, hrest⟩ := List.forall_mem_cons.1 h
    obtain ⟨hpartne, hrestne⟩ := List.forall_mem_cons.1 hne
    have hlf := hpart.lf_notMem
    by_cases hempty : rest = []
    · rw [hempty, joinLines_singleton, Line.cutAtFeeds_of_notMem hlf hpartne]
    · have hcr : part.getLast? ≠ some '\r' := fun hlast =>
        absurd (hpart _ (List.mem_of_getLast? hlast) (by decide)) (by decide)
      have hkept : Line.withoutReturn Breaks.text part = part := if_neg hcr
      have hcut : Line.cutAtFeeds Breaks.text (part ++ '\n' :: joinLines rest) =
          Line.withoutReturn Breaks.text part :: Line.cutAtFeeds Breaks.text (joinLines rest) :=
        Line.cutAtFeeds_append hlf (joinLines rest)
      rw [hkept, ih hrestne hrest] at hcut
      rw [joinLines_cons part hempty]
      exact hcut

end Text

namespace Boilerplate

/-! ## One accessor -/

section

variable (property : Property)

lemma accessorLine_eq (style : TagStyle) :
    accessorLine style property =
      (if style = .bracketed then property.category.tag ++ " ".toList else []) ++ "public " ++
        property.typeName ++ " " ++ property.identifier ++ " \x7b get; private set; \x7d" ++
        (property.defaultValue.elim [] fun t => " = ".toList ++ t ++ ";".toList) := by
  unfold accessorLine
  cases style <;> cases property.defaultValue <;> simp [tagMark, initializer]

/-- The engine has the template of accessors under its name. -/
lemma renderNamed_accessor (style : TagStyle) :
    renderNamed accessorTemplate.name (accessorContext style property) =
      .ok (accessorLine style property) :=
  renderNamed_of_render rfl (render_accessor property style)

/-- What stands behind the first space. -/
def behindTag (line : Text) : Text := (line.dropWhile (· ≠ ' ')).tail

/-- A tag is one word, and the space behind it is the first of its line. -/
lemma behindTag_accessorLine :
    behindTag (accessorLine .bracketed property) = accessorLine .untagged property := by
  obtain ⟨category, typeName, identifier, defaultValue⟩ := property
  cases category <;> rfl

end

section

variable {property : Property} (h : property.Worded)
include h

lemma spacesOnly_accessorLine (style : TagStyle) : (accessorLine style property).SpacesOnly := by
  apply Text.spacesOnly_flatten
  have htag : (tagMark style property.category).SpacesOnly := by
    cases style <;> cases property.category <;> decide
  have hinitializer : (initializer property.defaultValue).SpacesOnly := by
    cases hdefault : property.defaultValue with
    | none => exact by decide
    | some t =>
      have ht : t.SpacesOnly := (h.defaultValue t hdefault).spacesOnly
      have hpieces : initializer (some t) = List.flatten [" = ".toList, t, ";".toList] := by
        simp [initializer]
      rw [hpieces]
      apply Text.spacesOnly_flatten
      simp only [List.forall_mem_cons]
      exact ⟨by decide, ht, by decide, by simp⟩
  simp only [List.forall_mem_cons]
  exact ⟨htag, by decide, h.typeName.spacesOnly, by decide, h.identifier.spacesOnly, by decide,
    hinitializer, by simp⟩

end

/-! ## The runtime block -/

/-- The lines of the block are the accessors of the properties, in their order. -/
lemma lines_accessors (style : TagStyle) {properties : List Property}
    (h : ∀ property ∈ properties, property.Worded) :
    (Text.splitLines (Text.joinLines (properties.map (accessorLine style)))).map Line.body =
      properties.map (accessorLine style) := by
  apply Text.map_body_splitLines_joinLines
  · intro part hpart hnil
    obtain ⟨property, -, rfl⟩ := List.mem_map.1 hpart
    obtain ⟨c, hc, -⟩ := (edged_accessorLine property style).head
    simp [hnil] at hc
  · intro part hpart
    obtain ⟨property, hproperty, rfl⟩ := List.mem_map.1 hpart
    exact spacesOnly_accessorLine (h property hproperty) style

/-- The block without tags can be read off the one with tags. -/
lemma renderRuntime_untagged {properties : List Property}
    (h : ∀ property ∈ properties, property.Worded) :
    renderRuntime .untagged properties = (renderRuntime .bracketed properties).map fun tagged =>
      Text.joinLines ((Text.splitLines tagged).map fun line => behindTag line.body) := by
  let lines := Text.splitLines (Text.joinLines (properties.map (accessorLine .bracketed)))
  have hlines :=
    calc lines.map (fun line => behindTag line.body) = (lines.map Line.body).map behindTag := by
          rw [List.map_map]
          rfl
      _ = (properties.map (accessorLine .bracketed)).map behindTag := by
          rw [lines_accessors .bracketed h]
      _ = properties.map (accessorLine .untagged) := by
          rw [List.map_map]
          exact List.map_congr_left fun property _ => behindTag_accessorLine property
  rw [renderRuntime_eq, renderRuntime_eq, Except.map, hlines]

/-- The runtime block of any properties, whatever texts they bring in. It has one accessor for each
property, in the order of the properties, and the trim at the end takes nothing away, so that every
accessor is found in the block as its template gives it, with the texts of the property put in as
they are. When the properties are taken from declarations that were read, in any order, the lines
of the block are the accessors, no other blank than a space stands in them, and the block without
tags is what is left of the tagged lines behind their first space. -/
theorem renderRuntime_layout :
    let line (style : TagStyle) (property : Property) : Text :=
      (if style = .bracketed then property.category.tag ++ " ".toList else []) ++ "public " ++
        property.typeName ++ " " ++ property.identifier ++ " \x7b get; private set; \x7d" ++
        (property.defaultValue.elim [] fun t => " = ".toList ++ t ++ ";".toList)
    let text (style : TagStyle) (properties : List Property) : Text :=
      Text.joinLines (properties.map (line style))
    (∀ style properties, renderRuntime style properties = .ok (text style properties) ∧
      Text.trim (text style properties) = text style properties ∧
      ∀ property ∈ properties, line style property <:+: text style properties) ∧
    (∀ style property, renderNamed "runtime_accessor" (accessorContext style property) =
      .ok (line style property)) ∧
    ∀ input d, parseDeclarations input = .ok d → ∀ properties ⊆ d.properties,
      (∀ style,
        (Text.splitLines (text style properties)).map Line.body = properties.map (line style) ∧
        ∀ property ∈ properties, (line style property).SpacesOnly) ∧
      renderRuntime .untagged properties = (renderRuntime .bracketed properties).map fun tagged =>
        Text.joinLines ((Text.splitLines tagged).map fun line => behindTag line.body) := by
  intro line text
  have hline : line = accessorLine := by
    funext style property
    exact (accessorLine_eq property style).symm
  have htext (style : TagStyle) (properties : List Property) :
      text style properties = Text.joinLines (properties.map (accessorLine style)) := by
    simp only [text, hline]
  simp only [htext, hline]
  refine ⟨fun style properties => ⟨renderRuntime_eq style properties, ?_, ?_⟩,
    fun style property => renderNamed_accessor property style, ?_⟩
  · exact block_map (edged_accessorLine · style) properties
  · exact fun property hproperty => infix_joinWith (List.mem_map_of_mem hproperty)
  · intro input d hd properties hsub
    have hworded : ∀ property ∈ properties, property.Worded := fun property hproperty =>
      (worded_of_parseDeclarations hd).properties property (hsub hproperty)
    refine ⟨fun style => ⟨lines_accessors style hworded, fun property hproperty =>
      spacesOnly_accessorLine (hworded property hproperty) style⟩, renderRuntime_untagged hworded⟩

/-- A default value that looks like a slot, and properties in another order than they were read. -/
theorem renderRuntime_layout_reordered :
    renderRuntime .bracketed [⟨.input, "float", ['A'], none⟩,
        ⟨.output, "T", ['R'], some "\x7b\x7bA\x7d\x7d"⟩] =
      .ok ("[In] public float A \x7b get; private set; \x7d\n".toList ++
        "[Out] public T R \x7b get; private set; \x7d = \x7b\x7bA\x7d\x7d;") ∧
    renderRuntime .untagged [⟨.input, "float", ['A'], none⟩,
        ⟨.output, "T", ['R'], some "\x7b\x7bA\x7d\x7d"⟩] =
      .ok ("public float A \x7b get; private set; \x7d\n".toList ++
        "public T R \x7b get; private set; \x7d = \x7b\x7bA\x7d\x7d;") := by
  obtain ⟨hblock, -, hparsed⟩ := renderRuntime_layout
  obtain ⟨-, huntagged⟩ := hparsed (Text.encode "o T R \x7b\x7bA\x7d\x7d\ni float A")
    ⟨[], [⟨.output, "T", ['R'], some "\x7b\x7bA\x7d\x7d"⟩, ⟨.input, "float", ['A'], none⟩]⟩
    (by decide +kernel)
    [⟨.input, "float", ['A'], none⟩, ⟨.output, "T", ['R'], some "\x7b\x7bA\x7d\x7d"⟩]
    (by simp)
  refine ⟨?_, ?_⟩
  · rw [(hblock _ _).1]
    decide +kernel
  · rw [huntagged, (hblock _ _).1]
    decide +kernel

end Boilerplate

end NodeKit
