import NodeKit.Proofs.Boilerplate.Accessors
import NodeKit.Proofs.Text.Lowercase

/-!
# Reading generated code back

The first word of a line tells what the line is: an alias, an accessor under its
tag, or something that the editor block put there. The other words are those of
the declaration, in fixed places, so that code with tagged accessors can be
decoded, whatever the words of the declarations are.
-/
namespace NodeKit.Boilerplate

/-! ## The decoder -/

/-- The category that a tag stands for. -/
def categoryOfTag? (tag : Text) : Option Category :=
  [Category.input, .setting, .output].find? (·.tag = tag)

/-- The alias that a line introduces, if it does. -/
def readAlias? (line : Text) : Option TypeAlias :=
  match Text.words line with
  | [keyword, name, _, target] =>
    if keyword = "using".toList then some ⟨name, target.dropLast⟩ else none
  | _ => none

/-- The property that a line is the accessor of, if it is one. -/
def readProperty? (line : Text) : Option Property :=
  match Text.words line with
  | tag :: _ :: typeName :: identifier :: _ :: _ :: _ :: _ :: _ :: rest =>
    (categoryOfTag? tag).map fun category =>
      ⟨category, typeName, identifier, rest[1]?.map List.dropLast⟩
  | _ => none

/-- The aliases and the properties in generated code, each in order. -/
def decode (code : Text) : List TypeAlias × List Property :=
  ((Text.lines code).filterMap readAlias?, (Text.lines code).filterMap readProperty?)

/-- Whether a line declares nothing. -/
def Silent (line : Text) : Prop := readAlias? line = none ∧ readProperty? line = none

@[simp] lemma categoryOfTag?_tag (category : Category) :
    categoryOfTag? category.tag = some category := by
  cases category <;> rfl

/-! ## Lines -/

lemma directive_eq (shorthand : TypeAlias) :
    shorthand.directive =
      "using ".toList ++ shorthand.name ++ " = ".toList ++ shorthand.target ++ [';'] := rfl

lemma words_directive {shorthand : TypeAlias} (h : shorthand.Worded) :
    Text.words shorthand.directive =
      ["using".toList, shorthand.name, ['='], shorthand.target ++ [';']] := by
  have hwords : ∀ word ∈ ["using".toList, shorthand.name, ['='], shorthand.target ++ [';']],
      Text.IsWord word := by
    simp only [List.forall_mem_cons]
    exact ⟨by decide, h.name, by decide, h.target.append (by decide), by simp⟩
  have hline : shorthand.directive =
      Text.joinWith [' '] ["using".toList, shorthand.name, ['='], shorthand.target ++ [';']] := by
    rw [directive_eq]
    simp [Text.joinWith, List.intercalate]
  rw [hline, Text.words_joinWith hwords]

/-- The words that the default value of an accessor adds. -/
def initializerWords : Option Text → List Text
  | none => []
  | some t => [['='], t ++ [';']]

/-- The words of a tagged accessor. -/
def accessorWords (property : Property) : List Text :=
  property.category.tag :: "public".toList :: property.typeName :: property.identifier ::
    ['\x7b'] :: "get;".toList :: "private".toList :: "set;".toList :: ['\x7d'] ::
    initializerWords property.defaultValue

lemma words_accessorLine {property : Property} (h : property.Worded) :
    Text.words (accessorLine .bracketed property) = accessorWords property := by
  have hline : accessorLine .bracketed property =
      Text.joinWith [' '] (accessorWords property) := by
    obtain ⟨category, typeName, identifier, defaultValue⟩ := property
    cases defaultValue <;>
      simp [accessorLine, accessorWords, initializer, initializerWords, tagMark, Text.joinWith,
        List.intercalate]
  have htag : Text.IsWord property.category.tag := by
    cases property.category <;> decide
  have hinitializer : ∀ word ∈ initializerWords property.defaultValue, Text.IsWord word := by
    cases hdefault : property.defaultValue with
    | none => simp [initializerWords]
    | some t =>
      have ht : Text.IsWord t := h.defaultValue t hdefault
      simp only [initializerWords, List.forall_mem_cons]
      exact ⟨by decide, ht.append (by decide), by simp⟩
  have hwords : ∀ word ∈ accessorWords property, Text.IsWord word := by
    simp only [accessorWords, List.forall_mem_cons]
    exact ⟨htag, by decide, h.typeName, h.identifier, by decide, by decide, by decide, by decide,
      by decide, hinitializer⟩
  rw [hline, Text.words_joinWith hwords]

lemma readAlias?_directive {shorthand : TypeAlias} (h : shorthand.Worded) :
    readAlias? shorthand.directive = some shorthand := by
  rw [readAlias?, words_directive h]
  simp

lemma readProperty?_directive {shorthand : TypeAlias} (h : shorthand.Worded) :
    readProperty? shorthand.directive = none := by
  rw [readProperty?, words_directive h]

lemma readProperty?_accessorLine {property : Property} (h : property.Worded) :
    readProperty? (accessorLine .bracketed property) = some property := by
  obtain ⟨category, typeName, identifier, defaultValue⟩ := property
  rw [readProperty?, words_accessorLine h]
  cases defaultValue <;> simp [accessorWords, initializerWords]

lemma readAlias?_accessorLine {property : Property} (h : property.Worded) :
    readAlias? (accessorLine .bracketed property) = none := by
  rw [readAlias?, words_accessorLine h]
  rfl

/-- A line of the editor block declares nothing. -/
lemma silent_of_private {line rest : Text} (h : line = "private".toList ++ ' ' :: rest) :
    Silent line := by
  have hword : Text.IsWord "private".toList := by decide
  have hwords : Text.words line = "private".toList :: Text.words rest := by
    rw [h, Text.words_append_space hword]
  constructor
  · unfold readAlias?
    rw [hwords]
    split
    · next heq =>
      obtain ⟨rfl, -⟩ := List.cons.inj heq
      rfl
    · rfl
  · unfold readProperty?
    rw [hwords]
    split
    · next heq =>
      obtain ⟨rfl, -⟩ := List.cons.inj heq
      rfl
    · rfl

lemma lf_notMem_flatten {pieces : List Text} (h : ∀ piece ∈ pieces, '\n' ∉ piece) :
    '\n' ∉ pieces.flatten := by
  intro hlf
  obtain ⟨piece, hpiece, hmem⟩ := List.mem_flatten.1 hlf
  exact h piece hpiece hmem

section

variable {property : Property} (h : property.Worded)
include h

lemma lf_notMem_accessorLine (style : TagStyle) : '\n' ∉ accessorLine style property :=
  (spacesOnly_accessorLine h style).lf_notMem

lemma lf_notMem_identifier : '\n' ∉ Text.lowerFirst property.identifier :=
  Text.lf_notMem_lowerFirst h.identifier.lf_notMem

lemma lf_notMem_connectorLine : '\n' ∉ connectorLine property := by
  apply lf_notMem_flatten
  simp only [List.forall_mem_cons]
  exact ⟨by decide, lf_notMem_identifier h, by decide, by simp⟩

lemma lf_notMem_fieldLine : '\n' ∉ fieldLine property := by
  have htype : '\n' ∉ fieldType property.typeName := by
    have hwidgets : ∀ entry ∈ editorWidgets, '\n' ∉ entry.2 := by decide
    unfold fieldType
    cases hwidget : editorWidget? property.typeName with
    | none => simp [h.typeName.lf_notMem]
    | some widget =>
      obtain ⟨front, behind, hentries, -⟩ := List.lookup_eq_some_iff.1 hwidget
      exact hwidgets (property.typeName, widget) (by simp [hentries])
  apply lf_notMem_flatten
  simp only [List.forall_mem_cons]
  exact ⟨by decide, htype, by decide, lf_notMem_identifier h, by decide, by simp⟩

lemma lf_notMem_valueLine : '\n' ∉ valueLine property := by
  have hassigned : '\n' ∉ assigned property.defaultValue := by
    cases hdefault : property.defaultValue with
    | none => simp [assigned]
    | some t => simp [assigned, (h.defaultValue t hdefault).lf_notMem]
  apply lf_notMem_flatten
  simp only [List.forall_mem_cons]
  exact ⟨by decide, h.typeName.lf_notMem, by decide, lf_notMem_identifier h, hassigned, by decide,
    by simp⟩

end

/-! ## Generated code -/

/-- The editor block of words declares nothing. -/
lemma silent_of_mem_editor {properties : List Property}
    (h : ∀ property ∈ properties, property.Worded) {line : Text}
    (hline : line ∈ Text.lines (editorText properties)) : Silent line := by
  rcases Text.mem_lines_joinWith hline with rfl | ⟨part, hpart, hmem⟩
  · exact ⟨by simp [readAlias?], by simp [readProperty?]⟩
  · obtain ⟨kind, hkind, rfl⟩ := List.mem_map.1 hpart
    obtain ⟨hkind, hne⟩ := List.mem_filter.1 hkind
    have hne : kind ≠ [] := by simpa using hne
    have hlines : ∀ line ∈ kind, '\n' ∉ line ∧
        ∃ rest, line = "private".toList ++ ' ' :: rest := by
      intro line hline
      simp only [editorKinds, List.mem_cons, List.not_mem_nil, or_false] at hkind
      obtain rfl | rfl | rfl := hkind
      · obtain ⟨property, hproperty, rfl⟩ := List.mem_map.1 hline
        have hworded := h property (List.mem_filter.1 hproperty).1
        exact ⟨lf_notMem_connectorLine hworded, _, rfl⟩
      · obtain ⟨property, hproperty, rfl⟩ := List.mem_map.1 hline
        have hworded := h property (List.mem_filter.1 hproperty).1
        exact ⟨lf_notMem_fieldLine hworded, _, rfl⟩
      · obtain ⟨property, hproperty, rfl⟩ := List.mem_map.1 hline
        have hworded := h property (List.mem_filter.1 hproperty).1
        exact ⟨lf_notMem_valueLine hworded, _, rfl⟩
    rw [Text.lines_joinLines_of_notMem hne fun line hline => (hlines line hline).1] at hmem
    obtain ⟨-, rest, hrest⟩ := hlines line hmem
    exact silent_of_private hrest

lemma lf_notMem_directive {shorthand : TypeAlias} (h : shorthand.Worded) :
    '\n' ∉ shorthand.directive := by
  rw [directive_eq]
  simp [h.name.lf_notMem, h.target.lf_notMem]

lemma lines_aliasSection {d : Declarations} (h : ∀ shorthand ∈ d.aliases, shorthand.Worded) :
    (aliasSection d).flatMap Text.lines = d.aliases.map TypeAlias.directive := by
  unfold aliasSection
  by_cases hempty : d.aliases = []
  · simp [hempty]
  · have hlines := Text.lines_joinLines_map hempty fun shorthand hshorthand =>
      lf_notMem_directive (h shorthand hshorthand)
    simpa [hempty] using hlines

lemma filterMap_map_eq_self {α β : Type} {f : α → β} {g : β → Option α} {l : List α}
    (h : ∀ a ∈ l, g (f a) = some a) : (l.map f).filterMap g = l := by
  rw [List.filterMap_map]
  exact (List.filterMap_congr h).trans (List.filterMap_some ..)

/-- Lines of aliases, lines that declare nothing and lines of accessors are told apart. -/
lemma decode_joinLines {sections silent : List Text} {aliases : List TypeAlias}
    {properties : List Property} (hne : sections ≠ [])
    (hlines : sections.flatMap Text.lines = aliases.map TypeAlias.directive ++
      (silent ++ properties.map (accessorLine .bracketed)))
    (haliases : ∀ shorthand ∈ aliases, shorthand.Worded)
    (hsilent : ∀ line ∈ silent, Silent line)
    (hproperties : ∀ property ∈ properties, property.Worded) :
    decode (Text.joinLines sections) = (aliases, properties) := by
  have hfirst : (aliases.map TypeAlias.directive).filterMap readAlias? = aliases :=
    filterMap_map_eq_self fun shorthand h => readAlias?_directive (haliases shorthand h)
  have hlast : (properties.map (accessorLine .bracketed)).filterMap readProperty? = properties :=
    filterMap_map_eq_self fun property h => readProperty?_accessorLine (hproperties property h)
  have hnoAlias :
      (silent ++ properties.map (accessorLine .bracketed)).filterMap readAlias? = [] := by
    refine List.filterMap_eq_nil_iff.2 fun line hline => ?_
    rcases List.mem_append.1 hline with hline | hline
    · exact (hsilent line hline).1
    · obtain ⟨property, hproperty, rfl⟩ := List.mem_map.1 hline
      exact readAlias?_accessorLine (hproperties property hproperty)
  have hnoProperty : (aliases.map TypeAlias.directive).filterMap readProperty? = [] := by
    refine List.filterMap_eq_nil_iff.2 fun line hline => ?_
    obtain ⟨shorthand, hshorthand, rfl⟩ := List.mem_map.1 hline
    exact readProperty?_directive (haliases shorthand hshorthand)
  have hnoProperty' : silent.filterMap readProperty? = [] :=
    List.filterMap_eq_nil_iff.2 fun line hline => (hsilent line hline).2
  rw [decode, Text.lines_joinLines hne, hlines]
  simp only [List.filterMap_append, hfirst, hlast, hnoProperty, hnoProperty', List.nil_append]
  rw [← List.filterMap_append, hnoAlias, List.append_nil]

lemma silent_of_mem_editorSection {options : Options} {properties : List Property}
    (h : ∀ property ∈ properties, property.Worded) {line : Text}
    (hline : line ∈ (editorSection options properties).flatMap Text.lines) : Silent line := by
  obtain ⟨block, hblock, hmem⟩ := List.mem_flatMap.1 hline
  unfold editorSection at hblock
  split at hblock
  · obtain rfl := List.mem_singleton.1 hblock
    exact silent_of_mem_editor h hmem
  · cases hblock

/-- Decoding undoes generating. -/
lemma decode_generate {options : Options} {d : Declarations} (hd : d.Worded)
    (hne : ¬ d.isEmpty) (hmode : options.mode ≠ .editor) (hstyle : options.tagStyle = .bracketed) :
    ∃ code, generate options d = .ok code ∧ decode code = (d.aliases, d.sortedProperties) := by
  by_cases hempty : d.properties = []
  · have hsorted : d.sortedProperties = [] := sortProperties_eq_nil_iff.2 hempty
    have haliases : d.aliases ≠ [] := by simpa [Declarations.isEmpty, hempty] using hne
    have hsection : aliasSection d ≠ [] := by simp [aliasSection, haliases]
    have hlines : (aliasSection d).flatMap Text.lines = d.aliases.map TypeAlias.directive ++
        ([] ++ [].map (accessorLine .bracketed)) := by
      simp [lines_aliasSection hd.aliases]
    rw [hsorted]
    exact ⟨_, generate_of_no_properties options hempty,
      decode_joinLines hsection hlines hd.aliases (by simp) (by simp)⟩
  · have hsorted : d.sortedProperties ≠ [] := mt sortProperties_eq_nil_iff.1 hempty
    have hworded : ∀ property ∈ d.sortedProperties, property.Worded := fun property h =>
      hd.properties property ((sortProperties_perm _).mem_iff.1 h)
    have haccessors := Text.lines_joinLines_map hsorted fun property h =>
      lf_notMem_accessorLine (hworded property h) .bracketed
    have hruntime : runtimeSection options d.sortedProperties =
        [Text.joinLines (d.sortedProperties.map (accessorLine .bracketed))] := by
      simp [runtimeSection, OutputMode.includesRuntime, hmode, hstyle]
    have hlines : (aliasSection d ++ (editorSection options d.sortedProperties ++
        runtimeSection options d.sortedProperties)).flatMap Text.lines =
          d.aliases.map TypeAlias.directive ++
            ((editorSection options d.sortedProperties).flatMap Text.lines ++
              d.sortedProperties.map (accessorLine .bracketed)) := by
      rw [List.flatMap_append, lines_aliasSection hd.aliases, List.flatMap_append, hruntime,
        List.flatMap_singleton, haccessors]
    exact ⟨_, generate_of_properties options hempty, decode_joinLines (by simp [hruntime]) hlines
      hd.aliases (fun _ => silent_of_mem_editorSection hworded) hworded⟩

/-- What is generated with tagged accessors can be decoded, so that inputs with the same code have
the same aliases and, category by category, the same properties. -/
theorem run_decodable (options : Options) (hmode : options.mode ≠ .editor)
    (hstyle : options.tagStyle = .bracketed) {input other : ByteArray} {d e : Declarations}
    (hd : parseDeclarations input = .ok d) (he : parseDeclarations other = .ok e)
    (hdne : ¬ d.isEmpty) (hene : ¬ e.isEmpty) :
    (∃ code, run options input = .ok (some code) ∧
        decode code = (d.aliases, d.sortedProperties)) ∧
      (run options input = run options other → d.aliases = e.aliases ∧
        ∀ category, d.properties.filter (·.category = category) =
          e.properties.filter (·.category = category)) := by
  have hrun {input : ByteArray} {d : Declarations} (hd : parseDeclarations input = .ok d)
      (hne : ¬ d.isEmpty) : ∃ code, run options input = .ok (some code) ∧
        decode code = (d.aliases, d.sortedProperties) := by
    obtain ⟨code, hcode, hdecode⟩ :=
      decode_generate (worded_of_parseDeclarations hd) hne hmode hstyle
    have hempty : d.isEmpty = false := by simpa using hne
    refine ⟨code, ?_, hdecode⟩
    rw [run, hd]
    show (if d.isEmpty then pure none else some <$> generate options d) = Except.ok (some code)
    rw [hempty, hcode]
    rfl
  obtain ⟨code, hcode, hdecode⟩ := hrun hd hdne
  obtain ⟨code', hcode', hdecode'⟩ := hrun he hene
  refine ⟨⟨code, hcode, hdecode⟩, fun hsame => ?_⟩
  rw [hcode, hcode'] at hsame
  cases hsame
  obtain ⟨haliases, hsorted⟩ := Prod.ext_iff.1 (hdecode.symm.trans hdecode')
  refine ⟨haliases, fun category => ?_⟩
  have hfilter := congrArg (List.filter fun p : Property => p.category = category) hsorted
  simpa only [Declarations.sortedProperties, filter_sortProperties] using hfilter

/-- An alias in front of a property or behind it. -/
theorem run_decodable_reordered :
    (∃ code, run ⟨.both, .bracketed⟩ (Text.encode "i float a\nu V float3") = .ok (some code) ∧
      decode code = ([⟨['V'], "float3"⟩], [⟨.input, "float", ['a'], none⟩])) ∧
    run ⟨.both, .bracketed⟩ (Text.encode "i float a\nu V float3") =
      run ⟨.both, .bracketed⟩ (Text.encode "u V float3\ni float a") := by
  have hd : parseDeclarations (Text.encode "i float a\nu V float3") =
      .ok ⟨[⟨['V'], "float3"⟩], [⟨.input, "float", ['a'], none⟩]⟩ := by decide +kernel
  have he : parseDeclarations (Text.encode "u V float3\ni float a") =
      .ok ⟨[⟨['V'], "float3"⟩], [⟨.input, "float", ['a'], none⟩]⟩ := by decide +kernel
  obtain ⟨hdecoded, -⟩ :=
    run_decodable ⟨.both, .bracketed⟩ (by decide) rfl hd he (by decide) (by decide)
  rw [Declarations.sortedProperties, sortProperties, List.mergeSort_singleton] at hdecoded
  exact ⟨hdecoded, by rw [run, run, hd, he]⟩

end NodeKit.Boilerplate
