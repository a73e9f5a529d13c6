import NodeKit.Proofs.Declaration.Basic
import NodeKit.Proofs.Declaration.Grammar
import NodeKit.Proofs.Text.Utf8

/-!
# Printed declarations

One list of declarations can be printed in many ways. White space parts the words of a
line and may stand around them, words may follow that say nothing, a setting has many
codes, and every line ends in one of two terminators, or in none if it is the last.
Reading undoes all of this (`parseDeclarations_printed`).
-/
namespace NodeKit

/-! ## Words on a line -/

namespace Text

/-- White space that stays on its line. -/
def IsGap (t : Text) : Prop := ∀ c ∈ t, c ∈ whiteSpace ∧ c ≠ '\n'

lemma isGap_iff {t : Text} : (t.all fun c => isBlank c && c != '\n') = true ↔ IsGap t := by
  simp [IsGap, List.all_eq_true, isBlank_iff_mem_whiteSpace]

instance (t : Text) : Decidable (IsGap t) := decidable_of_iff _ isGap_iff

/-- Words with white space behind each of them, and with some of it between two words. -/
inductive Spaced : List Text → Text → Prop
  | nil : Spaced [] []
  | cons {word gap rest : Text} {words : List Text} (hne : word ≠ [])
    (hword : ∀ c ∈ word, c ∉ whiteSpace) (hgap : IsGap gap) (hapart : words ≠ [] → gap ≠ [])
    (hrest : Spaced words rest) : Spaced (word :: words) (word ++ (gap ++ rest))

/-- A line with the given words. White space may also stand in front of the first one. -/
def IsLineOf (words : List Text) (line : Text) : Prop :=
  ∃ gap rest, line = gap ++ rest ∧ IsGap gap ∧ Spaced words rest

variable {words : List Text} {line gap rest : Text}

lemma IsGap.isBlank (h : IsGap gap) : ∀ c ∈ gap, Text.isBlank c :=
  fun c hc => isBlank_iff_mem_whiteSpace.2 (h c hc).1

lemma isWord_of_notMem_whiteSpace {word : Text} (hne : word ≠ [])
    (hword : ∀ c ∈ word, c ∉ whiteSpace) : IsWord word :=
  ⟨hne, fun c hc hblank => hword c hc (isBlank_iff_mem_whiteSpace.1 hblank)⟩

lemma tokens_gap_append (h : IsGap gap) (rest : Text) : tokens (gap ++ rest) = tokens rest := by
  induction gap with
  | nil => rfl
  | cons c gap ih =>
    obtain ⟨hc, hgap⟩ := List.forall_mem_cons.1 h.isBlank
    have hrest : IsGap gap := fun d hd => h d (List.mem_cons_of_mem c hd)
    rw [List.cons_append, tokens_blank hc, ih hrest]

lemma Spaced.tokens_eq (h : Spaced words rest) : tokens rest = words := by
  induction h with
  | nil => rfl
  | @cons word gap rest words hne hword hgap hapart hrest ih =>
    have hhead : ∀ c ∈ (gap ++ rest).head?, Text.isBlank c := by
      intro c hc
      cases gap with
      | nil =>
        have hwords : words = [] := by
          by_contra hmore
          exact hapart hmore rfl
        subst hwords
        cases hrest
        cases hc
      | cons d gap =>
        obtain rfl : d = c := Option.some.inj hc
        exact hgap.isBlank d List.mem_cons_self
    rw [tokens_append (isWord_of_notMem_whiteSpace hne hword) hhead, tokens_gap_append hgap, ih]

/-- A line has the words that were put on it. -/
lemma IsLineOf.tokens_eq (h : IsLineOf words line) : tokens line = words := by
  obtain ⟨gap, rest, rfl, hgap, hrest⟩ := h
  rw [tokens_gap_append hgap, hrest.tokens_eq]

lemma Spaced.lf_notMem (h : Spaced words rest) : '\n' ∉ rest := by
  induction h with
  | nil => simp
  | cons _ hword hgap _ _ ih =>
    have hfeed : '\n' ∈ whiteSpace := by decide
    simp only [List.mem_append, not_or]
    exact ⟨fun hmem => hword _ hmem hfeed, fun hmem => (hgap _ hmem).2 rfl, ih⟩

lemma IsLineOf.lf_notMem (h : IsLineOf words line) : '\n' ∉ line := by
  obtain ⟨gap, rest, rfl, hgap, hrest⟩ := h
  rw [List.mem_append, not_or]
  exact ⟨fun hmem => (hgap _ hmem).2 rfl, hrest.lf_notMem⟩

lemma tokens_append_return (line : Text) : tokens (line ++ ['\r']) = tokens line := by
  rw [tokens_append_cons (by decide), tokens_nil, List.append_nil]

/-- The carriage return of a terminator is no part of a word. -/
lemma tokens_withoutReturn (line : Text) :
    tokens (Line.withoutReturn Breaks.text line) = tokens line := by
  unfold Line.withoutReturn
  split
  · next hlast =>
    obtain ⟨front, rfl⟩ := List.getLast?_eq_some_iff.1 hlast
    rw [List.dropLast_concat]
    exact (tokens_append_return front).symm
  · rfl

lemma Spaced.word {word : Text} (hword : IsWord word) (hgap : IsGap gap)
    (hapart : words ≠ [] → gap ≠ []) (hrest : Spaced words rest) :
    Spaced (word :: words) (word ++ (gap ++ rest)) :=
  .cons hword.ne_nil
    (fun c hc hmem => hword.not_isBlank c hc (isBlank_iff_mem_whiteSpace.2 hmem)) hgap hapart hrest

/-- Words can be put on a line with one space between neighbours. -/
lemma spaced_joinWith (h : ∀ word ∈ words, IsWord word) :
    Spaced words (joinWith [' '] words) := by
  induction words with
  | nil => exact .nil
  | cons word words ih =>
    obtain ⟨hword, hrest⟩ := List.forall_mem_cons.1 h
    by_cases hwords : words = []
    · subst hwords
      have hsingle : joinWith [' '] [word] = word ++ ([] ++ []) := by simp [joinWith]
      rw [hsingle]
      exact .word hword (by decide) (by simp) .nil
    · rw [joinWith_cons_of_ne_nil _ _ hwords, List.append_assoc]
      exact .word hword (by decide) (by simp) (ih hrest)

lemma isLineOf_joinWith (h : ∀ word ∈ words, IsWord word) :
    IsLineOf words (joinWith [' '] words) :=
  ⟨[], joinWith [' '] words, rfl, by decide, spaced_joinWith h⟩

end Text

/-! ## Entries -/

/-- The codes that a category can be declared under. The code of an alias is none of them. -/
inductive Category.HasCode : Category → Text → Prop
  | input : HasCode .input ['i']
  | output : HasCode .output ['o']
  | setting {code : Text} (hinput : code ≠ ['i']) (houtput : code ≠ ['o']) (halias : code ≠ ['u']) :
    HasCode .setting code

/-- The words that an entry can be printed as. Behind the target of an alias and behind a default
value any words may follow. -/
inductive Entry.PrintedAs : Entry → List Text → Prop
  | shorthand (name target : Text) (extra : List Text) :
    PrintedAs (.shorthand ⟨name, target⟩) (['u'] :: name :: target :: extra)
  | bare {category : Category} {code : Text} (hcode : category.HasCode code)
    (typeName identifier : Text) :
    PrintedAs (.property ⟨category, typeName, identifier, none⟩) [code, typeName, identifier]
  | assigned {category : Category} {code : Text} (hcode : category.HasCode code)
    (typeName identifier value : Text) (extra : List Text) :
    PrintedAs (.property ⟨category, typeName, identifier, some value⟩)
      (code :: typeName :: identifier :: value :: extra)

/-- A text with one line for each entry. Only the last line can be unterminated. -/
inductive Printed : List Entry → Text → Prop
  | nil : Printed [] []
  | cons {entry : Entry} {words : List Text} {line rest : Text} {ending : Ending}
    {entries : List Entry} (hwords : entry.PrintedAs words) (hline : Text.IsLineOf words line)
    (hlast : ending = .unterminated → entries = []) (hrest : Printed entries rest) :
    Printed (entry :: entries) (line ++ (ending.units Breaks.text ++ rest))

/-- Every text of the entry is a word. -/
def Entry.Worded : Entry → Prop
  | .shorthand s => s.Worded
  | .property p => p.Worded

variable {entry : Entry} {words : List Text} {entries : List Entry} {t : Text}

lemma Category.HasCode.ofCode_eq {category : Category} {code : Text}
    (h : category.HasCode code) : Category.ofCode code = category ∧ code ≠ ['u'] := by
  cases h with
  | input => exact ⟨rfl, by decide⟩
  | output => exact ⟨rfl, by decide⟩
  | setting hinput houtput halias => exact ⟨by simp [ofCode, hinput, houtput], halias⟩

/-- The words of an entry declare it. -/
lemma Entry.PrintedAs.ofWords?_eq (h : entry.PrintedAs words) :
    Entry.ofWords? words = some entry := by
  cases h with
  | shorthand name target extra => rfl
  | bare hcode typeName identifier =>
    obtain ⟨rfl, hne⟩ := hcode.ofCode_eq
    simp [Entry.ofWords?, hne]
  | assigned hcode typeName identifier value extra =>
    obtain ⟨rfl, hne⟩ := hcode.ofCode_eq
    simp [Entry.ofWords?, hne]

/-- Every entry that is made of words is printed somehow. -/
lemma Entry.exists_printedAs (h : entry.Worded) :
    ∃ words, entry.PrintedAs words ∧ ∀ word ∈ words, Text.IsWord word := by
  cases entry with
  | shorthand shorthand =>
    refine ⟨_, .shorthand shorthand.name shorthand.target [], ?_⟩
    have hcode : Text.IsWord ['u'] := by decide
    simp [hcode, h.name, h.target]
  | property property =>
    obtain ⟨category, typeName, identifier, defaultValue⟩ := property
    obtain ⟨htype, hidentifier, hdefault⟩ := h
    obtain ⟨code, hcode, hword⟩ : ∃ code, category.HasCode code ∧ Text.IsWord code := by
      cases category with
      | input => exact ⟨_, .input, by decide⟩
      | output => exact ⟨_, .output, by decide⟩
      | setting => exact ⟨['s'], .setting (by decide) (by decide) (by decide), by decide⟩
    cases defaultValue with
    | none =>
      refine ⟨_, .bare hcode typeName identifier, ?_⟩
      simp [hword, htype, hidentifier]
    | some value =>
      refine ⟨_, .assigned hcode typeName identifier value [], ?_⟩
      simp [hword, htype, hidentifier, hdefault value rfl]

/-! ## Whole texts -/

/-- Cut into lines, a printed text gives the entries back one by one. -/
lemma Printed.holds (h : Printed entries t) :
    Holds ((Line.cutAtFeeds Breaks.text t).map Text.tokens) entries := by
  induction h with
  | nil => exact .nil
  | @cons entry words line rest ending entries hwords hline hlast hrest ih =>
    have hentry : Entry.ofWords? (Text.tokens line) = some entry := by
      rw [hline.tokens_eq, hwords.ofWords?_eq]
    -- what stands in front of the line feed, with or without a carriage return at its end
    have hterminated {front : Text} (hfront : Text.tokens front = Text.tokens line)
        (hfeed : '\n' ∉ front) :
        Holds ((Line.cutAtFeeds Breaks.text (front ++ '\n' :: rest)).map Text.tokens)
          (entry :: entries) := by
      have hcut : Line.cutAtFeeds Breaks.text (front ++ '\n' :: rest) = _ :=
        Line.cutAtFeeds_append hfeed rest
      rw [hcut, List.map_cons, Text.tokens_withoutReturn, hfront]
      exact .cons hentry ih
    cases ending with
    | unterminated =>
      obtain rfl := hlast rfl
      cases hrest
      have hne : line ≠ [] := by
        rintro rfl
        cases hentry
      rw [Ending.units, List.append_nil, List.append_nil,
        Line.cutAtFeeds_of_notMem hline.lf_notMem hne]
      exact .cons hentry .nil
    | lf => exact hterminated rfl hline.lf_notMem
    | crlf =>
      have hfeed : '\n' ∉ line ++ ['\r'] := by simp [hline.lf_notMem]
      have hreturn := hterminated (Text.tokens_append_return line) hfeed
      rwa [List.append_assoc] at hreturn

/-- A printed text declares the entries that it was printed for. -/
lemma Printed.declares (h : Printed entries t) : Declares (Text.encode t) entries := by
  refine ⟨Line.cutAtFeeds Breaks.text t, ?_, h.holds⟩
  rw [relevantLines, Text.toList_data_encode, Text.cutAtFeeds_bytes, untilBlank,
    List.takeWhile_eq_self_iff]
  intro bytes hbytes
  obtain ⟨line, hline, rfl⟩ := List.mem_map.1 hbytes
  have hlength := h.holds.length_of_mem _ (List.mem_map_of_mem hline)
  rw [decide_eq_true_eq]
  rintro ⟨other, hother, hnone⟩
  rw [Text.bytes_injective hother, hnone] at hlength
  cases hlength

lemma Printed.worded (h : Printed entries t) : ∀ entry ∈ entries, entry.Worded := by
  induction h with
  | nil => simp
  | @cons entry words line rest ending entries hwords hline hlast hrest ih =>
    refine List.forall_mem_cons.2 ⟨?_, ih⟩
    have hall : ∀ word ∈ words, Text.IsWord word := by
      intro word hword
      rw [← hline.tokens_eq, ← Text.words_eq_tokens] at hword
      exact Text.isWord_of_mem_words hword
    obtain ⟨hshorthand, hproperty⟩ := Entry.worded_of_ofWords? hall hwords.ofWords?_eq
    cases entry with
    | shorthand shorthand => exact hshorthand shorthand rfl
    | property property => exact hproperty property rfl

lemma exists_printed (h : ∀ entry ∈ entries, entry.Worded) : ∃ t, Printed entries t := by
  induction entries with
  | nil => exact ⟨[], .nil⟩
  | cons entry entries ih =>
    obtain ⟨hentry, hrest⟩ := List.forall_mem_cons.1 h
    obtain ⟨rest, hrest⟩ := ih hrest
    obtain ⟨words, hwords, hall⟩ := Entry.exists_printedAs hentry
    exact ⟨_, @Printed.cons _ _ _ _ .lf _ hwords (Text.isLineOf_joinWith hall) (by simp) hrest⟩

/-- Reading a printed text gives back the aliases and the properties that it was printed for, each
in their order, however it was laid out. What is made of words can be printed, and nothing else. -/
theorem parseDeclarations_printed (entries : List Entry) :
    (∀ t, Printed entries t → parseDeclarations (Text.encode t) =
      .ok ⟨entries.filterMap Entry.shorthand?, entries.filterMap Entry.property?⟩) ∧
    ((∃ t, Printed entries t) ↔ ∀ entry ∈ entries, entry.Worded) :=
  ⟨fun _ h => parseDeclarations_of_declares h.declares,
    fun ⟨_, h⟩ => h.worded, exists_printed⟩

/-- Three lines with three terminators, with an ideographic space, with a carriage return between
two words, and with a word too many. -/
theorem parseDeclarations_printed_threeLines :
    let t : Text := "\tu\u3000V\rfloat3 x\r\nin  int Count 3\ni float a \r"
    let entries : List Entry := [.shorthand ⟨['V'], "float3"⟩,
      .property ⟨.setting, "int", "Count", some ['3']⟩, .property ⟨.input, "float", ['a'], none⟩]
    Printed entries t ∧ parseDeclarations (Text.encode t) = .ok ⟨[⟨['V'], "float3"⟩],
      [⟨.setting, "int", "Count", some ['3']⟩, ⟨.input, "float", ['a'], none⟩]⟩ := by
  intro t entries
  have hfirst : Text.Spaced [['u'], ['V'], "float3", ['x']] _ :=
    .word (by decide) (show Text.IsGap ['\u3000'] by decide) (by simp)
      (.word (by decide) (show Text.IsGap ['\r'] by decide) (by simp)
        (.word (by decide) (show Text.IsGap [' '] by decide) (by simp)
          (.word (by decide) (show Text.IsGap [] by decide) (by simp) .nil)))
  have hsecond : Text.Spaced ["in", "int", "Count", ['3']] _ :=
    .word (by decide) (show Text.IsGap [' ', ' '] by decide) (by simp)
      (.word (by decide) (show Text.IsGap [' '] by decide) (by simp)
        (.word (by decide) (show Text.IsGap [' '] by decide) (by simp)
          (.word (by decide) (show Text.IsGap [] by decide) (by simp) .nil)))
  have hthird : Text.Spaced [['i'], "float", ['a']] _ :=
    .word (by decide) (show Text.IsGap [' '] by decide) (by simp)
      (.word (by decide) (show Text.IsGap [' '] by decide) (by simp)
        (.word (by decide) (show Text.IsGap [' ', '\r'] by decide) (by simp) .nil))
  have hcode : Category.setting.HasCode "in" := .setting (by decide) (by decide) (by decide)
  have hprinted : Printed entries _ :=
    @Printed.cons _ _ _ _ .crlf _ (.shorthand _ _ [['x']]) ⟨['\t'], _, rfl, by decide, hfirst⟩
      (by simp)
      (@Printed.cons _ _ _ _ .lf _ (.assigned hcode _ _ _ []) ⟨[], _, rfl, by decide, hsecond⟩
        (by simp)
        (@Printed.cons _ _ _ _ .unterminated _ (.bare .input _ _) ⟨[], _, rfl, by decide, hthird⟩
          (by simp) .nil))
  have ht : Printed entries t := hprinted
  exact ⟨ht, (parseDeclarations_printed entries).1 t ht⟩

end NodeKit
