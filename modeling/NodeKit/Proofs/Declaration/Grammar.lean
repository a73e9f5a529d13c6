import NodeKit.Declaration.Reading
import NodeKit.Proofs.Text.Lines
import NodeKit.Proofs.Text.Tokens
import NodeKit.Proofs.Text.Utf8
import Mathlib.Data.List.Forall2

/-!
# The grammar of declarations

What an input declares, said without reading it line by line. The lines in front of
the first blank one are the relevant ones. An input is read exactly when each of
them is UTF-8 with three words or more, it declares what their words say, and
otherwise the first line that is not like that is reported
(`parseDeclarations_grammar`).
-/
namespace NodeKit

/-! ## Lines -/

/-- UTF-8 without a word. -/
def IsBlankLine (line : List UInt8) : Prop := ∃ t, line = Text.bytes t ∧ Text.tokens t = []

/-- UTF-8 with the words of a declaration. -/
def IsDeclarationLine (line : List UInt8) : Prop :=
  ∃ t, line = Text.bytes t ∧ 3 ≤ (Text.tokens t).length

/-- What is wrong with a line that is neither blank nor a declaration. -/
inductive Faulty (number : Nat) (line : List UInt8) : Error → Prop
  | notUtf8 (h : ∀ t, line ≠ Text.bytes t) : Faulty number line (.read .notUtf8)
  | tooShort {t : Text} (h : line = Text.bytes t) (hlength : (Text.tokens t).length < 3) :
    Faulty number line (.malformedLine number t 3 (Text.tokens t).length)

lemma eq_bytes_iff {line : List UInt8} {t : Text} :
    line = Text.bytes t ↔ Text.decode? line.toByteArray = some t := by
  constructor
  · rintro rfl
    exact Text.decode?_bytes t
  · exact fun h => (Text.bytes_of_decode? h).symm

lemma isBlankLine_iff {line : List UInt8} : IsBlankLine line ↔
    (Text.decode? line.toByteArray).any (fun t => (Text.tokens t).isEmpty) = true := by
  simp [IsBlankLine, eq_bytes_iff, Option.any_eq_true]

instance (line : List UInt8) : Decidable (IsBlankLine line) := decidable_of_iff' _ isBlankLine_iff

/-- The lines in front of the first blank one. -/
def untilBlank (lines : List (List UInt8)) : List (List UInt8) :=
  lines.takeWhile (¬ IsBlankLine ·)

lemma untilBlank_blank {line : List UInt8} (h : IsBlankLine line) (lines : List (List UInt8)) :
    untilBlank (line :: lines) = [] := by
  simp [untilBlank, h]

lemma untilBlank_cons {line : List UInt8} (h : ¬ IsBlankLine line) (lines : List (List UInt8)) :
    untilBlank (line :: lines) = line :: untilBlank lines := by
  simp [untilBlank, h]

/-- The lines of an input that count. -/
def relevantLines (input : ByteArray) : List (List UInt8) :=
  untilBlank (Line.cutAtFeeds Breaks.bytes input.data.toList)

lemma Entry.exists_of_length {words : List Text} (h : 3 ≤ words.length) :
    ∃ entry, ofWords? words = some entry := by
  match words, h with
  | code :: second :: third :: rest, _ => exact ⟨_, rfl⟩

lemma Entry.length_of_ofWords? {words : List Text} {entry : Entry}
    (h : ofWords? words = some entry) : 3 ≤ words.length := by
  unfold ofWords? at h
  split at h
  · simp
  · cases h

namespace LineReading

variable {line : List UInt8} {t : Text}

lemma ofBytes_undecodable (h : ∀ t, line ≠ Text.bytes t) : ofBytes line = .undecodable := by
  have hnone : Text.decode? line.toByteArray = none :=
    Option.eq_none_iff_forall_ne_some.2 fun t ht => h t (eq_bytes_iff.2 ht)
  rw [ofBytes, hnone]

lemma ofBytes_bytes (t : Text) : ofBytes (Text.bytes t) = ofText t := by
  rw [ofBytes, Text.decode?_bytes]

lemma ofText_blank (h : Text.tokens t = []) : ofText t = .blank t := by
  rw [ofText, Text.words_eq_tokens, h]

lemma ofText_entry {entry : Entry} (h : Entry.ofWords? (Text.tokens t) = some entry) :
    ofText t = .entry t entry := by
  rw [ofText, Text.words_eq_tokens]
  split
  · next hnil => rw [hnil] at h; cases h
  · rw [h]

lemma ofText_malformed (hne : Text.tokens t ≠ []) (h : (Text.tokens t).length < 3) :
    ofText t = .malformed t (Text.tokens t).length := by
  have hnone : Entry.ofWords? (Text.tokens t) = none := by
    refine Option.eq_none_iff_forall_ne_some.2 fun entry hentry => ?_
    have hlength := Entry.length_of_ofWords? hentry
    omega
  rw [ofText, Text.words_eq_tokens]
  split
  · next hnil => exact absurd hnil hne
  · rw [hnone]

end LineReading

/-! ## What the words of a line declare -/

/-- The words of an alias line, from the second on. -/
def DeclaresAlias (words : List Text) (shorthand : TypeAlias) : Prop :=
  words[1]? = some shorthand.name ∧ words[2]? = some shorthand.target

/-- The words of a property line. Words behind the fourth say nothing. -/
structure DeclaresProperty (words : List Text) (property : Property) : Prop where
  input : property.category = .input ↔ words[0]? = some ['i']
  output : property.category = .output ↔ words[0]? = some ['o']
  typeName : words[1]? = some property.typeName
  identifier : words[2]? = some property.identifier
  defaultValue : words[3]? = property.defaultValue

/-- Lines, each given by its words, and what they declare in their order. -/
structure DeclaredBy (lines : List (List Text)) (d : Declarations) : Prop where
  aliases : List.Forall₂ DeclaresAlias (lines.filter (·[0]? = some ['u'])) d.aliases
  properties : List.Forall₂ DeclaresProperty (lines.filter (·[0]? ≠ some ['u'])) d.properties

lemma rightUnique_declaresAlias : Relator.RightUnique DeclaresAlias := by
  rintro words ⟨name, target⟩ ⟨name', target'⟩ ⟨hname, htarget⟩ ⟨hname', htarget'⟩
  simp_all

lemma rightUnique_declaresProperty : Relator.RightUnique DeclaresProperty := by
  intro words p q hp hq
  have hcategory : p.category = q.category := by
    have hinput := hp.input.trans hq.input.symm
    have houtput := hp.output.trans hq.output.symm
    cases hcp : p.category <;> cases hcq : q.category <;> simp_all
  have htype := Option.some.inj (hp.typeName.symm.trans hq.typeName)
  have hidentifier := Option.some.inj (hp.identifier.symm.trans hq.identifier)
  have hdefault := hp.defaultValue.symm.trans hq.defaultValue
  cases p
  cases q
  simp_all

lemma DeclaredBy.unique {lines : List (List Text)} {d d' : Declarations} (h : DeclaredBy lines d)
    (h' : DeclaredBy lines d') : d = d' := by
  have haliases := rightUnique_declaresAlias.forall₂ h.aliases h'.aliases
  have hproperties := rightUnique_declaresProperty.forall₂ h.properties h'.properties
  cases d
  cases d'
  simp_all

/-- The first word tells the two kinds of line apart. -/
lemma Entry.declares_of_ofWords? {words : List Text} {entry : Entry}
    (h : ofWords? words = some entry) :
    (words[0]? = some ['u'] ∧ ∃ shorthand, entry = .shorthand shorthand ∧
        DeclaresAlias words shorthand) ∨
      (words[0]? ≠ some ['u'] ∧ ∃ property, entry = .property property ∧
        DeclaresProperty words property) := by
  match words, h with
  | code :: second :: third :: rest, h =>
    obtain rfl := Option.some.inj h
    by_cases hcode : code = ['u']
    · left
      refine ⟨by simp [hcode], ⟨second, third⟩, by simp [hcode], rfl, rfl⟩
    · right
      refine ⟨by simpa using hcode, ⟨Category.ofCode code, second, third, rest.head?⟩,
        by simp [hcode], ?_, ?_, rfl, rfl, ?_⟩
      · by_cases hi : code = ['i'] <;> by_cases ho : code = ['o'] <;>
          simp [Category.ofCode, hi, ho]
      · by_cases hi : code = ['i'] <;> by_cases ho : code = ['o'] <;>
          simp_all [Category.ofCode]
      · cases rest <;> rfl

/-- The declarations in a list of entries. -/
def Declarations.ofEntries (entries : List Entry) : Declarations :=
  ⟨entries.filterMap Entry.shorthand?, entries.filterMap Entry.property?⟩

lemma Declarations.ofEntries_shorthand (shorthand : TypeAlias) (entries : List Entry) :
    ofEntries (.shorthand shorthand :: entries) =
      ⟨shorthand :: (ofEntries entries).aliases, (ofEntries entries).properties⟩ := rfl

lemma Declarations.ofEntries_property (property : Property) (entries : List Entry) :
    ofEntries (.property property :: entries) =
      ⟨(ofEntries entries).aliases, property :: (ofEntries entries).properties⟩ := rfl

/-- Lines and the entries they hold. -/
abbrev Holds (lines : List (List Text)) (entries : List Entry) : Prop :=
  List.Forall₂ (fun words entry => Entry.ofWords? words = some entry) lines entries

lemma Holds.length_of_mem {lines : List (List Text)} {entries : List Entry}
    (h : Holds lines entries) : ∀ words ∈ lines, 3 ≤ words.length := by
  induction h with
  | nil => simp
  | cons hentry _ ih => exact List.forall_mem_cons.2 ⟨Entry.length_of_ofWords? hentry, ih⟩

/-- An input and what its relevant lines declare, one after the other. -/
def Declares (input : ByteArray) (entries : List Entry) : Prop :=
  ∃ texts : List Text, relevantLines input = texts.map Text.bytes ∧
    Holds (texts.map Text.tokens) entries

lemma declaredBy_ofEntries {lines : List (List Text)} {entries : List Entry}
    (h : Holds lines entries) : DeclaredBy lines (Declarations.ofEntries entries) := by
  induction h with
  | nil => exact ⟨.nil, .nil⟩
  | @cons words entry lines entries hentry _ ih =>
    obtain ⟨hu, shorthand, rfl, hdeclares⟩ | ⟨hu, property, rfl, hdeclares⟩ :=
      Entry.declares_of_ofWords? hentry
    · rw [Declarations.ofEntries_shorthand]
      refine ⟨?_, ?_⟩
      · simpa [hu] using ⟨hdeclares, ih.aliases⟩
      · simpa [hu] using ih.properties
    · rw [Declarations.ofEntries_property]
      refine ⟨?_, ?_⟩
      · simpa [hu] using ih.aliases
      · rw [List.filter_cons_of_pos (by simpa using hu)]
        exact .cons hdeclares ih.properties

/-! ## Reading the lines -/

/-- What is read off lines, up to and including the first that is no declaration. -/
def readingsOf (lines : List (List UInt8)) : List LineReading :=
  throughLast (lines.map LineReading.ofBytes)

lemma readLines_eq (input : ByteArray) :
    readLines input = readingsOf (Line.cutAtFeeds Breaks.bytes input.data.toList) := by
  rw [readLines, inputLines, Line.map_body_split (by decide), readingsOf]

lemma readingsOf_blank {line : List UInt8} (h : IsBlankLine line) (lines : List (List UInt8)) :
    ∃ t, readingsOf (line :: lines) = [.blank t] := by
  obtain ⟨t, rfl, ht⟩ := h
  refine ⟨t, ?_⟩
  rw [readingsOf, List.map_cons, LineReading.ofBytes_bytes, LineReading.ofText_blank ht, throughLast]
  rintro _ _ ⟨⟩

lemma readingsOf_entry {t : Text} {entry : Entry}
    (h : Entry.ofWords? (Text.tokens t) = some entry) (lines : List (List UInt8)) :
    readingsOf (Text.bytes t :: lines) = .entry t entry :: readingsOf lines := by
  rw [readingsOf, List.map_cons, LineReading.ofBytes_bytes, LineReading.ofText_entry h, throughLast,
    readingsOf]

/-- Lines of which each one in front of the first blank one is a declaration. -/
lemma readingsOf_declarations {lines : List (List UInt8)} {texts : List Text}
    (htexts : untilBlank lines = texts.map Text.bytes)
    (hlength : ∀ t ∈ texts, 3 ≤ (Text.tokens t).length) (number : Nat) :
    firstError? number (readingsOf lines) = none ∧
      Holds (texts.map Text.tokens) ((readingsOf lines).filterMap LineReading.entry?) := by
  induction lines generalizing texts number with
  | nil =>
    obtain rfl : texts = [] := by simpa [untilBlank] using htexts
    exact ⟨rfl, .nil⟩
  | cons line lines ih =>
    by_cases hblank : IsBlankLine line
    · obtain ⟨t, hreading⟩ := readingsOf_blank hblank lines
      obtain rfl : texts = [] := by simpa [untilBlank, hblank] using htexts
      rw [hreading]
      exact ⟨rfl, .nil⟩
    · rw [untilBlank_cons hblank] at htexts
      obtain ⟨t, texts, rfl, rfl, hrest⟩ := List.map_eq_cons_iff.1 htexts.symm
      obtain ⟨ht, htexts'⟩ := List.forall_mem_cons.1 hlength
      obtain ⟨entry, hentry⟩ := Entry.exists_of_length ht
      obtain ⟨hnone, hholds⟩ := ih hrest.symm htexts' (number + 1)
      rw [readingsOf_entry hentry]
      exact ⟨by simpa [firstError?, LineReading.error?] using hnone, .cons hentry hholds⟩

/-- A faulty line is the last one looked at. -/
lemma firstError?_faulty {line : List UInt8} {number : Nat} {e : Error} (h : Faulty number line e)
    (hblank : ¬ IsBlankLine line) (lines : List (List UInt8)) :
    firstError? number (readingsOf (line :: lines)) = some e := by
  cases h with
  | notUtf8 h =>
    rw [readingsOf, List.map_cons, LineReading.ofBytes_undecodable h, throughLast]
    · rfl
    · rintro _ _ ⟨⟩
  | @tooShort t h hlength =>
    have hne : Text.tokens t ≠ [] := fun hnil => hblank ⟨t, h, hnil⟩
    rw [h, readingsOf, List.map_cons, LineReading.ofBytes_bytes,
      LineReading.ofText_malformed hne hlength, throughLast]
    · rfl
    · rintro _ _ ⟨⟩

/-- Lines with one in front of the first blank one that is no declaration. -/
lemma readingsOf_faulty {lines good rest : List (List UInt8)} {bad : List UInt8} {number : Nat}
    {e : Error} (hlines : untilBlank lines = good ++ bad :: rest)
    (hgood : ∀ line ∈ good, IsDeclarationLine line) (hbad : Faulty (number + good.length) bad e) :
    firstError? number (readingsOf lines) = some e := by
  induction lines generalizing good number with
  | nil => simp [untilBlank] at hlines
  | cons line lines ih =>
    by_cases hblank : IsBlankLine line
    · simp [untilBlank_blank hblank] at hlines
    · rw [untilBlank_cons hblank] at hlines
      cases good with
      | nil =>
        obtain ⟨rfl, -⟩ := List.cons.inj hlines
        exact firstError?_faulty hbad hblank lines
      | cons first good =>
        obtain ⟨rfl, hrest⟩ := List.cons.inj hlines
        obtain ⟨⟨t, rfl, ht⟩, hgood'⟩ := List.forall_mem_cons.1 hgood
        obtain ⟨entry, hentry⟩ := Entry.exists_of_length ht
        have hlater : firstError? (number + 1) (readingsOf lines) = some e := by
          refine ih hrest hgood' ?_
          rwa [List.length_cons, ← Nat.add_assoc, Nat.add_right_comm] at hbad
        rw [readingsOf_entry hentry]
        simpa [firstError?, LineReading.error?] using hlater

/-! ## The whole input -/

lemma faulty_of_not_isDeclarationLine {line : List UInt8} (h : ¬ IsDeclarationLine line)
    (number : Nat) : ∃ e, Faulty number line e := by
  by_cases htext : ∃ t, line = Text.bytes t
  · obtain ⟨t, rfl⟩ := htext
    refine ⟨_, .tooShort rfl ?_⟩
    by_contra hlength
    exact h ⟨t, rfl, by omega⟩
  · exact ⟨_, .notUtf8 fun t ht => htext ⟨t, ht⟩⟩

lemma Faulty.not_isDeclarationLine {line : List UInt8} {number : Nat} {e : Error}
    (h : Faulty number line e) : ¬ IsDeclarationLine line := by
  rintro ⟨t, rfl, ht⟩
  cases h with
  | notUtf8 h => exact h t rfl
  | @tooShort s hs hlength =>
    rw [Text.bytes_injective hs] at ht
    omega

/-- Lines are all declarations, or there is a first one that is none. -/
lemma declarations_or_faulty (lines : List (List UInt8)) (number : Nat) :
    (∃ texts : List Text, lines = texts.map Text.bytes ∧
        ∀ t ∈ texts, 3 ≤ (Text.tokens t).length) ∨
      ∃ good bad rest e, lines = good ++ bad :: rest ∧ (∀ line ∈ good, IsDeclarationLine line) ∧
        Faulty (good.length + number) bad e := by
  induction lines generalizing number with
  | nil => exact Or.inl ⟨[], rfl, by simp⟩
  | cons line lines ih =>
    by_cases hline : IsDeclarationLine line
    · obtain ⟨texts, rfl, htexts⟩ | ⟨good, bad, rest, e, rfl, hgood, hbad⟩ := ih (number + 1)
      · obtain ⟨t, rfl, ht⟩ := hline
        exact Or.inl ⟨t :: texts, rfl, List.forall_mem_cons.2 ⟨ht, htexts⟩⟩
      · refine Or.inr ⟨line :: good, bad, rest, e, rfl, List.forall_mem_cons.2 ⟨hline, hgood⟩, ?_⟩
        rwa [List.length_cons, Nat.add_right_comm]
    · obtain ⟨e, he⟩ := faulty_of_not_isDeclarationLine hline number
      exact Or.inr ⟨[], line, lines, e, rfl, by simp, by simpa using he⟩

section

variable {input : ByteArray}

lemma parseDeclarations_of_declarations {texts : List Text}
    (htexts : relevantLines input = texts.map Text.bytes)
    (hlength : ∀ t ∈ texts, 3 ≤ (Text.tokens t).length) :
    ∃ d, parseDeclarations input = .ok d ∧ DeclaredBy (texts.map Text.tokens) d := by
  obtain ⟨hnone, hholds⟩ := readingsOf_declarations htexts hlength 1
  refine ⟨Declarations.ofEntries _, ?_, declaredBy_ofEntries hholds⟩
  rw [parseDeclarations, readLines_eq, hnone]
  rfl

lemma parseDeclarations_of_faulty {good rest : List (List UInt8)} {bad : List UInt8} {e : Error}
    (hlines : relevantLines input = good ++ bad :: rest)
    (hgood : ∀ line ∈ good, IsDeclarationLine line) (hbad : Faulty (good.length + 1) bad e) :
    parseDeclarations input = .error e := by
  rw [Nat.add_comm] at hbad
  rw [parseDeclarations, readLines_eq, readingsOf_faulty hlines hgood hbad]

/-- What an input declares line by line is what is read. -/
lemma parseDeclarations_of_declares {entries : List Entry} (h : Declares input entries) :
    parseDeclarations input = .ok (Declarations.ofEntries entries) := by
  obtain ⟨texts, htexts, hholds⟩ := h
  obtain ⟨d, hd, hdeclared⟩ := parseDeclarations_of_declarations htexts
    fun t ht => hholds.length_of_mem _ (List.mem_map_of_mem ht)
  rw [hd, hdeclared.unique (declaredBy_ofEntries hholds)]

/-- Every input that is read declares something line by line. -/
lemma exists_declares {d : Declarations} (h : parseDeclarations input = .ok d) :
    ∃ entries, Declares input entries := by
  obtain ⟨texts, htexts, hlength⟩ | ⟨good, bad, rest, e, hlines, hgood, hbad⟩ :=
    declarations_or_faulty (relevantLines input) 1
  · obtain ⟨-, hholds⟩ := readingsOf_declarations htexts hlength 1
    exact ⟨_, texts, htexts, hholds⟩
  · rw [parseDeclarations_of_faulty hlines hgood hbad] at h
    cases h

/-- Lines that do not count make no difference. -/
lemma parseDeclarations_congr {other : ByteArray} (h : relevantLines input = relevantLines other) :
    parseDeclarations input = parseDeclarations other := by
  obtain ⟨texts, htexts, hlength⟩ | ⟨good, bad, rest, e, hlines, hgood, hbad⟩ :=
    declarations_or_faulty (relevantLines input) 1
  · obtain ⟨d, hd, hdeclared⟩ := parseDeclarations_of_declarations htexts hlength
    obtain ⟨d', hd', hdeclared'⟩ := parseDeclarations_of_declarations (h ▸ htexts) hlength
    rw [hd, hd', hdeclared.unique hdeclared']
  · rw [parseDeclarations_of_faulty hlines hgood hbad,
      parseDeclarations_of_faulty (h ▸ hlines) hgood hbad]

/-- The declarations that are read are what the words of the relevant lines say. -/
lemma parseDeclarations_eq_ok_iff {d : Declarations} :
    parseDeclarations input = .ok d ↔ ∃ texts : List Text,
      relevantLines input = texts.map Text.bytes ∧ (∀ t ∈ texts, 3 ≤ (Text.tokens t).length) ∧
        DeclaredBy (texts.map Text.tokens) d := by
  constructor
  · intro hd
    obtain ⟨texts, htexts, hlength⟩ | ⟨good, bad, rest, e, hlines, hgood, hbad⟩ :=
      declarations_or_faulty (relevantLines input) 1
    · obtain ⟨d', hd', hdeclared⟩ := parseDeclarations_of_declarations htexts hlength
      obtain rfl : d' = d := Except.ok.inj (hd'.symm.trans hd)
      exact ⟨texts, htexts, hlength, hdeclared⟩
    · rw [parseDeclarations_of_faulty hlines hgood hbad] at hd
      cases hd
  · rintro ⟨texts, htexts, hlength, hdeclared⟩
    obtain ⟨d', hd', hdeclared'⟩ := parseDeclarations_of_declarations htexts hlength
    rw [hd', hdeclared'.unique hdeclared]

/-- The error is that of the first relevant line that is no declaration. -/
lemma parseDeclarations_eq_error_iff {e : Error} :
    parseDeclarations input = .error e ↔ ∃ good bad rest,
      relevantLines input = good ++ bad :: rest ∧ (∀ line ∈ good, IsDeclarationLine line) ∧
        Faulty (good.length + 1) bad e := by
  constructor
  · intro he
    obtain ⟨texts, htexts, hlength⟩ | ⟨good, bad, rest, e', hlines, hgood, hbad⟩ :=
      declarations_or_faulty (relevantLines input) 1
    · obtain ⟨d, hd, -⟩ := parseDeclarations_of_declarations htexts hlength
      rw [hd] at he
      cases he
    · rw [parseDeclarations_of_faulty hlines hgood hbad] at he
      obtain rfl := Except.error.inj he
      exact ⟨good, bad, rest, hlines, hgood, hbad⟩
  · rintro ⟨good, bad, rest, hlines, hgood, hbad⟩
    exact parseDeclarations_of_faulty hlines hgood hbad

/-- Reading succeeds when all relevant lines are declarations, and only then. -/
lemma exists_parseDeclarations_iff : (∃ d, parseDeclarations input = .ok d) ↔
    ∀ line ∈ relevantLines input, IsDeclarationLine line := by
  constructor
  · rintro ⟨d, hd⟩ line hline
    obtain ⟨texts, htexts, hlength, -⟩ := parseDeclarations_eq_ok_iff.1 hd
    rw [htexts] at hline
    obtain ⟨t, ht, rfl⟩ := List.mem_map.1 hline
    exact ⟨t, rfl, hlength t ht⟩
  · intro hall
    cases hresult : parseDeclarations input with
    | ok d => exact ⟨d, rfl⟩
    | error e =>
      obtain ⟨good, bad, rest, hlines, -, hbad⟩ := parseDeclarations_eq_error_iff.1 hresult
      exact absurd (hall bad (by simp [hlines])) hbad.not_isDeclarationLine

lemma untilBlank_append {line : List UInt8} (h : IsBlankLine line) (above below : List (List UInt8)) :
    untilBlank (above ++ line :: below) = untilBlank above := by
  induction above with
  | nil => exact untilBlank_blank h below
  | cons first above ih =>
    rw [List.cons_append]
    by_cases hfirst : IsBlankLine first
    · rw [untilBlank_blank hfirst, untilBlank_blank hfirst]
    · rw [untilBlank_cons hfirst, untilBlank_cons hfirst, ih]

/-- What stands from a blank line on does not count. -/
lemma relevantLines_eq_above {above line below : List UInt8}
    (hinput : input.data.toList = above ++ (line ++ 10 :: below))
    (habove : above = [] ∨ above.getLast? = some 10) (hlf : 10 ∉ line)
    (hblank : IsBlankLine (Line.withoutReturn Breaks.bytes line)) :
    relevantLines input = relevantLines above.toByteArray := by
  have hcut : Line.cutAtFeeds Breaks.bytes input.data.toList =
      Line.cutAtFeeds Breaks.bytes above ++ Line.withoutReturn Breaks.bytes line ::
        Line.cutAtFeeds Breaks.bytes below := by
    rw [hinput, Line.cutAtFeeds_append_of_ends (by decide) habove]
    exact congrArg _ (Line.cutAtFeeds_append hlf below)
  rw [relevantLines, hcut, untilBlank_append hblank, relevantLines]
  simp

/-- An input is read exactly when each of its relevant lines is a declaration. It declares what the
words of these lines say, and otherwise the error is that of the first line that is none. Nothing
from the first blank line on makes a difference. -/
theorem parseDeclarations_grammar (input : ByteArray) :
    ((∃ d, parseDeclarations input = .ok d) ↔
      ∀ line ∈ relevantLines input, IsDeclarationLine line) ∧
    (∀ d, parseDeclarations input = .ok d ↔ ∃ texts : List Text,
      relevantLines input = texts.map Text.bytes ∧ (∀ t ∈ texts, 3 ≤ (Text.tokens t).length) ∧
        DeclaredBy (texts.map Text.tokens) d) ∧
    (∀ e, parseDeclarations input = .error e ↔ ∃ good bad rest,
      relevantLines input = good ++ bad :: rest ∧ (∀ line ∈ good, IsDeclarationLine line) ∧
        Faulty (good.length + 1) bad e) ∧
    ∀ above line below, input.data.toList = above ++ (line ++ 10 :: below) →
      (above = [] ∨ above.getLast? = some 10) → 10 ∉ line →
      IsBlankLine (Line.withoutReturn Breaks.bytes line) →
      parseDeclarations input = parseDeclarations above.toByteArray := by
  refine ⟨exists_parseDeclarations_iff, fun _ => parseDeclarations_eq_ok_iff,
    fun _ => parseDeclarations_eq_error_iff, ?_⟩
  intro above line below hinput habove hlf hblank
  exact parseDeclarations_congr (relevantLines_eq_above hinput habove hlf hblank)

end

end NodeKit
