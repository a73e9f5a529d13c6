import NodeKit.Command.Reading
import Mathlib.Data.List.Forall2
import Mathlib.Data.List.TakeWhile

/-!
# The grammar of a command line

What may stand behind a subcommand, said without reading it letter by letter. An
argument gives flags, or a switch together with its value, or a switch whose value is
the next argument; other arguments are words, and behind two dashes there is nothing
else. A scan goes through without a halt exactly when the arguments are spelled like
that, and it finds the occurrences that the spelling has (`scan_eq_iff`).
-/
namespace NodeKit.CommandLine

/-! ## Rules -/

/-- Letters that stand for flags, one behind the other. -/
def Letters (level : Level) : Text → List Flag → Prop :=
  List.Forall₂ fun letter flag => (letters level).lookup letter = some (.flag flag)

/-- What an argument with dashes gives, and the switch whose value is to follow, if there is one. A
flag has no value, and the last letter of an argument can be that of a switch with a value. -/
inductive Gives (level : Level) : Text → List Occurrence → Option ValueSwitch → Prop
  | flag {name : Text} {flag : Flag} (h : (longNames level).lookup name = some (.flag flag)) :
    Gives level ('-' :: '-' :: name) [.flag flag] none
  | option {name : Text} {switch : ValueSwitch}
    (h : (longNames level).lookup name = some (.valued switch)) :
    Gives level ('-' :: '-' :: name) [] (some switch)
  | optionValue {name : Text} {switch : ValueSwitch}
    (h : (longNames level).lookup name = some (.valued switch)) (value : Text) :
    Gives level ('-' :: '-' :: (name ++ '=' :: value)) [.valued switch value true] none
  | flagLetters {t : Text} {flags : List Flag} (hne : t ≠ []) (h : Letters level t flags) :
    Gives level ('-' :: t) (flags.map .flag) none
  | optionLetter {t : Text} {flags : List Flag} {letter : Char} {switch : ValueSwitch}
    (h : Letters level t flags) (hletter : (letters level).lookup letter = some (.valued switch)) :
    Gives level ('-' :: (t ++ [letter])) (flags.map .flag) (some switch)
  | letterEquals {t : Text} {flags : List Flag} {letter : Char} {switch : ValueSwitch}
    (h : Letters level t flags) (hletter : (letters level).lookup letter = some (.valued switch))
    (value : Text) :
    Gives level ('-' :: (t ++ letter :: '=' :: value))
      (flags.map .flag ++ [.valued switch value true]) none
  | letterValue {t : Text} {flags : List Flag} {letter : Char} {switch : ValueSwitch} {value : Text}
    (h : Letters level t flags) (hletter : (letters level).lookup letter = some (.valued switch))
    (hne : value ≠ []) (hequals : value.head? ≠ some '=') :
    Gives level ('-' :: (t ++ letter :: value))
      (flags.map .flag ++ [.valued switch value true]) none

/-- An argument with no dash in front, or a dash alone. -/
def IsPlain (argument : Text) : Prop := argument.head? ≠ some '-' ∨ argument = ['-']

instance (argument : Text) : Decidable (IsPlain argument) := instDecidableOr

/-- Arguments behind a subcommand, and what they give in their order. The first argument is the
value of the given switch, if there is one. -/
inductive Spelled (level : Level) : Option ValueSwitch → List Text → List Occurrence → Prop
  | nil : Spelled level none [] []
  | dashes (words : List Text) : Spelled level none (['-', '-'] :: words) (words.map .word)
  | word {argument : Text} {rest : List Text} {occurrences : List Occurrence}
    (h : IsPlain argument) (hrest : Spelled level none rest occurrences) :
    Spelled level none (argument :: rest) (.word argument :: occurrences)
  | switches {argument : Text} {rest : List Text} {first occurrences : List Occurrence}
    {awaited : Option ValueSwitch} (h : Gives level argument first awaited)
    (hrest : Spelled level awaited rest occurrences) :
    Spelled level none (argument :: rest) (first ++ occurrences)
  | value {switch : ValueSwitch} {argument : Text} {rest : List Text}
    {occurrences : List Occurrence} (h : IsPlain argument)
    (hrest : Spelled level none rest occurrences) :
    Spelled level (some switch) (argument :: rest) (.valued switch argument false :: occurrences)

/-! ## Shapes -/

/-- The form that an argument of each shape has. -/
inductive Shaped : Text → Shape → Prop
  | dashes : Shaped ['-', '-'] .dashes
  | long {t : Text} (hne : t ≠ []) : Shaped ('-' :: '-' :: t) (.switches true t)
  | letters {t : Text} (hne : t ≠ []) (hdash : t.head? ≠ some '-') :
    Shaped ('-' :: t) (.switches false t)
  | plain {t : Text} (h : IsPlain t) : Shaped t .word

lemma shaped_of (argument : Text) : Shaped argument (Shape.of argument) := by
  unfold Shape.of
  split
  · exact .dashes
  · next rest hrest =>
    refine .long ?_
    rintro rfl
    exact hrest rfl
  · next c rest hdashes hlong =>
    refine .letters (List.cons_ne_nil c rest) ?_
    rintro heq
    obtain rfl : c = '-' := by simpa using heq
    exact hlong rfl
  · next _ _ hletters =>
    refine .plain ?_
    rcases argument with _ | ⟨c, _ | ⟨d, rest⟩⟩
    · exact Or.inl (by simp)
    · by_cases hc : c = '-'
      · exact Or.inr (by rw [hc])
      · exact Or.inl (by simpa using hc)
    · refine Or.inl fun heq => ?_
      obtain rfl : c = '-' := by simpa using heq
      exact hletters d rest rfl

lemma Shaped.of_eq {argument : Text} {shape : Shape} (h : Shaped argument shape) :
    Shape.of argument = shape := by
  cases h with
  | dashes => rfl
  | @long t hne =>
    obtain ⟨c, rest, rfl⟩ := List.exists_cons_of_ne_nil hne
    rfl
  | @letters t hne hdash =>
    obtain ⟨c, rest, rfl⟩ := List.exists_cons_of_ne_nil hne
    have hc : c ≠ '-' := by simpa using hdash
    simp [Shape.of, hc]
  | plain h =>
    rcases h with hdash | rfl
    · unfold Shape.of
      split <;> simp_all
    · rfl

/-! ## One argument -/

/-- What is left to read behind an argument that gives the switch whose value is to follow. -/
def Remainder.after : Option ValueSwitch → Remainder
  | none => .complete
  | some switch => .awaits switch

@[simp] lemma Remainder.complete_eq_after (awaited : Option ValueSwitch) :
    Remainder.complete = .after awaited ↔ awaited = none := by
  cases awaited <;> simp [Remainder.after]

@[simp] lemma Remainder.awaits_eq_after (switch : ValueSwitch) (awaited : Option ValueSwitch) :
    Remainder.awaits switch = .after awaited ↔ awaited = some switch := by
  cases awaited <;> simp [Remainder.after, eq_comm]

@[simp] lemma Remainder.halts_ne_after (halt : Halt) (awaited : Option ValueSwitch) :
    Remainder.halts halt ≠ .after awaited := by
  cases awaited <;> simp [Remainder.after]

variable {level : Level}

lemma mem_of_lookup {α β : Type} [BEq α] [LawfulBEq α] {entries : List (α × β)} {key : α}
    {value : β} (h : entries.lookup key = some value) : (key, value) ∈ entries := by
  obtain ⟨front, behind, rfl, -⟩ := List.lookup_eq_some_iff.1 h
  simp

lemma longName_admitted {name : Text} {switch : Switch}
    (h : (longNames level).lookup name = some switch) : name ≠ [] ∧ '=' ∉ name := by
  have hall : ∀ entry ∈ longNames level, entry.1 ≠ [] ∧ '=' ∉ entry.1 := by
    cases level <;> decide
  exact hall _ (mem_of_lookup h)

lemma letter_ne_dash {letter : Char} {switch : Switch}
    (h : (letters level).lookup letter = some switch) : letter ≠ '-' := by
  have hall : ∀ entry ∈ letters level, entry.1 ≠ '-' := by
    cases level <;> decide
  exact hall _ (mem_of_lookup h)

/-- Letters do not begin with a dash. -/
lemma Letters.head? {t : Text} {flags : List Flag} (h : Letters level t flags) :
    t.head? ≠ some '-' := by
  cases h with
  | nil => simp
  | cons hfirst _ => simpa using letter_ne_dash hfirst

lemma Letters.head?_append {t rest : Text} {flags : List Flag} {letter : Char} {switch : Switch}
    (h : Letters level t flags) (hletter : (letters level).lookup letter = some switch) :
    (t ++ letter :: rest).head? ≠ some '-' := by
  cases h with
  | nil => simpa using letter_ne_dash hletter
  | cons hfirst _ => simpa using letter_ne_dash hfirst

lemma cutValue_of_notMem {name : Text} (h : '=' ∉ name) : cutValue name = (name, none) := by
  have hall : ∀ c ∈ name, decide (c ≠ '=') = true := by
    intro c hc
    rw [decide_eq_true_eq]
    rintro rfl
    exact h hc
  have htake : name.takeWhile (· ≠ '=') = name := List.takeWhile_eq_self_iff.2 hall
  have hdrop : name.dropWhile (· ≠ '=') = [] := List.dropWhile_eq_nil_iff.2 hall
  rw [cutValue, htake, hdrop]

lemma cutValue_append_cons {name : Text} (h : '=' ∉ name) (value : Text) :
    cutValue (name ++ '=' :: value) = (name, some value) := by
  have hall : ∀ c ∈ name, decide (c ≠ '=') = true := by
    intro c hc
    rw [decide_eq_true_eq]
    rintro rfl
    exact h hc
  have htake : (name ++ '=' :: value).takeWhile (· ≠ '=') = name := by
    rw [List.takeWhile_append_of_pos hall]
    simp
  have hdrop : (name ++ '=' :: value).dropWhile (· ≠ '=') = '=' :: value := by
    rw [List.dropWhile_append_of_pos hall]
    simp
  rw [cutValue, htake, hdrop]

/-- A text is its name, or it is its name and its value with an equals sign between them. -/
lemma eq_of_cutValue (t : Text) :
    ((cutValue t).2 = none ∧ t = (cutValue t).1) ∨
      ∃ value, (cutValue t).2 = some value ∧ t = (cutValue t).1 ++ '=' :: value := by
  by_cases h : '=' ∈ t
  · obtain ⟨name, value, rfl, hname⟩ := List.eq_append_cons_of_mem h
    rw [cutValue_append_cons hname]
    exact Or.inr ⟨value, rfl, rfl⟩
  · rw [cutValue_of_notMem h]
    exact Or.inl ⟨rfl, rfl⟩

lemma readLetters_append {t : Text} {flags : List Flag} (h : Letters level t flags) (rest : Text) :
    readLetters level (t ++ rest) =
      (flags.map .flag ++ (readLetters level rest).1, (readLetters level rest).2) := by
  induction h with
  | nil => rfl
  | cons hletter _ ih => simp [readLetters, hletter, ih]

lemma readLetters_value {letter : Char} {switch : ValueSwitch} {value : Text}
    (h : (letters level).lookup letter = some (.valued switch)) (hne : value ≠ [])
    (hequals : value.head? ≠ some '=') :
    readLetters level (letter :: value) = ([.valued switch value true], .complete) := by
  obtain ⟨c, value, rfl⟩ := List.exists_cons_of_ne_nil hne
  have hc : c ≠ '=' := by simpa using hequals
  simp [readLetters, h, hc]

/-- An argument is read as it is spelled. -/
lemma Gives.read {argument : Text} {occurrences : List Occurrence} {awaited : Option ValueSwitch}
    (h : Gives level argument occurrences awaited) :
    ∃ long t, Shape.of argument = .switches long t ∧
      readSwitches level long t = (occurrences, .after awaited) := by
  have hshape {t : Text} {letter : Char} {rest : Text} {flags : List Flag} {switch : Switch}
      (h : Letters level t flags) (hletter : (letters level).lookup letter = some switch) :
      Shape.of ('-' :: (t ++ letter :: rest)) = .switches false (t ++ letter :: rest) :=
    (Shaped.letters (by simp) (h.head?_append hletter)).of_eq
  cases h with
  | flag h =>
    obtain ⟨hne, hequals⟩ := longName_admitted h
    refine ⟨true, _, (Shaped.long hne).of_eq, ?_⟩
    simp [readSwitches, readLong, cutValue_of_notMem hequals, h, Remainder.after]
  | option h =>
    obtain ⟨hne, hequals⟩ := longName_admitted h
    refine ⟨true, _, (Shaped.long hne).of_eq, ?_⟩
    simp [readSwitches, readLong, cutValue_of_notMem hequals, h, Remainder.after]
  | optionValue h value =>
    obtain ⟨-, hequals⟩ := longName_admitted h
    refine ⟨true, _, (Shaped.long (by simp)).of_eq, ?_⟩
    simp [readSwitches, readLong, cutValue_append_cons hequals, h, Remainder.after]
  | @flagLetters t flags hne h =>
    refine ⟨false, t, (Shaped.letters hne h.head?).of_eq, ?_⟩
    have happend := readLetters_append h []
    simpa [readSwitches, readLetters, Remainder.after] using happend
  | optionLetter h hletter =>
    refine ⟨false, _, hshape h hletter, ?_⟩
    simp [readSwitches, readLetters_append h, readLetters, hletter, Remainder.after]
  | letterEquals h hletter value =>
    refine ⟨false, _, hshape h hletter, ?_⟩
    simp [readSwitches, readLetters_append h, readLetters, hletter, Remainder.after]
  | letterValue h hletter hne hequals =>
    refine ⟨false, _, hshape h hletter, ?_⟩
    simp [readSwitches, readLetters_append h, readLetters_value hletter hne hequals,
      Remainder.after]

lemma Gives.of_readLetters {t front : Text} {flags : List Flag} {occurrences : List Occurrence}
    {awaited : Option ValueSwitch} (hfront : Letters level front flags) (hne : front ++ t ≠ [])
    (h : readLetters level t = (occurrences, .after awaited)) :
    Gives level ('-' :: (front ++ t)) (flags.map .flag ++ occurrences) awaited := by
  induction t generalizing front flags occurrences with
  | nil =>
    obtain ⟨rfl, rfl⟩ : occurrences = [] ∧ awaited = none := by simpa [readLetters] using h
    rw [List.append_nil] at hne ⊢
    rw [List.append_nil]
    exact .flagLetters hne hfront
  | cons letter rest ih =>
    cases hletter : (letters level).lookup letter with
    | none => simp [readLetters, hletter] at h
    | some switch =>
      cases switch with
      | stop stop => simp [readLetters, hletter] at h
      | flag flag =>
        obtain ⟨rfl, hrest⟩ : .flag flag :: (readLetters level rest).1 = occurrences ∧
            (readLetters level rest).2 = .after awaited := by
          simpa [readLetters, hletter] using h
        have hlonger : Letters level (front ++ [letter]) (flags ++ [flag]) :=
          List.rel_append hfront (.cons hletter .nil)
        simpa using ih hlonger (by simp) (Prod.ext rfl hrest)
      | valued switch =>
        cases rest with
        | nil =>
          obtain ⟨rfl, rfl⟩ : occurrences = [] ∧ awaited = some switch := by
            simpa [readLetters, hletter] using h
          rw [List.append_nil]
          exact .optionLetter hfront hletter
        | cons c value =>
          by_cases hc : c = '='
          · subst hc
            obtain ⟨rfl, rfl⟩ : [.valued switch value true] = occurrences ∧ awaited = none := by
              simpa [readLetters, hletter] using h
            exact .letterEquals hfront hletter value
          · have hequals : (c :: value).head? ≠ some '=' := by simpa using hc
            rw [readLetters_value hletter (List.cons_ne_nil c value) hequals] at h
            obtain ⟨rfl, rfl⟩ : [.valued switch (c :: value) true] = occurrences ∧
                awaited = none := by
              simpa using h
            exact .letterValue hfront hletter (List.cons_ne_nil c value) hequals

/-- An argument that is read without a halt is spelled as it is read. -/
lemma Gives.of_read {argument t : Text} {long : Bool} {occurrences : List Occurrence}
    {awaited : Option ValueSwitch} (hshape : Shape.of argument = .switches long t)
    (h : readSwitches level long t = (occurrences, .after awaited)) :
    Gives level argument occurrences awaited := by
  have hshaped := shaped_of argument
  rw [hshape] at hshaped
  cases hshaped with
  | letters hne hdash => exact Gives.of_readLetters .nil hne h
  | long hne =>
    change readLong level t = _ at h
    cases hname : (longNames level).lookup (cutValue t).1 with
    | none => simp [readLong, hname] at h
    | some switch =>
      rcases eq_of_cutValue t with ⟨hvalue, ht⟩ | ⟨value, hvalue, ht⟩
      · rw [ht]
        cases switch with
        | stop stop => simp [readLong, hname, hvalue] at h
        | flag flag =>
          obtain ⟨rfl, rfl⟩ : [.flag flag] = occurrences ∧ awaited = none := by
            simpa [readLong, hname, hvalue] using h
          exact .flag hname
        | valued switch =>
          obtain ⟨rfl, rfl⟩ : occurrences = [] ∧ awaited = some switch := by
            simpa [readLong, hname, hvalue] using h
          exact .option hname
      · rw [ht]
        cases switch with
        | stop stop => simp [readLong, hname, hvalue] at h
        | flag flag => simp [readLong, hname, hvalue] at h
        | valued switch =>
          obtain ⟨rfl, rfl⟩ : [.valued switch value true] = occurrences ∧ awaited = none := by
            simpa [readLong, hname, hvalue] using h
          exact .optionValue hname value

/-- An argument gives one thing only. -/
lemma Gives.unique {argument : Text} {occurrences others : List Occurrence}
    {awaited other : Option ValueSwitch} (h : Gives level argument occurrences awaited)
    (h' : Gives level argument others other) : occurrences = others ∧ awaited = other := by
  obtain ⟨long, t, hshape, hread⟩ := h.read
  obtain ⟨long', t', hshape', hread'⟩ := h'.read
  obtain ⟨rfl, rfl⟩ : long = long' ∧ t = t' := by simpa using hshape.symm.trans hshape'
  obtain ⟨rfl, hafter⟩ := Prod.mk.inj (hread.symm.trans hread')
  cases awaited <;> cases other <;> simp_all [Remainder.after]

lemma Gives.head? {argument : Text} {occurrences : List Occurrence}
    {awaited : Option ValueSwitch} (h : Gives level argument occurrences awaited) :
    argument.head? = some '-' := by
  cases h <;> rfl

lemma Gives.not_isPlain {argument : Text} {occurrences : List Occurrence}
    {awaited : Option ValueSwitch} (h : Gives level argument occurrences awaited) :
    ¬ IsPlain argument := by
  obtain ⟨long, t, hshape, -⟩ := h.read
  intro hplain
  rw [(Shaped.plain hplain).of_eq] at hshape
  cases hshape

lemma Gives.ne_dashes {argument : Text} {occurrences : List Occurrence}
    {awaited : Option ValueSwitch} (h : Gives level argument occurrences awaited) :
    argument ≠ ['-', '-'] := by
  rintro rfl
  obtain ⟨long, t, hshape, -⟩ := h.read
  cases hshape

/-! ## A scan -/

def Occurrence.value? : Occurrence → Option (ValueSwitch × Text)
  | .valued switch value _ => some (switch, value)
  | _ => none

def Occurrence.word? : Occurrence → Option Text
  | .word w => some w
  | _ => none

attribute [simp] Occurrence.flag? Occurrence.value? Occurrence.word?

lemma Gives.unvalued_notMem {argument : Text} {occurrences : List Occurrence}
    {awaited : Option ValueSwitch} (h : Gives level argument occurrences awaited)
    (switch : ValueSwitch) : .unvalued switch ∉ occurrences := by
  cases h <;> simp

/-- Dashes do not give words. -/
lemma Gives.filterMap_word? {argument : Text} {occurrences : List Occurrence}
    {awaited : Option ValueSwitch} (h : Gives level argument occurrences awaited) :
    occurrences.filterMap Occurrence.word? = [] := by
  cases h <;> simp [List.filterMap_eq_nil_iff]

lemma Scan.prepend_eq_iff {scan : Scan} {first occurrences : List Occurrence} :
    scan.prepend first = ⟨occurrences, none⟩ ↔
      ∃ rest, scan = ⟨rest, none⟩ ∧ occurrences = first ++ rest := by
  obtain ⟨found, halt⟩ := scan
  simp only [prepend, Scan.mk.injEq]
  constructor
  · rintro ⟨rfl, rfl⟩
    exact ⟨found, ⟨rfl, rfl⟩, rfl⟩
  · rintro ⟨rest, ⟨rfl, rfl⟩, rfl⟩
    exact ⟨rfl, rfl⟩

lemma scanWords_eq_iff {slots : Nat} {arguments : List Text} {occurrences : List Occurrence} :
    scanWords slots arguments = ⟨occurrences, none⟩ ↔
      occurrences = arguments.map .word ∧ arguments.length ≤ slots := by
  induction arguments generalizing slots occurrences with
  | nil => simp [scanWords, Scan.finished, eq_comm]
  | cons argument rest ih =>
    cases slots with
    | zero => simp [scanWords, Scan.halted]
    | succ slots =>
      rw [scanWords, Scan.prepend_eq_iff]
      simp [ih, and_comm]

section

variable {slots : Nat} {awaiting : Option ValueSwitch} {argument : Text} {rest : List Text}

lemma scan_dashes :
    scan level slots awaiting (['-', '-'] :: rest) =
      (scanWords slots rest).prepend (awaiting.toList.map .unvalued) := rfl

lemma scan_switches {occurrences : List Occurrence} {awaited : Option ValueSwitch}
    (h : Gives level argument occurrences awaited) :
    scan level slots awaiting (argument :: rest) =
      (scan level slots awaited rest).prepend (awaiting.toList.map .unvalued ++ occurrences) := by
  obtain ⟨long, t, hshape, hread⟩ := h.read
  cases awaited <;> simp [scan, hshape, hread, Remainder.after]

lemma scan_value {switch : ValueSwitch} (h : IsPlain argument) :
    scan level slots (some switch) (argument :: rest) =
      (scan level slots none rest).prepend [.valued switch argument false] := by
  simp [scan, (Shaped.plain h).of_eq]

lemma scan_word (h : IsPlain argument) :
    scan level (slots + 1) none (argument :: rest) =
      (scan level slots none rest).prepend [.word argument] := by
  simp [scan, (Shaped.plain h).of_eq]

lemma scan_surplus (h : IsPlain argument) :
    scan level 0 none (argument :: rest) = .halted .unknown := by
  simp [scan, (Shaped.plain h).of_eq]

/-- An argument that a scan does not halt at is plain, or two dashes, or it gives something. -/
lemma forms_of_scan (h : (scan level slots awaiting (argument :: rest)).halt = none) :
    argument = ['-', '-'] ∨ IsPlain argument ∨
      ∃ occurrences awaited, Gives level argument occurrences awaited := by
  have hshaped := shaped_of argument
  cases hshape : Shape.of argument with
  | dashes =>
    rw [hshape] at hshaped
    cases hshaped
    exact Or.inl rfl
  | word =>
    rw [hshape] at hshaped
    cases hshaped with
    | plain hplain => exact Or.inr (Or.inl hplain)
  | switches long t =>
    rcases hread : readSwitches level long t with ⟨occurrences, remainder⟩
    refine Or.inr (Or.inr ⟨occurrences, ?_⟩)
    cases remainder with
    | complete => exact ⟨none, Gives.of_read hshape hread⟩
    | awaits switch => exact ⟨some switch, Gives.of_read hshape hread⟩
    | halts halt => simp [scan, hshape, hread] at h

end

/-- Arguments that are spelled are found as they are spelled. -/
lemma Spelled.scan_eq {slots : Nat} {awaiting : Option ValueSwitch} {arguments : List Text}
    {occurrences : List Occurrence} (h : Spelled level awaiting arguments occurrences)
    (hslots : (occurrences.filterMap Occurrence.word?).length ≤ slots) :
    scan level slots awaiting arguments = ⟨occurrences, none⟩ := by
  induction h generalizing slots with
  | nil => rfl
  | dashes words =>
    rw [scan_dashes, scanWords_eq_iff.2 ⟨rfl, ?_⟩]
    · rfl
    · simpa [List.filterMap_map, Function.comp_def] using hslots
  | word hplain _ ih =>
    cases slots with
    | zero => simp at hslots
    | succ slots =>
      rw [scan_word hplain, ih (by simpa using hslots)]
      rfl
  | switches hgives _ ih =>
    rw [List.filterMap_append, List.length_append] at hslots
    rw [scan_switches hgives, ih (by omega)]
    rfl
  | value hplain _ ih =>
    rw [scan_value hplain, ih (by simpa [List.filterMap_cons] using hslots)]
    rfl

/-- What a scan finds is how the arguments are spelled. -/
lemma Spelled.of_scan {slots : Nat} {awaiting : Option ValueSwitch} {arguments : List Text}
    {occurrences : List Occurrence} (h : scan level slots awaiting arguments = ⟨occurrences, none⟩)
    (hvalued : ∀ switch, .unvalued switch ∉ occurrences) :
    Spelled level awaiting arguments occurrences ∧
      (occurrences.filterMap Occurrence.word?).length ≤ slots := by
  induction arguments generalizing slots awaiting occurrences with
  | nil =>
    cases awaiting with
    | none =>
      cases h
      exact ⟨.nil, Nat.zero_le _⟩
    | some switch =>
      cases h
      exact absurd (by simp) (hvalued switch)
  | cons argument rest ih =>
    -- a switch that still waits for its value when another one comes has none
    have hnone {first : List Occurrence}
        (h : occurrences = awaiting.toList.map .unvalued ++ first) : awaiting = none := by
      cases awaiting with
      | none => rfl
      | some switch => exact absurd (by simp [h]) (hvalued switch)
    rcases forms_of_scan (congrArg Scan.halt h) with rfl | hplain | ⟨first, awaited, hgives⟩
    · rw [scan_dashes, Scan.prepend_eq_iff] at h
      obtain ⟨words, hwords, hoccurrences⟩ := h
      obtain ⟨rfl, hlength⟩ := scanWords_eq_iff.1 hwords
      obtain rfl := hnone hoccurrences
      obtain rfl : occurrences = rest.map .word := hoccurrences
      refine ⟨.dashes rest, ?_⟩
      simpa [List.filterMap_map, Function.comp_def] using hlength
    · cases awaiting with
      | some switch =>
        rw [scan_value hplain, Scan.prepend_eq_iff] at h
        obtain ⟨later, hlater, rfl⟩ := h
        obtain ⟨hspelled, hlength⟩ := ih hlater fun switch hmem => hvalued switch (by simp [hmem])
        exact ⟨.value hplain hspelled, by simpa [List.filterMap_cons] using hlength⟩
      | none =>
        cases slots with
        | zero =>
          rw [scan_surplus hplain] at h
          cases h
        | succ slots =>
          rw [scan_word hplain, Scan.prepend_eq_iff] at h
          obtain ⟨later, hlater, rfl⟩ := h
          obtain ⟨hspelled, hlength⟩ :=
            ih hlater fun switch hmem => hvalued switch (by simp [hmem])
          exact ⟨.word hplain hspelled, by simpa using hlength⟩
    · rw [scan_switches hgives, Scan.prepend_eq_iff] at h
      obtain ⟨later, hlater, hoccurrences⟩ := h
      rw [List.append_assoc] at hoccurrences
      obtain rfl := hnone hoccurrences
      obtain rfl : occurrences = first ++ later := hoccurrences
      obtain ⟨hspelled, hlength⟩ := ih hlater fun switch hmem => hvalued switch (by simp [hmem])
      refine ⟨.switches hgives hspelled, ?_⟩
      rw [List.filterMap_append, List.length_append]
      have hwordless := hgives.filterMap_word?
      simpa [hwordless] using hlength

/-- Where every switch has its value, none is missing. -/
lemma Spelled.unvalued_notMem {awaiting : Option ValueSwitch} {arguments : List Text}
    {occurrences : List Occurrence} (h : Spelled level awaiting arguments occurrences)
    (switch : ValueSwitch) : .unvalued switch ∉ occurrences := by
  induction h with
  | nil => simp
  | dashes words => simp
  | word _ _ ih => simpa using ih
  | switches hgives _ ih =>
    rw [List.mem_append, not_or]
    exact ⟨hgives.unvalued_notMem switch, ih⟩
  | value _ _ ih => simpa using ih

/-- A scan goes through, and no value is missing, exactly on arguments that are spelled as the
occurrences say and that have no more words than there is room for. -/
theorem scan_eq_iff {slots : Nat} {awaiting : Option ValueSwitch} {arguments : List Text}
    {occurrences : List Occurrence} :
    (scan level slots awaiting arguments = ⟨occurrences, none⟩ ∧
        ∀ switch, .unvalued switch ∉ occurrences) ↔
      Spelled level awaiting arguments occurrences ∧
        (occurrences.filterMap Occurrence.word?).length ≤ slots := by
  constructor
  · rintro ⟨hscan, hvalued⟩
    exact Spelled.of_scan hscan hvalued
  · rintro ⟨hspelled, hlength⟩
    exact ⟨hspelled.scan_eq hlength, hspelled.unvalued_notMem⟩

end NodeKit.CommandLine
