import NodeKit.Proofs.Command.Settling

/-!
# Where arguments stand

Behind a subcommand the dashes of an argument count only where it stands free. Directly
behind a switch that takes it as its value it is that value, and behind two bare dashes
it is a word, whatever it looks like. The flags of a command line are those spelled by
arguments that stand free (`Spelled.occursAsFlag_iff`), so that another value or another
word leaves them (`Spelled.filterMap_flag?_set`). The globs that are passed over are
given attached to their switch, or directly behind it (`Spelled.globsOf_eq`).
-/
namespace NodeKit.CommandLine

/-! ## Places -/

/-- Where an argument stands behind a subcommand. -/
inductive Place where
  /-- Where its dashes count. -/
  | free
  /-- Directly behind a switch that takes it as its value. -/
  | value (switch : ValueSwitch)
  | behindDashes
deriving DecidableEq, Repr

def Switch.valued? : Switch → Option ValueSwitch
  | .valued switch => some switch
  | _ => none

/-- Whether a letter stands for a flag. -/
def isFlagLetter (level : Level) (letter : Char) : Bool :=
  match (letters level).lookup letter with
  | some (.flag _) => true
  | _ => false

/-- The switch at the end of letters that leaves its value to the next argument. -/
def lastSwitch? (level : Level) (t : Text) : Option ValueSwitch :=
  match t.dropWhile (isFlagLetter level) with
  | [letter] => ((letters level).lookup letter).bind Switch.valued?
  | _ => none

/-- The switch that leaves its value to the next argument. -/
def openSwitch? (level : Level) : Text → Option ValueSwitch
  | '-' :: '-' :: name => ((longNames level).lookup name).bind Switch.valued?
  | '-' :: t => lastSwitch? level t
  | _ => none

namespace Place

/-- The place behind an argument, by the switch that leaves its value open there. -/
def behind : Option ValueSwitch → Place
  | none => .free
  | some switch => .value switch

/-- Where the next argument stands. -/
def next (level : Level) (argument : Text) : Place → Place
  | .free => if argument = ['-', '-'] then .behindDashes else .behind (openSwitch? level argument)
  | .value _ => .free
  | .behindDashes => .behindDashes

end Place

/-- Arguments with their places. The first one stands at the given place. -/
def places (level : Level) : Place → List Text → List (Place × Text)
  | _, [] => []
  | place, argument :: rest => (place, argument) :: places level (place.next level argument) rest

/-- How a flag is spelled: one of its long names behind two dashes, or its letter behind one dash.
Letters of flags can stand in front of the letter, and anything can stand behind it. -/
inductive Spells (level : Level) (flag : Flag) : Text → Prop
  | long {name : Text} (h : (longNames level).lookup name = some (.flag flag)) :
    Spells level flag ('-' :: '-' :: name)
  | letter {front behind : Text} {letter : Char} (hfront : ∀ c ∈ front, isFlagLetter level c)
    (h : (letters level).lookup letter = some (.flag flag)) :
    Spells level flag ('-' :: (front ++ letter :: behind))

/-- An argument that stands free spells the flag. -/
def OccursAsFlag (level : Level) (flag : Flag) (placed : List (Place × Text)) : Prop :=
  ∃ argument, (.free, argument) ∈ placed ∧ Spells level flag argument

/-- The glob that an argument gives at its place. -/
def givenGlob? : Place × Text → Option Text
  | (.free, argument) => Text.after? "--exclude=" argument
  | (.value .exclude, argument) => some argument
  | _ => none

/-! ## One argument -/

section

variable {level : Level} {argument : Text} {first : List Occurrence} {awaited : Option ValueSwitch}
  {flag : Flag}

lemma isFlagLetter_iff {letter : Char} :
    isFlagLetter level letter ↔ ∃ flag, (letters level).lookup letter = some (.flag flag) := by
  unfold isFlagLetter
  split
  · next flag h => simp [h]
  · next h => simpa using h

lemma Letters.mem_isFlagLetter {t : Text} {flags : List Flag} (h : Letters level t flags) :
    ∀ c ∈ t, isFlagLetter level c := by
  induction h with
  | nil => simp
  | cons hletter _ ih => exact List.forall_mem_cons.2 ⟨isFlagLetter_iff.2 ⟨_, hletter⟩, ih⟩

lemma exists_letters {t : Text} (h : ∀ c ∈ t, isFlagLetter level c) :
    ∃ flags, Letters level t flags := by
  induction t with
  | nil => exact ⟨[], .nil⟩
  | cons c t ih =>
    obtain ⟨hc, ht⟩ := List.forall_mem_cons.1 h
    obtain ⟨flag, hflag⟩ := isFlagLetter_iff.1 hc
    obtain ⟨flags, hflags⟩ := ih ht
    exact ⟨flag :: flags, .cons hflag hflags⟩

/-- A letter among letters of flags. -/
lemma Letters.exists_of_mem {t : Text} {flags : List Flag} (h : Letters level t flags)
    (hflag : flag ∈ flags) :
    ∃ front letter behind, t = front ++ letter :: behind ∧
      (∀ c ∈ front, isFlagLetter level c) ∧
      (letters level).lookup letter = some (.flag flag) := by
  induction h with
  | nil => cases hflag
  | @cons c other t flags hletter hrest ih =>
    rcases List.mem_cons.1 hflag with rfl | hflag
    · exact ⟨[], c, t, rfl, by simp, hletter⟩
    · obtain ⟨front, letter, behind, rfl, hfront, hlookup⟩ := ih hflag
      refine ⟨c :: front, letter, behind, rfl, ?_, hlookup⟩
      exact List.forall_mem_cons.2 ⟨isFlagLetter_iff.2 ⟨_, hletter⟩, hfront⟩

/-- Letters of flags spell the flags, whatever stands behind them. -/
lemma Letters.spells {t : Text} {flags : List Flag} (h : Letters level t flags)
    (hflag : flag ∈ flags) (rest : Text) : Spells level flag ('-' :: (t ++ rest)) := by
  obtain ⟨front, letter, behind, rfl, hfront, hletter⟩ := h.exists_of_mem hflag
  rw [List.append_assoc, List.cons_append]
  exact .letter hfront hletter

lemma openSwitch?_letters {t : Text} (h : t.head? ≠ some '-') :
    openSwitch? level ('-' :: t) = lastSwitch? level t := by
  cases t with
  | nil => rfl
  | cons c t =>
    have hc : c ≠ '-' := by simpa using h
    simp [openSwitch?, hc]

lemma openSwitch?_of_isPlain (h : IsPlain argument) : openSwitch? level argument = none := by
  rcases h with hdash | rfl
  · unfold openSwitch?
    split <;> simp_all
  · rfl

lemma lastSwitch?_letters {t : Text} {flags : List Flag} (h : Letters level t flags) :
    lastSwitch? level t = none := by
  rw [lastSwitch?, List.dropWhile_eq_nil_iff.2 h.mem_isFlagLetter]

lemma lastSwitch?_append {t rest : Text} {flags : List Flag} {letter : Char} {switch : ValueSwitch}
    (h : Letters level t flags) (hletter : (letters level).lookup letter = some (.valued switch)) :
    lastSwitch? level (t ++ letter :: rest) = if rest = [] then some switch else none := by
  have hvalued : ¬ isFlagLetter level letter := by
    rw [isFlagLetter_iff]
    rintro ⟨flag, hflag⟩
    simp [hletter] at hflag
  rw [lastSwitch?, List.dropWhile_append_of_pos h.mem_isFlagLetter,
    List.dropWhile_cons_of_neg hvalued]
  cases rest with
  | nil => simp [hletter, Switch.valued?]
  | cons c rest => simp

/-- What an argument leaves open is what it gives. -/
lemma Gives.openSwitch?_eq (h : Gives level argument first awaited) :
    openSwitch? level argument = awaited := by
  cases h with
  | flag h => simp [openSwitch?, h, Switch.valued?]
  | option h => simp [openSwitch?, h, Switch.valued?]
  | @optionValue name switch h value =>
    have hnone : (longNames level).lookup (name ++ '=' :: value) = none := by
      rw [Option.eq_none_iff_forall_ne_some]
      intro other hother
      exact (longName_admitted hother).2 (by simp)
    simp [openSwitch?, hnone]
  | flagLetters hne h => rw [openSwitch?_letters h.head?, lastSwitch?_letters h]
  | optionLetter h hletter =>
    rw [openSwitch?_letters (h.head?_append hletter), lastSwitch?_append h hletter, if_pos rfl]
  | letterEquals h hletter value =>
    rw [openSwitch?_letters (h.head?_append hletter), lastSwitch?_append h hletter,
      if_neg (List.cons_ne_nil _ _)]
  | letterValue h hletter hne hequals =>
    rw [openSwitch?_letters (h.head?_append hletter), lastSwitch?_append h hletter, if_neg hne]

lemma next_of_gives (h : Gives level argument first awaited) :
    Place.next level argument .free = .behind awaited := by
  rw [Place.next, if_neg h.ne_dashes, h.openSwitch?_eq]

lemma next_of_isPlain (h : IsPlain argument) : Place.next level argument .free = .free := by
  have hdashes : argument ≠ ['-', '-'] := by
    rintro rfl
    exact absurd h (by decide)
  rw [Place.next, if_neg hdashes, openSwitch?_of_isPlain h]
  rfl

lemma Spells.not_isPlain (h : Spells level flag argument) : ¬ IsPlain argument := by
  cases h with
  | long h => simp [IsPlain]
  | letter hfront h => simp [IsPlain]

lemma Spells.ne_dashes (h : Spells level flag argument) : argument ≠ ['-', '-'] := by
  cases h with
  | @long name h => simpa using (longName_admitted h).1
  | @letter front behind letter hfront h =>
    obtain ⟨flags, hflags⟩ := exists_letters hfront
    have hdash : (front ++ letter :: behind).head? ≠ some '-' := hflags.head?_append h
    intro heq
    rw [(List.cons.inj heq).2] at hdash
    exact hdash rfl

/-- An argument spells the flags that it gives. -/
lemma Gives.spells_iff (h : Gives level argument first awaited) :
    Spells level flag argument ↔ .flag flag ∈ first := by
  constructor
  · intro hspells
    cases hspells with
    | long hname =>
      obtain ⟨rfl, -⟩ := h.unique (.flag hname)
      exact List.mem_singleton_self _
    | @letter front behind letter hfront hletter =>
      obtain ⟨flags, hflags⟩ := exists_letters hfront
      obtain ⟨long, t, hshape, hread⟩ := h.read
      have hletters : Shape.of ('-' :: (front ++ letter :: behind)) =
          .switches false (front ++ letter :: behind) :=
        (Shaped.letters (by simp) (hflags.head?_append hletter)).of_eq
      obtain ⟨rfl, rfl⟩ : long = false ∧ t = front ++ letter :: behind := by
        simpa [eq_comm] using hshape.symm.trans hletters
      have hfirst : (readLetters level (front ++ letter :: behind)).1 = first :=
        congrArg Prod.fst hread
      rw [← hfirst, readLetters_append hflags]
      simp [readLetters, hletter]
  · intro hmem
    cases h with
    | flag h =>
      obtain rfl : flag = _ := by simpa using hmem
      exact .long h
    | option h => simp at hmem
    | optionValue h value => simp at hmem
    | @flagLetters t flags hne h =>
      rw [← List.append_nil t]
      exact h.spells (by simpa using hmem) []
    | optionLetter h hvalued => exact h.spells (by simpa using hmem) _
    | letterEquals h hvalued value => exact h.spells (by simpa using hmem) _
    | letterValue h hvalued hne hequals => exact h.spells (by simpa using hmem) _

end

/-! ## Arguments behind a subcommand -/

section

variable {level : Level} {place : Place} {argument : Text} {arguments : List Text}
  {occurrences : List Occurrence} {awaiting : Option ValueSwitch} {flag : Flag}

lemma occursAsFlag_cons {placed : List (Place × Text)} :
    OccursAsFlag level flag ((place, argument) :: placed) ↔
      (place = .free ∧ Spells level flag argument) ∨ OccursAsFlag level flag placed := by
  constructor
  · rintro ⟨other, hmem, hspells⟩
    rcases List.mem_cons.1 hmem with heq | hmem
    · obtain ⟨rfl, rfl⟩ := Prod.mk.inj heq
      exact Or.inl ⟨rfl, hspells⟩
    · exact Or.inr ⟨other, hmem, hspells⟩
  · rintro (⟨rfl, hspells⟩ | ⟨other, hmem, hspells⟩)
    · exact ⟨argument, List.mem_cons_self, hspells⟩
    · exact ⟨other, List.mem_cons_of_mem _ hmem, hspells⟩

lemma places_behindDashes (words : List Text) :
    places level .behindDashes words = words.map (.behindDashes, ·) := by
  induction words with
  | nil => rfl
  | cons word words ih => simp [places, Place.next, ih]

/-- The flags among arguments are spelled by those that stand free. -/
lemma Spelled.occursAsFlag_iff (h : Spelled level awaiting arguments occurrences) :
    OccursAsFlag level flag (places level (.behind awaiting) arguments) ↔
      .flag flag ∈ occurrences := by
  induction h with
  | nil => simp [OccursAsFlag, places]
  | dashes words =>
    have hdashes : ¬ Spells level flag ['-', '-'] := fun h => h.ne_dashes rfl
    have hwords : places level .free (['-', '-'] :: words) =
        (.free, ['-', '-']) :: places level .behindDashes words := rfl
    rw [Place.behind, hwords, occursAsFlag_cons, places_behindDashes]
    simp [OccursAsFlag, hdashes]
  | @word argument rest occurrences hplain _ ih =>
    have hnone : ¬ Spells level flag argument := fun h => h.not_isPlain hplain
    have hrest : OccursAsFlag level flag (places level .free rest) ↔ .flag flag ∈ occurrences := ih
    rw [Place.behind, places, next_of_isPlain hplain, occursAsFlag_cons, hrest]
    simp [hnone]
  | switches hgives _ ih =>
    rw [Place.behind, places, next_of_gives hgives, occursAsFlag_cons, ih, hgives.spells_iff]
    simp
  | @value switch argument rest occurrences hplain _ ih =>
    have hrest : OccursAsFlag level flag (places level .free rest) ↔ .flag flag ∈ occurrences := ih
    rw [Place.behind, places, Place.next, occursAsFlag_cons, hrest]
    simp

lemma place_of_getElem?_zero {start : Place} {first : Text}
    (h : (places level start (first :: arguments))[0]? = some (place, argument)) :
    place = start := by
  obtain ⟨rfl, -⟩ : start = place ∧ first = argument := by simpa [places] using h
  rfl

lemma filterMap_flag?_words (words : List Text) :
    (words.map Occurrence.word).filterMap Occurrence.flag? = [] := by
  simp [List.filterMap_map, Function.comp_def]

/-- In the place of a value, or of a word behind two dashes, another argument gives no flags. -/
lemma Spelled.filterMap_flag?_set {i : Nat} {other : Text} {others : List Occurrence}
    (h : Spelled level awaiting arguments occurrences)
    (h' : Spelled level awaiting (arguments.set i other) others)
    (hi : (places level (.behind awaiting) arguments)[i]? = some (place, argument))
    (hplace : place ≠ .free) :
    others.filterMap Occurrence.flag? = occurrences.filterMap Occurrence.flag? := by
  induction h generalizing i others with
  | nil => simp [places] at hi
  | dashes words =>
    cases i with
    | zero => exact absurd (place_of_getElem?_zero hi) hplace
    | succ i =>
      cases h' with
      | dashes words' => rw [filterMap_flag?_words, filterMap_flag?_words]
      | word hplain _ => exact absurd hplain (by decide)
      | switches hgives _ => exact absurd rfl hgives.ne_dashes
  | @word first rest occurrences hplain _ ih =>
    cases i with
    | zero => exact absurd (place_of_getElem?_zero hi) hplace
    | succ i =>
      rw [Place.behind, places, next_of_isPlain hplain, List.getElem?_cons_succ] at hi
      cases h' with
      | dashes words => exact absurd hplain (by decide)
      | word _ hrest' =>
        have hflags := ih hrest' hi
        rwa [List.filterMap_cons, List.filterMap_cons]
      | switches hgives _ => exact absurd hplain hgives.not_isPlain
  | @switches first rest given occurrences awaited hgives _ ih =>
    cases i with
    | zero => exact absurd (place_of_getElem?_zero hi) hplace
    | succ i =>
      rw [Place.behind, places, next_of_gives hgives, List.getElem?_cons_succ] at hi
      cases h' with
      | dashes words => exact absurd rfl hgives.ne_dashes
      | word hplain _ => exact absurd hplain hgives.not_isPlain
      | switches hgives' hrest' =>
        obtain ⟨rfl, rfl⟩ := hgives.unique hgives'
        rw [List.filterMap_append, List.filterMap_append, ih hrest' hi]
  | @value switch first rest occurrences hplain hrest ih =>
    cases i with
    | zero =>
      cases h' with
      | value _ hrest' =>
        obtain rfl := hrest.unique hrest'
        rfl
    | succ i =>
      cases h' with
      | value _ hrest' =>
        have hflags := ih hrest' hi
        rwa [List.filterMap_cons, List.filterMap_cons]

/-! ## Globs -/

/-- The globs among occurrences. -/
def globsOf (occurrences : List Occurrence) : List Text :=
  ((occurrences.filterMap Occurrence.value?).filter (·.1 = .exclude)).map Prod.snd

lemma globsOf_append (first rest : List Occurrence) :
    globsOf (first ++ rest) = globsOf first ++ globsOf rest := by
  simp [globsOf, List.filterMap_append]

lemma after?_exclude_of_head? {t : Text} (h : t.head? ≠ some '-') :
    Text.after? "--exclude=" ('-' :: t) = none := by
  rw [Option.eq_none_iff_forall_ne_some]
  intro rest hrest
  have heq := Text.after?_eq_some_iff.1 hrest
  have ht : t = "-exclude=".toList ++ rest := (List.cons.inj heq).2
  exact h (by rw [ht]; rfl)

lemma after?_exclude_of_notMem {name : Text} (h : '=' ∉ name) :
    Text.after? "--exclude=" ('-' :: '-' :: name) = none := by
  rw [Option.eq_none_iff_forall_ne_some]
  intro rest hrest
  have heq := Text.after?_eq_some_iff.1 hrest
  have hname : name = "exclude=".toList ++ rest := (List.cons.inj (List.cons.inj heq).2).2
  exact h (by rw [hname]; simp)

lemma after?_exclude_of_isPlain (h : IsPlain argument) :
    Text.after? "--exclude=" argument = none := by
  rw [Option.eq_none_iff_forall_ne_some]
  intro rest hrest
  rw [Text.after?_eq_some_iff.1 hrest] at h
  simp [IsPlain] at h

lemma lookup_exclude {name : Text} {switch : ValueSwitch}
    (h : (longNames .refactor).lookup name = some (.valued switch)) :
    switch = .exclude ↔ name = "exclude" := by
  have hall : ∀ entry ∈ longNames .refactor,
      (entry.2 = .valued .exclude ↔ entry.1 = "exclude") := by decide
  simpa using hall _ (mem_of_lookup h)

/-- An argument gives the glob behind its equals sign. -/
lemma Gives.globsOf_eq {first : List Occurrence} {awaited : Option ValueSwitch}
    (h : Gives .refactor argument first awaited) :
    globsOf first = (Text.after? "--exclude=" argument).toList := by
  have hletter {letter : Char} {switch : ValueSwitch} :
      (letters .refactor).lookup letter ≠ some (.valued switch) :=
    lookup_letters_ne_valued (by decide)
  cases h with
  | flag h =>
    rw [after?_exclude_of_notMem (longName_admitted h).2]
    rfl
  | option h =>
    rw [after?_exclude_of_notMem (longName_admitted h).2]
    rfl
  | @optionValue name switch h value =>
    by_cases hname : name = "exclude"
    · obtain rfl := (lookup_exclude h).2 hname
      subst hname
      rfl
    · have hswitch : switch ≠ .exclude := mt (lookup_exclude h).1 hname
      have hnone : Text.after? "--exclude=" ('-' :: '-' :: (name ++ '=' :: value)) = none := by
        rw [Option.eq_none_iff_forall_ne_some]
        intro rest hrest
        have heq := Text.after?_eq_some_iff.1 hrest
        have hcut : name ++ '=' :: value = "exclude".toList ++ '=' :: rest :=
          (List.cons.inj (List.cons.inj heq).2).2
        have hnames := congrArg cutValue hcut
        rw [cutValue_append_cons (longName_admitted h).2,
          cutValue_append_cons (by decide)] at hnames
        exact hname (Prod.mk.inj hnames).1
      rw [hnone]
      simp [globsOf, hswitch]
  | @flagLetters t flags hne h =>
    rw [after?_exclude_of_head? h.head?]
    simp [globsOf, List.filterMap_map, Function.comp_def]
  | optionLetter h hvalued => exact absurd hvalued hletter
  | letterEquals h hvalued value => exact absurd hvalued hletter
  | letterValue h hvalued hne hequals => exact absurd hvalued hletter

/-- The globs among arguments are those given where the arguments stand. -/
lemma Spelled.globsOf_eq (h : Spelled .refactor awaiting arguments occurrences) :
    globsOf occurrences =
      (places .refactor (.behind awaiting) arguments).filterMap givenGlob? := by
  induction h with
  | nil => rfl
  | dashes words =>
    have hwords : places .refactor .free (['-', '-'] :: words) =
        (.free, ['-', '-']) :: places .refactor .behindDashes words := rfl
    rw [Place.behind, hwords, places_behindDashes, List.filterMap_cons, givenGlob?,
      after?_exclude_of_notMem (List.not_mem_nil)]
    simp [globsOf, givenGlob?, List.filterMap_map, Function.comp_def]
  | @word argument rest occurrences hplain _ ih =>
    have hrest : globsOf occurrences =
      (places .refactor .free rest).filterMap givenGlob? := ih
    rw [Place.behind, places, next_of_isPlain hplain, List.filterMap_cons, givenGlob?,
      after?_exclude_of_isPlain hplain, ← hrest]
    rfl
  | @switches argument rest first occurrences awaited hgives _ ih =>
    rw [Place.behind, places, next_of_gives hgives, globsOf_append, hgives.globsOf_eq, ih,
      List.filterMap_cons, givenGlob?]
    cases Text.after? "--exclude=" argument <;> rfl
  | @value switch argument rest occurrences hplain _ ih =>
    have hrest : globsOf occurrences =
      (places .refactor .free rest).filterMap givenGlob? := ih
    rw [Place.behind, places, Place.next, List.filterMap_cons, ← hrest]
    cases switch <;> simp [globsOf, givenGlob?]

end

end NodeKit.CommandLine
