import NodeKit.Proofs.Command.Grammar
import Mathlib.Data.List.Induction
import Mathlib.Data.List.Nodup

/-!
# What a command line comes to

Flags, values and words settle one after the other, and the first one that cannot
stand is reported. Taken together they settle exactly when no flag and no switch is
there too often, every value is one that its switch takes and the path is not empty
(`addAll_nothing_eq_ok_iff`). So a command line is read exactly when it is composed
of flags, the name of a subcommand and what is spelled behind that, and what it
comes to is a matter of the flags, values and words alone (`ofArguments_eq_ok_iff`).
-/
namespace NodeKit.CommandLine

/-! ## Settling -/

namespace Settled

/-- The flags, values and words among occurrences. -/
def of (occurrences : List Occurrence) : Settled :=
  ⟨occurrences.filterMap Occurrence.flag?, occurrences.filterMap Occurrence.value?,
    occurrences.filterMap Occurrence.word?⟩

/-- What can stand on one command line. The second word is a path. -/
structure Admitted (settled : Settled) : Prop where
  flags : (settled.flags.filter (¬ ·.isCounted)).Nodup
  switches : ((settled.values.map Prod.fst).filter (¬ ·.isRepeatable)).Nodup
  values : ∀ value ∈ settled.values, value.1.accepts value.2
  path : settled.words[1]? ≠ some []

lemma admitted_nothing : nothing.Admitted :=
  ⟨by simp [nothing], by simp [nothing], by simp [nothing], by simp [nothing]⟩

lemma admitted_flag_iff {settled : Settled} {flag : Flag} :
    { settled with flags := settled.flags ++ [flag] }.Admitted ↔
      settled.Admitted ∧ (flag.isCounted ∨ flag ∉ settled.flags) := by
  have hflags : ((settled.flags ++ [flag]).filter (¬ ·.isCounted)).Nodup ↔
      (settled.flags.filter (¬ ·.isCounted)).Nodup ∧
        (flag.isCounted ∨ flag ∉ settled.flags) := by
    cases hcounted : flag.isCounted <;>
      simp [List.filter_append, List.nodup_append', hcounted]
  constructor
  · rintro ⟨h, hswitches, hvalues, hpath⟩
    obtain ⟨h, hflag⟩ := hflags.1 h
    exact ⟨⟨h, hswitches, hvalues, hpath⟩, hflag⟩
  · rintro ⟨⟨h, hswitches, hvalues, hpath⟩, hflag⟩
    exact ⟨hflags.2 ⟨h, hflag⟩, hswitches, hvalues, hpath⟩

lemma admitted_value_iff {settled : Settled} {switch : ValueSwitch} {value : Text} :
    { settled with values := settled.values ++ [(switch, value)] }.Admitted ↔
      settled.Admitted ∧ (switch.isRepeatable ∨ switch ∉ settled.values.map Prod.fst) ∧
        switch.accepts value := by
  have hswitches : ((((settled.values ++ [(switch, value)]).map Prod.fst).filter
      (¬ ·.isRepeatable)).Nodup) ↔
      ((settled.values.map Prod.fst).filter (¬ ·.isRepeatable)).Nodup ∧
        (switch.isRepeatable ∨ switch ∉ settled.values.map Prod.fst) := by
    cases hrepeatable : switch.isRepeatable <;>
      simp [List.filter_append, List.nodup_append', hrepeatable]
  constructor
  · rintro ⟨hflags, h, hvalues, hpath⟩
    obtain ⟨h, hswitch⟩ := hswitches.1 h
    refine ⟨⟨hflags, h, fun value hvalue => hvalues value ?_, hpath⟩, hswitch, ?_⟩
    · exact List.mem_append_left _ hvalue
    · exact hvalues (switch, value) (by simp)
  · rintro ⟨⟨hflags, h, hvalues, hpath⟩, hswitch, haccepts⟩
    refine ⟨hflags, hswitches.2 ⟨h, hswitch⟩, fun other hother => ?_, hpath⟩
    rcases List.mem_append.1 hother with hother | hother
    · exact hvalues other hother
    · obtain rfl := List.mem_singleton.1 hother
      exact haccepts

lemma admitted_word_iff {settled : Settled} {word : Text} :
    { settled with words := settled.words ++ [word] }.Admitted ↔
      settled.Admitted ∧ ¬ (settled.words.length = 1 ∧ word = []) := by
  have hpath : (settled.words ++ [word])[1]? ≠ some [] ↔
      settled.words[1]? ≠ some [] ∧ ¬ (settled.words.length = 1 ∧ word = []) := by
    rcases settled.words with _ | ⟨mode, _ | ⟨path, rest⟩⟩ <;> simp
  constructor
  · rintro ⟨hflags, hswitches, hvalues, h⟩
    obtain ⟨h, hword⟩ := hpath.1 h
    exact ⟨⟨hflags, hswitches, hvalues, h⟩, hword⟩
  · rintro ⟨⟨hflags, hswitches, hvalues, h⟩, hword⟩
    exact ⟨hflags, hswitches, hvalues, hpath.2 ⟨h, hword⟩⟩

lemma add_flag_eq_ok_iff {settled next : Settled} {flag : Flag} :
    settled.add (.flag flag) = .ok next ↔
      (flag.isCounted ∨ flag ∉ settled.flags) ∧
        next = { settled with flags := settled.flags ++ [flag] } := by
  rw [add]
  split
  · next hrefused =>
    have hflag : ¬ (flag.isCounted ∨ flag ∉ settled.flags) := by simpa using hrefused
    simp only [reduceCtorEq, hflag, false_and]
  · next hadmitted =>
    have hflag : flag.isCounted ∨ flag ∉ settled.flags := by grind
    simp only [Except.ok.injEq, hflag, true_and, @eq_comm _ next]

lemma add_valued_eq_ok_iff {settled next : Settled} {switch : ValueSwitch} {value : Text}
    {attached : Bool} :
    settled.add (.valued switch value attached) = .ok next ↔
      ((switch.isRepeatable ∨ switch ∉ settled.values.map Prod.fst) ∧ switch.accepts value) ∧
        next = { settled with values := settled.values ++ [(switch, value)] } := by
  have hany : settled.values.any (·.1 = switch) = true ↔ switch ∈ settled.values.map Prod.fst := by
    simp
  rw [add]
  split
  · next hrefused =>
    have hswitch : ¬ (switch.isRepeatable ∨ switch ∉ settled.values.map Prod.fst) := by grind
    simp only [reduceCtorEq, hswitch, false_and]
  · next hadmitted =>
    have hswitch : switch.isRepeatable ∨ switch ∉ settled.values.map Prod.fst := by grind
    by_cases haccepts : switch.accepts value
    · simp only [haccepts, Bool.not_true, Bool.false_eq_true, if_false, Except.ok.injEq, hswitch,
        and_self, true_and, @eq_comm _ next]
    · simp [haccepts]

lemma add_word_eq_ok_iff {settled next : Settled} {word : Text} :
    settled.add (.word word) = .ok next ↔
      ¬ (settled.words.length = 1 ∧ word = []) ∧
        next = { settled with words := settled.words ++ [word] } := by
  rw [add]
  split
  · next hrefused =>
    have hword : settled.words.length = 1 ∧ word = [] := by simpa using hrefused
    simp only [reduceCtorEq, hword, and_self, not_true_eq_false, false_and]
  · next hadmitted =>
    have hword : ¬ (settled.words.length = 1 ∧ word = []) := by simpa using hadmitted
    simp only [Except.ok.injEq, hword, not_false_eq_true, true_and, @eq_comm _ next]

/-- One more occurrence settles exactly when what there is then can stand. -/
lemma add_of_eq_ok_iff {occurrences : List Occurrence} {occurrence : Occurrence} {next : Settled}
    (h : (of occurrences).Admitted) :
    (of occurrences).add occurrence = .ok next ↔
      (∀ switch, occurrence ≠ .unvalued switch) ∧ next = of (occurrences ++ [occurrence]) ∧
        next.Admitted := by
  cases occurrence with
  | flag flag =>
    have hof : of (occurrences ++ [.flag flag]) =
        { of occurrences with flags := (of occurrences).flags ++ [flag] } := by
      simp [of]
    rw [add_flag_eq_ok_iff, hof]
    constructor
    · rintro ⟨hflag, rfl⟩
      exact ⟨by simp, rfl, admitted_flag_iff.2 ⟨h, hflag⟩⟩
    · rintro ⟨-, rfl, hnext⟩
      exact ⟨(admitted_flag_iff.1 hnext).2, rfl⟩
  | valued switch value attached =>
    have hof : of (occurrences ++ [.valued switch value attached]) =
        { of occurrences with values := (of occurrences).values ++ [(switch, value)] } := by
      simp [of]
    rw [add_valued_eq_ok_iff, hof]
    constructor
    · rintro ⟨hvalue, rfl⟩
      exact ⟨by simp, rfl, admitted_value_iff.2 ⟨h, hvalue⟩⟩
    · rintro ⟨-, rfl, hnext⟩
      exact ⟨(admitted_value_iff.1 hnext).2, rfl⟩
  | unvalued switch => simp [add]
  | word word =>
    have hof : of (occurrences ++ [.word word]) =
        { of occurrences with words := (of occurrences).words ++ [word] } := by
      simp [of]
    rw [add_word_eq_ok_iff, hof]
    constructor
    · rintro ⟨hword, rfl⟩
      exact ⟨by simp, rfl, admitted_word_iff.2 ⟨h, hword⟩⟩
    · rintro ⟨-, rfl, hnext⟩
      exact ⟨(admitted_word_iff.1 hnext).2, rfl⟩

lemma Admitted.of_append {front behind : List Occurrence} (h : (of (front ++ behind)).Admitted) :
    (of front).Admitted := by
  obtain ⟨hflags, hswitches, hvalues, hpath⟩ := h
  simp only [of, List.filterMap_append] at hflags hswitches hvalues hpath
  rw [List.filter_append] at hflags
  rw [List.map_append, List.filter_append] at hswitches
  refine ⟨hflags.of_append_left, hswitches.of_append_left, ?_, fun hempty => hpath ?_⟩
  · exact fun value hvalue => hvalues value (List.mem_append_left _ hvalue)
  · obtain ⟨hlength, -⟩ := List.getElem?_eq_some_iff.1 hempty
    exact (List.getElem?_append_left hlength).trans hempty

/-- Occurrences settle exactly when every switch has its value and what they give can stand. -/
theorem addAll_nothing_eq_ok_iff {occurrences : List Occurrence} {settled : Settled} :
    nothing.addAll occurrences = .ok settled ↔
      (∀ switch, .unvalued switch ∉ occurrences) ∧ settled = of occurrences ∧
        settled.Admitted := by
  -- from the end, since an occurrence is compared with what is settled in front of it
  induction occurrences using List.reverseRecOn generalizing settled with
  | nil =>
    constructor
    · rintro ⟨⟩
      exact ⟨by simp, rfl, admitted_nothing⟩
    · rintro ⟨-, rfl, -⟩
      rfl
  | append_singleton front last ih =>
    have hsnoc : nothing.addAll (front ++ [last]) =
        (nothing.addAll front).bind (add · last) := by
      simp only [addAll, List.foldlM_append, List.foldlM_cons, List.foldlM_nil, bind_pure]
      rfl
    rw [hsnoc]
    constructor
    · intro h
      cases hfront : nothing.addAll front with
      | error stop =>
        rw [hfront] at h
        cases h
      | ok before =>
        obtain ⟨hvalued, rfl, hadmitted⟩ := ih.1 hfront
        rw [hfront] at h
        obtain ⟨hlast, hnext⟩ := (add_of_eq_ok_iff hadmitted).1 h
        refine ⟨fun switch hmem => ?_, hnext⟩
        rcases List.mem_append.1 hmem with hmem | hmem
        · exact hvalued switch hmem
        · exact hlast switch (List.mem_singleton.1 hmem).symm
    · rintro ⟨hvalued, rfl, hadmitted⟩
      have hbefore := hadmitted.of_append
      have hfront : nothing.addAll front = .ok (of front) :=
        ih.2 ⟨fun switch hmem => hvalued switch (List.mem_append_left _ hmem), rfl, hbefore⟩
      rw [hfront]
      refine (add_of_eq_ok_iff hbefore).2 ⟨?_, rfl, hadmitted⟩
      rintro switch rfl
      exact hvalued switch (by simp)

/-- Flags conflict unless no two of them are given. -/
lemma conflicting_eq_false_iff {settled : Settled} {flags : List Flag} :
    settled.conflicting flags = false ↔
      flags.Pairwise fun flag other => ¬ (settled.has flag ∧ settled.has other) := by
  induction flags with
  | nil => simp [conflicting]
  | cons flag flags ih =>
    rw [List.pairwise_cons, ← ih]
    by_cases hflag : settled.has flag
    · have hnone : flags.filter settled.has = [] ↔ ∀ other ∈ flags, ¬ settled.has other := by
        simp
      have hcount : settled.conflicting (flag :: flags) = false ↔
          flags.filter settled.has = [] := by
        simp [conflicting, hflag]
      rw [hcount]
      constructor
      · intro hempty
        refine ⟨fun other hother hboth => hnone.1 hempty other hother hboth.2, ?_⟩
        simp [conflicting, hempty]
      · rintro ⟨hothers, -⟩
        exact hnone.2 fun other hother hgiven => hothers other hother ⟨hflag, hgiven⟩
    · simp [conflicting, hflag]

end Settled

lemma Scan.settle_eq_ok_iff {scan : Scan} {settled : Settled} :
    scan.settle = .ok settled ↔
      scan.halt = none ∧ Settled.nothing.addAll scan.occurrences = .ok settled := by
  obtain ⟨occurrences, halt⟩ := scan
  cases halt with
  | none =>
    simp only [settle, Scan.settled]
    cases Settled.nothing.addAll occurrences <;> simp [bind, Except.bind]
  | some halt =>
    simp only [settle]
    cases Settled.nothing.addAll (Scan.settled ⟨occurrences, some halt⟩) <;>
      simp [bind, Except.bind]

/-! ## A whole command line -/

/-- The command that a level asks for. -/
def commandOf (level : Level) (settled : Settled) : Except Stop Command :=
  match level with
  | .refactor => (refactorRequest settled).map .refactor
  | _ => (generateRequest settled).map .generate

lemma generateRequest_eq_ok {settled : Settled} {request : GenerateRequest}
    (h : generateRequest settled = .ok request) :
    settled.conflicting [.editor, .runtime, .both] = false ∧
      request.editor = settled.has .editor ∧ request.runtime = settled.has .runtime ∧
      request.both = settled.has .both := by
  unfold generateRequest at h
  split at h
  · cases h
  · next hconflict =>
    cases h
    exact ⟨by simpa using hconflict, rfl, rfl, rfl⟩

lemma refactorRequest_eq_ok {settled : Settled} {request : RefactorRequest}
    (h : refactorRequest settled = .ok request) :
    settled.conflicting [.file, .folder] = false ∧
      settled.words = [request.mode, request.path] ∧
      (request.file = settled.has .file ∧ request.folder = settled.has .folder ∧
        request.dryRun = settled.has .dryRun) ∧
      request.excludes = settled.valuesOf .exclude := by
  unfold refactorRequest at h
  split at h
  · cases h
  · next hconflict =>
    split at h
    · next hwords =>
      cases h
      exact ⟨by simpa using hconflict, hwords, ⟨rfl, rfl, rfl⟩, rfl⟩
    · cases h

/-- The verbosity, by the flags in front of the subcommand and those behind it. -/
def verbosityOf (front behind : List Flag) : Nat :=
  if verboseCount behind = 0 then verboseCount front else verboseCount behind

lemma readSubcommand_eq (level : Level) (front : List Flag) (arguments : List Text) :
    readSubcommand level front arguments =
      (scan level (wordCount level) none arguments).settle.bind fun settled =>
        (commandOf level settled).map (⟨verbosityOf front settled.flags, ·⟩) := by
  unfold readSubcommand
  cases (scan level (wordCount level) none arguments).settle with
  | error stop => rfl
  | ok settled =>
    have hrefactor {verbosity : Nat} : (refactorRequest settled >>= fun request =>
        pure (⟨verbosity, .refactor request⟩ : CommandLine)) =
        ((refactorRequest settled).map .refactor).map (⟨verbosity, ·⟩) := by
      cases refactorRequest settled <;> rfl
    have hgenerate {verbosity : Nat} : (generateRequest settled >>= fun request =>
        pure (⟨verbosity, .generate request⟩ : CommandLine)) =
        ((generateRequest settled).map .generate).map (⟨verbosity, ·⟩) := by
      cases generateRequest settled <;> rfl
    cases level with
    | refactor => exact hrefactor
    | generate => exact hgenerate
    | top => exact hgenerate

/-- What the flags, values and words behind a subcommand come to, with the flags in front. -/
structure ComesTo (level : Level) (front : List Flag) (settled : Settled) (line : CommandLine) :
    Prop where
  words : settled.words.length ≤ wordCount level
  admitted : settled.Admitted
  command : commandOf level settled = .ok line.command
  verbosity : line.verbosity = verbosityOf front settled.flags

lemma exists_of_map_eq_ok {α β ε : Type} {f : α → β} {result : Except ε α} {b : β}
    (h : result.map f = .ok b) : ∃ a, result = .ok a ∧ f a = b := by
  cases result with
  | error e => cases h
  | ok a => exact ⟨a, rfl, Except.ok.inj h⟩

lemma ComesTo.generate {front : List Flag} {settled : Settled} {line : CommandLine}
    (h : ComesTo .generate front settled line) :
    ∃ request, line.command = .generate request ∧ generateRequest settled = .ok request := by
  obtain ⟨request, hrequest, hcommand⟩ := exists_of_map_eq_ok h.command
  exact ⟨request, hcommand.symm, hrequest⟩

lemma ComesTo.refactor {front : List Flag} {settled : Settled} {line : CommandLine}
    (h : ComesTo .refactor front settled line) :
    ∃ request, line.command = .refactor request ∧ refactorRequest settled = .ok request := by
  obtain ⟨request, hrequest, hcommand⟩ := exists_of_map_eq_ok h.command
  exact ⟨request, hcommand.symm, hrequest⟩

lemma map_commandOf_eq_ok_iff {level : Level} {settled : Settled} {verbosity : Nat}
    {line : CommandLine} :
    (commandOf level settled).map (⟨verbosity, ·⟩) = .ok line ↔
      commandOf level settled = .ok line.command ∧ line.verbosity = verbosity := by
  obtain ⟨shown, command⟩ := line
  cases commandOf level settled <;> simp [Except.map, and_comm, @eq_comm _ shown]

lemma readSubcommand_eq_ok_iff {level : Level} {front : List Flag} {arguments : List Text}
    {line : CommandLine} :
    readSubcommand level front arguments = .ok line ↔
      ∃ occurrences, Spelled level none arguments occurrences ∧
        ComesTo level front (.of occurrences) line := by
  rw [readSubcommand_eq]
  constructor
  · intro h
    cases hsettle : (scan level (wordCount level) none arguments).settle with
    | error stop =>
      rw [hsettle] at h
      cases h
    | ok settled =>
      obtain ⟨hhalt, hall⟩ := Scan.settle_eq_ok_iff.1 hsettle
      obtain ⟨hvalued, rfl, hadmitted⟩ := Settled.addAll_nothing_eq_ok_iff.1 hall
      have hscan : scan level (wordCount level) none arguments =
          ⟨(scan level (wordCount level) none arguments).occurrences, none⟩ := by
        rw [← hhalt]
      obtain ⟨hspelled, hwords⟩ := scan_eq_iff.1 ⟨hscan, hvalued⟩
      rw [hsettle] at h
      obtain ⟨hcommand, hverbosity⟩ := map_commandOf_eq_ok_iff.1 h
      exact ⟨_, hspelled, hwords, hadmitted, hcommand, hverbosity⟩
  · rintro ⟨occurrences, hspelled, hwords, hadmitted, hcommand, hverbosity⟩
    have hall := Settled.addAll_nothing_eq_ok_iff.2 ⟨hspelled.unvalued_notMem, rfl, hadmitted⟩
    have hsettle : Scan.settle ⟨occurrences, none⟩ = .ok (.of occurrences) :=
      Scan.settle_eq_ok_iff.2 ⟨rfl, hall⟩
    rw [hspelled.scan_eq hwords, hsettle]
    exact map_commandOf_eq_ok_iff.2 ⟨hcommand, hverbosity⟩

/-- A command line: flags, and then the name of a subcommand and what is spelled behind it. -/
inductive Composed : List Text → List Flag → Level → List Occurrence → Prop
  | subcommand {name : Text} {level : Level} {behind : List Text} {occurrences : List Occurrence}
    (h : subcommand? name = some level) (hbehind : Spelled level none behind occurrences) :
    Composed (name :: behind) [] level occurrences
  | flags {argument : Text} {rest : List Text} {first front : List Flag} {level : Level}
    {occurrences : List Occurrence} (h : Gives .top argument (first.map .flag) none)
    (hrest : Composed rest front level occurrences) :
    Composed (argument :: rest) (first ++ front) level occurrences

lemma subcommand?_cases {name : Text} {level : Level} (h : subcommand? name = some level) :
    (name = "generate" ∨ name = "gen") ∧ level = .generate ∨
      name = "rewrite" ∧ level = .refactor := by
  have hall : ∀ entry ∈ [(("generate" : Text), Level.generate), ("gen", .generate),
      ("rewrite", .refactor)], (entry.1 = "generate" ∨ entry.1 = "gen") ∧ entry.2 = .generate ∨
        entry.1 = "rewrite" ∧ entry.2 = .refactor := by decide
  exact hall _ (mem_of_lookup h)

lemma head?_of_subcommand? {name : Text} {level : Level} (h : subcommand? name = some level) :
    name.head? ≠ some '-' := by
  rcases subcommand?_cases h with ⟨rfl | rfl, -⟩ | ⟨rfl, -⟩ <;> decide

lemma isPlain_of_subcommand? {name : Text} {level : Level} (h : subcommand? name = some level) :
    IsPlain name :=
  Or.inl (head?_of_subcommand? h)

lemma lookup_letters_ne_valued {level : Level} (h : level ≠ .generate) {letter : Char}
    {switch : ValueSwitch} : (letters level).lookup letter ≠ some (.valued switch) := by
  have hall : ∀ entry ∈ letters level, entry.2 ≠ .valued switch := by
    cases level <;> simp_all [letters]
  exact fun hlookup => hall _ (mem_of_lookup hlookup) rfl

/-- In front of the subcommand there are flags only. -/
lemma Gives.flags_of_top {argument : Text} {occurrences : List Occurrence}
    {awaited : Option ValueSwitch} (h : Gives .top argument occurrences awaited) :
    occurrences = (occurrences.filterMap Occurrence.flag?).map .flag ∧ awaited = none := by
  have hname {name : Text} {switch : ValueSwitch} :
      (longNames .top).lookup name ≠ some (.valued switch) := by
    have hall : ∀ entry ∈ longNames .top, entry.2 ≠ .valued switch := by simp [longNames]
    exact fun hlookup => hall _ (mem_of_lookup hlookup) rfl
  have hletter {letter : Char} {switch : ValueSwitch} :
      (letters .top).lookup letter ≠ some (.valued switch) :=
    lookup_letters_ne_valued (by decide)
  cases h with
  | flag h => exact ⟨rfl, rfl⟩
  | flagLetters hne h => simp [List.filterMap_map, Function.comp_def]
  | option h => exact absurd h hname
  | optionValue h value => exact absurd h hname
  | optionLetter h hswitch => exact absurd hswitch hletter
  | letterEquals h hswitch value => exact absurd hswitch hletter
  | letterValue h hswitch hne hequals => exact absurd hswitch hletter

section

variable {flags : List Flag} {argument : Text} {rest : List Text} {line : CommandLine}

lemma readTop_flags {first : List Flag} (h : Gives .top argument (first.map .flag) none) :
    readTop flags (argument :: rest) = readTop (flags ++ first) rest := by
  obtain ⟨long, t, hshape, hread⟩ := h.read
  simp [readTop, hshape, hread, Remainder.after, List.filterMap_map, Function.comp_def]

lemma readTop_subcommand {level : Level} (h : subcommand? argument = some level) :
    readTop flags (argument :: rest) = readSubcommand level flags rest := by
  simp [readTop, (Shaped.plain (isPlain_of_subcommand? h)).of_eq, h]

/-- Reading goes on only at flags and at the name of a subcommand. -/
lemma forms_of_readTop (h : readTop flags (argument :: rest) = .ok line) :
    (∃ level, subcommand? argument = some level) ∨
      ∃ first : List Flag, Gives .top argument (first.map .flag) none := by
  unfold readTop at h
  cases hshape : Shape.of argument with
  | dashes =>
    rw [hshape] at h
    cases rest <;> cases h
  | word =>
    rw [hshape] at h
    cases hname : subcommand? argument with
    | some level => exact Or.inl ⟨level, rfl⟩
    | none =>
      simp [hname] at h
  | switches long t =>
    rw [hshape] at h
    rcases hread : readSwitches .top long t with ⟨occurrences, remainder⟩
    cases remainder with
    | complete =>
      have hgives : Gives .top argument occurrences none := Gives.of_read hshape hread
      refine Or.inr ⟨occurrences.filterMap Occurrence.flag?, ?_⟩
      rw [← hgives.flags_of_top.1]
      exact hgives
    | awaits switch => simp [hread] at h
    | halts halt => simp [hread] at h

end

lemma readTop_eq_ok_iff {flags : List Flag} {arguments : List Text} {line : CommandLine} :
    readTop flags arguments = .ok line ↔
      ∃ front level occurrences, Composed arguments front level occurrences ∧
        ComesTo level (flags ++ front) (.of occurrences) line := by
  constructor
  · intro h
    induction arguments generalizing flags with
    | nil => cases h
    | cons argument rest ih =>
      rcases forms_of_readTop h with ⟨level, hlevel⟩ | ⟨first, hgives⟩
      · rw [readTop_subcommand hlevel] at h
        obtain ⟨occurrences, hspelled, hcomes⟩ := readSubcommand_eq_ok_iff.1 h
        exact ⟨[], level, occurrences, .subcommand hlevel hspelled, by simpa using hcomes⟩
      · rw [readTop_flags hgives] at h
        obtain ⟨front, level, occurrences, hcomposed, hcomes⟩ := ih h
        refine ⟨first ++ front, level, occurrences, .flags hgives hcomposed, ?_⟩
        rwa [List.append_assoc] at hcomes
  · rintro ⟨front, level, occurrences, hcomposed, hcomes⟩
    induction hcomposed generalizing flags with
    | subcommand hlevel hbehind =>
      rw [readTop_subcommand hlevel]
      exact readSubcommand_eq_ok_iff.2 ⟨_, hbehind, by simpa using hcomes⟩
    | flags hgives _ ih =>
      rw [readTop_flags hgives]
      refine ih ?_
      rwa [List.append_assoc]

/-- A command line is read exactly when it is composed of flags, a subcommand and what comes to a
command behind it. -/
theorem ofArguments_eq_ok_iff {arguments : List Text} {line : CommandLine} :
    ofArguments arguments = .ok line ↔
      ∃ front level occurrences, Composed arguments front level occurrences ∧
        ComesTo level front (.of occurrences) line :=
  readTop_eq_ok_iff

/-- Arguments are spelled in one way only. -/
lemma Spelled.unique {level : Level} {awaiting : Option ValueSwitch} {arguments : List Text}
    {occurrences others : List Occurrence} (h : Spelled level awaiting arguments occurrences)
    (h' : Spelled level awaiting arguments others) : occurrences = others := by
  let slots := max (occurrences.filterMap Occurrence.word?).length
    (others.filterMap Occurrence.word?).length
  have hscan : scan level slots awaiting arguments = ⟨occurrences, none⟩ :=
    h.scan_eq (Nat.le_max_left _ _)
  have hscan' : scan level slots awaiting arguments = ⟨others, none⟩ :=
    h'.scan_eq (Nat.le_max_right _ _)
  exact congrArg Scan.occurrences (hscan.symm.trans hscan')

/-- A command line is composed in one way only. -/
lemma Composed.unique {arguments : List Text} {front front' : List Flag} {level level' : Level}
    {occurrences occurrences' : List Occurrence} (h : Composed arguments front level occurrences)
    (h' : Composed arguments front' level' occurrences') :
    front = front' ∧ level = level' ∧ occurrences = occurrences' := by
  induction h generalizing front' with
  | subcommand hlevel hbehind =>
    cases h' with
    | subcommand hlevel' hbehind' =>
      obtain rfl : _ = level' := Option.some.inj (hlevel.symm.trans hlevel')
      exact ⟨rfl, rfl, hbehind.unique hbehind'⟩
    | flags hgives _ => exact absurd (isPlain_of_subcommand? hlevel) hgives.not_isPlain
  | flags hgives _ ih =>
    cases h' with
    | subcommand hlevel _ => exact absurd (isPlain_of_subcommand? hlevel) hgives.not_isPlain
    | flags hgives' hrest' =>
      obtain ⟨hfirst, -⟩ := hgives.unique hgives'
      obtain ⟨rfl, rfl, rfl⟩ := ih hrest'
      have hinjective : Function.Injective Occurrence.flag := fun _ _ => Occurrence.flag.inj
      exact ⟨by rw [hinjective.list_map hfirst], rfl, rfl⟩

end NodeKit.CommandLine
