import NodeKit.Proofs.Command.Settling

/-!
# How long a log is asked for

A longer log can be asked for in front of the subcommand and behind it. The two
numbers are not added up: the one behind the subcommand counts alone, if it is not
zero. So one more flag makes the log longer or leaves it as it is, with one
exception: it is the first one behind the subcommand, and there are two or more in
front (`ofArguments_verbosity`).
-/
namespace NodeKit.CommandLine

/-! ## One more flag -/

lemma gives_verbose {more : Text} (h : more ∈ (["-v", "--verbose"] : List Text)) (level : Level) :
    Gives level more [.flag .verbose] none := by
  have hletter : (letters level).lookup 'v' = some (.flag .verbose) := by cases level <;> rfl
  have hname : (longNames level).lookup ("verbose" : Text) = some (.flag .verbose) := by
    cases level <;> rfl
  obtain rfl | rfl : more = "-v" ∨ more = "--verbose" := by simpa using h
  · exact .flagLetters (List.cons_ne_nil _ _) (.cons hletter .nil)
  · exact .flag hname

section

variable {level level' : Level} {before after : List Text} {more : Text}
  {front front' : List Flag} {occurrences occurrences' : List Occurrence}

/-- One more flag among arguments is one more occurrence of it, if it is not a word behind two
dashes. -/
lemma Spelled.insert {flag : Flag} {awaiting : Option ValueSwitch}
    (hmore : Gives level more [.flag flag] none)
    (h : Spelled level awaiting (before ++ after) occurrences)
    (h' : Spelled level awaiting (before ++ more :: after) occurrences')
    (hwords : (occurrences'.filterMap Occurrence.word?).length =
      (occurrences.filterMap Occurrence.word?).length) :
    ∃ first last, occurrences = first ++ last ∧ occurrences' = first ++ .flag flag :: last := by
  induction before generalizing awaiting occurrences occurrences' with
  | nil =>
    cases h' with
    | dashes words => exact absurd rfl hmore.ne_dashes
    | word hplain _ => exact absurd hplain hmore.not_isPlain
    | value hplain _ => exact absurd hplain hmore.not_isPlain
    | switches hgives hrest =>
      obtain ⟨rfl, rfl⟩ := hmore.unique hgives
      obtain rfl := h.unique hrest
      exact ⟨[], occurrences, rfl, rfl⟩
  | cons argument before ih =>
    -- an argument has one form only, so both spellings begin with the same rule
    cases h with
    | dashes words =>
      cases h' with
      | dashes words' =>
        -- behind two dashes the flag would be one word more
        simp [List.filterMap_map, Function.comp_def] at hwords
      | word hplain _ => exact absurd hplain (by decide)
      | switches hgives _ => exact absurd rfl hgives.ne_dashes
    | word hplain hrest =>
      cases h' with
      | dashes words' => exact absurd hplain (by decide)
      | word _ hrest' =>
        obtain ⟨first, last, rfl, rfl⟩ := ih hrest hrest' (by simpa using hwords)
        exact ⟨.word argument :: first, last, rfl, rfl⟩
      | switches hgives _ => exact absurd hplain hgives.not_isPlain
    | switches hgives hrest =>
      cases h' with
      | dashes words' => exact absurd rfl hgives.ne_dashes
      | word hplain _ => exact absurd hplain hgives.not_isPlain
      | @switches _ _ given rest' _ hgives' hrest' =>
        obtain ⟨rfl, rfl⟩ := hgives.unique hgives'
        rw [List.filterMap_append, List.filterMap_append, hgives.filterMap_word?] at hwords
        obtain ⟨first, last, rfl, rfl⟩ := ih hrest hrest' hwords
        exact ⟨_, last, (List.append_assoc _ first last).symm,
          (List.append_assoc _ first _).symm⟩
    | @value switch _ _ _ hplain hrest =>
      cases h' with
      | value _ hrest' =>
        obtain ⟨first, last, rfl, rfl⟩ :=
          ih hrest hrest' (by simpa [List.filterMap_cons] using hwords)
        exact ⟨.valued switch argument false :: first, last, rfl, rfl⟩

/-- One more flag on a command line is one more in front of the subcommand or behind it. -/
lemma Composed.insert (hmore : more ∈ (["-v", "--verbose"] : List Text))
    (h : Composed (before ++ after) front level occurrences)
    (h' : Composed (before ++ more :: after) front' level' occurrences')
    (hwords : (occurrences.filterMap Occurrence.word?).length = wordCount level)
    (hwords' : (occurrences'.filterMap Occurrence.word?).length = wordCount level') :
    level' = level ∧
      ((∃ first last, front = first ++ last ∧ front' = first ++ .verbose :: last ∧
          occurrences' = occurrences) ∨
        ∃ first last, front' = front ∧ occurrences = first ++ last ∧
          occurrences' = first ++ .flag .verbose :: last) := by
  induction before generalizing front front' with
  | nil =>
    cases h' with
    | subcommand hlevel _ =>
      exact absurd (isPlain_of_subcommand? hlevel) (gives_verbose hmore .top).not_isPlain
    | @flags _ _ given rest' _ _ hgives hrest =>
      obtain ⟨hgiven, -⟩ := (gives_verbose hmore .top).unique hgives
      obtain rfl : given = [.verbose] := by
        cases given <;> simp_all
      obtain ⟨rfl, rfl, rfl⟩ := h.unique hrest
      exact ⟨rfl, Or.inl ⟨[], front, rfl, rfl, rfl⟩⟩
  | cons argument before ih =>
    cases h with
    | subcommand hlevel hbehind =>
      cases h' with
      | subcommand hlevel' hbehind' =>
        obtain rfl : level = level' := Option.some.inj (hlevel.symm.trans hlevel')
        obtain ⟨first, last, rfl, rfl⟩ :=
          hbehind.insert (gives_verbose hmore level) hbehind' (hwords'.trans hwords.symm)
        exact ⟨rfl, Or.inr ⟨first, last, rfl, rfl, rfl⟩⟩
      | flags hgives _ => exact absurd (isPlain_of_subcommand? hlevel) hgives.not_isPlain
    | flags hgives hrest =>
      cases h' with
      | subcommand hlevel _ => exact absurd (isPlain_of_subcommand? hlevel) hgives.not_isPlain
      | @flags _ _ given rest' _ _ hgives' hrest' =>
        obtain ⟨hgiven, -⟩ := hgives.unique hgives'
        have hinjective : Function.Injective Occurrence.flag := fun _ _ => Occurrence.flag.inj
        obtain rfl := hinjective.list_map hgiven
        obtain ⟨rfl, hinserted⟩ := ih hrest hrest'
        refine ⟨rfl, ?_⟩
        rcases hinserted with ⟨first, last, rfl, rfl, rfl⟩ | ⟨first, last, rfl, rfl, rfl⟩
        · exact Or.inl ⟨_, last, (List.append_assoc _ first last).symm,
            (List.append_assoc _ first _).symm, rfl⟩
        · exact Or.inr ⟨first, last, rfl, rfl, rfl⟩

end

/-! ## Commands and levels -/

/-- As many words stand on a command line that is read as its level takes. -/
lemma ComesTo.length_words {level : Level} {front : List Flag} {settled : Settled}
    {line : CommandLine} (h : ComesTo level front settled line) :
    settled.words.length = wordCount level := by
  have hwords := h.words
  cases level with
  | refactor =>
    obtain ⟨request, -, hrequest⟩ := h.refactor
    rw [(refactorRequest_eq_ok hrequest).2.1]
    rfl
  | generate => exact Nat.le_zero.1 hwords
  | top => exact Nat.le_zero.1 hwords

/-- How often a longer log is asked for has no part in the command. -/
lemma commandOf_eq {settled other : Settled}
    (hflags : ∀ flag, flag ≠ .verbose → settled.has flag = other.has flag)
    (hvalues : settled.values = other.values) (hwords : settled.words = other.words)
    (level : Level) : commandOf level settled = commandOf level other := by
  have hvalue : settled.value? = other.value? := by
    funext switch
    rw [Settled.value?, Settled.value?, hvalues]
  have hvaluesOf : settled.valuesOf = other.valuesOf := by
    funext switch
    rw [Settled.valuesOf, Settled.valuesOf, hvalues]
  have hconflicting (flags : List Flag) (hquiet : .verbose ∉ flags) :
      settled.conflicting flags = other.conflicting flags := by
    rw [Settled.conflicting, Settled.conflicting]
    rw [List.filter_congr fun flag hflag => hflags flag fun heq => hquiet (heq ▸ hflag)]
  have hrefactor : refactorRequest settled = refactorRequest other := by
    unfold refactorRequest
    rw [hconflicting _ (by decide), hwords, hvalue, hvaluesOf, hflags _ (by decide),
      hflags _ (by decide), hflags _ (by decide)]
  have hgenerate : generateRequest settled = generateRequest other := by
    unfold generateRequest
    rw [hconflicting _ (by decide), hvalue, hflags _ (by decide), hflags _ (by decide),
      hflags _ (by decide)]
  cases level <;> simp only [commandOf, hrefactor, hgenerate]

lemma verbosityOf_eq (front behind : List Flag) :
    verbosityOf front behind = min maxCount
      (if behind.count .verbose = 0 then front.count .verbose else behind.count .verbose) := by
  have hmax : 0 < maxCount := by decide
  unfold verbosityOf verboseCount
  split <;> split <;> omega

lemma rank_ofVerbosity (verbosity : Nat) :
    (Severity.ofVerbosity verbosity).rank = if verbosity = 0 then 0 else min (verbosity + 1) 4 := by
  match verbosity with
  | 0 => rfl
  | 1 => rfl
  | 2 => rfl
  | more + 3 => simp [Severity.ofVerbosity, Severity.rank]

/-- The log becomes shorter only when two or more flags are replaced by one. -/
lemma rank_lt_iff {outer inner outer' inner' : Nat}
    (h : outer' = outer + 1 ∧ inner' = inner ∨ outer' = outer ∧ inner' = inner + 1) :
    (Severity.ofVerbosity (min maxCount (if inner' = 0 then outer' else inner'))).rank <
        (Severity.ofVerbosity (min maxCount (if inner = 0 then outer else inner))).rank ↔
      inner = 0 ∧ inner' = 1 ∧ 2 ≤ outer := by
  have hmax : maxCount = 255 := rfl
  rw [rank_ofVerbosity, rank_ofVerbosity, hmax]
  rcases h with ⟨rfl, rfl⟩ | ⟨rfl, rfl⟩
  · split_ifs <;> omega
  · rw [if_neg (Nat.succ_ne_zero _)]
    split_ifs <;> omega

/-- One more flag among occurrences leaves the command, and it is counted. -/
lemma of_insert (first last : List Occurrence) (level : Level) :
    let settled := Settled.of (first ++ last)
    let longer := Settled.of (first ++ .flag .verbose :: last)
    commandOf level longer = commandOf level settled ∧
      longer.flags.count .verbose = settled.flags.count .verbose + 1 := by
  constructor
  · refine commandOf_eq (fun flag hflag => ?_) ?_ ?_ level
    · simp [Settled.has, Settled.of, hflag]
    · simp [Settled.of, List.filterMap_cons]
    · simp [Settled.of, List.filterMap_cons]
  · simp [Settled.of, Nat.add_assoc]

/-- The numbers of flags in front of the subcommand and behind it are not added up. They come to
their sum when one of them is zero, and when the one behind reaches the largest count. One more flag
anywhere leaves the command, and it makes the log shorter only when it is the first one behind the
subcommand and there are two or more in front. -/
theorem ofArguments_verbosity {arguments : List Text} {line : CommandLine}
    (h : ofArguments arguments = .ok line) :
    (∃ front level occurrences, Composed arguments front level occurrences) ∧
    ∀ front level occurrences, Composed arguments front level occurrences →
      let outer := front.count .verbose
      let inner := (occurrences.filterMap Occurrence.flag?).count .verbose
      line.verbosity = min maxCount (if inner = 0 then outer else inner) ∧
      (line.verbosity = min maxCount (outer + inner) ↔
        outer = 0 ∨ inner = 0 ∨ maxCount ≤ inner) ∧
      ∀ before after more longer, arguments = before ++ after →
        more ∈ (["-v", "--verbose"] : List Text) →
        ofArguments (before ++ more :: after) = .ok longer →
          longer.command = line.command ∧
          ∃ front' occurrences', Composed (before ++ more :: after) front' level occurrences' ∧
            let outer' := front'.count .verbose
            let inner' := (occurrences'.filterMap Occurrence.flag?).count .verbose
            (outer' = outer + 1 ∧ inner' = inner ∨ outer' = outer ∧ inner' = inner + 1) ∧
            (longer.logLevel.rank < line.logLevel.rank ↔ inner = 0 ∧ inner' = 1 ∧ 2 ≤ outer) := by
  obtain ⟨front₀, level₀, occurrences₀, hcomposed₀, hcomes⟩ := ofArguments_eq_ok_iff.1 h
  refine ⟨⟨front₀, level₀, occurrences₀, hcomposed₀⟩, ?_⟩
  intro front level occurrences hcomposed outer inner
  obtain ⟨rfl, rfl, rfl⟩ := hcomposed₀.unique hcomposed
  have hmax : maxCount = 255 := rfl
  have hverbosity : line.verbosity = min maxCount (if inner = 0 then outer else inner) :=
    hcomes.verbosity.trans (verbosityOf_eq _ _)
  refine ⟨hverbosity, ?_, ?_⟩
  · rw [hverbosity]
    split <;> omega
  · rintro before after more longer rfl hmore hlonger
    obtain ⟨front', level', occurrences', hcomposed', hcomes'⟩ := ofArguments_eq_ok_iff.1 hlonger
    obtain ⟨rfl, hinserted⟩ := hcomposed.insert hmore hcomposed' hcomes.length_words
      hcomes'.length_words
    have hverbosity' := hcomes'.verbosity.trans (verbosityOf_eq _ _)
    rcases hinserted with ⟨first, last, rfl, rfl, rfl⟩ | ⟨first, last, rfl, rfl, rfl⟩
    · have hcount : (first ++ .verbose :: last).count .verbose = outer + 1 := by
        simp [outer, Nat.add_assoc]
      refine ⟨Except.ok.inj (hcomes'.command.symm.trans hcomes.command), _, _, hcomposed',
        Or.inl ⟨hcount, rfl⟩, ?_⟩
      rw [CommandLine.logLevel, CommandLine.logLevel, hverbosity, hverbosity']
      exact rank_lt_iff (Or.inl ⟨hcount, rfl⟩)
    · obtain ⟨hcommand, hcount⟩ := of_insert first last level'
      refine ⟨?_, _, _, hcomposed', Or.inr ⟨rfl, hcount⟩, ?_⟩
      · exact Except.ok.inj (hcomes'.command.symm.trans (hcommand.trans hcomes.command))
      · rw [CommandLine.logLevel, CommandLine.logLevel, hverbosity, hverbosity']
        exact rank_lt_iff (Or.inr ⟨rfl, hcount⟩)

/-- One flag in front of the subcommand and one behind it do not come to two, and one more behind
it does not make the log shorter. -/
theorem ofArguments_verbosity_bothSides :
    let line : CommandLine := ⟨1, .generate ⟨false, false, false, .bracketed, none⟩⟩
    let longer : CommandLine := ⟨2, line.command⟩
    ofArguments ["-v", "gen", "-v"] = .ok line ∧
      ofArguments ["-v", "gen", "--verbose", "-v"] = .ok longer ∧
      line.verbosity ≠ min maxCount (1 + 1) ∧ ¬ longer.logLevel.rank < line.logLevel.rank := by
  intro line longer
  have hline : ofArguments ["-v", "gen", "-v"] = .ok line := rfl
  have hlonger : ofArguments ["-v", "gen", "--verbose", "-v"] = .ok longer := rfl
  have hfirst : Gives .top "-v" ([Flag.verbose].map .flag) none := gives_verbose (by decide) .top
  have hcomposed : Composed ["-v", "gen", "-v"] [.verbose] .generate [.flag .verbose] :=
    .flags hfirst (.subcommand rfl (.switches (gives_verbose (by decide) .generate) .nil))
  obtain ⟨-, hreading⟩ := ofArguments_verbosity hline
  obtain ⟨-, hsum, hmore⟩ := hreading _ _ _ hcomposed
  obtain ⟨-, _, _, -, -, hrank⟩ :=
    hmore ["-v", "gen"] ["-v"] "--verbose" longer rfl (by decide) hlonger
  refine ⟨hline, hlonger, fun heq => absurd (hsum.1 heq) (by decide), fun hlt => ?_⟩
  exact absurd (hrank.1 hlt).1 (by decide)

/-- Two flags in front of the subcommand and one behind it come to one, and so the log is shorter
than without the one behind. -/
theorem not_ofArguments_verbosity_sum :
    let line : CommandLine := ⟨2, .generate ⟨false, false, false, .bracketed, none⟩⟩
    let longer : CommandLine := ⟨1, line.command⟩
    ofArguments ["-vv", "gen"] = .ok line ∧ ofArguments ["-vv", "gen", "-v"] = .ok longer ∧
      Composed ["-vv", "gen", "-v"] [.verbose, .verbose] .generate [.flag .verbose] ∧
      longer.verbosity ≠ min maxCount (2 + 1) ∧ longer.logLevel.rank < line.logLevel.rank := by
  have hfirst : Gives .top "-vv" ([Flag.verbose, .verbose].map .flag) none :=
    .flagLetters (by decide) (.cons rfl (.cons rfl .nil))
  refine ⟨rfl, rfl, ?_, by decide, by decide⟩
  exact .flags hfirst (.subcommand rfl (.switches (gives_verbose (by decide) .generate) .nil))

end NodeKit.CommandLine
