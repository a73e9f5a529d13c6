import NodeKit.Proofs.Command.Places

/-!
# Command lines say one thing

A command line that is read sets the flags that its arguments spell, and no two of them
contradict each other. The blocks of the generator and the mode of a path follow from
these flags alone, and the globs are those that were given, in order. An argument that
is a value, or stands behind two dashes, is never taken for a flag
(`ofArguments_consistent`).
-/
namespace NodeKit.CommandLine

/-- Whether a command has a flag set. How long the log is to be is no part of the command. -/
def hasFlag : Command → Flag → Bool
  | .generate request, .editor => request.editor
  | .generate request, .runtime => request.runtime
  | .generate request, .both => request.both
  | .refactor request, .file => request.file
  | .refactor request, .folder => request.folder
  | .refactor request, .dryRun => request.dryRun
  | _, _ => false

/-- The flags of a level that are part of its command. -/
def ownFlags : Level → List Flag
  | .top => []
  | .generate => [.editor, .runtime, .both]
  | .refactor => [.file, .folder, .dryRun]

section

variable {level : Level} {front : List Flag} {settled : Settled} {line : CommandLine}
  {occurrences : List Occurrence} {flag : Flag}

/-! ## Flags of a command -/

lemma Spells.mem_ownFlags {argument : Text} (h : Spells level flag argument)
    (hflag : flag ≠ .verbose) : flag ∈ ownFlags level := by
  have hnames : ∀ entry ∈ longNames level, ∀ flag, entry.2 = .flag flag →
      flag = .verbose ∨ flag ∈ ownFlags level := by
    cases level <;> simp [longNames, ownFlags]
  have hletters : ∀ entry ∈ letters level, ∀ flag, entry.2 = .flag flag →
      flag = .verbose ∨ flag ∈ ownFlags level := by
    cases level <;> simp [letters, ownFlags]
  cases h with
  | long hname => exact (hnames _ (mem_of_lookup hname) flag rfl).resolve_left hflag
  | letter hfront hletter => exact (hletters _ (mem_of_lookup hletter) flag rfl).resolve_left hflag

lemma level_of_subcommand? {name : Text} (h : subcommand? name = some level) :
    level = .generate ∨ level = .refactor := by
  rcases subcommand?_cases h with ⟨-, rfl⟩ | ⟨-, rfl⟩
  · exact Or.inl rfl
  · exact Or.inr rfl

lemma ComesTo.of_generate {request : GenerateRequest} (h : ComesTo level front settled line)
    (hlevel : level = .generate ∨ level = .refactor) (hcommand : line.command = .generate request) :
    level = .generate ∧ generateRequest settled = .ok request := by
  rcases hlevel with rfl | rfl
  · obtain ⟨given, hgiven, hsettled⟩ := h.generate
    obtain rfl : given = request := Command.generate.inj (hgiven.symm.trans hcommand)
    exact ⟨rfl, hsettled⟩
  · obtain ⟨given, hgiven, -⟩ := h.refactor
    rw [hgiven] at hcommand
    cases hcommand

lemma ComesTo.of_refactor {request : RefactorRequest} (h : ComesTo level front settled line)
    (hlevel : level = .generate ∨ level = .refactor) (hcommand : line.command = .refactor request) :
    level = .refactor ∧ refactorRequest settled = .ok request := by
  rcases hlevel with rfl | rfl
  · obtain ⟨given, hgiven, -⟩ := h.generate
    rw [hgiven] at hcommand
    cases hcommand
  · obtain ⟨given, hgiven, hsettled⟩ := h.refactor
    obtain rfl : given = request := Command.refactor.inj (hgiven.symm.trans hcommand)
    exact ⟨rfl, hsettled⟩

/-- A command has the flags of its level that were settled. -/
lemma ComesTo.hasFlag_eq (h : ComesTo level front settled line)
    (hlevel : level = .generate ∨ level = .refactor) :
    hasFlag line.command flag = ((ownFlags level).contains flag && settled.has flag) := by
  rcases hlevel with rfl | rfl
  · obtain ⟨request, hcommand, hrequest⟩ := h.generate
    obtain ⟨-, heditor, hruntime, hboth⟩ := generateRequest_eq_ok hrequest
    rw [hcommand]
    cases flag <;> simp [hasFlag, ownFlags, heditor, hruntime, hboth]
  · obtain ⟨request, hcommand, hrequest⟩ := h.refactor
    obtain ⟨-, -, ⟨hfile, hfolder, hdryRun⟩, -⟩ := refactorRequest_eq_ok hrequest
    rw [hcommand]
    cases flag <;> simp [hasFlag, ownFlags, hfile, hfolder, hdryRun]

lemma has_of_iff : (Settled.of occurrences).has flag ↔ .flag flag ∈ occurrences := by
  simp only [Settled.has, Settled.of, List.contains_iff_mem, List.mem_filterMap]
  constructor
  · rintro ⟨occurrence, hmem, hflag⟩
    cases occurrence <;> simp_all
  · intro hmem
    exact ⟨_, hmem, rfl⟩

/-- A command has the flags that occur among its arguments. -/
lemma ComesTo.hasFlag_iff {behind : List Text} (h : ComesTo level front (.of occurrences) line)
    (hlevel : level = .generate ∨ level = .refactor)
    (hspelled : Spelled level none behind occurrences) (hflag : flag ≠ .verbose) :
    hasFlag line.command flag ↔ OccursAsFlag level flag (places level .free behind) := by
  have hoccurs : OccursAsFlag level flag (places level .free behind) ↔ .flag flag ∈ occurrences :=
    hspelled.occursAsFlag_iff
  rw [h.hasFlag_eq hlevel, Bool.and_eq_true, has_of_iff, ← hoccurs, List.contains_iff_mem]
  constructor
  · exact And.right
  · rintro ⟨argument, hmem, hspells⟩
    exact ⟨hspells.mem_ownFlags hflag, argument, hmem, hspells⟩

/-- At most one flag for the blocks is settled. -/
lemma count_blocks_le_one {request : GenerateRequest} (h : generateRequest settled = .ok request) :
    [request.editor, request.runtime, request.both].count true ≤ 1 := by
  obtain ⟨hconflict, heditor, hruntime, hboth⟩ := generateRequest_eq_ok h
  have hmap : [request.editor, request.runtime, request.both] =
      [Flag.editor, .runtime, .both].map settled.has := by
    rw [heditor, hruntime, hboth]
    rfl
  have hgiven : ([Flag.editor, .runtime, .both].filter settled.has).length ≤ 1 := by
    simpa [Settled.conflicting] using hconflict
  rw [hmap, List.count, List.countP_map, List.countP_eq_length_filter]
  simpa [Function.comp_def] using hgiven

/-- Without a contradiction no flag for the blocks hides another one. -/
lemma outputMode_iff {request : GenerateRequest}
    (h : [request.editor, request.runtime, request.both].count true ≤ 1) :
    (request.outputMode = .editor ↔ request.editor) ∧
      (request.outputMode = .runtime ↔ request.runtime) ∧
      (request.outputMode = .both ↔ ¬ request.editor ∧ ¬ request.runtime) := by
  obtain ⟨editor, runtime, both, tagStyle, input⟩ := request
  cases editor <;> cases runtime <;> cases both <;>
    simp_all [GenerateRequest.outputMode]

lemma pathMode_iff {request : RefactorRequest} : request.pathMode = .folder ↔ request.folder := by
  unfold RefactorRequest.pathMode
  split <;> simp_all

/-! ## The front of a command line -/

/-- The first argument without a dash in front, and the arguments around it. -/
structure Divides (arguments top : List Text) (name : Text) (behind : List Text) : Prop where
  eq : arguments = top ++ name :: behind
  top : ∀ argument ∈ top, argument.head? = some '-'
  name : name.head? ≠ some '-'

lemma Composed.exists_divides {arguments : List Text}
    (h : Composed arguments front level occurrences) :
    ∃ top name behind, Divides arguments top name behind := by
  induction h with
  | @subcommand name level behind occurrences hname hbehind =>
    exact ⟨[], name, behind, rfl, by simp, head?_of_subcommand? hname⟩
  | @flags argument rest first front level occurrences hgives _ ih =>
    obtain ⟨top, name, behind, rfl, htop, hname⟩ := ih
    exact ⟨argument :: top, name, behind, rfl, List.forall_mem_cons.2 ⟨hgives.head?, htop⟩, hname⟩

/-- The first argument without a dash is the name of the subcommand. What stands behind it can be
exchanged, and what is in front of it stays. -/
lemma Composed.of_divides {arguments top behind : List Text} {name : Text}
    (hdivides : Divides arguments top name behind)
    (h : Composed arguments front level occurrences) :
    subcommand? name = some level ∧ Spelled level none behind occurrences ∧
      ∀ other others, Spelled level none other others →
        Composed (top ++ name :: other) front level others := by
  obtain ⟨rfl, htop, hname⟩ := hdivides
  induction top generalizing front with
  | nil =>
    cases h with
    | subcommand hlevel hbehind =>
      exact ⟨hlevel, hbehind, fun other others hother => .subcommand hlevel hother⟩
    | flags hgives _ => exact absurd hgives.head? hname
  | cons argument top ih =>
    obtain ⟨hdash, htop⟩ := List.forall_mem_cons.1 htop
    cases h with
    | subcommand hlevel _ => exact absurd hdash (head?_of_subcommand? hlevel)
    | flags hgives hrest =>
      obtain ⟨hlevel, hbehind, hexchange⟩ := ih htop hrest
      exact ⟨hlevel, hbehind, fun other others hother =>
        .flags hgives (hexchange other others hother)⟩

/-- Another value, or another word behind two dashes, leaves the flags of the command line. -/
lemma flags_of_set {arguments top behind : List Text} {name argument other : Text} {place : Place}
    {i : Nat} {changed : CommandLine} (hdivides : Divides arguments top name behind)
    (hcomposed : Composed arguments front level occurrences)
    (hcomes : ComesTo level front (.of occurrences) line)
    (hi : (places level .free behind)[i]? = some (place, argument)) (hplace : place ≠ .free)
    (hchanged : ofArguments (top ++ name :: behind.set i other) = .ok changed) :
    changed.verbosity = line.verbosity ∧ hasFlag changed.command = hasFlag line.command := by
  obtain ⟨front', level', others, hcomposed', hcomes'⟩ := ofArguments_eq_ok_iff.1 hchanged
  obtain ⟨hname, hspelled, hexchange⟩ := hcomposed.of_divides hdivides
  obtain ⟨hname', hspelled', -⟩ := hcomposed'.of_divides ⟨rfl, hdivides.top, hdivides.name⟩
  obtain rfl : level = level' := Option.some.inj (hname.symm.trans hname')
  obtain ⟨rfl, -, -⟩ := hcomposed'.unique (hexchange _ _ hspelled')
  have hflags : (Settled.of others).flags = (Settled.of occurrences).flags :=
    hspelled.filterMap_flag?_set hspelled' hi hplace
  have hlevel := level_of_subcommand? hname
  constructor
  · rw [hcomes'.verbosity, hcomes.verbosity, hflags]
  · funext flag
    rw [hcomes'.hasFlag_eq hlevel, hcomes.hasFlag_eq hlevel, Settled.has, Settled.has, hflags]

end

/-! ## A whole command line -/

/-- A command line that is read sets the flags spelled by arguments that stand free behind the
subcommand, and no others. At most one of them chooses the blocks, and a path is not said to be both
a file and a folder. The globs are the ones given, in order, and the path is not empty. In the place
of a value, or of a word behind two dashes, no argument has a part in the flags. -/
theorem ofArguments_consistent {arguments : List Text} {line : CommandLine}
    (h : ofArguments arguments = .ok line) :
    (∃ top name behind, Divides arguments top name behind) ∧
    ∀ top name behind, Divides arguments top name behind →
      ∃ level, subcommand? name = some level ∧
      let placed := places level .free behind
      (∀ flag, flag ≠ .verbose → (hasFlag line.command flag ↔ OccursAsFlag level flag placed)) ∧
      (∀ request, line.command = .generate request → level = .generate ∧
        [request.editor, request.runtime, request.both].count true ≤ 1 ∧
        (request.outputMode = .editor ↔ OccursAsFlag level .editor placed) ∧
        (request.outputMode = .runtime ↔ OccursAsFlag level .runtime placed) ∧
        (request.outputMode = .both ↔
          ¬ OccursAsFlag level .editor placed ∧ ¬ OccursAsFlag level .runtime placed)) ∧
      (∀ request, line.command = .refactor request → level = .refactor ∧
        ¬ (request.file ∧ request.folder) ∧
        (request.pathMode = .folder ↔ OccursAsFlag level .folder placed) ∧
        request.path ≠ [] ∧ request.excludes = placed.filterMap givenGlob?) ∧
      ∀ i place argument other changed, placed[i]? = some (place, argument) → place ≠ .free →
        ofArguments (top ++ name :: behind.set i other) = .ok changed →
          changed.verbosity = line.verbosity ∧
            hasFlag changed.command = hasFlag line.command := by
  obtain ⟨front, level, occurrences, hcomposed, hcomes⟩ := ofArguments_eq_ok_iff.1 h
  refine ⟨hcomposed.exists_divides, fun top name behind hdivides => ?_⟩
  obtain ⟨hname, hspelled, -⟩ := hcomposed.of_divides hdivides
  have hlevel := level_of_subcommand? hname
  have hflag {flag : Flag} (hflag : flag ≠ .verbose) :=
    hcomes.hasFlag_iff hlevel hspelled hflag
  refine ⟨level, hname, fun flag => hflag, ?_, ?_, ?_⟩
  · intro request hrequest
    obtain ⟨rfl, hsettled⟩ := hcomes.of_generate hlevel hrequest
    have hcount := count_blocks_le_one hsettled
    obtain ⟨heditor, hruntime, hboth⟩ := outputMode_iff hcount
    have hoccursEditor := hflag (by decide : Flag.editor ≠ .verbose)
    have hoccursRuntime := hflag (by decide : Flag.runtime ≠ .verbose)
    rw [hrequest] at hoccursEditor hoccursRuntime
    refine ⟨rfl, hcount, heditor.trans hoccursEditor, hruntime.trans hoccursRuntime, ?_⟩
    exact hboth.trans (and_congr (not_congr hoccursEditor) (not_congr hoccursRuntime))
  · intro request hrequest
    obtain ⟨rfl, hsettled⟩ := hcomes.of_refactor hlevel hrequest
    obtain ⟨hconflict, hwords, ⟨hfile, hfolder, -⟩, hexcludes⟩ := refactorRequest_eq_ok hsettled
    have hoccursFolder := hflag (by decide : Flag.folder ≠ .verbose)
    rw [hrequest] at hoccursFolder
    refine ⟨rfl, ?_, pathMode_iff.trans hoccursFolder, ?_, ?_⟩
    · rw [hfile, hfolder]
      simpa using Settled.conflicting_eq_false_iff.1 hconflict
    · intro hempty
      have hpath := hcomes.admitted.path
      rw [hwords, hempty] at hpath
      exact hpath rfl
    · rw [hexcludes]
      exact hspelled.globsOf_eq
  · intro i place argument other changed hi hplace hchanged
    exact flags_of_set hdivides hcomposed hcomes hi hplace hchanged

/-- An input, a glob, a mode and a path that look like flags are none. -/
theorem ofArguments_consistent_lookalikes :
    let blocks : GenerateRequest := ⟨true, false, false, .bracketed, some "-r"⟩
    let files : RefactorRequest :=
      ⟨"--dry-run", "--file", false, true, "cs", ["a", "--file"], .abort, false⟩
    let changed : RefactorRequest := { files with mode := "x" }
    let behind : List Text :=
      ["--exclude", "a", "--folder", "--exclude=--file", "--", "--dry-run", "--file"]
    ofArguments ["-v", "gen", "-vei-r"] = .ok ⟨1, .generate blocks⟩ ∧
      Divides ["-v", "gen", "-vei-r"] ["-v"] "gen" ["-vei-r"] ∧
      ¬ OccursAsFlag .generate .runtime (places .generate .free ["-vei-r"]) ∧
      ofArguments ("rewrite" :: behind) = .ok ⟨0, .refactor files⟩ ∧
      ¬ OccursAsFlag .refactor .file (places .refactor .free behind) ∧
      files.excludes = (places .refactor .free behind).filterMap givenGlob? ∧
      ofArguments ("rewrite" :: behind.set 5 "x") = .ok ⟨0, .refactor changed⟩ ∧
      hasFlag (.refactor changed) = hasFlag (.refactor files) := by
  intro blocks files changed behind
  have hgenerate : ofArguments ["-v", "gen", "-vei-r"] = .ok ⟨1, .generate blocks⟩ := rfl
  have hrefactor : ofArguments ("rewrite" :: behind) = .ok ⟨0, .refactor files⟩ := rfl
  have hchanged : ofArguments ("rewrite" :: behind.set 5 "x") = .ok ⟨0, .refactor changed⟩ := rfl
  have hdivides : Divides ["-v", "gen", "-vei-r"] ["-v"] "gen" ["-vei-r"] :=
    ⟨rfl, by decide, by decide⟩
  obtain ⟨-, hgen⟩ := ofArguments_consistent hgenerate
  obtain ⟨level, hlevel, hflags, -⟩ := hgen _ _ _ hdivides
  obtain rfl : Level.generate = level := Option.some.inj hlevel
  obtain ⟨-, hrewrite⟩ := ofArguments_consistent hrefactor
  obtain ⟨level, hlevel, hflags', -, hrequest, hset⟩ :=
    hrewrite [] "rewrite" behind ⟨rfl, by decide, by decide⟩
  obtain rfl : Level.refactor = level := Option.some.inj hlevel
  obtain ⟨-, -, -, -, hexcludes⟩ := hrequest files rfl
  have hplace : (places .refactor .free behind)[5]? =
      some (.behindDashes, ("--dry-run" : Text)) := rfl
  refine ⟨hgenerate, hdivides, ?_, hrefactor, ?_, hexcludes, hchanged, ?_⟩
  · rw [← hflags .runtime (by decide)]
    decide
  · rw [← hflags' .file (by decide)]
    decide
  · exact (hset 5 _ _ "x" _ hplace (by decide) hchanged).2

end NodeKit.CommandLine
