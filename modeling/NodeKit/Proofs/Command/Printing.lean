import NodeKit.Proofs.Command.Settling
import Mathlib.Data.List.Perm.Basic

/-!
# Command lines as they are printed

What a command is to do can be said with its switches in any order. Each switch is
printed as one argument with its value attached, so that no value is taken for a
switch, and the mode and the path stand behind two dashes. A command line that is
printed like that is read back as what it says (`ofArguments_printed`).
-/
namespace NodeKit.CommandLine

open Boilerplate (OutputMode TagStyle)
open Refactoring (FailurePolicy PathMode)

/-! ## Switches -/

/-- A switch of a refactoring. -/
inductive RefactorSwitch where
  | extension (t : Text)
  | exclude (glob : Text)
  | onError (policy : FailurePolicy)
  | dryRun
  | folder
  | file
deriving DecidableEq

namespace RefactorSwitch

/-- The argument that gives the switch. -/
def argument : RefactorSwitch → Text
  | .extension t => "--extension=" ++ t
  | .exclude glob => "--exclude=" ++ glob
  | .onError policy => "--on-error=" ++ policy.name
  | .dryRun => "--dry-run"
  | .folder => "--folder"
  | .file => "--file"

def glob? : RefactorSwitch → Option Text
  | .exclude glob => some glob
  | _ => none

/-- What the argument gives. -/
def occurrence : RefactorSwitch → Occurrence
  | .extension t => .valued .extension t true
  | .exclude glob => .valued .exclude glob true
  | .onError policy => .valued .failurePolicy policy.name true
  | .dryRun => .flag .dryRun
  | .folder => .flag .folder
  | .file => .flag .file

lemma gives_argument (switch : RefactorSwitch) :
    Gives .refactor switch.argument [switch.occurrence] none := by
  cases switch with
  | extension t =>
    have hname : (longNames .refactor).lookup ("extension" : Text) =
        some (.valued .extension) := rfl
    exact .optionValue hname t
  | exclude glob =>
    have hname : (longNames .refactor).lookup ("exclude" : Text) =
        some (.valued .exclude) := rfl
    exact .optionValue hname glob
  | onError policy =>
    have hname : (longNames .refactor).lookup ("on-error" : Text) =
        some (.valued .failurePolicy) := rfl
    exact .optionValue hname policy.name
  | dryRun => exact .flag rfl
  | folder => exact .flag rfl
  | file => exact .flag rfl

end RefactorSwitch

/-- A switch of the generator. A flag for the blocks has more than one spelling. -/
inductive GenerateSwitch where
  | blocks (mode : OutputMode) (spelling : Text)
  | tagStyle (style : TagStyle)
  | input (file : Text)
deriving DecidableEq

/-- How the flag for an output mode is spelled. -/
def blockSpellings : OutputMode → List Text
  | .editor => ["-e", "--editor", "--edit"]
  | .runtime => ["-r", "--runtime"]
  | .both => ["-b", "--both"]

/-- The flag for an output mode. -/
def blockFlag : OutputMode → Flag
  | .editor => .editor
  | .runtime => .runtime
  | .both => .both

namespace GenerateSwitch

/-- The argument that gives the switch. -/
def argument : GenerateSwitch → Text
  | .blocks _ spelling => spelling
  | .tagStyle style => "--tag-style=" ++ style.name
  | .input file => "--input=" ++ file

/-- What the argument gives. -/
def occurrence : GenerateSwitch → Occurrence
  | .blocks mode _ => .flag (blockFlag mode)
  | .tagStyle style => .valued .tagStyle style.name true
  | .input file => .valued .input file true

end GenerateSwitch

lemma gives_blockSpelling {mode : OutputMode} {spelling : Text}
    (h : spelling ∈ blockSpellings mode) :
    Gives .generate spelling [.flag (blockFlag mode)] none := by
  have hletter {letter : Char} {flag : Flag}
      (hlookup : (letters .generate).lookup letter = some (.flag flag)) :
      Gives .generate ['-', letter] [.flag flag] none :=
    .flagLetters (List.cons_ne_nil _ _) (.cons hlookup .nil)
  cases mode with
  | editor =>
    obtain rfl | rfl | rfl : spelling = "-e" ∨ spelling = "--editor" ∨ spelling = "--edit" := by
      simpa [blockSpellings] using h
    · exact hletter rfl
    · exact .flag rfl
    · exact .flag rfl
  | runtime =>
    obtain rfl | rfl : spelling = "-r" ∨ spelling = "--runtime" := by
      simpa [blockSpellings] using h
    · exact hletter rfl
    · exact .flag rfl
  | both =>
    obtain rfl | rfl : spelling = "-b" ∨ spelling = "--both" := by
      simpa [blockSpellings] using h
    · exact hletter rfl
    · exact .flag rfl

/-- Which switches say whether a path is a file or a folder. It is a file without any, too. -/
inductive SaysPathMode : PathMode → List RefactorSwitch → Prop
  | folder : SaysPathMode .folder [.folder]
  | file : SaysPathMode .file [.file]
  | unsaid : SaysPathMode .file []

/-- The switches for settings, in one order. -/
def settingSwitches (settings : Refactoring.Settings) (forPath : List RefactorSwitch) :
    List RefactorSwitch :=
  .extension settings.extension :: .onError settings.failurePolicy ::
    (settings.excludes.map .exclude ++ (if settings.dryRun then [.dryRun] else []) ++ forPath)

/-- Switches that say the settings, in any order. Only the globs keep theirs. -/
structure SaysSettings (settings : Refactoring.Settings) (switches : List RefactorSwitch) :
    Prop where
  order : ∃ forPath, SaysPathMode settings.pathMode forPath ∧
    switches.Perm (settingSwitches settings forPath)
  globs : switches.filterMap RefactorSwitch.glob? = settings.excludes

/-- Which switches say what blocks are wanted. Both are without any, too. -/
inductive SaysBlocks : OutputMode → List GenerateSwitch → Prop
  | said {mode : OutputMode} {spelling : Text} (h : spelling ∈ blockSpellings mode) :
    SaysBlocks mode [.blocks mode spelling]
  | unsaid : SaysBlocks .both []

/-- The switches for options and an input, in one order. -/
def optionSwitches (options : Boilerplate.Options) (input : Option Text)
    (forBlocks : List GenerateSwitch) : List GenerateSwitch :=
  .tagStyle options.tagStyle :: (input.toList.map .input ++ forBlocks)

/-- Switches that say what the generator is to do, in any order. -/
def SaysOptions (options : Boilerplate.Options) (input : Option Text)
    (switches : List GenerateSwitch) : Prop :=
  ∃ forBlocks, SaysBlocks options.mode forBlocks ∧
    switches.Perm (optionSwitches options input forBlocks)

/-! ## Order -/

namespace Settled

/-- The same flags and values in some other order. -/
structure Reorders (settled other : Settled) : Prop where
  flags : settled.flags.Perm other.flags
  values : settled.values.Perm other.values
  words : settled.words = other.words

variable {settled other : Settled}

/-- Occurrences that are no words can stand in any order. -/
lemma Reorders.of_perm {occurrences others : List Occurrence} (h : occurrences.Perm others)
    (hwords : others.filterMap Occurrence.word? = []) (behind : List Occurrence) :
    (of (occurrences ++ behind)).Reorders (of (others ++ behind)) where
  flags := (h.append_right _).filterMap _
  values := (h.append_right _).filterMap _
  words := by
    have hnone : occurrences.filterMap Occurrence.word? = [] :=
      List.perm_nil.1 (hwords ▸ h.filterMap _)
    simp [of, hwords, hnone]

lemma Reorders.admitted (h : settled.Reorders other) (hother : other.Admitted) :
    settled.Admitted where
  flags := ((h.flags.filter _).nodup_iff).2 hother.flags
  switches := (((h.values.map _).filter _).nodup_iff).2 hother.switches
  values := fun value hvalue => hother.values value (h.values.mem_iff.1 hvalue)
  path := by rw [h.words]; exact hother.path

lemma Reorders.has_iff (h : settled.Reorders other) (flag : Flag) :
    settled.has flag = true ↔ flag ∈ other.flags := by
  simp [has, h.flags.mem_iff]

lemma value?_eq_head? (settled : Settled) (switch : ValueSwitch) :
    settled.value? switch = (settled.valuesOf switch).head? := by
  obtain ⟨flags, values, words⟩ := settled
  simp only [value?, valuesOf]
  induction values with
  | nil => rfl
  | cons value values ih =>
    obtain ⟨given, t⟩ := value
    by_cases hgiven : given = switch
    · simp [hgiven]
    · have hother : (switch == given) = false := by simpa using Ne.symm hgiven
      simp [List.lookup_cons, hother, hgiven, ih]

/-- Of a switch that is there once at most, there is the same value in any order. -/
lemma Reorders.value?_eq (h : settled.Reorders other) {switch : ValueSwitch}
    (hlength : (other.valuesOf switch).length ≤ 1) :
    settled.value? switch = (other.valuesOf switch).head? := by
  have hperm : (settled.valuesOf switch).Perm (other.valuesOf switch) :=
    (h.values.filter _).map _
  have heq : settled.valuesOf switch = other.valuesOf switch := by
    match hvalues : other.valuesOf switch, hlength with
    | [], _ => exact List.perm_nil.1 (hvalues ▸ hperm)
    | [value], _ => exact List.perm_singleton.1 (hvalues ▸ hperm)
  rw [value?_eq_head?, heq]

end Settled

/-- Arguments that each give one occurrence, in front of others. -/
lemma Spelled.map_append {α : Type} {level : Level} {argument : α → Text}
    {occurrence : α → Occurrence} {xs : List α} {behind : List Text}
    {occurrences : List Occurrence} (h : ∀ x ∈ xs, Gives level (argument x) [occurrence x] none)
    (hbehind : Spelled level none behind occurrences) :
    Spelled level none (xs.map argument ++ behind) (xs.map occurrence ++ occurrences) := by
  induction xs with
  | nil => exact hbehind
  | cons x xs ih =>
    have hrest := ih fun y hy => h y (List.mem_cons_of_mem x hy)
    have hfirst := Spelled.switches (h x List.mem_cons_self) hrest
    exact hfirst

lemma verbosityOf_nil {flags : List Flag} (h : .verbose ∉ flags) : verbosityOf [] flags = 0 := by
  have hcount : verboseCount flags = 0 := by
    rw [verboseCount, List.count_eq_zero.2 h]
    rfl
  rw [verbosityOf, if_pos hcount]
  rfl

/-! ## Settings that are said -/

lemma valuesOf_exclude (switches : List RefactorSwitch) (words : List Text) :
    (Settled.of (switches.map RefactorSwitch.occurrence ++ words.map .word)).valuesOf .exclude =
      switches.filterMap RefactorSwitch.glob? := by
  induction switches with
  | nil => simp [Settled.of, Settled.valuesOf, List.filterMap_map, Function.comp_def]
  | cons switch switches ih =>
    simp only [Settled.of, Settled.valuesOf] at ih ⊢
    cases switch <;>
      simpa [RefactorSwitch.occurrence, RefactorSwitch.glob?, List.filterMap_cons] using ih

section

variable {settings : Refactoring.Settings} {forPath switches : List RefactorSwitch} {path : Text}

/-- The flags for settings. -/
def settingFlags (settings : Refactoring.Settings) (forPath : List RefactorSwitch) : List Flag :=
  (if settings.dryRun then [.dryRun] else []) ++
    forPath.filterMap fun switch => switch.occurrence.flag?

/-- The values for settings. -/
def settingValues (settings : Refactoring.Settings) : List (ValueSwitch × Text) :=
  (.extension, settings.extension) :: (.failurePolicy, settings.failurePolicy.name) ::
    settings.excludes.map (.exclude, ·)

lemma of_settingSwitches (settings : Refactoring.Settings)
    (hforPath : SaysPathMode settings.pathMode forPath) (mode path : Text) :
    Settled.of ((settingSwitches settings forPath).map RefactorSwitch.occurrence ++
        [mode, path].map .word) =
      ⟨settingFlags settings forPath, settingValues settings, [mode, path]⟩ := by
  obtain ⟨pathMode, extension, excludes, policy, dryRun⟩ := settings
  cases hforPath <;> cases dryRun <;>
    simp [Settled.of, settingSwitches, settingFlags, settingValues, RefactorSwitch.occurrence,
      List.filterMap_cons, List.filterMap_map, Function.comp_def]

/-- What is said comes to the same in any order. -/
lemma reorders_of_saysSettings (h : SaysSettings settings switches) (mode path : Text) :
    ∃ forPath, SaysPathMode settings.pathMode forPath ∧
      (Settled.of (switches.map RefactorSwitch.occurrence ++ [mode, path].map .word)).Reorders
        ⟨settingFlags settings forPath, settingValues settings, [mode, path]⟩ := by
  obtain ⟨⟨forPath, hforPath, hperm⟩, -⟩ := h
  have hwords : ((settingSwitches settings forPath).map RefactorSwitch.occurrence).filterMap
      Occurrence.word? = [] := by
    rw [List.filterMap_map, List.filterMap_eq_nil_iff]
    intro switch _
    cases switch <;> rfl
  have hreorders := Settled.Reorders.of_perm (hperm.map RefactorSwitch.occurrence) hwords
    ([mode, path].map .word)
  rw [of_settingSwitches settings hforPath] at hreorders
  exact ⟨forPath, hforPath, hreorders⟩

lemma mem_settingFlags_iff (h : SaysPathMode settings.pathMode forPath) :
    (.dryRun ∈ settingFlags settings forPath ↔ settings.dryRun) ∧
      (.folder ∈ settingFlags settings forPath ↔ settings.pathMode = .folder) ∧
      (.file ∈ settingFlags settings forPath → settings.pathMode = .file) ∧
      .verbose ∉ settingFlags settings forPath := by
  obtain ⟨pathMode, extension, excludes, policy, dryRun⟩ := settings
  cases h <;> cases dryRun <;> simp [settingFlags, RefactorSwitch.occurrence]

lemma admitted_settings (h : SaysPathMode settings.pathMode forPath) (mode : Text)
    (hpath : path ≠ []) :
    Settled.Admitted ⟨settingFlags settings forPath, settingValues settings, [mode, path]⟩ where
  flags := by
    obtain ⟨pathMode, extension, excludes, policy, dryRun⟩ := settings
    cases h <;> cases dryRun <;>
      simp [settingFlags, RefactorSwitch.occurrence, Flag.isCounted]
  switches := by
    simp [settingValues, ValueSwitch.isRepeatable, Function.comp_def]
  values := by
    simp [settingValues, ValueSwitch.accepts, failurePolicy?_name]
  path := by simpa using hpath

/-- The settings of the request are the ones that are said. -/
lemma refactorRequest_of_reorders {settled : Settled} {mode : Text}
    (hforPath : SaysPathMode settings.pathMode forPath)
    (hreorders : settled.Reorders
      ⟨settingFlags settings forPath, settingValues settings, [mode, path]⟩)
    (hexcludes : settled.valuesOf .exclude = settings.excludes) :
    ∃ request, refactorRequest settled = .ok request ∧
      request.mode = mode ∧ request.path = path ∧ request.settings = settings := by
  obtain ⟨hdryRun, hfolder, hfile, -⟩ := mem_settingFlags_iff hforPath
  have hhas := hreorders.has_iff
  have hconflict : settled.conflicting [.file, .folder] = false := by
    rw [Settled.conflicting_eq_false_iff, List.pairwise_pair]
    rintro ⟨hgivenFile, hgivenFolder⟩
    have hmode := hfile ((hhas _).1 hgivenFile)
    rw [hfolder.1 ((hhas _).1 hgivenFolder)] at hmode
    cases hmode
  have hextension : settled.value? .extension = some settings.extension := by
    rw [hreorders.value?_eq] <;> simp [Settled.valuesOf, settingValues]
  have hpolicy : settled.value? .failurePolicy = some settings.failurePolicy.name := by
    rw [hreorders.value?_eq] <;> simp [Settled.valuesOf, settingValues]
  have hdry : settled.has .dryRun = settings.dryRun := by
    rw [Bool.eq_iff_iff, hhas, hdryRun]
  have hpathMode : (if settled.has .folder then PathMode.folder else .file) =
      settings.pathMode := by
    by_cases hgiven : settled.has .folder
    · rw [if_pos hgiven, hfolder.1 ((hhas _).1 hgiven)]
    · rw [if_neg hgiven]
      cases hmode : settings.pathMode with
      | file => rfl
      | folder => exact absurd ((hhas _).2 (hfolder.2 hmode)) hgiven
  refine ⟨⟨mode, path, settled.has .file, settled.has .folder, settings.extension,
    settings.excludes, settings.failurePolicy, settings.dryRun⟩, ?_, rfl, rfl, ?_⟩
  · simp [refactorRequest, hconflict, hreorders.words, hextension, hpolicy, hdry, hexcludes,
      failurePolicy?_name]
  · simp only [RefactorRequest.settings, RefactorRequest.pathMode, hpathMode]

/-- Switches that say the settings come to a request with these settings. -/
lemma comesTo_of_saysSettings (h : SaysSettings settings switches) (mode : Text)
    (hpath : path ≠ []) :
    ∃ request, ComesTo .refactor []
        (.of (switches.map RefactorSwitch.occurrence ++ [mode, path].map .word))
        ⟨0, .refactor request⟩ ∧
      request.mode = mode ∧ request.path = path ∧ request.settings = settings := by
  obtain ⟨forPath, hforPath, hreorders⟩ := reorders_of_saysSettings h mode path
  obtain ⟨-, -, -, hverbose⟩ := mem_settingFlags_iff hforPath
  have hexcludes := (valuesOf_exclude switches [mode, path]).trans h.globs
  obtain ⟨request, hrequest, hsaid⟩ := refactorRequest_of_reorders hforPath hreorders hexcludes
  refine ⟨request, ⟨?_, hreorders.admitted (admitted_settings hforPath mode hpath), ?_, ?_⟩, hsaid⟩
  · rw [hreorders.words]
    rfl
  · rw [commandOf, hrequest]
    rfl
  · exact (verbosityOf_nil fun hmem => hverbose (hreorders.flags.mem_iff.1 hmem)).symm

end

/-! ## Options that are said -/

section

variable {options : Boilerplate.Options} {input : Option Text}
  {forBlocks switches : List GenerateSwitch}

/-- The flags for options. -/
def optionFlags (forBlocks : List GenerateSwitch) : List Flag :=
  forBlocks.filterMap fun switch => switch.occurrence.flag?

/-- The values for options and an input. -/
def optionValues (options : Boilerplate.Options) (input : Option Text) :
    List (ValueSwitch × Text) :=
  (.tagStyle, options.tagStyle.name) :: input.toList.map (.input, ·)

lemma reorders_of_saysOptions (h : SaysOptions options input switches) :
    ∃ forBlocks, SaysBlocks options.mode forBlocks ∧
      (Settled.of (switches.map GenerateSwitch.occurrence)).Reorders
        ⟨optionFlags forBlocks, optionValues options input, []⟩ := by
  obtain ⟨forBlocks, hforBlocks, hperm⟩ := h
  have hof : Settled.of ((optionSwitches options input forBlocks).map
      GenerateSwitch.occurrence) = ⟨optionFlags forBlocks, optionValues options input, []⟩ := by
    obtain ⟨blocks, style⟩ := options
    cases hforBlocks <;> cases input <;>
      simp [Settled.of, optionSwitches, optionFlags, optionValues, GenerateSwitch.occurrence,
        List.filterMap_cons]
  have hreorders := Settled.Reorders.of_perm (hperm.map GenerateSwitch.occurrence)
    (congrArg Settled.words hof) []
  rw [List.append_nil, List.append_nil, hof] at hreorders
  exact ⟨forBlocks, hforBlocks, hreorders⟩

lemma mem_optionFlags_iff (h : SaysBlocks options.mode forBlocks) :
    (.editor ∈ optionFlags forBlocks ↔ options.mode = .editor) ∧
      (.runtime ∈ optionFlags forBlocks ↔ options.mode = .runtime) ∧
      (.both ∈ optionFlags forBlocks → options.mode = .both) ∧
      .verbose ∉ optionFlags forBlocks := by
  obtain ⟨blocks, style⟩ := options
  cases h with
  | said hspelling =>
    cases blocks <;> simp [optionFlags, GenerateSwitch.occurrence, blockFlag]
  | unsaid => simp [optionFlags]

lemma admitted_options (h : SaysBlocks options.mode forBlocks) (input : Option Text) :
    Settled.Admitted ⟨optionFlags forBlocks, optionValues options input, []⟩ where
  flags := by
    obtain ⟨blocks, style⟩ := options
    cases h with
    | said hspelling =>
      cases blocks <;>
        simp [optionFlags, GenerateSwitch.occurrence, blockFlag, Flag.isCounted]
    | unsaid => simp [optionFlags]
  switches := by
    cases input <;> simp [optionValues, ValueSwitch.isRepeatable]
  values := by
    cases input <;> simp [optionValues, ValueSwitch.accepts, tagStyle?_name]
  path := by simp

/-- Each switch that is said is printed as one argument that gives it. -/
lemma SaysOptions.gives_argument (h : SaysOptions options input switches) {switch : GenerateSwitch}
    (hswitch : switch ∈ switches) :
    Gives .generate switch.argument [switch.occurrence] none := by
  obtain ⟨forBlocks, hforBlocks, hperm⟩ := h
  have hmem := hperm.mem_iff.1 hswitch
  cases switch with
  | blocks mode spelling =>
    refine gives_blockSpelling ?_
    obtain ⟨blocks, style⟩ := options
    cases hforBlocks with
    | said hspelling =>
      obtain ⟨rfl, rfl⟩ : mode = blocks ∧ spelling = _ := by
        simpa [optionSwitches] using hmem
      exact hspelling
    | unsaid => simp [optionSwitches] at hmem
  | tagStyle style =>
    have hname : (longNames .generate).lookup ("tag-style" : Text) =
        some (.valued .tagStyle) := rfl
    exact .optionValue hname style.name
  | input file =>
    have hname : (longNames .generate).lookup ("input" : Text) = some (.valued .input) := rfl
    exact .optionValue hname file

/-- The options of the request are the ones that are said, and so is the input. -/
lemma generateRequest_of_reorders {settled : Settled}
    (hforBlocks : SaysBlocks options.mode forBlocks)
    (hreorders : settled.Reorders ⟨optionFlags forBlocks, optionValues options input, []⟩) :
    ∃ request, generateRequest settled = .ok request ∧
      request.options = options ∧ request.input = input := by
  obtain ⟨heditor, hruntime, hboth, -⟩ := mem_optionFlags_iff hforBlocks
  have hhas := hreorders.has_iff
  have hconflict : settled.conflicting [.editor, .runtime, .both] = false := by
    rw [Settled.conflicting_eq_false_iff]
    cases hmode : options.mode <;> simp_all
  have htagStyle : settled.value? .tagStyle = some options.tagStyle.name := by
    rw [hreorders.value?_eq] <;> cases input <;> simp [Settled.valuesOf, optionValues]
  have hinput : settled.value? .input = input := by
    rw [hreorders.value?_eq] <;> cases input <;> simp [Settled.valuesOf, optionValues]
  have hmode : (if settled.has .editor then OutputMode.editor
      else if settled.has .runtime then .runtime else .both) = options.mode := by
    simp only [hhas, heditor, hruntime]
    cases options.mode <;> rfl
  refine ⟨⟨settled.has .editor, settled.has .runtime, settled.has .both, options.tagStyle, input⟩,
    ?_, ?_, rfl⟩
  · simp [generateRequest, hconflict, htagStyle, hinput, tagStyle?_name]
  · simp only [GenerateRequest.options, GenerateRequest.outputMode, hmode]

/-- Switches that say options and an input come to a request with these. -/
lemma comesTo_of_saysOptions (h : SaysOptions options input switches) :
    ∃ request, ComesTo .generate [] (.of (switches.map GenerateSwitch.occurrence))
        ⟨0, .generate request⟩ ∧
      request.options = options ∧ request.input = input := by
  obtain ⟨forBlocks, hforBlocks, hreorders⟩ := reorders_of_saysOptions h
  obtain ⟨-, -, -, hverbose⟩ := mem_optionFlags_iff hforBlocks
  obtain ⟨request, hrequest, hsaid⟩ := generateRequest_of_reorders hforBlocks hreorders
  refine ⟨request, ⟨?_, hreorders.admitted (admitted_options hforBlocks input), ?_, ?_⟩, hsaid⟩
  · rw [hreorders.words]
    rfl
  · rw [commandOf, hrequest]
    · rfl
    · simp
  · exact (verbosityOf_nil fun hmem => hverbose (hreorders.flags.mem_iff.1 hmem)).symm

end

/-! ## Whole command lines -/

/-- A command line that is printed with its switches in any order is read as what it says. For a
refactoring, the mode and the path stand behind two dashes; the path cannot be empty. Any values
will do, those that look like switches among them. -/
theorem ofArguments_printed :
    (∀ (mode path : Text) (settings : Refactoring.Settings) (switches : List RefactorSwitch),
      path ≠ [] → SaysSettings settings switches →
        ∃ request, ofArguments ("rewrite" :: (switches.map RefactorSwitch.argument ++
            (["--", mode, path] : List Text))) = .ok ⟨0, .refactor request⟩ ∧
          request.mode = mode ∧ request.path = path ∧ request.settings = settings) ∧
      ∀ (options : Boilerplate.Options) (input : Option Text) (switches : List GenerateSwitch),
        SaysOptions options input switches →
          ∃ request, ofArguments ("generate" :: switches.map GenerateSwitch.argument) =
              .ok ⟨0, .generate request⟩ ∧
            request.options = options ∧ request.input = input := by
  constructor
  · intro mode path settings switches hpath hsays
    obtain ⟨request, hcomes, hmode, hrequestPath, hsettings⟩ :=
      comesTo_of_saysSettings hsays mode hpath
    have hspelled : Spelled .refactor none
        (switches.map RefactorSwitch.argument ++ (["--", mode, path] : List Text))
        (switches.map RefactorSwitch.occurrence ++ [mode, path].map .word) :=
      .map_append (fun switch _ => RefactorSwitch.gives_argument switch) (.dashes [mode, path])
    refine ⟨request, ofArguments_eq_ok_iff.2 ?_, hmode, hrequestPath, hsettings⟩
    exact ⟨[], .refactor, _, .subcommand rfl hspelled, hcomes⟩
  · intro options input switches hsays
    obtain ⟨request, hcomes, hoptions, hinput⟩ := comesTo_of_saysOptions hsays
    have hspelled : Spelled .generate none (switches.map GenerateSwitch.argument ++ [])
        (switches.map GenerateSwitch.occurrence ++ []) :=
      .map_append (fun switch hswitch => hsays.gives_argument hswitch) .nil
    rw [List.append_nil, List.append_nil] at hspelled
    refine ⟨request, ofArguments_eq_ok_iff.2 ?_, hoptions, hinput⟩
    exact ⟨[], .generate, _, .subcommand rfl hspelled, hcomes⟩

/-- Globs, a path and an input that look like switches. -/
theorem ofArguments_printed_dashes :
    (∃ request, ofArguments ["rewrite", "--exclude=--file", "--folder", "--on-error=continue",
          "--exclude=a=b, c", "--dry-run", "--extension=", "--", "get-node-data", "-x"] =
        .ok ⟨0, .refactor request⟩ ∧
      request.mode = "get-node-data" ∧ request.path = "-x" ∧
      request.settings = ⟨.folder, "", ["--file", "a=b, c"], .proceed, true⟩) ∧
    ∃ request, ofArguments ["generate", "--input=--runtime", "--edit", "--tag-style=none"] =
        .ok ⟨0, .generate request⟩ ∧
      request.options = ⟨.editor, .untagged⟩ ∧ request.input = some ("--runtime" : Text) := by
  constructor
  · refine ofArguments_printed.1 "get-node-data" "-x"
      ⟨.folder, "", ["--file", "a=b, c"], .proceed, true⟩
      [.exclude "--file", .folder, .onError .proceed, .exclude "a=b, c", .dryRun, .extension ""]
      (by decide) ⟨⟨[.folder], .folder, ?_⟩, by decide⟩
    decide
  · refine ofArguments_printed.2 ⟨.editor, .untagged⟩ (some "--runtime")
      [.input "--runtime", .blocks .editor "--edit", .tagStyle .untagged]
      ⟨[.blocks .editor "--edit"], .said (by decide), ?_⟩
    decide

end NodeKit.CommandLine
