import NodeKit.Command.Basic

/-!
# The switches of the command line

Each level of the command line has its own switches. A flag stands alone, and an
option takes a value. Long names follow two dashes, and letters follow one dash and
can be run together. Nothing may be abbreviated.
-/
namespace NodeKit.CommandLine

/-- Where on the command line an argument stands. -/
inductive Level where
  /-- In front of the subcommand. -/
  | top
  | generate
  | refactor
deriving DecidableEq, Repr

/-- A switch without a value. -/
inductive Flag where
  | verbose
  | editor
  | runtime
  | both
  | file
  | folder
  | dryRun
deriving DecidableEq, Repr

/-- A switch with a value. -/
inductive ValueSwitch where
  | tagStyle
  | input
  | extension
  | exclude
  | failurePolicy
deriving DecidableEq, Repr

/-- What a name or letter stands for. -/
inductive Switch where
  | flag (flag : Flag)
  | valued (switch : ValueSwitch)
  | stop (stop : Stop)
deriving DecidableEq, Repr

/-- The long names of a level. -/
def longNames : Level → List (Text × Switch)
  | .top => [("help", .stop .help), ("version", .stop .version), ("verbose", .flag .verbose)]
  | .generate => [("help", .stop .help), ("verbose", .flag .verbose), ("editor", .flag .editor),
      ("edit", .flag .editor), ("runtime", .flag .runtime), ("both", .flag .both),
      ("tag-style", .valued .tagStyle), ("input", .valued .input)]
  | .refactor => [("help", .stop .help), ("verbose", .flag .verbose), ("file", .flag .file),
      ("folder", .flag .folder), ("dry-run", .flag .dryRun), ("extension", .valued .extension),
      ("exclude", .valued .exclude), ("on-error", .valued .failurePolicy)]

/-- The letters of a level. -/
def letters : Level → List (Char × Switch)
  | .top => [('h', .stop .help), ('V', .stop .version), ('v', .flag .verbose)]
  | .generate => [('h', .stop .help), ('v', .flag .verbose), ('e', .flag .editor),
      ('r', .flag .runtime), ('b', .flag .both), ('i', .valued .input)]
  | .refactor => [('h', .stop .help), ('v', .flag .verbose)]

/-- How many words a level takes that belong to no switch. -/
def wordCount : Level → Nat
  | .refactor => 2
  | _ => 0

/-- The level that a subcommand opens. -/
def subcommand? (name : Text) : Option Level :=
  [(("generate" : Text), Level.generate), ("gen", .generate), ("rewrite", .refactor)].lookup name

/-- The name of the subcommand that shows help. -/
def helpName : Text := "help"

/-- A flag that may be given again and again. -/
def Flag.isCounted (flag : Flag) : Bool := flag = .verbose

/-- A switch whose values add up. -/
def ValueSwitch.isRepeatable (switch : ValueSwitch) : Bool := switch = .exclude

/-- The tag style of the given name. -/
def tagStyle? (name : Text) : Option Boilerplate.TagStyle :=
  Boilerplate.TagStyle.all.find? (·.name = name)

theorem tagStyle?_name (style : Boilerplate.TagStyle) :
    tagStyle? style.name = some style := by cases style <;> rfl

/-- The failure policy of the given name. -/
def failurePolicy? (name : Text) : Option Refactoring.FailurePolicy :=
  Refactoring.FailurePolicy.all.find? (·.name = name)

theorem failurePolicy?_name (policy : Refactoring.FailurePolicy) :
    failurePolicy? policy.name = some policy := by cases policy <;> rfl

/-- Whether a switch takes the value. -/
def ValueSwitch.accepts : ValueSwitch → Text → Bool
  | .tagStyle, value => (tagStyle? value).isSome
  | .failurePolicy, value => (failurePolicy? value).isSome
  | _, _ => true

/-- One of the names, or with letter case ignored a spelling of it; the answer is the name
itself. Only ASCII letters have two cases here. -/
def nameOf? (names : List Text) (ignoreCase : Bool) (spelling : Text) : Option Text :=
  let fold := fun t : Text => if ignoreCase then t.map Char.toLower else t
  names.find? fun name => fold name = fold spelling

end NodeKit.CommandLine
