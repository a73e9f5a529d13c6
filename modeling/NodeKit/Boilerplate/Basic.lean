import NodeKit.Boilerplate.Editor
import NodeKit.Boilerplate.Runtime
import NodeKit.Declaration.Reading

/-!
# Boilerplate

The code that a set of declarations stands for: the aliases, then the editor
block, then the runtime block, each on lines of its own. Without properties there
are only the aliases.
-/
namespace NodeKit.Boilerplate

/-- Which blocks to write. -/
inductive OutputMode where
  | editor
  | runtime
  | both
deriving DecidableEq, Repr

namespace OutputMode

def name : OutputMode → Text
  | .editor => "Editor"
  | .runtime => "Runtime"
  | .both => "Both"

def includesEditor (mode : OutputMode) : Bool := mode ≠ .runtime

def includesRuntime (mode : OutputMode) : Bool := mode ≠ .editor

end OutputMode

/-- How to write boilerplate. -/
structure Options where
  mode : OutputMode
  tagStyle : TagStyle
deriving DecidableEq, Repr

/-- The alias lines as one section, when there are aliases. -/
def aliasSection (d : Declarations) : List Text :=
  if d.aliases.isEmpty then [] else [Text.joinLines (d.aliases.map TypeAlias.directive)]

/-- A rendered block as one section, when it is wanted. An empty block is still a section. -/
def sectionIf (wanted : Bool) (rendered : Except Error Text) : Except Error (List Text) :=
  if wanted then rendered.map fun t => [t] else .ok []

/-- The sections of the properties in the given order: editor, then runtime. -/
def propertySections (options : Options) (properties : List Property) :
    Except Error (List Text) := do
  let editor ← sectionIf options.mode.includesEditor (renderEditor properties)
  let runtime ← sectionIf options.mode.includesRuntime
    (renderRuntime options.tagStyle properties)
  return editor ++ runtime

/-- The code for the declarations. -/
def generate (options : Options) (d : Declarations) : Except Error Text :=
  if d.properties.isEmpty then .ok (Text.joinLines (aliasSection d))
  else do
    let sections ← propertySections options d.sortedProperties
    return Text.joinLines (aliasSection d ++ sections)

/-- The log of writing the code. -/
def generateRecords (options : Options) (d : Declarations) : List Record :=
  if d.properties.isEmpty then
    [⟨.debug, .generation, "No properties parsed, skipping property blocks"⟩]
  else
    [⟨.debug, .generation, "Rendering " ++ Text.ofNat d.properties.length ++ " properties in " ++
      options.mode.name ++ " mode"⟩]

/-- The code for the declarations in a byte stream; none when it declares nothing. -/
def run (options : Options) (input : ByteArray) : Except Error (Option Text) := do
  let d ← parseDeclarations input
  if d.isEmpty then return none
  some <$> generate options d

/-- The log of a whole run: reading, the counts, and writing. A run that fails while it reads
ends the log there. -/
def runRecords (options : Options) (input : ByteArray) : List Record :=
  parseRecords input ++
    match parseDeclarations input with
    | .error _ => []
    | .ok d =>
      ⟨.info, .command, "Parsed " ++ Text.ofNat d.properties.length ++ " properties and " ++
        Text.ofNat d.aliases.length ++ " aliases"⟩ ::
      if d.isEmpty then [] else generateRecords options d

end NodeKit.Boilerplate
