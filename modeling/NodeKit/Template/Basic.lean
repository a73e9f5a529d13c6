import NodeKit.Text.Basic

/-!
# Templates

A template is fixed text with slots and simple choices. A slot prints the value of
a variable, after a filter when it names one. Values are printed as they are:
nothing is escaped, and a value that looks like a template is not read as one.
Only a filter can fail, on a value that is not text.
-/
namespace NodeKit

/-- A value that a template can be given. -/
inductive Scalar where
  | null
  | flag (b : Bool)
  | number (i : Int)
  | text (t : Text)
deriving DecidableEq, Repr

namespace Scalar

/-- How a slot prints the value. -/
def print : Scalar → Text
  | .null => "None"
  | .flag true => "True"
  | .flag false => "False"
  | .number i => Text.ofInt i
  | .text t => t

/-- Null, false, zero and the empty text do not hold. -/
def holds : Scalar → Bool
  | .null => false
  | .flag b => b
  | .number i => i ≠ 0
  | .text t => !t.isEmpty

/-- An optional text, with null for none. -/
def ofOption : Option Text → Scalar
  | some t => .text t
  | none => .null

end Scalar

/-- The variables that a template is rendered with. -/
abbrev Context := List (Text × Scalar)

/-- Reads a variable, with a filter over text when there is one. -/
structure Slot where
  key : Text
  filter : Option (Text → Text)

/-- A part of a template that does not choose. -/
inductive TemplatePiece where
  | fixed (t : Text)
  | slot (slot : Slot)

/-- What a choice asks. A missing variable does not hold, but it is not null either. -/
inductive TemplateTest where
  | holds (slot : Slot)
  | notNull (key : Text)

/-- A part of a template. -/
inductive TemplatePart where
  | piece (piece : TemplatePiece)
  | choice (test : TemplateTest) (yes no : List TemplatePiece)

/-- A named template. -/
structure Template where
  name : Text
  parts : List TemplatePart

/-- Why a template was not rendered. -/
inductive TemplateFault where
  | unknown (name : Text)
  | notText (name : Text)
deriving DecidableEq, Repr

def TemplateFault.message : TemplateFault → Text
  | .unknown name => "template not found: template \"" ++ name ++ "\" does not exist"
  | .notText name => "invalid operation: value is not a string (in " ++ name ++ ":1)"

/-- The slot's value; none when a filter met something other than text. A missing variable
without a filter has no value, which is not a failure. -/
def Slot.value? (context : Context) (slot : Slot) : Option (Option Scalar) :=
  match slot.filter, context.lookup slot.key with
  | none, value => some value
  | some filter, some (.text t) => some (some (.text (filter t)))
  | some _, _ => none

/-- The piece as text; none when a filter fails. -/
def TemplatePiece.render? (context : Context) : TemplatePiece → Option Text
  | .fixed t => some t
  | .slot s => (s.value? context).map fun value => (value.map Scalar.print).getD []

/-- The answer to the test; none when a filter fails. -/
def TemplateTest.answer? (context : Context) : TemplateTest → Option Bool
  | .holds slot => (slot.value? context).map fun value => (value.map Scalar.holds).getD false
  | .notNull key => some (context.lookup key ≠ some .null)

/-- The pieces one after the other. -/
def renderPieces? (context : Context) : List TemplatePiece → Option Text
  | [] => some []
  | piece :: pieces => do
    let first ← piece.render? context
    let rest ← renderPieces? context pieces
    some (first ++ rest)

/-- The part as text; none when a filter fails. -/
def TemplatePart.render? (context : Context) : TemplatePart → Option Text
  | .piece p => p.render? context
  | .choice test yes no => do
    if ← test.answer? context then renderPieces? context yes else renderPieces? context no

/-- The parts one after the other. -/
def renderParts? (context : Context) : List TemplatePart → Option Text
  | [] => some []
  | part :: parts => do
    let first ← part.render? context
    let rest ← renderParts? context parts
    some (first ++ rest)

/-- Renders the template with the given variables. -/
def Template.render (template : Template) (context : Context) : Except TemplateFault Text :=
  match renderParts? context template.parts with
  | some t => .ok t
  | none => .error (.notText template.name)

end NodeKit
