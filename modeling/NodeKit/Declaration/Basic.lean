import NodeKit.Text.Basic

/-!
# Declarations

A node is declared by its properties, each on one side of the node, and by the
type aliases its code needs. Properties are rendered by category, and within a
category in the order in which they were declared.
-/
namespace NodeKit

/-- The side of a node that a property lives on. -/
inductive Category where
  | input
  | setting
  | output
deriving DecidableEq, Repr

namespace Category

/-- Position in rendered code: inputs, then settings, then outputs. -/
def rank : Category → Nat
  | .input => 0
  | .setting => 1
  | .output => 2

/-- `i` is an input and `o` an output; any other code is a setting. -/
def ofCode (code : Text) : Category :=
  if code = ['i'] then .input else if code = ['o'] then .output else .setting

def name : Category → Text
  | .input => "input"
  | .setting => "setting"
  | .output => "output"

/-- The attribute in front of a runtime accessor. -/
def tag : Category → Text
  | .input => "[In]"
  | .setting => "[Setting]"
  | .output => "[Out]"

/-- Settings are edited in place and cannot be wired to other nodes. -/
def hasConnector : Category → Bool
  | .setting => false
  | _ => true

end Category

/-- The editor widget of each type that has one of its own. -/
def editorWidgets : List (Text × Text) :=
  [("float", "FloatField"), ("int", "IntegerField"), ("bool", "Toggle"), ("string", "TextField"),
    ("float3", "Vector3Field")]

/-- The widget of a type; none when it has none of its own. -/
def editorWidget? (typeName : Text) : Option Text := editorWidgets.lookup typeName

/-- Types that the editor cannot show. They get neither a field nor a backing value. -/
def hiddenTypes : List Text := ["GeometryData", "CurveData"]

/-- Whether the editor cannot show the type. -/
def isHiddenType (typeName : Text) : Bool := hiddenTypes.contains typeName

/-- A declared property. -/
structure Property where
  category : Category
  typeName : Text
  identifier : Text
  defaultValue : Option Text
deriving DecidableEq, Repr

/-- Whether the editor gets a field and a backing value for the property. -/
def Property.isEditable (property : Property) : Bool :=
  property.category ≠ .output && !isHiddenType property.typeName

/-- A second name for a type. -/
structure TypeAlias where
  name : Text
  target : Text
deriving DecidableEq, Repr

/-- The line of code that introduces the alias. -/
def TypeAlias.directive (shorthand : TypeAlias) : Text :=
  "using " ++ shorthand.name ++ " = " ++ shorthand.target ++ ";"

/-- Everything that one input declares, in input order. -/
structure Declarations where
  aliases : List TypeAlias
  properties : List Property
deriving DecidableEq, Repr

namespace Declarations

def empty : Declarations := ⟨[], []⟩

/-- Whether nothing at all was declared. -/
def isEmpty (d : Declarations) : Bool := d.aliases.isEmpty && d.properties.isEmpty

end Declarations

/-- Orders by category alone. The sort is stable, so that properties of one category keep
their order. -/
def sortProperties (properties : List Property) : List Property :=
  properties.mergeSort fun p q => p.category.rank ≤ q.category.rank

theorem sortProperties_perm (properties : List Property) :
    (sortProperties properties).Perm properties := List.mergeSort_perm ..

/-- The properties in the order in which they are rendered. -/
def Declarations.sortedProperties (d : Declarations) : List Property :=
  sortProperties d.properties

end NodeKit
