import NodeKit.Boilerplate.Templates
import NodeKit.Text.Blank

/-!
# The runtime block

One accessor a line, in the order of the properties. The category of a property
stands in front of its accessor, unless tags are switched off.
-/
namespace NodeKit.Boilerplate

/-- Whether accessors carry the tag of their category. -/
inductive TagStyle where
  | bracketed
  | untagged
deriving DecidableEq, Repr

namespace TagStyle

def all : List TagStyle := [.bracketed, .untagged]

def name : TagStyle → Text
  | .bracketed => "bracketed"
  | .untagged => "none"

end TagStyle

/-- The variables of an accessor. -/
def accessorContext (style : TagStyle) (property : Property) : Context :=
  match style with
  | .bracketed => ("tag", .text property.category.tag) :: propertyContext property
  | .untagged => propertyContext property

/-- The runtime block of the properties in the given order. -/
def renderRuntime (style : TagStyle) (properties : List Property) : Except Error Text := do
  let lines ← properties.mapM fun property =>
    (accessorTemplate.render (accessorContext style property)).mapError .template
  return Text.trim (Text.joinLines lines)

end NodeKit.Boilerplate
