import NodeKit.Boilerplate.Templates
import NodeKit.Text.Blank

/-!
# The editor block

Connectors, then fields, then backing values, each kind in the order of the properties.
A blank line stands between two kinds, and a kind without lines leaves none.
-/
namespace NodeKit.Boilerplate

/-- One line for each property, made by one template. -/
def renderEach (template : Template) (properties : List Property) : Except Error (List Text) :=
  properties.mapM fun property =>
    (template.render (propertyContext property)).mapError .template

/-- The lines of one kind as a block. -/
def block (lines : List Text) : Text := Text.trim (Text.joinLines lines)

/-- The editor block of the properties in the given order. -/
def renderEditor (properties : List Property) : Except Error Text := do
  let connectors ← renderEach connectorTemplate (properties.filter (·.category.hasConnector))
  let editable := properties.filter Property.isEditable
  let fields ← renderEach fieldTemplate editable
  let values ← renderEach valueTemplate editable
  return Text.trim (Text.joinWith "\n\n" [block connectors, block fields, block values])

end NodeKit.Boilerplate
