import NodeKit.Declaration.Basic
import NodeKit.Error
import NodeKit.Text.Lowercase

/-!
# The templates of a node

Four templates turn a property into code: the connector, the inspector field and
the backing value of the editor class, and the accessor of the runtime class.
-/
namespace NodeKit.Boilerplate

/-- Prints a variable as it is. -/
def plain (key : Text) : TemplatePiece := .slot ⟨key, none⟩

/-- Prints a variable with its first character in lower case. -/
def lowered (key : Text) : TemplatePiece := .slot ⟨key, some Text.lowerFirst⟩

/-- The widget of the type, and no text for a type without one. -/
def widgetSlot : Slot := ⟨"type_name", some fun typeName => (editorWidget? typeName).getD []⟩

/-- The connector through which a property is wired in the graph. -/
def connectorTemplate : Template where
  name := "editor_port"
  parts := [.piece (.fixed "private GraphFrameworkPort "), .piece (lowered "identifier"),
    .piece (.fixed "Port;")]

/-- The field that edits a property. -/
def fieldTemplate : Template where
  name := "editor_field"
  parts := [.piece (.fixed "private "),
    .choice (.holds widgetSlot) [.slot widgetSlot]
      [.fixed "FieldTypeFor<", plain "type_name", .fixed ">"],
    .piece (.fixed " "), .piece (lowered "identifier"), .piece (.fixed "Field;")]

/-- The value behind a field. -/
def valueTemplate : Template where
  name := "editor_value"
  parts := [.piece (.fixed "private "), .piece (plain "type_name"), .piece (.fixed " "),
    .piece (lowered "identifier"),
    .choice (.notNull "default_value") [.fixed " = ", plain "default_value"] [],
    .piece (.fixed ";")]

/-- The accessor of a property in the runtime class. -/
def accessorTemplate : Template where
  name := "runtime_accessor"
  parts := [.choice (.holds ⟨"tag", none⟩) [plain "tag", .fixed " "] [],
    .piece (.fixed "public "), .piece (plain "type_name"), .piece (.fixed " "),
    .piece (plain "identifier"), .piece (.fixed " \x7b get; private set; \x7d"),
    .choice (.notNull "default_value") [.fixed " = ", plain "default_value", .fixed ";"] []]

/-- All templates. -/
def templates : List Template := [connectorTemplate, fieldTemplate, valueTemplate, accessorTemplate]

/-- Renders the template of the given name. -/
def renderNamed (name : Text) (context : Context) : Except Error Text :=
  match templates.find? (·.name = name) with
  | none => .error (.template (.unknown name))
  | some template => (template.render context).mapError .template

/-- The variables that describe a property. -/
def propertyContext (property : Property) : Context :=
  [("type_name", .text property.typeName), ("identifier", .text property.identifier),
    ("default_value", .ofOption property.defaultValue)]

end NodeKit.Boilerplate
