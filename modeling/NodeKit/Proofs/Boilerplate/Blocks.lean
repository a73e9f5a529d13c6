import NodeKit.Boilerplate.Basic
import NodeKit.Proofs.Text.Words
import Mathlib.Data.List.Forall2

/-!
# What the blocks consist of

Rendering never fails: every property gives its line, whatever its texts are. Each
line begins and ends with a fixed character that is not blank, so that trimming a
block takes nothing away from it.
-/
namespace NodeKit.Boilerplate

/-! ## The line that a template gives -/

lemma renderParts?_eq_flatten {context : Context} {parts : List TemplatePart} {texts : List Text}
    (h : List.Forall₂ (fun part t => part.render? context = some t) parts texts) :
    renderParts? context parts = some texts.flatten := by
  induction h with
  | nil => rfl
  | cons hpart _ ih => simp [renderParts?, hpart, ih]

/-- A template gives the texts of its parts, one after the other. -/
lemma render_eq_flatten {template : Template} {context : Context} {texts : List Text}
    (h : List.Forall₂ (fun part t => part.render? context = some t) template.parts texts) :
    template.render context = .ok texts.flatten := by
  rw [Template.render, renderParts?_eq_flatten h]

/-- A default value, as it is assigned. -/
def assigned : Option Text → Text
  | none => []
  | some t => " = " ++ t

/-- What ends an accessor: its default value, when there is one. -/
def initializer : Option Text → Text
  | none => []
  | some t => " = " ++ t ++ ";"

/-- The type of the field that edits a type. -/
def fieldType (typeName : Text) : Text :=
  (editorWidget? typeName).getD ("FieldTypeFor<" ++ typeName ++ ">")

/-- What stands in front of an accessor. -/
def tagMark (style : TagStyle) (category : Category) : Text :=
  match style with
  | .bracketed => category.tag ++ [' ']
  | .untagged => []

/-- The connector of a property. -/
def connectorLine (property : Property) : Text :=
  List.flatten ["private GraphFrameworkPort ", Text.lowerFirst property.identifier, "Port;"]

/-- The field that edits a property. -/
def fieldLine (property : Property) : Text :=
  List.flatten ["private ", fieldType property.typeName, " ",
    Text.lowerFirst property.identifier, "Field;"]

/-- The value behind a field. -/
def valueLine (property : Property) : Text :=
  List.flatten ["private ", property.typeName, " ", Text.lowerFirst property.identifier,
    assigned property.defaultValue, ";"]

/-- The accessor of a property. -/
def accessorLine (style : TagStyle) (property : Property) : Text :=
  List.flatten [tagMark style property.category, "public ", property.typeName, " ",
    property.identifier, " \x7b get; private set; \x7d", initializer property.defaultValue]

variable (property : Property)

lemma render_connector :
    connectorTemplate.render (propertyContext property) = .ok (connectorLine property) :=
  render_eq_flatten (.cons rfl (.cons rfl (.cons rfl .nil)))

lemma ne_nil_of_editorWidget? {typeName widget : Text}
    (h : editorWidget? typeName = some widget) : widget ≠ [] := by
  have hall : ∀ entry ∈ editorWidgets, entry.2 ≠ [] := by decide
  obtain ⟨front, behind, hentries, -⟩ := List.lookup_eq_some_iff.1 h
  exact hall (typeName, widget) (by simp [hentries])

lemma render_field :
    fieldTemplate.render (propertyContext property) = .ok (fieldLine property) := by
  refine render_eq_flatten (.cons rfl (.cons ?_ (.cons rfl (.cons rfl (.cons rfl .nil)))))
  have hchoice : (TemplatePart.choice (.holds widgetSlot) [.slot widgetSlot]
      [.fixed "FieldTypeFor<", plain "type_name", .fixed ">"]).render? (propertyContext property) =
      if !((editorWidget? property.typeName).getD []).isEmpty then
        some ((editorWidget? property.typeName).getD [] ++ [])
      else some ("FieldTypeFor<" ++ (property.typeName ++ ">")) := rfl
  rw [hchoice, fieldType]
  cases hwidget : editorWidget? property.typeName with
  | none => rfl
  | some widget => simp [ne_nil_of_editorWidget? hwidget]

lemma render_value :
    valueTemplate.render (propertyContext property) = .ok (valueLine property) := by
  refine render_eq_flatten
    (.cons rfl (.cons rfl (.cons rfl (.cons rfl (.cons ?_ (.cons rfl .nil))))))
  obtain ⟨category, typeName, identifier, defaultValue⟩ := property
  cases defaultValue with
  | none => rfl
  | some t => exact congrArg (fun t => some (" = ".toList ++ t)) (List.append_nil t)

lemma render_accessor (style : TagStyle) :
    accessorTemplate.render (accessorContext style property) =
      .ok (accessorLine style property) := by
  obtain ⟨category, typeName, identifier, defaultValue⟩ := property
  have htag : (TemplatePart.choice (.holds ⟨"tag", none⟩) [plain "tag", .fixed " "] []).render?
      (accessorContext style ⟨category, typeName, identifier, defaultValue⟩) =
      some (tagMark style category) := by
    cases style <;> cases category <;> rfl
  have hinitializer : (TemplatePart.choice (.notNull "default_value")
      [.fixed " = ", plain "default_value", .fixed ";"] []).render?
      (accessorContext style ⟨category, typeName, identifier, defaultValue⟩) =
      some (initializer defaultValue) := by
    cases style <;> cases defaultValue <;> rfl
  cases style <;>
    exact render_eq_flatten (.cons htag (.cons rfl (.cons rfl (.cons rfl (.cons rfl (.cons rfl
      (.cons hinitializer .nil)))))))

/-! ## Blocks -/

/-- What stands between the first piece and the last does not matter to trimming. -/
lemma edged_flatten (first : Text) (middle : List Text) (last : Text)
    (hfirst : ∃ c, first.head? = some c ∧ Text.isBlank c = false)
    (hlast : ∃ c, last.getLast? = some c ∧ Text.isBlank c = false) :
    Text.Edged (List.flatten (first :: (middle ++ [last]))) := by
  obtain ⟨a, ha, hablank⟩ := hfirst
  obtain ⟨z, hz, hzblank⟩ := hlast
  refine ⟨⟨a, ?_, hablank⟩, ⟨z, ?_, hzblank⟩⟩
  · rw [List.flatten_cons, List.head?_append, ha]
    rfl
  · rw [List.flatten_cons, List.flatten_append, List.flatten_singleton, List.getLast?_append,
      List.getLast?_append, hz]
    rfl

lemma edged_connectorLine : Text.Edged (connectorLine property) :=
  edged_flatten _ [_] "Port;" ⟨'p', rfl, rfl⟩ ⟨';', rfl, rfl⟩

lemma edged_fieldLine : Text.Edged (fieldLine property) :=
  edged_flatten _ [_, _, _] "Field;" ⟨'p', rfl, rfl⟩ ⟨';', rfl, rfl⟩

lemma edged_valueLine : Text.Edged (valueLine property) :=
  edged_flatten _ [_, _, _, _] ";" ⟨'p', rfl, rfl⟩ ⟨';', rfl, rfl⟩

lemma edged_accessorLine (style : TagStyle) : Text.Edged (accessorLine style property) := by
  obtain ⟨category, typeName, identifier, defaultValue⟩ := property
  have hpieces : accessorLine style ⟨category, typeName, identifier, defaultValue⟩ =
      List.flatten ((tagMark style category ++ "public ".toList) ::
        ([typeName, [' '], identifier] ++
          [" \x7b get; private set; \x7d".toList ++ initializer defaultValue])) := by
    simp [accessorLine]
  rw [hpieces]
  apply edged_flatten
  · cases style with
    | bracketed => cases category <;> exact ⟨'[', rfl, rfl⟩
    | untagged => exact ⟨'p', rfl, rfl⟩
  · cases defaultValue with
    | none => exact ⟨'\x7d', rfl, rfl⟩
    | some t =>
      refine ⟨';', ?_, rfl⟩
      rw [initializer, List.getLast?_append, List.getLast?_append]
      rfl

lemma mapM_render {template : Template} {context : Property → Context} {line : Property → Text}
    (h : ∀ property, template.render (context property) = .ok (line property))
    (properties : List Property) :
    properties.mapM (fun property =>
      (template.render (context property)).mapError Error.template) =
      .ok (properties.map line) := by
  induction properties with
  | nil => rfl
  | cons property properties ih =>
    rw [List.mapM_cons, h, ih]
    rfl

lemma edged_joinLines {line : Property → Text} (h : ∀ property, Text.Edged (line property))
    {properties : List Property} (hne : properties ≠ []) :
    Text.Edged (Text.joinLines (properties.map line)) := by
  refine Text.Edged.joinWith (by simpa using hne) ?_
  intro part hpart
  obtain ⟨other, -, rfl⟩ := List.mem_map.1 hpart
  exact h other

/-- Edged lines stay as they are when they become a block. -/
lemma block_map {line : Property → Text} (h : ∀ property, Text.Edged (line property))
    (properties : List Property) :
    block (properties.map line) = Text.joinLines (properties.map line) := by
  by_cases hempty : properties = []
  · subst hempty
    rfl
  · exact (edged_joinLines h hempty).trim

/-- The runtime block is the accessors of the properties. -/
lemma renderRuntime_eq (style : TagStyle) (properties : List Property) :
    renderRuntime style properties =
      .ok (Text.joinLines (properties.map (accessorLine style))) := by
  have hlines := mapM_render (render_accessor · style) properties
  rw [renderRuntime, hlines]
  exact congrArg Except.ok (block_map (edged_accessorLine · style) properties)

/-- The lines of the editor block, one list for each kind. -/
def editorKinds (properties : List Property) : List (List Text) :=
  let editable := properties.filter Property.isEditable
  [(properties.filter (·.category.hasConnector)).map connectorLine, editable.map fieldLine,
    editable.map valueLine]

/-- Trimming takes away the blank lines that missing later kinds leave. -/
lemma trim_first_kind {c : Text} (hc : Text.Edged c) :
    Text.trim (Text.joinWith "\n\n" [c, [], []]) = Text.joinWith "\n\n" [c] := by
  have hjoin : Text.joinWith "\n\n" [c, [], []] = [] ++ (c ++ "\n\n\n\n".toList) := by
    simp [Text.joinWith, List.intercalate]
  have hsingle : Text.joinWith "\n\n" [c] = c := by simp [Text.joinWith]
  rw [hjoin, hsingle, Text.trim_around hc rfl (by decide)]

/-- Trimming takes away the blank line that a missing first kind leaves. -/
lemma trim_later_kinds {f v : Text} (hf : Text.Edged f) (hv : Text.Edged v) :
    Text.trim (Text.joinWith "\n\n" [[], f, v]) = Text.joinWith "\n\n" [f, v] := by
  have hedged : Text.Edged (Text.joinWith "\n\n" [f, v]) :=
    Text.Edged.joinWith (by simp) (by simp [hf, hv])
  have hjoin : Text.joinWith "\n\n" [[], f, v] =
      "\n\n".toList ++ (Text.joinWith "\n\n" [f, v] ++ []) := by
    simp [Text.joinWith, List.intercalate]
  rw [hjoin, Text.trim_around hedged (by decide) rfl]

lemma trim_all_kinds {c f v : Text} (hc : Text.Edged c) (hf : Text.Edged f) (hv : Text.Edged v) :
    Text.trim (Text.joinWith "\n\n" [c, f, v]) = Text.joinWith "\n\n" [c, f, v] :=
  (Text.Edged.joinWith (by simp) (by simp [hc, hf, hv])).trim

/-- The kinds that have lines, with one blank line between two of them. -/
def editorText (properties : List Property) : Text :=
  Text.joinWith "\n\n" (((editorKinds properties).filter (!·.isEmpty)).map Text.joinLines)

/-- The editor block is the kinds that have lines. -/
lemma renderEditor_eq (properties : List Property) :
    renderEditor properties = .ok (editorText properties) := by
  have hconnectors := fun ps => mapM_render render_connector ps
  have hfields := fun ps => mapM_render render_field ps
  have hvalues := fun ps => mapM_render render_value ps
  rw [renderEditor]
  simp only [renderEach, hconnectors, hfields, hvalues]
  refine congrArg Except.ok ?_
  rw [block_map edged_connectorLine, block_map edged_fieldLine, block_map edged_valueLine]
  unfold editorText editorKinds
  dsimp only
  generalize properties.filter (·.category.hasConnector) = wired
  generalize properties.filter Property.isEditable = editable
  cases wired with
  | nil =>
    cases editable with
    | nil => rfl
    | cons property rest =>
      have hne : property :: rest ≠ [] := List.cons_ne_nil property rest
      exact trim_later_kinds (edged_joinLines edged_fieldLine hne)
        (edged_joinLines edged_valueLine hne)
  | cons connected others =>
    have hconnector := edged_joinLines edged_connectorLine (List.cons_ne_nil connected others)
    cases editable with
    | nil => exact trim_first_kind hconnector
    | cons property rest =>
      have hne : property :: rest ≠ [] := List.cons_ne_nil property rest
      exact trim_all_kinds hconnector (edged_joinLines edged_fieldLine hne)
        (edged_joinLines edged_valueLine hne)

/-! ## Sections -/

/-- The editor block as one section, when it is wanted. -/
def editorSection (options : Options) (properties : List Property) : List Text :=
  if options.mode.includesEditor then [editorText properties] else []

/-- The runtime block as one section, when it is wanted. -/
def runtimeSection (options : Options) (properties : List Property) : List Text :=
  if options.mode.includesRuntime then
    [Text.joinLines (properties.map (accessorLine options.tagStyle))]
  else []

lemma propertySections_eq (options : Options) (properties : List Property) :
    propertySections options properties =
      .ok (editorSection options properties ++ runtimeSection options properties) := by
  obtain ⟨mode, style⟩ := options
  have heditor := renderEditor_eq properties
  have hruntime := renderRuntime_eq style properties
  unfold propertySections
  cases mode with
  | editor =>
    rw [heditor]
    rfl
  | runtime =>
    rw [hruntime]
    rfl
  | both =>
    rw [heditor, hruntime]
    rfl

/-- Without properties there are only the aliases. -/
lemma generate_of_no_properties (options : Options) {d : Declarations} (h : d.properties = []) :
    generate options d = .ok (Text.joinLines (aliasSection d)) := by
  simp [generate, h]

lemma generate_of_properties (options : Options) {d : Declarations} (h : d.properties ≠ []) :
    generate options d = .ok (Text.joinLines (aliasSection d ++
      (editorSection options d.sortedProperties ++ runtimeSection options d.sortedProperties))) := by
  rw [generate, propertySections_eq]
  simp [h]

end NodeKit.Boilerplate
