import NodeKit.Proofs.Boilerplate.Blocks

/-!
# The layout of the editor block

The editor block is the lines of three kinds, of which the last two always come together.
A missing kind is one at an end, so that all that trimming finds to take away are the
separators around the kinds that are there. What the properties bring in is kept as it is.
-/
namespace NodeKit.Boilerplate

/-! ## Templates by name -/

lemma renderNamed_of_render {template : Template} {context : Context} {t : Text}
    (hname : templates.find? (·.name = template.name) = some template)
    (h : template.render context = .ok t) : renderNamed template.name context = .ok t := by
  rw [renderNamed, hname]
  simp [h, Except.mapError]

/-- The engine has the three templates of the editor block under their names. -/
lemma renderNamed_editor (property : Property) :
    renderNamed connectorTemplate.name (propertyContext property) = .ok (connectorLine property) ∧
      renderNamed fieldTemplate.name (propertyContext property) = .ok (fieldLine property) ∧
      renderNamed valueTemplate.name (propertyContext property) = .ok (valueLine property) :=
  ⟨renderNamed_of_render rfl (render_connector property),
    renderNamed_of_render rfl (render_field property),
    renderNamed_of_render rfl (render_value property)⟩

/-! ## The lines, piece by piece -/

section

variable (property : Property)

lemma connectorLine_eq :
    connectorLine property =
      "private GraphFrameworkPort " ++ Text.lowerFirst property.identifier ++ "Port;" := by
  unfold connectorLine
  -- simp would look into the lowered identifier
  generalize Text.lowerFirst property.identifier = identifier
  simp

lemma fieldLine_eq :
    fieldLine property =
      "private " ++ (editorWidget? property.typeName).getD
          ("FieldTypeFor<" ++ property.typeName ++ ">") ++
        " " ++ Text.lowerFirst property.identifier ++ "Field;" := by
  unfold fieldLine fieldType
  generalize Text.lowerFirst property.identifier = identifier
  simp

lemma valueLine_eq :
    valueLine property =
      "private " ++ property.typeName ++ " " ++ Text.lowerFirst property.identifier ++
        (property.defaultValue.elim [] fun t => " = ".toList ++ t) ++ ";" := by
  unfold valueLine
  generalize Text.lowerFirst property.identifier = identifier
  cases property.defaultValue <;> simp [assigned]

end

/-! ## What trimming finds -/

lemma infix_joinWith {separator part : Text} {parts : List Text} (h : part ∈ parts) :
    part <:+: Text.joinWith separator parts := by
  induction parts with
  | nil => cases h
  | cons first rest ih =>
    by_cases hrest : rest = []
    · obtain rfl : part = first := by simpa [hrest] using h
      simp [hrest, Text.joinWith]
    · rw [Text.joinWith_cons_of_ne_nil _ _ hrest]
      rcases List.mem_cons.1 h with rfl | hmem
      · exact ⟨[], separator ++ Text.joinWith separator rest, by simp⟩
      · exact (ih hmem).trans (List.suffix_append _ _).isInfix

/-- Around the kinds that have lines there are only the separators of those that have none, as the
last two kinds are missing together. -/
lemma joined_kinds {connectors fields values : List Text} (h : fields = [] ↔ values = []) :
    ∃ front behind,
      Text.joinWith "\n\n" ([connectors, fields, values].map Text.joinLines) =
          front ++ Text.joinWith "\n\n"
            (([connectors, fields, values].filter (!·.isEmpty)).map Text.joinLines) ++ behind ∧
        ∀ c ∈ front ++ behind, c = '\n' := by
  cases fields with
  | nil =>
    obtain rfl := h.1 rfl
    cases connectors with
    | nil => exact ⟨"\n\n\n\n", [], rfl, by simp⟩
    | cons first rest =>
      exact ⟨[], "\n\n\n\n", by simp [Text.joinWith, Text.joinLines, List.intercalate], by simp⟩
  | cons field fields =>
    obtain ⟨value, values, rfl⟩ : ∃ value rest, values = value :: rest :=
      List.exists_cons_of_ne_nil fun hvalues => List.cons_ne_nil field fields (h.2 hvalues)
    cases connectors with
    | nil => exact ⟨"\n\n", [], by simp [Text.joinWith, Text.joinLines, List.intercalate], by simp⟩
    | cons first rest => exact ⟨[], [], by simp, by simp⟩

/-! ## The editor block -/

/-- The editor block of any properties, whatever texts they bring in. There is a connector for each
property that is no setting, and a field and a value for each editable one, all in the order of the
properties. The kinds of lines that are not empty are joined by blank lines. No trim takes away
more than the separators around missing kinds, so that every line is found in the block as its
template gives it, with the texts of the property put in as they are. -/
theorem renderEditor_layout (properties : List Property) :
    let editable := properties.filter Property.isEditable
    let connector (property : Property) : Text :=
      "private GraphFrameworkPort " ++ Text.lowerFirst property.identifier ++ "Port;"
    let field (property : Property) : Text :=
      "private " ++ (editorWidget? property.typeName).getD
          ("FieldTypeFor<" ++ property.typeName ++ ">") ++
        " " ++ Text.lowerFirst property.identifier ++ "Field;"
    let value (property : Property) : Text :=
      "private " ++ property.typeName ++ " " ++ Text.lowerFirst property.identifier ++
        (property.defaultValue.elim [] fun t => " = ".toList ++ t) ++ ";"
    let connectors := (properties.filter (·.category ≠ .setting)).map connector
    let fields := editable.map field
    let values := editable.map value
    let kinds := [connectors, fields, values]
    let text := Text.joinWith "\n\n" ((kinds.filter (!·.isEmpty)).map Text.joinLines)
    renderEditor properties = .ok text ∧
      (∀ property, renderNamed "editor_port" (propertyContext property) = .ok (connector property) ∧
        renderNamed "editor_field" (propertyContext property) = .ok (field property) ∧
        renderNamed "editor_value" (propertyContext property) = .ok (value property)) ∧
      ((fields = [] ↔ values = []) ∧ fields.length = values.length ∧
        fields.zip values = editable.map fun property => (field property, value property)) ∧
      (∀ kind ∈ kinds, block kind = Text.joinLines kind) ∧
      (∃ front behind, Text.joinWith "\n\n" (kinds.map block) = front ++ text ++ behind ∧
        ∀ c ∈ front ++ behind, c = '\n') ∧
      ∀ kind ∈ kinds, ∀ line ∈ kind, line <:+: text := by
  intro editable connector field value connectors fields values kinds text
  have hwired : properties.filter (·.category.hasConnector) =
      properties.filter (·.category ≠ .setting) := by
    refine List.filter_congr fun property _ => ?_
    cases property.category <;> rfl
  have hkinds : editorKinds properties = kinds := by
    rw [editorKinds, hwired, funext connectorLine_eq, funext fieldLine_eq, funext valueLine_eq]
  have hsame : fields = [] ↔ values = [] := by simp [fields, values]
  have hblock : ∀ kind ∈ kinds, block kind = Text.joinLines kind := by
    rw [← hkinds]
    simp [editorKinds, block_map, edged_connectorLine, edged_fieldLine, edged_valueLine]
  refine ⟨?_, ?_, ⟨hsame, ?_, ?_⟩, hblock, ?_, ?_⟩
  · rw [renderEditor_eq, editorText, hkinds]
  · intro property
    have hnamed := renderNamed_editor property
    rwa [connectorLine_eq, fieldLine_eq, valueLine_eq] at hnamed
  · simp [fields, values]
  · exact List.zip_map'
  · rw [List.map_congr_left hblock]
    exact joined_kinds hsame
  · intro kind hkind line hline
    have hlines : line <:+: Text.joinLines kind := infix_joinWith hline
    refine hlines.trans (infix_joinWith (List.mem_map_of_mem (List.mem_filter.2 ⟨hkind, ?_⟩)))
    simpa using List.ne_nil_of_mem hline

/-- All types with a widget of their own and one without, in inputs and settings, then an input and
a setting that the editor cannot show, and an output. -/
theorem renderEditor_layout_widgets :
    let shown : List Property := [⟨.input, "float", "Speed", some "1"⟩,
      ⟨.setting, "int", "Steps", none⟩, ⟨.setting, "bool", "Closed", some "true"⟩,
      ⟨.input, "string", "Label", none⟩, ⟨.setting, "float3", "Center", none⟩,
      ⟨.setting, "Color", "Tint", none⟩]
    let hidden : List Property := [⟨.input, "GeometryData", "Mesh", none⟩,
      ⟨.setting, "CurveData", "Path", some "p"⟩, ⟨.output, "int", "Count", some "2"⟩]
    let connectors : Text := "private GraphFrameworkPort speedPort;\n" ++
      "private GraphFrameworkPort labelPort;\nprivate GraphFrameworkPort meshPort;\n" ++
      "private GraphFrameworkPort countPort;"
    let fields : Text := "private FloatField speedField;\nprivate IntegerField stepsField;\n" ++
      "private Toggle closedField;\nprivate TextField labelField;\n" ++
      "private Vector3Field centerField;\nprivate FieldTypeFor<Color> tintField;"
    let values : Text := "private float speed = 1;\nprivate int steps;\n" ++
      "private bool closed = true;\nprivate string label;\nprivate float3 center;\n" ++
      "private Color tint;"
    (shown ++ hidden).filter Property.isEditable = shown ∧
      renderEditor (shown ++ hidden) =
        .ok (connectors ++ "\n\n" ++ fields ++ "\n\n" ++ values) := by
  intro shown hidden connectors fields values
  refine ⟨by decide, (renderEditor_layout (shown ++ hidden)).1.trans (congrArg Except.ok ?_)⟩
  simp only [connectors, fields, values, shown, hidden]
  -- the kernel is slow to decode a string, so its characters are put in first
  repeat rw [String.toList_ofList]
  decide +kernel

end NodeKit.Boilerplate
