import NodeKit.Proofs.Boilerplate.Blocks
import NodeKit.Proofs.Declaration.Basic
import NodeKit.Proofs.Declaration.Grammar

/-!
# The order of declarations in generated code

Aliases and the three categories of properties are four groups. The order inside each
group can be seen in generated code; how the groups were interleaved cannot.
-/
namespace NodeKit

/-! ## Groups of lines -/

namespace Entry

/-- The category of a property. The aliases are a group of their own. -/
def group : Entry → Option Category
  | .shorthand _ => none
  | .property p => some p.category

@[simp] lemma group_shorthand (shorthand : TypeAlias) : (Entry.shorthand shorthand).group = none :=
  rfl

@[simp] lemma group_property (property : Property) :
    (Entry.property property).group = some property.category := rfl

lemma filterMap_shorthand? (entries : List Entry) :
    entries.filterMap shorthand? = (entries.filter (·.group = none)).filterMap shorthand? := by
  rw [List.filterMap_filter]
  refine List.filterMap_congr fun entry _ => ?_
  cases entry <;> simp [shorthand?]

lemma filter_category (entries : List Entry) (category : Category) :
    (entries.filterMap property?).filter (·.category = category) =
      (entries.filter (·.group = some category)).filterMap property? := by
  rw [List.filter_filterMap, List.filterMap_filter]
  refine List.filterMap_congr fun entry _ => ?_
  cases entry with
  | shorthand _ => rfl
  | property property => simp [property?, Option.filter]

end Entry

namespace Boilerplate

/-! ## Generating -/

/-- Every block shows the properties category by category. -/
lemma generate_of_grouped (options : Options) {d : Declarations} (hne : d.properties ≠ []) :
    generate options d =
      .ok (Text.joinLines (aliasSection d ++ (editorSection options (grouped d.properties) ++
        runtimeSection options (grouped d.properties)))) := by
  rw [generate_of_properties options hne, Declarations.sortedProperties, sortProperties_eq_grouped]

section

variable {d e : Declarations} (haliases : d.aliases = e.aliases)
  (hgrouped : grouped d.properties = grouped e.properties)
include haliases hgrouped

/-- The code is made of the aliases and of the properties category by category, and of nothing
else. -/
lemma generate_congr (options : Options) : generate options d = generate options e := by
  have hempty := eq_nil_iff_of_grouped hgrouped
  have hsection : aliasSection d = aliasSection e := by rw [aliasSection, aliasSection, haliases]
  by_cases hnone : d.properties = []
  · rw [generate_of_no_properties options hnone, generate_of_no_properties options (hempty.1 hnone),
      hsection]
  · rw [generate_of_grouped options hnone, generate_of_grouped options (mt hempty.2 hnone),
      hsection, hgrouped]

lemma isEmpty_congr : d.isEmpty = e.isEmpty := by
  have hempty := eq_nil_iff_of_grouped hgrouped
  rw [Bool.eq_iff_iff]
  simp [Declarations.isEmpty, haliases, hempty]

end

lemma run_of_parse (options : Options) {input : ByteArray} {d : Declarations}
    (hd : parseDeclarations input = .ok d) :
    run options input = if d.isEmpty then .ok none else some <$> generate options d := by
  rw [run, hd]
  rfl

lemma run_congr (options : Options) {input other : ByteArray} {d e : Declarations}
    (hd : parseDeclarations input = .ok d) (he : parseDeclarations other = .ok e)
    (haliases : d.aliases = e.aliases)
    (hcategories : ∀ category, d.properties.filter (·.category = category) =
      e.properties.filter (·.category = category)) :
    run options input = run options other := by
  have hgrouped := grouped_congr hcategories
  rw [run_of_parse options hd, run_of_parse options he, isEmpty_congr haliases hgrouped,
    generate_congr haliases hgrouped options]

/-- Lines of different groups can be moved past each other. -/
lemma run_congr_of_declares (options : Options) {input other : ByteArray}
    {entries others : List Entry} (h : Declares input entries) (hother : Declares other others)
    (hgroups : ∀ group, entries.filter (·.group = group) = others.filter (·.group = group)) :
    run options input = run options other := by
  refine run_congr options (parseDeclarations_of_declares h)
    (parseDeclarations_of_declares hother) ?_ fun category => ?_
  · rw [Declarations.ofEntries, Declarations.ofEntries, Entry.filterMap_shorthand?, hgroups,
      ← Entry.filterMap_shorthand?]
  · rw [Declarations.ofEntries, Declarations.ofEntries, Entry.filter_category, hgroups,
      ← Entry.filter_category]

/-- Every block shows the inputs, then the settings, then the outputs, each as they were
declared. So the code for two inputs is the same when they declare the same aliases and, category
by category, the same properties, however their lines are interleaved. -/
theorem generate_grouped :
    (∀ options d, generate options d =
      generate options { d with properties := grouped d.properties }) ∧
    (∀ options d, d.properties ≠ [] → generate options d =
      .ok (Text.joinLines (aliasSection d ++ (editorSection options (grouped d.properties) ++
        runtimeSection options (grouped d.properties))))) ∧
    (∀ input other d e, parseDeclarations input = .ok d → parseDeclarations other = .ok e →
      d.aliases = e.aliases →
      (∀ category, d.properties.filter (·.category = category) =
        e.properties.filter (·.category = category)) →
      ∀ options, run options input = run options other) ∧
    (∀ input, (∃ d, parseDeclarations input = .ok d) ↔ ∃ entries, Declares input entries) ∧
    (∀ input other entries others, Declares input entries → Declares other others →
      (∀ group, entries.filter (·.group = group) = others.filter (·.group = group)) →
      ∀ options, run options input = run options other) := by
  refine ⟨fun options d => ?_, fun options d hne => ?_, fun input other d e hd he haliases h => ?_,
    fun input => ⟨?_, ?_⟩, fun input other entries others h hother hgroups options => ?_⟩
  · refine generate_congr ?_ ?_ options
    · rfl
    · exact (grouped_grouped d.properties).symm
  · exact generate_of_grouped options hne
  · exact fun options => run_congr options hd he haliases h
  · rintro ⟨d, hd⟩
    exact exists_declares hd
  · rintro ⟨entries, hentries⟩
    exact ⟨_, parseDeclarations_of_declares hentries⟩
  · exact run_congr_of_declares options h hother hgroups

/-- The property that `i int A` declares. -/
def inputA : Property := ⟨.input, "int", ['A'], none⟩

/-- The property that `o int R` declares. -/
def outputR : Property := ⟨.output, "int", ['R'], none⟩

/-- An output that is declared first, with an alias behind it and without one. -/
theorem generate_grouped_outputFirst :
    generate ⟨.runtime, .untagged⟩ ⟨[], [outputR, inputA]⟩ =
      .ok "public int A \x7b get; private set; \x7d\npublic int R \x7b get; private set; \x7d" ∧
    (∀ options, run options (Text.encode "o int R\nu V float3\ni int A") =
      run options (Text.encode "i int A\no int R\nu V float3\n")) ∧
    (∀ options, run options (Text.encode "o int R\ni int A\n\nrest") =
      run options (Text.encode "i int A\r\no int R")) := by
  obtain ⟨-, hblocks, hparsed, -, hlines⟩ := generate_grouped
  refine ⟨?_, ?_, ?_⟩
  · rw [hblocks _ _ (by simp)]
    decide +kernel
  · refine hparsed _ _ ⟨[⟨['V'], "float3"⟩], [outputR, inputA]⟩
      ⟨[⟨['V'], "float3"⟩], [inputA, outputR]⟩ (by decide +kernel) (by decide +kernel) rfl ?_
    intro category
    cases category <;> rfl
  · have hfirst : Declares (Text.encode "o int R\ni int A\n\nrest")
        [.property outputR, .property inputA] :=
      ⟨["o int R", "i int A"], by decide +kernel, by decide +kernel⟩
    have hsecond : Declares (Text.encode "i int A\r\no int R")
        [.property inputA, .property outputR] :=
      ⟨["i int A", "o int R"], by decide +kernel, by decide +kernel⟩
    refine hlines _ _ _ _ hfirst hsecond ?_
    intro group
    rcases group with _ | _ | _ | _ <;> rfl

end Boilerplate

end NodeKit
