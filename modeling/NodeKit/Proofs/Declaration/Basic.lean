import NodeKit.Declaration.Reading
import NodeKit.Proofs.Text.Words

/-!
# Declarations that were read

Every text in a declaration that was read is a word of its line. Sorting moves
properties of different categories past each other and leaves each category as it
was declared.
-/
namespace NodeKit

/-! ## Words -/

structure TypeAlias.Worded (shorthand : TypeAlias) : Prop where
  name : Text.IsWord shorthand.name
  target : Text.IsWord shorthand.target

structure Property.Worded (property : Property) : Prop where
  typeName : Text.IsWord property.typeName
  identifier : Text.IsWord property.identifier
  defaultValue : ∀ t ∈ property.defaultValue, Text.IsWord t

/-- Every text of the declarations is a word. -/
structure Declarations.Worded (d : Declarations) : Prop where
  aliases : ∀ shorthand ∈ d.aliases, shorthand.Worded
  properties : ∀ property ∈ d.properties, property.Worded

/-- What one line declares is made of its words. -/
lemma Entry.worded_of_ofWords? {words : List Text} {entry : Entry}
    (hwords : ∀ word ∈ words, Text.IsWord word) (h : ofWords? words = some entry) :
    (∀ shorthand ∈ entry.shorthand?, shorthand.Worded) ∧
      ∀ property ∈ entry.property?, property.Worded := by
  unfold ofWords? at h
  split at h
  · next code second third rest =>
    have hsecond : Text.IsWord second := hwords second (by simp)
    have hthird : Text.IsWord third := hwords third (by simp)
    cases h
    split
    · exact ⟨by simpa [shorthand?] using ⟨hsecond, hthird⟩, by simp [property?]⟩
    · refine ⟨by simp [shorthand?], ?_⟩
      have hrest : ∀ t ∈ rest.head?, Text.IsWord t := by
        intro t ht
        exact hwords t (by simp [List.mem_of_mem_head? ht])
      simpa [property?] using ⟨hsecond, hthird, hrest⟩
  · cases h

lemma throughLast_sublist (readings : List LineReading) :
    (throughLast readings).Sublist readings := by
  fun_induction throughLast readings with
  | case1 => exact .slnil
  | case2 line entry rest ih => exact ih.cons_cons _
  | case3 => simp

lemma LineReading.worded_of_ofBytes {bytes : List UInt8} {entry : Entry}
    (h : LineReading.entry? (ofBytes bytes) = some entry) :
    (∀ shorthand ∈ entry.shorthand?, shorthand.Worded) ∧
      ∀ property ∈ entry.property?, property.Worded := by
  unfold ofBytes at h
  split at h
  · next line _ =>
    unfold ofText at h
    split at h
    · cases h
    · split at h
      · next hentry =>
        cases h
        exact Entry.worded_of_ofWords? (fun _ => Text.isWord_of_mem_words) hentry
      · cases h
  · cases h

/-- Declarations that were read consist of words. -/
lemma worded_of_parseDeclarations {input : ByteArray} {d : Declarations}
    (h : parseDeclarations input = .ok d) : d.Worded := by
  have hentries : ∀ entry ∈ (readLines input).filterMap LineReading.entry?,
      (∀ shorthand ∈ entry.shorthand?, shorthand.Worded) ∧
        ∀ property ∈ entry.property?, property.Worded := by
    intro entry hentry
    obtain ⟨reading, hreading, hentry⟩ := List.mem_filterMap.1 hentry
    obtain ⟨bytes, -, rfl⟩ := List.mem_map.1 ((throughLast_sublist _).subset hreading)
    exact LineReading.worded_of_ofBytes hentry
  unfold parseDeclarations at h
  dsimp only at h
  split at h
  · cases h
  · cases h
    constructor
    · intro shorthand hshorthand
      obtain ⟨entry, hentry, hsome⟩ := List.mem_filterMap.1 hshorthand
      exact (hentries entry hentry).1 shorthand hsome
    · intro property hproperty
      obtain ⟨entry, hentry, hsome⟩ := List.mem_filterMap.1 hproperty
      exact (hentries entry hentry).2 property hsome

/-! ## Order -/

lemma sortProperties_eq_nil_iff {properties : List Property} :
    sortProperties properties = [] ↔ properties = [] := by
  rw [← List.length_eq_zero_iff, (sortProperties_perm properties).length_eq,
    List.length_eq_zero_iff]

/-- Sorting keeps every category as it was declared. -/
lemma filter_sortProperties (category : Category) (properties : List Property) :
    (sortProperties properties).filter (·.category = category) =
      properties.filter (·.category = category) := by
  have hordered : (properties.filter (·.category = category)).Pairwise fun p q =>
      decide (p.category.rank ≤ q.category.rank) = true := by
    refine List.pairwise_of_forall_mem_list fun p hp q hq => ?_
    have hp := (List.mem_filter.1 hp).2
    have hq := (List.mem_filter.1 hq).2
    simp_all
  have hsub : (properties.filter (·.category = category)).Sublist (sortProperties properties) :=
    List.sublist_mergeSort (fun p q r hpq hqr => by simp at *; omega)
      (fun p q => by simp; omega) hordered List.filter_sublist
  have hfilter := hsub.filter (fun p : Property => decide (p.category = category))
  rw [List.filter_filter] at hfilter
  simp only [Bool.and_self] at hfilter
  have hlength := ((sortProperties_perm properties).filter
    (fun p : Property => decide (p.category = category))).length_eq
  exact (hfilter.eq_of_length hlength.symm).symm

/-- Inputs, then settings, then outputs, each as they were declared. -/
def grouped (properties : List Property) : List Property :=
  properties.filter (·.category = .input) ++ properties.filter (·.category = .setting) ++
    properties.filter (·.category = .output)

/-- In properties that are in order, the categories stand one behind the other. -/
lemma grouped_of_pairwise {properties : List Property}
    (h : properties.Pairwise fun p q => p.category.rank ≤ q.category.rank) :
    grouped properties = properties := by
  induction properties with
  | nil => rfl
  | cons p rest ih =>
    obtain ⟨hp, hrest⟩ := List.pairwise_cons.1 h
    have ih := ih hrest
    have hnone (category : Category) (hlower : category.rank < p.category.rank) :
        rest.filter (·.category = category) = [] := by
      refine List.filter_eq_nil_iff.2 fun q hq heq => ?_
      rw [← of_decide_eq_true heq] at hlower
      exact absurd (hp q hq) (Nat.not_le.2 hlower)
    unfold grouped at ih ⊢
    cases hcategory : p.category with
    | input => simpa [hcategory] using ih
    | setting =>
      have hinputs := hnone .input (by rw [hcategory]; decide)
      simpa [hcategory, hinputs] using ih
    | output =>
      have hinputs := hnone .input (by rw [hcategory]; decide)
      have hsettings := hnone .setting (by rw [hcategory]; decide)
      simpa [hcategory, hinputs, hsettings] using ih

lemma pairwise_sortProperties (properties : List Property) :
    (sortProperties properties).Pairwise fun p q => p.category.rank ≤ q.category.rank := by
  have hsorted : (sortProperties properties).Pairwise fun p q =>
      decide (p.category.rank ≤ q.category.rank) = true :=
    List.pairwise_mergeSort (fun p q r hpq hqr => by simp at *; omega)
      (fun p q => by simp; omega) properties
  exact hsorted.imp of_decide_eq_true

/-- Properties that are the same in every category are rendered in the same order. -/
lemma grouped_congr {properties others : List Property}
    (h : ∀ category, properties.filter (·.category = category) =
      others.filter (·.category = category)) : grouped properties = grouped others := by
  simp only [grouped, h]

/-- The order of rendering is the three categories, one behind the other. -/
lemma sortProperties_eq_grouped (properties : List Property) :
    sortProperties properties = grouped properties :=
  calc sortProperties properties = grouped (sortProperties properties) :=
        (grouped_of_pairwise (pairwise_sortProperties properties)).symm
    _ = grouped properties :=
        grouped_congr fun category => filter_sortProperties category properties

lemma eq_nil_iff_of_grouped {properties others : List Property}
    (h : grouped properties = grouped others) : properties = [] ↔ others = [] := by
  rw [← sortProperties_eq_nil_iff, sortProperties_eq_grouped, h, ← sortProperties_eq_grouped,
    sortProperties_eq_nil_iff]

lemma grouped_grouped (properties : List Property) :
    grouped (grouped properties) = grouped properties := by
  have hpairwise := pairwise_sortProperties properties
  rw [sortProperties_eq_grouped] at hpairwise
  exact grouped_of_pairwise hpairwise

end NodeKit
