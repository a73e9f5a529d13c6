import NodeKit.Proofs.Refactoring.Signature

/-!
# What a signature change leaves, and how it is undone

A text is a stencil with a hole wherever one of the two signatures stands, old or
new. When neither can overlap the other or itself, a change writes the new one into
every hole and adds nothing to what the stencil spells. So no old signature is left
(`Traceable.old_not_infix_apply`), the new ones are those of before and the changed
ones (`Traceable.countOccurrences_apply`), and where there was none before, changing
them back undoes the change (`Traceable.undo_apply`).
-/
namespace NodeKit.Refactoring

open Text Stencil

namespace SignatureChange

/-- The signature, before the change and after it. -/
def spelling (change : SignatureChange) : (changed : Bool) → Text
  | false => change.old
  | true => change.new

/-- Neither signature of the change can overlap the other one or itself. -/
structure Traceable (change : SignatureChange) : Prop where
  ne_nil : ∀ k, change.spelling k ≠ []
  notInto : ∀ j k, NoStart (change.spelling j) (change.spelling k).tail
  notWithin : ∀ j k, j ≠ k → NoStart (change.spelling j) (change.spelling k)

namespace Traceable

variable {change : SignatureChange} (h : change.Traceable) {m : Stencil Bool}
include h

/-- The change writes the new signature into every hole. -/
lemma apply_fill (hraw : ¬ ofText change.old <:+: m) :
    change.apply (fill change.spelling m) = fill (fun _ => change.new) m := by
  refine replaceAll_fill (h.ne_nil false) (fun k => h.notInto k false) (fun k => ?_) hraw
  cases k with
  | false => exact Or.inl ⟨rfl, rfl⟩
  | true => exact Or.inr ⟨h.notWithin false true (by decide), rfl⟩

/-- No old signature is left. -/
theorem old_not_infix_apply (t : Text) : ¬ change.old <:+: change.apply t := by
  obtain ⟨m, rfl, hraw⟩ := exists_stencil change.spelling h.ne_nil t
  rw [h.apply_fill (hraw false)]
  rintro ⟨front, behind, hinside⟩
  have hapart : Apart change.new change.old :=
    ⟨h.notWithin false true (by decide), h.notInto true false⟩
  have hfill : fill (fun _ => change.new) m = front ++ (change.old ++ behind) := by
    rw [← hinside, List.append_assoc]
  obtain ⟨above, below, hm, -, -⟩ :=
    exists_split_fill (fun _ => hapart) (h.ne_nil false) hfill
  exact hraw false ⟨above, below, (List.append_assoc ..).trans hm.symm⟩

/-- Either signature occurs where a hole holds it. -/
lemma countOccurrences_spelling (k : Bool) (hraw : ¬ ofText (change.spelling k) <:+: m) :
    countOccurrences (change.spelling k) (fill change.spelling m) = holes (· == k) m := by
  refine countOccurrences_fill (h.ne_nil k) (fun j => h.notInto j k) (fun j => ?_) hraw
  by_cases hj : j = k
  · exact Or.inl ⟨by rw [hj], by simpa using hj⟩
  · exact Or.inr ⟨h.notWithin k j (Ne.symm hj), by simpa using hj⟩

omit h in
lemma holes_add_holes (m : Stencil Bool) :
    holes (· == true) m + holes (· == false) m = holes (fun _ => true) m := by
  induction m with
  | nil => rfl
  | cons cell m ih =>
    cases cell with
    | inl c => exact ih
    | inr k =>
      rw [holes_hole, holes_hole, holes_hole, ← ih]
      cases k
      · exact (Nat.add_assoc (holes (· == true) m) (holes (· == false) m) 1).symm
      · exact Nat.add_right_comm (holes (· == true) m) 1 (holes (· == false) m)

/-- Every old signature becomes a new one, and no other new one appears or goes. -/
theorem countOccurrences_apply (t : Text) : countOccurrences change.new (change.apply t) =
    countOccurrences change.new t + countOccurrences change.old t := by
  obtain ⟨m, rfl, hraw⟩ := exists_stencil change.spelling h.ne_nil t
  have hall : countOccurrences change.new (fill (fun _ => change.new) m) =
      holes (fun _ => true) m :=
    countOccurrences_fill (h.ne_nil true) (fun _ => h.notInto true true)
      (fun _ => Or.inl ⟨rfl, rfl⟩) (hraw true)
  have hnew : countOccurrences change.new (fill change.spelling m) = holes (· == true) m :=
    h.countOccurrences_spelling true (hraw true)
  have hold : countOccurrences change.old (fill change.spelling m) = holes (· == false) m :=
    h.countOccurrences_spelling false (hraw false)
  rw [h.apply_fill (hraw false), hall, hnew, hold, holes_add_holes]

/-- Where the new signature did not occur, changing it back undoes the change. -/
theorem undo_apply {t : Text} (hnone : ¬ change.new <:+: t) :
    replaceAll change.new change.old (change.apply t) = t := by
  obtain ⟨m, rfl, hraw⟩ := exists_stencil (fun _ : Unit => change.old) (fun _ => h.ne_nil false) t
  have hforth : change.apply (fill (fun _ => change.old) m) = fill (fun _ => change.new) m :=
    replaceAll_fill (h.ne_nil false) (fun _ => h.notInto false false)
      (fun _ => Or.inl ⟨rfl, rfl⟩) (hraw ())
  have hunspelled : ¬ ofText change.new <:+: m :=
    fun hspelled => hnone (infix_fill (fun _ => change.old) hspelled)
  rw [hforth]
  exact replaceAll_fill (h.ne_nil true) (fun _ => h.notInto true true)
    (fun _ => Or.inl ⟨rfl, rfl⟩) hunspelled

end Traceable

end SignatureChange

/-- The only `p` of each of the four signatures is its first character. -/
lemma traceable_signatureChanges :
    ∀ change ∈ signatureChanges, SignatureChange.Traceable change := by
  have hdecided : ∀ change ∈ signatureChanges, (∀ k, change.spelling k ≠ []) ∧
      (∀ j k, NoStart (change.spelling j) (change.spelling k).tail) ∧
      ∀ j k, j ≠ k → NoStart (change.spelling j) (change.spelling k) := by
    decide +kernel
  intro change hchange
  obtain ⟨hne, hinto, hwithin⟩ := hdecided change hchange
  exact ⟨hne, hinto, hwithin⟩

/-- A change leaves no old signature, makes as many new ones as there were old ones, and can be
undone on a text that had no new one. -/
theorem apply_lossless (change : NodeDataChange) (t : Text) :
    ¬ change.val.old <:+: change.val.apply t ∧
      Text.countOccurrences change.val.new (change.val.apply t) =
        Text.countOccurrences change.val.new t + Text.countOccurrences change.val.old t ∧
      (¬ change.val.new <:+: t →
        Text.replaceAll change.val.new change.val.old (change.val.apply t) = t) := by
  have htraceable := traceable_signatureChanges change.val change.property
  exact ⟨htraceable.old_not_infix_apply t, htraceable.countOccurrences_apply t,
    htraceable.undo_apply⟩

/-- Two signatures side by side, with the beginning of a third in front of them. -/
theorem apply_lossless_sideBySide :
    let change : NodeDataChange := ⟨getNodeDataChange, by decide⟩
    let t : Text := "public override public override JObject GetNodeData()" ++
      "public override JObject GetNodeData()"
    let u : Text := "public override protected internal override JObject GetNodeData()" ++
      "protected internal override JObject GetNodeData()"
    ¬ change.val.new <:+: t ∧ change.val.apply t = u ∧ ¬ change.val.old <:+: u ∧
      Text.countOccurrences change.val.new u = 2 ∧
      Text.replaceAll change.val.new change.val.old u = t := by
  intro change t u
  have hnone : ¬ change.val.new <:+: t := by decide +kernel
  have happly : change.val.apply t = u := by decide +kernel
  have hcount : Text.countOccurrences change.val.new t + Text.countOccurrences change.val.old t =
      2 := by decide +kernel
  obtain ⟨hold, hnew, hundo⟩ := apply_lossless change t
  rw [happly] at hold hnew hundo
  exact ⟨hnone, happly, hold, hnew.trans hcount, hundo hnone⟩

end NodeKit.Refactoring
