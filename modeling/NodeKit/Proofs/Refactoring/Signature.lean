import NodeKit.Proofs.Text.Occurrence
import NodeKit.Refactoring.Signature

/-!
# Changing several signatures

Every text is a stencil with a hole wherever an old signature stands. Signatures that
cannot overlap do not get into each other's way: a change fills the holes of its own
signature anew and touches nothing else (`apply_fill`). What a sequence of changes
leaves therefore depends only on which changes are in it (`applyAll_eq_of_mem_iff`).
-/
namespace NodeKit.Refactoring

open Text Stencil

namespace SignatureChange

/-- Changes whose signatures, old and new, cannot overlap. -/
structure Independent {κ : Type} (change : κ → SignatureChange) : Prop where
  old_ne_nil : ∀ k, (change k).old ≠ []
  old_notInto : ∀ j k, NoStart (change j).old (change k).old.tail
  new_notInto : ∀ j k, NoStart (change j).new (change k).old.tail
  old_notWithin_new : ∀ j k, NoStart (change j).old (change k).new
  old_notWithin_old : ∀ j k, j ≠ k → NoStart (change j).old (change k).old

/-- Makes changes one after the other. -/
def applyAll (changes : List SignatureChange) (t : Text) : Text :=
  changes.foldl (fun t change => change.apply t) t

section

variable {κ : Type} [DecidableEq κ] {change : κ → SignatureChange}

/-- The signature in a hole when the changes in `done` have been made. -/
def signature (change : κ → SignatureChange) (done : List κ) (k : κ) : Text :=
  if k ∈ done then (change k).new else (change k).old

/-- A change fills the holes of its own signature. -/
lemma apply_fill (h : Independent change) {m : Stencil κ}
    (hraw : ∀ k, ¬ ofText (change k).old <:+: m) (done : List κ) (k : κ) :
    (change k).apply (fill (signature change done) m) =
      fill (signature change (k :: done)) m := by
  refine replaceAll_fill (h.old_ne_nil k) (fun j => ?_) (fun j => ?_) (hraw k)
  · unfold signature
    split
    · exact h.new_notInto j k
    · exact h.old_notInto j k
  · by_cases hdone : j ∈ done
    · right
      have hnew : signature change done j = (change j).new := if_pos hdone
      have hkept : signature change (k :: done) j = (change j).new :=
        if_pos (List.mem_cons_of_mem k hdone)
      rw [hnew, hkept]
      exact ⟨h.old_notWithin_new k j, rfl⟩
    · have hold : signature change done j = (change j).old := if_neg hdone
      by_cases hj : j = k
      · left
        subst hj
        exact ⟨hold, if_pos List.mem_cons_self⟩
      · right
        have hkept : signature change (k :: done) j = (change j).old :=
          if_neg (by simp [hj, hdone])
        rw [hold, hkept]
        exact ⟨h.old_notWithin_old k j (Ne.symm hj), rfl⟩

/-- Changes fill the holes of all their signatures, in whatever order they are made. -/
lemma applyAll_fill (h : Independent change) {m : Stencil κ}
    (hraw : ∀ k, ¬ ofText (change k).old <:+: m) (changes done : List κ) :
    applyAll (changes.map change) (fill (signature change done) m) =
      fill (signature change (changes.reverse ++ done)) m := by
  induction changes generalizing done with
  | nil => rfl
  | cons k changes ih =>
    have hstep : applyAll ((k :: changes).map change) (fill (signature change done) m) =
        applyAll (changes.map change) ((change k).apply (fill (signature change done) m)) := rfl
    rw [hstep, apply_fill h hraw, ih, List.reverse_cons, List.append_assoc, List.singleton_append]

/-- Independent changes can be made in any order and as often as one likes. -/
theorem Independent.applyAll_eq (h : Independent change) {first second : List κ}
    (hsame : ∀ k, k ∈ first ↔ k ∈ second) (t : Text) :
    applyAll (first.map change) t = applyAll (second.map change) t := by
  obtain ⟨m, hm, hraw⟩ := exists_stencil (fun k => (change k).old) h.old_ne_nil t
  have hstart : t = fill (signature change []) m := hm.symm
  have hsignature : signature change first.reverse = signature change second.reverse := by
    funext k
    simp [signature, hsame]
  rw [hstart, applyAll_fill h hraw, applyAll_fill h hraw, List.append_nil, List.append_nil,
    hsignature]

end

end SignatureChange

/-! ## The two changes -/

/-- The changes that narrow the visibility of a node's data. -/
def signatureChanges : List SignatureChange := [getNodeDataChange, setNodeDataChange]

/-- One of the two changes. -/
abbrev NodeDataChange := {change // change ∈ signatureChanges}

/-- Each of the four signatures starts with the only `p` in it, so two of them can only overlap by
starting at the same place, and there no old one is the beginning of another signature. -/
lemma signatures_apart : ∀ c ∈ signatureChanges, ∀ d ∈ signatureChanges,
    NoStart c.old d.old.tail ∧ NoStart c.new d.old.tail ∧ NoStart c.old d.new ∧
      (c ≠ d → NoStart c.old d.old) := by
  decide +kernel

lemma independent_signatureChanges :
    SignatureChange.Independent (Subtype.val : NodeDataChange → SignatureChange) where
  old_ne_nil := by
    have hne : ∀ c ∈ signatureChanges, c.old ≠ [] := by decide
    exact fun c => hne c c.property
  old_notInto c d := (signatures_apart c c.property d d.property).1
  new_notInto c d := (signatures_apart c c.property d d.property).2.1
  old_notWithin_new c d := (signatures_apart c c.property d d.property).2.2.1
  old_notWithin_old c d hne :=
    (signatures_apart c c.property d d.property).2.2.2 (Subtype.coe_ne_coe.2 hne)

/-- Sequences in which the same changes occur leave the same text, in whatever order and however
often they make them. -/
theorem applyAll_eq_of_mem_iff {first second : List NodeDataChange}
    (hsame : ∀ change, change ∈ first ↔ change ∈ second) (t : Text) :
    SignatureChange.applyAll (first.map Subtype.val) t =
      SignatureChange.applyAll (second.map Subtype.val) t :=
  independent_signatureChanges.applyAll_eq hsame t

/-- Three changes against two, in another order, on a text with both signatures. -/
theorem applyAll_eq_repeated :
    let get : NodeDataChange := ⟨getNodeDataChange, by decide⟩
    let set : NodeDataChange := ⟨setNodeDataChange, by decide⟩
    let t : Text := "public override JObject GetNodeData();public override void " ++
      "SetNodeData(JObject jsonData);"
    (∀ change, change ∈ [get, set, get] ↔ change ∈ [set, get]) ∧
      SignatureChange.applyAll ([get, set, get].map Subtype.val) t =
        SignatureChange.applyAll ([set, get].map Subtype.val) t := by
  intro get set t
  have hsame : ∀ change, change ∈ [get, set, get] ↔ change ∈ [set, get] := by
    intro change
    simp only [List.mem_cons, List.not_mem_nil, or_false]
    exact ⟨Or.rec Or.inr id, Or.inr⟩
  exact ⟨hsame, applyAll_eq_of_mem_iff hsame t⟩

end NodeKit.Refactoring
