import NodeKit.Text.Lowercase
import Mathlib.Data.List.Basic

/-!
# What lowering cannot bring in

Every character that moves at all moves to a code point from `a` on, so lowering
never makes a line feed.
-/
namespace NodeKit.Text

lemma le_of_lowerCode? {n lowered : Nat} (h : lowerCode? n = some lowered) : 0x61 ≤ lowered := by
  have htargets : ∀ run ∈ caseRuns, 0x61 ≤ run.target := by decide +kernel
  obtain ⟨run, hrun, himage⟩ := List.exists_of_findSome?_eq_some h
  have htarget := htargets run hrun
  unfold CaseRun.image? at himage
  split at himage
  · cases himage
    omega
  · cases himage

lemma ofNat_ne_lf {n : Nat} (h : 0x61 ≤ n) : Char.ofNat n ≠ '\n' := by
  intro hlf
  by_cases hvalid : n.isValidChar
  · rw [Char.ofNat, dif_pos hvalid] at hlf
    have hn : n = 10 := congrArg Char.toNat hlf
    omega
  · rw [Char.ofNat, dif_neg hvalid] at hlf
    exact absurd hlf (by decide)

lemma lf_notMem_lowerChar {c : Char} (h : c ≠ '\n') : '\n' ∉ lowerChar c := by
  unfold lowerChar
  split
  · decide
  · split
    · next lowered hlowered =>
      have hne := ofNat_ne_lf (le_of_lowerCode? hlowered)
      simpa using hne.symm
    · simpa using h.symm

lemma lf_notMem_lowerFirst {t : Text} (h : '\n' ∉ t) : '\n' ∉ lowerFirst t := by
  cases t with
  | nil => exact h
  | cons c rest =>
    obtain ⟨hc, hrest⟩ := not_or.1 (mt List.mem_cons.2 h)
    rw [lowerFirst, List.mem_append, not_or]
    exact ⟨lf_notMem_lowerChar (Ne.symm hc), hrest⟩

end NodeKit.Text
