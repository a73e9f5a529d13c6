import NodeKit.Proofs.Text.Alphabets
import Mathlib.Data.List.Pairwise

/-!
# The runs of the lowercase mapping

No code point lies in two runs, so it does not matter in which order they are tried,
and the runs give every character the lower case that it has in the alphabets
(`lowered_iff`). And no run covers a code point that another one moves to: what was
lowered stays as it is (`lowerChar_of_mem`). Lowering the first character of a text
twice is lowering it once, and the characters behind it have no part in it
(`lowerFirst_idempotent_local`).
-/
namespace NodeKit.Text

namespace CaseRun

/-- The last code point that the run moves to. -/
def reach (run : CaseRun) : Nat := run.target + (run.last - run.first)

/-- The run lies in front of the other one. -/
def Before (run other : CaseRun) : Prop := run.last < other.first ∧ other.first ≤ other.last

instance : DecidableRel Before := fun _ _ => inferInstanceAs (Decidable (_ ∧ _))

instance : Trans Before Before Before where
  trans h h' := ⟨Nat.lt_trans (Nat.lt_of_lt_of_le h.1 h.2) h'.1, h'.2⟩

/-- Whether the other run covers nothing that this one moves to. It lies in front of that or behind
it, or else its code points are odd where the ones moved to are even, or even where they are odd. -/
def isClearOf (run other : CaseRun) : Bool :=
  Nat.blt other.last run.target || Nat.blt run.reach other.first ||
    (Nat.beq run.stride 2 || Nat.beq run.first run.last) && Nat.beq other.stride 2 &&
      !Nat.beq (run.target % 2) (other.first % 2)

/-- Whether the run moves to Unicode scalar values only. -/
def movesToScalars (run : CaseRun) : Bool :=
  Nat.blt run.reach 0xD800 || Nat.blt 0xDFFF run.target && Nat.blt run.reach 0x110000

variable {run other : CaseRun} {n m : Nat}

lemma covers_iff :
    run.covers n ↔ run.first ≤ n ∧ n ≤ run.last ∧ (n - run.first) % run.stride = 0 := by
  simp [covers, and_assoc]

lemma image?_eq_some_iff :
    run.image? n = some m ↔ run.covers n ∧ run.target + (n - run.first) = m := by
  simp [image?]

lemma Before.not_covers (h : run.Before other) (hn : run.covers n) : ¬ other.covers n := by
  intro hothers
  have hlast := (covers_iff.1 hn).2.1
  have hfirst := (covers_iff.1 hothers).1
  have hbefore := h.1
  omega

lemma not_covers_of_isClearOf (h : run.isClearOf other) (hn : run.covers n) :
    ¬ other.covers (run.target + (n - run.first)) := by
  intro hothers
  obtain ⟨hfirst, hlast, hstride⟩ := covers_iff.1 hn
  obtain ⟨hfirst', hlast', hstride'⟩ := covers_iff.1 hothers
  have hclear : (other.last < run.target ∨ run.target + (run.last - run.first) < other.first) ∨
      ((run.stride = 2 ∨ run.first = run.last) ∧ other.stride = 2) ∧
        run.target % 2 ≠ other.first % 2 := by
    simpa [isClearOf, reach, ← Bool.not_eq_true] using h
  obtain (hbefore | hbehind) | ⟨⟨hparity, htwo⟩, hdiffer⟩ := hclear
  · omega
  · omega
  · rw [htwo] at hstride'
    -- the distance that the run moves is even, or the run is a single code point
    have heven : (n - run.first) % 2 = 0 := by
      rcases hparity with hruntwo | hsingle
      · rwa [hruntwo] at hstride
      · omega
    omega

lemma isValidChar_of_movesToScalars (h : run.movesToScalars) (hn : run.covers n) :
    (run.target + (n - run.first)).isValidChar := by
  obtain ⟨hfirst, hlast, -⟩ := covers_iff.1 hn
  have hscalars : run.target + (run.last - run.first) < 0xD800 ∨
      0xDFFF < run.target ∧ run.target + (run.last - run.first) < 0x110000 := by
    simpa [movesToScalars, reach] using h
  obtain hlow | ⟨hbehind, hhigh⟩ := hscalars
  · exact Or.inl (by omega)
  · exact Or.inr ⟨by omega, by omega⟩

end CaseRun

/-! ## The table -/

lemma before_caseRuns : caseRuns.Pairwise CaseRun.Before :=
  List.isChain_iff_pairwise.1 (by decide +kernel)

/-- Every run moves to Unicode scalar values, and neither to U+0130 nor to a code point that a run
covers. -/
lemma targets_caseRuns : caseRuns.all fun run =>
    run.movesToScalars && run.isClearOf ⟨0x130, 0x130, 1, 0x69⟩ && caseRuns.all run.isClearOf := by
  decide +kernel

lemma targets_of_mem {run : CaseRun} (h : run ∈ caseRuns) :
    run.movesToScalars ∧ run.isClearOf ⟨0x130, 0x130, 1, 0x69⟩ ∧
      ∀ other ∈ caseRuns, run.isClearOf other := by
  have htargets := List.all_eq_true.1 targets_caseRuns run h
  rw [Bool.and_eq_true, Bool.and_eq_true, List.all_eq_true, and_assoc] at htargets
  exact htargets

section

variable {n m : Nat}

lemma eq_of_covers {run other : CaseRun} (hrun : run ∈ caseRuns) (hother : other ∈ caseRuns)
    (hn : run.covers n) (hn' : other.covers n) : run = other := by
  -- of two runs in the table, one lies in front of the other
  let Ordered (run other : CaseRun) : Prop := run.Before other ∨ other.Before run
  have : Std.Symm Ordered := ⟨fun _ _ => Or.symm⟩
  have hordered : caseRuns.Pairwise Ordered := before_caseRuns.imp Or.inl
  by_contra hne
  rcases hordered.forall hrun hother hne with hbefore | hbefore
  · exact hbefore.not_covers hn hn'
  · exact hbefore.not_covers hn' hn

/-- A code point moves as the run says that covers it. -/
lemma lowerCode?_eq_some_iff :
    lowerCode? n = some m ↔
      ∃ run ∈ caseRuns, run.covers n ∧ run.target + (n - run.first) = m := by
  constructor
  · intro h
    obtain ⟨run, hrun, himage⟩ := List.exists_of_findSome?_eq_some h
    exact ⟨run, hrun, CaseRun.image?_eq_some_iff.1 himage⟩
  · rintro ⟨run, hrun, hcovers, rfl⟩
    have hmoves : (lowerCode? n).isSome := by
      rw [lowerCode?, List.findSome?_isSome_iff]
      exact ⟨run, hrun, by simp [CaseRun.image?, hcovers]⟩
    obtain ⟨m, hm⟩ := Option.isSome_iff_exists.1 hmoves
    obtain ⟨other, hother, himage⟩ := List.exists_of_findSome?_eq_some hm
    obtain ⟨hcovers', rfl⟩ := CaseRun.image?_eq_some_iff.1 himage
    rw [hm, eq_of_covers hrun hother hcovers hcovers']

lemma lowerCode?_eq_none_iff : lowerCode? n = none ↔ ∀ run ∈ caseRuns, ¬ run.covers n := by
  simp [lowerCode?, List.findSome?_eq_none_iff, CaseRun.image?]

/-- Nothing moves to a code point that moves on. -/
lemma lowerCode?_of_lowered (h : lowerCode? n = some m) : lowerCode? m = none := by
  obtain ⟨run, hrun, hcovers, rfl⟩ := lowerCode?_eq_some_iff.1 h
  refine lowerCode?_eq_none_iff.2 fun other hother => ?_
  obtain ⟨-, -, hclear⟩ := targets_of_mem hrun
  exact CaseRun.not_covers_of_isClearOf (hclear other hother) hcovers

lemma ne_dotted_of_lowered (h : lowerCode? n = some m) : m ≠ 0x130 := by
  obtain ⟨run, hrun, hcovers, rfl⟩ := lowerCode?_eq_some_iff.1 h
  obtain ⟨-, hclear, -⟩ := targets_of_mem hrun
  intro hdotted
  refine CaseRun.not_covers_of_isClearOf hclear hcovers ?_
  rw [hdotted]
  rfl

lemma toNat_ofNat_of_lowered (h : lowerCode? n = some m) : (Char.ofNat m).toNat = m := by
  obtain ⟨run, hrun, hcovers, rfl⟩ := lowerCode?_eq_some_iff.1 h
  obtain ⟨hscalars, -, -⟩ := targets_of_mem hrun
  rw [Char.ofNat, dif_pos (CaseRun.isValidChar_of_movesToScalars hscalars hcovers)]
  rfl

end

/-! ## Characters -/

variable {c d : Char}

/-- The letters of the alphabets are the characters that move. -/
lemma mem_letterPairs : (c, d) ∈ letterPairs ↔ lowerCode? c.toNat = some d.toNat := by
  have hcodes : Function.Injective fun (pair : Char × Char) => (pair.1.toNat, pair.2.toNat) := by
    intro pair other h
    obtain ⟨hc, hd⟩ := Prod.mk.inj h
    exact Prod.ext (Char.toNat_inj.1 hc) (Char.toNat_inj.1 hd)
  rw [← List.mem_map_of_injective hcodes, codes_letterPairs]
  simp only [List.mem_flatMap, CaseRun.mem_pairs, CaseRun.image?_eq_some_iff,
    lowerCode?_eq_some_iff]

lemma lowerCode?_dotted : lowerCode? ('\u0130' : Char).toNat = none := by rfl

lemma lowerChar_of_moved {m : Nat} (h : lowerCode? c.toNat = some m) :
    lowerChar c = [Char.ofNat m] := by
  have hc : c.toNat ≠ 0x130 := by
    intro hdotted
    obtain rfl : c = '\u0130' := Char.toNat_inj.1 hdotted
    rw [lowerCode?_dotted] at h
    cases h
  simp [lowerChar, hc, h]

lemma lowerChar_of_own (hc : c ≠ '\u0130') (h : lowerCode? c.toNat = none) : lowerChar c = [c] := by
  have hcode : c.toNat ≠ 0x130 := fun heq => hc (Char.toNat_inj.1 heq)
  simp [lowerChar, hcode, h]

/-- The runs give a character its lower case. -/
theorem lowered_iff {t : Text} : Lowered c t ↔ t = lowerChar c := by
  constructor
  · intro h
    cases h with
    | dotted h =>
      subst h
      rfl
    | letter h => rw [lowerChar_of_moved (mem_letterPairs.1 h), Char.ofNat_toNat]
    | own hc h =>
      refine (lowerChar_of_own hc (Option.eq_none_iff_forall_ne_some.2 fun m hm => ?_)).symm
      exact h (Char.ofNat m) (mem_letterPairs.2 (by rw [hm, toNat_ofNat_of_lowered hm]))
  · rintro rfl
    cases hcode : lowerCode? c.toNat with
    | some m =>
      rw [lowerChar_of_moved hcode]
      exact .letter (mem_letterPairs.2 (by rw [hcode, toNat_ofNat_of_lowered hcode]))
    | none =>
      by_cases hc : c = '\u0130'
      · subst hc
        exact .dotted rfl
      · rw [lowerChar_of_own hc hcode]
        refine .own hc fun d hd => ?_
        rw [mem_letterPairs.1 hd] at hcode
        cases hcode

lemma lowerChar_ne_nil (c : Char) : lowerChar c ≠ [] := by
  have hlowered : Lowered c (lowerChar c) := lowered_iff.2 rfl
  intro hnil
  rw [hnil] at hlowered
  cases hlowered

/-- A character of a lower case is its own lower case. -/
theorem lowerChar_of_mem (h : d ∈ lowerChar c) : lowerChar d = [d] := by
  cases hcode : lowerCode? c.toNat with
  | some m =>
    obtain rfl : d = Char.ofNat m := by simpa [lowerChar_of_moved hcode] using h
    have hstays : lowerCode? (Char.ofNat m).toNat = none := by
      rw [toNat_ofNat_of_lowered hcode]
      exact lowerCode?_of_lowered hcode
    refine lowerChar_of_own (fun hdotted => ne_dotted_of_lowered hcode ?_) hstays
    rw [← toNat_ofNat_of_lowered hcode, hdotted]
    rfl
  | none =>
    by_cases hc : c = '\u0130'
    · subst hc
      obtain rfl | rfl : d = 'i' ∨ d = '\u0307' := by simpa [lowerChar] using h
      · rfl
      · rfl
    · obtain rfl : d = c := by simpa [lowerChar_of_own hc hcode] using h
      exact lowerChar_of_own hc hcode

/-- Lowering the first character twice is lowering it once. The first character of a text becomes
its full lower case, and what stands behind it stays, however long it is. -/
theorem lowerFirst_idempotent_local :
    (∀ s : Text, lowerFirst (lowerFirst s) = lowerFirst s) ∧
      ∀ (c : Char) (rest : Text),
        (∃ lower, (∀ t, Lowered c t ↔ t = lower) ∧ lowerFirst (c :: rest) = lower ++ rest) ∧
          ∀ t, lowerFirst (c :: rest ++ t) = lowerFirst (c :: rest) ++ t := by
  refine ⟨fun s => ?_, fun c rest => ⟨?_, fun t => ?_⟩⟩
  · cases s with
    | nil => rfl
    | cons c rest =>
      obtain ⟨d, more, hlower⟩ := List.exists_cons_of_ne_nil (lowerChar_ne_nil c)
      have hstays : lowerChar d = [d] := lowerChar_of_mem (by rw [hlower]; exact List.mem_cons_self)
      rw [lowerFirst_cons, hlower, List.cons_append, lowerFirst_cons, hstays]
      rfl
  · exact ⟨lowerChar c, fun _ => lowered_iff, lowerFirst_cons c rest⟩
  · rw [List.cons_append, lowerFirst_cons, lowerFirst_cons, List.append_assoc]

/-- A capital letter, one of title case, one of another plane, a sign, a capital sharp s, two sigmas,
the letter with two characters, and a text that has nothing to lower. -/
theorem lowerFirst_idempotent_local_letters :
    lowerFirst "HTTPPort" = "hTTPPort" ∧ lowerFirst "\u01C5X" = "\u01C6X" ∧
      lowerFirst "𐐀𐐁" = "𐐨𐐁" ∧ lowerFirst "\u212AX" = "kX" ∧ lowerFirst "\u1E9EX" = "ßX" ∧
      lowerFirst "ΣΣ" = "σΣ" ∧ lowerFirst "\u0130\u01C5" = "i\u0307\u01C5" ∧
      lowerFirst "_X" = "_X" ∧
      lowerFirst (lowerFirst "\u0130\u01C5") = lowerFirst "\u0130\u01C5" ∧
      ∀ t, lowerFirst ('\u0130' :: "\u01C5" ++ t) = "i\u0307\u01C5" ++ t := by
  have hdotted : lowerFirst "\u0130\u01C5" = "i\u0307\u01C5" := by rfl
  refine ⟨by rfl, by decide +kernel, by decide +kernel, by decide +kernel, by decide +kernel,
    by decide +kernel, hdotted, by rfl, lowerFirst_idempotent_local.1 _, fun t => ?_⟩
  rw [(lowerFirst_idempotent_local.2 '\u0130' "\u01C5").2 t]
  exact congrArg (· ++ t) hdotted

end NodeKit.Text
