import NodeKit.Proofs.Text.Occurrence
import NodeKit.Proofs.Text.Pattern
import NodeKit.Text.Blank

/-!
# Texts that differ in one word

`Variant a b s t` says that `t` is `s` with `b` in the place of some words `a`. A text
and what replacing makes of it are variants of each other. A text that cannot
overlap `a` stands in both at corresponding places (`Variant.split`), and so a
pattern whose fixed texts are like that occurs in both or in neither
(`Variant.occursIn_iff`).
-/
namespace NodeKit

open Text Stencil

/-- The two texts are one stencil, filled with `a` and with `b`. -/
def Variant (a b s t : Text) : Prop :=
  ∃ m : Stencil Unit, s = fill (fun _ => a) m ∧ t = fill (fun _ => b) m

namespace Variant

variable {a b s t : Text}

lemma symm (h : Variant a b s t) : Variant b a t s := by
  obtain ⟨m, hs, ht⟩ := h
  exact ⟨m, ht, hs⟩

/-- Replacing leaves a variant, and what the old and the new text end in alike is no part of the
difference. -/
lemma replaceAll {common : Text} (hne : a ++ common ≠ []) (s : Text) :
    Variant a b s (Text.replaceAll (a ++ common) (b ++ common) s) := by
  induction s using occurrence_induction hne with
  | nil => exact ⟨[], rfl, replaceAll_nil⟩
  | found s ih =>
    obtain ⟨m, hs, ht⟩ := ih
    refine ⟨.inr () :: (ofText common ++ m), ?_, ?_⟩
    · simp [← hs]
    · rw [replaceAll_append_self hne, ht]
      simp
  | char c s hnot ih =>
    obtain ⟨m, hs, ht⟩ := ih
    refine ⟨.inl c :: m, ?_, ?_⟩
    · simp [← hs]
    · rw [replaceAll_cons hnot, ht]
      simp

/-- A text that cannot overlap `a` stands in both variants. -/
lemma split {w front behind : Text} (hapart : Apart a w) (hne : w ≠ [])
    (h : Variant a b (front ++ (w ++ behind)) t) :
    ∃ front' behind', t = front' ++ (w ++ behind') ∧ Variant a b front front' ∧
      Variant a b behind behind' := by
  obtain ⟨m, hs, rfl⟩ := h
  obtain ⟨above, below, rfl, habove, hbelow⟩ :=
    exists_split_fill (fun _ => hapart) hne hs.symm
  exact ⟨_, _, by simp, ⟨above, habove.symm, rfl⟩, ⟨below, hbelow.symm, rfl⟩⟩

lemma eq_nil (ha : a ≠ []) (h : Variant a b [] t) : t = [] := by
  obtain ⟨m, hs, rfl⟩ := h
  rcases m with _ | ⟨c | k, m⟩
  · rfl
  · cases hs
  · simp [ha] at hs

/-- A character outside `b` comes from the other text. -/
lemma notMem {c : Char} (hb : c ∉ b) (hs : c ∉ s) (h : Variant a b s t) : c ∉ t := by
  obtain ⟨m, rfl, rfl⟩ := h
  induction m with
  | nil => simp
  | cons cell m ih =>
    cases cell with
    | inl d =>
      obtain ⟨hd, hrest⟩ := not_or.1 (mt List.mem_cons.2 hs)
      rw [fill_char, List.mem_cons, not_or]
      exact ⟨hd, ih hrest⟩
    | inr k =>
      rw [fill_hole, List.mem_append, not_or] at hs ⊢
      exact ⟨hb, ih hs.2⟩

/-- Variants end in the same character, if that is in neither word. -/
lemma getLast?_eq {c : Char} (ha : a ≠ []) (hc : c ∉ a) (h : Variant a b s t)
    (hs : s.getLast? = some c) : t.getLast? = some c := by
  obtain ⟨init, rfl⟩ := List.getLast?_eq_some_iff.1 hs
  have hapart : Apart a [c] := ⟨noStart_of_notMem hc, noStart_nil a⟩
  have hend : Variant a b (init ++ ([c] ++ [])) t := by simpa using h
  obtain ⟨front, behind, rfl, -, hbehind⟩ := hend.split hapart (by simp)
  rw [hbehind.eq_nil ha]
  simp

/-- Variants have the same leading blanks, as no word begins with a blank. -/
lemma indentation_eq {x y : Char} {a' b' : Text} (hx : isBlank x = false) (hy : isBlank y = false)
    (h : Variant (x :: a') (y :: b') s t) : indentation s = indentation t := by
  obtain ⟨m, rfl, rfl⟩ := h
  induction m with
  | nil => rfl
  | cons cell m ih =>
    cases cell with
    | inl d =>
      unfold indentation at ih ⊢
      rw [fill_char, fill_char, List.takeWhile_cons, List.takeWhile_cons, ih]
    | inr k => simp [indentation, hx, hy]

end Variant

namespace Pattern

/-- The fixed texts of the pattern are apart from `a`, and every gap ends at one of them. -/
def ApartFrom (a : Text) : Pattern → Prop
  | [] => True
  | .fixed w :: rest => w ≠ [] ∧ Apart a w ∧ ApartFrom a rest
  | .gap :: .fixed w :: rest => w ≠ [] ∧ Apart a w ∧ ApartFrom a rest
  | .gap :: _ => False

instance decidableApartFrom (a : Text) : (pattern : Pattern) → Decidable (ApartFrom a pattern)
  | [] => .isTrue trivial
  | .fixed w :: rest =>
    have := decidableApartFrom a rest
    inferInstanceAs (Decidable (w ≠ [] ∧ Apart a w ∧ ApartFrom a rest))
  | .gap :: .fixed w :: rest =>
    have := decidableApartFrom a rest
    inferInstanceAs (Decidable (w ≠ [] ∧ Apart a w ∧ ApartFrom a rest))
  | [.gap] => .isFalse id
  | .gap :: .gap :: _ => .isFalse id

lemma fits_variant {a b : Text} (ha : a ≠ []) (hb : '\n' ∉ b) {pattern : Pattern}
    (hpattern : ApartFrom a pattern) {gaps : List Text} (hfits : Fits pattern gaps) {after t : Text}
    (h : Variant a b (fill pattern gaps ++ after) t) :
    ∃ gaps' after', Fits pattern gaps' ∧ t = fill pattern gaps' ++ after' := by
  fun_induction ApartFrom a pattern generalizing gaps t with
  | case1 => exact ⟨[], t, rfl, rfl⟩
  | case2 w rest ih =>
    obtain ⟨hne, hw, hrest⟩ := hpattern
    have hstart : Variant a b ([] ++ (w ++ (fill rest gaps ++ after))) t := by
      simpa [fill] using h
    obtain ⟨front, behind, rfl, hfront, hbehind⟩ := hstart.split hw hne
    obtain ⟨gaps', after', hfits', rfl⟩ := ih hrest hfits hbehind
    refine ⟨gaps', after', hfits', ?_⟩
    rw [hfront.eq_nil ha]
    simp [fill]
  | case3 w rest ih =>
    obtain ⟨hne, hw, hrest⟩ := hpattern
    rcases gaps with _ | ⟨gap, gaps⟩
    · exact hfits.elim
    · have hgap : Variant a b (gap ++ (w ++ (fill rest gaps ++ after))) t := by
        simpa [fill] using h
      obtain ⟨front, behind, rfl, hfront, hbehind⟩ := hgap.split hw hne
      obtain ⟨gaps', after', hfits', rfl⟩ := ih hrest hfits.2 hbehind
      exact ⟨front :: gaps', after', ⟨hfront.notMem hb hfits.1, hfits'⟩, by simp [fill]⟩
  | case4 => exact hpattern.elim

/-- A pattern that begins with fixed text occurs in the variants of the texts it occurs in. -/
lemma occursIn_variant {a b : Text} (ha : a ≠ []) (hb : '\n' ∉ b) {lead : Text} {rest : Pattern}
    (hpattern : ApartFrom a (.fixed lead :: rest)) {s t : Text} (h : Variant a b s t)
    (hoccurs : occursIn (.fixed lead :: rest) s) : occursIn (.fixed lead :: rest) t := by
  obtain ⟨hne, hlead, hrest⟩ := hpattern
  obtain ⟨front, gaps, behind, hfits, rfl⟩ := occursIn_iff.1 hoccurs
  have hsplit : Variant a b (front ++ (lead ++ (fill rest gaps ++ behind))) t := by
    simpa [fill] using h
  obtain ⟨front', behind', rfl, -, hbehind⟩ := hsplit.split hlead hne
  obtain ⟨gaps', after', hfits', rfl⟩ := fits_variant ha hb hrest hfits hbehind
  exact occursIn_iff.2 ⟨front', gaps', after', hfits', by simp [fill]⟩

/-- A pattern whose fixed texts are apart from both words occurs in both variants or in neither. -/
theorem occursIn_variant_iff {a b : Text} (ha : a ≠ []) (hb : b ≠ []) (hlfa : '\n' ∉ a)
    (hlfb : '\n' ∉ b) {lead : Text} {rest : Pattern}
    (hpatterna : ApartFrom a (.fixed lead :: rest)) (hpatternb : ApartFrom b (.fixed lead :: rest))
    {s t : Text} (h : Variant a b s t) :
    occursIn (.fixed lead :: rest) s ↔ occursIn (.fixed lead :: rest) t :=
  ⟨occursIn_variant ha hlfb hpatterna h, occursIn_variant hb hlfa hpatternb h.symm⟩

end Pattern

end NodeKit
