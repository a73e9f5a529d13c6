import NodeKit.Proofs.Text.Stencil
import NodeKit.Text.Lines
import NodeKit.Text.Occurrence

/-!
# Replacing the occurrences of a text

Replacing reads the text from left to right: an occurrence in front gives way and is
left behind as a whole, any other character is kept (`occurrence_induction`). A
character that the replaced text does not hold keeps the two sides of it apart, and
in a stencil whose holes cannot be confused with their surroundings the holes are
the occurrences, to be replaced (`replaceAll_fill`) and to be counted
(`countOccurrences_fill`).
-/
namespace NodeKit.Text

variable {old new : Text}

/-- Text is either done, or begins with an occurrence, or with a character where there is none. -/
@[elab_as_elim]
theorem occurrence_induction {P : Text → Prop} (hold : old ≠ []) (nil : P [])
    (found : ∀ t, P t → P (old ++ t)) (char : ∀ c t, ¬ old <+: c :: t → P t → P (c :: t))
    (t : Text) : P t := by
  obtain ⟨n, hn⟩ : ∃ n, t.length = n := ⟨_, rfl⟩
  induction n using Nat.strong_induction_on generalizing t with
  | _ n ih =>
  by_cases hfound : old <+: t
  · obtain ⟨rest, rfl⟩ := hfound
    have hpos : 0 < old.length := List.length_pos_iff.2 hold
    rw [List.length_append] at hn
    exact found rest (ih rest.length (by omega) rest rfl)
  · cases t with
    | nil => exact nil
    | cons c t =>
      rw [List.length_cons] at hn
      exact char c t hfound (ih t.length (by omega) t rfl)

/-! ## The pieces between occurrences -/

lemma pieces_nil : pieces old [] = [[]] := by rw [pieces]

lemma pieces_append_self (hold : old ≠ []) (t : Text) :
    pieces old (old ++ t) = [] :: pieces old t := by
  obtain ⟨c, rest, rfl⟩ := List.exists_cons_of_ne_nil hold
  have hfound : (c :: rest).isPrefixOf (c :: (rest ++ t)) := by simp
  rw [List.cons_append, pieces, if_pos hfound, List.length_cons, Nat.add_sub_cancel,
    List.drop_left]

lemma pieces_cons {c : Char} {t : Text} (h : ¬ old <+: c :: t) :
    pieces old (c :: t) = pushFirst c (pieces old t) := by
  have hnot : ¬ old.isPrefixOf (c :: t) := by simpa using h
  rw [pieces, if_neg hnot]

/-- Text that no occurrence begins in goes to the first piece. -/
lemma pieces_append_of_noStart {v : Text} (h : NoStart old v) (t : Text) :
    pieces old (v ++ t) = v.foldr pushFirst (pieces old t) := by
  induction v with
  | nil => rfl
  | cons c v ih =>
    have hdiverge : Diverge old (c :: v) := h.diverge (by simp) (List.suffix_refl _)
    have hnot : ¬ old <+: c :: (v ++ t) := by
      rintro ⟨rest, hrest⟩
      exact hdiverge.append_ne rest t hrest
    rw [List.cons_append, pieces_cons hnot, ih h.tail, List.foldr_cons]

lemma foldr_pushFirst_ne_nil (v : Text) {ps : List Text} (h : ps ≠ []) :
    v.foldr pushFirst ps ≠ [] := by
  cases v with
  | nil => exact h
  | cons c v => cases hps : v.foldr pushFirst ps <;> simp [hps, pushFirst]

lemma joinWith_foldr_pushFirst (separator v : Text) {ps : List Text} (h : ps ≠ []) :
    joinWith separator (v.foldr pushFirst ps) = v ++ joinWith separator ps := by
  induction v with
  | nil => rfl
  | cons c v ih =>
    rw [List.foldr_cons, joinWith_pushFirst _ _ (foldr_pushFirst_ne_nil v h), ih,
      List.cons_append]

lemma length_foldr_pushFirst (v : Text) {ps : List Text} (h : ps ≠ []) :
    (v.foldr pushFirst ps).length = ps.length := by
  induction v with
  | nil => rfl
  | cons c v ih =>
    obtain ⟨first, rest, hps⟩ := List.exists_cons_of_ne_nil (foldr_pushFirst_ne_nil v h)
    rw [List.foldr_cons, ← ih, hps]
    rfl

/-! ## Replacing -/

@[simp] lemma replaceAll_nil : replaceAll old new [] = [] := by
  rw [replaceAll, pieces_nil]
  rfl

lemma replaceAll_append_self (hold : old ≠ []) (t : Text) :
    replaceAll old new (old ++ t) = new ++ replaceAll old new t := by
  rw [replaceAll, pieces_append_self hold, joinWith_cons_of_ne_nil _ _ (pieces_ne_nil _ _)]
  rfl

lemma replaceAll_cons {c : Char} {t : Text} (h : ¬ old <+: c :: t) :
    replaceAll old new (c :: t) = c :: replaceAll old new t := by
  rw [replaceAll, pieces_cons h, joinWith_pushFirst _ _ (pieces_ne_nil _ _)]
  rfl

lemma replaceAll_eq_self {t : Text} (h : ¬ old <:+: t) : replaceAll old new t = t := by
  induction t with
  | nil => exact replaceAll_nil
  | cons c t ih =>
    obtain ⟨hhere, hlater⟩ := not_or.1 (mt List.infix_cons_iff.2 h)
    rw [replaceAll_cons hhere, ih hlater]

/-- Text that no occurrence begins in is kept. -/
lemma replaceAll_append_of_noStart {v : Text} (h : NoStart old v) (t : Text) :
    replaceAll old new (v ++ t) = v ++ replaceAll old new t := by
  rw [replaceAll, pieces_append_of_noStart h,
    joinWith_foldr_pushFirst new v (pieces_ne_nil old t)]
  rfl

/-- A character that is not in the replaced text parts what is in front of it from what follows. -/
theorem replaceAll_append_cons (hold : old ≠ []) {c : Char} (hc : c ∉ old) (s t : Text) :
    replaceAll old new (s ++ c :: t) = replaceAll old new s ++ c :: replaceAll old new t := by
  induction s using occurrence_induction hold with
  | nil =>
    have hnot : ¬ old <+: c :: t := by
      rintro ⟨rest, hrest⟩
      obtain ⟨d, tail, rfl⟩ := List.exists_cons_of_ne_nil hold
      obtain ⟨rfl, -⟩ := List.cons.inj hrest
      simp at hc
    simp [replaceAll_cons hnot]
  | found s ih => simp only [List.append_assoc, replaceAll_append_self hold, ih]
  | char d s hnot ih =>
    have hnot' : ¬ old <+: d :: (s ++ c :: t) := by
      intro hp
      have hshort : (d :: s) ++ [c] <+: (d :: s) ++ c :: t := ⟨t, by simp⟩
      rcases List.prefix_or_prefix_of_prefix hp hshort with hin | hout
      · rcases List.prefix_concat_iff.1 hin with rfl | hin
        · simp at hc
        · exact hnot hin
      · exact hc (hout.subset (by simp))
    rw [List.cons_append, replaceAll_cons hnot', ih, replaceAll_cons hnot, List.cons_append]

/-! ## Counting -/

@[simp] lemma countOccurrences_nil : countOccurrences old [] = 0 := by
  rw [countOccurrences, pieces_nil]
  rfl

lemma countOccurrences_append_self (hold : old ≠ []) (t : Text) :
    countOccurrences old (old ++ t) = countOccurrences old t + 1 := by
  have hpos : 0 < (pieces old t).length := List.length_pos_iff.2 (pieces_ne_nil old t)
  rw [countOccurrences, countOccurrences, pieces_append_self hold, List.length_cons]
  omega

/-- Text that no occurrence begins in adds none. -/
lemma countOccurrences_append_of_noStart {v : Text} (h : NoStart old v) (t : Text) :
    countOccurrences old (v ++ t) = countOccurrences old t := by
  rw [countOccurrences, pieces_append_of_noStart h,
    length_foldr_pushFirst v (pieces_ne_nil old t)]
  rfl

lemma countOccurrences_cons {c : Char} {t : Text} (h : ¬ old <+: c :: t) :
    countOccurrences old (c :: t) = countOccurrences old t := by
  rw [countOccurrences, pieces_cons h]
  exact congrArg (· - 1) (length_foldr_pushFirst [c] (pieces_ne_nil old t))

/-! ## Replacing within lines -/

section

variable (hold : old ≠ []) (hlf : '\n' ∉ old)
include hold hlf

/-- Lines above are dealt with by themselves. -/
lemma replaceAll_above_append {above : Text} (hends : above = [] ∨ above.getLast? = some '\n')
    (t : Text) : replaceAll old new (above ++ t) = replaceAll old new above ++
      replaceAll old new t := by
  rcases hends with rfl | hlast
  · simp
  · obtain ⟨line, rfl⟩ := List.getLast?_eq_some_iff.1 hlast
    rw [List.append_assoc, List.singleton_append, replaceAll_append_cons hold hlf,
      replaceAll_append_cons hold hlf]
    simp

/-- A line is dealt with by itself, and its terminator is kept. -/
lemma replaceAll_append_ending (hcr : '\r' ∉ old) {ending : Ending} {s below : Text}
    (hlast : ending = .unterminated → below = []) :
    replaceAll old new (s ++ (ending.units Breaks.text ++ below)) =
      replaceAll old new s ++ (ending.units Breaks.text ++ replaceAll old new below) := by
  cases ending with
  | unterminated => simp [hlast rfl, Ending.units]
  | lf => exact replaceAll_append_cons hold hlf s below
  | crlf =>
    have hfeed : replaceAll old new ('\n' :: below) = '\n' :: replaceAll old new below :=
      (replaceAll_append_cons hold hlf [] below).trans (by simp)
    exact (replaceAll_append_cons hold hcr s ('\n' :: below)).trans (by rw [hfeed]; rfl)

/-- Whatever is replaced, lines stay lines. -/
lemma replaceAll_ends {above : Text} (hends : above = [] ∨ above.getLast? = some '\n') :
    replaceAll old new above = [] ∨ (replaceAll old new above).getLast? = some '\n' := by
  rcases hends with rfl | hlast
  · simp
  · obtain ⟨line, rfl⟩ := List.getLast?_eq_some_iff.1 hlast
    simp [replaceAll_append_cons hold hlf]

end

/-! ## Occurrences in a stencil -/

open Stencil

variable {κ : Type}

/-- Every text fills a stencil that spells none of the given words. -/
lemma exists_stencil (word : κ → Text) (hword : ∀ k, word k ≠ []) (t : Text) :
    ∃ m : Stencil κ, fill word m = t ∧ ∀ k, ¬ ofText (word k) <:+: m := by
  obtain ⟨n, hn⟩ : ∃ n, t.length = n := ⟨_, rfl⟩
  induction n using Nat.strong_induction_on generalizing t with
  | _ n ih =>
  by_cases hfound : ∃ k, word k <+: t
  · obtain ⟨k, rest, rfl⟩ := hfound
    have hpos : 0 < (word k).length := List.length_pos_iff.2 (hword k)
    rw [List.length_append] at hn
    obtain ⟨m, hm, hraw⟩ := ih rest.length (by omega) rest rfl
    refine ⟨.inr k :: m, by simp [hm], fun j hj => ?_⟩
    rcases List.infix_cons_iff.1 hj with hstart | hlater
    · obtain ⟨c, w, hw⟩ := List.exists_cons_of_ne_nil (hword j)
      rw [hw, ofText_cons] at hstart
      exact absurd (List.cons_prefix_cons.1 hstart).1 (by simp)
    · exact hraw j hlater
  · cases t with
    | nil =>
      refine ⟨[], rfl, fun k hk => hword k ?_⟩
      simpa [ofText] using hk
    | cons c t =>
      rw [List.length_cons] at hn
      obtain ⟨m, hm, hraw⟩ := ih t.length (by omega) t rfl
      refine ⟨.inl c :: m, by simp [hm], fun k hk => ?_⟩
      rcases List.infix_cons_iff.1 hk with ⟨rest, hrest⟩ | hlater
      · refine hfound ⟨k, fill word rest, ?_⟩
        rw [← hm, ← fill_char, ← hrest, fill_append, fill_ofText]
      · exact hraw k hlater

/-- No occurrence begins at a character of a stencil that does not spell it. -/
lemma not_prefix_fill (hold : old ≠ []) {f : κ → Text} (hinto : ∀ k, NoStart (f k) old.tail)
    {c : Char} {m : Stencil κ} (hraw : ¬ ofText old <:+: .inl c :: m) :
    ¬ old <+: c :: fill f m := by
  rintro ⟨behind, hbehind⟩
  obtain ⟨d, rest, rfl⟩ := List.exists_cons_of_ne_nil hold
  obtain ⟨rfl, hrest⟩ := List.cons.inj hbehind
  obtain ⟨left, rfl, -⟩ := exists_prefix_fill hinto hrest.symm
  exact hraw ⟨[], left, by simp⟩

/-- The occurrences in a filled stencil are the holes that hold one. -/
theorem replaceAll_fill (hold : old ≠ []) {f g : κ → Text} (hinto : ∀ k, NoStart (f k) old.tail)
    (hhole : ∀ k, f k = old ∧ g k = new ∨ NoStart old (f k) ∧ g k = f k) {m : Stencil κ}
    (hraw : ¬ ofText old <:+: m) : replaceAll old new (fill f m) = fill g m := by
  induction m with
  | nil => exact replaceAll_nil
  | cons cell m ih =>
    have ih := ih fun h => hraw (h.trans (List.suffix_cons cell m).isInfix)
    cases cell with
    | inl c => rw [fill_char, replaceAll_cons (not_prefix_fill hold hinto hraw), ih, fill_char]
    | inr k =>
      rw [fill_hole, fill_hole]
      rcases hhole k with ⟨hf, hg⟩ | ⟨hf, hg⟩
      · rw [hf, hg, replaceAll_append_self hold, ih]
      · rw [hg, replaceAll_append_of_noStart hf, ih]

/-- The occurrences counted in a filled stencil are the holes that hold one. -/
theorem countOccurrences_fill (hold : old ≠ []) {f : κ → Text} {test : κ → Bool}
    (hinto : ∀ k, NoStart (f k) old.tail)
    (hhole : ∀ k, f k = old ∧ test k = true ∨ NoStart old (f k) ∧ test k = false) {m : Stencil κ}
    (hraw : ¬ ofText old <:+: m) : countOccurrences old (fill f m) = holes test m := by
  induction m with
  | nil => exact countOccurrences_nil
  | cons cell m ih =>
    have ih := ih fun h => hraw (h.trans (List.suffix_cons cell m).isInfix)
    cases cell with
    | inl c =>
      rw [fill_char, countOccurrences_cons (not_prefix_fill hold hinto hraw), ih, holes_char]
    | inr k =>
      rw [fill_hole, holes_hole]
      rcases hhole k with ⟨hf, htest⟩ | ⟨hf, htest⟩
      · rw [hf, countOccurrences_append_self hold, ih, if_pos htest]
      · rw [countOccurrences_append_of_noStart hf, ih, htest]
        rfl

end NodeKit.Text
