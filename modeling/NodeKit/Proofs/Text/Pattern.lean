import NodeKit.Proofs.Text.Lines
import NodeKit.Text.Pattern

/-!
# Where a pattern matches

A filling of a pattern gives every gap a text without a line feed. A pattern
matches somewhere exactly when the text holds a filling of it (`occursIn_iff`),
the match that is found starts no later than any other (`length_before_le`), and
each gap is as short as it can be (`gap_least`). A pattern that stays within a line
is found in a text exactly when it is found in one of its lines (`occursIn_lines`),
and a match does not depend on what stands below its line (`find?_append_lf`).
-/
namespace NodeKit

lemma Text.after?_append_cons {lead : Text} {c : Char} (h : c ∉ lead) (s t : Text) :
    after? lead (s ++ c :: t) = (after? lead s).map (· ++ c :: t) := by
  induction lead generalizing s with
  | nil => simp [after?]
  | cons a lead ih =>
    obtain ⟨hca, hlead⟩ := not_or.1 (mt List.mem_cons.2 h)
    cases s with
    | nil => simp [after?, Ne.symm hca]
    | cons d s =>
      by_cases had : a = d
      · simpa [after?, had] using ih hlead s
      · simp [after?, had]

namespace Pattern

/-- One text for every gap, and no line feed in any of them. -/
def Fits : Pattern → List Text → Prop
  | [], gaps => gaps = []
  | .fixed _ :: rest, gaps => Fits rest gaps
  | .gap :: _, [] => False
  | .gap :: rest, gap :: gaps => '\n' ∉ gap ∧ Fits rest gaps

lemma fits_of_matchHere {pattern : Pattern} {t after : Text} {gaps : List Text}
    (h : matchHere pattern t = some (gaps, after)) : Fits pattern gaps := by
  induction pattern generalizing t gaps with
  | nil => cases h; rfl
  | cons piece rest ih =>
    cases piece with
    | fixed lead =>
      obtain ⟨left, _, hrest⟩ := Option.bind_eq_some_iff.1 h
      exact ih hrest
    | gap =>
      obtain ⟨gap, others, left, rfl, rfl, hgap, hrest⟩ := fillGap_eq_some h
      exact ⟨hgap, ih hrest⟩

lemma fillGap_isSome {rest : Text → Option (List Text × Text)} {gap left : Text}
    (hgap : '\n' ∉ gap) (h : (rest left).isSome) : (fillGap rest (gap ++ left)).isSome := by
  induction gap with
  | nil =>
    obtain ⟨⟨gaps, after⟩, hrest⟩ := Option.isSome_iff_exists.1 h
    cases left <;> simp [fillGap, hrest]
  | cons c gap ih =>
    obtain ⟨hc, hgap⟩ : '\n' ≠ c ∧ '\n' ∉ gap := by simpa using hgap
    cases hrest : rest (c :: (gap ++ left)) with
    | some found => simp [fillGap, hrest]
    | none => simp [fillGap, hrest, Ne.symm hc, ih hgap]

/-- A filling in front is enough for a match. -/
lemma matchHere_isSome {pattern : Pattern} {gaps : List Text} (h : Fits pattern gaps)
    (after : Text) : (matchHere pattern (fill pattern gaps ++ after)).isSome := by
  induction pattern generalizing gaps with
  | nil => rfl
  | cons piece rest ih =>
    cases piece with
    | fixed lead =>
      have hlead : Text.after? lead (lead ++ (fill rest gaps ++ after)) =
          some (fill rest gaps ++ after) := Text.after?_eq_some_iff.2 rfl
      simpa [matchHere, fill, hlead] using ih h
    | gap =>
      cases gaps with
      | nil => exact h.elim
      | cons gap gaps =>
        simp only [matchHere, fill, List.append_assoc]
        exact fillGap_isSome h.1 (ih h.2)

/-- No place in front of the end of a gap lets the rest of the pattern match. -/
lemma fillGap_least {rest : Text → Option (List Text × Text)} {left after : Text}
    {skipped gap : Text} {others : List Text} (hgap : gap ≠ [])
    (h : fillGap rest (skipped ++ (gap ++ left)) = some ((skipped ++ gap) :: others, after)) :
    rest (gap ++ left) = none := by
  induction skipped with
  | nil =>
    obtain ⟨c, gap, rfl⟩ := List.exists_cons_of_ne_nil hgap
    cases hrest : rest (c :: (gap ++ left)) with
    | none => exact hrest
    | some found => simp [fillGap, hrest] at h
  | cons c skipped ih =>
    apply ih
    cases hrest : rest (c :: (skipped ++ (gap ++ left))) with
    | some found => simp [fillGap, hrest] at h
    | none =>
      simp only [List.cons_append, fillGap, hrest] at h
      split_ifs at h
      obtain ⟨⟨gaps, behind⟩, hfill, heq⟩ := Option.map_eq_some_iff.1 h
      obtain ⟨gap', others', _, rfl, _, _, _⟩ := fillGap_eq_some hfill
      simp only [widenFirst, Prod.mk.injEq, List.cons.injEq, true_and] at heq
      obtain ⟨⟨rfl, rfl⟩, rfl⟩ := heq
      exact hfill

lemma fits_of_find? {pattern : Pattern} {t : Text} {found : PatternMatch}
    (h : find? pattern t = some found) : Fits pattern found.gaps := by
  fun_induction find? pattern t generalizing found with
  | case1 t gaps after hhere => cases h; exact fits_of_matchHere hhere
  | case2 => cases h
  | case3 c rest _ ih =>
    obtain ⟨inner, hinner, rfl⟩ := Option.map_eq_some_iff.1 h
    show Fits pattern inner.gaps
    exact ih hinner

/-- A pattern occurs in the texts that hold one of its fillings. -/
theorem occursIn_iff {pattern : Pattern} {t : Text} :
    pattern.occursIn t ↔ ∃ front gaps behind, Fits pattern gaps ∧
      t = front ++ (fill pattern gaps ++ behind) := by
  constructor
  · intro h
    obtain ⟨found, hfound⟩ := Option.isSome_iff_exists.1 h
    exact ⟨found.before, found.gaps, found.after, fits_of_find? hfound, find?_eq_some hfound⟩
  · rintro ⟨front, gaps, behind, hfits, rfl⟩
    induction front with
    | nil =>
      obtain ⟨⟨gaps, after⟩, hhere⟩ := Option.isSome_iff_exists.1 (matchHere_isSome hfits behind)
      unfold occursIn find?
      simp [hhere]
    | cons c front ih =>
      unfold occursIn find?
      cases matchHere pattern (c :: front ++ (fill pattern gaps ++ behind)) with
      | some found => rfl
      | none => simpa [occursIn] using ih

lemma occursIn_append {pattern : Pattern} {mid : Text} (h : pattern.occursIn mid)
    (front behind : Text) : pattern.occursIn (front ++ (mid ++ behind)) := by
  obtain ⟨before, gaps, after, hfits, rfl⟩ := occursIn_iff.1 h
  exact occursIn_iff.2 ⟨front ++ before, gaps, after ++ behind, hfits, by simp⟩

/-- No filling starts in front of the match that is found. -/
theorem length_before_le {pattern : Pattern} {t : Text} {found : PatternMatch}
    (h : find? pattern t = some found) {front behind : Text} {gaps : List Text}
    (hfits : Fits pattern gaps) (ht : t = front ++ (fill pattern gaps ++ behind)) :
    found.before.length ≤ front.length := by
  fun_induction find? pattern t generalizing found front with
  | case1 => cases h; simp
  | case2 => cases h
  | case3 c rest hhere ih =>
    obtain ⟨inner, hinner, rfl⟩ := Option.map_eq_some_iff.1 h
    cases front with
    | nil =>
      have hsome := matchHere_isSome hfits behind
      rw [List.nil_append] at ht
      rw [← ht, hhere] at hsome
      cases hsome
    | cons d front =>
      have hrest : rest = front ++ (fill pattern gaps ++ behind) := (List.cons.inj ht).2
      have := ih hinner hrest
      simpa using this

@[simp] lemma matchHere_fixed (lead : Text) (rest : Pattern) (t : Text) :
    matchHere (.fixed lead :: rest) (lead ++ t) = matchHere rest t := by
  simp [matchHere, Text.after?_eq_some_iff.2]

/-- What a match looks like from its own start. -/
lemma matchHere_of_find? {pattern : Pattern} {t : Text} {found : PatternMatch}
    (h : find? pattern t = some found) :
    matchHere pattern (fill pattern found.gaps ++ found.after) =
      some (found.gaps, found.after) := by
  fun_induction find? pattern t generalizing found with
  | case1 t gaps after hhere =>
    cases h
    rw [← matchHere_eq_some hhere, hhere]
  | case2 => cases h
  | case3 c rest _ ih =>
    obtain ⟨inner, hinner, rfl⟩ := Option.map_eq_some_iff.1 h
    show matchHere pattern (fill pattern inner.gaps ++ inner.after) = _
    exact ih hinner

/-- A gap ends at the first place where a filling of the rest of the pattern follows. -/
theorem gap_least {rest : Pattern} {skipped gap left after : Text} {others gaps : List Text}
    (h : matchHere (.gap :: rest) (skipped ++ (gap ++ left)) =
      some ((skipped ++ gap) :: others, after))
    (hgap : gap ≠ []) (hfits : Fits rest gaps) (behind : Text) :
    gap ++ left ≠ fill rest gaps ++ behind := by
  intro heq
  have hnone : matchHere rest (gap ++ left) = none := fillGap_least hgap h
  have hsome := matchHere_isSome hfits behind
  rw [← heq, hnone] at hsome
  cases hsome

/-! ## Patterns within a line -/

/-- Every filling of the pattern can stand in the body of a line. -/
def WithinLine (pattern : Pattern) : Prop :=
  ∀ gaps, Fits pattern gaps → fill pattern gaps ≠ [] ∧ '\n' ∉ fill pattern gaps ∧
    (fill pattern gaps).getLast? ≠ some '\r'

/-- A pattern that stays within a line is found line by line. -/
theorem occursIn_lines {pattern : Pattern} (hwithin : WithinLine pattern) (t : Text) :
    pattern.occursIn t ↔ ∃ line ∈ Text.splitLines t, pattern.occursIn line.body := by
  constructor
  · intro h
    obtain ⟨front, gaps, behind, hfits, rfl⟩ := occursIn_iff.1 h
    obtain ⟨hne, hlf, hcr⟩ := hwithin gaps hfits
    obtain ⟨above, before, after, ending, below, rfl, rfl, hcut⟩ :=
      Line.exists_cut Breaks.text front behind hne hlf hcr
    refine ⟨⟨before ++ fill pattern gaps ++ after, ending⟩, ?_, ?_⟩
    · have hsplit := Line.split_cut (by decide) hcut
      simp only [Text.splitLines, List.append_assoc] at hsplit ⊢
      simp [hsplit]
    · exact occursIn_iff.2 ⟨before, gaps, after, hfits, by simp⟩
  · rintro ⟨line, hline, h⟩
    obtain ⟨above, below, hsplit⟩ := List.append_of_mem hline
    obtain ⟨ht, -⟩ := Line.cut_of_split_eq (by decide) hsplit
    rw [ht]
    exact occursIn_append h _ _

lemma occursIn_iff_fill {pattern : Pattern} {t : Text} :
    pattern.occursIn t ↔ ∃ gaps, Fits pattern gaps ∧ fill pattern gaps <:+: t := by
  rw [occursIn_iff]
  constructor
  · rintro ⟨front, gaps, behind, hfits, rfl⟩
    exact ⟨gaps, hfits, front, behind, by simp⟩
  · rintro ⟨gaps, hfits, front, behind, rfl⟩
    exact ⟨front, gaps, behind, hfits, by simp⟩

lemma side_of_append_cons {α : Type} {c : α} {mid s t : List α} (hc : c ∉ mid)
    (h : mid <:+: s ++ c :: t) : mid <:+: s ∨ mid <:+: t := by
  induction s with
  | nil =>
    rcases List.infix_cons_iff.1 h with hstart | hinside
    · cases mid with
      | nil => exact Or.inl (List.infix_refl _)
      | cons d mid =>
        obtain rfl := (List.cons_prefix_cons.1 hstart).1
        simp at hc
    · exact Or.inr hinside
  | cons a s ih =>
    rcases List.infix_cons_iff.1 h with hstart | hinside
    · left
      have hwhole : (a :: s) ++ [c] <+: a :: (s ++ c :: t) := ⟨t, by simp⟩
      rcases List.prefix_or_prefix_of_prefix hstart hwhole with hshort | hlong
      · rcases List.prefix_concat_iff.1 hshort with rfl | hinside
        · simp at hc
        · exact hinside.isInfix
      · exact absurd (hlong.subset (by simp)) hc
    · exact (ih hinside).imp_left fun hs => hs.trans (List.suffix_cons a s).isInfix

section

variable {pattern : Pattern} (hwithin : WithinLine pattern)
include hwithin

/-- No match reaches from a line into a terminator, or across it. -/
lemma occursIn_append_ending {ending : Ending} {s below : Text}
    (hlast : ending = .unterminated → below = []) :
    pattern.occursIn (s ++ (ending.units Breaks.text ++ below)) ↔
      pattern.occursIn s ∨ pattern.occursIn below := by
  constructor
  · intro h
    obtain ⟨gaps, hfits, hinside⟩ := occursIn_iff_fill.1 h
    obtain ⟨hne, hlf, hcr⟩ := hwithin gaps hfits
    have hside {u : Text} (hu : fill pattern gaps <:+: u) : pattern.occursIn u :=
      occursIn_iff_fill.2 ⟨gaps, hfits, hu⟩
    cases ending with
    | unterminated =>
      rw [hlast rfl] at hinside
      exact Or.inl (hside (by simpa [Ending.units] using hinside))
    | lf => exact (side_of_append_cons hlf hinside).imp hside hside
    | crlf =>
      have hinside : fill pattern gaps <:+: (s ++ ['\r']) ++ '\n' :: below := by
        simpa [Ending.units, Breaks.text] using hinside
      refine (side_of_append_cons hlf hinside).imp (fun hs => hside ?_) hside
      refine (List.infix_concat_iff.1 hs).resolve_left fun hsuffix => ?_
      rcases List.suffix_concat_iff.1 hsuffix with hnil | ⟨init, hinit, -⟩
      · exact hne hnil
      · exact hcr (by simp [hinit])
  · rintro (hs | hbelow)
    · simpa using occursIn_append hs [] _
    · simpa using occursIn_append hbelow (s ++ ending.units Breaks.text) []

/-- No match reaches from lines into the text below them. -/
lemma occursIn_above_append {above : Text} (h : above = [] ∨ above.getLast? = some '\n')
    (t : Text) :
    pattern.occursIn (above ++ t) ↔ pattern.occursIn above ∨ pattern.occursIn t := by
  have hsplit : Text.splitLines (above ++ t) = Text.splitLines above ++ Text.splitLines t :=
    Line.split_append h t
  rw [occursIn_lines hwithin, occursIn_lines hwithin above, occursIn_lines hwithin t, hsplit]
  simp only [List.mem_append, or_and_right, exists_or]

end

/-- Text without the first character of the pattern adds no match when it is put in front. -/
lemma occursIn_append_of_notMem {lead : Text} {c : Char} {rest : Pattern} {s t : Text}
    (hc : c ∉ s) : occursIn (.fixed (c :: lead) :: rest) (s ++ t) ↔
      occursIn (.fixed (c :: lead) :: rest) t := by
  constructor
  · intro h
    induction s with
    | nil => exact h
    | cons a s ih =>
      obtain ⟨ha, hs⟩ : c ≠ a ∧ c ∉ s := by simpa using hc
      obtain ⟨gaps, hfits, hinside⟩ := occursIn_iff_fill.1 h
      refine ih hs (occursIn_iff_fill.2 ⟨gaps, hfits, ?_⟩)
      refine (List.infix_cons_iff.1 hinside).resolve_left fun hstart => ha ?_
      exact (List.cons_prefix_cons.1 hstart).1
  · intro h
    simpa using occursIn_append h s []

/-! ## Above and below a line feed -/

/-- No fixed text of the pattern holds a line feed. -/
def FeedFree (pattern : Pattern) : Prop := ∀ lead, .fixed lead ∈ pattern → '\n' ∉ lead

/-- What a match leaves, with more text behind. -/
def leaving (behind : Text) (found : List Text × Text) : List Text × Text :=
  (found.1, found.2 ++ behind)

lemma fillGap_append_lf {rest : Text → Option (List Text × Text)} {behind : Text}
    (hrest : ∀ s, rest (s ++ '\n' :: behind) = (rest s).map (leaving ('\n' :: behind))) (s : Text) :
    fillGap rest (s ++ '\n' :: behind) = (fillGap rest s).map (leaving ('\n' :: behind)) := by
  induction s with
  | nil =>
    have hnil := hrest []
    rw [List.nil_append] at hnil ⊢
    rw [fillGap, fillGap, hnil]
    cases rest [] <;> simp [leaving]
  | cons c s ih =>
    have hcons := hrest (c :: s)
    rw [List.cons_append] at hcons ⊢
    rw [fillGap, fillGap, hcons]
    cases rest (c :: s) with
    | some found => simp [leaving]
    | none =>
      simp only [Option.map_none]
      split_ifs
      · rfl
      · rw [ih, Option.map_map, Option.map_map]
        rfl

/-- A match does not look past a line feed. -/
lemma matchHere_append_lf {pattern : Pattern} (h : FeedFree pattern) (s behind : Text) :
    matchHere pattern (s ++ '\n' :: behind) =
      (matchHere pattern s).map (leaving ('\n' :: behind)) := by
  induction pattern generalizing s with
  | nil => rfl
  | cons piece rest ih =>
    have ih := ih fun lead hlead => h lead (List.mem_cons_of_mem _ hlead)
    cases piece with
    | fixed lead =>
      rw [matchHere, matchHere, Text.after?_append_cons (h lead List.mem_cons_self)]
      cases Text.after? lead s with
      | none => rfl
      | some left => exact ih left
    | gap => exact fillGap_append_lf ih s

lemma find?_nil (pattern : Pattern) : find? pattern [] =
    (matchHere pattern []).map fun found => ⟨[], found.1, found.2⟩ := by
  cases hhere : matchHere pattern [] <;> simp [find?, hhere]

lemma find?_cons (pattern : Pattern) (c : Char) (t : Text) : find? pattern (c :: t) =
    match matchHere pattern (c :: t) with
    | some (gaps, after) => some ⟨[], gaps, after⟩
    | none => (find? pattern t).map fun found => { found with before := c :: found.before } := by
  cases hhere : matchHere pattern (c :: t) <;> simp [find?, hhere]

/-- The leftmost match is looked for in the first line, and then in the text below it. -/
theorem find?_append_lf {pattern : Pattern} (h : FeedFree pattern) (s behind : Text) :
    find? pattern (s ++ '\n' :: behind) =
      match find? pattern s with
      | some found => some { found with after := found.after ++ '\n' :: behind }
      | none => (find? pattern behind).map fun found =>
          { found with before := s ++ '\n' :: found.before } := by
  induction s with
  | nil =>
    have hhere := matchHere_append_lf h [] behind
    rw [List.nil_append] at hhere ⊢
    rw [find?_cons, find?_nil, hhere]
    cases matchHere pattern [] <;> simp [leaving]
  | cons c s ih =>
    have hhere := matchHere_append_lf h (c :: s) behind
    rw [List.cons_append] at hhere ⊢
    rw [find?_cons, find?_cons, hhere]
    cases matchHere pattern (c :: s) with
    | some found => simp [leaving]
    | none =>
      simp only [Option.map_none, ih]
      cases find? pattern s with
      | some found => rfl
      | none => simp [Function.comp_def]

/-- Text above that the pattern does not occur in is passed over. -/
lemma find?_above_append {pattern : Pattern} (h : FeedFree pattern) {above : Text}
    (hends : above = [] ∨ above.getLast? = some '\n') (hnone : ¬ pattern.occursIn above)
    (t : Text) : find? pattern (above ++ t) =
      (find? pattern t).map fun found => { found with before := above ++ found.before } := by
  rcases hends with rfl | hlast
  · simp
  · obtain ⟨line, rfl⟩ := List.getLast?_eq_some_iff.1 hlast
    have hline : find? pattern line = none := by
      by_contra hsome
      exact hnone (by simpa using occursIn_append (Option.isSome_iff_ne_none.2 hsome) [] ['\n'])
    rw [List.append_assoc, List.singleton_append, find?_append_lf h, hline]
    simp

/-- A match in a line is the same whatever stands below. -/
lemma find?_line_iff {pattern : Pattern} (h : FeedFree pattern) {line below : Text}
    (hbelow : below = [] ∨ below.head? = some '\n') {before after : Text} {gaps : List Text}
    (hbefore : before.length ≤ line.length) :
    find? pattern (line ++ below) = some ⟨before, gaps, after ++ below⟩ ↔
      find? pattern line = some ⟨before, gaps, after⟩ := by
  rcases hbelow with rfl | hhead
  · simp
  · obtain ⟨below, rfl⟩ := List.head?_eq_some_iff.1 hhead
    rw [find?_append_lf h]
    cases find? pattern line with
    | some found =>
      obtain ⟨first, filling, rest⟩ := found
      simp
    | none =>
      simp only [Option.map_eq_some_iff, reduceCtorEq, iff_false, not_exists, not_and]
      intro found _ heq
      have hlength := congrArg (fun found => found.before.length) heq
      simp only [List.length_append, List.length_cons] at hlength
      omega

/-! ## Counting matches -/

/-- Number of matches that do not overlap, found from left to right. A match that takes up no text
is the last one counted. -/
def countMatches (pattern : Pattern) (t : Text) : Nat :=
  match find? pattern t with
  | none => 0
  | some found =>
    if found.after.length < t.length then countMatches pattern found.after + 1 else 1
termination_by t.length

lemma length_after_lt {pattern : Pattern} (hwithin : WithinLine pattern) {t : Text}
    {found : PatternMatch} (h : find? pattern t = some found) :
    found.after.length < t.length := by
  have hfill : 0 < (fill pattern found.gaps).length :=
    List.length_pos_iff.2 (hwithin _ (fits_of_find? h)).1
  have hlength := congrArg List.length (find?_eq_some h)
  simp only [List.length_append] at hlength
  omega

lemma countMatches_eq_zero_iff {pattern : Pattern} {t : Text} :
    countMatches pattern t = 0 ↔ find? pattern t = none := by
  unfold countMatches
  cases find? pattern t with
  | none => simp
  | some found => dsimp only; split_ifs <;> simp

/-- There is one match when there is a first one and none behind it. -/
theorem countMatches_eq_one_iff {pattern : Pattern} (hwithin : WithinLine pattern) {t : Text} :
    countMatches pattern t = 1 ↔
      ∃ found, find? pattern t = some found ∧ ¬ pattern.occursIn found.after := by
  unfold countMatches
  cases hfound : find? pattern t with
  | none => simp
  | some found =>
    have hnone : countMatches pattern found.after = 0 ↔ ¬ pattern.occursIn found.after := by
      rw [countMatches_eq_zero_iff, occursIn, Option.not_isSome_iff_eq_none]
    simp [length_after_lt hwithin hfound, hnone]

end Pattern

end NodeKit
