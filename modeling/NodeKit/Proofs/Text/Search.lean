import NodeKit.Proofs.Text.Pattern
import NodeKit.Proofs.Text.Words
import Mathlib.Data.List.Basic

/-!
# Patterns as searches

A pattern of fixed words with a gap between neighbours can be matched without going
back. On a line, the first word is looked for, then the second one behind it, and so
on; the gaps are what the searches skip. A match of the pattern is what these forward
searches find (`search?_eq_find?`), so that the pattern occurs in a line when the line
holds the words in order (`occursIn_spaced_iff`). A text is looked through line by line
(`find?_joinLines`).
-/
namespace NodeKit

namespace Text

variable {w s : Text} {ws : List Text}

/-! ## The first place of a word -/

lemma dropInfix?_eq_some {front behind : Text} : s.dropInfix? w = some (front, behind) ↔
    s = front ++ (w ++ behind) ∧
      ∀ front' behind', s = front' ++ (w ++ behind') → front.length ≤ front'.length := by
  rw [List.dropInfix?_eq_some_iff]
  constructor
  · rintro ⟨⟨found, hs, hfound⟩, hfirst⟩
    obtain rfl : found = w := by simpa using hfound
    exact ⟨by simpa using hs, fun front' behind' h => hfirst front' _ behind' (by simpa using h)
      (beq_self_eq_true _)⟩
  · rintro ⟨hs, hfirst⟩
    refine ⟨⟨w, by simpa using hs, beq_self_eq_true w⟩, fun front' found behind' h hfound => ?_⟩
    obtain rfl : found = w := by simpa using hfound
    exact hfirst front' behind' (by simpa using h)

lemma dropInfix?_append (w s : Text) : (w ++ s).dropInfix? w = some ([], s) :=
  dropInfix?_eq_some.2 ⟨rfl, by simp⟩

/-- A word that does not stand in front is looked for behind the first character. -/
lemma dropInfix?_cons {c : Char} (h : ¬ w <+: c :: s) : (c :: s).dropInfix? w =
    (s.dropInfix? w).map fun found => (c :: found.1, found.2) := by
  have hcons (front behind : Text) : c :: s = front ++ (w ++ behind) ↔
      ∃ front', front = c :: front' ∧ s = front' ++ (w ++ behind) := by
    cases front with
    | nil =>
      simp only [List.nil_append, List.nil_eq, reduceCtorEq, false_and, exists_false, iff_false]
      exact fun heq => h ⟨behind, heq.symm⟩
    | cons d front =>
      simp only [List.cons_append, List.cons.injEq]
      grind
  apply Option.ext
  rintro ⟨front, behind⟩
  simp only [Option.map_eq_some_iff, Prod.exists, Prod.mk.injEq, dropInfix?_eq_some, hcons]
  constructor
  · rintro ⟨⟨front, rfl, hs⟩, hfirst⟩
    refine ⟨front, behind, ⟨hs, fun front' behind' h => ?_⟩, rfl, rfl⟩
    simpa using hfirst (c :: front') behind' ⟨front', rfl, h⟩
  · rintro ⟨front, _, ⟨hs, hfirst⟩, rfl, rfl⟩
    refine ⟨⟨front, rfl, hs⟩, ?_⟩
    rintro _ behind' ⟨front', rfl, h⟩
    simpa using hfirst front' behind' h

lemma dropInfix?_isSome (h : w <:+: s) : (s.dropInfix? w).isSome := by
  obtain ⟨front, behind, rfl⟩ := h
  rw [List.append_assoc]
  induction front with
  | nil => simp [dropInfix?_append]
  | cons c front ih =>
    by_cases hstart : w <+: c :: (front ++ (w ++ behind))
    · obtain ⟨rest, hrest⟩ := hstart
      rw [List.cons_append, ← hrest, dropInfix?_append]
      rfl
    · rw [List.cons_append, dropInfix?_cons hstart]
      simpa using ih

/-- The word does not stand further left. -/
lemma not_infix_of_dropInfix? {front behind : Text} (hw : w ≠ [])
    (h : s.dropInfix? w = some (front, behind)) : ¬ w <:+: front := by
  rintro ⟨left, right, rfl⟩
  obtain ⟨hs, hfirst⟩ := dropInfix?_eq_some.1 h
  have hle := hfirst left (right ++ (w ++ behind)) (by simpa using hs)
  have hpos : 0 < w.length := List.length_pos_iff.2 hw
  simp only [List.length_append] at hle
  omega

/-! ## Words in order -/

/-- The text holds the words one behind the other. -/
def InOrder : List Text → Text → Prop
  | [], _ => True
  | w :: ws, s => ∃ front behind, s = front ++ (w ++ behind) ∧ InOrder ws behind

lemma InOrder.append (h : InOrder ws s) (lead : Text) : InOrder ws (lead ++ s) := by
  cases ws with
  | nil => trivial
  | cons w ws =>
    obtain ⟨front, behind, rfl, hrest⟩ := h
    exact ⟨lead ++ front, behind, by simp, hrest⟩

/-- Behind the first place of the first word there is room for the others. -/
lemma InOrder.of_append {front behind : Text} (h : InOrder (w :: ws) s)
    (hs : s = front ++ (w ++ behind))
    (hfirst : ∀ front' behind', s = front' ++ (w ++ behind') → front.length ≤ front'.length) :
    InOrder ws behind := by
  obtain ⟨front', behind', hs', hrest⟩ := h
  have hle := hfirst front' behind' hs'
  have hlength := congrArg List.length hs
  have hlength' := congrArg List.length hs'
  simp only [List.length_append] at hlength hlength'
  have hsuffix : behind' <:+ behind := by
    have hlater : behind' <:+ s := ⟨front' ++ w, by simp [hs']⟩
    have hhere : behind <:+ s := ⟨front ++ w, by simp [hs]⟩
    exact List.suffix_of_suffix_length_le hlater hhere (by omega)
  obtain ⟨lead, rfl⟩ := hsuffix
  exact hrest.append lead

/-- Each word is looked for behind the one before it. The answer is what is skipped in front of
each word, and what is left behind the last one. -/
def search? : List Text → Text → Option (List Text × Text)
  | [], s => some ([], s)
  | w :: ws, s => (s.dropInfix? w).bind fun found =>
      (search? ws found.2).map fun later => (found.1 :: later.1, later.2)

@[simp] lemma search?_nil (s : Text) : search? [] s = some ([], s) := rfl

lemma search?_eq_some {gap behind : Text} {gaps : List Text} :
    search? (w :: ws) s = some (gap :: gaps, behind) ↔
      ∃ rest, s.dropInfix? w = some (gap, rest) ∧ search? ws rest = some (gaps, behind) := by
  simp only [search?, Option.bind_eq_some_iff, Option.map_eq_some_iff, Prod.exists, Prod.mk.injEq,
    List.cons.injEq]
  constructor
  · rintro ⟨gap, rest, hw, gaps, behind, hrest, ⟨rfl, rfl⟩, rfl⟩
    exact ⟨rest, hw, hrest⟩
  · rintro ⟨rest, hw, hrest⟩
    exact ⟨gap, rest, hw, gaps, behind, hrest, ⟨rfl, rfl⟩, rfl⟩

/-- The searches succeed on the texts that hold the words in order. -/
theorem search?_isSome_iff : (search? ws s).isSome ↔ InOrder ws s := by
  induction ws generalizing s with
  | nil => simp [search?, InOrder]
  | cons w ws ih =>
    cases hw : s.dropInfix? w with
    | none =>
      simp only [search?, hw, Option.bind_none, Option.isSome_none, Bool.false_eq_true, false_iff]
      rintro ⟨front, behind, rfl, -⟩
      have hsome := dropInfix?_isSome (w := w) ⟨front, behind, List.append_assoc ..⟩
      simp [hw] at hsome
    | some found =>
      obtain ⟨front, behind⟩ := found
      obtain ⟨hs, hfirst⟩ := dropInfix?_eq_some.1 hw
      simp only [search?, hw, Option.bind_some, Option.isSome_map, ih]
      exact ⟨fun hrest => ⟨front, behind, hs, hrest⟩, fun h => h.of_append hs hfirst⟩

lemma search?_eq_none (h : ¬ InOrder ws s) : search? ws s = none := by
  rw [← Option.not_isSome_iff_eq_none, search?_isSome_iff]
  exact h

/-- When the other words do not follow the first place of a word, they follow no later one. -/
lemma search?_tail_eq_none {c : Char} {r : Text} (hr : c :: s = w ++ r)
    (hnone : search? ws r = none) : search? (w :: ws) s = none := by
  refine search?_eq_none fun horder => ?_
  have hplace : c :: s = [] ++ (w ++ r) := hr
  have hbehind : InOrder ws r := (horder.append [c]).of_append hplace (by simp)
  rw [← search?_isSome_iff, hnone] at hbehind
  cases hbehind

lemma search?_append (w s : Text) (ws : List Text) : search? (w :: ws) (w ++ s) =
    (search? ws s).map fun later => ([] :: later.1, later.2) := by
  rw [search?, dropInfix?_append, Option.bind_some]

lemma search?_cons {c : Char} (h : ¬ w <+: c :: s) : search? (w :: ws) (c :: s) =
    (search? (w :: ws) s).map fun found => (Pattern.widenFirst c found.1, found.2) := by
  rw [search?, search?, dropInfix?_cons h]
  cases s.dropInfix? w with
  | none => rfl
  | some found =>
    simp only [Option.map_some, Option.bind_some, Option.map_map]
    rfl

end Text

namespace Pattern

open Text

variable {w s : Text} {ws : List Text} {pattern : Pattern}

/-- Words with a gap in front of each. -/
def gapped (words : List Text) : Pattern := words.flatMap fun w => [.gap, .fixed w]

/-- Words with a gap between neighbours. -/
def spaced : List Text → Pattern
  | [] => []
  | w :: ws => .fixed w :: gapped ws

/-! ## Along a line -/

/-- Widening a gap until a word stands behind it and the rest matches too is looking for the
word. -/
lemma fillGap_eq_search? {rest : Text → Option (List Text × Text)}
    (hthere : ∀ r, '\n' ∉ w ++ r → rest (w ++ r) = search? ws r)
    (hnowhere : ∀ r, ¬ w <+: r → rest r = none) (hs : '\n' ∉ s) :
    fillGap rest s = search? (w :: ws) s := by
  induction s with
  | nil =>
    rw [fillGap]
    by_cases hw : w = []
    · subst hw
      exact (congrArg _ (hthere [] hs)).trans (search?_append [] [] ws).symm
    · have hnone : ¬ InOrder (w :: ws) [] := by
        rintro ⟨front, behind, hnil, -⟩
        simp [hw] at hnil
      rw [hnowhere [] (by simpa using hw), search?_eq_none hnone]
      rfl
  | cons c s ih =>
    obtain ⟨hc, hrest⟩ : '\n' ≠ c ∧ '\n' ∉ s := by simpa using hs
    have ih := ih hrest
    rw [fillGap]
    by_cases hw : w <+: c :: s
    · obtain ⟨r, hr⟩ := hw
      have hhere : rest (c :: s) = search? ws r := by
        rw [← hr] at hs ⊢
        exact hthere r hs
      rw [hhere, ← hr, search?_append]
      cases hlater : search? ws r with
      | some later => rfl
      | none =>
        rw [if_neg (Ne.symm hc), ih, search?_tail_eq_none hr.symm hlater]
        rfl
    · rw [hnowhere _ hw, if_neg (Ne.symm hc), ih, search?_cons hw]

lemma matchHere_gapped (hs : '\n' ∉ s) : matchHere (gapped ws) s = search? ws s := by
  induction ws generalizing s with
  | nil => rfl
  | cons w ws ih =>
    have hpattern : gapped (w :: ws) = .gap :: .fixed w :: gapped ws := rfl
    rw [hpattern, matchHere]
    refine fillGap_eq_search? (fun r hr => ?_) (fun r hr => ?_) hs
    · rw [matchHere_fixed]
      exact ih fun hmem => hr (List.mem_append_right _ hmem)
    · have hnone : after? w r = none := by
        rw [Option.eq_none_iff_forall_ne_some]
        exact fun behind heq => hr ⟨behind, (after?_eq_some_iff.1 heq).symm⟩
      rw [matchHere, hnone, Option.bind_none]

/-- The leftmost match is the one behind the shortest gap. -/
lemma matchHere_gap (hs : '\n' ∉ s) : matchHere (.gap :: pattern) s =
    (find? pattern s).map fun found => (found.before :: found.gaps, found.after) := by
  rw [matchHere]
  induction s with
  | nil =>
    rw [fillGap, find?_nil]
    cases matchHere pattern [] <;> rfl
  | cons c s ih =>
    obtain ⟨hc, hs⟩ : '\n' ≠ c ∧ '\n' ∉ s := by simpa using hs
    rw [fillGap, find?_cons]
    cases matchHere pattern (c :: s) with
    | some found => rfl
    | none =>
      dsimp only
      rw [if_neg (Ne.symm hc), ih hs, Option.map_map, Option.map_map]
      rfl

/-- On a line, the match of spaced words is what the searches find. -/
theorem search?_eq_find? (w : Text) (ws : List Text) (hs : '\n' ∉ s) : search? (w :: ws) s =
    (find? (spaced (w :: ws)) s).map fun found => (found.before :: found.gaps, found.after) := by
  rw [← matchHere_gapped hs, ← matchHere_gap hs]
  rfl

lemma find?_spaced_eq_some {front behind : Text} {gaps : List Text} (hs : '\n' ∉ s) :
    find? (spaced (w :: ws)) s = some ⟨front, gaps, behind⟩ ↔
      search? (w :: ws) s = some (front :: gaps, behind) := by
  rw [search?_eq_find? w ws hs]
  cases find? (spaced (w :: ws)) s with
  | none => simp
  | some found =>
    obtain ⟨before, inner, after⟩ := found
    simp [and_assoc]

/-- Spaced words occur in the lines that hold them in order. -/
theorem occursIn_spaced_iff (hs : '\n' ∉ s) :
    occursIn (spaced (w :: ws)) s ↔ InOrder (w :: ws) s := by
  rw [← search?_isSome_iff, search?_eq_find? w ws hs, Option.isSome_map]
  rfl

/-! ## Line by line -/

/-- The match is the one in the first line that has any. -/
theorem find?_joinLines (h : FeedFree pattern) {ls : List Text} (hne : ls ≠ []) :
    find? pattern (joinLines ls) = (firstAround? pattern.occursIn ls).bind fun line =>
      (find? pattern line.focus).map fun found =>
        ⟨joinLines (line.above ++ [found.before]), found.gaps,
          joinLines (found.after :: line.below)⟩ := by
  induction ls with
  | nil => exact absurd rfl hne
  | cons line ls ih =>
    rw [firstAround?]
    by_cases hls : ls = []
    · subst hls
      cases hfind : find? pattern line <;> simp [occursIn, hfind, firstAround?]
    · rw [joinLines_cons line hls, find?_append_lf h, ih hls]
      cases hfind : find? pattern line with
      | some found => simp [occursIn, hfind, joinLines_cons _ hls]
      | none =>
        cases firstAround? pattern.occursIn ls with
        | none => simp [occursIn, hfind]
        | some found => simp [occursIn, hfind, Function.comp_def, joinLines_cons]

/-- The pattern occurs in a text when it does in one of its lines. -/
theorem occursIn_joinLines (h : FeedFree pattern) {ls : List Text} (hne : ls ≠ []) :
    pattern.occursIn (joinLines ls) ↔ ∃ line ∈ ls, pattern.occursIn line := by
  rw [occursIn, find?_joinLines h hne]
  constructor
  · intro hsome
    cases hplace : firstAround? pattern.occursIn ls with
    | none => simp [hplace] at hsome
    | some place =>
      obtain ⟨hls, hfocus, -⟩ := firstAround?_eq_some hplace
      exact ⟨place.focus, by simp [hls], hfocus⟩
  · rintro ⟨line, hline, hoccurs⟩
    obtain ⟨place, hplace⟩ := Option.isSome_iff_exists.1 (firstAround?_isSome hline hoccurs)
    obtain ⟨-, hfocus, -⟩ := firstAround?_eq_some hplace
    rw [hplace, Option.bind_some, Option.isSome_map]
    exact hfocus

end Pattern

end NodeKit
