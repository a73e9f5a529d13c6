import NodeKit.Text.Lines
import Mathlib.Data.List.Induction
import Mathlib.Tactic.SplitIfs

/-!
# Lines and the text around them

A text is cut at one of its lines into what stands above, the body, the
terminator and what stands below. Such a cut is the same as a line in the middle
of the list of lines: `split_cut` goes from the text to the list, and
`cut_of_split_eq` goes back. Every stretch of text without a line feed lies in the
body of one line, unless it ends in a carriage return (`exists_cut`).
-/
namespace NodeKit.Line

variable {α : Type} [DecidableEq α] {breaks : Breaks α}

/-- What has to hold of the four parts of a text for the middle two to be one of its lines. -/
structure Cut (breaks : Breaks α) (above body : List α) (ending : Ending) (below : List α) :
    Prop where
  above_ends : above = [] ∨ above.getLast? = some breaks.lf
  lf_notMem : breaks.lf ∉ body
  bare : ending = .lf → body.getLast? ≠ some breaks.cr
  last : ending = .unterminated → body ≠ [] ∧ below = []

lemma split_ne_nil {s : List α} (h : s ≠ []) : split breaks s ≠ [] := by
  obtain ⟨c, rest, rfl⟩ := List.exists_cons_of_ne_nil h
  unfold split
  split_ifs
  · simp
  · cases split breaks rest with
    | nil => simp [extend]
    | cons line lines => simp only [extend]; split_ifs <;> simp

lemma extend_append (c : α) {lines : List (Line α)} (h : lines ≠ []) (more : List (Line α)) :
    extend breaks c (lines ++ more) = extend breaks c lines ++ more := by
  obtain ⟨line, rest, rfl⟩ := List.exists_cons_of_ne_nil h
  simp only [List.cons_append, extend]
  split_ifs <;> rfl

/-- Text that ends with a line feed is cut by itself. -/
lemma split_append {s : List α} (h : s = [] ∨ s.getLast? = some breaks.lf) (t : List α) :
    split breaks (s ++ t) = split breaks s ++ split breaks t := by
  induction s with
  | nil => rfl
  | cons c s ih =>
    have hlast : (c :: s).getLast? = some breaks.lf := h.resolve_left (by simp)
    rcases List.eq_nil_or_concat s with rfl | ⟨init, d, rfl⟩
    · obtain rfl : c = breaks.lf := by simpa using hlast
      simp [split]
    · have hd : d = breaks.lf := by simpa [List.getLast?_cons] using hlast
      have ih := ih (Or.inr (by simp [hd]))
      have hne : split breaks (init.concat d) ≠ [] := split_ne_nil (by simp)
      simp only [List.cons_append, split, ih]
      split_ifs
      · rfl
      · exact extend_append c hne _

/-- A body and its terminator make up the first line. -/
lemma split_line (hbreaks : breaks.cr ≠ breaks.lf) {body below : List α} {ending : Ending}
    (h : Cut breaks [] body ending below) :
    split breaks (body ++ (ending.units breaks ++ below)) =
      ⟨body, ending⟩ :: split breaks below := by
  induction body with
  | nil =>
    cases ending with
    | unterminated => exact absurd rfl (h.last rfl).1
    | lf => simp [Ending.units, split]
    | crlf => simp [Ending.units, split, extend, hbreaks]
  | cons c body ih =>
    have hc : c ≠ breaks.lf := fun hc => h.lf_notMem (by simp [hc])
    by_cases hnil : body = [] ∧ ending = .unterminated
    · obtain ⟨rfl, rfl⟩ := hnil
      simp [Ending.units, (h.last rfl).2, split, extend, hc]
    · have ih := ih ⟨Or.inl rfl, fun hmem => h.lf_notMem (List.mem_cons_of_mem _ hmem), ?_, ?_⟩
      · have hjoin : ¬ (c = breaks.cr ∧ (⟨body, ending⟩ : Line α) = ⟨[], .lf⟩) := by
          rintro ⟨rfl, heq⟩
          cases heq
          exact h.bare rfl rfl
        simp only [List.cons_append, split, if_neg hc, ih, extend, if_neg hjoin]
      · intro hlf heq
        refine h.bare hlf ?_
        rw [List.getLast?_cons, heq]
        rfl
      · exact fun hu => ⟨fun hb => hnil ⟨hb, hu⟩, (h.last hu).2⟩

/-- A cut of the text is a line in the list of lines. -/
theorem split_cut (hbreaks : breaks.cr ≠ breaks.lf) {above body below : List α} {ending : Ending}
    (h : Cut breaks above body ending below) :
    split breaks (above ++ (body ++ (ending.units breaks ++ below))) =
      split breaks above ++ ⟨body, ending⟩ :: split breaks below := by
  rw [split_append h.above_ends,
    split_line hbreaks ⟨Or.inl rfl, h.lf_notMem, h.bare, h.last⟩]

/-- The shape of the lines of a text: nothing a terminator could take from the body in front of
it, and only the last line unterminated. -/
def Tiles (breaks : Breaks α) : List (Line α) → Prop
  | [] => True
  | line :: rest => Cut breaks [] line.body line.ending (join breaks rest) ∧ Tiles breaks rest

lemma tiles_split (breaks : Breaks α) (s : List α) : Tiles breaks (split breaks s) := by
  induction s with
  | nil => trivial
  | cons c s ih =>
    unfold split
    split_ifs with hc
    · exact ⟨⟨Or.inl rfl, by simp, by simp, by simp⟩, ih⟩
    · cases hs : split breaks s with
      | nil => exact ⟨⟨Or.inl rfl, by simpa using Ne.symm hc, by simp, by simp⟩, trivial⟩
      | cons line lines =>
        rw [hs] at ih
        obtain ⟨first, rest⟩ := ih
        simp only [extend]
        split_ifs with hcr
        · exact ⟨⟨Or.inl rfl, by simp, by simp, by simp⟩, rest⟩
        · refine ⟨⟨Or.inl rfl, ?_, ?_, ?_⟩, rest⟩
          · simpa using ⟨Ne.symm hc, first.lf_notMem⟩
          · intro hlf heq
            rcases hbody : line.body with _ | ⟨d, body⟩
            · have hcc : c = breaks.cr := by simpa [hbody] using heq
              exact hcr ⟨hcc, by rw [← hbody, ← hlf]⟩
            · refine first.bare hlf ?_
              simpa [hbody, List.getLast?_cons] using heq
          · exact fun hu => ⟨by simp, (first.last hu).2⟩

lemma split_join (hbreaks : breaks.cr ≠ breaks.lf) {lines : List (Line α)}
    (h : Tiles breaks lines) : split breaks (join breaks lines) = lines := by
  induction lines with
  | nil => rfl
  | cons line rest ih =>
    rw [join_cons, whole, List.append_assoc, split_line hbreaks h.1, ih h.2]

omit [DecidableEq α] in
lemma Tiles.below {above below : List (Line α)} (h : Tiles breaks (above ++ below)) :
    Tiles breaks below := by
  induction above with
  | nil => exact h
  | cons line above ih => exact ih h.2

omit [DecidableEq α] in
lemma Cut.whole_ne_nil {line : Line α} {above below : List α}
    (h : Cut breaks above line.body line.ending below) : whole breaks line ≠ [] := by
  intro hnil
  obtain ⟨hbody, hunits⟩ := List.append_eq_nil_iff.1 hnil
  cases hending : line.ending with
  | unterminated => exact (h.last hending).1 hbody
  | lf => simp [hending, Ending.units] at hunits
  | crlf => simp [hending, Ending.units] at hunits

omit [DecidableEq α] in
lemma getLast?_whole {line : Line α} (h : line.ending ≠ .unterminated) :
    (whole breaks line).getLast? = some breaks.lf := by
  cases hending : line.ending with
  | unterminated => exact absurd hending h
  | lf => simp [whole, hending, Ending.units]
  | crlf => simp [whole, hending, Ending.units]

omit [DecidableEq α] in
/-- Lines above another one are all terminated. -/
lemma Tiles.above {above : List (Line α)} {line : Line α} {below : List (Line α)}
    (h : Tiles breaks (above ++ line :: below)) :
    Tiles breaks above ∧
      (join breaks above = [] ∨ (join breaks above).getLast? = some breaks.lf) := by
  induction above with
  | nil => exact ⟨trivial, Or.inl rfl⟩
  | cons first above ih =>
    obtain ⟨hfirst, hrest⟩ := h
    obtain ⟨htiles, hends⟩ := ih hrest
    have hne : join breaks (above ++ line :: below) ≠ [] := by
      have hline := hrest.below.1.whole_ne_nil
      simp [join, hline]
    have hended : first.ending ≠ .unterminated := fun hu => hne (hfirst.last hu).2
    refine ⟨⟨⟨Or.inl rfl, hfirst.lf_notMem, hfirst.bare, fun hu => absurd hu hended⟩, htiles⟩, ?_⟩
    right
    rw [join_cons, List.getLast?_append, getLast?_whole hended]
    rcases hends with hnil | hlast
    · simp [hnil]
    · simp [hlast]

/-- A line in the list of lines is a cut of the text. -/
theorem cut_of_split_eq (hbreaks : breaks.cr ≠ breaks.lf) {s : List α} {above : List (Line α)}
    {line : Line α} {below : List (Line α)} (h : split breaks s = above ++ line :: below) :
    s = join breaks above ++ (line.body ++ (line.ending.units breaks ++ join breaks below)) ∧
      Cut breaks (join breaks above) line.body line.ending (join breaks below) ∧
      split breaks (join breaks above) = above ∧ split breaks (join breaks below) = below := by
  have htiles : Tiles breaks (above ++ line :: below) := h ▸ tiles_split breaks s
  obtain ⟨habove, hends⟩ := htiles.above
  obtain ⟨hline, hbelow⟩ := htiles.below
  refine ⟨?_, ⟨hends, hline.lf_notMem, hline.bare, hline.last⟩, split_join hbreaks habove,
    split_join hbreaks hbelow⟩
  rw [← join_split breaks s, h]
  simp [join, whole]

/-! ## Cutting at line feeds -/

/-- What is left of a line that ends at a line feed: a carriage return directly before the line
feed goes too. -/
def withoutReturn (breaks : Breaks α) (line : List α) : List α :=
  if line.getLast? = some breaks.cr then line.dropLast else line

/-- The bodies of the lines, cut at every line feed. What follows the last line feed is a line when
there is anything, and keeps its carriage return. -/
def cutAtFeeds (breaks : Breaks α) (s : List α) : List (List α) :=
  let parts := s.splitOn breaks.lf
  parts.dropLast.map (withoutReturn breaks) ++ parts.getLast?.toList.filter (· ≠ [])

lemma cutAtFeeds_of_notMem {s : List α} (h : breaks.lf ∉ s) (hne : s ≠ []) :
    cutAtFeeds breaks s = [s] := by
  simp [cutAtFeeds, List.splitOn_eq_singleton h, hne]

lemma cutAtFeeds_append {s : List α} (h : breaks.lf ∉ s) (t : List α) :
    cutAtFeeds breaks (s ++ breaks.lf :: t) = withoutReturn breaks s :: cutAtFeeds breaks t := by
  obtain ⟨part, parts, hparts⟩ := List.exists_cons_of_ne_nil (List.splitOn_ne_nil breaks.lf t)
  simp [cutAtFeeds, List.splitOn_append_cons_self, List.splitOn_eq_singleton h, hparts,
    List.getLast?_cons]

lemma map_body_eq_cutAtFeeds (hbreaks : breaks.cr ≠ breaks.lf) {lines : List (Line α)}
    (h : Tiles breaks lines) : lines.map body = cutAtFeeds breaks (join breaks lines) := by
  induction lines with
  | nil => rfl
  | cons line rest ih =>
    obtain ⟨hline, hrest⟩ := h
    rw [List.map_cons, ih hrest, join_cons, whole]
    cases hending : line.ending with
    | unterminated =>
      obtain ⟨hbody, hbelow⟩ := hline.last hending
      have hcut := cutAtFeeds_of_notMem hline.lf_notMem hbody
      rw [hbelow, Ending.units, List.append_nil, List.append_nil, hcut]
      rfl
    | lf =>
      have hkept : withoutReturn breaks line.body = line.body := if_neg (hline.bare hending)
      have hcut := cutAtFeeds_append hline.lf_notMem (join breaks rest)
      rw [hkept] at hcut
      simpa [Ending.units] using hcut.symm
    | crlf =>
      have hfront : breaks.lf ∉ line.body ++ [breaks.cr] := by
        simp [hline.lf_notMem, hbreaks.symm]
      have hcut := cutAtFeeds_append hfront (join breaks rest)
      simpa [Ending.units, withoutReturn] using hcut.symm

/-- Reading lines is cutting at line feeds. -/
theorem map_body_split (hbreaks : breaks.cr ≠ breaks.lf) (s : List α) :
    (split breaks s).map body = cutAtFeeds breaks s := by
  rw [map_body_eq_cutAtFeeds hbreaks (tiles_split breaks s), join_split]

lemma cutAtFeeds_append_of_ends (hbreaks : breaks.cr ≠ breaks.lf) {s : List α}
    (h : s = [] ∨ s.getLast? = some breaks.lf) (t : List α) :
    cutAtFeeds breaks (s ++ t) = cutAtFeeds breaks s ++ cutAtFeeds breaks t := by
  simp only [← map_body_split hbreaks, split_append h, List.map_append]

/-! ## The line around a stretch of text -/

lemma exists_last_break (lf : α) (s : List α) :
    ∃ above before, s = above ++ before ∧ (above = [] ∨ above.getLast? = some lf) ∧
      lf ∉ before := by
  induction s using List.reverseRecOn with
  | nil => exact ⟨[], [], rfl, Or.inl rfl, by simp⟩
  | append_singleton s c ih =>
    by_cases hc : c = lf
    · exact ⟨s ++ [c], [], by simp, Or.inr (by simp [hc]), by simp⟩
    · obtain ⟨above, before, rfl, hends, hbefore⟩ := ih
      exact ⟨above, before ++ [c], by simp, hends, by simp [hbefore, Ne.symm hc]⟩

omit [DecidableEq α] in
lemma eq_nil_of_ends {lf : α} {above before : List α} (hbefore : lf ∉ before)
    (hends : above ++ before = [] ∨ (above ++ before).getLast? = some lf) : before = [] := by
  rcases hends with hnil | hlast
  · exact (List.append_eq_nil_iff.1 hnil).2
  · by_contra hne
    obtain ⟨c, hc⟩ := Option.ne_none_iff_exists'.1 (mt List.getLast?_eq_none_iff.1 hne)
    rw [List.getLast?_append, hc] at hlast
    obtain rfl : c = lf := Option.some.inj hlast
    exact hbefore (List.mem_of_getLast? hc)

omit [DecidableEq α] in
/-- What stands behind the last line feed is determined by the text. -/
lemma last_break_eq {lf : α} {above before above' before' : List α}
    (hends : above = [] ∨ above.getLast? = some lf) (hbefore : lf ∉ before)
    (hends' : above' = [] ∨ above'.getLast? = some lf) (hbefore' : lf ∉ before')
    (h : above ++ before = above' ++ before') : above = above' ∧ before = before' := by
  rcases List.append_eq_append_iff.1 h with ⟨left, rfl, rfl⟩ | ⟨left, rfl, rfl⟩
  · rw [List.mem_append, not_or] at hbefore
    obtain rfl := eq_nil_of_ends hbefore.1 hends'
    simp
  · rw [List.mem_append, not_or] at hbefore'
    obtain rfl := eq_nil_of_ends hbefore'.1 hends
    simp

lemma exists_first_break (breaks : Breaks α) (s : List α) :
    ∃ after ending below, s = after ++ (Ending.units breaks ending ++ below) ∧
      breaks.lf ∉ after ∧ (ending = .lf → after.getLast? ≠ some breaks.cr) ∧
      (ending = .unterminated → below = []) := by
  induction s with
  | nil => exact ⟨[], .unterminated, [], by simp [Ending.units], by simp, by simp, by simp⟩
  | cons c s ih =>
    by_cases hc : c = breaks.lf
    · exact ⟨[], .lf, s, by simp [Ending.units, hc], by simp, by simp, by simp⟩
    · obtain ⟨after, ending, below, rfl, hlf, hbare, hlast⟩ := ih
      by_cases hcr : c = breaks.cr ∧ after = [] ∧ ending = .lf
      · obtain ⟨rfl, rfl, rfl⟩ := hcr
        exact ⟨[], .crlf, below, by simp [Ending.units], by simp, by simp, by simp⟩
      · refine ⟨c :: after, ending, below, rfl, by simp [hlf, Ne.symm hc], ?_, hlast⟩
        intro hending heq
        rcases after with _ | ⟨d, after⟩
        · exact hcr ⟨by simpa using heq, rfl, hending⟩
        · exact hbare hending (by simpa [List.getLast?_cons] using heq)

/-- A stretch of text without a line feed lies in the body of one line. -/
theorem exists_cut (breaks : Breaks α) (front behind : List α) {mid : List α} (hne : mid ≠ [])
    (hlf : breaks.lf ∉ mid) (hcr : mid.getLast? ≠ some breaks.cr) :
    ∃ above before after ending below,
      front = above ++ before ∧ behind = after ++ (Ending.units breaks ending ++ below) ∧
      Cut breaks above (before ++ mid ++ after) ending below := by
  obtain ⟨above, before, rfl, hends, hbefore⟩ := exists_last_break breaks.lf front
  obtain ⟨after, ending, below, rfl, hafter, hbare, hlast⟩ := exists_first_break breaks behind
  refine ⟨above, before, after, ending, below, rfl, rfl, hends, by simp [*], ?_, ?_⟩
  · intro hending heq
    obtain ⟨d, hd⟩ := Option.ne_none_iff_exists'.1 (mt List.getLast?_eq_none_iff.1 hne)
    rw [List.getLast?_append, List.getLast?_append, hd] at heq
    cases ha : after.getLast? with
    | none => exact hcr (by simpa [ha, hd] using heq)
    | some e => exact hbare hending (by simpa [ha] using heq)
  · exact fun hu => ⟨by simp [hne], hlast hu⟩

/-! ## Placed lines -/

lemma placeFrom_append (start : Nat) (above below : List (Line Char)) :
    placeFrom start (above ++ below) =
      placeFrom start above ++ placeFrom (start + Text.byteLength (Text.ofLines above)) below := by
  induction above generalizing start with
  | nil => rfl
  | cons line above ih => simp [placeFrom, ih, Text.ofLines, Nat.add_assoc]

lemma not_holds_of_mem_placeFrom {start offset : Nat} {lines : List (Line Char)}
    {placed : PlacedLine} (h : placed ∈ placeFrom start lines)
    (hoffset : start + Text.byteLength (Text.ofLines lines) ≤ offset) :
    ¬ placed.holds offset := by
  induction lines generalizing start with
  | nil => cases h
  | cons line lines ih =>
    simp only [Text.ofLines, join_cons, Text.byteLength_append] at hoffset ih
    rcases List.mem_cons.1 h with rfl | h
    · simp only [whole, Text.byteLength_append] at hoffset
      simp only [PlacedLine.holds, Bool.and_eq_true, decide_eq_true_eq]
      omega
    · exact ih h (by omega)

lemma le_of_holds_of_mem_placeFrom {start offset : Nat} {lines : List (Line Char)}
    {placed : PlacedLine} (h : placed ∈ placeFrom start lines) (hholds : placed.holds offset) :
    start ≤ offset := by
  induction lines generalizing start with
  | nil => cases h
  | cons line lines ih =>
    rcases List.mem_cons.1 h with rfl | h
    · simp only [PlacedLine.holds, Bool.and_eq_true, decide_eq_true_eq] at hholds
      exact hholds.1
    · have hle := ih h
      omega

/-- The byte behind `before` lies in the line it is cut from, and in no other line. -/
theorem placeFrom_cut {above before rest below : Text} {ending : Ending} (hne : rest ≠ [])
    (hcut : Cut Breaks.text above (before ++ rest) ending below) :
    ∃ first behind, placeFrom 0 (Text.splitLines
        (above ++ ((before ++ rest) ++ (ending.units Breaks.text ++ below)))) =
        first ++ ⟨Text.byteLength above, ⟨before ++ rest, ending⟩⟩ :: behind ∧
      first.map PlacedLine.line = Text.splitLines above ∧
      behind.map PlacedLine.line = Text.splitLines below ∧
      PlacedLine.holds ⟨Text.byteLength above, ⟨before ++ rest, ending⟩⟩
        (Text.byteLength (above ++ before)) ∧
      (∀ placed ∈ first, ¬ placed.holds (Text.byteLength (above ++ before))) ∧
      ∀ placed ∈ behind, ¬ placed.holds (Text.byteLength (above ++ before)) := by
  have hsplit := split_cut (by decide) hcut
  have habove : Text.byteLength (Text.ofLines (split Breaks.text above)) =
      Text.byteLength above := by simp [Text.ofLines]
  have hrest : 0 < Text.byteLength rest := by
    obtain ⟨c, rest, rfl⟩ := List.exists_cons_of_ne_nil hne
    have := c.utf8Size_pos
    simp only [Text.byteLength_cons]
    omega
  refine ⟨placeFrom 0 (Text.splitLines above), placeFrom (Text.byteLength above +
    Text.byteLength (whole Breaks.text ⟨before ++ rest, ending⟩)) (Text.splitLines below), ?_,
    map_line_placeFrom .., map_line_placeFrom .., ?_, ?_, ?_⟩
  · simp only [Text.splitLines, hsplit, placeFrom_append, placeFrom, habove, Nat.zero_add]
  · simp only [PlacedLine.holds, Text.byteLength_append, Bool.and_eq_true, decide_eq_true_eq]
    omega
  · intro placed hmem
    exact not_holds_of_mem_placeFrom hmem (by simp [habove, Text.splitLines])
  · intro placed hmem hholds
    have hle := le_of_holds_of_mem_placeFrom hmem hholds
    simp only [whole, Text.byteLength_append] at hle
    omega

end NodeKit.Line

namespace NodeKit

/-- A terminator is a return, or nothing, in front of the line feed. -/
lemma Ending.exists_return {α : Type} (breaks : Breaks α) (ending : Ending) :
    ∃ cr, ∀ below, (ending = .unterminated → below = []) →
      ∃ tail, ending.units breaks ++ below = cr ++ tail ∧
        (tail = [] ∨ tail.head? = some breaks.lf) := by
  cases ending with
  | unterminated =>
    refine ⟨[], fun below hbelow => ⟨[], ?_, Or.inl rfl⟩⟩
    simp [units, hbelow rfl]
  | lf => exact ⟨[], fun below _ => ⟨breaks.lf :: below, rfl, Or.inr rfl⟩⟩
  | crlf => exact ⟨[breaks.cr], fun below _ => ⟨breaks.lf :: below, rfl, Or.inr rfl⟩⟩

lemma firstAround?_isSome {α : Type} {test : α → Bool} {items : List α} {a : α} (ha : a ∈ items)
    (htest : test a) : (firstAround? test items).isSome := by
  induction items with
  | nil => cases ha
  | cons b rest ih =>
    unfold firstAround?
    split
    · rfl
    · next hb =>
      rcases List.mem_cons.1 ha with rfl | ha
      · exact absurd htest hb
      · simpa using ih ha

lemma firstAround?_append {α : Type} {test : α → Bool} {above : List α} {focus : α}
    (habove : ∀ a ∈ above, ¬ test a) (hfocus : test focus) (below : List α) :
    firstAround? test (above ++ focus :: below) = some ⟨above, focus, below⟩ := by
  induction above with
  | nil => simp [firstAround?, hfocus]
  | cons a above ih =>
    have ha : ¬ test a := habove a (by simp)
    have hrest := ih fun b hb => habove b (List.mem_cons_of_mem _ hb)
    simp [firstAround?, ha, hrest]

end NodeKit
