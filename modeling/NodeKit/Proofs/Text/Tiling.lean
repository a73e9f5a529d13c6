import NodeKit.Proofs.Text.Lines

/-!
# Lines tile their text

A line is its body with its terminator behind it, and the next line begins where they
end. So the lines give back the text, each of them is the slice between two offsets,
and every byte lies in one body or in one terminator (`splitLines_tiles`).
-/
namespace NodeKit

/-- An offset between `a` and `c` lies on one side of `b`. -/
lemma ite_between_add {a b c : Nat} (hab : a ≤ b) (hbc : b ≤ c) (offset : Nat) :
    (if a ≤ offset ∧ offset < b then 1 else 0) + (if b ≤ offset ∧ offset < c then 1 else 0) =
      if a ≤ offset ∧ offset < c then 1 else 0 := by
  split <;> split <;> split <;> omega

namespace PlacedLine

/-- The byte offset behind the line and its terminator. -/
def stop (placed : PlacedLine) : Nat :=
  placed.start + Text.byteLength (placed.line.whole Breaks.text)

/-- Whether the byte at `offset` of the text lies in the line's terminator. -/
def endingHolds (placed : PlacedLine) (offset : Nat) : Bool :=
  placed.start + Text.byteLength placed.line.body ≤ offset && offset < placed.stop

/-- A line has the bytes from its start to its end, each of them once. -/
lemma holds_add_endingHolds (placed : PlacedLine) (offset : Nat) :
    (if placed.holds offset then 1 else 0) + (if placed.endingHolds offset then 1 else 0) =
      if placed.start ≤ offset ∧ offset < placed.stop then 1 else 0 := by
  have hstop : placed.start + Text.byteLength placed.line.body ≤ placed.stop := by
    simp only [stop, Line.whole, Text.byteLength_append]
    omega
  simpa only [holds, endingHolds, Bool.and_eq_true, decide_eq_true_eq] using
    ite_between_add (Nat.le_add_right _ _) hstop offset

end PlacedLine

/-- The text from one byte offset to another one. None if it would begin or end inside a
character, or behind the whole text. -/
def Text.slice? (start stop : Nat) (t : Text) : Option Text :=
  (splitAtByte? start t).bind fun cut => (splitAtByte? (stop - start) cut.2).map Prod.fst

lemma Text.slice?_append (s mid t : Text) :
    slice? (byteLength s) (byteLength s + byteLength mid) (s ++ (mid ++ t)) = some mid := by
  simp only [slice?, splitAtByte?_byteLength, Option.bind_some, Nat.add_sub_cancel_left,
    Option.map_some]

namespace Line

variable {lines : List (Line Char)} {placed : PlacedLine} {start : Nat}

/-- A line begins behind the lines above it. -/
lemma exists_of_mem_placeFrom (h : placed ∈ placeFrom start lines) :
    ∃ above below, lines = above ++ placed.line :: below ∧
      placed.start = start + Text.byteLength (Text.ofLines above) := by
  induction lines generalizing start with
  | nil => cases h
  | cons line lines ih =>
    rcases List.mem_cons.1 h with rfl | h
    · exact ⟨[], lines, rfl, rfl⟩
    · obtain ⟨above, below, rfl, hstart⟩ := ih h
      refine ⟨line :: above, below, rfl, ?_⟩
      rw [hstart, Nat.add_assoc, ← Text.byteLength_append]
      rfl

/-- Where one line ends the next one begins, and the last one ends with the text. -/
lemma starts_placeFrom (start : Nat) (lines : List (Line Char)) :
    (placeFrom start lines).map PlacedLine.start ++
        [start + Text.byteLength (Text.ofLines lines)] =
      start :: (placeFrom start lines).map PlacedLine.stop := by
  induction lines generalizing start with
  | nil => rfl
  | cons line lines ih =>
    have hrest := ih (start + Text.byteLength (whole Breaks.text line))
    rw [Nat.add_assoc, ← Text.byteLength_append] at hrest
    exact congrArg (start :: ·) hrest

/-- The lines have the bytes from the first start to the last end, each of them once. -/
lemma countP_placeFrom (start offset : Nat) (lines : List (Line Char)) :
    (placeFrom start lines).countP (·.holds offset) +
        (placeFrom start lines).countP (·.endingHolds offset) =
      if start ≤ offset ∧ offset < start + Text.byteLength (Text.ofLines lines) then 1 else 0 := by
  induction lines generalizing start with
  | nil =>
    have hnone : ¬ (start ≤ offset ∧ offset < start + Text.byteLength (Text.ofLines [])) := by
      have hlength : Text.byteLength (Text.ofLines []) = 0 := rfl
      omega
    rw [if_neg hnone]
    rfl
  | cons line lines ih =>
    have hline := (PlacedLine.mk start line).holds_add_endingHolds offset
    have hrest := ih (PlacedLine.mk start line).stop
    have hstop : start + Text.byteLength (Text.ofLines (line :: lines)) =
        (PlacedLine.mk start line).stop + Text.byteLength (Text.ofLines lines) := by
      rw [PlacedLine.stop, Nat.add_assoc, ← Text.byteLength_append]
      rfl
    have hbegin : start ≤ (PlacedLine.mk start line).stop := Nat.le_add_right _ _
    rw [hstop, ← ite_between_add hbegin (Nat.le_add_right _ _), ← hline, ← hrest, placeFrom,
      List.countP_cons, List.countP_cons]
    simp only [PlacedLine.stop]
    omega

/-- Only the last of several lines can be unterminated. -/
lemma Tiles.ended {breaks : Breaks Char} (h : Tiles breaks lines) :
    ∀ line ∈ lines.dropLast, line.ending ≠ .unterminated := by
  intro line hline hending
  obtain ⟨above, below, hlines⟩ := List.append_of_mem hline
  have hne : lines ≠ [] := by
    rintro rfl
    cases hline
  rw [← List.dropLast_concat_getLast hne, hlines, List.append_assoc, List.cons_append] at h
  obtain ⟨hcut, hbelow⟩ := h.below
  have hnil : join breaks (below ++ [lines.getLast hne]) = [] := (hcut.last hending).2
  obtain ⟨hlast, -⟩ := hbelow.below
  simp [join, hlast.whole_ne_nil] at hnil

end Line

/-- The lines of a text are its parts, one behind the other. Each is a body without a line feed and
a terminator, which takes a carriage return in front of the line feed; only the last line can be
without one, and then its body is not empty. Every byte of the text lies in exactly one body or in
exactly one terminator. -/
theorem splitLines_tiles (t : Text) :
    let placed := Line.placeFrom 0 t.splitLines
    Text.ofLines (placed.map PlacedLine.line) = t ∧
      placed.map PlacedLine.start ++ [Text.byteLength t] = 0 :: placed.map PlacedLine.stop ∧
      (∀ line ∈ placed,
        Text.slice? line.start line.stop t =
            some (line.line.body ++ line.line.ending.units Breaks.text) ∧
          '\n' ∉ line.line.body ∧
          (line.line.ending = .lf → line.line.body.getLast? ≠ some '\r') ∧
          (line.line.ending = .unterminated → line.line.body ≠ [])) ∧
      (∀ line ∈ placed.dropLast, line.line.ending ≠ .unterminated) ∧
      ∀ offset, placed.countP (·.holds offset) + placed.countP (·.endingHolds offset) =
        if offset < Text.byteLength t then 1 else 0 := by
  intro placed
  have hjoin : Text.ofLines t.splitLines = t := Line.join_split Breaks.text t
  have hlines : placed.map PlacedLine.line = t.splitLines := Line.map_line_placeFrom 0 _
  have htiles : Line.Tiles Breaks.text t.splitLines := Line.tiles_split Breaks.text t
  refine ⟨by rw [hlines, hjoin], ?_, fun line hline => ?_, fun line hline => ?_, fun offset => ?_⟩
  · have hstarts := Line.starts_placeFrom 0 t.splitLines
    rwa [hjoin, Nat.zero_add] at hstarts
  · obtain ⟨above, below, hsplit, hstart⟩ := Line.exists_of_mem_placeFrom hline
    obtain ⟨ht, hcut, -, -⟩ := Line.cut_of_split_eq (by decide) hsplit
    refine ⟨?_, hcut.lf_notMem, hcut.bare, fun hending => (hcut.last hending).1⟩
    have hslice := Text.slice?_append (Text.ofLines above) (line.line.whole Breaks.text)
      (Text.ofLines below)
    rw [Nat.zero_add] at hstart
    rw [← hstart, Line.whole, List.append_assoc] at hslice
    rw [PlacedLine.stop, ht]
    exact hslice
  · refine htiles.ended line.line ?_
    rw [← hlines, ← List.map_dropLast]
    exact List.mem_map_of_mem hline
  · have hcount := Line.countP_placeFrom 0 offset t.splitLines
    rw [hjoin] at hcount
    simpa using hcount

/-- A carriage return in front of a terminator that has its own, an empty line and an unterminated
one. -/
theorem splitLines_tiles_returns :
    let t : Text := "é\r\r\n\nb"
    let first : PlacedLine := ⟨0, ⟨"é\r", .crlf⟩⟩
    let last : PlacedLine := ⟨6, ⟨"b", .unterminated⟩⟩
    let placed := Line.placeFrom 0 t.splitLines
    first ∈ placed ∧ first.line.ending ≠ .unterminated ∧
      Text.slice? 0 5 t = some ("é\r\r\n" : Text) ∧ last ∈ placed ∧ last.line.body ≠ [] := by
  intro t first last placed
  have hfirst : first ∈ placed := by decide
  have hlast : last ∈ placed := by decide
  have hended : first ∈ placed.dropLast := by decide
  obtain ⟨-, -, hparts, hends, -⟩ := splitLines_tiles t
  obtain ⟨hslice, -, -, -⟩ := hparts first hfirst
  obtain ⟨-, -, -, hbody⟩ := hparts last hlast
  exact ⟨hfirst, hends first hended, hslice, hlast, hbody rfl⟩

end NodeKit
