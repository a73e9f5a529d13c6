import NodeKit.Text.Basic

/-!
# Lines and their terminators

A line feed ends a line, and a carriage return directly before it belongs to the
terminator. A carriage return anywhere else is an ordinary element of the line.
The same cut serves characters and bytes, which differ only in the two elements
that make up terminators. Joining the lines gives back what was cut.
-/
namespace NodeKit

/-- The two elements that make up line terminators. -/
structure Breaks (α : Type) where
  lf : α
  cr : α

/-- The terminators of text. -/
def Breaks.text : Breaks Char := ⟨'\n', '\r'⟩

/-- The terminators of a byte stream. -/
def Breaks.bytes : Breaks UInt8 := ⟨10, 13⟩

/-- How a line ends. Only a last line can be unterminated. -/
inductive Ending where
  | unterminated
  | lf
  | crlf
deriving DecidableEq, Repr

/-- The elements of a terminator. -/
def Ending.units {α : Type} (breaks : Breaks α) : Ending → List α
  | .unterminated => []
  | .lf => [breaks.lf]
  | .crlf => [breaks.cr, breaks.lf]

/-- A line without its terminator, and the terminator. -/
structure Line (α : Type) where
  body : List α
  ending : Ending
deriving DecidableEq, Repr

namespace Line

variable {α : Type} [DecidableEq α]

/-- The line with its terminator. -/
def whole (breaks : Breaks α) (line : Line α) : List α := line.body ++ line.ending.units breaks

/-- Puts an element that is no line feed in front of lines. A carriage return in front of
a bare line feed joins the terminator. -/
def extend (breaks : Breaks α) (c : α) : List (Line α) → List (Line α)
  | [] => [⟨[c], .unterminated⟩]
  | line :: lines =>
    if c = breaks.cr ∧ line = ⟨[], .lf⟩ then ⟨[], .crlf⟩ :: lines
    else ⟨c :: line.body, line.ending⟩ :: lines

/-- Cuts into lines. Nothing after the last terminator is no line. -/
def split (breaks : Breaks α) : List α → List (Line α)
  | [] => []
  | c :: rest =>
    if c = breaks.lf then ⟨[], .lf⟩ :: split breaks rest
    else extend breaks c (split breaks rest)

/-- The lines one after the other, terminators included. -/
def join (breaks : Breaks α) (lines : List (Line α)) : List α :=
  lines.flatMap (whole breaks)

omit [DecidableEq α] in
@[simp] theorem join_nil (breaks : Breaks α) : join breaks [] = [] := rfl

omit [DecidableEq α] in
@[simp] theorem join_cons (breaks : Breaks α) (line : Line α) (lines : List (Line α)) :
    join breaks (line :: lines) = whole breaks line ++ join breaks lines := rfl

@[simp] theorem join_extend (breaks : Breaks α) (c : α) (lines : List (Line α)) :
    join breaks (extend breaks c lines) = c :: join breaks lines := by
  cases lines with
  | nil => simp [extend, whole, Ending.units]
  | cons line lines =>
    by_cases h : c = breaks.cr ∧ line = ⟨[], .lf⟩
    · obtain ⟨rfl, rfl⟩ := h
      simp [extend, whole, Ending.units]
    · simp [extend, h, whole]

@[simp] theorem join_split (breaks : Breaks α) (s : List α) : join breaks (split breaks s) = s := by
  induction s with
  | nil => rfl
  | cons c s ih =>
    unfold split
    split
    · next h => simp [h, ih, whole, Ending.units]
    · simp [ih]

theorem lf_notMem_body {breaks : Breaks α} {s : List α}
    {line : Line α} (h : line ∈ split breaks s) : breaks.lf ∉ line.body := by
  induction s generalizing line with
  | nil => cases h
  | cons c s ih =>
    by_cases hc : c = breaks.lf
    · simp only [split, hc, if_true, List.mem_cons] at h
      rcases h with rfl | h
      · simp
      · exact ih h
    · simp only [split, hc, if_false] at h
      cases hs : split breaks s with
      | nil =>
        rw [hs] at h
        simp only [extend, List.mem_singleton] at h
        simp [h, Ne.symm hc]
      | cons first rest =>
        rw [hs] at h ih
        by_cases hcr : c = breaks.cr ∧ first = ⟨[], .lf⟩
        · simp only [extend, hcr, and_self, if_true, List.mem_cons] at h
          rcases h with rfl | h
          · simp
          · exact ih (List.mem_cons_of_mem _ h)
        · simp only [extend, hcr, if_false, List.mem_cons] at h
          rcases h with rfl | h
          · simpa [Ne.symm hc] using ih (List.mem_cons_self ..)
          · exact ih (List.mem_cons_of_mem _ h)

end Line

/-- The lines of a text. -/
def Text.splitLines (t : Text) : List (Line Char) := Line.split Breaks.text t

/-- The text made of the given lines. -/
def Text.ofLines (lines : List (Line Char)) : Text := Line.join Breaks.text lines

/-- A line together with the byte offset of its first character in the text it was cut from. -/
structure PlacedLine where
  start : Nat
  line : Line Char
deriving DecidableEq, Repr

/-- Whether the byte at `offset` of the text lies in the line's body. -/
def PlacedLine.holds (placed : PlacedLine) (offset : Nat) : Bool :=
  placed.start ≤ offset && offset < placed.start + Text.byteLength placed.line.body

/-- The lines with the offsets they have when the first one begins at `start`. -/
def Line.placeFrom (start : Nat) : List (Line Char) → List PlacedLine
  | [] => []
  | line :: lines =>
    ⟨start, line⟩ :: placeFrom (start + Text.byteLength (line.whole Breaks.text)) lines

@[simp] theorem Line.map_line_placeFrom (start : Nat) (lines : List (Line Char)) :
    (Line.placeFrom start lines).map PlacedLine.line = lines := by
  induction lines generalizing start with
  | nil => rfl
  | cons line lines ih => simp [placeFrom, ih]

/-- A list around one of its elements. -/
structure Around (α : Type) where
  above : List α
  focus : α
  below : List α

/-- The list around its first element that passes the test. -/
def firstAround? {α : Type} (test : α → Bool) : List α → Option (Around α)
  | [] => none
  | a :: rest =>
    if test a then some ⟨[], a, rest⟩
    else (firstAround? test rest).map fun found => ⟨a :: found.above, found.focus, found.below⟩

theorem firstAround?_eq_some {α : Type} {test : α → Bool} {items : List α} {found : Around α}
    (h : firstAround? test items = some found) :
    items = found.above ++ found.focus :: found.below ∧ test found.focus ∧
      ∀ a ∈ found.above, ¬ test a := by
  induction items generalizing found with
  | nil => cases h
  | cons a rest ih =>
    unfold firstAround? at h
    split at h
    · next ha => cases h; simp [ha]
    · next ha =>
      obtain ⟨inner, hinner, rfl⟩ := Option.map_eq_some_iff.1 h
      obtain ⟨hrest, hfocus, habove⟩ := ih hinner
      refine ⟨by simp [hrest], hfocus, ?_⟩
      simpa [ha] using habove

end NodeKit
