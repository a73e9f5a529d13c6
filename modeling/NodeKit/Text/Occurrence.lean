import NodeKit.Text.Basic

/-!
# Occurrences of a fixed text

A text is cut at the occurrences of another one, found from left to right and
never overlapping. Counting and replacing are read off the pieces: there is one
occurrence between any two neighbours.
-/
namespace NodeKit.Text

/-- Puts a character in front of the first piece. -/
def pushFirst (c : Char) : List Text → List Text
  | [] => [[c]]
  | piece :: pieces => (c :: piece) :: pieces

/-- What lies between the occurrences of `old`, which must not be empty. There is always at
least one piece. -/
def pieces (old : Text) : Text → List Text
  | [] => [[]]
  | c :: rest =>
    if old.isPrefixOf (c :: rest) then [] :: pieces old (rest.drop (old.length - 1))
    else pushFirst c (pieces old rest)
termination_by t => t.length
decreasing_by all_goals simp only [List.length_drop, List.length_cons]; omega

theorem pieces_ne_nil (old t : Text) : pieces old t ≠ [] := by
  fun_induction pieces old t with
  | case1 => simp
  | case2 => simp
  | case3 c rest h ih => cases h : pieces old rest <;> simp [pushFirst]

theorem joinWith_pushFirst (separator : Text) (c : Char) {pieces : List Text} (h : pieces ≠ []) :
    joinWith separator (pushFirst c pieces) = c :: joinWith separator pieces := by
  obtain ⟨piece, rest, rfl⟩ := List.exists_cons_of_ne_nil h
  cases rest <;> simp [joinWith, pushFirst, List.intercalate, List.intersperse]

/-- Number of occurrences that do not overlap, counted from the left. -/
def countOccurrences (old t : Text) : Nat := (pieces old t).length - 1

/-- Puts `new` in the place of every occurrence of `old`. -/
def replaceAll (old new t : Text) : Text := joinWith new (pieces old t)

end NodeKit.Text
