import NodeKit.Text.Basic

/-!
# Blank characters

Blank is Unicode's White_Space property. Everything that trims, measures an
indentation or cuts a line into words uses this one set.
-/
namespace NodeKit.Text

/-- The White_Space property. The separators U+001C to U+001F and the zero-width
characters do not have it. -/
def isBlank (c : Char) : Bool :=
  let n := c.toNat
  (0x09 ≤ n && n ≤ 0x0D) || n = 0x20 || n = 0x85 || n = 0xA0 || n = 0x1680 ||
    (0x2000 ≤ n && n ≤ 0x200A) || n = 0x2028 || n = 0x2029 || n = 0x202F || n = 0x205F ||
    n = 0x3000

/-- Nothing but blanks. -/
def allBlank (t : Text) : Bool := t.all isBlank

/-- The leading blanks. -/
def indentation (t : Text) : Text := t.takeWhile isBlank

/-- `t` without its leading blanks. -/
def trimStart (t : Text) : Text := t.dropWhile isBlank

/-- `t` without its trailing blanks. -/
def trimEnd (t : Text) : Text := (t.reverse.dropWhile isBlank).reverse

/-- `t` without the blanks at either end. -/
def trim (t : Text) : Text := trimEnd (trimStart t)

@[simp] theorem indentation_append_trimStart (t : Text) : indentation t ++ trimStart t = t :=
  List.takeWhile_append_dropWhile

theorem length_trimStart_le (t : Text) : (trimStart t).length ≤ t.length := by
  have := congrArg List.length (indentation_append_trimStart t)
  simp only [List.length_append] at this
  omega

/-- The maximal runs of characters that are not blank, in order. -/
def words (t : Text) : List Text :=
  match _h : trimStart t with
  | [] => []
  | c :: rest => (c :: rest.takeWhile (!isBlank ·)) :: words (rest.dropWhile (!isBlank ·))
termination_by t.length
decreasing_by
  have first := length_trimStart_le t
  have whole := congrArg List.length
    (List.takeWhile_append_dropWhile (p := (!isBlank ·)) (l := rest))
  simp only [List.length_append] at whole
  simp only [_h, List.length_cons] at first
  omega

theorem ne_nil_of_mem_words {t word : Text} (h : word ∈ words t) : word ≠ [] := by
  fun_induction words t with
  | case1 => cases h
  | case2 t c rest _ ih =>
    rcases List.mem_cons.1 h with rfl | h
    · simp
    · exact ih h

theorem not_isBlank_of_mem_words {t word : Text} {c : Char} (h : word ∈ words t) (hc : c ∈ word) :
    ¬ isBlank c := by
  fun_induction words t with
  | case1 => cases h
  | case2 t first rest hstart ih =>
    rcases List.mem_cons.1 h with rfl | h
    · rcases List.mem_cons.1 hc with rfl | hc
      · have := List.head?_dropWhile_not isBlank t
        rw [show t.dropWhile isBlank = c :: rest from hstart] at this
        simpa using this
      · simpa using (List.all_eq_true.1 List.all_takeWhile) c hc
    · exact ih h

end NodeKit.Text
