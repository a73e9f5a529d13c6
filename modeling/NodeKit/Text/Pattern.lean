import NodeKit.Text.Basic

/-!
# Patterns with lazy gaps

A pattern is fixed text with gaps in between. A gap stands for any characters but
a line feed, and for as few as let the rest of the pattern match. The leftmost
place where the pattern matches is the one that counts. What is in front of a match, the
pattern with its gaps filled, and what follows make up the text (`find?_eq_some`).
-/
namespace NodeKit

/-- One piece of a pattern. -/
inductive PatternPiece where
  | fixed (t : Text)
  | gap
deriving DecidableEq, Repr

/-- The pieces of a pattern, from left to right. -/
abbrev Pattern := List PatternPiece

/-- A place where a pattern matches: what is in front, what each gap stands for, what
follows. -/
structure PatternMatch where
  before : Text
  gaps : List Text
  after : Text
deriving DecidableEq, Repr

namespace Pattern

/-- The first gap with one more character in front. -/
def widenFirst (c : Char) : List Text → List Text
  | [] => []
  | gap :: gaps => (c :: gap) :: gaps

/-- Tries a gap of no character, then one more at a time, until the rest of the pattern
matches. A line feed ends the search. -/
def fillGap (rest : Text → Option (List Text × Text)) : Text → Option (List Text × Text)
  | [] => (rest []).map fun (gaps, after) => ([] :: gaps, after)
  | c :: t =>
    match rest (c :: t) with
    | some (gaps, after) => some ([] :: gaps, after)
    | none =>
      if c = '\n' then none
      else (fillGap rest t).map fun (gaps, after) => (widenFirst c gaps, after)

/-- Matches at the start of the text: the gaps and what follows. -/
def matchHere : Pattern → Text → Option (List Text × Text)
  | [], t => some ([], t)
  | .fixed lead :: rest, t => (Text.after? lead t).bind (matchHere rest)
  | .gap :: rest, t => fillGap (matchHere rest) t

/-- The leftmost match. -/
def find? (pattern : Pattern) (t : Text) : Option PatternMatch :=
  match matchHere pattern t with
  | some (gaps, after) => some ⟨[], gaps, after⟩
  | none =>
    match t with
    | [] => none
    | c :: rest => (find? pattern rest).map fun found => { found with before := c :: found.before }

/-- Whether the pattern matches anywhere. -/
def occursIn (pattern : Pattern) (t : Text) : Bool := (find? pattern t).isSome

/-- The text that the pattern matches when its gaps are filled as given. -/
def fill : Pattern → (gaps : List Text) → Text
  | [], _ => []
  | .fixed t :: rest, gaps => t ++ fill rest gaps
  | .gap :: rest, [] => fill rest []
  | .gap :: rest, gap :: gaps => gap ++ fill rest gaps

theorem fillGap_eq_some {rest : Text → Option (List Text × Text)} {t after : Text}
    {gaps : List Text} (h : fillGap rest t = some (gaps, after)) :
    ∃ gap others left, gaps = gap :: others ∧ t = gap ++ left ∧ '\n' ∉ gap ∧
      rest left = some (others, after) := by
  fun_induction fillGap rest t generalizing gaps with
  | case1 =>
    obtain ⟨⟨others, _⟩, hrest, heq⟩ := Option.map_eq_some_iff.1 h
    cases heq
    exact ⟨[], others, [], rfl, rfl, by simp, hrest⟩
  | case2 c t others left hrest =>
    cases h
    exact ⟨[], others, c :: t, rfl, rfl, by simp, hrest⟩
  | case3 => cases h
  | case4 c t _ hc ih =>
    obtain ⟨⟨inner, behind⟩, hinner, heq⟩ := Option.map_eq_some_iff.1 h
    cases heq
    obtain ⟨gap, others, left, rfl, rfl, hgap, hrest⟩ := ih hinner
    exact ⟨c :: gap, others, left, rfl, rfl, by simp [Ne.symm hc, hgap], hrest⟩

theorem matchHere_eq_some {pattern : Pattern} {t after : Text} {gaps : List Text}
    (h : matchHere pattern t = some (gaps, after)) : t = fill pattern gaps ++ after := by
  induction pattern generalizing t gaps with
  | nil => cases h; rfl
  | cons piece rest ih =>
    cases piece with
    | fixed lead =>
      obtain ⟨left, hleft, hrest⟩ := Option.bind_eq_some_iff.1 h
      rw [Text.after?_eq_some_iff.1 hleft, ih hrest]
      simp [fill]
    | gap =>
      obtain ⟨gap, others, left, rfl, rfl, _, hrest⟩ := fillGap_eq_some h
      simp [fill, ih hrest]

/-- The match and what is around it make up the text. -/
theorem find?_eq_some {pattern : Pattern} {t : Text} {found : PatternMatch}
    (h : find? pattern t = some found) :
    t = found.before ++ (pattern.fill found.gaps ++ found.after) := by
  fun_induction find? pattern t generalizing found with
  | case1 t gaps after hhere => cases h; simpa using matchHere_eq_some hhere
  | case2 => cases h
  | case3 c rest _ ih =>
    obtain ⟨inner, hinner, rfl⟩ := Option.map_eq_some_iff.1 h
    simp [← ih hinner]

/-- A character of fixed text as regular expressions write it. -/
def escapeFixed (c : Char) : Text :=
  if c ∈ "\\.+*?()|[]\x7b\x7d^$".toList then ['\\', c] else [c]

/-- The pattern written as a regular expression. -/
def source (pattern : Pattern) : Text :=
  pattern.flatMap fun
    | .fixed t => t.flatMap escapeFixed
    | .gap => "(.*?)".toList

end Pattern

namespace PatternMatch

/-- Byte offset of the first character of the match. -/
def start (found : PatternMatch) : Nat := Text.byteLength found.before

/-- Byte offset just behind the match. -/
def stop (pattern : Pattern) (found : PatternMatch) : Nat :=
  found.start + Text.byteLength (pattern.fill found.gaps)

end PatternMatch

end NodeKit
