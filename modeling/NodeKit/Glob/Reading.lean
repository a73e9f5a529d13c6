import NodeKit.Glob.Basic

/-!
# Reading a glob

The pattern is read from left to right. Open braces are kept as a stack of the
branches read so far. `**` is a token of its own only between separators, and what
it becomes depends on the tokens in front of it in the same branch.
-/
namespace NodeKit

/-! ## Sets -/

/-- A range of characters inside brackets. -/
structure CharRange where
  first : Char
  last : Char
deriving DecidableEq, Repr

/-- The range of one byte. -/
def ByteRange.single (b : UInt8) : ByteRange := ⟨b, b⟩

/-- The byte ranges that a range of characters stands for: the UTF-8 form of both ends, with
a range from the last byte of the one to the first byte of the other. -/
def CharRange.bytes (range : CharRange) : List ByteRange :=
  let low := String.utf8EncodeChar range.first
  let high := String.utf8EncodeChar range.last
  if range.first = range.last then low.map ByteRange.single
  else
    low.dropLast.map ByteRange.single ++ [⟨low.getLastD 0, high.headD 0⟩] ++
      high.tail.map ByteRange.single

/-- The ranges read so far, latest first, and whether a dash waits for its right end. -/
structure SetReader where
  ranges : List CharRange
  dash : Bool

/-- Takes one more character of a set. A dash after a finished range reaches from the start of
that range. -/
def SetReader.take (reader : SetReader) (c : Char) : Except GlobFault SetReader :=
  match reader.dash, reader.ranges with
  | true, range :: ranges =>
    if c < range.first then .error (.invalidRange range.first c)
    else .ok ⟨⟨range.first, c⟩ :: ranges, false⟩
  | _, ranges => .ok (if c = '-' then ⟨ranges, true⟩ else ⟨⟨c, c⟩ :: ranges, false⟩)

/-- The ranges of a set. Its first character stands for itself, and so does a dash at the end. -/
def setRanges (first : Char) (rest : Text) : Except GlobFault (List CharRange) := do
  let reader ← rest.foldlM SetReader.take ⟨[⟨first, first⟩], false⟩
  return (if reader.dash then ⟨'-', '-'⟩ :: reader.ranges else reader.ranges).reverse

/-- The text of a set behind the opening bracket: whether it is negated, and the rest. -/
def negation : Text → Bool × Text
  | '!' :: t | '^' :: t => (true, t)
  | t => (false, t)

/-- What follows the first closing bracket. -/
def behindBracket (t : Text) : Text := (t.dropWhile (· ≠ ']')).tail

theorem length_behindBracket_le (t : Text) : (behindBracket t).length ≤ t.length := by
  have := congrArg List.length (List.takeWhile_append_dropWhile (p := (· ≠ ']')) (l := t))
  simp only [List.length_append] at this
  simp only [behindBracket, List.length_tail]
  omega

theorem length_negation_le (t : Text) : (negation t).2.length ≤ t.length := by
  unfold negation
  split <;> simp

/-- Reads a set from behind its opening bracket. A closing bracket in the first place is an
element. A range that goes down is found before a missing bracket. -/
def readSet (t : Text) : Except GlobFault { read : GlobToken × Text // read.2.length ≤ t.length } :=
  match h : (negation t).2 with
  | [] => .error .unclosedSet
  | first :: rest => do
    let ranges ← setRanges first (rest.takeWhile (· ≠ ']'))
    if ']' ∈ rest then
      have bound : (behindBracket rest).length ≤ t.length := by
        have := length_behindBracket_le rest
        have := length_negation_le t
        simp only [h, List.length_cons] at this
        omega
      return ⟨(.byteSet (negation t).1 (ranges.flatMap CharRange.bytes), behindBracket rest), bound⟩
    else .error .unclosedSet

/-! ## Branches -/

/-- The branches of one pair of braces, latest first: the finished ones, and the tokens of the
one that is being read. -/
structure BranchReader where
  finished : List (List GlobToken)
  tokens : List GlobToken

/-- The branches that are being read, those of the innermost braces first. The outermost entry
is the glob itself. -/
structure GlobReader where
  inner : BranchReader
  outer : List BranchReader

namespace GlobReader

/-- Nothing read yet. -/
def start : GlobReader := ⟨⟨[], []⟩, []⟩

/-- Whether a brace is open. -/
def insideBraces (reader : GlobReader) : Bool := !reader.outer.isEmpty

/-- Adds a token to the current branch. -/
def push (reader : GlobReader) (token : GlobToken) : GlobReader :=
  { reader with inner := { reader.inner with tokens := token :: reader.inner.tokens } }

/-- Opens a brace. -/
def openBraces (reader : GlobReader) : GlobReader := ⟨⟨[], []⟩, reader.inner :: reader.outer⟩

/-- Starts the next branch of the innermost braces. -/
def nextBranch (reader : GlobReader) : GlobReader :=
  { reader with inner := ⟨reader.inner.tokens.reverse :: reader.inner.finished, []⟩ }

/-- Closes the innermost braces; none when no brace is open. -/
def closeBraces? (reader : GlobReader) : Option GlobReader :=
  match reader.outer with
  | [] => none
  | frame :: outer =>
    let group := (reader.inner.tokens.reverse :: reader.inner.finished).reverse
    some (push ⟨frame, outer⟩ (.branches group))

/-- Puts a token between folders in the place of the separator in front of it. A form of `**`
that already ends in the separator is kept instead. -/
def replaceLast (reader : GlobReader) (token : GlobToken) : GlobReader :=
  match reader.inner.tokens with
  | .leadingFolders :: _ | .everythingBelow :: _ => reader
  | _ :: tokens => { reader with inner := { reader.inner with tokens := token :: tokens } }
  | [] => reader.push token

/-- Reads `**`, given the character in front of it and the one behind it. The answer says
whether the one behind it, a separator, belongs to the token. -/
def doubleStar (reader : GlobReader) (previous next : Option Char) : GlobReader × Bool :=
  let twoStars := ((reader.push .many).push .many, false)
  if reader.inner.tokens.isEmpty then
    match next with
    | none => (reader.push .leadingFolders, false)
    | some '/' => (reader.push .leadingFolders, true)
    | some _ => twoStars
  else if previous = some '/' ∨
      (reader.insideBraces ∧ (previous = some ',' ∨ previous = some '\x7b')) then
    match next with
    | none => (reader.replaceLast .everythingBelow, false)
    | some '/' => (reader.replaceLast .innerFolders, true)
    | some c =>
      if reader.insideBraces ∧ (c = ',' ∨ c = '\x7d') then
        (reader.replaceLast .everythingBelow, false)
      else twoStars
  else twoStars

end GlobReader

/-- Reads the rest of a pattern, given the character in front of it. -/
def readGlob (reader : GlobReader) (previous : Option Char) (t : Text) : Except GlobFault Glob :=
  match t with
  | [] => if reader.insideBraces then .error .unclosedBranches else .ok reader.inner.tokens.reverse
  | '?' :: rest => readGlob (reader.push .one) (some '?') rest
  | '*' :: '*' :: rest =>
    match reader.doubleStar previous rest.head? with
    | (after, true) => readGlob after (some '/') rest.tail
    | (after, false) => readGlob after (some '*') rest
  | '*' :: rest => readGlob (reader.push .many) (some '*') rest
  | '[' :: rest =>
    match readSet rest with
    | .error fault => .error fault
    | .ok ⟨(token, behind), _⟩ => readGlob (reader.push token) (some ']') behind
  | '\x7b' :: rest => readGlob reader.openBraces (some '\x7b') rest
  | '\x7d' :: rest =>
    match reader.closeBraces? with
    | none => .error .unopenedBranches
    | some after => readGlob after (some '\x7d') rest
  | ',' :: rest =>
    readGlob (if reader.insideBraces then reader.nextBranch else reader.push (.char ',')) (some ',')
      rest
  | '\\' :: [] => .error .danglingEscape
  | '\\' :: c :: rest => readGlob (reader.push (.char c)) (some c) rest
  | c :: rest => readGlob (reader.push (.char c)) (some c) rest
termination_by t.length
decreasing_by all_goals simp_all; try omega

/-- Reads a pattern. -/
def Glob.ofPattern (pattern : Text) : Except GlobFault Glob :=
  readGlob GlobReader.start none pattern

end NodeKit
