import NodeKit.Glob.Basic

/-!
# Matching a glob

A token is run on a byte string and gives every rest that it can leave. The rests
of a sequence are those of its tokens, one after the other. All of them end the
same string, so that there are never more than it has bytes, and one.
-/
namespace NodeKit

/-- Every rest of the string, the string itself and the empty one included. -/
def suffixes : List UInt8 → List (List UInt8)
  | [] => [[]]
  | b :: s => (b :: s) :: suffixes s

theorem mem_suffixes {r s : List UInt8} : r ∈ suffixes s ↔ r <:+ s := by
  induction s with
  | nil => simp [suffixes]
  | cons b s ih => simp [suffixes, ih, List.suffix_cons_iff]

/-- The byte between the names of a path. -/
def separator : UInt8 := 47

/-- What follows each separator. -/
def behindSeparators : List UInt8 → List (List UInt8)
  | [] => []
  | b :: s => if b = separator then s :: behindSeparators s else behindSeparators s

/-- What follows the given bytes, when the string starts with them. -/
def restAfter (lead s : List UInt8) : List (List UInt8) :=
  if lead.isPrefixOf s then [s.drop lead.length] else []

theorem mem_restAfter {lead r s : List UInt8} : r ∈ restAfter lead s ↔ s = lead ++ r := by
  unfold restAfter
  split
  · next h =>
    obtain ⟨behind, rfl⟩ := List.isPrefixOf_iff_prefix.1 h
    simp [eq_comm]
  · next h =>
    simp only [List.not_mem_nil, false_iff]
    rintro rfl
    exact h (List.isPrefixOf_iff_prefix.2 (List.prefix_append ..))

def ByteRange.contains (range : ByteRange) (b : UInt8) : Bool := range.first ≤ b && b ≤ range.last

mutual

/-- Braces without any token in them. They match nothing but the empty string, and a branch of
them counts as no branch at all. -/
def GlobToken.isVoid : GlobToken → Bool
  | .branches group => allVoid group
  | _ => false

/-- Whether every token is void. -/
def tokensVoid : List GlobToken → Bool
  | [] => true
  | token :: tokens => token.isVoid && tokensVoid tokens

/-- Whether every branch is void. -/
def allVoid : List (List GlobToken) → Bool
  | [] => true
  | branch :: group => tokensVoid branch && allVoid group

end

mutual

/-- The rests that a token can leave of the string. -/
def GlobToken.rests : GlobToken → List UInt8 → List (List UInt8)
  | .char c, s => restAfter (String.utf8EncodeChar c) s
  | .one, s =>
    match s with
    | [] => []
    | _ :: r => [r]
  | .many, s => suffixes s
  | .leadingFolders, s => s :: behindSeparators s
  | .everythingBelow, s => (restAfter [separator] s).flatMap suffixes
  | .innerFolders, s => (restAfter [separator] s).flatMap fun r => r :: behindSeparators r
  | .byteSet negated ranges, s =>
    match s with
    | [] => []
    | b :: r => if (ranges.any (·.contains b)) = negated then [] else [r]
  | .branches group, s => if allVoid group then [s] else branchRests group s

/-- The rests that a sequence of tokens can leave of any of the strings. -/
def tokensRests : List GlobToken → List (List UInt8) → List (List UInt8)
  | [], rests => rests
  | token :: tokens, rests => tokensRests tokens (rests.flatMap token.rests).eraseDups

/-- The rests that any branch with tokens can leave of the string. -/
def branchRests : List (List GlobToken) → List UInt8 → List (List UInt8)
  | [], _ => []
  | branch :: group, s =>
    (if tokensVoid branch then [] else tokensRests branch [s]) ++ branchRests group s

end

/-- Whether the glob stands for the whole string. The leading `**` alone stands for every
string. -/
def Glob.matchesBytes (glob : Glob) (s : List UInt8) : Bool :=
  match glob with
  | [.leadingFolders] => true
  | _ => (tokensRests glob [s]).contains []

/-- Whether the glob stands for the path with the given names. -/
def Glob.matchesPath (glob : Glob) (names : List Text) : Bool :=
  glob.matchesBytes (Text.bytes (Text.joinWith ['/'] names))

end NodeKit
