import NodeKit.Text.Basic

/-!
# Globs

A glob is a sequence of tokens and stands for a set of byte strings, the paths
below a folder with `/` between the names. A separator is a byte like any other:
`?` and `*` match it too. Only the three forms of `**` give it a meaning.
-/
namespace NodeKit

/-- A range of bytes, both ends included. -/
structure ByteRange where
  first : UInt8
  last : UInt8
deriving DecidableEq, Repr

/-- One token of a glob. -/
inductive GlobToken where
  /-- The bytes of one character. -/
  | char (c : Char)
  /-- One byte. -/
  | one
  /-- Any bytes. -/
  | many
  /-- A leading `**/`: nothing, a separator, or any bytes up to a separator. -/
  | leadingFolders
  /-- A trailing `/**`: a separator and any bytes. -/
  | everythingBelow
  /-- A `/**/` in the middle: one separator, or any bytes between two. -/
  | innerFolders
  /-- One byte inside, or when negated outside, all of the ranges. -/
  | byteSet (negated : Bool) (ranges : List ByteRange)
  /-- One of the branches. -/
  | branches (branches : List (List GlobToken))

/-- The tokens of a glob, from left to right. -/
abbrev Glob := List GlobToken

/-- Why a glob cannot be read. -/
inductive GlobFault where
  | unclosedSet
  | invalidRange (first last : Char)
  | unopenedBranches
  | unclosedBranches
  | danglingEscape
deriving DecidableEq, Repr

def GlobFault.message : GlobFault → Text
  | .unclosedSet => "unclosed character class; missing ']'"
  | .invalidRange first last => "invalid range; '" ++ [first] ++ "' > '" ++ [last] ++ "'"
  | .unopenedBranches =>
    "unopened alternate group; missing '\x7b' (maybe escape '\x7d' with '[\x7d]'?)"
  | .unclosedBranches =>
    "unclosed alternate group; missing '\x7d' (maybe escape '\x7b' with '[\x7b]'?)"
  | .danglingEscape => "dangling '\\'"

end NodeKit
