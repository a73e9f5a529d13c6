import NodeKit.Error
import NodeKit.Log
import NodeKit.Text.Blank
import NodeKit.Text.Lines
import NodeKit.Text.Pattern

/-!
# Hoisting a title and a category

The first call `Initialize(title, category);` of a text is taken out, and two
members with its arguments are put directly below the first class header. Only
the text counts: a call inside a comment is a call.

The call is found in the whole text. Its byte offsets lead to the line that holds
it and to the code beside it on that line. The header is looked for in the lines
that are left.
-/
namespace NodeKit.Refactoring

/-- The call, with one gap for each argument. -/
def callPattern : Pattern := [.fixed "Initialize(", .gap, .fixed ", ", .gap, .fixed ");"]

/-- A class header up to its brace. -/
def headerPattern : Pattern := [.fixed "public class ", .gap, .fixed " \x7b"]

/-- How much deeper the new members stand than the class header. -/
def memberIndent : Text := "    "

/-- A call found in a text: its arguments, and the byte offsets where it starts and ends. -/
structure Call where
  title : Text
  category : Text
  start : Nat
  stop : Nat
deriving DecidableEq, Repr

/-- The first call in the text. -/
def findCall? (t : Text) : Option Call :=
  match callPattern.find? t with
  | some found =>
    match found.gaps with
    | [title, category] => some ⟨title, category, found.start, found.stop callPattern⟩
    | _ => none
  | none => none

/-- What is left of a line when the code between `before` and `after` goes: nothing at all
if both are blank. The indentation stays, and blanks next to the gap go on one side only. -/
def cutSpan (before after : Text) : Option Text :=
  if Text.allBlank before && Text.allBlank after then none
  else if Text.allBlank before then some (before ++ Text.trimStart after)
  else some (Text.trimEnd before ++ after)

/-- The code before and behind the bytes from `start` to `stop`. -/
def aroundBytes? (start stop : Nat) (body : Text) : Option (Text × Text) :=
  match Text.splitAtByte? start body, Text.splitAtByte? stop body with
  | some (before, _), some (_, after) => some (before, after)
  | _, _ => none

/-- The line that holds the byte at the given offset, and the lines around it. -/
def lineAt? (offset : Nat) (t : Text) : Option (Around PlacedLine) :=
  firstAround? (·.holds offset) (Line.placeFrom 0 (Text.splitLines t))

/-- The lines of the text without the call. None if the call does not lie in one line. -/
def removeCall? (call : Call) (t : Text) : Option (List (Line Char)) :=
  (lineAt? call.start t).bind fun found =>
    let placed := found.focus
    (aroundBytes? (call.start - placed.start) (call.stop - placed.start) placed.line.body).map
      fun (before, after) =>
        let left := (cutSpan before after).map fun body => Line.mk body placed.line.ending
        found.above.map (·.line) ++ left.toList ++ found.below.map (·.line)

/-- The member that holds the title. -/
def titleMember (title : Text) : Text := "protected override string Title => " ++ title ++ ";"

/-- The member that holds the category. -/
def categoryMember (category : Text) : Text :=
  "protected override NodeCategory Category => " ++ category ++ ";"

/-- The lines with the two members below the first class header. They end as the header
does. A header on an unterminated last line gets a line feed, and the second member is then
the unterminated one. None without a header. -/
def insertMembers? (title category : Text) (lines : List (Line Char)) :
    Option (List (Line Char)) :=
  (firstAround? (fun line => headerPattern.occursIn line.body) lines).map fun found =>
    let header := found.focus
    let indent := Text.indentation header.body ++ memberIndent
    let ending := if header.ending = .unterminated then .lf else header.ending
    found.above ++
      [⟨header.body, ending⟩, ⟨indent ++ titleMember title, ending⟩,
        ⟨indent ++ categoryMember category, header.ending⟩] ++
      found.below

/-- Hoists the first call. A text without one stays as it is. -/
def hoist (t : Text) : Except Error Text :=
  match findCall? t with
  | none => .ok t
  | some call =>
    match removeCall? call t with
    | none =>
      .error (.patternNotFound callPattern.source "locating the Initialize line to remove")
    | some lines =>
      match insertMembers? call.title call.category lines with
      | none => .error (.patternNotFound headerPattern.source "locating the class header")
      | some hoisted => .ok (Text.ofLines hoisted)

/-- The log of hoisting. -/
def hoistRecords (t : Text) : List Record :=
  (findCall? t).toList.map fun call =>
    ⟨.debug, .hoist, "Hoisting title " ++ call.title ++ " and category " ++ call.category⟩

end NodeKit.Refactoring
