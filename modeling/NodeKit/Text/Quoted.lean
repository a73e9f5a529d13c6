import NodeKit.Text.Printable

/-!
# Quoted text

The one-line form in which log messages show a text: double quotes around it,
short escapes for the common controls, `\u{…}` for every other character that
does not print.
-/
namespace NodeKit.Text

/-- The hexadecimal digits of `n`, in lower case and without leading zeros. -/
def hexDigits (n : Nat) : Text := Nat.toDigits 16 n

/-- One character inside double quotes. The apostrophe needs no escape there. -/
def escapeChar (c : Char) : Text :=
  if c = '"' then "\\\""
  else if c = '\\' then "\\\\"
  else if c = '\n' then "\\n"
  else if c = '\r' then "\\r"
  else if c = '\t' then "\\t"
  else if c.toNat = 0 then "\\0"
  else if isPrintable c then [c]
  else "\\u\x7b" ++ hexDigits c.toNat ++ "\x7d"

/-- The text between double quotes, each character escaped as it needs. -/
def quote (t : Text) : Text := ['"'] ++ t.flatMap escapeChar ++ ['"']

@[simp] theorem quote_nil : quote [] = ['"', '"'] := rfl

/-- Quoted items between square brackets, separated by a comma and a space. -/
def quoteList (items : List Text) : Text :=
  ['['] ++ joinWith ", " (items.map quote) ++ [']']

end NodeKit.Text
