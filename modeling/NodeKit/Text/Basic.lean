/-!
# Text

All text is handled as a list of characters, so that every function on it is a
recursion on the list. Positions that leave a function are byte offsets into the
UTF-8 form; `splitAtByte?` turns such an offset back into a cut and refuses one
that falls inside a character.
-/
namespace NodeKit

/-- Text is a list of Unicode scalar values. -/
abbrev Text := List Char

instance : Coe String Text := ⟨String.toList⟩

namespace Text

/-- Number of bytes in the UTF-8 form. -/
def byteLength : Text → Nat
  | [] => 0
  | c :: t => c.utf8Size + byteLength t

@[simp] theorem byteLength_nil : byteLength [] = 0 := rfl

@[simp] theorem byteLength_cons (c : Char) (t : Text) :
    byteLength (c :: t) = c.utf8Size + byteLength t := rfl

@[simp] theorem byteLength_append (s t : Text) :
    byteLength (s ++ t) = byteLength s + byteLength t := by
  induction s with
  | nil => simp
  | cons c s ih => simp [ih, Nat.add_assoc]

/-- The bytes of the UTF-8 form, one character after the other. -/
def bytes (t : Text) : List UInt8 := t.flatMap String.utf8EncodeChar

@[simp] theorem bytes_nil : bytes [] = [] := rfl

@[simp] theorem bytes_append (s t : Text) : bytes (s ++ t) = bytes s ++ bytes t := by simp [bytes]

@[simp] theorem length_bytes (t : Text) : (bytes t).length = byteLength t := by
  induction t with
  | nil => rfl
  | cons c t ih =>
    have head : bytes (c :: t) = String.utf8EncodeChar c ++ bytes t := rfl
    simp [head, ih]

/-- The UTF-8 form. -/
def encode (t : Text) : ByteArray := (String.ofList t).toUTF8

/-- The text with the given UTF-8 form; none when the bytes are not UTF-8. -/
def decode? (bytes : ByteArray) : Option Text := (String.fromUTF8? bytes).map String.toList

@[simp] theorem toList_data_encode (t : Text) : (encode t).data.toList = bytes t := by
  simp [encode, bytes, String.toUTF8, List.utf8Encode]

@[simp] theorem decode?_encode (t : Text) : decode? (encode t) = some t := by
  have valid : (String.ofList t).toByteArray.IsValidUTF8 := (String.ofList t).isValidUTF8
  have back : String.fromUTF8? (String.ofList t).toByteArray = some (String.ofList t) :=
    dif_pos valid
  exact (congrArg (Option.map String.toList) back).trans (by simp)

theorem encode_of_decode? {bytes : ByteArray} {t : Text} (h : decode? bytes = some t) :
    encode t = bytes := by
  obtain ⟨s, hs, rfl⟩ := Option.map_eq_some_iff.1 h
  unfold String.fromUTF8? at hs
  split at hs
  · cases hs; simp [encode, String.fromUTF8, String.toUTF8]
  · cases hs

theorem decode?_bytes (t : Text) : decode? (bytes t).toByteArray = some t := by
  have hencode : (bytes t).toByteArray = encode t := by
    apply ByteArray.ext
    apply Array.toList_inj.1
    simp
  rw [hencode, decode?_encode]

theorem bytes_of_decode? {line : List UInt8} {t : Text} (h : decode? line.toByteArray = some t) :
    bytes t = line := by
  rw [← toList_data_encode, encode_of_decode? h]
  simp

/-- What follows `lead` in `t`; none when `t` does not start with `lead`. -/
def after? : (lead t : Text) → Option Text
  | [], t => some t
  | _ :: _, [] => none
  | a :: lead, c :: t => if a = c then after? lead t else none

theorem after?_eq_some_iff {lead t rest : Text} :
    after? lead t = some rest ↔ t = lead ++ rest := by
  induction lead generalizing t with
  | nil => simp [after?]
  | cons a lead ih =>
    cases t with
    | nil => simp [after?]
    | cons c t =>
      by_cases h : a = c
      · simp [after?, h, ih]
      · simp [after?, h, Ne.symm h]

/-- Cuts `t` after its first `n` bytes. There is no cut inside a character or past the end. -/
def splitAtByte? : Nat → Text → Option (Text × Text)
  | 0, t => some ([], t)
  | _ + 1, [] => none
  | n + 1, c :: t =>
    if c.utf8Size ≤ n + 1 then
      (splitAtByte? (n + 1 - c.utf8Size) t).map fun (left, right) => (c :: left, right)
    else none

theorem splitAtByte?_byteLength (s t : Text) :
    splitAtByte? (byteLength s) (s ++ t) = some (s, t) := by
  induction s with
  | nil => cases t <;> rfl
  | cons c s ih =>
    obtain ⟨n, hn⟩ : ∃ n, byteLength (c :: s) = n + 1 :=
      ⟨byteLength (c :: s) - 1, by have := c.utf8Size_pos; simp; omega⟩
    have hle : c.utf8Size ≤ n + 1 := by simp at hn; omega
    have hrest : n + 1 - c.utf8Size = byteLength s := by simp at hn; omega
    simp [hn, splitAtByte?, hle, hrest, ih]

/-- The decimal digits of `n`. -/
def ofNat (n : Nat) : Text := Nat.toDigits 10 n

/-- The decimal digits of `i`, after a minus sign when it is negative. -/
def ofInt : Int → Text
  | .ofNat n => ofNat n
  | .negSucc n => '-' :: ofNat (n + 1)

/-- The parts in order, with `separator` between neighbours. -/
def joinWith (separator : Text) (parts : List Text) : Text := List.intercalate separator parts

theorem joinWith_cons_of_ne_nil (separator first : Text) {rest : List Text} (h : rest ≠ []) :
    joinWith separator (first :: rest) = first ++ separator ++ joinWith separator rest := by
  obtain ⟨next, rest, rfl⟩ := List.exists_cons_of_ne_nil h
  simp [joinWith, List.intercalate, List.intersperse]

/-- One part a line, with no line feed after the last. -/
def joinLines (parts : List Text) : Text := joinWith ['\n'] parts

end Text

end NodeKit
