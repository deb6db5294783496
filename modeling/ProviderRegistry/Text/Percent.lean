/-
# `Text.Percent` — percent encoding

Every byte of a text's UTF-8 form is written as `%` and two hexadecimal digits,
except ASCII letters and digits and the four marks `-`, `_`, `.`, `~`, which
stand for themselves.  Decoding reads the three-character forms back.
-/

namespace ProviderRegistry

namespace Text

namespace Percent

/-- The characters that stand for themselves. -/
def isUnreserved (c : Char) : Bool :=
  c.isAlphanum || c == '-' || c == '_' || c == '.' || c == '~'

/-- The upper-case hexadecimal digit of a number below sixteen. -/
def hexDigit (n : Nat) : Char :=
  if n < 10 then Char.ofNat (48 + n) else Char.ofNat (55 + n)

/-- The value of a hexadecimal digit of either case. -/
def hexValue? (c : Char) : Option Nat :=
  let n := c.toNat
  if 48 ≤ n ∧ n ≤ 57 then some (n - 48)
  else if 65 ≤ n ∧ n ≤ 70 then some (n - 55)
  else if 97 ≤ n ∧ n ≤ 102 then some (n - 87)
  else none

/-- One byte as `%` and two digits. -/
def encodeByte (b : UInt8) : List Char :=
  ['%', hexDigit (b.toNat / 16), hexDigit (b.toNat % 16)]

/-- One character: itself when unreserved, else its UTF-8 bytes one by one. -/
def encodeChar (c : Char) : List Char :=
  if isUnreserved c then [c] else (String.utf8EncodeChar c).flatMap encodeByte

/-- The encoded form of a text. -/
def encode (s : String) : String :=
  String.ofList (s.toList.flatMap encodeChar)

/-- The bytes that an encoded text stands for: three characters `%XY` are one byte, and any
other character is its own UTF-8 bytes. -/
def decodeBytes : List Char → List UInt8
  | '%' :: a :: b :: rest =>
    match hexValue? a, hexValue? b with
    | some x, some y => UInt8.ofNat (16 * x + y) :: decodeBytes rest
    | _, _ => String.utf8EncodeChar '%' ++ decodeBytes (a :: b :: rest)
  | c :: rest => String.utf8EncodeChar c ++ decodeBytes rest
  | [] => []

/-- The text that an encoded text stands for, when its bytes are UTF-8. -/
def decode? (s : String) : Option String :=
  String.fromUTF8? ⟨(decodeBytes s.toList).toArray⟩

end Percent

end Text

end ProviderRegistry
