/-
# `Bson.Decimal128.Numeral` — decimal numbers by their texts

A text is taken apart into the characters of its coefficient and the place of
the last of them.  While it is still characters, zeros are moved between its
end and its place until both keep the limits of a decimal number; a text of
which a digit would be lost is refused.  Only then are the characters read as
digits.  A coefficient without any is zero.
-/
import ProviderRegistry.Bson.Decimal128
import ProviderRegistry.Text.Blank

namespace ProviderRegistry

namespace Decimal128

/-- The characters of a coefficient and the place of the last of them. -/
structure Numeral where
  digits : List Char
  place : Int
deriving DecidableEq

namespace Numeral

/-- Whether an exponent is in the range of 16 bits, the widest that is read. -/
def isReadable (exponent : Int) : Bool := -32768 ≤ exponent && exponent ≤ 32767

/-- Whether a character stands between a coefficient and its exponent. -/
def isMark (c : Char) : Bool := c == 'e' || c == 'E'

/-- The exponent of a text: after the mark where there is one, and else zero. -/
def exponent? (cs : List Char) : Option Int :=
  match cs.dropWhile (!isMark ·) with
  | [] => some 0
  | _ :: digits => (Decimal.readInt? digits).filter isReadable

/-- A coefficient without the zeros at its front; nothing is left of zero but one digit. -/
def trimZeros (digits : List Char) : List Char :=
  match digits.dropWhile (· == '0') with
  | [] => ['0']
  | trimmed => trimmed

/-- The numeral of a text: a coefficient, which may have a point in it, and an exponent. -/
def ofChars? (cs : List Char) : Option Numeral := do
  let exponent ← exponent? cs
  let coefficient := cs.takeWhile (!isMark ·)
  let whole := coefficient.takeWhile (· != '.')
  let fraction := (coefficient.dropWhile (· != '.')).drop 1
  let place := exponent - fraction.length
  if isReadable fraction.length && isReadable place then
    some ⟨trimZeros (whole ++ fraction), place⟩
  else none

/-- Whether the coefficient is the digit zero alone. -/
def isZero (n : Numeral) : Bool := n.digits == ['0']

/-- The same numeral with a number of zeros taken off its end. -/
def drop? (count : Nat) (n : Numeral) : Option Numeral :=
  let left := n.digits.length - count
  if count ≤ n.digits.length && (n.digits.drop left).all (· == '0') then
    some ⟨n.digits.take left, n.place + count⟩
  else none

/-- The same numeral with no more than the greatest number of digits. -/
def shorten? (n : Numeral) : Option Numeral :=
  let excess := n.digits.length - maxDigits
  (n.drop? excess).filter fun m => isReadable excess && isReadable m.place

/-- The same numeral with a place not below the least; zero takes the least. -/
def raise? (n : Numeral) : Option Numeral :=
  if leastPlace ≤ n.place then some n
  else if n.isZero then some { n with place := leastPlace }
  else n.drop? (leastPlace - n.place).toNat

/-- The same numeral with a place not above the greatest; zero takes the greatest. -/
def lower? (n : Numeral) : Option Numeral :=
  let excess := (n.place - greatestPlace).toNat
  if excess == 0 then some n
  else if n.isZero then some { n with place := greatestPlace }
  else if n.digits.length + excess ≤ maxDigits then
    some ⟨n.digits ++ List.replicate excess '0', greatestPlace⟩
  else none

/-- The number of a numeral.  One plus sign may stand before its digits. -/
def value? (n : Numeral) : Option Decimal :=
  let digits := match n.digits with
    | '+' :: digits => digits
    | digits => digits
  if !digits.isEmpty && digits.all Char.isDigit then some ⟨Decimal.ofDigits digits, n.place⟩
  else none

/-- The number that a text spells, within the limits. -/
def read? (cs : List Char) : Option Decimal := do
  let written ← ofChars? cs
  let short ← written.shorten?
  let raised ← short.raise?
  let within ← raised.lower?
  within.value?

example : read? ['1', '.', '5', '0'] = some ⟨150, -2⟩ := by decide
example : read? ['.'] = some ⟨0, 0⟩ := by decide
example : read? ['+', '5', 'e', '-', '3'] = some ⟨5, -3⟩ := by decide
example : read? ['1', 'e'] = none := by decide

end Numeral

/-- What a text spells: an optional sign, then digits or a word. -/
def contentOfText? (s : String) : Option Content :=
  let (negative, cs) := Decimal.takeSign s.toList
  let word := Text.asciiLower (String.ofList cs)
  if word == "nan" then some (.notNumber negative false)
  else if word == "snan" then some (.notNumber negative true)
  else if word == "inf" || word == "infinity" then some (.infinite negative)
  else (Numeral.read? cs).map (.finite negative)

/-- The decimal number that a text spells. -/
def ofText? (s : String) : Option Decimal128 := (contentOfText? s).map ofContent

end Decimal128

end ProviderRegistry
