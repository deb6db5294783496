/-
# `Text.Base64` — bytes as text, six bits to a character

Three bytes are four characters; a last group of one or two bytes is filled up
with `=`.  Decoding is strict: it reads the texts that encoding writes and no
others, so the filling must be there and the bits that it leaves unused must
be zero.
-/

namespace ProviderRegistry

namespace Text

namespace Base64

/-- The character of a number below 64. -/
def digit (n : Nat) : Char :=
  if n < 26 then Char.ofNat (65 + n)
  else if n < 52 then Char.ofNat (71 + n)
  else if n < 62 then Char.ofNat (n - 4)
  else if n == 62 then '+'
  else '/'

/-- The number of a character of the alphabet. -/
def value? (c : Char) : Option Nat :=
  let n := c.toNat
  if 65 ≤ n ∧ n ≤ 90 then some (n - 65)
  else if 97 ≤ n ∧ n ≤ 122 then some (n - 71)
  else if 48 ≤ n ∧ n ≤ 57 then some (n + 4)
  else if c == '+' then some 62
  else if c == '/' then some 63
  else none

/-- The four characters of the 24 bits of three bytes. -/
def group (n : Nat) : List Char :=
  [digit (n / 262144), digit (n / 4096 % 64), digit (n / 64 % 64), digit (n % 64)]

/-- The text of bytes. -/
def encode : List UInt8 → List Char
  | [] => []
  | [a] => (group (a.toNat * 65536)).take 2 ++ ['=', '=']
  | [a, b] => (group (a.toNat * 65536 + b.toNat * 256)).take 3 ++ ['=']
  | a :: b :: c :: rest => group (a.toNat * 65536 + b.toNat * 256 + c.toNat) ++ encode rest

/-- The bytes of a text, where it is one that encoding writes. -/
def decode? : List Char → Option (List UInt8)
  | [] => some []
  | [a, b, '=', '='] => do
    let x ← value? a
    let y ← value? b
    if y % 16 == 0 then some [UInt8.ofNat (x * 4 + y / 16)] else none
  | [a, b, c, '='] => do
    let x ← value? a
    let y ← value? b
    let z ← value? c
    if z % 4 == 0 then
      some [UInt8.ofNat (x * 4 + y / 16), UInt8.ofNat (y % 16 * 16 + z / 4)]
    else none
  | a :: b :: c :: d :: rest => do
    let x ← value? a
    let y ← value? b
    let z ← value? c
    let w ← value? d
    let tail ← decode? rest
    some (UInt8.ofNat (x * 4 + y / 16) :: UInt8.ofNat (y % 16 * 16 + z / 4)
      :: UInt8.ofNat (z % 4 * 64 + w) :: tail)
  | _ => none

example : encode [102, 111, 111, 98] = ['Z', 'm', '9', 'v', 'Y', 'g', '=', '='] := by decide
example : decode? ['Z', 'm', '8', '='] = some [102, 111] := by decide
example : decode? ['Z', 'm', '9', '='] = none := by decide

end Base64

end Text

end ProviderRegistry
