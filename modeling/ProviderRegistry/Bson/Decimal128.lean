/-
# `Bson.Decimal128` — decimal numbers of 34 digits

A decimal number keeps the digits that it was written with, so `1.5` and
`1.50` are two values.  It is kept as its 128 bits: below the sign stand 14
bits for the place of the last digit and 113 for the coefficient, unless the
bits announce an infinity or what is not a number.  `ofContent` sets the bits
and `content` reads them: what was set within the limits is what is read.  Two
numbers are equal when their bits are, and bits that no text spells are kept as
they came.
-/
import ProviderRegistry.Text.Inspect

namespace ProviderRegistry

/-- The bits of a decimal number. -/
structure Decimal128 where
  bits : BitVec 128
deriving DecidableEq

namespace Decimal128

/-- The greatest number of digits. -/
def maxDigits : Nat := 34

/-- The least place of the last digit. -/
def leastPlace : Int := -6176

/-- The greatest place of the last digit. -/
def greatestPlace : Int := 6111

/-- What bits stand for: a number, or one of the values that no digits spell. -/
inductive Content where
  | finite (negative : Bool) (value : Decimal)
  | infinite (negative : Bool)
  | notNumber (negative signalling : Bool)
deriving DecidableEq

/-! ## Bits -/

/-- The bits that stand for a content. -/
def ofContent : Content → Decimal128
  | .finite negative d =>
    ⟨BitVec.ofBool negative ++ BitVec.ofNat 14 (d.place - leastPlace).toNat
      ++ BitVec.ofNat 113 d.coefficient⟩
  | .infinite negative => ⟨BitVec.ofBool negative ++ 0b11110#5 ++ 0#122⟩
  | .notNumber negative signalling =>
    ⟨BitVec.ofBool negative ++ 0b11111#5 ++ BitVec.ofBool signalling ++ 0#121⟩

/-- The number in a field of bits, by the lowest of them and how many they are. -/
def field (low width : Nat) (x : Decimal128) : Nat := (x.bits.extractLsb' low width).toNat

/-- Whether a bit is set. -/
def flag (low : Nat) (x : Decimal128) : Bool := x.field low 1 == 1

/-- The place told by the 14 bits from a lowest one on. -/
def placeFrom (low : Nat) (x : Decimal128) : Int := x.field low 14 + leastPlace

/-- The coefficient of the lowest 113 bits; one of more than 34 digits counts as zero. -/
def coefficient (x : Decimal128) : Nat :=
  if x.field 0 113 < Nat.pow 10 maxDigits then x.field 0 113 else 0

/-- What the bits stand for.  Below the sign, four bits that are all set announce one of the
values without digits; two announce a coefficient that is too long, which counts as zero. -/
def content (x : Decimal128) : Content :=
  if x.field 123 4 == 15 then
    if x.flag 122 then .notNumber (x.flag 127) (x.flag 121) else .infinite (x.flag 127)
  else if x.field 125 2 == 3 then .finite (x.flag 127) ⟨0, x.placeFrom 111⟩
  else .finite (x.flag 127) ⟨x.coefficient, x.placeFrom 113⟩

/-- The sixteen bytes, the lowest first. -/
def bytes (x : Decimal128) : List UInt8 :=
  (List.range 16).map fun (i : Nat) => UInt8.ofNat (x.field (8 * i) 8)

/-- The decimal number of sixteen bytes, the lowest first. -/
def ofBytes? (bytes : List UInt8) : Option Decimal128 :=
  if bytes.length == 16 then
    some ⟨BitVec.ofNat 128 (bytes.foldr (fun b n => b.toNat + 256 * n) 0)⟩
  else none

/-! ## The bits read back -/

/-- Whether bits can tell a content: it has no digit too many and a place within the limits. -/
def Content.Fits : Content → Prop
  | .finite _ d =>
    d.coefficient < Nat.pow 10 maxDigits ∧ leastPlace ≤ d.place ∧ d.place ≤ greatestPlace
  | _ => True

/-- A field is the remainder of a quotient of the number that all bits spell. -/
theorem field_eq (low width : Nat) (x : Decimal128) :
    x.field low width = x.bits.toNat / Nat.pow 2 low % Nat.pow 2 width := by
  simp [field, BitVec.extractLsb'_toNat, Nat.shiftRight_eq_div_pow]

/-- The number that the bits of a finite content spell. -/
theorem toNat_ofContent_finite {negative : Bool} {d : Decimal}
    (h : (Content.finite negative d).Fits) :
    (ofContent (.finite negative d)).bits.toNat =
      negative.toNat * 0x80000000000000000000000000000000
        + (d.place + 6176).toNat * 0x20000000000000000000000000000 + d.coefficient := by
  have hc : d.coefficient < 10000000000000000000000000000000000 := h.1
  have hl : -6176 ≤ d.place := h.2.1
  have hg : d.place ≤ 6111 := h.2.2
  simp only [ofContent, leastPlace, BitVec.toNat_append, BitVec.toNat_ofBool, BitVec.toNat_ofNat]
  rw [← Nat.shiftLeft_add_eq_or_of_lt (by omega), ← Nat.shiftLeft_add_eq_or_of_lt (by omega)]
  simp only [Nat.shiftLeft_eq]
  omega

/-- The content of the bits that were set for a finite one. -/
theorem content_ofContent_finite {negative : Bool} {d : Decimal}
    (h : (Content.finite negative d).Fits) :
    (ofContent (.finite negative d)).content = .finite negative d := by
  have hb := toNat_ofContent_finite h
  have hs : negative.toNat ≤ 1 := Bool.toNat_le negative
  have hc : d.coefficient < 10000000000000000000000000000000000 := h.1
  have hl : -6176 ≤ d.place := h.2.1
  have hg : d.place ≤ 6111 := h.2.2
  generalize ofContent (.finite negative d) = x at hb
  have special : x.field 123 4 ≠ 15 := by
    rw [field_eq, hb]; simp only [Nat.pow_eq, Nat.reducePow]; omega
  have long : x.field 125 2 ≠ 3 := by
    rw [field_eq, hb]; simp only [Nat.pow_eq, Nat.reducePow]; omega
  have digits : x.field 0 113 = d.coefficient := by
    rw [field_eq, hb]; simp only [Nat.pow_eq, Nat.reducePow]; omega
  have place : x.field 113 14 = (d.place + 6176).toNat := by
    rw [field_eq, hb]; simp only [Nat.pow_eq, Nat.reducePow]; omega
  have sign : x.field 127 1 = negative.toNat := by
    rw [field_eq, hb]; simp only [Nat.pow_eq, Nat.reducePow]; omega
  have hcoefficient : x.coefficient = d.coefficient := by
    unfold coefficient; rw [digits]; exact if_pos h.1
  have hplace : x.placeFrom 113 = d.place := by
    unfold placeFrom leastPlace; rw [place]; omega
  have hflag : x.flag 127 = negative := by
    unfold flag; rw [sign]; cases negative <;> rfl
  simp [content, special, long, hcoefficient, hplace, hflag]

/-- The content of the bits that were set for one is that content. -/
theorem content_ofContent {c : Content} (h : c.Fits) : (ofContent c).content = c := by
  match c with
  | .infinite negative => cases negative <;> decide
  | .notNumber negative signalling => cases negative <;> cases signalling <;> decide
  | .finite _ _ => exact content_ofContent_finite h

/-! ## Writing -/

/-- The sign before a number. -/
def signText (negative : Bool) : String := if negative then "-" else ""

/-- Digits with an exponent: one digit before the point, the exponent signed. -/
def layExponent (d : Decimal) : List Char :=
  let digits := Decimal.digitsOf d.coefficient
  let tail := digits.drop 1
  digits.take 1 ++ (if tail.isEmpty then [] else '.' :: tail)
    ++ ['E', if d.exponent < 0 then '-' else '+'] ++ Decimal.digitsOf d.exponent.natAbs

/-- The digits of a decimal: without an exponent where no zero has to be added at the end and at
most five between the point and the first digit. -/
def lay (d : Decimal) : List Char :=
  if d.place ≤ 0 ∧ -6 ≤ d.exponent then DoubleFormat.plain.layPositional d else layExponent d

/-- The text of a decimal number.  What is not a number has one text, whatever its sign. -/
def text (x : Decimal128) : String :=
  match x.content with
  | .finite negative d => signText negative ++ String.ofList (lay d)
  | .infinite negative => signText negative ++ "Infinity"
  | .notNumber _ _ => "NaN"

/-- The decimal number on inspection: two hexadecimal digits for every byte. -/
def inspect (x : Decimal128) : String :=
  Inspect.tagged "Decimal128" (String.ofList
    (x.bytes.flatMap fun b => Text.padZeros 2 (Text.hexDigits b.toNat)))

end Decimal128

end ProviderRegistry
