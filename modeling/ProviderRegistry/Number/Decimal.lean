/-
# `Number.Decimal` — decimal texts of doubles

Reading takes the double nearest to the decimal that a text spells.  Writing
takes the decimal of fewest digits that reads back as the same double and lays
it out as a `DoubleFormat` asks: where positional notation ends, whether a
whole number keeps `.0`, how an exponent is signed.
-/
import ProviderRegistry.Number.Double

namespace ProviderRegistry

/-- The number `coefficient · 10 ^ place`. -/
structure Decimal where
  coefficient : Nat
  place : Int
deriving DecidableEq

namespace Decimal

/-- The decimal digits of a natural number. -/
def digitsOf (n : Nat) : List Char := Nat.toDigits 10 n

/-- The natural number that a list of decimal digits spells. -/
def ofDigits (digits : List Char) : Nat :=
  digits.foldl (fun n c => 10 * n + (c.toNat - 48)) 0

/-- The exponent of the leading digit. -/
def exponent (d : Decimal) : Int :=
  (digitsOf d.coefficient).length + d.place - 1

/-- The same number without zeros at the end of its coefficient. -/
def reduce (d : Decimal) : Decimal :=
  if h : 0 < d.coefficient ∧ d.coefficient % 10 = 0 then
    reduce ⟨d.coefficient / 10, d.place + 1⟩
  else d
termination_by d.coefficient
decreasing_by exact Nat.div_lt_self h.1 (by decide)

/-- The double nearest to a decimal.  Decimals far outside the range of doubles are settled by
their exponent. -/
def toDouble (negative : Bool) (d : Decimal) : Double :=
  if d.coefficient == 0 || d.exponent < -400 then Double.zero negative
  else if 400 < d.exponent then Double.infinity negative
  else Double.ofRatio negative (d.coefficient * Nat.pow 10 d.place.toNat)
    (Nat.pow 10 (-d.place).toNat)

/-! ## Reading -/

/-- A sign, if there is one, and what follows it. -/
def takeSign : List Char → Bool × List Char
  | '-' :: rest => (true, rest)
  | '+' :: rest => (false, rest)
  | rest => (false, rest)

/-- The integer spelled by an optional sign and one or more digits. -/
def readInt? (cs : List Char) : Option Int :=
  let (negative, digits) := takeSign cs
  if !digits.isEmpty && digits.all Char.isDigit then
    let n : Int := ofDigits digits
    some (if negative then -n else n)
  else none

/-- The exponent part of a number: nothing, or `e` and an integer. -/
def readExponent? : List Char → Option Int
  | [] => some 0
  | c :: rest => if c == 'e' || c == 'E' then readInt? rest else none

/-- The decimal spelled by digits with at most one point among them, at least one digit, and an
optional exponent. -/
def read? (cs : List Char) : Option Decimal := do
  let whole := cs.takeWhile Char.isDigit
  let rest := cs.dropWhile Char.isDigit
  let (fraction, rest) := match rest with
    | '.' :: r => (r.takeWhile Char.isDigit, r.dropWhile Char.isDigit)
    | r => ([], r)
  if whole.isEmpty && fraction.isEmpty then none
  else
    let e ← readExponent? rest
    some ⟨ofDigits (whole ++ fraction), e - fraction.length⟩

end Decimal

namespace Double

/-- The words for the numbers that no digits spell. -/
def readWord? (negative : Bool) (cs : List Char) : Option Double :=
  let word := String.ofList (cs.map Char.toLower)
  if word == "inf" || word == "infinity" then some (infinity negative)
  else if word == "nan" then some { nan with negative := negative }
  else none

/-- The number that a text spells: an optional sign, then digits or a word. -/
def ofText? (s : String) : Option Double :=
  let (negative, cs) := Decimal.takeSign s.toList
  match Decimal.read? cs with
  | some d => some (d.toDouble negative)
  | none => readWord? negative cs

/-! ## The fewest digits that read back -/

/-- The numbers that round to a positive double, between two ends: `low / den` and `high / den`
around `mid / den`.  The ends belong to them when the coefficient is even. -/
structure RoundingRange where
  low : Nat
  mid : Nat
  high : Nat
  den : Nat
  closed : Bool

/-- The range of a finite positive number.  Below a power of two the neighbour is half as far. -/
def roundingRange (x : Double) : RoundingRange :=
  let c := x.coefficient
  let below := if c == normalUnit && x.scale > -1074 then 4 * c - 1 else 4 * c - 2
  let up := Nat.pow 2 (x.scale - 2).toNat
  ⟨below * up, 4 * c * up, (4 * c + 2) * up, Nat.pow 2 (2 - x.scale).toNat, c % 2 == 0⟩

/-- The greatest `e` with `10 ^ e ≤ num / den`, for positive operands. -/
def floorLog10 (num den : Nat) : Int :=
  let e : Int := (Decimal.digitsOf num).length - (Decimal.digitsOf den).length
  if den * Nat.pow 10 e.toNat ≤ num * Nat.pow 10 (-e).toNat then e else e - 1

/-- The point of the grid of step `10 ^ place` that lies in a range, the nearer of the two around
the middle where both do; `tieUp` chooses the upper when they are equally near, else the even. -/
def RoundingRange.onGrid? (r : RoundingRange) (tieUp : Bool) (place : Int) : Option Decimal :=
  let unit := r.den * Nat.pow 10 place.toNat
  let times := Nat.pow 10 (-place).toNat
  let inside (d : Nat) : Bool :=
    if r.closed then r.low * times ≤ d * unit && d * unit ≤ r.high * times
    else r.low * times < d * unit && d * unit < r.high * times
  let down := r.mid * times / unit
  let twice := 2 * (r.mid * times % unit)
  let up := twice > unit || (twice == unit && (tieUp || down % 2 == 1))
  let nearer := if up then down + 1 else down
  let other := if nearer == down then down + 1 else down
  if inside nearer then some ⟨nearer, place⟩
  else if inside other then some ⟨other, place⟩
  else none

/-- The decimal of fewest digits that reads back as a positive finite number. -/
def shortest (tieUp : Bool) (x : Double) : Decimal :=
  let r := x.roundingRange
  let top := floorLog10 r.mid r.den
  (((List.range 17).findSome? fun (n : Nat) => r.onGrid? tieUp (top - n)).getD ⟨0, 0⟩).reduce

end Double

/-! ## Layout -/

/-- How a double is written. -/
structure DoubleFormat where
  /-- Which exponents of the leading digit are written without an exponent. -/
  positional : Int → Bool
  /-- Whether a whole number written without an exponent keeps `.0`. -/
  point : Bool
  /-- Whether a positive exponent has a plus sign. -/
  plus : Bool
  /-- Whether of two equally near shortest decimals the upper is taken, else the even. -/
  tieUp : Bool
  nan : String
  infinity : String

namespace DoubleFormat

/-- Digits without an exponent. -/
def layPositional (f : DoubleFormat) (d : Decimal) : List Char :=
  let digits := Decimal.digitsOf d.coefficient
  if 0 ≤ d.place then
    digits ++ List.replicate d.place.toNat '0' ++ (if f.point then ['.', '0'] else [])
  else
    let whole := digits.length - d.place.natAbs
    let fraction := List.replicate (d.place.natAbs - digits.length) '0' ++ digits.drop whole
    (if whole == 0 then ['0'] else digits.take whole) ++ ['.'] ++ fraction

/-- Digits with an exponent: one digit before the point. -/
def layExponent (f : DoubleFormat) (d : Decimal) : List Char :=
  let digits := Decimal.digitsOf d.coefficient
  let tail := digits.drop 1
  let sign := if d.exponent < 0 then ['-'] else if f.plus then ['+'] else []
  digits.take 1 ++ (if tail.isEmpty then [] else '.' :: tail)
    ++ ['e'] ++ sign ++ Decimal.digitsOf d.exponent.natAbs

/-- The text of a finite number without its sign. -/
def layFinite (f : DoubleFormat) (x : Double) : List Char :=
  if x.isZero then f.layPositional ⟨0, 0⟩
  else
    let d := x.shortest f.tieUp
    if f.positional d.exponent then f.layPositional d else f.layExponent d

/-- The text of a number. -/
def text (f : DoubleFormat) (x : Double) : String :=
  if x.isNaN then f.nan
  else
    let sign := if x.negative then "-" else ""
    sign ++ (if x.isFinite then String.ofList (f.layFinite x) else f.infinity)

/-- The plain text: never an exponent, and no point in a whole number. -/
def plain : DoubleFormat := ⟨fun _ => true, false, false, true, "NaN", "inf"⟩

/-- The plain text with a point in every finite number. -/
def pointed : DoubleFormat := { plain with point := true }

/-- The text on inspection: an exponent below `1e-4` and from `1e16` on. -/
def inspected : DoubleFormat := { pointed with positional := fun e => -4 ≤ e && e ≤ 15 }

/-- The text in YAML: an exponent below `1e-5` and from `1e16` on. -/
def yaml : DoubleFormat :=
  ⟨fun e => -5 ≤ e && e ≤ 15, true, false, false, ".nan", ".inf"⟩

/-- The text of a finite number in JSON: that of YAML with a plus sign before a positive
exponent. -/
def json : DoubleFormat := { yaml with plus := true }

end DoubleFormat

end ProviderRegistry
