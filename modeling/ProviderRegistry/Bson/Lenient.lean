/-
# `Bson.Lenient` — fields that other tools may have stored in any numeric form

A number may stand as a double, an integer of either width, or a text that
spells it; a truth value as a boolean, an integer or one of six words.  What
cannot be read so counts as absent.
-/
import ProviderRegistry.Bson.Value
import ProviderRegistry.Text.Blank

namespace ProviderRegistry

namespace Bson

/-- A whole number in the range of 64 bits, spelled by an optional sign and digits. -/
def integerText? (s : String) : Option Int64 :=
  match Decimal.readInt? s.toList with
  | some n => if Int64.minValue.toInt ≤ n ∧ n ≤ Int64.maxValue.toInt then some (.ofInt n) else none
  | none => none

/-- The truth value that a word names, in any case of its ASCII letters.  No other letter has one
of these as its lower case. -/
def truthText? (s : String) : Option Bool :=
  let word := Text.asciiLower s
  if word == "true" || word == "1" || word == "yes" then some true
  else if word == "false" || word == "0" || word == "no" then some false
  else none

/-- The floating-point number that a value stands for. -/
def toDouble? : Bson → Option Double
  | .double x => some x
  | .int32 n => some (Double.ofInt n.toInt)
  | .int64 n => some (Double.ofInt n.toInt)
  | .string s => Double.ofText? (Text.trim s)
  | _ => none

/-- The integer that a value stands for; a finite double is rounded, a half away from zero. -/
def toInt64? : Bson → Option Int64
  | .int32 n => some n.toInt64
  | .int64 n => some n
  | .double x => if x.isFinite then some x.toNearestInt64 else none
  | .string s => integerText? (Text.trim s)
  | _ => none

/-- The truth value that a value stands for. -/
def toBool? : Bson → Option Bool
  | .boolean b => some b
  | .int32 n => some (n != 0)
  | .int64 n => some (n != 0)
  | .string s => truthText? (Text.trim s)
  | _ => none

end Bson

end ProviderRegistry
