/-
# `Bson.Scalar` — reading texts, flags and numbers

The readers of single values that take them as they are.  A value of its own
type is written as a map under a key that names the type, so to these readers
it is a map; bytes of which nothing is said may stand for a text.
-/
import ProviderRegistry.Bson.DecodeError

namespace ProviderRegistry

namespace Decode

/-- A text. -/
def text : Bson → Decoded String
  | .string s => .ok s
  | .binary b =>
    if b.isGeneric then
      match b.text? with
      | some s => .ok s
      | none => .error .notText
    else .error (.unfit (.binary b) .text)
  | v => .error (.unfit v .text)

/-- A truth value. -/
def flag : Bson → Decoded Bool
  | .boolean b => .ok b
  | v => .error (.unfit v .flag)

/-- An integer of either width. -/
def integer : Bson → Decoded Int64
  | .int32 n => .ok n.toInt64
  | .int64 n => .ok n
  | v => .error (.unfit v .integer)

/-- A number of any kind. -/
def number : Bson → Decoded Double
  | .int32 n => .ok (Double.ofInt n.toInt)
  | .int64 n => .ok (Double.ofInt n.toInt)
  | .double x => .ok x
  | v => .error (.unfit v .number)

/-- An integer below a limit and not below zero. -/
def natural (limit : Nat) (expected : Expectation) (v : Bson) : Decoded Nat :=
  let within (n : Int) : Decoded Nat :=
    if 0 ≤ n ∧ n < limit then .ok n.toNat else .error (.outOfRange n expected)
  match v with
  | .int32 n => within n.toInt
  | .int64 n => within n.toInt
  | _ => .error (.unfit v expected)

/-- An integer of eight bits without sign. -/
def byte (v : Bson) : Decoded UInt8 := (natural 256 .byte v).map UInt8.ofNat

/-- An integer of 32 bits without sign. -/
def word (v : Bson) : Decoded UInt32 := (natural 4294967296 .word v).map UInt32.ofNat

/-- Bytes: as such, as the UTF-8 form of a text, or one by one. -/
def bytes : Bson → Decoded (List UInt8)
  | .string s => .ok s.toUTF8.toList
  | .array items => items.mapM byte
  | .binary b => if b.isGeneric then .ok b.bytes else .error (.unfit (.binary b) .bytes)
  | v => .error (.unfit v .bytes)

/-- A text that spells something. -/
def spelled {α : Type} (spelling : Spelling) (read : String → Option α) (s : String) : Decoded α :=
  match read s with
  | some a => .ok a
  | none => .error (.misspelled s spelling)

end Decode

end ProviderRegistry
