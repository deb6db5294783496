/-
# `Bson.Extended` — values written as documents

Where only documents can be written, a value of its own type stands as a
document under a key that names the type: an identity as `$oid` and its
digits, a date as `$date` and its text.  `resolve` takes every such document,
at any depth, for the value that it stands for.

The first key that names a type decides: what stands before it is left out,
though it must itself resolve, and what follows it is not looked at.  Only a
program has a second key, `$scope`, in either order.
-/
import ProviderRegistry.Bson.Decimal128.Numeral
import ProviderRegistry.Bson.Lenient
import ProviderRegistry.Bson.RecordFormat
import ProviderRegistry.Bson.Rfc3339
import ProviderRegistry.Bson.Scalar

namespace ProviderRegistry

namespace Bson

namespace Extended

open Decode (text spelled)

/-! ## Contents with fields -/

open RecordFormat in
/-- The two counters of a timestamp. -/
def timestampFormat : RecordFormat (Option UInt32 × Option UInt32) where
  name := "TimestampBody"
  blank := (none, none)
  fields := [
    field "t" Decode.word fun v r => (some v, r.2),
    field "i" Decode.word fun v r => (r.1, some v)]
  closed := true

open RecordFormat in
/-- A pair of texts under two names. -/
def textsFormat (name first second : String) : RecordFormat (Option String × Option String) where
  name := name
  blank := (none, none)
  fields := [
    field first text fun v r => (some v, r.2),
    field second text fun v r => (r.1, some v)]
  closed := true

open RecordFormat in
/-- The digits of an identity. -/
def digitsFormat : RecordFormat (Option String) where
  name := "ObjectId"
  blank := none
  fields := [field "$oid" text fun v _ => some v]
  closed := true

/-- Two texts that must both be there. -/
def readTexts (name first second : String) (v : Bson) : Decoded (String × String) := do
  let draft ← (textsFormat name first second).readWhole v
  let a ← RecordFormat.need first draft.1
  let b ← RecordFormat.need second draft.2
  return (a, b)

/-- The digits of an identity that must be there. -/
def readDigits (v : Bson) : Decoded String := do
  let draft ← digitsFormat.readWhole v
  RecordFormat.need "$oid" draft

open RecordFormat in
/-- A collection and the digits of an identity in it. -/
def pointerFormat : RecordFormat (Option String × Option String) where
  name := "DbPointerBody"
  blank := (none, none)
  fields := [
    field "$ref" text fun v r => (some v, r.2),
    field "$id" readDigits fun v r => (r.1, some v)]
  closed := true

/-! ## The contents under each key -/

/-- An identity by its digits. -/
def readObjectId : Bson → Decoded Bson
  | .string s => (spelled .objectId ObjectId.ofHex? s).map .objectId
  | v => .error (.unfit v .digits)

/-- The value that a text spells. -/
def readSpelled {α : Type} (spelling : Spelling) (read : String → Option α) (value : α → Bson)
    (v : Bson) : Decoded Bson := do
  let s ← text v
  (spelled spelling read s).map value

/-- An integer of 32 bits. -/
def int32Text? (s : String) : Option Int32 :=
  match Decimal.readInt? s.toList with
  | some n => if Int32.minValue.toInt ≤ n ∧ n ≤ Int32.maxValue.toInt then some (.ofInt n) else none
  | none => none

/-- Bytes in base 64 and their subtype in hexadecimal digits. -/
def readBinary (v : Bson) : Decoded Bson := do
  let (base64, subtype) ← readTexts "BinaryBody" "base64" "subType" v
  let bytes ← spelled .base64 (fun s => Text.Base64.decode? s.toList) base64
  let digits ← spelled .hexadecimal (fun s => Binary.bytesOfHex? s.toList) subtype
  match digits with
  | [kind] => .ok (.binary ⟨kind, bytes⟩)
  | _ => .error .badSubtype

/-- A pattern and its options, which are put in order. -/
def readRegex (v : Bson) : Decoded Bson := do
  let (pattern, options) ← readTexts "RegexBody" "pattern" "options" v
  return .regex pattern (String.ofList (options.toList.mergeSort fun a b => a.toNat ≤ b.toNat))

/-- The place and the byte of the first character that is no hexadecimal digit. -/
def firstBadDigit? (s : String) : Option (Nat × UInt8) :=
  (s.toUTF8.toList.zipIdx.find? fun (b, _) =>
    (Text.Percent.hexValue? (Char.ofNat b.toNat)).isNone).map fun (b, i) => (i, b)

/-- The identity spelled by digits; a wrong digit is told before a wrong length, unless their number
is odd. -/
def identityOfDigits (s : String) : Decoded ObjectId :=
  match ObjectId.ofHex? s with
  | some id => .ok id
  | none =>
    match firstBadDigit? s with
    | some (i, b) =>
      if s.utf8ByteSize % 2 == 0 then .error (.badDigit (Char.ofNat b.toNat) i s)
      else .error (.badLength s)
    | none => .error (.badLength s)

/-- A collection and an identity in it. -/
def readPointer (v : Bson) : Decoded Bson := do
  let draft ← pointerFormat.readWhole v
  let collection ← RecordFormat.need "$ref" draft.1
  let digits ← RecordFormat.need "$id" draft.2
  let id ← identityOfDigits digits
  return .pointer collection id

/-- Two counters. -/
def readTimestamp (v : Bson) : Decoded Bson := do
  let draft ← timestampFormat.readWhole v
  let time ← RecordFormat.need "t" draft.1
  let increment ← RecordFormat.need "i" draft.2
  return .timestamp time increment

/-- The moment a number of milliseconds after 1970, by its text. -/
def readMillis (s : String) : Decoded Bson :=
  (spelled .millis integerText? s).map fun n => .dateTime ⟨n⟩

/-- A moment: by its text, or by its milliseconds as a number or as the text of one. -/
def readDate : Bson → Decoded Bson
  | .string s => (spelled .moment DateTime.ofRfc3339? s).map .dateTime
  | .int32 n => .ok (.dateTime ⟨n.toInt64⟩)
  | .int64 n => .ok (.dateTime ⟨n⟩)
  | .array [.string s] => readMillis s
  | .document [("$numberLong", .string s)] => readMillis s
  | _ => .error .notDateForm

/-- A value without content, for which the number one stands. -/
def readOne (key : String) (value : Bson) (v : Bson) : Decoded Bson := do
  let n ← Decode.byte v
  if n == 1 then .ok value else .error (.notOne key n.toNat)

/-- An undefined value, for which true stands. -/
def readUndefined (v : Bson) : Decoded Bson := do
  let b ← Decode.flag v
  if b then .ok .undefined else .error .notTrue

/-- A decimal number by its sixteen bytes. -/
def readDecimalBytes (v : Bson) : Decoded Bson := do
  let bytes ← Decode.bytes v
  match Decimal128.ofBytes? bytes with
  | some x => .ok (.decimal x)
  | none => .error .badByteCount

/-- The keys that name a type, programs left out, and how their contents are read. -/
def readers : List (String × (Bson → Decoded Bson)) := [
  ("$oid", readObjectId),
  ("$symbol", fun v => (text v).map .symbol),
  ("$numberInt", readSpelled .int32 int32Text? .int32),
  ("$numberLong", readSpelled .int64 integerText? .int64),
  ("$numberDouble", readSpelled .double Double.ofText? .double),
  ("$numberDecimal", readSpelled .decimal Decimal128.ofText? .decimal),
  ("$numberDecimalBytes", readDecimalBytes),
  ("$binary", readBinary),
  ("$uuid", readSpelled .uuid Binary.ofUuid? .binary),
  ("$regularExpression", readRegex),
  ("$dbPointer", readPointer),
  ("$timestamp", readTimestamp),
  ("$date", readDate),
  ("$minKey", readOne "$minKey" .minKey),
  ("$maxKey", readOne "$maxKey" .maxKey),
  ("$undefined", readUndefined)]

/-- The fields of a value that must have turned out a document. -/
def documentFields : Bson → Decoded (List (String × Bson))
  | .document fields => .ok fields
  | v => .error (.notDocument v)

end Extended

/-! ## Whole values -/

open Extended

mutual

/-- The value that a value stands for. -/
def resolve : Bson → Decoded Bson
  | .array items => (resolveItems items).map .array
  | .document fields => resolveFields [] fields
  | v => .ok v

/-- The values that the items of a list stand for. -/
def resolveItems : List Bson → Decoded (List Bson)
  | [] => .ok []
  | v :: rest => do
    let v ← resolve v
    let rest ← resolveItems rest
    return v :: rest

/-- The value that a document stands for, after fields that name no type. -/
def resolveFields (before : List (String × Bson)) : List (String × Bson) → Decoded Bson
  | [] => .ok (.document before)
  | (key, v) :: rest =>
    if key == "$code" then do
      let source ← Decode.text v
      match rest with
      | [] => .ok (.code source)
      | (next, v) :: _ =>
        if next == "$scope" then do
          let scope ← resolve v >>= documentFields
          return .scopedCode source scope
        else .error (.unknown next ["$scope"])
    else if key == "$scope" then do
      let scope ← resolve v >>= documentFields
      match rest with
      | [] => .error (.missing "$code")
      | (next, v) :: _ =>
        if next == "$code" then (Decode.text v).map fun source => .scopedCode source scope
        else .error (.unknown next ["$code"])
    else
      match readers.lookup key with
      | some read => read v
      | none => do
        let v ← resolve v
        resolveFields (before ++ [(key, v)]) rest

end

end Bson

end ProviderRegistry
