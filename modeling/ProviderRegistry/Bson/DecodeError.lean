/-
# `Bson.DecodeError` — why a document does not decode

Each cause with what its message needs: the value that was found, the text
that spells nothing, the field that is not known.
-/
import ProviderRegistry.Bson.Value

namespace ProviderRegistry

/-- What a reader asks of a value. -/
inductive Expectation where
  | text
  | sequence
  | integer
  | number
  | flag
  | objectId
  | record (name : String)
  /-- A number of 32 bits without sign. -/
  | word
  /-- A number of eight bits without sign. -/
  | byte
  | bytes
  /-- The digits of an identity, or its bytes. -/
  | digits
deriving DecidableEq

/-- What a text has to spell. -/
inductive Spelling where
  | objectId
  | int32
  | int64
  | double
  | decimal
  /-- A number of milliseconds. -/
  | millis
  /-- A date and a time of day. -/
  | moment
  | base64
  | hexadecimal
  | uuid
deriving DecidableEq

/-- Why a document does not decode. -/
inductive DecodeError where
  /-- A value is of another kind than expected. -/
  | unfit (found : Bson) (expected : Expectation)
  /-- An integer is too great or too small. -/
  | outOfRange (found : Int) (expected : Expectation)
  /-- A text does not spell what it has to. -/
  | misspelled (text : String) (expected : Spelling)
  /-- Bytes that stand for a text are not UTF-8. -/
  | notText
  /-- A structured value is not an identity. -/
  | notIdentity (found : Bson)
  /-- A character stands in an identity that is no digit. -/
  | badDigit (c : Char) (index : Nat) (text : String)
  /-- An identity has not the right number of digits. -/
  | badLength (text : String)
  /-- A value is not a date. -/
  | notDate
  /-- What stands for a date has none of the forms of one. -/
  | notDateForm
  /-- What stands for a value without content is another number than one. -/
  | notOne (key : String) (found : Nat)
  /-- What stands for an undefined value is not true. -/
  | notTrue
  /-- The subtype of bytes is not one byte. -/
  | badSubtype
  /-- The bytes of a number are too many or too few. -/
  | badByteCount
  /-- An element that should be a document is something else. -/
  | notDocument (found : Bson)
  /-- A field is there that may not be. -/
  | unknown (field : String) (allowed : List String)
  /-- A field without a default is missing. -/
  | missing (field : String)
  /-- A list that stands for a record has too few members. -/
  | tooShort (length : Nat) (record : String) (size : Nat)

namespace Expectation

/-- What is expected, in a message. -/
def describe : Expectation → String
  | .text => "a string"
  | .sequence => "a sequence"
  | .integer => "i64"
  | .number => "f64"
  | .flag => "a boolean"
  | .objectId => "expecting an ObjectId"
  | .record name => "struct " ++ name
  | .word => "u32"
  | .byte => "u8"
  | .bytes => "byte array"
  | .digits => "hexstring or byte array"

end Expectation

namespace Spelling

/-- What is to be spelled, in a message. -/
def describe : Spelling → String
  | .objectId => "24-character, big-endian hex string"
  | .int32 => "32-bit signed integer as a string"
  | .int64 => "64-bit signed integer as a string"
  | .double => "64-bit signed integer as a string"
  | .decimal => "decimal128 as a string"
  | .millis => "i64 as a string"
  | .moment => "rfc3339 formatted utc datetime"
  | .base64 => "base64 encoded bytes"
  | .hexadecimal => "hexadecimal number as a string"
  | .uuid => "$uuid value does not follow RFC 4122 format regarding length and hyphens"

end Spelling

namespace Bson

/-- An integer, in a message. -/
def describeInt (n : Int) : String := "integer `" ++ toString n ++ "`"

/-- A truth value, in a message. -/
def describeFlag (b : Bool) : String := "boolean `" ++ Inspect.flag b ++ "`"

/-- What was found, in a message. -/
def describe : Bson → String
  | .null => "unit value"
  | .boolean b => describeFlag b
  | .int32 n => describeInt n.toInt
  | .int64 n => describeInt n.toInt
  | .double x => "floating point `" ++ DoubleFormat.pointed.text x ++ "`"
  | .string s => "string " ++ Text.Quoted.inspect s
  | .array _ => "sequence"
  | .binary b => if b.isGeneric then "byte array" else "map"
  | _ => "map"

end Bson

namespace DecodeError

/-- The message of a value of the right kind that may not stand where it does. -/
def invalidValue (found expected : String) : String :=
  "invalid value: " ++ found ++ ", expected " ++ expected

/-- The fields that may stand in a record of one or two. -/
def alternatives (names : List String) : String :=
  " or ".intercalate (names.map fun name => "`" ++ name ++ "`")

/-- The text of a decode error. -/
def message : DecodeError → String
  | .unfit found expected =>
    "invalid type: " ++ found.describe ++ ", expected " ++ expected.describe
  | .outOfRange found expected => invalidValue (Bson.describeInt found) expected.describe
  | .misspelled text expected =>
    invalidValue ("string " ++ Text.Quoted.inspect text) expected.describe
  | .notText => invalidValue "byte array" Expectation.text.describe
  | .notIdentity found =>
    "expected map containing extended-JSON formatted ObjectId, instead found " ++ found.display
  | .badDigit c index text =>
    "invalid character '" ++ String.singleton c ++ "' was found at index " ++ toString index
      ++ " in the provided hex string: \"" ++ text ++ "\""
  | .badLength text =>
    "provided hex string representation must be exactly 12 bytes, instead got: \"" ++ text
      ++ "\", length " ++ toString text.utf8ByteSize
  | .notDate => "expecting DateTime"
  | .notDateForm => "data did not match any variant of untagged enum DateTimeBody"
  | .notOne key found =>
    invalidValue (Bson.describeInt found) ("value of " ++ key ++ " should always be 1")
  | .notTrue => invalidValue (Bson.describeFlag false) "$undefined should always be true"
  | .badSubtype => invalidValue "byte array" "one byte subtype"
  | .badByteCount => "could not convert slice to array"
  | .notDocument found =>
    "invalid type: map, expected expected document, found extended JSON data type: "
      ++ found.display
  | .unknown field allowed =>
    "unknown field `" ++ field ++ "`, expected " ++ alternatives allowed
  | .missing field => "missing field `" ++ field ++ "`"
  | .tooShort length record size =>
    "invalid length " ++ toString length ++ ", expected struct " ++ record ++ " with "
      ++ toString size ++ (if size == 1 then " element" else " elements")

end DecodeError

/-- The outcome of reading a value. -/
abbrev Decoded := Except DecodeError

end ProviderRegistry
