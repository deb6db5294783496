/-
# `Bson.Value` — the values that documents hold

The value type, documents as fields in order, the equality by which a store
compares values, the two texts of a value (the one shown in messages and the
one shown on inspection), and the map that a value of its own type is written
as.

A document is a list of fields whose keys are meant to be distinct; `insert`
and `ofList` keep them so.  Equality ignores the order of a document's fields
and follows the numerical order of doubles, so that NaN equals nothing.
-/
import ProviderRegistry.Bson.Binary
import ProviderRegistry.Bson.DateTime
import ProviderRegistry.Bson.Decimal128
import ProviderRegistry.Bson.ObjectId
import ProviderRegistry.Fields
import ProviderRegistry.Text.Inspect

namespace ProviderRegistry

/-- A value in a document. -/
inductive Bson where
  | null
  | undefined
  | minKey
  | maxKey
  | boolean (b : Bool)
  | int32 (n : Int32)
  | int64 (n : Int64)
  | double (x : Double)
  | string (s : String)
  | symbol (s : String)
  | objectId (id : ObjectId)
  | dateTime (d : DateTime)
  | timestamp (time increment : UInt32)
  | decimal (x : Decimal128)
  | binary (b : Binary)
  /-- A pattern and the letters of its options. -/
  | regex (pattern options : String)
  /-- A document of a collection. -/
  | pointer (collection : String) (id : ObjectId)
  /-- The text of a program. -/
  | code (source : String)
  /-- The text of a program and the values of its free names. -/
  | scopedCode (source : String) (scope : List (String × Bson))
  | array (items : List Bson)
  | document (fields : List (String × Bson))
deriving Inhabited

/-- A document: its fields, in order. -/
structure Document where
  fields : List (String × Bson)
deriving Inhabited

namespace Document

/-- The document without fields. -/
def empty : Document := ⟨[]⟩

/-- The value under a key. -/
def get? (d : Document) (key : String) : Option Bson := d.fields.lookup key

/-- Whether a key is present. -/
def contains (d : Document) (key : String) : Bool := (d.get? key).isSome

/-- The document with a field set; a key that is present keeps its place. -/
def insert (d : Document) (key : String) (value : Bson) : Document :=
  ⟨Fields.set key value d.fields⟩

/-- The document with the fields of another set on it, one after the other. -/
def merge (d : Document) (other : Document) : Document :=
  ⟨Fields.setAll d.fields other.fields⟩

/-- The document of a list of fields; a repeated key keeps its first place and its last value. -/
def ofList (fields : List (String × Bson)) : Document :=
  ⟨Fields.ofList fields⟩

end Document

namespace Bson

/-- An optional value; none is null. -/
def ofOption {α : Type} (value : α → Bson) : Option α → Bson
  | some a => value a
  | none => .null

/-- The value itself where there is one, else null. -/
def orNull (v : Option Bson) : Bson := v.getD .null

/-- Whether a value is null. -/
def isNull : Bson → Bool
  | .null => true
  | _ => false

/-! ## Equality -/

mutual

/-- Whether a store takes two values for equal. -/
def same : Bson → Bson → Bool
  | .null, .null => true
  | .undefined, .undefined => true
  | .minKey, .minKey => true
  | .maxKey, .maxKey => true
  | .boolean a, .boolean b => a == b
  | .int32 a, .int32 b => a == b
  | .int64 a, .int64 b => a == b
  | .double a, .double b => a.same b
  | .string a, .string b => a == b
  | .symbol a, .symbol b => a == b
  | .objectId a, .objectId b => a == b
  | .dateTime a, .dateTime b => a == b
  | .timestamp a b, .timestamp c d => a == c && b == d
  | .decimal a, .decimal b => a == b
  | .binary a, .binary b => a == b
  | .regex a b, .regex c d => a == c && b == d
  | .pointer a b, .pointer c d => a == c && b == d
  | .code a, .code b => a == b
  | .scopedCode a xs, .scopedCode b ys => a == b && xs.length == ys.length && sameFields xs ys
  | .array xs, .array ys => sameItems xs ys
  | .document xs, .document ys => xs.length == ys.length && sameFields xs ys
  | _, _ => false

/-- Equality of lists, in order. -/
def sameItems : List Bson → List Bson → Bool
  | [], [] => true
  | x :: xs, y :: ys => same x y && sameItems xs ys
  | _, _ => false

/-- Whether every field of the first list has an equal one under its key in the second. -/
def sameFields : List (String × Bson) → List (String × Bson) → Bool
  | [], _ => true
  | (key, x) :: rest, ys =>
    (match ys.lookup key with
      | some y => same x y
      | none => false) && sameFields rest ys

end

/-! ## The text in messages -/

mutual

/-- The text of a value in a message; texts stand between quotes unescaped. -/
def display : Bson → String
  | .null => "null"
  | .undefined => "undefined"
  | .minKey => "MinKey"
  | .maxKey => "MaxKey"
  | .boolean b => if b then "true" else "false"
  | .int32 n => toString n.toInt
  | .int64 n => toString n.toInt
  | .double x => DoubleFormat.plain.text x
  | .string s => "\"" ++ s ++ "\""
  | .symbol s => "Symbol(\"" ++ s ++ "\")"
  | .objectId id => "ObjectId(\"" ++ id.toHex ++ "\")"
  | .dateTime d => "DateTime(\"" ++ d.display ++ "\")"
  | .timestamp time increment =>
    "Timestamp(" ++ toString time.toNat ++ ", " ++ toString increment.toNat ++ ")"
  | .decimal x => x.text
  | .binary b => b.display
  | .regex pattern options => "/" ++ pattern ++ "/" ++ options
  | .pointer collection id => "DbPointer(" ++ collection ++ ", " ++ id.toHex ++ ")"
  | .code source => source
  | .scopedCode source _ => source
  | .array items => "[" ++ ", ".intercalate (displayItems items) ++ "]"
  | .document [] => "\x7b\x7d"
  | .document fields => "\x7b " ++ ", ".intercalate (displayFields fields) ++ " \x7d"

/-- The texts of the items of a list. -/
def displayItems : List Bson → List String
  | [] => []
  | x :: xs => display x :: displayItems xs

/-- The texts of the fields of a document. -/
def displayFields : List (String × Bson) → List String
  | [] => []
  | (key, x) :: rest => ("\"" ++ key ++ "\": " ++ display x) :: displayFields rest

end

/-! ## The text on inspection -/

mutual

/-- The text of a value on inspection: its kind and its content. -/
def inspect : Bson → String
  | .null => "Null"
  | .undefined => "Undefined"
  | .minKey => "MinKey"
  | .maxKey => "MaxKey"
  | .boolean b => Inspect.tagged "Boolean" (Inspect.flag b)
  | .int32 n => Inspect.tagged "Int32" (toString n.toInt)
  | .int64 n => Inspect.tagged "Int64" (toString n.toInt)
  | .double x => Inspect.tagged "Double" (Inspect.number x)
  | .string s => Inspect.tagged "String" (Inspect.text s)
  | .symbol s => Inspect.tagged "Symbol" (Inspect.text s)
  | .objectId id => Inspect.tagged "ObjectId" (Inspect.text id.toHex)
  | .dateTime d => Inspect.tagged "DateTime" d.display
  | .timestamp time increment =>
    Inspect.record "Timestamp"
      [("time", toString time.toNat), ("increment", toString increment.toNat)]
  | .decimal x => x.inspect
  | .binary b => b.inspect
  | .regex pattern options =>
    Inspect.record "Regex" [("pattern", Inspect.text pattern), ("options", Inspect.text options)]
  | .pointer collection id =>
    Inspect.record "DbPointer" [
      ("namespace", Inspect.text collection),
      ("id", Inspect.tagged "ObjectId" (Inspect.text id.toHex))]
  | .code source => Inspect.tagged "JavaScriptCode" (Inspect.text source)
  | .scopedCode source scope =>
    Inspect.record "JavaScriptCodeWithScope" [
      ("code", Inspect.text source),
      ("scope", Inspect.tagged "Document" (Inspect.map (inspectFields scope)))]
  | .array items => Inspect.tagged "Array" (Inspect.list (inspectItems items))
  | .document fields => Inspect.tagged "Document" (Inspect.map (inspectFields fields))

/-- The inspected items of a list. -/
def inspectItems : List Bson → List String
  | [] => []
  | x :: xs => inspect x :: inspectItems xs

/-- The inspected fields of a document. -/
def inspectFields : List (String × Bson) → List (String × String)
  | [] => []
  | (key, x) :: rest => (key, inspect x) :: inspectFields rest

end

/-! ## Values as maps -/

/-- The fields of a value that is a map: those of a document, and of a value of its own type the
one field, or for a program with its names the two, that it is written as. -/
def asMap? : Bson → Option (List (String × Bson))
  | .document fields => some fields
  | .undefined => some [("$undefined", .boolean true)]
  | .minKey => some [("$minKey", .int32 1)]
  | .maxKey => some [("$maxKey", .int32 1)]
  | .symbol s => some [("$symbol", .string s)]
  | .objectId id => some [("$oid", .string id.toHex)]
  | .dateTime d =>
    some [("$date", .document [("$numberLong", .string (toString d.millis.toInt))])]
  | .timestamp time increment =>
    some [("$timestamp", .document [
      ("t", .int64 (Int64.ofInt time.toNat)), ("i", .int64 (Int64.ofInt increment.toNat))])]
  | .decimal x => some [("$numberDecimal", .string x.text)]
  | .binary b =>
    if b.isGeneric then none
    else some [("$binary", .document [
      ("base64", .string b.base64), ("subType", .string (b.subtypeHex 2))])]
  | .regex pattern options =>
    some [("$regularExpression", .document [
      ("pattern", .string pattern), ("options", .string options)])]
  | .pointer collection id =>
    some [("$dbPointer", .document [
      ("$ref", .string collection), ("$id", .document [("$oid", .string id.toHex)])])]
  | .code source => some [("$code", .string source)]
  | .scopedCode source scope => some [("$code", .string source), ("$scope", .document scope)]
  | .null | .boolean _ | .int32 _ | .int64 _ | .double _ | .string _ | .array _ => none

/-- The identity that a value names: the digits of an object id, a text itself, and any other
value by its text in messages. -/
def idText : Bson → String
  | .objectId id => id.toHex
  | .string s => s
  | other => other.display

end Bson

end ProviderRegistry
