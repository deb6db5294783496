/-
# `Bson.Binary` — bytes with a subtype

What the bytes are is told by a subtype of one byte: 0 where nothing is said,
4 for a universal identifier, from 128 on what an application likes.
-/
import ProviderRegistry.Text.Base64
import ProviderRegistry.Text.Inspect
import ProviderRegistry.Text.Percent

namespace ProviderRegistry

/-- Bytes and what they are. -/
structure Binary where
  subtype : UInt8
  bytes : List UInt8
deriving DecidableEq

namespace Binary

/-- Whether nothing is said about the bytes. -/
def isGeneric (b : Binary) : Bool := b.subtype == 0

/-- The bytes as a text, where they are UTF-8. -/
def text? (b : Binary) : Option String := String.fromUTF8? ⟨b.bytes.toArray⟩

/-- The bytes in base 64. -/
def base64 (b : Binary) : String := String.ofList (Text.Base64.encode b.bytes)

/-- The subtype in hexadecimal digits, at least as many as given. -/
def subtypeHex (width : Nat) (b : Binary) : String :=
  String.ofList (Text.padZeros width (Text.hexDigits b.subtype.toNat))

/-- The subtypes that have a name. -/
def subtypeNames : List String := [
  "Generic", "Function", "BinaryOld", "UuidOld", "Uuid", "Md5", "Encrypted", "Column",
  "Sensitive", "Vector"]

/-- The subtype on inspection. -/
def inspectSubtype (b : Binary) : String :=
  match subtypeNames[b.subtype.toNat]? with
  | some name => name
  | none =>
    Inspect.tagged (if 128 ≤ b.subtype.toNat then "UserDefined" else "Reserved")
      (toString b.subtype.toNat)

/-- The text of bytes in messages. -/
def display (b : Binary) : String :=
  "Binary(0x" ++ b.subtypeHex 1 ++ ", " ++ b.base64 ++ ")"

/-- The bytes on inspection. -/
def inspect (b : Binary) : String :=
  Inspect.record "Binary" [
    ("subtype", b.inspectSubtype),
    ("bytes", Inspect.list (b.bytes.map fun byte => toString byte.toNat))]

/-! ## Reading -/

/-- The bytes spelled by pairs of hexadecimal digits. -/
def bytesOfHex? : List Char → Option (List UInt8)
  | [] => some []
  | a :: b :: rest => do
    let x ← Text.Percent.hexValue? a
    let y ← Text.Percent.hexValue? b
    let tail ← bytesOfHex? rest
    some (UInt8.ofNat (16 * x + y) :: tail)
  | _ => none

/-- The digits of a universal identifier without the four hyphens that part them. -/
def withoutHyphens? (cs : List Char) : Option (List Char) :=
  match cs.drop 8, cs.drop 13, cs.drop 18, cs.drop 23 with
  | '-' :: _, '-' :: _, '-' :: _, '-' :: tail =>
    some (cs.take 8 ++ (cs.drop 9).take 4 ++ (cs.drop 14).take 4 ++ (cs.drop 19).take 4 ++ tail)
  | _, _, _, _ => none

/-- Whether the characters begin with `urn:uuid:`, in any case. -/
def isUrn (cs : List Char) : Bool := (cs.take 9).map Char.toLower == "urn:uuid:".toList

/-- The 32 digits of a universal identifier: alone, or parted by hyphens, and then bare, between
braces or after `urn:uuid:`. -/
def uuidDigits? (cs : List Char) : Option (List Char) :=
  if cs.length == 32 then some cs
  else if cs.length == 36 then withoutHyphens? cs
  else if cs.length == 38 && cs.head? == some '\x7b' && cs.getLast? == some '\x7d' then
    withoutHyphens? (cs.drop 1).dropLast
  else if cs.length == 45 && isUrn cs then withoutHyphens? (cs.drop 9)
  else none

/-- The universal identifier that a text spells. -/
def ofUuid? (s : String) : Option Binary := do
  let digits ← uuidDigits? s.toList
  let bytes ← bytesOfHex? digits
  some ⟨4, bytes⟩

end Binary

end ProviderRegistry
