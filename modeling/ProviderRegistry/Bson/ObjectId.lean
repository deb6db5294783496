/-
# `Bson.ObjectId` — record identities of 96 bits

An identity is a number below `2 ^ 96`, written as 24 hexadecimal digits in
lower case and read in either case.
-/
import ProviderRegistry.Text.Percent
import ProviderRegistry.Text.Quoted

namespace ProviderRegistry

/-- The identity of a stored document. -/
structure ObjectId where
  value : Fin 0x1000000000000000000000000
deriving DecidableEq

namespace ObjectId

/-- The identity of a number, of which the lowest 96 bits count. -/
def ofNat (n : Nat) : ObjectId :=
  ⟨⟨n % 0x1000000000000000000000000, Nat.mod_lt n (by decide)⟩⟩

/-- Where nothing else is given, an identity is that of zero. -/
instance : Inhabited ObjectId := ⟨ofNat 0⟩

/-- The 24 digits of an identity. -/
def toHex (id : ObjectId) : String :=
  String.ofList (Text.padZeros 24 (Text.hexDigits id.value.val))

/-- The number spelled by hexadecimal digits, if all of them are. -/
def hexNumber? (cs : List Char) : Option Nat :=
  cs.foldlM (fun n c => (Text.Percent.hexValue? c).map (16 * n + ·)) 0

/-- The identity spelled by exactly 24 hexadecimal digits. -/
def ofHex? (s : String) : Option ObjectId :=
  if s.toList.length == 24 then
    (hexNumber? s.toList).map ofNat
  else none

end ObjectId

end ProviderRegistry
