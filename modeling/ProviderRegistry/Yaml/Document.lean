/-
# `Yaml.Document` — a value as a YAML document

Mappings and lists are written as blocks, two blanks deeper per mapping; the
items of a list stand at the depth of the key that holds them.  A collection
without members is written in brackets.
-/
import ProviderRegistry.Json.Value
import ProviderRegistry.Yaml.Scalar

namespace ProviderRegistry

namespace Yaml

/-- A line with its end; a block that ends in a break has it already. -/
def closeLine (line : List Char) : List Char :=
  if line.getLast?.any isBreak then line else line ++ ['\n']

/-- A value that stands on the line of its key or its dash; a list or mapping here has no
members. -/
def leaf (depth : Nat) : Json → List Char
  | .null => closeLine " null".toList
  | .bool b => closeLine (if b then " true" else " false").toList
  | .integer n => closeLine (' ' :: (toString n).toList)
  | .number x => closeLine (' ' :: (DoubleFormat.yaml.text x).toList)
  | .string s => closeLine (' ' :: scalar depth s)
  | .array _ => closeLine " []".toList
  | .object _ => closeLine " \x7b\x7d".toList

mutual

/-- The value of a field, from the colon on.  The block of a list stands at the depth of the field,
that of a mapping two blanks deeper. -/
def value (depth : Nat) : Json → List Char
  | .array items =>
    if items.isEmpty then leaf depth (.array []) else '\n' :: listItems depth items
  | .object fields =>
    if fields.isEmpty then leaf depth (.object []) else '\n' :: mapping (depth + 2) fields
  | v => leaf (depth + 2) v

/-- The fields of a mapping, each on its own lines. -/
def mapping (depth : Nat) : List (String × Json) → List Char
  | [] => []
  | (key, v) :: rest =>
    blanks depth ++ scalar (depth + 2) key ++ ':' :: value depth v ++ mapping depth rest

/-- The items of a list, each after a dash. -/
def listItems (depth : Nat) : List Json → List Char
  | [] => []
  | item :: rest => blanks depth ++ '-' :: listItem depth item ++ listItems depth rest

/-- An item, from its dash on: the first member of a collection stands on the line of the dash. -/
def listItem (depth : Nat) : Json → List Char
  | .array items =>
    if items.isEmpty then leaf depth (.array [])
    else ' ' :: (listItems (depth + 2) items).drop (depth + 2)
  | .object fields =>
    if fields.isEmpty then leaf depth (.object [])
    else ' ' :: (mapping (depth + 2) fields).drop (depth + 2)
  | v => leaf (depth + 2) v

end

/-- A value as a document. -/
def document : Json → String
  | .array items =>
    String.ofList (if items.isEmpty then "[]\n".toList else listItems 0 items)
  | .object fields =>
    String.ofList (if fields.isEmpty then "\x7b\x7d\n".toList else mapping 0 fields)
  | v => String.ofList ((leaf 0 v).drop 1)

end Yaml

end ProviderRegistry
