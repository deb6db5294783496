/-
# `Json.Value` — values with ordered fields, and their JSON text

The values in which settings and reports are handed out.  The fields of an
object keep their order.  The compact text has no blanks; the indented one
puts each member on a line of its own, two blanks deeper.
-/
import ProviderRegistry.Fields
import ProviderRegistry.Text.Inspect

namespace ProviderRegistry

/-- A value of a report or a setting. -/
inductive Json where
  | null
  | bool (b : Bool)
  | integer (n : Int)
  | number (x : Double)
  | string (s : String)
  | array (items : List Json)
  | object (fields : List (String × Json))
deriving Inhabited

namespace Json

/-- An optional value; none is null. -/
def ofOption {α : Type} (value : α → Json) : Option α → Json
  | some a => value a
  | none => .null

/-- A natural number. -/
def ofNat (n : Nat) : Json := .integer n

/-- A list of texts. -/
def ofTexts (items : List String) : Json := .array (items.map .string)

/-- The text of a number; what is not finite is null. -/
def numberText (x : Double) : String :=
  if x.isFinite then DoubleFormat.json.text x else "null"

/-! ## Compact text -/

mutual

/-- The text of a value without blanks. -/
def compact : Json → String
  | .null => "null"
  | .bool b => if b then "true" else "false"
  | .integer n => toString n
  | .number x => numberText x
  | .string s => Text.Quoted.json s
  | .array items => "[" ++ ",".intercalate (compactItems items) ++ "]"
  | .object fields => "\x7b" ++ ",".intercalate (compactFields fields) ++ "\x7d"

/-- The texts of the items of a list. -/
def compactItems : List Json → List String
  | [] => []
  | x :: xs => compact x :: compactItems xs

/-- The texts of the fields of an object, each after its key. -/
def compactFields : List (String × Json) → List String
  | [] => []
  | (key, x) :: rest => (Text.Quoted.json key ++ ":" ++ compact x) :: compactFields rest

end

/-! ## Indented text -/

/-- A line break and the blanks of a depth. -/
def newline (depth : Nat) : String := "\n" ++ String.ofList (List.replicate (2 * depth) ' ')

/-- Members on lines of their own between two brackets; nothing between them when there is none. -/
def block (opening closing : String) (depth : Nat) (members : List String) : String :=
  if members.isEmpty then opening ++ closing
  else opening ++ newline (depth + 1) ++ ("," ++ newline (depth + 1)).intercalate members
    ++ newline depth ++ closing

mutual

/-- The indented text of a value at a depth. -/
def indented (depth : Nat) : Json → String
  | .null => "null"
  | .bool b => if b then "true" else "false"
  | .integer n => toString n
  | .number x => numberText x
  | .string s => Text.Quoted.json s
  | .array items => block "[" "]" depth (indentedItems (depth + 1) items)
  | .object fields => block "\x7b" "\x7d" depth (indentedFields (depth + 1) fields)

/-- The texts of the items of a list, at a depth. -/
def indentedItems (depth : Nat) : List Json → List String
  | [] => []
  | x :: xs => indented depth x :: indentedItems depth xs

/-- The texts of the fields of an object, at a depth, each after its key. -/
def indentedFields (depth : Nat) : List (String × Json) → List String
  | [] => []
  | (key, x) :: rest =>
    (Text.Quoted.json key ++ ": " ++ indented depth x) :: indentedFields depth rest

end

/-- The indented text of a value. -/
def pretty (v : Json) : String := indented 0 v

/-! ## Inspection -/

mutual

/-- The text of a value on inspection. -/
def inspect : Json → String
  | .null => "Null"
  | .bool b => Inspect.tagged "Bool" (Inspect.flag b)
  | .integer n => Inspect.tagged "Number" (toString n)
  | .number x => Inspect.tagged "Number" (numberText x)
  | .string s => Inspect.tagged "String" (Inspect.text s)
  | .array items => "Array " ++ Inspect.list (inspectItems items)
  | .object fields => "Object " ++ Inspect.map (inspectFields fields)

/-- The inspected items of a list. -/
def inspectItems : List Json → List String
  | [] => []
  | x :: xs => inspect x :: inspectItems xs

/-- The inspected fields of an object. -/
def inspectFields : List (String × Json) → List (String × String)
  | [] => []
  | (key, x) :: rest => (key, inspect x) :: inspectFields rest

end

end Json

end ProviderRegistry
