/-
# `Text.Inspect` — the text of a value on inspection

Values are shown on one line by their structure: a record by its name and
fields, an optional value by `Some` and `None`, lists and maps by their
members, texts between quotes with every unprintable character escaped.
-/
import ProviderRegistry.Number.Decimal
import ProviderRegistry.Text.Quoted

namespace ProviderRegistry

namespace Inspect

/-- A text. -/
def text (s : String) : String := Text.Quoted.inspect s

/-- A truth value. -/
def flag (b : Bool) : String := if b then "true" else "false"

/-- A floating-point number. -/
def number (x : Double) : String := DoubleFormat.inspected.text x

/-- A value under the name of its kind. -/
def tagged (name content : String) : String := name ++ "(" ++ content ++ ")"

/-- A record: its name and its fields in order. -/
def record (name : String) (fields : List (String × String)) : String :=
  name ++ " \x7b " ++ ", ".intercalate (fields.map fun (key, value) => key ++ ": " ++ value)
    ++ " \x7d"

/-- An optional value. -/
def option {α : Type} (shown : α → String) : Option α → String
  | none => "None"
  | some a => tagged "Some" (shown a)

/-- A list of members already shown. -/
def list (items : List String) : String := "[" ++ ", ".intercalate items ++ "]"

/-- A list of texts. -/
def texts (items : List String) : String := list (items.map text)

/-- A map with its values already shown. -/
def map (fields : List (String × String)) : String :=
  "\x7b" ++ ", ".intercalate (fields.map fun (key, value) => text key ++ ": " ++ value) ++ "\x7d"

end Inspect

end ProviderRegistry
