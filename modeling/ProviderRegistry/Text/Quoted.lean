/-
# `Text.Quoted` — texts between double quotes

Two ways to quote a text.  `json` escapes the quote, the backslash and the
controls below the space, and nothing else; `inspect` also escapes every
character that is not shown as it is, by its number in braces.
-/
import ProviderRegistry.Text.Printable

namespace ProviderRegistry

namespace Text

/-- The digits of a number in base sixteen, in lower case. -/
def hexDigits (n : Nat) : List Char :=
  Nat.toDigits 16 n

/-- Digits with zeros in front up to the given width. -/
def padZeros (width : Nat) (digits : List Char) : List Char :=
  List.replicate (width - digits.length) '0' ++ digits

namespace Quoted

/-- A character between the quotes of a JSON string. -/
def jsonChar (c : Char) : List Char :=
  if c == '"' then ['\\', '"']
  else if c == '\\' then ['\\', '\\']
  else if c == '\n' then ['\\', 'n']
  else if c == '\r' then ['\\', 'r']
  else if c == '\t' then ['\\', 't']
  else if c == '\x08' then ['\\', 'b']
  else if c == '\x0c' then ['\\', 'f']
  else if c.toNat < 0x20 then ['\\', 'u'] ++ padZeros 4 (hexDigits c.toNat)
  else [c]

/-- A text as a JSON string. -/
def json (s : String) : String :=
  String.ofList ('"' :: s.toList.flatMap jsonChar ++ ['"'])

/-- A character between the quotes of an inspected text. -/
def inspectChar (c : Char) : List Char :=
  if c == '"' then ['\\', '"']
  else if c == '\\' then ['\\', '\\']
  else if c == '\n' then ['\\', 'n']
  else if c == '\r' then ['\\', 'r']
  else if c == '\t' then ['\\', 't']
  else if c == '\x00' then ['\\', '0']
  else if isPrintable c then [c]
  else ['\\', 'u', '\x7b'] ++ hexDigits c.toNat ++ ['\x7d']

/-- A text as it is shown on inspection. -/
def inspect (s : String) : String :=
  String.ofList ('"' :: s.toList.flatMap inspectChar ++ ['"'])

end Quoted

end Text

end ProviderRegistry
