/-
# `Yaml.Scalar` — one text as a YAML scalar

A text is written plain unless a reader would take it for something else or
could not tell where it ends.  A text with line breaks is a literal block; a
text that looks like a number, a truth value or null, or that holds an
indicator, stands between single quotes; and one with characters that cannot
be shown, or with blanks around its breaks, between double quotes with escapes.
-/
import ProviderRegistry.Number.Decimal
import ProviderRegistry.Text.Percent
import ProviderRegistry.Text.Quoted

namespace ProviderRegistry

namespace Yaml

/-! ## Characters -/

/-- The characters that end a line. -/
def isBreak (c : Char) : Bool :=
  c == '\n' || c == '\r' || c == '\x85' || c == '\u2028' || c == '\u2029'

/-- The characters that part words: blanks and the ends of lines. -/
def isGap (c : Char) : Bool := c == ' ' || c == '\t' || c == '\x00' || isBreak c

/-- The characters that may stand in a scalar as they are. -/
def isPrintable (c : Char) : Bool :=
  let n := c.toNat
  n == 0x0A || (0x20 ≤ n && n ≤ 0x7E)
    || (0xA0 ≤ n && n != 0xFEFF && n != 0xFFFE && n != 0xFFFF)

/-- The characters with which no plain scalar begins. -/
def isIndicator (c : Char) : Bool :=
  [',', '[', ']', '\x7b', '\x7d', '#', '&', '*', '!', '|', '>', '\'', '"', '%', '@',
    '\x60'].contains c

/-! ## Texts that read as something else -/

/-- The words for the truth values; `yes`, `no`, `on` and their kin are texts. -/
def truthWords : List String := ["true", "True", "TRUE", "false", "False", "FALSE"]

/-- The words for null. -/
def nullWords : List String := ["", "~", "null", "Null", "NULL"]

/-- The words for the numbers that no digits spell. -/
def numberWords : List String :=
  [".inf", ".Inf", ".INF", "+.inf", "+.Inf", "+.INF", "-.inf", "-.Inf", "-.INF",
    ".nan", ".NaN", ".NAN"]

/-- The number spelled by digits of a base, if there is one and all are digits of it. -/
def inBase? (base : Nat) (digits : List Char) : Option Nat :=
  if digits.isEmpty then none
  else digits.foldlM (fun n c =>
    (Text.Percent.hexValue? c).bind fun d => if d < base then some (base * n + d) else none) 0

/-- The integer spelled in base 16, 8 or 2 after a sign has been taken off. -/
def basedNumber? : List Char → Option Nat
  | '0' :: 'x' :: digits => inBase? 16 digits
  | '0' :: 'o' :: digits => inBase? 8 digits
  | '0' :: 'b' :: digits => inBase? 2 digits
  | _ => none

/-- How many integers 128 bits can hold. -/
def integerCount : Nat := 0x100000000000000000000000000000000

/-- Whether a text spells an integer of 128 bits in base 16, 8 or 2. -/
def isBasedInteger (cs : List Char) : Bool :=
  match cs with
  | '-' :: rest => (basedNumber? rest).any (2 * · ≤ integerCount)
  | '+' :: rest => (basedNumber? rest).any (· < integerCount)
  | rest => (basedNumber? rest).any (· < integerCount)

/-- Whether a text is digits with zeros in front, which is no number but looks like one. -/
def isZeroPadded (cs : List Char) : Bool :=
  match (Decimal.takeSign cs).2 with
  | '0' :: d :: rest => (d :: rest).all Char.isDigit
  | _ => false

/-- Whether a text reads as a value other than itself. -/
def isAmbiguous (s : String) : Bool :=
  nullWords.contains s || truthWords.contains s || numberWords.contains s
    || isBasedInteger s.toList || isZeroPadded s.toList
    || (Double.ofText? s).any Double.isFinite

/-! ## Shape of a text -/

/-- Whether two neighbouring characters stand somewhere in the text. -/
def hasPair (first second : Char → Bool) : List Char → Bool
  | a :: b :: rest => (first a && second b) || hasPair first second (b :: rest)
  | _ => false

/-- Whether a text begins with an indicator, or with one that a gap or its end follows. -/
def startsIndicated : List Char → Bool
  | [] => false
  | c :: rest =>
    isIndicator c || ((c == '?' || c == ':' || c == '-') && rest.head?.all isGap)
      || ['-', '-', '-'].isPrefixOf (c :: rest) || ['.', '.', '.'].isPrefixOf (c :: rest)

/-- Whether a text holds an indicator, so that it cannot be plain: at its beginning, a colon
before a gap or its end, or a number sign after a gap. -/
def isIndicated (cs : List Char) : Bool :=
  startsIndicated cs || hasPair (· == ':') isGap cs || cs.getLast?.any (· == ':')
    || hasPair isGap (· == '#') cs

/-- Whether blanks stand beside a line break, or a character cannot be shown: no block holds such
a text. -/
def isUnruly (cs : List Char) : Bool :=
  hasPair (· == ' ') isBreak cs || cs.any (!isPrintable ·)

/-- Whether a text can stand plain. -/
def plainAllowed (cs : List Char) : Bool :=
  let edge (c : Char) := c == ' ' || isBreak c
  !(cs.head?.any edge || cs.getLast?.any edge || isUnruly cs || cs.any isBreak || isIndicated cs)

/-- Whether a text can stand between single quotes. -/
def singleAllowed (cs : List Char) : Bool :=
  !(isUnruly cs || hasPair isBreak (· == ' ') cs)

/-- Whether a text can stand as a literal block. -/
def blockAllowed (cs : List Char) : Bool :=
  !(isUnruly cs || cs.getLast?.any (· == ' '))

/-! ## Writing -/

/-- The ways to write a scalar. -/
inductive Style where
  | plain
  | single
  | double
  | literal
deriving DecidableEq

/-- The way in which a text is written. -/
def styleOf (s : String) : Style :=
  let cs := s.toList
  if cs.contains '\n' then (if blockAllowed cs then .literal else .double)
  else if !isAmbiguous s && plainAllowed cs then .plain
  else if singleAllowed cs then .single
  else .double

/-- Blanks to the given depth. -/
def blanks (depth : Nat) : List Char := List.replicate depth ' '

/-- A text between single quotes: a quote inside is written twice, and a line after a break is
indented. -/
def singleBody (depth : Nat) (afterBreak : Bool) : List Char → List Char
  | [] => if afterBreak then blanks depth else []
  | c :: rest =>
    if isBreak c then c :: singleBody depth true rest
    else (if afterBreak then blanks depth else [])
      ++ (if c == '\'' then ['\'', '\''] else [c]) ++ singleBody depth false rest

/-- The letters of the short escapes. -/
def shortEscapes : List (Char × Char) := [
  ('\x00', '0'), ('\x07', 'a'), ('\x08', 'b'), ('\t', 't'), ('\n', 'n'), ('\x0b', 'v'),
  ('\x0c', 'f'), ('\r', 'r'), ('\x1b', 'e'), ('"', '"'), ('\\', '\\'), ('\x85', 'N'),
  ('\u2028', 'L'), ('\u2029', 'P')]

/-- The number of a character in upper-case hexadecimal digits of a width that holds it. -/
def numberEscape (n : Nat) : List Char :=
  let digits := (Text.hexDigits n).map Char.toUpper
  if n ≤ 0xFF then 'x' :: Text.padZeros 2 digits
  else if n ≤ 0xFFFF then 'u' :: Text.padZeros 4 digits
  else 'U' :: Text.padZeros 8 digits

/-- A character between double quotes. -/
def doubleChar (c : Char) : List Char :=
  match shortEscapes.lookup c with
  | some letter => ['\\', letter]
  | none => if isPrintable c then [c] else '\\' :: numberEscape c.toNat

/-- How a literal block says where it begins and ends: a width when it begins with a blank or a
break, a minus when no break ends it, a plus when several do. -/
def blockHints (cs : List Char) : List Char :=
  let width := if cs.head?.any (fun c => c == ' ' || isBreak c) then ['2'] else []
  let chomp := match cs.reverse with
    | [] => ['-']
    | [c] => if isBreak c then ['+'] else ['-']
    | c :: d :: _ => if !isBreak c then ['-'] else if isBreak d then ['+'] else []
  width ++ chomp

/-- The lines of a literal block, each indented; an empty line stays empty. -/
def blockBody (depth : Nat) (afterBreak : Bool) : List Char → List Char
  | [] => []
  | c :: rest =>
    if isBreak c then c :: blockBody depth true rest
    else (if afterBreak then blanks depth else []) ++ c :: blockBody depth false rest

/-- A text as a scalar inside a collection; lines of its own stand at the given depth. -/
def scalar (depth : Nat) (s : String) : List Char :=
  let cs := s.toList
  match styleOf s with
  | .plain => cs
  | .single => '\'' :: singleBody depth false cs ++ ['\'']
  | .double => '"' :: cs.flatMap doubleChar ++ ['"']
  | .literal => '|' :: blockHints cs ++ ['\n'] ++ blockBody depth true cs

end Yaml

end ProviderRegistry
