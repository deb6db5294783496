/-
# `Environment.File` — variables from a file of `NAME=value` lines

A line sets one variable; blank lines and lines that begin with `#` say
nothing.  A value may be quoted, and then go on over several lines; it ends at
a blank that is not quoted, and `$NAME` and `${NAME}` in it stand for a
variable set before.  Reading ends at the first line that is none of this.
What the environment holds already stays.

A text is first cut into entries, an entry being a line or as many lines as an
open quote joins; then each entry is read by itself.
-/
import ProviderRegistry.Environment
import ProviderRegistry.Text.Alphanumeric

namespace ProviderRegistry

namespace EnvFile

/-! ## Values -/

/-- Where a value stands between two characters. -/
inductive Mode where
  /-- Outside quotes, or between double quotes. -/
  | plain
  /-- After a backslash. -/
  | escaped
  /-- Between single quotes. -/
  | single
  /-- After the blank that ends the value. -/
  | ended
  /-- In a comment after the value. -/
  | comment
  /-- In the name after a `$`. -/
  | name (letters : List Char)
  /-- In a name between braces. -/
  | braced (letters : List Char)
deriving DecidableEq

/-- What has been read of a value. -/
structure ValueState where
  mode : Mode
  /-- Whether a double quote is open. -/
  quoted : Bool
  value : List Char
deriving DecidableEq

namespace ValueState

/-- One more character of the value. -/
def push (s : ValueState) (c : Char) : ValueState :=
  { s with mode := .plain, value := s.value ++ [c] }

/-- The value of a named variable put into the value. -/
def expand (s : ValueState) (lookup : String → String) (letters : List Char) : ValueState :=
  { s with mode := .plain, value := s.value ++ (lookup (String.ofList letters)).toList }

/-- A character outside single quotes, names and escapes. -/
def stepPlain (s : ValueState) (c : Char) : ValueState :=
  if c == '$' then { s with mode := .name [] }
  else if c == '\\' then { s with mode := .escaped }
  else if c == '"' then { s with quoted := !s.quoted }
  else if s.quoted then s.push c
  else if c == '\'' then { s with mode := .single }
  else if c == ' ' || c == '\t' then { s with mode := .ended }
  else s.push c

/-- The state after one more character; none where the character may not stand. -/
def step (lookup : String → String) (s : ValueState) (c : Char) : Option ValueState :=
  match s.mode with
  | .comment => some s
  | .ended =>
    if c == ' ' || c == '\t' then some s
    else if c == '#' then some { s with mode := .comment }
    else none
  | .escaped =>
    if ['\\', '\'', '"', '$', ' '].contains c then some (s.push c)
    else if c == 'n' then some (s.push '\n')
    else none
  | .single =>
    if c == '\'' then some { s with mode := .plain }
    else some { s with value := s.value ++ [c] }
  | .name letters =>
    if Text.isAlphanumeric c then some { s with mode := .name (letters ++ [c]) }
    else if c == '\x7b' && letters.isEmpty then some { s with mode := .braced [] }
    else
      let s := s.expand lookup letters
      if c == '$' then some { s with mode := .name [] } else some (s.push c)
  | .braced letters =>
    if c == '\x7d' then some (s.expand lookup letters)
    else some { s with mode := .braced (letters ++ [c]) }
  | .plain => some (s.stepPlain c)

/-- The value that has been read; none when a quote or a brace is still open. -/
def finish (lookup : String → String) (s : ValueState) : Option String :=
  if s.quoted then none
  else match s.mode with
    | .single | .braced _ => none
    | .name letters => some (String.ofList (s.expand lookup letters).value)
    | _ => some (String.ofList s.value)

end ValueState

/-- The value that a text stands for. -/
def readValue? (lookup : String → String) (cs : List Char) : Option String :=
  (cs.foldlM (ValueState.step lookup) ⟨.plain, false, []⟩).bind (·.finish lookup)

/-! ## Entries -/

/-- What an entry says. -/
inductive Entry where
  | nothing
  | sets (name value : String)
  | malformed

/-- A name and what follows it: letters, digits, `_` and `.`, and no digit or point in front. -/
def takeName (cs : List Char) : Option (String × List Char) :=
  if cs.head?.any (fun c => c.isAlpha || c == '_') then
    let inName (c : Char) := c.isAlphanum || c == '_' || c == '.'
    some (String.ofList (cs.takeWhile inName),
      (cs.dropWhile inName).dropWhile Text.isWhiteSpace)
  else none

/-- The name that an entry sets and the text after its `=`; a leading `export` is passed over. -/
def takeAssignment (cs : List Char) : Option (String × List Char) :=
  match takeName cs with
  | some (name, '=' :: rest) => some (name, rest.dropWhile Text.isWhiteSpace)
  | some ("export", rest) =>
    match takeName rest with
    | some (name, '=' :: rest) => some (name, rest.dropWhile Text.isWhiteSpace)
    | _ => none
  | _ => none

/-- What an entry says. -/
def readEntry (lookup : String → String) (text : List Char) : Entry :=
  let cs := Text.trimChars text
  if cs.isEmpty || cs.head? == some '#' then .nothing
  else match takeAssignment cs with
    | none => .malformed
    | some (name, value) =>
      if value.isEmpty || value.head? == some '#' then .sets name ""
      else match readValue? lookup value with
        | some v => .sets name v
        | none => .malformed

/-! ## Cutting a text into entries -/

/-- Where the cutting stands between two characters. -/
inductive CutMode where
  /-- Where a line may end. -/
  | free
  /-- After one blank, where a `#` begins a comment and the text may not end. -/
  | blank
  /-- After a backslash. -/
  | escaped
  /-- Between double quotes. -/
  | double
  /-- After a backslash between double quotes. -/
  | doubleEscaped
  /-- Between single quotes. -/
  | single
  /-- After a backslash between single quotes. -/
  | singleEscaped
  /-- After the `#` of a comment. -/
  | comment
deriving DecidableEq

namespace CutMode

/-- Outside quotes: where a character leads that is neither a blank nor the `#` of a comment. -/
def outside (c : Char) : CutMode :=
  if c == '\\' then .escaped
  else if c == '"' then .double
  else if c == '\'' then .single
  else .free

/-- Where one more character leads.  A second blank in a row is like any other character. -/
def next (mode : CutMode) (c : Char) : CutMode :=
  match mode with
  | .free => if Text.isWhiteSpace c && c != '\n' && c != '\r' then .blank else outside c
  | .blank => if c == '#' then .comment else outside c
  | .escaped => .free
  | .double => if c == '\\' then .doubleEscaped else if c == '"' then .free else .double
  | .doubleEscaped => .double
  | .single => if c == '\\' then .singleEscaped else if c == '\'' then .free else .single
  | .singleEscaped => .single
  | .comment => .comment

end CutMode

/-- The entries of a text, given the mode and what has been read of the first, backwards; nothing
stands for one that the end of the text leaves open. -/
def cut (mode : CutMode) (entry : List Char) : List Char → List (Option (List Char))
  | [] => [if mode = .free ∨ mode = .comment then some entry.reverse else none]
  | c :: rest =>
    if mode = .comment then
      if c == '\n' then some entry.reverse :: cut .free [] rest else cut .comment entry rest
    else if c == '#' && entry.all Text.isWhiteSpace then cut .comment entry rest
    else
      match mode.next c with
      | .comment => cut .comment entry rest
      | .free =>
        if c == '\n' then some entry.reverse :: cut .free [] rest
        else cut .free (c :: entry) rest
      | mode => cut mode (c :: entry) rest

/-- The entries of a text; a mark of the byte order in front is left out. -/
def entries (text : String) : List (Option (List Char)) :=
  match text.toList with
  | '\uFEFF' :: cs => cut .free [] cs
  | cs => cut .free [] cs

/-- The variables that entries set, up to the first that is malformed.  A name in a value is looked
up in the environment and then among the variables set before. -/
def readEntries (env : Environment) (found : List (String × String)) :
    List (Option (List Char)) → List (String × String)
  | [] | none :: _ => found
  | some text :: rest =>
    let lookup (name : String) := ((env.withFallback found).held name).getD ""
    match readEntry lookup text with
    | .nothing => readEntries env found rest
    | .sets name value => readEntries env (found ++ [(name, value)]) rest
    | .malformed => found

end EnvFile

namespace Environment

/-- The environment with the variables of a file put under those that it holds. -/
def withFile (env : Environment) (text : String) : Environment :=
  env.withFallback (EnvFile.readEntries env [] (EnvFile.entries text))

end Environment

end ProviderRegistry
