/-
# `CommandLine.Arguments` — reading the arguments

Options may stand before the subcommand or after it; what is given after it
counts.  An option's value follows it as the next argument, after `=`, or, for
a one-letter option, at once; one-letter options may share a dash.  An option
may be given once on each side of the subcommand.
-/
import ProviderRegistry.Connection

namespace ProviderRegistry

namespace CommandLine

/-- The ways to print a report. -/
inductive Format where
  | text
  | json
  | yaml
deriving DecidableEq, Inhabited

/-- The subcommands. -/
inductive Command where
  | migrate (force : Bool)
  | rollback
  | validate
  | backup
  | resolve (provider : Option String)
deriving DecidableEq, Inhabited

/-- What a command line asks for. -/
structure Invocation where
  overrides : ConnectionOverrides
  format : Format
  quiet : Bool
  command : Command
deriving Inhabited

/-- Why a command line does not lead to a command. -/
inductive Refusal where
  /-- It breaks a rule of usage. -/
  | usage
  /-- It asks for help. -/
  | help
  /-- It asks for the version. -/
  | version
deriving DecidableEq

/-! ## Options -/

/-- The options. -/
inductive Opt where
  | connectionString
  | database
  | output
  | quiet
  | force
  | provider
  | help
  | version
deriving DecidableEq

/-- The names of the subcommands. -/
inductive Verb where
  | migrate
  | rollback
  | validate
  | backup
  | resolve
deriving DecidableEq

namespace Opt

/-- Whether an option is followed by a value. -/
def takesValue : Opt → Bool
  | .connectionString | .database | .output | .provider => true
  | _ => false

/-- Whether an option has a meaning before the subcommand, or after the given one. -/
def allowed (verb : Option Verb) : Opt → Bool
  | .force => verb == some .migrate
  | .provider => verb == some .resolve
  | .version => verb.isNone
  | _ => true

/-- The options by their long names. -/
def byName : List (String × Opt) := [
  ("connection-string", .connectionString), ("database", .database), ("output", .output),
  ("quiet", .quiet), ("force", .force), ("provider", .provider), ("help", .help),
  ("version", .version)]

/-- The options by their letters. -/
def byLetter : List (Char × Opt) :=
  [('o', .output), ('q', .quiet), ('p', .provider), ('h', .help), ('V', .version)]

/-- The option of a long name on one side of the subcommand. -/
def ofName? (verb : Option Verb) (name : String) : Option Opt :=
  (byName.lookup name).filter (allowed verb)

/-- The option of a letter on one side of the subcommand. -/
def ofLetter? (verb : Option Verb) (letter : Char) : Option Opt :=
  (byLetter.lookup letter).filter (allowed verb)

end Opt

namespace Format

/-- The formats by name. -/
def ofName? (name : String) : Option Format :=
  [("text", text), ("json", json), ("yaml", yaml)].lookup name

end Format

namespace Verb

/-- The subcommands by name. -/
def ofName? (name : String) : Option Verb :=
  [("migrate", migrate), ("rollback", rollback), ("validate", validate), ("backup", backup),
    ("resolve", resolve)].lookup name

end Verb

/-! ## One argument after the other -/

/-- The options given so far on one side of the subcommand, with their values; a flag has an empty
one. -/
abbrev Given := List (Opt × String)

/-- The options with one more; a second of its kind, an unknown format, and the two requests that
end the reading are refused. -/
def give (given : Given) (o : Opt) (value : String) : Except Refusal Given :=
  match o with
  | .help => .error .help
  | .version => .error .version
  | _ =>
    if given.any (·.1 == o) then .error .usage
    else if o == .output && (Format.ofName? value).isNone then .error .usage
    else .ok (given ++ [(o, value)])

/-- The options after an argument, and the option whose value is to follow. -/
abbrev Step := Except Refusal (Given × Option Opt)

/-- An argument `--name` or `--name=value`. -/
def readLong (verb : Option Verb) (given : Given) (text : List Char) : Step :=
  let name := String.ofList (text.takeWhile (· != '='))
  let attached := text.dropWhile (· != '=')
  match Opt.ofName? verb name with
  | none => .error .usage
  | some o =>
    if o.takesValue then
      if attached.isEmpty then .ok (given, some o)
      else (give given o (String.ofList (attached.drop 1))).map (·, none)
    else if attached.isEmpty then (give given o "").map (·, none)
    else .error .usage

/-- The letters after one dash.  The first that takes a value takes the rest for it. -/
def readLetters (verb : Option Verb) (given : Given) : List Char → Step
  | [] => .ok (given, none)
  | letter :: rest =>
    match Opt.ofLetter? verb letter with
    | none => .error .usage
    | some o =>
      if o.takesValue then
        match rest with
        | [] => .ok (given, some o)
        | '=' :: value => (give given o (String.ofList value)).map (·, none)
        | value => (give given o (String.ofList value)).map (·, none)
      else
        match give given o "" with
        | .ok given => readLetters verb given rest
        | .error refusal => .error refusal

/-- Whether an argument is an option and no value. -/
def looksLikeOption (arg : String) : Bool :=
  match arg.toList with
  | '-' :: _ :: _ => true
  | _ => false

/-- Whether `help` may be followed by these arguments: none, or the name of one subcommand. -/
def asksForHelp : List String → Bool
  | [] => true
  | [arg] => (Verb.ofName? arg).isSome || arg == "help"
  | _ => false

/-- The arguments on one side of the subcommand, and what follows them: before it, the subcommand
and the arguments after it.  `awaiting` is the option whose value comes next. -/
def readSide (verb : Option Verb) (given : Given) (awaiting : Option Opt) :
    List String → Except Refusal (Given × Option (Verb × List String))
  | [] => if awaiting.isSome then .error .usage else .ok (given, none)
  | arg :: rest =>
    match awaiting with
    | some o =>
      if looksLikeOption arg then .error .usage
      else match give given o arg with
        | .ok given => readSide verb given none rest
        | .error refusal => .error refusal
    | none =>
      match arg.toList with
      | ['-', '-'] => if verb.isSome && rest.isEmpty then .ok (given, none) else .error .usage
      | '-' :: '-' :: name =>
        match readLong verb given name with
        | .ok (given, awaiting) => readSide verb given awaiting rest
        | .error refusal => .error refusal
      | '-' :: letter :: letters =>
        match readLetters verb given (letter :: letters) with
        | .ok (given, awaiting) => readSide verb given awaiting rest
        | .error refusal => .error refusal
      | _ =>
        if verb.isSome then .error .usage
        else match Verb.ofName? arg with
          | some v => .ok (given, some (v, rest))
          | none => if arg == "help" && asksForHelp rest then .error .help else .error .usage

/-- The subcommand of a name with the options given after it. -/
def commandOf (verb : Verb) (given : Given) : Command :=
  match verb with
  | .migrate => .migrate (given.lookup .force).isSome
  | .rollback => .rollback
  | .validate => .validate
  | .backup => .backup
  | .resolve => .resolve (given.lookup .provider)

/-- What a command line asks for. -/
def parse (args : List String) : Except Refusal Invocation :=
  match readSide none [] none args with
  | .error refusal => .error refusal
  | .ok (_, none) => .error .usage
  | .ok (before, some (verb, rest)) =>
    match readSide (some verb) [] none rest with
    | .error refusal => .error refusal
    | .ok (after, _) =>
      let value (o : Opt) := after.lookup o <|> before.lookup o
      .ok {
        overrides := ⟨value .connectionString, value .database⟩
        format := ((value .output).bind Format.ofName?).getD .text
        quiet := (value .quiet).isSome
        command := commandOf verb after }

end CommandLine

end ProviderRegistry
