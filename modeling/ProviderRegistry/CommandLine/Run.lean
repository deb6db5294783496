/-
# `CommandLine.Run` — carrying out a command

A command is carried out on a store that has been connected to, or on the
failure to connect.  Resolving needs no store: it goes on with an empty one.
How the report is printed has no part in what is done.
-/
import ProviderRegistry.CommandLine.Report
import ProviderRegistry.Environment.File
import ProviderRegistry.Session

namespace ProviderRegistry

namespace CommandLine

/-- Why a command fails. -/
inductive Failure where
  | config (error : ConfigError)
  /-- No enabled config belongs to the provider that was asked for. -/
  | noSuchProvider (provider : String)
deriving DecidableEq

namespace Failure

/-- The failure in words. -/
def message : Failure → String
  | .config error => error.message
  | .noSuchProvider provider => "No enabled LLM config for provider '" ++ provider ++ "'"

/-- What to do about a failure, where there is advice. -/
def hint? : Failure → Option String
  | .config (.alreadyMigrated _) =>
    some ("Re-run with `llmconf migrate --force` to overwrite the simplified configs, "
      ++ "or `llmconf rollback` to restore the legacy collections.")
  | .config (.schemaMismatch _) =>
    some "Run `llmconf rollback` to restore the legacy collections from backup."
  | .config (.storeUnavailable _) =>
    some ("Check MONGODB_CONNECTION_STRING (or MONGODB_HOST/MONGODB_PORT) and that the "
      ++ "server is reachable.")
  | _ => none

/-- The text of a failure. -/
def text (f : Failure) : String :=
  "Error: " ++ f.message ++ "\n" ++ (match f.hint? with
    | some hint => "\nNext steps: " ++ hint ++ "\n"
    | none => "")

end Failure

/-- What a command has come to. -/
abbrev Result := Except Failure Report

/-- The report or failure of a script on a database, and the database after it. -/
def perform {α : Type} (db : Database) (script : Script α) (report : α → Report) :
    Result × Database :=
  let (outcome, after) := script.run db
  ((outcome.map report).mapError .config, after)

/-- The configs of a database and an environment, or the one of a provider. -/
def resolveConfigs (env : Environment) (db : Database) (provider : Option String) :
    Result × Database :=
  let session := Session.start db env none
  match provider with
  | some name =>
    let (found, after) := session.byProvider name
    (match found with
      | some c => .ok (.config c)
      | none => .error (.noSuchProvider name), after.database)
  | none =>
    let (configs, session) := session.configs true
    let (active, after) := session.active
    (.ok (.resolution configs active), after.database)

/-- A command on a database. -/
def Command.on (env : Environment) (now : Moment) (db : Database) : Command → Result × Database
  | .migrate force => perform db (Migration.run now.date force) .run
  | .rollback => perform db Migration.rollback .rollback
  | .validate => perform db Migration.validate .validation
  | .backup => perform db Migration.backup .backup
  | .resolve provider => resolveConfigs env db provider

/-- A command on what connecting has come to; `spare` is the empty store that resolving goes on
with when there is no other. -/
def Command.run (env : Environment) (now : Moment) (connected : Outcome Database)
    (spare : Database) (command : Command) : Result × Database :=
  match connected, command with
  | .ok db, _ => command.on env now db
  | .error _, .resolve provider => resolveConfigs env spare provider
  | .error error, _ => (.error (.config error), spare)

/-- What a process leaves behind. -/
structure Exit where
  status : Nat
  stdout : String
  stderr : String
deriving DecidableEq, Inhabited

/-- What a result is printed as. -/
def Result.exit (format : Format) (quiet : Bool) : Result → Exit
  | .ok report => ⟨0, report.print format quiet, ""⟩
  | .error failure => ⟨1, "", failure.text⟩

/-- The text for who asks for help. -/
def helpText : String :=
  "llmconf - Resolve LLM provider configs and migrate their schema\n\n"
    ++ "Usage: llmconf [OPTIONS] <COMMAND>\n\n"
    ++ "Commands: migrate, rollback, validate, backup, resolve, help\n"

/-- What a command line that leads to no command is printed as. -/
def Refusal.exit : Refusal → Exit
  | .usage => ⟨2, "", "Usage: llmconf [OPTIONS] <COMMAND>\n"⟩
  | .help => ⟨0, helpText, ""⟩
  | .version => ⟨0, "llmconf 0.2.0\n", ""⟩

/-- What a command line is printed as, and the store after it; `spare` stands for the store of one that
leads to no command. -/
def carriedOut (args : List String) (env : Environment) (now : Moment)
    (connect : ConnectionTarget → Outcome Database) (spare : Database) : Exit × Database :=
  match parse args with
  | .error refusal => (refusal.exit, spare)
  | .ok invocation =>
    let connected := connect (ConnectionTarget.resolve env invocation.overrides)
    let (result, after) := invocation.command.run env now connected spare
    (result.exit invocation.format invocation.quiet, after)

/-- A command line carried out. -/
def carryOut (args : List String) (env : Environment) (now : Moment)
    (connect : ConnectionTarget → Outcome Database) (spare : Database) : Exit :=
  (carriedOut args env now connect spare).1

end CommandLine

end ProviderRegistry
