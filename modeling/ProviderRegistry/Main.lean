/-
# `Main` — the command line as a program

The variables that the registry knows are taken from the process and from a
`.env` file in the working directory.  This build has no driver for a
document server, so connecting always fails: resolving goes on with the
environment, and every other command says that there is no server.
-/
import ProviderRegistry.CommandLine.Run

namespace ProviderRegistry

namespace CommandLine

/-- The variables that the registry looks at. -/
def knownVariables : List String :=
  EnvProvider.all.flatMap (fun p => [p.apiKeyVar, p.baseUrlVar, p.modelVar])
    ++ ["MONGODB_CONNECTION_STRING", "MONGO_URI", "MONGODB_DATABASE", "MONGODB_DATABASE_NAME",
      "MONGODB_HOST", "MONGODB_PORT", "MONGODB_USERNAME", "MONGODB_PASSWORD",
      "MONGODB_AUTH_SOURCE"]

/-- The answer of a target that no server stands behind. -/
def noServer (target : ConnectionTarget) : Outcome Database :=
  .error (.storeUnavailable ("no server at " ++ target.redacted
    ++ " database " ++ target.databaseName))

/-- The supply of identities of a process that stores nothing. -/
def plainIds (n : Nat) : ObjectId := .ofNat n

/-- The present of a process that stores nothing. -/
def epoch : Moment := ⟨⟨0⟩, "1970-01-01T00:00:00+00:00"⟩

end CommandLine

end ProviderRegistry

open ProviderRegistry in
/-- Runs the command line of this process. -/
def main (args : List String) : IO UInt32 := do
  let mut entries : List (String × String) := []
  for name in CommandLine.knownVariables do
    match ← IO.getEnv name with
    | some value => entries := entries ++ [(name, value)]
    | none => pure ()
  let file ← try IO.FS.readFile ".env" catch _ => pure ""
  let env := Environment.withFile ⟨entries⟩ file
  let exit := CommandLine.carryOut args env CommandLine.epoch CommandLine.noServer
    (Database.empty CommandLine.plainIds)
  IO.print exit.stdout
  IO.eprint exit.stderr
  return exit.status.toUInt32
