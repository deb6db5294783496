/-
# `Connection` — where the document store lives

The address and database name of the store, from explicit settings, from the
environment, or put together from its parts.  The redacted form of an address
shows the user but not the password.
-/
import ProviderRegistry.Environment
import ProviderRegistry.Text.Percent

namespace ProviderRegistry

/-- Where the document store lives. -/
structure ConnectionTarget where
  connectionString : String
  databaseName : String
deriving DecidableEq, Inhabited

/-- Settings that come before the environment. -/
structure ConnectionOverrides where
  connectionString : Option String
  databaseName : Option String
deriving Inhabited

namespace ConnectionTarget

/-- The address put together from its parts; credentials are given only when both are set. -/
def assemble (env : Environment) (database : String) : String :=
  let place := env.getOr "MONGODB_HOST" "localhost" ++ ":" ++ env.getOr "MONGODB_PORT" "27017"
    ++ "/" ++ database
  match env.get "MONGODB_USERNAME", env.get "MONGODB_PASSWORD" with
  | some user, some password =>
    "mongodb://" ++ Text.Percent.encode user ++ ":" ++ Text.Percent.encode password ++ "@" ++ place
      ++ "?authSource=" ++ env.getOr "MONGODB_AUTH_SOURCE" "admin"
  | _, _ => "mongodb://" ++ place

/-- The target of an environment and the settings that come before it. -/
def resolve (env : Environment) (overrides : ConnectionOverrides) : ConnectionTarget :=
  let database := (overrides.databaseName
    <|> env.firstOf ["MONGODB_DATABASE", "MONGODB_DATABASE_NAME"]).getD "tradingagents"
  let address := (overrides.connectionString
    <|> env.firstOf ["MONGODB_CONNECTION_STRING", "MONGO_URI"]).getD (assemble env database)
  ⟨address, database⟩

/-! ## Redaction -/

/-- The characters up to and with the first `://`, and those after it. -/
def splitScheme : List Char → Option (List Char × List Char)
  | ':' :: '/' :: '/' :: rest => some ([':', '/', '/'], rest)
  | c :: rest => (splitScheme rest).map fun (head, tail) => (c :: head, tail)
  | [] => none

/-- The characters before the last `@`, and those from it on. -/
def splitLastAt : List Char → Option (List Char × List Char)
  | [] => none
  | c :: rest =>
    match splitLastAt rest with
    | some (head, tail) => some (c :: head, tail)
    | none => if c == '@' then some ([], c :: rest) else none

/-- An address whose credentials show the user and four stars.  A password may hold `@`, so the
host is what follows the last one. -/
def redactChars (address : List Char) : List Char :=
  match splitScheme address with
  | none => address
  | some (scheme, rest) =>
    match splitLastAt rest with
    | none => address
    | some (credentials, place) =>
      scheme ++ credentials.takeWhile (· != ':') ++ ":****".toList ++ place

/-- An address without its password. -/
def redact (address : String) : String := String.ofList (redactChars address.toList)

/-- The target's address without its password. -/
def redacted (t : ConnectionTarget) : String := redact t.connectionString

end ConnectionTarget

end ProviderRegistry
