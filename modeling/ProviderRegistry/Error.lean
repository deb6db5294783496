/-
# `Error` — why an operation failed

An operation fails for one of seven reasons, each with what a reader of the
message needs to know.  The text of a failure is its `message`.
-/

namespace ProviderRegistry

/-- Why an operation failed. -/
inductive ConfigError where
  /-- The store could not be reached or did not answer. -/
  | storeUnavailable (reason : String)
  /-- A record that was asked for is not there. -/
  | notFound (subject : String)
  /-- A sample of the destination lacks required fields. -/
  | schemaMismatch (missing : List String)
  /-- The destination already holds records. -/
  | alreadyMigrated (existing : Nat)
  /-- A request breaks a rule and was turned away before the store was touched. -/
  | validation (rule : String)
  /-- A document could not be read or may not be stored. -/
  | document (fault : String)
  /-- A model could not be called. -/
  | execution (reason : String)
deriving DecidableEq

namespace ConfigError

/-- The text of a failure. -/
def message : ConfigError → String
  | .storeUnavailable reason => "Store unavailable: " ++ reason
  | .notFound subject => "Not found: " ++ subject
  | .schemaMismatch missing => "Schema mismatch, missing fields: " ++ ", ".intercalate missing
  | .alreadyMigrated existing => "Destination already holds " ++ toString existing ++ " records"
  | .validation rule => "Validation error: " ++ rule
  | .document fault => "Document error: " ++ fault
  | .execution reason => "Execution error: " ++ reason

/-- Whether the failure is that of the store, so that a reader may turn to another source. -/
def isStoreUnavailable : ConfigError → Bool
  | .storeUnavailable _ => true
  | _ => false

end ConfigError

/-- The outcome of an operation. -/
abbrev Outcome := Except ConfigError

end ProviderRegistry
