/-
# `Admin.Edit` — creating, changing and deleting provider records

An edit is checked before the store is touched.  With an identity it changes
the record of that identity, without one it creates a record.  A blank key
leaves the stored key alone.
-/
import ProviderRegistry.Admin.View

namespace ProviderRegistry

/-- A request to create or change a provider record. -/
structure ConfigEdit where
  id : Option String := none
  name : String
  displayName : String
  model : String
  apiKey : Option String := none
  baseUrl : Option String := none
  temperature : Double := Defaults.temperature
  maxTokens : Int64 := Defaults.maxTokens
  timeout : Int64 := Defaults.timeout
  enabled : Bool := true

/-- The rule that a request breaks. -/
inductive EditFault where
  | blankName
  | blankModel
  | temperature
  | maxTokens
  | timeout
  | badId (id : String)
deriving DecidableEq

namespace EditFault

/-- The rule in words. -/
def message : EditFault → String
  | .blankName => "name must not be empty"
  | .blankModel => "model must not be empty"
  | .temperature => "temperature must be within [0, 2]"
  | .maxTokens => "max_tokens must be at least 1"
  | .timeout => "timeout must be at least 1"
  | .badId id => "invalid config id: " ++ id

/-- The failure of an edit that breaks the rule. -/
def toError (f : EditFault) : ConfigError := .validation f.message

end EditFault

/-- The filter for the record of an identity. -/
def idFilter (id : Bson) : Document := ⟨[("_id", id)]⟩

/-- The identity that an operator's text names. -/
def parseId (id : String) : Outcome ObjectId :=
  match ObjectId.ofHex? id with
  | some oid => .ok oid
  | none => .error (EditFault.badId id).toError

/-- The failure for an identity without a record. -/
def noSuchConfig (id : String) : ConfigError := .notFound ("config " ++ id)

namespace ConfigEdit

/-- The first rule that an edit breaks. -/
def fault? (e : ConfigEdit) : Option EditFault :=
  if Text.isBlank e.name then some .blankName
  else if Text.isBlank e.model then some .blankModel
  else if !((Double.zero false).le e.temperature && e.temperature.le Double.two) then
    some .temperature
  else if e.maxTokens < 1 then some .maxTokens
  else if e.timeout < 1 then some .timeout
  else none

/-- The key of an edit without white space around it; a blank one is none. -/
def trimmedKey (e : ConfigEdit) : Option String :=
  Text.nonBlank (e.apiKey.map Text.trim)

/-- The fields that an edit sets on a record. -/
def changes (e : ConfigEdit) (now : Moment) : Document :=
  ⟨[("name", .string e.name),
      ("display_name", .string e.displayName),
      ("model", .string e.model),
      ("base_url", Bson.ofOption .string e.baseUrl),
      ("temperature", .double e.temperature),
      ("max_tokens", .int64 e.maxTokens),
      ("timeout", .int64 e.timeout),
      ("enabled", .boolean e.enabled),
      ("is_active", .boolean e.enabled),
      ("updated_at", .string now.text)]
    ++ (match e.trimmedKey with
      | some key => [("api_key", .string key)]
      | none => [])⟩

/-- The document that an edit creates. -/
def creation (e : ConfigEdit) (now : Moment) : Document :=
  ⟨[("name", .string e.name),
    ("display_name", .string e.displayName),
    ("model", .string e.model),
    ("api_key", Bson.ofOption .string e.trimmedKey),
    ("base_url", Bson.ofOption .string e.baseUrl),
    ("temperature", .double e.temperature),
    ("max_tokens", .int64 e.maxTokens),
    ("timeout", .int64 e.timeout),
    ("enabled", .boolean e.enabled),
    ("is_active", .boolean e.enabled),
    ("created_at", .string now.text),
    ("updated_at", .string now.text)]⟩

/-- The writing of an edit; its value is the identity of the record written. -/
def write (e : ConfigEdit) (now : Moment) : Script Bson := do
  if let some fault := e.fault? then
    Script.fail fault.toError
  else
    match e.id with
    | some id =>
      let oid ← Script.ofOutcome (parseId id)
      let filter := idFilter (.objectId oid)
      match ← Script.findFirst Collections.providers filter with
      | none => Script.fail (noSuchConfig id)
      | some _ =>
        let _ ← Script.update Collections.providers filter (e.changes now)
        return .objectId oid
    | none => Script.insert Collections.providers (e.creation now)

/-- The view of a record that has just been written. -/
def readBack (id : Bson) (now : Moment) : Script ConfigView := do
  match ← Script.findFirst Collections.providers (idFilter id) with
  | none => Script.fail (.notFound "config disappeared after write")
  | some d => ConfigView.ofRecord now <$> Script.ofDecoded (ProviderRecord.decode d)

/-- The edit on inspection; its key is masked. -/
def inspect (e : ConfigEdit) : String :=
  Inspect.record "ConfigUpsert" [
    ("id", Inspect.option Inspect.text e.id),
    ("name", Inspect.text e.name),
    ("display_name", Inspect.text e.displayName),
    ("model", Inspect.text e.model),
    ("api_key", Inspect.option Inspect.text (e.apiKey.map ApiKey.mask)),
    ("base_url", Inspect.option Inspect.text e.baseUrl),
    ("temperature", Inspect.number e.temperature),
    ("max_tokens", toString e.maxTokens.toInt),
    ("timeout", toString e.timeout.toInt),
    ("enabled", Inspect.flag e.enabled)]

end ConfigEdit

/-- The deletion of the record of an identity. -/
def deleteConfig (id : String) : Script Unit := do
  let oid ← Script.ofOutcome (parseId id)
  let deleted ← Script.deleteFirst Collections.providers (idFilter (.objectId oid))
  if deleted then pure () else Script.fail (noSuchConfig id)

end ProviderRegistry
