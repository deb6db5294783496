/-
# `Admin.View` — a provider record as operators see it

The record with its key masked and every field filled in: what is missing or
cannot be read shows its default.
-/
import ProviderRegistry.Record.Provider
import ProviderRegistry.Resolution

namespace ProviderRegistry

/-- A provider record as operators see it. -/
structure ConfigView where
  id : String
  name : String
  displayName : String
  model : String
  apiKey : Option String
  baseUrl : Option String
  temperature : Double
  maxTokens : Int64
  timeout : Int64
  enabled : Bool
  createdAt : String
  updatedAt : String
deriving DecidableEq, Inhabited

namespace ConfigView

/-- The text of a stored time: a text itself, or a date that RFC 3339 can write. -/
def timeText? : Bson → Option String
  | .string s => some s
  | .dateTime d => d.rfc3339?
  | _ => none

/-- The view of a record; a time that cannot be shown is the present. -/
def ofRecord (now : Moment) (r : ProviderRecord) : ConfigView where
  id := r.idText.getD ""
  name := r.name
  displayName := r.displayName.getD ""
  model := r.model.getD ""
  apiKey := r.apiKey.map ApiKey.mask
  baseUrl := r.baseUrl
  temperature := (r.temperature.bind Bson.toDouble?).getD Defaults.temperature
  maxTokens := (r.maxTokens.bind Bson.toInt64?).getD Defaults.maxTokens
  timeout := (r.timeout.bind Bson.toInt64?).getD Defaults.timeout
  enabled := (r.enabled.bind Bson.toBool?).getD true
  createdAt := (r.createdAt.bind timeText?).getD now.text
  updatedAt := (r.updatedAt.bind timeText?).getD now.text

/-- The views of all provider records that decode, by name; records of one name stay in order. -/
def list (now : Moment) : Script (List ConfigView) := do
  let documents ← Script.find Collections.providers Document.empty
  let records := Resolution.decodable ProviderRecord.decode documents
  return (records.mergeSort fun a b => a.name ≤ b.name).map (ofRecord now)

end ConfigView

end ProviderRegistry
