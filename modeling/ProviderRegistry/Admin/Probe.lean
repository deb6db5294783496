/-
# `Admin.Probe` — trying out a stored provider

A short prompt is sent with the stored key and address.  A probe that cannot
be sent, or whose call fails, is an outcome and no failure of the operation.
-/
import ProviderRegistry.Admin.Edit
import ProviderRegistry.Execution.Request

namespace ProviderRegistry

/-- What a probe has found. -/
structure ProbeOutcome where
  success : Bool
  message : String
  preview : Option String
deriving DecidableEq, Inhabited

namespace ProbeOutcome

/-- The outcome of a probe that has not got a reply. -/
def failed (message : String) : ProbeOutcome := ⟨false, message, none⟩

/-- The outcome of a reply: its first hundred characters are shown. -/
def replied (reply : String) : ProbeOutcome :=
  ⟨true, "LLM connection successful", some (String.ofList (reply.toList.take 100))⟩

/-- The outcome of a call. -/
def ofReply : Outcome String → ProbeOutcome
  | .ok reply => replied reply
  | .error error => failed error.message

end ProbeOutcome

/-- How far a probe comes before a model is called. -/
inductive Probe where
  /-- It ends without a call. -/
  | settled (outcome : ProbeOutcome)
  /-- It has a request to send. -/
  | ready (request : ExecutionRequest)

namespace Probe

/-- The prompt of a probe. -/
def prompt : String := "Hi"

/-- The request that probes a record with its key. -/
def requestFor (r : ProviderRecord) (apiKey : String) : ExecutionRequest where
  provider := r.name
  model := r.explicitModel.getD (Defaults.modelFor r.name)
  baseUrl := r.baseUrl <|> r.defaultBaseUrl
  apiKey := some apiKey
  temperature := Defaults.temperature
  maxTokens := 100
  timeout := 30

/-- The probe of a record. -/
def ofRecord (r : ProviderRecord) : Probe :=
  match Text.nonBlank r.apiKey with
  | none => .settled (.failed "No API key configured. Please add an API key first.")
  | some key => .ready (requestFor r key)

/-- The probe of the record of an identity. -/
def prepare (id : String) : Script Probe := do
  let oid ← Script.ofOutcome (parseId id)
  match ← Script.findFirst Collections.providers (idFilter (.objectId oid)) with
  | none => return .settled (.failed "Configuration not found")
  | some d => ofRecord <$> Script.ofDecoded (ProviderRecord.decode d)

/-- The outcome of a probe, and the stand-in after it. -/
def conclude (probe : Probe) (invoker : Option Rehearsal) : ProbeOutcome × Option Rehearsal :=
  match probe, invoker with
  | .settled outcome, _ => (outcome, invoker)
  | .ready _, none => (.failed "No execution capability configured", none)
  | .ready request, some rehearsal =>
    let (reply, after) := rehearsal.invoke request prompt
    (.ofReply reply, some after)

end Probe

end ProviderRegistry
