/-
# `Proofs.Record.Provider` — a provider record written and read back

A provider record has six fields of text, one of further settings and eight
that take any value.  Of the eight nothing is known before they are read; once
they have been, they read back what they hold (`kept_of_decode`), and then so
does the whole record (`decode_encode`): null stands for an absent value, and
the identity alone is left out where there is none.
-/
import ProviderRegistry.Record.Provider
import ProviderRegistry.Proofs.Bson.Decode

namespace ProviderRegistry

open RecordFormat

/-! ## The further settings -/

theorem ExtraConfig.read_toBson (e : ExtraConfig) : format.read e.toBson = .ok e := by
  obtain ⟨model?⟩ := e
  cases model? <;> rfl

namespace ProviderRecord

/-! ## The fields of any value -/

/-- A field of any value that holds what it reads back. -/
def KeptValue (v? : Option Bson) : Prop :=
  Decode.optional Decode.anything (Bson.orNull v?) = .ok v?

/-- All fields of any value do. -/
structure Kept (r : ProviderRecord) : Prop where
  id : KeptValue r.id
  temperature : KeptValue r.temperature
  maxTokens : KeptValue r.maxTokens
  timeout : KeptValue r.timeout
  enabled : KeptValue r.enabled
  isActive : KeptValue r.isActive
  createdAt : KeptValue r.createdAt
  updatedAt : KeptValue r.updatedAt

/-- Whatever a record has been read from, its fields read back what they hold. -/
theorem kept_of_decode {d : Document} {r : ProviderRecord} (h : decode d = .ok r) : r.Kept := by
  refine holds_of_decode ⟨rfl, rfl, rfl, rfl, rfl, rfl, rfl, rfl⟩ ?_ h
  intro entry hentry v a b ha hread
  simp only [format, List.mem_cons, List.not_mem_nil, or_false] at hentry
  -- a field of text or of settings leaves the eight alone, and one of the eight replaces itself
  rcases hentry with rfl | rfl | rfl | rfl | rfl | rfl | rfl | rfl | rfl | rfl | rfl | rfl | rfl
    | rfl | rfl
  all_goals obtain ⟨value, hvalue, rfl⟩ := ok_of_field hread
  · exact { ha with id := Decode.optional_orNull hvalue }
  · exact { ha with }
  · exact { ha with }
  · exact { ha with }
  · exact { ha with }
  · exact { ha with }
  · exact { ha with }
  · exact { ha with }
  · exact { ha with temperature := Decode.optional_orNull hvalue }
  · exact { ha with maxTokens := Decode.optional_orNull hvalue }
  · exact { ha with timeout := Decode.optional_orNull hvalue }
  · exact { ha with enabled := Decode.optional_orNull hvalue }
  · exact { ha with isActive := Decode.optional_orNull hvalue }
  · exact { ha with createdAt := Decode.optional_orNull hvalue }
  · exact { ha with updatedAt := Decode.optional_orNull hvalue }

/-! ## Written and read back -/

theorem nodup_names : (Fields.keys format.fields).Nodup := by decide +kernel

/-- The values of all fields in their order, null for what is absent. -/
def values (r : ProviderRecord) : List Bson := [
  Bson.orNull r.id,
  .string r.name,
  Bson.ofOption .string r.displayName,
  Bson.ofOption .string r.model,
  Bson.ofOption ExtraConfig.toBson r.extraConfig,
  Bson.ofOption .string r.apiKey,
  Bson.ofOption .string r.baseUrl,
  Bson.ofOption .string r.defaultBaseUrl,
  Bson.orNull r.temperature,
  Bson.orNull r.maxTokens,
  Bson.orNull r.timeout,
  Bson.orNull r.enabled,
  Bson.orNull r.isActive,
  Bson.orNull r.createdAt,
  Bson.orNull r.updatedAt]

/-- An identity that is null leaves a blank record as it is. -/
theorem foldlM_take_null (fields : List (String × Bson)) :
    (("_id", Bson.null) :: fields).foldlM format.take blank = fields.foldlM format.take blank := by
  have hnull : format.take blank ("_id", .null) = .ok blank := rfl
  rw [List.foldlM_cons, hnull]
  rfl

/-- So one that is left out reads like one that is null. -/
theorem decode_encode_eq (r : ProviderRecord) : decode (encode r)
    = ((format.fields.zip r.values).map fun e => (e.1.1, e.2)).foldlM format.take blank := by
  obtain ⟨id?, -⟩ := r
  cases id? with
  | some id => rfl
  | none => exact (foldlM_take_null _).symm

/-- A record whose fields read back what they hold is what its document stands for. -/
theorem decode_encode {r : ProviderRecord} (h : r.Kept) : decode (encode r) = .ok r := by
  have htext : ∀ s, Decode.optional Decode.text (Bson.ofOption .string s) = .ok s :=
    Decode.optional_ofOption (fun _ => rfl) nofun
  have hextra : ∀ e, Decode.optional ExtraConfig.format.read
      (Bson.ofOption ExtraConfig.toBson e) = .ok e :=
    Decode.optional_ofOption ExtraConfig.read_toBson nofun
  obtain ⟨hid, htemperature, hmaxTokens, htimeout, henabled, hisActive, hcreatedAt, hupdatedAt⟩ := h
  unfold KeptValue at *
  rw [decode_encode_eq, foldlM_take_named nodup_names fun e he => (List.of_mem_zip he).1]
  simp only [format, values, List.zip_cons_cons, List.zip_nil_left, List.foldlM_cons,
    List.foldlM_nil, field, htext, hextra, hid, htemperature, hmaxTokens, htimeout, henabled,
    hisActive, hcreatedAt, hupdatedAt]
  rfl

end ProviderRecord

end ProviderRegistry
