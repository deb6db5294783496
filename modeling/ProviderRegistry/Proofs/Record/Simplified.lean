/-
# `Proofs.Record.Simplified` — the flat records that a migration writes

## What is proved

* A flat record is written field by field in the order in which its fields are
  read, so the document gives the record back (`decode_encode`), as long as the
  one field that takes any value holds a `Resolved` one.  It does in every
  record that is merged from a config that has been read (`resolved_merge`).

* `assignDefault` marks the first enabled record and no other
  (`defaultMarked_assignDefault`), and what it has marked stays so in every
  first part of the list (`DefaultMarked.take`), so that a list which is only
  begun is marked like a whole one.
-/
import ProviderRegistry.Migration.Merge
import ProviderRegistry.Proofs.Bson.Decode

namespace ProviderRegistry

open RecordFormat

/-! ## The time of creation -/

namespace LegacyConfig

/-- The time at which a config was created, if it tells one, stands for itself. -/
theorem resolved_createdAt {d : Document} {c : LegacyConfig} (h : decode d = .ok c) :
    ∀ v, c.createdAt = some v → v.Resolved := by
  refine holds_of_decode (P := fun c : LegacyConfig => ∀ v, c.createdAt = some v → v.Resolved)
    ?_ ?_ h
  · intro v hv
    exact absurd hv (Option.some_ne_none v).symm
  · intro entry hentry v a b ha hread
    simp only [format, List.mem_cons, List.not_mem_nil, or_false] at hentry
    rcases hentry with rfl | rfl | rfl | rfl | rfl | rfl | rfl | rfl | rfl | rfl | rfl | rfl
    case inr.inr.inr.inr.inr.inr.inr.inr.inr.inr.inr =>
      obtain ⟨time, htime, rfl⟩ := ok_of_field hread
      intro w hw
      obtain rfl : time = some w := hw
      exact Decode.resolved_optional htime
    -- every other field leaves the time alone
    all_goals
      obtain ⟨value, -, rfl⟩ := ok_of_field hread
      exact ha

end LegacyConfig

namespace SimplifiedConfig

/-- What is merged from a config that has been read can be read back in all its fields. -/
theorem resolved_merge (lookup : LegacyLookup) (now : DateTime) (id : ObjectId) {d : Document}
    {c : LegacyConfig} (h : LegacyConfig.decode d = .ok c) :
    (merge lookup now id c).createdAt.Resolved := by
  show ((c.createdAt.filter fun v => !v.isNull).getD (.dateTime now)).Resolved
  cases hcreated : c.createdAt.filter fun v => !v.isNull with
  | none => exact Bson.Single.resolved trivial
  | some v =>
      obtain ⟨hv, -⟩ := Option.filter_eq_some_iff.mp hcreated
      exact LegacyConfig.resolved_createdAt h v hv

/-! ## Written and read back -/

theorem nodup_names : (Fields.keys format.fields).Nodup := by decide +kernel

/-- A record is what its document stands for. -/
theorem decode_encode {r : SimplifiedConfig} (h : r.createdAt.Resolved) :
    decode (encode r) = .ok r := by
  have htext : ∀ s, Decode.optional Decode.text (Bson.ofOption .string s) = .ok s :=
    Decode.optional_ofOption (fun _ => rfl) nofun
  have hnumber : ∀ x, Decode.optional Decode.number (Bson.ofOption .double x) = .ok x :=
    Decode.optional_ofOption (fun _ => rfl) nofun
  have htexts : ∀ items, Decode.list Decode.text (.array (items.map .string)) = .ok items :=
    Decode.list_map fun _ => rfl
  have hcreated : Decode.anything r.createdAt = .ok r.createdAt := h
  -- the document holds the fields of the format in their order
  have hfields : (encode r).fields
      = (format.fields.zip ((encode r).fields.map (·.2))).map fun e => (e.1.1, e.2) := rfl
  rw [decode, RecordFormat.decode, ofFields, hfields,
    foldlM_take_named nodup_names fun e he => (List.of_mem_zip he).1]
  simp only [format, encode, List.map_cons, List.map_nil, List.zip_cons_cons, List.zip_nil_left,
    List.foldlM_cons, List.foldlM_nil, field, htext, hnumber, htexts, hcreated]
  rfl

theorem mapM_decode_encode {records : List SimplifiedConfig}
    (h : ∀ r ∈ records, r.createdAt.Resolved) :
    (records.map encode).mapM decode = .ok records := by
  induction records with
  | nil => rfl
  | cons r rest ih =>
      rw [List.map_cons, List.mapM_cons, decode_encode (h r List.mem_cons_self),
        ih fun r hr => h r (List.mem_cons_of_mem _ hr)]
      rfl

/-- No required field is missing in the document of a record. -/
theorem contains_required (r : SimplifiedConfig) :
    ∀ name ∈ requiredFields, (encode r).contains name = true := by
  intro name hname
  simp only [requiredFields, List.mem_cons, List.not_mem_nil, or_false] at hname
  rcases hname with rfl | rfl | rfl | rfl <;> rfl

/-! ## The default -/

/-- Each record is kept in its place and but for its mark, which only the first enabled one has. -/
theorem assignDefault_eq (records : List SimplifiedConfig) :
    assignDefault records = records.mapIdx fun i r =>
      { r with isDefault := records.findIdx? (·.enabled) == some i } := by
  induction records with
  | nil => rfl
  | cons first rest ih =>
      rw [assignDefault, List.mapIdx_cons, List.findIdx?_cons]
      split
      · refine congrArg (List.cons _) (List.ext_getElem? fun i => ?_)
        simp
      · have hfirst : ((rest.findIdx? (·.enabled)).map (· + 1) == some 0) = false := by
          cases rest.findIdx? (·.enabled) <;> rfl
        have hlater : ∀ i, ((rest.findIdx? (·.enabled)).map (· + 1) == some (i + 1))
            = (rest.findIdx? (·.enabled) == some i) := by
          intro i
          cases rest.findIdx? (·.enabled) <;> simp
        simp only [hfirst, hlater, ih]

/-- A record is the default exactly where it is enabled and none before it is. -/
def DefaultMarked (records : List SimplifiedConfig) : Prop :=
  ∀ before r after, records = before ++ r :: after →
    (r.isDefault = true ↔ r.enabled = true ∧ ∀ other ∈ before, other.enabled = false)

theorem defaultMarked_nil : DefaultMarked [] := by
  intro before r after h
  exact absurd h (by simp)

theorem DefaultMarked.take {records : List SimplifiedConfig} (h : DefaultMarked records) (n : Nat) :
    DefaultMarked (records.take n) := by
  intro before r after htake
  refine h before r (after ++ records.drop n) ?_
  rw [← List.cons_append, ← List.append_assoc, ← htake, List.take_append_drop]

theorem defaultMarked_assignDefault (records : List SimplifiedConfig) :
    DefaultMarked (assignDefault records) := by
  induction records with
  | nil => exact defaultMarked_nil
  | cons first rest ih =>
      intro before r after h
      rw [assignDefault] at h
      split at h
      · rename_i henabled
        cases before with
        | nil =>
            obtain ⟨rfl, -⟩ := List.cons.inj h
            simpa using henabled
        | cons other before =>
            -- the first record is enabled, and the rest is unmarked
            obtain ⟨rfl, hrest⟩ := List.cons.inj h
            have hr : r ∈ rest.map ({ · with isDefault := false }) := by simp [hrest]
            obtain ⟨source, -, rfl⟩ := List.mem_map.mp hr
            simp [henabled]
      · rename_i hdisabled
        cases before with
        | nil =>
            obtain ⟨rfl, -⟩ := List.cons.inj h
            simpa using hdisabled
        | cons other before =>
            obtain ⟨rfl, hrest⟩ := List.cons.inj h
            rw [ih before r after hrest]
            simp [hdisabled]

/-- The record that is marked is the first enabled one. -/
theorem find?_isDefault_assignDefault (records : List SimplifiedConfig) :
    (assignDefault records).find? (·.isDefault) = (assignDefault records).find? (·.enabled) := by
  induction records with
  | nil => rfl
  | cons first rest ih =>
      rw [assignDefault]
      split
      · rename_i henabled
        simp [henabled]
      · rename_i hdisabled
        simpa [hdisabled] using ih

theorem resolved_assignDefault {records : List SimplifiedConfig}
    (h : ∀ r ∈ records, r.createdAt.Resolved) :
    ∀ r ∈ assignDefault records, r.createdAt.Resolved := by
  induction records with
  | nil => exact h
  | cons first rest ih =>
      have hfirst := h first List.mem_cons_self
      have hrest : ∀ r ∈ rest, r.createdAt.Resolved := fun r hr => h r (List.mem_cons_of_mem _ hr)
      intro r hr
      rw [assignDefault] at hr
      split at hr
      · rcases List.mem_cons.mp hr with rfl | hr
        · exact hfirst
        · obtain ⟨source, hsource, rfl⟩ := List.mem_map.mp hr
          exact hrest source hsource
      · rcases List.mem_cons.mp hr with rfl | hr
        · exact hfirst
        · exact ih hrest r hr

end SimplifiedConfig

end ProviderRegistry
