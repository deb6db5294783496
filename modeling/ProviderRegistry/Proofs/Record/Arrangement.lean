/-
# `Proofs.Record.Arrangement` — records are read alike from any arrangement of their documents

The collections are written by several tools, each of which puts the fields of
a document in an order of its own and adds fields of its own.  Each kind of
record is read from all such documents as from one: its fields stand in places
of their own (`independent_format`), so `RecordFormat.agreeing_decode` applies.
A flat record is read into a draft first, and what is missing in the draft is
asked for afterwards, which makes no difference either.

Where a document does not decode, another arrangement of it does not either,
but the two may fail on different fields.  What their failures have in common
is the kind (`OfDocument`).

## What is proved

All of it for the six kinds of records that are read from whole documents
(`decode_rearranged`).
-/
import ProviderRegistry.Proofs.Bson.Arrangement
import ProviderRegistry.Proofs.Store.Runs
import ProviderRegistry.Record.Legacy
import ProviderRegistry.Record.Provider
import ProviderRegistry.Record.Simplified
import ProviderRegistry.Record.SystemConfig

namespace ProviderRegistry

open RecordFormat

/-! ## The fields of each kind of record

No two of them are put in the same place, which is seen pair by pair. -/

theorem ProviderRecord.independent_format : format.Independent where
  unclosed := rfl
  commuting := by
    simp only [format, List.pairwise_cons, List.forall_mem_cons, List.not_mem_nil, false_implies,
      implies_true, List.Pairwise.nil, and_true]
    and_intros
    all_goals exact commuting_field fun _ _ _ => rfl

theorem SystemConfig.independent_format : format.Independent where
  unclosed := rfl
  commuting := by
    simp only [format, List.pairwise_cons, List.forall_mem_cons, List.not_mem_nil, false_implies,
      implies_true, List.Pairwise.nil, and_true]
    and_intros
    all_goals exact commuting_field fun _ _ _ => rfl

theorem ConfigEntry.independent_format : format.Independent where
  unclosed := rfl
  commuting := by
    simp only [format, List.pairwise_cons, List.forall_mem_cons, List.not_mem_nil, false_implies,
      implies_true, List.Pairwise.nil, and_true]
    and_intros
    all_goals exact commuting_field fun _ _ _ => rfl

theorem ModelCatalog.independent_format : format.Independent where
  unclosed := rfl
  commuting := by
    simp only [format, List.pairwise_cons, List.forall_mem_cons, List.not_mem_nil, false_implies,
      implies_true, List.Pairwise.nil, and_true]
    exact commuting_field fun _ _ _ => rfl

theorem LegacyConfig.independent_format : format.Independent where
  unclosed := rfl
  commuting := by
    simp only [format, List.pairwise_cons, List.forall_mem_cons, List.not_mem_nil, false_implies,
      implies_true, List.Pairwise.nil, and_true]
    and_intros
    all_goals exact commuting_field fun _ _ _ => rfl

theorem SimplifiedConfig.independent_format : format.Independent where
  unclosed := rfl
  commuting := by
    simp only [format, List.pairwise_cons, List.forall_mem_cons, List.not_mem_nil, false_implies,
      implies_true, List.Pairwise.nil, and_true]
    and_intros
    all_goals exact commuting_field fun _ _ _ => rfl

/-! ## Whole records -/

/-- Two failures of documents, whatever their faults are. -/
def OfDocument (first second : ConfigError) : Prop :=
  (∃ fault, first = .document fault) ∧ ∃ fault, second = .document fault

/-- Two documents stand for one record, or neither stands for any, and then an operation that asks
for the record fails with the fault of a document for both. -/
structure StandForOne {α : Type} (decode : Document → Decoded α) (d other : Document) : Prop where
  record : ∀ r, decode d = .ok r ↔ decode other = .ok r
  failure : ∀ db, Matching OfDocument Eq ((Script.ofDecoded (decode d)).outcome db)
    ((Script.ofDecoded (decode other)).outcome db)

theorem matching_ofDecoded {α : Type} {x y : Decoded α} (h : ReadAlike Eq x y) (db : Database) :
    Matching OfDocument Eq ((Script.ofDecoded x).outcome db) ((Script.ofDecoded y).outcome db) := by
  cases h with
  | ok heq => exact .ok heq
  | error e f => exact .error ⟨⟨e.message, rfl⟩, f.message, rfl⟩

theorem standForOne_of_readAlike {α : Type} {decode : Document → Decoded α} {d other : Document}
    (h : ReadAlike Eq (decode d) (decode other)) : StandForOne decode d other :=
  ⟨h.ok_iff, matching_ofDecoded h⟩

theorem standForOne_of_rearranged {α : Type} {format : RecordFormat α} (h : format.Independent)
    {d other : Document} (hd : d.Rearranged format.names other) :
    StandForOne format.decode d other :=
  standForOne_of_readAlike (agreeing_decode h hd.keyed_left hd.keyed hd.agreeOn)

/-- Drafts that are the same are finished alike, or both lack a field. -/
theorem SimplifiedConfig.standForOne_of_rearranged {d other : Document}
    (hd : d.Rearranged format.names other) : StandForOne decode d other := by
  have hdraft := agreeing_decode independent_format hd.keyed_left hd.keyed hd.agreeOn
  refine standForOne_of_readAlike (hdraft.bind fun draft draft' hsame => ?_)
  rw [hsame]
  exact .refl (fun _ => rfl) _

/-- Documents of any record that have the same fields in another order, and fields of other names
besides, stand for the same record, or both fail as documents. -/
theorem decode_rearranged (d other : Document) :
    (d.Rearranged ProviderRecord.format.names other → StandForOne ProviderRecord.decode d other) ∧
    (d.Rearranged SystemConfig.format.names other → StandForOne SystemConfig.decode d other) ∧
    (d.Rearranged ConfigEntry.format.names other → StandForOne ConfigEntry.decode d other) ∧
    (d.Rearranged ModelCatalog.format.names other → StandForOne ModelCatalog.decode d other) ∧
    (d.Rearranged LegacyConfig.format.names other → StandForOne LegacyConfig.decode d other) ∧
    (d.Rearranged SimplifiedConfig.format.names other →
      StandForOne SimplifiedConfig.decode d other) := by
  and_intros
  · exact standForOne_of_rearranged ProviderRecord.independent_format
  · exact standForOne_of_rearranged SystemConfig.independent_format
  · exact standForOne_of_rearranged ConfigEntry.independent_format
  · exact standForOne_of_rearranged ModelCatalog.independent_format
  · exact standForOne_of_rearranged LegacyConfig.independent_format
  · exact SimplifiedConfig.standForOne_of_rearranged

/-- A provider, and the same with its fields in reverse after one that providers do not have. -/
def inOrder : Document := ⟨[("name", .string "openai"), ("is_active", .boolean true)]⟩

def inReverse : Document :=
  ⟨[("note", .int32 5), ("is_active", .boolean true), ("name", .string "openai")]⟩

/-- A document with two fields that do not fit, and the same with them in reverse. -/
def misfits : Document := ⟨[("name", .int32 5), ("model", .boolean true)]⟩

def misfitsInReverse : Document := ⟨[("model", .boolean true), ("name", .int32 5)]⟩

theorem rearranged_inReverse : inOrder.Rearranged ProviderRecord.format.names inReverse where
  keyed := by decide
  fields := by
    refine ⟨[("note", .int32 5)], List.reverse_perm (inOrder.fields ++ [("note", Bson.int32 5)]),
      fun entry hentry => ?_⟩
    rw [List.mem_singleton.mp hentry]
    decide

theorem rearranged_misfits : misfits.Rearranged ProviderRecord.format.names misfitsInReverse where
  keyed := by decide
  fields := ⟨[], .swap _ _ _, fun _ hentry => absurd hentry List.not_mem_nil⟩

/-- The first two stand for one provider.  The other two for none, and each fails on its own first
field. -/
theorem standForOne_inReverse :
    (∃ r, ProviderRecord.decode inOrder = .ok r ∧ ProviderRecord.decode inReverse = .ok r) ∧
    StandForOne ProviderRecord.decode misfits misfitsInReverse ∧
    ∃ e f, ProviderRecord.decode misfits = .error e ∧
      ProviderRecord.decode misfitsInReverse = .error f ∧ e.message ≠ f.message := by
  obtain ⟨hrecord, -⟩ := (decode_rearranged inOrder inReverse).1 rearranged_inReverse
  have hmisfits := (decode_rearranged misfits misfitsInReverse).1 rearranged_misfits
  exact ⟨⟨_, rfl, (hrecord _).mp rfl⟩, hmisfits, _, _, rfl, rfl, by decide +kernel⟩

end ProviderRegistry
