/-
# `Proofs.Session.Order` — identities stay distinct, and documents in their order, come what may

A registry starts on an empty store, and then anything may happen to it: edits,
deletions, backups, migrations and rollbacks, whether they succeed or fail
half-way, calls by others, seedings, and a store that goes away and comes back.
Two things are asked of the steps (`Admitted`).  A call by others must not set
an identity on a document that is there, and a seeding must not use one twice.
No operation of the registry itself has to be asked for that
(`asks_operation`): edits set no identities, and backups and rollbacks, which
take identities from one collection to another, clear the other first.

So no step is needed after which the store would have to be repaired
(`ordered_throughout`).  In every collection the documents have distinct
identities, and stand in the order in which they were added.
-/
import ProviderRegistry.Proofs.Session.Steps
import ProviderRegistry.Proofs.Store.Seeding

namespace ProviderRegistry

open Collections

/-! ## The scripts of the registry keep identities -/

theorem ConfigEdit.asks_write (e : ConfigEdit) (now : Moment) :
    (e.write now).Asks Call.KeepsIds := by
  unfold write
  cases e.fault? with
  | some fault => exact Script.asks_fail _
  | none =>
      cases e.id with
      | none => exact Script.asks_call trivial
      | some id =>
          refine (Script.reads_ofOutcome (s := fun _ => True) _).asks_keepsIds.bind fun oid => ?_
          refine (Script.reads_findFirst (s := fun _ => True) trivial _).asks_keepsIds.bind
            fun d? => ?_
          cases d? with
          | none => exact Script.asks_fail _
          | some d =>
              have hchanges : (Call.update providers (idFilter (.objectId oid))
                  (e.changes now)).KeepsIds := by
                unfold Call.KeepsIds changes
                cases e.trimmedKey <;> simp
              exact (Script.asks_call hchanges).bind fun _ => Script.asks_pure _

theorem asks_delete (id : String) : (deleteConfig id).Asks Call.KeepsIds := by
  refine (Script.reads_ofOutcome (s := fun _ => True) _).asks_keepsIds.bind fun oid => ?_
  refine (Script.asks_call trivial).bind fun found => ?_
  cases found with
  | true => exact Script.asks_pure _
  | false => exact Script.asks_fail _

namespace Migration

theorem asks_copy (source target : String) : (copy source target).Asks Call.KeepsIds := by
  refine (Script.spares_find _ _).asks_keepsIds.bind fun ds => ?_
  split
  · exact Script.asks_pure none
  · exact (Script.asks_call trivial).bind fun _ =>
      (Script.asks_insertAll target (fun _ => trivial) ds).bind fun _ => Script.asks_pure _

theorem asks_copyAll (ends : String → String × String) :
    ∀ cs : List String, (copyAll ends cs).Asks Call.KeepsIds
  | [] => trivial
  | _ :: rest =>
      (asks_copy _ _).bind fun _ => (asks_copyAll ends rest).bind fun _ => Script.asks_pure _

theorem asks_backup : backup.Asks Call.KeepsIds :=
  (asks_copyAll _ legacy).bind fun _ => Script.asks_pure _

theorem asks_rollback : rollback.Asks Call.KeepsIds :=
  (Script.asks_call trivial).bind fun _ =>
    (asks_copyAll _ legacy).bind fun _ => Script.asks_pure _

theorem asks_rebuild (now : DateTime) (force : Bool) (report : BackupReport) :
    (rebuild now force report).Asks Call.KeepsIds := by
  rw [rebuild_eq]
  refine (reads_survey force).asks_keepsIds.bind fun s => ?_
  refine (spares_mergeAll s.lookup now s.configs).asks_keepsIds.bind fun merged => ?_
  exact (Script.asks_call trivial).bind fun _ =>
    (Script.asks_insertAll simplified (fun _ => trivial) _).bind fun _ => Script.asks_pure _

theorem asks_migrate (now : DateTime) (force : Bool) :
    (migrate now force).Asks Call.KeepsIds :=
  asks_backup.bind fun report => asks_rebuild now force report

theorem asks_validate : validate.Asks Call.KeepsIds := spares_validate.asks_keepsIds

theorem asks_run (now : DateTime) (force : Bool) : (run now force).Asks Call.KeepsIds :=
  (asks_migrate now force).bind fun _ => asks_validate.bind fun _ => Script.asks_pure _

end Migration

namespace Session

variable {s : Session}

theorem asks_fetch (s : Session) (useCache : Bool) : (s.fetch useCache).Asks Call.KeepsIds := by
  unfold fetch
  split
  · exact Script.asks_pure _
  · exact (Resolution.reads_load s.environment).asks_keepsIds.bind fun _ => Script.asks_pure _

/-- No operation sets an identity on a document that is there. -/
theorem asks_operation (s : Session) (op : Operation) : (op.script s).Asks Call.KeepsIds := by
  cases op with
  | invalidate => exact Script.asks_pure _
  | list now =>
      exact (ConfigView.reads_list (s := fun _ => True) trivial now).asks_keepsIds.bind
        fun _ => Script.asks_pure _
  | upsert now e =>
      refine (e.asks_write now).bind fun id => ?_
      exact (ConfigEdit.reads_readBack (s := fun _ => True) trivial id now).asks_keepsIds.bind
        fun _ => Script.asks_pure _
  | delete id => exact asks_delete id
  | test id =>
      exact (Probe.reads_prepare (s := fun _ => True) trivial id).asks_keepsIds.bind
        fun _ => Script.asks_pure _
  | configs useCache => exact s.asks_fetch useCache
  | reload => exact s.asks_fetch false
  | active | byProvider | project => exact s.asks_fetch true
  | backup => exact Migration.asks_backup.bind fun _ => Script.asks_pure _
  | migrate now force =>
      exact (Migration.asks_migrate now force).bind fun _ => Script.asks_pure _
  | validate => exact Migration.asks_validate.bind fun _ => Script.asks_pure _
  | migrateAndValidate now force =>
      exact (Migration.asks_run now force).bind fun _ => Script.asks_pure _

/-! ## Steps -/

/-- What is asked of a step: a call by others sets no identity, and a seeding uses none twice. -/
def Admitted (s : Session) : Step → Prop
  | .change (.ask call) => call.KeepsIds
  | .change (.seed c ds) => s.database.Seedable c ds
  | .operation _ | .rollback | .insertAll .. | .switch .. => True

/-- Admitted steps, one after the other. -/
def AdmittedAll (s : Session) : List Step → Prop
  | [] => True
  | step :: rest => s.Admitted step ∧ (s.after step).AdmittedAll rest

theorem admittedAll_append {s : Session} {earlier later : List Step} :
    s.AdmittedAll (earlier ++ later)
      ↔ s.AdmittedAll earlier ∧ (s.afterAll earlier).AdmittedAll later := by
  induction earlier generalizing s with
  | nil => exact ⟨fun h => ⟨trivial, h⟩, And.right⟩
  | cons step rest ih => exact (and_congr_right fun _ => ih).trans and_assoc.symm

end Session

namespace History

/-- No document has been added. -/
def nothing : History := fun _ => []

/-- The history after a step. -/
def step (history : History) (s : Session) : Session.Step → History
  | .operation op => history.run (op.script s) s.database
  | .rollback => history.run Migration.rollback s.database
  | .change (.ask call) => history.after s.database call
  | .change (.seed c ds) => history.seed s.database c ds
  | .insertAll c ds => history.run (Script.insertAll c ds) s.database
  | .switch .. => history

/-- The history after several steps. -/
def steps (history : History) (s : Session) : List Session.Step → History
  | [] => history
  | step :: rest => (history.step s step).steps (s.after step) rest

theorem steps_append (history : History) (s : Session) (earlier later : List Session.Step) :
    history.steps s (earlier ++ later)
      = (history.steps s earlier).steps (s.afterAll earlier) later := by
  induction earlier generalizing history s with
  | nil => rfl
  | cons step rest ih => exact ih _ _

end History

namespace Ordered

variable {since history : History} {s : Session}

theorem of_nothing (hempty : ∀ c, s.database.documents c = []) :
    Ordered .nothing .nothing s.database :=
  fun c => ⟨.refl [], hempty c, hempty c ▸ .nil⟩

/-- Every admitted step keeps the order, be it an operation that fails half-way. -/
theorem step (h : Ordered since history s.database) {step : Session.Step}
    (hstep : s.Admitted step) :
    Ordered since (history.step s step) (s.after step).database := by
  cases step with
  | operation op =>
      show Ordered since _ (s.perform op).database
      rw [s.database_perform op]
      exact h.run (s.asks_operation op)
  | rollback => exact h.run Migration.asks_rollback
  | change made =>
      cases made with
      | ask call => exact h.answer hstep
      | seed c ds => exact h.seed hstep
  | insertAll c ds => exact h.run (Script.asks_insertAll c (fun _ => trivial) ds)
  | switch offline failing => exact h.of_documents rfl

theorem steps (h : Ordered since history s.database) {steps : List Session.Step}
    (hsteps : s.AdmittedAll steps) :
    Ordered since (history.steps s steps) (s.afterAll steps).database := by
  induction steps generalizing history s with
  | nil => exact h
  | cons first rest ih => exact ih (h.step hsteps.1) hsteps.2

end Ordered

namespace Session

/-- Whatever happens to a registry that starts on an empty store, in every collection each document
has an identity that no later one has, and the documents are those that are left in its places.  The
places are in the order of addition: whatever has happened earlier, the places of then are still
there, before all others, and whoever stands in one of them stood there then, under the same
identity. -/
theorem ordered_throughout {s : Session} (hempty : ∀ c, s.database.documents c = [])
    {earlier later : List Step} (h : s.AdmittedAll (earlier ++ later)) :
    Ordered (History.nothing.steps s earlier) (History.nothing.steps s (earlier ++ later))
      (s.afterAll (earlier ++ later)).database := by
  obtain ⟨hearlier, hlater⟩ := admittedAll_append.mp h
  have hstart : Ordered .nothing .nothing s.database := .of_nothing hempty
  have hthen := hstart.steps hearlier
  rw [History.steps_append, afterAll_append]
  exact hthen.renew.steps hlater

/-! ### A migration, taken back -/

/-- Two providers come in, and one is added a second time. -/
def comings : List Step := [
  .change (.seed providers [⟨[("_id", .int32 7), ("name", .string "openai")]⟩,
    ⟨[("name", .string "zhipu")]⟩]),
  .change (.ask (.insert providers ⟨[("_id", .int32 7), ("name", .string "deepseek")]⟩))]

/-- A migration, a failure while the store is away, a deletion, and the migration taken back. -/
def goings : List Step := [
  .operation (.migrate ⟨0⟩ false),
  .switch true [],
  .operation (.delete "000000000000000000000001"),
  .switch false [],
  .change (.ask (.deleteFirst providers ⟨[("name", .string "openai")]⟩)),
  .rollback]

/-- A registry on an empty store, whose identities are the numbers. -/
def untouched : Session := start (.empty ObjectId.ofNat) .empty none

theorem admittedAll_comings : untouched.AdmittedAll (comings ++ goings) := by
  refine ⟨?_, trivial, trivial, trivial, trivial, trivial, trivial, trivial, trivial⟩
  show untouched.database.Seedable providers _
  decide +kernel

/-- Both providers are back, in new places. -/
theorem ordered_comings :
    Ordered (History.nothing.steps untouched comings)
        (History.nothing.steps untouched (comings ++ goings))
        (untouched.afterAll (comings ++ goings)).database ∧
      (History.nothing.steps untouched (comings ++ goings) providers).map Option.isSome
        = [false, false, true, true] :=
  ⟨ordered_throughout (fun _ => rfl) admittedAll_comings, by decide +kernel⟩

end Session

end ProviderRegistry
