/-
# `Proofs.Admin.Edit` — what the operations on provider records read and change

Listing, showing and trying out a record only read the provider records.  An
edit or a deletion writes to them once, as the last thing that it does: one
that fails has changed nothing (`allOrNothing_write`, `allOrNothing_delete`).
-/
import ProviderRegistry.Admin.Probe
import ProviderRegistry.Proofs.Store.Runs

namespace ProviderRegistry

open Collections

variable {s : String → Prop}

/-! ## Reading -/

theorem ConfigView.reads_list (hs : s providers) (now : Moment) : (ConfigView.list now).Reads s :=
  (Script.reads_find hs _).bind fun _ => Script.reads_pure _

theorem Probe.reads_prepare (hs : s providers) (id : String) : (Probe.prepare id).Reads s := by
  refine (Script.reads_ofOutcome _).bind fun oid => (Script.reads_findFirst hs _).bind fun d? => ?_
  cases d? with
  | none => exact Script.reads_pure _
  | some d => exact (Script.reads_ofDecoded _).bind fun _ => Script.reads_pure _

theorem ConfigEdit.reads_readBack (hs : s providers) (id : Bson) (now : Moment) :
    (ConfigEdit.readBack id now).Reads s := by
  refine (Script.reads_findFirst hs _).bind fun d? => ?_
  cases d? with
  | none => exact Script.reads_fail _
  | some d => exact (Script.reads_ofDecoded _).bind fun _ => Script.reads_pure _

/-! ## Writing -/

/-- An edit that fails has changed nothing. -/
theorem ConfigEdit.allOrNothing_write (e : ConfigEdit) (now : Moment) :
    (e.write now).AllOrNothing := by
  unfold write
  cases e.fault? with
  | some fault => exact Script.allOrNothing_fail _
  | none =>
      cases e.id with
      | none => exact Script.allOrNothing_call _
      | some id =>
          refine .of_reads (Script.reads_ofOutcome (s := fun _ => True) _) fun oid => ?_
          refine .of_reads (Script.reads_findFirst (s := fun _ => True) trivial _) fun d? => ?_
          cases d? with
          | none => exact Script.allOrNothing_fail _
          | some d =>
              have hupdate := Script.allOrNothing_call
                (.update providers (idFilter (.objectId oid)) (e.changes now))
              exact hupdate.map fun _ => Bson.objectId oid

/-- A deletion that fails has changed nothing, also where there was nothing to delete. -/
theorem allOrNothing_delete (id : String) : (deleteConfig id).AllOrNothing := by
  refine .of_reads (Script.reads_ofOutcome (s := fun _ => True) _) fun oid => ?_
  intro s db after error h
  rcases hcall : (Script.deleteFirst providers (idFilter (.objectId oid))).run db
    with ⟨refusal | found, middle⟩
  · rw [Script.run_bind_error hcall] at h
    obtain ⟨-, rfl⟩ := Prod.mk.inj h
    exact Script.allOrNothing_call _ s db middle refusal hcall
  · rw [Script.run_bind_ok hcall] at h
    cases found with
    | true => exact nomatch (Prod.mk.inj h).1
    | false =>
        have hanswer := (Script.run_call (.deleteFirst providers _) db).symm.trans hcall
        exact (Prod.mk.inj h).2 ▸ Database.alike_of_not_deleted hanswer

end ProviderRegistry
