/-
# `Proofs.Store.Supply` — the identities that a run draws

A database has a supply of identities and draws them from it one by one: for a
document that is added without one, and wherever a script asks for one.  Nothing
changes the supply, and no identity is drawn twice.  A script that does neither
leaves nothing behind than other documents and a longer count of reads, and so
does every part of it.

## What is proved

    any script    ⟹  the same supply, and no fewer identities drawn    (`supply_run`)
    Quiet script  ⟹  `Undrawn db (script.run db).2`                     (`Quiet.run`)

`Script.Quiet script db` is about every place at which the run on `db` can be
stopped.  It is put together as scripts are (`Quiet.bind`), and reads, deletions
and insertions of documents with an identity have it.
-/
import ProviderRegistry.Proofs.Store.Runs

namespace ProviderRegistry

namespace Database

/-- The next identities of the supply, as many as are given, are distinct. -/
def Supplies (db : Database) (n : Nat) : Prop :=
  ∀ i < n, ∀ j < i, db.ids (db.drawn + j) ≠ db.ids (db.drawn + i)

instance (db : Database) (n : Nat) : Decidable (db.Supplies n) :=
  inferInstanceAs (Decidable (∀ i < n, ∀ j < i, db.ids (db.drawn + j) ≠ db.ids (db.drawn + i)))

theorem Supplies.mono {db : Database} {m n : Nat} (h : db.Supplies n) (hmn : m ≤ n) :
    db.Supplies m :=
  fun i hi => h i (Nat.lt_of_lt_of_le hi hmn)

/-! ## What may change without a draw -/

/-- Only documents and the count of reads differ. -/
structure Undrawn (a b : Database) : Prop where
  offline : b.offline = a.offline
  failing : b.failing = a.failing
  ids : b.ids = a.ids
  drawn : b.drawn = a.drawn

namespace Undrawn

variable {a b d : Database}

theorem refl (a : Database) : Undrawn a a := ⟨rfl, rfl, rfl, rfl⟩

theorem trans (h₁ : Undrawn a b) (h₂ : Undrawn b d) : Undrawn a d :=
  ⟨h₂.offline.trans h₁.offline, h₂.failing.trans h₁.failing, h₂.ids.trans h₁.ids,
    h₂.drawn.trans h₁.drawn⟩

theorem eq (h : Undrawn a b) : b = { a with documents := b.documents, queries := b.queries } := by
  cases a
  cases b
  simpa using ⟨h.offline, h.failing, h.ids, h.drawn⟩

theorem supplies {n : Nat} (h : Undrawn a b) (ha : a.Supplies n) : b.Supplies n := by
  unfold Supplies
  rw [h.ids, h.drawn]
  exact ha

end Undrawn

theorem undrawn_put (db : Database) (c : String) (ds : List Document) :
    db.Undrawn (db.put c ds) := ⟨rfl, rfl, rfl, rfl⟩

theorem undrawn_served (db : Database) (reads : Nat) : db.Undrawn (db.served reads) :=
  ⟨rfl, rfl, rfl, rfl⟩

theorem undrawn_guarded {α : Type} {db : Database} (c : String) {given : Outcome α × Database}
    (h : db.Undrawn given.2) : db.Undrawn (db.guarded c given).2 := by
  unfold guarded
  cases db.fault? c with
  | none => exact h
  | some _ => exact .refl db

theorem undrawn_change (db : Database) (c : String) (changed : Option (List Document)) :
    db.Undrawn (db.change c changed).2 := by
  cases changed with
  | none => exact .refl db
  | some ds => exact db.undrawn_put c ds

/-- A document that comes with an identity is added under it. -/
theorem undrawn_insertIn (db : Database) (c : String) {d : Document}
    (hid : (d.get? "_id").isSome) : db.Undrawn (db.insertIn c d).2 := by
  obtain ⟨id, hid⟩ := Option.isSome_iff_exists.mp hid
  have hidentify := db.identify_of_some hid
  by_cases hheld : db.Holds c (db.identify d).1
  · rw [insertIn_of_holds hheld, hidentify]
    exact .refl db
  · rw [insertIn_of_free hheld, db.seedOne_of_some c hid]
    exact db.undrawn_put c _

/-- A call that has to draw an identity is a request for one, or adds a document without one. -/
theorem undrawn_answer (db : Database) {call : Call} (hnew : call ≠ .newId)
    (hinsert : ∀ c d, call = .insert c d → (d.get? "_id").isSome) :
    db.Undrawn (db.answer call).2 := by
  cases call with
  | find c _ => exact undrawn_guarded c (db.undrawn_served 1)
  | count c => exact undrawn_guarded c (db.undrawn_served 1)
  | insert c d => exact undrawn_guarded c (db.undrawn_insertIn c (hinsert c d rfl))
  | update c filter fields => exact undrawn_guarded c (db.undrawn_change c _)
  | deleteFirst c filter => exact undrawn_guarded c (db.undrawn_change c _)
  | deleteAll c filter => exact undrawn_guarded c (db.undrawn_put c _)
  | newId => exact absurd rfl hnew

/-- No call changes the supply, and none gives an identity back. -/
theorem supply_answer (db : Database) (call : Call) :
    (db.answer call).2.ids = db.ids ∧ db.drawn ≤ (db.answer call).2.drawn := by
  have hundrawn : ∀ after, db.Undrawn after → after.ids = db.ids ∧ db.drawn ≤ after.drawn :=
    fun _ h => ⟨h.ids, Nat.le_of_eq h.drawn.symm⟩
  cases call with
  | find | count | update | deleteFirst | deleteAll =>
      exact hundrawn _ (db.undrawn_answer nofun fun _ _ h => nomatch h)
  | newId => exact ⟨rfl, Nat.le_succ db.drawn⟩
  | insert c d =>
      cases hid : d.get? "_id" with
      | some id =>
          refine hundrawn _ (db.undrawn_answer nofun fun _ _ h => ?_)
          cases h
          rw [hid]
          rfl
      | none =>
          have hidentify := db.identify_of_none hid
          simp only [answer, guarded]
          cases db.fault? c with
          | some _ => exact ⟨rfl, Nat.le_refl _⟩
          | none =>
              by_cases hheld : db.Holds c (db.identify d).1
              · rw [insertIn_of_holds hheld, hidentify]
                exact ⟨rfl, Nat.le_succ db.drawn⟩
              · rw [insertIn_of_free hheld, db.seedOne_of_none c hid]
                exact ⟨rfl, Nat.le_succ db.drawn⟩

end Database

namespace Script

variable {α β : Type}

/-- A run, however it ends, leaves the supply and goes forward in it. -/
theorem supply_run (script : Script α) (db : Database) :
    (script.run db).2.ids = db.ids ∧ db.drawn ≤ (script.run db).2.drawn := by
  induction script generalizing db with
  | done _ | fail _ => exact ⟨rfl, Nat.le_refl _⟩
  | ask call next ih =>
      obtain ⟨hids, hdrawn⟩ := db.supply_answer call
      obtain ⟨hids', hdrawn'⟩ := ih (db.answer call).1 (db.answer call).2
      exact ⟨hids'.trans hids, Nat.le_trans hdrawn hdrawn'⟩

/-! ## Scripts that draw nothing -/

/-- Wherever the run is stopped, no identity has been drawn. -/
def Quiet (script : Script α) (db : Database) : Prop := ∀ n, db.Undrawn (script.stop n db)

section Quiet

variable {db : Database}

theorem Quiet.run {script : Script α} (h : script.Quiet db) : db.Undrawn (script.run db).2 := by
  rw [← stop_of_calls_le (Nat.le_refl (script.calls db))]
  exact h _

theorem quiet_pure (value : α) : (pure value : Script α).Quiet db := fun _ => .refl db

theorem Quiet.bind {script : Script α} {f : α → Script β} (h : script.Quiet db)
    (hf : ∀ value after, script.run db = (.ok value, after) → (f value).Quiet after) :
    (script >>= f).Quiet db := by
  refine stop_bind_of h fun value after hscript m => ?_
  have hafter := h.run
  rw [hscript] at hafter
  exact hafter.trans (hf value after hscript m)

theorem quiet_call {call : Call} (hnew : call ≠ .newId)
    (hinsert : ∀ c d, call = .insert c d → (d.get? "_id").isSome) :
    (Script.call call).Quiet db := by
  intro n
  rcases stop_call call n db with h | h
  · rw [h]
    exact .refl db
  · rw [h, run_call]
    exact db.undrawn_answer hnew hinsert

theorem quiet_find (c : String) (filter : Document) : (find c filter).Quiet db :=
  quiet_call nofun fun _ _ h => nomatch h

theorem quiet_deleteAll (c : String) (filter : Document) : (deleteAll c filter).Quiet db :=
  quiet_call nofun fun _ _ h => nomatch h

theorem quiet_insertAll (c : String) {ds : List Document}
    (hids : ∀ d ∈ ds, (d.get? "_id").isSome) (db : Database) : (insertAll c ds).Quiet db := by
  induction ds generalizing db with
  | nil => exact quiet_pure 0
  | cons d rest ih =>
      have hinsert : (insert c d).Quiet db := quiet_call nofun fun _ _ h => by
        cases h
        exact hids d List.mem_cons_self
      refine hinsert.bind fun _ after _ => ?_
      exact (ih (fun d' hd' => hids d' (List.mem_cons_of_mem d hd')) after).bind
        fun _ _ _ => quiet_pure _

end Quiet

end Script

end ProviderRegistry
