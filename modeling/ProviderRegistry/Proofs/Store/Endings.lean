/-
# `Proofs.Store.Endings` — how a script can end, and what it keeps on the way

A store refuses a call in two ways only: it cannot be reached, or the document
does not fit (`FromStore`).  So the values and the failures that a script can
come to are read off its syntax, whatever the answers are:

* `Script.Ends Q E` — a script ends in a value of `Q` or in a failure of `E`.

`Script.Keeps I` says of a statement `I` about databases that a run of the
script does not make it false.  It is proved part by part, and each part may use
what its predecessor's value is known to be (`Keeps.bind`).

## What is proved

    Ends Q E script, run = (ok value, _)     ⟹  Q value         (`Ends.ok`)
    Ends Q E script, run = (error e, _)      ⟹  E e             (`Ends.error`)
    a list added to a collection, in any way that it can end,
      leaves the collection with some first documents of it     (`documents_insertAll`)
      and so it does wherever it is stopped                     (`documents_stop_insertAll`)
-/
import ProviderRegistry.Proofs.Store.Identities

namespace ProviderRegistry

/-- A failure by which a store refuses a call. -/
inductive ConfigError.FromStore : ConfigError → Prop
  | unavailable (reason : String) : FromStore (.storeUnavailable reason)
  | document (reason : String) : FromStore (.document reason)

namespace Database

theorem fromStore_of_guarded {α : Type} {db : Database} {c : String} {given : Outcome α × Database}
    {e : ConfigError} (hgiven : given.1 = .error e → e.FromStore)
    (h : (db.guarded c given).1 = .error e) : e.FromStore := by
  unfold guarded at h
  split at h
  · obtain rfl := Except.error.inj h
    exact .unavailable _
  · exact hgiven h

/-- Whatever is asked of it, a database refuses as a store does. -/
theorem fromStore_of_refused {db : Database} {call : Call} {e : ConfigError}
    (h : (db.answer call).1 = .error e) : e.FromStore := by
  cases call with
  | find | count | update | deleteFirst | deleteAll =>
      refine fromStore_of_guarded (fun hgiven => ?_) h
      exact nomatch hgiven
  | newId => exact nomatch h
  | insert c d =>
      refine fromStore_of_guarded (fun hgiven => ?_) h
      obtain ⟨-, rfl, -⟩ := insertIn_refused (Prod.ext hgiven rfl)
      exact .document _

/-- A document that a collection takes is put at its end; any other leaves it as it is. -/
theorem documents_insert (db : Database) (c : String) {d : Document} (hid : (d.get? "_id").isSome) :
    (∃ e after, db.answer (.insert c d) = (.error e, after) ∧
      after.documents c = db.documents c) ∨
    ∃ id after, db.answer (.insert c d) = (.ok id, after) ∧
      after.documents c = db.documents c ++ [d] := by
  obtain ⟨id, hid⟩ := Option.isSome_iff_exists.mp hid
  rcases hanswer : db.answer (.insert c d) with ⟨e | value, after⟩
  · exact .inl ⟨e, after, rfl, (alike_of_refused (s := fun _ => True) hanswer).documents c trivial⟩
  · refine .inr ⟨value, after, rfl, ?_⟩
    obtain ⟨-, -, rfl⟩ := insertIn_answered (guarded_answered hanswer)
    rw [db.seedOne_of_some c hid, documents_put_self]

end Database

namespace Script

variable {α β : Type}

/-- Two scripts in a row fail where the first does, or the second after it. -/
theorem error_of_run_bind {script : Script α} {f : α → Script β} {db after : Database}
    {e : ConfigError} (h : (script >>= f).run db = (.error e, after)) :
    script.run db = (.error e, after) ∨
      ∃ value middle, script.run db = (.ok value, middle) ∧
        (f value).run middle = (.error e, after) := by
  rcases hscript : script.run db with ⟨refusal | value, middle⟩
  · rw [run_bind_error hscript] at h
    obtain ⟨hrefusal, rfl⟩ := Prod.mk.inj h
    exact .inl (by rw [Except.error.inj hrefusal])
  · rw [run_bind_ok hscript] at h
    exact .inr ⟨value, middle, rfl, h⟩

/-! ## Values and failures -/

/-- Whatever a store answers, a script ends in a value of `Q` or in a failure of `E`. -/
def Ends (Q : α → Prop) (E : ConfigError → Prop) : Script α → Prop
  | .done value => Q value
  | .fail e => E e
  | .ask _ next => ∀ reply, (∀ e, reply = .error e → e.FromStore) → (next reply).Ends Q E

section Ends

variable {Q : α → Prop} {R : β → Prop} {E : ConfigError → Prop}

theorem Ends.run {script : Script α} (h : script.Ends Q E) (db : Database) :
    (∀ value, (script.run db).1 = .ok value → Q value) ∧
      ∀ e, (script.run db).1 = .error e → E e := by
  induction script generalizing db with
  | done value => exact ⟨fun _ hvalue => Except.ok.inj hvalue ▸ h, fun _ he => nomatch he⟩
  | fail e => exact ⟨fun _ hvalue => (nomatch hvalue), fun _ he => Except.error.inj he ▸ h⟩
  | ask call next ih => exact ih _ (h _ fun e he => Database.fromStore_of_refused he) _

theorem Ends.ok {script : Script α} (h : script.Ends Q E) {db after : Database} {value : α}
    (hrun : script.run db = (.ok value, after)) : Q value :=
  (h.run db).1 value (by rw [hrun])

theorem Ends.error {script : Script α} (h : script.Ends Q E) {db after : Database}
    {e : ConfigError} (hrun : script.run db = (.error e, after)) : E e :=
  (h.run db).2 e (by rw [hrun])

theorem Ends.bind {script : Script α} {f : α → Script β} (h : script.Ends Q E)
    (hf : ∀ value, Q value → (f value).Ends R E) : (script >>= f).Ends R E := by
  induction script with
  | done value => exact hf value h
  | fail _ => exact h
  | ask call next ih => exact fun reply hreply => ih reply (h reply hreply)

/-- Every script ends in some value or some failure. -/
theorem ends_any (script : Script α) : script.Ends (fun _ => True) fun _ => True := by
  induction script with
  | done _ | fail _ => trivial
  | ask call next ih => exact fun reply _ => ih reply

/-- A single call fails only as the store refuses it. -/
theorem ends_call (hE : ∀ e, e.FromStore → E e) (c : Call) : (call c).Ends (fun _ => True) E := by
  intro reply hreply
  cases reply with
  | ok value => trivial
  | error e => exact hE e (hreply e rfl)

theorem ends_insertAll (hE : ∀ e, e.FromStore → E e) (c : String) :
    ∀ ds : List Document, (insertAll c ds).Ends (fun _ => True) E
  | [] => trivial
  | d :: rest =>
      (ends_call hE (.insert c d)).bind fun _ _ =>
        (ends_insertAll hE c rest).bind fun _ _ => trivial

end Ends

/-- What is computed from a script's value leaves the database alone. -/
theorem run_map_snd (script : Script α) (f : α → β) (db : Database) :
    ((script >>= fun value => pure (f value)).run db).2 = (script.run db).2 := by
  rcases hscript : script.run db with ⟨e | value, after⟩
  · rw [run_bind_error hscript]
  · rw [run_bind_ok hscript, run_pure]

/-! ## Statements that a run keeps -/

/-- A run of the script does not make a statement about its database false. -/
def Keeps (I : Database → Prop) (script : Script α) : Prop :=
  ∀ db, I db → I (script.run db).2

section Keeps

variable {I : Database → Prop} {Q : α → Prop} {E : ConfigError → Prop}

theorem Keeps.bind {script : Script α} {f : α → Script β} (h : script.Keeps I)
    (hends : script.Ends Q E) (hf : ∀ value, Q value → (f value).Keeps I) :
    (script >>= f).Keeps I := by
  intro db hdb
  have hmiddle := h db hdb
  rcases hscript : script.run db with ⟨e | value, middle⟩
  · rw [hscript] at hmiddle
    rw [run_bind_error hscript]
    exact hmiddle
  · rw [hscript] at hmiddle
    rw [run_bind_ok hscript]
    exact hf value (hends.ok hscript) middle hmiddle

/-- A statement about collections that the script spares is kept. -/
theorem Spares.keeps {s : String → Prop} {script : Script α} (h : script.Spares s)
    (hI : ∀ a b, Database.Alike s a b → I a → I b) : script.Keeps I :=
  fun db hdb => hI db _ (h.alike_run db) hdb

end Keeps

/-! ## A list added, in any way that it can end -/

/-- Documents added one after the other until one is refused, or until the addition is stopped: the
first of them are there. -/
theorem documents_stop_insertAll (c : String) {ds : List Document}
    (hids : ∀ d ∈ ds, (d.get? "_id").isSome) (n : Nat) (db : Database) :
    ∃ k, ((insertAll c ds).stop n db).documents c = db.documents c ++ ds.take k := by
  induction ds generalizing n db with
  | nil => exact ⟨0, by simp [insertAll]⟩
  | cons d rest ih =>
      cases n with
      | zero => exact ⟨0, by simp⟩
      | succ n =>
          show ∃ k, ((call (.insert c d) >>= fun _ =>
            insertAll c rest >>= fun n => pure (n + 1)).stop (n + 1) db).documents c = _
          rcases db.documents_insert c (hids d List.mem_cons_self) with
            ⟨e, after, hanswer, hafter⟩ | ⟨id, after, hanswer, hafter⟩
          · have hinsert : (call (.insert c d)).run db = (.error e, after) :=
              (run_call _ db).trans hanswer
            have hstop := stop_of_calls_le (n := n + 1) (Nat.le_trans
              (Nat.le_of_eq (calls_call (.insert c d) db)) (Nat.le_add_left 1 n))
            refine ⟨0, ?_⟩
            rw [stop_bind_error hinsert, hstop, hinsert, List.take_zero, List.append_nil]
            exact hafter
          · obtain ⟨k, hk⟩ := ih (fun d' hd' => hids d' (List.mem_cons_of_mem _ hd')) n after
            refine ⟨k + 1, ?_⟩
            rw [stop_call_bind hanswer, stop_bind_pure, hk, hafter, List.append_assoc]
            rfl

/-- Run to its end, whatever it is, the addition has stopped after its last call. -/
theorem documents_insertAll (c : String) {ds : List Document}
    (hids : ∀ d ∈ ds, (d.get? "_id").isSome) (db : Database) :
    ∃ k, ((insertAll c ds).run db).2.documents c = db.documents c ++ ds.take k := by
  rw [← stop_of_calls_le (Nat.le_refl ((insertAll c ds).calls db))]
  exact documents_stop_insertAll c hids _ db

end Script

end ProviderRegistry
