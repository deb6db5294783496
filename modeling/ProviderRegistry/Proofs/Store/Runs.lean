/-
# `Proofs.Store.Runs` — what a script does to a database, read off its calls

A script is syntax, so what it may touch can be said before it is run, by
recursion on the calls that it can come to make.  Two such readings are used
everywhere else:

* `Script.Spares s` — no call changes a collection of `s`;
* `Script.Reads s` — every call is a read of a collection of `s`.

The databases before and after are compared by `Database.Alike s`: the same
documents in the collections of `s`, and the same flags.  The identities drawn
and the reads counted are left out of it, since no script's value depends on
them and every script moves them.

## What is proved

    Spares s script  ⟹  Alike s db (script.run db).2          (`Script.Spares.alike_run`)
                     ⟹  Alike s db (script.stop n db)         (`Script.Spares.alike_stop`)
    Reads s script, Alike s a b  ⟹  the same outcome on both  (`Script.Reads.run_eq`)

So the parts of a script that only reads can each be told of the database at its
start (`Script.Reads.outcome_bind`), and the run leaves behind that database
with some of the script's calls counted (`Script.Reads.run_served`).

A script can be stopped between any two of its calls: `stop n` is the database
after the first `n` of them.  Stopping one script after another is stopping the
first, or the second from where the first has ended (`stop_bind_of_le`,
`stop_bind_add`).
-/
import ProviderRegistry.Proofs.Store.Insertion

namespace ProviderRegistry

/-! ## What a call reads and what it changes -/

namespace Call

/-- The collection that a call may change. -/
def target? : Call → Option String
  | .insert c _ | .update c _ _ | .deleteFirst c _ | .deleteAll c _ => some c
  | .find .. | .count _ | .newId => none

/-- The collection that a call reads and leaves as it is. -/
def source? : Call → Option String
  | .find c _ | .count c => some c
  | .insert .. | .update .. | .deleteFirst .. | .deleteAll .. | .newId => none

theorem target?_of_source? {call : Call} {c : String} (h : call.source? = some c) :
    call.target? = none := by
  cases call with
  | find | count | newId => rfl
  | insert | update | deleteFirst | deleteAll => exact nomatch h

end Call

/-! ## Databases that agree on some collections -/

namespace Database

/-- The same flags, and the same documents in the collections of `s`. -/
structure Alike (s : String → Prop) (a b : Database) : Prop where
  offline : b.offline = a.offline
  failing : b.failing = a.failing
  documents : ∀ c, s c → b.documents c = a.documents c

namespace Alike

variable {s : String → Prop} {a b d : Database}

theorem refl (s : String → Prop) (a : Database) : Alike s a a := ⟨rfl, rfl, fun _ _ => rfl⟩

theorem symm (h : Alike s a b) : Alike s b a :=
  ⟨h.offline.symm, h.failing.symm, fun c hc => (h.documents c hc).symm⟩

theorem trans (h₁ : Alike s a b) (h₂ : Alike s b d) : Alike s a d :=
  ⟨h₂.offline.trans h₁.offline, h₂.failing.trans h₁.failing,
    fun c hc => (h₂.documents c hc).trans (h₁.documents c hc)⟩

theorem mono {t : String → Prop} (hts : ∀ c, t c → s c) (h : Alike s a b) : Alike t a b :=
  ⟨h.offline, h.failing, fun c hc => h.documents c (hts c hc)⟩

theorem fault? (h : Alike s a b) (c : String) : b.fault? c = a.fault? c := by
  simp only [Database.fault?, h.offline, h.failing]

end Alike

/-- The store answers: it is not offline, and no collection is marked failing. -/
structure Available (db : Database) : Prop where
  online : db.offline = false
  noneFailing : db.failing = []

theorem Available.fault? {db : Database} (h : db.Available) (c : String) :
    db.fault? c = none := by
  simp [Database.fault?, h.online, h.noneFailing]

theorem Alike.available {s : String → Prop} {a b : Database} (h : Alike s a b)
    (ha : a.Available) : b.Available :=
  ⟨h.offline.trans ha.online, h.failing.trans ha.noneFailing⟩

/-! ### One collection replaced -/

@[simp] theorem documents_put_self (db : Database) (c : String) (ds : List Document) :
    (db.put c ds).documents c = ds := by
  simp [put]

theorem documents_put_ne (db : Database) {c other : String} (h : other ≠ c)
    (ds : List Document) : (db.put c ds).documents other = db.documents other := by
  simp [put, h]

@[simp] theorem put_put (db : Database) (c : String) (ds es : List Document) :
    (db.put c ds).put c es = db.put c es := by
  simp only [put, mk.injEq, and_true]
  funext other
  by_cases h : other = c <;> simp [h]

/-- Putting back what a collection holds changes nothing. -/
@[simp] theorem put_documents (db : Database) (c : String) : db.put c (db.documents c) = db := by
  cases db
  simp only [put, mk.injEq, and_true]
  funext other
  by_cases h : other = c <;> simp [h]

theorem documents_put_congr {a b : Database} (h : a.documents = b.documents) (c : String)
    (ds : List Document) : (a.put c ds).documents = (b.put c ds).documents := by
  simp only [put, h]

theorem alike_put {s : String → Prop} (db : Database) {c : String} (hc : ¬ s c)
    (ds : List Document) : Alike s db (db.put c ds) :=
  ⟨rfl, rfl, fun other hs => documents_put_ne db (fun h : other = c => hc (h ▸ hs)) ds⟩

@[simp] theorem documents_counted (db : Database) (c : String) :
    db.counted.documents c = db.documents c := rfl

@[simp] theorem fault?_counted (db : Database) (c : String) :
    db.counted.fault? c = db.fault? c := rfl

@[simp] theorem fault?_put (db : Database) (c other : String) (ds : List Document) :
    (db.put c ds).fault? other = db.fault? other := rfl

theorem alike_counted (s : String → Prop) (db : Database) : Alike s db db.counted :=
  ⟨rfl, rfl, fun _ _ => rfl⟩

theorem Available.counted {db : Database} (h : db.Available) : db.counted.Available :=
  ⟨h.online, h.noneFailing⟩

theorem Available.put {db : Database} (h : db.Available) (c : String) (ds : List Document) :
    (db.put c ds).Available :=
  ⟨h.online, h.noneFailing⟩

/-- The database with a number of further reads counted. -/
def served (db : Database) (reads : Nat) : Database := { db with queries := db.queries + reads }

theorem served_served (db : Database) (m n : Nat) : (db.served m).served n = db.served (m + n) := by
  simp [served, Nat.add_assoc]

/-! ### One call -/

/-- A call that reads is counted where it is answered. -/
theorem answer_served {call : Call} {c : String} (h : call.source? = some c) (db : Database) :
    ∃ n ≤ 1, (db.answer call).2 = db.served n := by
  cases call with
  | find c' _ | count c' =>
      simp only [answer, guarded]
      cases db.fault? c' with
      | some _ => exact ⟨0, Nat.zero_le 1, rfl⟩
      | none => exact ⟨1, Nat.le_refl 1, rfl⟩
  | insert | update | deleteFirst | deleteAll | newId => exact nomatch h

theorem alike_guarded {α : Type} {s : String → Prop} {db : Database} (c : String)
    {answer : Outcome α × Database} (h : Alike s db answer.2) :
    Alike s db (db.guarded c answer).2 := by
  unfold guarded
  cases db.fault? c with
  | none => exact h
  | some _ => exact .refl s db

theorem alike_identify (s : String → Prop) (db : Database) (d : Document) :
    Alike s db (db.identify d).2.2 := by
  rw [identify_drawn]
  exact ⟨rfl, rfl, fun _ _ => rfl⟩

theorem alike_change {s : String → Prop} (db : Database) {c : String} (hc : ¬ s c)
    (changed : Option (List Document)) : Alike s db (db.change c changed).2 := by
  cases changed with
  | none => exact .refl s db
  | some ds => exact alike_put db hc ds

theorem alike_insertIn {s : String → Prop} (db : Database) {c : String} (hc : ¬ s c)
    (d : Document) : Alike s db (db.insertIn c d).2 := by
  have hid := alike_identify s db d
  by_cases hheld : db.Holds c (db.identify d).1
  · rw [insertIn_of_holds hheld]
    exact hid
  · rw [insertIn_of_free hheld]
    exact hid.trans (alike_put _ hc _)

/-- A call leaves every collection alone that is not its target. -/
theorem alike_answer {s : String → Prop} (db : Database) (call : Call)
    (h : ∀ c, call.target? = some c → ¬ s c) : Alike s db (db.answer call).2 := by
  cases call with
  | find c filter => exact alike_guarded c (alike_counted s db)
  | count c => exact alike_guarded c (alike_counted s db)
  | insert c d => exact alike_guarded c (alike_insertIn db (h c rfl) d)
  | update c filter fields => exact alike_guarded c (alike_change db (h c rfl) _)
  | deleteFirst c filter => exact alike_guarded c (alike_change db (h c rfl) _)
  | deleteAll c filter => exact alike_guarded c (alike_put db (h c rfl) _)
  | newId => exact ⟨rfl, rfl, fun _ _ => rfl⟩

theorem guarded_refused {α : Type} {db after : Database} {c : String}
    {answer : Outcome α × Database} {error : ConfigError}
    (h : db.guarded c answer = (.error error, after)) :
    after = db ∨ answer = (.error error, after) := by
  unfold guarded at h
  cases hfault : db.fault? c with
  | none => exact .inr (by rwa [hfault] at h)
  | some fault =>
      rw [hfault] at h
      exact .inl (Prod.mk.inj h).2.symm

theorem guarded_answered {α : Type} {db after : Database} {c : String}
    {answer : Outcome α × Database} {value : α} (h : db.guarded c answer = (.ok value, after)) :
    answer = (.ok value, after) := by
  unfold guarded at h
  cases hfault : db.fault? c with
  | none => rwa [hfault] at h
  | some fault =>
      rw [hfault] at h
      exact nomatch (Prod.mk.inj h).1

/-- What is answered at all is answered of a collection that can be used. -/
theorem usable_of_guarded {α : Type} {db after : Database} {c : String}
    {answer : Outcome α × Database} {value : α} (h : db.guarded c answer = (.ok value, after)) :
    db.fault? c = none := by
  cases hfault : db.fault? c with
  | none => rfl
  | some fault => simp [guarded, hfault] at h

/-- A call on a collection that cannot be used is refused for that reason, and changes nothing. -/
theorem answer_of_fault {db : Database} {call : Call} {c : String} {fault : StoreFault}
    (h : db.fault? c = some fault) (hc : call.source? = some c ∨ call.target? = some c) :
    db.answer call = (.error fault.toError, db) := by
  have hguarded : ∀ {α : Type} (given : Outcome α × Database),
      db.guarded c given = (.error fault.toError, db) := by
    intro α given
    simp only [guarded, h]
  cases call with
  | newId => rcases hc with hc | hc <;> exact nomatch hc
  | find | count | insert | update | deleteFirst | deleteAll =>
      rcases hc with hc | hc <;> cases hc
      exact hguarded _

theorem usable_of_answered {db after : Database} {call : Call} {c : String} {value : call.Reply}
    (hc : call.source? = some c ∨ call.target? = some c)
    (h : db.answer call = (.ok value, after)) : db.fault? c = none := by
  cases hfault : db.fault? c with
  | none => rfl
  | some fault =>
      rw [answer_of_fault hfault hc] at h
      exact nomatch (Prod.mk.inj h).1

/-- A deletion that finds nothing changes no document. -/
theorem alike_of_not_deleted {s : String → Prop} {db after : Database} {c : String}
    {filter : Document} (h : db.answer (.deleteFirst c filter) = (.ok false, after)) :
    Alike s db after := by
  have hchange := guarded_answered h
  cases hdrop : dropFirst filter (db.documents c) with
  | none =>
      rw [hdrop] at hchange
      exact (Prod.mk.inj hchange).2 ▸ .refl s db
  | some ds =>
      rw [hdrop] at hchange
      exact nomatch (Prod.mk.inj hchange).1

/-- A call that is refused changes no document. -/
theorem alike_of_refused {s : String → Prop} {db after : Database} {call : Call}
    {error : ConfigError} (h : db.answer call = (.error error, after)) : Alike s db after := by
  cases call with
  | newId => exact nomatch (Prod.mk.inj h).1
  | find | count | update | deleteFirst | deleteAll =>
      rcases guarded_refused h with rfl | hanswer
      · exact .refl s after
      · exact nomatch (Prod.mk.inj hanswer).1
  | insert c d =>
      rcases guarded_refused h with rfl | hanswer
      · exact .refl s after
      · obtain ⟨-, -, rfl⟩ := insertIn_refused hanswer
        exact alike_identify s db d

/-- A read is answered alike by databases that agree on what it reads. -/
theorem answer_eq_of_alike {s : String → Prop} {a b : Database} (h : Alike s a b) (call : Call)
    {c : String} (hsource : call.source? = some c) (hc : s c) :
    (b.answer call).1 = (a.answer call).1 := by
  cases call with
  | find c' filter =>
      cases hsource
      simp only [answer, guarded, h.fault?, findIn, h.documents c hc]
      cases a.fault? c <;> rfl
  | count c' =>
      cases hsource
      simp only [answer, guarded, h.fault?, h.documents c hc]
      cases a.fault? c <;> rfl
  | insert | update | deleteFirst | deleteAll | newId => exact nomatch hsource

end Database

namespace Script

variable {α β : Type}

/-! ## Running one script after another -/

@[simp] theorem run_pure (value : α) (db : Database) :
    (pure value : Script α).run db = (.ok value, db) := rfl

@[simp] theorem run_call (c : Call) (db : Database) : (call c).run db = db.answer c := by
  rcases h : db.answer c with ⟨reply, after⟩
  cases reply <;> simp [call, run, h, ofOutcome]

theorem run_bind_ok {script : Script α} {f : α → Script β} {db after : Database} {value : α}
    (h : script.run db = (.ok value, after)) : (script >>= f).run db = (f value).run after := by
  show (script.bind f).run db = _
  rw [run_bind, h]

theorem run_bind_error {script : Script α} {f : α → Script β} {db after : Database}
    {error : ConfigError} (h : script.run db = (.error error, after)) :
    (script >>= f).run db = (.error error, after) := by
  show (script.bind f).run db = _
  rw [run_bind, h]

/-- Two scripts in a row that end in a value have both ended in one. -/
theorem ok_of_run_bind {script : Script α} {f : α → Script β} {db after : Database} {value : β}
    (h : (script >>= f).run db = (.ok value, after)) :
    ∃ first middle, script.run db = (.ok first, middle) ∧
      (f first).run middle = (.ok value, after) := by
  rcases hscript : script.run db with ⟨refusal | first, middle⟩
  · rw [run_bind_error hscript] at h
    exact nomatch (Prod.mk.inj h).1
  · rw [run_bind_ok hscript] at h
    exact ⟨first, middle, rfl, h⟩

theorem ok_of_run_ofOutcome {outcome : Outcome α} {db after : Database} {value : α}
    (h : (ofOutcome outcome).run db = (.ok value, after)) : outcome = .ok value ∧ after = db := by
  cases outcome with
  | error refusal => exact nomatch (Prod.mk.inj h).1
  | ok found =>
      obtain ⟨hvalue, hafter⟩ := Prod.mk.inj h
      exact ⟨hvalue, hafter.symm⟩

/-- The value or failure of a script on a database. -/
def outcome (script : Script α) (db : Database) : Outcome α := (script.run db).1

theorem outcome_attempt (script : Script α) (db : Database) :
    script.attempt.outcome db = .ok (script.outcome db) := by
  rw [outcome, run_attempt]
  rfl

/-! ## Counting the calls of a script -/

/-- The number of calls that a script makes before it ends. -/
def calls : Script α → Database → Nat
  | .done _, _ | .fail _, _ => 0
  | .ask call next, db => (next (db.answer call).1).calls (db.answer call).2 + 1

/-- Two scripts in a row make the calls of the first, and those of the second where it is reached. -/
theorem calls_bind_le {script : Script α} {f : α → Script β} {db : Database} {m n : Nat}
    (h : script.calls db ≤ m)
    (hf : ∀ value after, script.run db = (.ok value, after) → (f value).calls after ≤ n) :
    (script >>= f).calls db ≤ m + n := by
  induction script generalizing m db with
  | done value => exact Nat.le_trans (hf value db rfl) (Nat.le_add_left n m)
  | fail _ => exact Nat.zero_le _
  | ask call next ih =>
      have hm : (next (db.answer call).1).calls (db.answer call).2 + 1 ≤ m := h
      have hnext : ((next (db.answer call).1).bind f).calls (db.answer call).2
          ≤ (next (db.answer call).1).calls (db.answer call).2 + n := ih _ (Nat.le_refl _) hf
      show ((next (db.answer call).1).bind f).calls (db.answer call).2 + 1 ≤ m + n
      omega

@[simp] theorem calls_call (c : Call) (db : Database) : (call c).calls db = 1 := by
  show (ofOutcome (db.answer c).1).calls _ + 1 = 1
  cases (db.answer c).1 <;> rfl

theorem calls_attempt (script : Script α) (db : Database) :
    script.attempt.calls db = script.calls db := by
  induction script generalizing db with
  | done _ | fail _ => rfl
  | ask call next ih => exact congrArg (· + 1) (ih _ _)

/-! ## Scripts that spare some collections -/

/-- No call that a script can come to make changes a collection of `s`. -/
def Spares (s : String → Prop) : Script α → Prop
  | .done _ | .fail _ => True
  | .ask call next => (∀ c, call.target? = some c → ¬ s c) ∧ ∀ reply, (next reply).Spares s

/-- Every call that a script can come to make reads a collection of `s`. -/
def Reads (s : String → Prop) : Script α → Prop
  | .done _ | .fail _ => True
  | .ask call next => (∃ c, call.source? = some c ∧ s c) ∧ ∀ reply, (next reply).Reads s

section Readings

variable {s : String → Prop} {c : String}

theorem Spares.bind {script : Script α} {f : α → Script β} (h : script.Spares s)
    (hf : ∀ value, (f value).Spares s) : (script >>= f).Spares s := by
  induction script with
  | done value => exact hf value
  | fail _ => trivial
  | ask call next ih => exact ⟨h.1, fun reply => ih reply (h.2 reply)⟩

theorem Reads.bind {script : Script α} {f : α → Script β} (h : script.Reads s)
    (hf : ∀ value, (f value).Reads s) : (script >>= f).Reads s := by
  induction script with
  | done value => exact hf value
  | fail _ => trivial
  | ask call next ih => exact ⟨h.1, fun reply => ih reply (h.2 reply)⟩

theorem Reads.attempt {script : Script α} (h : script.Reads s) : script.attempt.Reads s := by
  induction script with
  | done _ | fail _ => trivial
  | ask call next ih => exact ⟨h.1, fun reply => ih reply (h.2 reply)⟩

theorem Spares.mono {script : Script α} (h : script.Spares s) {t : String → Prop}
    (hts : ∀ c, t c → s c) : script.Spares t := by
  induction script with
  | done _ | fail _ => trivial
  | ask call next ih =>
      exact ⟨fun c hc ht => h.1 c hc (hts c ht), fun reply => ih reply (h.2 reply)⟩

/-- A script that only reads spares everything. -/
theorem Reads.spares {script : Script α} (h : script.Reads s) (t : String → Prop) :
    script.Spares t := by
  induction script with
  | done _ | fail _ => trivial
  | ask call next ih =>
      obtain ⟨c, hc, -⟩ := h.1
      refine ⟨fun c' hc' => ?_, fun reply => ih reply (h.2 reply)⟩
      rw [Call.target?_of_source? hc] at hc'
      exact nomatch hc'

theorem reads_pure (value : α) : (pure value : Script α).Reads s := trivial

theorem reads_fail (error : ConfigError) : (fail error : Script α).Reads s := trivial

theorem reads_ofOutcome (outcome : Outcome α) : (ofOutcome outcome).Reads s := by
  cases outcome <;> trivial

theorem reads_ofDecoded (decoded : Decoded α) : (ofDecoded decoded).Reads s := by
  cases decoded <;> trivial

theorem reads_find (hc : s c) (filter : Document) : (find c filter).Reads s :=
  ⟨⟨c, rfl, hc⟩, fun reply => reads_ofOutcome reply⟩

theorem reads_count (hc : s c) : (count c).Reads s :=
  ⟨⟨c, rfl, hc⟩, fun reply => reads_ofOutcome reply⟩

theorem reads_findFirst (hc : s c) (filter : Document) : (findFirst c filter).Reads s :=
  (reads_find hc filter).bind fun _ => trivial

theorem spares_pure (value : α) : (pure value : Script α).Spares s := trivial

theorem spares_fail (error : ConfigError) : (fail error : Script α).Spares s := trivial

theorem spares_ofOutcome (outcome : Outcome α) : (ofOutcome outcome).Spares s :=
  (reads_ofOutcome (s := fun _ => True) outcome).spares s

theorem spares_call {call : Call} (h : ∀ c, call.target? = some c → ¬ s c) :
    (Script.call call).Spares s :=
  ⟨h, fun reply => spares_ofOutcome reply⟩

theorem spares_find (c : String) (filter : Document) : (find c filter).Spares s :=
  spares_call fun _ h => nomatch h

theorem spares_findFirst (c : String) (filter : Document) : (findFirst c filter).Spares s :=
  (spares_find c filter).bind fun _ => trivial

theorem spares_count (c : String) : (count c).Spares s :=
  spares_call fun _ h => nomatch h

theorem spares_newId : newId.Spares s :=
  spares_call fun _ h => nomatch h

theorem spares_insert (hc : ¬ s c) (d : Document) : (insert c d).Spares s :=
  spares_call fun _ h => Option.some.inj h ▸ hc

theorem spares_deleteAll (hc : ¬ s c) (filter : Document) : (deleteAll c filter).Spares s :=
  spares_call fun _ h => Option.some.inj h ▸ hc

theorem spares_insertAll (hc : ¬ s c) : ∀ ds : List Document, (insertAll c ds).Spares s
  | [] => trivial
  | d :: rest =>
      (spares_insert hc d).bind fun _ => (spares_insertAll hc rest).bind fun _ => trivial

/-! ### What the readings say about a run -/

theorem Spares.alike_run {script : Script α} (h : script.Spares s) (db : Database) :
    db.Alike s (script.run db).2 := by
  induction script generalizing db with
  | done _ | fail _ => exact .refl s db
  | ask call next ih =>
      exact (db.alike_answer call h.1).trans (ih _ (h.2 _) _)

/-- A script that reads only what two databases agree on ends alike on both. -/
theorem Reads.run_eq {script : Script α} (h : script.Reads s) {a b : Database}
    (hab : a.Alike s b) : (script.run b).1 = (script.run a).1 := by
  induction script generalizing a b with
  | done _ | fail _ => rfl
  | ask call next ih =>
      obtain ⟨⟨c, hsource, hc⟩, hnext⟩ := h
      have hreply := Database.answer_eq_of_alike hab call hsource hc
      have htarget : ∀ c, call.target? = some c → ¬ s c := fun c' hc' => by
        rw [Call.target?_of_source? hsource] at hc'
        exact nomatch hc'
      have hafter : (a.answer call).2.Alike s (b.answer call).2 :=
        (a.alike_answer call htarget).symm.trans (hab.trans (b.alike_answer call htarget))
      show ((next (b.answer call).1).run (b.answer call).2).1 = _
      rw [hreply]
      exact ih _ (hnext _) hafter

/-- Each of two scripts in a row that read is a script that reads, the second where it is reached. -/
theorem Reads.of_bind {script : Script α} {f : α → Script β} (h : (script >>= f).Reads s) :
    script.Reads s ∧
      ∀ db value after, script.run db = (.ok value, after) → (f value).Reads s := by
  induction script with
  | done value =>
      refine ⟨trivial, fun db value' after hrun => ?_⟩
      obtain ⟨⟨⟩, -⟩ := Prod.mk.inj hrun
      exact h
  | fail _ => exact ⟨trivial, fun _ _ _ hrun => nomatch (Prod.mk.inj hrun).1⟩
  | ask call next ih =>
      refine ⟨⟨h.1, fun reply => (ih reply (h.2 reply)).1⟩, fun db value after hrun => ?_⟩
      exact (ih _ (h.2 _)).2 _ value after hrun

/-- What a script that reads comes to does not depend on what has been read before it. -/
theorem Reads.outcome_bind {script : Script α} {f : α → Script β} (h : (script >>= f).Reads s)
    (db : Database) :
    (script >>= f).outcome db = script.outcome db >>= fun value => (f value).outcome db := by
  obtain ⟨hfirst, hsecond⟩ := h.of_bind
  have halike := (hfirst.spares s).alike_run db
  unfold outcome
  rcases hscript : script.run db with ⟨refusal | value, after⟩
  · rw [run_bind_error hscript]
    rfl
  · rw [run_bind_ok hscript]
    rw [hscript] at halike
    exact (hsecond db value after hscript).run_eq halike

/-- A script that reads does no more to the database than count the calls that are answered. -/
theorem Reads.run_served {script : Script α} (h : script.Reads s) (db : Database) :
    ∃ n ≤ script.calls db, (script.run db).2 = db.served n := by
  induction script generalizing db with
  | done _ | fail _ => exact ⟨0, Nat.le_refl 0, rfl⟩
  | ask call next ih =>
      obtain ⟨⟨c, hsource, -⟩, hnext⟩ := h
      obtain ⟨m, hm, hanswer⟩ := Database.answer_served hsource db
      obtain ⟨n, hn, hrun⟩ := ih _ (hnext (db.answer call).1) (db.answer call).2
      refine ⟨m + n, ?_, ?_⟩
      · simp only [calls]
        omega
      · show ((next (db.answer call).1).run (db.answer call).2).2 = _
        rw [hrun, hanswer, Database.served_served]

end Readings

/-! ## Scripts that fail before they change anything -/

/-- A run that fails leaves every document as it was. -/
def AllOrNothing (script : Script α) : Prop :=
  ∀ (s : String → Prop) (db after : Database) (error : ConfigError),
    script.run db = (.error error, after) → db.Alike s after

theorem allOrNothing_call (c : Call) : (call c).AllOrNothing := by
  intro s db after error h
  rw [run_call] at h
  exact Database.alike_of_refused h

theorem allOrNothing_fail (error : ConfigError) : (fail error : Script α).AllOrNothing := by
  intro s db after error' h
  exact (Prod.mk.inj h).2 ▸ .refl s db

/-- A script may read first. -/
theorem AllOrNothing.of_reads {s : String → Prop} {script : Script α} {f : α → Script β}
    (h : script.Reads s) (hf : ∀ value, (f value).AllOrNothing) :
    (script >>= f).AllOrNothing := by
  intro t db after error hrun
  have halike := (h.spares t).alike_run db
  rcases hscript : script.run db with ⟨value | value, middle⟩
  · rw [run_bind_error hscript] at hrun
    obtain ⟨-, rfl⟩ := Prod.mk.inj hrun
    rwa [hscript] at halike
  · rw [run_bind_ok hscript] at hrun
    rw [hscript] at halike
    exact halike.trans (hf value t middle after error hrun)

/-- What is computed from a script's value cannot fail. -/
theorem AllOrNothing.map {script : Script α} (h : script.AllOrNothing) (f : α → β) :
    (script >>= fun value => pure (f value)).AllOrNothing := by
  intro t db after error hrun
  rcases hscript : script.run db with ⟨value | value, middle⟩
  · rw [run_bind_error hscript] at hrun
    obtain ⟨-, rfl⟩ := Prod.mk.inj hrun
    exact h t db middle value hscript
  · rw [run_bind_ok hscript] at hrun
    exact nomatch congrArg Prod.fst hrun

/-! ## Stopping a script between two calls -/

/-- The database after the first calls of a script, as many as are given; a script that has ended
stays where it is. -/
def stop : Script α → Nat → Database → Database
  | .done _, _, db | .fail _, _, db | .ask _ _, 0, db => db
  | .ask call next, n + 1, db => (next (db.answer call).1).stop n (db.answer call).2

@[simp] theorem stop_zero (script : Script α) (db : Database) : script.stop 0 db = db := by
  cases script <;> rfl

@[simp] theorem stop_pure (value : α) (n : Nat) (db : Database) :
    (pure value : Script α).stop n db = db := rfl

theorem stop_of_calls_le {script : Script α} {n : Nat} {db : Database}
    (h : script.calls db ≤ n) : script.stop n db = (script.run db).2 := by
  induction script generalizing n db with
  | done _ | fail _ => rfl
  | ask call next ih =>
      cases n with
      | zero => exact absurd h (Nat.not_succ_le_zero _)
      | succ n => exact ih _ (Nat.le_of_succ_le_succ h)

/-- Stopped within its calls, a script does not see what comes after it. -/
theorem stop_bind_of_le {script : Script α} (f : α → Script β) {n : Nat} {db : Database}
    (h : n ≤ script.calls db) : (script >>= f).stop n db = script.stop n db := by
  induction script generalizing n db with
  | done value =>
      obtain rfl : n = 0 := Nat.le_zero.mp h
      exact (stop_zero _ db).trans (stop_zero _ db).symm
  | fail _ => rfl
  | ask call next ih =>
      cases n with
      | zero => exact stop_zero _ db
      | succ n => exact ih _ (Nat.le_of_succ_le_succ h)

/-- Stopped after its calls, a script that has ended in a value leaves it to what comes after. -/
theorem stop_bind_add {script : Script α} {f : α → Script β} {db after : Database} {value : α}
    (h : script.run db = (.ok value, after)) (m : Nat) :
    (script >>= f).stop (script.calls db + m) db = (f value).stop m after := by
  induction script generalizing db with
  | done v =>
      obtain ⟨⟨⟩, rfl⟩ := Prod.mk.inj h
      simp only [calls, Nat.zero_add]
      rfl
  | fail _ => exact nomatch (Prod.mk.inj h).1
  | ask call next ih =>
      have hcalls : (Script.ask call next).calls db + m
          = (next (db.answer call).1).calls (db.answer call).2 + m + 1 := by
        simp only [calls]
        omega
      rw [hcalls]
      exact ih _ h

/-- Whatever holds wherever the first script is stopped, and wherever the second is stopped after
it, holds wherever the two together are stopped. -/
theorem stop_bind {script : Script α} {f : α → Script β} {db after : Database} {value : α}
    (h : script.run db = (.ok value, after)) {P : Database → Prop}
    (hfirst : ∀ n, P (script.stop n db)) (hsecond : ∀ m, P ((f value).stop m after)) (n : Nat) :
    P ((script >>= f).stop n db) := by
  by_cases hn : n ≤ script.calls db
  · rw [stop_bind_of_le f hn]
    exact hfirst n
  · obtain ⟨m, rfl⟩ := Nat.exists_eq_add_of_le (Nat.le_of_not_le hn)
    rw [stop_bind_add h]
    exact hsecond m

/-- A script that fails does not come to what would be after it. -/
theorem stop_bind_error {script : Script α} {f : α → Script β} {db after : Database}
    {e : ConfigError} (h : script.run db = (.error e, after)) (n : Nat) :
    (script >>= f).stop n db = script.stop n db := by
  induction script generalizing n db with
  | done _ => exact nomatch (Prod.mk.inj h).1
  | fail _ => rfl
  | ask call next ih =>
      cases n with
      | zero => rfl
      | succ n => exact ih _ h n

/-- Whatever holds wherever the first script is stopped, and wherever the second is stopped if the
first has ended in a value, holds wherever the two together are stopped. -/
theorem stop_bind_of {script : Script α} {f : α → Script β} {db : Database} {P : Database → Prop}
    (hfirst : ∀ n, P (script.stop n db))
    (hsecond : ∀ value after, script.run db = (.ok value, after) → ∀ m, P ((f value).stop m after))
    (n : Nat) : P ((script >>= f).stop n db) := by
  rcases hscript : script.run db with ⟨e | value, after⟩
  · rw [stop_bind_error hscript]
    exact hfirst n
  · exact stop_bind hscript hfirst (hsecond value after hscript) n

/-- What is computed from a script's value adds no place to stop at. -/
theorem stop_bind_pure (script : Script α) (f : α → β) (n : Nat) (db : Database) :
    (script >>= fun value => pure (f value)).stop n db = script.stop n db := by
  induction script generalizing n db with
  | done _ | fail _ => rfl
  | ask call next ih =>
      cases n with
      | zero => rfl
      | succ n => exact ih _ n _

theorem stop_call_bind {c : Call} {f : c.Reply → Script β} {db after : Database}
    {value : c.Reply} (h : db.answer c = (.ok value, after)) (n : Nat) :
    (call c >>= f).stop (n + 1) db = (f value).stop n after := by
  show ((ofOutcome (db.answer c).1).bind f).stop n (db.answer c).2 = _
  rw [h]
  rfl

/-- A single call is stopped before it or after it. -/
theorem stop_call (c : Call) (n : Nat) (db : Database) :
    (call c).stop n db = db ∨ (call c).stop n db = ((call c).run db).2 := by
  cases n with
  | zero => exact .inl (stop_zero (call c) db)
  | succ n =>
      refine .inr ?_
      show (ofOutcome (db.answer c).1).stop n (db.answer c).2 = _
      rw [run_call]
      cases (db.answer c).1 <;> rfl

theorem Spares.alike_stop {s : String → Prop} {script : Script α} (h : script.Spares s)
    (n : Nat) (db : Database) : db.Alike s (script.stop n db) := by
  induction script generalizing n db with
  | done _ | fail _ => exact .refl s db
  | ask call next ih =>
      cases n with
      | zero => exact .refl s db
      | succ n => exact (db.alike_answer call h.1).trans (ih _ (h.2 _) n _)

end Script

end ProviderRegistry
