/-
# `Proofs.Cache.Interleaving` — gets and mutations of the cached list in any order of steps

A get looks at the cached list, and where it may not use one it loads the
sources and then fills the cache; a mutation writes to the store and then
clears the cache.  Between these steps others may run.  A `Traffic` is a
registry with any number of them under way, and an `Event` begins one or takes
the next step of one.

Gets and mutations that run alone are those of `Session` (`Request.alone_get`,
`Request.alone_delete`, `Request.alone_upsert`).

## What is proved

* A list that is loaded, overtaken by a mutation with its write and its clearing,
  and only then filled in stays in the cache: nothing is under way any more, and
  the sources give another list (`stale_after_lateFilling`).

* Nothing else goes wrong.  With nothing under way the cache is stale exactly
  where its last filling or clearing was a filling with a list that the sources
  no longer gave (`not_coherent_iff_lostRace`), since a write that comes after
  that filling is always followed by a clearing.

* No race is lost where no write comes between a loading and its filling
  (`coherent_of_unraced`).

* What is cached is in any case a list that the sources gave at some moment of
  the run (`cached_was_given`).
-/
import ProviderRegistry.Proofs.Cache.Coherence

namespace ProviderRegistry

/-! ## Requests and the steps that they take -/

/-- A change of the provider records that has to clear the cache. -/
inductive Mutation where
  | upsert (now : Moment) (e : ConfigEdit)
  | delete (id : String)

/-- The write of a mutation. -/
def Mutation.script : Mutation → Script Unit
  | .upsert now e => do
    let _ ← e.write now
    return ()
  | .delete id => deleteConfig id

theorem Mutation.allOrNothing_script (m : Mutation) : m.script.AllOrNothing := by
  cases m with
  | upsert now e => exact (e.allOrNothing_write now).map fun _ => ()
  | delete id => exact allOrNothing_delete id

/-- The write of an upsert, run on a registry. -/
theorem Mutation.run_upsert (s : Session) (now : Moment) (e : ConfigEdit) :
    s.run (Mutation.upsert now e).script
      = ((s.run (e.write now)).1.map fun _ => (), (s.run (e.write now)).2) := by
  rcases hwrite : (e.write now).run s.database with ⟨error | id, after⟩
  · have hscript := Script.run_bind_error (f := fun _ => (pure () : Script Unit)) hwrite
    simp only [Session.run, script, hwrite, hscript]
    rfl
  · have hscript := Script.run_bind_ok (f := fun _ => (pure () : Script Unit)) hwrite
    simp only [Session.run, script, hwrite, hscript]
    rfl

/-- A request for the configs, or a mutation. -/
inductive Request where
  | get (useCache : Bool)
  | mutate (m : Mutation)

/-- What a request under way does next. -/
inductive Task where
  | look (useCache : Bool)
  | load
  | fill (list : List LlmConfig)
  | write (m : Mutation)
  | clear
  | ended

instance (task : Task) : Decidable (task = .ended) :=
  match task with
  | .ended => isTrue rfl
  | .look _ | .load | .fill _ | .write _ | .clear => isFalse nofun

/-- The first step of a request. -/
def Request.task : Request → Task
  | .get useCache => .look useCache
  | .mutate m => .write m

namespace Task

/-- One step on the registry, and what comes next. -/
def step (s : Session) : Task → Task × Session
  | .look useCache =>
    match (if useCache then s.cached else none) with
    | some _ => (.ended, s)
    | none => (.load, s)
  | .load =>
    let (list, s) := s.load
    (.fill list, s)
  | .fill list => (.ended, { s with cached := some list })
  | .write m =>
    match s.run m.script with
    | (.ok _, s) => (.clear, s)
    | (.error _, s) => (.ended, s)
  | .clear => (.ended, s.invalidate)
  | .ended => (.ended, s)

end Task

/-- A registry, and the requests under way on it. -/
structure Traffic where
  session : Session
  tasks : List Task

/-- A request begins, or one of those under way takes its next step. -/
inductive Event where
  | begin (r : Request)
  | advance (i : Nat)

namespace Traffic

def step (t : Traffic) : Event → Traffic
  | .begin r => { t with tasks := t.tasks ++ [r.task] }
  | .advance i =>
    match t.tasks[i]? with
    | some task =>
      let (next, session) := task.step t.session
      ⟨session, t.tasks.set i next⟩
    | none => t

def run (t : Traffic) (events : List Event) : Traffic := events.foldl step t

/-- Nothing is under way. -/
def Quiet (t : Traffic) : Prop := ∀ task ∈ t.tasks, task = .ended

instance (t : Traffic) : Decidable t.Quiet :=
  inferInstanceAs (Decidable (∀ task ∈ t.tasks, task = .ended))

end Traffic

/-! ## One request alone -/

section Alone

variable (s : Session)

/-- A request that begins and takes its steps with nothing beside it. -/
def Request.alone (r : Request) : Session :=
  (Traffic.run ⟨s, []⟩ [.begin r, .advance 0, .advance 0, .advance 0]).session

theorem Request.alone_get (useCache : Bool) :
    Request.alone s (.get useCache) = (s.configs useCache).2 := by
  cases useCache <;> cases hcached : s.cached <;>
    simp [alone, Traffic.run, Traffic.step, task, Task.step, Session.configs, hcached]

theorem Request.alone_delete (id : String) :
    Request.alone s (.mutate (.delete id)) = (s.delete id).2 := by
  rcases hrun : s.run (deleteConfig id) with ⟨error | value, t⟩ <;>
    simp [alone, Traffic.run, Traffic.step, task, Task.step, Mutation.script, Session.delete, hrun]

/-- An upsert reads back what it has written, after its steps. -/
theorem Request.alone_upsert (now : Moment) (e : ConfigEdit) :
    Session.Undisturbed (Request.alone s (.mutate (.upsert now e))) (s.upsert now e).2 := by
  have hwrite := Mutation.run_upsert s now e
  rcases hrun : s.run (e.write now) with ⟨error | id, t⟩
  · rw [hrun] at hwrite
    simp [alone, Traffic.run, Traffic.step, task, Task.step, Session.upsert, hrun, hwrite,
      Except.map, Session.Undisturbed.refl]
  · rw [hrun] at hwrite
    simpa [alone, Traffic.run, Traffic.step, task, Task.step, Session.upsert, hrun, hwrite,
      Except.map] using t.invalidate.undisturbed_run
        ((ConfigEdit.reads_readBack (s := Resolution.Source) (.inl rfl) id now).spares _)

end Alone

/-! ## What a step can do -/

namespace Task

open Session

/-- What one step of a task makes of a registry, and what comes next. -/
inductive Moved (s : Session) : Task → Task → Session → Prop
  /-- It touches neither the sources nor the cache; a list that comes next is what they give. -/
  | aside {task next : Task} {s' : Session} (undisturbed : Undisturbed s s')
      (notFill : ∀ list, task ≠ .fill list) (notClear : task ≠ .clear)
      (given : ∀ list, next = .fill list → list = s.load.1) : Moved s task next s'
  | filled (list : List LlmConfig) : Moved s (.fill list) .ended { s with cached := some list }
  /-- The sources may change, and the clearing comes next. -/
  | written (m : Mutation) {s' : Session} (cached : s'.cached = s.cached) :
      Moved s (.write m) .clear s'
  | cleared : Moved s .clear .ended s.invalidate

theorem moved_step (s : Session) (task : Task) : Moved s task (task.step s).1 (task.step s).2 := by
  cases task with
  | look useCache =>
      cases hslot : (if useCache then s.cached else none) with
      | some list =>
          simp only [step, hslot]
          exact .aside (.refl s) nofun nofun nofun
      | none =>
          simp only [step, hslot]
          exact .aside (.refl s) nofun nofun nofun
  | load =>
      refine .aside s.undisturbed_load nofun nofun fun list hlist => ?_
      exact (Task.fill.inj hlist).symm
  | fill list => exact .filled list
  | write m =>
      rcases hrun : s.run m.script with ⟨error | value, s'⟩
      · simp only [step, hrun]
        exact .aside (s.undisturbed_failure m.allOrNothing_script hrun) nofun nofun nofun
      · simp only [step, hrun]
        exact .written m (congrArg (fun outcome => outcome.2.cached) hrun).symm
  | clear => exact .cleared
  | ended => exact .aside (.refl s) nofun nofun nofun

/-- Whether the last filling or clearing of the cache has been a filling with a list that the
sources no longer gave, after a step and from whether it had been so before. -/
def lostAfter (s : Session) (before : Prop) : Task → Prop
  | .fill list => list ≠ s.load.1
  | .clear => False
  | .look _ | .load | .write _ | .ended => before

theorem lostAfter_aside {s : Session} {before : Prop} {task : Task}
    (hfill : ∀ list, task ≠ .fill list) (hclear : task ≠ .clear) :
    task.lostAfter s before = before := by
  cases task with
  | fill list => exact absurd rfl (hfill list)
  | clear => exact absurd rfl hclear
  | look | load | write | ended => rfl

end Task

namespace Traffic

open Session

/-- What an event makes of a registry and the requests under way on it. -/
inductive Stepped (t : Traffic) : Event → Traffic → Prop
  | begun (r : Request) : Stepped t (.begin r) { t with tasks := t.tasks ++ [r.task] }
  | missed {i : Nat} (absent : t.tasks[i]? = none) : Stepped t (.advance i) t
  | taken {i : Nat} {task next : Task} {s' : Session} (present : t.tasks[i]? = some task)
      (moved : task.Moved t.session next s') :
      Stepped t (.advance i) ⟨s', t.tasks.set i next⟩

theorem stepped (t : Traffic) (e : Event) : t.Stepped e (t.step e) := by
  cases e with
  | begin r => exact .begun r
  | advance i =>
      cases hi : t.tasks[i]? with
      | none =>
          simp only [step, hi]
          exact .missed hi
      | some task =>
          simp only [step, hi]
          exact .taken hi (Task.moved_step t.session task)

/-- A task stays under way while another takes its step. -/
theorem mem_set_of_ne {tasks : List Task} {i : Nat} {task other : Task}
    (hi : tasks[i]? = some task) (hne : task ≠ other) (next : Task) (h : other ∈ tasks) :
    other ∈ tasks.set i next := by
  obtain ⟨j, hj⟩ := List.mem_iff_getElem?.mp h
  have hij : i ≠ j := by
    rintro rfl
    exact hne (Option.some.inj (hi.symm.trans hj))
  exact List.mem_iff_getElem?.mpr ⟨j, by rw [List.getElem?_set_ne hij, hj]⟩

theorem mem_set {tasks : List Task} {i : Nat} {task : Task} (hi : tasks[i]? = some task)
    (next : Task) : next ∈ tasks.set i next := by
  obtain ⟨hlt, -⟩ := List.getElem?_eq_some_iff.mp hi
  exact List.mem_iff_getElem?.mpr ⟨i, List.getElem?_set_self hlt⟩

theorem load_filled (s : Session) (list : List LlmConfig) :
    ({ s with cached := some list } : Session).load.1 = s.load.1 :=
  load_eq_of_alike rfl (.refl _ _)

/-! ## Lost races -/

def lostAfter (t : Traffic) (before : Prop) : Event → Prop
  | .begin _ => before
  | .advance i =>
    match t.tasks[i]? with
    | some task => task.lostAfter t.session before
    | none => before

def lostThrough (t : Traffic) (before : Prop) : List Event → Prop
  | [] => before
  | e :: rest => (t.step e).lostThrough (t.lostAfter before e) rest

/-- The last filling or clearing of the cache in a run is a filling with a list that the sources
no longer gave. -/
def LostRace (t : Traffic) (events : List Event) : Prop := t.lostThrough False events

/-- What a lost race says about the cache: it is not empty, and it holds another list than the
sources give now, unless a clearing is under way that will empty it. -/
structure Tracked (t : Traffic) (lost : Prop) : Prop where
  empty : t.session.cached = none → ¬ lost
  filled : ∀ list, t.session.cached = some list →
    .clear ∈ t.tasks ∨ (lost ↔ list ≠ t.session.load.1)

section Lost

variable {t : Traffic} {lost : Prop}

theorem Tracked.of_undisturbed (h : t.Tracked lost) {t' : Traffic}
    (hsession : Undisturbed t.session t'.session)
    (hclear : .clear ∈ t.tasks → .clear ∈ t'.tasks) : t'.Tracked lost := by
  refine ⟨fun hnone => h.empty (hsession.cached ▸ hnone), fun list hlist => ?_⟩
  rw [hsession.load_eq]
  exact (h.filled list (hsession.cached ▸ hlist)).imp_left hclear

/-- One event keeps track. -/
theorem Tracked.step (h : t.Tracked lost) (e : Event) :
    (t.step e).Tracked (t.lostAfter lost e) := by
  have hstep := t.stepped e
  generalize t.step e = t' at hstep ⊢
  cases hstep with
  | begun r => exact h.of_undisturbed (.refl _) fun hmem => List.mem_append_left _ hmem
  | missed absent => simpa only [lostAfter, absent] using h
  | taken present moved =>
      simp only [lostAfter, present]
      cases moved with
      | aside undisturbed notFill notClear =>
          rw [Task.lostAfter_aside notFill notClear]
          exact h.of_undisturbed undisturbed (mem_set_of_ne present notClear _)
      | filled list =>
          refine ⟨nofun, fun list' hlist' => .inr ?_⟩
          obtain rfl := Option.some.inj hlist'
          rw [load_filled]
          exact Iff.rfl
      | written m cached =>
          -- the sources may give another list now, but a clearing is under way
          exact ⟨fun hnone => h.empty (cached ▸ hnone), fun _ _ => .inl (mem_set present _)⟩
      | cleared => exact ⟨fun _ hlost => hlost, nofun⟩

/-- A run keeps track. -/
theorem Tracked.run (h : t.Tracked lost) (events : List Event) :
    (t.run events).Tracked (t.lostThrough lost events) := by
  induction events generalizing t lost with
  | nil => exact h
  | cons e rest ih => exact ih (h.step e)

/-- With nothing under way no clearing is to come, and a lost race is all that can be wrong. -/
theorem Tracked.not_coherent_iff (h : t.Tracked lost) (hquiet : t.Quiet) :
    ¬ t.session.Coherent ↔ lost := by
  have hnoclear : Task.clear ∉ t.tasks := fun hmem => nomatch hquiet .clear hmem
  constructor
  · intro hstale
    refine Classical.byContradiction fun hkept => hstale fun list hlist => ?_
    rcases h.filled list hlist with hmem | hiff
    · exact absurd hmem hnoclear
    · exact Classical.not_not.mp fun hne => hkept (hiff.mpr hne)
  · intro hlost hcoherent
    cases hcached : t.session.cached with
    | none => exact h.empty hcached hlost
    | some list =>
        rcases h.filled list hcached with hmem | hiff
        · exact hnoclear hmem
        · exact hiff.mp hlost (hcoherent list hcached)

end Lost

/-- A registry with nothing cached and nothing under way. -/
def idle (db : Database) (env : Environment) (invoker : Option Rehearsal) : Traffic :=
  ⟨.start db env invoker, []⟩

theorem tracked_idle (db : Database) (env : Environment) (invoker : Option Rehearsal)
    (events : List Event) :
    ((idle db env invoker).run events).Tracked ((idle db env invoker).LostRace events) :=
  have hstart : (idle db env invoker).Tracked False := ⟨fun _ hlost => hlost, nofun⟩
  hstart.run events

/-- With nothing under way, the cache is stale exactly where the last race was lost. -/
theorem not_coherent_iff_lostRace (db : Database) (env : Environment)
    (invoker : Option Rehearsal) {events : List Event}
    (hquiet : ((idle db env invoker).run events).Quiet) :
    ¬ ((idle db env invoker).run events).session.Coherent
      ↔ (idle db env invoker).LostRace events :=
  (tracked_idle db env invoker events).not_coherent_iff hquiet

/-! ### A race that is lost -/

/-- One active provider record, and nothing else. -/
def oneProvider : Database :=
  (Database.empty ObjectId.ofNat).put Collections.providers [
    ⟨[("_id", .objectId (ObjectId.ofNat 1)), ("name", .string "openai"),
      ("is_active", .boolean true)]⟩]

/-- A get has looked and loaded when a deletion writes and clears; then the get fills. -/
def lateFilling : List Event := [
  .begin (.get true), .advance 0, .advance 0,
  .begin (.mutate (.delete "000000000000000000000001")), .advance 1, .advance 1,
  .advance 0]

theorem not_coherent_lateFilling :
    ¬ ((idle oneProvider Environment.empty none).run lateFilling).session.Coherent := by
  have hcached : (((idle oneProvider Environment.empty none).run lateFilling).session.cached.map
      List.length) = some 1 := by decide +kernel
  have hload : ((idle oneProvider Environment.empty none).run lateFilling).session.load.1.length
      = 0 := by decide +kernel
  intro hcoherent
  obtain ⟨list, hlist, hlength⟩ := Option.map_eq_some_iff.mp hcached
  rw [hcoherent list hlist, hload] at hlength
  exact nomatch hlength

/-- Nothing is under way, and the deleted provider is cached. -/
theorem stale_after_lateFilling :
    ((idle oneProvider Environment.empty none).run lateFilling).Quiet ∧
      ¬ ((idle oneProvider Environment.empty none).run lateFilling).session.Coherent :=
  ⟨by decide +kernel, not_coherent_lateFilling⟩

theorem lostRace_lateFilling :
    ((idle oneProvider Environment.empty none).run lateFilling).Quiet ∧
      (idle oneProvider Environment.empty none).LostRace lateFilling := by
  have hquiet : ((idle oneProvider Environment.empty none).run lateFilling).Quiet := by
    decide +kernel
  rw [← not_coherent_iff_lostRace oneProvider Environment.empty none hquiet]
  exact ⟨hquiet, not_coherent_lateFilling⟩

/-! ## Runs without a race -/

/-- The event is a write to the store. -/
def Writes (t : Traffic) : Event → Prop
  | .begin _ => False
  | .advance i => ∃ m, t.tasks[i]? = some (.write m)

/-- No write to the store falls between the loading of a list and its filling in. -/
def Unraced (t : Traffic) : List Event → Prop
  | [] => True
  | e :: rest => (t.Writes e → ∀ list, .fill list ∉ t.tasks) ∧ (t.step e).Unraced rest

section Races

variable {t : Traffic}

/-- What is about to be cached is what the sources give now. -/
def Fresh (t : Traffic) : Prop := ∀ list, .fill list ∈ t.tasks → list = t.session.load.1

theorem Fresh.step (h : t.Fresh) {e : Event} (hwrite : t.Writes e → ∀ list, .fill list ∉ t.tasks) :
    (t.step e).Fresh := by
  intro list hlist
  have hstep := t.stepped e
  generalize t.step e = t' at hstep hlist ⊢
  cases hstep with
  | begun r =>
      rcases List.mem_append.mp hlist with hlist | hlist
      · exact h list hlist
      · cases r <;> exact nomatch List.mem_singleton.mp hlist
  | missed absent => exact h list hlist
  | taken present moved =>
      have hcases := List.mem_or_eq_of_mem_set hlist
      cases moved with
      | aside undisturbed notFill notClear given =>
          rw [undisturbed.load_eq]
          exact hcases.elim (h list) fun hnext => given list hnext.symm
      | filled list' =>
          rw [load_filled]
          exact hcases.elim (h list) nofun
      | written m cached => exact (hcases.elim (hwrite ⟨m, present⟩ list) nofun).elim
      | cleared => exact hcases.elim (h list) nofun

theorem Fresh.not_lostThrough (h : t.Fresh) {lost : Prop} (hlost : ¬ lost) {events : List Event}
    (hunraced : t.Unraced events) : ¬ t.lostThrough lost events := by
  induction events generalizing t lost with
  | nil => exact hlost
  | cons e rest ih =>
      refine ih (h.step hunraced.1) ?_ hunraced.2
      cases e with
      | begin r => exact hlost
      | advance i =>
          cases hi : t.tasks[i]? with
          | none => simpa only [lostAfter, hi] using hlost
          | some task =>
              simp only [lostAfter, hi]
              cases task with
              | fill list => exact fun hne => hne (h list (List.mem_of_getElem? hi))
              | clear => exact not_false
              | look | load | write | ended => exact hlost

end Races

/-- Without a write between a loading and its filling, no race is lost. -/
theorem coherent_of_unraced (db : Database) (env : Environment) (invoker : Option Rehearsal)
    {events : List Event} (hquiet : ((idle db env invoker).run events).Quiet)
    (hunraced : (idle db env invoker).Unraced events) :
    ((idle db env invoker).run events).session.Coherent := by
  have hfresh : (idle db env invoker).Fresh := nofun
  have hkept := hfresh.not_lostThrough not_false hunraced
  exact Classical.not_not.mp fun hstale =>
    hkept (((tracked_idle db env invoker events).not_coherent_iff hquiet).mp hstale)

/-! ## What can be cached at all -/

/-- The cached list and the lists that are about to be cached satisfy a property. -/
structure Holds (P : List LlmConfig → Prop) (t : Traffic) : Prop where
  cached : ∀ list, t.session.cached = some list → P list
  loaded : ∀ list, .fill list ∈ t.tasks → P list

section Lists

variable {t : Traffic} {P : List LlmConfig → Prop}

theorem Holds.step (h : t.Holds P) (hload : P t.session.load.1) (e : Event) :
    (t.step e).Holds P := by
  have hstep := t.stepped e
  generalize t.step e = t' at hstep ⊢
  cases hstep with
  | begun r =>
      refine ⟨h.cached, fun list hmem => ?_⟩
      rcases List.mem_append.mp hmem with hmem | hmem
      · exact h.loaded list hmem
      · cases r <;> exact nomatch List.mem_singleton.mp hmem
  | missed absent => exact h
  | @taken i task next s' present moved =>
      have hloaded : (∀ list, next = .fill list → P list) →
          ∀ list, .fill list ∈ t.tasks.set i next → P list := by
        intro hnext list hlist
        rcases List.mem_or_eq_of_mem_set hlist with hlist | hlist
        · exact h.loaded list hlist
        · exact hnext list hlist.symm
      cases moved with
      | aside undisturbed notFill notClear given =>
          refine ⟨fun list hlist => h.cached list (undisturbed.cached ▸ hlist), ?_⟩
          exact hloaded fun list hlist => given list hlist ▸ hload
      | filled list =>
          refine ⟨fun list' hlist' => ?_, hloaded nofun⟩
          exact Option.some.inj hlist' ▸ h.loaded list (List.mem_of_getElem? present)
      | written m cached =>
          exact ⟨fun list hlist => h.cached list (cached ▸ hlist), hloaded nofun⟩
      | cleared => exact ⟨nofun, hloaded nofun⟩

theorem Holds.run (h : t.Holds P) (events : List Event)
    (hload : ∀ earlier, earlier <+: events → P (t.run earlier).session.load.1) :
    (t.run events).Holds P := by
  induction events generalizing t with
  | nil => exact h
  | cons e rest ih =>
      refine ih (h.step (hload [] List.nil_prefix) e) fun earlier hearlier => ?_
      exact hload (e :: earlier) (List.cons_prefix_cons.mpr ⟨rfl, hearlier⟩)

end Lists

/-- What is cached is what the sources gave at some moment of the run. -/
theorem cached_was_given (db : Database) (env : Environment) (invoker : Option Rehearsal)
    (events : List Event) (list : List LlmConfig)
    (hcached : ((idle db env invoker).run events).session.cached = some list) :
    ∃ earlier, earlier <+: events ∧
      list = ((idle db env invoker).run earlier).session.load.1 := by
  have hstart : (idle db env invoker).Holds fun list => ∃ earlier, earlier <+: events ∧
      list = ((idle db env invoker).run earlier).session.load.1 :=
    ⟨nofun, nofun⟩
  exact (hstart.run events fun earlier hearlier => ⟨earlier, hearlier, rfl⟩).cached list hcached

end Traffic

end ProviderRegistry
