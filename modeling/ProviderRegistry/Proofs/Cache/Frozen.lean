/-
# `Proofs.Cache.Frozen` — a cached list stands until it is dropped or replaced

The cached list is touched in three places: it is filled where configs are asked
for and there is none, or none is wanted; it is emptied by an edit or a deletion
that has gone through; and it can be emptied by hand.  Nothing that happens to
the store is seen there.  A list that has been cached is given again, without a
look at the store, however wrong it has become, and an empty list like any
other.

## What is proved

A step keeps the cached list, or empties the cache, or fills it with what the
sources give then (`effect`).  A `Harmless` step keeps a list, and a step that
`Renews` does not.  So through harmless steps the cached list answers everything,
and after the first step that renews, what is cached is what the sources gave
when the cache was last filled (`frozen_until_renewed`).
-/
import ProviderRegistry.Proofs.Admin.Failure
import ProviderRegistry.Proofs.Session.Steps

namespace ProviderRegistry

/-- A failure by which an edit is turned down: it breaks a rule, names no identity, or names one
without a record. -/
inductive ConfigError.TurnsDown : ConfigError → Prop
  | validation (reason : String) : TurnsDown (.validation reason)
  | notFound (what : String) : TurnsDown (.notFound what)

namespace Session

/-! ## Kinds of steps -/

/-- A step that leaves the cached list: anything that others do to the store, every operation that
neither edits nor empties nor goes past the cache, a deletion that fails, and an edit that is turned
down. -/
def Harmless (s : Session) : Step → Prop
  | .operation (.upsert now e) => ∃ error, (s.upsert now e).1 = .error error ∧ error.TurnsDown
  | .operation (.delete id) => ∃ error, (s.delete id).1 = .error error
  | .operation .invalidate | .operation .reload | .operation (.configs false) => False
  | _ => True

/-- A step that empties the cached list or puts another in its place. -/
def Renews (s : Session) : Step → Prop
  | .operation (.upsert now e) => ∃ view, (s.upsert now e).1 = .ok view
  | .operation (.delete id) => (s.delete id).1 = .ok ()
  | .operation .invalidate | .operation .reload | .operation (.configs false) => True
  | _ => False

/-- Whether a step fills the cache from the sources. -/
def fills (s : Session) : Step → Bool
  | .operation .reload | .operation (.configs false) => true
  | .operation (.configs true) | .operation .active | .operation (.byProvider _)
  | .operation (.project _) => s.cached.isNone
  | _ => false

/-- Harmless steps, one after the other. -/
def HarmlessAll (s : Session) : List Step → Prop
  | [] => True
  | step :: rest => s.Harmless step ∧ (s.after step).HarmlessAll rest

/-- The registry right before the last of several steps that filled the cache. -/
def lastFilling (s : Session) : List Step → Option Session
  | [] => none
  | step :: rest => ((s.after step).lastFilling rest).or (if s.fills step then some s else none)

theorem lastFilling_append (s : Session) (steps rest : List Step) :
    s.lastFilling (steps ++ rest)
      = ((s.afterAll steps).lastFilling rest).or (s.lastFilling steps) := by
  induction steps generalizing s with
  | nil => exact (Option.or_none).symm
  | cons step steps ih =>
      show ((s.after step).lastFilling (steps ++ rest)).or _ = _
      rw [ih, Option.or_assoc]
      rfl

/-! ## The cached list after one step -/

section Step

variable {s : Session} {list : List LlmConfig} {step : Step}

theorem configs_of_cached (h : s.cached = some list) : s.configs true = (list, s) := by
  simp [configs, h]

theorem configs_of_empty (h : s.cached = none) :
    s.configs true = (s.load.1, { s.load.2 with cached := some s.load.1 }) := by
  simp [configs, h]

theorem cached_test (s : Session) (id : String) : (s.test id).2.cached = s.cached := by
  unfold test run
  rcases (Probe.prepare id).run s.database with ⟨error | probe, prepared⟩ <;> rfl

/-- An edit that has been written empties the cache, and it is not turned down any more; any other
leaves it. -/
theorem cached_upsert (s : Session) (now : Moment) (e : ConfigEdit) :
    ((s.upsert now e).2.cached = s.cached ∧ ∃ error, (s.upsert now e).1 = .error error) ∨
      (s.upsert now e).2.cached = none ∧
        ∀ error, (s.upsert now e).1 = .error error → ¬ error.TurnsDown := by
  unfold upsert run
  rcases hwrite : (e.write now).run s.database with ⟨error | id, written⟩
  · exact .inl ⟨rfl, error, rfl⟩
  · refine .inr ⟨rfl, fun error herror hdown => ?_⟩
    obtain ⟨-, husable, hwrote⟩ := ConfigEdit.wrote_of_run_write hwrite
    obtain ⟨reason, rfl⟩ := hwrote.error_of_readBack husable (Prod.ext herror rfl)
    exact nomatch hdown

theorem cached_delete (s : Session) (id : String) :
    ((s.delete id).2.cached = s.cached ∧ ∃ error, (s.delete id).1 = .error error) ∨
      (s.delete id).2.cached = none ∧ (s.delete id).1 = .ok () := by
  unfold delete run
  rcases (deleteConfig id).run s.database with ⟨error | _, deleted⟩
  · exact .inl ⟨rfl, error, rfl⟩
  · exact .inr ⟨rfl, rfl⟩

/-- What a step does to the cached list. -/
inductive Effect (s : Session) (step : Step) : Prop
  | keeps (same : (s.after step).cached = s.cached) (idle : s.fills step = false)
      (unrenewed : ¬ s.Renews step)
  | empties (empty : (s.after step).cached = none) (idle : s.fills step = false)
      (harmful : ¬ s.Harmless step)
  | fills (full : (s.after step).cached = some s.load.1) (filling : s.fills step = true)
      (harmful : s.Harmless step → s.cached = none)

/-- Asking for the configs fills an empty cache and leaves any other. -/
theorem effect_of_configs {step : Step} (hafter : (s.after step).cached = (s.configs true).2.cached)
    (hfills : s.fills step = s.cached.isNone) (hrenews : ¬ s.Renews step) : Effect s step := by
  cases hcached : s.cached with
  | none =>
      refine .fills (hafter.trans ?_) (by rw [hfills, hcached]; rfl) fun _ => hcached
      rw [configs_of_empty hcached]
  | some list =>
      refine .keeps (hafter.trans ?_) (by rw [hfills, hcached]; rfl) hrenews
      rw [configs_of_cached hcached]

theorem effect (s : Session) (step : Step) : Effect s step := by
  cases step with
  | rollback | change | insertAll | switch => exact .keeps rfl rfl id
  | operation op =>
      cases op with
      | list | backup | migrate | validate | migrateAndValidate => exact .keeps rfl rfl id
      | test id => exact .keeps (s.cached_test id) rfl fun h => h
      | invalidate => exact .empties rfl rfl id
      | reload => exact .fills rfl rfl False.elim
      | active | byProvider | project => exact effect_of_configs rfl rfl id
      | configs useCache =>
          cases useCache with
          | false => exact .fills rfl rfl False.elim
          | true => exact effect_of_configs rfl rfl id
      | upsert now e =>
          rcases s.cached_upsert now e with ⟨hkept, error, herror⟩ | ⟨hdropped, hwritten⟩
          · refine .keeps hkept rfl ?_
            rintro ⟨view, hview⟩
            exact nomatch herror.symm.trans hview
          · refine .empties hdropped rfl ?_
            rintro ⟨error, herror, hdown⟩
            exact hwritten error herror hdown
      | delete id =>
          rcases s.cached_delete id with ⟨hkept, error, herror⟩ | ⟨hdropped, hok⟩
          · refine .keeps hkept rfl fun hok => ?_
            exact nomatch herror.symm.trans hok
          · refine .empties hdropped rfl ?_
            rintro ⟨error, herror⟩
            exact nomatch herror.symm.trans hok

/-- What a harmless step finds in the cache it leaves there. -/
theorem cached_of_harmless (hcached : s.cached = some list) (h : s.Harmless step) :
    (s.after step).cached = some list := by
  cases s.effect step with
  | keeps same => exact same.trans hcached
  | empties _ _ harmful => exact absurd h harmful
  | fills _ _ harmful => exact nomatch (harmful h).symm.trans hcached

end Step

/-! ## Through many steps -/

section Steps

variable {s : Session} {list : List LlmConfig}

theorem cached_of_harmlessAll {steps : List Step} (hcached : s.cached = some list)
    (h : s.HarmlessAll steps) : (s.afterAll steps).cached = some list := by
  induction steps generalizing s with
  | nil => exact hcached
  | cons step rest ih => exact ih (cached_of_harmless hcached h.1) h.2

/-- The cached list is what the sources gave when the cache was last filled, or, where it has not
been filled, the one that was there. -/
theorem cached_afterAll (s : Session) (steps : List Step) :
    (s.afterAll steps).cached = none ∨
      (∃ filled, s.lastFilling steps = some filled ∧
        (s.afterAll steps).cached = some filled.load.1) ∨
      (s.lastFilling steps = none ∧ (s.afterAll steps).cached = s.cached) := by
  induction steps generalizing s with
  | nil => exact .inr (.inr ⟨rfl, rfl⟩)
  | cons step rest ih =>
      rw [afterAll_cons, lastFilling]
      rcases ih (s.after step) with hnone | ⟨filled, hfilled, hlist⟩ | ⟨hnever, hsame⟩
      · exact .inl hnone
      · exact .inr (.inl ⟨filled, by rw [hfilled, Option.some_or], hlist⟩)
      · rw [hsame, hnever, Option.none_or]
        cases s.effect step with
        | keeps same idle =>
            rw [idle]
            exact .inr (.inr ⟨rfl, same⟩)
        | empties empty => exact .inl empty
        | fills full filling =>
            rw [filling]
            exact .inr (.inl ⟨s, rfl, full⟩)

/-- After a step that renews, whatever comes after it, the next list that may come from the cache is
what the sources gave when the cache was last filled. -/
theorem configs_after_renewal {renewal : Step} (h : s.Renews renewal) (later : List Step) :
    ∃ filled, s.lastFilling (renewal :: later ++ [.operation (.configs true)]) = some filled ∧
      ((s.afterAll (renewal :: later)).configs true).1 = filled.load.1 := by
  rw [lastFilling_append]
  show ∃ filled, ((none : Option Session).or (if (s.afterAll (renewal :: later)).cached.isNone then
    some (s.afterAll (renewal :: later)) else none)).or _ = some filled ∧ _
  rw [Option.none_or]
  cases hcached : (s.afterAll (renewal :: later)).cached with
  | none => exact ⟨_, rfl, by rw [configs_of_empty hcached]⟩
  | some list =>
      rw [configs_of_cached hcached]
      show ∃ filled, ((s.after renewal).lastFilling later).or
        (if s.fills renewal then some s else none) = some filled ∧ list = filled.load.1
      rw [afterAll_cons] at hcached
      rcases (s.after renewal).cached_afterAll later with hnone | ⟨filled, hfilled, hlist⟩
        | ⟨hnever, hsame⟩
      · exact nomatch hcached.symm.trans hnone
      · exact ⟨filled, by rw [hfilled, Option.some_or],
          Option.some.inj (hcached.symm.trans hlist)⟩
      · -- nothing has been filled after the step that renews, so that step has filled
        rw [hsame] at hcached
        rw [hnever, Option.none_or]
        cases s.effect renewal with
        | keeps _ _ unrenewed => exact absurd h unrenewed
        | empties empty => exact nomatch hcached.symm.trans empty
        | fills full filling =>
            rw [filling]
            exact ⟨s, rfl, Option.some.inj (hcached.symm.trans full)⟩

end Steps

/-- Through any harmless steps a cached list stands, be it empty: it is given where configs are
asked for, the answers are computed from it, and the registry is not changed by asking, the count of
reads included.  After the first step that renews, whatever else happens, the next list that may
come from the cache is what the sources gave when the cache was last filled. -/
theorem frozen_until_renewed {s : Session} {list : List LlmConfig} (hcached : s.cached = some list)
    {steps : List Step} (hsteps : s.HarmlessAll steps) :
    (s.afterAll steps).configs true = (list, s.afterAll steps) ∧
    (s.afterAll steps).active = (LlmConfig.firstEnabled list, s.afterAll steps) ∧
    (∀ provider, (s.afterAll steps).byProvider provider
      = (LlmConfig.findByProvider list provider, s.afterAll steps)) ∧
    (∀ baseline, (s.afterAll steps).project baseline
      = (baseline.project (LlmConfig.firstEnabled list), s.afterAll steps)) ∧
    ∀ renewal later, (s.afterAll steps).Renews renewal →
      ∃ filled, (s.afterAll steps).lastFilling
          (renewal :: later ++ [.operation (.configs true)]) = some filled ∧
        (((s.afterAll steps).afterAll (renewal :: later)).configs true).1 = filled.load.1 := by
  have hlist := configs_of_cached (cached_of_harmlessAll hcached hsteps)
  refine ⟨hlist, ?_, fun provider => ?_, fun baseline => ?_,
    fun renewal later h => configs_after_renewal h later⟩
  · unfold active
    rw [hlist]
  · unfold byProvider
    rw [hlist]
  · unfold project active
    rw [hlist]

/-! ### An empty list that stands -/

/-- A provider is added, the store goes offline, and nobody notices. -/
def unnoticed : List Step := [
  .change (.ask (.insert Collections.providers
    ⟨[("name", .string "zhipu"), ("is_active", .boolean true)]⟩)),
  .switch true [],
  .operation (.delete "000000000000000000000002"),
  .operation (.upsert epoch (naming " ")),
  .rollback,
  .operation .active]

theorem turnsDown_blank (s : Session) :
    ∃ error, (s.upsert epoch (naming " ")).1 = .error error ∧ error.TurnsDown := by
  have hblank : (naming " ").fault? = some .blankName := by decide +kernel
  refine ⟨EditFault.blankName.toError, ?_, .validation _⟩
  simp only [upsert, run, ConfigEdit.write, hblank]
  rfl

theorem harmlessAll_unnoticed : oddSettings.HarmlessAll unnoticed := by
  refine ⟨trivial, trivial, ?_, turnsDown_blank _, trivial, trivial, trivial⟩
  have hfails : ((oddSettings.afterAll (unnoticed.take 2)).delete
      "000000000000000000000002").1.isOk = false := by decide +kernel
  show ∃ error, ((oddSettings.afterAll (unnoticed.take 2)).delete
    "000000000000000000000002").1 = .error error
  generalize ((oddSettings.afterAll (unnoticed.take 2)).delete
    "000000000000000000000002").1 = outcome at hfails ⊢
  cases outcome with
  | error error => exact ⟨error, rfl⟩
  | ok _ => exact nomatch hfails

/-- An empty list is given while the provider is there, and until the cache is emptied. -/
theorem frozen_unnoticed :
    (oddSettings.afterAll unnoticed).configs true = ([], oddSettings.afterAll unnoticed) ∧
      (oddSettings.afterAll unnoticed).active = (none, oddSettings.afterAll unnoticed) ∧
      ∃ filled, (oddSettings.afterAll unnoticed).lastFilling
          [.operation .invalidate, .switch false [], .operation (.configs true)] = some filled ∧
        (((oddSettings.afterAll unnoticed).afterAll
          [.operation .invalidate, .switch false []]).configs true).1 = filled.load.1 ∧
        filled.load.1.map (·.provider) = ["zhipu"] := by
  obtain ⟨hconfigs, hactive, -, -, hrenewed⟩ :=
    frozen_until_renewed (rfl : oddSettings.cached = some []) harmlessAll_unnoticed
  obtain ⟨filled, hfilled, hlist⟩ := hrenewed (.operation .invalidate) [.switch false []] trivial
  refine ⟨hconfigs, hactive, filled, hfilled, hlist, ?_⟩
  rw [← hlist]
  have hproviders : ((((oddSettings.afterAll unnoticed).afterAll
    [.operation .invalidate, .switch false []]).configs true).1.map (·.provider)) = ["zhipu"] := by
    decide +kernel
  exact hproviders

end Session

end ProviderRegistry
