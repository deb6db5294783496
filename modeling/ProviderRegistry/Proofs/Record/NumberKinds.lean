/-
# `Proofs.Record.NumberKinds` — whole numbers stored as integers or as doubles

A whole number of 32 bits can be stored in three kinds: as an integer of 32
bits, as one of 64 bits, and as a double.  What reads numbers takes all three
for the same (`toDouble?_recoded`, `toInt64?_recoded`).  What reads flags takes
the two kinds of integers for the same, but reads no double: a flag that is
stored as one counts as not stored, and then it is set (`getD_toBool?_recoded`).

## What is proved

So storing the numbers of a record in other kinds changes nothing but the flag,
and that exactly where it was zero and is a double now (`ZeroAsDouble`):

    a provider record   the config by `is_active`, the view by `enabled`
    a model's config    the migrated record by `enabled`
    an entry            by its two flags, of which the first that can be read
                        counts, so that a first flag that is no longer read
                        passes the decision on to the second (`Misread`)

put together, for documents as well, in `results_of_recoded`.
-/
import ProviderRegistry.Proofs.Number.Whole
import ProviderRegistry.Proofs.Record.Restated

namespace ProviderRegistry

/-! ## One number -/

namespace Bson

/-- The same value, or the number of an integer of 32 bits in one of the two other kinds. -/
inductive Recoded : Bson → Bson → Prop
  | same (v : Bson) : Recoded v v
  | long (n : Int32) : Recoded (.int32 n) (.int64 n.toInt64)
  | double (n : Int32) : Recoded (.int32 n) (.double (Double.ofInt n.toInt))

theorem toDouble?_recoded {v w : Bson} (h : Recoded v w) : v.toDouble? = w.toDouble? := by
  cases h with
  | same v => rfl
  | long n =>
      simp only [toDouble?, Int32.toInt_toInt64]
  | double n => rfl

theorem toInt64?_recoded {v w : Bson} (h : Recoded v w) : v.toInt64? = w.toInt64? := by
  cases h with
  | same v => rfl
  | long n => rfl
  | double n =>
      have hlow := n.le_toInt
      have hhigh := n.toInt_lt
      have hfinite : (Double.ofInt n.toInt).isFinite = true := Double.isFinite_ofInt (by omega)
      simp only [toInt64?, hfinite, if_true, Double.toNearestInt64_ofInt32]

/-- A flag that was zero, and is zero as a double. -/
def ZeroAsDouble (v w : Option Bson) : Prop :=
  v = some (.int32 0) ∧ w = some (.double (Double.zero false))

theorem toBool?_long (n : Int32) : (int64 n.toInt64).toBool? = (int32 n).toBool? := by
  have hzero : n.toInt64 = 0 ↔ n = 0 := by
    rw [← Int64.toInt_inj, ← Int32.toInt_inj, Int32.toInt_toInt64]
    rfl
  simp only [toBool?, bne, Option.some.injEq]
  rw [Bool.eq_iff_iff]
  simp [hzero]

/-- Only an integer that is a double now is read as another flag, and then as none. -/
theorem bind_toBool?_recoded {v w : Option Bson} (h : Option.Rel Recoded v w) :
    v.bind toBool? = w.bind toBool? ∨
      ∃ n : Int32, v = some (.int32 n) ∧ w = some (.double (Double.ofInt n.toInt)) := by
  cases h with
  | none => exact .inl rfl
  | some hvw =>
      cases hvw with
      | same v => exact .inl rfl
      | long n => exact .inl (toBool?_long n).symm
      | double n => exact .inr ⟨n, rfl, rfl⟩

/-- A flag is read as before, but for a zero that is a double now. -/
theorem getD_toBool?_recoded {v w : Option Bson} (h : Option.Rel Recoded v w) :
    (w.bind toBool?).getD true = (v.bind toBool?).getD true ↔ ¬ZeroAsDouble v w := by
  rcases bind_toBool?_recoded h with heq | ⟨n, rfl, rfl⟩
  · refine iff_of_true (by rw [heq]) ?_
    rintro ⟨rfl, rfl⟩
    exact nomatch heq
  · show true = (n != 0) ↔ _
    have hzero :
        ZeroAsDouble (some (.int32 n)) (some (.double (Double.ofInt n.toInt))) ↔ n = 0 := by
      constructor
      · rintro ⟨hn, -⟩
        injection hn with hn
        injection hn
      · rintro rfl
        exact ⟨rfl, rfl⟩
    rw [hzero, eq_comm, bne_iff_ne]

theorem rel_recoded_refl (v : Option Bson) : Option.Rel Recoded v v := by
  cases v with
  | none => exact .none
  | some v => exact .some (.same v)

theorem forms_recoded : Forms Eq (Option.Rel Recoded) where
  text _ _ h := congrArg _ h
  double _ _ h := bind_eq_of_rel h fun _ _ => toDouble?_recoded
  integer _ _ h := bind_eq_of_rel h fun _ _ => toInt64?_recoded

/-- A number in another kind is what it is in that kind. -/
theorem matching_recoded {v w : Bson} (h : Recoded v w) :
    Matching Eq (Option.Rel Recoded) (Decode.optional Decode.anything v)
      (Decode.optional Decode.anything w) := by
  cases h with
  | same v => exact .refl (fun _ => rfl) rel_recoded_refl _
  | long n => exact .ok (.some (.long n))
  | double n => exact .ok (.some (.double n))

/-- The same value under every key, or under one of the keys of numbers the same number. -/
abbrev RecodedAt : String → Bson → Bson → Prop := ChangedAt numberKeys Recoded

theorem readings_recodedAt {texts plain : List String} (htexts : ∀ key ∈ texts, key ∉ numberKeys)
    (hplain : ∀ key ∈ plain, key ∉ numberKeys) :
    Readings RecodedAt Eq (Option.Rel Recoded) texts numberKeys plain where
  text key hkey v w h := by
    rw [h.eq (htexts key hkey)]
    exact .refl (fun _ => rfl) (fun _ => rfl) _
  number _ _ _ _ h := h.matching rel_recoded_refl matching_recoded
  plain key hkey _ _ h := h.eq (hplain key hkey)

end Bson

/-! ## Documents and records -/

open Bson (ZeroAsDouble)

/-- Documents that are the same but for the kinds of their numbers. -/
def Document.Recoded (d d' : Document) : Prop := Fields.Related Bson.RecodedAt d.fields d'.fields

/-- Provider records that are the same but for the kinds of their numbers. -/
abbrev ProviderRecord.Recoded : ProviderRecord → ProviderRecord → Prop :=
  Restated Eq (Option.Rel Bson.Recoded)

abbrev ConfigEntry.Recoded : ConfigEntry → ConfigEntry → Prop :=
  Restated Eq (Option.Rel Bson.Recoded)

abbrev LegacyConfig.Recoded : LegacyConfig → LegacyConfig → Prop :=
  Restated Eq (Option.Rel Bson.Recoded)

/-- Decoding keeps the kinds of numbers, whatever they are. -/
theorem decode_recoded {d d' : Document} (h : d.Recoded d') :
    Matching Eq ProviderRecord.Recoded (ProviderRecord.decode d) (ProviderRecord.decode d') ∧
    Matching Eq ConfigEntry.Recoded (ConfigEntry.decode d) (ConfigEntry.decode d') ∧
    Matching Eq LegacyConfig.Recoded (LegacyConfig.decode d) (LegacyConfig.decode d') := by
  refine ⟨ProviderRecord.matching_restated (Bson.readings_recodedAt (by decide) (by decide)) ?_ rfl
      .none h,
    ConfigEntry.matching_restated (Bson.readings_recodedAt (by decide) (by decide)) rfl .none h,
    LegacyConfig.matching_restated (Bson.readings_recodedAt (by decide) (by decide)) rfl .none h⟩
  intro v w hvw
  rw [hvw.eq (by decide)]
  refine .refl (fun _ => rfl) (fun e => ?_) _
  cases e with
  | none => exact .none
  | some e => exact .some rfl

theorem LlmConfig.withEnabled_eq_iff {c : LlmConfig} {b : Bool} :
    { c with enabled := b } = c ↔ b = c.enabled := by
  constructor
  · exact fun heq => congrArg LlmConfig.enabled heq
  · exact fun heq => by rw [heq]

/-! ## Provider records -/

namespace ProviderRecord

variable {r r' : ProviderRecord} (h : r.Recoded r')

include h

theorem active_recoded : r'.active = r.active ↔ ¬ZeroAsDouble r.isActive r'.isActive :=
  Bson.getD_toBool?_recoded h.isActive

theorem toConfig_recoded (preferred : Option String) :
    r'.toConfig preferred = r.toConfig preferred ↔ ¬ZeroAsDouble r.isActive r'.isActive := by
  rw [toConfig_restated Bson.forms_recoded h (rfl : preferred = preferred), ← active_recoded h]
  exact LlmConfig.withEnabled_eq_iff

theorem ofRecord_recoded (now : Moment) :
    ConfigView.ofRecord now r' = ConfigView.ofRecord now r ↔
      ¬ZeroAsDouble r.enabled r'.enabled := by
  have hview : ConfigView.ofRecord now r' = { ConfigView.ofRecord now r with
      enabled := (r'.enabled.bind Bson.toBool?).getD true } := by
    simp only [ConfigView.ofRecord, idText, h.id, h.name, h.displayName, h.model, h.apiKey,
      h.baseUrl, Bson.forms_recoded.double _ _ h.temperature,
      Bson.forms_recoded.integer _ _ h.maxTokens, Bson.forms_recoded.integer _ _ h.timeout,
      h.createdAt, h.updatedAt]
  rw [hview, ← Bson.getD_toBool?_recoded h.enabled]
  constructor
  · exact fun heq => congrArg ConfigView.enabled heq
  · exact fun heq => by rw [heq]; rfl

end ProviderRecord

/-! ## Entries -/

namespace ConfigEntry

/-- Two entries of which the second is read as another flag: its first flag is a double, and the
second does not say the same; or the first flag of both cannot be read, and the second was zero and
is a double now. -/
inductive Misread (e e' : ConfigEntry) : Prop
  | first {n : Int32} : e.enabled = some (.int32 n) →
      e'.enabled = some (.double (Double.ofInt n.toInt)) →
      (e'.isActive.bind Bson.toBool?).getD true ≠ (n != 0) → Misread e e'
  | second : e.enabled.bind Bson.toBool? = none → ZeroAsDouble e.isActive e'.isActive → Misread e e'

variable {e e' : ConfigEntry} (h : e.Recoded e')

include h

/-- The entries are in use alike unless the second is misread.  Which of the two flags decides is told
by what has become of the first. -/
theorem inUse_recoded : e'.inUse = e.inUse ↔ ¬Misread e e' := by
  rcases Bson.bind_toBool?_recoded h.enabled with heq | ⟨n, hn, hn'⟩
  · have hfirst : ∀ n : Int32, e.enabled = some (.int32 n) →
        e'.enabled ≠ some (.double (Double.ofInt n.toInt)) := by
      intro n hn hn'
      rw [hn, hn'] at heq
      exact nomatch heq
    unfold inUse
    rw [← heq]
    cases hread : e.enabled.bind Bson.toBool? with
    | some b =>
        refine iff_of_true rfl ?_
        rintro (⟨hn, hn', -⟩ | ⟨hnone, -⟩)
        · exact hfirst _ hn hn'
        · exact nomatch hread.symm.trans hnone
    | none =>
        refine (Bson.getD_toBool?_recoded h.isActive).trans (not_congr ⟨.second hread, ?_⟩)
        rintro (⟨hn, hn', -⟩ | ⟨-, hzero⟩)
        · exact absurd hn' (hfirst _ hn)
        · exact hzero
  · have hmisread : Misread e e' ↔ (e'.isActive.bind Bson.toBool?).getD true ≠ (n != 0) := by
      constructor
      · rintro (⟨hm, -, hne⟩ | ⟨hnone, -⟩)
        · obtain rfl : n = _ := by simpa using hn.symm.trans hm
          exact hne
        · rw [hn] at hnone
          exact nomatch hnone
      · exact .first hn hn'
    rw [hmisread, not_not]
    unfold inUse
    rw [hn, hn']
    rfl

theorem toConfig_recoded : e'.toConfig = e.toConfig ↔ ¬Misread e e' := by
  rw [toConfig_restated Bson.forms_recoded h, ← inUse_recoded h]
  exact LlmConfig.withEnabled_eq_iff

end ConfigEntry

/-! ## Migrated records -/

theorem SimplifiedConfig.merge_recoded {providers providers' : List ProviderRecord}
    (hproviders : List.Forall₂ ProviderRecord.Recoded providers providers')
    (catalogs : List ModelCatalog) {c c' : LegacyConfig} (h : c.Recoded c') (now : DateTime)
    (id : ObjectId) :
    merge (.ofRecords providers' catalogs) now id c'
        = merge (.ofRecords providers catalogs) now id c
      ↔ ¬ZeroAsDouble c.enabled c'.enabled := by
  have hcatalogs : List.Forall₂ (ModelCatalog.Restated Eq) catalogs catalogs :=
    List.forall₂_same.mpr fun _ _ =>
      ⟨rfl, List.forall₂_same.mpr fun _ _ => ⟨rfl, rfl, rfl, rfl, rfl, rfl⟩⟩
  rw [merge_restated Bson.forms_recoded (LegacyLookup.restated_ofRecords hproviders hcatalogs) h,
    ← Bson.getD_toBool?_recoded h.enabled]
  constructor
  · exact fun heq => congrArg SimplifiedConfig.enabled heq
  · exact fun heq => by rw [heq]; rfl

/-! ## The kinds of numbers make no difference but to flags -/

/-- Documents whose numbers are stored in other kinds decode to such records, and what is made of
these is the same exactly where no flag is read as another. -/
theorem results_of_recoded {d d' : Document} (hd : d.Recoded d') {r r' : ProviderRecord}
    (hr : r.Recoded r') {e e' : ConfigEntry} (he : e.Recoded e') {c c' : LegacyConfig}
    (hc : c.Recoded c') {providers providers' : List ProviderRecord}
    (hproviders : List.Forall₂ ProviderRecord.Recoded providers providers')
    (catalogs : List ModelCatalog) (preferred : Option String) (now : Moment) (id : ObjectId) :
    (Matching Eq ProviderRecord.Recoded (ProviderRecord.decode d) (ProviderRecord.decode d') ∧
      Matching Eq ConfigEntry.Recoded (ConfigEntry.decode d) (ConfigEntry.decode d') ∧
      Matching Eq LegacyConfig.Recoded (LegacyConfig.decode d) (LegacyConfig.decode d')) ∧
    (r'.toConfig preferred = r.toConfig preferred ↔ ¬ZeroAsDouble r.isActive r'.isActive) ∧
    (r'.active = r.active ↔ ¬ZeroAsDouble r.isActive r'.isActive) ∧
    (ConfigView.ofRecord now r' = ConfigView.ofRecord now r ↔
      ¬ZeroAsDouble r.enabled r'.enabled) ∧
    (e'.toConfig = e.toConfig ↔ ¬e.Misread e') ∧
    (e'.inUse = e.inUse ↔ ¬e.Misread e') ∧
    (SimplifiedConfig.merge (.ofRecords providers' catalogs) now.date id c'
        = SimplifiedConfig.merge (.ofRecords providers catalogs) now.date id c ↔
      ¬ZeroAsDouble c.enabled c'.enabled) := by
  refine ⟨decode_recoded hd, ?_, ?_, ?_, ?_, ?_, ?_⟩
  · exact ProviderRecord.toConfig_recoded hr preferred
  · exact ProviderRecord.active_recoded hr
  · exact ProviderRecord.ofRecord_recoded hr now
  · exact ConfigEntry.toConfig_recoded he
  · exact ConfigEntry.inUse_recoded he
  · exact SimplifiedConfig.merge_recoded hproviders catalogs hc now.date id

/-- A document that can stand for a record of each kind; all its numbers are integers of 32 bits. -/
def numbersOf32 : Document := ⟨[
  ("provider", .string "openai"), ("name", .string "openai"), ("temperature", .int32 1),
  ("max_tokens", .int32 8000), ("timeout", .int32 60), ("enabled", .int32 0),
  ("is_active", .int32 1)]⟩

/-- The same numbers in other kinds: the flag that is zero is an integer still. -/
def numbersMixed : Document := ⟨[
  ("provider", .string "openai"), ("name", .string "openai"),
  ("temperature", .double (Double.ofInt 1)), ("max_tokens", .double (Double.ofInt 8000)),
  ("timeout", .int64 60), ("enabled", .int64 0), ("is_active", .double (Double.ofInt 1))]⟩

theorem recoded_numbersMixed : numbersOf32.Recoded numbersMixed :=
  .cons ⟨rfl, .inl rfl⟩ <| .cons ⟨rfl, .inl rfl⟩ <| .cons ⟨rfl, .inr ⟨by decide, .double 1⟩⟩ <|
    .cons ⟨rfl, .inr ⟨by decide, .double 8000⟩⟩ <| .cons ⟨rfl, .inr ⟨by decide, .long 60⟩⟩ <|
    .cons ⟨rfl, .inr ⟨by decide, .long 0⟩⟩ <| .cons ⟨rfl, .inr ⟨by decide, .double 1⟩⟩ .nil

/-- All that is made of the two documents is the same. -/
theorem results_numbersMixed :
    ∃ r r' e e' c c', ProviderRecord.decode numbersOf32 = .ok r ∧
      ProviderRecord.decode numbersMixed = .ok r' ∧ ConfigEntry.decode numbersOf32 = .ok e ∧
      ConfigEntry.decode numbersMixed = .ok e' ∧ LegacyConfig.decode numbersOf32 = .ok c ∧
      LegacyConfig.decode numbersMixed = .ok c' ∧ r'.toConfig none = r.toConfig none ∧
      r'.active = r.active ∧
      ConfigView.ofRecord ⟨⟨0⟩, "now"⟩ r' = ConfigView.ofRecord ⟨⟨0⟩, "now"⟩ r ∧
      e'.toConfig = e.toConfig ∧ e'.inUse = e.inUse ∧
      SimplifiedConfig.merge (.ofRecords [r'] []) ⟨0⟩ (ObjectId.ofNat 1) c'
        = SimplifiedConfig.merge (.ofRecords [r] []) ⟨0⟩ (ObjectId.ofNat 1) c := by
  have hdecode := decode_recoded recoded_numbersMixed
  refine ⟨_, _, _, _, _, _, rfl, rfl, rfl, rfl, rfl, rfl, ?_⟩
  obtain ⟨-, hconfig, hactive, hview, hentry, hinUse, hmerge⟩ := results_of_recoded
    recoded_numbersMixed hdecode.1.related hdecode.2.1.related hdecode.2.2.related
    (.cons hdecode.1.related .nil) [] none ⟨⟨0⟩, "now"⟩ (ObjectId.ofNat 1)
  have hone : ¬ZeroAsDouble (some (.int32 1)) (some (.double (Double.ofInt 1))) := by
    rintro ⟨h, -⟩
    injection h with h
    injection h with h
    exact absurd h (by decide)
  have hzero : ¬ZeroAsDouble (some (.int32 0)) (some (.int64 0)) := fun ⟨_, h⟩ => nomatch h
  refine ⟨hconfig.mpr hone, hactive.mpr hone, hview.mpr hzero, hentry.mpr ?_, hinUse.mpr ?_,
    hmerge.mpr hzero⟩
  -- the first flag of the entry can be read, before and after
  all_goals
    rintro (⟨-, h, -⟩ | ⟨h, -⟩)
    · exact nomatch h
    · exact nomatch h

/-- A document whose flags are zero, as integers of 32 bits. -/
def flagsOf32 : Document :=
  ⟨[("provider", .string "openai"), ("enabled", .int32 0), ("is_active", .int32 0)]⟩

/-- The same with the flags as doubles. -/
def flagsAsDoubles : Document := ⟨[
  ("provider", .string "openai"), ("enabled", .double (Double.ofInt 0)),
  ("is_active", .double (Double.ofInt 0))]⟩

/-- Flags that are zero are set when they are stored as doubles. -/
theorem misread_flagsAsDoubles :
    flagsOf32.Recoded flagsAsDoubles ∧
    ∃ r r' e e' c c', ProviderRecord.decode flagsOf32 = .ok r ∧
      ProviderRecord.decode flagsAsDoubles = .ok r' ∧ ConfigEntry.decode flagsOf32 = .ok e ∧
      ConfigEntry.decode flagsAsDoubles = .ok e' ∧ LegacyConfig.decode flagsOf32 = .ok c ∧
      LegacyConfig.decode flagsAsDoubles = .ok c' ∧
      (r.active = false ∧ r'.active = true) ∧ r'.toConfig none ≠ r.toConfig none ∧
      ((ConfigView.ofRecord ⟨⟨0⟩, "now"⟩ r).enabled = false ∧
        (ConfigView.ofRecord ⟨⟨0⟩, "now"⟩ r').enabled = true) ∧
      (e.inUse = false ∧ e'.inUse = true) ∧ e'.toConfig ≠ e.toConfig ∧
      (SimplifiedConfig.merge (.ofRecords [] []) ⟨0⟩ (ObjectId.ofNat 1) c).enabled = false ∧
      (SimplifiedConfig.merge (.ofRecords [] []) ⟨0⟩ (ObjectId.ofNat 1) c').enabled = true := by
  refine ⟨.cons ⟨rfl, .inl rfl⟩ <| .cons ⟨rfl, .inr ⟨by decide, .double 0⟩⟩ <|
    .cons ⟨rfl, .inr ⟨by decide, .double 0⟩⟩ .nil, _, _, _, _, _, _, rfl, rfl, rfl, rfl, rfl, rfl,
    ⟨rfl, rfl⟩, fun h => ?_, ⟨rfl, rfl⟩, ⟨rfl, rfl⟩, fun h => ?_, rfl, rfl⟩
  · exact absurd (congrArg LlmConfig.enabled h) (by decide)
  · exact absurd (congrArg LlmConfig.enabled h) (by decide)

end ProviderRegistry
