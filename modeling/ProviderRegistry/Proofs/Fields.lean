/-
# `Proofs.Fields` — the keys of fields, and a field replaced in its place

Fields are read by the first entry under a key and written by `Fields.set`,
which changes that entry or adds one at the end.  So a key that is present
cuts the fields in two, and setting it changes the entry between the two parts
and nothing else (`split_of_lookup`); and keys that are distinct stay distinct
(`nodup_keys_set`, `nodup_keys_setAll`).  Where many values are set under one key,
the last is found there (`lookup_setAll`).

Fields under distinct keys are told by the order of their keys and by what is found
under each (`eq_of_lookup`).  So two settings of the same keys come to the second
alone, whatever was in the fields before and wherever it stood (`setAll_setAll`).
-/
import Mathlib.Data.List.Basic
import ProviderRegistry.Bson.Value

namespace ProviderRegistry

namespace Fields

variable {α : Type}

/-- The keys of fields, in order. -/
def keys (fields : List (String × α)) : List String := fields.map Prod.fst

@[simp] theorem keys_nil : keys ([] : List (String × α)) = [] := rfl

@[simp] theorem keys_cons (entry : String × α) (rest : List (String × α)) :
    keys (entry :: rest) = entry.1 :: keys rest := rfl

@[simp] theorem keys_append (fields others : List (String × α)) :
    keys (fields ++ others) = keys fields ++ keys others :=
  List.map_append

/-- A key that is present stands between fields of other keys and the rest, and setting it
changes its value alone. -/
theorem split_of_lookup {key : String} {value : α} {fields : List (String × α)}
    (h : fields.lookup key = some value) :
    ∃ before after, fields = before ++ (key, value) :: after ∧ key ∉ keys before ∧
      ∀ other, set key other fields = before ++ (key, other) :: after := by
  induction fields with
  | nil => exact nomatch h
  | cons entry rest ih =>
      obtain ⟨k, v⟩ := entry
      by_cases hk : k = key
      · subst hk
        obtain rfl : v = value := by simpa using h
        exact ⟨[], rest, rfl, by simp, fun other => by simp [set]⟩
      · have hne : (key == k) = false := beq_false_of_ne (Ne.symm hk)
        rw [List.lookup_cons, hne] at h
        obtain ⟨before, after, rfl, hbefore, hset⟩ := ih h
        refine ⟨(k, v) :: before, after, rfl, ?_, fun other => ?_⟩
        · simpa [Ne.symm hk] using hbefore
        · simp [set, hk, hset other]

theorem mem_of_lookup {key : String} {value : α} {fields : List (String × α)}
    (h : fields.lookup key = some value) : (key, value) ∈ fields := by
  obtain ⟨before, after, rfl, -, -⟩ := split_of_lookup h
  simp

/-- What has a key holds a value under it. -/
theorem exists_lookup_of_mem_keys {key : String} {fields : List (String × α)}
    (h : key ∈ keys fields) : ∃ value, fields.lookup key = some value := by
  induction fields with
  | nil => exact absurd h List.not_mem_nil
  | cons entry rest ih =>
      by_cases hk : key = entry.1
      · exact ⟨entry.2, by rw [hk]; exact List.lookup_cons_self⟩
      · have hne : (key == entry.1) = false := beq_false_of_ne hk
        rw [List.lookup_cons, hne]
        exact ih ((List.mem_cons.mp h).resolve_left hk)

/-! ## Distinct keys -/

/-- Under distinct keys every field is found under its own. -/
theorem lookup_of_mem {fields : List (String × α)} (h : (keys fields).Nodup) {entry : String × α}
    (hmem : entry ∈ fields) : fields.lookup entry.1 = some entry.2 := by
  induction fields with
  | nil => exact nomatch hmem
  | cons first rest ih =>
      obtain ⟨hfirst, hrest⟩ := List.nodup_cons.mp h
      rcases List.mem_cons.mp hmem with rfl | hmem
      · exact List.lookup_cons_self
      · have hne : (entry.1 == first.1) = false :=
          beq_false_of_ne fun heq => hfirst (heq ▸ List.mem_map_of_mem hmem)
        rw [List.lookup_cons, hne]
        exact ih hrest hmem

theorem keys_set (key : String) (value : α) (fields : List (String × α)) :
    keys (set key value fields) = if key ∈ keys fields then keys fields else keys fields ++ [key] := by
  induction fields with
  | nil => rfl
  | cons entry rest ih =>
      obtain ⟨k, v⟩ := entry
      by_cases hk : k = key
      · subst hk
        simp [set]
      · have hne : (k == key) = false := beq_false_of_ne hk
        simp only [set, hne, Bool.false_eq_true, if_false, keys_cons, ih, List.mem_cons,
          Ne.symm hk, false_or]
        split <;> rfl

theorem nodup_keys_set {fields : List (String × α)} (h : (keys fields).Nodup) (key : String)
    (value : α) : (keys (set key value fields)).Nodup := by
  rw [keys_set]
  split
  · exact h
  · rename_i habsent
    refine List.nodup_append.mpr ⟨h, by simp, fun k hk other hother => ?_⟩
    rintro rfl
    exact habsent (List.mem_singleton.mp hother ▸ hk)

theorem nodup_keys_setAll {fields : List (String × α)} (h : (keys fields).Nodup)
    (values : List (String × α)) : (keys (setAll fields values)).Nodup := by
  induction values generalizing fields with
  | nil => exact h
  | cons entry rest ih => exact ih (nodup_keys_set h entry.1 entry.2)

/-- Setting other keys leaves a key alone. -/
theorem lookup_setAll_of_not_mem {key : String} {values : List (String × α)}
    (h : key ∉ keys values) (fields : List (String × α)) :
    (setAll fields values).lookup key = fields.lookup key := by
  induction values generalizing fields with
  | nil => rfl
  | cons entry rest ih =>
      obtain ⟨hne, hrest⟩ : key ≠ entry.1 ∧ key ∉ keys rest := by simpa using h
      exact (ih hrest _).trans (lookup_set_ne hne entry.2 fields)

/-! ## Fields that are overwritten -/

theorem keys_setAll {values : List (String × α)} (h : (keys values).Nodup)
    (fields : List (String × α)) :
    keys (setAll fields values) = keys fields ++ (keys values).filter (· ∉ keys fields) := by
  induction values generalizing fields with
  | nil => simp [setAll]
  | cons entry rest ih =>
      obtain ⟨hentry, hrest⟩ := List.nodup_cons.mp h
      refine (ih hrest (set entry.1 entry.2 fields)).trans ?_
      rw [keys_set, keys_cons]
      by_cases hk : entry.1 ∈ keys fields
      · rw [if_pos hk, List.filter_cons_of_neg (by simpa using hk)]
      · have hlater : ∀ k ∈ keys rest, (k ∉ keys fields ++ [entry.1] ↔ k ∉ keys fields) := by
          intro k hmem
          have hne : k ≠ entry.1 := fun heq => hentry (heq ▸ hmem)
          simp [hne]
        have hfilter : (keys rest).filter (· ∉ keys fields ++ [entry.1])
            = (keys rest).filter (· ∉ keys fields) :=
          List.filter_congr fun k hmem => decide_eq_decide.mpr (hlater k hmem)
        rw [if_neg hk, hfilter, List.filter_cons_of_pos (by simpa using hk), List.append_assoc]
        rfl

/-- What is set under distinct keys is found there. -/
theorem lookup_setAll_of_mem {values : List (String × α)} (h : (keys values).Nodup) {key : String}
    (hkey : key ∈ keys values) (fields : List (String × α)) :
    (setAll fields values).lookup key = values.lookup key := by
  induction values generalizing fields with
  | nil => exact absurd hkey List.not_mem_nil
  | cons entry rest ih =>
      obtain ⟨hentry, hrest⟩ := List.nodup_cons.mp h
      by_cases hk : key = entry.1
      · subst hk
        rw [List.lookup_cons_self]
        exact (lookup_setAll_of_not_mem hentry _).trans (lookup_set_self _ _ _)
      · have hne : (key == entry.1) = false := beq_false_of_ne hk
        rw [List.lookup_cons, hne]
        exact ih hrest ((List.mem_cons.mp hkey).resolve_left hk) _

/-- Under distinct keys, fields are told by the order of their keys and by what is found there. -/
theorem filterMap_lookup_keys {fields : List (String × α)} (h : (keys fields).Nodup) :
    ((keys fields).filterMap fun key => (fields.lookup key).map fun value => (key, value))
      = fields := by
  have hself : ∀ entry ∈ fields,
      ((fields.lookup entry.1).map fun value => (entry.1, value)) = some entry := by
    intro entry hmem
    rw [lookup_of_mem h hmem]
    rfl
  rw [keys, List.filterMap_map]
  exact (List.filterMap_congr hself).trans List.filterMap_some

theorem eq_of_lookup {a b : List (String × α)} (ha : (keys a).Nodup) (hkeys : keys b = keys a)
    (hlookup : ∀ key, b.lookup key = a.lookup key) : b = a := by
  have hb : (keys b).Nodup := hkeys ▸ ha
  rw [← filterMap_lookup_keys ha, ← filterMap_lookup_keys hb, hkeys]
  simp only [hlookup]

/-- Of two settings of the same keys, the first leaves no trace. -/
theorem setAll_setAll {fields first second : List (String × α)} (h : (keys fields).Nodup)
    (hsecond : (keys second).Nodup) (hkeys : keys first = keys second) :
    setAll (setAll fields first) second = setAll fields second := by
  have hfirst : (keys first).Nodup := hkeys ▸ hsecond
  refine eq_of_lookup (nodup_keys_setAll h second) ?_ fun key => ?_
  · have hnew : ∀ k ∈ keys second, k ∈ keys fields ++ (keys second).filter (· ∉ keys fields) := by
      intro k hmem
      by_cases hk : k ∈ keys fields
      · exact List.mem_append_left _ hk
      · exact List.mem_append_right _ (List.mem_filter.mpr ⟨hmem, by simpa using hk⟩)
    have hnone : (keys second).filter
        (· ∉ keys fields ++ (keys second).filter (· ∉ keys fields)) = [] :=
      List.filter_eq_nil_iff.mpr fun k hmem => by
        rw [decide_eq_true_eq, not_not]
        exact hnew k hmem
    rw [keys_setAll hsecond, keys_setAll hsecond, keys_setAll hfirst, hkeys, hnone,
      List.append_nil]
  · by_cases hk : key ∈ keys second
    · rw [lookup_setAll_of_mem hsecond hk, lookup_setAll_of_mem hsecond hk]
    · rw [lookup_setAll_of_not_mem hk, lookup_setAll_of_not_mem hk,
        lookup_setAll_of_not_mem (hkeys ▸ hk)]

/-! ## The last value under a key -/

/-- Of several values set under one key, the last is found. -/
theorem lookup_setAll (key : String) (values fields : List (String × α)) :
    (setAll fields values).lookup key
      = ((values.filter (·.1 == key)).getLast?.map (·.2)).or (fields.lookup key) := by
  induction values generalizing fields with
  | nil => simp [setAll]
  | cons entry rest ih =>
      obtain ⟨k, v⟩ := entry
      refine (ih (set k v fields)).trans ?_
      by_cases hk : k = key
      · subst hk
        rw [lookup_set_self, List.filter_cons_of_pos (by simp), List.getLast?_cons]
        cases (rest.filter (·.1 == k)).getLast? <;> rfl
      · rw [lookup_set_ne (Ne.symm hk), List.filter_cons_of_neg (by simpa using hk)]

/-- In a table of named records, the last record of a name stands under it. -/
theorem lookup_ofList_map {β : Type} (name : β → String) (value : β → α) (records : List β)
    (key : String) :
    (ofList (records.map fun r => (name r, value r))).lookup key
      = (records.filter (name · == key)).getLast?.map value := by
  rw [ofList, lookup_setAll, List.filter_map, List.getLast?_map, Option.map_map, List.lookup_nil,
    Option.or_none]
  rfl

theorem lookup_ofList_named (name : α → String) (records : List α) (key : String) :
    (ofList (records.map fun r => (name r, r))).lookup key
      = (records.filter (name · == key)).getLast? :=
  (lookup_ofList_map name id records key).trans (congrFun Option.map_id _)

end Fields

namespace Document

/-- No two fields of a document have one key. -/
def Keyed (d : Document) : Prop := (Fields.keys d.fields).Nodup

instance (d : Document) : Decidable d.Keyed :=
  inferInstanceAs (Decidable (Fields.keys d.fields).Nodup)

theorem keyed_ofList (fields : List (String × Bson)) : (ofList fields).Keyed := by
  have hempty : (Fields.keys ([] : List (String × Bson))).Nodup := List.nodup_nil
  exact Fields.nodup_keys_setAll hempty fields

theorem Keyed.insert {d : Document} (h : d.Keyed) (key : String) (value : Bson) :
    (d.insert key value).Keyed :=
  Fields.nodup_keys_set h key value

theorem Keyed.merge {d : Document} (h : d.Keyed) (other : Document) : (d.merge other).Keyed :=
  Fields.nodup_keys_setAll h other.fields

@[simp] theorem get?_insert_self (d : Document) (key : String) (value : Bson) :
    (d.insert key value).get? key = some value :=
  Fields.lookup_set_self key value d.fields

theorem get?_insert_ne (d : Document) {key other : String} (h : other ≠ key) (value : Bson) :
    (d.insert key value).get? other = d.get? other :=
  Fields.lookup_set_ne h value d.fields

theorem get?_merge_of_not_mem (d : Document) {other : Document} {key : String}
    (h : key ∉ Fields.keys other.fields) : (d.merge other).get? key = d.get? key :=
  Fields.lookup_setAll_of_not_mem h d.fields

end Document

end ProviderRegistry
