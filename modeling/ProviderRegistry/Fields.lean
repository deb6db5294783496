/-
# `Fields` — values under keys, in the order in which the keys were first set

Setting a key that is present changes its value in place; a new key goes to
the end.  Documents and settings are kept in this form.
-/

namespace ProviderRegistry

namespace Fields

variable {α : Type}

/-- The fields with one key set. -/
def set (key : String) (value : α) : List (String × α) → List (String × α)
  | [] => [(key, value)]
  | (k, v) :: rest => if k == key then (k, value) :: rest else (k, v) :: set key value rest

/-- The fields with a list of keys set, one after the other. -/
def setAll (fields : List (String × α)) (values : List (String × α)) : List (String × α) :=
  values.foldl (fun fields entry => set entry.1 entry.2 fields) fields

/-- The fields of a list; a repeated key keeps its first place and its last value. -/
def ofList (entries : List (String × α)) : List (String × α) := setAll [] entries

/-! ## Looking up what was set -/

/-- A key that has been set holds its value. -/
theorem lookup_set_self (key : String) (value : α) (fields : List (String × α)) :
    (set key value fields).lookup key = some value := by
  induction fields with
  | nil => simp [set]
  | cons entry rest ih =>
    obtain ⟨k, v⟩ := entry
    by_cases h : k = key
    · subst h; simp [set]
    · have hk : (k == key) = false := beq_false_of_ne h
      have hk' : (key == k) = false := beq_false_of_ne (Ne.symm h)
      simp [set, hk, List.lookup_cons, hk', ih]

/-- Setting a key leaves every other alone. -/
theorem lookup_set_ne {key other : String} (h : other ≠ key) (value : α)
    (fields : List (String × α)) :
    (set key value fields).lookup other = fields.lookup other := by
  have ho : (other == key) = false := beq_false_of_ne h
  induction fields with
  | nil => simp [set, List.lookup_cons, ho]
  | cons entry rest ih =>
    obtain ⟨k, v⟩ := entry
    by_cases hk : k = key
    · subst hk; simp [set, List.lookup_cons, ho]
    · have hk' : (k == key) = false := beq_false_of_ne hk
      simp [set, hk', List.lookup_cons, ih]

end Fields

end ProviderRegistry
