/-
# `Proofs.Bson.RecordFormat` — what the reading of a record makes of its document

A record is read by a fold over the fields of its document, and every statement
about the record is one about that fold.  Four are proved here for any
format, so that a statement about one record asks only about its readers, each
of which puts one value in one place:

* what holds of the blank record, and is kept by every reader, holds of every
  record that is read (`holds_of_decode`);
* a component that only the field `name` writes is what that field's reader
  makes of the value under `name`, where the keys are distinct
  (`component_of_decode`);
* a field that no record can take spoils the whole document
  (`decode_eq_error_of_mem`);
* documents whose fields read alike, one by one, decode alike: both to related
  records, or neither (`readAlike_decode`), and where the failures of the fields
  are related, so are those of the documents (`matching_decode`); for fields of
  the same keys this is asked of each reader of the format (`matching_ofFields`).
-/
import Mathlib.Data.List.Forall2
import ProviderRegistry.Bson.RecordFormat
import ProviderRegistry.Proofs.Fields

namespace ProviderRegistry

/-- Two readings that both fail, or both give a value, and then related ones. -/
inductive ReadAlike {α β : Type} (R : α → β → Prop) : Decoded α → Decoded β → Prop
  | ok {a : α} {b : β} (related : R a b) : ReadAlike R (.ok a) (.ok b)
  | error (e f : DecodeError) : ReadAlike R (.error e) (.error f)

namespace ReadAlike

variable {α β γ δ : Type} {R : α → β → Prop} {S : γ → δ → Prop}

theorem bind {x : Decoded α} {y : Decoded β} {f : α → Decoded γ} {g : β → Decoded δ}
    (h : ReadAlike R x y) (hfg : ∀ a b, R a b → ReadAlike S (f a) (g b)) :
    ReadAlike S (x >>= f) (y >>= g) := by
  cases h with
  | ok related => exact hfg _ _ related
  | error e f => exact .error e f

theorem map {x : Decoded α} {y : Decoded β} {f : α → γ} {g : β → δ} (h : ReadAlike R x y)
    (hfg : ∀ a b, R a b → S (f a) (g b)) : ReadAlike S (x.map f) (y.map g) := by
  cases h with
  | ok related => exact .ok (hfg _ _ related)
  | error e f => exact .error e f

theorem refl {R : α → α → Prop} (hR : ∀ a, R a a) (x : Decoded α) : ReadAlike R x x := by
  cases x with
  | ok a => exact .ok (hR a)
  | error e => exact .error e e

theorem toOption {x : Decoded α} {y : Decoded β} (h : ReadAlike R x y) :
    Option.Rel R x.toOption y.toOption := by
  cases h with
  | ok related => exact .some related
  | error e f => exact .none

theorem of_toOption {x y : Decoded α} (h : x.toOption = y.toOption) : ReadAlike Eq x y := by
  cases x with
  | ok a => cases y with
    | ok b => exact .ok (Option.some.inj h)
    | error f => exact nomatch h
  | error e => cases y with
    | ok b => exact nomatch h
    | error f => exact .error e f

theorem ok_iff {x y : Decoded α} (h : ReadAlike Eq x y) (a : α) : x = .ok a ↔ y = .ok a := by
  cases h with
  | ok heq => rw [heq]
  | error e f => exact ⟨nofun, nofun⟩

end ReadAlike

/-- Two outcomes of one kind: values that are related, or failures that are. -/
inductive Matching {ε α β : Type} (E : ε → ε → Prop) (R : α → β → Prop) :
    Except ε α → Except ε β → Prop
  | ok {a : α} {b : β} (related : R a b) : Matching E R (.ok a) (.ok b)
  | error {e f : ε} (related : E e f) : Matching E R (.error e) (.error f)

namespace Matching

variable {ε α β γ δ : Type} {E : ε → ε → Prop} {R : α → β → Prop} {S : γ → δ → Prop}

theorem bind {x : Except ε α} {y : Except ε β} {f : α → Except ε γ} {g : β → Except ε δ}
    (h : Matching E R x y) (hfg : ∀ a b, R a b → Matching E S (f a) (g b)) :
    Matching E S (x >>= f) (y >>= g) := by
  cases h with
  | ok related => exact hfg _ _ related
  | error related => exact .error related

/-- The same outcome, and then what matches whatever its value. -/
theorem bind_same (hE : ∀ e, E e e) (x : Except ε α) {f : α → Except ε γ} {g : α → Except ε δ}
    (hfg : ∀ a, Matching E S (f a) (g a)) : Matching E S (x >>= f) (x >>= g) := by
  cases x with
  | ok a => exact hfg a
  | error e => exact .error (hE e)

theorem map {x : Except ε α} {y : Except ε β} {f : α → γ} {g : β → δ} (h : Matching E R x y)
    (hfg : ∀ a b, R a b → S (f a) (g b)) : Matching E S (x.map f) (y.map g) := by
  cases h with
  | ok related => exact .ok (hfg _ _ related)
  | error related => exact .error related

theorem refl {R : α → α → Prop} (hE : ∀ e, E e e) (hR : ∀ a, R a a) (x : Except ε α) :
    Matching E R x x := by
  cases x with
  | ok a => exact .ok (hR a)
  | error e => exact .error (hE e)

theorem toOption {x : Except ε α} {y : Except ε β} (h : Matching E R x y) :
    Option.Rel R x.toOption y.toOption := by
  cases h with
  | ok related => exact .some related
  | error related => exact .none

/-- Two lists taken member by member, as far as the first failure. -/
theorem mapM {P : α → β → Prop} {f : α → Except ε γ} {g : β → Except ε δ} {xs : List α}
    {ys : List β} (h : List.Forall₂ P xs ys) (hfg : ∀ a b, P a b → Matching E S (f a) (g b)) :
    Matching E (List.Forall₂ S) (xs.mapM f) (ys.mapM g) := by
  induction h with
  | nil => exact .ok .nil
  | cons hab _ ih =>
      rw [List.mapM_cons, List.mapM_cons]
      refine (hfg _ _ hab).bind fun c d hcd => ?_
      exact ih.bind fun _ _ hrest => .ok (.cons hcd hrest)

theorem related {a : α} {b : β} (h : Matching E R (.ok a) (.ok b)) : R a b := by
  cases h with
  | ok hab => exact hab

/-- Outcomes that match in every respect are the same. -/
theorem eq {x y : Except ε α} (h : Matching Eq Eq x y) : x = y := by
  cases h with
  | ok related => rw [related]
  | error related => rw [related]

end Matching

/-- Fields of the same keys in the same order, with values that are related under each key. -/
def Fields.Related (U : String → Bson → Bson → Prop) :
    List (String × Bson) → List (String × Bson) → Prop :=
  List.Forall₂ fun entry other => entry.1 = other.1 ∧ U entry.1 entry.2 other.2

theorem readAlike_iff {α β : Type} {R : α → β → Prop} {x : Decoded α} {y : Decoded β} :
    ReadAlike R x y ↔ Matching (fun _ _ => True) R x y := by
  constructor
  · intro h
    cases h with
    | ok related => exact .ok related
    | error e f => exact .error trivial
  · intro h
    cases h with
    | ok related => exact .ok related
    | error related => exact .error _ _

namespace RecordFormat

variable {α β γ : Type} {format : RecordFormat α}

theorem ok_of_bind {x : Decoded α} {f : α → Decoded β} {b : β} (h : (x >>= f) = .ok b) :
    ∃ a, x = .ok a ∧ f a = .ok b := by
  cases x with
  | error e => exact nomatch h
  | ok a => exact ⟨a, rfl, h⟩

theorem foldlM_cons_ok {entry : String × Bson} {rest : List (String × Bson)} {a c : α}
    (h : (entry :: rest).foldlM format.take a = .ok c) :
    ∃ b, format.take a entry = .ok b ∧ rest.foldlM format.take b = .ok c := by
  rw [List.foldlM_cons] at h
  exact ok_of_bind h

theorem foldlM_append_ok {fields others : List (String × Bson)} {a c : α}
    (h : (fields ++ others).foldlM format.take a = .ok c) :
    ∃ b, fields.foldlM format.take a = .ok b ∧ others.foldlM format.take b = .ok c := by
  rw [List.foldlM_append] at h
  exact ok_of_bind h

/-- Values that stand under the names of fields are each read by the field's reader. -/
theorem foldlM_take_named (hnames : (Fields.keys format.fields).Nodup)
    {entries : List ((String × FieldReader α) × Bson)} (hmem : ∀ e ∈ entries, e.1 ∈ format.fields)
    (a : α) :
    (entries.map fun e => (e.1.1, e.2)).foldlM format.take a
      = entries.foldlM (fun r e => e.1.2 e.2 r) a := by
  induction entries generalizing a with
  | nil => rfl
  | cons e rest ih =>
      have htake : format.take a (e.1.1, e.2) = e.1.2 e.2 a := by
        simp only [take, Fields.lookup_of_mem hnames (hmem e List.mem_cons_self)]
      rw [List.map_cons, List.foldlM_cons, List.foldlM_cons, htake]
      exact bind_congr fun b => ih (fun e he => hmem e (List.mem_cons_of_mem _ he)) b

/-! ## What holds of every record that is read -/

theorem holds_foldlM {P : α → Prop}
    (h : ∀ entry ∈ format.fields, ∀ v a b, P a → entry.2 v a = .ok b → P b)
    {fields : List (String × Bson)} {a c : α} (ha : P a)
    (hfold : fields.foldlM format.take a = .ok c) : P c := by
  induction fields generalizing a with
  | nil => exact Except.ok.inj hfold ▸ ha
  | cons entry rest ih =>
      obtain ⟨b, htake, hfold⟩ := foldlM_cons_ok hfold
      refine ih ?_ hfold
      unfold take at htake
      split at htake
      · rename_i read hread
        exact h (entry.1, read) (Fields.mem_of_lookup hread) _ _ _ ha htake
      · split at htake
        · exact nomatch htake
        · exact Except.ok.inj htake ▸ ha

/-- What holds of the blank record, and is kept by every reader, holds of every record. -/
theorem holds_of_decode {P : α → Prop} (hblank : P format.blank)
    (h : ∀ entry ∈ format.fields, ∀ v a b, P a → entry.2 v a = .ok b → P b) {d : Document} {r : α}
    (hdecode : format.decode d = .ok r) : P r :=
  holds_foldlM h hblank hdecode

@[simp] theorem field_fst (key : String) (read : Bson → Decoded γ) (put : γ → α → α) :
    (field key read put).1 = key := rfl

theorem ok_of_field {key : String} {read : Bson → Decoded γ} {put : γ → α → α} {v : Bson} {a b : α}
    (h : (field key read put).2 v a = .ok b) : ∃ c, read v = .ok c ∧ put c a = b := by
  cases hv : read v with
  | error e => simp [field, hv, Except.map] at h
  | ok c => exact ⟨c, rfl, by simpa [field, hv, Except.map] using h⟩

/-! ## One component of a record -/

/-- The readers of all fields but one leave a component of the record as it is. -/
def WrittenBy (format : RecordFormat α) (name : String) (component : α → β) : Prop :=
  ∀ entry ∈ format.fields, entry.1 ≠ name →
    ∀ v a b, entry.2 v a = .ok b → component b = component a

theorem component_field {key : String} {read : Bson → Decoded γ} {put : γ → α → α}
    {component : α → β} (h : ∀ c a, component (put c a) = component a) {v : Bson} {a b : α}
    (hread : (field key read put).2 v a = .ok b) : component b = component a := by
  obtain ⟨c, -, rfl⟩ := ok_of_field hread
  exact h c a

theorem component_take {name : String} {component : α → β} (h : format.WrittenBy name component)
    {entry : String × Bson} (hne : entry.1 ≠ name) {a b : α}
    (htake : format.take a entry = .ok b) : component b = component a := by
  unfold take at htake
  split at htake
  · rename_i read hread
    exact h (entry.1, read) (Fields.mem_of_lookup hread) hne _ _ _ htake
  · split at htake
    · exact nomatch htake
    · exact Except.ok.inj htake ▸ rfl

theorem component_foldlM {name : String} {component : α → β}
    (h : format.WrittenBy name component) {fields : List (String × Bson)}
    (habsent : name ∉ Fields.keys fields) {a b : α}
    (hfold : fields.foldlM format.take a = .ok b) : component b = component a := by
  induction fields generalizing a with
  | nil => exact Except.ok.inj hfold ▸ rfl
  | cons entry rest ih =>
      obtain ⟨hne, hrest⟩ : name ≠ entry.1 ∧ name ∉ Fields.keys rest := by simpa using habsent
      obtain ⟨c, htake, hfold⟩ := foldlM_cons_ok hfold
      exact (ih hrest hfold).trans (component_take h (Ne.symm hne) htake)

/-- What a record has in the place of a field is what the field's reader puts there. -/
theorem component_of_decode {name : String} {component : α → β}
    (h : format.WrittenBy name component) {read : FieldReader α}
    (hread : format.fields.lookup name = some read) {d : Document} (hkeyed : d.Keyed) {v : Bson}
    (hv : d.get? name = some v) {r : α} (hdecode : format.decode d = .ok r) :
    ∃ a b, read v a = .ok b ∧ component r = component b := by
  obtain ⟨before, after, hfields, -, -⟩ := Fields.split_of_lookup hv
  have hafter : name ∉ Fields.keys after := by
    rw [Document.Keyed, hfields, Fields.keys_append, Fields.keys_cons] at hkeyed
    exact (List.nodup_cons.mp (List.nodup_append.mp hkeyed).2.1).1
  unfold decode ofFields at hdecode
  rw [hfields] at hdecode
  obtain ⟨a, -, hrest⟩ := foldlM_append_ok hdecode
  obtain ⟨b, htake, hfold⟩ := foldlM_cons_ok hrest
  refine ⟨a, b, ?_, component_foldlM h hafter hfold⟩
  simpa [take, hread] using htake

/-! ## A field that cannot be taken -/

theorem foldlM_eq_error_of_mem {fields : List (String × Bson)} {entry : String × Bson}
    (hmem : entry ∈ fields) (hfail : ∀ a, ∃ e, format.take a entry = .error e) (a : α) :
    ∃ e, fields.foldlM format.take a = .error e := by
  induction fields generalizing a with
  | nil => exact nomatch hmem
  | cons first rest ih =>
      rw [List.foldlM_cons]
      cases htake : format.take a first with
      | error e => exact ⟨e, rfl⟩
      | ok b =>
          rcases List.mem_cons.mp hmem with rfl | hrest
          · obtain ⟨e, he⟩ := hfail a
            exact nomatch he.symm.trans htake
          · exact ih hrest b

/-- A field that no record can take spoils the document. -/
theorem decode_eq_error_of_mem {d : Document} {entry : String × Bson} (hmem : entry ∈ d.fields)
    (hfail : ∀ a, ∃ e, format.take a entry = .error e) : ∃ e, format.decode d = .error e :=
  foldlM_eq_error_of_mem hmem hfail format.blank

/-! ## Documents that decode alike -/

section Alike

variable {E : DecodeError → DecodeError → Prop} {R : α → α → Prop}

theorem matching_field (hE : ∀ e, E e e) {key : String} {read : Bson → Decoded γ}
    {put : γ → α → α} (h : ∀ c a b, R a b → R (put c a) (put c b)) (v : Bson) {a b : α}
    (hab : R a b) : Matching E R ((field key read put).2 v a) ((field key read put).2 v b) := by
  show Matching E R ((read v).map fun c => put c a) ((read v).map fun c => put c b)
  cases read v with
  | ok c => exact .ok (h c a b hab)
  | error e => exact .error (hE e)

/-- Where every reader keeps a relation, taking one field keeps it. -/
theorem matching_take (hE : ∀ e, E e e)
    (h : ∀ entry ∈ format.fields, ∀ v a b, R a b → Matching E R (entry.2 v a) (entry.2 v b))
    (entry : String × Bson) {a b : α} (hab : R a b) :
    Matching E R (format.take a entry) (format.take b entry) := by
  unfold take
  split
  · rename_i read hread
    exact h (entry.1, read) (Fields.mem_of_lookup hread) _ _ _ hab
  · split
    · exact .error (hE _)
    · exact .ok hab

theorem matching_foldlM {fields others : List (String × Bson)}
    (h : List.Forall₂ (fun entry other => ∀ a b, R a b →
      Matching E R (format.take a entry) (format.take b other)) fields others)
    {a b : α} (hab : R a b) :
    Matching E R (fields.foldlM format.take a) (others.foldlM format.take b) := by
  induction h generalizing a b with
  | nil => exact .ok hab
  | cons hentry _ ih =>
      rw [List.foldlM_cons, List.foldlM_cons]
      exact (hentry a b hab).bind fun _ _ hcd => ih hcd

/-- Documents whose fields are taken alike, one by one, decode alike. -/
theorem matching_decode {d other : Document}
    (h : List.Forall₂ (fun entry other => ∀ a b, R a b →
      Matching E R (format.take a entry) (format.take b other)) d.fields other.fields)
    (hblank : R format.blank format.blank) :
    Matching E R (format.decode d) (format.decode other) :=
  matching_foldlM h hblank

/-! ### Related values under the same keys -/

section Values

variable {U : String → Bson → Bson → Prop}

/-- Values that are related under the key of a field take related records to related ones. -/
def Carries (U : String → Bson → Bson → Prop) (E : DecodeError → DecodeError → Prop)
    (R : α → α → Prop) (entry : String × FieldReader α) : Prop :=
  ∀ v w, U entry.1 v w → ∀ a b, R a b → Matching E R (entry.2 v a) (entry.2 w b)

theorem carries_field {S : γ → γ → Prop} {key : String} {read : Bson → Decoded γ}
    {put : γ → α → α} (hread : ∀ v w, U key v w → Matching E S (read v) (read w))
    (hput : ∀ c d a b, S c d → R a b → R (put c a) (put d b)) :
    Carries U E R (field key read put) :=
  fun v w hvw a b hab => (hread v w hvw).map fun c d hcd => hput c d a b hcd hab

theorem carries_same (hE : ∀ e, E e e) {key : String} {read : Bson → Decoded γ} {put : γ → α → α}
    (hkey : ∀ v w, U key v w → v = w) (hput : ∀ c a b, R a b → R (put c a) (put c b)) :
    Carries U E R (field key read put) := by
  intro v w hvw a b hab
  rw [hkey v w hvw]
  exact matching_field hE hput w hab

/-- Fields with related values under the same keys stand for related records. -/
theorem matching_ofFields (hE : ∀ e, E e e)
    (h : ∀ entry ∈ format.fields, Carries U E R entry) (hblank : R format.blank format.blank)
    {fields others : List (String × Bson)} (hfields : Fields.Related U fields others) :
    Matching E R (format.ofFields fields) (format.ofFields others) := by
  refine matching_foldlM (hfields.imp fun entry other ⟨hkey, hvalue⟩ a b hab => ?_) hblank
  unfold take
  rw [← hkey]
  split
  · rename_i read hread
    exact h (entry.1, read) (Fields.mem_of_lookup hread) _ _ hvalue a b hab
  · split
    · exact .error (hE _)
    · exact .ok hab

/-- Values inside documents that stand for records, by the names of their fields or by the order of
these, with related values under the same names. -/
inductive Within (U : String → Bson → Bson → Prop) (names : List String) : Bson → Bson → Prop
  | named {fields others : List (String × Bson)} :
      Fields.Related U fields others → Within U names (.document fields) (.document others)
  | listed {items others : List Bson} :
      Fields.Related U (names.zip items) (names.zip others) →
      Within U names (.array items) (.array others)

theorem matching_read (hE : ∀ e, E e e) (h : ∀ entry ∈ format.fields, Carries U E R entry)
    (hblank : R format.blank format.blank) {v w : Bson} (hvw : Within U format.names v w) :
    Matching E R (format.read v) (format.read w) := by
  cases hvw with
  | named hfields => exact matching_ofFields hE h hblank hfields
  | listed hitems => exact matching_ofFields hE h hblank hitems

end Values

/-! ### Whatever the failures are -/

theorem readAlike_field {key : String} {read : Bson → Decoded γ} {put : γ → α → α}
    (h : ∀ c a b, R a b → R (put c a) (put c b)) (v : Bson) {a b : α} (hab : R a b) :
    ReadAlike R ((field key read put).2 v a) ((field key read put).2 v b) :=
  readAlike_iff.mpr (matching_field (fun _ => trivial) h v hab)

theorem readAlike_take
    (h : ∀ entry ∈ format.fields, ∀ v a b, R a b → ReadAlike R (entry.2 v a) (entry.2 v b))
    (entry : String × Bson) {a b : α} (hab : R a b) :
    ReadAlike R (format.take a entry) (format.take b entry) :=
  readAlike_iff.mpr (matching_take (fun _ => trivial)
    (fun entry hentry v a b hab => readAlike_iff.mp (h entry hentry v a b hab)) entry hab)

theorem readAlike_decode {d other : Document}
    (h : List.Forall₂ (fun entry other => ∀ a b, R a b →
      ReadAlike R (format.take a entry) (format.take b other)) d.fields other.fields)
    (hblank : R format.blank format.blank) :
    ReadAlike R (format.decode d) (format.decode other) :=
  readAlike_iff.mpr (matching_decode
    (h.imp fun _ _ htake a b hab => readAlike_iff.mp (htake a b hab)) hblank)

end Alike

end RecordFormat

end ProviderRegistry
