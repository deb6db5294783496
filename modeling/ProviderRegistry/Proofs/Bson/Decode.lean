/-
# `Proofs.Bson.Decode` — what has been read can be written and read again

A document under a key that names a type stands for a value of that type, and
`resolve` puts that value in its place, at every depth.  What comes out is
`Resolved`: no document in it names a type any more, so resolving it again
changes nothing (`resolved_of_resolve`).  Nor does it change a value in which
no key starts with `$` (`resolved_of_undollared`).  So a field that takes any
value reads back what it has been given, null where it has been given nothing
(`optional_orNull`), and so do the fields of optional values and of lists where
their items do (`optional_ofOption`, `list_map`).

The induction follows `resolve`.  Its third function collects the fields that
it has gone past, and what is known of them is that they are `Plain`; what it
can do at a field is said once, in `resolveFields_cons_ok`.
-/
import ProviderRegistry.Bson.Decode
import ProviderRegistry.Proofs.Bson.RecordFormat

namespace ProviderRegistry

namespace Bson

open Extended

/-- A value that stands for itself. -/
def Resolved (v : Bson) : Prop := v.resolve = .ok v

/-- A value that is neither a list nor a document. -/
def Single : Bson → Prop
  | .array _ | .document _ => False
  | _ => True

theorem Single.resolved {v : Bson} (h : v.Single) : v.Resolved := by
  cases v with
  | array items => exact h.elim
  | document fields => exact h.elim
  | _ => rfl

/-- A value that is neither null, a list nor a document. -/
def Typed : Bson → Prop
  | .null | .array _ | .document _ => False
  | _ => True

theorem Typed.single {v : Bson} (h : v.Typed) : v.Single := by
  cases v with
  | array items => exact h.elim
  | document fields => exact h.elim
  | _ => trivial

theorem Typed.ne_null {v : Bson} (h : v.Typed) : v ≠ .null := by
  rintro rfl
  exact h

/-! ## The keys that name a type -/

theorem typed_map {α : Type} {x : Decoded α} {f : α → Bson} {w : Bson} (h : x.map f = .ok w)
    (hf : ∀ a, (f a).Typed) : w.Typed := by
  cases x with
  | error e => exact nomatch h
  | ok a => exact Except.ok.inj h ▸ hf a

theorem typed_bind {α : Type} {x : Decoded α} {f : α → Decoded Bson} {w : Bson}
    (h : (x >>= f) = .ok w) (hf : ∀ a w, f a = .ok w → w.Typed) : w.Typed := by
  obtain ⟨a, -, ha⟩ := RecordFormat.ok_of_bind h
  exact hf a w ha

theorem typed_readSpelled {α : Type} (spelling : Spelling) (read : String → Option α)
    {value : α → Bson} {v w : Bson} (h : readSpelled spelling read value v = .ok w)
    (hvalue : ∀ a, (value a).Typed) : w.Typed :=
  typed_bind h fun _ _ hs => typed_map hs hvalue

theorem typed_readObjectId {v w : Bson} (h : readObjectId v = .ok w) : w.Typed := by
  unfold readObjectId at h
  split at h
  · exact typed_map h fun _ => trivial
  · exact nomatch h

theorem typed_readBinary {v w : Bson} (h : readBinary v = .ok w) : w.Typed := by
  refine typed_bind h fun texts w h => ?_
  refine typed_bind h fun bytes w h => ?_
  refine typed_bind h fun digits w h => ?_
  split at h
  · exact Except.ok.inj h ▸ trivial
  · exact nomatch h

theorem typed_readRegex {v w : Bson} (h : readRegex v = .ok w) : w.Typed := by
  refine typed_bind h fun texts w h => ?_
  exact Except.ok.inj h ▸ trivial

theorem typed_readPointer {v w : Bson} (h : readPointer v = .ok w) : w.Typed := by
  refine typed_bind h fun draft w h => ?_
  refine typed_bind h fun collection w h => ?_
  refine typed_bind h fun digits w h => ?_
  refine typed_bind h fun id w h => ?_
  exact Except.ok.inj h ▸ trivial

theorem typed_readTimestamp {v w : Bson} (h : readTimestamp v = .ok w) : w.Typed := by
  refine typed_bind h fun draft w h => ?_
  refine typed_bind h fun time w h => ?_
  refine typed_bind h fun increment w h => ?_
  exact Except.ok.inj h ▸ trivial

theorem typed_readDate {v w : Bson} (h : readDate v = .ok w) : w.Typed := by
  unfold readDate at h
  split at h
  · exact typed_map h fun _ => trivial
  · exact Except.ok.inj h ▸ trivial
  · exact Except.ok.inj h ▸ trivial
  · exact typed_map h fun _ => trivial
  · exact typed_map h fun _ => trivial
  · exact nomatch h

theorem typed_readOne {key : String} {value v w : Bson} (h : readOne key value v = .ok w)
    (hvalue : value.Typed) : w.Typed := by
  refine typed_bind h fun n w h => ?_
  split at h
  · exact Except.ok.inj h ▸ hvalue
  · exact nomatch h

theorem typed_readUndefined {v w : Bson} (h : readUndefined v = .ok w) : w.Typed := by
  refine typed_bind h fun b w h => ?_
  split at h
  · exact Except.ok.inj h ▸ trivial
  · exact nomatch h

theorem typed_readDecimalBytes {v w : Bson} (h : readDecimalBytes v = .ok w) : w.Typed := by
  refine typed_bind h fun bytes w h => ?_
  split at h
  · exact Except.ok.inj h ▸ trivial
  · exact nomatch h

/-- Whatever key names its type, a value that is read under it is of a type of its own. -/
theorem typed_of_reader : ∀ entry ∈ readers, ∀ v w, entry.2 v = .ok w → w.Typed := by
  intro entry hentry v w h
  simp only [readers, List.mem_cons, List.not_mem_nil, or_false] at hentry
  rcases hentry with rfl | rfl | rfl | rfl | rfl | rfl | rfl | rfl | rfl | rfl | rfl | rfl | rfl
    | rfl | rfl | rfl
  · exact typed_readObjectId h
  · exact typed_map h fun _ => trivial
  · exact typed_readSpelled _ _ h fun _ => trivial
  · exact typed_readSpelled _ _ h fun _ => trivial
  · exact typed_readSpelled _ _ h fun _ => trivial
  · exact typed_readSpelled _ _ h fun _ => trivial
  · exact typed_readDecimalBytes h
  · exact typed_readBinary h
  · exact typed_readSpelled _ _ h fun _ => trivial
  · exact typed_readRegex h
  · exact typed_readPointer h
  · exact typed_readTimestamp h
  · exact typed_readDate h
  · exact typed_readOne h trivial
  · exact typed_readOne h trivial
  · exact typed_readUndefined h

/-! ## Whole values -/

/-- A field whose key names no type, and whose value stands for itself. -/
structure Plain (entry : String × Bson) : Prop where
  notCode : entry.1 ≠ "$code"
  notScope : entry.1 ≠ "$scope"
  unnamed : readers.lookup entry.1 = none
  resolved : entry.2.Resolved

/-- A document of plain fields stands for itself. -/
theorem resolveFields_of_plain {before fields : List (String × Bson)}
    (h : ∀ entry ∈ fields, Plain entry) :
    resolveFields before fields = .ok (.document (before ++ fields)) := by
  induction fields generalizing before with
  | nil => simp [resolveFields]
  | cons entry rest ih =>
      obtain ⟨key, v⟩ := entry
      have hplain := h (key, v) List.mem_cons_self
      have hv : v.resolve = .ok v := hplain.resolved
      have hrest : resolveFields (before ++ [(key, v)]) rest = _ :=
        ih fun entry hentry => h entry (List.mem_cons_of_mem _ hentry)
      rw [resolveFields, if_neg (by simpa using hplain.notCode),
        if_neg (by simpa using hplain.notScope)]
      simp only [hplain.unnamed, hv]
      exact hrest.trans (by simp)

/-- A field whose key names a type decides what its document stands for; any other is gone past. -/
theorem resolveFields_cons_ok {before rest : List (String × Bson)} {key : String} {v w : Bson}
    (h : resolveFields before ((key, v) :: rest) = .ok w) :
    w.Typed ∨ ∃ u, v.resolve = .ok u ∧ (u.Resolved → Plain (key, u)) ∧
      resolveFields (before ++ [(key, u)]) rest = .ok w := by
  rw [resolveFields] at h
  split at h
  · obtain ⟨source, -, h⟩ := RecordFormat.ok_of_bind h
    split at h
    · exact .inl (Except.ok.inj h ▸ trivial)
    · split at h
      · obtain ⟨scope, -, h⟩ := RecordFormat.ok_of_bind h
        exact .inl (Except.ok.inj h ▸ trivial)
      · exact nomatch h
  · rename_i hcode
    split at h
    · obtain ⟨scope, -, h⟩ := RecordFormat.ok_of_bind h
      split at h
      · exact nomatch h
      · split at h
        · exact .inl (typed_map h fun _ => trivial)
        · exact nomatch h
    · rename_i hscope
      split at h
      · rename_i read hread
        exact .inl (typed_of_reader (key, read) (Fields.mem_of_lookup hread) v w h)
      · rename_i hunnamed
        obtain ⟨u, hv, h⟩ := RecordFormat.ok_of_bind h
        exact .inr ⟨u, hv,
          fun hu => ⟨by simpa using hcode, by simpa using hscope, hunnamed, hu⟩, h⟩

mutual

/-- What a value stands for stands for itself. -/
theorem resolved_of_resolve : ∀ {v w : Bson}, v.resolve = .ok w → w.Resolved
  | .array items, w, h => by
      rw [resolve] at h
      cases hitems : resolveItems items with
      | error e =>
          rw [hitems] at h
          exact nomatch h
      | ok ws =>
          rw [hitems] at h
          obtain rfl := Except.ok.inj h
          rw [Resolved, resolve, resolveItems_resolved hitems]
          rfl
  | .document fields, w, h => by
      rw [resolve] at h
      exact resolved_of_resolveFields (fun _ hmem => absurd hmem List.not_mem_nil) h
  | .null, w, h | .undefined, w, h | .minKey, w, h | .maxKey, w, h | .boolean _, w, h
  | .int32 _, w, h | .int64 _, w, h | .double _, w, h | .string _, w, h | .symbol _, w, h
  | .objectId _, w, h | .dateTime _, w, h | .timestamp _ _, w, h | .decimal _, w, h
  | .binary _, w, h | .regex _ _, w, h | .pointer _ _, w, h | .code _, w, h
  | .scopedCode _ _, w, h => Except.ok.inj h ▸ rfl

theorem resolveItems_resolved : ∀ {items ws : List Bson}, resolveItems items = .ok ws →
    resolveItems ws = .ok ws
  | [], ws, h => Except.ok.inj h ▸ rfl
  | v :: rest, ws, h => by
      rw [resolveItems] at h
      obtain ⟨w, hv, h⟩ := RecordFormat.ok_of_bind h
      obtain ⟨others, hrest, h⟩ := RecordFormat.ok_of_bind h
      obtain rfl := Except.ok.inj h
      have hw : w.resolve = .ok w := resolved_of_resolve hv
      rw [resolveItems, hw, resolveItems_resolved hrest]
      rfl

theorem resolved_of_resolveFields : ∀ {fields before : List (String × Bson)} {w : Bson},
    (∀ entry ∈ before, Plain entry) → resolveFields before fields = .ok w → w.Resolved
  | [], before, w, hbefore, h => by
      obtain rfl := Except.ok.inj h
      rw [Resolved, resolve]
      exact resolveFields_of_plain hbefore
  | (key, v) :: rest, before, w, hbefore, h => by
      rcases resolveFields_cons_ok h with htyped | ⟨u, hv, hplain, hrest⟩
      · exact htyped.single.resolved
      · refine resolved_of_resolveFields (fun entry hentry => ?_) hrest
        rcases List.mem_append.mp hentry with hentry | hentry
        · exact hbefore entry hentry
        · exact List.mem_singleton.mp hentry ▸ hplain (resolved_of_resolve hv)

end

theorem resolveFields_ne_null (fields before : List (String × Bson)) :
    resolveFields before fields ≠ .ok .null := by
  induction fields generalizing before with
  | nil => exact nofun
  | cons entry rest ih =>
      intro h
      rcases resolveFields_cons_ok h with htyped | ⟨u, -, -, hrest⟩
      · exact htyped.ne_null rfl
      · exact ih _ hrest

/-- Only null stands for null. -/
theorem eq_null_of_resolve {v : Bson} (h : v.resolve = .ok .null) : v = .null := by
  cases v with
  | array items =>
      rw [resolve] at h
      cases hitems : resolveItems items with
      | error e =>
          rw [hitems] at h
          exact nomatch h
      | ok ws =>
          rw [hitems] at h
          exact nomatch h
  | document fields => exact absurd h (resolveFields_ne_null fields [])
  | _ => exact Except.ok.inj h

/-! ## Values without the keys that name a type -/

mutual

/-- No key of a document in a value, at any depth, starts with `$`. -/
def undollared : Bson → Bool
  | .array items => undollaredItems items
  | .document fields => undollaredFields fields
  | .scopedCode _ scope => undollaredFields scope
  | _ => true

/-- So it is with every item of a list. -/
def undollaredItems : List Bson → Bool
  | [] => true
  | v :: rest => undollared v && undollaredItems rest

/-- So it is with the fields of a document, keys and values. -/
def undollaredFields : List (String × Bson) → Bool
  | [] => true
  | (key, v) :: rest => key.toList.head? != some '$' && undollared v && undollaredFields rest

end

/-- The keys that name a type start with `$`. -/
theorem head_of_mem_keys_readers {key : String} (h : key ∈ Fields.keys readers) :
    key.toList.head? = some '$' := by
  revert key
  decide +kernel

theorem Plain.of_undollared {key : String} {v : Bson} (hkey : key.toList.head? ≠ some '$')
    (hv : v.Resolved) : Plain (key, v) where
  notCode := by
    rintro rfl
    exact hkey (by decide +kernel)
  notScope := by
    rintro rfl
    exact hkey (by decide +kernel)
  unnamed := by
    cases hread : readers.lookup key with
    | none => rfl
    | some read =>
        exact absurd (head_of_mem_keys_readers (List.mem_map_of_mem (Fields.mem_of_lookup hread)))
          hkey
  resolved := hv

mutual

/-- A value without such keys stands for itself. -/
theorem resolved_of_undollared : ∀ {v : Bson}, v.undollared = true → v.Resolved
  | .array items, h => by
      rw [Resolved, resolve, resolveItems_of_undollared h]
      rfl
  | .document fields, h => by
      rw [Resolved, resolve]
      exact resolveFields_of_plain (plain_of_undollared h)
  | .null, _ | .undefined, _ | .minKey, _ | .maxKey, _ | .boolean _, _ | .int32 _, _ | .int64 _, _
  | .double _, _ | .string _, _ | .symbol _, _ | .objectId _, _ | .dateTime _, _
  | .timestamp _ _, _ | .decimal _, _ | .binary _, _ | .regex _ _, _ | .pointer _ _, _
  | .code _, _ | .scopedCode _ _, _ => rfl

theorem resolveItems_of_undollared : ∀ {items : List Bson}, undollaredItems items = true →
    resolveItems items = .ok items
  | [], _ => rfl
  | v :: rest, h => by
      obtain ⟨hv, hrest⟩ : v.undollared = true ∧ undollaredItems rest = true := by
        simpa [undollaredItems] using h
      have hresolved : v.resolve = .ok v := resolved_of_undollared hv
      rw [resolveItems, hresolved, resolveItems_of_undollared hrest]
      rfl

theorem plain_of_undollared : ∀ {fields : List (String × Bson)}, undollaredFields fields = true →
    ∀ entry ∈ fields, Plain entry
  | [], _, _, hentry => absurd hentry List.not_mem_nil
  | (key, v) :: rest, h, entry, hentry => by
      obtain ⟨⟨hkey, hv⟩, hrest⟩ : (key.toList.head? ≠ some '$' ∧ v.undollared = true)
          ∧ undollaredFields rest = true := by
        simpa [undollaredFields] using h
      rcases List.mem_cons.mp hentry with rfl | hentry
      · exact .of_undollared hkey (resolved_of_undollared hv)
      · exact plain_of_undollared hrest entry hentry

end

end Bson

namespace Decode

variable {α : Type} {read : Bson → Decoded α} {value : α → Bson}

/-! ## Optional values and lists -/

theorem optional_of_ne_null {v : Bson} (h : v ≠ .null) :
    optional read v = (read v).map some := by
  unfold optional
  split
  · exact absurd rfl h
  · rfl

theorem ok_of_optional {v : Bson} {a : α} (h : optional read v = .ok (some a)) :
    v ≠ .null ∧ read v = .ok a := by
  unfold optional at h
  split at h
  · exact nomatch Except.ok.inj h
  · rename_i hnull
    refine ⟨hnull, ?_⟩
    cases hv : read v with
    | error e =>
        rw [hv] at h
        exact nomatch h
    | ok b =>
        rw [hv] at h
        exact congrArg _ (Option.some.inj (Except.ok.inj h))

/-- Any value that is taken stands for itself. -/
theorem resolved_optional {v w : Bson} (h : optional anything v = .ok (some w)) : w.Resolved :=
  Bson.resolved_of_resolve (ok_of_optional h).2

/-- What an optional field of any value has been given is what it reads back. -/
theorem optional_orNull {v : Bson} {v? : Option Bson} (h : optional anything v = .ok v?) :
    optional anything (Bson.orNull v?) = .ok v? := by
  cases v? with
  | none => rfl
  | some w =>
      obtain ⟨hnull, hv⟩ := ok_of_optional h
      have hw : anything w = .ok w := resolved_optional h
      show optional anything w = .ok (some w)
      rw [optional_of_ne_null fun hnull' => hnull (Bson.eq_null_of_resolve (hnull' ▸ hv)), hw]
      rfl

theorem optional_ofOption (hread : ∀ a, read (value a) = .ok a) (hnull : ∀ a, value a ≠ .null)
    (a? : Option α) : optional read (Bson.ofOption value a?) = .ok a? := by
  cases a? with
  | none => rfl
  | some a =>
      show optional read (value a) = .ok (some a)
      rw [optional_of_ne_null (hnull a), hread]
      rfl

theorem list_map (hread : ∀ a, read (value a) = .ok a) (items : List α) :
    list read (.array (items.map value)) = .ok items := by
  show (items.map value).mapM read = .ok items
  induction items with
  | nil => rfl
  | cons a rest ih =>
      rw [List.map_cons, List.mapM_cons, hread, ih]
      rfl

end Decode

end ProviderRegistry
