/-
# `Proofs.Secrecy.Documents` — stored documents that are the same but for keys

Keys are stored in two places, and documents are related place by place:

    provider documents   the texts under `api_key` look alike
    system documents     the documents listed under `llm_configs` are related
                         as provider documents are

Everything else is the same, its order included (`FieldLike`).  So a filter
that asks for neither field cannot tell two such documents apart, and what is
written to both alike leaves them related.

## What is proved

Related documents decode to records that look alike, or fail with the same
error (`ProviderRecord.matching_decode`, `SystemConfig.matching_decode`,
`ConfigEntry.matching_decode`).  An embedded entry may be written for a value of
another type; no key of a type is `api_key`, so that this is found out alike for
both (`Bson.matching_resolveFields`, by induction on the fields).
-/
import ProviderRegistry.Proofs.Bson.Decode
import ProviderRegistry.Proofs.Secrecy.Keys

namespace ProviderRegistry

/-! ## Fields under one name -/

/-- Fields that are the same, or stand under a given name with related values. -/
inductive FieldLike (name : String) (V : Bson → Bson → Prop) : String × Bson → String × Bson → Prop
  | same (entry : String × Bson) : FieldLike name V entry entry
  | under {v w : Bson} : V v w → FieldLike name V (name, v) (name, w)

/-- Documents that are the same but for related values under a given name. -/
def Document.Like (name : String) (V : Bson → Bson → Prop) (d other : Document) : Prop :=
  List.Forall₂ (FieldLike name V) d.fields other.fields

section Like

variable {name : String} {V : Bson → Bson → Prop}

theorem FieldLike.key_eq {entry other : String × Bson} (h : FieldLike name V entry other) :
    entry.1 = other.1 := by
  cases h with
  | same _ => rfl
  | under _ => rfl

namespace Fields

variable {fields others : List (String × Bson)}

theorem like_refl (fields : List (String × Bson)) : List.Forall₂ (FieldLike name V) fields fields :=
  List.forall₂_same.mpr fun entry _ => .same entry

theorem like_set (h : List.Forall₂ (FieldLike name V) fields others) {key : String} {v w : Bson}
    (hvw : FieldLike name V (key, v) (key, w)) :
    List.Forall₂ (FieldLike name V) (set key v fields) (set key w others) := by
  induction h with
  | nil => exact .cons hvw .nil
  | @cons entry other rest _ hentry hrest ih =>
      obtain ⟨k, x⟩ := entry
      obtain ⟨k', y⟩ := other
      obtain rfl : k = k' := hentry.key_eq
      unfold set
      split
      · rename_i hk
        obtain rfl : k = key := by simpa using hk
        exact .cons hvw hrest
      · exact .cons hentry ih

theorem like_setAll {values updates : List (String × Bson)}
    (hvalues : List.Forall₂ (FieldLike name V) values updates)
    (h : List.Forall₂ (FieldLike name V) fields others) :
    List.Forall₂ (FieldLike name V) (setAll fields values) (setAll others updates) := by
  induction hvalues generalizing fields others with
  | nil => exact h
  | @cons entry other _ _ hentry _ ih =>
      obtain ⟨key, v⟩ := entry
      obtain ⟨key', w⟩ := other
      obtain rfl : key = key' := hentry.key_eq
      exact ih (like_set h hentry)

theorem lookup_eq_of_like (h : List.Forall₂ (FieldLike name V) fields others) {key : String}
    (hne : key ≠ name) : fields.lookup key = others.lookup key := by
  induction h with
  | nil => rfl
  | @cons entry other rest _ hentry _ ih =>
      cases hentry with
      | same entry => rw [List.lookup_cons, List.lookup_cons, ih]
      | under _ =>
          have hkey : (key == name) = false := beq_false_of_ne hne
          rw [List.lookup_cons, List.lookup_cons, hkey]
          exact ih

end Fields

namespace Document.Like

variable {d other : Document}

theorem refl (d : Document) : Like name V d d := Fields.like_refl d.fields

theorem get?_eq (h : Like name V d other) {key : String} (hne : key ≠ name) :
    d.get? key = other.get? key :=
  Fields.lookup_eq_of_like h hne

/-- A filter that does not ask for the name takes both documents, or neither. -/
theorem satisfies_eq (h : Like name V d other) {filter : Document}
    (hfilter : name ∉ Fields.keys filter.fields) : d.satisfies filter = other.satisfies filter := by
  unfold satisfies
  rw [Bool.eq_iff_iff, List.all_eq_true, List.all_eq_true]
  refine forall₂_congr fun (key, value) hentry => ?_
  have hne : key ≠ name := by
    rintro rfl
    exact hfilter (List.mem_map_of_mem hentry)
  simp only [h.get?_eq hne]

theorem insert (h : Like name V d other) (key : String) (value : Bson) :
    Like name V (d.insert key value) (other.insert key value) :=
  Fields.like_set h (.same (key, value))

theorem merge (h : Like name V d other) {changes updates : Document}
    (hchanges : Like name V changes updates) :
    Like name V (d.merge changes) (other.merge updates) :=
  Fields.like_setAll hchanges h

/-- Documents that are the same but under a name decode alike where the readers of all fields keep
a relation, and that of the name takes related values alike. -/
theorem matching_decode {α : Type} {format : RecordFormat α} {R : α → α → Prop}
    {read : FieldReader α} (hread : format.fields.lookup name = some read)
    (hsame : ∀ entry ∈ format.fields, ∀ v a b, R a b →
      Matching Eq R (entry.2 v a) (entry.2 v b))
    (hunder : ∀ v w, V v w → ∀ a b, R a b → Matching Eq R (read v a) (read w b))
    (hblank : R format.blank format.blank) (h : Like name V d other) :
    Matching Eq R (format.decode d) (format.decode other) := by
  refine RecordFormat.matching_decode (h.imp fun entry other hentry a b hab => ?_) hblank
  cases hentry with
  | same entry => exact RecordFormat.matching_take (fun _ => rfl) hsame entry hab
  | under hvw =>
      simp only [RecordFormat.take, hread]
      exact hunder _ _ hvw a b hab

end Document.Like

end Like

/-! ## The two places of keys -/

/-- Texts of keys that look alike. -/
inductive KeyText : Bson → Bson → Prop
  | text {key other : String} : ApiKey.Lookalike key other → KeyText (.string key) (.string other)

/-- Documents that are the same but for keys that look alike. -/
abbrev Document.ButKeys : Document → Document → Prop := Document.Like "api_key" KeyText

/-- Values that are the same, or documents that are the same but for keys. -/
inductive Element : Bson → Bson → Prop
  | same (v : Bson) : Element v v
  | entry {fields others : List (String × Bson)} :
      Document.ButKeys ⟨fields⟩ ⟨others⟩ → Element (.document fields) (.document others)

/-- Lists whose members are the same but for keys. -/
inductive Elements : Bson → Bson → Prop
  | list {items others : List Bson} :
      List.Forall₂ Element items others → Elements (.array items) (.array others)

/-- Documents that are the same but for the keys of the entries that they embed. -/
abbrev Document.ButEntries : Document → Document → Prop := Document.Like "llm_configs" Elements

/-! ## What requests write -/

namespace ConfigEdit

variable {e f : ConfigEdit} (h : Lookalike e f) (now : Moment)
include h

theorem butKeys_changes : (e.changes now).ButKeys (f.changes now) := by
  have hkey := rel_trimmedKey h
  obtain ⟨key, rfl, -⟩ := h
  refine List.rel_append (Fields.like_refl _) ?_
  generalize e.trimmedKey = first at hkey ⊢
  generalize (HoldsKey.withKey key e).trimmedKey = second at hkey ⊢
  cases hkey with
  | none => exact .nil
  | some halike => exact .cons (.under (.text halike)) .nil

theorem butKeys_creation : (e.creation now).ButKeys (f.creation now) := by
  have hkey : FieldLike "api_key" KeyText ("api_key", Bson.ofOption .string e.trimmedKey)
      ("api_key", Bson.ofOption .string f.trimmedKey) := by
    have htrimmed := rel_trimmedKey h
    generalize e.trimmedKey = first at htrimmed ⊢
    generalize f.trimmedKey = second at htrimmed ⊢
    cases htrimmed with
    | none => exact .same _
    | some halike => exact .under (.text halike)
  obtain ⟨key, rfl, -⟩ := h
  exact .cons (.same _) (.cons (.same _) (.cons (.same _) (.cons hkey (Fields.like_refl _))))

end ConfigEdit

/-! ## Records with a key -/

/-- A text of a key is read for what it is. -/
theorem Decode.matching_key {v w : Bson} (h : KeyText v w) :
    Matching Eq (Option.Rel ApiKey.Lookalike) (optional text v) (optional text w) := by
  cases h with
  | text halike => exact .ok (.some halike)

section Records

variable {α : Type} [HoldsKey α] {format : RecordFormat α}

open RecordFormat Decode

/-- A field other than that of the key. -/
theorem matching_put {β : Type} {name : String} {read : Bson → Decoded β} {put : β → α → α}
    (hput : ∀ c key a, put c (HoldsKey.withKey key a) = HoldsKey.withKey key (put c a))
    (hkey : ∀ c a, HoldsKey.key (put c a) = HoldsKey.key a) (v : Bson) {a b : α}
    (h : Lookalike a b) :
    Matching Eq Lookalike ((field name read put).2 v a) ((field name read put).2 v b) := by
  refine matching_field (fun _ => rfl) (fun c a b hab => ?_) v h
  obtain ⟨key, rfl, hkeys⟩ := hab
  refine ⟨key, hput c key a, ?_⟩
  rw [hkey]
  exact hkeys

/-- The field of the key, with the same value for both. -/
theorem matching_withKey (v : Bson) {a b : α} (h : Lookalike a b) :
    Matching Eq Lookalike ((field "api_key" (optional text) HoldsKey.withKey).2 v a)
      ((field "api_key" (optional text) HoldsKey.withKey).2 v b) :=
  matching_field (fun _ => rfl) (fun c _ _ hab => hab.withKey (ApiKey.rel_refl c)) v h

theorem matching_decode_butKeys
    (hread : format.fields.lookup "api_key"
      = some (field "api_key" (optional text) HoldsKey.withKey).2)
    (hsame : ∀ entry ∈ format.fields, ∀ v a b, Lookalike a b →
      Matching Eq Lookalike (entry.2 v a) (entry.2 v b))
    {d other : Document} (h : d.ButKeys other) :
    Matching Eq Lookalike (format.decode d) (format.decode other) := by
  refine Document.Like.matching_decode hread hsame (fun v w hvw a b hab => ?_) (.refl _) h
  exact (matching_key hvw).map fun _ _ hkeys => hab.withKey hkeys

end Records

theorem ProviderRecord.matching_decode {d other : Document} (h : d.ButKeys other) :
    Matching Eq Lookalike (decode d) (decode other) := by
  refine matching_decode_butKeys rfl (fun entry hentry v a b hab => ?_) h
  simp only [format, List.mem_cons, List.not_mem_nil, or_false] at hentry
  rcases hentry with rfl | rfl | rfl | rfl | rfl | rfl | rfl | rfl | rfl | rfl | rfl | rfl | rfl
    | rfl | rfl
  all_goals first
    | exact matching_withKey v hab
    | refine matching_put ?_ ?_ v hab
      · exact fun _ _ _ => rfl
      · exact fun _ _ => rfl

theorem ConfigEntry.matching_decode {d other : Document} (h : d.ButKeys other) :
    Matching Eq Lookalike (decode d) (decode other) := by
  refine matching_decode_butKeys rfl (fun entry hentry v a b hab => ?_) h
  simp only [format, List.mem_cons, List.not_mem_nil, or_false] at hentry
  rcases hentry with rfl | rfl | rfl | rfl | rfl | rfl | rfl | rfl | rfl | rfl | rfl | rfl | rfl
  all_goals first
    | exact matching_withKey v hab
    | refine matching_put ?_ ?_ v hab
      · exact fun _ _ _ => rfl
      · exact fun _ _ => rfl

/-! ## Embedded entries -/

namespace Bson

theorem matching_refl (x : Decoded Bson) : Matching Eq Element x x :=
  .refl (fun _ => rfl) Element.same x

theorem matching_resolveFields {fields others before prior : List (String × Bson)}
    (h : List.Forall₂ (FieldLike "api_key" KeyText) fields others)
    (hbefore : List.Forall₂ (FieldLike "api_key" KeyText) before prior) :
    Matching Eq Element (resolveFields before fields) (resolveFields prior others) := by
  induction h generalizing before prior with
  | nil => exact .ok (.entry hbefore)
  | @cons entry other rest last hentry hrest ih =>
      cases hentry with
      | under hvw =>
          cases hvw with
          | text halike =>
              exact ih (List.rel_append hbefore (.cons (.under (.text halike)) .nil))
      | same entry =>
          obtain ⟨key, v⟩ := entry
          unfold resolveFields
          split
          · -- a program, and at most one field after it
            refine Matching.bind_same (fun _ => rfl) _ fun source => ?_
            cases hrest with
            | nil => exact matching_refl _
            | cons hnext _ =>
                cases hnext with
                | same _ => exact matching_refl _
                | under _ => exact matching_refl _
          · split
            · refine Matching.bind_same (fun _ => rfl) _ fun scope => ?_
              cases hrest with
              | nil => exact matching_refl _
              | cons hnext _ =>
                  cases hnext with
                  | same _ => exact matching_refl _
                  | under _ => exact matching_refl _
            · split
              · exact matching_refl _
              · refine Matching.bind_same (fun _ => rfl) _ fun u => ?_
                exact ih (List.rel_append hbefore (.cons (.same _) .nil))

end Bson

theorem Decode.matching_document {v w : Bson} (h : Element v w) :
    Matching Eq Document.ButKeys (document v) (document w) := by
  cases h with
  | same v => exact .refl (fun _ => rfl) Document.Like.refl _
  | entry hfields =>
      refine (Bson.matching_resolveFields hfields .nil).bind fun u u' hu => ?_
      cases hu with
      | same u => exact .refl (fun _ => rfl) Document.Like.refl _
      | entry hresolved => exact .ok hresolved

/-! ## System documents -/

namespace SystemConfig

/-- System documents that are the same but for the keys of their entries. -/
structure ButKeys (s t : SystemConfig) : Prop where
  isActive : s.isActive = t.isActive
  settings : s.settings = t.settings
  entries : List.Forall₂ Document.ButKeys s.entries t.entries

/-- Of the entries only their number is shown. -/
theorem inspect_eq {s t : SystemConfig} (h : ButKeys s t) : s.inspect = t.inspect := by
  simp only [inspect, h.isActive, h.settings, h.entries.length_eq]

theorem preferredModel_eq {s t : SystemConfig} (h : ButKeys s t) :
    s.preferredModel = t.preferredModel := by
  rw [preferredModel, preferredModel, h.settings]

theorem matching_decode {d other : Document} (h : d.ButEntries other) :
    Matching Eq ButKeys (decode d) (decode other) := by
  have hsame : ∀ entry ∈ format.fields, ∀ v a b, ButKeys a b →
      Matching Eq ButKeys (entry.2 v a) (entry.2 v b) := by
    intro entry hentry v a b hab
    simp only [format, List.mem_cons, List.not_mem_nil, or_false] at hentry
    rcases hentry with rfl | rfl | rfl
    · exact RecordFormat.matching_field (fun _ => rfl)
        (fun _ _ _ h => ⟨rfl, h.settings, h.entries⟩) v hab
    · exact RecordFormat.matching_field (fun _ => rfl)
        (fun c _ _ h => ⟨h.isActive, h.settings, List.forall₂_same.mpr fun d _ => .refl d⟩) v hab
    · exact RecordFormat.matching_field (fun _ => rfl)
        (fun _ _ _ h => ⟨h.isActive, rfl, h.entries⟩) v hab
  refine Document.Like.matching_decode rfl hsame (fun v w hvw a b hab => ?_)
    ⟨rfl, rfl, .nil⟩ h
  cases hvw with
  | list hitems =>
      have hread := Matching.mapM hitems fun _ _ hitem => Decode.matching_document hitem
      exact hread.map fun _ _ hentries => ⟨hab.isActive, hab.settings, hentries⟩

end SystemConfig

/-! ## All that decode -/

theorem Resolution.rel_decodable {α : Type} {decode : Document → Decoded α}
    {D : Document → Document → Prop} {R : α → α → Prop}
    (hdecode : ∀ d other, D d other → Matching Eq R (decode d) (decode other))
    {documents others : List Document} (h : List.Forall₂ D documents others) :
    List.Forall₂ R (decodable decode documents) (decodable decode others) :=
  List.rel_filterMap (fun d other hd => (hdecode d other hd).toOption) h

end ProviderRegistry
