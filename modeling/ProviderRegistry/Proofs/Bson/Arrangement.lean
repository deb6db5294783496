/-
# `Proofs.Bson.Arrangement` — the arrangement of a document makes no difference

A document is read field by field in its own order, and the first field that
does not fit is the error.  So the order decides which error is told, but
nothing else: whether the document decodes, and to what record, is decided by
the values under the names of the format (`agreeing_decode`).

The proof passes to the fold without its errors.  A field of an unknown name
leaves every record as it is (`taken_of_not_mem`), and two fields of the format
that stand in places of their own may be taken in either order
(`taken_comm`).  What is left over of a document after the unknown fields is
determined by its values up to order, as its keys are distinct, and a fold
whose steps commute does not see the order.

That the fields of a format have places of their own is said once for each
format (`Independent`); it comes down to `put`s that commute.
-/
import Mathlib.Data.List.Nodup
import Mathlib.Data.List.Pairwise
import ProviderRegistry.Proofs.Bson.RecordFormat

namespace ProviderRegistry

/-! ## Documents with the same fields -/

namespace Document

/-- Two documents have the same values under the given names, or the same names missing. -/
def AgreeOn (names : List String) (d other : Document) : Prop :=
  ∀ name ∈ names, other.get? name = d.get? name

/-- The fields of a document in any order, among further ones that have none of the given names.  As
in every document, no key stands twice. -/
structure Rearranged (names : List String) (d other : Document) : Prop where
  keyed : other.Keyed
  fields : ∃ added, other.fields.Perm (d.fields ++ added) ∧ ∀ entry ∈ added, entry.1 ∉ names

theorem get?_eq_some_iff {d : Document} (h : d.Keyed) {key : String} {value : Bson} :
    d.get? key = some value ↔ (key, value) ∈ d.fields :=
  ⟨Fields.mem_of_lookup, fun hmem => Fields.lookup_of_mem h hmem⟩

/-- A key stands in one field. -/
theorem eq_of_key_eq {d : Document} (h : d.Keyed) {entry other : String × Bson}
    (hentry : entry ∈ d.fields) (hother : other ∈ d.fields) (hkey : entry.1 = other.1) :
    entry = other :=
  List.inj_on_of_nodup_map h hentry hother hkey

/-- The named fields of documents that agree are the same but for their order. -/
theorem perm_filter_of_agreeOn {names : List String} {d other : Document} (hd : d.Keyed)
    (hother : other.Keyed) (hagree : d.AgreeOn names other) :
    (d.fields.filter fun entry => names.contains entry.1).Perm
      (other.fields.filter fun entry => names.contains entry.1) := by
  refine (List.perm_ext_iff_of_nodup ((List.Nodup.of_map _ hd).filter _)
    ((List.Nodup.of_map _ hother).filter _)).mpr fun entry => ?_
  rw [List.mem_filter, List.mem_filter]
  refine and_congr_left fun hname => ?_
  rw [← get?_eq_some_iff hd, ← get?_eq_some_iff hother, hagree entry.1 (by simpa using hname)]

namespace Rearranged

variable {names : List String} {d other : Document}

/-- The document that is rearranged has distinct keys as well. -/
theorem keyed_left (h : d.Rearranged names other) : d.Keyed := by
  obtain ⟨added, hperm, -⟩ := h.fields
  have hkeys : (Fields.keys (d.fields ++ added)).Nodup := (hperm.map Prod.fst).nodup_iff.mp h.keyed
  rw [Fields.keys_append] at hkeys
  exact (List.nodup_append.mp hkeys).1

theorem agreeOn (h : d.Rearranged names other) : d.AgreeOn names other := by
  intro name hname
  obtain ⟨added, hperm, hadded⟩ := h.fields
  refine Option.ext fun value => ?_
  rw [get?_eq_some_iff h.keyed, get?_eq_some_iff h.keyed_left, hperm.mem_iff, List.mem_append]
  exact or_iff_left fun hmem => hadded _ hmem hname

end Rearranged

end Document

namespace RecordFormat

variable {α : Type} {format : RecordFormat α}

/-! ## Fields that may be taken in either order -/

/-- Two readers of which either may go first: what they make of a record, or that one of them fails,
is the same. -/
def Commuting (read other : FieldReader α) : Prop :=
  ∀ v w a, ((read v a).toOption.bind fun b => (other w b).toOption)
    = (other w a).toOption.bind fun b => (read v b).toOption

theorem commuting_field {β γ : Type} {key key' : String} {read : Bson → Decoded β}
    {read' : Bson → Decoded γ} {put : β → α → α} {put' : γ → α → α}
    (h : ∀ b c a, put' c (put b a) = put b (put' c a)) :
    Commuting (field key read put).2 (field key' read' put').2 := by
  intro v w a
  show (((read v).map fun b => put b a).toOption.bind fun b =>
      ((read' w).map fun c => put' c b).toOption)
    = ((read' w).map fun c => put' c a).toOption.bind fun b =>
      ((read v).map fun b' => put b' b).toOption
  cases read v with
  | error e => cases read' w <;> rfl
  | ok b => cases read' w with
    | error e => rfl
    | ok c => exact congrArg some (h b c a)

/-- Every two fields of a format may be taken in either order, and fields of other names may stand
beside them. -/
structure Independent (format : RecordFormat α) : Prop where
  unclosed : format.closed = false
  commuting : format.fields.Pairwise fun entry other => Commuting entry.2 other.2

/-- Commuting does not depend on which of the two is named first. -/
instance : Std.Symm fun entry other : String × FieldReader α => Commuting entry.2 other.2 :=
  ⟨fun _ _ h v w a => (h w v a).symm⟩

/-! ## The fold without its errors -/

/-- What a field makes of a record that may have failed already. -/
def taken (format : RecordFormat α) (record : Option α) (entry : String × Bson) : Option α :=
  record.bind fun r => (format.take r entry).toOption

theorem foldl_taken_none (fields : List (String × Bson)) : fields.foldl format.taken none = none := by
  induction fields with
  | nil => rfl
  | cons entry rest ih => exact ih

theorem toOption_foldlM (fields : List (String × Bson)) (a : α) :
    (fields.foldlM format.take a).toOption = fields.foldl format.taken (some a) := by
  induction fields generalizing a with
  | nil => rfl
  | cons entry rest ih =>
      rw [List.foldlM_cons, List.foldl_cons, taken, Option.bind_some]
      cases format.take a entry with
      | error e => exact (foldl_taken_none rest).symm
      | ok b => exact ih b

section Independent

variable (h : format.Independent)

include h

theorem taken_of_not_mem {entry : String × Bson} (hentry : entry.1 ∉ format.names)
    (record : Option α) : format.taken record entry = record := by
  have hread : format.fields.lookup entry.1 = none :=
    Option.eq_none_iff_forall_ne_some.mpr fun read hlookup =>
      hentry (List.mem_map_of_mem (Fields.mem_of_lookup hlookup))
  cases record with
  | none => rfl
  | some r => simp [taken, take, hread, h.unclosed, Except.toOption]

theorem taken_comm {entry other : String × Bson} (hne : entry.1 ≠ other.1) (record : Option α) :
    format.taken (format.taken record entry) other
      = format.taken (format.taken record other) entry := by
  by_cases hentry : entry.1 ∈ format.names
  · by_cases hother : other.1 ∈ format.names
    · cases record with
      | none => rfl
      | some a =>
          obtain ⟨read, hread⟩ := Fields.exists_lookup_of_mem_keys hentry
          obtain ⟨read', hread'⟩ := Fields.exists_lookup_of_mem_keys hother
          have hcommuting := h.commuting.forall (Fields.mem_of_lookup hread)
            (Fields.mem_of_lookup hread') fun heq => hne (Prod.mk.inj heq).1
          simpa [taken, take, hread, hread'] using hcommuting entry.2 other.2 a
    · rw [taken_of_not_mem h hother, taken_of_not_mem h hother]
  · rw [taken_of_not_mem h hentry, taken_of_not_mem h hentry]

/-- Only the fields that the format names are taken. -/
theorem foldl_taken_filter (fields : List (String × Bson)) (record : Option α) :
    fields.foldl format.taken record
      = (fields.filter fun entry => format.names.contains entry.1).foldl format.taken record := by
  induction fields generalizing record with
  | nil => rfl
  | cons entry rest ih =>
      by_cases hentry : entry.1 ∈ format.names
      · rw [List.filter_cons_of_pos (by simpa using hentry), List.foldl_cons, List.foldl_cons, ih]
      · rw [List.filter_cons_of_neg (by simpa using hentry), List.foldl_cons,
          taken_of_not_mem h hentry, ih]

/-- Documents that agree on the names of a format stand for the same record in it, or both for
none. -/
theorem agreeing_decode {d other : Document} (hd : d.Keyed) (hother : other.Keyed)
    (hagree : d.AgreeOn format.names other) :
    ReadAlike Eq (format.decode d) (format.decode other) := by
  refine .of_toOption ?_
  have hnamed := Document.perm_filter_of_agreeOn hd hother hagree
  calc (format.decode d).toOption
      = (d.fields.filter fun entry => format.names.contains entry.1).foldl format.taken
          (some format.blank) := by
        rw [decode, ofFields, toOption_foldlM, foldl_taken_filter h]
    _ = (other.fields.filter fun entry => format.names.contains entry.1).foldl format.taken
          (some format.blank) := by
        refine hnamed.foldl_eq' (fun x hx y hy record => ?_) _
        by_cases hne : x.1 = y.1
        · rw [Document.eq_of_key_eq hd (List.mem_filter.mp hx).1 (List.mem_filter.mp hy).1 hne]
        · exact taken_comm h hne record
    _ = (format.decode other).toOption := by
        rw [decode, ofFields, toOption_foldlM, ← foldl_taken_filter h]

end Independent

end RecordFormat

end ProviderRegistry
