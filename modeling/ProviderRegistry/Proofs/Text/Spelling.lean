/-
# `Proofs.Text.Spelling` — a name in another case, with white space around it

Names are compared without the white space at their ends, and with the letters
of ASCII in lower case.  What that comes to is said here of texts as they are
written: `Spells query name` where the query holds the characters of the name
one by one, each as it stands or, if it is a letter of ASCII, in the other case
(`CharCase`), between two texts of white space.  A letter beyond ASCII has one
form: `ä` is no other case of `Ä`.

## What is proved

    the other case of a letter is no white space         (`isWhiteSpace_toLower`)
    so a name is trimmed in every case, or in none       (`trimmed_asciiLower_iff`)
    and what is cut off a spelling of a trimmed name is what stands around it
                                                         (`asciiLower_trim_of_spells`)
-/
import Mathlib.Data.List.Forall2
import ProviderRegistry.Proofs.Text

namespace ProviderRegistry

namespace Text

/-! ## The case of a character -/

/-- A character and a form of it: itself, or the other case of a letter of ASCII. -/
inductive CharCase : Char → Char → Prop
  | same (c : Char) : CharCase c c
  | lower {c : Char} : c.isUpper = true → CharCase c c.toLower
  | upper {c : Char} : c.isUpper = true → CharCase c.toLower c

theorem isUpper_iff_val {c : Char} : c.isUpper = true ↔ c.val ≥ 'A'.val ∧ c.val ≤ 'Z'.val :=
  decide_eq_true_iff

theorem isUpper_iff {c : Char} : c.isUpper = true ↔ 65 ≤ c.toNat ∧ c.toNat ≤ 90 := by
  rw [isUpper_iff_val, ge_iff_le, UInt32.le_iff_toNat_le, UInt32.le_iff_toNat_le]
  rfl

theorem toNat_toLower {c : Char} (h : c.isUpper = true) : c.toLower.toNat = c.toNat + 32 := by
  have hrange := isUpper_iff.mp h
  have hdistance : ('a'.val - 'A'.val).toNat = 32 := by decide
  unfold Char.toLower
  rw [dif_pos (isUpper_iff_val.mp h)]
  show (c.val + ('a'.val - 'A'.val)).toNat = c.val.toNat + 32
  rw [UInt32.toNat_add, hdistance]
  have hval : c.val.toNat = c.toNat := rfl
  omega

theorem toLower_of_not_isUpper {c : Char} (h : c.isUpper = false) : c.toLower = c := by
  have hletter : ¬ (c.val ≥ 'A'.val ∧ c.val ≤ 'Z'.val) := by
    rw [← isUpper_iff_val, h]
    exact Bool.false_ne_true
  exact dif_neg hletter

theorem toLower_toLower (c : Char) : c.toLower.toLower = c.toLower := by
  refine toLower_of_not_isUpper ?_
  cases hc : c.isUpper with
  | false => rwa [toLower_of_not_isUpper hc]
  | true =>
      have hrange := isUpper_iff.mp hc
      have hlower := toNat_toLower hc
      refine Bool.eq_false_iff.mpr fun hupper => ?_
      have := isUpper_iff.mp hupper
      omega

/-- Characters are forms of one another exactly where they are the same in lower case. -/
theorem charCase_iff {c d : Char} : CharCase c d ↔ c.toLower = d.toLower := by
  constructor
  · intro h
    cases h with
    | same => rfl
    | lower _ => exact (toLower_toLower c).symm
    | upper _ => exact toLower_toLower d
  · intro h
    cases hc : c.isUpper with
    | false =>
        rw [toLower_of_not_isUpper hc] at h
        cases hd : d.isUpper with
        | false =>
            rw [h, toLower_of_not_isUpper hd]
            exact .same d
        | true => exact h ▸ .upper hd
    | true =>
        cases hd : d.isUpper with
        | false =>
            rw [toLower_of_not_isUpper hd] at h
            exact h ▸ .lower hc
        | true =>
            -- two capitals with one small letter are one
            have hnat := congrArg Char.toNat h
            rw [toNat_toLower hc, toNat_toLower hd] at hnat
            obtain rfl : c = d := Char.toNat_inj.mp (by omega)
            exact .same c

theorem isWhiteSpace_toLower (c : Char) : isWhiteSpace c.toLower = isWhiteSpace c := by
  cases hc : c.isUpper with
  | false => rw [toLower_of_not_isUpper hc]
  | true =>
      have hrange := isUpper_iff.mp hc
      simp only [isWhiteSpace, toNat_toLower hc]
      grind

/-! ## The case of a text -/

/-- Texts that are the same but for the case of letters of ASCII. -/
def SameButCase (s t : String) : Prop := List.Forall₂ CharCase s.toList t.toList

theorem sameButCase_iff {s t : String} : SameButCase s t ↔ asciiLower s = asciiLower t := by
  have hmap : ∀ cs ds : List Char,
      List.Forall₂ CharCase cs ds ↔ cs.map Char.toLower = ds.map Char.toLower := by
    intro cs ds
    rw [← List.forall₂_eq_eq_eq, List.forall₂_map_left_iff, List.forall₂_map_right_iff]
    exact ⟨.imp fun _ _ => charCase_iff.mp, .imp fun _ _ => charCase_iff.mpr⟩
  rw [SameButCase, hmap]
  exact ⟨congrArg String.ofList, fun h => by simpa [asciiLower] using congrArg String.toList h⟩

/-- A text has white space at its ends in lower case exactly where it has it as it stands. -/
theorem trimmed_asciiLower_iff {s : String} : Trimmed (asciiLower s) ↔ Trimmed s := by
  have hends : ∀ end? : Option Char, (∀ c ∈ end?.map Char.toLower, isWhiteSpace c = false)
      ↔ ∀ c ∈ end?, isWhiteSpace c = false := by
    intro end?
    cases end? with
    | none => simp
    | some c => simp [isWhiteSpace_toLower]
  have hfirst : (asciiLower s).toList.head? = s.toList.head?.map Char.toLower := by
    simp [asciiLower]
  have hlast : (asciiLower s).toList.getLast? = s.toList.getLast?.map Char.toLower := by
    simp [asciiLower]
  constructor
  · rintro ⟨h, h'⟩
    exact ⟨(hends _).mp (hfirst ▸ h), (hends _).mp (hlast ▸ h')⟩
  · rintro ⟨h, h'⟩
    exact ⟨hfirst ▸ (hends _).mpr h, hlast ▸ (hends _).mpr h'⟩

theorem SameButCase.trimmed {s t : String} (h : SameButCase s t) (ht : Trimmed t) : Trimmed s := by
  rw [← trimmed_asciiLower_iff, sameButCase_iff.mp h]
  exact trimmed_asciiLower_iff.mpr ht

/-! ## Spellings -/

/-- A text that holds a name in any case, between two texts of white space. -/
def Spells (query name : String) : Prop :=
  ∃ before word after, query = before ++ word ++ after ∧ isBlank before = true ∧
    isBlank after = true ∧ SameButCase word name

theorem dropWhile_of_all {cs : List Char} (h : cs.all isWhiteSpace = true) (rest : List Char) :
    (cs ++ rest).dropWhile isWhiteSpace = rest.dropWhile isWhiteSpace :=
  List.dropWhile_append_of_pos (List.all_eq_true.mp h)

/-- What is cut off around a text that has no white space at its ends is what stands there. -/
theorem trim_between {before word after : String} (hbefore : isBlank before = true)
    (hafter : isBlank after = true) (h : Trimmed word) : trim (before ++ word ++ after) = word := by
  have hright : trimRight (word.toList ++ after.toList) = word.toList := by
    rw [trimRight, List.reverse_append, dropWhile_of_all (by rwa [List.all_reverse]),
      dropWhile_of_head? (by rw [List.head?_reverse]; exact h.last), List.reverse_reverse]
  rw [trim, String.toList_append, String.toList_append, List.append_assoc, trimChars,
    dropWhile_of_all hbefore]
  cases hword : word.toList with
  | nil =>
      -- without a word there is white space alone
      have hblank : after.toList.dropWhile isWhiteSpace = [] := by
        rw [← List.append_nil after.toList, dropWhile_of_all hafter]
        rfl
      rw [List.nil_append, hblank, ← String.ofList_toList (s := word), hword]
      rfl
  | cons c rest =>
      have hfirst : isWhiteSpace c = false := h.first c (by rw [hword]; rfl)
      rw [hword] at hright
      rw [List.cons_append, List.dropWhile_cons_of_neg (by simp [hfirst]), ← List.cons_append,
        hright, ← hword, String.ofList_toList]

/-- All spellings of a trimmed name come to one form of it. -/
theorem asciiLower_trim_of_spells {query name : String} (h : Spells query name)
    (hname : Trimmed name) : asciiLower (trim query) = asciiLower name := by
  obtain ⟨before, word, after, rfl, hbefore, hafter, hcase⟩ := h
  rw [trim_between hbefore hafter (hcase.trimmed hname)]
  exact sameButCase_iff.mp hcase

end Text

end ProviderRegistry
