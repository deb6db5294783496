/-
# `Proofs.Text` — trimmed texts, and the first of several that is not blank

Texts are trimmed and passed over when they are blank in every part of the
registry, so what is known of the two is kept here, apart from any record that
holds them.

## What is proved

    a text is the same trimmed exactly where it is `Trimmed`      (`trim_eq_iff`)
    trimming leaves it blank, or not blank                        (`isBlank_trim`)
    what is chosen past blank texts is not blank                  (`not_isBlank_orElse`)
    and it is chosen one after the other                          (`firstNonBlank_cons`)

Asking whether texts are blank before one is chosen or after it makes a
difference only where the first that is there is blank
(`orElse_eq_nonBlank_iff`).
-/
import ProviderRegistry.Text.Blank

namespace ProviderRegistry

namespace Text

/-! ## Trimming -/

/-- No white space stands at either end of a text. -/
structure Trimmed (s : String) : Prop where
  first : ∀ c ∈ s.toList.head?, isWhiteSpace c = false
  last : ∀ c ∈ s.toList.getLast?, isWhiteSpace c = false

theorem head?_dropWhile (cs : List Char) :
    ∀ c ∈ (cs.dropWhile isWhiteSpace).head?, isWhiteSpace c = false := by
  intro c hc
  have h := List.head?_dropWhile_not isWhiteSpace cs
  rw [hc] at h
  exact h

theorem trimRight_prefix (cs : List Char) : trimRight cs <+: cs := by
  have h := List.dropWhile_suffix (l := cs.reverse) isWhiteSpace
  simpa [trimRight] using List.reverse_prefix.mpr h

theorem trimmed_trim (s : String) : Trimmed (trim s) := by
  constructor
  · -- what is taken off the end leaves the first character in its place
    intro c hc
    obtain ⟨tail, htail⟩ := trimRight_prefix (s.toList.dropWhile isWhiteSpace)
    refine head?_dropWhile s.toList c ?_
    have hc' : c ∈ (trimRight (s.toList.dropWhile isWhiteSpace)).head? := by
      simpa [trim, trimChars] using hc
    rw [← htail, List.head?_append, hc']
    rfl
  · intro c hc
    refine head?_dropWhile (s.toList.dropWhile isWhiteSpace).reverse c ?_
    simpa [trim, trimChars, trimRight] using hc

theorem dropWhile_of_head? {cs : List Char} (h : ∀ c ∈ cs.head?, isWhiteSpace c = false) :
    cs.dropWhile isWhiteSpace = cs := by
  cases cs with
  | nil => rfl
  | cons c rest => exact List.dropWhile_cons_of_neg (by simp [h c rfl])

/-- There is nothing to trim off a text that has been trimmed. -/
theorem trim_of_trimmed {s : String} (h : Trimmed s) : trim s = s := by
  have hright : trimRight s.toList = s.toList := by
    unfold trimRight
    rw [dropWhile_of_head? (by rw [List.head?_reverse]; exact h.last), List.reverse_reverse]
  rw [trim, trimChars, dropWhile_of_head? h.first, hright, String.ofList_toList]

theorem all_dropWhile (cs : List Char) :
    (cs.dropWhile isWhiteSpace).all isWhiteSpace = cs.all isWhiteSpace := by
  induction cs with
  | nil => rfl
  | cons c rest ih =>
      cases hc : isWhiteSpace c with
      | true => rw [List.dropWhile_cons_of_pos hc, ih, List.all_cons, hc, Bool.true_and]
      | false => rw [List.dropWhile_cons_of_neg (by simp [hc])]

/-- Trimming leaves a text blank, or not blank. -/
theorem isBlank_trim (s : String) : isBlank (trim s) = isBlank s := by
  have hright : ∀ cs : List Char, (trimRight cs).all isWhiteSpace = cs.all isWhiteSpace := by
    intro cs
    rw [trimRight, List.all_reverse, all_dropWhile, List.all_reverse]
  rw [isBlank, trim, String.toList_ofList, trimChars, hright, all_dropWhile, isBlank]

/-- A text is the same trimmed exactly where it has no white space at its ends. -/
theorem trim_eq_iff {s : String} : trim s = s ↔ Trimmed s :=
  ⟨fun h => h ▸ trimmed_trim s, trim_of_trimmed⟩

/-! ## Blank texts -/

/-- Of two optional texts the first that is there is not blank where neither is. -/
theorem not_isBlank_orElse {s t : Option String} (hs : ∀ x, s = some x → isBlank x = false)
    (ht : ∀ x, t = some x → isBlank x = false) (x : String) (h : (s <|> t) = some x) :
    isBlank x = false := by
  cases s with
  | some y => exact hs x h
  | none => exact ht x h

theorem not_isBlank_getD {s : Option String} {t : String} (hs : ∀ x, s = some x → isBlank x = false)
    (ht : isBlank t = false) : isBlank (s.getD t) = false := by
  cases s with
  | some x => exact hs x rfl
  | none => exact ht

theorem nonBlank_not_isBlank (s : Option String) :
    ∀ x, nonBlank s = some x → isBlank x = false := by
  intro x h
  simpa using (Option.filter_eq_some_iff.mp h).2

theorem nonBlank_of_not_isBlank {s : Option String}
    (h : ∀ t, s = some t → isBlank t = false) : nonBlank s = s := by
  cases s with
  | none => rfl
  | some t => exact Option.filter_eq_some_iff.mpr ⟨rfl, by simp [h t rfl]⟩

theorem nonBlank_some {x : String} (h : isBlank x = false) : nonBlank (some x) = some x :=
  nonBlank_of_not_isBlank fun _ ht => Option.some.inj ht ▸ h

theorem nonBlank_nonBlank (s : Option String) : nonBlank (nonBlank s) = nonBlank s :=
  nonBlank_of_not_isBlank (nonBlank_not_isBlank s)

theorem nonBlank_of_isBlank {x : String} (h : isBlank x = true) : nonBlank (some x) = none := by
  simp [nonBlank, Option.filter, h]

theorem nonBlank_bind {α : Type} (a : Option α) (text : α → Option String) :
    nonBlank (a.bind text) = a.bind fun x => nonBlank (text x) := by
  cases a <;> rfl

/-- A blank text that is chosen hides what stands behind it. -/
theorem nonBlank_orElse_of_isBlank {x : String} (h : isBlank x = true) (t : Option String) :
    nonBlank (some x <|> t) = none :=
  nonBlank_of_isBlank h

/-- Where the first text is not blank, it does not matter when that is asked. -/
theorem nonBlank_orElse {s : Option String} (h : ∀ x, s = some x → isBlank x = false)
    (t : Option String) : nonBlank (s <|> t) = (nonBlank s).or (nonBlank t) := by
  rw [nonBlank_of_not_isBlank h]
  cases s with
  | none => rfl
  | some x => exact nonBlank_some (h x rfl)

/-- Passing over blank texts makes no difference where the first text that is there is not blank. -/
theorem orElse_eq_nonBlank_iff {s t : Option String} :
    (s <|> t) = (nonBlank s <|> nonBlank t) ↔ ∀ x, (s <|> t) = some x → isBlank x = false := by
  constructor
  · intro heq x hx
    rw [heq] at hx
    exact not_isBlank_orElse (nonBlank_not_isBlank s) (nonBlank_not_isBlank t) x hx
  · intro h
    cases s with
    | none => exact (nonBlank_of_not_isBlank h).symm
    | some x =>
        rw [nonBlank_some (h x rfl)]
        rfl

/-! ## The first that is not blank -/

/-- The first of several texts that is there and not blank. -/
def firstNonBlank (texts : List (Option String)) : Option String :=
  (texts.filterMap id).find? fun t => !isBlank t

theorem firstNonBlank_cons (text : Option String) (rest : List (Option String)) :
    firstNonBlank (text :: rest) = (nonBlank text).or (firstNonBlank rest) := by
  cases text with
  | none => rfl
  | some t =>
      show (t :: rest.filterMap id).find? _ = _
      rw [List.find?_cons]
      cases hblank : isBlank t with
      | true => simp [nonBlank, Option.filter, hblank, firstNonBlank]
      | false => simp [nonBlank, Option.filter, hblank]

theorem firstNonBlank_one (text : Option String) : firstNonBlank [text] = nonBlank text := by
  rw [firstNonBlank_cons]
  exact Option.or_none

theorem firstNonBlank_two (first second : Option String) :
    firstNonBlank [first, second] = (nonBlank first <|> nonBlank second) := by
  rw [firstNonBlank_cons, firstNonBlank_one]
  cases nonBlank first <;> rfl

end Text

end ProviderRegistry
