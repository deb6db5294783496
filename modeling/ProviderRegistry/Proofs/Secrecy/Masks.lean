/-
# `Proofs.Secrecy.Masks` — how much of a key its mask shows

A mask shows the first four and the last four characters of a key, or nothing of
a key that has fewer than eight.  The two pieces never overlap, and what stands
between them is hidden:

    key     head ++ middle ++ tail
    mask    head ++ "..." ++ tail

The middle has as many characters as the key has beyond eight.  So one length
is the exception to what a mask is for: a key of eight characters has no middle,
and its mask shows all of it, with three points that stand for nothing.

That a character is hidden means that it could be another.  Wherever a key is
shown, it is shown by its mask (`ByMask`), so a key can be exchanged for another
of its mask and nothing that is shown changes (`ShownAlike`).

## What is proved

Of every key that is not empty: the mask shows fewer characters than the key has,
and some other key of the same length is shown alike everywhere, both exactly
where the length is not eight (`hidden_iff_length_ne_eight`).
-/
import ProviderRegistry.Execution.Settings
import ProviderRegistry.Proofs.Secrecy.Keys

namespace ProviderRegistry

/-- What shows a key by its mask alone shows two keys of one mask alike. -/
theorem ByMask.withKey_eq {α β : Type} [HoldsKey α] {render : α → β} (h : ByMask render)
    {key other : String} (hmask : ApiKey.mask key = ApiKey.mask other) (a : α) :
    render (HoldsKey.withKey (some key) a) = render (HoldsKey.withKey (some other) a) := by
  have hsame : (HoldsKey.key (HoldsKey.withKey (some key) a)).map ApiKey.mask
      = (some other).map ApiKey.mask := by
    rw [HoldsKey.key_withKey]
    exact congrArg some hmask
  rw [h _ _ hsame, HoldsKey.withKey_withKey]

namespace ApiKey

/-! ## The pieces of a key -/

/-- The pieces of a key that its mask shows: the head and the tail around the points, or nothing of a
key that is all stars. -/
inductive Shows (key : String) : List Char → List Char → Prop
  | nothing : mask key = "****" → Shows key [] []
  | ends {head middle tail : List Char} : key.toList = head ++ middle ++ tail →
      (mask key).toList = head ++ "...".toList ++ tail → Shows key head tail

theorem maskChars_of_lt {cs : List Char} (h : cs.length < 8) : maskChars cs = "****".toList :=
  if_pos h

theorem maskChars_of_le {cs : List Char} (h : 8 ≤ cs.length) :
    maskChars cs = cs.take 4 ++ "...".toList ++ cs.drop (cs.length - 4) :=
  if_neg (Nat.not_lt.mpr h)

/-- A key of eight characters or more is cut into a head, a middle and a tail. -/
theorem exists_cut {cs : List Char} (h : 8 ≤ cs.length) :
    ∃ head middle tail, cs = head ++ middle ++ tail ∧ head.length = 4 ∧ tail.length = 4 := by
  refine ⟨cs.take 4, (cs.drop 4).take (cs.length - 8), cs.drop (cs.length - 4), ?_, ?_, ?_⟩
  · have hrest : cs.drop (cs.length - 4) = (cs.drop 4).drop (cs.length - 8) := by
      rw [List.drop_drop]
      congr 1
      omega
    rw [hrest, List.append_assoc, List.take_append_drop, List.take_append_drop]
  · rw [List.length_take]
    omega
  · rw [List.length_drop]
    omega

/-- The mask of a key is put together from its head and its tail. -/
theorem maskChars_cut {head middle tail : List Char} (hhead : head.length = 4)
    (htail : tail.length = 4) :
    maskChars (head ++ middle ++ tail) = head ++ "...".toList ++ tail := by
  have hlength : (head ++ middle ++ tail).length = middle.length + 8 := by
    simp only [List.length_append]
    omega
  have hfirst : (head ++ middle ++ tail).take 4 = head := by
    rw [List.append_assoc, List.take_left' hhead]
  have hlast : (head ++ middle ++ tail).drop ((head ++ middle ++ tail).length - 4) = tail :=
    List.drop_left' (by simp only [List.length_append]; omega)
  rw [maskChars_of_le (by omega), hfirst, hlast]

theorem toList_mask (key : String) : (mask key).toList = maskChars key.toList :=
  String.toList_ofList

theorem mask_eq_iff {key other : String} :
    mask key = mask other ↔ maskChars key.toList = maskChars other.toList := by
  rw [← toList_mask, ← toList_mask, String.toList_inj]

theorem exists_shows (key : String) : ∃ head tail, Shows key head tail := by
  rcases Nat.lt_or_ge key.toList.length 8 with hshort | hlong
  · exact ⟨[], [], .nothing (congrArg String.ofList (maskChars_of_lt hshort))⟩
  · obtain ⟨head, middle, tail, hkey, hhead, htail⟩ := exists_cut hlong
    refine ⟨head, tail, .ends hkey ?_⟩
    rw [toList_mask, hkey, maskChars_cut hhead htail]

/-- However a mask is read, it shows eight characters, or none of a key that has fewer. -/
theorem Shows.count {key : String} {head tail : List Char} (h : Shows key head tail) :
    head.length + tail.length = if key.length < 8 then 0 else 8 := by
  rw [← String.length_toList]
  cases h with
  | nothing hmask =>
      have hchars := toList_mask key
      rw [hmask] at hchars
      split
      · rfl
      · rename_i hlong
        have hlength := congrArg List.length (hchars.trans (maskChars_of_le (Nat.not_lt.mp hlong)))
        simp at hlength
        omega
  | @ends _ middle _ hkey hmask =>
      rw [toList_mask] at hmask
      split
      · rename_i hshort
        -- there is no point among the stars
        have hpoint : '.' ∈ maskChars key.toList := by rw [hmask]; simp
        rw [maskChars_of_lt hshort] at hpoint
        exact absurd hpoint (by decide)
      · rename_i hlong
        have hlength := congrArg List.length
          (hmask.symm.trans (maskChars_of_le (Nat.not_lt.mp hlong)))
        simp at hlength
        omega

/-! ## Another key of the same mask -/

/-- Some character other than the given one. -/
def otherChar (c : Char) : Char := if c = 'x' then 'y' else 'x'

theorem otherChar_ne (c : Char) : otherChar c ≠ c := by
  unfold otherChar
  split
  · rename_i hc
    rw [hc]
    decide
  · rename_i hc
    exact Ne.symm hc

theorem map_otherChar_ne {cs : List Char} (h : cs ≠ []) : cs.map otherChar ≠ cs := by
  cases cs with
  | nil => exact absurd rfl h
  | cons c rest => exact fun heq => otherChar_ne c (List.cons.inj heq).1

/-- What a key hides can be exchanged, unless it hides nothing. -/
theorem exists_same_mask {key : String} (hkey : key ≠ "") (h : key.length ≠ 8) :
    ∃ other, other ≠ key ∧ other.length = key.length ∧ mask other = mask key := by
  rw [← String.length_toList] at h
  have hother : ∀ cs : List Char, cs ≠ key.toList → cs.length = key.toList.length →
      maskChars cs = maskChars key.toList →
      ∃ other, other ≠ key ∧ other.length = key.length ∧ mask other = mask key := by
    intro cs hne hlength hmask
    refine ⟨String.ofList cs, fun heq => hne ?_, ?_, ?_⟩
    · rw [← heq, String.toList_ofList]
    · rw [← String.length_toList, String.toList_ofList, hlength, String.length_toList]
    · rw [mask_eq_iff, String.toList_ofList, hmask]
  rcases Nat.lt_or_ge key.toList.length 8 with hshort | hlong
  · have hchars : key.toList ≠ [] := by simpa using hkey
    refine hother (key.toList.map otherChar) (map_otherChar_ne hchars) (List.length_map _) ?_
    rw [maskChars_of_lt hshort, maskChars_of_lt (by rwa [List.length_map])]
  · obtain ⟨head, middle, tail, hcut, hhead, htail⟩ := exists_cut hlong
    have hmiddle : middle ≠ [] := by
      rintro rfl
      rw [hcut] at h
      simp only [List.append_nil, List.length_append] at h
      omega
    refine hother (head ++ middle.map otherChar ++ tail) (fun heq => ?_) ?_ ?_
    · rw [hcut] at heq
      exact map_otherChar_ne hmiddle (List.append_cancel_left (List.append_cancel_right heq))
    · rw [hcut]
      simp
    · rw [hcut, maskChars_cut hhead htail, maskChars_cut hhead htail]

/-- A key of eight characters is told by its mask. -/
theorem eq_of_mask_eq {key other : String} (hkey : key.length = 8) (hother : other.length = 8)
    (h : mask other = mask key) : other = key := by
  rw [← String.length_toList] at hkey hother
  rw [mask_eq_iff, maskChars_of_le (Nat.le_of_eq hother.symm),
    maskChars_of_le (Nat.le_of_eq hkey.symm), hkey, hother] at h
  obtain ⟨hhead, htail⟩ := List.append_inj h (by simp [hkey, hother])
  obtain ⟨hhead, -⟩ := List.append_inj hhead (by simp [hkey, hother])
  rw [← String.toList_inj, ← List.take_append_drop 4 other.toList, hhead, htail,
    List.take_append_drop]

/-! ## What is shown of the records that hold a key -/

/-- Two keys that no view, no text on inspection, no JSON and no report tells apart. -/
structure ShownAlike (key other : String) : Prop where
  view (now : Moment) (r : ProviderRecord) :
    ConfigView.ofRecord now { r with apiKey := some key }
      = ConfigView.ofRecord now { r with apiKey := some other }
  config (c : LlmConfig) :
    LlmConfig.inspect { c with apiKey := some key } = LlmConfig.inspect { c with apiKey := some other }
  request (r : ExecutionRequest) :
    ExecutionRequest.inspect { r with apiKey := some key }
      = ExecutionRequest.inspect { r with apiKey := some other }
  edit (e : ConfigEdit) :
    ConfigEdit.inspect { e with apiKey := some key }
      = ConfigEdit.inspect { e with apiKey := some other }
  record (r : ProviderRecord) :
    ProviderRecord.inspect { r with apiKey := some key }
      = ProviderRecord.inspect { r with apiKey := some other }
  entry (e : ConfigEntry) :
    ConfigEntry.inspect { e with apiKey := some key }
      = ConfigEntry.inspect { e with apiKey := some other }
  legacy (c : LegacyConfig) :
    LegacyConfig.inspect { c with apiKey := some key }
      = LegacyConfig.inspect { c with apiKey := some other }
  simplified (r : SimplifiedConfig) :
    SimplifiedConfig.inspect { r with apiKey := some key }
      = SimplifiedConfig.inspect { r with apiKey := some other }
  settings (before after : List (String × Json)) (name : String) :
    Text.endsIn name "api_key" = true →
      Settings.inspect ⟨before ++ (name, .string key) :: after⟩
        = Settings.inspect ⟨before ++ (name, .string other) :: after⟩
  json (c : LlmConfig) :
    LlmConfig.toJson { c with apiKey := some key } = LlmConfig.toJson { c with apiKey := some other }
  row (c : LlmConfig) :
    CommandLine.Report.configRow { c with apiKey := some key }
      = CommandLine.Report.configRow { c with apiKey := some other }
  report (format : CommandLine.Format) (quiet : Bool) (c : LlmConfig) :
    (CommandLine.Report.config { c with apiKey := some key }).print format quiet
      = (CommandLine.Report.config { c with apiKey := some other }).print format quiet

/-- Keys are shown alike exactly where they have one mask. -/
theorem shownAlike_iff {key other : String} : ShownAlike key other ↔ mask key = mask other := by
  constructor
  · intro h
    have hview := congrArg ConfigView.apiKey (h.view ⟨⟨0⟩, ""⟩ ProviderRecord.blank)
    exact Option.some.inj hview
  · intro h
    exact {
      view now := (ConfigView.byMask_ofRecord now).withKey_eq h
      config := LlmConfig.byMask_inspect.withKey_eq h
      request := ExecutionRequest.byMask_inspect.withKey_eq h
      edit := ConfigEdit.byMask_inspect.withKey_eq h
      record := ProviderRecord.byMask_inspect.withKey_eq h
      entry := ConfigEntry.byMask_inspect.withKey_eq h
      legacy := LegacyConfig.byMask_inspect.withKey_eq h
      simplified := SimplifiedConfig.byMask_inspect.withKey_eq h
      settings before after name hname := by
        simp only [Settings.inspect, List.map_append, List.map_cons, Settings.inspectEntry, hname,
          if_true, h]
      json := LlmConfig.byMask_toJson.withKey_eq h
      row := CommandLine.Report.byMask_configRow.withKey_eq h
      report format quiet := (CommandLine.Report.byMask_print_config format quiet).withKey_eq h }

/-- Of a key that is not empty, fewer characters are shown than it has exactly where it has not eight
characters; and exactly then some other key of its length is shown alike wherever a key is shown. -/
theorem hidden_iff_length_ne_eight {key : String} (hkey : key ≠ "") :
    (∃ head tail, Shows key head tail) ∧
    (∀ head tail, Shows key head tail →
      (head.length + tail.length < key.length ↔ key.length ≠ 8)) ∧
    ((∃ other, other ≠ key ∧ other.length = key.length ∧ ShownAlike key other)
      ↔ key.length ≠ 8) := by
  refine ⟨exists_shows key, ?count, ?alike⟩
  case count =>
    intro head tail h
    have hcount := h.count
    have hpositive : key.length ≠ 0 := by simpa using hkey
    split at hcount <;> omega
  case alike =>
    constructor
    · rintro ⟨other, hne, hlength, halike⟩ height
      exact hne (eq_of_mask_eq height (hlength.trans height) (shownAlike_iff.mp halike).symm)
    · intro h
      obtain ⟨other, hne, hlength, hmask⟩ := exists_same_mask hkey h
      exact ⟨other, hne, hlength, shownAlike_iff.mpr hmask.symm⟩

/-- A key of nine characters hides one of them, and so some other key is shown as it is. -/
theorem hidden_of_nine :
    "sk-123456" ≠ "" ∧ Shows "sk-123456" "sk-1".toList "3456".toList ∧
    "sk-1".toList.length + "3456".toList.length < "sk-123456".length ∧
    ∃ other, other ≠ "sk-123456" ∧ other.length = "sk-123456".length ∧
      ShownAlike "sk-123456" other := by
  have hkey : "sk-123456" ≠ "" := by decide
  have hlength : "sk-123456".length ≠ 8 := by decide
  have hshows : Shows "sk-123456" "sk-1".toList "3456".toList := @Shows.ends _ _ ['2'] _ rfl rfl
  obtain ⟨-, hcount, halike⟩ := hidden_iff_length_ne_eight hkey
  exact ⟨hkey, hshows, (hcount _ _ hshows).mpr hlength, halike.mpr hlength⟩

/-- A key of eight characters is shown by all of them. -/
theorem nothing_hidden_of_eight :
    "sk-12345" ≠ "" ∧ mask "sk-12345" = "sk-1...2345" ∧
    Shows "sk-12345" "sk-1".toList "2345".toList ∧
    ¬ "sk-1".toList.length + "2345".toList.length < "sk-12345".length :=
  ⟨by decide, by decide, @Shows.ends _ _ [] _ rfl rfl, by decide⟩

end ApiKey

end ProviderRegistry
