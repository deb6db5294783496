/-
# `Proofs.Text.Percent` — an encoded text has no delimiters, and is read back

Percent encoding goes by the bytes of a text's UTF-8 form, while a text is a list
of characters.  The two meet at the unreserved characters only: each of them is
one byte, and no byte of another character is unreserved by itself.  So the
encoded form can be told byte by byte, whatever characters the bytes belong to,
and it is read back byte by byte:

    written b  =  the character of b                 where that is unreserved
                  `%` and the two digits of b        otherwise

## What is proved

    (encode s).toList  =  (octets s).flatMap written         (`encode_eq`)
    what stands in an encoded text is unreserved or `%`      (`unreserved_of_mem_encode`)
    decodeBytes (written b ++ rest)  =  b :: decodeBytes rest
                                                             (`decodeBytes_written`)
    decode? (encode s)  =  some s                            (`decode?_encode`)
-/
import Mathlib.Data.List.Basic
import ProviderRegistry.Text.Percent

namespace ProviderRegistry

namespace Text

namespace Percent

/-! ## Hexadecimal digits -/

theorem hexValue?_hexDigit : ∀ n < 16, hexValue? (hexDigit n) = some n := by
  decide

theorem isUnreserved_hexDigit : ∀ n < 16, isUnreserved (hexDigit n) = true := by
  decide

theorem toNat_div_sixteen_lt (b : UInt8) : b.toNat / 16 < 16 := by
  have hb := b.toNat_lt
  omega

/-! ## Unreserved characters are single bytes -/

theorem lt_of_isAlphanum {c : Char} (h : c.isAlphanum = true) : c.toNat < 128 := by
  have hbelow : ∀ last : Char, last.toNat < 128 → c.val ≤ last.val → c.toNat < 128 := by
    intro last hlast hle
    exact Nat.lt_of_le_of_lt (UInt32.le_iff_toNat_le.mp hle) hlast
  rcases Bool.or_eq_true_iff.mp h with hletter | hdigit
  · rcases Bool.or_eq_true_iff.mp hletter with hupper | hlower
    · exact hbelow 'Z' (by decide) (of_decide_eq_true hupper).2
    · exact hbelow 'z' (by decide) (of_decide_eq_true (Bool.and_eq_true_iff.mp hlower).2)
  · exact hbelow '9' (by decide) (of_decide_eq_true (Bool.and_eq_true_iff.mp hdigit).2)

theorem lt_of_isUnreserved {c : Char} (h : isUnreserved c = true) : c.toNat < 128 := by
  simp only [isUnreserved, Bool.or_eq_true, beq_iff_eq] at h
  rcases h with (((h | rfl) | rfl) | rfl) | rfl
  · exact lt_of_isAlphanum h
  all_goals decide

theorem utf8EncodeChar_of_lt {c : Char} (h : c.toNat < 128) :
    String.utf8EncodeChar c = [UInt8.ofNat c.toNat] := by
  have hone : c.val.toNat ≤ 127 := Nat.le_of_lt_succ h
  rw [String.utf8EncodeChar, if_pos hone]
  rfl

/-- A byte that begins or goes on with a character of several has a mark of its own. -/
theorem le_marked (n : Nat) {m k : Nat} (hm : 0 < m) (hk : 128 ≤ k) (hmk : m + k ≤ 256) :
    128 ≤ (UInt8.ofNat (n % m + k)).toNat := by
  have hmod := Nat.mod_lt n hm
  rw [UInt8.toNat_ofNat', Nat.mod_eq_of_lt (by omega)]
  omega

theorem le_of_mem_utf8EncodeChar {c : Char} (h : 128 ≤ c.toNat) :
    ∀ b ∈ String.utf8EncodeChar c, 128 ≤ b.toNat := by
  have hmany : ¬ c.val.toNat ≤ 127 := Nat.not_le.mpr h
  intro b hb
  simp only [String.utf8EncodeChar, hmany, if_false] at hb
  split at hb
  · simp only [List.mem_cons, List.not_mem_nil, or_false] at hb
    rcases hb with rfl | rfl <;> exact le_marked _ (by decide) (by decide) (by decide)
  · split at hb
    · simp only [List.mem_cons, List.not_mem_nil, or_false] at hb
      rcases hb with rfl | rfl | rfl <;> exact le_marked _ (by decide) (by decide) (by decide)
    · simp only [List.mem_cons, List.not_mem_nil, or_false] at hb
      rcases hb with rfl | rfl | rfl | rfl <;>
        exact le_marked _ (by decide) (by decide) (by decide)

theorem toNat_ofNat_toNat (b : UInt8) : (Char.ofNat b.toNat).toNat = b.toNat := by
  have hb := b.toNat_lt
  have hvalid : b.toNat.isValidChar := .inl (by omega)
  rw [Char.ofNat, dif_pos hvalid]
  rfl

/-! ## Encoding, byte by byte -/

/-- One byte as it is written: as the character that it is, where that is unreserved. -/
def written (b : UInt8) : List Char :=
  if isUnreserved (Char.ofNat b.toNat) then [Char.ofNat b.toNat] else encodeByte b

/-- The bytes of a text's UTF-8 form. -/
def octets (s : String) : List UInt8 := s.toList.flatMap String.utf8EncodeChar

theorem written_of_le {b : UInt8} (h : 128 ≤ b.toNat) : written b = encodeByte b := by
  refine if_neg fun hb => ?_
  have hlt := lt_of_isUnreserved hb
  rw [toNat_ofNat_toNat] at hlt
  exact absurd hlt (Nat.not_lt.mpr h)

theorem written_of_lt {c : Char} (h : c.toNat < 128) :
    written (UInt8.ofNat c.toNat)
      = if isUnreserved c then [c] else encodeByte (UInt8.ofNat c.toNat) := by
  have hc : Char.ofNat (UInt8.ofNat c.toNat).toNat = c := by
    rw [UInt8.toNat_ofNat', Nat.mod_eq_of_lt (by omega), Char.ofNat_toNat]
  rw [written, hc]

theorem encodeChar_eq (c : Char) : encodeChar c = (String.utf8EncodeChar c).flatMap written := by
  by_cases hascii : c.toNat < 128
  · rw [encodeChar, utf8EncodeChar_of_lt hascii, List.flatMap_singleton, List.flatMap_singleton,
      written_of_lt hascii]
  · have hreserved : ¬ isUnreserved c = true := fun hc => hascii (lt_of_isUnreserved hc)
    rw [encodeChar, if_neg hreserved]
    refine List.flatMap_congr fun b hb => ?_
    exact (written_of_le (le_of_mem_utf8EncodeChar (Nat.not_lt.mp hascii) b hb)).symm

/-- A text is encoded byte by byte. -/
theorem encode_eq (s : String) : (encode s).toList = (octets s).flatMap written := by
  rw [encode, String.toList_ofList, octets, List.flatMap_assoc]
  exact List.flatMap_congr fun c _ => encodeChar_eq c

theorem unreserved_of_mem_written {b : UInt8} {c : Char} (h : c ∈ written b) :
    isUnreserved c = true ∨ c = '%' := by
  unfold written at h
  split at h
  · rename_i hplain
    exact .inl (List.mem_singleton.mp h ▸ hplain)
  · simp only [encodeByte, List.mem_cons, List.not_mem_nil, or_false] at h
    rcases h with rfl | rfl | rfl
    · exact .inr rfl
    · exact .inl (isUnreserved_hexDigit _ (toNat_div_sixteen_lt b))
    · exact .inl (isUnreserved_hexDigit _ (Nat.mod_lt _ (by decide)))

/-- Only unreserved characters and `%` stand in an encoded text. -/
theorem unreserved_of_mem_encode {s : String} {c : Char} (h : c ∈ (encode s).toList) :
    isUnreserved c = true ∨ c = '%' := by
  rw [encode_eq] at h
  obtain ⟨b, -, hb⟩ := List.mem_flatMap.mp h
  exact unreserved_of_mem_written hb

/-- So a reserved character other than `%` delimits encoded texts. -/
theorem not_mem_encode {c : Char} (hreserved : isUnreserved c = false) (hc : c ≠ '%')
    (s : String) : c ∉ (encode s).toList := by
  intro hmem
  rcases unreserved_of_mem_encode hmem with h | h
  · rw [hreserved] at h
    exact nomatch h
  · exact hc h

/-! ## Decoding, byte by byte -/

theorem decodeBytes_cons {c : Char} (h : c ≠ '%') (rest : List Char) :
    decodeBytes (c :: rest) = String.utf8EncodeChar c ++ decodeBytes rest := by
  rw [decodeBytes]
  intro _ _ _ hc
  exact absurd hc h

theorem decodeBytes_encodeByte (b : UInt8) (rest : List Char) :
    decodeBytes (encodeByte b ++ rest) = b :: decodeBytes rest := by
  have hhigh := hexValue?_hexDigit _ (toNat_div_sixteen_lt b)
  have hlow := hexValue?_hexDigit (b.toNat % 16) (Nat.mod_lt _ (by decide))
  show decodeBytes ('%' :: hexDigit (b.toNat / 16) :: hexDigit (b.toNat % 16) :: rest) = _
  rw [decodeBytes, hhigh, hlow]
  simp only [Nat.div_add_mod, UInt8.ofNat_toNat]

theorem decodeBytes_written (b : UInt8) (rest : List Char) :
    decodeBytes (written b ++ rest) = b :: decodeBytes rest := by
  unfold written
  split
  · rename_i hplain
    have hne : Char.ofNat b.toNat ≠ '%' := by
      intro heq
      rw [heq] at hplain
      exact absurd hplain (by decide)
    rw [List.singleton_append, decodeBytes_cons hne,
      utf8EncodeChar_of_lt (lt_of_isUnreserved hplain), toNat_ofNat_toNat, UInt8.ofNat_toNat,
      List.singleton_append]
  · exact decodeBytes_encodeByte b rest

theorem decodeBytes_flatMap_written (bs : List UInt8) : decodeBytes (bs.flatMap written) = bs := by
  induction bs with
  | nil => rfl
  | cons b rest ih => rw [List.flatMap_cons, decodeBytes_written, ih]

theorem fromUTF8?_octets (s : String) : String.fromUTF8? ⟨(octets s).toArray⟩ = some s := by
  have hbytes : (⟨(octets s).toArray⟩ : ByteArray) = s.toByteArray := by
    rw [← String.utf8Encode_toList]
    exact ByteArray.ext List.data_toByteArray.symm
  rw [hbytes, String.fromUTF8?, dif_pos s.isValidUTF8]
  rfl

/-- What has been encoded is read back. -/
theorem decode?_encode (s : String) : decode? (encode s) = some s := by
  rw [decode?, encode_eq, decodeBytes_flatMap_written, fromUTF8?_octets]

example : encode "p@:ß" = "p%40%3A%C3%9F" ∧ decode? "p%40%3A%C3%9F" = some "p@:ß" := by
  decide +kernel

end Percent

end Text

end ProviderRegistry
