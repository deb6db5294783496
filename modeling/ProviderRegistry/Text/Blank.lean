/-
# `Text.Blank` — white space, trimming, and the rule that a blank text is an absent one

The characters of the Unicode property `White_Space`, the text left when they
are taken off both ends, and the reading of an optional text in which a text
of white space alone counts as no text.  The functions work on lists of
characters and are wrapped for `String`, so that statements about them are
statements about lists.
-/

namespace ProviderRegistry

namespace Text

/-- The characters with the Unicode property `White_Space`. -/
def isWhiteSpace (c : Char) : Bool :=
  let n := c.toNat
  (0x09 ≤ n && n ≤ 0x0D) || n == 0x20 || n == 0x85 || n == 0xA0 || n == 0x1680
    || (0x2000 ≤ n && n ≤ 0x200A) || n == 0x2028 || n == 0x2029 || n == 0x202F
    || n == 0x205F || n == 0x3000

/-- The blank, the tab and the ends of lines are white space. -/
theorem isWhiteSpace_of_core {c : Char} (h : c.isWhitespace = true) : isWhiteSpace c = true := by
  simp only [Char.isWhitespace, Bool.or_eq_true, decide_eq_true_eq] at h
  rcases h with ((h | h) | h) | h <;> subst h <;> decide

/-- The characters that remain when white space is taken off the end. -/
def trimRight (cs : List Char) : List Char :=
  (cs.reverse.dropWhile isWhiteSpace).reverse

/-- The characters that remain when white space is taken off both ends. -/
def trimChars (cs : List Char) : List Char :=
  trimRight (cs.dropWhile isWhiteSpace)

/-- A text without the white space at its two ends. -/
def trim (s : String) : String :=
  String.ofList (trimChars s.toList)

/-- A text is blank when it holds white space alone, or nothing. -/
def isBlank (s : String) : Bool :=
  s.toList.all isWhiteSpace

/-- An optional text in which a blank text counts as none. -/
def nonBlank (s : Option String) : Option String :=
  s.filter fun t => !isBlank t

/-- The text with ASCII letters in lower case; other characters stand as they are. -/
def asciiLower (s : String) : String :=
  String.ofList (s.toList.map Char.toLower)

/-- Whether the text ends in the given characters. -/
def endsIn (s tail : String) : Bool :=
  tail.toList.isSuffixOf s.toList

/-- Whether the text begins with the given characters. -/
def beginsWith (s head : String) : Bool :=
  head.toList.isPrefixOf s.toList

end Text

end ProviderRegistry
