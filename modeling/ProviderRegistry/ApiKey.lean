/-
# `ApiKey` — the form in which a key may be shown

A key of eight characters or more is shown by its first and last four; a
shorter one not at all.
-/

namespace ProviderRegistry

namespace ApiKey

/-- The characters of a masked key. -/
def maskChars (key : List Char) : List Char :=
  if key.length < 8 then "****".toList
  else key.take 4 ++ "...".toList ++ key.drop (key.length - 4)

/-- A key as it may be shown. -/
def mask (key : String) : String :=
  String.ofList (maskChars key.toList)

end ApiKey

end ProviderRegistry
