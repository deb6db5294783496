/-
# `CommandLine.Layout` — lines of fields and tables of fixed columns

Widths are counted in characters.  A value that is too long for its column is
cut, and three points stand for the rest.
-/

namespace ProviderRegistry

namespace CommandLine

/-- A text with blanks after it up to a width. -/
def padRight (width : Nat) (cs : List Char) : List Char :=
  cs ++ List.replicate (width - cs.length) ' '

/-- A line with a label and a value. -/
def fieldLine (label value : String) : String :=
  String.ofList (padRight 18 (label ++ ":").toList) ++ " " ++ value ++ "\n"

/-- A text of at most the given width. -/
def truncate (width : Nat) (cs : List Char) : List Char :=
  if cs.length ≤ width || width < 3 then cs else cs.take (width - 3) ++ ['.', '.', '.']

/-- A value in a column of the given width. -/
def cell (width : Nat) (value : String) : List Char :=
  padRight width (truncate width value.toList)

/-- A row of cells, two blanks between them. -/
def row (widths : List Nat) (values : List String) : List Char :=
  [' ', ' '].intercalate (List.zipWith cell widths values)

end CommandLine

end ProviderRegistry
