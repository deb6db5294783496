/-
# `Proofs.CommandLine.Table` — the columns of a table stand under their names

Nothing marks where a cell of a table ends.  A reader goes by the place of a
character in its line, as the header has it:

    0             14                            44               61       70
    PROVIDER      MODEL                         API KEY          ENABLED  BASE URL

So every cell has to take exactly the width of its column, whatever stands in it,
and there are two ways to fail: to cut a value a character too early or too late,
and to count the blanks behind it otherwise than its characters.  A cell is told
here by what it shows of its value (`Fills`), and that alone gives its width
(`Fills.length`).  A row is then cut at any of its columns into what stands to the
left, the cell, and what stands to the right (`Column.rowOf_cut`), and what stands
to the left has as many characters in every row (`Column.length_leftOf`).

A text may have line ends of its own.  The rows of a table are therefore what is
put together as its rows, each with one line end behind it, and not what stands
between two line ends.

## What is proved

Of every list of configs, resolution prints a table in which each row has as many
characters as the header, and under each column the value of its config, or the
beginning of it; and of every command line that asks for all configs as text, this
is what it prints of the configs that are loaded (`resolution_tabulated`).

So the row of a config is found by counting characters, whatever stands in the rows
before it (`Tabulated.row_of_lt`).  And a mask always fits its column, so the end
that it shows of a key is never cut (`Column.length_maskedKey_le`).
-/
import Mathlib.Data.List.Forall2
import ProviderRegistry.Proofs.CommandLine.Outcome

namespace ProviderRegistry

namespace CommandLine

/-! ## Cells -/

/-- What a place of a given width shows of a value: all of it, and blanks in the rest of the place; or
the beginning of a value that is longer, and three points. -/
structure Fills (width : Nat) (value : String) (place : List Char) : Prop where
  whole : value.length ≤ width →
    place = value.toList ++ List.replicate (width - value.length) ' '
  cut : width < value.length → place = value.toList.take (width - 3) ++ "...".toList

theorem length_points : "...".toList.length = 3 := rfl

section Cell

variable {width : Nat}

theorem truncate_of_le {cs : List Char} (h : cs.length ≤ width) : truncate width cs = cs :=
  if_pos (by simp [h])

/-- A column that has room for the points cuts what is too long. -/
theorem truncate_of_lt {cs : List Char} (hwidth : 3 ≤ width) (h : width < cs.length) :
    truncate width cs = cs.take (width - 3) ++ "...".toList :=
  if_neg (by simp [h, hwidth])

theorem Fills.length {value : String} {place : List Char} (hwidth : 3 ≤ width)
    (h : Fills width value place) : place.length = width := by
  rcases Nat.lt_or_ge width value.length with hlong | hshort
  · rw [h.cut hlong, List.length_append, List.length_take, String.length_toList, length_points]
    omega
  · rw [h.whole hshort, List.length_append, List.length_replicate, String.length_toList]
    omega

theorem fills_cell (hwidth : 3 ≤ width) (value : String) :
    Fills width value (cell width value) where
  whole := by
    intro h
    rw [← String.length_toList] at h ⊢
    rw [cell, truncate_of_le h, padRight]
  cut := by
    intro h
    rw [← String.length_toList] at h
    rw [cell, truncate_of_lt hwidth h, padRight]
    -- the beginning and the points fill the place, and no blank is left to put behind them
    have hfull : width - (value.toList.take (width - 3) ++ "...".toList).length = 0 := by
      rw [List.length_append, List.length_take, length_points]
      omega
    rw [hfull, List.replicate_zero, List.append_nil]

theorem length_cell (hwidth : 3 ≤ width) (value : String) : (cell width value).length = width :=
  (fills_cell hwidth value).length hwidth

end Cell

theorem intercalate_cons {α : Type} (separator list : List α) (behind : List (List α)) :
    separator.intercalate (list :: behind) = list ++ behind.flatMap (separator ++ ·) := by
  induction behind generalizing list with
  | nil => simp
  | cons next behind ih =>
      rw [List.intercalate_cons_cons, ih, List.flatMap_cons, List.append_assoc, List.append_assoc]

/-- Lists with a separator between them, cut at one of them. -/
theorem intercalate_append_cons {α : Type} (separator : List α) (before behind : List (List α))
    (list : List α) :
    separator.intercalate (before ++ list :: behind)
      = before.flatMap (· ++ separator) ++ list ++ behind.flatMap (separator ++ ·) := by
  induction before with
  | nil => exact intercalate_cons separator list behind
  | cons first before ih =>
      obtain ⟨second, rest, hrest⟩ := List.exists_cons_of_ne_nil
        (List.append_ne_nil_of_right_ne_nil before (List.cons_ne_nil list behind))
      rw [List.cons_append, hrest, List.intercalate_cons_cons, ← hrest, ih, List.flatMap_cons]
      simp only [List.append_assoc]

/-! ## Columns -/

/-- The columns of the table of configs. -/
inductive Column where
  | provider
  | model
  | apiKey
  | enabled
  | baseUrl
deriving DecidableEq

namespace Column

/-- The columns from left to right. -/
def all : List Column := [.provider, .model, .apiKey, .enabled, .baseUrl]

/-- What the header calls a column. -/
def name : Column → String
  | .provider => "PROVIDER"
  | .model => "MODEL"
  | .apiKey => "API KEY"
  | .enabled => "ENABLED"
  | .baseUrl => "BASE URL"

/-- The number of characters in a column. -/
def width : Column → Nat
  | .provider => 12
  | .model => 28
  | .apiKey => 15
  | .enabled => 7
  | .baseUrl => 40

/-- What a config has in a column.  Its key stands there as it may be shown. -/
def value (c : LlmConfig) : Column → String
  | .provider => c.provider
  | .model => c.model
  | .apiKey => c.maskedKey.getD ""
  | .enabled => if c.enabled then "yes" else "no"
  | .baseUrl => c.baseUrl.getD ""

/-- The columns to the left of a column. -/
def before (k : Column) : List Column := all.takeWhile (· != k)

/-- The columns to the right of a column. -/
def behind (k : Column) : List Column := (all.dropWhile (· != k)).tail

theorem all_eq (k : Column) : all = k.before ++ k :: k.behind := by
  cases k <;> rfl

/-- Every column has room for the points, and more. -/
theorem three_le_width (k : Column) : 3 ≤ k.width := by
  cases k <;> decide

/-- A mask is never cut: what it shows of the end of a key is shown in the table as well. -/
theorem length_maskedKey_le (c : LlmConfig) : (value c .apiKey).length ≤ apiKey.width := by
  have hmask : ∀ key, (ApiKey.maskChars key).length ≤ apiKey.width := by
    intro key
    unfold ApiKey.maskChars
    split
    · decide
    · simp only [List.length_append, List.length_take, List.length_drop, length_points, width]
      omega
  rw [← String.length_toList, value, LlmConfig.maskedKey]
  cases c.apiKey with
  | none => exact Nat.zero_le _
  | some key =>
      rw [Option.map_some, Option.getD_some, ApiKey.mask, String.toList_ofList]
      exact hmask key.toList

/-- The number of characters that columns take with two blanks behind each. -/
def span : List Column → Nat
  | [] => 0
  | k :: rest => k.width + 2 + span rest

/-- The number of characters in a line to the left of a column. -/
def offset (k : Column) : Nat := span k.before

example : all.map offset = [0, 14, 44, 61, 70] := rfl

/-- What stands in a line under a column. -/
def under (k : Column) (line : List Char) : List Char := (line.drop k.offset).take k.width

/-! ## Rows -/

/-- The row with a text in every column. -/
def rowOf (text : Column → String) : List Char := row (all.map width) (all.map text)

theorem headerRow_eq : Report.headerRow = rowOf name := rfl

theorem configRow_eq (c : LlmConfig) : Report.configRow c = rowOf (value c) := rfl

section Row

variable (text : Column → String) (k : Column)

/-- The cell of a column in a row. -/
def cellIn : List Char := cell k.width (text k)

theorem length_cellIn : (cellIn text k).length = k.width :=
  length_cell k.three_le_width (text k)

/-- The part of a row to the left of a column. -/
def leftOf : List Char := k.before.flatMap fun left => cellIn text left ++ [' ', ' ']

/-- The part of a row to the right of a column. -/
def rightOf : List Char := k.behind.flatMap fun right => [' ', ' '] ++ cellIn text right

theorem rowOf_cut : rowOf text = leftOf text k ++ cellIn text k ++ rightOf text k := by
  have hcells : List.zipWith cell (all.map width) (all.map text) = all.map (cellIn text) := by
    rw [List.zipWith_map, List.zipWith_self]
    rfl
  rw [rowOf, row, hcells, k.all_eq, List.map_append, List.map_cons, intercalate_append_cons,
    List.flatMap_map, List.flatMap_map]
  rfl

theorem length_flatMap_cellIn (columns : List Column) :
    (columns.flatMap fun left => cellIn text left ++ [' ', ' ']).length = span columns := by
  induction columns with
  | nil => rfl
  | cons left rest ih =>
      rw [List.flatMap_cons, List.length_append, List.length_append, length_cellIn, ih]
      rfl

/-- A column begins at the same character of every row, whatever stands to its left. -/
theorem length_leftOf : (leftOf text k).length = k.offset :=
  length_flatMap_cellIn text k.before

theorem under_rowOf : k.under (rowOf text) = cellIn text k := by
  rw [under, rowOf_cut text k, List.append_assoc, List.drop_left' (length_leftOf text k),
    List.take_left' (length_cellIn text k)]

theorem drop_rowOf : (rowOf text).drop (k.offset + k.width) = rightOf text k := by
  rw [rowOf_cut text k]
  refine List.drop_left' ?_
  rw [List.length_append, length_leftOf, length_cellIn]

/-- There is nothing behind the last column, and so all rows have one length. -/
theorem length_rowOf : (rowOf text).length = baseUrl.offset + baseUrl.width := by
  have hlast : rightOf text baseUrl = [] := rfl
  rw [rowOf_cut text baseUrl, hlast, List.append_nil, List.length_append, length_leftOf,
    length_cellIn]

end Row

end Column

/-- A line under a header: it has as many characters, under each column its text, or the beginning of
it, two blanks between a column and the next, and nothing behind the last. -/
structure Aligned (header : List Char) (text : Column → String) (line : List Char) : Prop where
  length : line.length = header.length
  under : ∀ k : Column, Fills k.width (text k) (k.under line)
  apart : ∀ k : Column, k.behind ≠ [] → (line.drop (k.offset + k.width)).take 2 = [' ', ' ']
  ends : ∀ k : Column, k.behind = [] → line.drop (k.offset + k.width) = []

theorem aligned_rowOf (titles text : Column → String) :
    Aligned (Column.rowOf titles) text (Column.rowOf text) where
  length := by
    rw [Column.length_rowOf, Column.length_rowOf]
  under := by
    intro k
    rw [Column.under_rowOf]
    exact fills_cell k.three_le_width (text k)
  apart := by
    intro k hk
    obtain ⟨next, rest, hbehind⟩ := List.exists_cons_of_ne_nil hk
    rw [Column.drop_rowOf, Column.rightOf, hbehind]
    rfl
  ends := by
    intro k hk
    rw [Column.drop_rowOf, Column.rightOf, hk, List.flatMap_nil]

/-! ## Tables -/

/-- What may be printed of a list of configs: a table with a line for the header and one for each config
in order, and an empty line between it and what follows; or no table, where there are no configs. -/
inductive Tabulated : List LlmConfig → List Char → Prop
  | nothing :
      Tabulated []
        "No LLM configs resolved (store empty and no provider API keys in environment)\n".toList
  | table {configs : List LlmConfig} {header rest : List Char} {rows : List (List Char)} :
      configs ≠ [] →
      Aligned header Column.name header →
      List.Forall₂ (fun c line => Aligned header (Column.value c) line) configs rows →
      Tabulated configs ((header :: rows).flatMap (· ++ ['\n']) ++ '\n' :: rest)

/-- The line of a number in a text of lines that all have one length.  It is found without a look at
what the lines are made of. -/
def lineAt (length n : Nat) (text : List Char) : List Char :=
  (text.drop (n * (length + 1))).take length

theorem lineAt_lines {length n : Nat} {lines : List (List Char)}
    (h : ∀ line ∈ lines, line.length = length) (rest : List Char) (hn : n < lines.length) :
    lineAt length n (lines.flatMap (· ++ ['\n']) ++ rest) = lines[n] := by
  induction lines generalizing n with
  | nil => exact absurd hn (Nat.not_lt_zero n)
  | cons line lines ih =>
      have hline : line.length = length := h line List.mem_cons_self
      rw [lineAt, List.flatMap_cons, List.append_assoc]
      cases n with
      | zero =>
          rw [Nat.zero_mul, List.drop_zero, List.append_assoc, List.take_left' hline]
          rfl
      | succ n =>
          have hended : (line ++ ['\n']).length = length + 1 := by
            rw [List.length_append, hline, List.length_singleton]
          rw [Nat.succ_mul, Nat.add_comm, ← List.drop_drop, List.drop_left' hended]
          exact ih (fun other hother => h other (List.mem_cons_of_mem line hother))
            (Nat.lt_of_succ_lt_succ hn)

/-- In a table the row of every config is the line of its number behind the header. -/
theorem Tabulated.row_of_lt {configs : List LlmConfig} {text : List Char}
    (h : Tabulated configs text) {n : Nat} (hn : n < configs.length) :
    ∃ header, Aligned header Column.name header ∧ lineAt header.length 0 text = header ∧
      Aligned header (Column.value configs[n]) (lineAt header.length (n + 1) text) := by
  cases h with
  | nothing => exact absurd hn (Nat.not_lt_zero n)
  | @table _ header rest rows _ hheader hrows =>
      have hlength : ∀ line ∈ header :: rows, line.length = header.length := by
        intro line hline
        rcases List.mem_cons.mp hline with rfl | hrow
        · rfl
        · obtain ⟨i, hi, rfl⟩ := List.mem_iff_getElem.mp hrow
          exact (hrows.get (hrows.length_eq ▸ hi) hi).length
      have hn' : n < rows.length := hrows.length_eq ▸ hn
      refine ⟨header, hheader, ?first, ?row⟩
      case first => exact lineAt_lines hlength _ (Nat.succ_pos rows.length)
      case row =>
        rw [lineAt_lines hlength _ (Nat.succ_lt_succ hn')]
        exact hrows.get hn hn'

namespace Report

theorem toList_tableText (configs : List LlmConfig) :
    (tableText configs).toList
      = (headerRow :: configs.map configRow).flatMap (· ++ ['\n']) := by
  rw [tableText, String.toList_append, String.toList_ofList, String.toList_join, List.flatMap_map,
    List.flatMap_cons, List.flatMap_map]
  simp only [String.toList_ofList]

theorem aligned_headerRow : Aligned headerRow Column.name headerRow := by
  rw [Column.headerRow_eq]
  exact aligned_rowOf Column.name Column.name

theorem aligned_rows (configs : List LlmConfig) :
    List.Forall₂ (fun c line => Aligned headerRow (Column.value c) line) configs
      (configs.map configRow) := by
  rw [List.forall₂_map_right_iff, List.forall₂_same]
  intro c _
  rw [Column.headerRow_eq, Column.configRow_eq]
  exact aligned_rowOf Column.name (Column.value c)

theorem tabulated_resolutionText (configs : List LlmConfig) (active : Option LlmConfig) :
    Tabulated configs (resolutionText configs active).toList := by
  cases configs with
  | nil => exact .nothing
  | cons c rest =>
      have hempty : "\n".toList = ['\n'] := rfl
      simp only [resolutionText, List.isEmpty_cons, Bool.false_eq_true, if_false,
        String.toList_append, toList_tableText, hempty, List.append_assoc]
      exact .table (List.cons_ne_nil c rest) aligned_headerRow (aligned_rows (c :: rest))

end Report

/-! ## On the command line -/

/-- The configs that a command line resolves: those of the store that it has connected to, or of a spare
one. -/
def resolved (env : Environment) (connected : Outcome Database) (spare : Database) :
    List LlmConfig :=
  (Session.start (connected.toOption.getD spare) env none).load.1

/-- What is printed for a command line that asks for all configs. -/
theorem stdout_resolve {args : List String} {overrides : ConnectionOverrides} {format : Format}
    {quiet : Bool} (h : parse args = .ok ⟨overrides, format, quiet, .resolve none⟩)
    (env : Environment) (now : Moment) (connect : ConnectionTarget → Outcome Database)
    (spare : Database) :
    ∃ active, (carriedOut args env now connect spare).1.stdout
      = (Report.resolution (resolved env (connect (.resolve env overrides)) spare) active).print
          format quiet := by
  rw [carriedOut_of_parse h]
  cases connect (.resolve env overrides) with
  | ok db => exact ⟨_, rfl⟩
  | error error => exact ⟨_, rfl⟩

/-- Of every list of configs, whatever their texts, a table is printed whose rows are aligned with its
header; and on every command line that asks for all configs as text, it is printed of the configs that
are resolved. -/
theorem resolution_tabulated :
    (∀ configs active quiet,
      Tabulated configs ((Report.resolution configs active).print .text quiet).toList) ∧
    ∀ args overrides quiet, parse args = .ok ⟨overrides, .text, quiet, .resolve none⟩ →
      ∀ env now connect spare,
        Tabulated (resolved env (connect (.resolve env overrides)) spare)
          (carriedOut args env now connect spare).1.stdout.toList := by
  constructor
  · intro configs active quiet
    exact Report.tabulated_resolutionText configs active
  · intro args overrides quiet hargs env now connect spare
    obtain ⟨active, hstdout⟩ := stdout_resolve hargs env now connect spare
    rw [hstdout]
    exact Report.tabulated_resolutionText _ active

/-- A config whose provider is a character too long for its column, in characters of three bytes, whose
model has exactly as many characters as there is room for, and whose address has a line end in it. -/
def wide : LlmConfig :=
  { LlmConfig.new "通义千问通义千问通义千问通" "claude-3-5-sonnet-20241022v2" with
    apiKey := some "sk-abc123", baseUrl := some "https://gateway.example\n/v1" }

/-- Two such configs make a table, and so does the one of an environment where no server is reached. -/
theorem tabulated_wide :
    Tabulated [wide, wide] ((Report.resolution [wide, wide] none).print .text false).toList ∧
    Column.provider.under (Report.configRow wide) = "通义千问通义千问通...".toList ∧
    Column.model.under (Report.configRow wide) = "claude-3-5-sonnet-20241022v2".toList ∧
    parse ["resolve"] = .ok ⟨⟨none, none⟩, .text, false, .resolve none⟩ ∧
    (resolved keyed (.error (.storeUnavailable "no server"))
      (Database.empty ObjectId.ofNat)).length = 1 ∧
    Tabulated (resolved keyed (.error (.storeUnavailable "no server"))
      (Database.empty ObjectId.ofNat)) (carriedOutAlone ["resolve"]).1.stdout.toList := by
  have hargs : parse ["resolve"] = .ok ⟨⟨none, none⟩, .text, false, .resolve none⟩ := by rfl
  have hone : (resolved keyed (.error (.storeUnavailable "no server"))
      (Database.empty ObjectId.ofNat)).length = 1 := by
    decide +kernel
  obtain ⟨hlists, hlines⟩ := resolution_tabulated
  refine ⟨hlists [wide, wide] none false, ?_, ?_, hargs, hone, ?_⟩
  · decide +kernel
  · decide +kernel
  · exact hlines ["resolve"] ⟨none, none⟩ false hargs keyed ⟨⟨0⟩, ""⟩
      (fun _ => .error (.storeUnavailable "no server")) (Database.empty ObjectId.ofNat)

end CommandLine

end ProviderRegistry
