/-
# `Proofs.CommandLine.Arguments` — every invocation has a command line

The arguments of a command line are read one after the other, and an option that
has been given is an entry in a list, on either side of the subcommand.  The
entries can be written out again, each as one argument:

    flag          --name
    with value    --name=value

The value stands behind the sign, so that it is never taken for an option itself,
whatever it is.  Entries that may stand together (`Proper`) are read back as they
were written (`readSide_written`), and so there is a command line for every
invocation: for every command, target, format, and with the quiet option or
without (`parse_arguments`).
-/
import ProviderRegistry.CommandLine.Arguments

namespace ProviderRegistry

namespace CommandLine

/-! ## Names -/

/-- The name of a format. -/
def Format.name : Format → String
  | .text => "text"
  | .json => "json"
  | .yaml => "yaml"

@[simp] theorem Format.ofName?_name (f : Format) : Format.ofName? f.name = some f := by
  cases f <;> rfl

/-- The name of a subcommand. -/
def Verb.name : Verb → String
  | .migrate => "migrate"
  | .rollback => "rollback"
  | .validate => "validate"
  | .backup => "backup"
  | .resolve => "resolve"

/-- The long name of an option. -/
def Opt.name : Opt → String
  | .connectionString => "connection-string"
  | .database => "database"
  | .output => "output"
  | .quiet => "quiet"
  | .force => "force"
  | .provider => "provider"
  | .help => "help"
  | .version => "version"

theorem Opt.ofName?_name {verb : Option Verb} {o : Opt} (h : o.allowed verb = true) :
    Opt.ofName? verb o.name = some o := by
  have hlookup : Opt.byName.lookup o.name = some o := by cases o <;> rfl
  rw [Opt.ofName?, hlookup, Option.filter_some, if_pos h]

/-- No name has the sign in it that stands before a value. -/
theorem Opt.ne_of_mem_name {o : Opt} : ∀ c ∈ o.name.toList, (c != '=') = true := by
  have hall : o.name.toList.all (· != '=') = true := by cases o <;> rfl
  exact List.all_eq_true.mp hall

/-! ## One argument -/

/-- What stands behind the dashes of an option with a value; a flag has none. -/
def Opt.written (o : Opt) (value : String) : List Char :=
  o.name.toList ++ if o.takesValue then '=' :: value.toList else []

theorem Opt.takeWhile_written (o : Opt) (value : String) :
    (o.written value).takeWhile (· != '=') = o.name.toList := by
  rw [Opt.written, List.takeWhile_append_of_pos Opt.ne_of_mem_name]
  split <;> simp

theorem Opt.dropWhile_written (o : Opt) (value : String) :
    (o.written value).dropWhile (· != '=') = if o.takesValue then '=' :: value.toList else [] := by
  rw [Opt.written, List.dropWhile_append_of_pos Opt.ne_of_mem_name]
  split <;> simp

theorem Opt.written_ne_nil (o : Opt) (value : String) : o.written value ≠ [] := by
  have hname : o.name.toList ≠ [] := by cases o <;> decide
  exact List.append_ne_nil_of_left_ne_nil hname _

/-- An option that has been given, as an argument. -/
def argument (entry : Opt × String) : String :=
  String.ofList ('-' :: '-' :: entry.1.written entry.2)

/-- Whether an entry may be given on a side of the subcommand: the option has a meaning there, it asks
neither for help nor for the version, a flag has no value, and a format is given by its name. -/
structure Fit (verb : Option Verb) (entry : Opt × String) : Prop where
  allowed : entry.1.allowed verb = true
  plain : entry.1 ≠ .help ∧ entry.1 ≠ .version
  flag : entry.1.takesValue = false → entry.2 = ""
  format : entry.1 = .output → (Format.ofName? entry.2).isSome = true

theorem give_of_fit {verb : Option Verb} {given : Given} {entry : Opt × String}
    (h : Fit verb entry) (hnew : ∀ earlier ∈ given, earlier.1 ≠ entry.1) :
    give given entry.1 entry.2 = .ok (given ++ [entry]) := by
  obtain ⟨o, value⟩ := entry
  have hany : given.any (·.1 == o) = false := by simpa using hnew
  have hformat : (o == .output && (Format.ofName? value).isNone) = false := by
    simpa using h.format
  cases o with
  | help => exact absurd rfl h.plain.1
  | version => exact absurd rfl h.plain.2
  | _ => simp only [give, hany, hformat, Bool.false_eq_true, if_false]

theorem readLong_written {verb : Option Verb} {given : Given} {entry : Opt × String}
    (h : Fit verb entry) (hnew : ∀ earlier ∈ given, earlier.1 ≠ entry.1) :
    readLong verb given (entry.1.written entry.2) = .ok (given ++ [entry], none) := by
  have hgive := give_of_fit h hnew
  simp only [readLong, Opt.takeWhile_written, Opt.dropWhile_written, String.ofList_toList,
    Opt.ofName?_name h.allowed]
  cases htakes : entry.1.takesValue with
  | true => simp [hgive, Except.map]
  | false =>
      rw [h.flag htakes] at hgive
      simp [hgive, Except.map]

/-- An entry's argument adds the entry. -/
theorem readSide_argument {verb : Option Verb} {given : Given} {entry : Opt × String}
    (h : Fit verb entry) (hnew : ∀ earlier ∈ given, earlier.1 ≠ entry.1) (rest : List String) :
    readSide verb given none (argument entry :: rest)
      = readSide verb (given ++ [entry]) none rest := by
  have hread := readLong_written h hnew
  obtain ⟨c, cs, htext⟩ := List.exists_cons_of_ne_nil (entry.1.written_ne_nil entry.2)
  rw [htext] at hread
  simp only [readSide, argument, String.toList_ofList, htext, hread]

/-! ## One side of the subcommand -/

/-- Entries that may stand together on a side of the subcommand. -/
structure Proper (verb : Option Verb) (given : Given) : Prop where
  fit : ∀ entry ∈ given, Fit verb entry
  distinct : given.Pairwise (·.1 ≠ ·.1)

/-- Proper entries, written out, are read back in front of whatever follows. -/
theorem readSide_written {verb : Option Verb} {given more : Given} (h : Proper verb (given ++ more))
    (rest : List String) :
    readSide verb given none (more.map argument ++ rest)
      = readSide verb (given ++ more) none rest := by
  induction more generalizing given with
  | nil => rw [List.append_nil, List.map_nil, List.nil_append]
  | cons entry more ih =>
      have hnew : ∀ earlier ∈ given, earlier.1 ≠ entry.1 := fun earlier hearlier =>
        (List.pairwise_append.mp h.distinct).2.2 earlier hearlier entry List.mem_cons_self
      have hfit : Fit verb entry := h.fit entry (by simp)
      rw [List.append_cons] at h
      rw [List.map_cons, List.cons_append, readSide_argument hfit hnew, ih h,
        ← List.append_cons]

theorem readSide_verb (given : Given) (verb : Verb) (rest : List String) :
    readSide none given none (verb.name :: rest) = .ok (given, some (verb, rest)) := by
  cases verb <;> rfl

/-! ## Whole command lines -/

/-- The subcommand of a command. -/
def Command.verb : Command → Verb
  | .migrate _ => .migrate
  | .rollback => .rollback
  | .validate => .validate
  | .backup => .backup
  | .resolve _ => .resolve

/-- What a command is told after its subcommand. -/
def Command.entries : Command → Given
  | .migrate true => [(.force, "")]
  | .resolve (some provider) => [(.provider, provider)]
  | _ => []

theorem Command.proper_entries (command : Command) :
    Proper (some command.verb) command.entries where
  fit entry h := by
    unfold entries at h
    split at h
    · obtain rfl := List.mem_singleton.mp h
      exact ⟨rfl, ⟨nofun, nofun⟩, fun _ => rfl, nofun⟩
    · obtain rfl := List.mem_singleton.mp h
      exact ⟨rfl, ⟨nofun, nofun⟩, nofun, nofun⟩
    · exact absurd h List.not_mem_nil
  distinct := by
    unfold entries
    split <;> simp

theorem commandOf_entries (command : Command) : commandOf command.verb command.entries = command := by
  rcases command with ⟨_ | _⟩ | _ | _ | _ | ⟨_ | _⟩ <;> rfl

/-- What stands after a subcommand has no meaning before one. -/
theorem Command.not_allowed_of_mem_entries {command : Command} {entry : Opt × String}
    (h : entry ∈ command.entries) : entry.1.allowed none = false := by
  unfold entries at h
  split at h
  · obtain rfl := List.mem_singleton.mp h
    rfl
  · obtain rfl := List.mem_singleton.mp h
    rfl
  · exact absurd h List.not_mem_nil

theorem Command.lookup_entries (command : Command) {o : Opt} (h : o.allowed none = true) :
    command.entries.lookup o = none := by
  rw [List.lookup_eq_none_iff]
  intro entry hentry
  have hnot := not_allowed_of_mem_entries hentry
  rw [bne_iff_ne]
  rintro rfl
  exact Bool.false_ne_true (hnot.symm.trans h)

namespace Invocation

/-- What an invocation is told before its subcommand. -/
def entries (i : Invocation) : Given :=
  (i.overrides.connectionString.map (Opt.connectionString, ·)).toList
    ++ (i.overrides.databaseName.map (Opt.database, ·)).toList
    ++ (Opt.output, i.format.name) :: if i.quiet then [(.quiet, "")] else []

/-- The command line of an invocation. -/
def arguments (i : Invocation) : List String :=
  i.entries.map argument ++ i.command.verb.name :: i.command.entries.map argument

theorem proper_entries (i : Invocation) : Proper none i.entries where
  fit entry h := by
    simp only [entries, List.mem_append, Option.mem_toList, Option.map_eq_some_iff,
      List.mem_cons] at h
    rcases h with (⟨_, -, rfl⟩ | ⟨_, -, rfl⟩) | rfl | hquiet
    · exact ⟨rfl, ⟨nofun, nofun⟩, nofun, nofun⟩
    · exact ⟨rfl, ⟨nofun, nofun⟩, nofun, nofun⟩
    · exact ⟨rfl, ⟨nofun, nofun⟩, nofun, fun _ => by rw [Format.ofName?_name]; rfl⟩
    · split at hquiet
      · obtain rfl := List.mem_singleton.mp hquiet
        exact ⟨rfl, ⟨nofun, nofun⟩, fun _ => rfl, nofun⟩
      · exact absurd hquiet List.not_mem_nil
  distinct := by
    obtain ⟨⟨_ | _, _ | _⟩, _, _ | _, _⟩ := i <;> simp [entries]

theorem lookup_entries (i : Invocation) :
    i.entries.lookup .connectionString = i.overrides.connectionString ∧
    i.entries.lookup .database = i.overrides.databaseName ∧
    i.entries.lookup .output = some i.format.name ∧
    (i.entries.lookup .quiet).isSome = i.quiet := by
  obtain ⟨⟨_ | _, _ | _⟩, _, _ | _, _⟩ := i <;> exact ⟨rfl, rfl, rfl, rfl⟩

end Invocation

/-- The command line of an invocation is read as the invocation. -/
theorem parse_arguments (i : Invocation) : parse i.arguments = .ok i := by
  have hbefore : readSide none [] none i.arguments
      = .ok (i.entries, some (i.command.verb, i.command.entries.map argument)) := by
    have h : Proper none ([] ++ i.entries) := i.proper_entries
    rw [Invocation.arguments, readSide_written h, readSide_verb, List.nil_append]
  have hafter : readSide (some i.command.verb) [] none (i.command.entries.map argument)
      = .ok (i.command.entries, none) := by
    have h : Proper (some i.command.verb) ([] ++ i.command.entries) := i.command.proper_entries
    have hread := readSide_written h []
    rwa [List.append_nil] at hread
  obtain ⟨hconnection, hdatabase, houtput, hquiet⟩ := i.lookup_entries
  have hvalue : ∀ o : Opt, o.allowed none = true →
      (i.command.entries.lookup o <|> i.entries.lookup o) = i.entries.lookup o := by
    intro o ho
    rw [i.command.lookup_entries ho]
    rfl
  simp only [parse, hbefore, hafter, commandOf_entries]
  rw [hvalue .connectionString rfl, hvalue .database rfl, hvalue .output rfl, hvalue .quiet rfl,
    hconnection, hdatabase, houtput, hquiet]
  simp

end CommandLine

end ProviderRegistry
