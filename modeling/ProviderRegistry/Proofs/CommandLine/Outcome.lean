/-
# `Proofs.CommandLine.Outcome` — the output options change only what is printed

A command line is carried out in two steps: the command is run, and its result
is printed.  The format and the quiet option have a part in the second step
alone, and there only in the text of a report:

    result      status   stdout                     stderr
    report        0      the report in its format
    failure       1                                 the error, and the advice on it

So the status tells one thing, whether what was asked for has been done
(`Command.Succeeds`).  Success is said without the command line: of the scripts
of a migration on the database that was connected to, and for a resolution of
the configs that are loaded, from an empty store where there is no other.

## What is proved

Two command lines that ask for one command on one target, in any formats and
with the quiet option or without, exit with the same status, print the same on
failure and leave the same store; and the status is zero exactly where the
command succeeds (`carriedOut_alike`).  Every choice of the output options has
its command line (`parse_arguments`).
-/
import ProviderRegistry.CommandLine.Run
import ProviderRegistry.Proofs.CommandLine.Arguments

namespace ProviderRegistry

namespace CommandLine

/-! ## Success -/

/-- Whether a script on the database that was connected to ends in a report. -/
def Achieves {α : Type} (connected : Outcome Database) (script : Script α) : Prop :=
  ∃ db report, connected = .ok db ∧ (script.run db).1 = .ok report

/-- Whether there is what a resolution asks for: a provider is resolved where an enabled config among
those that are loaded has its key, and all of them together always are. -/
def Resolves (env : Environment) (db : Database) : Option String → Prop
  | none => True
  | some provider =>
      ∃ c ∈ (Session.start db env none).load.1,
        c.enabled = true ∧ c.providerKey = Text.asciiLower (Text.trim provider)

/-- Whether a command does what it asks for.  Only a resolution does without a connection. -/
def Command.Succeeds (env : Environment) (now : Moment) (connected : Outcome Database)
    (spare : Database) : Command → Prop
  | .migrate force => Achieves connected (Migration.run now.date force)
  | .rollback => Achieves connected Migration.rollback
  | .validate => Achieves connected Migration.validate
  | .backup => Achieves connected Migration.backup
  | .resolve provider => Resolves env (connected.toOption.getD spare) provider

theorem status_eq_zero_iff {format : Format} {quiet : Bool} {result : Result} :
    (result.exit format quiet).status = 0 ↔ ∃ report, result = .ok report := by
  cases result <;> simp [Result.exit]

theorem perform_succeeds_iff {α : Type} (db : Database) (script : Script α) (report : α → Report) :
    (∃ r, (perform db script report).1 = .ok r) ↔ Achieves (.ok db) script := by
  have hrun : Achieves (.ok db) script ↔ ∃ a, (script.run db).1 = .ok a := by
    simp [Achieves]
  rw [hrun]
  unfold perform
  cases script.run db with
  | mk outcome after =>
      cases outcome with
      | error error => exact ⟨nofun, nofun⟩
      | ok a => exact ⟨fun _ => ⟨a, rfl⟩, fun _ => ⟨report a, rfl⟩⟩

theorem resolveConfigs_succeeds_iff (env : Environment) (db : Database) (provider : Option String) :
    (∃ r, (resolveConfigs env db provider).1 = .ok r) ↔ Resolves env db provider := by
  cases provider with
  | none => exact ⟨fun _ => trivial, fun _ => ⟨_, rfl⟩⟩
  | some provider =>
      have hlookup : ((Session.start db env none).byProvider provider).1
          = LlmConfig.findByProvider (Session.start db env none).load.1 provider := rfl
      have hfound : (∃ r, (resolveConfigs env db (some provider)).1 = .ok r) ↔
          (LlmConfig.findByProvider (Session.start db env none).load.1 provider).isSome = true := by
        rw [← hlookup]
        dsimp only [resolveConfigs]
        generalize (Session.start db env none).byProvider provider = ended
        obtain ⟨_ | _, _⟩ := ended <;> simp
      rw [hfound, LlmConfig.findByProvider, List.find?_isSome]
      simp [Resolves, LlmConfig.matchesProvider, Defaults.providerKey, and_comm]

/-- A command ends in a report exactly where it succeeds. -/
theorem Command.run_succeeds_iff (env : Environment) (now : Moment) (connected : Outcome Database)
    (spare : Database) (command : Command) :
    (∃ report, (command.run env now connected spare).1 = .ok report) ↔
      command.Succeeds env now connected spare := by
  cases connected with
  | ok db =>
      cases command with
      | migrate force => exact perform_succeeds_iff db (Migration.run now.date force) .run
      | rollback => exact perform_succeeds_iff db Migration.rollback .rollback
      | validate => exact perform_succeeds_iff db Migration.validate .validation
      | backup => exact perform_succeeds_iff db Migration.backup .backup
      | resolve provider => exact resolveConfigs_succeeds_iff env db provider
  | error error =>
      cases command with
      | resolve provider => exact resolveConfigs_succeeds_iff env spare provider
      | _ => exact ⟨nofun, nofun⟩

/-! ## Two command lines -/

/-- Two ends of a command that only the printing of its report tells apart. -/
structure Alike (left right : Exit × Database) : Prop where
  status : left.1.status = right.1.status
  stderr : left.1.stderr = right.1.stderr
  failed : left.1.status ≠ 0 → left.1 = right.1
  store : left.2 = right.2

theorem exit_alike (result : Result) (after : Database) (format format' : Format)
    (quiet quiet' : Bool) :
    Alike (result.exit format quiet, after) (result.exit format' quiet', after) := by
  cases result with
  | ok report => exact ⟨rfl, rfl, fun h => absurd rfl h, rfl⟩
  | error failure => exact ⟨rfl, rfl, fun _ => rfl, rfl⟩

theorem carriedOut_of_parse {args : List String} {i : Invocation} (h : parse args = .ok i)
    (env : Environment) (now : Moment) (connect : ConnectionTarget → Outcome Database)
    (spare : Database) :
    let ended := i.command.run env now (connect (.resolve env i.overrides)) spare
    carriedOut args env now connect spare = (Result.exit i.format i.quiet ended.1, ended.2) := by
  simp only [carriedOut, h]

/-- Whatever a command line asks for, it may be asked for in every format, and quietly or not; and all
command lines that ask for it exit with one status, print one error on failure and leave one store.
The status is zero exactly where the command succeeds. -/
theorem carriedOut_alike {args : List String} {i : Invocation} (hargs : parse args = .ok i)
    (format : Format) (quiet : Bool) :
    (∃ others, parse others = .ok { i with format, quiet }) ∧
    ∀ others, parse others = .ok { i with format, quiet } →
      ∀ env now connect spare,
        Alike (carriedOut args env now connect spare) (carriedOut others env now connect spare) ∧
        ((carriedOut others env now connect spare).1.status = 0 ↔
          i.command.Succeeds env now (connect (.resolve env i.overrides)) spare) := by
  constructor
  · exact ⟨_, parse_arguments _⟩
  · intro others hothers env now connect spare
    rw [carriedOut_of_parse hargs, carriedOut_of_parse hothers]
    constructor
    · exact exit_alike _ _ _ _ _ _
    · rw [status_eq_zero_iff]
      exact Command.run_succeeds_iff env now _ spare i.command

/-- An environment with a key for one provider. -/
def keyed : Environment := ⟨[("OPENAI_API_KEY", "sk-abc123")]⟩

/-- A command line carried out where no server is reached. -/
def carriedOutAlone (args : List String) : Exit × Database :=
  carriedOut args keyed ⟨⟨0⟩, ""⟩ (fun _ => .error (.storeUnavailable "no server"))
    (Database.empty ObjectId.ofNat)

/-- A provider of the environment is resolved without a server, and it is resolved quietly and as JSON
with the same end. -/
theorem carriedOut_resolve_quietly :
    Alike (carriedOutAlone ["resolve", "--provider", " OpenAI"])
      (carriedOutAlone ["-qojson", "resolve", "-p", " OpenAI"]) ∧
    (carriedOutAlone ["-qojson", "resolve", "-p", " OpenAI"]).1.status = 0 := by
  have hargs : parse ["resolve", "--provider", " OpenAI"]
      = .ok ⟨⟨none, none⟩, .text, false, .resolve (some " OpenAI")⟩ := by rfl
  have hothers : parse ["-qojson", "resolve", "-p", " OpenAI"]
      = .ok ⟨⟨none, none⟩, .json, true, .resolve (some " OpenAI")⟩ := by rfl
  have hfound : (Session.start (Database.empty ObjectId.ofNat) keyed none).load.1.any (fun c =>
      c.enabled && c.providerKey == Text.asciiLower (Text.trim " OpenAI")) = true := by
    decide +kernel
  obtain ⟨-, halike⟩ := carriedOut_alike hargs .json true
  obtain ⟨hends, hstatus⟩ := halike _ hothers keyed ⟨⟨0⟩, ""⟩
    (fun _ => .error (.storeUnavailable "no server")) (Database.empty ObjectId.ofNat)
  refine ⟨hends, hstatus.mpr ?_⟩
  obtain ⟨c, hc, hmatches⟩ := List.any_eq_true.mp hfound
  rw [Bool.and_eq_true, beq_iff_eq] at hmatches
  exact ⟨c, hc, hmatches⟩

end CommandLine

end ProviderRegistry
