/-
# `Environment` — the variables that a resolution sees

A snapshot of the environment as a list of names and values.  An empty value
counts as unset, and a value that still reads `your_…` is a template's
placeholder and counts as not configured.
-/
import ProviderRegistry.Text.Blank

namespace ProviderRegistry

/-- The variables of an environment; of two with one name the later counts. -/
structure Environment where
  entries : List (String × String)
deriving Inhabited

namespace Environment

/-- The environment without variables. -/
def empty : Environment := ⟨[]⟩

/-- The value held under a name, empty or not. -/
def held (env : Environment) (name : String) : Option String :=
  env.entries.reverse.lookup name

/-- The value of a variable; an empty one is unset. -/
def get (env : Environment) (name : String) : Option String :=
  (env.held name).filter fun v => !v.isEmpty

/-- The value of the first variable that is set. -/
def firstOf (env : Environment) (names : List String) : Option String :=
  names.findSome? env.get

/-- The value of a variable, or else the given one. -/
def getOr (env : Environment) (name fallback : String) : String :=
  (env.get name).getD fallback

/-- Whether a value is a placeholder that nobody has filled in. -/
def isPlaceholder (value : String) : Bool := Text.beginsWith value "your_"

/-- The value of a variable, unless it is a placeholder. -/
def configured (env : Environment) (name : String) : Option String :=
  (env.get name).filter fun v => !isPlaceholder v

/-- The environment with further variables put under those that it holds: they count only where
it holds nothing, and the first of one name counts. -/
def withFallback (env : Environment) (spare : List (String × String)) : Environment :=
  ⟨spare.reverse ++ env.entries⟩

end Environment

end ProviderRegistry
