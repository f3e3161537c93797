/-!
# Environment variables

The variables of the process, by name. A variable that is set to nothing is
often treated as one that is not set.
-/

namespace PullReview

abbrev Environment := List (String × String)

namespace Environment

/-- The value of a variable. -/
def value? (env : Environment) (name : String) : Option String := env.lookup name

/-- The value of a variable that is set to something. -/
def nonEmpty? (env : Environment) (name : String) : Option String :=
  (env.value? name).filter (· ≠ "")

/-- Sets a variable, which keeps its place if it is there. -/
def set (env : Environment) (name value : String) : Environment :=
  if (env.value? name).isSome then
    env.map fun (n, v) => (n, if n = name then value else v)
  else env ++ [(name, value)]

/-- Sets variables one after another. -/
def setAll (env : Environment) (settings : List (String × String)) : Environment :=
  settings.foldl (fun env (name, value) => env.set name value) env

end Environment

end PullReview
