/-!
# Environment variables

The variables that a run sees, by name.  A variable that is set stays as it is when it is offered
another value, so that what comes first is strongest.
-/

namespace DecisionBench

structure Variables where
  entries : List (String × String)
  deriving DecidableEq, Repr

namespace Variables

def get? (known : Variables) (name : String) : Option String :=
  (known.entries.find? fun entry => entry.1 == name).map Prod.snd

/-- Sets a variable, unless it is set already. -/
def offer (known : Variables) (name value : String) : Variables :=
  if (known.get? name).isSome then known
  else ⟨known.entries ++ [(name, value)]⟩

end Variables

end DecisionBench
