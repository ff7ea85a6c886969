import LiveTemplates.Json

/-!
# Log entries

An entry names what happened and how grave it is, and carries named values. The order of the values
is that in which they were given.
-/

namespace LiveTemplates.Log

/-- How grave an entry is. -/
inductive Level
  | debug
  | info
  | warning
  | error
  | critical
deriving DecidableEq, Repr

/-- The name of a level. -/
def Level.name : Level → String
  | .debug => "debug"
  | .info => "info"
  | .warning => "warning"
  | .error => "error"
  | .critical => "critical"

/-- The rank of a level; a graver one has a higher rank. -/
def Level.rank : Level → Nat
  | .debug => 10
  | .info => 20
  | .warning => 30
  | .error => 40
  | .critical => 50

/-- One entry of a log. -/
structure Entry where
  level : Level
  event : String
  values : List (String × Json)

end LiveTemplates.Log
