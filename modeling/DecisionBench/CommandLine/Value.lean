import DecisionBench.Decimal.Reading
import DecisionBench.Schema

/-!
# Values on the command line

A command line that is not understood ends the run with a `Stop` before anything else happens; so
does the wish for help.  A `Form` says which texts a parameter takes, and `Form.read` is the value
of such a text.
-/

namespace DecisionBench.CommandLine

/-- Why the run ends with the command line. -/
inductive Stop where
  /-- The help is shown on request. -/
  | help
  /-- The help is shown since nothing was asked for. -/
  | helpInstead
  /-- The version is shown on request. -/
  | version
  /-- There is no such parameter, or no place for an argument. -/
  | unknownArgument
  | unknownSubcommand
  | missingSubcommand
  /-- A required parameter is missing. -/
  | missingArgument
  /-- A parameter is given twice, or next to one that excludes it. -/
  | conflict
  /-- A value is given to a parameter that takes none. -/
  | needlessValue
  /-- A value is missing, or is not among the possible ones. -/
  | invalidValue
  /-- A value is no number, or lies outside of its range. -/
  | unreadableValue
  deriving DecidableEq, Repr

/-- The exit status of a run that ends with its command line. -/
def Stop.exitStatus : Stop → Nat
  | .help => 0
  | .version => 0
  | _ => 2

/-- A value as it was understood. -/
inductive Value where
  | text (content : String)
  | integer (number : Int)
  | real (number : Binary64)
  | truth (value : Bool)
  | table (table : Table)
  deriving DecidableEq, Repr

/-- Which texts a parameter takes. -/
inductive Form where
  /-- Any text. -/
  | text
  /-- Any text that is not empty. -/
  | path
  /-- A number from zero up to a bound; it may have a sign. -/
  | upTo (greatest : Int)
  /-- A number of 64 bits with a sign. -/
  | signed
  /-- A number of 64 bits without a sign. -/
  | unsigned
  /-- A decimal number. -/
  | real
  /-- One of the two truth values. -/
  | truth
  /-- The name of a table. -/
  | table
  deriving DecidableEq, Repr

/-- The value of a text that may be no number. -/
def readable (value : Option Value) : Except Stop Value :=
  match value with
  | some value => .ok value
  | none => .error .unreadableValue

/-- The value of a text that may not be among the possible ones. -/
def possible (value : Option Value) : Except Stop Value :=
  match value with
  | some value => .ok value
  | none => .error .invalidValue

def truthNamed? (text : String) : Option Bool :=
  if text = "true" then some true
  else if text = "false" then some false
  else none

/-- The value of a text. -/
def Form.read (form : Form) (text : String) : Except Stop Value :=
  match form with
  | .text => .ok (.text text)
  | .path => possible (if text.isEmpty then none else some (.text text))
  | .upTo greatest =>
    readable (((Numeral.integer? (Nat.pow 2 63) text.toList).filter
      fun number => 0 ≤ number ∧ number ≤ greatest).map .integer)
  | .signed => readable ((Numeral.integer? (Nat.pow 2 63) text.toList).map .integer)
  | .unsigned =>
    readable ((Numeral.natural? (Nat.pow 2 64) text.toList).map
      fun number => .integer (Int.ofNat number))
  | .real => readable ((Binary64.ofText? text.toList).map .real)
  | .truth => possible ((truthNamed? text).map .truth)
  | .table => possible ((Table.ofName? text).map .table)

end DecisionBench.CommandLine
