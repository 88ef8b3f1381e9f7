/-!
# Values of a TOML document

The values that a TOML document can hold.  Of a number with a fraction and of a point in time only
the kind is kept, since no setting takes one.
-/

namespace DecisionBench.Toml

inductive Value where
  | text (content : String)
  | integer (value : Int)
  | fractional
  | boolean (value : Bool)
  | moment
  | array (items : List Value)
  | table (entries : List (String × Value))
  deriving Repr

/-- The value of a key among entries. -/
def lookup? {α : Type} (key : String) : List (String × α) → Option α
  | [] => none
  | (name, value) :: rest => if name = key then some value else lookup? key rest

/-- Entries in which a key has a new value; a new key comes last. -/
def store {α : Type} (key : String) (value : α) : List (String × α) → List (String × α)
  | [] => [(key, value)]
  | (name, old) :: rest =>
    if name = key then (name, value) :: rest else (name, old) :: store key value rest

def discard {α : Type} (key : String) (entries : List (String × α)) : List (String × α) :=
  entries.filter fun entry => entry.1 ≠ key

end DecisionBench.Toml
