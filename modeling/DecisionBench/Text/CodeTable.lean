import DecisionBench.Text.Blank
import DecisionBench.Text.Numeral
import DecisionBench.Text.Pieces

/-!
# Tables of code points

A table gives numbers to code points.  It is written in words: a code point or the two ends of a
range in hexadecimal digits, a colon, and the numbers with commas between them.
-/

namespace DecisionBench.Text

/-- The numbers that a range of code points has. -/
structure CodeEntry where
  first : Nat
  last : Nat
  values : List Nat
  deriving DecidableEq, Repr

abbrev CodeTable := List CodeEntry

namespace CodeTable

/-- The number that hexadecimal digits write. -/
def number (digits : List Char) : Nat :=
  digits.foldl (fun value c => 16 * value + (Numeral.hexDigit? c).getD 0) 0

/-- The entry that a word writes. -/
def ofWord (word : List Char) : CodeEntry :=
  let range := word.takeWhile (· != ':')
  let values := (pieces (· == ',') (word.drop (range.length + 1))).filter (! ·.isEmpty)
  let ends := (pieces (· == '-') range).map number
  ⟨ends.headD 0, ends.getLastD 0, values.map number⟩

/-- The table that a text writes. -/
def ofText (text : String) : CodeTable :=
  (words text.toList).map ofWord

def entry? (table : CodeTable) (n : Nat) : Option CodeEntry :=
  table.find? fun entry => entry.first ≤ n && n ≤ entry.last

/-- The numbers that a code point has. -/
def values? (table : CodeTable) (n : Nat) : Option (List Nat) :=
  (table.entry? n).map CodeEntry.values

end CodeTable

end DecisionBench.Text
