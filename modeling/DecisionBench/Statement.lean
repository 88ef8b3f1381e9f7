import DecisionBench.Text.Pieces
import DecisionBench.Text.Numeral

/-!
# Statements and their time limits

A statement is read-only if it opens with one of two keywords.  A time limit reaches the server in
two ways: as a session setting, and as a hint behind the opening keyword of each read-only
statement.  The hint is inserted between the keyword and the rest, and nothing else changes.
-/

namespace DecisionBench

/-- A limit on the run time of one statement. -/
inductive Timeout where
  | disabled
  | after (millis : Nat)
  deriving DecidableEq, Repr

namespace Timeout

/-- The greatest signed number of 64 bits. -/
def greatest : Int := 9223372036854775807

/-- The least signed number of 64 bits. -/
def least : Int := -9223372036854775808

/-- A limit in milliseconds; a number that is not positive disables it. -/
def ofMillis (millis : Int) : Timeout :=
  if 0 < millis then .after millis.toNat else .disabled

/-- A limit in seconds, held at the bounds of 64 bits when its milliseconds lie beyond them. -/
def ofSeconds (seconds : Int) : Timeout :=
  ofMillis (max least (min greatest (1000 * seconds)))

def millis? : Timeout → Option Nat
  | .disabled => none
  | .after millis => some millis

def isEnabled (timeout : Timeout) : Bool :=
  timeout.millis?.isSome

def display : Timeout → String
  | .disabled => "disabled"
  | .after millis => String.ofList (Numeral.decimal millis) ++ "ms"

/-- The session setting of a limit, as a statement. -/
def sessionStatement? : Timeout → Option String
  | .disabled => none
  | .after millis =>
    some ("SET SESSION max_execution_time = " ++ String.ofList (Numeral.decimal millis))

/-- The hint of a limit, with the blank that sets it apart from the keyword. -/
def hint (millis : Nat) : List Char :=
  " /*+ MAX_EXECUTION_TIME(".toList ++ Numeral.decimal millis ++ ") */".toList

end Timeout

namespace Statement

/-- The keywords that open a read-only statement. -/
def readOnlyKeywords : List String :=
  ["select", "with"]

/-- The keyword that opens a text, as it is spelled there, and what follows it.  Letters of either
case count, and nothing is asked of the character behind the keyword. -/
def openingKeyword? (text : List Char) : Option (List Char × List Char) :=
  readOnlyKeywords.findSome? fun keyword =>
    (Text.afterFolded keyword.toList text).map fun rest => (text.take keyword.toList.length, rest)

def isReadOnly (statement : String) : Bool :=
  (openingKeyword? (Text.trimStart statement.toList)).isSome

/-- A statement with the hint of a limit behind its opening keyword; a statement that does more than
read, and a disabled limit, leave the text as it is. -/
def hinted (timeout : Timeout) (statement : String) : String :=
  match timeout, openingKeyword? (Text.trimStart statement.toList) with
  | .after millis, some (keyword, rest) =>
    String.ofList (Text.indent statement.toList ++ keyword ++ Timeout.hint millis ++ rest)
  | _, _ => statement

end Statement

end DecisionBench
