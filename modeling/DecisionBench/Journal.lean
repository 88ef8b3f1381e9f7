import DecisionBench.Text.Numeral

/-!
# The journal of a run

A run tells what it does in journal entries, each with a level, the part of the program that speaks,
and a message.
-/

namespace DecisionBench.Journal

/-- How important an entry is. -/
inductive Level where
  | error
  | warning
  | information
  | detail
  deriving DecidableEq, Repr

def Level.word : Level → String
  | .error => "ERROR"
  | .warning => "WARN"
  | .information => "INFO"
  | .detail => "DEBUG"

/-- The rank of a level: the less important, the higher. -/
def Level.rank : Level → Nat
  | .error => 1
  | .warning => 2
  | .information => 3
  | .detail => 4

/-- The part of the program that makes an entry. -/
inductive Speaker where
  | program
  | session
  | server
  | schema
  | generator
  | load
  | precheck
  | batch
  | report
  | setup
  deriving DecidableEq, Repr

/-- The path of a part, by which a filter addresses it. -/
def Speaker.path : Speaker → String
  | .program => "tpch_mysql"
  | .session => "tpch_mysql::connection::manager"
  | .server => "tpch_mysql::db::mysql"
  | .schema => "tpch_mysql::schema"
  | .generator => "tpch_mysql::generate"
  | .load => "tpch_mysql::load"
  | .precheck => "tpch_mysql::harness::precheck"
  | .batch => "tpch_mysql::harness"
  | .report => "tpch_mysql::commands::run"
  | .setup => "tpch_mysql::commands::setup"

structure Entry where
  level : Level
  speaker : Speaker
  message : String
  deriving DecidableEq, Repr

/-- One character of a message as it is shown.  What a terminal would take for the beginning of a
command, rather than for a character to show, is written by its number. -/
def shownChar (c : Char) : List Char :=
  let n := c.toNat
  if [0x07, 0x08, 0x0C, 0x1B, 0x7F].contains n then
    ['\\', 'x', Nat.digitChar (n / 16), Nat.digitChar (n % 16)]
  else if 0x80 ≤ n ∧ n ≤ 0x9F then
    '\\' :: 'u' :: '\x7b' :: Numeral.hexadecimal n ++ ['\x7d']
  else [c]

def Entry.shown (entry : Entry) : String :=
  String.ofList (entry.message.toList.flatMap shownChar)

end DecisionBench.Journal
