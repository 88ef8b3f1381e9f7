/-!
# Refusals of the operating system

Why the operating system refuses a request, and the text that tells so.
-/

namespace DecisionBench

/-- A refusal of the operating system. -/
inductive OsError where
  /-- There is nothing at the path. -/
  | missing
  | denied
  /-- There is something at the path already. -/
  | alreadyThere
  /-- A path leads through something that is no directory. -/
  | notDirectory
  /-- A directory stands where a file is needed. -/
  | isDirectory
  | nameTooLong
  /-- Symbolic links lead to each other. -/
  | tooManyLinks
  /-- No network leads to the address. -/
  | networkUnreachable
  /-- Nobody listens at the address. -/
  | connectionRefused
  /-- A path holds the character that ends texts for the operating system, which is not asked. -/
  | zeroInPath
  deriving DecidableEq, Repr

namespace OsError

/-- The number of a refusal; one that the operating system did not make has none. -/
def number? : OsError → Option Nat
  | .missing => some 2
  | .denied => some 13
  | .alreadyThere => some 17
  | .notDirectory => some 20
  | .isDirectory => some 21
  | .nameTooLong => some 36
  | .tooManyLinks => some 40
  | .networkUnreachable => some 101
  | .connectionRefused => some 111
  | .zeroInPath => none

/-- What a refusal is called. -/
def name : OsError → String
  | .missing => "No such file or directory"
  | .denied => "Permission denied"
  | .alreadyThere => "File exists"
  | .notDirectory => "Not a directory"
  | .isDirectory => "Is a directory"
  | .nameTooLong => "File name too long"
  | .tooManyLinks => "Too many levels of symbolic links"
  | .networkUnreachable => "Network is unreachable"
  | .connectionRefused => "Connection refused"
  | .zeroInPath => "file name contained an unexpected NUL byte"

/-- The text of a refusal: its name and its number. -/
def text (cause : OsError) : String :=
  match cause.number? with
  | some number => cause.name ++ " (os error " ++ toString number ++ ")"
  | none => cause.name

def all : List OsError :=
  [.missing, .denied, .alreadyThere, .notDirectory, .isDirectory, .nameTooLong, .tooManyLinks,
   .networkUnreachable, .connectionRefused]

def ofNumber? (number : Nat) : Option OsError :=
  all.find? fun cause => cause.number? == some number

end OsError

end DecisionBench
