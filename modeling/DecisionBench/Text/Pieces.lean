import DecisionBench.Text.Blank

/-!
# Cutting texts

`pieces` cuts a text at every character of a class and forgets those characters; everything else
that is cut here (words, lines, fields) is derived from it.  `occurs` finds a text inside another,
and `afterFolded` removes a key from the front without regard to ASCII case.
-/

namespace DecisionBench.Text

/-- The parts of a text between the characters that satisfy `cut`, which are dropped.  A text with
`n` such characters has `n + 1` pieces. -/
def pieces (cut : Char → Bool) : List Char → List (List Char)
  | [] => [[]]
  | c :: rest =>
    if cut c then
      [] :: pieces cut rest
    else
      match pieces cut rest with
      | [] => [[c]]
      | piece :: more => (c :: piece) :: more

/-- The words of a text: its maximal runs of characters that are not blank. -/
def words (text : List Char) : List (List Char) :=
  (pieces isBlank text).filter (! ·.isEmpty)

/-- A line without the carriage return that closes it. -/
def withoutReturn (line : List Char) : List Char :=
  if line.getLast? = some '\r' then line.dropLast else line

/-- The lines among the pieces between line feeds: what follows the last line feed is a line only
if it is not empty, and keeps its carriage return. -/
def linesOfPieces : List (List Char) → List (List Char)
  | [] => []
  | [last] => if last.isEmpty then [] else [last]
  | line :: more => withoutReturn line :: linesOfPieces more

/-- The lines of a text, ended by a line feed or by a carriage return and a line feed. -/
def lines (text : List Char) : List (List Char) :=
  linesOfPieces (pieces (· == '\n') text)

/-- Whether `needle` stands somewhere in a text. -/
def occurs (needle : List Char) : List Char → Bool
  | [] => needle.isEmpty
  | c :: rest => needle.isPrefixOf (c :: rest) || occurs needle rest

theorem occurs_iff {needle text : List Char} :
    occurs needle text = true ↔ needle <:+: text := by
  induction text with
  | nil => simp [occurs]
  | cons c text induction =>
      rw [occurs, Bool.or_eq_true, induction, List.isPrefixOf_iff_prefix,
        List.infix_cons_iff]

def contains (text needle : String) : Bool :=
  occurs needle.toList text.toList

/-- What follows `key` at the front of a text, where letters of ASCII count the same in either
case. -/
def afterFolded : List Char → List Char → Option (List Char)
  | [], text => some text
  | _ :: _, [] => none
  | k :: key, c :: text => if k.toLower = c.toLower then afterFolded key text else none

theorem afterFolded_eq_some_iff {key text rest : List Char} :
    afterFolded key text = some rest ↔
      ∃ front, text = front ++ rest ∧ front.map Char.toLower = key.map Char.toLower := by
  induction key generalizing text with
  | nil => simp [afterFolded, eq_comm]
  | cons k key induction =>
    cases text with
    | nil => simp [afterFolded]
    | cons c text =>
      constructor
      · intro found
        rw [afterFolded] at found
        split at found
        · rename_i same
          obtain ⟨front, rfl, folded⟩ := induction.mp found
          exact ⟨c :: front, rfl, by simp [same, folded]⟩
        · cases found
      · rintro ⟨front, split, folded⟩
        cases front with
        | nil => simp at folded
        | cons d front =>
          obtain ⟨rfl, rfl⟩ := List.cons.inj split
          simp only [List.map_cons, List.cons.injEq] at folded
          rw [afterFolded, if_pos folded.1.symm]
          exact induction.mpr ⟨front, rfl, folded.2⟩

/-- Equality of texts up to the case of ASCII letters. -/
def equalFolded (left right : List Char) : Bool :=
  left.map Char.toLower == right.map Char.toLower

/-- What follows `key` at the front of a text. -/
def afterKey? : List Char → List Char → Option (List Char)
  | [], text => some text
  | _ :: _, [] => none
  | k :: key, c :: text => if k = c then afterKey? key text else none

/-- The texts of a list with a separator between neighbours. -/
def joined (separator : String) (texts : List String) : String :=
  String.ofList (List.intercalate separator.toList (texts.map String.toList))

/-- Every text read as a list of characters is cut, and each part is a text again. -/
def linesOf (text : String) : List String :=
  (lines text.toList).map String.ofList

end DecisionBench.Text
