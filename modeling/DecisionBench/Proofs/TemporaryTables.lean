import DecisionBench.Proofs.Shadow
import DecisionBench.Proofs.Splitting

/-!
# Definitions of temporary tables

A statement creates a table if it opens, behind its blanks, with the two words for
that, and the second one ends there (`Creates`, `EndsWord`).  `BecomesTemporary`
makes such a statement create a temporary table and leaves every other one alone.

The rewriting of definitions looks for the letters of the two words only, and not
whether the second word ends.  It thus does what `BecomesTemporary` says except where a
longer name begins with the letters of the second word
(`temporary_iff_word_ends`).
-/

namespace DecisionBench.Precheck

open Text

/-- A character that goes on with a name. -/
def continuesName (c : Char) : Bool :=
  c.isAlphanum || c == '_' || c == '$'

/-- A text opens with the letters of the words that create a table. -/
structure Creates (text indent words rest : List Char) : Prop where
  text_eq : text = indent ++ (words ++ rest)
  blank : AllBlank indent
  folded : words.map Char.toLower = "create table".toList

/-- What stands in front of this rest is a whole word. -/
def EndsWord (rest : List Char) : Prop :=
  ∀ c ∈ rest.head?, continuesName c = false

/-- Only a statement that creates a table becomes one that creates a temporary table. -/
inductive BecomesTemporary (text : List Char) : List Char → Prop where
  | table {indent words rest : List Char} :
      Creates text indent words rest → EndsWord rest →
      BecomesTemporary text (indent ++ "CREATE TEMPORARY TABLE".toList ++ rest)
  | other :
      (∀ indent words rest, Creates text indent words rest → ¬ EndsWord rest) →
      BecomesTemporary text text

namespace Creates

variable {text indent words rest : List Char}

theorem trimStart_words (creates : Creates text indent words rest) (tail : List Char) :
    trimStart (words ++ tail) = words ++ tail := by
  cases words with
  | nil => cases creates.folded
  | cons first words =>
      have letter : first.toLower = 'c' := (List.cons.inj creates.folded).1
      have dark : isBlank first = false := by
        rw [← isBlank_toLower, letter]
        rfl
      exact trimStart_eq_self fun c member => by cases member; exact dark

theorem trimStart_eq (creates : Creates text indent words rest) :
    trimStart text = words ++ rest := by
  rw [creates.text_eq, trimStart, List.dropWhile_append_of_pos creates.blank]
  exact creates.trimStart_words rest

theorem indent_eq (creates : Creates text indent words rest) : Text.indent text = indent := by
  have whole := indent_append_trimStart text
  rw [creates.trimStart_eq] at whole
  exact List.append_cancel_right (whole.trans creates.text_eq)

theorem afterFolded_eq (creates : Creates text indent words rest) :
    afterFolded "create table".toList (trimStart text) = some rest := by
  have small : "create table".toList.map Char.toLower = "create table".toList := by decide
  rw [creates.trimStart_eq, afterFolded_eq_some_iff]
  exact ⟨words, rfl, creates.folded.trans small.symm⟩

theorem temporaryText_eq (creates : Creates text indent words rest) :
    temporaryText text = indent ++ "CREATE TEMPORARY TABLE".toList ++ rest := by
  simp only [temporaryText, creates.afterFolded_eq, creates.indent_eq]

/-- The word in the middle makes the text longer. -/
theorem temporaryText_ne (creates : Creates text indent words rest) :
    temporaryText text ≠ text := by
  intro same
  have lengths := congrArg List.length (creates.temporaryText_eq.symm.trans same)
  have letters := congrArg List.length creates.folded
  rw [creates.text_eq] at lengths
  simp only [List.length_append, List.length_map] at lengths letters
  have written : "CREATE TEMPORARY TABLE".toList.length = 22 := rfl
  have given : "create table".toList.length = 12 := rfl
  omega

end Creates

theorem creates_of_afterFolded {text rest : List Char}
    (found : afterFolded "create table".toList (trimStart text) = some rest) :
    ∃ words, Creates text (Text.indent text) words rest := by
  obtain ⟨words, split, folded⟩ := afterFolded_eq_some_iff.mp found
  have small : "create table".toList.map Char.toLower = "create table".toList := by decide
  refine ⟨words, ⟨?_, fun _ => isBlank_of_mem_indent, folded.trans small⟩⟩
  rw [← split, indent_append_trimStart]

theorem temporaryText_eq_self {text : List Char}
    (other : ∀ indent words rest, ¬ Creates text indent words rest) :
    temporaryText text = text := by
  unfold temporaryText
  split
  · rename_i rest found
    obtain ⟨words, creates⟩ := creates_of_afterFolded found
    exact absurd creates (other _ words rest)
  · rfl

theorem temporaryText_temporaryText (text : List Char) :
    temporaryText (temporaryText text) = temporaryText text := by
  cases found : afterFolded "create table".toList (trimStart text) with
  | none =>
      have same : temporaryText text = text := by simp only [temporaryText, found]
      rw [same, same]
  | some rest =>
      obtain ⟨words, creates⟩ := creates_of_afterFolded found
      have changed := creates.temporaryText_eq
      -- The new second word does not begin like the one that is looked for.
      have settled : afterFolded "create table".toList (trimStart (temporaryText text)) =
          none := by
        rw [changed, List.append_assoc, trimStart, List.dropWhile_append_of_pos creates.blank]
        rfl
      simp only [temporaryText.eq_def (temporaryText text), settled]

theorem becomesTemporary_iff {text : List Char} :
    BecomesTemporary text (temporaryText text) ↔
      ∀ indent words rest, Creates text indent words rest → EndsWord rest := by
  constructor
  · intro becomes indent words rest creates
    generalize result_eq : temporaryText text = result at becomes
    cases becomes with
    | table others ends =>
        have same := creates.afterFolded_eq.symm.trans others.afterFolded_eq
        rwa [Option.some.inj same]
    | other => exact absurd result_eq creates.temporaryText_ne
  · intro ends
    by_cases creates : ∃ indent words rest, Creates text indent words rest
    · obtain ⟨indent, words, rest, creates⟩ := creates
      rw [creates.temporaryText_eq]
      exact .table creates (ends indent words rest creates)
    · have others : ∀ indent words rest, ¬ Creates text indent words rest :=
        fun indent words rest found => creates ⟨indent, words, rest, found⟩
      rw [temporaryText_eq_self others]
      exact .other fun indent words rest found => absurd found (others indent words rest)

/-- A second rewriting changes nothing.  The first one does to a statement what
is right exactly if no longer name begins with the letters of the second word: every
statement that opens with the letters of the two words is made temporary, and all
others stay as they are. -/
theorem temporary_iff_word_ends (statement : String) :
    temporaryDefinition (temporaryDefinition statement) = temporaryDefinition statement ∧
      (BecomesTemporary statement.toList (temporaryDefinition statement).toList ↔
        ∀ indent words rest, Creates statement.toList indent words rest → EndsWord rest) ∧
      (∀ indent words rest, Creates statement.toList indent words rest →
        (temporaryDefinition statement).toList =
            indent ++ "CREATE TEMPORARY TABLE".toList ++ rest ∧
          temporaryDefinition statement ≠ statement) ∧
      ((∀ indent words rest, ¬ Creates statement.toList indent words rest) →
        temporaryDefinition statement = statement) := by
  have rewritten := toList_temporaryDefinition statement
  refine ⟨?_, ?_, ?_, ?_⟩
  · apply String.toList_injective
    rw [toList_temporaryDefinition, rewritten, temporaryText_temporaryText]
  · rw [rewritten]
    exact becomesTemporary_iff
  · intro indent words rest creates
    constructor
    · rw [rewritten, creates.temporaryText_eq]
    · intro same
      rw [same] at rewritten
      exact creates.temporaryText_ne rewritten.symm
  · intro others
    apply String.toList_injective
    rw [rewritten, temporaryText_eq_self others]

/-- The definition of a tablespace is torn apart. -/
theorem tablespace_made_temporary :
    let statement := "create tablespace ts1"
    Creates statement.toList [] "create table".toList "space ts1".toList ∧
      ¬ EndsWord "space ts1".toList ∧
      temporaryDefinition statement = "CREATE TEMPORARY TABLEspace ts1" ∧
      ¬ BecomesTemporary statement.toList (temporaryDefinition statement).toList := by
  intro statement
  have creates : Creates statement.toList [] "create table".toList "space ts1".toList :=
    ⟨by decide, by simp [AllBlank], by decide⟩
  have continues : ¬ EndsWord "space ts1".toList := fun ends =>
    absurd (ends 's' rfl) (by decide)
  have rewritten := toList_temporaryDefinition statement
  refine ⟨creates, continues, ?_, ?_⟩
  · apply String.toList_injective
    rw [rewritten, creates.temporaryText_eq]
    rfl
  · rw [rewritten, becomesTemporary_iff]
    exact fun ends => continues (ends _ _ _ creates)

end DecisionBench.Precheck
