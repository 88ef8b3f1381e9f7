import DecisionBench.Load
import DecisionBench.Proofs.Literal

/-!
# The literals of the loading statement

The statement that loads a table has three literals: the path of the file and
the two terminators.  A path always comes back as it is, whatever characters it
has (`path_reads_back`).

A terminator keeps its backslashes and has its quotes doubled, and the two do
not go together: a backslash in front of a quote takes the first of the two
quotes with it, and one at the end takes the quote that closes the literal.
`terminators_end_in_place_iff` says that nothing else can go wrong.
-/

namespace DecisionBench.Load

open Literal Literal.Mode

/-- Whether no backslash of a terminator escapes a quote: none of its own, and
not the one that closes its literal. -/
def escapesNoQuote : List Char → Bool
  | [] => true
  | [c] => c != '\\'
  | c :: d :: rest =>
      if c = '\\' then d != '\x27' && escapesNoQuote rest
      else escapesNoQuote (d :: rest)

theorem denotes_literal (value : List Char) :
    Denotes (value.flatMap literalChar) value := by
  induction value with
  | nil => exact .nil
  | cons c value induction =>
      rw [List.flatMap_cons]
      by_cases backslash : c = '\\'
      · subst c
        exact induction.escaped '\\'
      · by_cases quote : c = '\x27'
        · subst c
          exact induction.doubled
        · simpa [literalChar, backslash, quote] using
            induction.plain quote backslash

section Terminators

variable {terminator : List Char} {mode : Mode}

theorem exists_denotes_terminator (unescaped : escapesNoQuote terminator = true) :
    ∃ value, Denotes (terminator.flatMap terminatorChar) value := by
  induction terminator using escapesNoQuote.induct with
  | case1 => exact ⟨[], .nil⟩
  | case2 c =>
      have notBackslash : c ≠ '\\' := by simpa [escapesNoQuote] using unescaped
      by_cases quote : c = '\x27'
      · subst c
        exact ⟨['\x27'], Denotes.nil.doubled⟩
      · exact ⟨[c], by
          simpa [terminatorChar, quote] using Denotes.nil.plain quote notBackslash⟩
  | case3 d rest induction =>
      obtain ⟨notQuote, later⟩ : d ≠ '\x27' ∧ escapesNoQuote rest = true := by
        simpa [escapesNoQuote] using unescaped
      obtain ⟨value, denotes⟩ := induction later
      exact ⟨escape d ++ value, by
        simpa [terminatorChar, notQuote] using denotes.escaped d⟩
  | case4 c d rest notBackslash induction =>
      rw [escapesNoQuote, if_neg notBackslash] at unescaped
      obtain ⟨value, denotes⟩ := induction unescaped
      rw [List.flatMap_cons]
      by_cases quote : c = '\x27'
      · subst c
        exact ⟨'\x27' :: value, denotes.doubled⟩
      · exact ⟨c :: value, by
          simpa [terminatorChar, quote] using denotes.plain quote notBackslash⟩

theorem isComplete_foldl_terminator (terminator : List Char)
    (complete : mode.isComplete = true) :
    ((terminator.flatMap terminatorChar).foldl next mode).isComplete = true := by
  induction terminator generalizing mode with
  | nil => exact complete
  | cons c terminator induction =>
      rw [List.flatMap_cons, List.foldl_append]
      apply induction
      -- Outside literals a backslash is like any other character, and the quotes
      -- come in pairs.
      by_cases quote : c = '\x27'
      · subst c
        cases mode <;> simp_all [terminatorChar, next, isComplete]
      · cases mode <;> simp_all [terminatorChar, next, isComplete]

theorem exists_inside_of_complete (terminator : List Char)
    (complete : mode.isComplete = true) :
    ∃ value, next ((terminator.flatMap terminatorChar).foldl next mode) '\x27' =
      .inside value := by
  have behind := isComplete_foldl_terminator terminator complete
  cases reached : (terminator.flatMap terminatorChar).foldl next mode with
  | outside => exact ⟨[], rfl⟩
  | closing value => exact ⟨value ++ ['\x27'], rfl⟩
  | inside value => simp [reached, isComplete] at behind
  | escaping value => simp [reached, isComplete] at behind

/-- The literal of a terminator with an escaped quote is still open behind the
quote that was to close it, or open again. -/
theorem exists_inside_of_escapes (start : List Char)
    (escapes : escapesNoQuote terminator = false) :
    ∃ value, next ((terminator.flatMap terminatorChar).foldl next (.inside start))
      '\x27' = .inside value := by
  induction terminator using escapesNoQuote.induct generalizing start with
  | case1 => simp [escapesNoQuote] at escapes
  | case2 c =>
      obtain rfl : c = '\\' := by simpa [escapesNoQuote] using escapes
      exact ⟨start ++ escape '\x27', rfl⟩
  | case3 d rest induction =>
      by_cases quote : d = '\x27'
      · -- The backslash takes the first of the two quotes, and the second ends
        -- the literal too early.
        subst d
        have closed : (Mode.closing (start ++ escape '\x27')).isComplete = true := rfl
        exact exists_inside_of_complete rest closed
      · have later : escapesNoQuote rest = false := by
          simpa [escapesNoQuote, quote] using escapes
        obtain ⟨value, inside⟩ := induction (start ++ escape d) later
        exact ⟨value, by simpa [terminatorChar, quote, next] using inside⟩
  | case4 c d rest notBackslash induction =>
      rw [escapesNoQuote, if_neg notBackslash] at escapes
      rw [List.flatMap_cons, List.foldl_append]
      by_cases quote : c = '\x27'
      · subst c
        exact induction (start ++ ['\x27']) escapes
      · have passed : (terminatorChar c).foldl next (.inside start) =
            .inside (start ++ [c]) := by
          simp [terminatorChar, quote, next, notBackslash]
        rw [passed]
        exact induction (start ++ [c]) escapes

/-- The grammar derives a terminator in its literal exactly if none of its
backslashes escapes a quote. -/
theorem exists_denotes_terminator_iff :
    (∃ value, Denotes (terminator.flatMap terminatorChar) value) ↔
      escapesNoQuote terminator = true := by
  constructor
  · rintro ⟨value, denotes⟩
    cases escapes : escapesNoQuote terminator with
    | true => rfl
    | false =>
        obtain ⟨left, inside⟩ := exists_inside_of_escapes [] escapes
        simp [denotes.foldl_next, next] at inside
  · exact exists_denotes_terminator

end Terminators

section Statement

variable {table : Table} {path : String} {options : LoadOptions}

/-- The text in front of the first literal. -/
def opening : List Char := "LOAD DATA INFILE ".toList

def intoTable (table : Table) : List Char :=
  " INTO TABLE".toList ++
    (" `".toList ++ table.name.toList ++ "` FIELDS TERMINATED BY ".toList)

def betweenEnds : List Char := " LINES TERMINATED BY ".toList

def ignoring (headerLines : Nat) : List Char :=
  " IGNORE ".toList ++ Numeral.decimal headerLines ++ " LINES".toList

/-- The statement with the three literals between the given texts. -/
def template (table : Table) (path fieldEnd lineEnd : List Char)
    (headerLines : Nat) : List Char :=
  opening ++ '\x27' :: (path ++ '\x27' :: (intoTable table ++
    '\x27' :: (fieldEnd ++ '\x27' :: (betweenEnds ++
      '\x27' :: (lineEnd ++ '\x27' :: ignoring headerLines)))))

/-- What the template consists of if each literal ends in its place. -/
def reading (table : Table) (path fieldEnd lineEnd : List Char)
    (headerLines : Nat) : List Lexeme :=
  opening.map .plain ++ .literal path :: (intoTable table).map .plain ++
    .literal fieldEnd :: betweenEnds.map .plain ++
    .literal lineEnd :: (ignoring headerLines).map .plain

theorem toList_statement (table : Table) (path : String) (options : LoadOptions) :
    (statement table path options).toList =
      template table (path.toList.flatMap literalChar)
        (options.fieldEnd.toList.flatMap terminatorChar)
        (options.lineEnd.toList.flatMap terminatorChar) options.headerLines := by
  have toPath : "LOAD DATA INFILE '".toList = opening ++ ['\x27'] := by decide
  have fromPath : "' INTO TABLE `".toList =
      '\x27' :: (" INTO TABLE".toList ++ " `".toList) := by decide
  have toFields : "` FIELDS TERMINATED BY '".toList =
      "` FIELDS TERMINATED BY ".toList ++ ['\x27'] := by decide
  have toLines : "' LINES TERMINATED BY '".toList =
      '\x27' :: (betweenEnds ++ ['\x27']) := by decide
  have fromLines : "' IGNORE ".toList = '\x27' :: " IGNORE ".toList := by decide
  unfold statement literal terminatorLiteral template intoTable ignoring
  simp only [String.toList_append, String.toList_ofList, toPath, fromPath, toFields,
    toLines, fromLines, List.append_assoc, List.cons_append, List.nil_append]

theorem opening_plain : ∀ c ∈ opening, c ≠ '\x27' := by
  have checked : opening.all (· != '\x27') = true := by decide
  simpa using checked

theorem intoTable_plain (table : Table) : ∀ c ∈ intoTable table, c ≠ '\x27' := by
  have checked : (intoTable table).all (· != '\x27') = true := by
    cases table <;> decide
  simpa using checked

theorem betweenEnds_plain : ∀ c ∈ betweenEnds, c ≠ '\x27' ∧ c ≠ '\\' := by
  have checked : betweenEnds.all (fun c => c != '\x27' && c != '\\') = true := by
    decide
  simpa using checked

theorem ignoring_plain (headerLines : Nat) :
    ∀ c ∈ ignoring headerLines, c ≠ '\x27' ∧ c ≠ '\\' := by
  have around : ∀ c ∈ " IGNORE ".toList ++ " LINES".toList,
      c ≠ '\x27' ∧ c ≠ '\\' := by
    simp
  intro c member
  rcases List.mem_append.mp member with front | behind
  · rcases List.mem_append.mp front with word | digit
    · exact around c (List.mem_append_left _ word)
    · have isDigit := Nat.isDigit_of_mem_toDigits (by decide) (by decide) digit
      constructor
      · rintro rfl
        cases isDigit
      · rintro rfl
        cases isDigit
  · exact around c (List.mem_append_right _ behind)

theorem ignoring_ne_nil (headerLines : Nat) : ignoring headerLines ≠ [] :=
  List.append_ne_nil_of_right_ne_nil _ (by decide)

section Template

variable {path fieldEnd lineEnd pathValue fieldValue lineValue : List Char}

theorem lexemes?_template (pathDenotes : Denotes path pathValue)
    (fieldDenotes : Denotes fieldEnd fieldValue)
    (lineDenotes : Denotes lineEnd lineValue) (table : Table) (headerLines : Nat) :
    lexemes? .outside (template table path fieldEnd lineEnd headerLines) =
      some (reading table pathValue fieldValue lineValue headerLines) := by
  have lineRead : lexemes? .outside
      ('\x27' :: (lineEnd ++ '\x27' :: ignoring headerLines)) =
        some (.literal lineValue :: (ignoring headerLines).map .plain) := by
    have read := lineDenotes.lexemes?_quoted
      (fun c member => (ignoring_plain headerLines c member).1)
      (ignoring_ne_nil headerLines) []
    simpa [lexemes?] using read
  have fieldRead := fieldDenotes.lexemes?_quoted
    (fun c member => (betweenEnds_plain c member).1) (by decide)
    ('\x27' :: (lineEnd ++ '\x27' :: ignoring headerLines))
  have pathRead := pathDenotes.lexemes?_quoted (intoTable_plain table)
    (by cases table <;> decide)
    ('\x27' :: (fieldEnd ++ '\x27' :: (betweenEnds ++
      '\x27' :: (lineEnd ++ '\x27' :: ignoring headerLines))))
  rw [template, lexemes?_plain opening_plain, pathRead, fieldRead, lineRead]
  simp [reading]

/-- Where the reader stands behind the two terminators, if one of them escapes
a quote: inside a literal, as every quote of the template then opens what it
was to close. -/
theorem exists_inside_of_terminators
    (escapes : ¬ (escapesNoQuote fieldEnd = true ∧ escapesNoQuote lineEnd = true)) :
    ∃ value, (fieldEnd.flatMap terminatorChar ++ '\x27' :: (betweenEnds ++
      '\x27' :: (lineEnd.flatMap terminatorChar ++ ['\x27']))).foldl next
        (.inside []) = .inside value := by
  simp only [List.foldl_append, List.foldl_cons, List.foldl_nil]
  cases fieldEscapes : escapesNoQuote fieldEnd with
  | false =>
      obtain ⟨value, inside⟩ := exists_inside_of_escapes [] fieldEscapes
      rw [inside, (Denotes.of_plain betweenEnds_plain).foldl_next]
      exact exists_inside_of_complete lineEnd rfl
  | true =>
      have lineEscapes : escapesNoQuote lineEnd = false := by
        simpa [fieldEscapes] using escapes
      obtain ⟨value, denotes⟩ := exists_denotes_terminator fieldEscapes
      have closed : betweenEnds.foldl next (.closing value) = .outside :=
        foldl_next_closing (fun c member => (betweenEnds_plain c member).1) (by decide)
      simpa [denotes.foldl_next, next, closed] using
        exists_inside_of_escapes [] lineEscapes

theorem lexemes?_template_of_escapes (pathDenotes : Denotes path pathValue)
    (escapes : ¬ (escapesNoQuote fieldEnd = true ∧ escapesNoQuote lineEnd = true))
    (table : Table) (headerLines : Nat) :
    lexemes? .outside (template table path (fieldEnd.flatMap terminatorChar)
      (lineEnd.flatMap terminatorChar) headerLines) = none := by
  have table_some : intoTable table ≠ [] := by cases table <;> decide
  have closed : (intoTable table).foldl next (.closing pathValue) = .outside :=
    foldl_next_closing (intoTable_plain table) table_some
  obtain ⟨value, inside⟩ := exists_inside_of_terminators escapes
  simp only [List.foldl_append, List.foldl_cons, List.foldl_nil] at inside
  have ended : (template table path (fieldEnd.flatMap terminatorChar)
      (lineEnd.flatMap terminatorChar) headerLines).foldl next .outside =
        .inside (value ++ ignoring headerLines) := by
    simp only [template, List.foldl_append, List.foldl_cons,
      foldl_next_outside opening_plain]
    have opened : next .outside '\x27' = .inside [] := rfl
    have pathClosed : next (.inside pathValue) '\x27' = .closing pathValue := rfl
    rw [opened, pathDenotes.foldl_next, List.nil_append, pathClosed, closed, opened,
      inside, (Denotes.of_plain (ignoring_plain headerLines)).foldl_next]
  have unfinished := isSome_lexemes? .outside (template table path
    (fieldEnd.flatMap terminatorChar) (lineEnd.flatMap terminatorChar) headerLines)
  rw [ended] at unfinished
  exact Option.not_isSome_iff_eq_none.mp (Bool.eq_false_iff.mp unfinished)

end Template

theorem exists_rest_of_statement (table : Table) (path : String)
    (options : LoadOptions) :
    ∃ rest, (statement table path options).toList =
      opening ++ '\x27' :: ((literal path).toList ++
        '\x27' :: (" INTO TABLE".toList ++ rest)) := by
  rw [toList_statement, literal, String.toList_ofList]
  unfold template intoTable
  rw [List.append_assoc " INTO TABLE".toList]
  exact ⟨_, rfl⟩

/-- A path comes back from its literal as it is, and the literal ends where it
is closed.  So it is with the first literal of the statement that loads a
table, for every path, table and options. -/
theorem path_reads_back (path : String) :
    (∀ rest : List Char, rest.head? ≠ some '\x27' →
        literal? .outside ('\x27' :: ((literal path).toList ++ '\x27' :: rest)) =
          some (path.toList, rest)) ∧
      ∀ (table : Table) (options : LoadOptions), ∃ rest,
        (statement table path options).toList =
            "LOAD DATA INFILE '".toList ++ (literal path).toList ++
              '\x27' :: (" INTO TABLE".toList ++ rest) ∧
          literal? .outside (statement table path options).toList =
            some (path.toList, " INTO TABLE".toList ++ rest) := by
  have readsBack (rest : List Char) (behind : rest.head? ≠ some '\x27') :
      literal? .outside ('\x27' :: ((literal path).toList ++ '\x27' :: rest)) =
        some (path.toList, rest) := by
    rw [literal, String.toList_ofList]
    exact (literal?_quoted_iff behind).mpr (denotes_literal path.toList)
  refine ⟨readsBack, ?_⟩
  intro table options
  have toPath : "LOAD DATA INFILE '".toList = opening ++ ['\x27'] := by decide
  obtain ⟨rest, split⟩ := exists_rest_of_statement table path options
  refine ⟨rest, ?_, ?_⟩
  · rw [split, toPath]
    simp only [List.append_assoc, List.cons_append, List.nil_append]
  · rw [split, literal?_plain opening_plain]
    exact readsBack _ (by simp)

theorem quoted_path_reads_back :
    " INTO TABLE".toList.head? ≠ some '\x27' ∧
      literal? .outside ('\x27' :: ((literal "C:\\o'brien\\").toList ++
        '\x27' :: " INTO TABLE".toList)) =
          some ("C:\\o'brien\\".toList, " INTO TABLE".toList) :=
  ⟨by decide, (path_reads_back "C:\\o'brien\\").1 " INTO TABLE".toList (by decide)⟩

/-- A terminator ends in its place, whatever follows, exactly if none of its
backslashes escapes a quote.  The statement that loads a table is read with its
three literals and nothing else of the path and the terminators exactly if this
holds of both terminators. -/
theorem terminators_end_in_place_iff (terminator : String) (table : Table)
    (path : String) (options : LoadOptions) :
    (∀ rest : List Char, rest.head? ≠ some '\x27' →
        ((∃ value, literal? .outside
            ('\x27' :: ((terminatorLiteral terminator).toList ++ '\x27' :: rest)) =
              some (value, rest)) ↔
          escapesNoQuote terminator.toList = true)) ∧
      ((∃ fieldEnd lineEnd, lexemes? .outside (statement table path options).toList =
          some (reading table path.toList fieldEnd lineEnd options.headerLines)) ↔
        escapesNoQuote options.fieldEnd.toList = true ∧
          escapesNoQuote options.lineEnd.toList = true) := by
  constructor
  · intro rest behind
    rw [terminatorLiteral, String.toList_ofList, ← exists_denotes_terminator_iff]
    exact exists_congr fun value => literal?_quoted_iff behind
  · rw [toList_statement]
    have pathDenotes := denotes_literal path.toList
    constructor
    · rintro ⟨fieldEnd, lineEnd, read⟩
      by_cases unescaped : escapesNoQuote options.fieldEnd.toList = true ∧
          escapesNoQuote options.lineEnd.toList = true
      · exact unescaped
      · rw [lexemes?_template_of_escapes pathDenotes unescaped] at read
        cases read
    · rintro ⟨fieldUnescaped, lineUnescaped⟩
      obtain ⟨fieldEnd, fieldDenotes⟩ := exists_denotes_terminator fieldUnescaped
      obtain ⟨lineEnd, lineDenotes⟩ := exists_denotes_terminator lineUnescaped
      exact ⟨fieldEnd, lineEnd, lexemes?_template pathDenotes fieldDenotes lineDenotes
        table options.headerLines⟩

theorem tab_ends_in_place :
    " LINES".toList.head? ≠ some '\x27' ∧
      ∃ value, literal? .outside
        ('\x27' :: ((terminatorLiteral "\\t'").toList ++ '\x27' :: " LINES".toList)) =
          some (value, " LINES".toList) := by
  have behind : " LINES".toList.head? ≠ some '\x27' := by decide
  have stated := terminators_end_in_place_iff "\\t'" .nation "/data/nation.csv"
    ⟨"/data", [.nation], false, "\\t'", "\\n", 1⟩
  exact ⟨behind, (stated.1 " LINES".toList behind).mpr (by decide)⟩

/-- A quote behind a backslash leaves the literal open, or ends it with the rest
of the terminator outside. -/
theorem escaped_quote_breaks_out :
    literal? .outside ('\x27' :: ((terminatorLiteral "\\'").toList ++
        '\x27' :: " LINES".toList)) = none ∧
      literal? .outside ('\x27' :: ((terminatorLiteral "\\',").toList ++
        '\x27' :: " LINES".toList)) = some (['\x27'], ",' LINES".toList) ∧
      lexemes? .outside (statement .nation "/data/nation.csv"
        ⟨"/data", [.nation], false, "\\'", "\\n", 1⟩).toList = none := by
  refine ⟨by decide, by decide, ?_⟩
  rw [toList_statement]
  exact lexemes?_template_of_escapes (denotes_literal _) (by decide) .nation 1

end Statement

end DecisionBench.Load
