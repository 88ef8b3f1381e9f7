import DecisionBench.Proofs.Hint
import DecisionBench.Schema
import Mathlib.Data.List.SplitBy

/-!
# The tables that a statement opens

A statement opens a table wherever the name of the table stands right behind
`from`, `join` or a comma.  `reopens` tells whether it opens one table of the
benchmark at two places or more.

The hint of a time limit opens nothing: unless it cuts a word in two, the
statement opens the same tables with it as without it (`reopens_hinted`).
-/

namespace DecisionBench.Reference

def isWordChar (c : Char) : Bool :=
  c.isAlphanum || c == '_' || c == '$' || (0x80 ≤ c.toNat && !Text.isBlank c)

/-- The words of a text and its other characters one by one, blanks aside. -/
def tokens (text : List Char) : List (List Char) :=
  (text.splitBy fun left right => isWordChar left && isWordChar right).filter
    fun token => !token.all Text.isBlank

/-- Whether the name behind a token is that of a table to be opened. -/
def isOpener (token : List Char) : Bool :=
  token == [','] || Text.equalFolded token "from".toList ||
    Text.equalFolded token "join".toList

/-- At how many places a table is opened. -/
def openings (table : Table) : List (List Char) → Nat
  | first :: second :: rest =>
      (if isOpener first && Text.equalFolded second table.name.toList then 1 else 0) +
        openings table (second :: rest)
  | _ => 0

/-- Whether some table of the benchmark is opened at two places or more. -/
def reopens (text : List Char) : Bool :=
  Table.all.any fun table => 2 ≤ openings table (tokens text)

section Openings

variable {table : Table} {front rest : List (List Char)}

theorem openings_append (closed : ∀ token ∈ front.getLast?, isOpener token = false) :
    openings table (front ++ rest) = openings table front + openings table rest := by
  induction front with
  | nil => simp [openings]
  | cons first front induction =>
      cases front with
      | nil =>
          have notOpener : isOpener first = false := closed first rfl
          cases rest <;> simp [openings, notOpener]
      | cons second front =>
          have later := induction fun token last => closed token (by simpa using last)
          simp only [List.cons_append, openings] at later ⊢
          rw [later, Nat.add_assoc]

theorem openings_eq_zero (closed : ∀ token ∈ front, isOpener token = false) :
    openings table front = 0 := by
  induction front with
  | nil => rfl
  | cons first front induction =>
      obtain ⟨notOpener, closedLater⟩ := List.forall_mem_cons.mp closed
      cases front with
      | nil => rfl
      | cons second front => simp [openings, notOpener, induction closedLater]

end Openings

section Tokens

variable {token text front rest : List Char}

theorem tokens_append (apart : ∀ left ∈ front.getLast?, ∀ right ∈ rest.head?,
    (isWordChar left && isWordChar right) = false) :
    tokens (front ++ rest) = tokens front ++ tokens rest := by
  rw [tokens, List.splitBy_append apart, List.filter_append]
  rfl

theorem mem_of_mem_tokens (member : token ∈ tokens text) : ∀ c ∈ token, c ∈ text := by
  intro c inToken
  rw [← List.flatten_splitBy (fun left right => isWordChar left && isWordChar right) text]
  exact List.mem_flatten.mpr ⟨token, (List.mem_filter.mp member).1, inToken⟩

/-- The first letters of the tokens behind which a table is opened. -/
def isInitial (c : Char) : Bool :=
  [',', 'f', 'j'].contains c.toLower

theorem isOpener_eq_false (plain : ∀ c ∈ token, isInitial c = false) :
    isOpener token = false := by
  cases token with
  | nil => rfl
  | cons first token =>
      have notInitial : isInitial first = false := plain first List.mem_cons_self
      simp only [isInitial, List.contains_eq_mem, List.mem_cons, List.not_mem_nil,
        or_false, decide_eq_false_iff_not, not_or] at notInitial
      obtain ⟨notComma, notF, notJ⟩ := notInitial
      have comma : first ≠ ',' := fun same => notComma (by rw [same]; rfl)
      simp [isOpener, Text.equalFolded, comma, notF, notJ]

theorem openings_of_plain {table : Table} (plain : ∀ c ∈ front, isInitial c = false)
    (apart : ∀ c ∈ rest.head?, isWordChar c = false) :
    openings table (tokens (front ++ rest)) = openings table (tokens rest) := by
  have closed : ∀ token ∈ tokens front, isOpener token = false := by
    intro token member
    exact isOpener_eq_false fun c inToken => plain c (mem_of_mem_tokens member c inToken)
  have cut : tokens (front ++ rest) = tokens front ++ tokens rest := by
    apply tokens_append
    intro left _ right next
    rw [apart right next, Bool.and_false]
  rw [cut, openings_append fun token last => closed token (List.mem_of_getLast? last),
    openings_eq_zero closed, Nat.zero_add]

end Tokens

section Hint

theorem isInitial_of_isBlank {c : Char} (blank : Text.isBlank c = true) :
    isInitial c = false := by
  rw [← Text.isBlank_toLower] at blank
  have different {d : Char} (dark : Text.isBlank d = false) : c.toLower ≠ d := by
    intro same
    rw [same, dark] at blank
    cases blank
  simp [isInitial, different (show Text.isBlank ',' = false by decide),
    different (show Text.isBlank 'f' = false by decide),
    different (show Text.isBlank 'j' = false by decide)]

theorem isInitial_of_isDigit {c : Char} (digit : c.isDigit = true) :
    isInitial c = false := by
  obtain ⟨low, high⟩ : 48 ≤ c.toNat ∧ c.toNat ≤ 57 := Char.isDigit_iff_toNat.mp digit
  have same : c.toLower = c := by
    delta Char.toLower
    rw [dif_neg fun upper => Nat.not_le_of_lt (Nat.lt_of_le_of_lt high (by decide)) upper.1]
  have different {d : Char} (outside : d.toNat < 48 ∨ 57 < d.toNat) : c ≠ d := by
    rintro rfl
    omega
  simp [isInitial, same, different]

theorem isInitial_hint (millis : Nat) :
    ∀ c ∈ Timeout.hint millis, isInitial c = false := by
  have opening : " /*+ MAX_EXECUTION_TIME(".toList.any isInitial = false := by decide
  have closing : ") */".toList.any isInitial = false := by decide
  rw [List.any_eq_false] at opening closing
  intro c member
  rcases List.mem_append.mp member with front | last
  · rcases List.mem_append.mp front with first | digit
    · simpa using opening c first
    · exact isInitial_of_isDigit
        (Nat.isDigit_of_mem_toDigits (by decide) (by decide) digit)
  · simpa using closing c last

theorem isInitial_keyword {keyword : List Char} {key : String}
    (member : key ∈ Statement.readOnlyKeywords)
    (folded : keyword.map Char.toLower = key.toList.map Char.toLower) :
    ∀ c ∈ keyword, isInitial c = false := by
  have plain : Statement.readOnlyKeywords.all (fun key =>
      (key.toList.map Char.toLower).all (! [',', 'f', 'j'].contains ·)) = true := by
    decide
  have plainKey := List.all_eq_true.mp (List.all_eq_true.mp plain key member)
  intro c inKeyword
  have inKey : c.toLower ∈ key.toList.map Char.toLower := by
    rw [← folded]
    exact List.mem_map_of_mem inKeyword
  rw [isInitial, ← Bool.not_eq_true']
  exact plainKey c.toLower inKey

/-- Whether the opening keyword of a text is a whole word of it, so that a hint
cuts no word in two. -/
def opensWithWord (text : List Char) : Bool :=
  (Statement.openingKeyword? (Text.trimStart text)).all
    fun parts => parts.2.head?.all (! isWordChar ·)

theorem reopens_hinted {statement : String} (timeout : Timeout)
    (apart : opensWithWord statement.toList = true) :
    reopens (Statement.hinted timeout statement).toList = reopens statement.toList := by
  cases timeout with
  | disabled => rfl
  | after millis =>
      cases opens : Statement.openingKeyword? (Text.trimStart statement.toList) with
      | none => simp [Statement.hinted, opens]
      | some parts =>
          obtain ⟨keyword, rest⟩ := parts
          obtain ⟨split, key, member, folded⟩ := Statement.openingKeyword?_eq_some opens
          have restApart : ∀ c ∈ rest.head?, isWordChar c = false := by
            intro c head
            simpa [opensWithWord, opens, Option.mem_def.mp head] using apart
          have plain : ∀ c ∈ Text.indent statement.toList ++ keyword,
              isInitial c = false := by
            intro c inFront
            rcases List.mem_append.mp inFront with blank | letter
            · exact isInitial_of_isBlank (Text.isBlank_of_mem_indent blank)
            · exact isInitial_keyword member folded c letter
          have plainHinted : ∀ c ∈ Text.indent statement.toList ++ keyword ++
              Timeout.hint millis, isInitial c = false := by
            intro c inFront
            rcases List.mem_append.mp inFront with bare | hint
            · exact plain c bare
            · exact isInitial_hint millis c hint
          have text : statement.toList =
              Text.indent statement.toList ++ keyword ++ rest := by
            rw [List.append_assoc, ← split, Text.indent_append_trimStart]
          have openings_eq (table : Table) :
              openings table (tokens (Statement.hinted (.after millis) statement).toList) =
                openings table (tokens statement.toList) := by
            rw [text, openings_of_plain plain restApart]
            simp only [Statement.hinted, opens, String.toList_ofList]
            exact openings_of_plain plainHinted restApart
          simp only [reopens, openings_eq]

end Hint

end DecisionBench.Reference
