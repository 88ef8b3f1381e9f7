/-!
# Quoted literals

How the server reads a text with literals between single quotes.  `Denotes` is
the grammar of what stands between the two quotes: plain characters, escapes of
a backslash and a character, and doubled quotes.  `Mode` is a reader that takes
one character at a time, with two questions put to it: where the first literal
ends and what its value is (`literal?`), and what a whole text consists of
(`lexemes?`).

The reader ends a literal in front of a text exactly if the grammar derives
what stands between the quotes (`literal?_quoted_iff`).
-/

namespace DecisionBench.Literal

/-- What a backslash and a character stand for.  The two wildcards of patterns
keep their backslash. -/
def escape (c : Char) : List Char :=
  if c = '0' then ['\x00']
  else if c = 'b' then ['\x08']
  else if c = 'n' then ['\n']
  else if c = 'r' then ['\r']
  else if c = 't' then ['\t']
  else if c = 'Z' then ['\x1a']
  else if c = '%' ∨ c = '_' then ['\\', c]
  else [c]

/-- What stands between the quotes of a literal, and its value. -/
inductive Denotes : List Char → List Char → Prop where
  | nil : Denotes [] []
  | plain {c : Char} {body value : List Char} :
      c ≠ '\x27' → c ≠ '\\' → Denotes body value →
      Denotes (c :: body) (c :: value)
  | escaped (c : Char) {body value : List Char} :
      Denotes body value → Denotes ('\\' :: c :: body) (escape c ++ value)
  | doubled {body value : List Char} :
      Denotes body value →
      Denotes ('\x27' :: '\x27' :: body) ('\x27' :: value)

theorem Denotes.of_plain {text : List Char}
    (plain : ∀ c ∈ text, c ≠ '\x27' ∧ c ≠ '\\') : Denotes text text := by
  induction text with
  | nil => exact .nil
  | cons c text induction =>
      obtain ⟨⟨notQuote, notBackslash⟩, plainRest⟩ := List.forall_mem_cons.mp plain
      exact (induction plainRest).plain notQuote notBackslash

/-- Where a reader stands, with the value of the literal so far. -/
inductive Mode where
  | outside
  | inside (value : List Char)
  | escaping (value : List Char)
  /-- Behind a quote that ends the literal unless another one follows. -/
  | closing (value : List Char)
  deriving DecidableEq, Repr

/-- A character outside literals, or a literal. -/
inductive Lexeme where
  | plain (c : Char)
  | literal (value : List Char)
  deriving DecidableEq, Repr

namespace Mode

def next : Mode → Char → Mode
  | .outside, c => if c = '\x27' then .inside [] else .outside
  | .inside value, c =>
      if c = '\x27' then .closing value
      else if c = '\\' then .escaping value
      else .inside (value ++ [c])
  | .escaping value, c => .inside (value ++ escape c)
  | .closing value, c =>
      if c = '\x27' then .inside (value ++ ['\x27']) else .outside

/-- The value of the first literal that ends in a text, and what follows it. -/
def literal? (mode : Mode) : List Char → Option (List Char × List Char)
  | [] =>
      match mode with
      | .closing value => some (value, [])
      | _ => none
  | c :: rest =>
      match mode with
      | .closing value =>
          if c = '\x27' then literal? (mode.next c) rest
          else some (value, c :: rest)
      | _ => literal? (mode.next c) rest

/-- What is known to stand in a text once a character was read. -/
def read : Mode → Char → List Lexeme
  | .outside, c => if c = '\x27' then [] else [.plain c]
  | .closing value, c => if c = '\x27' then [] else [.literal value, .plain c]
  | _, _ => []

/-- The literals of a text and the characters between them, unless the last
literal does not end. -/
def lexemes? (mode : Mode) : List Char → Option (List Lexeme)
  | [] =>
      match mode with
      | .outside => some []
      | .closing value => some [.literal value]
      | _ => none
  | c :: rest => (lexemes? (mode.next c) rest).map (mode.read c ++ ·)

def isComplete : Mode → Bool
  | .outside | .closing _ => true
  | .inside _ | .escaping _ => false

end Mode

open Mode

/-- A question to the reader that has no answer before a literal ends: inside
one it is passed on from character to character. -/
structure PassesOn {β : Type} (ask : Mode → List Char → β) : Prop where
  inside : ∀ value c rest,
    ask (.inside value) (c :: rest) = ask (next (.inside value) c) rest
  escaping : ∀ value c rest,
    ask (.escaping value) (c :: rest) = ask (.inside (value ++ escape c)) rest
  doubled : ∀ value rest,
    ask (.closing value) ('\x27' :: rest) = ask (.inside (value ++ ['\x27'])) rest

theorem passesOn_literal? : PassesOn literal? where
  inside _ _ _ := rfl
  escaping _ _ _ := rfl
  doubled _ _ := rfl

theorem passesOn_lexemes? : PassesOn lexemes? where
  inside _ _ _ := by simp [lexemes?, Mode.read]
  escaping _ _ _ := by simp [lexemes?, Mode.read, next]
  doubled _ _ := by simp [lexemes?, Mode.read, next]

theorem passesOn_foldl : PassesOn fun mode text => text.foldl next mode where
  inside _ _ _ := rfl
  escaping _ _ _ := rfl
  doubled _ _ := rfl

section Reader

variable {body rest value : List Char}

/-- A reader inside a literal passes over what the grammar derives. -/
theorem Denotes.passed {β : Type} {ask : Mode → List Char → β}
    (denotes : Denotes body value) (passesOn : PassesOn ask) (start rest : List Char) :
    ask (.inside start) (body ++ rest) = ask (.inside (start ++ value)) rest := by
  induction denotes generalizing start with
  | nil => simp
  | plain notQuote notBackslash _ induction =>
      simp [passesOn.inside, next, notQuote, notBackslash, induction]
  | escaped c _ induction =>
      simp [passesOn.inside, passesOn.escaping, next, induction]
  | doubled _ induction =>
      simp [passesOn.inside, passesOn.doubled, next, induction]

theorem Denotes.foldl_next (denotes : Denotes body value) (start : List Char) :
    body.foldl next (.inside start) = .inside (start ++ value) := by
  simpa using denotes.passed passesOn_foldl start []

theorem literal?_closing (behind : rest.head? ≠ some '\x27') :
    literal? (.closing value) rest = some (value, rest) := by
  cases rest with
  | nil => rfl
  | cons c rest =>
      have notQuote : c ≠ '\x27' := by simpa using behind
      simp [literal?, notQuote]

theorem literal?_plain {text : List Char} (plain : ∀ c ∈ text, c ≠ '\x27')
    (rest : List Char) :
    literal? .outside (text ++ rest) = literal? .outside rest := by
  induction text with
  | nil => rfl
  | cons c text induction =>
      obtain ⟨notQuote, plainRest⟩ := List.forall_mem_cons.mp plain
      simpa [literal?, next, notQuote] using induction plainRest

theorem exists_body_of_literal? {start text : List Char}
    (found : literal? (.inside start) text = some (value, rest)) :
    ∃ body added, text = body ++ '\x27' :: rest ∧ Denotes body added ∧
      value = start ++ added := by
  -- The recursion is on the text, and a quote or a backslash takes the next
  -- character with it, as in the grammar.
  match text with
  | [] => simp [literal?] at found
  | c :: text =>
      by_cases quote : c = '\x27'
      · subst c
        simp only [literal?, next, if_true] at found
        match text with
        | [] =>
            obtain ⟨rfl, rfl⟩ : start = value ∧ [] = rest := by
              simpa [literal?] using found
            exact ⟨[], [], rfl, .nil, by simp⟩
        | d :: text =>
            by_cases doubled : d = '\x27'
            · subst d
              simp only [literal?, next, if_true] at found
              obtain ⟨body, added, rfl, denotes, rfl⟩ :=
                exists_body_of_literal? found
              exact ⟨_, _, rfl, denotes.doubled, by simp⟩
            · obtain ⟨rfl, rfl⟩ : start = value ∧ d :: text = rest := by
                simpa [literal?, doubled] using found
              exact ⟨[], [], rfl, .nil, by simp⟩
      · by_cases backslash : c = '\\'
        · subst c
          simp only [literal?, next, quote, if_false, if_true] at found
          match text with
          | [] => simp [literal?] at found
          | d :: text =>
              simp only [literal?, next] at found
              obtain ⟨body, added, rfl, denotes, rfl⟩ :=
                exists_body_of_literal? found
              exact ⟨_, _, rfl, denotes.escaped d, by simp⟩
        · simp only [literal?, next, quote, backslash, if_false] at found
          obtain ⟨body, added, rfl, denotes, rfl⟩ :=
            exists_body_of_literal? found
          exact ⟨_, _, rfl, denotes.plain quote backslash, by simp⟩

/-- A literal ends in front of a text that does not begin with a quote exactly
if the grammar derives what stands between the quotes, and its value is the
derived one. -/
theorem literal?_quoted_iff (behind : rest.head? ≠ some '\x27') :
    literal? .outside ('\x27' :: (body ++ '\x27' :: rest)) = some (value, rest) ↔
      Denotes body value := by
  constructor
  · intro found
    obtain ⟨derived, added, same, denotes, rfl⟩ := exists_body_of_literal? found
    have equal : body = derived := List.append_cancel_right same
    simpa [equal] using denotes
  · intro denotes
    change literal? (.inside []) (body ++ '\x27' :: rest) = _
    rw [denotes.passed passesOn_literal?]
    exact literal?_closing behind

end Reader

section Whole

variable {body text rest value : List Char}

theorem foldl_next_outside (plain : ∀ c ∈ text, c ≠ '\x27') :
    text.foldl next .outside = .outside := by
  induction text with
  | nil => rfl
  | cons c text induction =>
      obtain ⟨notQuote, plainRest⟩ := List.forall_mem_cons.mp plain
      simp [next, notQuote, induction plainRest]

theorem foldl_next_closing (plain : ∀ c ∈ text, c ≠ '\x27') (some : text ≠ []) :
    text.foldl next (.closing value) = .outside := by
  cases text with
  | nil => exact (some rfl).elim
  | cons c text =>
      obtain ⟨notQuote, plainRest⟩ := List.forall_mem_cons.mp plain
      simp [next, notQuote, foldl_next_outside plainRest]

theorem lexemes?_plain (plain : ∀ c ∈ text, c ≠ '\x27') :
    lexemes? .outside (text ++ rest) =
      (lexemes? .outside rest).map (text.map .plain ++ ·) := by
  induction text with
  | nil => simp
  | cons c text induction =>
      obtain ⟨notQuote, plainRest⟩ := List.forall_mem_cons.mp plain
      simp [lexemes?, next, Mode.read, notQuote, induction plainRest,
        Function.comp_def]

theorem lexemes?_closing (plain : ∀ c ∈ text, c ≠ '\x27') (some : text ≠ []) :
    lexemes? (.closing value) (text ++ rest) =
      (lexemes? .outside rest).map (.literal value :: text.map .plain ++ ·) := by
  cases text with
  | nil => exact (some rfl).elim
  | cons c text =>
      obtain ⟨notQuote, plainRest⟩ := List.forall_mem_cons.mp plain
      simp [lexemes?, next, Mode.read, notQuote, lexemes?_plain plainRest,
        Function.comp_def]

theorem Denotes.lexemes?_quoted (denotes : Denotes body value)
    (plain : ∀ c ∈ text, c ≠ '\x27') (some : text ≠ []) (rest : List Char) :
    lexemes? .outside ('\x27' :: (body ++ '\x27' :: (text ++ rest))) =
      (lexemes? .outside rest).map (.literal value :: text.map .plain ++ ·) := by
  have opened : lexemes? .outside ('\x27' :: (body ++ '\x27' :: (text ++ rest))) =
      lexemes? (.inside []) (body ++ '\x27' :: (text ++ rest)) := by
    simp [lexemes?, next, Mode.read]
  have closed : lexemes? (.inside value) ('\x27' :: (text ++ rest)) =
      lexemes? (.closing value) (text ++ rest) := by
    simp [lexemes?, next, Mode.read]
  rw [opened, denotes.passed passesOn_lexemes?, List.nil_append, closed,
    lexemes?_closing plain some]

/-- A text is read to its end exactly if the reader may end where it stands
then. -/
theorem isSome_lexemes? (mode : Mode) (text : List Char) :
    (lexemes? mode text).isSome = (text.foldl next mode).isComplete := by
  induction text generalizing mode with
  | nil => cases mode <;> rfl
  | cons c text induction => simp [lexemes?, induction]

end Whole

end DecisionBench.Literal
