import DecisionBench.Json
import DecisionBench.Proofs.Digits
import DecisionBench.Report
import Mathlib.Data.List.Forall2

/-!
# Reading what was written as JSON

Texts are read piece by piece.  A piece that ends with a word is complete where a
character follows that no word is made of, so that the tokens of a text are those of
its pieces (`tokens?_append`); the tokens of a list or an object come to its value
wherever it stands (`Reads`).  A string that was written reads back as it was
(`tokens?_jsonString`).
-/

namespace DecisionBench.Json

variable {text first later : List Char} {tokens rest : List Token} {c : Char}

/-! ### Pieces of a text -/

theorem scan_append {mode middle : Mode} (scanned : scan mode first = some (tokens, middle)) :
    scan mode (first ++ later) =
      (scan middle later).map fun further => (tokens ++ further.1, further.2) := by
  induction first generalizing mode tokens with
  | nil =>
      cases scanned
      simp
  | cons c first induction =>
      rw [List.cons_append, scan]
      rw [scan] at scanned
      cases stepped : next mode c with
      | none => simp [stepped] at scanned
      | some reached =>
          obtain ⟨emitted, behind⟩ := reached
          simp only [stepped] at scanned
          obtain ⟨⟨given, reached⟩, scannedRest, same⟩ := Option.map_eq_some_iff.mp scanned
          cases same
          simp only [induction scannedRest, Option.map_map, Function.comp_def,
            List.append_assoc]

theorem next_of_pending {mode : Mode} (complete : pending? mode = some tokens)
    (noWord : isWordChar c = false) :
    next mode c = (begin? c).map fun begun => (tokens ++ begun.1, begun.2) := by
  cases mode with
  | between =>
      cases complete
      simp [next]
  | word read =>
      obtain ⟨value, known, rfl⟩ := Option.map_eq_some_iff.mp complete
      cases begun : begin? c <;> simp [next, noWord, known, begun]
  | text | escape | unit | pair | pairEscape => cases complete

theorem tokens?_append (here : tokens? first = some tokens)
    (noWord : isWordChar c = false) (behind : tokens? (c :: later) = some rest) :
    tokens? (first ++ c :: later) = some (tokens ++ rest) := by
  unfold tokens? at here
  cases scanned : scan .between first with
  | none => simp [scanned] at here
  | some reached =>
      obtain ⟨emitted, mode⟩ := reached
      simp only [scanned] at here
      obtain ⟨pending, complete, rfl⟩ := Option.map_eq_some_iff.mp here
      -- From here on the text is read as it would be from its beginning.
      have stepped := next_of_pending complete noWord
      have begins : next .between c = begin? c := rfl
      simp only [tokens?, scan_append scanned]
      simp only [tokens?, scan, begins] at behind
      simp only [scan, stepped]
      cases begun : begin? c with
      | none => simp [begun] at behind
      | some reached =>
          simp only [begun] at behind
          cases further : scan reached.2 later with
          | none => simp [further] at behind
          | some last =>
              simp only [further, Option.map_some] at behind ⊢
              obtain ⟨ending, ended, rfl⟩ := Option.map_eq_some_iff.mp behind
              simp [ended]

theorem tokens?_cons (begins : begin? c = some (tokens, .between)) :
    tokens? (c :: text) = (tokens? text).map (tokens ++ ·) := by
  have stepped : next .between c = some (tokens, .between) := begins
  simp only [tokens?, scan, stepped]
  cases scan .between text with
  | none => rfl
  | some reached => simp [Function.comp_def]

theorem tokens?_blanks {blanks : List Char} (blank : ∀ c ∈ blanks, isBlank c = true) :
    tokens? (blanks ++ text) = tokens? text := by
  induction blanks with
  | nil => rfl
  | cons c blanks induction =>
      have begins : begin? c = some ([], .between) := by
        simp [begin?, blank c List.mem_cons_self]
      have further := induction fun c member => blank c (List.mem_cons_of_mem _ member)
      simp [tokens?_cons begins, further]

theorem tokens?_mark {token : Token} (mark : mark? c = some token) :
    tokens? (c :: text) = (tokens? text).map (token :: ·) := by
  have noBlank : isBlank c = false := by
    unfold mark? at mark
    split at mark <;> first | rfl | cases mark
  have begins : begin? c = some ([token], .between) := by simp [begin?, noBlank, mark]
  exact tokens?_cons begins

/-- The tokens of several parts with commas between them. -/
def separated (parts : List (List Token)) : List Token :=
  List.intercalate [.comma] parts

theorem separated_cons_cons (part other : List Token) (parts : List (List Token)) :
    separated (part :: other :: parts) = part ++ .comma :: separated (other :: parts) := by
  simp [separated, List.intercalate]

theorem tokens?_intercalate {texts : List (List Char)} {parts : List (List Token)}
    (read : List.Forall₂ (fun text tokens => tokens? text = some tokens) texts parts) :
    tokens? (List.intercalate [','] texts) = some (separated parts) := by
  induction read with
  | nil => rfl
  | @cons text tokens texts parts here further induction =>
      cases further with
      | nil => simpa [separated, List.intercalate] using here
      | @cons other otherTokens texts parts there further =>
          have comma : mark? ',' = some .comma := rfl
          have behind := (tokens?_mark comma).trans (congrArg _ induction)
          rw [separated_cons_cons]
          simpa [List.intercalate] using tokens?_append here rfl behind

/-- Several parts with commas between them, in brackets. -/
theorem tokens?_enclosed {texts : List (List Char)} {parts : List (List Token)}
    {opening : Char} {opened : Token}
    (read : List.Forall₂ (fun text tokens => tokens? text = some tokens) texts parts)
    (opens : mark? opening = some opened) (noWord : isWordChar c = false)
    (closes : tokens? (c :: later) = some rest) :
    tokens? (opening :: (List.intercalate [','] texts ++ c :: later)) =
      some (opened :: separated parts ++ rest) := by
  rw [tokens?_mark opens, tokens?_append (tokens?_intercalate read) noWord closes]
  rfl

/-! ### Strings -/

/-- A code unit below the pairs stands for its character. -/
theorem afterUnit?_of_lt {read : List Char} (low : c.toNat < 0xD800) :
    afterUnit? read c.toNat none = some (.text (read ++ [c])) := by
  have notFirst : isFirstOfPair c.toNat = false := by
    simp only [isFirstOfPair, Bool.and_eq_false_iff, decide_eq_false_iff_not]
    omega
  have notSecond : isSecondOfPair c.toNat = false := by
    simp only [isSecondOfPair, Bool.and_eq_false_iff, decide_eq_false_iff_not]
    omega
  simp [afterUnit?, notFirst, notSecond, Char.ofNat_toNat]

theorem scan_escapedChar (read : List Char) (c : Char) :
    scan (.text read) (Report.escapedChar c) = some ([], .text (read ++ [c])) := by
  unfold Report.escapedChar
  split
  next quote => subst quote; rfl
  split
  next backslash => subst backslash; rfl
  split
  next backspace => subst backspace; rfl
  split
  next feed => subst feed; rfl
  split
  next newline => subst newline; rfl
  split
  next carriageReturn => subst carriageReturn; rfl
  split
  next tab => subst tab; rfl
  split
  next control =>
    -- Four digits are written, of which the first two are zeros.
    have high := Numeral.hexDigit?_digitChar (c.toNat / 16 % 16) (Nat.mod_lt _ (by decide))
    have low := Numeral.hexDigit?_digitChar (c.toNat % 16) (Nat.mod_lt _ (by decide))
    have zero : Numeral.hexDigit? '0' = some 0 := rfl
    have unit : 0x10 * (c.toNat / 16 % 16) + c.toNat % 16 = c.toNat := by omega
    have behind : afterUnit? read c.toNat none = some (.text (read ++ [c])) :=
      afterUnit?_of_lt (by omega)
    simp [scan, next, Report.twoHexDigits, zero, high, low, unit, behind]
  next noQuote noBackslash _ _ _ _ _ noControl =>
    simp [scan, next, noQuote, noBackslash, noControl]

theorem scan_escaped (read text : List Char) :
    scan (.text read) (text.flatMap Report.escapedChar) = some ([], .text (read ++ text)) := by
  induction text generalizing read with
  | nil => simp [scan]
  | cons c text induction =>
      rw [List.flatMap_cons, scan_append (scan_escapedChar read c), induction]
      simp

theorem tokens?_jsonString (text : String) :
    tokens? (Report.jsonString text) = some [.scalar (.text text)] := by
  have opens : next .between '\x22' = some ([], .text []) := rfl
  have inside := scan_escaped [] text.toList
  simp only [tokens?, Report.jsonString, List.cons_append, scan, opens, scan_append inside]
  simp [next, pending?]

/-! ### Words -/

theorem begin?_of_isWordChar (wordChar : isWordChar c = true) :
    begin? c = some ([], .word [c]) := by
  have noBlank : isBlank c = false := by
    refine Bool.eq_false_iff.mpr fun blank => ?_
    simp only [isBlank, Bool.or_eq_true, beq_iff_eq] at blank
    rcases blank with ((rfl | rfl) | rfl) | rfl <;> cases wordChar
  have noMark : mark? c = none := by
    unfold mark?
    split <;> first | cases wordChar | rfl
  have noQuote : c ≠ '\x22' := by
    rintro rfl
    cases wordChar
  simp [begin?, noBlank, noMark, noQuote, wordChar]

theorem scan_word (read : List Char) {word : List Char}
    (wordChars : ∀ c ∈ word, isWordChar c = true) :
    scan (.word read) word = some ([], .word (read ++ word)) := by
  induction word generalizing read with
  | nil => simp [scan]
  | cons c word induction =>
      have here := wordChars c List.mem_cons_self
      have further := induction (read ++ [c]) fun c member =>
        wordChars c (List.mem_cons_of_mem _ member)
      simp [scan, next, here, further]

theorem tokens?_word {word : List Char} {value : Value} (known : word? word = some value)
    (wordChars : ∀ c ∈ word, isWordChar c = true) :
    tokens? word = some [.scalar value] := by
  cases word with
  | nil => cases known
  | cons c word =>
      have begins : next .between c = some ([], .word [c]) :=
        begin?_of_isWordChar (wordChars c List.mem_cons_self)
      have further := scan_word [c] fun c member =>
        wordChars c (List.mem_cons_of_mem _ member)
      simp [tokens?, scan, begins, further, pending?, known]

/-! ### Lists and objects -/

/-- Wherever a value may come, the tokens come to this one. -/
def Reads (tokens : List Token) (value : Value) : Prop :=
  ∀ opened frames, tokens.foldlM step (.value opened frames) = some (.behind value frames)

theorem reads_scalar (value : Value) : Reads [.scalar value] value :=
  fun _ _ => by simp [step]

theorem assemble?_of_reads {value : Value} (reads : Reads tokens value) :
    assemble? tokens = some value := by
  simp only [assemble?, reads false []]

theorem reads_emptyList : Reads [.openList, .closeList] (.list []) :=
  fun _ _ => by simp [step]

theorem foldlM_items {parts : List (List Token)} {values : List Value}
    (reads : List.Forall₂ Reads parts values) (nonempty : parts ≠ [])
    (opened : Bool) (items : List Value) (frames : List Frame) :
    (separated parts ++ [Token.closeList]).foldlM step (.value opened (.list items :: frames)) =
      some (.behind (.list (items ++ values)) frames) := by
  induction reads generalizing opened items with
  | nil => cases nonempty rfl
  | @cons part value parts values here further induction =>
      -- Behind the last item comes the bracket, and a comma behind every other.
      cases further with
      | nil =>
          simp [separated, List.foldlM_append, here opened _, step]
      | @cons other otherValue parts values there further =>
          have later := induction (by simp) false (items ++ [value])
          rw [separated_cons_cons, List.append_assoc, List.foldlM_append, here opened _]
          simpa [step] using later

theorem reads_list {parts : List (List Token)} {values : List Value}
    (reads : List.Forall₂ Reads parts values) (nonempty : parts ≠ []) :
    Reads (.openList :: separated parts ++ [.closeList]) (.list values) := by
  intro opened frames
  simpa [step] using foldlM_items reads nonempty true [] frames

/-- The tokens are a key, a colon and the tokens of a value. -/
def ReadsMember (tokens : List Token) (member : String × Value) : Prop :=
  ∃ rest, tokens = .scalar (.text member.1) :: .colon :: rest ∧ Reads rest member.2

theorem foldlM_members {parts : List (List Token)} {members : List (String × Value)}
    (reads : List.Forall₂ ReadsMember parts members) (nonempty : parts ≠ [])
    (opened : Bool) (before : List (String × Value)) (frames : List Frame) :
    (separated parts ++ [Token.closeObject]).foldlM step (.key opened before frames) =
      some (.behind (.object (before ++ members)) frames) := by
  induction reads generalizing opened before with
  | nil => cases nonempty rfl
  | @cons part member parts members here further induction =>
      obtain ⟨rest, rfl, value⟩ := here
      cases further with
      | nil =>
          simp [separated, List.foldlM_append, value false, step]
      | @cons other otherMember parts members there further =>
          have later := induction (by simp) false (before ++ [member])
          rw [separated_cons_cons, List.append_assoc, List.foldlM_append]
          simpa [step, value false] using later

theorem reads_object {parts : List (List Token)} {members : List (String × Value)}
    (reads : List.Forall₂ ReadsMember parts members) (nonempty : parts ≠ []) :
    Reads (.openObject :: separated parts ++ [.closeObject]) (.object members) := by
  intro opened frames
  simpa [step] using foldlM_members reads nonempty true [] frames

end DecisionBench.Json
