import DecisionBench.Script
import Mathlib.Data.List.DropRight

/-!
# Splitting a script

The statements of a script are what stands between its semicolons, without the blanks
around it.  `Strewn` relates a list of texts to the scripts that have nothing besides
them but semicolons and blanks, with a semicolon behind every text that another one
follows.  A script has exactly one list of trimmed, unseparated texts that are strewn in
it, and these are its statements (`statements_eq_iff_strewn`).
-/

namespace DecisionBench

namespace Text

/-! ### Trimmed texts -/

/-- Neither end of the text is blank. -/
structure IsTrimmed (text : List Char) : Prop where
  begins : ∀ c ∈ text.head?, isBlank c = false
  ends : ∀ c ∈ text.getLast?, isBlank c = false

def AllBlank (text : List Char) : Prop :=
  ∀ c ∈ text, isBlank c = true

theorem trimStart_eq_self {text : List Char}
    (begins : ∀ c ∈ text.head?, isBlank c = false) : trimStart text = text := by
  cases text with
  | nil => rfl
  | cons c text =>
      have dark : isBlank c = false := begins c rfl
      simp [trimStart, dark]

theorem trimEnd_eq_self {text : List Char}
    (ends : ∀ c ∈ text.getLast?, isBlank c = false) : trimEnd text = text := by
  apply List.rdropWhile_eq_self_iff.mpr
  intro nonempty
  have dark := ends _ (List.getLast?_eq_some_getLast nonempty)
  simp [dark]

theorem isTrimmed_trim (text : List Char) : IsTrimmed (trim text) := by
  constructor
  · intro c first
    -- What is left in the end is a first part of what begins with its first dark character.
    obtain ⟨tail, split⟩ : trim text <+: trimStart text := List.rdropWhile_prefix isBlank _
    have opens : (trimStart text).head? = some c := by
      rw [← split, List.head?_append, Option.mem_def.mp first, Option.some_or]
    have dark := List.head?_dropWhile_not isBlank text
    rwa [← trimStart, opens] at dark
  · intro c last
    have nonempty : trim text ≠ [] := by
      intro empty
      rw [empty] at last
      cases last
    have dark := List.rdropWhile_last_not isBlank (trimStart text) nonempty
    rw [Option.mem_def, List.getLast?_eq_some_getLast nonempty] at last
    cases last
    exact Bool.eq_false_iff.mpr dark

theorem trim_padded {before text after : List Char} (blankBefore : AllBlank before)
    (trimmed : IsTrimmed text) (nonempty : text ≠ []) (blankAfter : AllBlank after) :
    trim (before ++ (text ++ after)) = text := by
  have begins : ∀ c ∈ (text ++ after).head?, isBlank c = false := by
    cases text with
    | nil => exact absurd rfl nonempty
    | cons c text => exact trimmed.begins
  have opened : trimStart (before ++ (text ++ after)) = text ++ after :=
    (List.dropWhile_append_of_pos blankBefore).trans (trimStart_eq_self begins)
  have closed : trimEnd (text ++ after) = trimEnd text := by
    have blankReversed : AllBlank after.reverse := by simpa [AllBlank] using blankAfter
    simp only [trimEnd, List.reverse_append, List.dropWhile_append_of_pos blankReversed]
  rw [trim, opened, closed, trimEnd_eq_self trimmed.ends]

theorem exists_padding (text : List Char) :
    ∃ before after, text = before ++ (trim text ++ after) ∧
      AllBlank before ∧ AllBlank after := by
  refine ⟨indent text, (trimStart text).rtakeWhile isBlank, ?_,
    fun _ => isBlank_of_mem_indent, fun _ => List.mem_rtakeWhile_imp⟩
  have ending : trim text ++ (trimStart text).rtakeWhile isBlank = trimStart text :=
    List.rdropWhile_append_rtakeWhile
  rw [ending, indent_append_trimStart]

/-! ### Pieces -/

theorem pieces_eq_splitOnP (cut : Char → Bool) (text : List Char) :
    pieces cut text = text.splitOnP cut := by
  induction text with
  | nil => rfl
  | cons c text induction =>
      rw [pieces, induction, List.splitOnP_cons_eq_if_modifyHead]
      cases shape : text.splitOnP cut with
      | nil => exact absurd shape (List.splitOnP_ne_nil cut text)
      | cons piece more => rfl

theorem pieces_ne_nil (cut : Char → Bool) (text : List Char) : pieces cut text ≠ [] := by
  rw [pieces_eq_splitOnP]
  exact List.splitOnP_ne_nil cut text

section

variable {separator : Char} {text : List Char} (whole : separator ∉ text)

include whole

theorem uncut_of_not_mem : ∀ c ∈ text, (c == separator) = false := by
  intro c member
  apply beq_eq_false_iff_ne.mpr
  exact ne_of_mem_of_not_mem member whole

theorem pieces_of_not_mem : pieces (· == separator) text = [text] := by
  rw [pieces_eq_splitOnP]
  exact List.splitOnP_eq_singleton (uncut_of_not_mem whole)

theorem pieces_append_cons (rest : List Char) :
    pieces (· == separator) (text ++ separator :: rest) =
      text :: pieces (· == separator) rest := by
  simp only [pieces_eq_splitOnP]
  exact List.splitOnP_append_cons_of_forall_mem (uncut_of_not_mem whole) separator
    (beq_self_eq_true separator) rest

end

/-- Induction along the places where a separator stands. -/
theorem separator_induction (separator : Char) {motive : List Char → Prop}
    (unseparated : ∀ text, separator ∉ text → motive text)
    (separated : ∀ text rest, separator ∉ text → motive rest →
      motive (text ++ separator :: rest))
    (text : List Char) : motive text := by
  by_cases member : separator ∈ text
  · obtain ⟨front, rest, split, fresh⟩ := List.eq_append_cons_of_mem member
    rw [split]
    exact separated front rest fresh
      (separator_induction separator unseparated separated rest)
  · exact unseparated text member
termination_by text.length
decreasing_by
  rw [split, List.length_append, List.length_cons]
  omega

end Text

namespace Script

open Text

/-! ### Statements -/

/-- Whether a character only keeps statements apart. -/
def isSpacing (c : Char) : Bool :=
  c == ';' || isBlank c

def AllSpacing (text : List Char) : Prop :=
  ∀ c ∈ text, isSpacing c = true

/-- A text that can be a statement of a script. -/
structure IsFragment (text : List Char) : Prop where
  nonempty : text ≠ []
  trimmed : IsTrimmed text
  unseparated : ';' ∉ text

/-- The texts stand in the script in their order, with nothing but semicolons and blanks
in front of them, between them and behind them, and a semicolon between any two. -/
inductive Strewn : List (List Char) → List Char → Prop where
  | none {spacing : List Char} : AllSpacing spacing → Strewn [] spacing
  | last {before text after : List Char} :
      AllSpacing before → AllBlank after → Strewn [text] (before ++ (text ++ after))
  | next {before text after rest : List Char} {later : List (List Char)} :
      AllSpacing before → AllBlank after → Strewn later rest →
      Strewn (text :: later) (before ++ (text ++ after) ++ ';' :: rest)

theorem allSpacing_of_allBlank {text : List Char} (allBlank : AllBlank text) :
    AllSpacing text := by
  intro c member
  simp [isSpacing, allBlank c member]

namespace Strewn

variable {texts : List (List Char)} {script : List Char}

/-- More spacing in front of a script changes nothing. -/
theorem behind {spacing : List Char} (allSpacing : AllSpacing spacing)
    (strewn : Strewn texts script) : Strewn texts (spacing ++ script) := by
  have spaced {more : List Char} (allMore : AllSpacing more) : AllSpacing (spacing ++ more) :=
    List.forall_mem_append.mpr ⟨allSpacing, allMore⟩
  cases strewn with
  | none allMore => exact .none (spaced allMore)
  | last allBefore allAfter =>
      simp only [← List.append_assoc spacing]
      exact .last (spaced allBefore) allAfter
  | next allBefore allAfter later =>
      simp only [← List.append_assoc spacing]
      exact .next (spaced allBefore) allAfter later

theorem isInfix (strewn : Strewn texts script) : ∀ text ∈ texts, text <:+: script := by
  induction strewn with
  | none _ => simp
  | last _ _ =>
      intro text member
      rw [List.mem_singleton.mp member, ← List.append_assoc]
      exact List.infix_append _ _ _
  | @next before own after rest later _ _ _ induction =>
      intro text member
      rcases List.mem_cons.mp member with rfl | further
      · exact ⟨before, after ++ ';' :: rest, by simp⟩
      · have inRest := induction text further
        exact inRest.trans ((List.suffix_cons _ _).trans (List.suffix_append _ _)).isInfix

/-- The characters that are no spacing are those of the texts, in the same order. -/
theorem filter_flatten (strewn : Strewn texts script) :
    texts.flatten.filter (! isSpacing ·) = script.filter (! isSpacing ·) := by
  have dropped {spacing : List Char} (allSpacing : AllSpacing spacing) :
      spacing.filter (! isSpacing ·) = [] := by
    apply List.filter_eq_nil_iff.mpr
    intro c member
    simp [allSpacing c member]
  have blankDropped {blanks : List Char} (allBlank : AllBlank blanks) :
      blanks.filter (! isSpacing ·) = [] :=
    dropped (allSpacing_of_allBlank allBlank)
  have semicolon : isSpacing ';' = true := rfl
  induction strewn with
  | none allSpacing => simp [dropped allSpacing]
  | last allBefore allAfter => simp [dropped allBefore, blankDropped allAfter]
  | next allBefore allAfter _ induction =>
      simp [dropped allBefore, blankDropped allAfter, semicolon, induction]

end Strewn

theorem fragments_append (script other : List Char) :
    fragments (script ++ ';' :: other) = fragments script ++ fragments other := by
  simp [fragments, pieces_eq_splitOnP, List.splitOnP_append_cons]

theorem fragments_of_unseparated {text : List Char} (unseparated : ';' ∉ text) :
    fragments text = [trim text].filter (! ·.isEmpty) := by
  rw [fragments, pieces_of_not_mem unseparated, List.map_singleton]

theorem fragments_cons_of_isBlank {c : Char} (blank : isBlank c = true) (script : List Char) :
    fragments (c :: script) = fragments script := by
  have uncut : (c == ';') = false := by
    apply beq_eq_false_iff_ne.mpr
    rintro rfl
    cases blank
  have trimmed (piece : List Char) : trim (c :: piece) = trim piece := by
    simp [trim, trimStart, blank]
  rw [fragments, pieces, uncut]
  cases shape : pieces (· == ';') script with
  | nil => simp [fragments, shape, trim, trimStart, trimEnd, blank]
  | cons piece more => simp [fragments, shape, trimmed]

theorem fragments_spacing_append {spacing : List Char} (allSpacing : AllSpacing spacing)
    (script : List Char) : fragments (spacing ++ script) = fragments script := by
  induction spacing with
  | nil => rfl
  | cons c spacing induction =>
      obtain ⟨here, later⟩ := List.forall_mem_cons.mp allSpacing
      rw [List.cons_append]
      by_cases blank : isBlank c = true
      · rw [fragments_cons_of_isBlank blank, induction later]
      · have separator : c = ';' := by simpa [isSpacing, blank] using here
        subst separator
        exact (fragments_append [] (spacing ++ script)).trans (induction later)

theorem fragments_padded {text after : List Char} (fragment : IsFragment text)
    (allBlank : AllBlank after) : fragments (text ++ after) = [text] := by
  have unseparated : ';' ∉ text ++ after := by
    intro member
    rcases List.mem_append.mp member with inside | behind
    · exact fragment.unseparated inside
    · cases allBlank ';' behind
  have nothing : AllBlank [] := List.forall_mem_nil _
  have trimmed : trim (text ++ after) = text :=
    trim_padded nothing fragment.trimmed fragment.nonempty allBlank
  rw [fragments_of_unseparated unseparated, trimmed]
  simp [fragment.nonempty]

theorem fragments_of_strewn {texts : List (List Char)} {script : List Char}
    (strewn : Strewn texts script) (own : ∀ text ∈ texts, IsFragment text) :
    fragments script = texts := by
  induction strewn with
  | @none spacing allSpacing =>
      rw [← List.append_nil spacing, fragments_spacing_append allSpacing]
      rfl
  | last allBefore allAfter =>
      have fragment := own _ List.mem_cons_self
      rw [fragments_spacing_append allBefore, fragments_padded fragment allAfter]
  | next allBefore allAfter _ induction =>
      obtain ⟨fragment, later⟩ := List.forall_mem_cons.mp own
      rw [fragments_append, fragments_spacing_append allBefore,
        fragments_padded fragment allAfter, induction later]
      rfl

/-- A text without a semicolon has one statement, unless it is blank. -/
theorem fragments_cases {text : List Char} (unseparated : ';' ∉ text) :
    (fragments text = [] ∧ AllBlank text) ∨
      ∃ before own after, text = before ++ (own ++ after) ∧ AllBlank before ∧
        AllBlank after ∧ IsFragment own ∧ fragments text = [own] := by
  obtain ⟨before, after, split, allBefore, allAfter⟩ := exists_padding text
  rw [fragments_of_unseparated unseparated]
  by_cases empty : trim text = []
  · left
    constructor
    · simp [empty]
    · rw [split, empty]
      exact List.forall_mem_append.mpr ⟨allBefore, allAfter⟩
  · right
    have fresh : ';' ∉ trim text := by
      intro member
      apply unseparated
      rw [split]
      exact List.mem_append_right before (List.mem_append_left after member)
    exact ⟨before, trim text, after, split, allBefore, allAfter,
      ⟨empty, isTrimmed_trim text, fresh⟩, by simp [empty]⟩

theorem isFragment_of_mem {script : List Char} :
    ∀ text ∈ fragments script, IsFragment text := by
  induction script using separator_induction ';' with
  | unseparated text fresh =>
      rcases fragments_cases fresh with ⟨none, -⟩ | ⟨_, own, _, -, -, -, fragment, one⟩
      · simp [none]
      · simpa [one] using fragment
  | separated text rest fresh induction =>
      rw [fragments_append]
      refine List.forall_mem_append.mpr ⟨?_, induction⟩
      rcases fragments_cases fresh with ⟨none, -⟩ | ⟨_, own, _, -, -, -, fragment, one⟩
      · simp [none]
      · simpa [one] using fragment

theorem strewn_fragments (script : List Char) : Strewn (fragments script) script := by
  induction script using separator_induction ';' with
  | unseparated text fresh =>
      rcases fragments_cases fresh with
        ⟨none, allBlank⟩ | ⟨before, own, after, split, allBefore, allAfter, -, one⟩
      · rw [none]
        exact .none (allSpacing_of_allBlank allBlank)
      · rw [one, split]
        exact .last (allSpacing_of_allBlank allBefore) allAfter
  | separated text rest fresh induction =>
      rw [fragments_append]
      rcases fragments_cases fresh with
        ⟨none, allBlank⟩ | ⟨before, own, after, split, allBefore, allAfter, -, one⟩
      · rw [none, List.nil_append, List.append_cons text ';' rest]
        refine Strewn.behind (List.forall_mem_append.mpr ⟨?_, ?_⟩) induction
        · exact allSpacing_of_allBlank allBlank
        · simp [isSpacing]
      · rw [one, split]
        exact .next (allSpacing_of_allBlank allBefore) allAfter induction

theorem toList_statements (script : String) :
    (statements script).map String.toList = fragments script.toList := by
  simp [statements, Function.comp_def]

theorem isFragment_of_mem_statements {script : String} :
    ∀ statement ∈ statements script, IsFragment statement.toList := by
  intro statement member
  apply isFragment_of_mem statement.toList
  rw [← toList_statements]
  exact List.mem_map_of_mem member

/-- The statements of a script are the one list of trimmed, unseparated texts that are
strewn in it.  So each of them stands in the script as it is, no other character than
semicolons and blanks is lost and none is invented, and a semicolon between two scripts
keeps their statements apart. -/
theorem statements_eq_iff_strewn (script other : String) (parts : List String) :
    (statements script = parts ↔
        (∀ part ∈ parts, IsFragment part.toList) ∧
          Strewn (parts.map String.toList) script.toList) ∧
      (∀ statement ∈ statements script,
        IsFragment statement.toList ∧ statement.toList <:+: script.toList) ∧
      (String.join (statements script)).toList.filter (! isSpacing ·) =
        script.toList.filter (! isSpacing ·) ∧
      statements (script ++ ";" ++ other) = statements script ++ statements other := by
  have strewn : Strewn ((statements script).map String.toList) script.toList := by
    rw [toList_statements]
    exact strewn_fragments script.toList
  refine ⟨⟨?_, ?_⟩, ?_, ?_, ?_⟩
  · rintro rfl
    exact ⟨isFragment_of_mem_statements, strewn⟩
  · rintro ⟨fragment, scattered⟩
    have same := fragments_of_strewn scattered (List.forall_mem_map.mpr fragment)
    simp [statements, same, Function.comp_def]
  · intro statement member
    exact ⟨isFragment_of_mem_statements statement member,
      strewn.isInfix _ (List.mem_map_of_mem member)⟩
  · rw [String.toList_join, List.flatMap_def]
    exact strewn.filter_flatten
  · simp [statements, fragments_append]

example : statements " drop table a ;; ;\n drop table b" = ["drop table a", "drop table b"] := by
  decide

end Script

end DecisionBench
