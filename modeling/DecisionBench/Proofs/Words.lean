import DecisionBench.Proofs.Splitting

/-!
# Words of a text

A text is its words and the blanks around them.  `Leads` says which words stand in
front of a text: each one is without blanks, and a blank or the end of the text follows
it.  These are the first of the words that a text is cut into (`leads_iff`).
-/

namespace DecisionBench.Text

structure IsWord (word : List Char) : Prop where
  nonempty : word ≠ []
  dark : ∀ c ∈ word, isBlank c = false

/-- A word in front of this text ends there. -/
def Apart (text : List Char) : Prop :=
  ∀ c ∈ text.head?, isBlank c = true

/-- The words stand in front of the text, in their order. -/
inductive Leads : List (List Char) → List Char → Prop where
  | nil (text : List Char) : Leads [] text
  | cons {before word rest : List Char} {later : List (List Char)} :
      AllBlank before → IsWord word → Apart rest → Leads later rest →
      Leads (word :: later) (before ++ (word ++ rest))

section

variable {before word rest text : List Char} {c : Char}

/-- A blank keeps the words on its two sides apart. -/
theorem words_append_cons (blank : isBlank c = true) (text rest : List Char) :
    words (text ++ c :: rest) = words text ++ words rest := by
  have cut : pieces isBlank (text ++ c :: rest) =
      pieces isBlank text ++ pieces isBlank rest := by
    simp only [pieces_eq_splitOnP]
    exact List.splitOnP_append_cons text rest blank
  rw [words, cut, List.filter_append]
  rfl

theorem words_cons (blank : isBlank c = true) (text : List Char) :
    words (c :: text) = words text :=
  words_append_cons blank [] text

theorem words_allBlank_append (allBlank : AllBlank before) (text : List Char) :
    words (before ++ text) = words text := by
  induction before with
  | nil => rfl
  | cons c before induction =>
      obtain ⟨blank, further⟩ := List.forall_mem_cons.mp allBlank
      rw [List.cons_append, words_cons blank]
      exact induction further

theorem words_of_allBlank (allBlank : AllBlank text) : words text = [] := by
  have whole := words_allBlank_append allBlank []
  rwa [List.append_nil] at whole

theorem words_word_append (isWord : IsWord word) (apart : Apart rest) :
    words (word ++ rest) = word :: words rest := by
  have alone : words word = [word] := by
    rw [words, pieces_eq_splitOnP, List.splitOnP_eq_singleton isWord.dark]
    simp [isWord.nonempty]
  cases rest with
  | nil =>
      rw [List.append_nil, alone]
      rfl
  | cons c rest =>
      have blank : isBlank c = true := apart c rfl
      rw [words_append_cons blank, alone, words_cons blank]
      rfl

theorem exists_word (dark : ¬ AllBlank text) :
    ∃ before word rest, text = before ++ (word ++ rest) ∧ AllBlank before ∧
      IsWord word ∧ Apart rest := by
  have split := indent_append_trimStart text
  have allBlank : AllBlank (indent text) := fun _ => isBlank_of_mem_indent
  cases opened : trimStart text with
  | nil =>
      rw [opened, List.append_nil] at split
      rw [← split] at dark
      exact absurd allBlank dark
  | cons first more =>
      have firstDark : isBlank first = false := by
        have begins := List.head?_dropWhile_not isBlank text
        rwa [← trimStart, opened] at begins
      refine ⟨indent text, first :: more.takeWhile (! isBlank ·),
        more.dropWhile (! isBlank ·), ?_, allBlank, ⟨?_, ?_⟩, ?_⟩
      · rw [List.cons_append, List.takeWhile_append_dropWhile, ← opened, split]
      · exact List.cons_ne_nil first _
      · refine List.forall_mem_cons.mpr ⟨firstDark, fun c member => ?_⟩
        simpa using List.mem_takeWhile_imp member
      · intro c next
        have ends := List.head?_dropWhile_not (! isBlank ·) more
        rw [Option.mem_def.mp next] at ends
        simpa using ends

theorem leads_iff {first : List (List Char)} : Leads first text ↔ first <+: words text := by
  constructor
  · intro leads
    induction leads with
    | nil text => exact List.nil_prefix
    | cons allBlank isWord apart _ induction =>
        rw [words_allBlank_append allBlank, words_word_append isWord apart]
        exact List.cons_prefix_cons.mpr ⟨rfl, induction⟩
  · intro leading
    induction first generalizing text with
    | nil => exact .nil text
    | cons head later induction =>
        have dark : ¬ AllBlank text := by
          intro allBlank
          rw [words_of_allBlank allBlank, List.prefix_nil] at leading
          cases leading
        obtain ⟨before, word, rest, rfl, allBlank, isWord, apart⟩ := exists_word dark
        rw [words_allBlank_append allBlank, words_word_append isWord apart] at leading
        obtain ⟨rfl, further⟩ := List.cons_prefix_cons.mp leading
        exact .cons allBlank isWord apart (induction further)

theorem leads_singleton_iff : Leads [word] text ↔ (words text).head? = some word := by
  rw [leads_iff]
  cases words text with
  | nil => simp
  | cons head later => simp [eq_comm]

end

end DecisionBench.Text
