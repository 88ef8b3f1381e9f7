import DecisionBench.Statement

/-!
# Hints and the classification of statements

A hint stands behind the opening keyword, so that a statement with its hint
opens with the same keyword as before.  In particular it is read-only exactly
if the statement was (`isReadOnly_hinted`).
-/

namespace DecisionBench.Statement

/-- The opening keyword is spelled like one of the keywords up to the case of
its letters, and the text is the keyword with the rest. -/
theorem openingKeyword?_eq_some {text keyword rest : List Char}
    (opens : openingKeyword? text = some (keyword, rest)) :
    text = keyword ++ rest ∧ ∃ key ∈ readOnlyKeywords,
      keyword.map Char.toLower = key.toList.map Char.toLower := by
  obtain ⟨key, member, found⟩ := List.exists_of_findSome?_eq_some opens
  obtain ⟨tail, after, equal⟩ := Option.map_eq_some_iff.mp found
  obtain ⟨front, rfl, folded⟩ := Text.afterFolded_eq_some_iff.mp after
  have sameLength : front.length = key.toList.length := by
    simpa using congrArg List.length folded
  obtain ⟨rfl, rfl⟩ := Prod.mk.inj equal
  rw [← sameLength, List.take_left]
  exact ⟨rfl, key, member, folded⟩

/-- No keyword stands where another one does, so that the one in front of a text
is found. -/
theorem openingKeyword?_append {keyword : List Char} {key : String}
    (member : key ∈ readOnlyKeywords)
    (folded : keyword.map Char.toLower = key.toList.map Char.toLower)
    (rest : List Char) :
    openingKeyword? (keyword ++ rest) = some (keyword, rest) := by
  have found : Text.afterFolded key.toList (keyword ++ rest) = some rest :=
    Text.afterFolded_eq_some_iff.mpr ⟨keyword, rfl, folded⟩
  have length_eq : keyword.length = key.toList.length := by
    simpa using congrArg List.length folded
  have taken : (keyword ++ rest).take key.toList.length = keyword := by
    rw [← length_eq, List.take_left]
  simp only [readOnlyKeywords, List.mem_cons, List.not_mem_nil, or_false] at member
  rcases member with rfl | rfl
  · simp only [openingKeyword?, readOnlyKeywords, List.findSome?_cons, found,
      Option.map_some, taken]
  · have notFirst : Text.afterFolded "select".toList (keyword ++ rest) = none := by
      cases keyword with
      | nil => cases folded
      | cons first keyword =>
          have letter : first.toLower = 'w' := (List.cons.inj folded).1
          simp [Text.afterFolded, letter]
    simp only [openingKeyword?, readOnlyKeywords, List.findSome?_cons, notFirst,
      found, Option.map_none, Option.map_some, taken]

/-- A keyword begins with a letter, and so keeps its place when the blanks in
front of it are removed. -/
theorem trimStart_keyword_append {keyword : List Char} {key : String}
    (member : key ∈ readOnlyKeywords)
    (folded : keyword.map Char.toLower = key.toList.map Char.toLower)
    (rest : List Char) :
    Text.trimStart (keyword ++ rest) = keyword ++ rest := by
  have opensWithLetter : ∀ key ∈ readOnlyKeywords,
      (key.toList.map Char.toLower).head?.any (! Text.isBlank ·) = true := by
    decide
  have letter := opensWithLetter key member
  rw [← folded] at letter
  cases keyword with
  | nil => cases letter
  | cons first keyword =>
      have notBlank : Text.isBlank first = false := by
        simpa [Text.isBlank_toLower] using letter
      simp [Text.trimStart, notBlank]

theorem isReadOnly_hinted (timeout : Timeout) (statement : String) :
    isReadOnly (hinted timeout statement) = isReadOnly statement := by
  cases timeout with
  | disabled => rfl
  | after millis =>
      cases opens : openingKeyword? (Text.trimStart statement.toList) with
      | none => simp [hinted, opens]
      | some parts =>
          obtain ⟨keyword, rest⟩ := parts
          obtain ⟨-, key, member, folded⟩ := openingKeyword?_eq_some opens
          have before : isReadOnly statement = true := by
            simp [isReadOnly, opens]
          rw [before]
          simp only [hinted, opens, isReadOnly, String.toList_ofList,
            List.append_assoc]
          rw [Text.trimStart_indent_append,
            trimStart_keyword_append member folded,
            openingKeyword?_append member folded]
          rfl

end DecisionBench.Statement
