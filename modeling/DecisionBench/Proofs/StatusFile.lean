import DecisionBench.Memory
import DecisionBench.Proofs.Digits
import DecisionBench.Proofs.Scripting
import DecisionBench.Proofs.Words

/-!
# Status files

The resident memory stands in the first line that has its key, behind blanks, whatever
other lines there are.  `Finds` relates a text to what follows the key there, or to
nothing where no line has it.  A carriage return at the end of the line may belong to
the line or to its end: it is blank, and the words are the same.

The memory is the first word that is found, if this writes a number of 64 bits
(`memory_from_first_keyed_line`).
-/

namespace DecisionBench

namespace Text

theorem afterKey?_eq_some_iff {key text rest : List Char} :
    afterKey? key text = some rest ↔ text = key ++ rest := by
  induction key generalizing text with
  | nil => simp [afterKey?]
  | cons k key induction =>
      cases text with
      | nil => simp [afterKey?]
      | cons c text =>
          rw [afterKey?, List.cons_append, List.cons.injEq]
          split
          · next same => simp [same, induction]
          · next other => simp [Ne.symm other]

end Text

namespace Memory

open Text

def residentKey : List Char :=
  "VmRSS:".toList

/-- The line has the key behind blanks, and in front of this field. -/
def Keys (line field : List Char) : Prop :=
  ∃ blank, AllBlank blank ∧ line = blank ++ (residentKey ++ field)

def Unkeyed (line : List Char) : Prop :=
  ∀ field, ¬ Keys line field

inductive EndsLine : List Char → Prop where
  | feed : EndsLine ['\n']
  | returned : EndsLine ['\r', '\n']

/-- What follows the key in the first line that has it. -/
inductive Finds : Option (List Char) → List Char → Prop where
  | never {line : List Char} : '\n' ∉ line → Unkeyed line → Finds none line
  | last {line field : List Char} : '\n' ∉ line → Keys line field → Finds (some field) line
  | here {line field ending rest : List Char} :
      '\n' ∉ line → Keys line field → EndsLine ending →
      Finds (some field) (line ++ (ending ++ rest))
  | later {found : Option (List Char)} {line ending rest : List Char} :
      '\n' ∉ line → Unkeyed line → EndsLine ending → Finds found rest →
      Finds found (line ++ (ending ++ rest))

section

variable {line field ending text : List Char} {found : Option (List Char)} {status : String}

/-! ### Lines with the key -/

theorem residentField?_eq_some_iff : residentField? line = some field ↔ Keys line field := by
  rw [residentField?, afterKey?_eq_some_iff]
  constructor
  · intro behind
    refine ⟨indent line, fun _ => isBlank_of_mem_indent, ?_⟩
    rw [← residentKey] at behind
    rw [← behind, indent_append_trimStart]
  · rintro ⟨blank, allBlank, rfl⟩
    have begins : ∀ c ∈ (residentKey ++ field).head?, isBlank c = false := by
      intro c first
      cases first
      decide
    exact (List.dropWhile_append_of_pos allBlank).trans (trimStart_eq_self begins)

theorem residentField?_eq_none_iff : residentField? line = none ↔ Unkeyed line := by
  rw [Option.eq_none_iff_forall_ne_some]
  exact forall_congr' fun _ => not_congr residentField?_eq_some_iff

theorem Keys.ne_nil (keys : Keys line field) : line ≠ [] := by
  obtain ⟨blank, -, rfl⟩ := keys
  simp [residentKey]

theorem Keys.append (keys : Keys line field) (further : List Char) :
    Keys (line ++ further) (field ++ further) := by
  obtain ⟨blank, allBlank, rfl⟩ := keys
  exact ⟨blank, allBlank, by simp only [List.append_assoc]⟩

/-- A carriage return behind a line is no part of the key. -/
theorem Unkeyed.append_return (unkeyed : Unkeyed line) : Unkeyed (line ++ ['\r']) := by
  rintro field ⟨blank, allBlank, split⟩
  rcases List.eq_nil_or_concat field with rfl | ⟨front, last, rfl⟩
  · have ends := congrArg List.getLast? split
    simp [residentKey] at ends
  · have parts : line ++ ['\r'] = (blank ++ (residentKey ++ front)) ++ [last] := by
      simpa only [List.concat_eq_append, List.append_assoc] using split
    have same := (List.append_inj' parts rfl).1
    exact unkeyed front ⟨blank, allBlank, same⟩

theorem words_residentField?_append_return (line : List Char) :
    (residentField? (line ++ ['\r'])).map words = (residentField? line).map words := by
  cases found : residentField? line with
  | none =>
      have unkeyed := residentField?_eq_none_iff.mp found
      rw [residentField?_eq_none_iff.mpr unkeyed.append_return]
  | some field =>
      have keys := (residentField?_eq_some_iff.mp found).append ['\r']
      have same : words (field ++ ['\r']) = words field := by
        have blank : isBlank '\r' = true := by decide
        rw [words_append_cons blank field []]
        exact List.append_nil _
      rw [residentField?_eq_some_iff.mpr keys, Option.map_some, Option.map_some, same]

/-! ### The first line with the key -/

/-- The first line of a text says what it says without its end. -/
theorem exists_lines_eq (whole : '\n' ∉ line) (ends : EndsLine ending) (rest : List Char) :
    ∃ shown, lines (line ++ (ending ++ rest)) = shown :: lines rest ∧
      (residentField? shown).map words = (residentField? line).map words := by
  cases ends with
  | feed =>
      refine ⟨withoutReturn line, lines_append whole rest, ?_⟩
      unfold withoutReturn
      split
      · next last =>
          obtain ⟨front, rfl⟩ := List.getLast?_eq_some_iff.mp last
          rw [List.dropLast_concat]
          exact (words_residentField?_append_return front).symm
      · rfl
  | returned =>
      have closed : '\n' ∉ line ++ ['\r'] := by simp [whole]
      have shown : withoutReturn (line ++ ['\r']) = line := by simp [withoutReturn]
      refine ⟨line, ?_, rfl⟩
      have cut := lines_append closed rest
      rw [shown] at cut
      rw [← cut, List.append_assoc]
      rfl

theorem findSome?_lines_of_finds (finds : Finds found text) :
    ((lines text).findSome? residentField?).map words = found.map words := by
  induction finds with
  | @never line whole unkeyed =>
      have none := residentField?_eq_none_iff.mpr unkeyed
      by_cases empty : line = []
      · rw [empty]
        rfl
      · rw [lines_of_single whole empty]
        simp [none]
  | @last line field whole keys =>
      rw [lines_of_single whole keys.ne_nil]
      simp [residentField?_eq_some_iff.mpr keys]
  | @here line field ending rest whole keys ends =>
      obtain ⟨shown, cut, same⟩ := exists_lines_eq whole ends rest
      rw [residentField?_eq_some_iff.mpr keys] at same
      obtain ⟨shownField, shows, sameWords⟩ := Option.map_eq_some_iff.mp same
      rw [cut, List.findSome?_cons, shows]
      exact congrArg some sameWords
  | @later found line ending rest whole unkeyed ends _ induction =>
      obtain ⟨shown, cut, same⟩ := exists_lines_eq whole ends rest
      rw [residentField?_eq_none_iff.mpr unkeyed] at same
      have none := Option.map_eq_none_iff.mp same
      rw [cut, List.findSome?_cons, none]
      exact induction

theorem exists_finds (text : List Char) : ∃ found, Finds found text := by
  induction text using separator_induction '\n' with
  | unseparated line whole =>
      by_cases keyed : ∃ field, Keys line field
      · obtain ⟨field, keys⟩ := keyed
        exact ⟨some field, .last whole keys⟩
      · exact ⟨none, .never whole (not_exists.mp keyed)⟩
  | separated line rest whole induction =>
      by_cases keyed : ∃ field, Keys line field
      · obtain ⟨field, keys⟩ := keyed
        exact ⟨some field, .here whole keys .feed⟩
      · obtain ⟨found, finds⟩ := induction
        exact ⟨found, .later whole (not_exists.mp keyed) .feed finds⟩

/-- What a status file gives depends on the words behind the first key alone. -/
theorem resident?_of_finds (finds : Finds found status.toList) :
    resident? status = found.bind fun field =>
      (words field).head?.bind (Numeral.natural? (Nat.pow 2 64)) := by
  have same := findSome?_lines_of_finds finds
  unfold resident?
  cases first : (lines status.toList).findSome? residentField? with
  | none =>
      rw [first, Option.map_none] at same
      rw [Option.map_eq_none_iff.mp same.symm]
      rfl
  | some shown =>
      rw [first, Option.map_some] at same
      obtain ⟨field, rfl, sameWords⟩ := Option.map_eq_some_iff.mp same.symm
      dsimp only
      rw [Option.bind_some, sameWords]
      cases words shown with
      | nil => rfl
      | cons word more => rfl

theorem resident?_of_finds_none (finds : Finds none status.toList) : resident? status = none :=
  resident?_of_finds finds

theorem resident?_eq_some_iff (finds : Finds (some field) status.toList) {n : Nat} :
    resident? status = some n ↔
      ∃ word, Leads [word] field ∧ Numeral.Writes n word ∧ n < Nat.pow 2 64 := by
  rw [resident?_of_finds finds, Option.bind_some, Option.bind_eq_some_iff]
  refine exists_congr fun word => ?_
  rw [leads_singleton_iff, Numeral.natural?_eq_some_iff, @and_comm (n < Nat.pow 2 64)]

/-- The memory is the number of 64 bits that is the first word behind the key of the first
line with the key.  There is none just if no line has the key, or no such number is the
first word there, whatever the later lines say. -/
theorem memory_from_first_keyed_line (status : String) :
    (∀ n, resident? status = some n ↔ ∃ field word, Finds (some field) status.toList ∧
      Leads [word] field ∧ Numeral.Writes n word ∧ n < Nat.pow 2 64) ∧
    (resident? status = none ↔ Finds none status.toList ∨
      ∃ field, Finds (some field) status.toList ∧
        ∀ word n, Leads [word] field → Numeral.Writes n word → Nat.pow 2 64 ≤ n) := by
  constructor
  · intro n
    constructor
    · intro given
      obtain ⟨found, finds⟩ := exists_finds status.toList
      cases found with
      | none =>
          rw [resident?_of_finds_none finds] at given
          cases given
      | some field =>
          obtain ⟨word, leads, writes, small⟩ := (resident?_eq_some_iff finds).mp given
          exact ⟨field, word, finds, leads, writes, small⟩
    · rintro ⟨field, word, finds, leads, writes, small⟩
      exact (resident?_eq_some_iff finds).mpr ⟨word, leads, writes, small⟩
  · constructor
    · intro nothing
      obtain ⟨found, finds⟩ := exists_finds status.toList
      cases found with
      | none => exact .inl finds
      | some field =>
          refine .inr ⟨field, finds, fun word n leads writes => ?_⟩
          apply Nat.le_of_not_lt
          intro small
          have given := (resident?_eq_some_iff finds).mpr ⟨word, leads, writes, small⟩
          rw [nothing] at given
          cases given
    · rintro (unkeyed | ⟨field, finds, large⟩)
      · exact resident?_of_finds_none unkeyed
      · apply Option.eq_none_iff_forall_ne_some.mpr
        intro n given
        obtain ⟨word, leads, writes, small⟩ := (resident?_eq_some_iff finds).mp given
        exact absurd small (Nat.not_lt.mpr (large word n leads writes))

example : resident? "Name:\tmysqld\r\n \tVmRSS:\t+0412 kB\r\nVmRSS: 7 kB\n" = some 412 := by
  decide +kernel

end

end Memory

end DecisionBench
