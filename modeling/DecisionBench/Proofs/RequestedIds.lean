import DecisionBench.Proofs.Digits
import DecisionBench.Proofs.Planning
import DecisionBench.Proofs.Splitting

/-!
# Requested ids

Ids are requested by texts.  A text asks for an id if it is the number between
blanks (`Asks`), and asks for nothing if it is blank; texts list the ids that they
ask for, in their order (`Lists`).  The ids that are read are the listed ones, and
the first text that is neither blank nor asks for an id is told as it stands between
its blanks (`listed_ids_kept`).
-/

namespace DecisionBench

namespace Text

theorem trim_of_allBlank {text : List Char} (blank : AllBlank text) : trim text = [] := by
  have nothing : trimStart text = [] := List.dropWhile_eq_nil_iff.mpr blank
  rw [trim, nothing]
  rfl

theorem allBlank_of_trim {text : List Char} (empty : trim text = []) : AllBlank text := by
  obtain ⟨before, after, split, blankBefore, blankAfter⟩ := exists_padding text
  rw [split, empty]
  intro c member
  rcases List.mem_append.mp member with early | late
  · exact blankBefore c early
  · exact blankAfter c late

end Text

namespace Numeral

theorem Writes.ne_nil {n : Nat} {text : List Char} (writes : Writes n text) : text ≠ [] := by
  cases writes with
  | plain zeros => exact List.append_ne_nil_of_right_ne_nil _ Nat.toDigits_ne_nil
  | signed zeros => exact List.cons_ne_nil _ _

theorem isBlank_of_isDigit {c : Char} (isDigit : c.isDigit = true) :
    Text.isBlank c = false := by
  have low : 48 ≤ c.toNat := (Char.isDigit_iff_toNat.mp isDigit).1
  have high : c.toNat ≤ 57 := (Char.isDigit_iff_toNat.mp isDigit).2
  simp [Text.isBlank]
  omega

theorem Writes.isTrimmed {n : Nat} {text : List Char} (writes : Writes n text) :
    Text.IsTrimmed text := by
  have dark : ∀ c ∈ text, Text.isBlank c = false := by
    intro c member
    cases writes with
    | plain zeros => exact isBlank_of_isDigit (isDigit_of_mem_zeros_append _ _ c member)
    | signed zeros =>
        rcases List.mem_cons.mp member with rfl | inside
        · rfl
        · exact isBlank_of_isDigit (isDigit_of_mem_zeros_append _ _ c inside)
  constructor
  · intro c first
    exact dark c (List.mem_of_head? first)
  · intro c last
    exact dark c (List.mem_of_getLast? last)

end Numeral

namespace Selection

open Text

/-- A text asks for an id: between its blanks stands a way to write it, and the id has
32 bits. -/
inductive Asks (id : Nat) : List Char → Prop where
  | padded {before numeral after : List Char} :
      AllBlank before → Numeral.Writes id numeral → AllBlank after → id < Nat.pow 2 32 →
      Asks id (before ++ (numeral ++ after))

/-- Texts list ids: one text asks for each id, in order, and all other texts are
blank. -/
inductive Lists : List String → List Nat → Prop where
  | nil : Lists [] []
  | blank {text : String} {texts : List String} {ids : List Nat} :
      AllBlank text.toList → Lists texts ids → Lists (text :: texts) ids
  | asked {id : Nat} {text : String} {texts : List String} {ids : List Nat} :
      Asks id text.toList → Lists texts ids → Lists (text :: texts) (id :: ids)

/-- A text that neither is blank nor asks for an id, with what stands between its
blanks. -/
structure Amiss (text named : List Char) : Prop where
  padded : ∃ before after, text = before ++ (named ++ after) ∧
    AllBlank before ∧ AllBlank after
  trimmed : IsTrimmed named
  dark : ¬ AllBlank text
  asks_nothing : ∀ id, ¬ Asks id text

theorem asks_iff {id : Nat} {text : List Char} :
    Asks id text ↔ Numeral.natural? (Nat.pow 2 32) (trim text) = some id := by
  rw [Numeral.natural?_eq_some_iff]
  constructor
  · intro asks
    cases asks with
    | padded blankBefore writes blankAfter small =>
        rw [trim_padded blankBefore writes.isTrimmed writes.ne_nil blankAfter]
        exact ⟨small, writes⟩
  · rintro ⟨small, writes⟩
    obtain ⟨before, after, split, blankBefore, blankAfter⟩ := exists_padding text
    rw [split]
    exact .padded blankBefore writes blankAfter small

theorem Asks.lt {id : Nat} {text : List Char} (asks : Asks id text) : id < Nat.pow 2 32 := by
  cases asks with
  | padded _ _ _ small => exact small

theorem Asks.trim_ne_nil {id : Nat} {text : List Char} (asks : Asks id text) :
    trim text ≠ [] := by
  intro empty
  have read := asks_iff.mp asks
  rw [empty] at read
  cases read

theorem Amiss.named_eq {text named : List Char} (amiss : Amiss text named) :
    named = trim text := by
  obtain ⟨before, after, rfl, blankBefore, blankAfter⟩ := amiss.padded
  by_cases empty : named = []
  · subst named
    refine absurd (allBlank_of_trim (trim_of_allBlank ?_)) amiss.dark
    exact List.forall_mem_append.mpr ⟨blankBefore, blankAfter⟩
  · exact (trim_padded blankBefore amiss.trimmed empty blankAfter).symm

theorem blank_or_asks_or_amiss (text : List Char) :
    AllBlank text ∨ (∃ id, Asks id text) ∨ Amiss text (trim text) := by
  by_cases blank : AllBlank text
  · exact .inl blank
  · by_cases asks : ∃ id, Asks id text
    · exact .inr (.inl asks)
    · have padded : ∃ before after, text = before ++ (trim text ++ after) ∧
          AllBlank before ∧ AllBlank after := exists_padding text
      exact .inr (.inr ⟨padded, isTrimmed_trim text, blank, not_exists.mp asks⟩)

/-! ### Reading the texts -/

section

variable {text : String} {texts : List String} {ids : List Nat} {id : Nat}

theorem readIds_of_blank (blank : AllBlank text.toList) :
    readIds (text :: texts) = readIds texts := by
  simp [readIds, trim_of_allBlank blank]

theorem readIds_of_asks (asks : Asks id text.toList) :
    readIds (text :: texts) = (readIds texts).map (id :: ·) := by
  simp [readIds, asks.trim_ne_nil, asks_iff.mp asks]

theorem readIds_of_amiss {named : List Char} (amiss : Amiss text.toList named) :
    readIds (text :: texts) = .error (invalidId named) := by
  have dark : trim text.toList ≠ [] := fun empty => amiss.dark (allBlank_of_trim empty)
  have unread : Numeral.natural? (Nat.pow 2 32) (trim text.toList) = none := by
    rw [Option.eq_none_iff_forall_ne_some]
    intro id read
    exact amiss.asks_nothing id (asks_iff.mpr read)
  simp only [readIds, List.isEmpty_iff, dark, if_false, unread, amiss.named_eq]

theorem readIds_eq_ok_iff : readIds texts = .ok ids ↔ Lists texts ids := by
  constructor
  · intro read
    induction texts generalizing ids with
    | nil =>
        cases read
        exact .nil
    | cons text texts induction =>
        rcases blank_or_asks_or_amiss text.toList with blank | ⟨id, asks⟩ | amiss
        · rw [readIds_of_blank blank] at read
          exact .blank blank (induction read)
        · rw [readIds_of_asks asks] at read
          cases further : readIds texts with
          | error fault =>
              rw [further] at read
              cases read
          | ok more =>
              rw [further] at read
              cases read
              exact .asked asks (induction further)
        · rw [readIds_of_amiss amiss] at read
          cases read
  · intro lists
    induction lists with
    | nil => rfl
    | blank blank _ induction => rw [readIds_of_blank blank, induction]
    | asked asks _ induction =>
        rw [readIds_of_asks asks, induction]
        rfl

theorem readIds_eq_error_iff {fault : Fault} :
    readIds texts = .error fault ↔ ∃ before text after named,
      texts = before ++ text :: after ∧
      (∀ earlier ∈ before, AllBlank earlier.toList ∨ ∃ id, Asks id earlier.toList) ∧
      Amiss text.toList named ∧ fault = invalidId named := by
  constructor
  · intro read
    induction texts with
    | nil => cases read
    | cons text texts induction =>
        -- A fine text in front of the others leaves the one that is told as it is.
        have behind (fine : AllBlank text.toList ∨ ∃ id, Asks id text.toList)
            (later : readIds texts = .error fault) :
            ∃ before found after named, text :: texts = before ++ found :: after ∧
              (∀ earlier ∈ before, AllBlank earlier.toList ∨ ∃ id, Asks id earlier.toList) ∧
              Amiss found.toList named ∧ fault = invalidId named := by
          obtain ⟨before, found, after, named, rfl, fineBefore, amiss, told⟩ := induction later
          exact ⟨text :: before, found, after, named, rfl,
            List.forall_mem_cons.mpr ⟨fine, fineBefore⟩, amiss, told⟩
        rcases blank_or_asks_or_amiss text.toList with blank | ⟨id, asks⟩ | amiss
        · rw [readIds_of_blank blank] at read
          exact behind (.inl blank) read
        · rw [readIds_of_asks asks] at read
          cases further : readIds texts with
          | ok more =>
              rw [further] at read
              cases read
          | error other =>
              rw [further] at read
              cases read
              exact behind (.inr ⟨id, asks⟩) further
        · rw [readIds_of_amiss amiss] at read
          cases read
          exact ⟨[], text, texts, _, rfl, by simp, amiss, rfl⟩
  · rintro ⟨before, text, after, named, rfl, fine, amiss, rfl⟩
    induction before with
    | nil => exact readIds_of_amiss amiss
    | cons earlier before induction =>
        obtain ⟨fineFirst, fineLater⟩ := List.forall_mem_cons.mp fine
        rcases fineFirst with blank | ⟨id, asks⟩
        · rw [List.cons_append, readIds_of_blank blank, induction fineLater]
        · rw [List.cons_append, readIds_of_asks asks, induction fineLater]
          rfl

end

/-- Exactly the ids of 32 bits can be asked for. -/
theorem exists_lists_iff {ids : List Nat} :
    (∃ texts, Lists texts ids) ↔ ∀ id ∈ ids, id < Nat.pow 2 32 := by
  constructor
  · rintro ⟨texts, lists⟩
    induction lists with
    | nil => simp
    | blank _ _ induction => exact induction
    | asked asks _ induction => exact List.forall_mem_cons.mpr ⟨asks.lt, induction⟩
  · intro small
    induction ids with
    | nil => exact ⟨[], .nil⟩
    | cons id ids induction =>
        obtain ⟨smallFirst, smallLater⟩ := List.forall_mem_cons.mp small
        obtain ⟨texts, lists⟩ := induction smallLater
        have nothing : AllBlank [] := by simp [AllBlank]
        have asks : Asks id (Numeral.decimal id) := by
          have padded := Asks.padded nothing (.plain 0 : Numeral.Writes id _) nothing smallFirst
          simpa using padded
        refine ⟨String.ofList (Numeral.decimal id) :: texts, .asked ?_ lists⟩
        rwa [String.toList_ofList]

/-! ### Running a selection -/

theorem knownIds_eq_ok_iff {catalog : Catalog} {texts : List String} {ids : List Nat} :
    knownIds (.listed texts) catalog = .ok ids ↔ Lists texts ids ∧ catalog.Knows ids := by
  constructor
  · intro selected
    have knows := knows_of_knownIds selected
    obtain ⟨given, read, further⟩ := exists_of_bind_eq_ok selected
    obtain ⟨_, -, same⟩ := exists_of_bind_eq_ok further
    cases same
    exact ⟨readIds_eq_ok_iff.mp read, knows⟩
  · rintro ⟨lists, queries, resolved⟩
    have read := readIds_eq_ok_iff.mpr lists
    simp only [knownIds, Selection.ids, read, resolved, bind, Except.bind]
    rfl

/-- Without a process to watch the options depend on the ids alone. -/
theorem optionsFor_unwatched (arguments : RunArguments) (catalog : Catalog)
    (selection : Selection) :
    ({ arguments with watched := none } : RunArguments).optionsFor catalog selection =
      Procedure.ofOutcome ((selection.knownIds catalog).map
        { arguments with watched := none : RunArguments }.options) := by
  unfold RunArguments.optionsFor
  cases selection.knownIds catalog <;> rfl

/-- The ids that are read are those that the texts list, each as often and in the place
as it is asked for, and every list of ids of 32 bits can be listed.  All other texts are
a fault of the configuration that names the first of them that is amiss.  Without a
process to watch the selection can be run exactly if the catalog has all of its ids, and
nothing else is asked to find that out. -/
theorem listed_ids_kept (catalog : Catalog) (texts : List String) (seconds : Int)
    (precheck : Bool) (output : Option String) :
    (∀ ids, readIds texts = .ok ids ↔ Lists texts ids) ∧
      (∀ ids, (∃ listing, Lists listing ids) ↔ ∀ id ∈ ids, id < Nat.pow 2 32) ∧
      (∀ fault, readIds texts = .error fault ↔ ∃ before text after named,
        texts = before ++ text :: after ∧
        (∀ earlier ∈ before, AllBlank earlier.toList ∨ ∃ id, Asks id earlier.toList) ∧
        Amiss text.toList named ∧
        fault = ⟨.configuration, "invalid query id: " ++ String.ofList named⟩) ∧
      ∃ outcome, RunArguments.optionsFor ⟨seconds, precheck, none, output⟩ catalog
          (.listed texts) = Procedure.ofOutcome outcome ∧
        ∀ options, outcome = .ok options ↔ ∃ ids, Lists texts ids ∧
          (∀ id ∈ ids, ∃ query ∈ catalog.queries, query.id = id) ∧
          options = ⟨ids, .ofSeconds seconds, precheck, none, output⟩ := by
  refine ⟨fun ids => readIds_eq_ok_iff, fun ids => exists_lists_iff,
    fun fault => readIds_eq_error_iff, _,
    optionsFor_unwatched ⟨seconds, precheck, none, output⟩ catalog (.listed texts), ?_⟩
  intro options
  have runnable (ids : List Nat) : knownIds (.listed texts) catalog = .ok ids ↔
      Lists texts ids ∧ ∀ id ∈ ids, ∃ query ∈ catalog.queries, query.id = id := by
    rw [knownIds_eq_ok_iff, Catalog.knows_iff]
  constructor
  · intro planned
    cases known : knownIds (.listed texts) catalog with
    | error fault =>
        rw [known] at planned
        cases planned
    | ok ids =>
        rw [known] at planned
        cases planned
        obtain ⟨lists, listed⟩ := (runnable ids).mp known
        exact ⟨ids, lists, listed, rfl⟩
  · rintro ⟨ids, lists, listed, rfl⟩
    rw [(runnable ids).mpr ⟨lists, listed⟩]
    rfl

end Selection

end DecisionBench
