import DecisionBench.Job
import DecisionBench.Proofs.LoadStatement
import DecisionBench.Proofs.Octets

/-!
# Loading what was generated

The files of the generator are loaded with the delimiter that they were written
with.  The octet of a delimiter passes through the escapes of the server and a
quoted literal before the server reads it, and each of the tab, the backslash,
the quote and the other octets takes a way of its own; every one comes back as
the one character of its octet (`denotes_terminator`).

`generated_files_read_back` says so of the whole statement that loads a table,
and that a text which is no delimiter gives no options to load with.
-/

namespace DecisionBench

namespace Delimiter

theorem isAllowed_of_parse {text : String} {octet : Nat}
    (parsed : parse text = .ok octet) : isAllowed octet = true := by
  unfold parse at parsed
  split at parsed
  · rename_i found denoted
    obtain rfl : found = octet := by simpa using parsed
    exact (Option.filter_eq_some_iff.mp denoted).2
  · cases parsed

theorem eq_invalid_of_parse {text : String} {fault : Fault}
    (refused : parse text = .error fault) : fault = invalid text := by
  unfold parse at refused
  split at refused
  · cases refused
  · simpa using refused.symm

theorem lt_of_isAllowed {octet : Nat} (allowed : isAllowed octet = true) :
    octet < 128 := by
  simp only [isAllowed, Bool.and_eq_true, decide_eq_true_eq] at allowed
  exact allowed.1.1.1.1

end Delimiter

namespace Load

open Literal Literal.Mode

/-- The terminator of an octet stands in its literal for the one character of
the octet. -/
theorem denotes_terminator {octet : Nat} (ascii : octet < 128) :
    Denotes ((terminator octet).toList.flatMap terminatorChar)
      [Char.ofNat octet] := by
  by_cases tab : octet = 0x09
  · subst octet
    exact Denotes.nil.escaped 't'
  · by_cases backslash : octet = 0x5C
    · subst octet
      exact Denotes.nil.escaped '\\'
    · have written : (terminator octet).toList = [Char.ofNat octet] := by
        simp [terminator, tab, backslash]
      rw [written, List.flatMap_singleton]
      by_cases quote : octet = 0x27
      · subst octet
        exact Denotes.nil.doubled
      · have code : (Char.ofNat octet).toNat = octet := Octets.toNat_ofNat_octet (by omega)
        have notQuote : Char.ofNat octet ≠ '\x27' := by
          intro same
          exact quote (by simpa [code] using congrArg Char.toNat same)
        have notBackslash : Char.ofNat octet ≠ '\\' := by
          intro same
          exact backslash (by simpa [code] using congrArg Char.toNat same)
        rw [terminatorChar, if_neg notQuote]
        exact Denotes.nil.plain notQuote notBackslash

theorem denotes_standardLineEnd :
    Denotes (standardLineEnd.toList.flatMap terminatorChar) ['\n'] :=
  Denotes.nil.escaped 'n'

end Load

namespace GenerationArguments

open Load Literal Literal.Mode

variable {generation : GenerationArguments}

theorem loadOptions_of_parse {octet : Nat}
    (parsed : Delimiter.parse generation.delimiter = .ok octet)
    (loading : LoadingArguments) :
    generation.loadOptions loading =
      .ok ⟨generation.directory, loading.tables, loading.truncate, terminator octet,
        standardLineEnd, loading.headerLines⟩ := by
  rw [loadOptions, parsed]
  rfl

theorem loadOptions_of_refused {fault : Fault}
    (refused : Delimiter.parse generation.delimiter = .error fault)
    (loading : LoadingArguments) :
    generation.loadOptions loading = .error fault := by
  rw [loadOptions, refused]
  rfl

/-- The options that load generated files make of every table and path a
statement that is read to its end, with three literals: the path, the one
character whose octet is the delimiter of the generator, and a line feed.  A
text that is no delimiter is a fault of the configuration instead. -/
theorem generated_files_read_back (generation : GenerationArguments)
    (loading : LoadingArguments) :
    (∀ octet, Delimiter.parse generation.delimiter = .ok octet →
        ∃ options c, generation.loadOptions loading = .ok options ∧
          Octets.ofText [c] = [octet] ∧
          ∀ (table : Table) (path : String),
            lexemes? .outside (statement table path options).toList =
              some (reading table path.toList [c] ['\n'] loading.headerLines)) ∧
      ∀ fault, Delimiter.parse generation.delimiter = .error fault →
        generation.loadOptions loading = .error fault ∧
          fault.kind = .configuration := by
  constructor
  · intro octet parsed
    have ascii := Delimiter.lt_of_isAllowed (Delimiter.isAllowed_of_parse parsed)
    refine ⟨_, Char.ofNat octet, loadOptions_of_parse parsed loading,
      Octets.ofText_ascii ascii, ?_⟩
    intro table path
    rw [toList_statement]
    exact lexemes?_template (denotes_literal path.toList) (denotes_terminator ascii)
      denotes_standardLineEnd table loading.headerLines
  · intro fault refused
    refine ⟨loadOptions_of_refused refused loading, ?_⟩
    rw [Delimiter.eq_invalid_of_parse refused]
    rfl

/-- A quote is the delimiter whose literal looks least like it, and a line feed
is none. -/
theorem quote_reads_back :
    let quoted : GenerationArguments := ⟨"/data", .minusZero, none, "\\x27", none⟩
    let broken : GenerationArguments := ⟨"/data", .minusZero, none, "\n", none⟩
    let loading : LoadingArguments := ⟨[.nation], 1, false⟩
    (Delimiter.parse quoted.delimiter = .ok 0x27 ∧
      ∃ options c, quoted.loadOptions loading = .ok options ∧
        Octets.ofText [c] = [0x27] ∧
        ∀ (table : Table) (path : String),
          lexemes? .outside (statement table path options).toList =
            some (reading table path.toList [c] ['\n'] 1)) ∧
      Delimiter.parse broken.delimiter = .error (Delimiter.invalid "\n") ∧
        broken.loadOptions loading = .error (Delimiter.invalid "\n") := by
  intro quoted broken loading
  have parsed : Delimiter.parse quoted.delimiter = .ok 0x27 := by
    have denoted : Delimiter.denoted? quoted.delimiter.toList = some 0x27 := by decide
    rw [Delimiter.parse, denoted]
    rfl
  have refused :
      Delimiter.parse broken.delimiter = .error (Delimiter.invalid "\n") := by
    have denoted : Delimiter.denoted? broken.delimiter.toList = some 0x0A := by decide
    rw [Delimiter.parse, denoted]
    rfl
  exact ⟨⟨parsed, (generated_files_read_back quoted loading).1 0x27 parsed⟩,
    refused, ((generated_files_read_back broken loading).2 _ refused).1⟩

end GenerationArguments

end DecisionBench
