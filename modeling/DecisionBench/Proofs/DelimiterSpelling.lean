import DecisionBench.Proofs.Digits
import DecisionBench.Proofs.GeneratedFiles

/-!
# Spellings of delimiters

A delimiter is spelled by one character of ASCII, by the escape of the tab or of
the backslash, or by the code of its octet (`Spells`).  One octet can have several
spellings, and some octets may not be delimiters however they are spelled
(`Permitted`).  A text is read as an octet exactly if it spells it and the octet is
permitted (`parse_eq_ok_iff`).
-/

namespace DecisionBench

namespace Load

/-- Terminators of two octets are read by the server as two characters. -/
theorem terminator_injective {octet other : Nat} (ascii : octet < 128)
    (otherAscii : other < 128) (same : terminator octet = terminator other) :
    octet = other := by
  have read := (denotes_terminator ascii).foldl_next []
  rw [same, (denotes_terminator otherAscii).foldl_next []] at read
  have characters : Char.ofNat other = Char.ofNat octet := by simpa using read
  have codes := congrArg Char.toNat characters
  rw [Octets.toNat_ofNat_octet (by omega), Octets.toNat_ofNat_octet (by omega)] at codes
  exact codes.symm

end Load

namespace Delimiter

open Numeral

/-- The ways to spell an octet. -/
inductive Spells : List Char → Nat → Prop where
  | character {c : Char} : c.toNat < 128 → Spells [c] c.toNat
  | tab : Spells ['\\', 't'] 0x09
  | backslash : Spells ['\\', '\\'] 0x5C
  | code {first second : Char} {high low : Nat} :
      IsHexDigit first high → IsHexDigit second low →
      Spells ['\\', 'x', first, second] (16 * high + low)

/-- An octet that can be a delimiter: it is of ASCII, and neither ends a text or a line
nor quotes a value. -/
def Permitted (octet : Nat) : Prop :=
  octet < 128 ∧ octet ∉ [0x00, 0x0A, 0x0D, 0x22]

theorem isAllowed_iff {octet : Nat} : isAllowed octet = true ↔ Permitted octet := by
  simp [isAllowed, Permitted, and_assoc]

theorem denoted?_eq_some_iff {text : List Char} {octet : Nat} (ascii : octet < 128) :
    denoted? text = some octet ↔ Spells text octet := by
  constructor
  · intro denoted
    unfold denoted? at denoted
    split at denoted
    · cases denoted
    · cases denoted
      exact .character ascii
    · cases denoted
      exact .tab
    · cases denoted
      exact .backslash
    · rename_i first second
      split at denoted
      · rename_i high low firstRead secondRead
        cases denoted
        exact .code (hexDigit?_eq_some_iff.mp firstRead) (hexDigit?_eq_some_iff.mp secondRead)
      · cases denoted
    · cases denoted
  · intro spells
    cases spells with
    | character => rfl
    | tab => rfl
    | backslash => rfl
    | code high low =>
        simp only [denoted?, hexDigit?_eq_some_iff.mpr high, hexDigit?_eq_some_iff.mpr low]

theorem parse_eq_ok_iff {text : String} {octet : Nat} :
    parse text = .ok octet ↔ Spells text.toList octet ∧ Permitted octet := by
  have parsed : parse text = .ok octet ↔
      (denoted? text.toList).filter isAllowed = some octet := by
    unfold parse
    cases (denoted? text.toList).filter isAllowed <;> simp
  rw [parsed, Option.filter_eq_some_iff, isAllowed_iff]
  exact and_congr_left fun permitted => denoted?_eq_some_iff permitted.1

theorem ascii_of_spells {text : List Char} {octet : Nat} (spells : Spells text octet) :
    ∀ c ∈ text, c.toNat < 128 := by
  cases spells with
  | character ascii => simpa using ascii
  | tab => simp
  | backslash => simp
  | code high low => simp [high.ascii, low.ascii]

/-- A text is read as an octet exactly if it spells it and the octet is permitted, and
any other text is a fault of the configuration.  All that is read is ASCII, and
every permitted octet can be spelled.  Generated files are loaded with the same field
terminator exactly if their delimiters spell the same octet. -/
theorem parse_accepts_spellings :
    (∀ text octet, parse text = .ok octet ↔ Spells text.toList octet ∧ Permitted octet) ∧
      (∀ text, (¬ ∃ octet, Spells text.toList octet ∧ Permitted octet) ↔
        parse text =
          .error ⟨.configuration, "invalid delimiter: " ++ Text.quoted text⟩) ∧
      (∀ text octet, parse text = .ok octet → ∀ c ∈ text.toList, c.toNat < 128) ∧
      (∀ octet, Permitted octet → ∃ text, parse text = .ok octet) ∧
      ∀ (left right : GenerationArguments) (loading : LoadingArguments) octet other,
        parse left.delimiter = .ok octet → parse right.delimiter = .ok other →
        ((left.loadOptions loading).map LoadOptions.fieldEnd =
          (right.loadOptions loading).map LoadOptions.fieldEnd ↔ octet = other) := by
  refine ⟨fun text octet => parse_eq_ok_iff, ?_, ?_, ?_, ?_⟩
  · intro text
    constructor
    · intro unspelled
      cases parsed : parse text with
      | ok octet => exact absurd ⟨octet, parse_eq_ok_iff.mp parsed⟩ unspelled
      | error fault => rw [eq_invalid_of_parse parsed, invalid]
    · rintro refused ⟨octet, spelled⟩
      rw [parse_eq_ok_iff.mpr spelled] at refused
      cases refused
  · intro text octet parsed
    exact ascii_of_spells (parse_eq_ok_iff.mp parsed).1
  · intro octet permitted
    have code := Octets.toNat_ofNat_octet (Nat.lt_trans permitted.1 (by decide))
    refine ⟨String.ofList [Char.ofNat octet], parse_eq_ok_iff.mpr ⟨?_, permitted⟩⟩
    rw [String.toList_ofList]
    have spells := Spells.character (c := Char.ofNat octet) (by rw [code]; exact permitted.1)
    rwa [code] at spells
  · intro left right loading octet other parsedLeft parsedRight
    rw [GenerationArguments.loadOptions_of_parse parsedLeft,
      GenerationArguments.loadOptions_of_parse parsedRight]
    constructor
    · intro same
      exact Load.terminator_injective (parse_eq_ok_iff.mp parsedLeft).2.1
        (parse_eq_ok_iff.mp parsedRight).2.1 (Except.ok.inj same)
    · rintro rfl
      rfl

end Delimiter

end DecisionBench
