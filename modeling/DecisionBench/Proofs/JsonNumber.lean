import DecisionBench.Decimal.Layout
import DecisionBench.Proofs.Digits
import DecisionBench.Proofs.JsonReading

/-!
# Written numbers are JSON numbers

A natural number is written as the JSON number that reads back as it
(`tokens?_decimal`).  A binary number that is finite is written as some JSON number,
in each of its forms: with a point where it belongs, with a zero behind it, and with
an exponent (`tokens?_scientific`).  What could go wrong is a zero in front that may
not stand there; the digits of the shortest decimal do not begin with one
(`digits_of_shortest`).
-/

namespace DecisionBench

namespace Json

open Numeral

variable {whole fraction rest : List Char}

/-! ### Numbers from their parts -/

/-- No digit comes next. -/
def EndsDigits (rest : List Char) : Prop :=
  ∀ c ∈ rest.head?, c.isDigit = false

theorem endsDigits_nil : EndsDigits [] := by
  simp [EndsDigits]

theorem span_digits (digits : ∀ c ∈ whole, c.isDigit = true) (ends : EndsDigits rest) :
    (whole ++ rest).takeWhile Char.isDigit = whole ∧
      (whole ++ rest).dropWhile Char.isDigit = rest := by
  rw [List.takeWhile_append_of_pos digits, List.dropWhile_append_of_pos digits]
  cases rest with
  | nil => simp
  | cons c rest => simp [ends c rfl]

/-- The characters make a number, of either sign. -/
structure IsMagnitude (text : List Char) : Prop where
  wordChars : ∀ c ∈ text, isWordChar c = true
  digitFirst : ∀ c ∈ text.head?, c.isDigit = true
  isNumber : ∀ negative, ∃ digits exponent,
    magnitude? negative text = some (.number negative digits exponent)

theorem isWordChar_of_isDigit {c : Char} (isDigit : c.isDigit = true) :
    isWordChar c = true := by
  simp [isWordChar, Char.isAlphanum, isDigit]

theorem word?_eq_number? {c : Char} {text : List Char}
    (numeric : c.isDigit = true ∨ c = '-') : word? (c :: text) = number? (c :: text) := by
  have notLetter : c ≠ 'n' ∧ c ≠ 't' ∧ c ≠ 'f' := by
    refine ⟨?_, ?_, ?_⟩ <;> rintro rfl <;> simp at numeric
  obtain ⟨noNull, noTrue, noFalse⟩ := notLetter
  simp [word?, noNull, noTrue, noFalse]

theorem isMagnitude_of_parts {tail : List Char} {exponent : Int}
    (digits : ∀ c ∈ whole, c.isDigit = true) (proper : isWhole whole = true)
    (ends : EndsDigits tail) (tailChars : ∀ c ∈ tail, isWordChar c = true)
    (points : fraction? tail = some (fraction, rest))
    (scales : Binary64.exponent? rest = some exponent) : IsMagnitude (whole ++ tail) where
  wordChars c member := by
    rcases List.mem_append.mp member with inWhole | inTail
    · exact isWordChar_of_isDigit (digits c inWhole)
    · exact tailChars c inTail
  digitFirst c first := by
    cases whole with
    | nil => cases proper
    | cons d whole =>
        cases first
        exact digits c List.mem_cons_self
  isNumber negative := by
    obtain ⟨taken, dropped⟩ := span_digits digits ends
    refine ⟨Nat.ofDigitChars 10 (whole ++ fraction) 0,
      exponent - Int.ofNat fraction.length, ?_⟩
    simp [magnitude?, taken, dropped, proper, points, scales]

/-- The exponent that a number is written with. -/
def exponentText (negative : Bool) (n : Nat) : List Char :=
  'e' :: (if negative then '-' else '+') :: decimal n

theorem isWordChar_of_mem_exponentText {negative : Bool} {n : Nat} :
    ∀ c ∈ exponentText negative n, isWordChar c = true := by
  intro c member
  rcases List.mem_cons.mp member with rfl | signed
  · rfl
  · rcases List.mem_cons.mp signed with rfl | digit
    · cases negative <;> rfl
    · exact isWordChar_of_isDigit (isDigit_of_mem_decimal c digit)

theorem exists_exponent?_eq (negative : Bool) (n : Nat) :
    ∃ exponent, Binary64.exponent? (exponentText negative n) = some exponent := by
  have known := unsigned?_decimal n
  cases negative with
  | false => exact ⟨Int.ofNat n, by simp [exponentText, Binary64.exponent?, known]⟩
  | true => exact ⟨-Int.ofNat n, by simp [exponentText, Binary64.exponent?, known]⟩

theorem endsDigits_exponentText (negative : Bool) (n : Nat) :
    EndsDigits (exponentText negative n) := by
  rintro c first
  cases first
  rfl

theorem fraction?_point {tail : List Char} (digits : ∀ c ∈ fraction, c.isDigit = true)
    (nonempty : fraction ≠ []) (ends : EndsDigits tail) :
    fraction? ('.' :: (fraction ++ tail)) = some (fraction, tail) := by
  obtain ⟨taken, dropped⟩ := span_digits digits ends
  simp [fraction?, taken, dropped, nonempty]

/-- A whole part, a fraction, and whatever scales them. -/
theorem isMagnitude_scaled {tail : List Char} {exponent : Int}
    (digits : ∀ c ∈ whole, c.isDigit = true) (proper : isWhole whole = true)
    (fractionDigits : ∀ c ∈ fraction, c.isDigit = true) (nonempty : fraction ≠ [])
    (ends : EndsDigits tail) (tailChars : ∀ c ∈ tail, isWordChar c = true)
    (scales : Binary64.exponent? tail = some exponent) :
    IsMagnitude (whole ++ '.' :: (fraction ++ tail)) := by
  have points := fraction?_point fractionDigits nonempty ends
  refine isMagnitude_of_parts digits proper ?_ ?_ points scales
  · rintro c first
    cases first
    rfl
  · intro c member
    rcases List.mem_cons.mp member with rfl | further
    · rfl
    · rcases List.mem_append.mp further with digit | inTail
      · exact isWordChar_of_isDigit (fractionDigits c digit)
      · exact tailChars c inTail

theorem isMagnitude_point (digits : ∀ c ∈ whole, c.isDigit = true)
    (proper : isWhole whole = true) (fractionDigits : ∀ c ∈ fraction, c.isDigit = true)
    (nonempty : fraction ≠ []) : IsMagnitude (whole ++ '.' :: fraction) := by
  have unscaled := isMagnitude_scaled digits proper fractionDigits nonempty endsDigits_nil
    (by simp) rfl
  rwa [List.append_nil] at unscaled

/-! ### The forms of a decimal -/

open Binary64 (Decimal positional withExponent shortest)

theorem isMagnitude_withExponent (decimal : Decimal) (leading : Int) :
    IsMagnitude (withExponent decimal leading) := by
  obtain ⟨exponent, scales⟩ := exists_exponent?_eq (decide (leading < 0)) leading.natAbs
  have ends := endsDigits_exponentText (decide (leading < 0)) leading.natAbs
  have written : ∀ mantissa, mantissa ++ (if leading < 0 then ['e', '-'] else ['e', '+']) ++
      Numeral.decimal leading.natAbs =
        mantissa ++ exponentText (decide (leading < 0)) leading.natAbs := by
    intro mantissa
    by_cases negative : leading < 0 <;> simp [exponentText, negative]
  have digits := isDigit_of_mem_decimal (n := decimal.digits)
  unfold withExponent
  dsimp only
  rw [written]
  cases spelled : Numeral.decimal decimal.digits with
  | nil => exact (Nat.toDigits_ne_nil spelled).elim
  | cons first rest =>
      rw [spelled] at digits
      have firstDigit : ∀ c ∈ [first], c.isDigit = true := by
        simpa using digits first List.mem_cons_self
      cases rest with
      | nil =>
          exact isMagnitude_of_parts firstDigit rfl ends isWordChar_of_mem_exponentText
            rfl scales
      | cons second rest =>
          have restDigits : ∀ c ∈ second :: rest, c.isDigit = true :=
            fun c member => digits c (List.mem_cons_of_mem _ member)
          exact isMagnitude_scaled firstDigit rfl restDigits (by simp) ends
            isWordChar_of_mem_exponentText scales

theorem isWhole_cons {first : Char} (nonzero : first ≠ '0') (rest : List Char) :
    isWhole (first :: rest) = true := by
  cases rest with
  | nil => rfl
  | cons second rest => simp [isWhole, nonzero]

/-- Nothing but the numeral of zero begins with a zero. -/
theorem isWhole_decimal_append {n : Nat} (positive : 0 < n) (rest : List Char) :
    isWhole (Numeral.decimal n ++ rest) = true := by
  obtain ⟨first, further, written, nonzero⟩ := exists_decimal_eq_cons positive
  rw [written]
  exact isWhole_cons nonzero _

theorem isDigit_of_mem_replicate {count : Nat} :
    ∀ c ∈ List.replicate count '0', c.isDigit = true := by
  intro c member
  obtain rfl := List.eq_of_mem_replicate member
  rfl

/-- A whole number has no zero in front, unless it is zero alone. -/
theorem isWhole_positional {decimal : Decimal} (integral : 0 ≤ decimal.exponent)
    (proper : decimal.digits ≠ 0 ∨ decimal.exponent = 0) :
    isWhole (positional decimal) = true := by
  rw [positional, if_pos integral]
  by_cases zero : decimal.digits = 0
  · have noPlaces : decimal.exponent = 0 := proper.resolve_left (absurd zero)
    rw [zero, noPlaces]
    rfl
  · exact isWhole_decimal_append (Nat.pos_of_ne_zero zero) _

theorem isMagnitude_integral {decimal : Decimal} (integral : 0 ≤ decimal.exponent)
    (proper : decimal.digits ≠ 0 ∨ decimal.exponent = 0) :
    IsMagnitude (positional decimal ++ ".0".toList) := by
  have digits : ∀ c ∈ positional decimal, c.isDigit = true := by
    rw [positional, if_pos integral]
    intro c member
    rcases List.mem_append.mp member with written | zero
    · exact isDigit_of_mem_decimal c written
    · exact isDigit_of_mem_replicate c zero
  have tail : ".0".toList = '.' :: ['0'] := rfl
  rw [tail]
  exact isMagnitude_point digits (isWhole_positional integral proper) (by simp) (by simp)

/-- Digits in front of the point, of which there is one at least: the only zero that
may stand first is the one that was filled in. -/
theorem isWhole_take_filled (n : Nat) {places : Nat} (fractional : 0 < places) :
    let filled := List.replicate (places + 1 - (Numeral.decimal n).length) '0' ++
      Numeral.decimal n
    isWhole (filled.take (filled.length - places)) = true := by
  intro filled
  have filledLength : filled.length =
      places + 1 - (Numeral.decimal n).length + (Numeral.decimal n).length := by
    simp [filled]
  by_cases short : (Numeral.decimal n).length ≤ places
  · -- Every digit is behind the point, and a zero was filled in before it.
    have one : filled.length - places = 1 := by omega
    rw [one]
    cases spelled : filled with
    | nil => simp [spelled] at one
    | cons first rest => rfl
  · -- Nothing was filled in, and the numeral is longer than that of zero.
    have nothing : places + 1 - (Numeral.decimal n).length = 0 := by omega
    have positive : 0 < n := by
      refine Nat.pos_of_ne_zero fun zero => ?_
      have single : (Numeral.decimal n).length = 1 := by rw [zero]; rfl
      omega
    obtain ⟨first, rest, written, nonzero⟩ := exists_decimal_eq_cons positive
    have same : filled = first :: rest := by
      rw [← written]
      simp [filled, nothing]
    obtain ⟨count, counted⟩ : ∃ count, filled.length - places = count + 1 :=
      ⟨filled.length - places - 1, by omega⟩
    rw [counted, same, List.take_succ_cons]
    exact isWhole_cons nonzero _

theorem isMagnitude_fractional {decimal : Decimal} (fractional : decimal.exponent < 0) :
    IsMagnitude (positional decimal) := by
  rw [positional, if_neg (by omega)]
  extract_lets places filled
  have positive : 0 < places := by omega
  have digits : ∀ c ∈ filled, c.isDigit = true := by
    intro c member
    rcases List.mem_append.mp member with zero | written
    · exact isDigit_of_mem_replicate c zero
    · exact isDigit_of_mem_decimal c written
  have whole : isWhole (filled.take (filled.length - places)) = true :=
    isWhole_take_filled decimal.digits positive
  have fraction : filled.drop (filled.length - places) ≠ [] := by
    have length : places < filled.length := by
      simp only [filled, List.length_append, List.length_replicate]
      omega
    rw [Ne, List.drop_eq_nil_iff]
    omega
  exact isMagnitude_point (fun c member => digits c (List.mem_of_mem_take member)) whole
    (fun c member => digits c (List.mem_of_mem_drop member)) fraction

end Json

/-! ### The shortest decimal -/

namespace Binary64

theorem scaled_pos {numerator denominator : Nat} (shift : Int) (above : 0 < numerator)
    (below : 0 < denominator) :
    0 < (scaled numerator denominator shift).1 ∧
      0 < (scaled numerator denominator shift).2 := by
  unfold scaled
  split
  · exact ⟨Nat.mul_pos above (Nat.pow_pos (by decide)), below⟩
  · exact ⟨above, Nat.mul_pos below (Nat.pow_pos (by decide))⟩

theorem tenTo_pos (exponent : Int) : 0 < (tenTo exponent).1 ∧ 0 < (tenTo exponent).2 := by
  unfold tenTo
  split
  · exact ⟨Nat.pow_pos (by decide), Nat.one_pos⟩
  · exact ⟨Nat.one_pos, Nat.pow_pos (by decide)⟩

/-- Zero lies below everything that rounds to a positive number. -/
theorem readsBack_zero {significand : Nat} (positive : 0 < significand) (exponent grid : Int) :
    readsBack significand exponent 0 grid = false := by
  have quarter := (scaled_pos (exponent - 2) Nat.one_pos Nat.one_pos).1
  have down := (tenTo_pos grid).2
  have margin : marginBelow significand exponent ≤ 2 := by
    unfold marginBelow
    split <;> omega
  have low : 0 < (4 * significand - marginBelow significand exponent) *
      (scaled 1 1 (exponent - 2)).1 * (tenTo grid).2 :=
    Nat.mul_pos (Nat.mul_pos (by omega) quarter) down
  simp only [readsBack, Nat.zero_mul]
  split
  · simp [Nat.not_le.mpr low]
  · simp

theorem digits_of_shortestFrom {tie : Tie} {significand : Nat} {exponent leading : Int}
    (positive : 0 < significand) {fuel count : Nat} {decimal : Decimal}
    (found : shortestFrom tie significand exponent leading fuel count = some decimal) :
    decimal.digits ≠ 0 := by
  induction fuel generalizing count with
  | zero => cases found
  | succ fuel induction =>
      simp only [shortestFrom] at found
      generalize leading - Int.ofNat count + 1 = grid at found
      generalize (magnitude significand exponent).fst * (tenTo grid).snd /
        ((magnitude significand exponent).snd * (tenTo grid).fst) = below at found
      -- The candidates are the decimals next below and above; zero is never chosen.
      have nonzero : readsBack significand exponent below grid = true → below ≠ 0 := by
        rintro fits rfl
        rw [readsBack_zero positive] at fits
        cases fits
      split at found
      next both =>
        cases found
        dsimp only
        split_ifs
        · exact Nat.succ_ne_zero below
        · exact nonzero (Bool.and_eq_true_iff.mp both).1
      next =>
        split at found
        next fits =>
          cases found
          exact nonzero fits
        next =>
          split at found
          next =>
            cases found
            exact Nat.succ_ne_zero below
          next => exact induction found

theorem Decimal.digits_of_stripped {decimal : Decimal} (nonzero : decimal.digits ≠ 0)
    (fuel : Nat) : (decimal.stripped fuel).digits ≠ 0 := by
  induction fuel generalizing decimal with
  | zero => exact nonzero
  | succ fuel induction =>
      unfold Decimal.stripped
      split
      next even =>
        refine induction ?_
        dsimp only
        omega
      next => exact nonzero

/-- Only zero itself is written with a zero in front. -/
theorem digits_of_shortest (tie : Tie) (significand : Nat) (exponent : Int) :
    (shortest tie significand exponent).digits ≠ 0 ∨
      (shortest tie significand exponent).exponent = 0 := by
  unfold shortest
  split
  next => exact .inr rfl
  next nonzero =>
    dsimp only
    split
    next decimal found =>
      have positive := Nat.pos_of_ne_zero nonzero
      exact .inl (Decimal.digits_of_stripped (digits_of_shortestFrom positive found) 18)
    next => exact .inr rfl

end Binary64

namespace Json

open Numeral Binary64

theorem number?_cons {c : Char} (unsigned : c ≠ '-') (text : List Char) :
    number? (c :: text) = magnitude? false (c :: text) := by
  unfold number?
  split
  next same =>
    cases same
    exact (unsigned rfl).elim
  next => rfl

theorem word?_of_isDigit {c : Char} (isDigit : c.isDigit = true) (text : List Char) :
    word? (c :: text) = magnitude? false (c :: text) := by
  have unsigned : c ≠ '-' := by
    rintro rfl
    cases isDigit
  rw [word?_eq_number? (.inl isDigit), number?_cons unsigned]

theorem tokens?_of_isMagnitude {text : List Char} (magnitude : IsMagnitude text)
    (negative : Bool) :
    ∃ digits exponent, tokens? (sign negative ++ text) =
      some [.scalar (.number negative digits exponent)] := by
  obtain ⟨digits, exponent, known⟩ := magnitude.isNumber negative
  refine ⟨digits, exponent, ?_⟩
  cases text with
  | nil => cases known
  | cons c text =>
      cases negative with
      | false =>
          have isDigit := magnitude.digitFirst c rfl
          exact tokens?_word ((word?_of_isDigit isDigit text).trans known)
            magnitude.wordChars
      | true =>
          refine tokens?_word ((word?_eq_number? (.inr rfl)).trans known) ?_
          intro d member
          rcases List.mem_cons.mp member with rfl | further
          · rfl
          · exact magnitude.wordChars d further

theorem isWhole_decimal (n : Nat) : isWhole (decimal n) = true := by
  by_cases zero : n = 0
  · rw [zero]
    rfl
  · simpa using isWhole_decimal_append (Nat.pos_of_ne_zero zero) []

/-- A natural number reads back as it was. -/
theorem tokens?_decimal (n : Nat) :
    tokens? (decimal n) = some [.scalar (.number false n 0)] := by
  have digits := isDigit_of_mem_decimal (n := n)
  obtain ⟨taken, dropped⟩ := span_digits digits endsDigits_nil
  rw [List.append_nil] at taken dropped
  have value : Nat.ofDigitChars 10 (decimal n) 0 = n := Nat.ofDigitChars_ten_toDigits
  have known : magnitude? false (decimal n) = some (.number false n 0) := by
    simp [magnitude?, taken, dropped, isWhole_decimal, fraction?, Binary64.exponent?, value]
  refine tokens?_word ?_ fun c member => isWordChar_of_isDigit (digits c member)
  cases written : decimal n with
  | nil => exact (Nat.toDigits_ne_nil written).elim
  | cons c rest =>
      rw [written] at digits known
      rw [word?_of_isDigit (digits c List.mem_cons_self), known]

/-- A finite number is written as a JSON number. -/
theorem tokens?_scientific {negative : Bool} {significand : Nat} {exponent : Int}
    {written : String} (has : scientific? (.finite negative significand exponent) = some written) :
    ∃ digits scale, tokens? written.toList =
      some [.scalar (.number negative digits scale)] := by
  simp only [scientific?, Option.some.injEq] at has
  subst has
  rw [String.toList_ofList]
  refine tokens?_of_isMagnitude ?_ negative
  split
  next =>
    have zero : ∀ c ∈ ['0'], c.isDigit = true := by simp
    exact isMagnitude_point zero rfl zero (by simp)
  next =>
    split
    next =>
      split
      next fractional => exact isMagnitude_fractional fractional
      next integral =>
        exact isMagnitude_integral (by omega) (digits_of_shortest .even significand exponent)
    next => exact isMagnitude_withExponent _ _

end Json

end DecisionBench
