import DecisionBench.Text.Numeral

/-!
# Numerals

A numeral is read digit by digit, and each digit makes the number that is read so
far larger.  The numeral of a number reads back as that number
(`unsigned?_decimal`).

`Writes` lists all the ways to write a number: its numeral, with zeros in front and
perhaps a plus sign.  These and no others are read as the number
(`natural?_eq_some_iff`).
-/

namespace DecisionBench.Numeral

theorem isDigit_of_mem_decimal {n : Nat} :
    ∀ c ∈ decimal n, c.isDigit = true :=
  fun _ member => Nat.isDigit_of_mem_toDigits (by decide) (by decide) member

/-- The numeral of a positive number does not begin with a zero. -/
theorem exists_decimal_eq_cons {n : Nat} (positive : 0 < n) :
    ∃ first rest, decimal n = first :: rest ∧ first ≠ '0' := by
  -- The first digit of a long numeral is that of the tenth part.
  induction n using Nat.strongRecOn with
  | _ n induction =>
      by_cases small : n < 10
      · refine ⟨Nat.digitChar n, [], Nat.toDigits_of_lt_base small, fun zero => ?_⟩
        have nothing := Nat.digitChar_eq_zero.mp zero
        omega
      · obtain ⟨first, rest, written, nonzero⟩ := induction (n / 10) (by omega) (by omega)
        have split : decimal n = decimal (n / 10) ++ [Nat.digitChar (n % 10)] :=
          Nat.toDigits_of_base_le (by decide) (by omega)
        exact ⟨first, rest ++ [Nat.digitChar (n % 10)], by simp [split, written], nonzero⟩

theorem digit?_of_isDigit {c : Char} (isDigit : c.isDigit = true) :
    digit? c = some (c.toNat - 48) := by
  simp only [Char.isDigit, Bool.and_eq_true, decide_eq_true_eq] at isDigit
  exact if_pos isDigit

theorem digits?_of_isDigit {text : List Char} (digits : ∀ c ∈ text, c.isDigit = true)
    (start : Nat) : digits? start text = some (Nat.ofDigitChars 10 text start) := by
  induction text generalizing start with
  | nil => rfl
  | cons c text induction =>
      rw [digits?, digit?_of_isDigit (digits c List.mem_cons_self), Nat.ofDigitChars_cons]
      exact induction (fun d member => digits d (List.mem_cons_of_mem _ member)) _

theorem le_of_digits?_eq_some {text : List Char} {start value : Nat}
    (read : digits? start text = some value) : start ≤ value := by
  induction text generalizing start with
  | nil =>
      cases read
      exact Nat.le_refl _
  | cons c text induction =>
      rw [digits?] at read
      cases digit : digit? c with
      | none => simp [digit] at read
      | some d =>
          simp only [digit] at read
          have further := induction read
          omega

theorem digits?_decimal (n : Nat) : digits? 0 (decimal n) = some n := by
  rw [digits?_of_isDigit isDigit_of_mem_decimal]
  exact congrArg some Nat.ofDigitChars_ten_toDigits

theorem unsigned?_decimal (n : Nat) : unsigned? (decimal n) = some n := by
  have read := digits?_decimal n
  cases written : decimal n with
  | nil => exact (Nat.toDigits_ne_nil written).elim
  | cons c rest =>
      rw [written] at read
      exact read

/-! ### Ways to write a number -/

/-- Ways to write a number: its numeral, behind any number of zeros and at most one plus
sign. -/
inductive Writes (n : Nat) : List Char → Prop where
  | plain (zeros : Nat) : Writes n (List.replicate zeros '0' ++ decimal n)
  | signed (zeros : Nat) : Writes n ('+' :: (List.replicate zeros '0' ++ decimal n))

theorem isDigit_of_digit?_eq_some {c : Char} {value : Nat} (read : digit? c = some value) :
    c.isDigit = true := by
  unfold digit? at read
  split at read
  · rename_i between
    rw [Char.isDigit_iff_toNat]
    exact between
  · cases read

theorem isDigit_of_digits?_eq_some {text : List Char} {start value : Nat}
    (read : digits? start text = some value) : ∀ c ∈ text, c.isDigit = true := by
  induction text generalizing start with
  | nil => simp
  | cons c text induction =>
      rw [digits?] at read
      cases digit : digit? c with
      | none => simp [digit] at read
      | some d =>
          simp only [digit] at read
          exact List.forall_mem_cons.mpr ⟨isDigit_of_digit?_eq_some digit, induction read⟩

theorem decimal_of_isDigit {c : Char} (isDigit : c.isDigit = true) :
    decimal (c.toNat - 48) = [c] := by
  obtain ⟨low, high⟩ := Char.isDigit_iff_toNat.mp isDigit
  change 48 ≤ c.toNat at low
  change c.toNat ≤ 57 at high
  have small : c.toNat - 48 < 10 := by omega
  have same : (Nat.digitChar (c.toNat - 48)).toNat = c.toNat := by
    rw [Nat.toNat_digitChar_of_lt_ten small]
    omega
  rw [decimal, Nat.toDigits_of_lt_base small, Char.toNat_inj.mp same]

/-- Digits behind the numeral of a positive number make it a longer numeral. -/
theorem decimal_append_digits {n : Nat} (positive : 0 < n) {text : List Char}
    (digits : ∀ c ∈ text, c.isDigit = true) :
    decimal n ++ text = decimal (Nat.ofDigitChars 10 text n) := by
  induction text generalizing n with
  | nil => exact List.append_nil _
  | cons c text induction =>
      obtain ⟨isDigit, further⟩ := List.forall_mem_cons.mp digits
      have small : c.toNat - 48 < 10 := by
        have high : c.toNat ≤ 57 := (Char.isDigit_iff_toNat.mp isDigit).2
        omega
      have longer : decimal n ++ [c] = decimal (10 * n + (c.toNat - 48)) := by
        rw [← decimal_of_isDigit isDigit]
        exact Nat.toDigits_append_toDigits (by decide) positive small
      rw [List.append_cons, longer, induction (by omega) further, Nat.ofDigitChars_cons]
      rfl

/-- Digits are the numeral of their value, with zeros in front. -/
theorem exists_zeros_append_decimal {text : List Char}
    (digits : ∀ c ∈ text, c.isDigit = true) (nonempty : text ≠ []) :
    ∃ zeros, text = List.replicate zeros '0' ++ decimal (Nat.ofDigitChars 10 text 0) := by
  induction text with
  | nil => exact absurd rfl nonempty
  | cons c text induction =>
      obtain ⟨isDigit, further⟩ := List.forall_mem_cons.mp digits
      rw [Nat.ofDigitChars_cons]
      by_cases zero : c = '0'
      · subst c
        by_cases last : text = []
        · subst text
          exact ⟨0, rfl⟩
        · obtain ⟨zeros, written⟩ := induction further last
          exact ⟨zeros + 1, congrArg (List.cons '0') written⟩
      · have positive : 0 < c.toNat - 48 := by
          have low : 48 ≤ c.toNat := (Char.isDigit_iff_toNat.mp isDigit).1
          have other : c.toNat ≠ 48 := fun same => zero (Char.toNat_inj.mp same)
          omega
        refine ⟨0, ?_⟩
        rw [Nat.mul_zero, Nat.zero_add, List.replicate_zero, List.nil_append]
        refine Eq.trans ?_ (decimal_append_digits positive further)
        rw [decimal_of_isDigit isDigit]
        rfl

theorem isDigit_of_mem_zeros_append (zeros n : Nat) :
    ∀ c ∈ List.replicate zeros '0' ++ decimal n, c.isDigit = true := by
  intro c member
  rcases List.mem_append.mp member with zero | inside
  · rw [List.eq_of_mem_replicate zero]
    rfl
  · exact isDigit_of_mem_decimal c inside

theorem unsigned?_eq_some_iff {text : List Char} {n : Nat} :
    unsigned? text = some n ↔ ∃ zeros, text = List.replicate zeros '0' ++ decimal n := by
  constructor
  · intro read
    cases text with
    | nil => cases read
    | cons c text =>
        have digits := isDigit_of_digits?_eq_some read
        have value : Nat.ofDigitChars 10 (c :: text) 0 = n :=
          Option.some.inj ((digits?_of_isDigit digits 0).symm.trans read)
        rw [← value]
        exact exists_zeros_append_decimal digits (List.cons_ne_nil c text)
  · rintro ⟨zeros, rfl⟩
    have value : Nat.ofDigitChars 10 (List.replicate zeros '0' ++ decimal n) 0 = n := by
      rw [Nat.ofDigitChars_append, Nat.ofDigitChars_replicate_zero, Nat.mul_zero]
      exact Nat.ofDigitChars_ten_toDigits
    have read := digits?_of_isDigit (isDigit_of_mem_zeros_append zeros n) 0
    rw [value] at read
    cases written : List.replicate zeros '0' ++ decimal n with
    | nil => exact absurd (List.append_eq_nil_iff.mp written).2 Nat.toDigits_ne_nil
    | cons c rest =>
        rw [written] at read
        exact read

theorem natural?_eq_some_iff {bound n : Nat} {text : List Char} :
    natural? bound text = some n ↔ n < bound ∧ Writes n text := by
  unfold natural?
  rw [Option.filter_eq_some_iff, decide_eq_true_eq, and_comm]
  refine and_congr_right fun _ => ?_
  split
  · rename_i rest
    rw [unsigned?_eq_some_iff]
    constructor
    · rintro ⟨zeros, rfl⟩
      exact .signed zeros
    · intro writes
      generalize text_eq : '+' :: rest = text at writes
      cases writes with
      | plain zeros =>
          have plus : '+' ∈ List.replicate zeros '0' ++ decimal n :=
            text_eq ▸ List.mem_cons_self
          exact absurd (isDigit_of_mem_zeros_append _ _ _ plus) (by decide)
      | signed zeros => exact ⟨zeros, (List.cons.inj text_eq).2⟩
  · rename_i unsigned
    rw [unsigned?_eq_some_iff]
    constructor
    · rintro ⟨zeros, rfl⟩
      exact .plain zeros
    · intro writes
      cases writes with
      | plain zeros => exact ⟨zeros, rfl⟩
      | signed zeros => exact absurd rfl (unsigned _)

/-! ### Hexadecimal digits -/

/-- A character is the hexadecimal digit of a value, in either case. -/
def IsHexDigit (c : Char) (value : Nat) : Prop :=
  value < 16 ∧ (c = Nat.digitChar value ∨ c = (Nat.digitChar value).toUpper)

theorem hexDigit?_digitChar : ∀ value < 16, hexDigit? (Nat.digitChar value) = some value := by
  decide

theorem hexDigit?_toUpper_digitChar :
    ∀ value < 16, hexDigit? (Nat.digitChar value).toUpper = some value := by
  decide

theorem toNat_digitChar : ∀ value < 16,
    (Nat.digitChar value).toNat = if value < 10 then 48 + value else 87 + value := by
  decide

theorem toNat_toUpper_digitChar : ∀ value < 16,
    (Nat.digitChar value).toUpper.toNat = if value < 10 then 48 + value else 55 + value := by
  decide

theorem hexDigit?_eq_some_iff {c : Char} {value : Nat} :
    hexDigit? c = some value ↔ IsHexDigit c value := by
  constructor
  · intro read
    unfold hexDigit? at read
    split at read
    · rename_i between
      have bounds : 48 ≤ c.toNat ∧ c.toNat ≤ 57 := between
      cases read
      have small : c.toNat - 48 < 16 := by omega
      refine ⟨small, .inl (Char.toNat_inj.mp ?_)⟩
      rw [toNat_digitChar _ small, if_pos (by omega)]
      omega
    · split at read
      · rename_i between
        have bounds : 97 ≤ c.toNat ∧ c.toNat ≤ 102 := between
        cases read
        have small : c.toNat - 87 < 16 := by omega
        refine ⟨small, .inl (Char.toNat_inj.mp ?_)⟩
        rw [toNat_digitChar _ small, if_neg (by omega)]
        omega
      · split at read
        · rename_i between
          have bounds : 65 ≤ c.toNat ∧ c.toNat ≤ 70 := between
          cases read
          have small : c.toNat - 55 < 16 := by omega
          refine ⟨small, .inr (Char.toNat_inj.mp ?_)⟩
          rw [toNat_toUpper_digitChar _ small, if_neg (by omega)]
          omega
        · cases read
  · rintro ⟨small, rfl | rfl⟩
    · exact hexDigit?_digitChar value small
    · exact hexDigit?_toUpper_digitChar value small

theorem IsHexDigit.ascii {c : Char} {value : Nat} (isDigit : IsHexDigit c value) :
    c.toNat < 128 := by
  obtain ⟨small, rfl | rfl⟩ := isDigit
  · rw [toNat_digitChar value small]
    split <;> omega
  · rw [toNat_toUpper_digitChar value small]
    split <;> omega

end DecisionBench.Numeral
