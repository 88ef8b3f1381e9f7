import DecisionBench.Proofs.Digits
import DecisionBench.Proofs.Octets
import DecisionBench.Url.Percent

/-!
# Percent coding

A text can be written octet by octet, where the characters of a class of ASCII
stand for themselves and every other octet is a group.  If the percent sign is not
of the class, the text is what the written form decodes to (`decode_coded`).
-/

namespace DecisionBench.Percent

def codedOctet (isPlain : Char → Bool) (octet : Nat) : List Char :=
  if isPlain (Char.ofNat octet) then [Char.ofNat octet] else group octet

/-- The octets of a text, as the characters of a class or else as groups. -/
def coded (isPlain : Char → Bool) (text : List Char) : List Char :=
  (Octets.ofText text).flatMap (codedOctet isPlain)

theorem isAlphanum_toUpper_digitChar :
    ∀ n < 16, (Nat.digitChar n).toUpper.isAlphanum = true := by
  decide

variable {octet : Nat} {isPlain : Char → Bool}

theorem octets_group_append (small : octet < 256) (rest : List Char) :
    octets (group octet ++ rest) = octet :: octets rest := by
  have high := Numeral.hexDigit?_toUpper_digitChar (octet / 16) (by omega)
  have low := Numeral.hexDigit?_toUpper_digitChar (octet % 16) (by omega)
  have parts : 16 * (octet / 16) + octet % 16 = octet := Nat.div_add_mod octet 16
  simp [group, digitsOf, octets, high, low, parts]

theorem octets_cons_of_ne {c : Char} (plain : c ≠ '%') (rest : List Char) :
    octets (c :: rest) = Octets.ofChar c ++ octets rest := by
  refine octets.eq_3 c rest fun high low more percent => ?_
  exact (plain percent).elim

/-- A class of ASCII characters that stand for themselves. -/
structure IsPlainClass (isPlain : Char → Bool) : Prop where
  ascii : ∀ c, isPlain c = true → c.toNat < 128
  percent : isPlain '%' = false

theorem octets_codedOctet_append (plain : IsPlainClass isPlain) (small : octet < 256)
    (rest : List Char) : octets (codedOctet isPlain octet ++ rest) = octet :: octets rest := by
  by_cases itself : isPlain (Char.ofNat octet) = true
  · have code := Octets.toNat_ofNat_octet small
    have ascii := plain.ascii _ itself
    have noPercent : Char.ofNat octet ≠ '%' := by
      intro same
      rw [same, plain.percent] at itself
      cases itself
    rw [codedOctet, if_pos itself, List.singleton_append, octets_cons_of_ne noPercent,
      Octets.ofChar_of_ascii ascii, code, List.singleton_append]
  · rw [codedOctet, if_neg itself, octets_group_append small]

theorem octets_flatMap_codedOctet (plain : IsPlainClass isPlain) {written : List Nat}
    (small : ∀ octet ∈ written, octet < 256) :
    octets (written.flatMap (codedOctet isPlain)) = written := by
  induction written with
  | nil => rfl
  | cons octet written induction =>
      rw [List.flatMap_cons, octets_codedOctet_append plain (small octet List.mem_cons_self),
        induction fun later member => small later (List.mem_cons_of_mem _ member)]

/-- A text is what its written form decodes to. -/
theorem decode_coded (plain : IsPlainClass isPlain) (text : List Char) :
    decode (coded isPlain text) = .ok text := by
  rw [decode, coded, octets_flatMap_codedOctet plain Octets.lt_of_mem_ofText,
    Octets.characters_ofText]

theorem of_mem_group (small : octet < 256) {c : Char} (member : c ∈ group octet) :
    c = '%' ∨ c.isAlphanum = true := by
  rcases List.mem_cons.mp member with percent | digit
  · exact .inl percent
  · have place : ∃ n < 16, c = (Nat.digitChar n).toUpper := by
      rcases List.mem_cons.mp digit with high | further
      · exact ⟨octet / 16, by omega, high⟩
      · exact ⟨octet % 16, by omega, List.mem_singleton.mp further⟩
    obtain ⟨n, below, rfl⟩ := place
    exact .inr (isAlphanum_toUpper_digitChar n below)

/-- A written form has characters of the class, percent signs and digits. -/
theorem of_mem_coded {text : List Char} {c : Char} (member : c ∈ coded isPlain text) :
    isPlain c = true ∨ c = '%' ∨ c.isAlphanum = true := by
  obtain ⟨octet, inText, inOctet⟩ := List.mem_flatMap.mp member
  have small := Octets.lt_of_mem_ofText octet inText
  unfold codedOctet at inOctet
  split at inOctet
  · next itself =>
      rw [List.mem_singleton.mp inOctet]
      exact .inl itself
  · exact .inr (of_mem_group small inOctet)

theorem coded_ne_nil {text : List Char} (nonempty : text ≠ []) : coded isPlain text ≠ [] := by
  cases text with
  | nil => exact (nonempty rfl).elim
  | cons c text =>
      obtain ⟨octet, octets, split⟩ := List.exists_cons_of_ne_nil (Octets.ofChar_ne_nil c)
      rw [coded, Octets.ofText_cons, split, List.cons_append, List.flatMap_cons]
      apply List.append_ne_nil_of_left_ne_nil
      unfold codedOctet
      split
      · exact List.cons_ne_nil _ _
      · exact List.cons_ne_nil _ _

/-! ### Written forms from the front -/

theorem coded_cons_of_plain {c : Char} (plain : IsPlainClass isPlain)
    (itself : isPlain c = true) (text : List Char) :
    coded isPlain (c :: text) = c :: coded isPlain text := by
  have single : Octets.ofChar c = [c.toNat] := Octets.ofChar_of_ascii (plain.ascii c itself)
  simp [coded, Octets.ofText_cons, single, codedOctet, itself]

theorem isPlain_first_octet {c : Char} {more : List Nat} (plain : IsPlainClass isPlain)
    (other : isPlain c = false) (small : octet < 256)
    (octets : Octets.ofChar c = octet :: more) : isPlain (Char.ofNat octet) = false := by
  by_cases ascii : c.toNat < 128
  · rw [Octets.ofChar_of_ascii ascii] at octets
    rw [← (List.cons.inj octets).1, Char.ofNat_toNat]
    exact other
  · obtain ⟨first, rest, written, beyond⟩ := Octets.exists_ofChar_eq_cons ascii
    have same := (List.cons.inj (octets.symm.trans written)).1
    apply Bool.eq_false_iff.mpr
    intro inside
    have small := Octets.toNat_ofNat_octet small ▸ plain.ascii _ inside
    omega

/-- Any other character starts with a group, of an octet that is not of the class
either. -/
theorem exists_coded_cons_eq {c : Char} (plain : IsPlainClass isPlain)
    (other : isPlain c = false) (text : List Char) :
    ∃ octet more, octet < 256 ∧ isPlain (Char.ofNat octet) = false ∧
      coded isPlain (c :: text) = group octet ++ (more ++ coded isPlain text) := by
  obtain ⟨octet, more, octets⟩ := List.exists_cons_of_ne_nil (Octets.ofChar_ne_nil c)
  have small : octet < 256 := by
    apply Octets.lt_of_mem_ofChar (c := c)
    rw [octets]
    exact List.mem_cons_self
  have outside := isPlain_first_octet plain other small octets
  refine ⟨octet, more.flatMap (codedOctet isPlain), small, outside, ?_⟩
  simp [coded, Octets.ofText_cons, octets, codedOctet, outside]

theorem length_le_length_coded (plain : IsPlainClass isPlain) (text : List Char) :
    text.length ≤ (coded isPlain text).length := by
  induction text with
  | nil => exact Nat.zero_le _
  | cons c text induction =>
      cases itself : isPlain c with
      | true =>
          rw [coded_cons_of_plain plain itself, List.length_cons, List.length_cons]
          exact Nat.succ_le_succ induction
      | false =>
          obtain ⟨octet, more, -, -, written⟩ := exists_coded_cons_eq plain itself text
          simp only [written, group, List.cons_append, List.length_cons, List.length_append]
          omega

/-- The written form is the text itself just if no character needs a group. -/
theorem coded_eq_self_iff (plain : IsPlainClass isPlain) {text : List Char} :
    coded isPlain text = text ↔ ∀ c ∈ text, isPlain c = true := by
  induction text with
  | nil => exact ⟨fun _ c member => (List.not_mem_nil member).elim, fun _ => rfl⟩
  | cons c text induction =>
      rw [List.forall_mem_cons]
      cases itself : isPlain c with
      | true =>
          rw [coded_cons_of_plain plain itself, List.cons_inj_right, induction]
          simp
      | false =>
          have different : coded isPlain (c :: text) ≠ c :: text := by
            intro same
            obtain ⟨octet, more, -, -, written⟩ := exists_coded_cons_eq plain itself text
            have least := length_le_length_coded plain text
            have lengths := congrArg List.length (written.symm.trans same)
            simp only [group, digitsOf, List.cons_append, List.length_cons,
              List.length_append] at lengths
            omega
          simp [different]

/-! ### Characters that stand for themselves -/

theorem encode_eq_self {isCoded : Char → Bool} {text : List Char}
    (plain : ∀ c ∈ text, c.toNat < 128 ∧ isCoded c = false) : encode isCoded text = text := by
  induction text with
  | nil => rfl
  | cons c text induction =>
      obtain ⟨ascii, itself⟩ := plain c List.mem_cons_self
      have further := induction fun d member => plain d (List.mem_cons_of_mem _ member)
      have kept : encodeChar isCoded c = [c] := by
        simp [encodeChar, itself, Nat.not_le.mpr ascii]
      rw [encode, List.flatMap_cons, kept, List.singleton_append]
      exact congrArg (c :: ·) further

/-- What is coded has no characters of the class any more, and none beyond ASCII. -/
theorem of_mem_encode {isCoded : Char → Bool} {text : List Char} {c : Char}
    (member : c ∈ encode isCoded text) :
    (c.toNat < 128 ∧ isCoded c = false) ∨ c = '%' ∨ c.isAlphanum = true := by
  obtain ⟨written, -, inWritten⟩ := List.mem_flatMap.mp member
  unfold encodeChar at inWritten
  split at inWritten
  · obtain ⟨octet, inChar, inGroup⟩ := List.mem_flatMap.mp inWritten
    exact .inr (of_mem_group (Octets.lt_of_mem_ofChar octet inChar) inGroup)
  · next uncoded =>
      rw [List.mem_singleton.mp inWritten]
      exact .inl (by simpa using uncoded)

/-- Coding puts no character in front but percent signs. -/
theorem exists_of_encode_eq_cons {isCoded : Char → Bool} {text rest : List Char} {mark : Char}
    (noPercent : mark ≠ '%') (front : encode isCoded text = mark :: rest) :
    ∃ more, text = mark :: more := by
  cases text with
  | nil => cases front
  | cons c more =>
      rw [encode, List.flatMap_cons, encodeChar] at front
      split at front
      · obtain ⟨octet, octets, split⟩ := List.exists_cons_of_ne_nil (Octets.ofChar_ne_nil c)
        rw [split] at front
        exact (noPercent (List.cons.inj front).1.symm).elim
      · exact ⟨more, congrArg (· :: more) (List.cons.inj front).1⟩

end DecisionBench.Percent
