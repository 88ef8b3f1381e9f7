import DecisionBench.Text.Octets

/-!
# Texts and their octets

A character of ASCII is one octet, its code, and every other character is two to
four octets, none of which could be taken for ASCII.  The octets of a text
read back as that text (`characters_ofText`): the first octet of a character tells
how many there are, and all of them together tell its code.
-/

namespace DecisionBench.Octets

@[simp] theorem ofText_append (first later : List Char) :
    ofText (first ++ later) = ofText first ++ ofText later :=
  List.flatMap_append

theorem ofText_cons (c : Char) (text : List Char) :
    ofText (c :: text) = ofChar c ++ ofText text :=
  List.flatMap_cons

theorem ofChar_of_ascii {c : Char} (ascii : c.toNat < 128) : ofChar c = [c.toNat] :=
  if_pos ascii

/-- Beyond ASCII the first octet of a character is no letter either. -/
theorem exists_ofChar_eq_cons {c : Char} (beyond : ¬ c.toNat < 128) :
    ∃ first more, ofChar c = first :: more ∧ 192 ≤ first := by
  unfold ofChar
  rw [if_neg beyond]
  split
  · exact ⟨_, _, rfl, by omega⟩
  · split
    · exact ⟨_, _, rfl, by omega⟩
    · exact ⟨_, _, rfl, by omega⟩

theorem ofText_of_ascii {text : List Char} (ascii : ∀ c ∈ text, c.toNat < 128) :
    ofText text = text.map Char.toNat := by
  induction text with
  | nil => rfl
  | cons c text induction =>
      rw [ofText_cons, ofChar_of_ascii (ascii c List.mem_cons_self),
        induction fun d member => ascii d (List.mem_cons_of_mem _ member)]
      rfl

theorem toNat_ofNat_octet {octet : Nat} (small : octet < 256) :
    (Char.ofNat octet).toNat = octet := by
  have valid : octet.isValidChar := .inl (by omega)
  rw [Char.ofNat, dif_pos valid]
  rfl

theorem ofText_ascii {octet : Nat} (ascii : octet < 128) :
    ofText [Char.ofNat octet] = [octet] := by
  simp [ofText, ofChar, toNat_ofNat_octet (Nat.lt_trans ascii (by decide)), ascii]

theorem lt_of_mem_ofChar {c : Char} : ∀ octet ∈ ofChar c, octet < 256 := by
  have bound : c.toNat < 0x110000 := by
    rcases c.valid with low | high
    · exact Nat.lt_trans low (by decide)
    · exact high.2
  intro octet member
  unfold ofChar at member
  dsimp only at member
  split at member
  · simp only [List.mem_singleton] at member
    omega
  · split at member
    · simp only [List.mem_cons, List.not_mem_nil, or_false] at member
      omega
    · split at member <;> simp only [List.mem_cons, List.not_mem_nil, or_false] at member <;>
        omega

theorem lt_of_mem_ofText {text : List Char} : ∀ octet ∈ ofText text, octet < 256 := by
  intro octet member
  obtain ⟨c, -, inside⟩ := List.mem_flatMap.mp member
  exact lt_of_mem_ofChar octet inside

/-! ### Reading a character -/

variable {a b c d : Nat} {rest : List Nat}

theorem isTail_add (small : b < 0x40) : isTail (0x80 + b) = true := by
  simp only [isTail, Bool.and_eq_true, decide_eq_true_eq]
  omega

theorem first?_two (low : 0xC2 ≤ a) (high : a < 0xE0) (tail : isTail b = true) :
    first? (a :: b :: rest) = .ok (Char.ofNat ((a - 0xC0) * 0x40 + (b - 0x80)), 2) := by
  have above : ¬ a < 0x80 := by omega
  simp [first?, above, Nat.not_lt.mpr low, high, tail]

theorem first?_three (low : 0xE0 ≤ a) (high : a < 0xF0) (second : secondOfThree a b = true)
    (tail : isTail c = true) :
    first? (a :: b :: c :: rest) =
      .ok (Char.ofNat ((a - 0xE0) * 0x1000 + (b - 0x80) * 0x40 + (c - 0x80)), 3) := by
  have above : ¬ a < 0x80 ∧ ¬ a < 0xC2 := by omega
  simp [first?, above, Nat.not_lt.mpr low, high, second, tail]

theorem first?_four (low : 0xF0 ≤ a) (high : a < 0xF5) (second : secondOfFour a b = true)
    (third : isTail c = true) (tail : isTail d = true) :
    first? (a :: b :: c :: d :: rest) =
      .ok (Char.ofNat ((a - 0xF0) * 0x40000 + (b - 0x80) * 0x1000 + (c - 0x80) * 0x40 +
        (d - 0x80)), 4) := by
  have above : ¬ a < 0x80 ∧ ¬ a < 0xC2 ∧ ¬ a < 0xE0 := by omega
  simp [first?, above, Nat.not_lt.mpr low, high, second, third, tail]

theorem secondOfThree_of_code {n : Nat} (low : 0x800 ≤ n) (single : n < 0xD800 ∨ 0xDFFF < n) :
    secondOfThree (0xE0 + n / 0x1000) (0x80 + n / 0x40 % 0x40) = true := by
  unfold secondOfThree
  split
  · simp only [Bool.and_eq_true, decide_eq_true_eq]
    omega
  · split
    · simp only [Bool.and_eq_true, decide_eq_true_eq]
      omega
    · exact isTail_add (Nat.mod_lt _ (by decide))

theorem secondOfFour_of_code {n : Nat} (low : 0x10000 ≤ n) (high : n < 0x110000) :
    secondOfFour (0xF0 + n / 0x40000) (0x80 + n / 0x1000 % 0x40) = true := by
  unfold secondOfFour
  split
  · simp only [Bool.and_eq_true, decide_eq_true_eq]
    omega
  · split
    · simp only [Bool.and_eq_true, decide_eq_true_eq]
      omega
    · exact isTail_add (Nat.mod_lt _ (by decide))

/-- The octets of a character read as it, whatever follows them. -/
theorem first?_ofChar_append (letter : Char) (rest : List Nat) :
    first? (ofChar letter ++ rest) = .ok (letter, (ofChar letter).length) := by
  have valid : letter.toNat < 0xD800 ∨ 0xDFFF < letter.toNat ∧ letter.toNat < 0x110000 :=
    letter.valid
  have known : ∀ code, code = letter.toNat → Char.ofNat code = letter := by
    rintro _ rfl
    exact Char.ofNat_toNat letter
  generalize code_eq : letter.toNat = n at valid known
  unfold ofChar
  simp only [code_eq]
  split
  · next one => simp [first?, one, known n rfl]
  · split
    · refine (first?_two (by omega) (by omega) (isTail_add (by omega))).trans ?_
      rw [known _ (by omega)]
      rfl
    · split
      · have second := secondOfThree_of_code (n := n) (by omega) (by omega)
        refine (first?_three (by omega) (by omega) second (isTail_add (by omega))).trans ?_
        rw [known _ (by omega)]
        rfl
      · have second := secondOfFour_of_code (n := n) (by omega) (by omega)
        refine (first?_four (by omega) (by omega) second (isTail_add (by omega))
          (isTail_add (by omega))).trans ?_
        rw [known _ (by omega)]
        rfl

/-! ### Reading a text -/

theorem ofChar_ne_nil (letter : Char) : ofChar letter ≠ [] := by
  by_cases ascii : letter.toNat < 128
  · simp [ofChar_of_ascii ascii]
  · obtain ⟨first, more, octets, -⟩ := exists_ofChar_eq_cons ascii
    simp [octets]

theorem length_le_length_ofText (text : List Char) : text.length ≤ (ofText text).length := by
  induction text with
  | nil => exact Nat.le_refl 0
  | cons letter text induction =>
      have some := List.length_pos_iff.mpr (ofChar_ne_nil letter)
      rw [ofText_cons, List.length_append, List.length_cons]
      omega

theorem charactersFrom_ofText (text : List Char) {fuel : Nat} (position : Nat)
    (enough : text.length ≤ fuel) :
    charactersFrom fuel position (ofText text) = .ok text := by
  induction text generalizing fuel position with
  | nil => cases fuel <;> rfl
  | cons letter text induction =>
      cases fuel with
      | zero => cases enough
      | succ fuel =>
          have nonempty : ofChar letter ++ ofText text ≠ [] :=
            List.append_ne_nil_of_left_ne_nil (ofChar_ne_nil letter) _
          rw [ofText_cons, charactersFrom.eq_3 _ _ _ nonempty, first?_ofChar_append]
          simp only [List.drop_left]
          rw [induction _ (Nat.le_of_succ_le_succ enough)]

/-- The octets of a text read back as the text. -/
theorem characters_ofText (text : List Char) : characters (ofText text) = .ok text :=
  charactersFrom_ofText text 0 (length_le_length_ofText text)

end DecisionBench.Octets
