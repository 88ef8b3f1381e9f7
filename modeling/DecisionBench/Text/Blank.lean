/-!
# Blank characters

`isBlank` is the Unicode property `White_Space`.  Trimming removes blanks at the ends of a text, and
`words` are the maximal runs without a blank.
-/

namespace DecisionBench.Text

/-- The Unicode property `White_Space`: the ASCII blanks and line ends, the next-line control, the
no-break space, the Ogham space, the typographic spaces, the two separators and the ideographic
space. -/
def isBlank (c : Char) : Bool :=
  let n := c.toNat
  (0x09 ≤ n && n ≤ 0x0D) || n == 0x20 || n == 0x85 || n == 0xA0 || n == 0x1680 ||
    (0x2000 ≤ n && n ≤ 0x200A) || n == 0x2028 || n == 0x2029 || n == 0x202F || n == 0x205F ||
    n == 0x3000

/-- A text without its leading blanks. -/
def trimStart (text : List Char) : List Char :=
  text.dropWhile isBlank

/-- The leading blanks of a text. -/
def indent (text : List Char) : List Char :=
  text.takeWhile isBlank

/-- A text without its trailing blanks. -/
def trimEnd (text : List Char) : List Char :=
  (text.reverse.dropWhile isBlank).reverse

/-- A text without the blanks at its two ends. -/
def trim (text : List Char) : List Char :=
  trimEnd (trimStart text)

theorem indent_append_trimStart (text : List Char) : indent text ++ trimStart text = text :=
  List.takeWhile_append_dropWhile

theorem isBlank_of_mem_indent {text : List Char} {c : Char} (member : c ∈ indent text) :
    isBlank c = true :=
  List.all_eq_true.mp List.all_takeWhile c member

theorem trimStart_indent_append (text tail : List Char) :
    trimStart (indent text ++ tail) = trimStart tail :=
  List.dropWhile_append_of_pos fun _ member => isBlank_of_mem_indent member

theorem isBlank_eq_false_of_between {c : Char} (low : 65 ≤ c.toNat) (high : c.toNat ≤ 122) :
    isBlank c = false := by
  simp [isBlank]
  omega

/-- Only the capitals of ASCII have another lower case. -/
theorem toNat_toLower (c : Char) :
    c.toLower.toNat = if 65 ≤ c.toNat ∧ c.toNat ≤ 90 then c.toNat + 32 else c.toNat := by
  by_cases upper : c.val ≥ 'A'.val ∧ c.val ≤ 'Z'.val
  · have capital : 65 ≤ c.toNat ∧ c.toNat ≤ 90 := upper
    rw [if_pos capital]
    delta Char.toLower
    rw [dif_pos upper]
    change (c.toNat + 32) % 2 ^ 32 = c.toNat + 32
    omega
  · have small : ¬ (65 ≤ c.toNat ∧ c.toNat ≤ 90) := upper
    rw [if_neg small]
    delta Char.toLower
    rw [dif_neg upper]

/-- The case of a letter does not make it blank. -/
theorem isBlank_toLower (c : Char) : isBlank c.toLower = isBlank c := by
  have lower := toNat_toLower c
  by_cases capital : 65 ≤ c.toNat ∧ c.toNat ≤ 90
  · rw [if_pos capital] at lower
    rw [isBlank_eq_false_of_between capital.1 (by omega),
      isBlank_eq_false_of_between (by omega) (by omega)]
  · rw [if_neg capital] at lower
    simp only [isBlank, lower]

end DecisionBench.Text
