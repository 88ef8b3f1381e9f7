import DecisionBench.Text.CombiningClass
import DecisionBench.Text.Composition.Composites

/-!
# Composed texts

A letter with marks can be written as one character or as several, and its marks in different
orders.  `composed` chooses one way to write it: the text is taken apart, the marks are put into the
order of their combining classes, and what can be one character is made one.
-/

namespace DecisionBench.Text.Composition

/-! ## Hangul -/

/-- The first of the syllables of Hangul; the others follow in the order of their parts. -/
def firstSyllable : Nat := 0xAC00

def firstLeading : Nat := 0x1100

def leadingCount : Nat := 19

def firstVowel : Nat := 0x1161

def vowelCount : Nat := 21

/-- The code point before the trailing consonants, which stands for none of them. -/
def noTrailing : Nat := 0x11A7

/-- How many trailing consonants there are, with the one that is none. -/
def trailingCount : Nat := 28

/-- The number of the syllable at a code point. -/
def syllable? (n : Nat) : Option Nat :=
  if firstSyllable ≤ n ∧ n < firstSyllable + leadingCount * vowelCount * trailingCount then
    some (n - firstSyllable)
  else none

def syllableParts (number : Nat) : List Nat :=
  let trailing := number % trailingCount
  [firstLeading + number / trailingCount / vowelCount,
    firstVowel + number / trailingCount % vowelCount] ++
    (if trailing = 0 then [] else [noTrailing + trailing])

/-- The syllable that two code points make: a consonant and a vowel, or a syllable that has these
and a trailing consonant. -/
def joinedSyllable? (left right : Nat) : Option Nat :=
  if firstLeading ≤ left ∧ left < firstLeading + leadingCount then
    if firstVowel ≤ right ∧ right < firstVowel + vowelCount then
      some (firstSyllable +
        ((left - firstLeading) * vowelCount + (right - firstVowel)) * trailingCount)
    else none
  else
    match syllable? left with
    | some number =>
      if number % trailingCount = 0 ∧ noTrailing < right ∧ right < noTrailing + trailingCount then
        some (left + (right - noTrailing))
      else none
    | none => none

/-! ## Taking apart -/

/-- The most steps in which a character comes apart. -/
def deepest : Nat := 4

/-- The parts of a code point, in at most so many steps. -/
def parts : Nat → Nat → List Nat
  | 0, n => [n]
  | steps + 1, n =>
    match composites.values? n with
    | some [first, mark] => parts steps first ++ [mark]
    | _ => ((syllable? n).map syllableParts).getD [n]

/-! ## The order of marks -/

/-- Puts a mark into a text that is given in reverse, before the marks at its end whose class is
greater. -/
def insertMark (mark number : Nat) : List Nat → List Nat
  | [] => [mark]
  | last :: before =>
    if number < combiningClass last then last :: insertMark mark number before
    else mark :: last :: before

/-- A text with its marks in the order of their classes. -/
def ordered (text : List Nat) : List Nat :=
  (text.foldl
    (fun done n =>
      let number := combiningClass n
      if number = 0 then n :: done else insertMark n number done)
    []).reverse

/-! ## Putting together -/

/-- The character that a character and a mark make. -/
def joined? (left right : Nat) : Option Nat :=
  match joinedSyllable? left right with
  | some syllable => some syllable
  | none => (composites.find? fun entry => entry.values == [left, right]).map CodeEntry.first

/-- A text that is put together as far as it was read. -/
structure Assembly where
  /-- What is finished, in reverse. -/
  done : List Nat
  /-- The last character that may take marks. -/
  base : Option Nat
  /-- The marks behind the base that it did not take, in reverse. -/
  marks : List Nat
  deriving DecidableEq, Repr

namespace Assembly

/-- The text read so far, in reverse. -/
def reversed (assembly : Assembly) : List Nat :=
  assembly.marks ++ assembly.base.toList ++ assembly.done

/-- Whether a mark behind the base keeps it from taking a character of a class. -/
def isBlocked (assembly : Assembly) (number : Nat) : Bool :=
  match assembly.marks with
  | [] => false
  | mark :: _ => number ≤ combiningClass mark

/-- An assembly after one more code point. -/
def add (assembly : Assembly) (n : Nat) : Assembly :=
  let number := combiningClass n
  let taken :=
    if assembly.isBlocked number then none
    else assembly.base.bind fun base => joined? base n
  match taken with
  | some base => { assembly with base := some base }
  | none =>
    if number = 0 then ⟨assembly.reversed, some n, []⟩
    else { assembly with marks := n :: assembly.marks }

end Assembly

/-- A text of code points in composed form. -/
def composedCodes (text : List Nat) : List Nat :=
  ((ordered (text.flatMap (parts deepest))).foldl Assembly.add ⟨[], none, []⟩).reversed.reverse

end DecisionBench.Text.Composition

namespace DecisionBench.Text

/-- A text in composed form; one of ASCII characters is so already. -/
def composed (text : List Char) : List Char :=
  if text.all fun c => c.toNat < 0x80 then text
  else (Composition.composedCodes (text.map Char.toNat)).map Char.ofNat

end DecisionBench.Text
