import DecisionBench.Text.Composition
import DecisionBench.Text.Direction
import DecisionBench.Text.Joining
import DecisionBench.Text.Pieces
import DecisionBench.Text.Unprintable
import DecisionBench.Url.Domain.Mapping
import DecisionBench.Url.Punycode

/-!
# Domain names

A domain name may be written with characters of all scripts.  `normalized?` is the form in which
names are compared, without capitals and other variants, unless the text is no name: some characters
stand in no name, joiners need the right neighbours, and a label with letters of both directions is
hard to read and refused.  A label may also be given in its form in ASCII, with a mark in front.
-/

namespace DecisionBench.Url.Domain

/-! ## Characters -/

/-- The character that keeps its neighbours from joining. -/
def nonJoiner : Char := .ofNat 0x200C

/-- The character that makes its neighbours join. -/
def joiner : Char := .ofNat 0x200D

def isJoiner (c : Char) : Bool :=
  c == nonJoiner || c == joiner

/-- Printable characters that stand in no name: dots that are part of a sign, descriptions of
ideographs, some abbreviations and forms for vertical lines, and the replacement characters. -/
def barredRanges : Text.Ranges :=
  [(0x2024, 0x2026), (0x2488, 0x249B), (0x2FF0, 0x2FFF), (0x31EF, 0x31EF), (0x33C2, 0x33C2),
    (0x33C7, 0x33C7), (0x33D8, 0x33D8), (0xFE12, 0xFE12), (0xFE19, 0xFE19), (0xFE30, 0xFE30),
    (0xFE52, 0xFE52), (0xFFFC, 0xFFFD), (0x1F100, 0x1F100)]

/-- What a name has for a character; nothing for a character that stands in no name. -/
def image? (c : Char) : Option (List Char) :=
  if c.toNat < 0x80 then some [c.toLower]
  else if isJoiner c then some [c]
  else
    match mapped? c.toNat with
    | some codes => some (codes.map Char.ofNat)
    | none =>
      if Text.isPrintable c && !Text.inRanges barredRanges c.toNat then some [c] else none

def images? : List Char → Option (List Char)
  | [] => some []
  | c :: rest =>
    match image? c, images? rest with
    | some image, some images => some (image ++ images)
    | _, _ => none

/-! ## Joiners -/

/-- Whether a joiner may stand behind a character: behind a sign that takes the vowel from a
consonant. -/
def takesVowel (c : Char) : Bool :=
  Text.combiningClass c.toNat == Text.viramaClass

/-- Whether the first character of a text that is not transparent joins in one of two ways. -/
def joins (one other : Text.Joining) : List Char → Bool
  | [] => false
  | c :: rest =>
    let joining := Text.joining c
    joining == one || joining == other || (joining == .transparent && joins one other rest)

/-- Whether the joiners in the rest of a label have the right neighbours; the first argument is what
stands before the rest, in reverse. -/
def joinersFit : List Char → List Char → Bool
  | _, [] => true
  | before, c :: rest =>
    (!isJoiner c ||
      (match before with
       | [] => false
       | last :: _ =>
         takesVowel last ||
           (c == nonJoiner && joins .left .dual before && joins .right .dual rest))) &&
      joinersFit (c :: before) rest

/-! ## Directions -/

/-- Whether a name with such a character has text from right to left in it. -/
def mixesDirections (c : Char) : Bool :=
  Text.direction c == .rightToLeft || Text.direction c == .arabicDigit

/-- Whether the directions of the characters of a label, those of the marks at its end aside, fit
together: all run the way that the first one does. -/
def directionsFit : List Text.Direction → Bool
  | [] => true
  | .leftToRight :: rest =>
    (rest.all fun d => d != .rightToLeft && d != .arabicDigit) &&
      rest.getLast? != some .sign
  | .rightToLeft :: rest =>
    (rest.all (· != .leftToRight)) && rest.getLast? != some .sign &&
      !(rest.contains .digit && rest.contains .arabicDigit)
  | _ => false

/-- Whether the characters of a label run in one direction. -/
def isDirected (label : List Char) : Bool :=
  directionsFit ((label.map Text.direction).reverse.dropWhile (· == .mark)).reverse

/-! ## Labels -/

/-- The most characters of a label in its form in ASCII. -/
def mostCoded : Nat := 2000

/-- The most characters of a label that is not of ASCII. -/
def mostWritten : Nat := 1000

def isAscii (text : List Char) : Bool :=
  text.all fun c => c.toNat < 0x80

/-- The label that a form in ASCII stands for, which needs that form, and whose characters have no
other one. -/
def decoded? (code : List Char) : Option (List Char) :=
  if mostCoded < code.length then none
  else
    (Punycode.decode? code).filter fun label =>
      !isAscii label && images? label == some label && Text.composed label == label

/-- The label that a part of a name stands for. -/
def label? (part : List Char) : Option (List Char) :=
  match part with
  | 'x' :: 'n' :: '-' :: '-' :: code => decoded? code
  | _ => some part

/-- Whether a label is well-formed for itself. -/
def isLabel (label : List Char) : Bool :=
  isAscii label ||
    (label.length ≤ mostWritten && !(label.head?.map Text.isMark).getD false &&
      joinersFit [] label)

def labels? : List (List Char) → Option (List (List Char))
  | [] => some []
  | part :: rest =>
    match label? part, labels? rest with
    | some label, some labels => if isLabel label then some (label :: labels) else none
    | _, _ => none

/-- The form in which a name is compared. -/
def normalized? (text : List Char) : Option (List Char) :=
  match images? text with
  | none => none
  | some images =>
    let name := Text.composed images
    match labels? (Text.pieces (· == '.') name) with
    | none => none
    | some labels =>
      if labels.any (·.any mixesDirections) && !labels.all isDirected then none else some name

end DecisionBench.Url.Domain
