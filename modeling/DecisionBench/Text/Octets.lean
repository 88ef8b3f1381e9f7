/-!
# Texts as octets

UTF-8 writes a character as one to four octets.  `octets` is that form, and `characters` reads it
back: from a sequence that is no UTF-8 it reports where the well-formed part ends and how many
octets are wrong there.
-/

namespace DecisionBench.Octets

def ofChar (c : Char) : List Nat :=
  let n := c.toNat
  if n < 0x80 then [n]
  else if n < 0x800 then [0xC0 + n / 0x40, 0x80 + n % 0x40]
  else if n < 0x10000 then [0xE0 + n / 0x1000, 0x80 + n / 0x40 % 0x40, 0x80 + n % 0x40]
  else [0xF0 + n / 0x40000, 0x80 + n / 0x1000 % 0x40, 0x80 + n / 0x40 % 0x40, 0x80 + n % 0x40]

def ofText (text : List Char) : List Nat :=
  text.flatMap ofChar

/-- Why a sequence of octets is no text. -/
inductive Malformed where
  /-- So many octets can stand in no text. -/
  | wrong (count : Nat)
  /-- The sequence ends inside a character. -/
  | unfinished
  deriving DecidableEq, Repr

/-- An octet that continues a character. -/
def isTail (b : Nat) : Bool :=
  0x80 ≤ b && b ≤ 0xBF

/-- The octets that may follow the first one of a character of three octets. -/
def secondOfThree (first second : Nat) : Bool :=
  if first = 0xE0 then 0xA0 ≤ second && second ≤ 0xBF
  else if first = 0xED then 0x80 ≤ second && second ≤ 0x9F
  else isTail second

/-- The octets that may follow the first one of a character of four octets. -/
def secondOfFour (first second : Nat) : Bool :=
  if first = 0xF0 then 0x90 ≤ second && second ≤ 0xBF
  else if first = 0xF4 then 0x80 ≤ second && second ≤ 0x8F
  else isTail second

/-- The character at the front of a sequence, with the number of octets that it takes. -/
def first? : List Nat → Except Malformed (Char × Nat)
  | [] => .error .unfinished
  | a :: rest =>
    if a < 0x80 then .ok (Char.ofNat a, 1)
    else if a < 0xC2 then .error (.wrong 1)
    else if a < 0xE0 then
      match rest with
      | [] => .error .unfinished
      | b :: _ =>
        if isTail b then .ok (Char.ofNat ((a - 0xC0) * 0x40 + (b - 0x80)), 2)
        else .error (.wrong 1)
    else if a < 0xF0 then
      match rest with
      | [] => .error .unfinished
      | b :: rest =>
        if secondOfThree a b then
          match rest with
          | [] => .error .unfinished
          | c :: _ =>
            if isTail c then
              .ok (Char.ofNat ((a - 0xE0) * 0x1000 + (b - 0x80) * 0x40 + (c - 0x80)), 3)
            else .error (.wrong 2)
        else .error (.wrong 1)
    else if a < 0xF5 then
      match rest with
      | [] => .error .unfinished
      | b :: rest =>
        if secondOfFour a b then
          match rest with
          | [] => .error .unfinished
          | c :: rest =>
            if isTail c then
              match rest with
              | [] => .error .unfinished
              | d :: _ =>
                if isTail d then
                  .ok (Char.ofNat ((a - 0xF0) * 0x40000 + (b - 0x80) * 0x1000 +
                    (c - 0x80) * 0x40 + (d - 0x80)), 4)
                else .error (.wrong 3)
            else .error (.wrong 2)
        else .error (.wrong 1)
    else .error (.wrong 1)

/-- The text that a sequence of octets writes, or how long its well-formed part is and what stands
behind it.  The first argument bounds the number of characters, and the second counts the octets
already read. -/
def charactersFrom : Nat → Nat → List Nat → Except (Nat × Malformed) (List Char)
  | _, _, [] => .ok []
  | 0, position, _ :: _ => .error (position, .unfinished)
  | fuel + 1, position, octets =>
    match first? octets with
    | .error cause => .error (position, cause)
    | .ok (c, width) =>
      match charactersFrom fuel (position + width) (octets.drop width) with
      | .error cause => .error cause
      | .ok rest => .ok (c :: rest)

def characters (octets : List Nat) : Except (Nat × Malformed) (List Char) :=
  charactersFrom octets.length 0 octets

/-- The report on octets that are no text. -/
def complaint : Nat × Malformed → String
  | (position, .wrong count) =>
    "invalid utf-8 sequence of " ++ toString count ++ " bytes from index " ++ toString position
  | (position, .unfinished) =>
    "incomplete utf-8 byte sequence from index " ++ toString position

end DecisionBench.Octets
