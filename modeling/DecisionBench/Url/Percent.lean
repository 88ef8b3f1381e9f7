import DecisionBench.Text.Numeral
import DecisionBench.Text.Octets

/-!
# Percent coding

A part of a URL writes an octet that may not stand there as a percent sign and two hexadecimal
digits.  `encode` does so for the octets of a class, and for every octet beyond ASCII; `decode`
reads every such group and leaves a percent sign without two digits as it is.
-/

namespace DecisionBench.Percent

def digitsOf (octet : Nat) : List Char :=
  [(Nat.digitChar (octet / 16)).toUpper, (Nat.digitChar (octet % 16)).toUpper]

/-- An octet as a percent sign and two digits. -/
def group (octet : Nat) : List Char :=
  '%' :: digitsOf octet

/-- A character, as groups for its octets if it is of the class or not ASCII. -/
def encodeChar (isCoded : Char → Bool) (c : Char) : List Char :=
  if 0x80 ≤ c.toNat || isCoded c then (Octets.ofChar c).flatMap group else [c]

/-- A text with the characters of a class, and all that are not ASCII, in groups. -/
def encode (isCoded : Char → Bool) (text : List Char) : List Char :=
  text.flatMap (encodeChar isCoded)

/-- The octets that a text of ASCII characters and groups writes. -/
def octets : List Char → List Nat
  | [] => []
  | '%' :: high :: low :: rest =>
    match Numeral.hexDigit? high, Numeral.hexDigit? low with
    | some h, some l => (16 * h + l) :: octets rest
    | _, _ => 0x25 :: octets (high :: low :: rest)
  | c :: rest => Octets.ofChar c ++ octets rest

/-- The text that the octets of a text with groups write, unless they are no UTF-8. -/
def decode (text : List Char) : Except (Nat × Octets.Malformed) (List Char) :=
  Octets.characters (octets text)

def isControl (c : Char) : Bool :=
  c.toNat < 0x20 || c.toNat == 0x7F

/-- What is coded in a path. -/
def isPathCoded (c : Char) : Bool :=
  isControl c || [' ', '\x22', '<', '>', '\x60', '#', '?', '\x7b', '\x7d'].contains c

/-- What is coded in a user name or a password. -/
def isCredentialCoded (c : Char) : Bool :=
  isPathCoded c || ['/', ':', ';', '=', '@', '[', '\\', ']', '^', '|'].contains c

end DecisionBench.Percent
