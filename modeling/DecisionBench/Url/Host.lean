import DecisionBench.Text.Pieces
import DecisionBench.Url.Domain
import DecisionBench.Url.Percent

/-!
# Hosts of URLs

The host of a URL stands as it is written, apart from characters beyond ASCII, which are percent
coded; some characters may not occur.  A host in brackets is an IPv6 address and is written in its
shortest form.  Schemes of the web have stricter hosts: domain names and IPv4 addresses.
-/

namespace DecisionBench.Url

/-- Why a text is no URL. -/
inductive Malformed where
  | noBase
  | emptyHost
  | invalidPort
  | invalidIpv6
  | invalidIpv4
  | invalidDomainCharacter
  | invalidDomainName
  deriving DecidableEq, Repr

/-- A fault of a URL in words. -/
def Malformed.message : Malformed → String
  | .noBase => "relative URL without a base"
  | .emptyHost => "empty host"
  | .invalidPort => "invalid port number"
  | .invalidIpv6 => "invalid IPv6 address"
  | .invalidIpv4 => "invalid IPv4 address"
  | .invalidDomainCharacter => "invalid domain character"
  | .invalidDomainName => "invalid international domain name"

namespace Ipv6

/-- The value of up to `count` hexadecimal digits, with what follows them. -/
def group : Nat → Nat → List Char → Nat × List Char
  | 0, value, rest => (value, rest)
  | _ + 1, value, [] => (value, [])
  | count + 1, value, c :: rest =>
    match Numeral.hexDigit? c with
    | some d => group count (16 * value + d) rest
    | none => (value, c :: rest)

/-- A decimal number from 0 to 255 without leading zeros. -/
def octet? (text : List Char) : Option Nat :=
  match text with
  | ['0'] => some 0
  | '0' :: _ => none
  | _ => (Numeral.unsigned? text).filter (· < 256)

/-- The two groups that an IPv4 address at the end of an IPv6 address stands for. -/
def embedded? (text : List Char) : Option (List Nat) :=
  match (Text.pieces (· == '.') text).map octet? with
  | [some a, some b, some c, some d] => some [256 * a + b, 256 * c + d]
  | _ => none

/-- The groups from a place in an address on, and how many of them stand before the two colons, if
these were met.  The first argument bounds the number of steps, and `found` holds the groups already
read, the last one first. -/
def groups? : Nat → List Nat → Option Nat → List Char → Option (List Nat × Option Nat)
  | _, found, gap, [] => some (found.reverse, gap)
  | 0, _, _, _ :: _ => none
  | fuel + 1, found, gap, c :: rest =>
    if found.length + (if gap.isSome then 1 else 0) ≥ 8 then none
    else if c = ':' then
      if gap.isSome then none else groups? fuel found (some found.length) rest
    else
      let (value, after) := group 4 0 (c :: rest)
      match after with
      | [] => some ((value :: found).reverse, gap)
      | '.' :: _ =>
        if after.length = (c :: rest).length ∨
            6 < found.length + (if gap.isSome then 1 else 0) then none
        else
          (embedded? (c :: rest)).map fun groups => (found.reverse ++ groups, gap)
      | ':' :: after => if after.isEmpty then none else groups? fuel (value :: found) gap after
      | _ => none

def parse? (text : List Char) : Option (List Nat) :=
  let read := match text with
    | ':' :: ':' :: rest => groups? text.length [] (some 0) rest
    | ':' :: _ => none
    | [_] => none
    | [] => none
    | _ => groups? text.length [] none text
  match read with
  | some (groups, none) => if groups.length = 8 then some groups else none
  | some (groups, some gap) =>
    if groups.length ≤ 7 then
      some (groups.take gap ++ List.replicate (8 - groups.length) 0 ++ groups.drop gap)
    else none
  | none => none

/-- The length of the run of zeros at the front of a list of groups. -/
def zeroRun (groups : List Nat) : Nat :=
  (groups.takeWhile (· == 0)).length

/-- The place and the length of the first longest run of zeros, from a place on. -/
def longestRun : Nat → List Nat → Nat × Nat
  | _, [] => (0, 0)
  | place, group :: rest =>
    let here := zeroRun (group :: rest)
    let later := longestRun (place + 1) rest
    if later.2 ≤ here then (place, here) else later

/-- Groups with colons between them. -/
def colons (groups : List Nat) : List Char :=
  List.intercalate [':'] (groups.map Numeral.hexadecimal)

/-- An address with its first longest run of two or more zero groups left out. -/
def render (groups : List Nat) : List Char :=
  let (place, count) := longestRun 0 groups
  if count < 2 then colons groups
  else colons (groups.take place) ++ [':', ':'] ++ colons (groups.drop (place + count))

end Ipv6

def bracketed (text : List Char) : Except Malformed (List Char) :=
  match text with
  | '[' :: rest =>
    if rest.getLast? = some ']' then
      match Ipv6.parse? rest.dropLast with
      | some groups => .ok ('[' :: Ipv6.render groups ++ [']'])
      | none => .error .invalidIpv6
    else .error .invalidIpv6
  | _ => .error .invalidIpv6

def isForbiddenInHost (c : Char) : Bool :=
  ['\x00', '\t', '\n', '\r', ' ', '#', '/', ':', '<', '>', '?', '@', '[', '\\', ']', '^',
    '|'].contains c

/-- The host of a URL whose scheme does not belong to the web. -/
def opaqueHost (text : List Char) : Except Malformed (List Char) :=
  if text.head? = some '[' then bracketed text
  else if text.any isForbiddenInHost then .error .invalidDomainCharacter
  else .ok (Percent.encode Percent.isControl text)

def isForbiddenInDomain (c : Char) : Bool :=
  isForbiddenInHost c || Percent.isControl c || c == '%'

/-- A part of an IPv4 address: decimal, octal behind a zero, hexadecimal behind a zero and an x. -/
def ipv4Part? (text : List Char) : Option Nat :=
  let digits (base : Nat) (text : List Char) : Option Nat :=
    text.foldl
      (fun value c =>
        match value, Numeral.hexDigit? c with
        | some value, some d => if d < base then some (base * value + d) else none
        | _, _ => none)
      (some 0)
  match text with
  | [] => none
  | '0' :: 'x' :: rest => digits 16 rest
  | '0' :: 'X' :: rest => digits 16 rest
  | '0' :: d :: rest => digits 8 (d :: rest)
  | _ => digits 10 text

/-- The parts of a domain, without an empty one at the end. -/
def domainParts (domain : List Char) : List (List Char) :=
  let parts := Text.pieces (· == '.') domain
  if parts.length > 1 ∧ parts.getLast? = some [] then parts.dropLast else parts

/-- Whether the last part of a domain is a number, so that the whole must be an IPv4 address. -/
def endsInNumber (domain : List Char) : Bool :=
  match (domainParts domain).getLast? with
  | some part =>
    !part.isEmpty && (part.all Char.isDigit ||
      ((part.take 2 == ['0', 'x'] || part.take 2 == ['0', 'X']) && (ipv4Part? part).isSome))
  | none => false

/-- Whether a domain that ends in a number is an IPv4 address. -/
def isIpv4 (domain : List Char) : Bool :=
  let parts := (domainParts domain).map ipv4Part?
  if 4 < parts.length then false
  else
    match parts.getLast? with
    | some (some last) =>
      (parts.dropLast.all fun part => match part with
        | some value => value < 256
        | none => false) && last < Nat.pow 256 (5 - parts.length)
    | _ => false

/-- The host of a URL of the web. -/
def webHost (text : List Char) : Except Malformed (List Char) :=
  if text.head? = some '[' then bracketed text
  else
    match (Percent.decode text).toOption.bind Domain.normalized? with
    | none => .error .invalidDomainName
    | some domain =>
      if domain.any isForbiddenInDomain then .error .invalidDomainName
      else if domain.isEmpty then .error .emptyHost
      else if endsInNumber domain && !isIpv4 domain then .error .invalidIpv4
      else .ok domain

end DecisionBench.Url
