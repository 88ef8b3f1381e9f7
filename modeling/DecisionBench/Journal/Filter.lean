import DecisionBench.Decimal.Reading
import DecisionBench.Journal
import DecisionBench.Journal.Pattern
import DecisionBench.Text.Octets
import DecisionBench.Text.Pieces

/-!
# Filters of the journal

A filter chooses the entries that are shown.  It is a list of rules, each for the parts of the
program whose path begins in some way; of the rules for an entry one with the longest path decides.
A setting writes the rules between commas.  `Reading` follows the characters of one rule, and
`Rule.ofText?` is the rule that a text writes.
-/

namespace DecisionBench.Journal

/-- A condition of a rule on a field of an entry. -/
structure FieldCondition where
  name : List Char
  /-- Whether the field is compared with a value. -/
  compared : Bool
  deriving DecidableEq, Repr

/-- A rule of a filter: entries up to the rank are shown. -/
structure Rule where
  /-- How the path of the parts begins that the rule is for; without it, the rule is for all. -/
  path : Option (List Char)
  /-- The name of the span that the rule is for. -/
  span : Option (List Char)
  fields : List FieldCondition
  rank : Nat
  deriving DecidableEq, Repr

/-- Why a setting gives no rules. -/
inductive SettingFlaw where
  /-- It does not have the form of rules. -/
  | malformed
  /-- A part of a rule would begin or end inside of a character. -/
  | torn
  deriving DecidableEq, Repr

/-- The rank of a rule that names none: everything is shown. -/
def fullRank : Nat := 5

/-- The rank that a word or a digit names; nothing is shown at rank zero. -/
def rank? (text : List Char) : Option Nat :=
  let word := String.ofList (text.map Char.toLower)
  if word = "off" then some 0
  else if word = "error" then some 1
  else if word = "warn" then some 2
  else if word = "info" then some 3
  else if word = "debug" then some 4
  else if word = "trace" then some 5
  else Numeral.natural? 6 text

/-- What follows the first octets of a text, unless these end inside of a character. -/
def behind? : Nat → List Char → Option (List Char)
  | 0, text => some text
  | _ + 1, [] => none
  | count + 1, c :: rest =>
    let width := (Octets.ofChar c).length
    if width ≤ count + 1 then behind? (count + 1 - width) rest else none
termination_by _ text => text.length

/-- The first octets of a text, unless these end inside of a character. -/
def ahead? : Nat → List Char → Option (List Char)
  | 0, _ => some []
  | _ + 1, [] => none
  | count + 1, c :: rest =>
    let width := (Octets.ofChar c).length
    if width ≤ count + 1 then (ahead? (count + 1 - width) rest).map (c :: ·) else none
termination_by _ text => text.length

def part (text : List Char) (start stop : Nat) : Except SettingFlaw (List Char) :=
  match (behind? start text).bind (ahead? (stop - start)) with
  | some found => .ok found
  | none => .error .torn

def partFrom (text : List Char) (start : Nat) : Except SettingFlaw (List Char) :=
  match behind? start text with
  | some found => .ok found
  | none => .error .torn

/-- Where the reading of a rule stands; most places are inside of a part that begins at an octet. -/
inductive Place where
  | start
  /-- Inside of a rank or a path. -/
  | word (start : Nat)
  /-- Inside of the brackets. -/
  | span (start : Nat)
  /-- Inside of the braces in the brackets. -/
  | field (start : Nat)
  /-- Behind the braces in the brackets. -/
  | fields
  /-- Behind the brackets. -/
  | closed
  /-- Behind the equals sign. -/
  | rank (start : Nat)
  deriving DecidableEq, Repr

/-- A rule as far as it is read. -/
structure Reading where
  place : Place
  rule : Rule
  deriving DecidableEq, Repr

/-- Whether a rule may begin with a character that opens no bracket. -/
def opensRule (c : Char) : Bool :=
  c == '-' || c == ':' || c == '_' || Text.isAlphanumeric c

/-- The condition that a text writes: the name of a field, and a value to compare it with.  What
stands behind a second equals sign does not count. -/
def FieldCondition.ofText (text : List Char) : Except SettingFlaw FieldCondition :=
  match Text.pieces (· == '=') text with
  | [name] => if name.isEmpty then .error .malformed else .ok ⟨name, false⟩
  | name :: value :: _ =>
    if (Binary64.ofText? value).isSome || isPattern value then .ok ⟨name, true⟩
    else .error .malformed
  | [] => .error .malformed

namespace Reading

def new : Reading := ⟨.start, ⟨none, none, [], fullRank⟩⟩

/-- The reading after the character at an octet.  The parts of the rule are taken from `text`. -/
def step (text : List Char) (position : Nat) (c : Char) (reading : Reading) :
    Except SettingFlaw Reading := do
  let rule := reading.rule
  match reading.place with
  | .start =>
    if c = '[' then return ⟨.span (position + 1), rule⟩
    else if opensRule c then return ⟨.word position, rule⟩
    else throw .malformed
  | .word start =>
    if c = '=' then
      let path ← part text start position
      return ⟨.rank (position + 1), { rule with path := some path }⟩
    else if c = '[' then
      let path ← part text start position
      return ⟨.span (position + 1), { rule with path := some path }⟩
    else return reading
  | .span start =>
    if c = ']' then
      let span ← part text start position
      return ⟨.closed, { rule with span := some span }⟩
    else if c = '\x7b' then
      let span ← part text start position
      return ⟨.field (position + 1), { rule with span := if span.isEmpty then none else some span }⟩
    else return reading
  | .field start =>
    if c = '\x7d' then
      let condition ← FieldCondition.ofText (← part text start position)
      return ⟨.fields, { rule with fields := rule.fields ++ [condition] }⟩
    else return reading
  | .fields => if c = ']' then return ⟨.closed, rule⟩ else throw .malformed
  | .closed => if c = '=' then return ⟨.rank (position + 1), rule⟩ else throw .malformed
  | .rank _ => return reading

/-- The reading after characters, the first of which stands at an octet. -/
def follow (text : List Char) : Nat → Reading → List Char → Except SettingFlaw Reading
  | _, reading, [] => .ok reading
  | position, reading, c :: rest =>
    match reading.step text position c with
    | .ok reading => follow text (position + (Octets.ofChar c).length) reading rest
    | .error flaw => .error flaw

/-- The rule that is read when its text ends. -/
def finish (text : List Char) (reading : Reading) : Except SettingFlaw Rule := do
  match reading.place with
  | .word start =>
    let word ← partFrom text start
    match rank? word with
    | some rank => return { reading.rule with rank }
    | none => return { reading.rule with path := some word }
  | .rank start =>
    let word ← partFrom text start
    if word.isEmpty then return reading.rule
    else
      match rank? word with
      | some rank => return { reading.rule with rank }
      | none => throw .malformed
  | .closed => return reading.rule
  | _ => throw .malformed

end Reading

/-- The rule that a text writes.  Blanks at its ends are passed over, but count as its first octets
when its parts are taken, so that a part behind leading blanks begins and ends too early. -/
def Rule.ofText (text : List Char) : Except SettingFlaw Rule := do
  (← Reading.new.follow text 0 (Text.trim text)).finish text

/-- All rules of a list, or the first flaw. -/
def rulesOf : List (List Char) → Except SettingFlaw (List Rule)
  | [] => .ok []
  | text :: rest => do
    let rule ← Rule.ofText text
    let rules ← rulesOf rest
    return rule :: rules

/-- A filter of entries. -/
structure Filter where
  rules : List Rule
  deriving DecidableEq, Repr

namespace Filter

/-- The filter without a setting: entries of rank `information` and above. -/
def standard : Filter :=
  ⟨[⟨none, none, [], 3⟩]⟩

/-- The filter that a setting asks for: rules between commas, empty ones aside.  A malformed setting
counts as none; one that is torn gives no filter. -/
def ofSetting : Option String → Option Filter
  | none => some standard
  | some setting =>
    match rulesOf ((Text.pieces (· == ',') setting.toList).filter (! ·.isEmpty)) with
    | .ok rules => some ⟨rules⟩
    | .error .malformed => some standard
    | .error .torn => none

/-- The only field of an entry. -/
def messageField : String := "message"

/-- Whether a rule is for the entries of a part.  The journal has no spans, and values are compared
in spans only, so that a rule for a span or with a value is for no entry. -/
def concerns (rule : Rule) (path : List Char) : Bool :=
  rule.span.isNone && (rule.path.getD []).isPrefixOf path &&
    rule.fields.all fun field => !field.compared && field.name == messageField.toList

/-- How closely a rule looks at entries: the octets of its path, and behind that its fields. -/
def closeness (rule : Rule) : Nat × Nat × Nat :=
  (if rule.path.isSome then 1 else 0, (Octets.ofText (rule.path.getD [])).length,
    rule.fields.length)

/-- Whether one rule looks less closely than another, or as closely. -/
def isCoarser (left right : Rule) : Bool :=
  let (a, b, c) := closeness left
  let (d, e, f) := closeness right
  a < d || (a == d && (b < e || (b == e && c ≤ f)))

/-- The rule for the entries of a part: the closest one, and of equally close ones the last. -/
def ruleAt (filter : Filter) (path : List Char) : Option Rule :=
  filter.rules.foldl
    (fun best rule =>
      if concerns rule path then
        match best with
        | some found => if isCoarser found rule then some rule else some found
        | none => some rule
      else best)
    none

def shows (filter : Filter) (entry : Entry) : Bool :=
  match filter.ruleAt entry.speaker.path.toList with
  | some rule => entry.level.rank ≤ rule.rank
  | none => false

end Filter

end DecisionBench.Journal
