import DecisionBench.Proofs.Hint
import DecisionBench.Proofs.Octets

/-!
# Texts with hints

A hint stands between the opening keyword of a statement and the rest, and
nothing else of the text changes, so that the statement can be read off the text
with its hint (`unhinted_hinted`).  Whether a statement opens with a keyword,
and where its parts end, can also be told by counting octets: the octets that
are cut off are always those of whole characters (`isReadOnly_iff_octets`,
`OctetsCut`).

`hinted_adds_hint_only` says so of every text and every limit.
-/

namespace DecisionBench

namespace Octets

/-- An octet, with the capitals of ASCII in lower case. -/
def lower (octet : Nat) : Nat :=
  if 65 ≤ octet ∧ octet ≤ 90 then octet + 32 else octet

end Octets

namespace Statement

open Octets

theorem lower_toNat_eq_iff {c k : Char} (small : k.toLower = k) :
    lower c.toNat = k.toNat ↔ c.toLower = k.toLower := by
  rw [small, lower, ← Text.toNat_toLower]
  exact ⟨fun same => Char.toNat_inj.mp same, congrArg Char.toNat⟩

/-- A key of small letters stands in front of a text, in whatever case, exactly if
it stands in front of the octets. -/
theorem afterFolded_isSome_iff_octets {key : List Char}
    (letters : ∀ k ∈ key, k.toNat < 128 ∧ k.toLower = k) (text : List Char) :
    (Text.afterFolded key text).isSome = true ↔
      ((ofText text).take key.length).map lower = key.map Char.toNat := by
  induction key generalizing text with
  | nil => simp [Text.afterFolded]
  | cons k key induction =>
      obtain ⟨ascii, small⟩ := letters k List.mem_cons_self
      have further := induction fun d member => letters d (List.mem_cons_of_mem _ member)
      cases text with
      | nil => simp [Text.afterFolded, ofText]
      | cons c text =>
          by_cases plain : c.toNat < 128
          · rw [ofText_cons, ofChar_of_ascii plain]
            by_cases same : c.toLower = k.toLower
            · have first := (lower_toNat_eq_iff small).mpr same
              simp [Text.afterFolded, same, first, further]
            · have first := mt (lower_toNat_eq_iff small).mp same
              simp [Text.afterFolded, Ne.symm same, first]
          · obtain ⟨first, more, octets, high⟩ := exists_ofChar_eq_cons plain
            have other : lower first ≠ k.toNat := by
              unfold lower
              split <;> omega
            have notSame : k.toLower ≠ c.toLower := by
              rw [small]
              intro same
              have codes := congrArg Char.toNat same
              rw [Text.toNat_toLower] at codes
              split at codes <;> omega
            simp [Text.afterFolded, notSame, ofText_cons, octets, other]

/-- A spelling of a key of ASCII letters has as many octets as the key. -/
theorem length_ofText_of_folded {keyword key : List Char}
    (letters : ∀ k ∈ key, k.toNat < 128 ∧ k.toLower = k)
    (folded : keyword.map Char.toLower = key) :
    (ofText keyword).length = (ofText key).length := by
  have ascii : ∀ c ∈ keyword, c.toNat < 128 := by
    intro c member
    have image : c.toLower ∈ key := folded ▸ List.mem_map_of_mem member
    have small := (letters _ image).1
    rw [Text.toNat_toLower] at small
    split at small <;> omega
  rw [ofText_of_ascii ascii, ofText_of_ascii fun k inside => (letters k inside).1,
    ← folded]
  simp

theorem letters_of_mem {key : String} (member : key ∈ readOnlyKeywords) :
    ∀ k ∈ key.toList, k.toNat < 128 ∧ k.toLower = k := by
  have all : ∀ key ∈ readOnlyKeywords, ∀ k ∈ key.toList, k.toNat < 128 ∧ k.toLower = k := by
    simp [readOnlyKeywords]
  exact all key member

/-- A statement is read-only exactly if the first octets of its trimmed text are
those of a keyword, in whatever case. -/
theorem isReadOnly_iff_octets (statement : String) :
    isReadOnly statement = true ↔ ∃ key ∈ ["select", "with"],
      ((ofText (Text.trimStart statement.toList)).take (ofText key.toList).length).map
        lower = ofText key.toList := by
  unfold isReadOnly openingKeyword?
  rw [List.findSome?_isSome_iff]
  refine exists_congr fun key => and_congr_right fun member => ?_
  have letters := letters_of_mem member
  have octets : ofText key.toList = key.toList.map Char.toNat :=
    ofText_of_ascii fun k inside => (letters k inside).1
  rw [Option.isSome_map, afterFolded_isSome_iff_octets letters, octets, List.length_map]

/-- The parts of a statement that opens with a keyword: all its leading blanks, the
keyword in whatever case, and the rest. -/
structure Opens (statement key : String) (indent keyword rest : List Char) : Prop where
  text_eq : statement.toList = indent ++ keyword ++ rest
  indent_blank : ∀ c ∈ indent, Text.isBlank c = true
  indent_longest : ∀ front, front <+: statement.toList →
    (∀ c ∈ front, Text.isBlank c = true) → front <+: indent
  key_mem : key ∈ ["select", "with"]
  keyword_folded : keyword.map Char.toLower = key.toList

/-- The parts of a statement as they are cut by counting octets: in front of the
trimmed text, and behind as many octets of it as the key has. -/
structure OctetsCut (statement key : String) (indent keyword rest : List Char) : Prop where
  indent_octets : (ofText statement.toList).take ((ofText statement.toList).length -
    (ofText (Text.trimStart statement.toList)).length) = ofText indent
  keyword_octets : (ofText (Text.trimStart statement.toList)).take
    (ofText key.toList).length = ofText keyword
  rest_octets : (ofText (Text.trimStart statement.toList)).drop
    (ofText key.toList).length = ofText rest

theorem indent_longest {text front : List Char} (leading : front <+: text)
    (blank : ∀ c ∈ front, Text.isBlank c = true) : front <+: Text.indent text := by
  obtain ⟨tail, rfl⟩ := leading
  rw [Text.indent, List.takeWhile_append_of_pos blank]
  exact List.prefix_append front _

theorem opens_of_openingKeyword? {statement : String} {keyword rest : List Char}
    (opens : openingKeyword? (Text.trimStart statement.toList) = some (keyword, rest)) :
    ∃ key, Opens statement key (Text.indent statement.toList) keyword rest ∧
      OctetsCut statement key (Text.indent statement.toList) keyword rest := by
  obtain ⟨split, key, member, folded⟩ := openingKeyword?_eq_some opens
  have letters := letters_of_mem member
  have text_eq : statement.toList = Text.indent statement.toList ++ (keyword ++ rest) := by
    rw [← split, Text.indent_append_trimStart]
  have small : key.toList.map Char.toLower = key.toList := by
    rw [List.map_congr_left fun k inside => (letters k inside).2, List.map_id']
  rw [small] at folded
  have octets := length_ofText_of_folded letters folded
  refine ⟨key, ⟨?_, fun c => Text.isBlank_of_mem_indent, fun front => indent_longest,
    member, folded⟩, ?_, ?_, ?_⟩
  · rw [List.append_assoc, ← text_eq]
  · have whole := congrArg ofText (Text.indent_append_trimStart statement.toList)
    rw [← whole, ofText_append, List.length_append, Nat.add_sub_cancel, List.take_left]
  · rw [split, ofText_append, ← octets, List.take_left]
  · rw [split, ofText_append, ← octets, List.drop_left]

/-! ### The statement behind a hint -/

theorem ofList_hint (millis : Nat) : String.ofList (Timeout.hint millis) =
    " /*+ MAX_EXECUTION_TIME(" ++ toString millis ++ ") */" := by
  unfold Timeout.hint Numeral.decimal
  rw [Nat.toString_eq_ofList_toDigits]
  simp only [String.ofList_append, String.ofList_toList]

/-- The statement that was given the hint of a limit. -/
def unhinted (timeout : Timeout) (text : String) : String :=
  match timeout, openingKeyword? (Text.trimStart text.toList) with
  | .after millis, some (keyword, rest) =>
    String.ofList (Text.indent text.toList ++ keyword ++
      rest.drop (Timeout.hint millis).length)
  | _, _ => text

theorem unhinted_hinted (timeout : Timeout) :
    Function.LeftInverse (unhinted timeout) (hinted timeout) := by
  intro statement
  cases timeout with
  | disabled => rfl
  | after millis =>
      cases opens : openingKeyword? (Text.trimStart statement.toList) with
      | none => simp [unhinted, hinted, opens]
      | some parts =>
          obtain ⟨keyword, rest⟩ := parts
          obtain ⟨split, key, member, folded⟩ := openingKeyword?_eq_some opens
          have trimmed (tail : List Char) : Text.trimStart
              (Text.indent statement.toList ++ (keyword ++ tail)) = keyword ++ tail := by
            rw [Text.trimStart_indent_append, trimStart_keyword_append member folded]
          have indented (tail : List Char) : Text.indent
              (Text.indent statement.toList ++ (keyword ++ tail)) =
                Text.indent statement.toList := by
            have whole := Text.indent_append_trimStart
              (Text.indent statement.toList ++ (keyword ++ tail))
            rw [trimmed] at whole
            exact List.append_cancel_right whole
          have text_eq : Text.indent statement.toList ++ (keyword ++ rest) =
              statement.toList := by
            rw [← split, Text.indent_append_trimStart]
          simp only [unhinted, hinted, opens, String.toList_ofList, List.append_assoc,
            trimmed, indented, openingKeyword?_append member folded, List.drop_left,
            text_eq, String.ofList_toList]

/-- A hint changes nothing but the hint.  A disabled limit and a statement that is
not read-only leave the text as it is; otherwise the hint stands behind the
keyword that opens the statement, as it is spelled there.  The statement stays
read-only or not, and can be told from its text with the hint. -/
theorem hinted_adds_hint_only (timeout : Timeout) :
    Function.Injective (hinted timeout) ∧
      ∀ statement,
        isReadOnly (hinted timeout statement) = isReadOnly statement ∧
        (isReadOnly statement = true ↔ ∃ key ∈ ["select", "with"],
          ((ofText (Text.trimStart statement.toList)).take (ofText key.toList).length).map
            lower = ofText key.toList) ∧
        ((timeout = .disabled ∨ isReadOnly statement = false) ∧
            hinted timeout statement = statement ∨
          ∃ millis key indent keyword rest, timeout = .after millis ∧
            isReadOnly statement = true ∧
            Opens statement key indent keyword rest ∧
            OctetsCut statement key indent keyword rest ∧
            hinted timeout statement = String.ofList (indent ++ keyword) ++
              " /*+ MAX_EXECUTION_TIME(" ++ toString millis ++ ") */" ++
              String.ofList rest) := by
  refine ⟨(unhinted_hinted timeout).injective, fun statement => ?_⟩
  refine ⟨isReadOnly_hinted timeout statement, isReadOnly_iff_octets statement, ?_⟩
  cases timeout with
  | disabled => exact .inl ⟨.inl rfl, rfl⟩
  | after millis =>
      cases opens : openingKeyword? (Text.trimStart statement.toList) with
      | none =>
          have writes : isReadOnly statement = false := by simp [isReadOnly, opens]
          exact .inl ⟨.inr writes, by simp [hinted, opens]⟩
      | some parts =>
          obtain ⟨keyword, rest⟩ := parts
          obtain ⟨key, parted, cut⟩ := opens_of_openingKeyword? opens
          have reads : isReadOnly statement = true := by simp [isReadOnly, opens]
          refine .inr ⟨millis, key, _, keyword, rest, rfl, reads, parted, cut, ?_⟩
          simp only [hinted, opens, String.ofList_append, ofList_hint, String.append_assoc]

end Statement

end DecisionBench
