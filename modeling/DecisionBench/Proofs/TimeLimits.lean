import DecisionBench.Proofs.Digits
import DecisionBench.Proofs.HintedText

/-!
# Time limits

A limit in seconds is held at the greatest number of milliseconds that 64 bits have
room for, so that a longer time never gives a shorter limit or none at all.  The
limit is told to the server in two texts, a session setting and a hint.  Both have
the same numeral in them, and neither is there without a limit.

`limit_exact_and_told_alike` puts these together.
-/

namespace DecisionBench

namespace Timeout

/-! ### The number of milliseconds -/

theorem ofMillis_eq_disabled_iff {given : Int} : ofMillis given = .disabled ↔ given ≤ 0 := by
  unfold ofMillis
  split
  · next positive => simp [positive]
  · next negative => simp [Int.not_lt.mp negative]

theorem ofMillis_eq_after_iff {given : Int} {millis : Nat} :
    ofMillis given = .after millis ↔ 0 < given ∧ (millis : Int) = given := by
  unfold ofMillis
  split
  · next positive =>
      rw [Timeout.after.injEq]
      omega
  · next negative => simp [negative]

theorem ofSeconds_eq_disabled_iff {seconds : Int} :
    ofSeconds seconds = .disabled ↔ seconds ≤ 0 := by
  rw [ofSeconds, ofMillis_eq_disabled_iff, least, greatest]
  omega

theorem ofSeconds_eq_after_iff {seconds : Int} {millis : Nat} :
    ofSeconds seconds = .after millis ↔
      0 < seconds ∧ (millis : Int) = min (1000 * seconds) greatest := by
  rw [ofSeconds, ofMillis_eq_after_iff, least, greatest]
  omega

theorem exists_ofSeconds_eq_after {seconds : Int} (positive : 0 < seconds) :
    ∃ millis, ofSeconds seconds = .after millis := by
  cases limit : ofSeconds seconds with
  | disabled => exact absurd (ofSeconds_eq_disabled_iff.mp limit) (Int.not_le.mpr positive)
  | after millis => exact ⟨millis, rfl⟩

theorem ofSeconds_mono {less more : Int} (positive : 0 < less) (ordered : less ≤ more) :
    ∃ shorter longer, ofSeconds less = .after shorter ∧ ofSeconds more = .after longer ∧
      0 < shorter ∧ shorter ≤ longer := by
  obtain ⟨shorter, first⟩ := exists_ofSeconds_eq_after positive
  obtain ⟨longer, second⟩ := exists_ofSeconds_eq_after (Int.lt_of_lt_of_le positive ordered)
  have ⟨_, few⟩ := ofSeconds_eq_after_iff.mp first
  have ⟨_, many⟩ := ofSeconds_eq_after_iff.mp second
  rw [greatest] at few many
  refine ⟨shorter, longer, first, second, ?_, ?_⟩
  · omega
  · omega

/-! ### The texts that tell a limit -/

theorem sessionStatement?_eq (timeout : Timeout) :
    timeout.sessionStatement? =
      timeout.millis?.map fun millis => "SET SESSION max_execution_time = " ++ toString millis := by
  cases timeout with
  | disabled => rfl
  | after millis =>
      rw [sessionStatement?, millis?, Option.map_some, Nat.toString_eq_ofList_toDigits]
      rfl

theorem unsigned?_toString (n : Nat) : Numeral.unsigned? (toString n).toList = some n := by
  rw [Nat.toString_eq_ofList_toDigits, String.toList_ofList]
  exact Numeral.unsigned?_decimal n

end Timeout

namespace Statement

variable {statement : String}

/-- The hint of any limit stands behind the keyword that opens a statement. -/
theorem exists_hinted_eq (reads : isReadOnly statement = true) :
    ∃ key indent keyword rest, Opens statement key indent keyword rest ∧
      ∀ millis, hinted (.after millis) statement = String.ofList (indent ++ keyword) ++
        " /*+ MAX_EXECUTION_TIME(" ++ toString millis ++ ") */" ++ String.ofList rest := by
  obtain ⟨⟨keyword, rest⟩, opens⟩ := Option.isSome_iff_exists.mp reads
  obtain ⟨key, parted, -⟩ := opens_of_openingKeyword? opens
  refine ⟨key, _, keyword, rest, parted, fun millis => ?_⟩
  simp only [hinted, opens, String.ofList_append, ofList_hint, String.append_assoc]

theorem hinted_eq_self (timeout : Timeout) (writes : isReadOnly statement = false) :
    hinted timeout statement = statement := by
  have opens := Option.not_isSome_iff_eq_none.mp (Bool.eq_false_iff.mp writes)
  cases timeout with
  | disabled => rfl
  | after millis => simp [hinted, opens]

/-- A text with a hint is longer than the text without it. -/
theorem hinted_ne_iff (timeout : Timeout) (statement : String) :
    hinted timeout statement ≠ statement ↔
      isReadOnly statement = true ∧ timeout.sessionStatement?.isSome = true := by
  cases reads : isReadOnly statement with
  | false => simp [hinted_eq_self timeout reads]
  | true =>
      cases timeout with
      | disabled => simp [hinted, Timeout.sessionStatement?]
      | after millis =>
          obtain ⟨key, indent, keyword, rest, opens, hint⟩ := exists_hinted_eq reads
          have longer : hinted (.after millis) statement ≠ statement := by
            intro same
            rw [hint millis] at same
            have lengths := congrArg (fun text => text.toList.length) same
            simp [opens.text_eq] at lengths
            omega
          simp [longer, Timeout.sessionStatement?]

end Statement

namespace Timeout

/-- Seconds that are not positive give no limit, and others the exact number of
milliseconds up to the greatest one; a longer time gives no shorter limit.
Milliseconds are taken as they are.  A statement that reads has a hint just if there
is a session setting, and then both tell the numeral of the limit. -/
theorem limit_exact_and_told_alike :
    (∀ seconds : Int, (ofSeconds seconds = .disabled ↔ seconds ≤ 0) ∧
      ∀ millis : Nat, ofSeconds seconds = .after millis ↔
        0 < seconds ∧ (millis : Int) = min (1000 * seconds) greatest) ∧
    (∀ less more : Int, 0 < less → less ≤ more → ∃ shorter longer,
      ofSeconds less = .after shorter ∧ ofSeconds more = .after longer ∧
        0 < shorter ∧ shorter ≤ longer) ∧
    (∀ given : Int, (ofMillis given = .disabled ↔ given ≤ 0) ∧
      ∀ millis : Nat, ofMillis given = .after millis ↔
        0 < given ∧ (millis : Int) = given) ∧
    ∀ (timeout : Timeout) (statement : String),
      (Statement.hinted timeout statement ≠ statement ↔
        Statement.isReadOnly statement = true ∧
          timeout.sessionStatement?.isSome = true) ∧
      timeout.sessionStatement? = timeout.millis?.map
        (fun millis => "SET SESSION max_execution_time = " ++ toString millis) ∧
      ∀ millis, timeout.millis? = some millis →
        Numeral.unsigned? (toString millis).toList = some millis ∧
        (Statement.isReadOnly statement = true → ∃ key indent keyword rest,
          Statement.Opens statement key indent keyword rest ∧
          Statement.hinted timeout statement = String.ofList (indent ++ keyword) ++
            " /*+ MAX_EXECUTION_TIME(" ++ toString millis ++ ") */" ++
            String.ofList rest) := by
  refine ⟨?_, ?_, ?_, ?_⟩
  · exact fun _ => ⟨ofSeconds_eq_disabled_iff, fun _ => ofSeconds_eq_after_iff⟩
  · exact fun _ _ => ofSeconds_mono
  · exact fun _ => ⟨ofMillis_eq_disabled_iff, fun _ => ofMillis_eq_after_iff⟩
  · intro timeout statement
    refine ⟨Statement.hinted_ne_iff timeout statement, sessionStatement?_eq timeout, ?_⟩
    intro millis limit
    refine ⟨unsigned?_toString millis, fun reads => ?_⟩
    obtain ⟨key, indent, keyword, rest, opens, hint⟩ := Statement.exists_hinted_eq reads
    cases timeout with
    | disabled => cases limit
    | after _ =>
        cases limit
        exact ⟨key, indent, keyword, rest, opens, hint millis⟩

end Timeout

end DecisionBench
