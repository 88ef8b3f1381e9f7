import DecisionBench.Proofs.Agreement
import DecisionBench.Proofs.Words

/-!
# Queries that create views

A query that creates a view says so in the first words of a statement, of which there
are two spellings (`CreatesView`).  The dry run knows only the shorter one: a query with
that one is passed over as a whole, and every other query is tried, up to the first that
fails (`Tries`).  So the queries that create a view are kept from the session exactly if
each of them that is reached uses the shorter spelling (`creators_kept_back_iff`).
-/

namespace DecisionBench

/-- The keywords are the first words of the statement, in either case. -/
def Statement.BeginsWith (keywords : List String) (statement : String) : Prop :=
  ∃ first, Text.Leads first statement.toList ∧
    first.map (List.map Char.toLower) = keywords.map String.toList

theorem Statement.beginsWith_iff {keywords : List String} {statement : String} :
    BeginsWith keywords statement ↔ keywords.map String.toList <+:
      (Text.words statement.toList).map (List.map Char.toLower) := by
  rw [List.prefix_map_iff]
  constructor
  · rintro ⟨first, leads, folded⟩
    exact ⟨first, Text.leads_iff.mp leads, folded.symm⟩
  · rintro ⟨first, leading, folded⟩
    exact ⟨first, Text.leads_iff.mpr leading, folded.symm⟩

namespace Precheck

open Statement

/-- The keywords are the first words of some statement of the query. -/
def HasOpening (keywords : List String) (query : Query) : Prop :=
  ∃ statement ∈ query.statements, BeginsWith keywords statement

def CreatesView (query : Query) : Prop :=
  HasOpening ["create", "view"] query ∨ HasOpening ["create", "or", "replace", "view"] query

theorem opensView_iff {statement : String} :
    opensView statement = true ↔ BeginsWith ["create", "view"] statement := by
  rw [beginsWith_iff, opensView, opensViewText]
  have create : "create".toList.map Char.toLower = "create".toList := by decide
  have view : "view".toList.map Char.toLower = "view".toList := by decide
  cases Text.words statement.toList with
  | nil => simp
  | cons first more =>
      cases more with
      | nil => simp
      | cons second rest =>
          simp only [Text.equalFolded, create, view, Bool.and_eq_true, beq_iff_eq,
            List.map_cons, List.map_nil, List.cons_prefix_cons, List.nil_prefix, and_true]
          exact and_congr eq_comm eq_comm

theorem definesView_iff {query : Query} :
    definesView query = true ↔ HasOpening ["create", "view"] query := by
  simp only [definesView, List.any_eq_true, opensView_iff, HasOpening]

/-! ### Trials -/

/-- A query that was reached, what was sent for it, and what that came to. -/
structure Trial where
  query : Query
  sent : List Exchange
  ended : Except Fault Unit

/-- A query that defines a view in the shorter spelling is passed over, and any other one
sends its statements. -/
inductive Trial.IsDue (timeout : Timeout) : Trial → Prop where
  | passedOver {query : Query} :
      HasOpening ["create", "view"] query → IsDue timeout ⟨query, [], .ok ()⟩
  | tried {query : Query} {sent : List Exchange} {ended : Except Fault Unit} :
      ¬ HasOpening ["create", "view"] query → Follows (tryPlan timeout query) sent ended →
      IsDue timeout ⟨query, sent, ended⟩

/-- The queries are reached in their order, up to the first that ends with a fault. -/
inductive Tries (timeout : Timeout) :
    List Query → List Trial → Except Fault Unit → Prop where
  | done : Tries timeout [] [] (.ok ())
  | next {trial : Trial} {queries : List Query} {trials : List Trial}
      {outcome : Except Fault Unit} :
      trial.IsDue timeout → trial.ended = .ok () → Tries timeout queries trials outcome →
      Tries timeout (trial.query :: queries) (trial :: trials) outcome
  | stopped {trial : Trial} {fault : Fault} (unreached : List Query) :
      trial.IsDue timeout → trial.ended = .error fault →
      Tries timeout (trial.query :: unreached) [trial] (.error fault)

variable {timeout : Timeout} {queries : List Query} {trials : List Trial}
  {sent : List Exchange} {outcome : Except Fault Unit}

theorem Tries.isDue (tries : Tries timeout queries trials outcome) :
    ∀ trial ∈ trials, trial.IsDue timeout := by
  induction tries with
  | done => simp
  | next due _ _ induction => exact List.forall_mem_cons.mpr ⟨due, induction⟩
  | stopped _ due _ => simpa using due

theorem exists_tries (follows : Follows (queriesPlan timeout queries) sent outcome) :
    ∃ trials, Tries timeout queries trials outcome ∧ sent = trials.flatMap Trial.sent := by
  induction queries generalizing sent with
  | nil =>
      cases follows
      exact ⟨[], .done, rfl⟩
  | cons query queries induction =>
      rw [queriesPlan_cons] at follows
      by_cases view : definesView query = true
      · rw [if_pos view, List.nil_append] at follows
        obtain ⟨trials, tries, rfl⟩ := induction follows
        have passedOver : Trial.IsDue timeout ⟨query, [], .ok ()⟩ :=
          .passedOver (definesView_iff.mp view)
        exact ⟨_, .next passedOver rfl tries, rfl⟩
      · have plain := mt definesView_iff.mpr view
        rw [if_neg view] at follows
        rcases follows.split with
          ⟨fault, rfl, stopped⟩ | ⟨own, later, rfl, carried, further⟩
        · have tried : Trial.IsDue timeout ⟨query, sent, .error fault⟩ := .tried plain stopped
          exact ⟨_, .stopped queries tried rfl, by simp⟩
        · obtain ⟨trials, tries, rfl⟩ := induction further
          have tried : Trial.IsDue timeout ⟨query, own, .ok ()⟩ := .tried plain carried
          exact ⟨_, .next tried rfl tries, rfl⟩

/-- Something is sent for every query that is tried and has a statement. -/
theorem Trial.IsDue.sent_eq_nil_iff {trial : Trial} (due : trial.IsDue timeout)
    (creates : CreatesView trial.query) :
    trial.sent = [] ↔ HasOpening ["create", "view"] trial.query := by
  cases due with
  | passedOver plain => exact iff_of_true rfl plain
  | @tried query sent ended plain follows =>
      have stated : query.statements ≠ [] := by
        rintro none
        rcases creates with ⟨statement, member, -⟩ | ⟨statement, member, -⟩ <;>
          simp [none] at member
      refine iff_of_false ?_ plain
      rintro rfl
      obtain ⟨statement, more, split⟩ := List.exists_cons_of_ne_nil stated
      generalize plan_eq : tryPlan timeout query = plan at follows
      cases follows
      simp [tryPlan, split, statementPlan] at plan_eq

/-- What the dry run sends, query by query, for every session.  A query with a statement
that begins with `create view` is passed over as a whole; every other one is tried, until
one fails.  The queries that create a view, in whatever spelling, are all kept from the
session exactly if no query is reached that creates its view as `create or replace view`
alone. -/
theorem creators_kept_back_iff {σ : Type} (environment : Environment σ) (state : σ)
    (timeout : Timeout) (queries : List Query) :
    let played := (tryQueries timeout queries).outcome.play environment state
    ∃ trials, Tries timeout queries trials played.value ∧
      exchanges played.events = trials.flatMap Trial.sent ∧
      ((∀ trial ∈ trials, CreatesView trial.query → trial.sent = []) ↔
        ∀ trial ∈ trials, CreatesView trial.query →
          HasOpening ["create", "view"] trial.query) := by
  intro played
  have running : (tryQueries timeout queries).outcome.Runs played.events played.value :=
    Program.runs_play environment _ state
  have follows := carriesOut_tryQueries timeout queries _ _ running
  have same : played.value.map (fun _ => ()) = played.value := by
    cases played.value <;> rfl
  rw [same] at follows
  obtain ⟨trials, tries, sent⟩ := exists_tries follows
  refine ⟨trials, tries, sent, ?_⟩
  refine forall_congr' fun trial => forall_congr' fun member => forall_congr' fun creates => ?_
  exact (tries.isDue trial member).sent_eq_nil_iff creates

/-- The statement that replaces a view goes out, and the one behind it as well. -/
theorem replacing_query_not_kept_back :
    let query : Query :=
      ⟨1, "View", ["create or replace view v as select 1", "select * from v"]⟩
    let played :=
      (tryQueries .disabled [query]).outcome.play (.answering fun _ => .ok 0) ()
    CreatesView query ∧ ¬ HasOpening ["create", "view"] query ∧
      (exchanges played.events).map Exchange.call =
        [.execute "create or replace view v as select 1", .countRows "select * from v"] := by
  intro query played
  have replaces :
      BeginsWith ["create", "or", "replace", "view"] "create or replace view v as select 1" :=
    beginsWith_iff.mpr (by decide +kernel)
  have missed : definesView query = false := by decide +kernel
  refine ⟨.inr ⟨_, List.mem_cons_self, replaces⟩, ?_, by decide +kernel⟩
  rw [← definesView_iff, missed]
  exact Bool.false_ne_true

end Precheck

end DecisionBench
