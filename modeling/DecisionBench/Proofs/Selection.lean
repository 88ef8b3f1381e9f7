import DecisionBench.Catalog
import Mathlib.Data.List.Forall2

/-!
# Resolving a selection

A selection of ids is resolved exactly if every id is known, and then to the
queries of the ids in the order of the selection.
-/

namespace DecisionBench

theorem Text.joined_eq_intercalate (separator : String) (texts : List String) :
    Text.joined separator texts = separator.intercalate texts := by
  rw [joined, ← String.toList_intercalate, String.ofList_toList]

theorem Fault.unknownQueries_eq (ids : List Nat) :
    Fault.unknownQueries ids =
      ⟨.configuration, "unknown query id: " ++ ", ".intercalate (ids.map toString)⟩ := by
  rw [unknownQueries, Text.joined_eq_intercalate]

namespace Catalog

variable {catalog : Catalog} {ids : List Nat} {queries : List Query}

/-- What a selection with unknown ids is refused with, which tells all of them. -/
def refusal (catalog : Catalog) (ids : List Nat) : Fault :=
  let unknown := ids.filter fun id => (catalog.get? id).isNone
  ⟨.configuration, "unknown query id: " ++ ", ".intercalate (unknown.map toString)⟩

theorem unknown_eq_nil_iff :
    catalog.unknown ids = [] ↔ ∀ id ∈ ids, catalog.get? id ≠ none := by
  simp [unknown, Option.ne_none_iff_isSome]

theorem resolve_of_unknown (unknown : ∃ id ∈ ids, catalog.get? id = none) :
    catalog.resolve ids = .error (catalog.refusal ids) := by
  have someUnknown : catalog.unknown ids ≠ [] := by
    intro noneUnknown
    obtain ⟨id, member, absent⟩ := unknown
    exact unknown_eq_nil_iff.mp noneUnknown id member absent
  simp only [resolve, List.isEmpty_iff, someUnknown, if_false, Fault.unknownQueries_eq]
  rfl

theorem not_unknown_of_known (known : ids.map catalog.get? = queries.map some) :
    ¬ ∃ id ∈ ids, catalog.get? id = none := by
  rintro ⟨id, member, absent⟩
  have image : none ∈ queries.map some := by
    rw [← known, ← absent]
    exact List.mem_map_of_mem member
  simp at image

theorem resolve_eq_ok_iff :
    catalog.resolve ids = .ok queries ↔
      ids.map catalog.get? = queries.map some := by
  constructor
  · intro resolved
    by_cases noneUnknown : catalog.unknown ids = []
    · simp only [resolve, noneUnknown, List.isEmpty_nil, if_true,
        Except.ok.injEq] at resolved
      have known := unknown_eq_nil_iff.mp noneUnknown
      subst resolved
      clear noneUnknown
      induction ids with
      | nil => rfl
      | cons id ids induction =>
          obtain ⟨query, found⟩ :=
            Option.ne_none_iff_exists'.mp (known id List.mem_cons_self)
          have later := induction fun id member =>
            known id (List.mem_cons_of_mem _ member)
          simp [found, later]
    · simp [resolve, noneUnknown] at resolved
  · intro known
    have noneUnknown : catalog.unknown ids = [] := by
      rw [unknown_eq_nil_iff]
      exact fun id member absent =>
        not_unknown_of_known known ⟨id, member, absent⟩
    have found : ids.filterMap catalog.get? = queries := by
      have through := congrArg (List.filterMap id) known
      simpa [List.filterMap_map, Function.comp_def] using through
    simp [resolve, noneUnknown, found]

theorem id_of_get? {id : Nat} {query : Query} (found : catalog.get? id = some query) :
    query.id = id := by
  simpa using List.find?_some found

theorem mem_of_known (known : ids.map catalog.get? = queries.map some) {query : Query}
    (member : query ∈ queries) : query ∈ catalog.queries ∧ query.id ∈ ids := by
  have image : some query ∈ ids.map catalog.get? := by
    rw [known]
    exact List.mem_map_of_mem member
  obtain ⟨id, selected, found⟩ := List.mem_map.mp image
  rw [id_of_get? found]
  exact ⟨List.mem_of_find?_eq_some found, selected⟩

theorem exists_query_of_known (known : ids.map catalog.get? = queries.map some)
    {id : Nat} (member : id ∈ ids) : ∃ query ∈ queries, query.id = id := by
  have image : catalog.get? id ∈ queries.map some := by
    rw [← known]
    exact List.mem_map_of_mem member
  obtain ⟨query, selected, found⟩ := List.mem_map.mp image
  exact ⟨query, selected, id_of_get? found.symm⟩

/-- What relates the queries of a selection to other things, relates the ids. -/
theorem forall₂_of_known {β : Type} {relation : Query → β → Prop} {others : List β}
    (known : ids.map catalog.get? = queries.map some)
    (related : List.Forall₂ relation queries others) :
    List.Forall₂ (fun id other => ∃ query, catalog.get? id = some query ∧
      relation query other) ids others := by
  have found : List.Forall₂ (fun found other => ∃ query, found = some query ∧
      relation query other) (queries.map some) others :=
    List.forall₂_map_left_iff.mpr
      (related.imp fun query other holds => ⟨query, rfl, holds⟩)
  rwa [← known, List.forall₂_map_left_iff] at found

/-- Either some id of a selection is unknown, or it has its queries. -/
theorem unknown_or_known (catalog : Catalog) (ids : List Nat) :
    (∃ id ∈ ids, catalog.get? id = none) ∨
      ∃ queries : List Query, ids.map catalog.get? = queries.map some := by
  by_cases unknown : ∃ id ∈ ids, catalog.get? id = none
  · exact .inl unknown
  · have noneUnknown : catalog.unknown ids = [] :=
      unknown_eq_nil_iff.mpr fun id member absent => unknown ⟨id, member, absent⟩
    exact .inr ⟨ids.filterMap catalog.get?,
      resolve_eq_ok_iff.mp (by simp [resolve, noneUnknown])⟩

end Catalog

end DecisionBench
