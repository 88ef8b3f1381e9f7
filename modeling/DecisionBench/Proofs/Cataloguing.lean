import DecisionBench.Proofs.Selection
import Mathlib.Data.List.Nodup

/-!
# Catalogs of lists

A list of queries is put into a catalog one query after the other, up to the
first one whose id is taken.  What is put in is only rearranged
(`insertAll_cases`), and a catalog has one order only, so that the order of the
list makes no difference (`eq_of_perm`).

`ofList_holds_list` says which lists have a catalog and what is found in it, and
what comes of a selection from any catalog.
-/

namespace DecisionBench.Catalog

variable {catalog : Catalog} {queries : List Query} {query : Query}

/-- A catalog holds the queries of a list and nothing else. -/
structure Holds (catalog : Catalog) (queries : List Query) : Prop where
  get?_eq_some_iff : ∀ id query,
    catalog.get? id = some query ↔ query ∈ queries ∧ query.id = id
  get?_eq_none_iff : ∀ id, catalog.get? id = none ↔ id ∉ queries.map Query.id
  ids_ascending : catalog.ids.Pairwise (· < ·)
  mem_ids_iff : ∀ id, id ∈ catalog.ids ↔ id ∈ queries.map Query.id
  size_eq : catalog.size = queries.length

/-- A query of a list is the first one whose id was met before, among the queries
in front of it or those that are held already. -/
def RepeatsFirst (held queries : List Query) (query : Query) : Prop :=
  ∃ front rear, queries = front ++ query :: rear ∧
    ((held ++ front).map Query.id).Nodup ∧
    query.id ∈ (held ++ front).map Query.id

/-! ### Finding queries -/

theorem nodup_ids (catalog : Catalog) : (catalog.queries.map Query.id).Nodup :=
  catalog.ordered.imp Nat.ne_of_lt

theorem get?_eq_none_iff {id : Nat} : catalog.get? id = none ↔ id ∉ catalog.ids := by
  simp [get?, ids]

/-- The ids are distinct, so that the first query with an id is the only one. -/
theorem get?_eq_some_iff {id : Nat} :
    catalog.get? id = some query ↔ query ∈ catalog.queries ∧ query.id = id := by
  constructor
  · intro found
    exact ⟨List.mem_of_find?_eq_some found, id_of_get? found⟩
  · rintro ⟨member, rfl⟩
    cases found : catalog.get? query.id with
    | none => exact absurd (List.mem_map_of_mem member) (get?_eq_none_iff.mp found)
    | some other =>
        have same : other = query :=
          List.inj_on_of_nodup_map catalog.nodup_ids
            (List.mem_of_find?_eq_some found) member (id_of_get? found)
        rw [same]

/-- A catalog has one order only. -/
theorem eq_of_perm {other : Catalog} (perm : other.queries.Perm catalog.queries) :
    other = catalog := by
  have ordered : ∀ catalog : Catalog,
      catalog.queries.Pairwise fun first later => first.id < later.id :=
    fun catalog => List.pairwise_map.mp catalog.ordered
  have queries_eq : other.queries = catalog.queries := by
    apply perm.eq_of_pairwise _ (ordered other) (ordered catalog)
    intro first later _ _ less greater
    omega
  cases other
  cases catalog
  cases queries_eq
  rfl

/-! ### Putting queries in -/

theorem place_perm (query : Query) (queries : List Query) :
    (place query queries).Perm (query :: queries) := by
  induction queries with
  | nil => exact .refl _
  | cons head rest induction =>
      unfold place
      split
      · exact .refl _
      · exact (induction.cons head).trans (.swap query head rest)

theorem insert?_of_fresh (fresh : query.id ∉ catalog.queries.map Query.id) :
    ∃ filled, catalog.insert? query = some filled ∧
      filled.queries.Perm (catalog.queries ++ [query]) := by
  refine ⟨_, dif_pos fresh, ?_⟩
  exact (place_perm query catalog.queries).trans
    (List.perm_append_singleton query catalog.queries).symm

theorem insert?_of_taken (taken : query.id ∈ catalog.queries.map Query.id) :
    catalog.insert? query = none :=
  dif_neg (not_not_intro taken)

/-- Either every query is put in, or the first one that repeats an id is told. -/
theorem insertAll_cases (catalog : Catalog) (queries : List Query) :
    (∃ filled, catalog.insertAll queries = .ok filled ∧
        filled.queries.Perm (catalog.queries ++ queries)) ∨
      ∃ query, RepeatsFirst catalog.queries queries query ∧
        catalog.insertAll queries = .error (.duplicateQuery query.id) := by
  induction queries generalizing catalog with
  | nil => exact .inl ⟨catalog, rfl, by simp⟩
  | cons query queries induction =>
      by_cases taken : query.id ∈ catalog.queries.map Query.id
      · refine .inr ⟨query, ⟨[], queries, rfl, ?_, ?_⟩, ?_⟩
        · simpa using catalog.nodup_ids
        · simpa using taken
        · simp [insertAll, insert?_of_taken taken]
      · obtain ⟨grown, inserted, grew⟩ := insert?_of_fresh taken
        have further : catalog.insertAll (query :: queries) = grown.insertAll queries := by
          simp [insertAll, inserted]
        have moved (tail : List Query) :
            (grown.queries ++ tail).Perm (catalog.queries ++ query :: tail) := by
          simpa using grew.append_right tail
        rw [further]
        rcases induction grown with
          ⟨filled, done, perm⟩ | ⟨repeated, ⟨front, rear, rfl, distinct, again⟩, stopped⟩
        · exact .inl ⟨filled, done, perm.trans (moved queries)⟩
        · have ids := (moved front).map Query.id
          exact .inr ⟨repeated, ⟨query :: front, rear, rfl, ids.nodup_iff.mp distinct,
            ids.mem_iff.mp again⟩, stopped⟩

theorem holds_of_perm (perm : catalog.queries.Perm queries) : catalog.Holds queries where
  get?_eq_some_iff id query := by rw [Catalog.get?_eq_some_iff, perm.mem_iff]
  get?_eq_none_iff id := by
    rw [Catalog.get?_eq_none_iff, ids, (perm.map Query.id).mem_iff]
  ids_ascending := catalog.ordered
  mem_ids_iff id := (perm.map Query.id).mem_iff
  size_eq := perm.length_eq

theorem nodup_of_perm (perm : catalog.queries.Perm queries) :
    (queries.map Query.id).Nodup :=
  (perm.map Query.id).nodup_iff.mp catalog.nodup_ids

theorem RepeatsFirst.not_nodup (repeats : RepeatsFirst [] queries query) :
    ¬ (queries.map Query.id).Nodup := by
  obtain ⟨front, rear, rfl, -, again⟩ := repeats
  intro distinct
  rw [List.map_append, List.nodup_append] at distinct
  exact distinct.2.2 _ again _ (by simp) rfl

theorem ofList_cases (queries : List Query) :
    (∃ catalog, ofList queries = .ok catalog ∧ catalog.queries.Perm queries) ∨
      ∃ query, RepeatsFirst [] queries query ∧
        ofList queries = .error (.duplicateQuery query.id) :=
  insertAll_cases empty queries

theorem ofList_of_perm {others : List Query} (perm : catalog.queries.Perm queries)
    (rearranged : others.Perm queries) : ofList others = .ok catalog := by
  rcases ofList_cases others with ⟨other, built, otherPerm⟩ | ⟨query, repeats, -⟩
  · rw [built, eq_of_perm (otherPerm.trans (rearranged.trans perm.symm))]
  · have distinct := nodup_of_perm perm
    exact absurd ((rearranged.map Query.id).nodup_iff.mpr distinct) repeats.not_nodup

/-! ### The answers of a catalog -/

theorem resolve_cases (catalog : Catalog) (ids : List Nat) :
    ((∀ id ∈ ids, id ∈ catalog.ids) ∧ ∃ found, catalog.resolve ids = .ok found ∧
        ids.map catalog.get? = found.map some) ∨
      (∃ id ∈ ids, id ∉ catalog.ids) ∧
        catalog.resolve ids = .error ⟨.configuration, "unknown query id: " ++
          ", ".intercalate ((ids.filter fun id => id ∉ catalog.ids).map toString)⟩ := by
  have unknown_eq : (ids.filter fun id => (catalog.get? id).isNone) =
      ids.filter fun id => id ∉ catalog.ids := by
    apply List.filter_congr
    intro id _
    rw [Bool.eq_iff_iff, Option.isNone_iff_eq_none, get?_eq_none_iff, decide_eq_true_iff]
  rcases unknown_or_known catalog ids with ⟨id, member, absent⟩ | ⟨found, known⟩
  · refine .inr ⟨⟨id, member, get?_eq_none_iff.mp absent⟩, ?_⟩
    rw [resolve_of_unknown ⟨id, member, absent⟩, refusal, unknown_eq]
  · refine .inl ⟨fun id member => ?_, found, resolve_eq_ok_iff.mpr known, known⟩
    by_contra absent
    exact not_unknown_of_known known ⟨id, member, get?_eq_none_iff.mpr absent⟩

/-- A list of queries has a catalog exactly if their ids are distinct.  The
catalog holds the queries of the list, whatever their order, and a list that
repeats an id is refused with the first id that is repeated.  A selection from a
catalog is resolved to its queries in order exactly if every id of it is known,
and refused with all the ids that are not. -/
theorem ofList_holds_list (queries : List Query) :
    ((∃ catalog, ofList queries = .ok catalog) ↔ (queries.map Query.id).Nodup) ∧
      ((∃ catalog, ofList queries = .ok catalog ∧ catalog.Holds queries ∧
          ∀ others, others.Perm queries → ofList others = .ok catalog) ∨
        ∃ query, RepeatsFirst [] queries query ∧
          ofList queries =
            .error ⟨.internal, "duplicate query id in catalog: " ++ toString query.id⟩) ∧
      ∀ (catalog : Catalog) (ids : List Nat),
        ((∃ found, catalog.resolve ids = .ok found) ↔ ∀ id ∈ ids, id ∈ catalog.ids) ∧
          ((∃ found, catalog.resolve ids = .ok found ∧
              ids.map catalog.get? = found.map some) ∨
            catalog.resolve ids = .error ⟨.configuration, "unknown query id: " ++
              ", ".intercalate ((ids.filter fun id => id ∉ catalog.ids).map toString)⟩) := by
  refine and_assoc.mp ⟨?_, fun catalog ids => ?_⟩
  · rcases ofList_cases queries with ⟨catalog, built, perm⟩ | ⟨query, repeats, refused⟩
    · exact ⟨iff_of_true ⟨catalog, built⟩ (nodup_of_perm perm),
        .inl ⟨catalog, built, holds_of_perm perm, fun _ => ofList_of_perm perm⟩⟩
    · refine ⟨iff_of_false ?_ repeats.not_nodup, .inr ⟨query, repeats, refused⟩⟩
      rintro ⟨catalog, built⟩
      rw [refused] at built
      cases built
  · rcases resolve_cases catalog ids with
      ⟨known, found, resolved, queries⟩ | ⟨⟨id, member, absent⟩, refused⟩
    · exact ⟨iff_of_true ⟨found, resolved⟩ known, .inl ⟨found, resolved, queries⟩⟩
    · refine ⟨iff_of_false ?_ fun known => absent (known id member), .inr refused⟩
      rintro ⟨found, resolved⟩
      rw [refused] at resolved
      cases resolved

end DecisionBench.Catalog
