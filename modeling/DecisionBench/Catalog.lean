import DecisionBench.Fault
import DecisionBench.Text.Pieces

/-!
# Catalogs of queries

A query has an id, a title and the statements that make it up.  A catalog holds queries of distinct
ids in ascending order.  `Catalog.ofList` builds one and refuses the first repeated id;
`Catalog.resolve` looks up a selection of ids and refuses it with all the unknown ones.
-/

namespace DecisionBench

/-- A titled workload of one or more statements. -/
structure Query where
  id : Nat
  title : String
  statements : List String
  deriving DecidableEq, Repr

/-- Queries in strictly ascending order of their ids. -/
structure Catalog where
  queries : List Query
  ordered : (queries.map Query.id).Pairwise (· < ·)

/-- A selection names ids that the catalog does not have. -/
def Fault.unknownQueries (ids : List Nat) : Fault :=
  ⟨.configuration, "unknown query id: " ++ Text.joined ", " (ids.map toString)⟩

/-- Two definitions have the same id. -/
def Fault.duplicateQuery (id : Nat) : Fault :=
  ⟨.internal, "duplicate query id in catalog: " ++ toString id⟩

namespace Catalog

def empty : Catalog :=
  ⟨[], .nil⟩

def get? (catalog : Catalog) (id : Nat) : Option Query :=
  catalog.queries.find? fun query => query.id == id

def ids (catalog : Catalog) : List Nat :=
  catalog.queries.map Query.id

def size (catalog : Catalog) : Nat :=
  catalog.queries.length

/-- Puts a query in front of the first one with a greater id. -/
def place (query : Query) : List Query → List Query
  | [] => [query]
  | head :: rest => if query.id < head.id then query :: head :: rest else head :: place query rest

theorem mem_ids_place {query : Query} {queries : List Query} {id : Nat} :
    id ∈ (place query queries).map Query.id ↔ id = query.id ∨ id ∈ queries.map Query.id := by
  induction queries with
  | nil => simp [place]
  | cons head rest induction =>
    unfold place
    split
    · simp
    · simp only [List.map_cons, List.mem_cons, induction]
      constructor
      · rintro (here | rest | rest) <;> simp [*]
      · rintro (new | here | rest) <;> simp [*]

theorem pairwise_place {query : Query} {queries : List Query}
    (ordered : (queries.map Query.id).Pairwise (· < ·))
    (fresh : query.id ∉ queries.map Query.id) :
    ((place query queries).map Query.id).Pairwise (· < ·) := by
  induction queries with
  | nil => simp [place]
  | cons head rest induction =>
    simp only [List.map_cons, List.pairwise_cons] at ordered
    simp only [List.map_cons, List.mem_cons, not_or] at fresh
    unfold place
    split
    · rename_i smaller
      simp only [List.map_cons, List.pairwise_cons]
      refine ⟨fun id member => ?_, ordered⟩
      rcases List.mem_cons.mp member with rfl | later
      · exact smaller
      · exact Nat.lt_trans smaller (ordered.1 id later)
    · rename_i notSmaller
      simp only [List.map_cons, List.pairwise_cons]
      refine ⟨fun id member => ?_, induction ordered.2 fresh.2⟩
      rcases mem_ids_place.mp member with rfl | later
      · exact Nat.lt_of_le_of_ne (Nat.le_of_not_lt notSmaller) (Ne.symm fresh.1)
      · exact ordered.1 id later

/-- A catalog with one more query, unless its id is taken. -/
def insert? (catalog : Catalog) (query : Query) : Option Catalog :=
  if fresh : query.id ∉ catalog.queries.map Query.id then
    some ⟨place query catalog.queries, pairwise_place catalog.ordered fresh⟩
  else none

/-- A catalog with more queries, refused at the first id that is taken. -/
def insertAll (catalog : Catalog) : List Query → Except Fault Catalog
  | [] => .ok catalog
  | query :: rest =>
    match catalog.insert? query with
    | some catalog => catalog.insertAll rest
    | none => .error (.duplicateQuery query.id)

/-- The catalog of a list of queries, refused at the first repeated id. -/
def ofList (queries : List Query) : Except Fault Catalog :=
  empty.insertAll queries

/-- The query with an id, or the fault of asking for it. -/
def lookup (catalog : Catalog) (id : Nat) : Except Fault Query :=
  match catalog.get? id with
  | some query => .ok query
  | none => .error (.unknownQueries [id])

/-- The ids of a selection that the catalog does not have, repeats kept. -/
def unknown (catalog : Catalog) (ids : List Nat) : List Nat :=
  ids.filter fun id => (catalog.get? id).isNone

/-- The queries of a selection in its order, one for every occurrence of an id, unless an id is
unknown. -/
def resolve (catalog : Catalog) (ids : List Nat) : Except Fault (List Query) :=
  if (catalog.unknown ids).isEmpty then .ok (ids.filterMap catalog.get?)
  else .error (.unknownQueries (catalog.unknown ids))

end Catalog

end DecisionBench
