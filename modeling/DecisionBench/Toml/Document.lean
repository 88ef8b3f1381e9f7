import DecisionBench.Toml.Reader

/-!
# TOML documents

A document is a sequence of lines, each blank, a comment, a key with its value, or a header that
opens a table.  A table may be opened once; tables on the way to it come into being by themselves
and may still be opened later, unless a key of several parts made them.
-/

namespace DecisionBench.Toml

/-- How a table came into being. -/
inductive Origin where
  /-- By a header of its own. -/
  | header
  /-- On the way to another table. -/
  | implied
  /-- By a key of several parts. -/
  | dotted
  deriving DecidableEq, Repr

/-- A part of a document. -/
inductive Node where
  | leaf (value : Value)
  | table (origin : Origin) (entries : List (String × Node))
  /-- Tables that share one name, the last one first. -/
  | tables (newest : List (String × Node)) (older : List (List (String × Node)))

/-- Changes the entries of the table at a path, and makes the tables on the way that are missing.
The change is told how the table came into being.  With `dotted` the path belongs to a key, which
may not reach into a table that has a header. -/
def atPath (dotted : Bool)
    (change : Origin → List (String × Node) → Option (List (String × Node))) :
    List String → Origin → List (String × Node) → Option (List (String × Node))
  | [], origin, entries => change origin entries
  | key :: path, _, entries =>
    match lookup? key entries with
    | none =>
      let origin := if dotted then Origin.dotted else Origin.implied
      (atPath dotted change path origin []).map
        fun inner => store key (.table origin inner) entries
    | some (.leaf _) => none
    | some (.tables newest older) =>
      (atPath dotted change path .header newest).map
        fun inner => store key (.tables inner older) entries
    | some (.table origin inner) =>
      if dotted ∧ origin = .header then none
      else
        (atPath dotted change path origin inner).map
          fun inner => store key (.table origin inner) entries

/-- A document while it is read: the tables that are closed, and the one that is open with the path
of its header. -/
structure Draft where
  root : List (String × Node)
  path : List String
  /-- Whether the open table is one of several of its name. -/
  repeated : Bool
  entries : List (String × Node)

def Draft.start : Draft :=
  ⟨[], [], false, []⟩

/-- The tables of a draft, with the open one put in its place. -/
def Draft.close (draft : Draft) : Option (List (String × Node)) :=
  match draft.path.getLast? with
  | none => some draft.entries
  | some key =>
    let put (_ : Origin) (entries : List (String × Node)) : Option (List (String × Node)) :=
      if draft.repeated then
        match lookup? key entries with
        | none => some (store key (.tables draft.entries []) entries)
        | some (.tables newest older) =>
          some (store key (.tables draft.entries (newest :: older)) entries)
        | some _ => none
      else some (store key (.table .header draft.entries) entries)
    atPath false put draft.path.dropLast .header draft.root

/-- The entries of a table that a header may open: those of a table that came into being on the way,
or none. -/
def openable? (key : String) (entries : List (String × Node)) : Option (List (String × Node)) :=
  match lookup? key entries with
  | none => some []
  | some (.table .implied inner) => some inner
  | some _ => none

/-- The entries of the table at a path. -/
def entriesAt? : List String → List (String × Node) → Option (List (String × Node))
  | [], entries => some entries
  | key :: path, entries =>
    match lookup? key entries with
    | some (.table _ inner) => entriesAt? path inner
    | some (.tables newest _) => entriesAt? path newest
    | some (.leaf _) => none
    | none => some []

/-- Opens the table of a header. -/
def Draft.open (draft : Draft) (path : List String) : Option Draft :=
  match draft.close, path.getLast? with
  | some root, some key =>
    match (entriesAt? path.dropLast root).bind (openable? key) with
    | none => none
    | some entries =>
      let remove (_ : Origin) (entries : List (String × Node)) :=
        some (discard key entries)
      (atPath false remove path.dropLast .header root).map
        fun root => ⟨root, path, false, entries⟩
  | _, _ => none

/-- Opens one more of the tables that share the name of a header. -/
def Draft.openRepeated (draft : Draft) (path : List String) : Option Draft :=
  match draft.close, path.getLast? with
  | some root, some key =>
    let allowed := match (entriesAt? path.dropLast root).map (lookup? key) with
      | some none => true
      | some (some (.tables _ _)) => true
      | _ => false
    let keep (_ : Origin) (entries : List (String × Node)) := some entries
    if allowed then
      (atPath false keep path.dropLast .header root).map fun root => ⟨root, path, true, []⟩
    else none
  | _, _ => none

/-- Gives a key of the open table its value.  A table that the parts of the key lead to must have
been made by such a key. -/
def Draft.set (draft : Draft) (path : List String) (value : Value) : Option Draft :=
  match path.getLast? with
  | none => none
  | some key =>
    let put (origin : Origin) (entries : List (String × Node)) : Option (List (String × Node)) :=
      if path.length ≠ 1 ∧ origin ≠ .dotted then none
      else
        match lookup? key entries with
        | none => some (store key (.leaf value) entries)
        | some _ => none
    (atPath true put path.dropLast .header draft.entries).map
      fun entries => { draft with entries }

/-- A header or a key with its value, and what follows its line. -/
def line? (draft : Draft) (text : List Char) : Option (Draft × List Char) :=
  match text with
  | '[' :: '[' :: rest =>
    match limitedKey? rest with
    | some (path, ']' :: ']' :: rest) =>
      match draft.openRepeated path, afterLine? rest with
      | some draft, some after => some (draft, after)
      | _, _ => none
    | _ => none
  | '[' :: rest =>
    match limitedKey? rest with
    | some (path, ']' :: rest) =>
      match draft.open path, afterLine? rest with
      | some draft, some after => some (draft, after)
      | _, _ => none
    | _ => none
  | _ =>
    match limitedKey? text with
    | some (path, '=' :: rest) =>
      match value? depthLimit (skipBlanks rest) with
      | some (value, rest) =>
        match draft.set path value, afterLine? rest with
        | some draft, some after => some (draft, after)
        | _, _ => none
      | none => none
    | _ => none

/-- The lines of a document from one on.  The first argument bounds their number. -/
def lines? : Nat → Draft → List Char → Option Draft
  | 0, _, _ => none
  | fuel + 1, draft, text =>
    match skipBlanks text with
    | [] => some draft
    | '#' :: rest =>
      match afterLineEnd? (rest.dropWhile isTextual) with
      | some after => lines? fuel draft after
      | none => none
    | start =>
      match afterNewline? start with
      | some after => lines? fuel draft after
      | none =>
        match line? draft start with
        | some (draft, after) => lines? fuel draft after
        | none => none

/-- The value of a part of a document.  Nesting is bounded by the length of the document and is
counted down by the first argument. -/
def Node.settle : Nat → Node → Value
  | _, .leaf value => value
  | 0, _ => .table []
  | depth + 1, .table _ entries =>
    .table (entries.map fun entry => (entry.1, entry.2.settle depth))
  | depth + 1, .tables newest older =>
    .array ((newest :: older).reverse.map fun entries =>
      .table (entries.map fun entry => (entry.1, entry.2.settle depth)))

/-- The entries of a document, unless it breaks a rule.  A byte order mark at its front is
skipped. -/
def parse? (document : String) : Option (List (String × Value)) :=
  let text := match document.toList with
    | c :: rest => if c.toNat = 0xFEFF then rest else c :: rest
    | [] => []
  match lines? (text.length + 1) .start text with
  | none => none
  | some draft =>
    match draft.close with
    | none => none
    | some root =>
      some (root.map fun entry => (entry.1, entry.2.settle (text.length + 1)))

end DecisionBench.Toml
