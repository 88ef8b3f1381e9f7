import DecisionBench.OsError
import DecisionBench.Text.Octets
import DecisionBench.Text.Pieces

/-!
# File trees

A file tree holds files, directories and symbolic links by the names that lead to them from the
root.  Paths are walked name by name: links are followed, two dots lead back, and what the operating
system would refuse is refused with the same cause.
-/

namespace DecisionBench.Rehearsal

/-- What stands in a file tree. -/
inductive Node where
  | file (content : String)
  /-- A device: what is written to it is lost, and there is nothing to read. -/
  | device
  | directory
  | link (target : String)
  deriving DecidableEq, Repr

/-- The names that lead from the root to a node. -/
abbrev Names := List String

structure FileTree where
  entries : List (Names × Node)
  deriving DecidableEq, Repr

/-- Where a walk ends. -/
inductive Destination where
  /-- At a node that is no link. -/
  | occupied (names : Names) (node : Node)
  /-- At a name in an existing directory that leads nowhere. -/
  | vacant (names : Names)
  deriving DecidableEq, Repr

namespace FileTree

/-- The names between the slashes of a path; slashes that follow each other have empty names between
them. -/
def namesOf (path : String) : Names :=
  (Text.pieces (· == '/') path.toList).map String.ofList

def isAbsolute (path : String) : Bool :=
  path.toList.head? == some '/'

/-- The absolute path that names write. -/
def pathOf (names : Names) : String :=
  if names.isEmpty then "/" else String.join (names.map ("/" ++ ·))

def node? (tree : FileTree) (names : Names) : Option Node :=
  if names.isEmpty then some .directory
  else (tree.entries.find? fun entry => entry.1 == names).map Prod.snd

/-- A tree with a node at some names, in the place of one that was there. -/
def put (tree : FileTree) (names : Names) (node : Node) : FileTree :=
  ⟨(tree.entries.filter fun entry => entry.1 != names) ++ [(names, node)]⟩

def mostLinks : Nat := 40

/-- The most octets of one name. -/
def mostOctets : Nat := 255

/-- The most octets of a path, with the one that ends it. -/
def mostPathOctets : Nat := 4096

/-- Whether a path is longer than the operating system takes. -/
def isTooLong (path : String) : Bool :=
  mostPathOctets ≤ (Octets.ofText path.toList).length

def isHere (name : String) : Bool :=
  name == "" || name == "."

/-- What a walk is for. -/
inductive Purpose where
  /-- To use what is there. -/
  | use
  | create
  /-- To tell its absolute path.  Every name on the way is asked for by such a path, which must not
  be too long. -/
  | resolve
  deriving DecidableEq, Repr

/-- Walks names from a directory.  The first number is that of links that may be followed.  A file
is not made at a name with a slash behind it, whatever stands there. -/
def walk (tree : FileTree) (purpose : Purpose) (links : Nat) (here : Names) (names : Names) :
    Except OsError Destination :=
  match names with
  | [] => .ok (.occupied here ((tree.node? here).getD .directory))
  | name :: rest =>
    if isHere name then walk tree purpose links here rest
    else if name = ".." then walk tree purpose links here.dropLast rest
    else if purpose = .create ∧ !rest.isEmpty ∧ rest.all (· == "") then .error .isDirectory
    else if mostOctets < (Octets.ofText name.toList).length then .error .nameTooLong
    else if purpose = .resolve ∧ isTooLong (pathOf (here ++ [name])) then .error .nameTooLong
    else
      match tree.node? (here ++ [name]) with
      | none =>
        if rest.all (· == "") then .ok (.vacant (here ++ [name])) else .error .missing
      | some .directory => walk tree purpose links (here ++ [name]) rest
      | some (.link target) =>
        match links with
        | 0 => .error .tooManyLinks
        | links + 1 =>
          walk tree purpose links (if isAbsolute target then [] else here)
            (namesOf target ++ rest)
      | some node =>
        if rest.isEmpty then .ok (.occupied (here ++ [name]) node) else .error .notDirectory
termination_by (links, names.length)

/-- Whether a path may be handed to the operating system at all. -/
def admissible (path : String) : Except OsError Unit :=
  if path.contains '\x00' then .error .zeroInPath
  else if isTooLong path then .error .nameTooLong
  else .ok ()

/-- Where a path leads from a working directory. -/
def locate (tree : FileTree) (purpose : Purpose) (directory : Names) (path : String) :
    Except OsError Destination := do
  admissible path
  if path.isEmpty then throw .missing
  else if isAbsolute path then tree.walk purpose mostLinks [] (namesOf path)
  else tree.walk purpose mostLinks directory (namesOf path)

def isFile (tree : FileTree) (directory : Names) (path : String) : Bool :=
  match tree.locate .use directory path with
  | .ok (.occupied _ (.file _)) => true
  | _ => false

def hasPath (tree : FileTree) (directory : Names) (path : String) : Bool :=
  match tree.locate .use directory path with
  | .ok (.occupied _ _) => true
  | _ => false

def isDirectory (tree : FileTree) (directory : Names) (path : String) : Bool :=
  match tree.locate .use directory path with
  | .ok (.occupied _ .directory) => true
  | _ => false

/-- The absolute path without links of what a path leads to. -/
def resolve (tree : FileTree) (directory : Names) (path : String) : Except OsError String := do
  match ← tree.locate .resolve directory path with
  | .occupied names _ => return pathOf names
  | .vacant _ => throw .missing

/-- The content of the file that a path leads to. -/
def read (tree : FileTree) (directory : Names) (path : String) : Except OsError String := do
  match ← tree.locate .use directory path with
  | .occupied _ (.file content) => return content
  | .occupied _ .device => return ""
  | .occupied _ _ => throw .isDirectory
  | .vacant _ => throw .missing

/-- The tree after a file was written, in the place of what was in it. -/
def write (tree : FileTree) (directory : Names) (path content : String) :
    Except OsError FileTree := do
  match ← tree.locate .create directory path with
  | .occupied names (.file _) => return tree.put names (.file content)
  | .occupied _ .device => return tree
  | .occupied _ _ => throw .isDirectory
  | .vacant names => return tree.put names (.file content)

/-- The tree after a directory was made.  A link at the place is not followed. -/
def makeDirectory (tree : FileTree) (start : Names) (names : Names) : Except OsError FileTree :=
  match (names.reverse.dropWhile (· == "")) with
  | [] => .error .alreadyThere
  | last :: above => do
    match ← tree.walk .use mostLinks start above.reverse with
    | .vacant _ => throw .missing
    | .occupied parent .directory =>
      if isHere last ∨ last = ".." ∨ (tree.node? (parent ++ [last])).isSome then
        throw .alreadyThere
      else if mostOctets < (Octets.ofText last.toList).length then throw .nameTooLong
      else return tree.put (parent ++ [last]) .directory
    | .occupied _ _ => throw .notDirectory

/-- A directory that is there already is as good as one that was made. -/
def orExisting (tree : FileTree) (start : Names) (names : Names) : Except OsError FileTree :=
  match tree.makeDirectory start names with
  | .error .alreadyThere =>
    match tree.walk .use mostLinks start names with
    | .ok (.occupied _ .directory) => .ok tree
    | _ => .error .alreadyThere
  | outcome => outcome

/-- The tree after a directory was made, and before it the ones above it that are missing.  The last
argument holds the names above it, innermost first. -/
def makeWithParents (tree : FileTree) (start : Names) :
    Names → Names → Except OsError FileTree
  | names, [] => tree.orExisting start names
  | names, last :: above =>
    match tree.orExisting start names with
    | .error .missing => do
      let tree ← makeWithParents tree start (last :: above).reverse above
      tree.orExisting start names
    | outcome => outcome

/-- The tree after a directory and the ones above it were made. -/
def makeDirectories (tree : FileTree) (directory : Names) (path : String) :
    Except OsError FileTree := do
  admissible path
  if path.isEmpty then return tree
  else
    let names := namesOf path
    let start := if isAbsolute path then [] else directory
    let plain := names.filter fun name => !isHere name
    if plain.isEmpty then return tree
    else tree.makeWithParents start names plain.reverse.tail

/-- The tree after a link was made, if there is room for it. -/
def makeLink (tree : FileTree) (directory : Names) (path target : String) : FileTree :=
  match tree.locate .use directory path with
  | .ok (.vacant names) => tree.put names (.link target)
  | _ => tree

/-- The tree with the directories that lead to some names. -/
def withDirectories (tree : FileTree) (names : Names) : FileTree :=
  (List.range names.length).foldl
    (fun tree count => tree.put (names.take (count + 1)) .directory) tree

end FileTree

end DecisionBench.Rehearsal
