import DecisionBench.Url.Percent

/-!
# Paths of URLs

A path is read segment by segment.  A segment of one dot is dropped and a segment of two dots takes
the one before it away; every other one is kept, percent coded.  The path is built with its last
character first.
-/

namespace DecisionBench.Url

def endsPath (c : Char) : Bool :=
  c == '?' || c == '#'

/-- A dot, as it is or percent coded, at the front of a segment. -/
def afterDot? : List Char → Option (List Char)
  | '.' :: rest => some rest
  | '%' :: '2' :: 'e' :: rest => some rest
  | '%' :: '2' :: 'E' :: rest => some rest
  | _ => none

/-- Whether a segment stands for the directory itself. -/
def isSingleDot (segment : List Char) : Bool :=
  afterDot? segment == some []

/-- Whether a segment stands for the directory above. -/
def isDoubleDot (segment : List Char) : Bool :=
  match afterDot? segment with
  | some rest => afterDot? rest == some []
  | none => false

/-- Whether a path, from a slash on, starts with a drive letter. -/
def startsWithDrive : List Char → Bool
  | _ :: letter :: mark :: rest =>
    letter.isAlpha && (mark == ':' || mark == '|') &&
      match rest with
      | [] => true
      | c :: _ => c == '/' || c == '\\' || c == '?' || c == '#'
  | _ => false

/-- Whether the slash at the end of a path may go: another one stands before it, and no drive letter
stands between the two. -/
def slashMayGo : List Char → Bool
  | '/' :: before =>
    match before.dropWhile (· != '/') with
    | [] => false
    | _ :: _ =>
      !startsWithDrive ('/' :: (before.takeWhile (· != '/')).reverse ++ ['/'])
  | _ => false

def withoutSegment (built : List Char) : List Char :=
  (if slashMayGo built then built.tail else built).dropWhile (· != '/')

def withSlash (built : List Char) : List Char :=
  if built.head? = some '/' then built else '/' :: built

/-- A path with one more segment, behind which a slash may stand. -/
def addSegment (built segment : List Char) (slash : Bool) : List Char :=
  if isDoubleDot segment then
    if slash then withSlash (withoutSegment built) else withoutSegment built
  else if isSingleDot segment then withSlash built
  else if slash then '/' :: (segment.reverse ++ built)
  else segment.reverse ++ built

/-- The path that is left to read, added to what is built.  `isSlash` says which characters part
segments, and `segment` is the part of the present one that is read, the last character first. -/
def addPath (isSlash : Char → Bool) (built segment : List Char) : List Char → List Char
  | [] => addSegment built (Percent.encode Percent.isPathCoded segment.reverse) false
  | c :: rest =>
    if endsPath c then
      addSegment built (Percent.encode Percent.isPathCoded segment.reverse) false
    else if isSlash c then
      addPath isSlash
        (addSegment built (Percent.encode Percent.isPathCoded segment.reverse) true) [] rest
    else addPath isSlash built (c :: segment) rest

end DecisionBench.Url
