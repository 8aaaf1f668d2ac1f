import ServiceWorker.Url.Percent

/-!
# Paths

A path is a list of segments, a slash before each. A segment of two points takes away the segment
before it, and one of a single point is left out. In file URLs a drive letter stays in place.

## Main definitions

* `Path.Layout`: the rules that a scheme sets for its paths
* `Path.Walk`: a path that is being read
* `Path.read`: the path that a text leads to
-/

namespace ServiceWorker.Url.Path

/-- The rules that a scheme sets for its paths: whether a backslash counts as a slash, and whether
there are drive letters. -/
structure Layout where
  backslash : Bool
  drives : Bool
  deriving DecidableEq, Repr, Inhabited

/-- Whether a character parts segments. -/
def Layout.parts (layout : Layout) (c : Char) : Bool :=
  c = '/' || (layout.backslash && c = '\\')

/-- Whether a character is an ASCII letter. -/
def isLetter (c : Char) : Bool :=
  ('a' ≤ c && c ≤ 'z') || ('A' ≤ c && c ≤ 'Z')

/-- A letter with a colon or a bar. -/
def isDrive : List Char → Bool
  | [a, b] => isLetter a && (b = ':' || b = '|')
  | _ => false

/-- A letter with a colon. -/
def isPlainDrive : List Char → Bool
  | [a, ':'] => isLetter a
  | _ => false

/-- A segment that begins as a drive letter does, alone or before a backslash. -/
def beginsWithDrive : List Char → Bool
  | [a, b] => isDrive [a, b]
  | a :: b :: '\\' :: _ => isDrive [a, b]
  | _ => false

/-- A point, percent-encoded or not, and what follows it. -/
def dropPoint : List Char → Option (List Char)
  | '.' :: rest => some rest
  | '%' :: '2' :: 'e' :: rest => some rest
  | '%' :: '2' :: 'E' :: rest => some rest
  | _ => none

/-- Whether a segment is a single point. -/
def isPoint (segment : List Char) : Bool :=
  dropPoint segment = some []

/-- Whether a segment is two points. -/
def isTwoPoints (segment : List Char) : Bool :=
  (dropPoint segment).bind dropPoint = some []

/-- A path that is being read: the segments with a slash after them, last one first, the segment at
the end, and whether a drive letter has been put first. -/
structure Walk where
  closed : List (List Char)
  last : List Char
  drive : Bool
  deriving Inhabited

/-- The walk at the root. -/
def Walk.root : Walk := ⟨[], [], false⟩

/-- The path that has been read. -/
def Walk.text (w : Walk) : List Char :=
  '/' :: w.closed.reverse.flatMap (· ++ ['/']) ++ w.last

/-- Takes the last closed segment away. A drive letter stays. -/
def Walk.pop (w : Walk) : Walk :=
  match w.closed with
  | [] => w
  | segment :: rest => if beginsWithDrive segment then w else { w with closed := rest }

/-- Ends the path with a segment. -/
def Walk.finish (layout : Layout) (w : Walk) (segment : List Char) : Walk :=
  if isTwoPoints segment then w.pop
  else if isPoint segment then w
  else if layout.drives && w.closed.isEmpty && isDrive segment then
    { w with last := segment.take 1 ++ [':'], drive := true }
  else { w with last := percentEncode .path segment }

/-- Adds a segment with a slash after it. -/
def Walk.close (layout : Layout) (w : Walk) (segment : List Char) : Walk :=
  if isTwoPoints segment then w.pop
  else if isPoint segment then w
  else
    let w := w.finish layout segment
    { w with closed := w.last :: w.closed, last := [] }

/-- The segments of a text that a slash follows, and the one at its end. -/
def segments (layout : Layout) : List Char → List (List Char) × List Char
  | [] => ([], [])
  | c :: rest =>
    let (closed, last) := segments layout rest
    if layout.parts c then ([] :: closed, last)
    else
      match closed with
      | [] => ([], c :: last)
      | segment :: closed => ((c :: segment) :: closed, last)

/-- The walk on from a place along a text. -/
def Walk.along (layout : Layout) (start : Walk) (cs : List Char) : Walk :=
  let (closed, last) := segments layout cs
  (closed.foldl (Walk.close layout) start).finish layout last

/-- The path that a text leads to. In file URLs slashes at the front count as one. -/
def Walk.path (layout : Layout) (w : Walk) : List Char :=
  if layout.drives then '/' :: w.text.dropWhile (· = '/') else w.text

/-- The place where the last segment of a path stands. -/
def parent (path : List Char) : Walk :=
  { Walk.root with closed := (segments ⟨false, false⟩ (path.drop 1)).1.reverse }

/-- The segment at the end of a path. -/
def lastSegment (path : List Char) : List Char :=
  (segments ⟨false, false⟩ (path.drop 1)).2

/-- The first segment of a path. -/
def firstSegment (path : List Char) : List Char :=
  (path.drop 1).takeWhile (· ≠ '/')

end ServiceWorker.Url.Path
