import CaseRouting.Address.Percent

/-!
# Paths of addresses

A path is kept as its text, which begins with a slash. Segments are appended one by one; a segment
of one dot stands for nothing and one of two dots for the removal of the segment before it. The root
is never removed, and neither is a segment that names a drive.
-/

namespace CaseRouting.Address

def isSlash (c : Char) : Bool := c == '/' || c == '\\'

/-- A text that begins with a letter and a colon or bar, as the name of a drive does. -/
def beginsWithDrive : List Char → Bool
  | [a, b] => a.isAlpha && (b == ':' || b == '|')
  | a :: b :: c :: _ => a.isAlpha && (b == ':' || b == '|') && ['/', '\\', '?', '#'].contains c
  | _ => false

/-- The text up to and with its last slash, and the text behind it. -/
def cutAtSlash (path : List Char) : List Char × List Char :=
  let behind := (path.reverse.takeWhile (· ≠ '/')).reverse
  (path.take (path.length - behind.length), behind)

/-- The path without its last segment, where `path` ends with a slash. -/
def parent (path : List Char) : List Char :=
  let shorter := path.dropLast
  let (upTo, last) := cutAtSlash shorter
  if upTo.isEmpty || beginsWithDrive (last ++ ['/']) then path else upTo

def isOneDot (segment : List Char) : Bool :=
  segment == ['.'] || segment == ['%', '2', 'e'] || segment == ['%', '2', 'E']

def isTwoDots (segment : List Char) : Bool :=
  let dot := ['.']
  let low := ['%', '2', 'e']
  let high := ['%', '2', 'E']
  segment == dot ++ dot || segment == dot ++ low || segment == dot ++ high ||
    segment == low ++ dot || segment == high ++ dot || segment == low ++ low ||
    segment == low ++ high || segment == high ++ low || segment == high ++ high

/-- Appends a segment in its encoded form to a path that ends with a slash. -/
def addSegment (path segment : List Char) : List Char :=
  if isTwoDots segment then parent path
  else if isOneDot segment then path
  else path ++ segment

/-- Reads a path after its first slash. -/
def readPath (path : List Char) : List (List Char) → List Char
  | [] => path
  | [last] => addSegment path last
  | segment :: rest =>
    let path := addSegment path segment
    readPath (if path.getLast? = some '/' && (isTwoDots segment || isOneDot segment) then path
      else path ++ ['/']) rest

/-- The path of an address that was read. Slashes of either kind separate its segments. -/
def pathOf (cs : List Char) : List Char :=
  let cs := match cs with
    | c :: rest => if isSlash c then rest else c :: rest
    | [] => []
  readPath ['/'] ((cs.splitOnP isSlash).map (encode reservedInPath))

/-- Tabs and line breaks do not count in an address. -/
def isDropped (c : Char) : Bool := c == '\t' || c == '\n' || c == '\r'

/-- Adds a segment to the end of a path. A segment of one or two plain dots is left out. -/
def pushSegment (path : List Char) (segment : String) : List Char :=
  if segment = "." || segment = ".." then path
  else
    let path := if 1 < path.length then path ++ ['/'] else path
    addSegment path (encode reservedInSegment (segment.toList.filter (!isDropped ·)))

/-- The path without a slash at its end, unless it is the root. -/
def dropEndSlash (path : List Char) : List Char :=
  if 1 < path.length && path.getLast? = some '/' then path.dropLast else path

end CaseRouting.Address
