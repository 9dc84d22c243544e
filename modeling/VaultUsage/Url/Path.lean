import VaultUsage.Url.Host

/-!
# Paths

A path is the list of its segments, each behind a slash; a path that ends in a slash has an empty last
segment. Segments are percent-encoded. A segment of one dot stays where it is, one of two dots climbs.
-/

namespace VaultUsage.Url

abbrev Path := List String

namespace Path

def root : Path := [""]

def render (path : Path) : String := String.join (path.map ("/" ++ ·))

/-- Segments of two characters, a letter and a colon or bar, are never climbed out of. -/
def isDriveLetter (segment : String) : Bool :=
  match segment.toList with
  | [letter, mark] => letter.isAlpha && (mark == ':' || mark == '|')
  | _ => false

def climb (path : List String) : List String :=
  match path.getLast? with
  | none => []
  | some last => if isDriveLetter last then path else path.dropLast

def lower (segment : List Char) : String := String.ofList (segment.map Char.toLower)

def isSingleDot (segment : List Char) : Bool := [".", "%2e"].contains (lower segment)

def isDoubleDot (segment : List Char) : Bool := ["..", ".%2e", "%2e.", "%2e%2e"].contains (lower segment)

/-- The path of the given texts between slashes, behind the segments read already. -/
def resolve (done : List String) : List (List Char) → Path
  | [] => done ++ [""]
  | [last] =>
    let segment := encode isPathChar last
    if isDoubleDot segment then climb done ++ [""]
    else if isSingleDot segment then done ++ [""]
    else done ++ [String.ofList segment]
  | text :: rest =>
    let segment := encode isPathChar text
    if isDoubleDot segment then resolve (climb done) rest
    else if isSingleDot segment then resolve done rest
    else resolve (done ++ [String.ofList segment]) rest

def read (text : List Char) : Path :=
  let isSlash (c : Char) : Bool := c == '/' || c == '\\'
  match text with
  | c :: rest => resolve [] (splitAt isSlash (if isSlash c then rest else text))
  | [] => root

def toDirectory (path : Path) : Path := if path.getLast? = some "" then path else path ++ [""]

/-- The path without an empty last segment, unless that is all there is. -/
def popEmpty (path : Path) : Path :=
  if path.length ≤ 1 then path else if path.getLast? = some "" then path.dropLast else path

def isDropped (c : Char) : Bool := c == '\t' || c == '\n' || c == '\r'

/-- Adds one more segment. A text that is a dot segment adds nothing; one that becomes a dot segment
when tabs and line breaks are dropped stays or climbs like one. -/
def push (path : Path) (text : String) : Path :=
  if text = "." ∨ text = ".." then path
  else
    let done := if path = root then [] else path
    let segment := encode isSegmentChar (text.toList.filter fun c => !isDropped c)
    if segment = ['.', '.'] then climb done ++ [""]
    else if segment = ['.'] then done ++ [""]
    else done ++ [String.ofList segment]

def extend (path : Path) (texts : List String) : Path := texts.foldl push (popEmpty path)

end Path

end VaultUsage.Url
