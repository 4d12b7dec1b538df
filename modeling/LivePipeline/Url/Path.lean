import LivePipeline.Url.Domain
import LivePipeline.Url.Percent

/-! Paths of locators. A path is resolved segment by segment, so that no dots are left in it; the
names of drives are never left again by dots. -/

namespace LivePipeline.Url

def isSlash (special : Bool) (c : Char) : Bool := c == '/' || (special && c == '\\')

/-- A segment that means the current folder, or with two dots the folder above. -/
def dots (segment : List Char) : Nat :=
  match String.ofList (segment.map Char.toLower) with
  | "." | "%2e" => 1
  | ".." | ".%2e" | "%2e." | "%2e%2e" => 2
  | _ => 0

/-- A letter with a colon or a bar behind it: the name of a drive. -/
def isDrive : List Char → Bool
  | [letter, mark] => letter.isAlpha && (mark == ':' || mark == '|')
  | _ => false

/-- Segments that two dots do not leave: drives, also with a backslash behind them. -/
def isFixed (segment : List Char) : Bool :=
  isDrive (segment.take 2) && (segment.drop 2).head?.all (· == '\\')

/-- The folder above; `done` holds the segments of a folder in reverse. -/
def above : List (List Char) → List (List Char)
  | [] => []
  | last :: rest => if isFixed last then last :: rest else rest

/-- Resolves segments from left to right; `done` holds the path so far in reverse. A path that ends
with dots ends with a slash. -/
def resolveSegments (done : List (List Char)) : List (List Char) → List (List Char)
  | [] => done.reverse
  | segment :: rest =>
    let closed := fun folder => if rest.isEmpty then [] :: folder else folder
    match dots segment with
    | 0 => resolveSegments (escape pathMarks segment :: done) rest
    | 1 => resolveSegments (closed done) rest
    | _ => resolveSegments (closed (above done)) rest

/-- The segments of a path. -/
def segmentsOf (special : Bool) (text : List Char) : List (List Char) :=
  splitChar '/' (text.map fun c => if isSlash special c then '/' else c)

def joinSegments (segments : List (List Char)) : String :=
  String.ofList (segments.flatMap fun segment => '/' :: segment)

/-- A path of segments, the first slash left out. -/
def pathText (special : Bool) (text : List Char) : String :=
  joinSegments (resolveSegments [] (segmentsOf special text))

/-! ## Paths of files

A break is a character that is skipped, but it may close the name of a drive. -/

/-- Characters that are skipped everywhere. -/
def isBreak (c : Char) : Bool := c == '\t' || c == '\n' || c == '\r'

def withoutBreaks (text : List Char) : List Char := text.filter (!isBreak ·)

/-- What follows the first `count` characters, breaks not counted. -/
def afterChars : (count : Nat) → List Char → List Char
  | _, [] => []
  | 0, text => text
  | count + 1, c :: rest => if isBreak c then afterChars (count + 1) rest else afterChars count rest

/-- What follows the first character, if it is a slash. -/
def dropSlash (text : List Char) : List Char :=
  match text.dropWhile isBreak with
  | c :: rest => if isSlash true c then rest else text
  | [] => []

/-- A drive whose name is followed by a break and then by more characters is closed there. -/
def brokenDrive? (segment : List Char) : Option (List Char × List Char) :=
  let plain := withoutBreaks segment
  let name := plain.take 2
  let rest := afterChars 2 segment
  if isDrive name && name.getLast? == some ':' && rest.head?.any isBreak && plain.length > 2 then
    some (name, plain.drop 2)
  else none

/-- The path of a file that has been resolved in part. -/
structure LocalPath where
  /-- Segments in reverse. -/
  done : List (List Char) := []
  /-- A drive in front takes the place of the host. -/
  hasDrive : Bool := false

/-- Adds a segment that is not made of dots. The name of a drive in front is written with a colon. -/
def LocalPath.add (path : LocalPath) (segment : List Char) : LocalPath :=
  let plain := withoutBreaks segment
  if path.done.isEmpty then
    if isDrive plain then { done := [plain.take 1 ++ [':']], hasDrive := true }
    else match brokenDrive? segment with
      | some (drive, rest) => { path with done := [escape pathMarks rest, drive] }
      | none => { path with done := [escape pathMarks plain] }
  else { path with done := escape pathMarks plain :: path.done }

/-- Resolves the segments of a file from left to right. -/
def LocalPath.resolve (path : LocalPath) : List (List Char) → LocalPath
  | [] => path
  | segment :: rest =>
    let closed := fun folder => if rest.isEmpty then [] :: folder else folder
    match dots (withoutBreaks segment) with
    | 0 => (path.add segment).resolve rest
    | 1 => LocalPath.resolve { path with done := closed path.done } rest
    | _ => LocalPath.resolve { path with done := closed (above path.done) } rest

/-- Slashes in front count once. -/
def LocalPath.text (path : LocalPath) : String :=
  let shown := path.done.reverse.dropWhile List.isEmpty
  joinSegments (if shown.isEmpty then [[]] else shown)

end LivePipeline.Url
