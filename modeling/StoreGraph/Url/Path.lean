import StoreGraph.Text.Split
import StoreGraph.Url.Percent
import StoreGraph.Url.Scheme

/-! # Paths

A path is a run of parts with slashes between them. Parts that consist of dots are followed while
the path is read. Drives have parts of their own, a letter and a colon: no double dot leads out of a
drive, whatever the scheme, and a file on a drive has no host.
-/

namespace StoreGraph.Url

def isSingleDot (part : List Char) : Bool :=
  ["." , "%2e"].contains (String.ofList (part.map Char.toLower))

def isDoubleDot (part : List Char) : Bool :=
  ["..", "%2e.", ".%2e", "%2e%2e"].contains (String.ofList (part.map Char.toLower))

/-- Is this a letter followed by a colon, or by a bar that stands for one? -/
def isDriveLetter : List Char → Bool
  | [letter, c] => isLetter letter && (c == ':' || c == '|')
  | _ => false

/-- Is this part a drive letter, perhaps with a backslash and more behind it? -/
def beginsWithDrive : List Char → Bool
  | letter :: c :: rest => isDriveLetter [letter, c] && rest.head?.all (· == '\\')
  | _ => false

/-- The drive letter that a tab or a line end divides from the rest of a part, and that rest. -/
def dividedDrive? (part : List Char) : Option (List Char × List Char) :=
  match visible part with
  | letter :: ':' :: c :: rest =>
    let behind := (part.dropWhile (· != ':')).drop 1
    if isLetter letter && behind.head?.any isIgnored then some ([letter, ':'], c :: rest) else none
  | _ => none

/-- A path of which the beginning is read. -/
structure PathWalk where
  /-- The parts so far, the last one first. -/
  parts : List (List Char)
  /-- Is the first part the drive of a file? -/
  onDrive : Bool
  deriving Repr, DecidableEq

namespace PathWalk

def start : PathWalk := { parts := [], onDrive := false }

def push (walk : PathWalk) (part : List Char) : PathWalk :=
  { walk with parts := part :: walk.parts }

/-- Leave the last part. A drive is never left. -/
def leave (walk : PathWalk) : PathWalk :=
  match walk.parts with
  | [] => walk
  | last :: rest => if beginsWithDrive last then walk else { walk with parts := rest }

/-- Add a part. The drive of a file comes first and is written with a colon. -/
def enter (kind : SchemeKind) (walk : PathWalk) (part : List Char) : PathWalk :=
  let shown := visible part
  if kind = .file ∧ walk.parts.isEmpty then
    match dividedDrive? part with
    | some (drive, rest) => (walk.push drive).push (percentEncode pathSet rest)
    | none =>
      if isDriveLetter shown then { walk.push (shown.take 1 ++ [':']) with onDrive := true }
      else walk.push (percentEncode pathSet shown)
  else walk.push (percentEncode pathSet shown)

/-- Follow the parts of a path. Dots at its end stand for an empty part. -/
def follow (kind : SchemeKind) : PathWalk → List (List Char) → PathWalk
  | walk, [] => walk
  | walk, [last] =>
    if isDoubleDot (visible last) then walk.leave.push []
    else if isSingleDot (visible last) then walk.push []
    else enter kind walk last
  | walk, part :: rest =>
    if isDoubleDot (visible part) then follow kind walk.leave rest
    else if isSingleDot (visible part) then follow kind walk rest
    else follow kind (enter kind walk part) rest

/-- The text of a path. The path of a file has no empty parts in front. -/
def text (kind : SchemeKind) (walk : PathWalk) : List Char :=
  let parts := walk.parts.reverse
  let parts := if kind = .file then
      match parts.dropWhile List.isEmpty with
      | [] => [[]]
      | parts => parts
    else parts
  parts.flatMap ('/' :: ·)

end PathWalk

/-- Follow the path that the characters behind its first slash describe. -/
def walkPath (kind : SchemeKind) (cs : List Char) : PathWalk :=
  PathWalk.start.follow kind (Text.splitAtAll kind.isSlash cs)

/-- The path that the characters behind its first slash describe. -/
def pathText (kind : SchemeKind) (cs : List Char) : List Char := (walkPath kind cs).text kind

/-- The path that follows a host. -/
def pathAfterHost (kind : SchemeKind) (path : List Char) : List Char :=
  match path with
  | [] => if kind = .ordinary then [] else ['/']
  | c :: rest => if kind.isSlash c then pathText kind rest else pathText kind path

def endsPath (c : Char) : Bool := c == '?' || c == '#'

/-- The path, and what follows it. -/
def splitPath (cs : List Char) : List Char × List Char :=
  (cs.takeWhile (!endsPath ·), cs.dropWhile (!endsPath ·))

end StoreGraph.Url
