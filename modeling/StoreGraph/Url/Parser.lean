import StoreGraph.Url.Host
import StoreGraph.Url.Path

/-! # Reading URLs

The scheme of a URL decides how the rest is read: as a file, as a host with a path, or as any text.
Controls and blanks around a URL, and tabs and line ends anywhere in it, are ignored.
-/

namespace StoreGraph.Url

/-- Pass over a user name and a password. The answer tells whether there is one, and what comes
    after it. -/
def skipUserinfo (kind : SchemeKind) (cs : List Char) : Except Fault (Bool × List Char) :=
  let authority := cs.takeWhile (!kind.endsAuthority ·)
  if authority.contains '@' then
    let hostPart := (authority.reverse.takeWhile (· != '@')).reverse
    let userinfo := authority.take (authority.length - hostPart.length - 1)
    let rest := hostPart ++ cs.drop authority.length
    if userinfo.isEmpty && rest.head?.any kind.endsAuthority then .error .emptyHost
    else .ok (!userinfo.isEmpty && userinfo != [':'], rest)
  else .ok (false, cs)

/-- The text of the host, and what follows it. Colons in brackets belong to the host. -/
def splitHost (kind : SchemeKind) : Bool → List Char → List Char × List Char
  | _, [] => ([], [])
  | inBrackets, c :: rest =>
    if (c == ':' && !inBrackets) || kind.endsAuthority c then ([], c :: rest)
    else
      let (host, behind) := splitHost kind (c == '[' || (inBrackets && c != ']')) rest
      (c :: host, behind)

/-- Pass over the digits of a port. -/
def skipPort (cs : List Char) : Except Fault (List Char) :=
  let digits := cs.takeWhile Text.isDecimal
  let rest := cs.drop digits.length
  if 65535 < Text.ofDigits 10 digits then .error .invalidPort
  else
    match rest with
    | [] => .ok []
    | c :: _ => if c ∈ ['/', '\\', '?', '#'] then .ok rest else .error .invalidPort

/-- The host behind two slashes, and what follows host and port. -/
def readAuthority (kind : SchemeKind) (cs : List Char) :
    Except Fault (Option String × List Char) := do
  let (hasUser, rest) ← skipUserinfo kind cs
  let (hostText, rest) := splitHost kind false rest
  if hostText.isEmpty && (kind != .ordinary || hasUser || rest.head? == some ':') then
    throw .emptyHost
  let host ← if kind = .ordinary then opaqueHost hostText else specialHost hostText
  let rest ← match rest with
    | ':' :: rest => skipPort rest
    | rest => pure rest
  return (if host.isEmpty then none else some (String.ofList host), rest)

/-- The query, in what follows a path. -/
def readQuery (kind : SchemeKind) : List Char → Option String
  | '?' :: rest =>
    let set := if kind = .ordinary then querySet else specialQuerySet
    some (String.ofList (percentEncode set (rest.takeWhile (· != '#'))))
  | _ => none

/-- What follows the first character, if that is a slash of a `file` URL. -/
def behindSlash? (cs : List Char) : Option (List Char) :=
  match cs.dropWhile isIgnored with
  | c :: rest => if SchemeKind.file.isSlash c then some rest else none
  | [] => none

/-- Host and path of a `file` URL, behind its first two slashes. The host `localhost` counts as
    none. Without a host the path begins with an empty part, and if it begins with a drive the host
    is dropped. A drive letter is never a host. -/
def readFileHost (cs : List Char) : Except Fault (Option String × List Char) := do
  let (before, path) := (cs.takeWhile (!SchemeKind.file.isSlash ·),
    cs.dropWhile (!SchemeKind.file.isSlash ·))
  let hostText := visible before
  if isDriveLetter hostText then return (none, pathText .file cs)
  let host ← if hostText.isEmpty then pure [] else specialHost hostText
  if host.isEmpty || host == "localhost".toList then return (none, pathText .file path)
  let walk := walkPath .file (path.drop 1)
  return (if walk.onDrive then none else some (String.ofList host), walk.text .file)

/-- Host and path of a `file` URL. -/
def readFile (path : List Char) : Except Fault (Option String × List Char) :=
  match behindSlash? path with
  | none => .ok (none, pathText .file path)
  | some rest =>
    match behindSlash? rest with
    | none => .ok (none, pathText .file rest)
    | some rest => readFileHost rest

/-- Host and path of a URL, and what follows them, behind the colon of the scheme. -/
def readHostAndPath (kind : SchemeKind) (cs : List Char) :
    Except Fault (Option String × List Char × List Char) := do
  match kind, visible cs with
  | .file, _ =>
    let (path, rest) := splitPath cs
    let (host, path) ← readFile path
    return (host, path, visible rest)
  | .special, cs =>
    let (host, rest) ← readAuthority .special (cs.dropWhile SchemeKind.special.isSlash)
    let (path, rest) := splitPath rest
    return (host, pathAfterHost .special path, rest)
  | .ordinary, '/' :: '/' :: rest =>
    let (host, rest) ← readAuthority .ordinary rest
    let (path, rest) := splitPath rest
    return (host, pathAfterHost .ordinary path, rest)
  | .ordinary, '/' :: rest =>
    let (path, rest) := splitPath rest
    return (none, pathText .ordinary path, rest)
  | .ordinary, cs =>
    let (path, rest) := splitPath cs
    return (none, percentEncode [] path, rest)

/-- The URL that a text is. -/
def parse (s : String) : Except Fault Url := do
  let (scheme, rest) ← readScheme (trimmed s.toList)
  let kind := SchemeKind.of scheme
  let (host, path, rest) ← readHostAndPath kind rest
  return { scheme, host, path := String.ofList path, query := readQuery kind rest }

end StoreGraph.Url
