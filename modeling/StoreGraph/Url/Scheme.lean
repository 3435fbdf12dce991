import StoreGraph.Text.Digit
import StoreGraph.Url

/-! # Schemes

Some schemes are special: their URLs always have a host, backslashes count as slashes in them, and
host names are normalised. The scheme `file` is special in ways of its own.
-/

namespace StoreGraph.Url

/-- The families of schemes. -/
inductive SchemeKind where
  | file
  | special
  | ordinary
  deriving Repr, DecidableEq

namespace SchemeKind

def of : String → SchemeKind
  | "file" => file
  | "http" | "https" | "ws" | "wss" | "ftp" => special
  | _ => ordinary

/-- Is this a slash, for schemes of the family? -/
def isSlash (kind : SchemeKind) (c : Char) : Bool := c == '/' || (kind != ordinary && c == '\\')

/-- Does this character end the part of a URL that names the host? -/
def endsAuthority (kind : SchemeKind) (c : Char) : Bool := kind.isSlash c || c == '?' || c == '#'

end SchemeKind

/-- Is this a control or a blank? Around a URL these are ignored. -/
def isOuterBlank (c : Char) : Bool := decide (c.toNat ≤ 0x20)

/-- A text without the controls and blanks around it. -/
def trimmed (cs : List Char) : List Char :=
  ((cs.dropWhile isOuterBlank).reverse.dropWhile isOuterBlank).reverse

/-- Is this a tab or a line end? These are ignored anywhere in a URL. -/
def isIgnored (c : Char) : Bool := c == '\t' || c == '\n' || c == '\r'

/-- A text without what is ignored in it. -/
def visible (cs : List Char) : List Char := cs.filter (!isIgnored ·)

def isLetter (c : Char) : Bool := ('a' ≤ c && c ≤ 'z') || ('A' ≤ c && c ≤ 'Z')

/-- Is this a character that a scheme may hold behind its first letter? -/
def isSchemeChar (c : Char) : Bool :=
  isLetter c || Text.isDecimal c || c == '+' || c == '-' || c == '.'

/-- The scheme in lower case, and what follows the colon behind it. -/
def readScheme (cs : List Char) : Except Fault (String × List Char) :=
  let name := visible (cs.takeWhile (· != ':'))
  match cs.dropWhile (· != ':') with
  | _ :: rest =>
    if name.head?.any isLetter && name.all isSchemeChar then
      .ok (String.ofList (name.map Char.toLower), rest)
    else .error .noScheme
  | [] => .error .noScheme

end StoreGraph.Url
