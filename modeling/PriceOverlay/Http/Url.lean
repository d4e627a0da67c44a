import PriceOverlay.Http.Address
import PriceOverlay.Http.Domain.Name
import PriceOverlay.Text.Utf8
/-!
# URLs

A URL is read as browsers read it: blanks at the ends and line breaks inside are dropped,
the well-known schemes take backslashes for slashes and need a host, and dot segments of
the path are resolved. A URL without a host whose path does not start with a slash has no
hierarchy, and nothing can be resolved against it.
-/
namespace PriceOverlay.Http

structure Url where
  scheme : String
  /-- The path, encoded; none for a URL without hierarchy. -/
  path : Option (List Char)
  deriving DecidableEq, Repr

namespace Url

def isAlpha (c : Char) : Bool := decide (('a' ≤ c ∧ c ≤ 'z') ∨ ('A' ≤ c ∧ c ≤ 'Z'))

/-- The schemes that have a host. -/
def isSpecial (scheme : String) : Bool :=
  ["http", "https", "ws", "wss", "ftp", "file"].contains scheme

/-- The text that counts: without controls and spaces at the ends, and without tabs and
line breaks. -/
def clean (cs : List Char) : List Char :=
  let edge (c : Char) : Bool := decide (c.toNat ≤ 0x20)
  ((cs.dropWhile edge).reverse.dropWhile edge).reverse.filter
    fun c => c != '\t' && c != '\n' && c != '\r'

/-- The scheme in lower case, and what follows its colon. -/
def scheme? (cs : List Char) : Option (String × List Char) :=
  let name := cs.takeWhile fun c =>
    isAlpha c || Decimal.isDigit c || c == '+' || c == '-' || c == '.'
  match cs.head?.map isAlpha, cs.drop name.length with
  | some true, ':' :: r => some (String.ofList (name.map Char.toLower), r)
  | _, _ => none

/-! ## Percent encoding -/

/-- The bytes of a character in UTF-8, each after a percent sign. -/
def encoded (c : Char) : List Char :=
  (String.utf8EncodeChar c).flatMap fun b =>
    ['%', (Nat.digitChar (b.toNat / 16)).toUpper, (Nat.digitChar (b.toNat % 16)).toUpper]

/-- The characters that a path may not hold as they are. -/
def needsEncoding (c : Char) : Bool :=
  decide (c.toNat ≤ 0x20 ∨ 0x7E < c.toNat) ||
    ['"', '#', '<', '>', '?', '\x60', '\x7b', '\x7d'].contains c

def encodePath (cs : List Char) : List Char :=
  cs.flatMap fun c => if needsEncoding c then encoded c else [c]

/-! ## Hosts -/

/-- The characters that no host may hold. -/
def forbiddenInHost (c : Char) : Bool :=
  ['\x00', '\t', '\n', '\r', ' ', '#', '/', ':', '<', '>', '?', '@', '[', '\\', ']', '^',
    '|'].contains c

/-- The characters that the name of a host may not hold. -/
def forbiddenInDomain (c : Char) : Bool :=
  forbiddenInHost c || decide (c.toNat ≤ 0x1F) || c == '%' || c == '\x7f'

/-- Whether a text is a host. The well-known schemes have names or addresses, in which percent
signs stand for bytes. -/
def isHost (special : Bool) (cs : List Char) : Bool :=
  match cs with
  | '[' :: r => r.getLast? == some ']' && IPv6.isAddress r.dropLast
  | cs =>
    if special then
      match Domain.name? (Text.Utf8.decode (Text.Utf8.unescape cs)) with
      | some name =>
        !name.isEmpty && !name.any forbiddenInDomain &&
          (!IPv4.isNumeric name || (IPv4.parse? name).isSome)
      | none => false
    else !cs.any forbiddenInHost

/-- Whether a text is a port: nothing, or a number of 16 bits. -/
def isPort (cs : List Char) : Bool :=
  cs.isEmpty || match Decimal.natural? cs with
    | some n => decide (n < 65536)
    | none => false

/-- The host and what follows it; a colon in brackets belongs to the host. -/
def splitHost (cs : List Char) : List Char × List Char :=
  match cs with
  | '[' :: _ =>
    let inside := cs.takeWhile (· != ']')
    let rest := cs.drop inside.length
    let tail := rest.drop 1
    (inside ++ rest.take 1 ++ tail.takeWhile (· != ':'), tail.dropWhile (· != ':'))
  | cs => (cs.takeWhile (· != ':'), cs.dropWhile (· != ':'))

/-- Whether a text is an authority: a host, with an optional user before and an optional
port after it. -/
def isAuthority (special : Bool) (cs : List Char) : Bool :=
  let hostPort := (cs.reverse.takeWhile (· != '@')).reverse
  let hasUser := decide (hostPort.length < cs.length)
  let (host, rest) := splitHost hostPort
  match rest with
  | ':' :: port => !host.isEmpty && isHost special host && isPort port
  | _ => if host.isEmpty then !special && !hasUser else isHost special host

/-! ## Paths -/

/-- Whether a segment stands for the directory itself. -/
def isDot (cs : List Char) : Bool :=
  [".", "%2e"].contains (String.ofList (cs.map Char.toLower))

/-- Whether a segment stands for the directory above. -/
def isDotDot (cs : List Char) : Bool :=
  ["..", ".%2e", "%2e.", "%2e%2e"].contains (String.ofList (cs.map Char.toLower))

/-- Resolves the segments of a path, the first of which follows the first slash. -/
def resolve : List (List Char) → List (List Char) → List (List Char)
  | done, [] => done
  | done, [s] =>
    if isDotDot s then done.dropLast ++ [[]]
    else if isDot s then done ++ [[]]
    else done ++ [s]
  | done, s :: r =>
    if isDotDot s then resolve done.dropLast r
    else if isDot s then resolve done r
    else resolve (done ++ [s]) r

/-- The path that a text starting with a slash, or nothing, stands for. -/
def resolvedPath (special : Bool) (cs : List Char) : List Char :=
  let cs := if special then cs.map fun c => if c == '\\' then '/' else c else cs
  let cs := match cs with
    | '/' :: r => r
    | r => r
  (resolve [] ((encodePath cs).splitOn '/')).flatMap fun s => '/' :: s

/-- The name of a drive that a file's path starts with, with what follows it. -/
def drive? (cs : List Char) : Option (Char × List Char) :=
  match cs.head?.map isAlpha, cs with
  | some true, a :: b :: r =>
    let isEnd := match r.head? with
      | some c => c == '/' || c == '\\'
      | none => true
    if (b == ':' || b == '|') && isEnd then some (a, r) else none
  | _, _ => none

/-- The path of a file; no segment stands for the directory above a drive. -/
def filePath (cs : List Char) : List Char :=
  let segments := match cs with
    | '/' :: r | '\\' :: r => r
    | r => r
  match drive? segments with
  | some (name, r) => '/' :: name :: ':' :: (if r.isEmpty then [] else resolvedPath true r)
  | none => resolvedPath true cs

/-- Reads a URL. -/
def parse? (text : String) : Option Url := do
  let (scheme, rest) ← scheme? (clean text.toList)
  let special := isSpecial scheme
  let isSlash (c : Char) : Bool := c == '/' || (special && c == '\\')
  let beforeQuery (cs : List Char) : List Char := cs.takeWhile fun c => c != '?' && c != '#'
  let rest := beforeQuery rest
  if scheme = "file" then
    match rest with
    | a :: b :: r =>
      if isSlash a && isSlash b then
        let host := if (drive? r).isSome then [] else r.takeWhile (!isSlash ·)
        if host.isEmpty || isHost true host then
          some ⟨scheme, some (filePath (r.drop host.length))⟩
        else none
      else some ⟨scheme, some (filePath rest)⟩
    | _ => some ⟨scheme, some (filePath rest)⟩
  else if special then
    let r := rest.dropWhile isSlash
    let authority := r.takeWhile (!isSlash ·)
    if isAuthority true authority then
      some ⟨scheme, some (resolvedPath true (r.drop authority.length))⟩
    else none
  else
    match rest with
    | '/' :: '/' :: r =>
      let authority := r.takeWhile (!isSlash ·)
      let p := r.drop authority.length
      if isAuthority false authority then
        some ⟨scheme, some (if p.isEmpty then [] else resolvedPath false p)⟩
      else none
    | '/' :: _ => some ⟨scheme, some (resolvedPath false rest)⟩
    | _ => some ⟨scheme, none⟩

/-- The path of a resource below a URL; none without hierarchy. -/
def below? (u : Url) (resource : String) : Option String :=
  u.path.map fun p =>
    String.ofList (p ++ (if p.getLast? = some '/' then [] else ['/']) ++ resource.toList)

end Url
end PriceOverlay.Http
