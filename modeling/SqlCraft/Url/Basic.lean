/-
**URLs.**

A URL is a scheme and, behind a colon, what it locates: for most schemes a host and a path, behind
them perhaps a query after a question mark and a remark after a number sign. In front of the host may
stand a user and a password, and behind it the number of a service.

* `Url.parse?` — the parts of a URL, or none if the text is no URL.

Parts are left as they are written, with their percent escapes. Only the segments of the path that
lead elsewhere are worked off.
-/

import SqlCraft.Url.Host
import SqlCraft.Url.Path

namespace SqlCraft

/-- The parts of a URL. -/
structure Url where
  scheme : String
  user : List Char
  password : List Char
  host : List Char
  portNumber : Option Nat
  path : List (List Char)
  query : List Char
deriving DecidableEq, Repr

namespace Url

open Text (breakAt splitAll splitLast)

/-! ### Schemes -/

/-- How the URLs of a scheme are written. -/
inductive Form where
  /-- Of files: the host is a domain and may be missing. -/
  | file
  /-- Of network services: the host is a domain. -/
  | network
  /-- Of all other things: the host is a plain name, if there is one. -/
  | plain
deriving DecidableEq, Repr

/-- The form of the URLs of a scheme, which is in small letters. -/
def Form.ofScheme (scheme : String) : Form :=
  if scheme = "file" then .file
  else if ["http", "https", "ws", "wss", "ftp"].contains scheme then .network
  else .plain

/-- Whether a character separates segments. -/
def Form.isSlash (form : Form) (c : Char) : Bool :=
  c = '/' || (form ≠ .plain && c = '\\')

/-- The scheme, in small letters, and the text behind its colon. -/
def splitScheme? (text : List Char) : Option (String × List Char) :=
  let (name, behind) := breakAt (fun c => !(c.isAlphanum || c = '+' || c = '-' || c = '.')) text
  match name, behind with
  | first :: _, ':' :: rest =>
    if first.isAlpha then some (String.ofList (name.map Char.toLower), rest) else none
  | _, _ => none

/-! ### Hosts -/

/-- What stands between the two slashes and the path. -/
structure Authority where
  user : List Char
  password : List Char
  host : List Char
  portNumber : Option Nat
deriving DecidableEq, Repr

/-- No user, host or number. -/
def Authority.empty : Authority := ⟨[], [], [], none⟩

/-- The text up to a colon that stands outside of square brackets, and the text from it on. -/
def splitHost (isInside : Bool) : List Char → List Char × List Char
  | [] => ([], [])
  | c :: rest =>
    if c = ':' && !isInside then ([], c :: rest)
    else
      let (host, behind) := splitHost (c = '[' || (isInside && c != ']')) rest
      (c :: host, behind)

/-- A colon and a number of 16 bits, which may be missing, and the text behind them. -/
def splitNumber? (text : List Char) : Option (Option Nat × List Char) :=
  match text with
  | [] => some (none, [])
  | _ :: text =>
    let (digits, rest) := breakAt (· = '\\') text
    if digits.isEmpty then some (none, rest)
    else (Numeric.inBase? 10 digits).bind fun number =>
      if number < UInt16.size then some (some number, rest) else none

/-- Whether a host may stand behind the given credentials. A number needs a host, and so do
credentials that name a user or a password; a lone `@` needs one if the URL goes on behind it. -/
def allowsHost (form : Form) (credentials : Option (List Char)) (host number : List Char)
    (isLast : Bool) : Bool :=
  if host.isEmpty then
    form = .plain && number.isEmpty &&
      match credentials with
      | none => true
      | some [] => isLast
      | some credentials => credentials = [':']
  else if form = .plain then Host.isPlainName host
  else Host.isDomain host

/-- The authority in the text before the first slash, and the text between the number and that
slash. -/
def readAuthority? (form : Form) (isLast : Bool) (text : List Char) :
    Option (Authority × List Char) := do
  let (credentials, place) := match splitLast '@' text with
    | some (credentials, place) => (some credentials, place)
    | none => (none, text)
  let (user, password) := breakAt (· = ':') (credentials.getD [])
  let (host, number) := splitHost false place
  let (portNumber, rest) ← splitNumber? number
  if allowsHost form credentials host number isLast then
    return (⟨user, password.drop 1, host, portNumber⟩, rest)
  else none

/-! ### Paths -/

/-- The segments of a path that remain. -/
def readPath (form : Form) (text : List Char) : List (List Char) :=
  Path.resolved <| splitAll form.isSlash <|
    match text with
    | [] => []
    | c :: rest => if form.isSlash c then rest else c :: rest

/-- The host and path of a network service, or of another thing that has a host. -/
def readPlace? (form : Form) (isLast : Bool) (text : List Char) :
    Option (Authority × List (List Char)) := do
  let (front, path) := breakAt form.isSlash text
  let (authority, rest) ← readAuthority? form (isLast && path.isEmpty) front
  return (authority, readPath form (rest ++ path))

/-- The host and path of a file. The letter of a drive is no host. -/
def readFilePlace? (text : List Char) : Option (Authority × List (List Char)) :=
  match text with
  | a :: b :: rest =>
    if Form.file.isSlash a && Form.file.isSlash b then
      let (host, path) := breakAt Form.file.isSlash rest
      if host.isEmpty || Path.isDrive host then some (.empty, readPath .file rest)
      else if Host.isDomain host then some ({ Authority.empty with host }, readPath .file path)
      else none
    else some (.empty, readPath .file text)
  | text => some (.empty, readPath .file text)

/-- The host and path that a text locates. Without a slash in front there is no host, and the text
is not split. -/
def locate? (form : Form) (isLast : Bool) (text : List Char) :
    Option (Authority × List (List Char)) :=
  match form with
  | .file => readFilePlace? text
  | .network => readPlace? .network isLast (text.dropWhile Form.network.isSlash)
  | .plain =>
    match text with
    | '/' :: '/' :: text => readPlace? .plain isLast text
    | '/' :: text => some (.empty, readPath .plain text)
    | text => some (.empty, [text])

/-! ### Whole texts -/

/-- The text without control characters and blanks around it, and without tabs and line ends. -/
def cleaned (text : List Char) : List Char :=
  let isBlank (c : Char) : Bool := c.toNat ≤ 0x20
  let trimmed := ((text.dropWhile isBlank).reverse.dropWhile isBlank).reverse
  trimmed.filter fun c => !(c = '\t' || c = '\n' || c = '\r')

/-- The parts of a URL. -/
def parse? (text : String) : Option Url := do
  let (scheme, rest) ← splitScheme? (cleaned text.toList)
  let (place, behind) := breakAt (fun c => c = '?' || c = '#') rest
  let ({ user, password, host, portNumber }, path) ←
    locate? (Form.ofScheme scheme) behind.isEmpty place
  let query := match behind with
    | '?' :: query => query.takeWhile (· ≠ '#')
    | _ => []
  return { scheme, user, password, host, portNumber, path, query }

end Url

end SqlCraft
