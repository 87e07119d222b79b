import Tillbook.WebAddress.Host

/-!
# Web addresses

An address is a scheme and, for the schemes of the web, a host with an optional
port.  The check follows the parts in their order and names the first that is
wrong.

## Main definitions

* `WebAddress.authorityFault?` — the first fault of what follows the two slashes.
* `WebAddress.scheme?` — the scheme of an address, or its first fault.
-/

namespace Tillbook.WebAddress

/-- Controls and the blank, which are dropped at both ends. -/
def isEdge (c : Char) : Bool := c.toNat ≤ 32

/-- Tabs and line ends, which are dropped everywhere. -/
def isIgnored (c : Char) : Bool := c == '\t' || c == '\n' || c == '\r'

/-- An address without the characters that do not count. -/
def clean (cs : List Char) : List Char :=
  let cs := cs.dropWhile isEdge
  (cs.reverse.dropWhile isEdge).reverse.filter fun c => !isIgnored c

/-- The characters of a scheme after its first letter. -/
def isSchemeChar (c : Char) : Bool := c.isAlphanum || c == '+' || c == '-' || c == '.'

/-- The scheme in small letters, and what follows its colon. -/
def splitScheme (cs : List Char) : Option (String × List Char) :=
  match cs with
  | c :: _ =>
    match cs.dropWhile isSchemeChar with
    | ':' :: rest =>
      if c.isAlpha then some (String.ofList ((cs.takeWhile isSchemeChar).map Char.toLower), rest)
      else none
    | _ => none
  | [] => none

/-- The schemes whose addresses always have a host. -/
def hostSchemes : List String := ["http", "https", "ws", "wss", "ftp"]

/-- The end of the part that names the host; a backslash counts in the schemes of
the web. -/
def endsAuthority (special : Bool) (c : Char) : Bool :=
  c == '/' || c == '?' || c == '#' || (special && c == '\\')

/-- The host at the front of a text: a colon ends it, except between brackets. -/
def splitHost (special : Bool) (cs : List Char) : List Char × List Char :=
  go false cs
where
  /-- The rest of the host, after the brackets are open or closed. -/
  go (inside : Bool) : List Char → List Char × List Char
    | [] => ([], [])
    | c :: r =>
      if endsAuthority special c || (c == ':' && !inside) then ([], c :: r)
      else
        let (host, rest) := go (if c == '[' then true else if c == ']' then false else inside) r
        (c :: host, rest)

/-- The first fault of a port, after its colon. -/
def portFault? (cs : List Char) : Option Fault :=
  let digits := cs.takeWhile Char.isDigit
  let goesOn : Bool := match cs.dropWhile Char.isDigit with
    | [] => false
    | c :: _ => !endsAuthority true c
  if 65535 < Text.value digits ∨ goesOn then some .badPort else none

/-- The user before the last `@` of the authority, if there is one, and the text
after it. -/
def splitUser (special : Bool) (cs : List Char) : Option (List Char) × List Char :=
  let authority := cs.takeWhile fun c => !endsAuthority special c
  let host := (authority.reverse.takeWhile (· != '@')).reverse
  if host.length = authority.length then (none, cs)
  else (some (authority.take (authority.length - host.length - 1)),
    host ++ cs.drop authority.length)

/-- The first fault of what follows the two slashes.  A user, a name or a password,
needs a host. -/
def authorityFault? (special : Bool) (cs : List Char) : Option Fault :=
  let (user, cs) := splitUser special cs
  let (host, rest) := splitHost special cs
  if user = some [] ∧ cs.head?.any (endsAuthority special) then some .emptyHost
  else
    match if special then hostFault? host else opaqueHostFault? host with
    | some fault => some fault
    | none =>
      if !host.isEmpty then
        match rest with
        | ':' :: port => portFault? port
        | _ => none
      else if rest.head? = some ':' ∨ user.any (fun u => !u.isEmpty && u != [':']) then
        some .emptyHost
      else none

/-- The name of a drive, which stands where the host of a file would. -/
def isDrive : List Char → Bool
  | [c, d] => c.isAlpha && (d == ':' || d == '|')
  | _ => false

/-- The first fault of an address of a file; it may have no host. -/
def fileFault? : List Char → Option Fault
  | a :: b :: rest =>
    if (a == '/' || a == '\\') && (b == '/' || b == '\\') then
      let host := rest.takeWhile fun c => !endsAuthority true c
      if host.isEmpty || isDrive host then none else hostFault? host
    else none
  | _ => none

/-- The scheme of an address, or its first fault. -/
def scheme? (s : String) : Except Fault String :=
  match splitScheme (clean s.toList) with
  | none => .error .noScheme
  | some (scheme, rest) =>
    let fault :=
      if hostSchemes.contains scheme then
        authorityFault? true (rest.dropWhile fun c => c == '/' || c == '\\')
      else if scheme == "file" then fileFault? rest
      else
        match rest with
        | '/' :: '/' :: r => authorityFault? false r
        | _ => none
    match fault with
    | some fault => .error fault
    | none => .ok scheme

end Tillbook.WebAddress
