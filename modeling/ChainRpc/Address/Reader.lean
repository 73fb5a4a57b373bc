import ChainRpc.Address.Basic

/-!
# Reading addresses

Blanks around an address and line breaks within it do not count. An address starts with a
scheme. Behind a scheme that stands for a port come slashes of either kind, at times none,
then credentials up to the last at sign, the host and the port. The segments `.` and `..` of the
path are resolved.

Of an address with another scheme only the host and the port are checked: such an
address is never that of a node.
-/

namespace ChainRpc.Address

open Text (splitAt)

/-- What a text names. -/
inductive Reading where
  /-- An address whose scheme stands for a port. -/
  | network (address : Address)
  /-- An address of another scheme. -/
  | other (scheme : String)
  deriving DecidableEq, Repr

/-- The scheme of what was read. -/
def Reading.scheme : Reading → String
  | network address => address.scheme
  | other scheme => scheme

/-- Characters that do not count around an address. -/
def isBlank (c : Char) : Bool := c.toNat ≤ 0x20

/-- Characters that do not count within an address. -/
def isBreak (c : Char) : Bool := c = '\t' || c = '\n' || c = '\r'

/-- The characters that count. -/
def clean (text : String) : List Char :=
  let front := text.toList.dropWhile isBlank
  (front.reverse.dropWhile isBlank).reverse.filter fun c => !isBreak c

/-- Whether a scheme may go on with the character. -/
def inScheme (c : Char) : Bool := c.isAlphanum || c = '+' || c = '-' || c = '.'

/-- The scheme of an address in lowercase, and what follows its colon. -/
def scheme? (chars : List Char) : Option (String × List Char) :=
  match chars.takeWhile inScheme, chars.dropWhile inScheme with
  | first :: name, ':' :: rest =>
      if first.isAlpha then some (String.ofList ((first :: name).map Char.toLower), rest) else none
  | _, _ => none

/-- Whether the host of an address ends before the character. Behind a scheme that stands for a
port, slashes of both kinds end it. -/
def endsHost (network : Bool) (c : Char) : Bool :=
  c = '/' || c = '?' || c = '#' || network && c = '\\'

/-- The credentials of an address, if there are any, and what follows their at sign. -/
def splitCredentials (authority : List Char) : Option (List Char) × List Char :=
  if authority.contains '@' then
    let backwards := authority.reverse
    (some ((backwards.dropWhile (· ≠ '@')).drop 1).reverse,
      (backwards.takeWhile (· ≠ '@')).reverse)
  else (none, authority)

/-- Credentials as they are printed: the user, and the password unless it is empty. -/
def credentialText (credentials : List Char) : List Char :=
  let user := credentials.takeWhile (· ≠ ':')
  let password := (credentials.dropWhile (· ≠ ':')).drop 1
  Escape.encode Escape.inCredentials user
    ++ (if password.isEmpty then [] else ':' :: Escape.encode Escape.inCredentials password)

/-- The host of an address and what follows it; colons between brackets belong to the
host. -/
def splitHost : (bracketed : Bool) → List Char → List Char × List Char
  | _, [] => ([], [])
  | bracketed, c :: rest =>
      if c = ':' && !bracketed then ([], c :: rest)
      else
        let bracketed := if c = '[' then true else if c = ']' then false else bracketed
        let (host, rest) := splitHost bracketed rest
        (c :: host, rest)

/-- The port behind a host: digits behind a colon, or nothing. -/
def readPort (rest : List Char) : Except Fault (Option Nat) :=
  match rest with
  | ':' :: digits =>
      if digits.isEmpty then .ok none
      else
        match if digits.all Char.isDigit then Host.numeral? 10 digits else none with
        | some n => if n < 2 ^ 16 then .ok (some n) else .error .port
        | none => .error .port
  | _ => .ok none

/-- Whether a segment stands for the place where it is. -/
def isHere (segment : List Char) : Bool :=
  [".", "%2e"].contains (String.ofList (segment.map Char.toLower))

/-- Whether a segment stands for the place above. -/
def isAbove (segment : List Char) : Bool :=
  ["..", ".%2e", "%2e.", "%2e%2e"].contains (String.ofList (segment.map Char.toLower))

/-- Whether a text is a letter and a colon or a bar, which names a drive. -/
def isDrive : List Char → Bool
  | [letter, mark] => letter.isAlpha && (mark = ':' || mark = '|')
  | _ => false

/-- The segments of the place above, in reverse order. There is no way up from a drive. -/
def above (before : List (List Char)) : List (List Char) :=
  if (before.take 1).any isDrive then before else before.drop 1

/-- The segments of a path, given those before in reverse order. At the end of a path, a segment
that only names a place leaves an empty one. -/
def resolve : (before : List (List Char)) → (segments : List (List Char)) → List (List Char)
  | before, [] => before.reverse
  | before, segment :: rest =>
      let place :=
        if isAbove segment then some (above before)
        else if isHere segment then some before
        else none
      match place with
      | some place => resolve (if rest.isEmpty then [] :: place else place) rest
      | none => resolve (Escape.encode Escape.inPath segment :: before) rest

/-- The segments of the path of an address whose scheme stands for a port. -/
def readPath (chars : List Char) : List String :=
  let slashed := chars.map fun c => if c = '\\' then '/' else c
  let inner := match slashed with
    | '/' :: rest => rest
    | _ => slashed
  (resolve [] (splitAt '/' inner)).map String.ofList

/-- Reads an address from the end of its scheme on. -/
def network (scheme : String) (defaultPort : Nat) (rest : List Char) : Except Fault Address := do
  let authority := rest.takeWhile fun c => !endsHost true c
  let rest := rest.dropWhile fun c => !endsHost true c
  let (credentials, place) := splitCredentials authority
  let (host, portText) := splitHost false place
  if host.isEmpty then throw .emptyHost
  let host ← Host.read host
  let port ← readPort portText
  let front := rest.takeWhile (· ≠ '#')
  let pathText := front.takeWhile (· ≠ '?')
  let query := (front.dropWhile (· ≠ '?')).drop 1
  let fragment := (rest.dropWhile (· ≠ '#')).drop 1
  pure {
    scheme
    credentials := String.ofList (credentialText (credentials.getD []))
    host
    port := if port = some defaultPort then none else port
    path := readPath pathText
    query :=
      if front.contains '?' then some (String.ofList (Escape.encode Escape.inQuery query)) else none
    fragment :=
      if rest.contains '#' then some (String.ofList (Escape.encode Escape.inFragment fragment))
      else none }

/-- Checks the host and the port of an address of an unknown scheme. -/
def checkOther (rest : List Char) : Except Fault Unit :=
  match rest with
  | '/' :: '/' :: rest => do
      let authority := rest.takeWhile fun c => !endsHost false c
      let (credentials, place) := splitCredentials authority
      if authority = ['@'] && authority.length < rest.length then throw .emptyHost
      let (host, portText) := splitHost false place
      Host.check host
      if host.isEmpty && (!portText.isEmpty || !(credentialText (credentials.getD [])).isEmpty) then
        throw .emptyHost
      discard (readPort (portText.takeWhile (· ≠ '\\')))
  | _ => .ok ()

/-- Checks the host of an address of a file. -/
def checkFile (rest : List Char) : Except Fault Unit :=
  match rest with
  | first :: second :: rest =>
      if (first = '/' || first = '\\') && (second = '/' || second = '\\') then
        let host := rest.takeWhile fun c => !endsHost true c
        if host.isEmpty || isDrive host then .ok () else discard (Host.read host)
      else .ok ()
  | _ => .ok ()

/-- Reads what a text names. -/
def read (text : String) : Except Fault Reading :=
  match scheme? (clean text) with
  | none => .error .relative
  | some (scheme, rest) =>
      match defaultPort? scheme with
      | some port =>
          (network scheme port (rest.dropWhile fun c => c = '/' || c = '\\')).map .network
      | none => do
          if scheme = "file" then checkFile rest else checkOther rest
          pure (.other scheme)

end ChainRpc.Address
