import ChainRpc.Address.Host

/-!
# Addresses

The address of a node names a scheme, credentials at times, a host, a port unless it is the one
that the scheme stands for, a path, and at times a query and a fragment. All parts are kept as
they are printed: in lowercase where case does not count, and escaped.
-/

namespace ChainRpc

/-- The address of a node. -/
structure Address where
  scheme : String
  /-- A user, or a user and a password with a colon between. -/
  credentials : String := ""
  host : Address.Host
  port : Option Nat := none
  /-- The segments of the path; there is at least one. -/
  path : List String
  query : Option String := none
  fragment : Option String := none
  deriving DecidableEq, Repr

namespace Address

/-- The port that a scheme with a host stands for. -/
def defaultPort? : String → Option Nat
  | "ws" | "http" => some 80
  | "wss" | "https" => some 443
  | "ftp" => some 21
  | _ => none

/-- The schemes of nodes. -/
def isNodeScheme (scheme : String) : Bool := scheme == "ws" || scheme == "wss"

/-- The text of an address. -/
def text (address : Address) : String :=
  address.scheme ++ "://"
    ++ (if address.credentials.isEmpty then "" else address.credentials ++ "@")
    ++ String.ofList address.host.text
    ++ (match address.port with
        | some port => ":" ++ toString port
        | none => "")
    ++ "/" ++ "/".intercalate address.path
    ++ (match address.query with
        | some query => "?" ++ query
        | none => "")
    ++ (match address.fragment with
        | some fragment => "#" ++ fragment
        | none => "")

end Address

end ChainRpc
