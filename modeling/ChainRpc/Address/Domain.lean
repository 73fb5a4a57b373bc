import ChainRpc.Address.Domain.Composition
import ChainRpc.Address.Domain.Direction
import ChainRpc.Address.Domain.Joiner
import ChainRpc.Address.Domain.Mapping
import ChainRpc.Address.Fault
import ChainRpc.Address.Punycode
import ChainRpc.Text.Parts
import ChainRpc.Text.Utf8

/-!
# Domains

A domain is a name of labels between full stops. It is kept in ASCII and in lowercase; a label
with other characters is written in Punycode. Of all spellings of a name one counts: its
characters are replaced and composed before it falls into labels. A label in Punycode has to stand
for a label that counts already.
-/

namespace ChainRpc.Address.Domain

open Text (splitAt join)

/-- Characters of ASCII that stand in no name. -/
def isForbidden (c : Char) : Bool := c.toNat ≤ 0x20 || "%#/:<>?@[\\]^|\x7f".contains c

/-- What announces a label in Punycode. -/
def mark : List Char := "xn--".toList

/-- How many characters a label in Punycode may have behind its announcement. -/
def encodedLimit : Nat := 2000

/-- How many characters a label may have that is to be written in Punycode. -/
def labelLimit : Nat := 1000

/-- The label that an encoded label stands for. It has characters outside ASCII, and it
is replaced and composed. -/
def decode? (encoded : List Char) : Option (List Char) :=
  if encodedLimit < encoded.length then none
  else
    (Punycode.decode? encoded).filter fun label =>
      !label.all Punycode.isAscii && !label.contains '.' && label.all Mapping.isPlain
        && Composition.compose label = label

/-- The characters of a label. -/
def read? (label : List Char) : Option (List Char) :=
  if mark.isPrefixOf label then decode? (label.drop mark.length) else some label

/-- The label may stand in a name. -/
def isValid (label : List Char) : Bool :=
  !label.any isForbidden
    && !(label.take 1).any (fun c => Text.Mark.isMark c.toNat)
    && Joiner.areAllowed [] label
    && (label.all Punycode.isAscii || label.length ≤ labelLimit)

/-- The text of a label in ASCII. -/
def write (label : List Char) : List Char :=
  if label.all Punycode.isAscii then label else mark ++ Punycode.encode label

/-- The labels of a name, unless it is no name. -/
def labels? (name : List Char) : Option (List (List Char)) := do
  let replaced ← Mapping.replaceAll? name
  let labels ← (splitAt '.' (Composition.compose replaced)).mapM read?
  if labels.all isValid && Direction.isSafe labels then some labels else none

/-- The domain that bytes name, in ASCII. -/
def ofBytes (bytes : List UInt8) : Except Fault (List Char) :=
  match Text.Utf8.decode bytes with
  | .error _ => .error .internationalName
  | .ok name =>
      match labels? name.toList with
      | some labels => .ok (join ['.'] (labels.map write))
      | none => .error .internationalName

end ChainRpc.Address.Domain
