/-
# Addresses

The address of a request: a scheme, a host with a port and perhaps a user, a path, and perhaps a
query and a fragment. An address is read from a text or put together from parts; either way each
part is brought into its one form: scheme and host in lower case, the usual port of a scheme left
out, characters that may not stand there written as bytes, and segments of one or two dots
resolved. Scheme and host may be missing.
-/

import FlowGraph.Address.Host
import FlowGraph.Decimal.Notation
import FlowGraph.Decimal.Reading

namespace FlowGraph

/-- An address in its parts. A path, a query or a fragment can be present and empty. -/
structure Address where
  scheme : List Char := []
  user : List Char := []
  host : List Char := []
  port : Option Int := none
  path : List Char := []
  query : Option (List Char) := none
  fragment : Option (List Char) := none
  deriving DecidableEq, Repr

namespace Address

/-- The text holds a character that no address may hold. -/
def hasControl (cs : List Char) : Bool := cs.any fun c => c.toNat < 0x20 || c.toNat = 0x7F

/-- No address, and no part of one, is longer. -/
def maxLength : Nat := 65536

/-- Splits a text at the first separator; without one there is no second part. -/
def splitFirst (separator : Char) (cs : List Char) : List Char × Option (List Char) :=
  (cs.takeWhile (· ≠ separator), (cs.dropWhile (· ≠ separator)).tail?)

/-- An address as it is written, cut into parts but not yet read. -/
structure Parts where
  scheme : List Char := []
  authority : List Char := []
  path : List Char := []
  query : Option (List Char) := none
  fragment : Option (List Char) := none

/-- The character may stand in a scheme behind its first letter. -/
def inScheme (c : Char) : Bool := c.isAlphanum || c = '+' || c = '.' || c = '-'

/-- Splits off a scheme with its colon. A colon without a name in front of it is passed over. -/
def splitScheme (cs : List Char) : List Char × List Char :=
  let name := cs.takeWhile inScheme
  match cs.dropWhile inScheme with
  | ':' :: rest => if (name.head?.map Char.isAlpha).getD true then (name, rest) else ([], cs)
  | _ => ([], cs)

/-- Splits off what follows two slashes, up to the next one. -/
def splitAuthority : List Char → List Char × List Char
  | '/' :: '/' :: cs => (cs.takeWhile (· ≠ '/'), cs.dropWhile (· ≠ '/'))
  | cs => ([], cs)

/-- The parts of an address. -/
def Parts.ofChars (cs : List Char) : Parts :=
  let (sent, fragment) := splitFirst '#' cs
  let (front, query) := splitFirst '?' sent
  let (scheme, rest) := splitScheme front
  let (authority, path) := splitAuthority rest
  { scheme, authority, path, query, fragment }

/-- Splits a user from a host, at the last sign between them. -/
def splitUser (cs : List Char) : List Char × List Char :=
  let host := (cs.reverse.takeWhile (· ≠ '@')).reverse
  (cs.take (cs.length - host.length - 1), host)

/-- Splits a host from a port. Colons in brackets belong to the host. -/
def splitPort (cs : List Char) : List Char × List Char :=
  let bracketed := (cs.reverse.dropWhile (· ≠ ']')).reverse
  let host :=
    if cs.head? = some '[' && bracketed ≠ [] then bracketed else cs.takeWhile (· ≠ ':')
  match cs.drop host.length with
  | ':' :: port => (host, port)
  | port => (host, port)

/-- The port that a scheme uses unless another one is named. -/
def usualPort? (scheme : List Char) : Option Int :=
  match String.ofList scheme with
  | "ftp" => some 21
  | "http" => some 80
  | "https" => some 443
  | "ws" => some 80
  | "wss" => some 443
  | _ => none

/-- The port, unless it is the usual one; nothing at all if it is no number. -/
def readPort? (scheme cs : List Char) : Option (Option Int) :=
  if cs = [] then some none
  else
    (Decimal.readInt? (String.ofList cs)).map fun port =>
      if usualPort? scheme = some port then none else some port

/-- The characters that may not stand in a query. -/
def queryUnsafe : List Char := ['"', '#', '<', '>']

/-- The characters that may not stand in a path. -/
def pathUnsafe : List Char := queryUnsafe ++ ['?', '`', '\x7b', '\x7d']

/-- The characters that may not stand in a user. -/
def userUnsafe : List Char := pathUnsafe ++ ['/', ';', '=', '@', '[', '\\', ']', '^', '|']

/-- The characters that may not stand in a fragment. -/
def fragmentUnsafe : List Char := ['"', '<', '>', '`']

/-- The parts of a path between its slashes. -/
def segments : List Char → List (List Char) := Host.split '/'

/-- Adds a segment to those kept so far (nearest first): one dot adds nothing, and two dots take
back the nearest one, but not the start of the path. -/
def keepSegment (kept : List (List Char)) : List Char → List (List Char)
  | ['.'] => kept
  | ['.', '.'] =>
    match kept with
    | [] => []
    | [[]] => [[]]
    | _ :: rest => rest
  | segment => segment :: kept

/-- The path without segments of dots. -/
def resolveDots (path : List Char) : List Char :=
  ['/'].intercalate ((segments path).foldl keepSegment []).reverse

/-- A path may follow: behind a host it starts with a slash, and without scheme and host neither
with two slashes nor with a colon. -/
def pathFits (hasScheme hasHost : Bool) (path : List Char) : Bool :=
  if hasHost then path = [] || path.head? = some '/'
  else if hasScheme then true
  else path.take 2 ≠ ['/', '/'] && path.head? ≠ some ':'

/-- Every part is short enough. -/
def Parts.areShort (parts : Parts) : Bool :=
  [parts.scheme, parts.authority, parts.path, parts.query.getD [], parts.fragment.getD []].all
    fun part => part.length ≤ maxLength

/-- The address of these parts; nothing if a part is not what it should be. -/
def ofParts? (parts : Parts) : Option Address := do
  let scheme := parts.scheme.map Char.toLower
  let (user, rest) := splitUser parts.authority
  let (host, port) := splitPort rest
  let host ← Host.read? host
  let port ← readPort? scheme port
  let user := Percent.encode userUnsafe user
  let hasHost := user ≠ [] || host ≠ [] || port.isSome
  if parts.areShort && pathFits (scheme ≠ []) hasHost parts.path then
    let path := if scheme ≠ [] || hasHost then resolveDots parts.path else parts.path
    return {
      scheme, user, host, port
      path := Percent.encode pathUnsafe path
      query := parts.query.map (Percent.encode queryUnsafe)
      fragment := parts.fragment.map (Percent.encode fragmentUnsafe) }
  else none

/-- The address that a text stands for. -/
def ofText? (text : String) : Option Address :=
  let cs := text.toList
  if hasControl cs || cs.length > maxLength then none else ofParts? (Parts.ofChars cs)

/-- The host with its user and its port. -/
def authority (address : Address) : List Char :=
  (if address.user = [] then [] else address.user ++ ['@']) ++ Host.toChars address.host
    ++ (address.port.map fun port => ':' :: (Decimal.intText port).toList).getD []

/-- The parts of which an address consists. -/
def parts (address : Address) : Parts :=
  { scheme := address.scheme, authority := address.authority, path := address.path
    query := address.query, fragment := address.fragment }

/-- A part with its mark in front, if there is one. -/
def marked (mark : Char) (part : Option (List Char)) : List Char :=
  (part.map fun cs => mark :: cs).getD []

/-- The address up to its query. -/
def front (address : Address) : List Char :=
  (if address.scheme = [] then [] else address.scheme ++ [':'])
    ++ (if address.authority = [] then [] else '/' :: '/' :: address.authority)
    ++ address.path ++ marked '?' address.query

/-- The text of an address. -/
def toText (address : Address) : String :=
  String.ofList (address.front ++ marked '#' address.fragment)

/-- What is asked for at the host: a path and perhaps a query. -/
def target (address : Address) : List Char :=
  (if address.path = [] then ['/'] else address.path) ++ marked '?' address.query

/-- The same host, asked for another target. -/
def withTarget? (address : Address) (target : List Char) : Option Address :=
  let (path, query) := splitFirst '?' target
  ofParts? { address.parts with path, query }

/-- The address with a slash at its end. -/
def withSlash? (address : Address) : Option Address :=
  if address.target.getLast? = some '/' then some address
  else address.withTarget? (address.target ++ ['/'])

/-- The address of a target below another address. The fragment of the target is not sent. -/
def below? (base relative : Address) : Option Address :=
  base.withTarget? (base.target ++ relative.target.dropWhile (· = '/'))

/-- The character stands for itself in a pair of a query. -/
def isUnreserved (c : Char) : Bool :=
  c.isAlphanum || c = '-' || c = '.' || c = '_' || c = '~'

/-- One side of a pair of a query, where a blank is written as a plus sign. -/
def component (s : String) : List Char :=
  s.toList.flatMap fun c =>
    if isUnreserved c then [c] else if c = ' ' then ['+'] else Percent.escape c

/-- A query of pairs. -/
def queryOf (pairs : List (String × String)) : List Char :=
  ['&'].intercalate (pairs.map fun (name, value) => component name ++ '=' :: component value)

/-- The address with other pairs in its query. -/
def withPairs? (address : Address) (pairs : List (String × String)) : Option Address :=
  ofParts? { address.parts with query := some (queryOf pairs) }

/-- The text of the address begins with a name and a colon, which tell how to go there. -/
def isOpenable (address : Address) : Bool :=
  let name := address.front.takeWhile fun c => c ≠ '/' && c ≠ ':'
  name ≠ [] && (address.front.drop name.length).head? = some ':'

/-- The address as a failure shows it: a number sign at its end is left out. -/
def shown (address : Address) : String :=
  let cs := address.toText.toList
  String.ofList (if cs.getLast? = some '#' then cs.dropLast else cs)

end Address

end FlowGraph
