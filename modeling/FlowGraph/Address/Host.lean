/-
# Hosts

The host in an address is a number address of four octets, one of eight groups in brackets, or a
name. Names are written in lower case with ASCII characters.
-/

import FlowGraph.Address.Domain
import FlowGraph.Address.Percent
import FlowGraph.Text.Case

namespace FlowGraph.Host

/-- The parts of a text between separators. -/
def split (separator : Char) : List Char → List (List Char)
  | [] => [[]]
  | c :: cs =>
    match split separator cs with
    | [] => [[c]]
    | first :: rest => if c = separator then [] :: first :: rest else (c :: first) :: rest

/-- A number up to 255 without leading zeros. -/
def isOctet (cs : List Char) : Bool :=
  cs ≠ [] && cs.all Char.isDigit && cs.length ≤ 3 && (cs.length = 1 || cs.head? ≠ some '0')
    && cs.foldl (fun value c => value * 10 + (c.toNat - 48)) 0 ≤ 255

/-- Four octets between dots. -/
def isOctets (cs : List Char) : Bool :=
  let parts := split '.' cs
  parts.length = 4 && parts.all isOctet

/-- The states that a text may have reached in a form of four runs of digits with one character of
any kind between each two: for each run, whether it has begun. -/
def runStates (c : Char) (states : List (Nat × Bool)) : List (Nat × Bool) :=
  states.flatMap fun (run, begun) =>
    (if c.isDigit then [(run, true)] else [])
      ++ (if begun && run < 3 then [(run + 1, false)] else [])

/-- The text looks like octets: four runs of digits, with one character of any kind between each
two. -/
def looksLikeOctets (cs : List Char) : Bool :=
  (cs.foldl (fun states c => (runStates c states).eraseDups) [(0, false)]).contains (3, true)

/-- Up to four hexadecimal digits. -/
def isGroup (cs : List Char) : Bool :=
  cs ≠ [] && cs.length ≤ 4 && cs.all fun c => (Text.hexValue? c).isSome

/-- The number of groups on one side of those that are left out; a single empty part is none. -/
def groupsAround (cs : List (List Char)) : Option Nat :=
  match cs with
  | [[]] => some 0
  | parts => if parts.all isGroup then some parts.length else none

/-- Parts between colons that stand for eight groups; an empty part once stands for all groups
that are left out, one at least. -/
def isGroups (parts : List (List Char)) : Bool :=
  let inner := (parts.drop 1).dropLast
  match inner.filter (· = []) with
  | [] => parts.length = 8 && parts.all isGroup
  | [_] =>
    let left := 1 + (inner.takeWhile (· ≠ [])).length
    match groupsAround (parts.take left), groupsAround (parts.drop (left + 1)) with
    | some before, some after => before + after < 8
    | _, _ => false
  | _ => false

/-- The parts between colons, where octets at the end count as two groups. -/
def groupParts? (cs : List Char) : Option (List (List Char)) :=
  let parts := split ':' cs
  let last := parts.getLastD []
  if parts.length < 3 then none
  else if last.contains '.' then
    if isOctets last then some (parts.dropLast ++ [['0'], ['0']]) else none
  else some parts

/-- The text before a percent sign; what follows names a zone and must not be empty. -/
def withoutZone? (cs : List Char) : Option (List Char) :=
  match cs.dropWhile (· ≠ '%') with
  | [] => some cs
  | _ :: zone =>
    if zone = [] ∨ zone.contains '%' then none else some (cs.takeWhile (· ≠ '%'))

/-- Eight groups, some of which may be left out, and perhaps a zone. -/
def isGrouped (cs : List Char) : Bool :=
  !cs.contains '/' &&
    match (withoutZone? cs).bind groupParts? with
    | some parts => parts.length ≤ 9 && isGroups parts
    | none => false

/-- The characters that may not stand in a host. -/
def unsafeChars : List Char := ['#', '/', ':', '<', '>', '?', '@', '[', ']', '^']

/-- The lower case of characters. -/
def lower (cs : List Char) : List Char := (Text.lower (String.ofList cs)).toList

/-- The text stands in brackets. -/
def isBracketed (cs : List Char) : Bool :=
  2 ≤ cs.length && cs.head? = some '[' && cs.getLast? = some ']'

/-- How a host is written in an address, without brackets; nothing if it is none. -/
def read? (cs : List Char) : Option (List Char) :=
  if cs = [] then some []
  else if looksLikeOctets cs then if isOctets cs then some cs else none
  else if isBracketed cs then
    let inner := (cs.drop 1).dropLast
    if isGrouped inner then some inner else none
  else if cs.all Punycode.isAscii then some (Percent.encode unsafeChars (lower cs))
  else Domain.ascii? (lower cs)

/-- A host as it stands in an address. -/
def toChars (host : List Char) : List Char :=
  if host.contains ':' then '[' :: host ++ [']'] else host

end FlowGraph.Host
