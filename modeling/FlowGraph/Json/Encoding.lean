/-
# Encodings of JSON

A JSON text can arrive in units of one, two or four bytes, of either order. A byte order mark in
front tells which encoding it is. Without one, the first two characters are ASCII, so the zeros
among the first bytes tell. Half of a surrogate pair is read as the replacement character; what
is no character in any other way makes the bytes unreadable.
-/

import FlowGraph.Json.Reader

namespace FlowGraph.Json

/-- How characters are encoded: units of `width` bytes, most significant byte first or last. -/
structure Encoding where
  width : Nat
  bigFirst : Bool := true
  deriving DecidableEq, Repr

/-- The encoding of bytes that hold a JSON text, without a byte order mark. -/
def Encoding.ofBytes : List Nat → Encoding
  | [0, _] => { width := 2 }
  | [_, 0] => { width := 2, bigFirst := false }
  | 0 :: 0 :: _ :: _ :: _ => { width := 4 }
  | 0 :: _ :: _ :: _ :: _ => { width := 2 }
  | _ :: 0 :: 0 :: 0 :: _ => { width := 4, bigFirst := false }
  | _ :: 0 :: _ :: _ :: _ => { width := 2, bigFirst := false }
  | _ => { width := 1 }

/-- The byte order marks with the encodings that they stand for. One of them is the beginning of
another, which comes first. -/
def Encoding.marks : List (List Nat × Encoding) :=
  [([0, 0, 0xFE, 0xFF], { width := 4 }),
   ([0xFF, 0xFE, 0, 0], { width := 4, bigFirst := false }),
   ([0xFE, 0xFF], { width := 2 }),
   ([0xFF, 0xFE], { width := 2, bigFirst := false }),
   ([0xEF, 0xBB, 0xBF], { width := 1 })]

/-- The encoding of bytes, and the bytes behind a byte order mark. -/
def Encoding.detect (bytes : List Nat) : Encoding × List Nat :=
  match marks.find? fun entry => entry.1.isPrefixOf bytes with
  | some (mark, encoding) => (encoding, bytes.drop mark.length)
  | none => (ofBytes bytes, bytes)

/-- The number that bytes stand for, most significant byte first. -/
def bytesValue (bytes : List Nat) : Nat := bytes.foldl (fun value byte => value * 256 + byte) 0

/-- The units of two bytes; an odd byte at the end is refused. -/
def pairs? (bigFirst : Bool) : List Nat → Option (List Nat)
  | [] => some []
  | [_] => none
  | a :: b :: rest =>
    (pairs? bigFirst rest).map (bytesValue (if bigFirst then [a, b] else [b, a]) :: ·)

/-- The units of four bytes; a shorter rest is refused. -/
def quads? (bigFirst : Bool) : List Nat → Option (List Nat)
  | [] => some []
  | a :: b :: c :: d :: rest =>
    (quads? bigFirst rest).map
      (bytesValue (if bigFirst then [a, b, c, d] else [d, c, b, a]) :: ·)
  | _ => none

/-- The character of a code point; half of a surrogate pair is replaced. -/
def charOf? (code : Nat) : Option Char :=
  if code < 0x110000 then some (if code.isValidChar then Char.ofNat code else '\uFFFD') else none

/-- The characters of units of two bytes, where two surrogates make up one character. -/
def charsOfPairs? : List Nat → Option (List Char)
  | [] => some []
  | high :: low :: rest =>
    if 0xD800 ≤ high ∧ high < 0xDC00 ∧ 0xDC00 ≤ low ∧ low < 0xE000 then
      (charsOfPairs? rest).map
        (Char.ofNat (0x10000 + (high - 0xD800) * 0x400 + (low - 0xDC00)) :: ·)
    else do return (← charOf? high) :: (← charsOfPairs? (low :: rest))
  | [unit] => (charOf? unit).map fun c => [c]

/-- A character of which some bytes are missing: how many, what the others come to, and the least
code point for which as many bytes are used. -/
structure Begun where
  missing : Nat
  code : Nat
  least : Nat

/-- The character that a byte begins. -/
def Begun.ofByte? (byte : Nat) : Option Begun :=
  if 0xC0 ≤ byte ∧ byte < 0xE0 then some { missing := 1, code := byte - 0xC0, least := 0x80 }
  else if 0xE0 ≤ byte ∧ byte < 0xF0 then some { missing := 2, code := byte - 0xE0, least := 0x800 }
  else if 0xF0 ≤ byte ∧ byte < 0xF8 then
    some { missing := 3, code := byte - 0xF0, least := 0x10000 }
  else none

/-- The characters of single bytes, one to four for each. -/
def charsOfBytes? (begun : Option Begun) : List Nat → Option (List Char)
  | [] => if begun.isNone then some [] else none
  | byte :: rest =>
    match begun with
    | none =>
      if byte < 0x80 then (charsOfBytes? none rest).map (Char.ofNat byte :: ·)
      else (Begun.ofByte? byte).bind fun begun => charsOfBytes? (some begun) rest
    | some { missing, code, least } =>
      if 0x80 ≤ byte ∧ byte < 0xC0 then
        let code := code * 0x40 + (byte - 0x80)
        if missing = 1 then
          if least ≤ code then do return (← charOf? code) :: (← charsOfBytes? none rest) else none
        else charsOfBytes? (some { missing := missing - 1, code, least }) rest
      else none

/-- The characters of a text that arrived as bytes. -/
def arrived? (bytes : List Nat) : Option (List Char) :=
  match Encoding.detect bytes with
  | ({ width := 4, bigFirst }, rest) =>
    (quads? bigFirst rest).bind fun units => units.mapM charOf?
  | ({ width := 2, bigFirst }, rest) => (pairs? bigFirst rest).bind charsOfPairs?
  | (_, rest) => charsOfBytes? none rest

/-- The value in a text that arrived as bytes. -/
def readArrived? (bytes : List Nat) : Option Value :=
  (arrived? bytes).bind fun cs => read? (String.ofList cs)

end FlowGraph.Json
