/-
# Percent signs

Characters that may not stand in a part of an address are written as their bytes, each as a
percent sign and two hexadecimal digits. What is written so already is left as it is. Reading the
bytes back forgives what is no text: it becomes the replacement character.
-/

import FlowGraph.Text.Digit
import FlowGraph.Text.Quoted

namespace FlowGraph.Percent

/-- A byte as a percent sign and two upper-case hexadecimal digits. -/
def byteText (byte : UInt8) : List Char :=
  '%' :: (Text.hex 2 byte.toNat).map Char.toUpper

/-- A character as its bytes. -/
def escape (c : Char) : List Char := (String.utf8EncodeChar c).flatMap byteText

/-- A printable character of seven bits. -/
def isPlain (c : Char) : Bool := 0x20 < c.toNat && c.toNat < 0x7F

/-- A text in which the characters that may not stand there are written as their bytes. -/
def encode (forbidden : List Char) (cs : List Char) : List Char :=
  cs.flatMap fun c => if isPlain c && !forbidden.contains c then [c] else escape c

/-- The bytes of a text, with those that are written with percent signs. -/
def bytes : List Char → List UInt8
  | [] => []
  | '%' :: high :: low :: cs =>
    match Text.hexValue? high, Text.hexValue? low with
    | some a, some b => UInt8.ofNat (16 * a + b) :: bytes cs
    | _, _ => 0x25 :: bytes (high :: low :: cs)
  | c :: cs => String.utf8EncodeChar c ++ bytes cs

/-- A character of several bytes of which some have been read: the value so far, how many bytes are
missing, and between which values the next one lies. -/
structure Partly where
  value : Nat
  missing : Nat
  least : Nat := 0x80
  greatest : Nat := 0xBF

/-- What the first byte of a character tells; nothing for a byte that begins none. -/
def Partly.ofFirst? (byte : Nat) : Option Partly :=
  if byte < 0x80 then some { value := byte, missing := 0 }
  else if byte < 0xC2 then none
  else if byte < 0xE0 then some { value := byte - 0xC0, missing := 1 }
  else if byte = 0xE0 then some { value := 0, missing := 2, least := 0xA0 }
  else if byte = 0xED then some { value := 0xD, missing := 2, greatest := 0x9F }
  else if byte < 0xF0 then some { value := byte - 0xE0, missing := 2 }
  else if byte = 0xF0 then some { value := 0, missing := 3, least := 0x90 }
  else if byte < 0xF4 then some { value := byte - 0xF0, missing := 3 }
  else if byte = 0xF4 then some { value := 4, missing := 3, greatest := 0x8F }
  else none

/-- Goes on after a byte: the characters read, nearest first, and the one that is read partly. -/
def begin (read : List Char) : Option Partly → List Char × Option Partly
  | none => ('\uFFFD' :: read, none)
  | some part =>
    if part.missing = 0 then (Char.ofNat part.value :: read, none) else (read, some part)

/-- Reads one more byte. A byte that does not continue a character begins another one. -/
def step (state : List Char × Option Partly) (byte : UInt8) : List Char × Option Partly :=
  let code := byte.toNat
  match state with
  | (read, none) => begin read (Partly.ofFirst? code)
  | (read, some part) =>
    if part.least ≤ code ∧ code ≤ part.greatest then
      begin read (some { value := part.value * 64 + (code - 0x80), missing := part.missing - 1 })
    else begin ('\uFFFD' :: read) (Partly.ofFirst? code)

/-- The text that bytes stand for. Every longest run of bytes that begins a character without
ending it, and every other byte that belongs to no character, becomes a replacement character. -/
def textOf (bytes : List UInt8) : List Char :=
  match bytes.foldl step ([], none) with
  | (read, none) => read.reverse
  | (read, some _) => ('\uFFFD' :: read).reverse

/-- A text that was written with percent signs. -/
def decode (cs : List Char) : List Char := textOf (bytes cs)

end FlowGraph.Percent
