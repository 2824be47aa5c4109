/-
# Credentials in addresses

An address may name a user with a password. They are sent with each request, written with the
sixty-four characters that every channel carries.
-/

import FlowGraph.Address.Basic

namespace FlowGraph.Address

/-- The character that stands for six bits. -/
def sextetChar (bits : Nat) : Char :=
  if bits < 26 then Char.ofNat (0x41 + bits)
  else if bits < 52 then Char.ofNat (0x61 + (bits - 26))
  else if bits < 62 then Char.ofNat (0x30 + (bits - 52))
  else if bits = 62 then '+'
  else '/'

/-- The four characters of three bytes. -/
def sextets (a b c : Nat) : List Char :=
  [a / 4, a % 4 * 16 + b / 16, b % 16 * 4 + c / 64, c % 64].map sextetChar

/-- Bytes written with sixty-four characters; equals signs fill up the last four. -/
def base64 : List UInt8 → List Char
  | [] => []
  | [a] => (sextets a.toNat 0 0).take 2 ++ ['=', '=']
  | [a, b] => (sextets a.toNat b.toNat 0).take 3 ++ ['=']
  | a :: b :: c :: rest => sextets a.toNat b.toNat c.toNat ++ base64 rest

/-- The name and the password of the user in an address, if one of them is not empty. -/
def credentials? (address : Address) : Option (List Char × List Char) :=
  let (name, password) := splitFirst ':' address.user
  let name := Percent.decode name
  let password := Percent.decode (password.getD [])
  if name = [] ∧ password = [] then none else some (name, password)

/-- The authorization of the user in an address. -/
def authorization? (address : Address) : Option String :=
  address.credentials?.map fun (name, password) =>
    "Basic " ++ String.ofList (base64 ((name ++ ':' :: password).flatMap String.utf8EncodeChar))

end FlowGraph.Address
