/-!
# Base64

The standard alphabet with padding: three bytes are written as four characters, and the last group
is filled up with equals signs.
-/

namespace AttributeRelease.Text.Base64

/-- The character for a group of six bits. -/
def char (sextet : Nat) : Char :=
  if sextet < 26 then Char.ofNat ('A'.toNat + sextet)
  else if sextet < 52 then Char.ofNat ('a'.toNat + (sextet - 26))
  else if sextet < 62 then Char.ofNat ('0'.toNat + (sextet - 52))
  else if sextet = 62 then '+'
  else '/'

/-- The characters that spell a list of bytes. -/
def encodeList : List UInt8 → List Char
  | [] => []
  | [a] =>
    let bits := a.toNat * 65536
    [char (bits / 262144), char (bits / 4096 % 64), '=', '=']
  | [a, b] =>
    let bits := a.toNat * 65536 + b.toNat * 256
    [char (bits / 262144), char (bits / 4096 % 64), char (bits / 64 % 64), '=']
  | a :: b :: c :: rest =>
    let bits := a.toNat * 65536 + b.toNat * 256 + c.toNat
    char (bits / 262144) :: char (bits / 4096 % 64) :: char (bits / 64 % 64) ::
      char (bits % 64) :: encodeList rest

/-- The text that spells a list of bytes. -/
def encode (bytes : List UInt8) : String := String.ofList (encodeList bytes)

end AttributeRelease.Text.Base64
