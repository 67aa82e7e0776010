import HardwareWatch.Text.Blank

/-!
# Octets as text

The octets of a text in UTF-8, and three ways to write octets in ASCII.

* `Octets.ofChars` are the octets of a text.
* `Octets.base64` writes three octets as four characters, with `=` where the last group is short.
* `Octets.hexadecimal` writes every octet as two digits.
* `Octets.percentEncoded` writes the octets of a character that is not safe in addresses.
-/

namespace HardwareWatch.Octets

/-- The octets of a text in UTF-8. -/
def ofChars (s : Chars) : List UInt8 := s.flatMap String.utf8EncodeChar

/-- The character for six bits. -/
def base64Char (n : Nat) : Char :=
  if n < 26 then Char.ofNat (65 + n)
  else if n < 52 then Char.ofNat (71 + n)
  else if n < 62 then Char.ofNat (n - 4)
  else if n = 62 then '+'
  else '/'

/-- Octets in Base64. -/
def base64 : List UInt8 → Chars
  | [] => []
  | [a] =>
    let n := a.toNat * 16
    [base64Char (n / 64), base64Char (n % 64), '=', '=']
  | [a, b] =>
    let n := (a.toNat * 256 + b.toNat) * 4
    [base64Char (n / 4096), base64Char (n / 64 % 64), base64Char (n % 64), '=']
  | a :: b :: c :: rest =>
    let n := (a.toNat * 256 + b.toNat) * 256 + c.toNat
    base64Char (n / 262144) :: base64Char (n / 4096 % 64) :: base64Char (n / 64 % 64)
      :: base64Char (n % 64) :: base64 rest

/-- The digit for four bits, letters in lower case. -/
def lowerDigit (n : Nat) : Char := if n < 10 then Char.ofNat (48 + n) else Char.ofNat (87 + n)

/-- The digit for four bits, letters in upper case. -/
def upperDigit (n : Nat) : Char := if n < 10 then Char.ofNat (48 + n) else Char.ofNat (55 + n)

/-- Octets as pairs of hexadecimal digits. -/
def hexadecimal (octets : List UInt8) : Chars :=
  octets.flatMap fun o => [lowerDigit (o.toNat / 16), lowerDigit (o.toNat % 16)]

/-- Octets as pairs of hexadecimal digits with a percent sign in front of each. -/
def percentEncoded (octets : List UInt8) : Chars :=
  octets.flatMap fun o => ['%', upperDigit (o.toNat / 16), upperDigit (o.toNat % 16)]

end HardwareWatch.Octets
