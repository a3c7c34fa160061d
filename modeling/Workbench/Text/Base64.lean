/-!
# Base64

The standard alphabet with padding. Six bits go into a character; three octets make four
characters.

* `encode`: octets to text, padded;
* `decode?`: text to octets. Padding may be left out, and when it is there it fills the last group;
  the bits of the last character that carry nothing are zero.
-/

namespace Workbench.Base64

/-- The character for six bits. -/
def symbol (n : Nat) : Char :=
  if n < 26 then Char.ofNat (65 + n)
  else if n < 52 then Char.ofNat (97 + (n - 26))
  else if n < 62 then Char.ofNat (48 + (n - 52))
  else if n = 62 then '+'
  else '/'

/-- The six bits of a character of the alphabet. -/
def value? (c : Char) : Option Nat :=
  let n := c.toNat
  if 65 ≤ n ∧ n ≤ 90 then some (n - 65)
  else if 97 ≤ n ∧ n ≤ 122 then some (n - 97 + 26)
  else if 48 ≤ n ∧ n ≤ 57 then some (n - 48 + 52)
  else if c = '+' then some 62
  else if c = '/' then some 63
  else none

/-- The text of a list of octets. -/
def encode : List UInt8 → List Char
  | [] => []
  | [a] =>
    let n := a.toNat * 16
    [symbol (n / 64), symbol (n % 64), '=', '=']
  | [a, b] =>
    let n := (a.toNat * 256 + b.toNat) * 4
    [symbol (n / 4096), symbol (n / 64 % 64), symbol (n % 64), '=']
  | a :: b :: c :: rest =>
    let n := (a.toNat * 256 + b.toNat) * 256 + c.toNat
    symbol (n / 262144) :: symbol (n / 4096 % 64) :: symbol (n / 64 % 64) :: symbol (n % 64) ::
      encode rest

/-- The octets of a list of six bit values. A single value left over carries no octet and is
refused, and so are bits left over that are not zero. -/
def octets? : List Nat → Option (List UInt8)
  | [] => some []
  | [_] => none
  | [a, b] =>
    if b % 16 = 0 then some [UInt8.ofNat (a * 4 + b / 16)] else none
  | [a, b, c] =>
    if c % 4 = 0 then
      some [UInt8.ofNat (a * 4 + b / 16), UInt8.ofNat (b % 16 * 16 + c / 4)]
    else none
  | a :: b :: c :: d :: rest =>
    (octets? rest).map fun tail =>
      UInt8.ofNat (a * 4 + b / 16) :: UInt8.ofNat (b % 16 * 16 + c / 4) ::
        UInt8.ofNat (c % 4 * 64 + d) :: tail

/-- Padding is absent, or fills the last group of four. -/
def paddingFits (symbols padding : Nat) : Bool :=
  padding == 0 || (padding ≤ 2 && (symbols + padding) % 4 == 0)

/-- The octets of a text. -/
def decode? (cs : List Char) : Option (List UInt8) :=
  let symbols := cs.takeWhile (· ≠ '=')
  let padding := cs.dropWhile (· ≠ '=')
  if padding.all (· = '=') && paddingFits symbols.length padding.length then
    (symbols.mapM value?).bind octets?
  else none

end Workbench.Base64
