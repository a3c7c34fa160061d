import Workbench.Numeral.Binary64
import Workbench.Text.Blank

/-!
# Reading numbers

A number in the settings may stand between white space, may have a sign, may be written with the
digits of any script, and may have single underscores between its digits. The information
separators are no white space here.

* `decimalDigit?`: the value of a decimal digit of any script;
* `readInteger`: an integer, of `digitLimit` digits at most; `IntegerFault` says what is refused;
* `readDecimal?`: a real, with an optional fraction and exponent, or one of the words for the reals
  that are not finite, in any case.
-/

namespace Workbench

/-- The code points of the digit zero in every script; its other nine digits follow it. -/
def digitZeros : List Nat :=
  [0x30, 0x660, 0x6F0, 0x7C0, 0x966, 0x9E6, 0xA66, 0xAE6, 0xB66, 0xBE6, 0xC66, 0xCE6, 0xD66,
    0xDE6, 0xE50, 0xED0, 0xF20, 0x1040, 0x1090, 0x17E0, 0x1810, 0x1946, 0x19D0, 0x1A80, 0x1A90,
    0x1B50, 0x1BB0, 0x1C40, 0x1C50, 0xA620, 0xA8D0, 0xA900, 0xA9D0, 0xA9F0, 0xAA50, 0xABF0,
    0xFF10, 0x104A0, 0x10D30, 0x11066, 0x110F0, 0x11136, 0x111D0, 0x112F0, 0x11450, 0x114D0,
    0x11650, 0x116C0, 0x11730, 0x118E0, 0x11950, 0x11C50, 0x11D50, 0x11DA0, 0x16A60, 0x16AC0,
    0x16B50, 0x1D7CE, 0x1D7D8, 0x1D7E2, 0x1D7EC, 0x1D7F6, 0x1E140, 0x1E2F0, 0x1E950, 0x1FBF0]

/-- The value of a decimal digit. -/
def decimalDigit? (c : Char) : Option Nat :=
  (digitZeros.find? fun z => z ≤ c.toNat && c.toNat < z + 10).map (c.toNat - ·)

/-- The digits at the front and what follows them. An underscore belongs to the digits only when
it stands between two of them. -/
def digitRun : List Char → List Nat × List Char
  | [] => ([], [])
  | c :: '_' :: rest =>
    match decimalDigit? c with
    | none => ([], c :: '_' :: rest)
    | some d =>
      match digitRun rest with
      | ([], _) => ([d], '_' :: rest)
      | (ds, after) => (d :: ds, after)
  | c :: cs =>
    match decimalDigit? c with
    | none => ([], c :: cs)
    | some d =>
      let (ds, after) := digitRun cs
      (d :: ds, after)

/-- The number that a list of digits writes. -/
def ofDigitList (ds : List Nat) : Nat := ds.foldl (10 * · + ·) 0

/-- A sign at the front, `true` for minus, and what follows it. -/
def signAhead : List Char → Bool × List Char
  | '-' :: cs => (true, cs)
  | '+' :: cs => (false, cs)
  | cs => (false, cs)

/-- The greatest number of digits of an integer. -/
def digitLimit : Nat := 4300

/-- What is wrong with a text that should write an integer. -/
inductive IntegerFault where
  /-- It writes none. -/
  | notInteger
  /-- It starts with more digits than an integer may have. -/
  | tooLong (digits : Nat)
  deriving DecidableEq

/-- An integer without its sign. The digits at the front are counted before it is looked at what
follows them, but an underscore that stands there comes first. -/
def readWhole (cs : List Char) : Except IntegerFault Nat :=
  match digitRun cs with
  | ([], _) => throw .notInteger
  | (_, '_' :: _) => throw .notInteger
  | (ds, rest) =>
    if digitLimit < ds.length then throw (.tooLong ds.length)
    else if rest.isEmpty then return ofDigitList ds
    else throw .notInteger

/-- An integer. -/
def readInteger (s : String) : Except IntegerFault Int := do
  let (negative, body) := signAhead (Text.trim Text.isWhiteSpace s.toList)
  let n : Int ← readWhole body
  return if negative then -n else n

/-- The exponent of a real and whether nothing is left. -/
def exponentAhead? : List Char → Option Int
  | [] => some 0
  | c :: cs =>
    if c = 'e' ∨ c = 'E' then
      let (negative, body) := signAhead cs
      match digitRun body with
      | (d :: ds, []) =>
        let n : Int := ofDigitList (d :: ds)
        some (if negative then -n else n)
      | _ => none
    else none

/-- A real without its sign: digits, a fraction, an exponent, with a digit before the exponent. -/
def readMagnitude? (negative : Bool) (cs : List Char) : Option Decimal := do
  let (whole, rest) := digitRun cs
  let (fraction, rest) := match rest with
    | '.' :: after => digitRun after
    | _ => ([], rest)
  let e ← exponentAhead? rest
  if whole.isEmpty && fraction.isEmpty then none
  else some (.rounded negative (ofDigitList (whole ++ fraction)) (e - fraction.length))

/-- A real. -/
def readDecimal? (s : String) : Option Decimal :=
  let (negative, body) := signAhead (Text.trim Text.isWhiteSpace s.toList)
  let word := String.ofList (body.map Char.toLower)
  if word = "inf" ∨ word = "infinity" then some (.infinite negative)
  else if word = "nan" then some .nan
  else readMagnitude? negative body

end Workbench
