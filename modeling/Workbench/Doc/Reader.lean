import Workbench.Doc.Basic
import Workbench.Numeral.Reading

/-!
# Reading documents

The text of a document, as it comes over the wire. Blanks may stand between the parts; an object
that names a member twice keeps the place of the first and the value of the last; control
characters have to be escaped inside a text; the three reals that are not finite have words.

* `Doc.parse?`: the document that a text writes; none when it writes none, or something follows.
-/

namespace Workbench.Doc

/-- A blank between the parts of a document. -/
def isSpace (c : Char) : Bool := c = ' ' || c = '\t' || c = '\n' || c = '\r'

/-- What follows the blanks. -/
def skipSpace (cs : List Char) : List Char := cs.dropWhile isSpace

/-- What follows `word`, when the characters start with it. -/
def after? (word : List Char) (cs : List Char) : Option (List Char) :=
  match word with
  | [] => some cs
  | w :: ws => match cs with
    | c :: rest => if w = c then after? ws rest else none
    | [] => none

/-! ## Numbers -/

/-- The ASCII digits at the front, and what follows them. -/
def digitsAhead (cs : List Char) : List Char × List Char :=
  (cs.takeWhile Char.isDigit, cs.dropWhile Char.isDigit)

/-- The number that ASCII digits write. -/
def ofDigits (ds : List Char) : Nat := ds.foldl (fun n c => 10 * n + (c.toNat - 48)) 0

/-- The digits of the whole part: a zero alone, or digits that do not start with one. -/
def wholeAhead : List Char → List Char × List Char
  | '0' :: cs => (['0'], cs)
  | cs => digitsAhead cs

/-- The digits after a point, none when no digit follows the point. -/
def fractionAhead (cs : List Char) : List Char × List Char :=
  match cs with
  | '.' :: rest =>
    match digitsAhead rest with
    | ([], _) => ([], cs)
    | found => found
  | _ => ([], cs)

/-- The exponent, none when no digit follows its mark and sign. -/
def exponentAhead (cs : List Char) : Option Int × List Char :=
  match cs with
  | c :: rest =>
    if c = 'e' ∨ c = 'E' then
      let (negative, body) : Bool × List Char := match rest with
        | '-' :: r => (true, r)
        | '+' :: r => (false, r)
        | r => (false, r)
      match digitsAhead body with
      | ([], _) => (none, cs)
      | (ds, after) =>
        let n : Int := ofDigits ds
        (some (if negative then -n else n), after)
    else (none, cs)
  | [] => (none, cs)

/-- A number without its sign. With a fraction or an exponent it is a real; an integer has
`digitLimit` digits at most. -/
def numberAhead? (negative : Bool) (cs : List Char) : Option (Doc × List Char) :=
  match wholeAhead cs with
  | ([], _) => none
  | (whole, rest) =>
    let (fraction, rest) := fractionAhead rest
    let (exponent, rest) := exponentAhead rest
    if fraction.isEmpty ∧ exponent.isNone then
      let n : Int := ofDigits whole
      if digitLimit < whole.length then none else some (.int (if negative then -n else n), rest)
    else
      let e := exponent.getD 0 - fraction.length
      some (.real (.rounded negative (ofDigits (whole ++ fraction)) e), rest)

/-! ## Texts -/

/-- The value of a digit in base sixteen. -/
def hexDigit? (c : Char) : Option Nat :=
  let n := c.toNat
  if 48 ≤ n ∧ n ≤ 57 then some (n - 48)
  else if 97 ≤ n ∧ n ≤ 102 then some (n - 87)
  else if 65 ≤ n ∧ n ≤ 70 then some (n - 55)
  else none

/-- The unit that four digits in base sixteen write. -/
def unitAhead? : List Char → Option (Nat × List Char)
  | a :: b :: c :: d :: rest => do
    let n := (((← hexDigit? a) * 16 + (← hexDigit? b)) * 16 + (← hexDigit? c)) * 16 + (← hexDigit? d)
    return (n, rest)
  | _ => none

/-- The character for a unit that has no partner; half of a pair becomes the replacement
character. -/
def unitChar (n : Nat) : Char :=
  if 0xD800 ≤ n ∧ n ≤ 0xDFFF then Char.ofNat 0xFFFD else Char.ofNat n

/-- The character of an escape by units, and what follows: two units that make a pair are one
character. -/
def unitsAhead? (cs : List Char) : Option (Char × List Char) := do
  let (n, rest) ← unitAhead? cs
  if 0xD800 ≤ n ∧ n ≤ 0xDBFF then
    match rest with
    | '\\' :: 'u' :: more =>
      match unitAhead? more with
      | none => none
      | some (m, rest') =>
        if 0xDC00 ≤ m ∧ m ≤ 0xDFFF then
          return (Char.ofNat (0x10000 + (n - 0xD800) * 0x400 + (m - 0xDC00)), rest')
        else return (unitChar n, rest)
    | _ => return (unitChar n, rest)
  else return (unitChar n, rest)

/-- The character of a short escape. -/
def shortEscape? (c : Char) : Option Char :=
  if c = '\x22' ∨ c = '\\' ∨ c = '/' then some c
  else if c = 'b' then some '\x08'
  else if c = 'f' then some '\x0c'
  else if c = 'n' then some '\n'
  else if c = 'r' then some '\r'
  else if c = 't' then some '\t'
  else none

/-- A text after its opening quote. `fuel` bounds the number of characters. -/
def stringAhead? : (fuel : Nat) → List Char → Option (List Char × List Char)
  | 0, _ => none
  | _ + 1, [] => none
  | fuel + 1, c :: cs =>
    if c = '\x22' then some ([], cs)
    else if c = '\\' then
      match cs with
      | 'u' :: more => do
        let (d, rest) ← unitsAhead? more
        let (ds, rest) ← stringAhead? fuel rest
        return (d :: ds, rest)
      | e :: more => do
        let d ← shortEscape? e
        let (ds, rest) ← stringAhead? fuel more
        return (d :: ds, rest)
      | [] => none
    else if c.toNat < 0x20 then none
    else do
      let (ds, rest) ← stringAhead? fuel cs
      return (c :: ds, rest)

/-! ## Documents -/

/-- The words that stand for a document. -/
def words : List (List Char × Doc) :=
  [("null".toList, .null), ("true".toList, .bool true), ("false".toList, .bool false),
    ("NaN".toList, .real .nan), ("Infinity".toList, .real (.infinite false)),
    ("-Infinity".toList, .real (.infinite true))]

/-- A word, or a number. -/
def scalarAhead? (cs : List Char) : Option (Doc × List Char) :=
  match words.findSome? fun w => (after? w.1 cs).map (w.2, ·) with
  | some found => some found
  | none => match cs with
    | '-' :: rest => numberAhead? true rest
    | _ => numberAhead? false cs

mutual

/-- A document at the front, and what follows it. `fuel` bounds the number of parts: twice the
number of characters is enough, since two steps take one character at least. -/
def valueAhead? : (fuel : Nat) → List Char → Option (Doc × List Char)
  | 0, _ => none
  | fuel + 1, cs =>
    match cs with
    | '\x22' :: rest => do
      let (s, rest) ← stringAhead? fuel rest
      return (.str (String.ofList s), rest)
    | '[' :: rest =>
      match skipSpace rest with
      | ']' :: rest => some (.arr [], rest)
      | rest => do
        let (ds, rest) ← itemsAhead? fuel rest
        return (.arr ds, rest)
    | '\x7b' :: rest =>
      match skipSpace rest with
      | '\x7d' :: rest => some (.obj [], rest)
      | rest => membersAhead? fuel [] rest
    | _ => scalarAhead? cs

/-- The items of a list that has one at least, up to its end. -/
def itemsAhead? : (fuel : Nat) → List Char → Option (List Doc × List Char)
  | 0, _ => none
  | fuel + 1, cs => do
    let (d, rest) ← valueAhead? fuel (skipSpace cs)
    match skipSpace rest with
    | ',' :: rest => do
      let (ds, rest) ← itemsAhead? fuel rest
      return (d :: ds, rest)
    | ']' :: rest => return ([d], rest)
    | _ => none

/-- The members of an object that has one more at least, up to its end, after those read so far. -/
def membersAhead? : (fuel : Nat) → List Member → List Char → Option (Doc × List Char)
  | 0, _, _ => none
  | fuel + 1, ms, cs =>
    match skipSpace cs with
    | '\x22' :: rest => do
      let (name, rest) ← stringAhead? fuel rest
      match skipSpace rest with
      | ':' :: rest => do
        let (d, rest) ← valueAhead? fuel (skipSpace rest)
        let ms := setMember (String.ofList name) d ms
        match skipSpace rest with
        | ',' :: rest => membersAhead? fuel ms rest
        | '\x7d' :: rest => return (.obj ms, rest)
        | _ => none
      | _ => none
    | _ => none

end

/-- The document that a text writes. -/
def parse? (s : String) : Option Doc :=
  let cs := s.toList
  match valueAhead? (2 * cs.length + 2) (skipSpace cs) with
  | some (d, rest) => if (skipSpace rest).isEmpty then some d else none
  | none => none

end Workbench.Doc
