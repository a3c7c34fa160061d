import Workbench.Calendar
import Workbench.Text.Search

/-!
# Timestamps

The instants that a registry writes beside its images: a date, a separator of any character, a
clock reading and an offset from UTC, in the extended form with separators or the basic form
without. A `Z` anywhere means the offset `+00:00`, and without an offset the clock reads UTC.

* `ClockReading.read?`: a clock reading, and whether something is left over behind it;
* `Timestamp.parse?`: the timestamp that a text writes;
* `Timestamp.instant`: its instant, in microseconds, by which timestamps are compared;
* `Timestamp.text`: its written form.
-/

namespace Workbench

open Text

/-! ## Digits -/

/-- The value of an ASCII digit. -/
def asciiDigit? (c : Char) : Option Nat :=
  if c.isDigit then some (c.toNat - 48) else none

/-- The number that ASCII digits write; none when a character is no digit. -/
def digitsValue? (cs : List Char) : Option Nat :=
  cs.foldlM (fun n c => (asciiDigit? c).map (10 * n + ·)) 0

/-- `n` in base ten with zeros in front, `width` digits at least. -/
def zeroPadded (width n : Nat) : List Char :=
  let digits := Nat.toDigits 10 n
  List.replicate (width - digits.length) '0' ++ digits

/-! ## Clock readings -/

/-- The reading of a clock. `leftover` says that something stands behind it. -/
structure ClockReading where
  hour : Nat
  minute : Nat
  second : Nat
  microsecond : Nat
  leftover : Bool
  deriving DecidableEq

namespace ClockReading

/-- A reading of up to three fields. -/
def ofFields (fields : List Nat) (microsecond : Nat) (leftover : Bool) : ClockReading :=
  ⟨fields.getD 0 0, fields.getD 1 0, fields.getD 2 0, microsecond, leftover⟩

/-- A null character ends a reading, so nothing that begins with it is left over. -/
def isLeftover (cs : List Char) : Bool := cs.head?.any (· ≠ '\x00')

/-- Digits of a fraction: six count, further digits are dropped, and then something may be left
over. -/
def readFraction? (fields : List Nat) (cs : List Char) : Option ClockReading := do
  let n ← digitsValue? (cs.take 6)
  let behind := (cs.drop 6).dropWhile Char.isDigit
  return ofFields fields (n * Nat.pow 10 (6 - cs.length)) (isLeftover behind)

/-- Fields of two digits, `left` of them at most, after those read so far. The character behind the
first field decides whether colons stand between the fields. A point or a comma starts a fraction
behind any field; behind the last one a fraction may also follow as the next field would. A single
octet may be left over. -/
def readFields? : (left : Nat) → (colons : Option Bool) → (fields : List Nat) → List Char →
    Option ClockReading
  | 0, _, fields, cs => readFraction? fields cs
  | left + 1, colons, fields, a :: b :: cs => do
    let n ← digitsValue? [a, b]
    let fields := fields ++ [n]
    match cs with
    | [] => return ofFields fields 0 false
    | [c] => if c.utf8Size = 1 then return ofFields fields 0 (isLeftover [c]) else none
    | c :: rest =>
      let colons := colons.getD (c = ':')
      if colons ∧ c = ':' then readFields? left (some colons) fields rest
      else if c = '.' ∨ c = ',' then readFraction? fields rest
      else if colons then none
      else readFields? left (some colons) fields (c :: rest)
  | _ + 1, _, _, _ => none

/-- A clock reading: hour, minute and second. -/
def read? (cs : List Char) : Option ClockReading := readFields? 3 none [] cs

/-- The seconds since midnight. -/
def seconds (c : ClockReading) : Nat := (c.hour * 60 + c.minute) * 60 + c.second

end ClockReading

/-! ## Timestamps -/

/-- A date, the microseconds since midnight, and the offset from UTC in microseconds, if it is
known. -/
structure Timestamp where
  date : Date
  clock : Nat
  offset : Option Int
  deriving DecidableEq

namespace Timestamp

/-- The microseconds of a second. -/
def perSecond : Nat := 1000000

/-- The microseconds of a day. -/
def perDay : Nat := 86400 * perSecond

/-- The length of the date at the front of a text, by the characters at fixed places. -/
def dateLength? (cs : List Char) : Option Nat :=
  let n := cs.length
  if n < 7 then none
  else if n = 7 then some 7
  else if cs[4]? = some '-' then
    if cs[5]? = some 'W' then
      if 8 < n ∧ cs[8]? = some '-' then
        if n = 9 then none
        else if 10 < n ∧ ((cs.drop 10).head?.any Char.isDigit) then some 8
        else some 10
      else some 8
    else some 10
  else if cs[4]? = some 'W' then
    let digitsEnd := 7 + ((cs.drop 7).takeWhile Char.isDigit).length
    if digitsEnd < 9 then some digitsEnd
    else if digitsEnd % 2 = 0 then some 7
    else some 8
  else some 8

/-- A date by month or by week, in the extended or the basic form. -/
def readDate? (cs : List Char) : Option Date :=
  match cs with
  | [a, b, c, d, '-', 'W', v, w] => do
    Date.ofWeek? (← digitsValue? [a, b, c, d]) (← digitsValue? [v, w]) 1
  | [a, b, c, d, '-', 'W', v, w, '-', x] => do
    Date.ofWeek? (← digitsValue? [a, b, c, d]) (← digitsValue? [v, w]) (← digitsValue? [x])
  | [a, b, c, d, 'W', v, w] => do
    Date.ofWeek? (← digitsValue? [a, b, c, d]) (← digitsValue? [v, w]) 1
  | [a, b, c, d, 'W', v, w, x] => do
    Date.ofWeek? (← digitsValue? [a, b, c, d]) (← digitsValue? [v, w]) (← digitsValue? [x])
  | [a, b, c, d, '-', m, n, '-', x, y] => do
    Date.ofParts? (← digitsValue? [a, b, c, d]) (← digitsValue? [m, n]) (← digitsValue? [x, y])
  | [a, b, c, d, m, n, x, y] => do
    Date.ofParts? (← digitsValue? [a, b, c, d]) (← digitsValue? [m, n]) (← digitsValue? [x, y])
  | _ => none

/-- A sign starts the offset. -/
def isSign (c : Char) : Bool := c = '+' || c = '-'

/-- The time of a day; what is left over behind the clock reading is passed over when an offset
follows it. -/
def readTime? (hasOffset : Bool) (cs : List Char) : Option Nat := do
  let c ← ClockReading.read? cs
  if c.leftover ∧ ¬ hasOffset then none
  else if c.hour ≤ 23 ∧ c.minute ≤ 59 ∧ c.second ≤ 59 then
    some (c.seconds * perSecond + c.microsecond)
  else none

/-- An offset: less than a day to either side. One of no whole second is zero. -/
def readOffset? : List Char → Option (Option Int)
  | [] => some none
  | sign :: cs => do
    let c ← ClockReading.read? cs
    let size := c.seconds * perSecond + c.microsecond
    if c.leftover then none
    else if c.seconds = 0 then some (some 0)
    else if size < perDay then some (some (if sign = '-' then -(size : Int) else size))
    else none

/-- The timestamp that characters without `Z` write. -/
def ofChars? (cs : List Char) : Option Timestamp := do
  let n ← dateLength? cs
  let date ← readDate? (cs.take n)
  match cs.drop n with
  | [] => return ⟨date, 0, none⟩
  | _ :: behind =>
    let time := behind.takeWhile fun c => !isSign c
    let offset := behind.dropWhile fun c => !isSign c
    return ⟨date, ← readTime? (!offset.isEmpty) time, ← readOffset? offset⟩

/-- The timestamp that a text writes. -/
def read? (s : String) : Option Timestamp :=
  ofChars? (replaceChar 'Z' "+00:00".toList s.toList)

/-- An offset that is not known is taken to be UTC. -/
def orUtc (t : Timestamp) : Timestamp := { t with offset := some (t.offset.getD 0) }

/-- The timestamp that a text writes, in UTC when it does not say more. -/
def parse? (s : String) : Option Timestamp := (read? s).map orUtc

/-- The instant: microseconds of UTC, counted from a fixed day. -/
def instant (t : Timestamp) : Int :=
  (t.date.ordinal * perDay + t.clock : Nat) - t.offset.getD 0

/-- A fraction of a second, when it is not zero. -/
def fractionText (microsecond : Nat) : List Char :=
  if microsecond = 0 then [] else '.' :: zeroPadded 6 microsecond

/-- The written form of an offset: seconds and a fraction only when they are not zero. -/
def offsetText (offset : Int) : List Char :=
  let size := offset.natAbs
  let seconds := size / perSecond
  let fraction := size % perSecond
  let tail :=
    if seconds % 60 = 0 ∧ fraction = 0 then []
    else ':' :: (zeroPadded 2 (seconds % 60) ++ fractionText fraction)
  (if offset < 0 then '-' else '+') ::
    (zeroPadded 2 (seconds / 3600) ++ ':' :: zeroPadded 2 (seconds / 60 % 60) ++ tail)

/-- The written form of a timestamp. -/
def text (t : Timestamp) : String :=
  let seconds := t.clock / perSecond
  String.ofList <|
    zeroPadded 4 t.date.year ++ '-' :: zeroPadded 2 t.date.month ++ '-' :: zeroPadded 2 t.date.day ++
      'T' :: zeroPadded 2 (seconds / 3600) ++ ':' :: zeroPadded 2 (seconds / 60 % 60) ++
      ':' :: zeroPadded 2 (seconds % 60) ++ fractionText (t.clock % perSecond) ++
      (t.offset.map offsetText).getD []

end Timestamp

end Workbench
