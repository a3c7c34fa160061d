/-!
# Tagged values

The distinguished encoding of nested values: a tag, a length in the fewest octets, and contents.

* `Der.Value`, `Der.value?`: one value, and the reader of one at the front of a list of octets;
* `Der.Reader`, `Der.all?`: readers of octets, and a reader that has to use up all of them;
* `Der.groups`, `Der.sevenBitNumber`: numbers in groups of seven bits;
* `Der.sequence`, `Der.many`: the shapes that values are built with;
* `Der.integer`, `Der.natural`, `Der.octetsOf`, `Der.identifier`, `Der.bitString`, `Der.truth`,
  `Der.ascending`: what the contents of a value have to satisfy.
-/

namespace Workbench.Der

/-- Octets. -/
abbrev Octets := List UInt8

/-- A value: the octets of its tag, its contents, and all its octets. -/
structure Value where
  tag : Octets
  contents : Octets
  encoded : Octets

/-- Reads octets from the front, or fails. -/
abbrev Reader := StateT Octets Option

/-- The number that octets write, the greatest weight first. -/
def number (os : Octets) : Nat := os.foldl (fun n o => n * 256 + o.toNat) 0

/-- Fails unless a condition holds. -/
def check (holds : Bool) : Reader Unit := if holds then return () else failure

/-! ## Tags and lengths -/

/-- One octet. -/
def octet : Reader UInt8 := fun
  | [] => none
  | o :: os => some (o, os)

/-- A number of octets. -/
def take (n : Nat) : Reader Octets := fun os =>
  if n ≤ os.length then some (os.take n, os.drop n) else none

/-- Groups of seven bits, one an octet, `left` of them at most: the high bit says that another one
follows. -/
def groupsUpTo : (left : Nat) → Reader Octets
  | 0 => failure
  | left + 1 => do
    let o ← octet
    if o < 0x80 then return [o] else return o :: (← groupsUpTo left)

/-- The number that groups of seven bits write, the greatest weight first. -/
def sevenBitNumber (os : Octets) : Nat := os.foldl (fun n o => n * 128 + o.toNat % 128) 0

/-- The groups of one number below `bound`, in the fewest octets: the first group is not empty when
another one follows. -/
def groups (bound : Nat) : Reader Octets := do
  let os ← groupsUpTo (← get).length
  check (os.head? != some 0x80 && sevenBitNumber os < bound)
  return os

/-- Tag numbers are below this. -/
def tagBound : Nat := Nat.pow 2 32

/-- A tag. A number that fits into the first octet stands there. -/
def tag : Reader Octets := do
  let o ← octet
  if o &&& 0x1F = 0x1F then
    let os ← groups tagBound
    check (0x1F ≤ sevenBitNumber os)
    return o :: os
  else return [o]

/-- A length: short below 128, else in the fewest octets, four at most. -/
def length : Reader Nat := do
  let o ← octet
  if o < 0x80 then return o.toNat
  else if 0x81 ≤ o ∧ o ≤ 0x84 then
    let os ← take (o.toNat - 0x80)
    let n := number os
    if n < 0x80 ∨ os.head? = some 0 then failure else return n
  else failure

/-- One value. -/
def value : Reader Value := fun os => do
  let (t, rest) ← tag os
  let (n, rest) ← length rest
  let (contents, rest) ← take n rest
  return (⟨t, contents, os.take (os.length - rest.length)⟩, rest)

/-! ## Shapes -/

/-- The result of a reader that uses up all octets. -/
def all? {α : Type} (r : Reader α) (os : Octets) : Option α :=
  match r os with
  | some (a, []) => some a
  | _ => none

/-- The contents of a value with the tag `t`. -/
def tagged (t : UInt8) : Reader Octets := do
  let v ← value
  if v.tag = [t] then return v.contents else failure

/-- A value with the tag `t` whose contents `r` reads up. -/
def within {α : Type} (t : UInt8) (r : Reader α) : Reader α := do
  match all? r (← tagged t) with
  | some a => return a
  | none => failure

/-- A sequence. -/
def sequence {α : Type} (r : Reader α) : Reader α := within 0x30 r

/-- The next value has the tag `t`. -/
def nextIs (t : UInt8) : Reader Bool := fun os =>
  some ((os.head? == some t), os)

/-- A part that is there when the next tag is `t`. -/
def optional {α : Type} (t : UInt8) (r : Reader α) : Reader (Option α) := do
  if ← nextIs t then return some (← r) else return none

/-- The same part again and again up to the end, `fuel` times at most: a part has two octets at
least, so the number of octets is enough. -/
def manyUpTo {α : Type} (r : Reader α) : (fuel : Nat) → Reader (List α)
  | 0 => return []
  | fuel + 1 => do
    if (← get).isEmpty then return []
    else
      let a ← r
      return a :: (← manyUpTo r fuel)

/-- The same part again and again up to the end. -/
def many {α : Type} (r : Reader α) : Reader (List α) := do
  manyUpTo r (← get).length

/-! ## Contents -/

/-- An integer is not empty and has no octet that its sign makes superfluous. -/
def isMinimal : Octets → Bool
  | [] => false
  | [_] => true
  | a :: b :: _ => !(a = 0 && b < 0x80) && !(a = 0xFF && 0x80 ≤ b)

/-- An integer. -/
def integer : Reader Octets := do
  let os ← tagged 0x02
  check (isMinimal os)
  return os

/-- An integer that is not negative. -/
def natural : Reader Nat := do
  let os ← integer
  check (os.head?.any (· < 0x80))
  return number os

/-- An integer that is not negative, in a number of bits. -/
def naturalOf (bits : Nat) : Reader Nat := do
  let n ← natural
  check (n < Nat.pow 2 bits)
  return n

/-- As many octets as `size` says. -/
def octetsOf (size : Nat) : Reader Unit := do
  check ((← tagged 0x04).length = size)

/-- The numbers of an identifier are below this. -/
def arcBound : Nat := Nat.pow 2 128

/-- An identifier has at most this many octets. -/
def identifierLimit : Nat := 63

/-- The arcs of an identifier, by its numbers: the first number stands for two arcs, of which the
first is at most 2. -/
def arcs : List Nat → List Nat
  | [] => []
  | n :: ns => if n < 80 then n / 40 :: n % 40 :: ns else 2 :: (n - 80) :: ns

/-- The identifier of an object, as its arcs. -/
def identifier : Reader (List Nat) := do
  let os ← tagged 0x06
  check (!os.isEmpty && os.length ≤ identifierLimit)
  match all? (many (groups arcBound)) os with
  | some numbers => return arcs (numbers.map sevenBitNumber)
  | none => failure

/-- The value without contents. -/
def null : Reader Unit := do
  check (← tagged 0x05).isEmpty

/-- The contents of a bit string: the number of unused bits, seven at most, which are zero in the
last octet. -/
def isBitString : Octets → Bool
  | [] => false
  | unused :: data =>
    unused ≤ 7 &&
      (unused = 0 || data.getLast?.any fun o => o.toNat % Nat.pow 2 unused.toNat = 0)

/-- A bit string with the tag `t`. -/
def bitString (t : UInt8) : Reader Unit := do
  check (isBitString (← tagged t))

/-- A truth value that is written out: it is true, since false is left out. -/
def truth : Reader Unit := do
  check ((← tagged 0x01) = [0xFF])

/-- Octet strings in order: the first octet that differs decides, and an end comes before
everything. -/
def lessEq : Octets → Octets → Bool
  | [], _ => true
  | _ :: _, [] => false
  | a :: as, b :: bs => a < b || (a = b && lessEq as bs)

/-- Values in ascending order of their octets. -/
def ascending : List Octets → Bool
  | a :: b :: rest => lessEq a b && ascending (b :: rest)
  | _ => true

/-- A part, together with the octets that it was read from. -/
def withOctets {α : Type} (r : Reader α) : Reader Octets := fun os => do
  let (_, rest) ← r os
  return (os.take (os.length - rest.length), rest)

/-- A set of parts, in ascending order. -/
def setOf {α : Type} (r : Reader α) : Reader Unit := do
  let parts ← within 0x31 (many (withOctets r))
  check (ascending parts)

end Workbench.Der
