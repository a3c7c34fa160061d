import Workbench.Calendar
import Workbench.Certificate.Algorithm
import Workbench.Certificate.Pem

/-!
# Certificates

The outer form of a certificate: a version, a serial number, names, a validity and a key, under a
signature. Signatures, keys and the contents of extensions are not looked into.

* `Certificate.version?`: the version of a well formed certificate;
* `Certificate.accepts`: whether a text holds one certificate at least and nothing malformed. A
  certificate of a version that is not supported is an error of its own.
-/

namespace Workbench.Certificate

open Der

/-! ## Parts -/

/-- A character of a printable text. -/
def isPrintable (o : UInt8) : Bool :=
  let c := Char.ofNat o.toNat
  c.isAlphanum || c ∈ " '()+,-./:=?".toList

/-- A unit of sixteen bits that starts a pair. -/
def startsPair (n : Nat) : Bool := 0xD800 ≤ n && n < 0xDC00

/-- A unit of sixteen bits that ends a pair. -/
def endsPair (n : Nat) : Bool := 0xDC00 ≤ n && n < 0xE000

/-- Text in units of sixteen bits: those that start a pair stand before those that end one. -/
def isUnits16 : Octets → Bool
  | [] => true
  | [_] => false
  | a :: b :: rest =>
    let n := number [a, b]
    if endsPair n then false
    else if startsPair n then
      match rest with
      | c :: d :: rest => endsPair (number [c, d]) && isUnits16 rest
      | _ => false
    else isUnits16 rest

/-- Text in units of thirty-two bits, each of which is a character. -/
def isUnits32 : Octets → Bool
  | [] => true
  | a :: b :: c :: d :: rest => (number [a, b, c, d]).isValidChar && isUnits32 rest
  | _ => false

/-- The value of an attribute. Three kinds of text are looked into; others may hold anything. -/
def attributeValue : Reader Unit := do
  let v ← value
  check <|
    if v.tag = [0x13] then v.contents.all isPrintable
    else if v.tag = [0x1E] then isUnits16 v.contents
    else if v.tag = [0x1C] then isUnits32 v.contents
    else true

/-- An attribute of a name. -/
def nameAttribute : Reader Unit := sequence do
  discard identifier
  attributeValue

/-- A name: sets of attributes. -/
def name : Reader Unit := sequence do
  let _ ← many (setOf nameAttribute)

/-- The number that ASCII digits write. -/
def digits? (os : Octets) : Option Nat :=
  os.foldlM (fun n o => if 48 ≤ o ∧ o ≤ 57 then some (10 * n + (o.toNat - 48)) else none) 0

/-- The month, day, hour, minute and second of a time, and the `Z` behind them. -/
def isTimeOfYear (year : Nat) (os : Octets) : Bool :=
  match os with
  | [m, m', d, d', h, h', n, n', s, s', z] =>
    match digits? [m, m'], digits? [d, d'], digits? [h, h'], digits? [n, n'], digits? [s, s'] with
    | some month, some day, some hour, some minute, some second =>
      z = 90 && 1 ≤ day && day ≤ Calendar.daysInMonth year month && hour ≤ 23 && minute ≤ 59 &&
        second ≤ 59
    | _, _, _, _, _ => false
  | _ => false

/-- A time with a year of two digits, from 1950 on. -/
def isShortTime (os : Octets) : Bool :=
  match digits? (os.take 2) with
  | some y => isTimeOfYear (if 50 ≤ y then 1900 + y else 2000 + y) (os.drop 2)
  | none => false

/-- A time with a year of four digits. -/
def isLongTime (os : Octets) : Bool :=
  match digits? (os.take 4) with
  | some y => isTimeOfYear y (os.drop 4)
  | none => false

/-- A time of either kind. -/
def time : Reader Unit := do
  let v ← value
  check ((v.tag = [0x17] && isShortTime v.contents) || (v.tag = [0x18] && isLongTime v.contents))

/-- A version that is written out: from 1 to 255, since version 0 is left out. -/
def version : Reader Nat := within 0xA0 do
  let n ← naturalOf 8
  check (1 ≤ n)
  return n

/-- An extension: its identifier, whether it is critical, and its contents. -/
def extension : Reader Unit := sequence do
  discard identifier
  let _ ← optional 0x01 truth
  let _ ← tagged 0x04

/-- The signed part; the result is the version, 0 when it is left out. -/
def signedPart : Reader Nat := sequence do
  let v ← optional 0xA0 version
  let _ ← integer
  algorithm
  name
  sequence do
    time
    time
  name
  sequence do
    algorithm
    bitString 0x03
  let _ ← optional 0x81 (bitString 0x81)
  let _ ← optional 0x82 (bitString 0x82)
  let _ ← optional 0xA3 (within 0xA3 (sequence (many extension)))
  return v.getD 0

/-- A certificate. -/
def certificate : Reader Nat := sequence do
  let v ← signedPart
  algorithm
  bitString 0x03
  return v

/-! ## Texts of certificates -/

/-- The version of a well formed certificate, counted from 0. -/
def version? (data : Octets) : Option Nat := all? certificate data

/-- The versions that are supported: the first and the third. -/
def supported (version : Nat) : Bool := version == 0 || version == 2

/-- The labels of blocks that hold a certificate. -/
def labels : List (List Char) := ["CERTIFICATE".toList, "X509 CERTIFICATE".toList]

/-- A certificate of a version that is not supported. -/
structure UnsupportedVersion where
  version : Nat
  deriving DecidableEq

/-- The version, in words. -/
def UnsupportedVersion.message (v : UnsupportedVersion) : String :=
  toString v.version ++ " is not a valid X509 version"

/-- Every certificate is well formed. They are looked at in order, and the first one that is
malformed or of an unsupported version decides. -/
def allAccepted : List Octets → Except UnsupportedVersion Bool
  | [] => .ok true
  | data :: rest =>
    match version? data with
    | none => .ok false
    | some v => if supported v then allAccepted rest else .error ⟨v⟩

/-- A text holds one certificate at least and nothing malformed. Blocks with other labels have to
be well formed too, and count for nothing else. -/
def accepts (s : String) : Except UnsupportedVersion Bool :=
  match Pem.blocks? s with
  | none => .ok false
  | some blocks =>
    match blocks.filter (·.label ∈ labels) with
    | [] => .ok false
    | found => allAccepted (found.map (·.data))

end Workbench.Certificate
