import Workbench.Certificate.Curve

/-!
# Algorithms

An algorithm is named by an identifier, and the identifier decides which parameters may follow it.

* `Certificate.Parameters`: the kinds of parameters;
* `Certificate.Parameters.of`: the kind for an algorithm, by its arcs; an algorithm that is not known
  may have any parameters;
* `Certificate.algorithm`: an algorithm with its parameters.
-/

namespace Workbench.Certificate

open Der

/-- What may follow the identifier of an algorithm. -/
inductive Parameters where
  /-- Nothing. -/
  | absent
  /-- Nothing, or the value without contents. -/
  | nullOrAbsent
  /-- A curve. -/
  | curve
  /-- Three numbers, for signatures over a group of residues. -/
  | residues
  /-- Two numbers for an agreement on a key, and perhaps the length of the private part. -/
  | agreement
  /-- Three numbers for an agreement on a key, and perhaps how they were made. -/
  | provenAgreement
  /-- Nothing, or how a probabilistic signature is made. -/
  | probabilistic
  /-- The octets that a cipher starts with. -/
  | start (size : Nat)
  /-- Perhaps a number that stands for the size of the key, and the octets that a cipher starts
  with. -/
  | sizedStart (size : Nat)
  /-- Salt and a number of rounds; the salt has a size of its own, or any. -/
  | salted (size : Option Nat)
  /-- How a password becomes a key by rounds of a code. -/
  | derivation
  /-- How a password becomes a key at a cost in memory. -/
  | costlyDerivation
  /-- An algorithm that makes a key of a password, and one that encrypts with that key. -/
  | passwordScheme
  /-- At most one value. -/
  | any
  deriving DecidableEq

/-- The kind of parameters of an algorithm, by its arcs. -/
def Parameters.of : (arcs : List Nat) → Parameters
  | [1, 2, 840, 113549, 1, 1, n] =>
    if n = 10 then .probabilistic
    else if n = 1 ∨ n = 5 ∨ 11 ≤ n ∧ n ≤ 14 then .nullOrAbsent
    else .any
  | [1, 2, 840, 113549, 1, 3, 1] => .agreement
  | [1, 2, 840, 113549, 1, 5, n] =>
    if n = 3 then .salted (some 8)
    else if n = 12 then .derivation
    else if n = 13 then .passwordScheme
    else .any
  | [1, 2, 840, 113549, 1, 12, 1, n] =>
    if n = 1 ∨ n = 3 ∨ n = 6 then .salted none else .any
  | [1, 2, 840, 113549, 2, n] => if 7 ≤ n ∧ n ≤ 11 then .nullOrAbsent else .any
  | [1, 2, 840, 113549, 3, n] =>
    if n = 2 then .sizedStart 8
    else if n = 7 then .start 8
    else .any
  | [1, 2, 840, 10040, 4, 1] => .residues
  | [1, 2, 840, 10045, 2, 1] => .curve
  | [1, 2, 840, 10045, 4, 3, n] => if 1 ≤ n ∧ n ≤ 4 then .absent else .any
  | [1, 2, 840, 10046, 2, 1] => .provenAgreement
  | [1, 3, 6, 1, 4, 1, 11591, 4, 11] => .costlyDerivation
  | [1, 3, 14, 3, 2, n] => if n = 26 ∨ n = 29 then .nullOrAbsent else .any
  | [1, 3, 101, n] => if 110 ≤ n ∧ n ≤ 113 then .absent else .any
  | [2, 16, 840, 1, 101, 3, 4, 1, n] =>
    if n = 2 ∨ n = 22 ∨ n = 42 then .start 16 else .any
  | [2, 16, 840, 1, 101, 3, 4, 2, n] =>
    if 1 ≤ n ∧ n ≤ 4 ∨ 7 ≤ n ∧ n ≤ 10 then .nullOrAbsent else .any
  | [2, 16, 840, 1, 101, 3, 4, 3, n] =>
    if 1 ≤ n ∧ n ≤ 4 ∨ 9 ≤ n ∧ n ≤ 12 ∨ 17 ≤ n ∧ n ≤ 19 then .absent
    else if 13 ≤ n ∧ n ≤ 16 then .nullOrAbsent
    else .any
  | [2, 16, 840, 1, 101, 3, 4, 4, n] => if 1 ≤ n ∧ n ≤ 3 then .absent else .any
  | _ => .any

/-! ## Groups -/

/-- The parameters of signatures over a group of residues. -/
def residues : Reader Unit := sequence do
  discard natural
  discard natural
  discard natural

/-- The parameters of an agreement on a key. -/
def agreement : Reader Unit := sequence do
  discard natural
  discard natural
  discard (optional 0x02 (naturalOf 32))

/-- The parameters of an agreement on a key, with the size of the group. -/
def provenAgreement : Reader Unit := sequence do
  discard natural
  discard natural
  discard natural
  discard (optional 0x02 natural)
  discard (optional 0x30 (tagged 0x30))

/-! ## Parts with a default -/

/-- A part that is left out when it would be `default`, so that it is another one. -/
def otherThan (default : Octets) (r : Reader Unit) : Reader Unit := do
  check ((← withOctets r) != default)

/-- The older hash algorithm, with its parameters written out: the one that is meant when a
probabilistic signature names none. -/
def defaultHash : Octets :=
  [0x30, 0x09, 0x06, 0x05, 0x2B, 0x0E, 0x03, 0x02, 0x1A, 0x05, 0x00]

/-- The mask that is meant when a probabilistic signature names none: made with that hash. -/
def defaultMask : Octets :=
  [0x30, 0x16, 0x06, 0x09, 0x2A, 0x86, 0x48, 0x86, 0xF7, 0x0D, 0x01, 0x01, 0x08] ++ defaultHash

/-- The length of salt that is meant when a probabilistic signature gives none. -/
def defaultSalt : Octets := [0x02, 0x01, 0x14]

/-- The code that is meant when a derivation names none: made with the older hash, its parameters
written out. -/
def defaultCode : Octets :=
  [0x30, 0x0C, 0x06, 0x08, 0x2A, 0x86, 0x48, 0x86, 0xF7, 0x0D, 0x02, 0x07, 0x05, 0x00]

/-- How a probabilistic signature is made: its hash, its mask, the length of its salt, and its
trailer. `algorithm` reads an algorithm. -/
def probabilistic (algorithm : Reader Unit) : Reader Unit := sequence do
  discard (optional 0xA0 (within 0xA0 (otherThan defaultHash algorithm)))
  discard <| optional 0xA1 <| within 0xA1 <| otherThan defaultMask <| sequence do
    discard identifier
    algorithm
  discard (optional 0xA2 (within 0xA2 (otherThan defaultSalt (discard (naturalOf 16)))))
  discard (optional 0xA3 (within 0xA3 (naturalOf 8)))

/-! ## Passwords and ciphers -/

/-- Perhaps the size of the key, and the octets that a cipher starts with. -/
def sizedStart (size : Nat) : Reader Unit := sequence do
  discard (optional 0x02 (naturalOf 32))
  octetsOf size

/-- Salt, and a number of rounds. -/
def salted (size : Option Nat) : Reader Unit := sequence do
  match size with
  | some n => octetsOf n
  | none => discard (tagged 0x04)
  discard (naturalOf 64)

/-- How a password becomes a key by rounds of a code: salt, the number of rounds, perhaps the length
of the key, and the code. `algorithm` reads an algorithm. -/
def derivation (algorithm : Reader Unit) : Reader Unit := sequence do
  discard (tagged 0x04)
  discard (naturalOf 64)
  discard (optional 0x02 (naturalOf 64))
  discard (optional 0x30 (otherThan defaultCode algorithm))

/-- How a password becomes a key at a cost in memory: salt, three numbers that make up the cost, and
perhaps the length of the key. -/
def costlyDerivation : Reader Unit := sequence do
  discard (tagged 0x04)
  discard (naturalOf 64)
  discard (naturalOf 64)
  discard (naturalOf 64)
  discard (optional 0x02 (naturalOf 32))

/-- An algorithm that makes a key of a password, and one that encrypts with it. -/
def passwordScheme (algorithm : Reader Unit) : Reader Unit := sequence do
  algorithm
  algorithm

/-! ## Algorithms -/

/-- Parameters of a kind. `algorithm` reads an algorithm inside them. -/
def Parameters.reader (algorithm : Reader Unit) : Parameters → Reader Unit
  | absent => return ()
  | nullOrAbsent => discard (optional 0x05 null)
  | curve => Certificate.curve
  | residues => Certificate.residues
  | agreement => Certificate.agreement
  | provenAgreement => Certificate.provenAgreement
  | probabilistic => discard (optional 0x30 (Certificate.probabilistic algorithm))
  | start size => octetsOf size
  | sizedStart size => Certificate.sizedStart size
  | salted size => Certificate.salted size
  | derivation => Certificate.derivation algorithm
  | costlyDerivation => Certificate.costlyDerivation
  | passwordScheme => Certificate.passwordScheme algorithm
  | any => do if !(← get).isEmpty then discard value

/-- An algorithm with its parameters, inside of which stand `depth` further ones at most. -/
def algorithmUpTo : (depth : Nat) → Reader Unit
  | 0 => failure
  | depth + 1 => sequence do
    (Parameters.of (← identifier)).reader (algorithmUpTo depth)

/-- An algorithm with its parameters. Each algorithm inside it is shorter, so the number of octets is
depth enough. -/
def algorithm : Reader Unit := do
  algorithmUpTo (← get).length

end Workbench.Certificate
