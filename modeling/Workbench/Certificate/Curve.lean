import Workbench.Certificate.Der

/-!
# Curves

The curve that a key lies on. It is named, left to the context, or described in full.

* `Certificate.primeField`: the identifier of the fields that a described curve may be over;
* `Certificate.describedCurve`: a description;
* `Certificate.curve`: a curve in any of the three ways.
-/

namespace Workbench.Certificate

open Der

/-- The arcs of the fields of residues by a prime. -/
def primeField : List Nat := [1, 2, 840, 10045, 1, 1]

/-- The field that a curve is over: the residues by a number. -/
def field : Reader Unit := sequence do
  check ((← identifier) = primeField)
  discard natural

/-- The two coefficients of a curve, and perhaps the seed that they were made from. -/
def coefficients : Reader Unit := sequence do
  discard (tagged 0x04)
  discard (tagged 0x04)
  discard (optional 0x03 (bitString 0x03))

/-- The description of a curve: a version, the field, the coefficients, a point, how often that point
has to be added up to vanish, and perhaps how many times as many points there are. -/
def describedCurve : Reader Unit := sequence do
  discard (naturalOf 8)
  field
  coefficients
  discard (tagged 0x04)
  discard natural
  discard (optional 0x02 (naturalOf 8))

/-- A curve: its identifier, the value without contents, or its description. -/
def curve : Reader Unit := do
  if ← nextIs 0x06 then discard identifier
  else if ← nextIs 0x05 then null
  else describedCurve

end Workbench.Certificate
