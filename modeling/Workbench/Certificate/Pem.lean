import Workbench.Text.Base64
import Workbench.Text.Blank

/-!
# Text armour

Binary data inside a text: a block begins and ends with a labelled boundary line, and holds the data
in base64. Whatever stands between blocks is passed over.

* `Pem.after?`: what stands before and behind a boundary mark;
* `Pem.Block`, `Pem.blocks?`: the blocks of a text; none when one of them is malformed.
-/

namespace Workbench.Pem

/-- The mark that begins a block; its label follows. -/
def beginMark : List Char := "-----BEGIN ".toList

/-- The mark behind the data of a block; the label follows again. -/
def endMark : List Char := "-----END ".toList

/-- The mark behind a label. -/
def labelMark : List Char := "-----".toList

/-- Looks for `mark`, of which `found` characters were seen just before and `wanted` are still
missing. A character that does not fit is passed over, and the search starts again behind it. The
result is the number of characters up to the end of the mark. -/
def endOf? (mark : List Char) : (wanted : List Char) → List Char → Option Nat
  | [], _ => some 0
  | _ :: _, [] => none
  | w :: wanted, c :: cs =>
    (endOf? mark (if w = c then wanted else mark) cs).map (· + 1)

/-- What stands before and behind `mark`. -/
def after? (mark cs : List Char) : Option (List Char × List Char) :=
  (endOf? mark mark cs).map fun n => (cs.take (n - mark.length), cs.drop n)

/-- A block between its boundaries. -/
structure Armour where
  label : List Char
  body : List Char
  endLabel : List Char

/-- A blank behind a boundary. -/
def isGap (c : Char) : Bool := c = ' ' || c = '\t' || c = '\n' || c = '\r'

/-- The first block of a text and what follows it; an unfinished block is none. -/
def armourAhead? (cs : List Char) : Option (Armour × List Char) := do
  let (_, cs) ← after? beginMark cs
  let (label, cs) ← after? labelMark cs
  let (body, cs) ← after? endMark (cs.dropWhile isGap)
  let (endLabel, cs) ← after? labelMark cs
  return (⟨label, body, endLabel⟩, cs)

/-- The blocks of a text, at most `fuel`: every block is longer than its marks, so the length of
the text is enough. -/
def armours : (fuel : Nat) → List Char → List Armour
  | 0, _ => []
  | fuel + 1, cs =>
    match armourAhead? cs with
    | none => []
    | some (a, rest) => a :: armours fuel rest

/-- The lines of a text; a line feed at the end starts no further line. -/
def lines (cs : List Char) : List (List Char) :=
  let step (c : Char) : List (List Char) → List (List Char)
    | [] => if c = '\n' then [[]] else [[c]]
    | l :: ls => if c = '\n' then [] :: l :: ls else (c :: l) :: ls
  cs.foldr step []

/-- The headers of a body and its data: an empty line separates them. -/
def splitHeaders (body : List Char) : List Char × List Char :=
  match after? ['\n', '\n'] body with
  | some found => found
  | none => (after? ['\r', '\n', '\r', '\n'] body).getD ([], body)

/-- The data of a block under its label. -/
structure Block where
  label : List Char
  data : List UInt8

/-- The block between two boundaries: the labels agree and say something, each header has a colon,
and the data is base64. -/
def Armour.block? (a : Armour) : Option Block :=
  let (headers, data) := splitHeaders a.body
  if a.label.isEmpty ∨ a.label ≠ a.endLabel then none
  else if (lines headers).all (':' ∈ ·) then
    (Base64.decode? (data.filter fun c => !Text.isWhiteSpace c)).map (⟨a.label, ·⟩)
  else none

/-- The blocks of a text, when all are well formed. -/
def blocks? (s : String) : Option (List Block) :=
  let cs := s.toList
  (armours cs.length cs).mapM Armour.block?

end Workbench.Pem
