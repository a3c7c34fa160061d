import Workbench.Doc.Order
import Workbench.Numeral.Layout
import Workbench.Text.Quoted

/-!
# Documents as text

* `Doc.write`: the text of a document in ASCII, with the separators given;
* `Doc.compactText`, `Doc.spacedText`: without blanks, and with a blank after each separator;
* `Doc.display`: a document inside a message. A text stands for itself there, but is quoted inside
  a list or an object.
-/

namespace Workbench.Doc

/-- What stands between two items or members, and between a name and its value. -/
structure Separators where
  item : List Char
  member : List Char

/-- Separators without blanks. -/
def compact : Separators := ⟨[','], [':']⟩

/-- Separators with a blank after each. -/
def spaced : Separators := ⟨[',', ' '], [':', ' ']⟩

/-- `opening`, the pieces with `sep` between them, and `closing`. -/
def enclose (opening closing : Char) (sep : List Char) (pieces : List (List Char)) : List Char :=
  opening :: (List.intercalate sep pieces ++ [closing])

/-! ## The written form -/

/-- A unit of sixteen bits as an escape. -/
def unitEscape (n : Nat) : List Char := '\\' :: 'u' :: Text.hexPadded 4 n

/-- A character by its code point, in two units above the first plane. -/
def escapeByUnits (c : Char) : List Char :=
  let n := c.toNat
  if n < 0x10000 then unitEscape n
  else unitEscape (0xD800 + (n - 0x10000) / 0x400) ++ unitEscape (0xDC00 + (n - 0x10000) % 0x400)

/-- One character of a written text: the quote, the backslash and five controls have short escapes,
and what is not printable ASCII is written by its code point. -/
def writeChar (c : Char) : List Char :=
  if c = '\x22' ∨ c = '\\' then ['\\', c]
  else if c = '\n' then ['\\', 'n']
  else if c = '\r' then ['\\', 'r']
  else if c = '\t' then ['\\', 't']
  else if c = '\x08' then ['\\', 'b']
  else if c = '\x0c' then ['\\', 'f']
  else if 0x20 ≤ c.toNat ∧ c.toNat ≤ 0x7E then [c]
  else escapeByUnits c

/-- A written text. -/
def writeString (s : String) : List Char :=
  '\x22' :: (s.toList.flatMap writeChar ++ ['\x22'])

/-- The words for the truth values and null. -/
def writeBool (b : Bool) : List Char := (if b then "true" else "false").toList

/-- How each kind of node is written. -/
def writing (sep : Separators) : Fold (List Char) where
  null := "null".toList
  bool := writeBool
  int := integerText
  real := Decimal.layout Decimal.documentWords
  str := writeString
  arr := enclose '[' ']' sep.item
  obj := fun ms => enclose '\x7b' '\x7d' sep.item (ms.map fun m => writeString m.1 ++ sep.member ++ m.2)

/-- The written form of a document. -/
def write (sep : Separators) : Doc → List Char := fold (writing sep)

/-- The written form without blanks. -/
def compactText (d : Doc) : String := String.ofList (d.write compact)

/-- The written form with a blank after each separator. -/
def spacedText (d : Doc) : String := String.ofList (d.write spaced)

/-! ## Documents inside messages -/

/-- How each kind of node is shown inside a list or an object of a message. -/
def showing : Fold (List Char) where
  null := "None".toList
  bool := fun b => (if b then "True" else "False").toList
  int := integerText
  real := Decimal.layout Decimal.plainWords
  str := fun s => Text.quotedChars s.toList
  arr := enclose '[' ']' spaced.item
  obj := fun ms =>
    enclose '\x7b' '\x7d' spaced.item
      (ms.map fun m => Text.quotedChars m.1.toList ++ spaced.member ++ m.2)

/-- A document inside a message. -/
def display : Doc → String
  | .str s => s
  | d => String.ofList (fold showing d)

end Workbench.Doc
