/-!
# Searching text

Plain searches over lists of characters.

* `hasInfix`: whether a text occurs inside another;
* `splitAt`: the pieces between the occurrences of a character;
* `replaceChar`: every occurrence of a character exchanged for a text;
* `oneLineEnd`: one line feed for every way of ending a line.
-/

namespace Workbench.Text

/-- `sub` begins `cs`. -/
def hasPrefix : List Char → List Char → Bool
  | [], _ => true
  | _ :: _, [] => false
  | s :: sub, c :: cs => s == c && hasPrefix sub cs

/-- `sub` occurs in `cs`. -/
def hasInfix (sub : List Char) : List Char → Bool
  | [] => sub.isEmpty
  | c :: cs => hasPrefix sub (c :: cs) || hasInfix sub cs

/-- The pieces of a text between the occurrences of `sep`: one more than the occurrences. -/
def splitAt (sep : Char) : List Char → List (List Char)
  | [] => [[]]
  | c :: cs =>
    if c = sep then [] :: splitAt sep cs
    else match splitAt sep cs with
      | [] => [[c]]
      | piece :: rest => (c :: piece) :: rest

/-- Every `old` exchanged for the characters `new`. -/
def replaceChar (old : Char) (new : List Char) (cs : List Char) : List Char :=
  cs.flatMap fun c => if c = old then new else [c]

/-- A carriage return with a line feed after it, or alone, becomes one line feed. -/
def oneLineEnd : List Char → List Char
  | [] => []
  | '\r' :: '\n' :: cs => '\n' :: oneLineEnd cs
  | c :: cs => (if c = '\r' then '\n' else c) :: oneLineEnd cs

end Workbench.Text
