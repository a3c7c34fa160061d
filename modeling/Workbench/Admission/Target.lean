import Workbench.Doc.Reader
import Workbench.Text.Search

/-!
# Request targets

A request names what it is sent to by a reference: a scheme and an authority, either of which may be
left out, then a path, a query and a fragment. Only the path counts.

* `Target.ofText`: the parts of a reference that decide on its path;
* `Target.unescape`: escapes undone where none was needed;
* `Target.withoutDots`: a path without the segments that only lead around;
* `Target.location`: the path that a reference leads to.
-/

namespace Workbench

/-- A reference: its authority, and its path as written. -/
structure Target where
  authority : List Char
  path : List Char

namespace Target

/-! ## Parts -/

/-- A control character of ASCII, or a space. -/
def isControlOrSpace (c : Char) : Bool := c.toNat ≤ 0x20

/-- A character that is dropped wherever it stands. -/
def isDropped (c : Char) : Bool := c = '\t' || c = '\r' || c = '\n'

/-- A reference without what is passed over in it. -/
def cleaned (cs : List Char) : List Char :=
  (cs.dropWhile isControlOrSpace).filter fun c => !isDropped c

/-- A character of a scheme. -/
def isSchemeChar (c : Char) : Bool := c.isAlphanum || c = '+' || c = '-' || c = '.'

/-- What follows the scheme, everything when there is none. -/
def afterScheme (cs : List Char) : List Char :=
  match cs.takeWhile isSchemeChar, cs.dropWhile isSchemeChar with
  | _ :: _, ':' :: rest => rest
  | _, _ => cs

/-- A character that ends the authority. -/
def endsAuthority (c : Char) : Bool := c = '/' || c = '?' || c = '#'

/-- The authority behind two slashes, empty when they are missing, and what follows it. -/
def authorityAhead (cs : List Char) : List Char × List Char :=
  match cs with
  | '/' :: '/' :: rest =>
    (rest.takeWhile fun c => !endsAuthority c, rest.dropWhile fun c => !endsAuthority c)
  | _ => ([], cs)

/-- A character that ends the path. -/
def endsPath (c : Char) : Bool := c = '?' || c = '#'

/-- The authority and the path of a reference. -/
def ofText (text : String) : Target :=
  let (authority, rest) := authorityAhead (afterScheme (cleaned text.toList))
  ⟨authority, rest.takeWhile fun c => !endsPath c⟩

/-! ## Paths -/

/-- A character that means the same whether it is escaped or not. -/
def isUnreserved (c : Char) : Bool :=
  c.isAlphanum || c = '-' || c = '.' || c = '_' || c = '~'

/-- The unreserved character that two digits in base sixteen stand for. -/
def unreserved? (a b : Char) : Option Char := do
  let c := Char.ofNat ((← Doc.hexDigit? a) * 16 + (← Doc.hexDigit? b))
  if isUnreserved c then some c else none

/-- Every escape of an unreserved character becomes the character. -/
def unescape : List Char → List Char
  | '%' :: a :: b :: cs =>
    match unreserved? a b with
    | some c => c :: unescape cs
    | none => '%' :: unescape (a :: b :: cs)
  | c :: cs => c :: unescape cs
  | [] => []

/-- The segment that stays where it is. -/
def here : List Char := ['.']

/-- The segment that leads back by one. -/
def back : List Char := ['.', '.']

/-- A segment put behind others, or taken as a direction. -/
def follow (path : List (List Char)) (segment : List Char) : List (List Char) :=
  if segment = back then path.dropLast
  else if segment = here then path
  else path ++ [segment]

/-- The segments of a path without directions. A path that ends in one ends in a slash. -/
def followAll (segments : List (List Char)) : List (List Char) :=
  let path := segments.foldl follow []
  match segments.getLast? with
  | some last => if last = back ∨ last = here then path ++ [[]] else path
  | none => path

/-- A path without directions. -/
def withoutDots (path : List Char) : List Char :=
  match path with
  | '/' :: rest => '/' :: List.intercalate ['/'] (followAll (Text.splitAt '/' rest))
  | _ => List.intercalate ['/'] (followAll (Text.splitAt '/' path))

/-- The path that a reference leads to. Directions are followed under an authority only. -/
def location (t : Target) : List Char :=
  let path := unescape t.path
  if t.authority.isEmpty then path else withoutDots path

end Target

end Workbench
