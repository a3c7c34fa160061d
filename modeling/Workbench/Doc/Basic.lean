import Workbench.Numeral.Decimal

/-!
# Documents

Every object of a cluster is a document: null, a truth value, an integer, a real, a text, a list,
or an object whose members have an order.

* `Doc`: the type, with decidable equality `Doc.decEq`;
* `Doc.Fold`, `Doc.fold`: what a traversal does at each kind of node, and the traversal;
  `fold_arr` and `fold_obj` say that it maps over the parts;
* `setMember`, `dropMember`: the members of an object with one set in place or added at the end,
  and with one left out.
-/

namespace Workbench

/-- A document. -/
inductive Doc where
  | null
  | bool (value : Bool)
  | int (value : Int)
  | real (value : Decimal)
  | str (value : String)
  | arr (items : List Doc)
  | obj (members : List (String × Doc))
  deriving Inhabited

/-- A member of an object. -/
abbrev Member := String × Doc

namespace Doc

instance : Coe String Doc := ⟨.str⟩

instance : Coe Bool Doc := ⟨.bool⟩

instance : Coe (List Doc) Doc := ⟨.arr⟩

instance (n : Nat) : OfNat Doc n := ⟨.int n⟩

/-- The object without members. -/
def empty : Doc := .obj []

/-! ## Equality -/

mutual

/-- Documents are equal when they are written with the same parts in the same order. -/
def beq : Doc → Doc → Bool
  | .null, .null => true
  | .bool a, .bool b => a == b
  | .int a, .int b => a == b
  | .real a, .real b => a == b
  | .str a, .str b => a == b
  | .arr a, .arr b => beqItems a b
  | .obj a, .obj b => beqMembers a b
  | _, _ => false
termination_by structural a => a

/-- Equality of lists, item by item. -/
def beqItems : List Doc → List Doc → Bool
  | [], [] => true
  | a :: as, b :: bs => beq a b && beqItems as bs
  | _, _ => false
termination_by structural a => a

/-- Equality of members, in order. -/
def beqMembers : List Member → List Member → Bool
  | [], [] => true
  | a :: as, b :: bs => beqMember a b && beqMembers as bs
  | _, _ => false
termination_by structural a => a

/-- Equality of one member. -/
def beqMember : Member → Member → Bool
  | (j, a), (k, b) => j == k && beq a b
termination_by structural a => a

end

mutual

theorem eq_of_beq : ∀ {a b : Doc}, beq a b = true → a = b
  | .null, b, h => by cases b <;> simp_all [beq]
  | .bool _, b, h => by cases b <;> simp_all [beq]
  | .int _, b, h => by cases b <;> simp_all [beq]
  | .real _, b, h => by cases b <;> simp_all [beq]
  | .str _, b, h => by cases b <;> simp_all [beq]
  | .arr _, b, h => by
    cases b with
    | arr => exact congrArg _ (eq_of_beqItems h)
    | _ => simp [beq] at h
  | .obj _, b, h => by
    cases b with
    | obj => exact congrArg _ (eq_of_beqMembers h)
    | _ => simp [beq] at h

theorem eq_of_beqItems : ∀ {as bs : List Doc}, beqItems as bs = true → as = bs
  | [], bs, h => by cases bs <;> simp_all [beqItems]
  | a :: as, bs, h => by
    cases bs with
    | nil => simp [beqItems] at h
    | cons b bs =>
      simp only [beqItems, Bool.and_eq_true] at h
      rw [eq_of_beq h.1, eq_of_beqItems h.2]

theorem eq_of_beqMembers : ∀ {as bs : List Member}, beqMembers as bs = true → as = bs
  | [], bs, h => by cases bs <;> simp_all [beqMembers]
  | a :: as, bs, h => by
    cases bs with
    | nil => simp [beqMembers] at h
    | cons b bs =>
      simp only [beqMembers, Bool.and_eq_true] at h
      rw [eq_of_beqMember h.1, eq_of_beqMembers h.2]

theorem eq_of_beqMember : ∀ {a b : Member}, beqMember a b = true → a = b
  | (j, a), (k, b), h => by
    simp only [beqMember, Bool.and_eq_true, beq_iff_eq] at h
    rw [h.1, eq_of_beq h.2]

end

mutual

theorem beq_self : ∀ a : Doc, beq a a = true
  | .null | .bool _ | .int _ | .real _ | .str _ => by simp [beq]
  | .arr as => beqItems_self as
  | .obj as => beqMembers_self as

theorem beqItems_self : ∀ as : List Doc, beqItems as as = true
  | [] => rfl
  | a :: as => by simp [beqItems, beq_self a, beqItems_self as]

theorem beqMembers_self : ∀ as : List Member, beqMembers as as = true
  | [] => rfl
  | a :: as => by simp [beqMembers, beqMember_self a, beqMembers_self as]

theorem beqMember_self : ∀ a : Member, beqMember a a = true
  | (j, a) => by simp [beqMember, beq_self a]

end

/-- Equality of documents is decided by `beq`. -/
instance decEq : DecidableEq Doc := fun a b =>
  if h : beq a b = true then isTrue (eq_of_beq h)
  else isFalse fun e => h (e ▸ beq_self a)

/-! ## Traversal -/

/-- What a traversal does at each kind of node. -/
structure Fold (α : Type) where
  null : α
  bool : Bool → α
  int : Int → α
  real : Decimal → α
  str : String → α
  arr : List α → α
  obj : List (String × α) → α

/-- The traversal that builds the document again. -/
def Fold.rebuild : Fold Doc := ⟨.null, .bool, .int, .real, .str, .arr, .obj⟩

mutual

/-- The traversal of a document, parts first. -/
def fold {α : Type} (f : Fold α) : Doc → α
  | .null => f.null
  | .bool b => f.bool b
  | .int n => f.int n
  | .real r => f.real r
  | .str s => f.str s
  | .arr items => f.arr (foldItems f items)
  | .obj members => f.obj (foldMembers f members)
termination_by structural d => d

/-- The traversal of every item. -/
def foldItems {α : Type} (f : Fold α) : List Doc → List α
  | [] => []
  | d :: ds => fold f d :: foldItems f ds
termination_by structural ds => ds

/-- The traversal of every member. -/
def foldMembers {α : Type} (f : Fold α) : List Member → List (String × α)
  | [] => []
  | m :: ms => foldMember f m :: foldMembers f ms
termination_by structural ms => ms

/-- The traversal of one member. -/
def foldMember {α : Type} (f : Fold α) : Member → String × α
  | (k, d) => (k, fold f d)
termination_by structural m => m

end

theorem foldItems_eq_map {α : Type} (f : Fold α) :
    ∀ items : List Doc, foldItems f items = items.map (fold f)
  | [] => rfl
  | d :: ds => congrArg (fold f d :: ·) (foldItems_eq_map f ds)

theorem foldMembers_eq_map {α : Type} (f : Fold α) :
    ∀ members : List Member, foldMembers f members = members.map fun m => (m.1, fold f m.2)
  | [] => rfl
  | (k, d) :: ms => congrArg ((k, fold f d) :: ·) (foldMembers_eq_map f ms)

@[simp] theorem fold_arr {α : Type} (f : Fold α) (items : List Doc) :
    fold f (.arr items) = f.arr (items.map (fold f)) :=
  congrArg f.arr (foldItems_eq_map f items)

@[simp] theorem fold_obj {α : Type} (f : Fold α) (members : List Member) :
    fold f (.obj members) = f.obj (members.map fun m => (m.1, fold f m.2)) :=
  congrArg f.obj (foldMembers_eq_map f members)

end Doc

/-! ## Members -/

/-- The members with `name` set: in place when it is there, else at the end. -/
def setMember {α : Type} (name : String) (value : α) : List (String × α) → List (String × α)
  | [] => [(name, value)]
  | (k, v) :: ms => if k = name then (k, value) :: ms else (k, v) :: setMember name value ms

/-- The members without `name`. -/
def dropMember {α : Type} (name : String) (members : List (String × α)) : List (String × α) :=
  members.filter fun m => m.1 ≠ name

end Workbench
