import Workbench.Certificate.Pem

/-!
# Blocks of texts that follow each other

A search for a mark starts again behind every line feed, so what stands on a line of its own is found
whatever stands before it. Only a block that begins and is not finished reaches over the line feed.

* `Pem.remainder`, `Pem.isClosed`: what follows the last block of a text, and that no block begins
  there;
* `armourAhead?_append`, `armourAhead?_lineFeed`: the first block of a text with another one behind
  it, when the text has a block, and when none even begins in it;
* `armours_lineFeed`, **`blocks?_lineFeed`**: all blocks of a closed text and another one behind it.
-/

namespace Workbench.Pem

variable {mark wanted before rest cs ds : List Char} {n : Nat} {a : Armour}

/-! ## Marks -/

theorem endOf?_append (ds : List Char) (h : endOf? mark wanted cs = some n) :
    endOf? mark wanted (cs ++ ds) = some n := by
  induction cs generalizing wanted n with
  | nil =>
    cases wanted with
    | nil => cases ds <;> exact h
    | cons w wanted => cases h
  | cons c cs ih =>
    cases wanted with
    | nil => exact h
    | cons w wanted =>
      obtain ⟨k, hk, rfl⟩ := Option.map_eq_some_iff.mp h
      rw [List.cons_append, endOf?, ih hk]
      rfl

theorem endOf?_le (h : endOf? mark wanted cs = some n) : n ≤ cs.length := by
  induction cs generalizing wanted n with
  | nil =>
    cases wanted with
    | nil =>
      cases h
      exact Nat.le_refl 0
    | cons w wanted => cases h
  | cons c cs ih =>
    cases wanted with
    | nil =>
      cases h
      exact Nat.zero_le _
    | cons w wanted =>
      obtain ⟨k, hk, rfl⟩ := Option.map_eq_some_iff.mp h
      exact Nat.succ_le_succ (ih hk)

theorem endOf?_lineFeed (hmark : '\n' ∉ mark) (hwanted : '\n' ∉ wanted)
    (h : endOf? mark wanted cs = none) (ds : List Char) :
    endOf? mark wanted (cs ++ '\n' :: ds) =
      (endOf? mark mark ds).map (· + (cs.length + 1)) := by
  induction cs generalizing wanted with
  | nil =>
    cases wanted with
    | nil => cases h
    | cons w wanted =>
      have hw : w ≠ '\n' := fun hw => hwanted (hw ▸ List.mem_cons_self)
      rw [List.nil_append, endOf?, if_neg hw]
      rfl
  | cons c cs ih =>
    cases wanted with
    | nil => cases h
    | cons w wanted =>
      have hnext : '\n' ∉ if w = c then wanted else mark := by
        split
        · exact fun hmem => hwanted (List.mem_cons_of_mem _ hmem)
        · exact hmark
      rw [List.cons_append, endOf?, ih hnext (Option.map_eq_none_iff.mp h), Option.map_map]
      rfl

theorem after?_append (ds : List Char) (h : after? mark cs = some (before, rest)) :
    after? mark (cs ++ ds) = some (before, rest ++ ds) := by
  obtain ⟨n, hn, heq⟩ := Option.map_eq_some_iff.mp h
  cases heq
  have hle := endOf?_le hn
  rw [after?, endOf?_append ds hn, Option.map_some, List.drop_append_of_le_length hle,
    List.take_append_of_le_length (by omega)]

theorem after?_shorter (hmark : mark ≠ []) (h : after? mark cs = some (before, rest)) :
    rest.length < cs.length := by
  obtain ⟨n, hn, heq⟩ := Option.map_eq_some_iff.mp h
  cases heq
  have hle := endOf?_le hn
  have hpos : 0 < n := by
    cases mark with
    | nil => exact absurd rfl hmark
    | cons w mark =>
      cases cs with
      | nil => cases hn
      | cons c cs =>
        obtain ⟨k, -, rfl⟩ := Option.map_eq_some_iff.mp hn
        exact Nat.succ_pos k
  rw [List.length_drop]
  omega

theorem after?_lineFeed (hmark : '\n' ∉ mark) (h : after? mark cs = none) (ds : List Char) :
    (after? mark (cs ++ '\n' :: ds)).map Prod.snd = (after? mark ds).map Prod.snd := by
  rw [after?, after?, endOf?_lineFeed hmark hmark (Option.map_eq_none_iff.mp h), Option.map_map,
    Option.map_map, Option.map_map]
  refine congrArg (Option.map · _) (funext fun n => ?_)
  have hsplit : cs ++ '\n' :: ds = (cs ++ ['\n']) ++ ds := by simp
  change (cs ++ '\n' :: ds).drop (n + (cs.length + 1)) = ds.drop n
  rw [hsplit, List.drop_append]
  simp

/-! ## The first block -/

/-- The block whose label begins a text. -/
def armourFrom? (cs : List Char) : Option (Armour × List Char) := do
  let (label, cs) ← after? labelMark cs
  let (body, cs) ← after? endMark (cs.dropWhile isGap)
  let (endLabel, cs) ← after? labelMark cs
  return (⟨label, body, endLabel⟩, cs)

theorem armourAhead?_eq (cs : List Char) :
    armourAhead? cs = ((after? beginMark cs).map Prod.snd).bind armourFrom? := by
  rw [armourAhead?, Option.bind_map]
  rfl

theorem armourAhead?_eq_some_iff : armourAhead? cs = some (a, rest) ↔
    ∃ before cs₁ cs₂ cs₃, after? beginMark cs = some (before, cs₁) ∧
      after? labelMark cs₁ = some (a.label, cs₂) ∧
      after? endMark (cs₂.dropWhile isGap) = some (a.body, cs₃) ∧
      after? labelMark cs₃ = some (a.endLabel, rest) := by
  obtain ⟨label, body, endLabel⟩ := a
  rw [armourAhead?]
  constructor
  · intro h
    obtain ⟨⟨before, cs₁⟩, h₁, h⟩ := Option.bind_eq_some_iff.mp h
    obtain ⟨⟨_, cs₂⟩, h₂, h⟩ := Option.bind_eq_some_iff.mp h
    obtain ⟨⟨_, cs₃⟩, h₃, h⟩ := Option.bind_eq_some_iff.mp h
    obtain ⟨⟨_, cs₄⟩, h₄, heq⟩ := Option.bind_eq_some_iff.mp h
    cases heq
    exact ⟨before, cs₁, cs₂, cs₃, h₁, h₂, h₃, h₄⟩
  · rintro ⟨before, cs₁, cs₂, cs₃, h₁, h₂, h₃, h₄⟩
    simp only [h₁, h₂, h₃, h₄, Option.bind_eq_bind, Option.bind_some]
    rfl

/-- The first block of a text stays so when more follows. -/
theorem armourAhead?_append (ds : List Char) (h : armourAhead? cs = some (a, rest)) :
    armourAhead? (cs ++ ds) = some (a, rest ++ ds) := by
  obtain ⟨before, cs₁, cs₂, cs₃, h₁, h₂, h₃, h₄⟩ := armourAhead?_eq_some_iff.mp h
  have hbody : (cs₂ ++ ds).dropWhile isGap = cs₂.dropWhile isGap ++ ds := by
    rw [List.dropWhile_append, if_neg]
    intro hempty
    rw [List.isEmpty_iff.mp hempty] at h₃
    cases h₃
  refine armourAhead?_eq_some_iff.mpr ⟨before, cs₁ ++ ds, cs₂ ++ ds, cs₃ ++ ds,
    after?_append ds h₁, after?_append ds h₂, ?_, after?_append ds h₄⟩
  rw [hbody]
  exact after?_append ds h₃

theorem armourAhead?_shorter (h : armourAhead? cs = some (a, rest)) : rest.length < cs.length := by
  obtain ⟨before, cs₁, cs₂, cs₃, h₁, h₂, h₃, h₄⟩ := armourAhead?_eq_some_iff.mp h
  have h₁ := after?_shorter (by decide) h₁
  have h₂ := after?_shorter (by decide) h₂
  have h₃ := after?_shorter (by decide) h₃
  have h₄ := after?_shorter (by decide) h₄
  have hgaps := (List.dropWhile_sublist isGap (l := cs₂)).length_le
  omega

/-- Behind a text in which no block begins, the first block is the one without the text. -/
theorem armourAhead?_lineFeed (h : after? beginMark cs = none) (ds : List Char) :
    armourAhead? (cs ++ '\n' :: ds) = armourAhead? ds := by
  rw [armourAhead?_eq, armourAhead?_eq, after?_lineFeed (by decide) h]

/-! ## All blocks -/

/-- What follows the last block of a text, of which `fuel` are passed over at most. -/
def remainder : (fuel : Nat) → List Char → List Char
  | 0, cs => cs
  | fuel + 1, cs =>
    match armourAhead? cs with
    | none => cs
    | some (_, rest) => remainder fuel rest

/-- No block begins behind the last block of a text. -/
def isClosed (s : String) : Bool :=
  (after? beginMark (remainder s.toList.length s.toList)).isNone

theorem armours_of_le {fuel fuel' : Nat} (h : cs.length ≤ fuel) (h' : cs.length ≤ fuel') :
    armours fuel cs = armours fuel' cs := by
  have hnil : ∀ fuel, armours fuel [] = [] := fun fuel => by cases fuel <;> rfl
  induction fuel generalizing cs fuel' with
  | zero =>
    obtain rfl := List.eq_nil_of_length_eq_zero (Nat.le_zero.mp h)
    rw [hnil, hnil]
  | succ fuel ih =>
    cases fuel' with
    | zero =>
      obtain rfl := List.eq_nil_of_length_eq_zero (Nat.le_zero.mp h')
      rw [hnil, hnil]
    | succ fuel' =>
      rw [armours, armours]
      cases hcs : armourAhead? cs with
      | none => rfl
      | some found =>
        have hshorter := armourAhead?_shorter hcs
        exact congrArg (_ :: ·) (ih (by omega) (by omega))

theorem armours_congr (h : armourAhead? cs = armourAhead? ds) (fuel : Nat) :
    armours fuel cs = armours fuel ds := by
  cases fuel with
  | zero => rfl
  | succ fuel => rw [armours, armours, h]

theorem armours_of_noMark {fuel : Nat} (h : after? beginMark cs = none)
    (hfuel : ds.length ≤ fuel) :
    armours fuel (cs ++ '\n' :: ds) = armours ds.length ds := by
  rw [armours_congr (armourAhead?_lineFeed h ds)]
  exact armours_of_le hfuel (Nat.le_refl _)

/-- The blocks of a closed text, and those of a text behind it. -/
theorem armours_lineFeed {fuel fuel' : Nat} (h : cs.length ≤ fuel)
    (hclosed : after? beginMark (remainder fuel cs) = none)
    (h' : cs.length + ds.length < fuel') :
    armours fuel' (cs ++ '\n' :: ds) = armours fuel cs ++ armours ds.length ds := by
  induction fuel generalizing cs fuel' with
  | zero => exact armours_of_noMark hclosed (by omega)
  | succ fuel ih =>
    rw [remainder] at hclosed
    rw [armours]
    cases hcs : armourAhead? cs with
    | none =>
      rw [hcs] at hclosed
      exact armours_of_noMark hclosed (by omega)
    | some found =>
      obtain ⟨a, rest⟩ := found
      have hshorter := armourAhead?_shorter hcs
      rw [hcs] at hclosed
      cases fuel' with
      | zero => omega
      | succ fuel' =>
        rw [armours, armourAhead?_append _ hcs]
        exact congrArg (a :: ·) (ih (by omega) hclosed (by omega))

/-- **The blocks of a closed text, a line feed and another text are those of the two texts.** -/
theorem blocks?_lineFeed {s t : String} (h : isClosed s = true) :
    blocks? (s ++ "\n" ++ t) = do return (← blocks? s) ++ (← blocks? t) := by
  have hchars : (s ++ "\n" ++ t).toList = s.toList ++ '\n' :: t.toList := by
    simp [String.toList_append]
  have hlength : s.toList.length + t.toList.length < (s.toList ++ '\n' :: t.toList).length := by
    simp
  rw [blocks?, hchars, armours_lineFeed (Nat.le_refl _) (Option.isNone_iff_eq_none.mp h) hlength,
    List.mapM_append]
  rfl

end Workbench.Pem
