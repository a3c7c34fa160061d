import Mathlib.Tactic.Positivity
import Mathlib.Tactic.Ring
import Workbench.Doc.Reader
import Workbench.Numeral.Layout

/-!
# Written numbers

A number is known by its text: the parts of a decimal in lowest terms can be told from the digits, the
point and the exponent that are written for it.

* `FiniteDecimal.ofDigits_lowest`, `FiniteDecimal.ofDigits_shift`: bringing digits into lowest terms;
* `digitsAhead_append`, `fractionAhead_point`, `exponentAhead_exponentText`: what the written parts of
  a real are read as;
* `integerOf_integerText`, `FiniteDecimal.ofText_layout`: a number is known by its text;
* `FiniteDecimal.areNumerals_layout`, `FiniteDecimal.exists_isMark_layout`: a real is written with a
  point or an exponent; `not_isMark_of_mem_integerText`: an integer with neither.
-/

namespace Workbench

open Doc

variable {ds rest whole fraction : List Char}

/-! ## Digits -/

/-- All of the characters are digits. -/
def AreDigits (ds : List Char) : Prop := ∀ c ∈ ds, c.isDigit = true

/-- No digit stands at the front. -/
def EndsDigits (rest : List Char) : Prop := ∀ c ∈ rest.head?, c.isDigit = false

theorem areDigits_append {es : List Char} : AreDigits (ds ++ es) ↔ AreDigits ds ∧ AreDigits es :=
  List.forall_mem_append

theorem areDigits_decimalDigits (n : Nat) : AreDigits (decimalDigits n) :=
  fun _ hc => Nat.isDigit_of_mem_toDigits (by decide) (by decide) hc

theorem areDigits_replicate_zero (n : Nat) : AreDigits (List.replicate n '0') :=
  fun _ hc => (List.eq_of_mem_replicate hc).symm ▸ rfl

theorem decimalDigits_ne_nil (n : Nat) : decimalDigits n ≠ [] := Nat.toDigits_ne_nil

theorem endsDigits_nil : EndsDigits [] := fun _ h => by cases h

theorem endsDigits_cons {c : Char} (hc : c.isDigit = false) : EndsDigits (c :: rest) := by
  rintro _ ⟨⟩
  exact hc

/-- Digits are read up to the first character that is none. -/
theorem digitsAhead_append (hds : AreDigits ds) (hrest : EndsDigits rest) :
    digitsAhead (ds ++ rest) = (ds, rest) := by
  rw [digitsAhead, List.takeWhile_append_of_pos hds, List.dropWhile_append_of_pos hds]
  cases rest with
  | nil => rw [List.takeWhile_nil, List.dropWhile_nil, List.append_nil]
  | cons c rest =>
    have hc : ¬ c.isDigit = true := by simpa using hrest c rfl
    rw [List.takeWhile_cons_of_neg hc, List.dropWhile_cons_of_neg hc, List.append_nil]

theorem ofDigits_eq (ds : List Char) : Doc.ofDigits ds = Nat.ofDigitChars 10 ds 0 := rfl

@[simp] theorem ofDigits_decimalDigits (n : Nat) : Doc.ofDigits (decimalDigits n) = n :=
  Nat.ofDigitChars_ten_toDigits

theorem ofDigits_zeros_append (n : Nat) (ds : List Char) :
    Doc.ofDigits (List.replicate n '0' ++ ds) = Doc.ofDigits ds := by
  rw [ofDigits_eq, Nat.ofDigitChars_append, Nat.ofDigitChars_replicate_zero, Nat.mul_zero, ofDigits_eq]

theorem ofDigits_append_zeros (ds : List Char) (n : Nat) :
    Doc.ofDigits (ds ++ List.replicate n '0') = 10 ^ n * Doc.ofDigits ds := by
  rw [ofDigits_eq, Nat.ofDigitChars_append, Nat.ofDigitChars_replicate_zero, ofDigits_eq]

/-! ## Integers -/

/-- The integer that a sign and digits write. -/
def integerOf : List Char → Int
  | '-' :: ds => -(Doc.ofDigits ds : Int)
  | ds => Doc.ofDigits ds

theorem integerOf_digits (hds : AreDigits ds) : integerOf ds = Doc.ofDigits ds := by
  unfold integerOf
  split
  · next ds => exact absurd (hds '-' (List.mem_cons_self ..)) (by decide)
  · rfl

@[simp] theorem integerOf_integerText (n : Int) : integerOf (integerText n) = n := by
  cases n with
  | ofNat n =>
    rw [integerText, integerOf_digits (areDigits_decimalDigits n), ofDigits_decimalDigits]
    rfl
  | negSucc n =>
    rw [integerText, integerOf, ofDigits_decimalDigits]
    rfl

/-! ## The parts of a real -/

/-- The digits after a point are read when there are any. -/
theorem fractionAhead_point (hds : AreDigits ds) (hne : ds ≠ []) (hrest : EndsDigits rest) :
    fractionAhead ('.' :: (ds ++ rest)) = (ds, rest) := by
  obtain ⟨d, ds, rfl⟩ := List.exists_cons_of_ne_nil hne
  rw [fractionAhead, digitsAhead_append hds hrest]

theorem exponentAhead_minus (hds : AreDigits ds) (hne : ds ≠ []) :
    exponentAhead ('e' :: '-' :: ds) = (some (-(Doc.ofDigits ds : Int)), []) := by
  have hread := digitsAhead_append hds endsDigits_nil
  rw [List.append_nil] at hread
  obtain ⟨d, ds, rfl⟩ := List.exists_cons_of_ne_nil hne
  simp [exponentAhead, hread]

theorem exponentAhead_plus (hds : AreDigits ds) (hne : ds ≠ []) :
    exponentAhead ('e' :: '+' :: ds) = (some (Doc.ofDigits ds : Int), []) := by
  have hread := digitsAhead_append hds endsDigits_nil
  rw [List.append_nil] at hread
  obtain ⟨d, ds, rfl⟩ := List.exists_cons_of_ne_nil hne
  simp [exponentAhead, hread]

theorem exponentText_eq (e : Int) : ∃ ds, AreDigits ds ∧ ds ≠ [] ∧ Doc.ofDigits ds = e.natAbs ∧
    FiniteDecimal.exponentText e = (if e < 0 then '-' else '+') :: ds := by
  have hdigits := areDigits_decimalDigits e.natAbs
  rw [FiniteDecimal.exponentText]
  by_cases hshort : (decimalDigits e.natAbs).length < 2
  · rw [if_pos hshort]
    refine ⟨_, List.forall_mem_cons.mpr ⟨rfl, hdigits⟩, List.cons_ne_nil _ _, ?_, rfl⟩
    exact (ofDigits_zeros_append 1 _).trans (ofDigits_decimalDigits _)
  · rw [if_neg hshort]
    exact ⟨_, hdigits, decimalDigits_ne_nil _, ofDigits_decimalDigits _, rfl⟩

theorem exponentAhead_exponentText (e : Int) :
    exponentAhead ('e' :: FiniteDecimal.exponentText e) = (some e, []) := by
  obtain ⟨ds, hds, hne, hvalue, htext⟩ := exponentText_eq e
  rw [htext]
  split_ifs with he
  · rw [exponentAhead_minus hds hne, hvalue, Int.ofNat_natAbs_of_nonpos he.le, neg_neg]
  · rw [exponentAhead_plus hds hne, hvalue, Int.natAbs_of_nonneg (not_lt.mp he)]

/-! ## Lowest terms -/

namespace FiniteDecimal

variable {negative : Bool} {n : Nat} {e : Int}

/-- What is in lowest terms is left alone. -/
theorem ofDigits_lowest (h : n = 0 ∧ e = 0 ∨ n % 10 ≠ 0) :
    ofDigits negative n e = ⟨negative, n, e, h⟩ := by
  rw [ofDigits]
  rcases h with ⟨rfl, rfl⟩ | h
  · rw [dif_pos rfl, zero]
  · rw [dif_neg (by rintro rfl; exact h rfl), dif_neg h]

/-- Zeros at the end go into the exponent. -/
theorem ofDigits_shift (hn : n ≠ 0) : ∀ (k : Nat) (e : Int),
    ofDigits negative (10 ^ k * n) e = ofDigits negative n (e + k)
  | 0, e => by simp
  | k + 1, e => by
    have hstep : 10 ^ (k + 1) * n = 10 * (10 ^ k * n) := by ring
    have hne : 10 ^ k * n ≠ 0 := Nat.mul_ne_zero (by positivity) hn
    rw [ofDigits, hstep, dif_neg (by omega), dif_pos (Nat.mul_mod_right 10 _),
      Nat.mul_div_cancel_left _ (by decide), ofDigits_shift hn k]
    congr 1
    push_cast
    ring

/-! ## Reals -/

/-- The digits and the exponent that are written without a sign. -/
def partsOf (cs : List Char) : Nat × Int :=
  let (whole, rest) := digitsAhead cs
  let (fraction, rest) := fractionAhead rest
  (Doc.ofDigits (whole ++ fraction), (exponentAhead rest).1.getD 0 - fraction.length)

theorem partsOf_point (hwhole : AreDigits whole) (hfraction : AreDigits fraction)
    (hne : fraction ≠ []) (hrest : EndsDigits rest) : partsOf (whole ++ '.' :: (fraction ++ rest)) =
      (Doc.ofDigits (whole ++ fraction), (exponentAhead rest).1.getD 0 - fraction.length) := by
  rw [partsOf, digitsAhead_append hwhole (endsDigits_cons rfl)]
  dsimp only
  rw [fractionAhead_point hfraction hne hrest]

theorem partsOf_exponent (hwhole : AreDigits whole) (e : Int) :
    partsOf (whole ++ 'e' :: exponentText e) = (Doc.ofDigits whole, e) := by
  have hends : EndsDigits ('e' :: exponentText e) := endsDigits_cons rfl
  have hread := digitsAhead_append hwhole hends
  have hnone : fractionAhead ('e' :: exponentText e) = ([], 'e' :: exponentText e) := rfl
  simp [partsOf, hread, hnone, exponentAhead_exponentText]

/-- The decimal that the parts are brought to. -/
def ofParts (negative : Bool) (parts : Nat × Int) : FiniteDecimal :=
  ofDigits negative parts.1 parts.2

section Parts

variable {d : FiniteDecimal} {k : Nat} {e : Int}

theorem ofParts_eq (hd : d.digits ≠ 0) (he : e + k = d.exponent) :
    ofParts d.negative (10 ^ k * d.digits, e) = d := by
  rw [ofParts, ofDigits_shift hd, he, ofDigits_lowest d.lowest]

theorem ofParts_point (hd : d.digits ≠ 0) (hwhole : AreDigits whole) (hfraction : AreDigits fraction)
    (hne : fraction ≠ []) (hrest : EndsDigits rest)
    (hvalue : Doc.ofDigits (whole ++ fraction) = 10 ^ k * d.digits)
    (he : (exponentAhead rest).1.getD 0 - fraction.length + k = d.exponent) :
    ofParts d.negative (partsOf (whole ++ '.' :: (fraction ++ rest))) = d := by
  rw [partsOf_point hwhole hfraction hne hrest, hvalue]
  exact ofParts_eq hd he

theorem ofParts_fraction (hd : d.digits ≠ 0) (hwhole : AreDigits whole)
    (hfraction : AreDigits fraction) (hne : fraction ≠ [])
    (hvalue : Doc.ofDigits (whole ++ fraction) = 10 ^ k * d.digits)
    (he : -(fraction.length : Int) + k = d.exponent) :
    ofParts d.negative (partsOf (whole ++ '.' :: fraction)) = d := by
  have hread := ofParts_point hd hwhole hfraction hne endsDigits_nil hvalue
    (by simpa [exponentAhead] using he)
  rwa [List.append_nil] at hread

variable {digits : List Char}

theorem ofParts_positional (hd : d.digits ≠ 0) (hdigits : AreDigits digits)
    (hvalue : Doc.ofDigits digits = d.digits) (hne : digits ≠ []) :
    ofParts d.negative (partsOf (positional digits (d.exponent + digits.length))) = d := by
  have hzero : AreDigits ['0'] := areDigits_replicate_zero 1
  rw [positional]
  split_ifs with hpoint hlength
  · -- All digits stand after the point.
    have hzeros := areDigits_replicate_zero (-(d.exponent + digits.length)).toNat
    refine ofParts_fraction (k := 0) hd hzero (areDigits_append.mpr ⟨hzeros, hdigits⟩)
      (List.append_ne_nil_of_right_ne_nil _ hne) ?_ ?_
    · rw [← List.append_assoc, ← List.replicate_one, List.replicate_append_replicate,
        ofDigits_zeros_append, hvalue, pow_zero, one_mul]
    · rw [List.length_append, List.length_replicate]
      omega
  · -- All digits stand before the point, and zeros may follow them.
    obtain ⟨k, hk⟩ : ∃ k, k = (d.exponent + digits.length - digits.length).toNat := ⟨_, rfl⟩
    rw [← hk, show ['.', '0'] = '.' :: ['0'] from rfl]
    refine ofParts_fraction (k := k + 1) hd
      (areDigits_append.mpr ⟨hdigits, areDigits_replicate_zero k⟩) hzero (List.cons_ne_nil _ _) ?_ ?_
    · rw [List.append_assoc, ← List.replicate_one, List.replicate_append_replicate,
        ofDigits_append_zeros, hvalue]
    · rw [List.length_singleton]
      omega
  · -- The point stands between digits.
    obtain ⟨hbefore, hafter⟩ := areDigits_append.mp
      ((List.take_append_drop (d.exponent + digits.length).toNat digits).symm ▸ hdigits)
    refine ofParts_fraction (k := 0) hd hbefore hafter ?_ ?_ ?_
    · rw [ne_eq, List.drop_eq_nil_iff]
      omega
    · rw [List.take_append_drop, hvalue, pow_zero, one_mul]
    · rw [List.length_drop]
      omega

theorem ofParts_scientific (hd : d.digits ≠ 0) (hdigits : AreDigits digits)
    (hvalue : Doc.ofDigits digits = d.digits) (hne : digits ≠ []) :
    ofParts d.negative (partsOf (scientific digits (d.exponent + digits.length - 1))) = d := by
  match digits, hne with
  | [c], _ =>
    rw [scientific, ← List.singleton_append, partsOf_exponent hdigits, hvalue]
    have hread := ofParts_eq (k := 0) (e := d.exponent + ([c] : List Char).length - 1) hd (by simp)
    rwa [pow_zero, one_mul] at hread
  | c :: c' :: cs, _ =>
    have hwhole : AreDigits [c] :=
      List.forall_mem_singleton.mpr (hdigits c (List.mem_cons_self ..))
    have hfraction : AreDigits (c' :: cs) := fun x hx => hdigits x (List.mem_cons_of_mem _ hx)
    have hends :
        EndsDigits ('e' :: exponentText (d.exponent + (c :: c' :: cs).length - 1)) :=
      endsDigits_cons rfl
    refine ofParts_point (k := 0) hd hwhole hfraction (List.cons_ne_nil _ _) hends ?_ ?_
    · rw [List.singleton_append, hvalue, pow_zero, one_mul]
    · rw [exponentAhead_exponentText, Option.getD_some, List.length_cons, List.length_cons]
      push_cast
      ring

end Parts

theorem ofParts_magnitude (d : FiniteDecimal) : ofParts d.negative (partsOf d.magnitude) = d := by
  rw [magnitude]
  split_ifs with hzero
  · obtain ⟨negative, n, e, hlowest⟩ := d
    obtain rfl : n = 0 := by simpa [isZero] using hzero
    obtain ⟨-, rfl⟩ := hlowest.resolve_right (by decide)
    rw [show partsOf ['0', '.', '0'] = (0, -1) by decide, ofParts, ofDigits, dif_pos rfl, zero]
  · have hd : d.digits ≠ 0 := by simpa [isZero] using hzero
    have hdigits := areDigits_decimalDigits d.digits
    have hne := decimalDigits_ne_nil d.digits
    dsimp only
    split_ifs
    · exact ofParts_positional hd hdigits (ofDigits_decimalDigits _) hne
    · exact ofParts_scientific hd hdigits (ofDigits_decimalDigits _) hne

theorem exists_digit_positional (hds : AreDigits ds) (hne : ds ≠ []) (point : Int) :
    ∃ c cs, positional ds point = c :: cs ∧ c.isDigit = true := by
  obtain ⟨d, ds, rfl⟩ := List.exists_cons_of_ne_nil hne
  have hd := hds d (List.mem_cons_self ..)
  rw [positional]
  split_ifs with hpoint
  · exact ⟨'0', _, rfl, rfl⟩
  · exact ⟨d, _, rfl, hd⟩
  · obtain ⟨n, hn⟩ : ∃ n, point.toNat = n + 1 := ⟨point.toNat - 1, by omega⟩
    rw [hn]
    exact ⟨d, _, rfl, hd⟩

theorem exists_digit_scientific (hds : AreDigits ds) (hne : ds ≠ []) (e : Int) :
    ∃ c cs, scientific ds e = c :: cs ∧ c.isDigit = true := by
  match ds, hne with
  | [d], _ => exact ⟨d, _, rfl, hds d (List.mem_cons_self ..)⟩
  | d :: _ :: _, _ => exact ⟨d, _, rfl, hds d (List.mem_cons_self ..)⟩

theorem exists_digit_magnitude (d : FiniteDecimal) :
    ∃ c cs, d.magnitude = c :: cs ∧ c.isDigit = true := by
  have hdigits := areDigits_decimalDigits d.digits
  have hne := decimalDigits_ne_nil d.digits
  rw [magnitude]
  dsimp only
  split_ifs
  exacts [⟨'0', _, rfl, rfl⟩, exists_digit_positional hdigits hne _,
    exists_digit_scientific hdigits hne _]

/-- The decimal that a sign and a text without one write. -/
def ofText : List Char → FiniteDecimal
  | '-' :: cs => ofParts true (partsOf cs)
  | cs => ofParts false (partsOf cs)

@[simp] theorem ofText_layout (d : FiniteDecimal) : ofText d.layout = d := by
  have hparts := ofParts_magnitude d
  rw [layout]
  split_ifs with hnegative
  · rwa [hnegative] at hparts
  · rw [Bool.not_eq_true] at hnegative
    rw [hnegative] at hparts
    obtain ⟨c, cs, htext, hdigit⟩ := exists_digit_magnitude d
    rw [htext] at hparts ⊢
    unfold ofText
    split
    · next cs' heq =>
      cases heq
      exact absurd hdigit (by decide)
    · exact hparts

end FiniteDecimal

/-! ## Characters of numbers -/

/-- A character that tells a real from an integer. -/
def isMark (c : Char) : Bool := c = '.' || c = 'e'

/-- A character of a written number. -/
def isNumeral (c : Char) : Bool := c.isDigit || c = '-' || c = '+' || isMark c

/-- All of the characters are those of numbers. -/
def AreNumerals (cs : List Char) : Prop := ∀ c ∈ cs, isNumeral c = true

theorem areNumerals_cons {c : Char} (hc : isNumeral c = true) (h : AreNumerals ds) :
    AreNumerals (c :: ds) := List.forall_mem_cons.mpr ⟨hc, h⟩

theorem AreNumerals.append {es : List Char} (h : AreNumerals ds) (h' : AreNumerals es) :
    AreNumerals (ds ++ es) := List.forall_mem_append.mpr ⟨h, h'⟩

theorem AreDigits.areNumerals (h : AreDigits ds) : AreNumerals ds :=
  fun c hc => by simp [isNumeral, h c hc]

theorem areNumerals_integerText (n : Int) : AreNumerals (integerText n) := by
  cases n with
  | ofNat n => exact (areDigits_decimalDigits n).areNumerals
  | negSucc n => exact areNumerals_cons rfl (areDigits_decimalDigits (n + 1)).areNumerals

theorem not_isMark_of_mem_integerText {n : Int} {c : Char} (hc : c ∈ integerText n) :
    isMark c = false := by
  have hdigit : ∀ {m : Nat}, c ∈ decimalDigits m → isMark c = false := by
    intro m hm
    have h := areDigits_decimalDigits m c hm
    rw [isMark, Bool.or_eq_false_iff, decide_eq_false_iff_not, decide_eq_false_iff_not]
    constructor <;> (rintro rfl; exact absurd h (by decide))
  cases n with
  | ofNat n => exact hdigit hc
  | negSucc n =>
    rcases List.mem_cons.mp hc with rfl | hc
    · rfl
    · exact hdigit hc

namespace FiniteDecimal

theorem areNumerals_exponentText (e : Int) : AreNumerals (exponentText e) := by
  obtain ⟨ds, hds, -, -, htext⟩ := exponentText_eq e
  rw [htext]
  exact areNumerals_cons (by split_ifs <;> rfl) hds.areNumerals

theorem areNumerals_positional (hds : AreDigits ds) (point : Int) :
    AreNumerals (positional ds point) := by
  rw [positional]
  split_ifs
  · exact areNumerals_cons rfl (areNumerals_cons rfl
      ((areDigits_replicate_zero _).areNumerals.append hds.areNumerals))
  · exact (hds.areNumerals.append (areDigits_replicate_zero _).areNumerals).append
      (areNumerals_cons rfl (areNumerals_cons rfl (List.forall_mem_nil _)))
  · rw [← List.take_append_drop point.toNat ds, areDigits_append] at hds
    exact hds.1.areNumerals.append (areNumerals_cons rfl hds.2.areNumerals)

theorem areNumerals_scientific (hds : AreDigits ds) (e : Int) : AreNumerals (scientific ds e) := by
  have hexponent := areNumerals_cons (c := 'e') rfl (areNumerals_exponentText e)
  match ds with
  | [] => exact List.forall_mem_nil _
  | [d] => exact hds.areNumerals.append hexponent
  | d :: d' :: ds =>
    obtain ⟨hd, hds⟩ := List.forall_mem_cons.mp hds.areNumerals
    exact areNumerals_cons hd (areNumerals_cons rfl (AreNumerals.append hds hexponent))

theorem areNumerals_layout (d : FiniteDecimal) : AreNumerals d.layout := by
  have hmagnitude : AreNumerals d.magnitude := by
    have hdigits := areDigits_decimalDigits d.digits
    have hzero : AreNumerals ['0', '.', '0'] := List.all_eq_true.mp rfl
    rw [magnitude]
    dsimp only
    split_ifs
    exacts [hzero, areNumerals_positional hdigits _,
      areNumerals_scientific hdigits _]
  rw [layout]
  split_ifs
  exacts [areNumerals_cons rfl hmagnitude, hmagnitude]

/-- A real has a point or an exponent. -/
theorem exists_isMark_layout (d : FiniteDecimal) : ∃ c ∈ d.layout, isMark c = true := by
  have hpositional : ∀ ds point, '.' ∈ positional ds point := by
    intro ds point
    rw [positional]
    split_ifs <;> simp
  have hscientific : ∀ ds e, ds ≠ [] → 'e' ∈ scientific ds e := by
    intro ds e hne
    match ds, hne with
    | [d], _ => simp [scientific]
    | d :: d' :: ds, _ => simp [scientific]
  have hmagnitude : ∃ c ∈ d.magnitude, isMark c = true := by
    rw [magnitude]
    dsimp only
    split_ifs
    exacts [⟨'.', by decide, rfl⟩, ⟨'.', hpositional _ _, rfl⟩,
      ⟨'e', hscientific _ _ (decimalDigits_ne_nil _), rfl⟩]
  rw [layout]
  split_ifs
  · obtain ⟨c, hc, hmark⟩ := hmagnitude
    exact ⟨c, List.mem_cons_of_mem _ hc, hmark⟩
  · exact hmagnitude

end FiniteDecimal

end Workbench
