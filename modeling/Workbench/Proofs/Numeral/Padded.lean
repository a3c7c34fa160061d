import Workbench.Proofs.Numeral.Layout

/-!
# Digits with zeros in front

A number is written in a fixed width: its digits, with zeros in front. In such a form a number is
written digit by digit, and numbers are in the order of their texts.

* `padded`, `padded_succ`, `padded_one`: the digits in a base, one by one;
* `length_padded`, `areDigits_padded`, `ofDigits_padded`: the width, and the number that is written;
* **`padded_append_lt_iff`**: the order of two texts that begin with such numbers.
-/

namespace Workbench

variable {b w m n : Nat} {us vs : List Char}

/-- The digits of `n`, with zeros in front to a width of `w` at least. -/
def padded (b w n : Nat) : List Char :=
  List.replicate (w - (Nat.toDigits b n).length) '0' ++ Nat.toDigits b n

/-- From a width of two on, a number is written digit by digit. -/
theorem padded_succ (hb : 1 < b) (w n : Nat) :
    padded b (w + 2) n = padded b (w + 1) (n / b) ++ [Nat.digitChar (n % b)] := by
  by_cases hn : n < b
  · have hzero : Nat.toDigits b 0 = ['0'] := Nat.toDigits_of_lt_base (by omega)
    rw [padded, padded, Nat.toDigits_of_lt_base hn, Nat.div_eq_of_lt hn, Nat.mod_eq_of_lt hn, hzero]
    simp [List.replicate_succ']
  · rw [padded, padded, Nat.toDigits_of_base_le hb (Nat.le_of_not_lt hn)]
    simp

theorem padded_one (hn : n < b) : padded b 1 n = [Nat.digitChar n] := by
  rw [padded, Nat.toDigits_of_lt_base hn]
  rfl

theorem length_padded (hb : 1 < b) (hn : n < b ^ (w + 1)) : (padded b (w + 1) n).length = w + 1 := by
  have hlength := (Nat.length_toDigits_le_iff hb (Nat.succ_pos w)).mpr hn
  rw [padded, List.length_append, List.length_replicate]
  omega

theorem areDigits_padded (w n : Nat) : AreDigits (padded 10 w n) :=
  areDigits_append.mpr ⟨areDigits_replicate_zero _, areDigits_decimalDigits n⟩

theorem ofDigits_padded (w n : Nat) : Doc.ofDigits (padded 10 w n) = n :=
  (ofDigits_zeros_append _ _).trans (ofDigits_decimalDigits n)

theorem digitChar_lt_iff : ∀ m < 10, ∀ n < 10, (Nat.digitChar m < Nat.digitChar n ↔ m < n) := by
  decide

theorem digitChar_inj : ∀ m < 10, ∀ n < 10, (Nat.digitChar m = Nat.digitChar n ↔ m = n) := by
  decide

/-- **Texts that begin with numbers of one width are in the order of the numbers**, and in that of
what comes behind when the numbers are equal. -/
theorem padded_append_lt_iff (hm : m < 10 ^ (w + 1)) (hn : n < 10 ^ (w + 1)) :
    padded 10 (w + 1) m ++ us < padded 10 (w + 1) n ++ vs ↔ m < n ∨ m = n ∧ us < vs := by
  induction w generalizing m n us vs with
  | zero =>
    rw [padded_one (b := 10) hm, padded_one (b := 10) hn, List.singleton_append, List.singleton_append,
      List.cons_lt_cons_iff, digitChar_lt_iff m hm n hn, digitChar_inj m hm n hn]
  | succ w ih =>
    have hm' : m % 10 < 10 := Nat.mod_lt m (by decide)
    have hn' : n % 10 < 10 := Nat.mod_lt n (by decide)
    -- The last digits count when the numbers before them are equal.
    have hlt : m < n ↔ m / 10 < n / 10 ∨ m / 10 = n / 10 ∧ m % 10 < n % 10 := by omega
    have heq : m = n ↔ m / 10 = n / 10 ∧ m % 10 = n % 10 := by omega
    rw [padded_succ (by decide), padded_succ (by decide), List.append_assoc, List.append_assoc,
      ih (by omega) (by omega), List.singleton_append, List.singleton_append, List.cons_lt_cons_iff,
      digitChar_lt_iff _ hm' _ hn', digitChar_inj _ hm' _ hn', hlt, heq]
    tauto

end Workbench
