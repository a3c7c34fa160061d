import Mathlib.Data.List.Basic
import Workbench.Doc.Printer
import Workbench.Doc.Reader
import Workbench.Proofs.Numeral.Padded

/-!
# Written texts

A text that is written is read back, whatever its characters and whatever follows it.

* `hexPadded_four`, `unitAhead?_hexPadded`: four digits in base sixteen and the unit they write;
* `unitsAhead?_plain`, `unitsAhead?_pair`: characters by one unit, and by two;
* `stringAhead?_writeChar`: one character is read back;
* `stringAhead?_flatMap`: so is a text, up to its closing quote;
* **`writeString_append_inj`**: written texts with one beginning are one text.
-/

namespace Workbench.Doc

open Text

variable {rest : List Char}

/-! ## Units -/

theorem hexPadded_succ (w n : Nat) :
    hexPadded (w + 2) n = hexPadded (w + 1) (n / 16) ++ [Nat.digitChar (n % 16)] :=
  padded_succ (by decide) w n

theorem hexPadded_one {n : Nat} (hn : n < 16) : hexPadded 1 n = [Nat.digitChar n] := padded_one hn

theorem hexPadded_four {n : Nat} (hn : n < 0x10000) : hexPadded 4 n =
    [Nat.digitChar (n / 16 / 16 / 16), Nat.digitChar (n / 16 / 16 % 16), Nat.digitChar (n / 16 % 16),
      Nat.digitChar (n % 16)] := by
  rw [hexPadded_succ, hexPadded_succ, hexPadded_succ, hexPadded_one (by omega)]
  rfl

theorem hexDigit?_digitChar : ∀ {n : Nat}, n < 16 → hexDigit? (Nat.digitChar n) = some n := by decide

theorem unitAhead?_hexPadded {n : Nat} (hn : n < 0x10000) :
    unitAhead? (hexPadded 4 n ++ rest) = some (n, rest) := by
  have hmod : ∀ m, hexDigit? (Nat.digitChar (m % 16)) = some (m % 16) :=
    fun m => hexDigit?_digitChar (Nat.mod_lt m (by decide))
  have hhead := hexDigit?_digitChar (n := n / 16 / 16 / 16) (by omega)
  have hvalue : ((n / 16 / 16 / 16 * 16 + n / 16 / 16 % 16) * 16 + n / 16 % 16) * 16 + n % 16 = n := by
    omega
  rw [hexPadded_four hn]
  simp only [unitAhead?, List.cons_append, hhead, hmod, Option.bind_eq_bind, Option.bind_some, hvalue]
  rfl

theorem unitEscape_append (n : Nat) :
    unitEscape n ++ rest = '\\' :: 'u' :: (hexPadded 4 n ++ rest) := rfl

/-- A unit that is no half of a pair stands for itself. -/
theorem unitsAhead?_plain {n : Nat} (hn : n < 0x10000) (hpair : ¬ (0xD800 ≤ n ∧ n ≤ 0xDFFF)) :
    unitsAhead? (hexPadded 4 n ++ rest) = some (Char.ofNat n, rest) := by
  have hlead : ¬ (0xD800 ≤ n ∧ n ≤ 0xDBFF) := by omega
  simp [unitsAhead?, unitAhead?_hexPadded hn, hlead, unitChar, hpair]

/-- Two halves make a character above the first plane. -/
theorem unitsAhead?_pair {n m : Nat} (hn : 0xD800 ≤ n ∧ n ≤ 0xDBFF) (hm : 0xDC00 ≤ m ∧ m ≤ 0xDFFF) :
    unitsAhead? (hexPadded 4 n ++ (unitEscape m ++ rest)) =
      some (Char.ofNat (0x10000 + (n - 0xD800) * 0x400 + (m - 0xDC00)), rest) := by
  simp [unitsAhead?, unitEscape, unitAhead?_hexPadded (show n < 0x10000 by omega),
    unitAhead?_hexPadded (show m < 0x10000 by omega), hn, hm]

theorem unitsAhead?_escapeByUnits (c : Char) :
    ∃ more, escapeByUnits c ++ rest = '\\' :: 'u' :: more ∧ unitsAhead? more = some (c, rest) := by
  have hvalid : c.toNat < 0xD800 ∨ 0xDFFF < c.toNat ∧ c.toNat < 0x110000 := c.valid
  rw [escapeByUnits]
  split_ifs with hplane
  · refine ⟨_, unitEscape_append _, ?_⟩
    rw [unitsAhead?_plain hplane (by omega), Char.ofNat_toNat]
  · have hpoint : 0x10000 + (0xD800 + (c.toNat - 0x10000) / 0x400 - 0xD800) * 0x400 +
        (0xDC00 + (c.toNat - 0x10000) % 0x400 - 0xDC00) = c.toNat := by omega
    rw [List.append_assoc]
    refine ⟨_, unitEscape_append _, ?_⟩
    rw [unitsAhead?_pair (by omega) (by omega), hpoint, Char.ofNat_toNat]

/-! ## Texts -/

/-- A character in front of a text that is read. -/
def withChar (c : Char) (read : Option (List Char × List Char)) : Option (List Char × List Char) :=
  read.map fun p => (c :: p.1, p.2)

theorem stringAhead?_units {more : List Char} {c : Char} (fuel : Nat)
    (h : unitsAhead? more = some (c, rest)) :
    stringAhead? (fuel + 1) ('\\' :: 'u' :: more) = withChar c (stringAhead? fuel rest) := by
  rw [stringAhead?, if_neg (by decide), if_pos rfl, h]
  cases hread : stringAhead? fuel rest <;> simp [withChar, hread]

theorem stringAhead?_short {c d : Char} (fuel : Nat) (hu : c ≠ 'u') (h : shortEscape? c = some d) :
    stringAhead? (fuel + 1) ('\\' :: c :: rest) = withChar d (stringAhead? fuel rest) := by
  rw [stringAhead?.eq_4 fuel _ c rest hu, if_neg (by decide), if_pos rfl, h]
  cases stringAhead? fuel rest <;> rfl

theorem stringAhead?_plain {c : Char} (fuel : Nat) (hquote : c ≠ '\x22') (hescape : c ≠ '\\')
    (hprint : 0x20 ≤ c.toNat) :
    stringAhead? (fuel + 1) (c :: rest) = withChar c (stringAhead? fuel rest) := by
  rw [stringAhead?.eq_def]
  dsimp only
  rw [if_neg hquote, if_neg hescape, if_neg (Nat.not_lt.mpr hprint)]
  cases stringAhead? fuel rest <;> rfl

theorem stringAhead?_quote (fuel : Nat) :
    stringAhead? (fuel + 1) ('\x22' :: rest) = some ([], rest) := by
  rw [stringAhead?.eq_def]
  rfl

/-- **A written character is read back.** -/
theorem stringAhead?_writeChar (c : Char) (fuel : Nat) (rest : List Char) :
    stringAhead? (fuel + 1) (writeChar c ++ rest) = withChar c (stringAhead? fuel rest) := by
  rw [writeChar]
  split_ifs with hescaped hn hr ht hb hf hprint
  · exact stringAhead?_short fuel (by rintro rfl; simp at hescaped) (by simp [shortEscape?]; tauto)
  · exact hn ▸ stringAhead?_short fuel (by decide) rfl
  · exact hr ▸ stringAhead?_short fuel (by decide) rfl
  · exact ht ▸ stringAhead?_short fuel (by decide) rfl
  · exact hb ▸ stringAhead?_short fuel (by decide) rfl
  · exact hf ▸ stringAhead?_short fuel (by decide) rfl
  · rw [not_or] at hescaped
    exact stringAhead?_plain fuel hescaped.1 hescaped.2 hprint.1
  · obtain ⟨more, heq, hread⟩ : ∃ more, escapeByUnits c ++ rest = '\\' :: 'u' :: more ∧
        unitsAhead? more = some (c, rest) := unitsAhead?_escapeByUnits c
    rw [heq]
    exact stringAhead?_units fuel hread

/-- **A written text is read back**, up to its closing quote. -/
theorem stringAhead?_flatMap : ∀ {s : List Char} {fuel : Nat}, s.length < fuel →
    stringAhead? fuel (s.flatMap writeChar ++ '\x22' :: rest) = some (s, rest)
  | [], fuel + 1, _ => stringAhead?_quote fuel
  | c :: s, fuel + 1, h => by
    rw [List.flatMap_cons, List.append_assoc, stringAhead?_writeChar,
      stringAhead?_flatMap (Nat.lt_of_succ_lt_succ h)]
    rfl

/-- **A written text can be told from what follows it.** -/
theorem writeString_append_inj {s t : String} {rest' : List Char}
    (h : writeString s ++ rest = writeString t ++ rest') : s = t ∧ rest = rest' := by
  simp only [writeString, List.cons_append, List.append_assoc, List.nil_append,
    List.cons.injEq, true_and] at h
  have hread := congrArg (stringAhead? (s.toList.length + t.toList.length + 1)) h
  rw [stringAhead?_flatMap (by omega), stringAhead?_flatMap (by omega), Option.some.injEq,
    Prod.mk.injEq] at hread
  exact ⟨String.toList_inj.mp hread.1, hread.2⟩

end Workbench.Doc
