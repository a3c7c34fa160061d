import Mathlib.Order.Lattice
import Mathlib.Tactic.Common
import Workbench.Calendar

/-!
# The order of dates

The ordinals of dates are in the order of the dates: by year, then by month, then by day.

* `Date.IsValid`: the dates of the calendar, those with an outcome of `Date.ofParts?`;
* `Calendar.daysBeforeYear_succ`, `Calendar.daysBeforeYear_add_le`: the days of the years before;
* `Calendar.daysBeforeMonth_add_le`: the days of the months before, which all lie within the year;
* `Date.Before`, **`Date.ordinal_lt_iff`**: the order of dates and that of their ordinals.
-/

namespace Workbench

namespace Calendar

variable {year year' month month' : Nat}

/-! ## Years -/

theorem isLeap_iff :
    isLeap year = true ↔ year % 4 = 0 ∧ (year % 100 ≠ 0 ∨ year % 400 = 0) := by
  simp [isLeap]

theorem daysBeforeYear_succ (h : 1 ≤ year) :
    daysBeforeYear (year + 1) = daysBeforeYear year + daysInYear year := by
  obtain ⟨y, rfl⟩ := Nat.exists_eq_add_of_le' h
  have hle : y / 100 ≤ y / 4 := Nat.div_le_div_left (by decide) (by decide)
  have hcentury : (y + 1) % 100 = 0 → (y + 1) % 4 = 0 := by omega
  have hfourth : (y + 1) % 400 = 0 → (y + 1) % 100 = 0 := by omega
  simp only [daysBeforeYear, daysInYear, isLeap_iff, Nat.add_sub_cancel, Nat.succ_div,
    Nat.dvd_iff_mod_eq_zero]
  -- The quotients grow by one where the remainders are zero; what else they are is not needed.
  generalize y / 4 = a, y / 100 = b, y / 400 = c, (y + 1) % 4 = i, (y + 1) % 100 = j,
    (y + 1) % 400 = k at *
  split_ifs <;> omega

/-- A year ends before a later one begins. -/
theorem daysBeforeYear_add_le (h : 1 ≤ year) (hlt : year < year') :
    daysBeforeYear year + daysInYear year ≤ daysBeforeYear year' := by
  induction year', hlt using Nat.le_induction with
  | base => rw [daysBeforeYear_succ h]
  | succ year' hle ih =>
    rw [daysBeforeYear_succ (h.trans (Nat.le_of_succ_le hle))]
    exact ih.trans (Nat.le_add_right _ _)

/-! ## Months -/

/-- A month ends before a later one begins. -/
theorem daysBeforeMonth_add_le (hlt : month < month') :
    daysBeforeMonth year month + daysInMonth year month ≤ daysBeforeMonth year month' := by
  induction month', hlt using Nat.le_induction with
  | base => exact Nat.le_refl _
  | succ month' _ ih => exact ih.trans (Nat.le_add_right _ _)

theorem daysBeforeMonth_thirteen (year : Nat) : daysBeforeMonth year 13 = daysInYear year := by
  simp only [daysBeforeMonth, daysInMonth, daysInYear]
  split <;> rfl

theorem month_lt_of_pos (h : 0 < daysInMonth year month) : 0 < month ∧ month < 13 := by
  unfold daysInMonth at h
  split at h <;> omega

theorem daysInMonth_le (year month : Nat) : daysInMonth year month ≤ 31 := by
  unfold daysInMonth
  split
  all_goals first | split | skip
  all_goals decide

end Calendar

open Calendar

/-! ## Dates -/

namespace Date

variable {d e : Date} {year month day : Nat}

/-- The date is one of the calendar. -/
structure IsValid (d : Date) : Prop where
  one_le_year : 1 ≤ d.year
  year_le : d.year ≤ lastYear
  one_le_day : 1 ≤ d.day
  day_le : d.day ≤ daysInMonth d.year d.month

instance (d : Date) : Decidable d.IsValid :=
  decidable_of_iff
    (1 ≤ d.year ∧ d.year ≤ lastYear ∧ 1 ≤ d.day ∧ d.day ≤ daysInMonth d.year d.month)
    ⟨fun h => ⟨h.1, h.2.1, h.2.2.1, h.2.2.2⟩, fun h => ⟨h.1, h.2, h.3, h.4⟩⟩

theorem ofParts?_eq_some_iff :
    ofParts? year month day = some d ↔ d = ⟨year, month, day⟩ ∧ d.IsValid := by
  unfold ofParts?
  constructor
  · intro h
    split at h
    · next hparts =>
      cases h
      exact ⟨rfl, hparts.1, hparts.2.1, hparts.2.2.1, hparts.2.2.2⟩
    · cases h
  · rintro ⟨rfl, hyear, hlast, hday, hdays⟩
    rw [if_pos ⟨hyear, hlast, hday, hdays⟩]

theorem IsValid.add_day_le (h : d.IsValid) :
    daysBeforeMonth d.year d.month + d.day ≤ daysInYear d.year := by
  have hmonth := (month_lt_of_pos (h.one_le_day.trans h.day_le)).2
  rw [← daysBeforeMonth_thirteen]
  exact (Nat.add_le_add_left h.day_le _).trans (daysBeforeMonth_add_le hmonth)

/-- The date comes first: by its year, by its month in one year, or by its day in one month. -/
def Before (d e : Date) : Prop :=
  d.year < e.year ∨ d.year = e.year ∧ (d.month < e.month ∨ d.month = e.month ∧ d.day < e.day)

theorem before_trichotomy (d e : Date) : d.Before e ∨ d = e ∨ e.Before d := by
  obtain ⟨y, m, n⟩ := d
  obtain ⟨y', m', n'⟩ := e
  simp only [Before, mk.injEq]
  omega

theorem ordinal_lt_of_before (hd : d.IsValid) (he : e.IsValid) (h : d.Before e) :
    d.ordinal < e.ordinal := by
  have hday := he.one_le_day
  unfold ordinal
  rcases h with hyear | ⟨hyear, hmonth | ⟨hmonth, hlt⟩⟩
  · have hyears := daysBeforeYear_add_le hd.one_le_year hyear
    have hend := hd.add_day_le
    omega
  · have hmonths : daysBeforeMonth d.year d.month + daysInMonth d.year d.month ≤
        daysBeforeMonth d.year e.month := daysBeforeMonth_add_le hmonth
    have hend := hd.day_le
    rw [← hyear]
    omega
  · rw [hyear, hmonth]
    omega

/-- **The ordinals of dates are in the order of the dates.** -/
theorem ordinal_lt_iff (hd : d.IsValid) (he : e.IsValid) : d.ordinal < e.ordinal ↔ d.Before e := by
  refine ⟨fun hlt => ?_, ordinal_lt_of_before hd he⟩
  rcases before_trichotomy d e with h | rfl | h
  · exact h
  · exact absurd hlt (Nat.lt_irrefl _)
  · exact absurd hlt (Nat.lt_asymm (ordinal_lt_of_before he hd h))

theorem ordinal_inj (hd : d.IsValid) (he : e.IsValid) : d.ordinal = e.ordinal ↔ d = e := by
  refine ⟨fun heq => ?_, congrArg ordinal⟩
  rcases before_trichotomy d e with h | h | h
  · exact absurd heq (Nat.ne_of_lt (ordinal_lt_of_before hd he h))
  · exact h
  · exact absurd heq (Nat.ne_of_gt (ordinal_lt_of_before he hd h))

end Date

end Workbench
