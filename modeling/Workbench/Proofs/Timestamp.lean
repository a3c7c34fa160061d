import Mathlib.Data.String.Basic
import Workbench.Proofs.Calendar
import Workbench.Proofs.Numeral.Padded
import Workbench.Timestamp

/-!
# Times that are written to the second

A date and a time of the day can be written to the second, with a zone behind them. Such a text is
read, and the order of such texts is that of their instants.

* `digitsValue?_zeroPadded`, `zeroPadded_append_lt_iff`: numbers of a fixed width, and their order;
* `Moment`, `Moment.text`, `Moment.timestamp`: a date with a time of the day, its written form and its
  timestamp;
* `Moment.ofChars?_chars`, **`Moment.parse?_text`**: what is read, whether the zone is `Z`, `+00:00` or
  missing;
* `Moment.Before`, **`Moment.instant_lt_iff`**, **`Moment.text_lt_iff`**: the order of the moments is
  that of their instants and that of their texts.
-/

namespace Workbench

open Text

/-! ## Numbers of a fixed width -/

section Padded

variable {c : Char} {cs : List Char} {w m n : Nat} {us vs : List Char}

theorem asciiDigit?_of_isDigit (h : c.isDigit = true) : asciiDigit? c = some (c.toNat - '0'.toNat) :=
  if_pos h

theorem digitsValue?_of_areDigits (h : AreDigits cs) : digitsValue? cs = some (Doc.ofDigits cs) := by
  suffices hfold : ∀ n, cs.foldlM (fun n c => (asciiDigit? c).map (10 * n + ·)) n =
      some (Nat.ofDigitChars 10 cs n) from hfold 0
  induction cs with
  | nil => exact fun _ => rfl
  | cons c cs ih =>
    obtain ⟨hc, hcs⟩ := List.forall_mem_cons.mp h
    intro n
    rw [List.foldlM_cons, asciiDigit?_of_isDigit hc, Option.map_some, Option.bind_eq_bind,
      Option.bind_some, ih hcs, Nat.ofDigitChars_cons]

theorem areDigits_zeroPadded (w n : Nat) : AreDigits (zeroPadded w n) := areDigits_padded w n

theorem digitsValue?_zeroPadded (w n : Nat) : digitsValue? (zeroPadded w n) = some n := by
  rw [digitsValue?_of_areDigits (areDigits_zeroPadded w n)]
  exact congrArg some (ofDigits_padded w n)

theorem zeroPadded_append_lt_iff (hm : m < 10 ^ (w + 1)) (hn : n < 10 ^ (w + 1)) :
    zeroPadded (w + 1) m ++ us < zeroPadded (w + 1) n ++ vs ↔ m < n ∨ m = n ∧ us < vs :=
  padded_append_lt_iff hm hn

theorem exists_zeroPadded_two (h : n < 100) : ∃ a b, zeroPadded 2 n = [a, b] :=
  List.length_eq_two.mp (length_padded (b := 10) (w := 1) (by decide) h)

theorem exists_zeroPadded_four (h : n < 10000) : ∃ a b c d, zeroPadded 4 n = [a, b, c, d] := by
  have hlength : (zeroPadded 4 n).length = 4 := length_padded (b := 10) (w := 3) (by decide) h
  match zeroPadded 4 n, hlength with
  | [a, b, c, d], _ => exact ⟨a, b, c, d, rfl⟩

/-- Three fields with a separator between them. -/
def fields (separator : Char) (us vs ws : List Char) : List Char :=
  us ++ separator :: (vs ++ separator :: ws)

theorem isDigit_or_of_mem_fields {ws : List Char} (hus : AreDigits us) (hvs : AreDigits vs)
    (hws : AreDigits ws) : ∀ d ∈ fields c us vs ws, d.isDigit = true ∨ d = c := by
  intro d hd
  simp only [fields, List.mem_append, List.mem_cons] at hd
  rcases hd with hd | rfl | hd | rfl | hd
  · exact .inl (hus d hd)
  · exact .inr rfl
  · exact .inl (hvs d hd)
  · exact .inr rfl
  · exact .inl (hws d hd)

end Padded

/-! ## The parts of a timestamp -/

section Parts

variable {a b c d e f g h : Char} {cs : List Char} {year month day hour minute second : Nat}

theorem replaceChar_of_not_mem {old : Char} {new : List Char} (h : old ∉ cs) :
    replaceChar old new cs = cs := by
  refine (List.flatMap_congr fun c hc => if_neg ?_).trans (List.flatMap_singleton' cs)
  rintro rfl
  exact h hc

theorem ClockReading.read?_extended (hhour : digitsValue? [a, b] = some hour)
    (hminute : digitsValue? [c, d] = some minute) (hsecond : digitsValue? [e, f] = some second) :
    read? [a, b, ':', c, d, ':', e, f] = some ⟨hour, minute, second, 0, false⟩ := by
  simp [read?, readFields?, hhour, hminute, hsecond, ofFields]

theorem Timestamp.dateLength?_extended (hdash : cs[4]? = some '-') (hweek : cs[5]? ≠ some 'W')
    (hlength : 7 < cs.length) : dateLength? cs = some 10 := by
  have hlong : ¬ cs.length < 7 := by omega
  have hlonger : cs.length ≠ 7 := by omega
  simp only [dateLength?, if_neg hlong, if_neg hlonger, if_pos hdash, if_neg hweek]

theorem Timestamp.readDate?_extended (hweek : e ≠ 'W')
    (hyear : digitsValue? [a, b, c, d] = some year) (hmonth : digitsValue? [e, f] = some month)
    (hday : digitsValue? [g, h] = some day) :
    readDate? [a, b, c, d, '-', e, f, '-', g, h] = Date.ofParts? year month day := by
  rw [readDate?, hyear, hmonth, hday]
  · rfl
  · exact fun heq => absurd heq hweek

theorem Timestamp.not_isSign_of_isDigit (h : a.isDigit = true) : isSign a = false := by
  refine Bool.eq_false_iff.mpr fun hsign => ?_
  rw [isSign, Bool.or_eq_true, decide_eq_true_iff, decide_eq_true_iff] at hsign
  rcases hsign with rfl | rfl <;> cases h

end Parts

/-! ## Moments -/

/-- A date and a time of the day, to the second. -/
structure Moment where
  date : Date
  hour : Nat
  minute : Nat
  second : Nat
  isValid : date.IsValid
  hour_le : hour ≤ 23
  minute_le : minute ≤ 59
  second_le : second ≤ 59

namespace Moment

variable {t u : Moment}

/-- The seconds since midnight. -/
def seconds (t : Moment) : Nat := (t.hour * 60 + t.minute) * 60 + t.second

/-- The written date. -/
def dateChars (t : Moment) : List Char :=
  fields '-' (zeroPadded 4 t.date.year) (zeroPadded 2 t.date.month) (zeroPadded 2 t.date.day)

/-- The written time of the day. -/
def clockChars (t : Moment) : List Char :=
  fields ':' (zeroPadded 2 t.hour) (zeroPadded 2 t.minute) (zeroPadded 2 t.second)

/-- The written moment, with a zone behind it. -/
def text (t : Moment) (zone : String) : String :=
  String.ofList (t.dateChars ++ 'T' :: (t.clockChars ++ zone.toList))

/-- The timestamp of the moment in UTC. -/
def timestamp (t : Moment) : Timestamp := ⟨t.date, t.seconds * Timestamp.perSecond, some 0⟩

theorem year_lt (t : Moment) : t.date.year < 10000 := Nat.lt_succ_of_le t.isValid.year_le

theorem month_lt (t : Moment) : t.date.month < 100 := by
  have hmonth := (Calendar.month_lt_of_pos (t.isValid.one_le_day.trans t.isValid.day_le)).2
  omega

theorem day_lt (t : Moment) : t.date.day < 100 := by
  have hday : t.date.day ≤ 31 := t.isValid.day_le.trans (Calendar.daysInMonth_le _ _)
  omega

theorem hour_lt (t : Moment) : t.hour < 100 := Nat.lt_of_le_of_lt t.hour_le (by decide)

theorem minute_lt (t : Moment) : t.minute < 100 := Nat.lt_of_le_of_lt t.minute_le (by decide)

theorem second_lt (t : Moment) : t.second < 100 := Nat.lt_of_le_of_lt t.second_le (by decide)

/-! ## What is read -/

theorem exists_dateChars (t : Moment) : ∃ a b c d e f g h,
    t.dateChars = [a, b, c, d, '-', e, f, '-', g, h] ∧ e ≠ 'W' ∧
    Timestamp.readDate? t.dateChars = some t.date := by
  obtain ⟨a, b, c, d, hyear⟩ := exists_zeroPadded_four t.year_lt
  obtain ⟨e, f, hmonth⟩ := exists_zeroPadded_two t.month_lt
  obtain ⟨g, h, hday⟩ := exists_zeroPadded_two t.day_lt
  have hchars : t.dateChars = [a, b, c, d, '-', e, f, '-', g, h] := by
    rw [dateChars, hyear, hmonth, hday]
    rfl
  have hweek : e ≠ 'W' := by
    rintro rfl
    have hdigit : 'W'.isDigit = true :=
      areDigits_zeroPadded 2 t.date.month 'W' (by rw [hmonth]; exact List.mem_cons_self)
    cases hdigit
  refine ⟨a, b, c, d, e, f, g, h, hchars, hweek, ?_⟩
  rw [hchars, Timestamp.readDate?_extended hweek (hyear ▸ digitsValue?_zeroPadded 4 t.date.year)
    (hmonth ▸ digitsValue?_zeroPadded 2 t.date.month) (hday ▸ digitsValue?_zeroPadded 2 t.date.day)]
  exact Date.ofParts?_eq_some_iff.mpr ⟨rfl, t.isValid⟩

theorem read?_clockChars (t : Moment) :
    ClockReading.read? t.clockChars = some ⟨t.hour, t.minute, t.second, 0, false⟩ := by
  obtain ⟨a, b, hhour⟩ := exists_zeroPadded_two t.hour_lt
  obtain ⟨c, d, hminute⟩ := exists_zeroPadded_two t.minute_lt
  obtain ⟨e, f, hsecond⟩ := exists_zeroPadded_two t.second_lt
  rw [clockChars, hhour, hminute, hsecond]
  exact ClockReading.read?_extended (hhour ▸ digitsValue?_zeroPadded 2 t.hour)
    (hminute ▸ digitsValue?_zeroPadded 2 t.minute) (hsecond ▸ digitsValue?_zeroPadded 2 t.second)

theorem readTime?_clockChars (t : Moment) (hasOffset : Bool) :
    Timestamp.readTime? hasOffset t.clockChars = some (t.seconds * Timestamp.perSecond) := by
  have hfits : t.hour ≤ 23 ∧ t.minute ≤ 59 ∧ t.second ≤ 59 := ⟨t.hour_le, t.minute_le, t.second_le⟩
  simp [Timestamp.readTime?, read?_clockChars, hfits, seconds, ClockReading.seconds]

theorem isDigit_or_of_mem_dateChars (t : Moment) : ∀ c ∈ t.dateChars, c.isDigit = true ∨ c = '-' :=
  isDigit_or_of_mem_fields (areDigits_zeroPadded _ _) (areDigits_zeroPadded _ _)
    (areDigits_zeroPadded _ _)

theorem isDigit_or_of_mem_clockChars (t : Moment) :
    ∀ c ∈ t.clockChars, c.isDigit = true ∨ c = ':' :=
  isDigit_or_of_mem_fields (areDigits_zeroPadded _ _) (areDigits_zeroPadded _ _)
    (areDigits_zeroPadded _ _)

theorem replaceChar_chars (t : Moment) (zone : List Char) :
    replaceChar 'Z' "+00:00".toList (t.dateChars ++ 'T' :: (t.clockChars ++ zone)) =
      t.dateChars ++ 'T' :: (t.clockChars ++ replaceChar 'Z' "+00:00".toList zone) := by
  have hdate : 'Z' ∉ t.dateChars := fun hZ =>
    absurd (t.isDigit_or_of_mem_dateChars 'Z' hZ) (by decide)
  have hclock : 'Z' ∉ t.clockChars := fun hZ =>
    absurd (t.isDigit_or_of_mem_clockChars 'Z' hZ) (by decide)
  have happend : ∀ xs ys : List Char, replaceChar 'Z' "+00:00".toList (xs ++ ys) =
      replaceChar 'Z' "+00:00".toList xs ++ replaceChar 'Z' "+00:00".toList ys :=
    fun _ _ => List.flatMap_append
  have hT : replaceChar 'Z' "+00:00".toList ['T'] = ['T'] := by decide
  rw [happend, ← List.singleton_append, happend, happend, hT, replaceChar_of_not_mem hdate,
    replaceChar_of_not_mem hclock, List.singleton_append]

/-- **A written moment is read**, with an offset that begins with a sign, or without one. -/
theorem ofChars?_chars (t : Moment) {zone : List Char} {offset : Option Int}
    (hzone : zone.head?.all Timestamp.isSign = true)
    (hoffset : Timestamp.readOffset? zone = some offset) :
    Timestamp.ofChars? (t.dateChars ++ 'T' :: (t.clockChars ++ zone)) =
      some ⟨t.date, t.seconds * Timestamp.perSecond, offset⟩ := by
  obtain ⟨a, b, c, d, e, f, g, h, hdate, hweek, hread⟩ := t.exists_dateChars
  have hlength : Timestamp.dateLength? (t.dateChars ++ 'T' :: (t.clockChars ++ zone)) = some 10 := by
    refine Timestamp.dateLength?_extended ?_ ?_ ?_ <;> rw [hdate]
    · rfl
    · exact fun heq => hweek (Option.some.inj heq)
    · simp
  have hten : t.dateChars.length = 10 := by rw [hdate]; rfl
  -- The offset begins at the first sign, and none stands in the time of the day.
  have hclock : ∀ c ∈ t.clockChars, (!Timestamp.isSign c) = true := fun c hc => by
    rcases t.isDigit_or_of_mem_clockChars c hc with hdigit | rfl
    · rw [Timestamp.not_isSign_of_isDigit hdigit, Bool.not_false]
    · rfl
  have hsplit : zone.takeWhile (fun c => !Timestamp.isSign c) = [] ∧
      zone.dropWhile (fun c => !Timestamp.isSign c) = zone := by
    cases zone with
    | nil => exact ⟨rfl, rfl⟩
    | cons c cs =>
      have hsign : Timestamp.isSign c = true := hzone
      simp [hsign]
  rw [Timestamp.ofChars?, hlength]
  simp only [Option.bind_eq_bind, Option.bind_some, List.take_left' hten, List.drop_left' hten, hread]
  rw [List.takeWhile_append_of_pos hclock, List.dropWhile_append_of_pos hclock, hsplit.1, hsplit.2,
    List.append_nil, readTime?_clockChars, hoffset]
  rfl

/-- Without a zone, with `Z` and with `+00:00` the same timestamp is written, in UTC. -/
theorem parse?_text (t : Moment) {zone : String} (h : zone ∈ ["Z", "+00:00", ""]) :
    Timestamp.parse? (t.text zone) = some t.timestamp := by
  have hchars : (t.text zone).toList = t.dateChars ++ 'T' :: (t.clockChars ++ zone.toList) :=
    String.toList_ofList
  change (Timestamp.ofChars? (replaceChar 'Z' "+00:00".toList (t.text zone).toList)).map
    Timestamp.orUtc = _
  rw [hchars, replaceChar_chars]
  have hutc : Timestamp.readOffset? "+00:00".toList = some (some 0) := by decide
  have hnone : Timestamp.readOffset? [] = some none := rfl
  simp only [List.mem_cons, List.not_mem_nil, or_false] at h
  rcases h with rfl | rfl | rfl
  · exact congrArg (Option.map Timestamp.orUtc) (t.ofChars?_chars rfl hutc)
  · exact congrArg (Option.map Timestamp.orUtc) (t.ofChars?_chars rfl hutc)
  · exact congrArg (Option.map Timestamp.orUtc) (t.ofChars?_chars rfl hnone)

/-! ## The order -/

/-- The moment comes first: by its date, or by the time of one day. -/
def Before (t u : Moment) : Prop :=
  t.date.Before u.date ∨ t.date = u.date ∧ t.seconds < u.seconds

theorem seconds_lt (t : Moment) : t.seconds < 86400 := by
  have hhour := t.hour_le
  have hminute := t.minute_le
  have hsecond := t.second_le
  unfold seconds
  omega

theorem seconds_lt_iff (t u : Moment) : t.seconds < u.seconds ↔ t.hour < u.hour ∨
    t.hour = u.hour ∧ (t.minute < u.minute ∨ t.minute = u.minute ∧ t.second < u.second) := by
  have hminute := t.minute_le
  have hminute' := u.minute_le
  have hsecond := t.second_le
  have hsecond' := u.second_le
  unfold seconds
  omega

theorem before_trichotomy (t u : Moment) : t.Before u ∨ t = u ∨ u.Before t := by
  rcases Date.before_trichotomy t.date u.date with hdate | hdate | hdate
  · exact .inl (.inl hdate)
  · rcases Nat.lt_trichotomy t.seconds u.seconds with hlt | heq | hlt
    · exact .inl (.inr ⟨hdate, hlt⟩)
    · have hbefore := mt (seconds_lt_iff t u).mpr (Nat.not_lt.mpr heq.ge)
      have hafter := mt (seconds_lt_iff u t).mpr (Nat.not_lt.mpr heq.le)
      obtain ⟨d, h, m, s, _, _, _, _⟩ := t
      obtain ⟨d', h', m', s', _, _, _, _⟩ := u
      simp only [mk.injEq] at hdate hbefore hafter ⊢
      exact .inr (.inl ⟨hdate, by omega, by omega, by omega⟩)
    · exact .inr (.inr (.inr ⟨hdate.symm, hlt⟩))
  · exact .inr (.inr (.inl hdate))

/-- **Instants are in the order of the moments.** -/
theorem instant_lt_iff (t u : Moment) : t.timestamp.instant < u.timestamp.instant ↔ t.Before u := by
  have hseconds := t.seconds_lt
  have hseconds' := u.seconds_lt
  rw [Before, ← Date.ordinal_lt_iff t.isValid u.isValid, ← Date.ordinal_inj t.isValid u.isValid]
  simp only [Timestamp.instant, timestamp, Timestamp.perDay, Timestamp.perSecond, Option.getD_some]
  omega

/-- **Texts with one zone are in the order of the moments.** -/
theorem text_lt_iff (t u : Moment) (zone : String) : t.text zone < u.text zone ↔ t.Before u := by
  have hdate : t.date = u.date ↔ t.date.year = u.date.year ∧ t.date.month = u.date.month ∧
      t.date.day = u.date.day := by
    obtain ⟨⟨_, _, _⟩, _⟩ := t
    obtain ⟨⟨_, _, _⟩, _⟩ := u
    simp
  rw [String.lt_iff_toList_lt, text, text, String.toList_ofList, String.toList_ofList]
  simp only [dateChars, clockChars, fields, List.append_assoc, List.cons_append]
  rw [zeroPadded_append_lt_iff t.year_lt u.year_lt, List.cons_lt_cons_self,
    zeroPadded_append_lt_iff t.month_lt u.month_lt, List.cons_lt_cons_self,
    zeroPadded_append_lt_iff t.day_lt u.day_lt, List.cons_lt_cons_self,
    zeroPadded_append_lt_iff t.hour_lt u.hour_lt, List.cons_lt_cons_self,
    zeroPadded_append_lt_iff t.minute_lt u.minute_lt, List.cons_lt_cons_self,
    zeroPadded_append_lt_iff t.second_lt u.second_lt, Before, Date.Before, hdate, seconds_lt_iff]
  simp only [List.lt_irrefl, and_false, or_false]
  omega

theorem instant_eq_iff (t u : Moment) {zone : String} (h : zone ∈ ["Z", "+00:00", ""]) :
    t.timestamp.instant = u.timestamp.instant ↔ t.text zone = u.text zone := by
  constructor
  · intro heq
    rcases before_trichotomy t u with hlt | rfl | hlt
    · exact absurd heq ((instant_lt_iff t u).mpr hlt).ne
    · rfl
    · exact absurd heq ((instant_lt_iff u t).mpr hlt).ne'
  · intro heq
    have hread := parse?_text t h
    rw [heq, parse?_text u h, Option.some.injEq] at hread
    rw [hread]

end Moment

end Workbench
