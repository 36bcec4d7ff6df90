import Mathlib

/-!
# Instants as ISO text

An instant of the proleptic Gregorian calendar in UTC, and the text that
`Date.prototype.toISOString` writes for it: four digits for the years 0 to 9999,
a sign and six digits outside them.  The first characters of that text name the
day or the month of the instant.

The result of the module is that such a name stands for a stretch of time: when
two instants have the same one, so has every instant between them
(`dayText_between`, `monthText_between`).  Days and months also have numbers in the
order of time, which is how `date_trunc` compares them.
-/

namespace AvantimePlatform

/-- The decimal digit of a number below ten. -/
def digit (n : Nat) : Char := Char.ofNat (48 + n % 10)

/-- The last `width` decimal digits of a number. -/
def pad : Nat → Nat → List Char
  | 0, _ => []
  | width + 1, n => pad width (n / 10) ++ [digit n]

@[simp] theorem length_pad (width n : Nat) : (pad width n).length = width := by
  induction width generalizing n with
  | zero => rfl
  | succ width ih => simp [pad, ih]

theorem digit_inj {m n : Nat} (h : digit m = digit n) : m % 10 = n % 10 := by
  have hm : m % 10 < 10 := Nat.mod_lt _ (by decide)
  have hn : n % 10 < 10 := Nat.mod_lt _ (by decide)
  have hdigits : ∀ a < 10, ∀ b < 10, Char.ofNat (48 + a) = Char.ofNat (48 + b) → a = b := by
    decide
  exact hdigits _ hm _ hn h

theorem digit_range (n : Nat) : digit n ∈ ['0', '1', '2', '3', '4', '5', '6', '7', '8', '9'] := by
  have hn : n % 10 < 10 := Nat.mod_lt _ (by decide)
  have hdigits : ∀ a < 10,
      Char.ofNat (48 + a) ∈ ['0', '1', '2', '3', '4', '5', '6', '7', '8', '9'] := by
    decide
  exact hdigits _ hn

theorem mem_pad {width n : Nat} {c : Char} (h : c ∈ pad width n) :
    c ∈ ['0', '1', '2', '3', '4', '5', '6', '7', '8', '9'] := by
  induction width generalizing n with
  | zero => cases h
  | succ width ih =>
      rcases List.mem_append.mp h with hinit | hlast
      · exact ih hinit
      · rw [List.mem_singleton.mp hlast]
        exact digit_range n

/-- Numbers that fit are told apart by their digits. -/
theorem pad_inj {width m n : Nat} (hm : m < 10 ^ width) (hn : n < 10 ^ width)
    (h : pad width m = pad width n) : m = n := by
  induction width generalizing m n with
  | zero =>
      have hm0 : m = 0 := by simpa using hm
      have hn0 : n = 0 := by simpa using hn
      rw [hm0, hn0]
  | succ width ih =>
      rw [pow_succ] at hm hn
      obtain ⟨hinit, hlast⟩ := List.append_inj h (by simp)
      have hmod : m % 10 = n % 10 := digit_inj (List.singleton_injective hlast)
      have hdiv : m / 10 = n / 10 := by
        apply ih
        · omega
        · omega
        · exact hinit
      omega

/-- An instant by its calendar fields. -/
structure IsoInstant where
  year : Int
  month : Nat
  day : Nat
  msOfDay : Nat
  year_lt : year.natAbs < 1000000
  month_lt : month < 13
  day_lt : day < 32
  ms_lt : msOfDay < 86400000
deriving DecidableEq

namespace IsoInstant

/-- The place of an instant in the order of time: by year, then month, then day, then
the time of day. -/
def rank (t : IsoInstant) : Int :=
  ((t.year * 13 + t.month) * 32 + t.day) * 86400000 + t.msOfDay

/-- The year has four digits. -/
def IsPlain (y : Int) : Prop := 0 ≤ y ∧ y < 10000

instance (y : Int) : Decidable (IsPlain y) := inferInstanceAs (Decidable (_ ∧ _))

/-- The year, as `toISOString` writes it. -/
def yearText (y : Int) : List Char :=
  if IsPlain y then pad 4 y.natAbs
  else (if y < 0 then '-' else '+') :: pad 6 y.natAbs

/-- `toISOString`. -/
def toISOString (t : IsoInstant) : List Char :=
  yearText t.year ++ '-' :: (pad 2 t.month ++ '-' :: (pad 2 t.day ++ 'T' ::
    (pad 2 (t.msOfDay / 3600000) ++ ':' :: (pad 2 (t.msOfDay / 60000 % 60) ++ ':' ::
      (pad 2 (t.msOfDay / 1000 % 60) ++ '.' :: (pad 3 (t.msOfDay % 1000) ++ ['Z']))))))

/-- `toISOString().slice(0, 10)`. -/
def dayText (t : IsoInstant) : List Char := t.toISOString.take 10

/-- `toISOString().slice(0, 7)`. -/
def monthText (t : IsoInstant) : List Char := t.toISOString.take 7

/-! ## What the two slices show -/

theorem yearText_of_plain {y : Int} (h : IsPlain y) : yearText y = pad 4 y.natAbs :=
  if_pos h

theorem yearText_of_not_plain {y : Int} (h : ¬IsPlain y) :
    yearText y = (if y < 0 then '-' else '+') :: pad 6 y.natAbs :=
  if_neg h

/-- A year of four digits and one with a sign are written differently from the first
character on. -/
theorem not_plain_of_sign {x y : Int} {u v : List Char} (hx : IsPlain x)
    (h : yearText x ++ u = yearText y ++ v) : IsPlain y := by
  by_contra hy
  rw [yearText_of_plain hx, yearText_of_not_plain hy] at h
  have hsign : (if y < 0 then '-' else '+') ∈ pad 4 x.natAbs := by
    have hlength : 0 < (pad 4 x.natAbs).length := by simp
    cases hpad : pad 4 x.natAbs with
    | nil => simp [hpad] at hlength
    | cons c rest =>
        rw [hpad] at h
        exact (List.cons.inj h).1 ▸ List.mem_cons_self
  have hdigit := mem_pad hsign
  split at hdigit
  · exact absurd hdigit (by decide)
  · exact absurd hdigit (by decide)

theorem yearText_inj {x y : Int} (hx : x.natAbs < 1000000) (hy : y.natAbs < 1000000)
    {u v : List Char} (h : yearText x ++ u = yearText y ++ v) : x = y ∧ u = v := by
  by_cases hplain : IsPlain x
  · have hplain' := not_plain_of_sign hplain h
    rw [yearText_of_plain hplain, yearText_of_plain hplain'] at h
    obtain ⟨hyear, hrest⟩ := List.append_inj h (by simp)
    have habs : x.natAbs = y.natAbs := by
      apply pad_inj ?_ ?_ hyear
      · have := hplain.2
        have := hplain.1
        omega
      · have := hplain'.2
        have := hplain'.1
        omega
    have := hplain.1
    have := hplain'.1
    exact ⟨by omega, hrest⟩
  · have hplain' : ¬IsPlain y := fun hy => hplain (not_plain_of_sign hy h.symm)
    rw [yearText_of_not_plain hplain, yearText_of_not_plain hplain'] at h
    obtain ⟨hsign, hrest⟩ := List.cons.inj h
    obtain ⟨hyear, hrest⟩ := List.append_inj hrest (by simp)
    have habs : x.natAbs = y.natAbs := pad_inj (by omega) (by omega) hyear
    refine ⟨?_, hrest⟩
    split at hsign
    · split at hsign
      · omega
      · exact absurd hsign (by decide)
    · split at hsign
      · exact absurd hsign (by decide)
      · omega

theorem dayText_of_plain (t : IsoInstant) (h : IsPlain t.year) :
    t.dayText = yearText t.year ++ ('-' :: (pad 2 t.month ++ '-' :: pad 2 t.day)) := by
  rw [dayText, toISOString, yearText_of_plain h]
  simp [List.take_append, List.take_of_length_le]

theorem dayText_of_not_plain (t : IsoInstant) (h : ¬IsPlain t.year) :
    t.dayText = yearText t.year ++ ('-' :: pad 2 t.month) := by
  rw [dayText, toISOString, yearText_of_not_plain h]
  simp [List.take_append]

theorem monthText_of_plain (t : IsoInstant) (h : IsPlain t.year) :
    t.monthText = yearText t.year ++ ('-' :: pad 2 t.month) := by
  rw [monthText, toISOString, yearText_of_plain h]
  simp [List.take_append]

theorem monthText_of_not_plain (t : IsoInstant) (h : ¬IsPlain t.year) :
    t.monthText = yearText t.year ++ [] := by
  rw [monthText, toISOString, yearText_of_not_plain h]
  simp

/-- No name of a day or of a month has a colon. -/
theorem colon_notMem_yearText (y : Int) : ':' ∉ yearText y := by
  intro h
  by_cases hplain : IsPlain y
  · rw [yearText_of_plain hplain] at h
    exact absurd (mem_pad h) (by decide)
  · rw [yearText_of_not_plain hplain] at h
    rcases List.mem_cons.mp h with hsign | hpad
    · split at hsign
      · exact absurd hsign (by decide)
      · exact absurd hsign (by decide)
    · exact absurd (mem_pad hpad) (by decide)

theorem colon_notMem_pad (width n : Nat) : ':' ∉ pad width n := fun h =>
  absurd (mem_pad h) (by decide)

theorem colon_notMem_dayText (t : IsoInstant) : ':' ∉ t.dayText := by
  by_cases h : IsPlain t.year
  · rw [dayText_of_plain t h]
    simp [colon_notMem_yearText, colon_notMem_pad]
  · rw [dayText_of_not_plain t h]
    simp [colon_notMem_yearText, colon_notMem_pad]

theorem colon_notMem_monthText (t : IsoInstant) : ':' ∉ t.monthText := by
  by_cases h : IsPlain t.year
  · rw [monthText_of_plain t h]
    simp [colon_notMem_yearText, colon_notMem_pad]
  · rw [monthText_of_not_plain t h]
    simp [colon_notMem_yearText]

@[simp] theorem length_dayText (t : IsoInstant) : t.dayText.length = 10 := by
  by_cases h : IsPlain t.year
  · rw [dayText_of_plain t h, yearText_of_plain h]
    simp
  · rw [dayText_of_not_plain t h, yearText_of_not_plain h]
    simp

@[simp] theorem length_monthText (t : IsoInstant) : t.monthText.length = 7 := by
  by_cases h : IsPlain t.year
  · rw [monthText_of_plain t h, yearText_of_plain h]
    simp
  · rw [monthText_of_not_plain t h, yearText_of_not_plain h]
    simp

/-! ## A name stands for a stretch of time -/

theorem pad_two_inj {m n : Nat} (hm : m < 100) (hn : n < 100) (h : pad 2 m = pad 2 n) :
    m = n :=
  pad_inj hm hn h

variable {a b c : IsoInstant}

theorem year_between (hab : a.rank ≤ b.rank) (hbc : b.rank ≤ c.rank) (h : a.year = c.year) :
    b.year = a.year := by
  have := a.month_lt; have := a.day_lt; have := a.ms_lt
  have := b.month_lt; have := b.day_lt; have := b.ms_lt
  have := c.month_lt; have := c.day_lt; have := c.ms_lt
  unfold rank at hab hbc
  omega

theorem yearMonth_between (hab : a.rank ≤ b.rank) (hbc : b.rank ≤ c.rank) (h : a.year = c.year)
    (hmonth : a.month = c.month) : b.month = a.month := by
  have hyear := year_between hab hbc h
  have := a.day_lt; have := a.ms_lt
  have := b.day_lt; have := b.ms_lt
  have := c.day_lt; have := c.ms_lt
  unfold rank at hab hbc
  omega

theorem date_between (hab : a.rank ≤ b.rank) (hbc : b.rank ≤ c.rank) (h : a.year = c.year)
    (hmonth : a.month = c.month) (hday : a.day = c.day) : b.day = a.day := by
  have hyear := year_between hab hbc h
  have hmonth' := yearMonth_between hab hbc h hmonth
  have := a.ms_lt; have := b.ms_lt; have := c.ms_lt
  unfold rank at hab hbc
  omega

/-- The texts of a year and a month that agree, from two instants. -/
theorem yearMonth_of_text {x y : IsoInstant} {u v : List Char}
    (h : yearText x.year ++ ('-' :: (pad 2 x.month ++ u)) =
      yearText y.year ++ ('-' :: (pad 2 y.month ++ v))) :
    x.year = y.year ∧ x.month = y.month ∧ u = v := by
  obtain ⟨hyear, hrest⟩ := yearText_inj x.year_lt y.year_lt h
  obtain ⟨hmonth, hrest⟩ := List.append_inj (List.cons.inj hrest).2 (by simp)
  have := x.month_lt
  have := y.month_lt
  exact ⟨hyear, pad_two_inj (by omega) (by omega) hmonth, hrest⟩

theorem monthText_between (hab : a.rank ≤ b.rank) (hbc : b.rank ≤ c.rank)
    (h : a.monthText = c.monthText) : b.monthText = a.monthText := by
  by_cases hplain : IsPlain a.year
  · have hc : IsPlain c.year := by
      by_contra hc
      rw [monthText_of_plain a hplain, monthText_of_not_plain c hc] at h
      exact hc (not_plain_of_sign hplain h)
    rw [monthText_of_plain a hplain, monthText_of_plain c hc] at h
    obtain ⟨hyear, hmonth, _⟩ := yearMonth_of_text (u := []) (v := []) (by simpa using h)
    have hyear' := year_between hab hbc hyear
    have hmonth' := yearMonth_between hab hbc hyear hmonth
    rw [monthText_of_plain a hplain, monthText_of_plain b (by rw [hyear']; exact hplain), hyear',
      hmonth']
  · have hc : ¬IsPlain c.year := by
      intro hc
      rw [monthText_of_not_plain a hplain, monthText_of_plain c hc] at h
      exact hplain (not_plain_of_sign hc h.symm)
    rw [monthText_of_not_plain a hplain, monthText_of_not_plain c hc] at h
    have hyear' := year_between hab hbc (yearText_inj a.year_lt c.year_lt h).1
    rw [monthText_of_not_plain a hplain, monthText_of_not_plain b (by rw [hyear']; exact hplain),
      hyear']

theorem dayText_between (hab : a.rank ≤ b.rank) (hbc : b.rank ≤ c.rank)
    (h : a.dayText = c.dayText) : b.dayText = a.dayText := by
  by_cases hplain : IsPlain a.year
  · have hc : IsPlain c.year := by
      by_contra hc
      rw [dayText_of_plain a hplain, dayText_of_not_plain c hc] at h
      exact hc (not_plain_of_sign hplain h)
    rw [dayText_of_plain a hplain, dayText_of_plain c hc] at h
    obtain ⟨hyear, hmonth, hday⟩ := yearMonth_of_text h
    have hday' : a.day = c.day := by
      have := a.day_lt
      have := c.day_lt
      exact pad_two_inj (by omega) (by omega) (List.cons.inj hday).2
    rw [dayText_of_plain a hplain,
      dayText_of_plain b (by rw [year_between hab hbc hyear]; exact hplain),
      year_between hab hbc hyear, yearMonth_between hab hbc hyear hmonth,
      date_between hab hbc hyear hmonth hday']
  · have hc : ¬IsPlain c.year := by
      intro hc
      rw [dayText_of_not_plain a hplain, dayText_of_plain c hc] at h
      exact hplain (not_plain_of_sign hc h.symm)
    rw [dayText_of_not_plain a hplain, dayText_of_not_plain c hc] at h
    obtain ⟨hyear, hmonth, _⟩ := yearMonth_of_text (u := []) (v := []) (by simpa using h)
    rw [dayText_of_not_plain a hplain,
      dayText_of_not_plain b (by rw [year_between hab hbc hyear]; exact hplain),
      year_between hab hbc hyear, yearMonth_between hab hbc hyear hmonth]

/-! ## Days and months in order -/

/-- The months of all years, numbered in the order of time. -/
def monthNumber (t : IsoInstant) : Int := t.year * 13 + t.month

/-- The days of all months, numbered in the order of time. -/
def dayNumber (t : IsoInstant) : Int := t.monthNumber * 32 + t.day

theorem rank_eq (t : IsoInstant) : t.rank = t.dayNumber * 86400000 + t.msOfDay := rfl

theorem dayNumber_mono (h : a.rank ≤ b.rank) : a.dayNumber ≤ b.dayNumber := by
  rw [rank_eq, rank_eq] at h
  have := a.ms_lt
  have := b.ms_lt
  omega

theorem monthNumber_mono_day (h : a.dayNumber ≤ b.dayNumber) :
    a.monthNumber ≤ b.monthNumber := by
  unfold dayNumber at h
  have := a.day_lt
  have := b.day_lt
  omega

theorem monthNumber_mono (h : a.rank ≤ b.rank) : a.monthNumber ≤ b.monthNumber :=
  monthNumber_mono_day (dayNumber_mono h)

theorem monthNumber_eq_of_dayNumber (h : a.dayNumber = b.dayNumber) :
    a.monthNumber = b.monthNumber :=
  le_antisymm (monthNumber_mono_day h.le) (monthNumber_mono_day h.ge)

theorem yearMonth_of_monthNumber (h : a.monthNumber = b.monthNumber) :
    a.year = b.year ∧ a.month = b.month := by
  unfold monthNumber at h
  have := a.month_lt
  have := b.month_lt
  omega

/-- Within the years that have four digits, the texts name the days and the months. -/
theorem dayText_eq_iff (ha : IsPlain a.year) (hb : IsPlain b.year) :
    a.dayText = b.dayText ↔ a.dayNumber = b.dayNumber := by
  rw [dayText_of_plain a ha, dayText_of_plain b hb]
  have hdaya := a.day_lt
  have hdayb := b.day_lt
  constructor
  · intro h
    obtain ⟨hyear, hmonth, hday⟩ := yearMonth_of_text h
    have hday' := pad_two_inj (by omega) (by omega) (List.cons.inj hday).2
    unfold dayNumber monthNumber
    rw [hyear, hmonth, hday']
  · intro h
    obtain ⟨hyear, hmonth⟩ := yearMonth_of_monthNumber (monthNumber_eq_of_dayNumber h)
    have hday : a.day = b.day := by
      have := monthNumber_eq_of_dayNumber h
      unfold dayNumber at h
      omega
    rw [hyear, hmonth, hday]

theorem monthText_eq_iff (ha : IsPlain a.year) (hb : IsPlain b.year) :
    a.monthText = b.monthText ↔ a.monthNumber = b.monthNumber := by
  rw [monthText_of_plain a ha, monthText_of_plain b hb]
  constructor
  · intro h
    obtain ⟨hyear, hmonth, -⟩ := yearMonth_of_text (u := []) (v := []) (by simpa using h)
    unfold monthNumber
    rw [hyear, hmonth]
  · intro h
    obtain ⟨hyear, hmonth⟩ := yearMonth_of_monthNumber h
    rw [hyear, hmonth]

/-- The whole text names the instant. -/
theorem toISOString_injective : Function.Injective toISOString := by
  intro a b h
  unfold toISOString at h
  obtain ⟨hyear, hrest⟩ := yearText_inj a.year_lt b.year_lt h
  obtain ⟨hmonth, hrest⟩ := List.append_inj (List.cons.inj hrest).2 (by simp)
  obtain ⟨hday, hrest⟩ := List.append_inj (List.cons.inj hrest).2 (by simp)
  obtain ⟨hhour, hrest⟩ := List.append_inj (List.cons.inj hrest).2 (by simp)
  obtain ⟨hminute, hrest⟩ := List.append_inj (List.cons.inj hrest).2 (by simp)
  obtain ⟨hsecond, hrest⟩ := List.append_inj (List.cons.inj hrest).2 (by simp)
  obtain ⟨hms, -⟩ := List.append_inj (List.cons.inj hrest).2 (by simp)
  have hma := a.month_lt
  have hmb := b.month_lt
  have hda := a.day_lt
  have hdb := b.day_lt
  have hta := a.ms_lt
  have htb := b.ms_lt
  have hmonth := pad_two_inj (by omega) (by omega) hmonth
  have hday := pad_two_inj (by omega) (by omega) hday
  have hhour := pad_two_inj (by omega) (by omega) hhour
  have hminute := pad_two_inj (by omega) (by omega) hminute
  have hsecond := pad_two_inj (by omega) (by omega) hsecond
  have hms : a.msOfDay % 1000 = b.msOfDay % 1000 := by
    apply pad_inj ?_ ?_ hms
    · omega
    · omega
  have htime : a.msOfDay = b.msOfDay := by omega
  cases a
  cases b
  simp only [IsoInstant.mk.injEq]
  exact ⟨hyear, hmonth, hday, htime⟩

end IsoInstant
end AvantimePlatform
