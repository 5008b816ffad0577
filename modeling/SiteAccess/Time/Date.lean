namespace SiteAccess.Time

structure Date where
  year : Int
  month : Nat
  day : Nat
  deriving DecidableEq

def isLeapYear (y : Int) : Bool := y % 4 = 0 ∧ (y % 100 ≠ 0 ∨ y % 400 = 0)

def daysInMonth (y : Int) (month : Nat) : Nat :=
  if month = 2 then if isLeapYear y then 29 else 28
  else if month = 4 ∨ month = 6 ∨ month = 9 ∨ month = 11 then 30
  else 31

/-- The days from the first of March of year 0 to the first of March of year `y`, so that a leap
day is the last of its year. -/
def yearStart (y : Int) : Int := 365 * y + y / 4 - y / 100 + y / 400

/-- The days from the first of March to the first of the `m`-th month after it. -/
def monthStart (m : Nat) : Nat := (153 * m + 2) / 5

/-- The number of the first day of 1970 among all days since the first of March of year 0. -/
def epochDay : Int := 719468

namespace Date

def isValid (d : Date) : Bool :=
  1 ≤ d.month && d.month ≤ 12 && 1 ≤ d.day && d.day ≤ daysInMonth d.year d.month

/-- The days from the start of 1970 to a date. -/
def dayNumber (d : Date) : Int :=
  let y := if d.month ≤ 2 then d.year - 1 else d.year
  yearStart y + monthStart ((d.month + 9) % 12) + d.day - 1 - epochDay

/-- The year, counted from March, of a day since the first of March of year 0. Its mean length tells
it up to one. -/
def yearOf (day : Int) : Int :=
  let y := 400 * day / 146097
  if day < yearStart y then y - 1 else if yearStart (y + 1) ≤ day then y + 1 else y

def monthOf (day : Nat) : Nat := (5 * day + 2) / 153

def ofMarch (y : Int) (m day : Nat) : Date :=
  if m < 10 then ⟨y, m + 3, day⟩ else ⟨y + 1, m - 9, day⟩

def ofDayNumber (n : Int) : Date :=
  let y := yearOf (n + epochDay)
  let day := (n + epochDay - yearStart y).toNat
  ofMarch y (monthOf day) (day - monthStart (monthOf day) + 1)

theorem yearStart_yearOf_le (n : Int) : yearStart (yearOf n) ≤ n := by
  unfold yearOf
  dsimp only
  split
  · unfold yearStart at *; omega
  · split <;> omega

theorem lt_yearStart_yearOf (n : Int) : n < yearStart (yearOf n + 1) := by
  unfold yearOf
  dsimp only
  split
  · rwa [Int.sub_add_cancel]
  · split
    · unfold yearStart at *; omega
    · omega

theorem yearStart_succ (y : Int) :
    yearStart (y + 1) = yearStart y + if isLeapYear (y + 1) then 366 else 365 := by
  unfold yearStart isLeapYear
  split <;> simp_all <;> omega

theorem monthStart_monthOf_le (day : Nat) : monthStart (monthOf day) ≤ day := by
  unfold monthStart monthOf; omega

theorem lt_monthStart_monthOf (day : Nat) : day < monthStart (monthOf day + 1) := by
  unfold monthStart monthOf; omega

variable {y : Int} {m day : Nat}

theorem month_ofMarch (h : m < 12) :
    1 ≤ (ofMarch y m day).month ∧ (ofMarch y m day).month ≤ 12 := by
  unfold ofMarch
  split <;> constructor <;> dsimp only <;> omega

theorem day_ofMarch : (ofMarch y m day).day = day := by
  unfold ofMarch
  split <;> rfl

theorem monthStart_succ (h : m < 11) :
    monthStart (m + 1) =
      monthStart m + daysInMonth (ofMarch y m day).year (ofMarch y m day).month := by
  have hm : m = 0 ∨ m = 1 ∨ m = 2 ∨ m = 3 ∨ m = 4 ∨ m = 5 ∨ m = 6 ∨ m = 7 ∨ m = 8 ∨ m = 9 ∨
      m = 10 := by omega
  rcases hm with rfl | rfl | rfl | rfl | rfl | rfl | rfl | rfl | rfl | rfl | rfl <;> rfl

theorem daysInMonth_february :
    daysInMonth (ofMarch y 11 day).year (ofMarch y 11 day).month =
      if isLeapYear (y + 1) then 29 else 28 := rfl

theorem dayNumber_ofMarch (h : m < 12) :
    (ofMarch y m day).dayNumber = yearStart y + monthStart m + day - 1 - epochDay := by
  unfold ofMarch dayNumber
  split
  · have hm : (m + 3 + 9) % 12 = m := by omega
    dsimp only
    rw [if_neg (by omega), hm]
  · have hm : (m - 9 + 9) % 12 = m := by omega
    dsimp only
    rw [if_pos (by omega), hm, Int.add_sub_cancel]

theorem isValid_ofMarch (h : day < if isLeapYear (y + 1) then 366 else 365) :
    (ofMarch y (monthOf day) (day - monthStart (monthOf day) + 1)).isValid := by
  have hle := monthStart_monthOf_le day
  have hlt := lt_monthStart_monthOf day
  have hm : monthOf day < 12 := by unfold monthOf; split at h <;> omega
  generalize monthOf day = m at *
  simp only [isValid, Bool.and_eq_true, decide_eq_true_eq, day_ofMarch]
  refine ⟨⟨month_ofMarch hm, by omega⟩, ?_⟩
  by_cases hl : m < 11
  · have hs := @monthStart_succ y m (day - monthStart m + 1) hl
    omega
  · obtain rfl : m = 11 := by omega
    have h11 : monthStart 11 = 337 := rfl
    rw [daysInMonth_february]
    split at h <;> simp_all <;> omega

theorem isValid_ofDayNumber (n : Int) : (ofDayNumber n).isValid := by
  have hle := yearStart_yearOf_le (n + epochDay)
  have hlt := lt_yearStart_yearOf (n + epochDay)
  rw [yearStart_succ] at hlt
  refine isValid_ofMarch ?_
  split at hlt <;> simp_all <;> omega

theorem dayNumber_ofDayNumber (n : Int) : (ofDayNumber n).dayNumber = n := by
  have hle := yearStart_yearOf_le (n + epochDay)
  have hlt := lt_yearStart_yearOf (n + epochDay)
  rw [yearStart_succ] at hlt
  have hs := monthStart_monthOf_le (n + epochDay - yearStart (yearOf (n + epochDay))).toNat
  rw [ofDayNumber, dayNumber_ofMarch (by unfold monthOf; split at hlt <;> omega)]
  omega

theorem yearStart_mono {y z : Int} (h : y ≤ z) : yearStart y ≤ yearStart z := by
  unfold yearStart
  omega

theorem yearStart_add_le (y : Int) : yearStart y + 365 ≤ yearStart (y + 1) := by
  rw [yearStart_succ]
  split <;> omega

theorem dayNumber_firstOfJanuary (y : Int) :
    dayNumber ⟨y, 1, 1⟩ = yearStart (y - 1) + 306 - epochDay := by
  have hm : monthStart ((1 + 9) % 12) = 306 := rfl
  rw [dayNumber]
  dsimp only
  rw [if_pos (by decide), hm]
  omega

theorem year_ofMarch (y : Int) (m day : Nat) :
    (ofMarch y m day).year = if m < 10 then y else y + 1 := by
  unfold ofMarch
  split <;> rfl

theorem monthOf_lt_ten_iff {day : Nat} : monthOf day < 10 ↔ day < 306 := by
  unfold monthOf
  omega

/-- January and February belong to the year that is counted from the March before. -/
theorem year_ofDayNumber (n : Int) : (ofDayNumber n).year =
    if n + epochDay < yearStart (yearOf (n + epochDay)) + 306 then yearOf (n + epochDay)
    else yearOf (n + epochDay) + 1 := by
  have hle := yearStart_yearOf_le (n + epochDay)
  simp only [ofDayNumber, year_ofMarch, monthOf_lt_ten_iff]
  split <;> split <;> omega

theorem le_year_ofDayNumber_iff {y n : Int} :
    y ≤ (ofDayNumber n).year ↔ dayNumber ⟨y, 1, 1⟩ ≤ n := by
  have hle := yearStart_yearOf_le (n + epochDay)
  have hlt := lt_yearStart_yearOf (n + epochDay)
  rw [year_ofDayNumber, dayNumber_firstOfJanuary]
  generalize yearOf (n + epochDay) = z at *
  have hz := yearStart_add_le z
  -- Starts of years are in order, and a year counted from March is the year itself or the one after.
  rcases Int.lt_trichotomy (y - 1) z with h | rfl | h
  · have hm := yearStart_mono (show y ≤ z by omega)
    have hy := yearStart_add_le (y - 1)
    rw [Int.sub_add_cancel] at hy
    split <;> omega
  · split <;> omega
  · have hm := yearStart_mono (show z + 1 ≤ y - 1 by omega)
    split <;> omega

end Date

def firstYear : Int := -262143

def lastYear : Int := 262142

def firstSecond : Int := 86400 * Date.dayNumber ⟨firstYear, 1, 1⟩

def lastSecond : Int := 86400 * Date.dayNumber ⟨lastYear, 12, 31⟩ + 86399

structure Instant where
  seconds : Int
  nanos : Nat
  first_le : firstSecond ≤ seconds
  le_last : seconds ≤ lastSecond
  nanos_lt : nanos < 2000000000
  leap_at_minute_end : 1000000000 ≤ nanos → seconds % 60 = 59
  deriving DecidableEq

namespace Instant

def ofSeconds? (seconds : Int) (nanos : Nat) : Option Instant :=
  if h : firstSecond ≤ seconds ∧ seconds ≤ lastSecond ∧ nanos < 2000000000 ∧
      (1000000000 ≤ nanos → seconds % 60 = 59) then
    some ⟨seconds, nanos, h.1, h.2.1, h.2.2.1, h.2.2.2⟩
  else none

def date (t : Instant) : Date := .ofDayNumber (t.seconds / 86400)

def secondOfDay (t : Instant) : Nat := (t.seconds % 86400).toNat

theorem ofSeconds?_self (t : Instant) : ofSeconds? t.seconds t.nanos = some t := by
  rw [ofSeconds?, dif_pos ⟨t.first_le, t.le_last, t.nanos_lt, t.leap_at_minute_end⟩]

end Instant

end SiteAccess.Time
