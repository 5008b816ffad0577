import SiteAccess.Proofs.Time.Timestamp

namespace SiteAccess.Time

open Decimal

namespace Timestamp

theorem pointText_padded (width n : Nat) : pointText (padded width n) = '.' :: padded width n := by
  cases h : padded width n with
  | nil => exact absurd h (padded_ne_nil width n)
  | cons => rfl

theorem nanosOf_padded {width n : Nat} (hw : 0 < width) (hle : width ≤ 9) (h : n < 10 ^ width) :
    nanosOf (padded width n) = n * 10 ^ (9 - width) := by
  have hl := length_padded hw h
  rw [nanosOf, List.take_of_length_le (by omega), natValue_padded, hl]

def fractionDigits (nanos : Nat) : List Char :=
  if nanos = 0 then []
  else if nanos % 1000000 = 0 then padded 3 (nanos / 1000000)
  else if nanos % 1000 = 0 then padded 6 (nanos / 1000)
  else padded 9 nanos

theorem pointText_fractionDigits (nanos : Nat) :
    pointText (fractionDigits nanos) = Instant.fractionText nanos := by
  unfold fractionDigits Instant.fractionText
  split
  · rfl
  · split
    · exact pointText_padded _ _
    · split <;> exact pointText_padded _ _

theorem isDigit_of_mem_fractionDigits {nanos : Nat} {c : Char} (h : c ∈ fractionDigits nanos) :
    c.isDigit = true := by
  unfold fractionDigits at h
  split at h
  · cases h
  · split at h
    · exact isDigit_of_mem_padded h
    · split at h <;> exact isDigit_of_mem_padded h

theorem nanosOf_fractionDigits {nanos : Nat} (h : nanos < 1000000000) :
    nanosOf (fractionDigits nanos) = nanos := by
  unfold fractionDigits
  split
  · next h0 => rw [h0]; rfl
  · split
    · rw [nanosOf_padded (by omega) (by omega) (by omega)]
      omega
    · split
      · rw [nanosOf_padded (by omega) (by omega) (by omega)]
        omega
      · rw [nanosOf_padded (by omega) (by omega) (by omega)]
        omega

end Timestamp

namespace Instant

open Timestamp

def stamp (t : Instant) : Stamp where
  date := t.date
  hour := t.secondOfDay / 3600
  minute := t.secondOfDay / 60 % 60
  second := t.secondOfDay % 60 + t.nanos / 1000000000
  fraction := fractionDigits (t.nanos % 1000000000)
  zone := .universal

theorem secondOfDay_lt (t : Instant) : t.secondOfDay < 86400 := by
  unfold secondOfDay
  omega

theorem seconds_eq (t : Instant) : t.seconds = 86400 * t.date.dayNumber + t.secondOfDay := by
  rw [date, Date.dayNumber_ofDayNumber, secondOfDay]
  omega

theorem secondOfDay_mod (t : Instant) : (t.secondOfDay % 60 : Nat) = t.seconds % 60 := by
  unfold secondOfDay
  omega

theorem firstYear_le (t : Instant) : firstYear ≤ t.date.year := by
  apply Date.le_year_ofDayNumber_iff.mpr
  have h := t.first_le
  rw [firstSecond] at h
  omega

theorem le_lastYear (t : Instant) : t.date.year ≤ lastYear := by
  -- The bound is the last day of a year, so that a later year begins after it.
  have hnext : Date.dayNumber ⟨lastYear + 1, 1, 1⟩ = Date.dayNumber ⟨lastYear, 12, 31⟩ + 1 := by
    decide
  have hlast := t.le_last
  rw [lastSecond] at hlast
  by_contra hgt
  have hge := Date.le_year_ofDayNumber_iff.mp (Int.add_one_le_of_lt (Int.not_le.mp hgt))
  rw [hnext] at hge
  omega

theorem wellFormed_stamp (t : Instant) : t.stamp.WellFormed where
  date := Date.isValid_ofDayNumber _
  first_le := t.firstYear_le
  le_last := t.le_lastYear
  hour := Nat.div_lt_of_lt_mul t.secondOfDay_lt
  minute := Nat.mod_lt _ (by omega)
  second := by
    have hn := t.nanos_lt
    dsimp only [stamp]
    omega
  fraction := fun _ => isDigit_of_mem_fractionDigits
  zone := trivial

/-- Second 60 is said of the leap seconds, and of no other instant. -/
theorem second_stamp_eq_sixty_iff (t : Instant) : t.stamp.second = 60 ↔ 1000000000 ≤ t.nanos := by
  have hn := t.nanos_lt
  have hleap := t.leap_at_minute_end
  have hs := t.secondOfDay_mod
  dsimp only [stamp]
  omega

theorem denotes_stamp (t : Instant) : t.stamp.Denotes t := by
  have hn := t.nanos_lt
  constructor
  · have hs := t.secondOfDay_mod
    have hleap := t.leap_at_minute_end
    rw [t.seconds_eq] at hs hleap ⊢
    dsimp only [stamp, Zone.seconds]
    omega
  · have hd : nanosOf t.stamp.fraction = t.nanos % 1000000000 :=
      nanosOf_fractionDigits (Nat.mod_lt _ (by omega))
    have hs := t.second_stamp_eq_sixty_iff
    rw [hd]
    split <;> omega

theorem text_stamp (t : Instant) : t.stamp.text = t.text := by
  simp [Stamp.text, stamp, text, timeText, pointText_fractionDigits, Zone.text]

theorem read?_text (t : Instant) : Timestamp.read? (String.ofList t.text) = some t := by
  rw [← text_stamp, read?_of_denotes t.wellFormed_stamp t.denotes_stamp]

example : (Timestamp.read? "2016-12-31T18:59:60.1234567899-05:00").map text =
    some "2016-12-31T23:59:60.123456789Z".toList := by decide

end Instant

end SiteAccess.Time
