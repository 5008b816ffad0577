import Mathlib.Data.List.Basic
import SiteAccess.Proofs.Decimal
import SiteAccess.Proofs.Text.Word
import SiteAccess.Time.Timestamp

namespace SiteAccess.Time

open Decimal Text

namespace Timestamp

variable {ds rest : List Char}

theorem number?_append {most : Nat} (hne : ds ≠ []) (hd : ∀ c ∈ ds, c.isDigit = true)
    (hl : ds.length ≤ most) (hr : ds.length = most ∨ ∀ c ∈ rest.head?, c.isDigit = false) :
    number? most (ds ++ rest) = some (natValue ds, rest) := by
  -- The run of digits ends at the limit or where the rest begins.
  have hstop : (rest.take (most - ds.length)).takeWhile Char.isDigit = [] := by
    rcases hr with he | hr
    · rw [he, Nat.sub_self]
      rfl
    · cases rest with
      | nil => rw [List.take_nil]; rfl
      | cons c cs =>
          have hc : c.isDigit = false := hr c rfl
          cases most - ds.length with
          | zero => rfl
          | succ k => simp [hc]
  have hrun : ((ds ++ rest).take most).takeWhile Char.isDigit = ds := by
    rw [List.take_append, List.take_of_length_le hl, List.takeWhile_append_of_pos hd, hstop,
      List.append_nil]
  have he : ds.isEmpty = false := by simpa using hne
  simp [number?, hrun, he]

theorem number?_padded {width n : Nat} (hw : 0 < width) (h : n < 10 ^ width) (rest : List Char) :
    number? width (padded width n ++ rest) = some (n, rest) := by
  have hl := length_padded hw h
  rw [number?_append (padded_ne_nil width n) (fun c => isDigit_of_mem_padded) (Nat.le_of_eq hl)
    (.inl hl), natValue_padded]

theorem trimStart_append_of_digits (hne : ds ≠ []) (hd : ∀ c ∈ ds, c.isDigit = true)
    (rest : List Char) : trimStart (ds ++ rest) = ds ++ rest := by
  cases ds with
  | nil => exact absurd rfl hne
  | cons c cs => exact trimStart_of_head (isBlank_eq_false_of_isDigit (hd c (by simp)))

theorem trimStart_padded (width n : Nat) (rest : List Char) :
    trimStart (padded width n ++ rest) = padded width n ++ rest :=
  trimStart_append_of_digits (padded_ne_nil width n) (fun _ => isDigit_of_mem_padded) rest

theorem sized?_padded {width n : Nat} (hw : 0 < width) (h : n < 10 ^ width) (rest : List Char) :
    sized? width (padded width n ++ rest) = some (n, rest) := by
  rw [sized?, trimStart_padded, number?_padded hw h]

theorem mark?_cons {c : Char} (h : isBlank c = false) (rest : List Char) :
    mark? c (c :: rest) = some rest := by
  rw [mark?, trimStart_of_head h, expect?, if_pos rfl]

theorem year?_digits (hne : ds ≠ []) (hd : ∀ c ∈ ds, c.isDigit = true) (rest : List Char) :
    year? (ds ++ rest) = (number? 4 (ds ++ rest)).map fun p => ((p.1 : Int), p.2) := by
  rw [year?, trimStart_append_of_digits hne hd]
  cases ds with
  | nil => exact absurd rfl hne
  | cons c cs =>
      have hc : c.isDigit = true := hd c (by simp)
      have hne : c ≠ '-' ∧ c ≠ '+' := by
        constructor <;> rintro rfl <;> simp at hc
      simp only [List.cons_append]
      split <;> simp_all

theorem number?_signed (n : Nat) (rest : List Char) :
    number? (padded 4 n ++ '-' :: rest).length (padded 4 n ++ '-' :: rest) =
      some (n, '-' :: rest) := by
  rw [number?_append (padded_ne_nil 4 n) (fun c => isDigit_of_mem_padded) (by simp)
    (.inr (by simp)), natValue_padded]

theorem year?_yearText (y : Int) (rest : List Char) :
    year? (Instant.yearText y ++ '-' :: rest) = some (y, '-' :: rest) := by
  rw [Instant.yearText]
  split
  · next h =>
    have hn : y.toNat < 10 ^ 4 := by omega
    rw [year?_digits (padded_ne_nil 4 y.toNat) (fun c => isDigit_of_mem_padded),
      number?_padded (by omega) hn]
    simp [Int.toNat_of_nonneg h.1]
  · split
    · next h =>
      have hy : (y.natAbs : Int) = y := by omega
      rw [List.cons_append, year?, trimStart_of_head (by decide)]
      change Option.map _ (number? (padded 4 y.natAbs ++ '-' :: rest).length _) = _
      simp only [number?_signed, Option.map_some, hy]
    · next h =>
      have hy : -(y.natAbs : Int) = y := by omega
      rw [List.cons_append, year?, trimStart_of_head (by decide)]
      change Option.map _ (number? (padded 4 y.natAbs ++ '-' :: rest).length _) = _
      simp only [number?_signed, Option.map_some, hy]

theorem date?_text (d : Date) (hm : d.month < 10 ^ 2) (hd : d.day < 10 ^ 2) (rest : List Char) :
    date? (Instant.yearText d.year ++
      '-' :: (padded 2 d.month ++ '-' :: (padded 2 d.day ++ rest))) = some (d, rest) := by
  have hb : isBlank '-' = false := by decide
  simp [date?, year?_yearText, mark?_cons hb, sized?_padded (Nat.zero_lt_two) hm,
    sized?_padded (Nat.zero_lt_two) hd]

theorem number?_run {most : Nat} (hm : 0 < most) (hne : ds ≠ []) (hd : ∀ c ∈ ds, c.isDigit = true)
    (hr : ∀ c ∈ rest.head?, c.isDigit = false) :
    number? most (ds ++ rest) = some (natValue (ds.take most), ds.drop most ++ rest) := by
  have hrun : number? most (ds.take most ++ (ds.drop most ++ rest)) =
      some (natValue (ds.take most), ds.drop most ++ rest) := by
    apply number?_append
    · simp [hne, Nat.ne_of_gt hm]
    · exact fun c hc => hd c (List.mem_of_mem_take hc)
    · exact List.length_take_le most ds
    · rcases Nat.lt_or_ge ds.length most with hl | hl
      · right
        rw [List.drop_eq_nil_of_le (Nat.le_of_lt hl)]
        exact hr
      · left
        rw [List.length_take, Nat.min_eq_left hl]
  rwa [← List.append_assoc, List.take_append_drop] at hrun

theorem dropWhile_isDigit_append (hd : ∀ c ∈ ds, c.isDigit = true)
    (hr : ∀ c ∈ rest.head?, c.isDigit = false) : (ds ++ rest).dropWhile Char.isDigit = rest :=
  congrArg Prod.snd (splitDigits_append hd hr)

/-- The nanoseconds that the digits after a point stand for, of which nine count. -/
def nanosOf (ds : List Char) : Nat := natValue (ds.take 9) * 10 ^ (9 - (ds.take 9).length)

def pointText : List Char → List Char
  | [] => []
  | ds => '.' :: ds

theorem fraction?_pointText (hd : ∀ c ∈ ds, c.isDigit = true)
    (hr : ∀ c ∈ rest.head?, c.isDigit = false ∧ c ≠ '.') :
    fraction? (pointText ds ++ rest) = some (nanosOf ds, rest) := by
  cases hds : ds with
  | nil =>
      cases rest with
      | nil => rfl
      | cons c cs =>
          have hc : c ≠ '.' := (hr c rfl).2
          simp [pointText, fraction?, nanosOf, natValue, hc]
  | cons d ds' =>
      rw [← hds]
      have hp : pointText ds ++ rest = '.' :: (ds ++ rest) := by simp [pointText, hds]
      have hn : number? 9 (ds ++ rest) = some (natValue (ds.take 9), ds.drop 9 ++ rest) :=
        number?_run (by omega) (by simp [hds]) hd fun c hc => (hr c hc).1
      have hdrop : (ds.drop 9 ++ rest).dropWhile Char.isDigit = rest := by
        apply dropWhile_isDigit_append
        · intro c hc
          exact hd c (List.mem_of_mem_drop hc)
        · intro c hc
          exact (hr c hc).1
      -- How many digits were read is told by what is left of the text before any are dropped.
      have hread : (ds ++ rest).length - (ds.drop 9 ++ rest).length = (ds.take 9).length := by
        simp only [List.length_append, List.length_drop, List.length_take]
        omega
      rw [hp, fraction?, hn]
      change some (natValue (ds.take 9) * 10 ^ (9 - ((ds ++ rest).length -
        (ds.drop 9 ++ rest).length)), (ds.drop 9 ++ rest).dropWhile Char.isDigit) = _
      rw [hread, hdrop, nanosOf]

theorem clock?_text {hour minute second : Nat} (hh : hour < 10 ^ 2) (hm : minute < 10 ^ 2)
    (hs : second < 10 ^ 2) (hd : ∀ d ∈ ds, d.isDigit = true)
    (hr : ∀ d ∈ rest.head?, d.isDigit = false ∧ d ≠ '.') :
    clock? (padded 2 hour ++ ':' :: (padded 2 minute ++ ':' :: (padded 2 second ++
      (pointText ds ++ rest)))) = some (⟨hour, minute, second, nanosOf ds⟩, rest) := by
  have hb : isBlank ':' = false := by decide
  simp [clock?, mark?_cons hb, sized?_padded Nat.zero_lt_two hh, sized?_padded Nat.zero_lt_two hm,
    sized?_padded Nat.zero_lt_two hs, fraction?_pointText hd hr]

inductive Zone
  | universal
  | ahead (hours minutes : Nat)
  | behind (hours minutes : Nat)

namespace Zone

def text : Zone → List Char
  | universal => ['Z']
  | ahead hours minutes => '+' :: (padded 2 hours ++ ':' :: padded 2 minutes)
  | behind hours minutes => '-' :: (padded 2 hours ++ ':' :: padded 2 minutes)

def seconds : Zone → Int
  | universal => 0
  | ahead hours minutes => 3600 * hours + 60 * minutes
  | behind hours minutes => -(3600 * hours + 60 * minutes)

def IsValid : Zone → Prop
  | universal => True
  | ahead hours minutes | behind hours minutes => hours < 24 ∧ minutes < 60

end Zone

theorem offset?_padded {hours minutes : Nat} (hh : hours < 24) (hm : minutes < 60) :
    offset? (padded 2 hours ++ ':' :: padded 2 minutes) =
      some (3600 * hours + 60 * minutes, []) := by
  obtain ⟨a, b, hab, ha, hb, hv⟩ := exists_padded_two (show hours < 10 ^ 2 by omega)
  obtain ⟨c, d, hcd, hc, hd, hw⟩ := exists_padded_two (show minutes < 10 ^ 2 by omega)
  have hsep : isOffsetSeparator c = false := by
    have hne : c ≠ ':' := by
      rintro rfl
      simp at hc
    simp [isOffsetSeparator, hne, isBlank_eq_false_of_isDigit hc]
  have hcolon : isOffsetSeparator ':' = true := rfl
  rw [hab, hcd]
  simp [offset?, hcolon, hsep, ha, hb, hc, hd, hv, hw, hm]

theorem sameWord_utc_eq_false {c : Char} {cs : List Char} (h : c.toLower ≠ 'u') :
    sameWord (String.ofList (c :: cs)) "UTC" = false := by
  cases hs : sameWord (String.ofList (c :: cs)) "UTC" with
  | false => rfl
  | true =>
      have hu : (lower "UTC").toList.head? = some 'u' := by decide
      rw [← sameWord_iff.mp hs, lower, String.toList_ofList, String.toList_ofList] at hu
      exact absurd (Option.some.inj hu) h

theorem zone?_text {z : Zone} (h : z.IsValid) : zone? z.text = some (z.seconds, []) := by
  cases z with
  | universal => decide
  | ahead hours minutes | behind hours minutes =>
      -- The word UTC is looked for first, and no sign begins it.
      rw [Zone.text, zone?, List.take_succ_cons, sameWord_utc_eq_false (by decide)]
      simp [offset?_padded h.1 h.2, Zone.seconds]

theorem Zone.text_head (z : Zone) :
    ∃ c cs, z.text = c :: cs ∧ isBlank c = false ∧ c.isDigit = false ∧ c ≠ '.' := by
  cases z with
  | universal => exact ⟨'Z', _, rfl, by decide⟩
  | ahead => exact ⟨'+', _, rfl, by decide⟩
  | behind => exact ⟨'-', _, rfl, by decide⟩

structure Stamp where
  date : Date
  hour : Nat
  minute : Nat
  second : Nat
  fraction : List Char
  zone : Zone

namespace Stamp

def text (w : Stamp) : List Char :=
  Instant.yearText w.date.year ++ '-' :: (padded 2 w.date.month ++ '-' :: (padded 2 w.date.day ++
    'T' :: (padded 2 w.hour ++ ':' :: (padded 2 w.minute ++ ':' :: (padded 2 w.second ++
      (pointText w.fraction ++ w.zone.text))))))

structure WellFormed (w : Stamp) : Prop where
  date : w.date.isValid = true
  first_le : firstYear ≤ w.date.year
  le_last : w.date.year ≤ lastYear
  hour : w.hour < 24
  minute : w.minute < 60
  second : w.second ≤ 60
  fraction : ∀ d ∈ w.fraction, d.isDigit = true
  zone : w.zone.IsValid

/-- The instant is the local time less what the zone is ahead, and second 60 is the second billion
of nanoseconds of second 59. -/
structure Denotes (w : Stamp) (t : Instant) : Prop where
  seconds : t.seconds = 86400 * w.date.dayNumber + 3600 * w.hour + 60 * w.minute + min w.second 59 -
    w.zone.seconds
  nanos : t.nanos = nanosOf w.fraction + if w.second = 60 then 1000000000 else 0

end Stamp

theorem daysInMonth_le (y : Int) (month : Nat) : daysInMonth y month ≤ 31 := by
  unfold daysInMonth
  split
  · split <;> omega
  · split <;> omega

theorem Zone.natAbs_seconds_lt {z : Zone} (h : z.IsValid) : z.seconds.natAbs < 86400 := by
  cases z with
  | universal => decide
  | ahead hours minutes | behind hours minutes =>
      have h1 := h.1
      have h2 := h.2
      simp only [Zone.seconds]
      omega

theorem read?_text {w : Stamp} (h : w.WellFormed) : read? (String.ofList w.text) =
    instant? w.date ⟨w.hour, w.minute, w.second, nanosOf w.fraction⟩ w.zone.seconds := by
  have hd := h.date
  simp only [Date.isValid, Bool.and_eq_true, decide_eq_true_eq] at hd
  have hl := daysInMonth_le w.date.year w.date.month
  have hh := h.hour
  have hm := h.minute
  have hs := h.second
  obtain ⟨c, cs, hz, hb, hn⟩ := w.zone.text_head
  have hr : ∀ d ∈ w.zone.text.head?, d.isDigit = false ∧ d ≠ '.' := by
    intro d hd
    rw [hz] at hd
    obtain rfl : c = d := by simpa using hd
    exact hn
  have htrim : trimStart w.zone.text = w.zone.text := by rw [hz, trimStart_of_head hb]
  have hT : ∀ cs, dateEnd? ('T' :: cs) = some cs := fun _ => rfl
  have hdate := date?_text w.date (show w.date.month < 10 ^ 2 by omega)
    (show w.date.day < 10 ^ 2 by omega)
  have hclock := @clock?_text w.fraction w.zone.text w.hour w.minute w.second (by omega) (by omega)
    (by omega) h.fraction hr
  have hend : trimStart [] = [] := rfl
  simp [read?, Stamp.text, hdate, hT, hclock, htrim, zone?_text h.zone, hend]

/-- A timestamp is read as the instant that it denotes. -/
theorem read?_of_denotes {w : Stamp} {t : Instant} (h : w.WellFormed) (hd : w.Denotes t) :
    read? (String.ofList w.text) = some t := by
  have hh := h.hour
  have hm := h.minute
  have hs := h.second
  have hclock : (Clock.mk w.hour w.minute w.second (nanosOf w.fraction)).isValid = true := by
    simp [Clock.isValid, hh, hm, hs]
  have hseconds : 86400 * w.date.dayNumber + (Clock.mk w.hour w.minute w.second
      (nanosOf w.fraction)).secondOfDay - w.zone.seconds = t.seconds := by
    rw [hd.seconds, Clock.secondOfDay]
    generalize w.date.dayNumber = n
    dsimp only
    omega
  have hnanos : (Clock.mk w.hour w.minute w.second (nanosOf w.fraction)).allNanos = t.nanos := by
    rw [hd.nanos, Clock.allNanos]
  rw [read?_text h, instant?,
    if_pos ⟨h.first_le, h.le_last, h.date, hclock, Zone.natAbs_seconds_lt h.zone⟩, hseconds, hnanos,
    t.ofSeconds?_self]

end Timestamp

end SiteAccess.Time
