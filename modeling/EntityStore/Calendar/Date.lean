import EntityStore.Decimal.Basic

/-!
# Calendar dates

Dates of the proleptic Gregorian calendar.  A `Date` carries the proof that its day exists, so
every date can be written and read back.
-/

namespace EntityStore

namespace Calendar

/-- Whether February has a twenty-ninth day in the proleptic Gregorian calendar. -/
def isLeapYear (year : Int) : Bool :=
  year % 4 == 0 && (year % 100 != 0 || year % 400 == 0)

/-- Days in a month of a year; zero for a month that does not exist. -/
def daysInMonth (year : Int) (month : Nat) : Nat :=
  match month with
  | 1 | 3 | 5 | 7 | 8 | 10 | 12 => 31
  | 4 | 6 | 9 | 11 => 30
  | 2 => if isLeapYear year then 29 else 28
  | _ => 0

/-- Whether a date exists within the supported years. -/
def isDate (year : Int) (month day : Nat) : Bool :=
  decide (-262143 ≤ year ∧ year ≤ 262142) && decide (1 ≤ day ∧ day ≤ daysInMonth year month)

end Calendar

/-- A day of the calendar. -/
structure Date where
  year : Int
  month : Nat
  day : Nat
  exists_day : Calendar.isDate year month day = true
deriving DecidableEq

namespace Date

/-- The date with these numbers, if there is one. -/
def of? (year : Int) (month day : Nat) : Option Date :=
  if h : Calendar.isDate year month day = true then some ⟨year, month, day, h⟩ else none

theorem of?_eq_some_iff {year : Int} {month day : Nat} {d : Date} :
    of? year month day = some d ↔ d.year = year ∧ d.month = month ∧ d.day = day := by
  unfold of?
  constructor
  · intro h
    split at h
    · cases h
      exact ⟨rfl, rfl, rfl⟩
    · cases h
  · rintro ⟨rfl, rfl, rfl⟩
    rw [dif_pos d.exists_day]

/-- The first of January 1970, which stored times of day are attached to. -/
def epoch : Date :=
  ⟨1970, 1, 1, by decide⟩

instance : Ord Date :=
  ⟨compareLex (compareOn year) (compareLex (compareOn month) (compareOn day))⟩

instance : Std.TransOrd Date :=
  inferInstanceAs
    (Std.TransCmp (compareLex (compareOn year) (compareLex (compareOn month) (compareOn day))))

instance : Std.LawfulEqOrd Date where
  eq_of_compare {a b} h := by
    have h' : compareLex (compareOn year) (compareLex (compareOn month) (compareOn day)) a b
        = .eq := h
    simp only [compareLex_eq_eq, compareOn, Std.LawfulEqOrd.compare_eq_iff_eq] at h'
    obtain ⟨y, m, d, _⟩ := a
    obtain ⟨y', m', d', _⟩ := b
    simp_all

/-- A year in four digits, with a sign when four unsigned digits do not hold it. -/
def yearText (year : Int) : String :=
  if 0 ≤ year ∧ year ≤ 9999 then Decimal.padded 4 year.toNat
  else if 0 ≤ year then "+" ++ Decimal.padded 4 year.toNat
  else "-" ++ Decimal.padded 4 (-year).toNat

/-- Year, month and day joined by hyphens. -/
def text (d : Date) : String :=
  yearText d.year ++ "-" ++ Decimal.padded 2 d.month ++ "-" ++ Decimal.padded 2 d.day

end Date

end EntityStore
