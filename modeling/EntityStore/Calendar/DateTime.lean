import EntityStore.Calendar.Date
import EntityStore.Calendar.Time

/-!
# Timestamps

A timestamp is a date with a time of day.  Written for interchange, a `T` stands between the two;
shown to people, a space does.
-/

namespace EntityStore

/-- A date and a time of day. -/
structure DateTime where
  date : Date
  time : Time
deriving DecidableEq

namespace DateTime

instance : Ord DateTime :=
  ⟨compareLex (compareOn date) (compareOn time)⟩

instance : Std.TransOrd DateTime :=
  inferInstanceAs (Std.TransCmp (compareLex (compareOn date) (compareOn time)))

instance : Std.LawfulEqOrd DateTime where
  eq_of_compare {a b} h := by
    have h' : compareLex (compareOn date) (compareOn time) a b = .eq := h
    simp only [compareLex_eq_eq, compareOn, Std.LawfulEqOrd.compare_eq_iff_eq] at h'
    obtain ⟨d, t⟩ := a
    obtain ⟨d', t'⟩ := b
    simp_all

/-- Interchange form. -/
def text (d : DateTime) : String :=
  d.date.text ++ "T" ++ d.time.text

/-- Form shown to people. -/
def display (d : DateTime) : String :=
  d.date.text ++ " " ++ d.time.text

end DateTime

/-- The start of a day. -/
def Date.atMidnight (d : Date) : DateTime :=
  ⟨d, .midnight⟩

/-- A time of day on the anchor date. -/
def Time.onEpoch (t : Time) : DateTime :=
  ⟨.epoch, t⟩

end EntityStore
