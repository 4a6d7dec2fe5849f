import EntityStore.Decimal.Basic

/-!
# Times of day

A time of day to the nanosecond.  A leap second may follow any second: it belongs to that second,
and its nanoseconds go on where those of the second end.  In texts it takes the number of the next
second, so only at the end of a minute does it have a number of its own, which is sixty.
-/

namespace EntityStore

/-- A time of day. -/
structure Time where
  hour : Nat
  minute : Nat
  second : Nat
  nanosecond : Nat
  in_day : hour < 24 ∧ minute < 60 ∧ second < 60 ∧ nanosecond < 2000000000
deriving DecidableEq

namespace Time

/-- The time that is written with these numbers, if there is one. -/
def of? (hour minute second nanosecond : Nat) : Option Time :=
  if h : hour < 24 ∧ minute < 60 ∧ second ≤ 60 ∧ nanosecond < 1000000000 then
    if leap : second = 60 then some ⟨hour, minute, 59, 1000000000 + nanosecond, by omega⟩
    else some ⟨hour, minute, second, nanosecond, by omega⟩
  else none

/-- The start of the day. -/
def midnight : Time :=
  ⟨0, 0, 0, 0, by decide⟩

instance : Ord Time :=
  ⟨compareLex (compareOn hour)
    (compareLex (compareOn minute) (compareLex (compareOn second) (compareOn nanosecond)))⟩

instance : Std.TransOrd Time :=
  inferInstanceAs
    (Std.TransCmp (compareLex (compareOn hour)
      (compareLex (compareOn minute) (compareLex (compareOn second) (compareOn nanosecond)))))

instance : Std.LawfulEqOrd Time where
  eq_of_compare {a b} h := by
    have h' : compareLex (compareOn hour)
        (compareLex (compareOn minute) (compareLex (compareOn second) (compareOn nanosecond))) a b
        = .eq := h
    simp only [compareLex_eq_eq, compareOn, Std.LawfulEqOrd.compare_eq_iff_eq] at h'
    obtain ⟨h₁, m₁, s₁, n₁, _⟩ := a
    obtain ⟨h₂, m₂, s₂, n₂, _⟩ := b
    simp_all

/-- The fraction of a second in three, six or nine digits, the fewest that are exact; a whole
second has none. -/
def fractionText (nanosecond : Nat) : String :=
  if nanosecond = 0 then ""
  else if nanosecond % 1000000 = 0 then "." ++ Decimal.padded 3 (nanosecond / 1000000)
  else if nanosecond % 1000 = 0 then "." ++ Decimal.padded 6 (nanosecond / 1000)
  else "." ++ Decimal.padded 9 nanosecond

/-- The number of the second in texts. -/
def shownSecond (t : Time) : Nat :=
  t.second + t.nanosecond / 1000000000

/-- The nanoseconds since that second. -/
def shownNanosecond (t : Time) : Nat :=
  t.nanosecond % 1000000000

/-- Hour, minute and second joined by colons, then the fraction. -/
def text (t : Time) : String :=
  Decimal.padded 2 t.hour ++ ":" ++ Decimal.padded 2 t.minute ++ ":" ++
    Decimal.padded 2 t.shownSecond ++ fractionText t.shownNanosecond

end Time

end EntityStore
