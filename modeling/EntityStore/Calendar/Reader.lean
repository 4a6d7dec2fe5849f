import EntityStore.Calendar.DateTime
import EntityStore.Text.Blank

/-!
# Reading dates and times

The reader takes numbers with fewer digits than are written, and white space before each number
and each mark.  An unsigned year has at most four digits; a signed one any number of them.
-/

namespace EntityStore.Calendar

open EntityStore.Text (isBlank)

/-- A reader takes what it recognises off the front of the text. -/
abbrev Reader (α : Type) := List Char → Option (α × List Char)

/-- Between one and `limit` digits; `none` means any number of them. -/
def readDigits (limit : Option Nat) : Reader Nat := fun cs =>
  let digits := cs.takeWhile Decimal.isDigit
  let taken := match limit with
    | some n => digits.take n
    | none => digits
  if taken.isEmpty then none else some (Decimal.value taken, cs.drop taken.length)

/-- White space, then a number of at most `limit` digits. -/
def readNumber (limit : Nat) : Reader Nat := fun cs =>
  readDigits (some limit) (cs.dropWhile isBlank)

/-- White space, then a year. -/
def readYear : Reader Int := fun cs =>
  match cs.dropWhile isBlank with
  | '-' :: rest => (readDigits none rest).map fun (n, rest) => (-(n : Int), rest)
  | '+' :: rest => (readDigits none rest).map fun (n, rest) => ((n : Int), rest)
  | rest => (readDigits (some 4) rest).map fun (n, rest) => ((n : Int), rest)

/-- White space, then one mark. -/
def readMark (mark : Char) : Reader Unit := fun cs =>
  match cs.dropWhile isBlank with
  | c :: rest => if c = mark then some ((), rest) else none
  | [] => none

/-- A fraction of a second in nanoseconds: a point and digits, of which the first nine count.
No point means no fraction. -/
def readFraction : Reader Nat := fun cs =>
  match cs with
  | '.' :: rest =>
    let digits := rest.takeWhile Decimal.isDigit
    let kept := digits.take 9
    if kept.isEmpty then none
    else some (Decimal.value kept * Decimal.tenTo (9 - kept.length), rest.drop digits.length)
  | _ => some (0, cs)

/-- Reads year, month and day, joined by hyphens. -/
def readDate : Reader Date := fun cs => do
  let (year, cs) ← readYear cs
  let (_, cs) ← readMark '-' cs
  let (month, cs) ← readNumber 2 cs
  let (_, cs) ← readMark '-' cs
  let (day, cs) ← readNumber 2 cs
  let date ← Date.of? year month day
  return (date, cs)

/-- A colon, seconds and their fraction. -/
def readSeconds : Reader (Nat × Nat) := fun cs => do
  let (_, cs) ← readMark ':' cs
  let (second, cs) ← readNumber 2 cs
  let (nanosecond, cs) ← readFraction cs
  return ((second, nanosecond), cs)

/-- Hours and minutes. -/
def readMinutes : Reader (Nat × Nat) := fun cs => do
  let (hour, cs) ← readNumber 2 cs
  let (_, cs) ← readMark ':' cs
  let (minute, cs) ← readNumber 2 cs
  return ((hour, minute), cs)

/-- Accepts a finished reading when nothing but white space is left. -/
def finish {α : Type} : Option (α × List Char) → Option α
  | some (a, rest) => if rest.all isBlank then some a else none
  | none => none

/-- Reads a date. -/
def date? (s : String) : Option Date :=
  finish (readDate s.toList)

/-- Reads a time of day; the seconds may be missing. -/
def time? (s : String) : Option Time :=
  finish do
    let ((hour, minute), cs) ← readMinutes s.toList
    let ((second, nanosecond), cs) := (readSeconds cs).getD ((0, 0), cs)
    let time ← Time.of? hour minute second nanosecond
    return (time, cs)

/-- Reads a timestamp. -/
def dateTime? (s : String) : Option DateTime :=
  finish do
    let (date, cs) ← readDate s.toList
    let (_, cs) ← readMark 'T' cs
    let ((hour, minute), cs) ← readMinutes cs
    let ((second, nanosecond), cs) ← readSeconds cs
    let time ← Time.of? hour minute second nanosecond
    return (⟨date, time⟩, cs)

end EntityStore.Calendar
