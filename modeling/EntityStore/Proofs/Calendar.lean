import EntityStore.Calendar.Reader
import EntityStore.Proofs.Decimal
import EntityStore.Proofs.Text.Blank

/-!
# Dates and times are read as they are written

Every number in the text of a date or a time is written with all the digits that its reader takes,
so the readers find the marks between the numbers.  The year may be written with more digits; then
it has a sign, and its reader takes all digits up to the mark that follows.  Only a leap second
within a minute is read as another time, the second after it, since its text is the same.
-/

namespace EntityStore

namespace Calendar

open EntityStore.Text (isBlank)

variable {digits rest : List Char} {n : Nat}

/-- Whether a run of digits ends before these characters. -/
def StopsDigits (rest : List Char) : Prop :=
  ∀ c ∈ rest.head?, Decimal.isDigit c = false

/-! ## Numbers and marks -/

theorem isBlank_of_isDigit {c : Char} (digit : Decimal.isDigit c = true) : isBlank c = false := by
  rw [Decimal.isDigit_eq, Char.isDigit, Bool.and_eq_true, decide_eq_true_eq,
    decide_eq_true_eq] at digit
  have above : 48 ≤ c.toNat := UInt32.le_iff_toNat_le.mp digit.1
  have below : c.toNat ≤ 57 := UInt32.le_iff_toNat_le.mp digit.2
  simp only [isBlank, Bool.or_eq_false_iff, Bool.and_eq_false_imp, beq_eq_false_iff_ne,
    decide_eq_true_eq, decide_eq_false_iff_not]
  omega

/-- Digits are not passed over as white space. -/
theorem dropWhile_digits (areDigits : ∀ c ∈ digits, Decimal.isDigit c = true)
    (nonempty : digits ≠ []) (rest : List Char) :
    (digits ++ rest).dropWhile isBlank = digits ++ rest := by
  cases digits with
  | nil => exact absurd rfl nonempty
  | cons c more =>
    have ink := isBlank_of_isDigit (areDigits c List.mem_cons_self)
    rw [List.cons_append, List.dropWhile_cons_of_neg (by simp [ink])]

theorem takeWhile_digits (areDigits : ∀ c ∈ digits, Decimal.isDigit c = true)
    (stops : StopsDigits rest) : (digits ++ rest).takeWhile Decimal.isDigit = digits := by
  rw [List.takeWhile_append_of_pos areDigits]
  cases rest with
  | nil => simp
  | cons c rest => simp [stops c rfl]

/-- As many digits as are admitted are read whatever follows. -/
theorem readDigits_limited (areDigits : ∀ c ∈ digits, Decimal.isDigit c = true)
    (nonempty : digits ≠ []) (rest : List Char) :
    readDigits (some digits.length) (digits ++ rest) = some (Decimal.value digits, rest) := by
  have taken : ((digits ++ rest).takeWhile Decimal.isDigit).take digits.length = digits := by
    rw [List.takeWhile_append_of_pos areDigits, List.take_left]
  simp [readDigits, taken, nonempty]

/-- Any number of digits is read up to the first other character. -/
theorem readDigits_unlimited (areDigits : ∀ c ∈ digits, Decimal.isDigit c = true)
    (nonempty : digits ≠ []) (stops : StopsDigits rest) :
    readDigits none (digits ++ rest) = some (Decimal.value digits, rest) := by
  simp [readDigits, takeWhile_digits areDigits stops, nonempty]

theorem readDigits_padded {width : Nat} (positive : 0 < width) (small : n < 10 ^ width)
    (rest : List Char) :
    readDigits (some width) ((Decimal.padded width n).toList ++ rest) = some (n, rest) := by
  have read := readDigits_limited (fun c member => Decimal.isDigit_of_mem_padded member)
    (Decimal.padded_ne_nil width n) rest
  rwa [Decimal.length_padded positive small, Decimal.value_padded] at read

theorem readDigits_signed {width : Nat} (stops : StopsDigits rest) :
    readDigits none ((Decimal.padded width n).toList ++ rest) = some (n, rest) := by
  rw [readDigits_unlimited (fun c member => Decimal.isDigit_of_mem_padded member)
    (Decimal.padded_ne_nil width n) stops, Decimal.value_padded]

theorem readNumber_padded (small : n < 100) (rest : List Char) :
    readNumber 2 ((Decimal.padded 2 n).toList ++ rest) = some (n, rest) := by
  rw [readNumber, dropWhile_digits (fun c member => Decimal.isDigit_of_mem_padded member)
    (Decimal.padded_ne_nil 2 n), readDigits_padded (by decide) small]

theorem readMark_cons (mark : Char) (ink : isBlank mark = false) (rest : List Char) :
    readMark mark (mark :: rest) = some ((), rest) := by
  rw [readMark, List.dropWhile_cons_of_neg (by simp [ink])]
  exact if_pos rfl

/-! ## Dates -/

/-- A year without a sign is a number of at most four digits. -/
theorem readYear_unsigned (areDigits : ∀ c ∈ digits, Decimal.isDigit c = true)
    (nonempty : digits ≠ []) (rest : List Char) :
    readYear (digits ++ rest) =
      (readDigits (some 4) (digits ++ rest)).map fun (n, rest) => ((n : Int), rest) := by
  cases digits with
  | nil => exact absurd rfl nonempty
  | cons c more =>
    have digit := areDigits c List.mem_cons_self
    rw [readYear, dropWhile_digits areDigits nonempty]
    split
    · rename_i minus
      cases minus
      contradiction
    · rename_i plus
      cases plus
      contradiction
    · rfl

theorem readYear_minus (rest : List Char) :
    readYear ('-' :: rest) = (readDigits none rest).map fun (n, rest) => (-(n : Int), rest) :=
  rfl

theorem readYear_plus (rest : List Char) :
    readYear ('+' :: rest) = (readDigits none rest).map fun (n, rest) => ((n : Int), rest) :=
  rfl

theorem readYear_yearText (year : Int) (stops : StopsDigits rest) :
    readYear ((Date.yearText year).toList ++ rest) = some (year, rest) := by
  unfold Date.yearText
  split
  · have magnitude : (year.toNat : Int) = year := by omega
    rw [readYear_unsigned (fun c member => Decimal.isDigit_of_mem_padded member)
      (Decimal.padded_ne_nil 4 year.toNat), readDigits_padded (by decide) (by omega)]
    simp only [Option.map_some, magnitude]
  · split
    · have magnitude : (year.toNat : Int) = year := by omega
      have signed : ("+" ++ Decimal.padded 4 year.toNat).toList ++ rest =
          '+' :: ((Decimal.padded 4 year.toNat).toList ++ rest) := by
        simp
      rw [signed, readYear_plus, readDigits_signed stops]
      simp only [Option.map_some, magnitude]
    · have magnitude : -((-year).toNat : Int) = year := by omega
      have signed : ("-" ++ Decimal.padded 4 (-year).toNat).toList ++ rest =
          '-' :: ((Decimal.padded 4 (-year).toNat).toList ++ rest) := by
        simp
      rw [signed, readYear_minus, readDigits_signed stops]
      simp only [Option.map_some, magnitude]

theorem toList_text (d : Date) :
    d.text.toList = (Date.yearText d.year).toList ++ '-' ::
      ((Decimal.padded 2 d.month).toList ++ '-' :: (Decimal.padded 2 d.day).toList) := by
  simp [Date.text]

/-- A date has a month and a day of two digits. -/
theorem small_of_isDate {year : Int} {month day : Nat} (exists_day : isDate year month day = true) :
    month < 100 ∧ day < 100 := by
  simp only [isDate, Bool.and_eq_true, decide_eq_true_eq] at exists_day
  have days := exists_day.2.2
  unfold daysInMonth at days
  split at days <;> try split at days
  all_goals omega

theorem of?_fields (d : Date) : Date.of? d.year d.month d.day = some d :=
  Date.of?_eq_some_iff.mpr ⟨rfl, rfl, rfl⟩

theorem readDate_text (d : Date) (rest : List Char) :
    readDate (d.text.toList ++ rest) = some (d, rest) := by
  rcases small_of_isDate d.exists_day with ⟨monthSmall, daySmall⟩
  have markStops : ∀ rest, StopsDigits ('-' :: rest) := by
    rintro rest c ⟨⟩
    rfl
  simp only [readDate, toList_text, List.append_assoc, List.cons_append,
    readYear_yearText d.year (markStops _), readMark_cons '-' rfl,
    readNumber_padded monthSmall, readNumber_padded daySmall, of?_fields, Option.bind_eq_bind,
    Option.bind_some]
  rfl

theorem finish_nil {α : Type} (a : α) : finish (some (a, [])) = some a :=
  rfl

/-- A date is read back from its text. -/
theorem date?_text (d : Date) : date? d.text = some d := by
  have read := readDate_text d []
  rw [List.append_nil] at read
  rw [date?, read, finish_nil]

/-! ## Times of day -/

/-- The digits of a fraction are read as nanoseconds. -/
theorem readFraction_padded (width : Nat) (positive : 0 < width) (short : width ≤ 9)
    (small : n < 10 ^ width) :
    readFraction ('.' :: (Decimal.padded width n).toList) =
      some (n * Decimal.tenTo (9 - width), []) := by
  have length := Decimal.length_padded positive small
  have nonempty : Decimal.padded width n ≠ "" := by simpa using Decimal.padded_ne_nil width n
  have allTaken : (Decimal.padded width n).toList.takeWhile Decimal.isDigit =
      (Decimal.padded width n).toList := by
    have noMore : StopsDigits [] := nofun
    have taken := takeWhile_digits
      (fun c (member : c ∈ (Decimal.padded width n).toList) => Decimal.isDigit_of_mem_padded member)
      noMore
    rwa [List.append_nil] at taken
  have allKept : (Decimal.padded width n).toList.take 9 = (Decimal.padded width n).toList :=
    List.take_of_length_le (by omega)
  simp [readFraction, allTaken, allKept, nonempty, Decimal.value_padded, length]

theorem readFraction_fractionText (small : n < 1000000000) :
    readFraction (Time.fractionText n).toList = some (n, []) := by
  unfold Time.fractionText
  split
  · subst n
    rfl
  · split
    · rename_i milliseconds
      have whole : n / 1000000 * Decimal.tenTo (9 - 3) = n := by
        change n / 1000000 * 1000000 = n
        omega
      have read := readFraction_padded 3 (n := n / 1000000) (by decide) (by decide)
        (by omega)
      rw [whole] at read
      simpa using read
    · split
      · rename_i microseconds
        have whole : n / 1000 * Decimal.tenTo (9 - 6) = n := by
          change n / 1000 * 1000 = n
          omega
        have read := readFraction_padded 6 (n := n / 1000) (by decide) (by decide)
          (by omega)
        rw [whole] at read
        simpa using read
      · have whole : n * Decimal.tenTo (9 - 9) = n := Nat.mul_one n
        have read := readFraction_padded 9 (by decide) (by decide) small
        rw [whole] at read
        simpa using read

theorem toList_timeText (t : Time) :
    t.text.toList = (Decimal.padded 2 t.hour).toList ++ ':' ::
      ((Decimal.padded 2 t.minute).toList ++ ':' ::
        ((Decimal.padded 2 t.shownSecond).toList ++
          (Time.fractionText t.shownNanosecond).toList)) := by
  simp [Time.text]

theorem shownSecond_le (t : Time) : t.shownSecond ≤ 60 := by
  have inDay := t.in_day
  rw [Time.shownSecond]
  omega

theorem shownNanosecond_lt (t : Time) : t.shownNanosecond < 1000000000 :=
  Nat.mod_lt t.nanosecond (by decide)

theorem readMinutes_timeText (t : Time) :
    readMinutes t.text.toList = some ((t.hour, t.minute),
      ':' :: ((Decimal.padded 2 t.shownSecond).toList ++
        (Time.fractionText t.shownNanosecond).toList)) := by
  have inDay := t.in_day
  simp only [readMinutes, toList_timeText, readNumber_padded (n := t.hour) (by omega),
    readMark_cons ':' rfl, readNumber_padded (n := t.minute) (by omega),
    Option.bind_eq_bind, Option.bind_some]
  rfl

theorem readSeconds_timeText (t : Time) :
    readSeconds (':' :: ((Decimal.padded 2 t.shownSecond).toList ++
        (Time.fractionText t.shownNanosecond).toList)) =
      some ((t.shownSecond, t.shownNanosecond), []) := by
  have small := shownSecond_le t
  simp only [readSeconds, readMark_cons ':' rfl,
    readNumber_padded (n := t.shownSecond) (by omega),
    readFraction_fractionText (shownNanosecond_lt t), Option.bind_eq_bind, Option.bind_some]
  rfl

end Calendar

/-! ## Leap seconds -/

/-- Whether a time does not lie in a leap second within a minute. -/
def Time.IsRegular (t : Time) : Prop :=
  t.nanosecond < 1000000000 ∨ t.second = 59

instance (t : Time) : Decidable t.IsRegular :=
  inferInstanceAs (Decidable (_ ∨ _))

/-- The time that the text of a time says: a leap second within a minute reads as the second after
it. -/
def Time.asRead (t : Time) : Time :=
  if h : t.IsRegular then t
  else
    { hour := t.hour
      minute := t.minute
      second := t.second + 1
      nanosecond := t.nanosecond - 1000000000
      in_day := by
        have inDay := t.in_day
        rw [IsRegular, not_or] at h
        omega }

theorem Time.asRead_eq_self_iff {t : Time} : t.asRead = t ↔ t.IsRegular := by
  rw [asRead]
  split
  next regular => exact iff_of_true rfl regular
  next irregular =>
    refine iff_of_false (fun same => ?_) irregular
    have later : t.second + 1 = t.second := congrArg Time.second same
    omega

theorem Time.of?_of_lt {hour minute second nanosecond : Nat}
    (h : hour < 24 ∧ minute < 60 ∧ second < 60 ∧ nanosecond < 1000000000) :
    of? hour minute second nanosecond = some ⟨hour, minute, second, nanosecond, by omega⟩ := by
  rw [of?, dif_pos (by omega), dif_neg (by omega)]

theorem Time.of?_sixty {hour minute nanosecond : Nat}
    (h : hour < 24 ∧ minute < 60 ∧ nanosecond < 1000000000) :
    of? hour minute 60 nanosecond =
      some ⟨hour, minute, 59, 1000000000 + nanosecond, by omega⟩ := by
  rw [of?, dif_pos (by omega), dif_pos rfl]

theorem Time.of?_shown (t : Time) :
    of? t.hour t.minute t.shownSecond t.shownNanosecond = some t.asRead := by
  have inDay := t.in_day
  rw [shownSecond, shownNanosecond]
  by_cases short : t.nanosecond < 1000000000
  · rw [asRead, dif_pos (.inl short), Nat.div_eq_of_lt short, Nat.mod_eq_of_lt short, Nat.add_zero,
      of?_of_lt (by omega)]
  have div : t.nanosecond / 1000000000 = 1 := by omega
  have mod : t.nanosecond % 1000000000 = t.nanosecond - 1000000000 := by omega
  rw [div, mod]
  by_cases last : t.second = 59
  · have whole : 1000000000 + (t.nanosecond - 1000000000) = t.nanosecond := by omega
    rw [asRead, dif_pos (.inr last), last, of?_sixty (by omega)]
    simp only [whole, ← last]
  · have irregular : ¬ t.IsRegular := not_or.mpr ⟨short, last⟩
    rw [asRead, dif_neg irregular, of?_of_lt (by omega)]

/-- The timestamp that the text of a timestamp says. -/
def DateTime.asRead (d : DateTime) : DateTime :=
  ⟨d.date, d.time.asRead⟩

theorem DateTime.asRead_eq_self_iff {d : DateTime} : d.asRead = d ↔ d.time.IsRegular := by
  obtain ⟨date, time⟩ := d
  rw [asRead, DateTime.mk.injEq, ← Time.asRead_eq_self_iff]
  exact and_iff_right rfl

namespace Calendar

/-- A time of day is read as its text says. -/
theorem time?_text (t : Time) : time? t.text = some t.asRead := by
  simp only [time?, readMinutes_timeText, readSeconds_timeText, Time.of?_shown,
    Option.bind_eq_bind, Option.bind_some, Option.getD_some]
  rfl

/-- A timestamp is read as its text says. -/
theorem dateTime?_text (d : DateTime) : dateTime? d.text = some d.asRead := by
  have chars : d.text.toList = d.date.text.toList ++ 'T' :: d.time.text.toList := by
    simp [DateTime.text]
  simp only [dateTime?, chars, readDate_text, readMark_cons 'T' rfl,
    readMinutes_timeText, readSeconds_timeText, Time.of?_shown, Option.bind_eq_bind,
    Option.bind_some]
  rfl

end Calendar

end EntityStore
