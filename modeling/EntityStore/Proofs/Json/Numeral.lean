import EntityStore.Json.Numeral

/-!
# Numerals are read as they are written

The digits of a number have its value, and no zero stands in front of others.  A numeral made of
digits is read back in full, because whatever may follow it in a document is no part of a number.
-/

namespace EntityStore.Json

/-- Whether a document may end before these bytes: nothing follows, or a comma or a closing
bracket. -/
def Delimited (rest : List UInt8) : Prop :=
  ∀ b ∈ rest.head?, b = 0x2c ∨ b = 0x5d ∨ b = 0x7d

namespace Numeral

/-! ## Digits -/

theorem digitBytes_of_lt {n : Nat} (small : n < 10) : digitBytes n = [UInt8.ofNat (48 + n)] := by
  rw [digitBytes, Decimal.digitsOf, Nat.toDigits_of_lt_base small, List.map_singleton,
    Nat.toNat_digitChar_of_lt_ten small]

theorem digitBytes_of_le {n : Nat} (large : 10 ≤ n) :
    digitBytes n = digitBytes (n / 10) ++ [UInt8.ofNat (48 + n % 10)] := by
  rw [digitBytes, Decimal.digitsOf, Nat.toDigits_of_base_le (by decide) large, List.map_append,
    List.map_singleton, Nat.toNat_digitChar_of_lt_ten (Nat.mod_lt n (by decide))]
  rfl

theorem digit_spec {d : Nat} (small : d < 10) :
    isDigit (UInt8.ofNat (48 + d)) ∧ (UInt8.ofNat (48 + d)).toNat - 48 = d ∧
      (d ≠ 0 → UInt8.ofNat (48 + d) ≠ 0x30) := by
  have all : ∀ m < 10, isDigit (UInt8.ofNat (48 + m)) ∧ (UInt8.ofNat (48 + m)).toNat - 48 = m ∧
      (m ≠ 0 → UInt8.ofNat (48 + m) ≠ 0x30) := by
    decide
  exact all d small

theorem digitsValue_append (digits : List UInt8) (b : UInt8) :
    digitsValue (digits ++ [b]) = digitsValue digits * 10 + (b.toNat - 48) := by
  simp [digitsValue]

theorem isDigit_of_mem_digitBytes {n : Nat} {b : UInt8} (member : b ∈ digitBytes n) :
    isDigit b := by
  induction n using Nat.strongRecOn with
  | ind n ih =>
      by_cases small : n < 10
      · rw [digitBytes_of_lt small, List.mem_singleton] at member
        rw [member]
        exact (digit_spec small).1
      · rw [digitBytes_of_le (by omega), List.mem_append, List.mem_singleton] at member
        rcases member with inFront | rfl
        · exact ih (n / 10) (by omega) inFront
        · exact (digit_spec (Nat.mod_lt n (by decide))).1

/-- The digits of a number have its value. -/
theorem digitsValue_digitBytes (n : Nat) : digitsValue (digitBytes n) = n := by
  induction n using Nat.strongRecOn with
  | ind n ih =>
      by_cases small : n < 10
      · rw [digitBytes_of_lt small]
        exact (Nat.zero_add _).trans (digit_spec small).2.1
      · have last := (digit_spec (Nat.mod_lt n (y := 10) (by decide))).2.1
        rw [digitBytes_of_le (by omega), digitsValue_append, ih (n / 10) (by omega), last]
        omega

/-- The first digit of a number is no zero, but for zero itself. -/
theorem exists_digitBytes_eq_cons {n : Nat} (positive : 0 < n) :
    ∃ b rest, digitBytes n = b :: rest ∧ b ≠ 0x30 := by
  induction n using Nat.strongRecOn with
  | ind n ih =>
      by_cases small : n < 10
      · exact ⟨_, [], digitBytes_of_lt small, (digit_spec small).2.2 (by omega)⟩
      · obtain ⟨b, rest, front, nonzero⟩ := ih (n / 10) (by omega) (by omega)
        exact ⟨b, rest ++ [UInt8.ofNat (48 + n % 10)],
          by rw [digitBytes_of_le (by omega), front, List.cons_append], nonzero⟩

theorem isWhole_of_head {b : UInt8} (nonzero : b ≠ 0x30) (rest : List UInt8) :
    isWhole (b :: rest) := by
  cases rest with
  | nil => rfl
  | cons b' rest => simpa [isWhole] using nonzero

theorem isWhole_digitBytes (n : Nat) : isWhole (digitBytes n) := by
  rcases Nat.eq_zero_or_pos n with rfl | positive
  · rfl
  · obtain ⟨b, rest, digits, nonzero⟩ := exists_digitBytes_eq_cons positive
    rw [digits]
    exact isWhole_of_head nonzero rest

/-! ## Reading -/

/-- Whether a numeral is one that can be written: it consists of digits where digits belong. -/
structure IsWritten (n : Numeral) : Prop where
  whole : ∀ b ∈ n.whole, isDigit b
  shape : isWhole n.whole
  fraction : ∀ b ∈ n.fraction, isDigit b
  exponent : ∀ sign digits, n.exponent = some (sign, digits) →
    digits ≠ [] ∧ ∀ b ∈ digits, isDigit b

theorem isWritten_ofInt (n : Int) : (ofInt n).IsWritten where
  whole _ member := isDigit_of_mem_digitBytes member
  shape := isWhole_digitBytes n.natAbs
  fraction := nofun
  exponent := nofun

theorem isDigit_of_mem_replicate {n : Nat} {b : UInt8} (member : b ∈ List.replicate n 0x30) :
    isDigit b := by
  rw [List.eq_of_mem_replicate member]
  rfl

/-- The shortest digits of a double are written with digits on both sides of the point, wherever
the point falls. -/
theorem isWritten_ofBinary64 (x : Binary64) : (ofBinary64 x).IsWritten := by
  unfold ofBinary64
  generalize x.shortest .even = d
  have zeroDigit : ∀ c ∈ [0x30], isDigit c := fun c => isDigit_of_mem_replicate (n := 1)
  by_cases zero : d.digits = 0
  · simp only [zero, if_true]
    exact ⟨zeroDigit, rfl, zeroDigit, nofun⟩
  · obtain ⟨b, rest, front, nonzero⟩ := exists_digitBytes_eq_cons (Nat.pos_of_ne_zero zero)
    have areDigits : ∀ c ∈ b :: rest, isDigit c := by
      intro c member
      exact isDigit_of_mem_digitBytes (front ▸ member)
    simp only [zero, if_false, front]
    generalize d.exponent + (b :: rest).length - 1 = leading
    by_cases far : leading < -5 ∨ 16 ≤ leading
    · rw [if_pos far]
      refine ⟨fun c member => areDigits c (List.mem_of_mem_take member), isWhole_of_head nonzero [],
        fun c member => areDigits c (List.mem_of_mem_drop member), ?_⟩
      rintro sign digits ⟨rfl, rfl⟩
      refine ⟨?_, fun c => isDigit_of_mem_digitBytes⟩
      intro empty
      have shape := isWhole_digitBytes leading.natAbs
      rw [empty] at shape
      exact Bool.false_ne_true shape
    · rw [if_neg far]
      by_cases whole : 0 ≤ d.exponent
      · rw [if_pos whole]
        refine ⟨?_, isWhole_of_head nonzero _, zeroDigit, nofun⟩
        intro c member
        rcases List.mem_append.mp member with digit | padding
        · exact areDigits c digit
        · exact isDigit_of_mem_replicate padding
      · rw [if_neg whole]
        by_cases inside : 0 ≤ leading
        · rw [if_pos inside]
          exact ⟨fun c member => areDigits c (List.mem_of_mem_take member),
            isWhole_of_head nonzero _, fun c member => areDigits c (List.mem_of_mem_drop member),
            nofun⟩
        · rw [if_neg inside]
          refine ⟨zeroDigit, rfl, ?_, nofun⟩
          intro c member
          rcases List.mem_append.mp member with padding | digit
          · exact isDigit_of_mem_replicate padding
          · exact areDigits c digit

/-- Whether a run of digits ends before these bytes. -/
def StopsDigits (rest : List UInt8) : Prop :=
  ∀ b ∈ rest.head?, isDigit b = false

theorem takeWhile_digits {digits rest : List UInt8} (areDigits : ∀ b ∈ digits, isDigit b)
    (stops : StopsDigits rest) :
    (digits ++ rest).takeWhile isDigit = digits ∧ (digits ++ rest).dropWhile isDigit = rest := by
  rw [List.takeWhile_append_of_pos areDigits, List.dropWhile_append_of_pos areDigits]
  cases rest with
  | nil => simp
  | cons b rest =>
      have stop : isDigit b = false := stops b rfl
      simp [stop]

theorem stopsDigits_of_delimited {rest : List UInt8} (delimited : Delimited rest) :
    StopsDigits rest := by
  intro b first
  rcases delimited b first with rfl | rfl | rfl <;> decide

/-- The written form of the digits after the point. -/
def fractionBytes (fraction : List UInt8) : List UInt8 :=
  if fraction.isEmpty then [] else 0x2e :: fraction

/-- The written form of an exponent. -/
def exponentBytes : Option (Bool × List UInt8) → List UInt8
  | none => []
  | some (negative, digits) => 0x65 :: (if negative then 0x2d else 0x2b) :: digits

theorem write_eq (n : Numeral) :
    n.write = (if n.negative then [0x2d] else []) ++ n.whole ++ fractionBytes n.fraction ++
      exponentBytes n.exponent := by
  rcases n with ⟨negative, whole, fraction, _ | exponent⟩ <;> rfl

theorem readFraction_append {fraction rest : List UInt8}
    (areDigits : ∀ b ∈ fraction, isDigit b) (stops : StopsDigits rest)
    (noPoint : ∀ b ∈ rest.head?, b ≠ 0x2e) :
    readFraction (fractionBytes fraction ++ rest) = some (fraction, rest) := by
  cases fraction with
  | nil =>
      cases rest with
      | nil => rfl
      | cons b rest => simp [fractionBytes, readFraction, noPoint b rfl]
  | cons d digits =>
      obtain ⟨taken, left⟩ := takeWhile_digits areDigits stops
      simp only [fractionBytes, List.isEmpty_cons, Bool.false_eq_true, if_false, List.cons_append,
        readFraction, if_true]
      rw [← List.cons_append, taken, left]
      rfl

theorem readExponent_append {exponent : Option (Bool × List UInt8)} {rest : List UInt8}
    (areDigits : ∀ sign digits, exponent = some (sign, digits) →
      digits ≠ [] ∧ ∀ b ∈ digits, isDigit b)
    (delimited : Delimited rest) :
    readExponent (exponentBytes exponent ++ rest) = some (exponent, rest) := by
  rcases exponent with _ | ⟨negative, digits⟩
  · cases rest with
    | nil => rfl
    | cons b rest =>
        have notLetter : ¬ (b = 0x65 ∨ b = 0x45) := by
          rcases delimited b rfl with rfl | rfl | rfl <;> decide
        simp [exponentBytes, readExponent, notLetter]
  · obtain ⟨nonempty, areDigits⟩ := areDigits negative digits rfl
    obtain ⟨taken, left⟩ := takeWhile_digits areDigits (stopsDigits_of_delimited delimited)
    have sign : readSign ((if negative then 0x2d else 0x2b) :: (digits ++ rest)) =
        (negative, digits ++ rest) := by
      cases negative <;> rfl
    simp only [exponentBytes, readExponent, List.cons_append, sign, taken, left, true_or, if_true,
      List.isEmpty_eq_false_iff.mpr nonempty, Bool.false_eq_true, if_false]

theorem stopsDigits_exponent (exponent : Option (Bool × List UInt8)) {rest : List UInt8}
    (delimited : Delimited rest) :
    StopsDigits (exponentBytes exponent ++ rest) ∧
      ∀ b ∈ (exponentBytes exponent ++ rest).head?, b ≠ 0x2e := by
  cases exponent with
  | none =>
      constructor
      · exact stopsDigits_of_delimited delimited
      · intro b first
        rcases delimited b first with rfl | rfl | rfl <;> decide
  | some exponent =>
      constructor
      · rintro b ⟨⟩
        rfl
      · rintro b ⟨⟩
        decide

theorem stopsDigits_fraction (fraction : List UInt8) {rest : List UInt8}
    (stops : StopsDigits rest) : StopsDigits (fractionBytes fraction ++ rest) := by
  cases fraction with
  | nil => exact stops
  | cons d digits =>
      rintro b ⟨⟩
      rfl

theorem ne_minus_of_isDigit {b : UInt8} (digit : isDigit b) : b ≠ 0x2d := by
  rintro rfl
  contradiction

/-- A numeral is read back, and nothing but the numeral is read. -/
theorem read_write {n : Numeral} (written : n.IsWritten) {rest : List UInt8}
    (delimited : Delimited rest) : read (n.write ++ rest) = some (n, rest) := by
  obtain ⟨exponentStops, noPoint⟩ := stopsDigits_exponent n.exponent delimited
  obtain ⟨taken, left⟩ :=
    takeWhile_digits written.whole (stopsDigits_fraction n.fraction exponentStops)
  have fractionRead := readFraction_append written.fraction exponentStops noPoint
  have exponentRead := readExponent_append written.exponent delimited
  obtain ⟨negative, whole, fraction, exponent⟩ := n
  rw [write_eq]
  simp only [List.append_assoc] at taken left ⊢
  cases negative with
  | true =>
      simp [read, taken, left, written.shape, fractionRead, exponentRead]
  | false =>
      cases whole with
      | nil => exact absurd written.shape (by simp [isWhole])
      | cons b digits =>
          have noSign : b ≠ 0x2d := ne_minus_of_isDigit (written.whole b List.mem_cons_self)
          rw [List.cons_append] at taken left
          simp [read, noSign, taken, left, written.shape, fractionRead, exponentRead]

/-! ## Whole numbers -/

theorem int?_ofInt {n : Int} (above : Int64.minValue.toInt ≤ n) (below : n < UInt64.size) :
    (ofInt n).int? = some n := by
  simp only [int?, ofInt, List.isEmpty_nil, Option.isNone_none, Bool.and_self, if_true,
    digitsValue_digitBytes, decide_eq_true_eq]
  by_cases negative : n < 0
  · have magnitude : -(n.natAbs : Int) = n := by omega
    rw [if_pos negative, magnitude, if_pos ⟨by omega, above⟩]
  · have magnitude : (n.natAbs : Int) = n := by omega
    rw [if_neg negative, if_pos (by omega), magnitude]

/-- Every signed sixty-four bit number is read back. -/
theorem int64?_ofInt (i : Int64) : (ofInt i.toInt).int64? = some i := by
  have below := i.toInt_le
  have small : i.toInt < UInt64.size :=
    Int.lt_of_le_of_lt below (by decide)
  rw [int64?, int?_ofInt i.minValue_le_toInt small]
  simp only [below, if_true, Int64.ofInt_toInt]

end Numeral

end EntityStore.Json
