import EntityStore.Base64
import EntityStore.Text.Blank

/-!
# Base64 round trip

Three bytes and four digits are two ways to write twenty-four bits, so decoding gives back every
list of bytes that was encoded.  Encoded text consists of digits and padding, none of which is
white space, so white space around it can be told from the text itself.
-/

namespace EntityStore

namespace Base64

theorem digit_ne_padding {n : Nat} (small : n < 64) : digit n ≠ '=' := by
  intro padding
  have value := digitValue?_digit small
  rw [padding] at value
  have noValue : digitValue? '=' = none := by decide
  rw [noValue] at value
  contradiction

/-- No digit is white space. -/
theorem isBlank_digit {n : Nat} (small : n < 64) : Text.isBlank (digit n) = false := by
  have all : ∀ m ∈ List.range 64, Text.isBlank (digit m) = false := by decide +kernel
  exact all n (List.mem_range.mpr small)

theorem ofNat_eq_of_toNat {n : Nat} {b : UInt8} (same : n = b.toNat) : UInt8.ofNat n = b := by
  rw [same, UInt8.ofNat_toNat]

/-- A whole group is read as three bytes, whatever follows. -/
theorem decode_group {a b c d : Nat} (aSmall : a < 64) (bSmall : b < 64) (cSmall : c < 64)
    (dSmall : d < 64) (rest : List Char) :
    decode (digit a :: digit b :: digit c :: digit d :: rest) =
      (decode rest).map fun more =>
        UInt8.ofNat (a * 4 + b / 16) :: UInt8.ofNat (b % 16 * 16 + c / 4) ::
          UInt8.ofNat (c % 4 * 64 + d) :: more := by
  have cDigit := digit_ne_padding cSmall
  have dDigit := digit_ne_padding dSmall
  rw [decode]
  · simp only [digitValue?_digit aSmall, digitValue?_digit bSmall, digitValue?_digit cSmall,
      digitValue?_digit dSmall, Option.bind_eq_bind, Option.bind_some]
    cases decode rest <;> rfl
  · intro padding
    exact absurd padding cDigit
  · intro padding
    exact absurd padding dDigit

/-- Decoding gives back the bytes that were encoded. -/
theorem decode_encode (bytes : List UInt8) : decode (encode bytes) = some bytes := by
  induction bytes using encode.induct with
  | case1 => rfl
  | case2 a =>
      have aSmall := a.toNat_lt
      have aBack : UInt8.ofNat (a.toNat / 4 * 4 + a.toNat % 4 * 16 / 16) = a :=
        ofNat_eq_of_toNat (by omega)
      have canonical : a.toNat % 4 * 16 % 16 = 0 := by omega
      simp only [encode, decode, digitValue?_digit (n := a.toNat / 4) (by omega),
        digitValue?_digit (n := a.toNat % 4 * 16) (by omega), Option.bind_eq_bind,
        Option.bind_some, canonical, if_true, aBack]
  | case3 a b =>
      have aSmall := a.toNat_lt
      have bSmall := b.toNat_lt
      have aBack : UInt8.ofNat (a.toNat / 4 * 4 + (a.toNat % 4 * 16 + b.toNat / 16) / 16) = a :=
        ofNat_eq_of_toNat (by omega)
      have bBack : UInt8.ofNat
          ((a.toNat % 4 * 16 + b.toNat / 16) % 16 * 16 + b.toNat % 16 * 4 / 4) = b :=
        ofNat_eq_of_toNat (by omega)
      have canonical : b.toNat % 16 * 4 % 4 = 0 := by omega
      have notPadding := digit_ne_padding (n := b.toNat % 16 * 4) (by omega)
      rw [encode, decode]
      · simp only [digitValue?_digit (n := a.toNat / 4) (by omega),
          digitValue?_digit (n := a.toNat % 4 * 16 + b.toNat / 16) (by omega),
          digitValue?_digit (n := b.toNat % 16 * 4) (by omega), Option.bind_eq_bind,
          Option.bind_some, canonical, if_true, aBack, bBack]
      · exact notPadding
  | case4 a b c rest ih =>
      have aSmall := a.toNat_lt
      have bSmall := b.toNat_lt
      have cSmall := c.toNat_lt
      have aBack : UInt8.ofNat (a.toNat / 4 * 4 + (a.toNat % 4 * 16 + b.toNat / 16) / 16) = a :=
        ofNat_eq_of_toNat (by omega)
      have bBack : UInt8.ofNat ((a.toNat % 4 * 16 + b.toNat / 16) % 16 * 16 +
          (b.toNat % 16 * 4 + c.toNat / 64) / 4) = b :=
        ofNat_eq_of_toNat (by omega)
      have cBack : UInt8.ofNat ((b.toNat % 16 * 4 + c.toNat / 64) % 4 * 64 + c.toNat % 64) = c :=
        ofNat_eq_of_toNat (by omega)
      rw [encode, decode_group (by omega) (by omega) (by omega) (by omega), ih, aBack, bBack, cBack]
      rfl

/-- Encoded text has no white space in it. -/
theorem isBlank_of_mem_encode {bytes : List UInt8} {c : Char} (member : c ∈ encode bytes) :
    Text.isBlank c = false := by
  have padding : Text.isBlank '=' = false := by decide
  induction bytes using encode.induct with
  | case1 => contradiction
  | case2 a =>
      have aSmall := a.toNat_lt
      simp only [encode, List.mem_cons, List.not_mem_nil, or_false] at member
      rcases member with rfl | rfl | rfl | rfl
      · exact isBlank_digit (by omega)
      · exact isBlank_digit (by omega)
      · exact padding
      · exact padding
  | case3 a b =>
      have aSmall := a.toNat_lt
      have bSmall := b.toNat_lt
      simp only [encode, List.mem_cons, List.not_mem_nil, or_false] at member
      rcases member with rfl | rfl | rfl | rfl
      · exact isBlank_digit (by omega)
      · exact isBlank_digit (by omega)
      · exact isBlank_digit (by omega)
      · exact padding
  | case4 a b c rest ih =>
      have aSmall := a.toNat_lt
      have bSmall := b.toNat_lt
      have cSmall := c.toNat_lt
      simp only [encode, List.mem_cons] at member
      rcases member with rfl | rfl | rfl | rfl | member
      · exact isBlank_digit (by omega)
      · exact isBlank_digit (by omega)
      · exact isBlank_digit (by omega)
      · exact isBlank_digit (by omega)
      · exact ih member

end Base64

end EntityStore
