import EntityStore.Json.Decoding
import Mathlib.Tactic.SplitIfs

/-!
# Text in JSON

Every byte of a text is escaped on its own.  Undoing the escapes gives back the bytes, and the
reader finds the closing quote, since a quote inside a text never stands unescaped.
-/

namespace EntityStore.Json

/-! ## Undoing escapes -/

/-- The escape of a control character stands for it. -/
theorem control_spec {b : UInt8} (control : b < 0x20) :
    hexUnit? 0x30 0x30 (hexDigit (b.toNat / 16)) (hexDigit (b.toNat % 16)) = some b.toNat ∧
      codePointBytes b.toNat = [b] := by
  have all : ∀ n < 32, hexUnit? 0x30 0x30 (hexDigit (n / 16)) (hexDigit (n % 16)) = some n ∧
      codePointBytes n = [UInt8.ofNat n] := by
    decide +kernel
  have spec := all b.toNat (UInt8.lt_iff_toNat_lt.mp control)
  rwa [UInt8.ofNat_toNat] at spec

theorem unescape_backslash {e : UInt8} (short : e ≠ 0x75) (rest : List UInt8) :
    unescape (backslash :: e :: rest) = (unescape rest).map (shortEscapeByte e :: ·) := by
  rw [unescape.eq_def]
  exact if_neg short

theorem unescape_unit {h₁ h₂ h₃ h₄ : UInt8} {n : Nat} (unit : hexUnit? h₁ h₂ h₃ h₄ = some n)
    (noSurrogate : n < 0xd800) (rest : List UInt8) :
    unescape (backslash :: 0x75 :: h₁ :: h₂ :: h₃ :: h₄ :: rest) =
      (unescape rest).map (codePointBytes n ++ ·) := by
  rw [unescape, if_pos rfl, if_pos rfl]
  simp only [unit]
  rw [if_neg (by omega), if_neg (by omega)]

/-- Escaping a byte and undoing it gives back the byte. -/
theorem unescape_escapeByte (b : UInt8) (rest : List UInt8) :
    unescape (escapeByte b ++ rest) = (unescape rest).map (b :: ·) := by
  unfold escapeByte
  split_ifs with marked backspace tab newline formFeed carriageReturn control
  · rcases marked with rfl | rfl
    · exact unescape_backslash (by decide) rest
    · exact unescape_backslash (by decide) rest
  · subst backspace
    exact unescape_backslash (by decide) rest
  · subst tab
    exact unescape_backslash (by decide) rest
  · subst newline
    exact unescape_backslash (by decide) rest
  · subst formFeed
    exact unescape_backslash (by decide) rest
  · subst carriageReturn
    exact unescape_backslash (by decide) rest
  · obtain ⟨unit, bytes⟩ := control_spec control
    have small := UInt8.lt_iff_toNat_lt.mp control
    have below : b.toNat < 0xd800 := Nat.lt_trans small (by decide)
    refine (unescape_unit unit below rest).trans ?_
    rw [bytes]
    rfl
  · have plain : b ≠ backslash := fun isBackslash => marked (.inr isBackslash)
    rw [List.singleton_append, unescape.eq_def]
    exact if_neg plain

theorem unescape_escaped (bytes : List UInt8) :
    unescape (bytes.flatMap escapeByte) = some bytes := by
  induction bytes with
  | nil => rfl
  | cons b rest ih =>
      rw [List.flatMap_cons, unescape_escapeByte, ih]
      rfl

/-- The bytes of a text are the text. -/
theorem fromUTF8?_bytesOf (s : String) : String.fromUTF8? ⟨(bytesOf s).toArray⟩ = some s := by
  have valid : s.toByteArray.IsValidUTF8 := s.isValidUTF8
  exact dif_pos valid

@[simp]
theorem textOfBody?_escaped (s : String) :
    textOfBody? ((bytesOf s).flatMap escapeByte) = some s := by
  rw [textOfBody?, unescape_escaped, Option.bind_some, fromUTF8?_bytesOf]

@[simp]
theorem string?_ofString (s : String) : (ofString s).string? = some s :=
  textOfBody?_escaped s

/-! ## Finding the closing quote -/

/-- Whether the reader passes over bytes between quotes as they are. -/
def IsBody (body : List UInt8) : Prop :=
  ∀ rest, readBody (body ++ quote :: rest) = some (body, rest)

theorem readBody_short {e : UInt8} (short : isShortEscape e) (rest : List UInt8) :
    readBody (backslash :: e :: rest) =
      (readBody rest).map fun (body, rest) => (backslash :: e :: body, rest) := by
  rw [readBody.eq_def]
  exact if_pos short

theorem readBody_unit {h₁ h₂ h₃ h₄ : UInt8}
    (hex : [h₁, h₂, h₃, h₄].all (hexValue? · |>.isSome)) (rest : List UInt8) :
    readBody (backslash :: 0x75 :: h₁ :: h₂ :: h₃ :: h₄ :: rest) =
      (readBody rest).map fun (body, rest) =>
        (backslash :: 0x75 :: h₁ :: h₂ :: h₃ :: h₄ :: body, rest) := by
  rw [readBody.eq_def]
  exact if_pos hex

theorem readBody_plain {b : UInt8} (notQuote : b ≠ quote) (notControl : ¬ b < 0x20)
    (notBackslash : b ≠ backslash) (rest : List UInt8) :
    readBody (b :: rest) = (readBody rest).map fun (body, rest) => (b :: body, rest) := by
  rw [readBody.eq_def]
  simp only [notQuote, notControl, notBackslash, if_false]

theorem isSome_hexValue?_of_hexUnit? {h₁ h₂ h₃ h₄ : UInt8} {n : Nat}
    (unit : hexUnit? h₁ h₂ h₃ h₄ = some n) : [h₁, h₂, h₃, h₄].all (hexValue? · |>.isSome) := by
  simp only [hexUnit?, Option.bind_eq_bind, Option.bind_eq_some_iff] at unit
  obtain ⟨a, first, b, second, c, third, d, fourth, _⟩ := unit
  simp [first, second, third, fourth]

/-- The reader passes over the escape of a byte as it is. -/
theorem readBody_escapeByte (b : UInt8) (rest : List UInt8) :
    readBody (escapeByte b ++ rest) =
      (readBody rest).map fun (body, rest) => (escapeByte b ++ body, rest) := by
  unfold escapeByte
  split_ifs with marked backspace tab newline formFeed carriageReturn control
  · rcases marked with rfl | rfl
    · exact readBody_short (by decide) rest
    · exact readBody_short (by decide) rest
  · exact readBody_short (by decide) rest
  · exact readBody_short (by decide) rest
  · exact readBody_short (by decide) rest
  · exact readBody_short (by decide) rest
  · exact readBody_short (by decide) rest
  · exact readBody_unit (isSome_hexValue?_of_hexUnit? (control_spec control).1) rest
  · exact readBody_plain (fun isQuote => marked (.inl isQuote)) control
      (fun isBackslash => marked (.inr isBackslash)) rest

theorem isBody_escaped (bytes : List UInt8) : IsBody (bytes.flatMap escapeByte) := by
  intro rest
  induction bytes with
  | nil =>
      rw [List.flatMap_nil, List.nil_append, readBody.eq_def]
      exact if_pos rfl
  | cons b bytes ih =>
      rw [List.flatMap_cons, List.append_assoc, readBody_escapeByte, ih]
      rfl

end EntityStore.Json
