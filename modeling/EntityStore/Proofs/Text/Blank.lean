import EntityStore.Text.Blank

/-!
# Trimming and splitting

Trimming takes white space away from both ends and nothing else: a text without white space comes
back from whatever white space surrounds it.  A text splits at the first separator, so the part
before it has none, and the part after it may have more.
-/

namespace EntityStore.Text

variable {before cs after : List Char}

theorem dropWhile_isBlank (inked : ∀ c ∈ cs, isBlank c = false) : cs.dropWhile isBlank = cs := by
  cases cs with
  | nil => rfl
  | cons c rest => rw [List.dropWhile_cons_of_neg (by simp [inked c List.mem_cons_self])]

theorem dropWhile_isBlank_append (blank : ∀ c ∈ before, isBlank c) :
    (before ++ cs).dropWhile isBlank = cs.dropWhile isBlank :=
  List.dropWhile_append_of_pos blank

/-- Trimming finds the text between white space. -/
theorem trimChars_append (blankBefore : ∀ c ∈ before, isBlank c)
    (blankAfter : ∀ c ∈ after, isBlank c) (inked : ∀ c ∈ cs, isBlank c = false) :
    trimChars (before ++ cs ++ after) = cs := by
  have blankAfterReverse : ∀ c ∈ after.reverse, isBlank c := by
    intro c member
    exact blankAfter c (List.mem_reverse.mp member)
  have inkedReverse : ∀ c ∈ cs.reverse, isBlank c = false := by
    intro c member
    exact inked c (List.mem_reverse.mp member)
  rw [trimChars, List.append_assoc, dropWhile_isBlank_append blankBefore]
  cases cs with
  | nil =>
      have allBlank : after.dropWhile isBlank = [] := by
        have dropped : (after ++ []).dropWhile isBlank = [] := dropWhile_isBlank_append blankAfter
        rwa [List.append_nil] at dropped
      rw [List.nil_append, allBlank]
      rfl
  | cons c rest =>
      rw [List.cons_append, List.dropWhile_cons_of_neg (by simp [inked c List.mem_cons_self]),
        ← List.cons_append, List.reverse_append, dropWhile_isBlank_append blankAfterReverse,
        dropWhile_isBlank inkedReverse, List.reverse_reverse]

theorem splitCharsOnce_eq_some_iff {separator : Char} :
    splitCharsOnce separator cs = some (before, after) ↔
      separator ∉ before ∧ cs = before ++ separator :: after := by
  induction cs generalizing before with
  | nil => simp [splitCharsOnce]
  | cons c rest ih =>
      rw [splitCharsOnce]
      by_cases here : c = separator
      · subst here
        cases before with
        | nil => simp [eq_comm]
        | cons b before =>
            simp only [if_true, Option.some.injEq, Prod.mk.injEq, List.cons_append,
              List.cons.injEq]
            grind
      · simp only [here, if_false, Option.map_eq_some_iff, Prod.exists, Prod.mk.injEq]
        cases before with
        | nil => simp [here]
        | cons b before =>
            simp only [List.cons.injEq, List.cons_append, List.mem_cons, not_or]
            constructor
            · rintro ⟨before', after', found, ⟨rfl, rfl⟩, rfl⟩
              obtain ⟨absent, rfl⟩ := ih.mp found
              exact ⟨⟨Ne.symm here, absent⟩, rfl, rfl⟩
            · rintro ⟨⟨_, absent⟩, rfl, rest⟩
              exact ⟨before, after, ih.mpr ⟨absent, rest⟩, ⟨rfl, rfl⟩, rfl⟩

/-- The parts of a text that is split are what stands around its first separator. -/
theorem splitOnce_eq_some_iff {separator : Char} {text first rest : String} :
    splitOnce separator text = some (first, rest) ↔
      separator ∉ first.toList ∧ text.toList = first.toList ++ separator :: rest.toList := by
  rw [splitOnce, ← splitCharsOnce_eq_some_iff]
  simp only [Option.map_eq_some_iff, Prod.exists, Prod.mk.injEq]
  constructor
  · rintro ⟨before, after, found, rfl, rfl⟩
    simpa using found
  · intro found
    exact ⟨_, _, found, String.ofList_toList, String.ofList_toList⟩

end EntityStore.Text
