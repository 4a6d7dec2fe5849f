import EntityStore.Proofs.Text.Blank
import EntityStore.Query.FilterText
import Mathlib.Data.List.TakeWhile
import Mathlib.Data.String.Basic

/-!
# Written filter texts

A filter text is written as a name without white space, and then either nothing or, after white
space, a word for an operator.  White space may also stand before the name and after the word, but
not after a name by itself.  Exactly the texts that are written so can be read, and each of them is
written in one way only: a sign that touches the name belongs to the name.
-/

namespace EntityStore

/-- The words for an operator.  Equality may be written twice; only one word has letters, and each
of them may be large or small. -/
def Operator.words : Operator → List String
  | .equal => ["=", "=="]
  | .notEqual => ["!="]
  | .greaterThan => [">"]
  | .greaterOrEqual => [">="]
  | .lessThan => ["<"]
  | .lessOrEqual => ["<="]
  | .isIn => ["in", "In", "iN", "IN"]

namespace FilterText

open EntityStore.Text (isBlank)

variable {before name between word after : List Char} {op : Operator}

/-- Whether there is nothing but white space. -/
def AllBlank (cs : List Char) : Prop :=
  ∀ c ∈ cs, isBlank c = true

/-- Whether there is no white space. -/
def Inked (cs : List Char) : Prop :=
  ∀ c ∈ cs, isBlank c = false

/-- How a text is written that names a property and an operator. -/
inductive Written : List Char → List Char → Operator → Prop where
  /-- A name by itself asks for equality. -/
  | bare {before name : List Char} (blankBefore : AllBlank before) (named : name ≠ [])
      (inked : Inked name) : Written (before ++ name) name .equal
  | marked {before name between word after : List Char} {op : Operator}
      (blankBefore : AllBlank before) (named : name ≠ []) (inked : Inked name)
      (apart : between ≠ []) (blankBetween : AllBlank between)
      (spelled : String.ofList word ∈ op.words) (blankAfter : AllBlank after) :
      Written (before ++ (name ++ (between ++ (word ++ after)))) name op

theorem Written.inked {text : List Char} (written : Written text name op) :
    name ≠ [] ∧ Inked name := by
  cases written with
  | bare _ named inked => exact ⟨named, inked⟩
  | marked _ named inked => exact ⟨named, inked⟩

/-! ## Words for operators -/

/-- A character is the small form of itself or of a capital letter. -/
theorem cases_of_toLower {c d : Char} (small : c.toLower = d) :
    c = d ∨ (65 ≤ c.toNat ∧ c.toNat ≤ 90) ∧ c.toNat + 32 = d.toNat := by
  unfold Char.toLower at small
  split at small
  · rename_i capital
    obtain ⟨from65, to90⟩ := capital
    rw [ge_iff_le, UInt32.le_iff_toNat_le] at from65
    rw [UInt32.le_iff_toNat_le] at to90
    have from65 : 65 ≤ c.toNat := from65
    have to90 : c.toNat ≤ 90 := to90
    refine .inr ⟨⟨from65, to90⟩, ?_⟩
    subst small
    have apart : ('a'.val - 'A'.val).toNat = 32 := rfl
    change c.toNat + 32 = (c.val + ('a'.val - 'A'.val)).toNat
    rw [UInt32.toNat_add, apart]
    change c.toNat + 32 = (c.toNat + 32) % 2 ^ 32
    omega
  · exact .inl small

theorem toLower_eq_sign_iff {c d : Char} (sign : d ∈ ['=', '!', '<', '>']) :
    c.toLower = d ↔ c = d := by
  constructor
  · intro small
    rcases cases_of_toLower small with same | ⟨capital, above⟩
    · exact same
    · simp only [List.mem_cons, List.not_mem_nil, or_false] at sign
      rcases sign with rfl | rfl | rfl | rfl <;> simp at above <;> omega
  · rintro rfl
    simp only [List.mem_cons, List.not_mem_nil, or_false] at sign
    rcases sign with rfl | rfl | rfl | rfl <;> rfl

theorem toLower_eq_letter_iff {c d : Char} (letter : d ∈ ['i', 'n']) :
    c.toLower = d ↔ c = d ∨ c = d.toUpper := by
  have eq_of_toNat : ∀ {a b : Char}, a.toNat = b.toNat → a = b :=
    fun same => Char.ext (UInt32.toNat_inj.mp same)
  simp only [List.mem_cons, List.not_mem_nil, or_false] at letter
  constructor
  · intro small
    rcases cases_of_toLower small with same | ⟨-, above⟩
    · exact .inl same
    · rcases letter with rfl | rfl
      · exact .inr (eq_of_toNat (Nat.add_right_cancel above))
      · exact .inr (eq_of_toNat (Nat.add_right_cancel above))
  · rcases letter with rfl | rfl
    · rintro (rfl | rfl) <;> rfl
    · rintro (rfl | rfl) <;> rfl

theorem map_toLower_sign_iff {sign : List Char} (signs : ∀ c ∈ sign, c ∈ ['=', '!', '<', '>']) :
    word.map Char.toLower = sign ↔ word = sign := by
  induction word generalizing sign with
  | nil => rfl
  | cons c rest inductionHypothesis =>
      cases sign with
      | nil => simp
      | cons d more =>
          rw [List.forall_mem_cons] at signs
          rw [List.map_cons, List.cons.injEq, List.cons.injEq, toLower_eq_sign_iff signs.1,
            inductionHypothesis signs.2]

theorem map_toLower_in_iff :
    word.map Char.toLower = ['i', 'n'] ↔
      word = ['i', 'n'] ∨ word = ['I', 'n'] ∨ word = ['i', 'N'] ∨ word = ['I', 'N'] := by
  constructor
  · intro small
    simp only [List.map_eq_cons_iff, List.map_eq_nil_iff, toLower_eq_letter_iff, List.mem_cons,
      true_or, or_true] at small
    obtain ⟨first, _, rfl, rfl | rfl, second, _, rfl, rfl | rfl, rfl⟩ := small <;> simp
  · rintro (rfl | rfl | rfl | rfl) <;> rfl

theorem ofSymbol?_eq_some_iff {symbol : String} :
    Operator.ofSymbol? symbol = some op ↔ symbol = op.symbol ∨ symbol = "==" ∧ op = .equal := by
  constructor
  · intro read
    unfold Operator.ofSymbol? at read
    split_ifs at read with equal <;> cases read <;> grind [Operator.symbol]
  · rintro (rfl | ⟨rfl, rfl⟩)
    · cases op <;> rfl
    · rfl

theorem ofList_map_toLower_iff (symbol : String)
    (signs : ∀ c ∈ symbol.toList, c ∈ ['=', '!', '<', '>']) :
    String.ofList (word.map Char.toLower) = symbol ↔ String.ofList word = symbol := by
  rw [String.ofList_eq, String.ofList_eq, map_toLower_sign_iff signs]

/-- Exactly the words for an operator are read as it. -/
theorem operatorOfWord?_eq_some_iff :
    operatorOfWord? word = some op ↔ String.ofList word ∈ op.words := by
  rw [operatorOfWord?, ofSymbol?_eq_some_iff, ofList_map_toLower_iff "==" (by simp)]
  cases op with
  | isIn =>
      simp [Operator.symbol, Operator.words, String.ofList_eq, map_toLower_in_iff]
  | equal => simp [Operator.symbol, Operator.words, ofList_map_toLower_iff]
  | notEqual => simp [Operator.symbol, Operator.words, ofList_map_toLower_iff]
  | greaterThan => simp [Operator.symbol, Operator.words, ofList_map_toLower_iff]
  | greaterOrEqual => simp [Operator.symbol, Operator.words, ofList_map_toLower_iff]
  | lessThan => simp [Operator.symbol, Operator.words, ofList_map_toLower_iff]
  | lessOrEqual => simp [Operator.symbol, Operator.words, ofList_map_toLower_iff]

/-- The words for an operator also stand for it by themselves. -/
theorem parse_of_mem_words {word : String} (spelled : word ∈ op.words) :
    Operator.parse word = .ok op := by
  cases op <;> simp only [Operator.words, List.mem_cons, List.not_mem_nil, or_false] at spelled
  all_goals rcases spelled with rfl | rfl | rfl | rfl
  all_goals rfl

/-! ## Words and white space -/

theorem Inked.takeWhile_append (inked : Inked word) (blank : ∀ c ∈ after.head?, isBlank c = true) :
    (word ++ after).takeWhile (!isBlank ·) = word := by
  have stops : after.takeWhile (!isBlank ·) = [] := by
    cases after with
    | nil => rfl
    | cons c rest => simp [blank c rfl]
  rw [List.takeWhile_append_of_pos (by simpa [Inked] using inked), stops, List.append_nil]

theorem Inked.dropWhile_append (inked : Inked word) (blank : ∀ c ∈ after.head?, isBlank c = true) :
    (word ++ after).dropWhile (!isBlank ·) = after := by
  have stops : after.dropWhile (!isBlank ·) = after := by
    cases after with
    | nil => rfl
    | cons c rest => simp [blank c rfl]
  rw [List.dropWhile_append_of_pos (by simpa [Inked] using inked), stops]

/-- White space before a word is passed over. -/
theorem AllBlank.dropWhile_append (blank : AllBlank before) (named : name ≠ []) (inked : Inked name)
    (rest : List Char) : (before ++ (name ++ rest)).dropWhile isBlank = name ++ rest := by
  cases name with
  | nil => contradiction
  | cons c more =>
      rw [List.dropWhile_append_of_pos blank, List.cons_append,
        List.dropWhile_cons_of_neg (by simp [inked c List.mem_cons_self])]

theorem AllBlank.head? (blank : AllBlank between) (apart : between ≠ []) (rest : List Char) :
    ∀ c ∈ (between ++ rest).head?, isBlank c = true := by
  cases between with
  | nil => contradiction
  | cons c more =>
      rintro _ ⟨⟩
      exact blank c List.mem_cons_self

theorem allBlank_nil : AllBlank [] :=
  fun _ inside => absurd inside List.not_mem_nil

theorem inked_takeWhile (cs : List Char) : Inked (cs.takeWhile (!isBlank ·)) := by
  intro c member
  simpa using List.mem_takeWhile_imp member

theorem allBlank_takeWhile (cs : List Char) : AllBlank (cs.takeWhile isBlank) :=
  fun _ member => List.mem_takeWhile_imp member

theorem AllBlank.of_head? (blank : AllBlank after) : ∀ c ∈ after.head?, isBlank c = true :=
  fun c first => blank c (List.mem_of_head? first)

/-- A word for an operator has characters, and none of them is white space. -/
theorem inked_of_mem_words (spelled : String.ofList word ∈ op.words) : word ≠ [] ∧ Inked word := by
  have whole : op.words.all (fun w => w.toList ≠ [] ∧ w.toList.all (!isBlank ·)) = true := by
    cases op <;> rfl
  have parts := List.all_eq_true.mp whole _ spelled
  simpa [Inked] using parts

/-! ## Reading -/

/-- What follows a name is nothing, or a word for an operator between white space. -/
theorem operatorOfRest?_eq_some_iff {rest : List Char}
    (blankFirst : ∀ c ∈ rest.head?, isBlank c = true) :
    operatorOfRest? rest = some op ↔
      (rest = [] ∧ op = .equal) ∨ ∃ between word after, rest = between ++ (word ++ after) ∧
        between ≠ [] ∧ AllBlank between ∧ String.ofList word ∈ op.words ∧ AllBlank after := by
  cases rest with
  | nil => simp [operatorOfRest?, eq_comm]
  | cons first more =>
      rw [operatorOfRest?, List.isEmpty_cons, if_neg Bool.false_ne_true]
      simp only [List.cons_ne_nil, false_and, false_or, Option.ite_none_right_eq_some,
        operatorOfWord?_eq_some_iff]
      constructor
      · rintro ⟨blankAfter, spelled⟩
        refine ⟨_, _, _, ?_, ?_, allBlank_takeWhile (first :: more), spelled,
          List.all_eq_true.mp blankAfter⟩
        · rw [List.takeWhile_append_dropWhile, List.takeWhile_append_dropWhile]
        · simp [blankFirst first rfl]
      · rintro ⟨between, word, after, split, apart, blankBetween, spelled, blankAfter⟩
        obtain ⟨nonempty, inked⟩ := inked_of_mem_words spelled
        rw [split, blankBetween.dropWhile_append nonempty inked,
          inked.takeWhile_append blankAfter.of_head?, inked.dropWhile_append blankAfter.of_head?]
        exact ⟨List.all_eq_true.mpr blankAfter, spelled⟩

/-- A text is split exactly as it is written. -/
theorem split?_eq_some_iff {text : List Char} :
    split? text = some (name, op) ↔ Written text name op := by
  constructor
  · intro found
    simp only [split?, Option.ite_none_left_eq_some, Option.map_eq_some_iff, Prod.mk.injEq] at found
    obtain ⟨named, _, read, rfl, rfl⟩ := found
    have parts : text = text.takeWhile isBlank ++
        ((text.dropWhile isBlank).takeWhile (!isBlank ·) ++
          (text.dropWhile isBlank).dropWhile (!isBlank ·)) := by
      rw [List.takeWhile_append_dropWhile, List.takeWhile_append_dropWhile]
    have blankFirst : ∀ c ∈ ((text.dropWhile isBlank).dropWhile (!isBlank ·)).head?,
        isBlank c = true := by
      intro c first
      have stops := List.head?_dropWhile_not (!isBlank ·) (text.dropWhile isBlank)
      rw [first] at stops
      simpa using stops
    have blankBefore := allBlank_takeWhile text
    have inked := inked_takeWhile (text.dropWhile isBlank)
    have nonempty := fun empty => named (List.isEmpty_iff.mpr empty)
    rcases (operatorOfRest?_eq_some_iff blankFirst).mp read with
      ⟨nothing, rfl⟩ | ⟨between, word, after, split, apart, blankBetween, spelled, blankAfter⟩
    · have written := Written.bare blankBefore nonempty inked
      rw [nothing, List.append_nil] at parts
      rwa [← parts] at written
    · have written :=
        Written.marked blankBefore nonempty inked apart blankBetween spelled blankAfter
      rwa [← split, ← parts] at written
  · intro written
    cases written with
    | bare blankBefore named inked =>
        have noneAfter := allBlank_nil.of_head?
        have passed := blankBefore.dropWhile_append named inked []
        have taken := inked.takeWhile_append noneAfter
        have left := inked.dropWhile_append noneAfter
        rw [List.append_nil] at passed taken left
        simp [split?, passed, taken, left, named, operatorOfRest?]
    | @marked _ _ _ word after _ blankBefore named inked apart blankBetween spelled blankAfter =>
        have blankFirst := blankBetween.head? apart (word ++ after)
        have read := (operatorOfRest?_eq_some_iff blankFirst).mpr
          (.inr ⟨_, _, _, rfl, apart, blankBetween, spelled, blankAfter⟩)
        simp [split?, blankBefore.dropWhile_append named inked, inked.takeWhile_append blankFirst,
          inked.dropWhile_append blankFirst, named, read]

theorem parse_eq_ok_iff {text name : String} :
    parse text = .ok (name, op) ↔ Written text.toList name.toList op := by
  rw [← split?_eq_some_iff, parse]
  constructor
  · intro read
    split at read
    · rename_i found
      cases read
      rw [found, String.toList_ofList]
    · contradiction
  · intro found
    rw [found]
    simp [pure, Except.pure]

/-- A filter text that is written with an operator reads as that operator. -/
theorem parse_symbol {name : String} (nonempty : name ≠ "")
    (inked : ∀ c ∈ name.toList, isBlank c = false) (op : Operator) :
    parse (name ++ " " ++ op.symbol) = .ok (name, op) := by
  have spelled : String.ofList op.symbol.toList ∈ op.words := by
    cases op <;> simp [Operator.symbol, Operator.words]
  have blank : AllBlank [' '] := List.forall_mem_singleton.mpr rfl
  have written : Written ([] ++ (name.toList ++ ([' '] ++ (op.symbol.toList ++ []))))
      name.toList op :=
    .marked allBlank_nil (by simpa using nonempty) inked (List.cons_ne_nil _ _) blank spelled
      allBlank_nil
  rw [parse_eq_ok_iff]
  simpa using written

/-- A filter text that ends in a sign of equality asks for equality, however it is split. -/
theorem eq_equal_of_parse {text name : String} {op : Operator}
    (read : parse (text ++ " =") = .ok (name, op)) : op = .equal := by
  have written := parse_eq_ok_iff.mp read
  generalize whole : (text ++ " =").toList = cs at written
  have ends : cs.reverse = '=' :: ' ' :: text.toList.reverse := by
    rw [← whole]
    simp
  cases written with
  | bare => rfl
  | @marked before _ between word after _ _ _ _ _ _ spelled blankAfter =>
      simp only [List.reverse_append, List.append_assoc] at ends
      cases last : after.reverse with
      | cons c more =>
          rw [last] at ends
          obtain ⟨rfl, -⟩ := List.cons.inj ends
          have blankSign := blankAfter '=' (List.mem_reverse.mp (last ▸ List.mem_cons_self))
          contradiction
      | nil =>
          rw [last, List.nil_append] at ends
          cases op with
          | equal => rfl
          | _ =>
              simp only [Operator.words, String.ofList_eq, List.mem_cons, List.not_mem_nil,
                or_false] at spelled
              rcases spelled with rfl | rfl | rfl | rfl
              all_goals simp at ends

/-- White space after a name by itself fits nothing. -/
theorem not_written_of_blank_end {other : List Char} (blankBefore : AllBlank before)
    (inked : Inked name) (apart : after ≠ []) (blankAfter : AllBlank after) :
    ¬ Written (before ++ (name ++ after)) other op := by
  rw [← split?_eq_some_iff]
  have nothing : after.dropWhile isBlank = [] := List.dropWhile_eq_nil_iff.mpr blankAfter
  by_cases named : name = []
  · rw [named, List.nil_append, split?, List.dropWhile_append_of_pos blankBefore, nothing]
    exact Option.some_ne_none _ ∘ Eq.symm
  · have noWord : operatorOfRest? after = none := by
      rw [operatorOfRest?, nothing, if_neg (by simpa using apart)]
      rfl
    rw [split?, blankBefore.dropWhile_append named inked,
      inked.takeWhile_append blankAfter.of_head?, inked.dropWhile_append blankAfter.of_head?,
      noWord]
    simp

/-- A filter text is read exactly when it is written as a name and possibly an operator, and then
there is one way to read it.  Every other text is refused as malformed, as is a name with nothing
but white space after it.  The words for operators are those that stand for them by themselves. -/
theorem grammar_exact (text : String) :
    (∀ name op, parse text = .ok (name, op) ↔ Written text.toList name.toList op) ∧
      (∀ name name' op op', Written text.toList name op → Written text.toList name' op' →
        name = name' ∧ op = op') ∧
      (∀ cause, parse text = .error cause ↔
        cause = .unparsedFilter text ∧ ∀ name op, ¬ Written text.toList name op) ∧
      (Failure.unparsedFilter text).category = .badFilter ∧
      (∀ before name after, text.toList = before ++ (name ++ after) → AllBlank before →
        Inked name → after ≠ [] → AllBlank after → parse text = .error (.unparsedFilter text)) ∧
      ∀ op : Operator, ∀ word ∈ op.words, Operator.parse word = .ok op := by
  have refused : ∀ cause, parse text = .error cause ↔
      cause = .unparsedFilter text ∧ ∀ name op, ¬ Written text.toList name op := by
    intro cause
    simp only [parse, ← split?_eq_some_iff]
    cases split? text.toList with
    | none => simp [throw, throwThe, MonadExceptOf.throw, eq_comm]
    | some found =>
        obtain ⟨name, op⟩ := found
        simp [pure, Except.pure]
  refine ⟨fun _ _ => parse_eq_ok_iff, ?_, refused, rfl, ?_, fun _ _ => parse_of_mem_words⟩
  · intro name name' op op' written written'
    have same := (split?_eq_some_iff.mpr written).symm.trans (split?_eq_some_iff.mpr written')
    simpa using same
  · intro before name after split blankBefore inked apart blankAfter
    refine (refused _).mpr ⟨rfl, fun _ _ => ?_⟩
    rw [split]
    exact not_written_of_blank_end blankBefore inked apart blankAfter

example : parse "  rank <= " = .ok ("rank", .lessOrEqual) := rfl

example : parse "rank<= 5" = .error (.unparsedFilter "rank<= 5") := rfl

end FilterText

end EntityStore
