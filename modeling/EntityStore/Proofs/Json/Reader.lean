import EntityStore.Proofs.Json.Numeral
import EntityStore.Proofs.Json.Text

/-!
# Documents are read as they are written

The compact written form of a document has no white space, so reading it back only has to tell its
parts apart.  This holds for every document whose strings and numerals are such as the writer
produces: each part is read in full and what follows it is left over.  The reader spends no more
fuel than twice the length of the written form.
-/

namespace EntityStore.Json

/-- A document that is made of written strings and numerals. -/
inductive IsWritten : Json → Prop where
  | null : IsWritten .null
  | boolean (value : Bool) : IsWritten (.boolean value)
  | number {numeral : Numeral} (written : numeral.IsWritten) : IsWritten (.number numeral)
  | string {body : List UInt8} (written : IsBody body) : IsWritten (.string body)
  | array {items : List Json} (written : ∀ item ∈ items, IsWritten item) : IsWritten (.array items)
  | object {members : List (List UInt8 × Json)} (names : ∀ m ∈ members, IsBody m.1)
    (values : ∀ m ∈ members, IsWritten m.2) : IsWritten (.object members)

theorem isWritten_ofString (s : String) : IsWritten (ofString s) :=
  .string (isBody_escaped (bytesOf s))

theorem isWritten_ofInt (n : Int) : IsWritten (ofInt n) :=
  .number (Numeral.isWritten_ofInt n)

theorem isWritten_ofMembers {members : List (String × Json)}
    (values : ∀ m ∈ members, IsWritten m.2) : IsWritten (ofMembers members) := by
  refine .object ?_ ?_
  · intro m member
    obtain ⟨m', _, rfl⟩ := List.mem_map.mp member
    exact isBody_escaped (bytesOf m'.1)
  · intro m member
    obtain ⟨m', listed, rfl⟩ := List.mem_map.mp member
    exact values m' listed

/-- A part that may be missing is written as a null or as it is. -/
theorem isWritten_getD_null {α : Type} {encode : α → Json} {part : Option α}
    (written : ∀ a ∈ part, IsWritten (encode a)) :
    IsWritten ((part.map encode).getD .null) := by
  cases part with
  | none => exact .null
  | some a => exact written a rfl

/-! ## First bytes -/

/-- Whether a byte can begin a document: it is no white space and closes nothing. -/
abbrev Opens (b : UInt8) : Prop :=
  isSpace b = false ∧ b ≠ 0x5d ∧ b ≠ 0x7d

/-- The signs and digits that a numeral begins with. -/
theorem Numeral.exists_write_eq_cons {n : Numeral} (written : n.IsWritten) :
    ∃ b rest, n.write = b :: rest ∧ (b = 0x2d ∨ isDigit b) := by
  obtain ⟨negative, whole, fraction, exponent⟩ := n
  rw [Numeral.write_eq]
  cases negative with
  | true => exact ⟨0x2d, _, rfl, .inl rfl⟩
  | false =>
      cases whole with
      | nil => exact absurd written.shape (by simp [Numeral.isWhole])
      | cons b digits => exact ⟨b, _, rfl, .inr (written.whole b List.mem_cons_self)⟩

/-- A byte that begins a numeral begins no other document. -/
theorem numeral_byte {b : UInt8} (first : b = 0x2d ∨ isDigit b) :
    Opens b ∧ b ≠ quote ∧ b ≠ 0x5b ∧ b ≠ 0x7b ∧ b ≠ 0x6e ∧ b ≠ 0x74 ∧ b ≠ 0x66 := by
  rcases first with rfl | digit
  · decide
  · have differs : ∀ c, isDigit c = false → b ≠ c := by
      rintro c noDigit rfl
      rw [digit] at noDigit
      contradiction
    have ink : isSpace b = false := by
      simp [isSpace, differs 0x20 rfl, differs 0x09 rfl, differs 0x0a rfl, differs 0x0d rfl]
    exact ⟨⟨ink, differs _ rfl, differs _ rfl⟩, differs _ rfl, differs _ rfl, differs _ rfl,
      differs _ rfl, differs _ rfl, differs _ rfl⟩

theorem exists_write_eq_cons {document : Json} (written : IsWritten document) :
    ∃ b rest, document.write = b :: rest ∧ Opens b := by
  cases written with
  | null => exact ⟨_, _, rfl, by decide, by decide, by decide⟩
  | boolean value => cases value <;> exact ⟨_, _, rfl, by decide, by decide, by decide⟩
  | number written =>
      obtain ⟨b, rest, bytes, first⟩ := Numeral.exists_write_eq_cons written
      exact ⟨b, rest, bytes, (numeral_byte first).1⟩
  | string written => exact ⟨_, _, rfl, by decide, by decide, by decide⟩
  | @array items _ => cases items <;> exact ⟨_, _, rfl, by decide, by decide, by decide⟩
  | @object members _ _ =>
      cases members <;> exact ⟨_, _, rfl, by decide, by decide, by decide⟩

theorem skipSpace_cons {b : UInt8} (ink : isSpace b = false) (rest : List UInt8) :
    skipSpace (b :: rest) = b :: rest :=
  List.dropWhile_cons_of_neg (by simp [ink])

theorem delimited_cons {b : UInt8} (closes : b = 0x2c ∨ b = 0x5d ∨ b = 0x7d)
    (rest : List UInt8) : Delimited (b :: rest) := by
  rintro _ ⟨⟩
  exact closes

/-! ## The parts of a document -/

/-- Whether reading the written form of a document gives it back, whatever follows. -/
def ReadsBack (document : Json) : Prop :=
  ∀ fuel rest, 2 * document.write.length ≤ fuel → Delimited rest →
    readValue fuel (document.write ++ rest) = some (document, rest)

/-- An item before the closing bracket is the last one. -/
theorem readItems_last {item : Json} (back : ReadsBack item) {fuel : Nat}
    (enough : 2 * item.write.length ≤ fuel) (rest : List UInt8) :
    readItems (fuel + 1) (item.write ++ 0x5d :: rest) = some ([item], rest) := by
  have itemRead := back fuel (0x5d :: rest) enough (delimited_cons (by decide) rest)
  simp [readItems, itemRead, skipSpace_cons (b := 0x5d) (by decide)]

/-- An item before a comma is followed by others. -/
theorem readItems_next {item : Json} (back : ReadsBack item) {fuel : Nat}
    (enough : 2 * item.write.length ≤ fuel) {rest left : List UInt8} {items : List Json}
    (others : readItems fuel rest = some (items, left)) :
    readItems (fuel + 1) (item.write ++ 0x2c :: rest) = some (item :: items, left) := by
  have itemRead := back fuel (0x2c :: rest) enough (delimited_cons (by decide) rest)
  simp [readItems, itemRead, skipSpace_cons (b := 0x2c) (by decide), others]

theorem readItems_write {item : Json} {items : List Json}
    (back : ∀ i ∈ item :: items, ReadsBack i) (fuel : Nat)
    (enough : 2 * (item.write.length + (writeItems items).length) ≤ fuel) (rest : List UInt8) :
    readItems fuel (item.write ++ (writeItems items ++ rest)) = some (item :: items, rest) := by
  induction items generalizing item fuel with
  | nil =>
      rw [writeItems, List.length_singleton] at enough
      obtain ⟨fuel, rfl⟩ := Nat.exists_eq_add_one_of_ne_zero (n := fuel) (by omega)
      exact readItems_last (back item List.mem_cons_self) (by omega) rest
  | cons next items ih =>
      simp only [writeItems, List.length_cons, List.length_append] at enough
      obtain ⟨fuel, rfl⟩ := Nat.exists_eq_add_one_of_ne_zero (n := fuel) (by omega)
      have others := ih (fun i listed => back i (List.mem_cons_of_mem item listed)) fuel (by omega)
      rw [writeItems, List.cons_append, List.cons_append, List.append_assoc]
      exact readItems_next (back item List.mem_cons_self) (by omega) others

/-- The written form of a member without what separates it from others. -/
def memberBytes (member : List UInt8 × Json) : List UInt8 :=
  quote :: member.1 ++ [quote, 0x3a] ++ member.2.write

theorem expect_cons {b : UInt8} (ink : isSpace b = false) (rest : List UInt8) :
    expect b (b :: rest) = some rest := by
  rw [expect, skipSpace_cons ink]
  exact if_pos rfl

theorem length_memberBytes (member : List UInt8 × Json) :
    (memberBytes member).length = member.1.length + member.2.write.length + 3 := by
  simp [memberBytes]
  omega

theorem writeMembers_cons (member : List UInt8 × Json) (members : List (List UInt8 × Json)) :
    writeMembers (member :: members) = 0x2c :: (memberBytes member ++ writeMembers members) := by
  simp [writeMembers, memberBytes]

/-- A member before the closing brace is the last one. -/
theorem readMembers_last {member : List UInt8 × Json} (name : IsBody member.1)
    (back : ReadsBack member.2) {fuel : Nat} (enough : 2 * member.2.write.length ≤ fuel)
    (rest : List UInt8) :
    readMembers (fuel + 1) (memberBytes member ++ 0x7d :: rest) = some ([member], rest) := by
  have nameRead := name (0x3a :: (member.2.write ++ 0x7d :: rest))
  have valueRead := back fuel (0x7d :: rest) enough (delimited_cons (by decide) rest)
  simp [readMembers, memberBytes, expect_cons (b := quote) (by decide),
    expect_cons (b := 0x3a) (by decide), nameRead, valueRead,
    skipSpace_cons (b := 0x7d) (by decide)]

/-- A member before a comma is followed by others. -/
theorem readMembers_next {member : List UInt8 × Json} (name : IsBody member.1)
    (back : ReadsBack member.2) {fuel : Nat} (enough : 2 * member.2.write.length ≤ fuel)
    {rest left : List UInt8} {members : List (List UInt8 × Json)}
    (others : readMembers fuel rest = some (members, left)) :
    readMembers (fuel + 1) (memberBytes member ++ 0x2c :: rest) =
      some (member :: members, left) := by
  have nameRead := name (0x3a :: (member.2.write ++ 0x2c :: rest))
  have valueRead := back fuel (0x2c :: rest) enough (delimited_cons (by decide) rest)
  simp [readMembers, memberBytes, expect_cons (b := quote) (by decide),
    expect_cons (b := 0x3a) (by decide), nameRead, valueRead,
    skipSpace_cons (b := 0x2c) (by decide), others]

theorem readMembers_write {member : List UInt8 × Json} {members : List (List UInt8 × Json)}
    (names : ∀ m ∈ member :: members, IsBody m.1)
    (back : ∀ m ∈ member :: members, ReadsBack m.2) (fuel : Nat)
    (enough : 2 * ((memberBytes member).length + (writeMembers members).length) ≤ fuel)
    (rest : List UInt8) :
    readMembers fuel (memberBytes member ++ (writeMembers members ++ rest)) =
      some (member :: members, rest) := by
  induction members generalizing member fuel with
  | nil =>
      rw [length_memberBytes] at enough
      obtain ⟨fuel, rfl⟩ := Nat.exists_eq_add_one_of_ne_zero (n := fuel) (by omega)
      exact readMembers_last (names member List.mem_cons_self) (back member List.mem_cons_self)
        (by omega) rest
  | cons next members ih =>
      rw [writeMembers_cons, List.length_cons, List.length_append, length_memberBytes] at enough
      obtain ⟨fuel, rfl⟩ := Nat.exists_eq_add_one_of_ne_zero (n := fuel) (by omega)
      have others := ih (fun m listed => names m (List.mem_cons_of_mem member listed))
        (fun m listed => back m (List.mem_cons_of_mem member listed)) fuel (by omega)
      rw [writeMembers_cons, List.cons_append, List.append_assoc]
      exact readMembers_next (names member List.mem_cons_self) (back member List.mem_cons_self)
        (by omega) others

/-- No document is written without a byte, so there is fuel to begin with. -/
theorem exists_fuel {document : Json} (written : IsWritten document) {fuel : Nat}
    (enough : 2 * document.write.length ≤ fuel) : ∃ less, fuel = less + 1 := by
  obtain ⟨b, more, bytes, _⟩ := exists_write_eq_cons written
  rw [bytes, List.length_cons] at enough
  exact Nat.exists_eq_add_one_of_ne_zero (by omega)

theorem readsBack_number {numeral : Numeral} (written : numeral.IsWritten) :
    ReadsBack (.number numeral) := by
  intro fuel rest enough delimited
  obtain ⟨fuel, rfl⟩ := exists_fuel (.number written) enough
  obtain ⟨b, more, bytes, first⟩ := Numeral.exists_write_eq_cons written
  obtain ⟨⟨ink, _, _⟩, notQuote, notArray, notObject, notNull, notTrue, notFalse⟩ :=
    numeral_byte first
  have numeralRead := Numeral.read_write written delimited
  rw [bytes, List.cons_append] at numeralRead
  rw [write, bytes, List.cons_append, readValue, skipSpace_cons ink]
  simp only [notQuote, notArray, notObject, notNull, notTrue, notFalse, if_false, numeralRead]
  rfl

theorem readsBack_string {body : List UInt8} (written : IsBody body) :
    ReadsBack (.string body) := by
  intro fuel rest enough _
  obtain ⟨fuel, rfl⟩ := exists_fuel (.string written) enough
  have bodyRead := written rest
  rw [write, List.cons_append, List.cons_append, List.append_assoc, List.singleton_append,
    readValue, skipSpace_cons (by decide)]
  simp only [bodyRead, if_true]
  rfl

theorem readsBack_array {items : List Json} (written : ∀ item ∈ items, IsWritten item)
    (back : ∀ item ∈ items, ReadsBack item) : ReadsBack (.array items) := by
  intro fuel rest enough _
  obtain ⟨fuel, rfl⟩ := exists_fuel (.array written) enough
  cases items with
  | nil => rfl
  | cons item items =>
      rw [write, List.length_append, List.length_cons] at enough
      have itemsRead := readItems_write back fuel (by omega) rest
      obtain ⟨b, more, bytes, ink, notClosed, _⟩ :=
        exists_write_eq_cons (written item List.mem_cons_self)
      rw [bytes, List.cons_append] at itemsRead
      rw [write, bytes, List.append_assoc, List.cons_append, readValue,
        skipSpace_cons (by decide)]
      simp only [List.cons_append, skipSpace_cons ink, notClosed, itemsRead, if_true, if_false]
      rfl

theorem readsBack_object {members : List (List UInt8 × Json)}
    (names : ∀ m ∈ members, IsBody m.1) (written : ∀ m ∈ members, IsWritten m.2)
    (back : ∀ m ∈ members, ReadsBack m.2) : ReadsBack (.object members) := by
  intro fuel rest enough _
  obtain ⟨fuel, rfl⟩ := exists_fuel (.object names written) enough
  cases members with
  | nil => rfl
  | cons member members =>
      have bytes : (object (member :: members)).write =
          0x7b :: (memberBytes member ++ writeMembers members) := by
        simp [write, memberBytes]
      rw [bytes, List.length_cons, List.length_append] at enough
      have membersRead := readMembers_write names back fuel (by omega) rest
      have opened : memberBytes member ++ (writeMembers members ++ rest) =
          quote :: (member.1 ++ [quote, 0x3a] ++ member.2.write ++
            (writeMembers members ++ rest)) :=
        rfl
      rw [opened] at membersRead
      rw [bytes, List.cons_append, List.append_assoc, opened, readValue,
        skipSpace_cons (by decide)]
      simp only [skipSpace_cons (b := quote) (by decide), membersRead, if_true]
      rfl

/-- Reading the written form of a document gives it back, whatever follows. -/
theorem readsBack {document : Json} (written : IsWritten document) : ReadsBack document := by
  induction written with
  | null =>
      intro fuel rest enough _
      obtain ⟨fuel, rfl⟩ := exists_fuel .null enough
      rfl
  | boolean value =>
      intro fuel rest enough _
      obtain ⟨fuel, rfl⟩ := exists_fuel (.boolean value) enough
      cases value <;> rfl
  | number written => exact readsBack_number written
  | string written => exact readsBack_string written
  | array written back => exact readsBack_array written back
  | object names written back => exact readsBack_object names written back

/-- Every document that is made of written parts is read back. -/
theorem read?_write {document : Json} (written : IsWritten document) :
    read? document.write = some document := by
  have back := readsBack written (2 * document.write.length + 1) [] (by omega) nofun
  rw [List.append_nil] at back
  rw [read?, back]
  rfl

end EntityStore.Json
