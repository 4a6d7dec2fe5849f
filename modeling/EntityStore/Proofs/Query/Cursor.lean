import EntityStore.Proofs.Value.Limits
import EntityStore.Query.Cursor

/-!
# Tokens stand for cursors

A token holds the position of a cursor: one sort value for each order, where the record has one,
and the key.  A missing value is written as null and the value null by its name, so the two are
told apart.  The token of a cursor is decoded to what its document says, as long as its floats are
numbers that are read back and the document is nested no deeper than documents are entered.  That is
the cursor itself if no leap second in it lies within a minute.
-/

namespace EntityStore

variable {depth : Nat}

namespace Position

/-- Whether no sort value holds a float. -/
def Floatless (p : Position) : Prop :=
  ∀ slot ∈ p.values, ∀ v ∈ slot, v.Floatless

instance (p : Position) : Decidable p.Floatless :=
  inferInstanceAs (Decidable (∀ slot ∈ p.values, ∀ v ∈ slot, v.Floatless))

/-- The floats that occur in the sort values. -/
def floats (p : Position) : List Binary64 :=
  p.values.flatMap fun slot => (slot.map Value.floats).getD []

theorem mem_floats {p : Position} {v : Value} (filled : some v ∈ p.values) {x : Binary64}
    (occurs : x ∈ v.floats) : x ∈ p.floats :=
  List.mem_flatMap.mpr ⟨some v, filled, occurs⟩

theorem floats_of_floatless {p : Position} (floatless : p.Floatless) : p.floats = [] := by
  rw [floats, List.flatMap_eq_nil_iff]
  rintro (_ | v) member
  · rfl
  · exact Value.floats_of_floatless (floatless (some v) member v rfl)

/-- The times of day that occur in the sort values. -/
def times (p : Position) : List Time :=
  p.values.flatMap fun slot => (slot.map Value.times).getD []

/-- The position that the document of a position says. -/
def asRead (p : Position) : Position :=
  ⟨p.values.map (Option.map Value.asRead), p.key⟩

theorem asRead_eq_self_iff {p : Position} : p.asRead = p ↔ ∀ t ∈ p.times, t.IsRegular := by
  obtain ⟨values, key⟩ := p
  have slotKept : ∀ slot : Option Value,
      slot.map Value.asRead = slot ↔ ∀ t ∈ (slot.map Value.times).getD [], t.IsRegular := by
    rintro (_ | v)
    · simp
    · simpa using Value.asRead_eq_self_iff
  have valuesKept : values.map (Option.map Value.asRead) = values ↔
      ∀ slot ∈ values, slot.map Value.asRead = slot := by
    simpa using List.map_inj_left (f := Option.map Value.asRead) (g := id)
  rw [asRead, Position.mk.injEq, times, List.forall_mem_flatMap, valuesKept]
  exact (and_iff_left rfl).trans (forall₂_congr fun slot _ => slotKept slot)

/-- The documents of the sort values. -/
def valuesToJson (p : Position) : Json :=
  .array (p.values.map fun v => (v.map Value.toJson).getD .null)

theorem readValues {p : Position} (back : ∀ x ∈ p.floats, x.ReadsBack)
    (shallow : p.valuesToJson.nesting ≤ depth) :
    Json.items? (fun depth v => Json.optional? (Value.ofJson? depth) (some v)) depth
      p.valuesToJson = some p.asRead.values := by
  obtain ⟨inner, rfl, valuesShallow⟩ := Json.nesting_array_le_iff.mp shallow
  refine Json.items?_map_eq fun slot member => ?_
  refine Json.optional?_getD_null_eq Value.toJson_ne_null fun v filled => ?_
  cases filled
  exact Value.ofJson?_toJson (fun x occurs => back x (mem_floats member occurs))
    (valuesShallow v.toJson (List.mem_map.mpr ⟨some v, member, rfl⟩))

theorem ofJson?_toJson {p : Position} (back : ∀ x ∈ p.floats, x.ReadsBack)
    (shallow : p.toJson.nesting ≤ depth) : ofJson? depth p.toJson = some p.asRead := by
  obtain ⟨inner, rfl, contents⟩ := Json.nesting_ofMembers_le_iff.mp shallow
  simp only [List.forall_mem_cons] at contents
  have entered : Json.fields? ["values", "key"] (inner + 1) p.toJson =
      some (inner, [some p.valuesToJson, some p.key.toJson]) :=
    Json.fields?_ofMembers rfl (by simp) inner
  rw [ofJson?, entered]
  simp [readValues back contents.1, Key.ofJson?_toJson contents.2.1, asRead]

theorem isWritten_toJson (p : Position) : Json.IsWritten p.toJson := by
  have valuesWritten : Json.IsWritten p.valuesToJson := by
    refine .array fun document listed => ?_
    obtain ⟨slot, member, rfl⟩ := List.mem_map.mp listed
    exact Json.isWritten_getD_null fun v _ => v.isWritten_toJson
  apply Json.isWritten_ofMembers
  simp only [List.forall_mem_cons]
  exact ⟨valuesWritten, p.key.isWritten_toJson, nofun⟩

/-- Only a position whose floats are numbers is read, and only where there is room for it. -/
theorem limits_of_ofJson? {p : Position} (read : (ofJson? depth p.toJson).isSome) :
    p.toJson.nesting ≤ depth ∧ ∀ x ∈ p.floats, x.IsFinite := by
  cases depth with
  | zero => cases read
  | succ inner =>
      have entered : Json.fields? ["values", "key"] (inner + 1) p.toJson =
          some (inner, [some p.valuesToJson, some p.key.toJson]) :=
        Json.fields?_ofMembers rfl (by simp) inner
      rw [ofJson?, entered] at read
      dsimp only at read
      have valuesRead := Option.isSome_of_isSome_bind read
      obtain ⟨values, valuesEq⟩ := Option.isSome_iff_exists.mp valuesRead
      rw [valuesEq] at read
      have keyRead : (Key.ofJson? inner p.key.toJson).isSome :=
        Option.isSome_of_isSome_bind read
      obtain ⟨inmost, rfl, slotsRead⟩ := Json.exists_of_items? valuesRead
      have limits : ∀ v, some v ∈ p.values →
          v.toJson.nesting ≤ inmost ∧ ∀ x ∈ v.floats, x.IsFinite := by
        intro v filled
        have slotRead : (Json.optional? (Value.ofJson? inmost)
            (some (((some v).map Value.toJson).getD .null))).isSome :=
          slotsRead v.toJson (List.mem_map.mpr ⟨some v, filled, rfl⟩)
        exact Value.limits_of_ofJson?
          (Json.isSome_of_optional? Value.toJson_ne_null slotRead v rfl)
      constructor
      · refine Json.nesting_ofMembers_le_iff.mpr ⟨inmost + 1, rfl, ?_⟩
        simp only [List.forall_mem_cons]
        refine ⟨?_, Key.nesting_le_of_ofJson? keyRead, List.forall_mem_nil _⟩
        refine Json.nesting_array_le_iff.mpr ⟨inmost, rfl, fun document listed => ?_⟩
        obtain ⟨slot, filled, rfl⟩ := List.mem_map.mp listed
        refine Json.nesting_getD_null_le fun v there => ?_
        cases there
        exact (limits v filled).1
      · intro x occurs
        obtain ⟨slot, filled, occurs⟩ := List.mem_flatMap.mp occurs
        cases slot with
        | none => cases occurs
        | some v => exact (limits v filled).2 x occurs

end Position

namespace Cursor

variable {c : Cursor}

/-- The floats that occur in the position of a cursor. -/
def floats (c : Cursor) : List Binary64 :=
  (c.position.map Position.floats).getD []

theorem floats_of_floatless (floatless : ∀ p ∈ c.position, p.Floatless) : c.floats = [] := by
  rcases c with ⟨_ | p⟩
  · rfl
  · exact Position.floats_of_floatless (floatless p rfl)

/-- The times of day that occur in the position of a cursor. -/
def times (c : Cursor) : List Time :=
  (c.position.map Position.times).getD []

/-- The cursor that the token of a cursor says. -/
def asRead (c : Cursor) : Cursor :=
  ⟨c.position.map Position.asRead⟩

/-- A token says its own cursor if no leap second in it lies within a minute. -/
theorem asRead_eq_self_iff : c.asRead = c ↔ ∀ t ∈ c.times, t.IsRegular := by
  rcases c with ⟨_ | p⟩
  · simp [asRead, times]
  · simpa [asRead, times] using Position.asRead_eq_self_iff

theorem ofJson?_toJson (back : ∀ x ∈ c.floats, x.ReadsBack)
    (shallow : c.toJson.nesting ≤ depth) : ofJson? depth c.toJson = some c.asRead := by
  obtain ⟨inner, rfl, contents⟩ := Json.nesting_ofMembers_le_iff.mp shallow
  simp only [List.forall_mem_cons] at contents
  have entered : Json.fields? ["position"] (inner + 1) c.toJson =
      some (inner, [some ((c.position.map Position.toJson).getD .null)]) :=
    Json.fields?_ofMembers rfl (by simp) inner
  have positionRead : Json.optional? (Position.ofJson? inner)
      (some ((c.position.map Position.toJson).getD .null)) = some c.asRead.position := by
    refine Json.optional?_getD_null_eq (fun _ => nofun) fun p placed => ?_
    rw [placed] at contents
    have positionFloats : c.floats = p.floats := by rw [floats, placed]; rfl
    exact Position.ofJson?_toJson (positionFloats ▸ back) contents.1
  rw [ofJson?, entered]
  simp [positionRead]

theorem isWritten_toJson (c : Cursor) : Json.IsWritten c.toJson := by
  have positionWritten : Json.IsWritten ((c.position.map Position.toJson).getD .null) :=
    Json.isWritten_getD_null fun p _ => p.isWritten_toJson
  exact Json.isWritten_ofMembers (List.forall_mem_singleton.mpr positionWritten)

/-- A token is decoded as the document of its cursor. -/
theorem decode_encode_eq (c : Cursor) :
    decode c.encode = match ofJson? Json.depthLimit c.toJson with
      | some cursor => .ok cursor
      | none => .error (.undecodableCursor c.encode) := by
  have trimmed : Text.trimChars c.encode.toList = Base64.encode c.toJson.write := by
    have noBlanks : Text.trimChars ([] ++ Base64.encode c.toJson.write ++ []) =
        Base64.encode c.toJson.write :=
      Text.trimChars_append nofun nofun fun ch => Base64.isBlank_of_mem_encode
    simpa [encode] using noBlanks
  rw [decode, trimmed, Base64.decode_encode, Option.bind_some, ofBytes?,
    Json.read?_write c.isWritten_toJson, Option.bind_some]
  rfl

/-- Whether the token of a cursor can be read. -/
structure IsPortable (c : Cursor) : Prop where
  finite : ∀ x ∈ c.floats, x.IsFinite
  shallow : c.toJson.nesting ≤ Json.depthLimit

theorem isPortable_of_ofJson? (read : (ofJson? Json.depthLimit c.toJson).isSome) :
    c.IsPortable := by
  have entered : Json.fields? ["position"] Json.depthLimit c.toJson =
      some (126, [some ((c.position.map Position.toJson).getD .null)]) :=
    Json.fields?_ofMembers rfl (by simp) 126
  rw [ofJson?, entered] at read
  dsimp only at read
  rw [Option.isSome_map] at read
  have limits : ∀ p ∈ c.position, p.toJson.nesting ≤ 126 ∧ ∀ x ∈ p.floats, x.IsFinite := by
    intro p placed
    have notNull : ∀ p : Position, p.toJson ≠ .null := fun _ => Json.noConfusion
    exact Position.limits_of_ofJson? (Json.isSome_of_optional? notNull read p placed)
  constructor
  · intro x occurs
    unfold floats at occurs
    cases placed : c.position with
    | none =>
        rw [placed] at occurs
        cases occurs
    | some p =>
        rw [placed] at occurs
        exact (limits p placed).2 x occurs
  · refine Json.nesting_ofMembers_le_iff.mpr ⟨126, rfl, List.forall_mem_singleton.mpr ?_⟩
    exact Json.nesting_getD_null_le fun p placed => (limits p placed).1

/-- Whether the floats of a cursor that have digits are read back from them. -/
def FloatsReadBack (c : Cursor) : Prop :=
  ∀ x ∈ c.floats, x.IsFinite → x.ReadsBack

instance (c : Cursor) : Decidable c.FloatsReadBack :=
  inferInstanceAs (Decidable (∀ x ∈ c.floats, x.IsFinite → x.ReadsBack))

/-- A token that can be read is decoded to what it says. -/
theorem decode_encode_of_isPortable (back : c.FloatsReadBack) (portable : c.IsPortable) :
    decode c.encode = .ok c.asRead := by
  have read := ofJson?_toJson (fun x occurs => back x occurs (portable.finite x occurs))
    portable.shallow
  rw [decode_encode_eq, read]

theorem decode_encode_of_not_isPortable (notPortable : ¬ c.IsPortable) :
    decode c.encode = .error (.undecodableCursor c.encode) := by
  rw [decode_encode_eq]
  cases read : ofJson? Json.depthLimit c.toJson with
  | none => rfl
  | some other => exact absurd (isPortable_of_ofJson? (by rw [read]; rfl)) notPortable

theorem isPortable_iff_of_floatless (floatless : ∀ p ∈ c.position, p.Floatless) :
    c.IsPortable ↔ c.toJson.nesting ≤ Json.depthLimit := by
  refine ⟨IsPortable.shallow, fun shallow => ⟨?_, shallow⟩⟩
  rw [floats_of_floatless floatless]
  exact List.forall_mem_nil _

theorem floatsReadBack_of_floatless (floatless : ∀ p ∈ c.position, p.Floatless) :
    c.FloatsReadBack := by
  rw [FloatsReadBack, floats_of_floatless floatless]
  exact List.forall_mem_nil _

/-- A cursor without floats is decoded from its own token if and only if its document is nested no
deeper than documents are entered and no leap second in it lies within a minute. -/
theorem decode_encode_iff_of_floatless (floatless : ∀ p ∈ c.position, p.Floatless) :
    decode c.encode = .ok c ↔
      c.toJson.nesting ≤ Json.depthLimit ∧ ∀ t ∈ c.times, t.IsRegular := by
  have portable := isPortable_iff_of_floatless floatless
  by_cases shallow : c.toJson.nesting ≤ Json.depthLimit
  · rw [decode_encode_of_isPortable (floatsReadBack_of_floatless floatless) (portable.mpr shallow),
      Except.ok.injEq, asRead_eq_self_iff, and_iff_right shallow]
  · rw [decode_encode_of_not_isPortable (mt portable.mp shallow)]
    exact iff_of_false nofun fun both => shallow both.1

/-- A note that has not been saved yet, written on a leap second at the end of an early year. -/
def oldNote : Entity where
  key := ⟨[⟨"Diary", some (.name "jö")⟩, ⟨"Note", none⟩]⟩
  fields := .ofList
    [("written", Value.dateTime ⟨⟨-44, 12, 31, by decide⟩, ⟨23, 59, 59, 1000000500, by decide⟩⟩),
      ("seal", Value.byteString [0, 255]), ("title", Value.string "\"Et tu?\"\n\u0000 — é"),
      ("author", Value.user ⟨"a@b.c", "b.c", none⟩), ("mood", Value.null),
      ("about", Value.key ⟨[⟨"Note", some (.number (-1))⟩]⟩),
      ("pages", Value.list [.list [.integer 2, .null], .list [.integer 1]])]

/-- Every way to sort the note, and one that it has no value for. -/
def noteOrders : List SortOrder :=
  ["written", "seal", "title", "author", "about", "pages", "mood", "weather"].map
    (⟨·, .descending⟩)

theorem decode_encode_oldNote :
    ((∀ p ∈ (after oldNote noteOrders).position, p.Floatless) ∧
        (after oldNote noteOrders).toJson.nesting = 8 ∧
        ∀ t ∈ (after oldNote noteOrders).times, t.IsRegular) ∧
      decode (after oldNote noteOrders).encode = .ok (after oldNote noteOrders) := by
  have floatless : ∀ p ∈ (after oldNote noteOrders).position, p.Floatless := by
    decide +kernel
  have nesting : (after oldNote noteOrders).toJson.nesting = 8 := by
    decide +kernel
  have regular : ∀ t ∈ (after oldNote noteOrders).times, t.IsRegular := by
    decide +kernel
  exact ⟨⟨floatless, nesting, regular⟩, (decode_encode_iff_of_floatless floatless).mpr
    ⟨by rw [nesting]; decide, regular⟩⟩

/-- Right after a shift that ends at some time, in the order of their ends. -/
def afterShift (t : Time) : Cursor :=
  after { key := ⟨[⟨"Shift", some (.number 1)⟩]⟩,
          fields := .ofList [("end", Value.dateTime ⟨.epoch, t⟩)] } [⟨"end", .ascending⟩]

/-- A null inside so many lists. -/
def boxedNull : Nat → Value
  | 0 => .null
  | n + 1 => .list [boxedNull n]

/-- Right after a box whose sort value is a null inside so many lists. -/
def afterBox (n : Nat) : Cursor :=
  after { key := ⟨[⟨"Box", some (.number 1)⟩]⟩,
          fields := .ofList [("contents", Value.list [boxedNull n])] } [⟨"contents", .ascending⟩]

/-- The token of a cursor with a leap second within a minute stands for another cursor, and the
document of a sort value that could be entered by itself cannot be entered inside a token. -/
theorem decode_encode_ne :
    ((∀ p ∈ (afterShift ⟨13, 45, 13, 1333333333, by decide⟩).position, p.Floatless) ∧
        (afterShift ⟨13, 45, 13, 1333333333, by decide⟩).toJson.nesting ≤ Json.depthLimit ∧
        decode (afterShift ⟨13, 45, 13, 1333333333, by decide⟩).encode =
          .ok (afterShift ⟨13, 45, 14, 333333333, by decide⟩) ∧
        afterShift ⟨13, 45, 14, 333333333, by decide⟩ ≠
          afterShift ⟨13, 45, 13, 1333333333, by decide⟩) ∧
      (∀ p ∈ (afterBox 63).position, p.Floatless ∧
          p.values = [some (boxedNull 63)] ∧ (boxedNull 63).toJson.nesting ≤ Json.depthLimit) ∧
        decode (afterBox 63).encode = .error (.undecodableCursor (afterBox 63).encode) := by
  constructor
  · have floatless : ∀ p ∈ (afterShift ⟨13, 45, 13, 1333333333, by decide⟩).position,
        p.Floatless := by decide +kernel
    have shallow : (afterShift ⟨13, 45, 13, 1333333333, by decide⟩).toJson.nesting ≤
        Json.depthLimit := by decide +kernel
    have regular : ∀ t ∈ (afterShift ⟨13, 45, 14, 333333333, by decide⟩).times, t.IsRegular := by
      decide +kernel
    refine ⟨floatless, shallow, ?_, fun same => ?_⟩
    · exact decode_encode_of_isPortable (floatsReadBack_of_floatless floatless)
        ((isPortable_iff_of_floatless floatless).mpr shallow)
    · rw [same] at regular
      revert regular
      decide +kernel
  · have floatless : ∀ p ∈ (afterBox 63).position, p.Floatless := by
      decide +kernel
    refine ⟨?_, decode_encode_of_not_isPortable ?_⟩
    · rintro p ⟨⟩
      exact ⟨floatless _ rfl, rfl, by decide +kernel⟩
    · rw [isPortable_iff_of_floatless floatless]
      decide +kernel

end Cursor

end EntityStore
