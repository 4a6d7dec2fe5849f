import EntityStore.Proofs.Json.Text

/-!
# Decoding what was encoded

An object that is made of named members is entered by the same names, a tagged value by its tag,
and an array item by item.  Each is entered as long as its contents are nested less deep than the
depth that is left.
-/

namespace EntityStore.Json

/-! ## Nesting -/

mutual

/-- How many arrays and objects of a document enclose each other. -/
def nesting : Json → Nat
  | .array items => nestingOfAll items + 1
  | .object members => nestingOfMembers members + 1
  | _ => 0

/-- The deepest nesting among the items of an array. -/
def nestingOfAll : List Json → Nat
  | [] => 0
  | item :: rest => max item.nesting (nestingOfAll rest)

/-- The deepest nesting among the members of an object. -/
def nestingOfMembers : List (List UInt8 × Json) → Nat
  | [] => 0
  | (_, value) :: rest => max value.nesting (nestingOfMembers rest)

end

theorem nestingOfAll_le_iff {items : List Json} {depth : Nat} :
    nestingOfAll items ≤ depth ↔ ∀ item ∈ items, item.nesting ≤ depth := by
  induction items with
  | nil => simp [nestingOfAll]
  | cons item rest ih => rw [nestingOfAll, Nat.max_le, ih, List.forall_mem_cons]

theorem nestingOfMembers_le_iff {members : List (List UInt8 × Json)} {depth : Nat} :
    nestingOfMembers members ≤ depth ↔ ∀ m ∈ members, m.2.nesting ≤ depth := by
  induction members with
  | nil => simp [nestingOfMembers]
  | cons m rest ih => rw [nestingOfMembers, Nat.max_le, ih, List.forall_mem_cons]

/-- An array takes up one level. -/
theorem nesting_array_le_iff {items : List Json} {depth : Nat} :
    nesting (.array items) ≤ depth ↔
      ∃ inner, depth = inner + 1 ∧ ∀ item ∈ items, item.nesting ≤ inner := by
  simp only [nesting, ← nestingOfAll_le_iff]
  cases depth with
  | zero => simp
  | succ inner => simp

/-- An object takes up one level. -/
theorem nesting_ofMembers_le_iff {members : List (String × Json)} {depth : Nat} :
    nesting (ofMembers members) ≤ depth ↔
      ∃ inner, depth = inner + 1 ∧ ∀ m ∈ members, m.2.nesting ≤ inner := by
  cases depth with
  | zero => simp [nesting, ofMembers]
  | succ inner =>
      have contents : ∀ {limit : Nat}, nesting (ofMembers members) ≤ limit + 1 ↔
          ∀ m ∈ members, m.2.nesting ≤ limit :=
        Nat.add_le_add_iff_right.trans (nestingOfMembers_le_iff.trans List.forall_mem_map)
      simp [contents]

@[simp]
theorem nesting_null : nesting .null = 0 :=
  rfl

@[simp]
theorem nesting_ofString (s : String) : nesting (ofString s) = 0 :=
  rfl

@[simp]
theorem nesting_ofInt (n : Int) : nesting (ofInt n) = 0 :=
  rfl

/-! ## Entering -/

theorem mapM_eq_some_map {α β : Type} {f : α → Option β} {g : α → β} {items : List α}
    (answers : ∀ a ∈ items, f a = some (g a)) : items.mapM f = some (items.map g) := by
  induction items with
  | nil => rfl
  | cons a items ih =>
      rw [List.mapM_cons, answers a List.mem_cons_self,
        ih fun b member => answers b (List.mem_cons_of_mem a member)]
      rfl

/-- Entering an array of encoded items decodes them one by one. -/
theorem items?_map_eq {α β : Type} {decode : Nat → Json → Option β} {encode : α → Json}
    {g : α → β} {depth : Nat} {items : List α}
    (answers : ∀ a ∈ items, decode depth (encode a) = some (g a)) :
    items? decode (depth + 1) (.array (items.map encode)) = some (items.map g) := by
  rw [items?, List.mapM_map]
  exact mapM_eq_some_map answers

theorem items?_map {α : Type} {decode : Nat → Json → Option α} {encode : α → Json} {depth : Nat}
    {items : List α} (back : ∀ a ∈ items, decode depth (encode a) = some a) :
    items? decode (depth + 1) (.array (items.map encode)) = some items := by
  rw [items?_map_eq (g := id) back, List.map_id]

/-- An optional part is told from a missing one when no part is written as a null. -/
theorem optional?_getD_null_eq {α β : Type} {decode : Json → Option β} {encode : α → Json}
    {g : α → β} {part : Option α} (notNull : ∀ a, encode a ≠ .null)
    (answers : ∀ a ∈ part, decode (encode a) = some (g a)) :
    optional? decode (some ((part.map encode).getD .null)) = some (part.map g) := by
  cases part with
  | none => rfl
  | some a =>
      rw [Option.map_some, Option.getD_some, optional?, answers a rfl, Option.map_some,
        Option.map_some]
      exact notNull a

theorem optional?_getD_null {α : Type} {decode : Json → Option α} {encode : α → Json}
    {part : Option α} (notNull : ∀ a, encode a ≠ .null)
    (back : ∀ a ∈ part, decode (encode a) = some a) :
    optional? decode (some ((part.map encode).getD .null)) = some part := by
  rw [optional?_getD_null_eq (g := id) notNull back, Option.map_id, id]

@[simp]
theorem tagged?_ofMembers (depth : Nat) (tag : String) (value : Json) :
    tagged? (depth + 1) (ofMembers [(tag, value)]) = some (depth, tag, some value) := by
  simp [ofMembers, tagged?]

theorem filter_name_eq {members : List (String × Json)} (distinct : (members.map (·.1)).Nodup)
    {m : String × Json} (member : m ∈ members) : members.filter (·.1 = m.1) = [m] := by
  induction members with
  | nil => contradiction
  | cons first rest ih =>
      obtain ⟨fresh, distinct⟩ := List.nodup_cons.mp distinct
      rcases List.mem_cons.mp member with rfl | inRest
      · have noOther : rest.filter (fun other => decide (other.1 = m.1)) = [] := by
          rw [List.filter_eq_nil_iff]
          intro other listed same
          exact fresh (List.mem_map.mpr ⟨other, listed, of_decide_eq_true same⟩)
        rw [List.filter_cons_of_pos (by simp), noOther]
      · have differs : first.1 ≠ m.1 := fun same =>
          fresh (List.mem_map.mpr ⟨m, inRest, same.symm⟩)
        rw [List.filter_cons_of_neg (by simpa using differs), ih distinct inRest]

/-- Entering an object by the names of its members finds each of them. -/
theorem fields?_ofMembers {members : List (String × Json)} {names : List String}
    (inOrder : members.map (·.1) = names) (distinct : names.Nodup) (depth : Nat) :
    fields? names (depth + 1) (ofMembers members) =
      some (depth, members.map fun m => some m.2) := by
  subst inOrder
  have namesRead : ∀ m ∈ members,
      (textOfBody? ((bytesOf m.1).flatMap escapeByte)).map (·, m.2) = some (id m) := by
    intro m _
    rw [textOfBody?_escaped]
    rfl
  simp only [ofMembers, fields?, List.mapM_map, Function.comp_def]
  rw [mapM_eq_some_map namesRead, List.map_id, Option.bind_eq_bind, Option.bind_some,
    mapM_eq_some_map (g := fun m => some m.2)]
  · rfl
  · intro m member
    simp only [filter_name_eq distinct member]

end EntityStore.Json
