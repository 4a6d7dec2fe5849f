import EntityStore.Proofs.Value.Document

/-!
# Limits of what is read

Decoding enters every array and every object of a document that was written for a value, one level
at a time.  So when it answers at all, the document is nested no deeper than it may be, and every
float of the value has digits: the nulls that stand for not-a-numbers and infinities are refused.
-/

namespace EntityStore

variable {depth : Nat}

namespace Json

theorem isSome_of_mapM {α β : Type} {f : α → Option β} {items : List α}
    (all : (items.mapM f).isSome) : ∀ a ∈ items, (f a).isSome := by
  induction items with
  | nil => exact List.forall_mem_nil _
  | cons a items ih =>
      rw [List.mapM_cons] at all
      cases first : f a with
      | none => simp [first] at all
      | some b =>
          cases rest : items.mapM f with
          | none => simp [first, rest] at all
          | some bs =>
              rw [List.forall_mem_cons, first]
              exact ⟨rfl, ih (by rw [rest]; rfl)⟩

/-- An array is entered on a level of its own, and all its items are decoded. -/
theorem exists_of_items? {α : Type} {decode : Nat → Json → Option α} {items : List Json}
    (entered : (items? decode depth (.array items)).isSome) :
    ∃ inner, depth = inner + 1 ∧ ∀ item ∈ items, (decode inner item).isSome := by
  cases depth with
  | zero => cases entered
  | succ inner => exact ⟨inner, rfl, isSome_of_mapM entered⟩

/-- A part that is there is decoded. -/
theorem isSome_of_optional? {α β : Type} {decode : Json → Option β} {encode : α → Json}
    {part : Option α} (notNull : ∀ a, encode a ≠ .null)
    (read : (optional? decode (some ((part.map encode).getD .null))).isSome) :
    ∀ a ∈ part, (decode (encode a)).isSome := by
  rintro a ⟨⟩
  rw [Option.map_some, Option.getD_some, optional?, Option.isSome_map] at read
  · exact read
  · exact notNull a

theorem nesting_getD_null_le {α : Type} {encode : α → Json} {part : Option α} {limit : Nat}
    (shallow : ∀ a ∈ part, (encode a).nesting ≤ limit) :
    ((part.map encode).getD .null).nesting ≤ limit := by
  cases part with
  | none => exact Nat.zero_le limit
  | some a => exact shallow a rfl

end Json

/-! ## Keys -/

theorem Identifier.nesting_le_of_ofJson? {id : Identifier}
    (read : (ofJson? depth id.toJson).isSome) : id.toJson.nesting ≤ depth := by
  rw [nesting_toJson]
  cases depth with
  | zero => cases id <;> cases read
  | succ inner => exact Nat.le_add_left 1 inner

theorem PathElement.nesting_le_of_ofJson? {e : PathElement}
    (read : (ofJson? depth e.toJson).isSome) : e.toJson.nesting ≤ depth := by
  cases depth with
  | zero => cases read
  | succ inner =>
      have entered : Json.fields? ["kind", "id"] (inner + 1) e.toJson =
          some (inner, [some (Json.ofString e.kind),
            some ((e.id.map Identifier.toJson).getD .null)]) :=
        Json.fields?_ofMembers rfl (by simp) inner
      have idRead : (Json.optional? (Identifier.ofJson? inner)
          (some ((e.id.map Identifier.toJson).getD .null))).isSome := by
        rw [ofJson?, entered] at read
        simp only [Json.string?_ofString, Option.bind_eq_bind, Option.bind_some] at read
        exact Option.isSome_of_isSome_bind read
      refine Json.nesting_ofMembers_le_iff.mpr ⟨inner, rfl, ?_⟩
      simp only [List.forall_mem_cons]
      refine ⟨Nat.zero_le inner, Json.nesting_getD_null_le fun id there => ?_,
        List.forall_mem_nil _⟩
      exact Identifier.nesting_le_of_ofJson?
        (Json.isSome_of_optional? Identifier.toJson_ne_null idRead id there)

theorem Key.nesting_le_of_ofJson? {k : Key} (read : (ofJson? depth k.toJson).isSome) :
    k.toJson.nesting ≤ depth := by
  cases depth with
  | zero => cases read
  | succ inner =>
      have entered : Json.fields? ["path"] (inner + 1) k.toJson =
          some (inner, [some k.pathToJson]) :=
        Json.fields?_ofMembers rfl (by simp) inner
      rw [ofJson?, entered] at read
      have pathRead : (pathOfJson? inner k.pathToJson).isSome := by simpa using read
      obtain ⟨inmost, rfl, elementsRead⟩ := Json.exists_of_items? pathRead
      refine Json.nesting_ofMembers_le_iff.mpr ⟨inmost + 1, rfl, List.forall_mem_singleton.mpr ?_⟩
      refine Json.nesting_array_le_iff.mpr ⟨inmost, rfl, fun item listed => ?_⟩
      have itemRead := elementsRead item listed
      obtain ⟨e, _, rfl⟩ := List.mem_map.mp listed
      exact PathElement.nesting_le_of_ofJson? itemRead

/-! ## Records without depth -/

theorem User.nesting_le_of_ofJson? {u : User} (read : (ofJson? depth u.toJson).isSome) :
    u.toJson.nesting ≤ depth := by
  cases depth with
  | zero => cases read
  | succ inner =>
      refine Json.nesting_ofMembers_le_iff.mpr ⟨inner, rfl, ?_⟩
      simp only [List.forall_mem_cons]
      exact ⟨Nat.zero_le inner, Nat.zero_le inner,
        Json.nesting_getD_null_le fun _ _ => Nat.zero_le inner, List.forall_mem_nil _⟩

theorem Handle.nesting_le_of_ofJson? {h : Handle} (read : (ofJson? depth h.toJson).isSome) :
    h.toJson.nesting ≤ depth := by
  cases depth with
  | zero => cases read
  | succ inner =>
      refine Json.nesting_ofMembers_le_iff.mpr ⟨inner, rfl, ?_⟩
      simp only [List.forall_mem_cons]
      exact ⟨Nat.zero_le inner, Nat.zero_le inner, List.forall_mem_nil _⟩

/-! ## Floats -/

/-- Whether a double is a number and has digits. -/
def Binary64.IsFinite (x : Binary64) : Prop :=
  x.isNaN = false ∧ x.isInfinite = false

instance (x : Binary64) : Decidable x.IsFinite :=
  inferInstanceAs (Decidable (_ ∧ _))

/-- Only numbers are read as floats. -/
theorem Binary64.isFinite_of_binary64? {x : Binary64} (read : x.toJson.binary64?.isSome) :
    x.IsFinite := by
  unfold toJson at read
  split at read
  · cases read
  · rename_i finite
    simpa [IsFinite] using finite

theorem GeoPoint.isFinite_of_ofJson? {p : GeoPoint} (read : (ofJson? depth p.toJson).isSome) :
    p.toJson.nesting ≤ depth ∧ ∀ x ∈ p.coordinates, x.IsFinite := by
  cases depth with
  | zero => cases read
  | succ inner =>
      have entered : Json.fields? ["lat", "lon"] (inner + 1) p.toJson =
          some (inner, [some p.latitude.toJson, some p.longitude.toJson]) :=
        Json.fields?_ofMembers rfl (by simp) inner
      rw [ofJson?, entered] at read
      constructor
      · refine Json.nesting_ofMembers_le_iff.mpr ⟨inner, rfl, ?_⟩
        simp [Binary64.nesting_toJson]
      · cases latitudeRead : p.latitude.toJson.binary64? with
        | none => simp [latitudeRead] at read
        | some latitude =>
            cases longitudeRead : p.longitude.toJson.binary64? with
            | none => simp [latitudeRead, longitudeRead] at read
            | some longitude =>
                simp only [coordinates, List.forall_mem_cons]
                exact ⟨Binary64.isFinite_of_binary64? (by rw [latitudeRead]; rfl),
                  Binary64.isFinite_of_binary64? (by rw [longitudeRead]; rfl),
                  List.forall_mem_nil _⟩

/-! ## Values -/

namespace Value

theorem type_ne_list {v : Value} (notList : ∀ items, v ≠ .list items) : v.type ≠ .list := by
  intro same
  cases v with
  | list items => exact notList items rfl
  | _ => cases same

theorem exists_of_ofJson?_tag {type : ValueType} (notList : type ≠ .list) {contents : Json}
    (read : (ofJson? depth (toJson.tag type.name contents)).isSome) :
    ∃ inner, depth = inner + 1 ∧ (ofContents? type inner contents).isSome := by
  cases depth with
  | zero => cases read
  | succ inner => exact ⟨inner, rfl, ofJson?_tag notList inner contents ▸ read⟩

theorem nesting_bytesToJson_le {bytes : List UInt8}
    (read : (Json.items? (fun _ => Json.byte?) depth (bytesToJson bytes)).isSome) :
    (bytesToJson bytes).nesting ≤ depth := by
  obtain ⟨inner, rfl, _⟩ := Json.exists_of_items? read
  refine Json.nesting_array_le_iff.mpr ⟨inner, rfl, fun item listed => ?_⟩
  obtain ⟨b, _, rfl⟩ := List.mem_map.mp listed
  exact Nat.zero_le inner

theorem limits_of_ofJson?_scalar {v : Value} (notList : ∀ items, v ≠ .list items)
    (read : (ofJson? depth v.toJson).isSome) :
    v.toJson.nesting ≤ depth ∧ ∀ x ∈ v.ownFloats, x.IsFinite := by
  have bounded : ∀ {contents : Json}, v.toJson = toJson.tag v.type.name contents →
      (∀ inner, (ofContents? v.type inner contents).isSome →
        contents.nesting ≤ inner ∧ ∀ x ∈ v.ownFloats, x.IsFinite) →
      v.toJson.nesting ≤ depth ∧ ∀ x ∈ v.ownFloats, x.IsFinite := by
    intro contents tagged limits
    rw [tagged] at read ⊢
    obtain ⟨inner, rfl, contentsRead⟩ := exists_of_ofJson?_tag (type_ne_list notList) read
    obtain ⟨shallow, finite⟩ := limits inner contentsRead
    exact ⟨Json.nesting_ofMembers_le_iff.mpr
      ⟨inner, rfl, List.forall_mem_singleton.mpr shallow⟩, finite⟩
  cases v with
  | null => exact ⟨Nat.zero_le depth, List.forall_mem_nil _⟩
  | list items => exact absurd rfl (notList items)
  | float x =>
      refine bounded rfl fun inner contentsRead => ?_
      rw [type, ofContents?, Option.isSome_map] at contentsRead
      rw [Binary64.nesting_toJson]
      exact ⟨Nat.zero_le inner,
        List.forall_mem_singleton.mpr (Binary64.isFinite_of_binary64? contentsRead)⟩
  | geoPoint p =>
      refine bounded rfl fun inner contentsRead => ?_
      rw [type, ofContents?, Option.isSome_map] at contentsRead
      exact GeoPoint.isFinite_of_ofJson? contentsRead
  | byteString b | blob b =>
      refine bounded rfl fun inner contentsRead => ?_
      rw [type, ofContents?, Option.isSome_map] at contentsRead
      exact ⟨nesting_bytesToJson_le contentsRead, List.forall_mem_nil _⟩
  | key k =>
      refine bounded rfl fun inner contentsRead => ?_
      rw [type, ofContents?, Option.isSome_map] at contentsRead
      exact ⟨Key.nesting_le_of_ofJson? contentsRead, List.forall_mem_nil _⟩
  | user u =>
      refine bounded rfl fun inner contentsRead => ?_
      rw [type, ofContents?, Option.isSome_map] at contentsRead
      exact ⟨User.nesting_le_of_ofJson? contentsRead, List.forall_mem_nil _⟩
  | handle h =>
      refine bounded rfl fun inner contentsRead => ?_
      rw [type, ofContents?, Option.isSome_map] at contentsRead
      exact ⟨Handle.nesting_le_of_ofJson? contentsRead, List.forall_mem_nil _⟩
  | _ => exact bounded rfl fun inner _ => ⟨Nat.zero_le inner, List.forall_mem_nil _⟩

/-- A document is read as a value only if it is nested no deeper than it may be and all floats of
the value it was written for are numbers. -/
theorem limits_of_ofJson? {v : Value} (read : (ofJson? depth v.toJson).isSome) :
    v.toJson.nesting ≤ depth ∧ ∀ x ∈ v.floats, x.IsFinite := by
  induction v using induction_on_items generalizing depth with
  | scalar v notList =>
      rw [floats_of_scalar notList]
      exact limits_of_ofJson?_scalar notList read
  | list items itemsLimits =>
      rw [forall_mem_floats_list]
      rw [toJson, itemsToJson_eq_map] at read ⊢
      obtain ⟨inmost, rfl⟩ : ∃ inmost, depth = inmost + 2 := by
        rcases depth with _ | _ | inmost
        · cases read
        · cases read
        · exact ⟨inmost, rfl⟩
      have allRead : ((items.map toJson).mapM (ofJson? inmost)).isSome := by
        have entered := congrArg Option.isSome (ofJson?_listTag inmost (items.map toJson))
        rw [Option.isSome_map] at entered
        exact entered ▸ read
      have limits : ∀ item ∈ items,
          item.toJson.nesting ≤ inmost ∧ ∀ x ∈ item.floats, x.IsFinite := by
        intro item member
        have itemRead := Json.isSome_of_mapM allRead item.toJson (List.mem_map_of_mem member)
        exact itemsLimits item member itemRead
      refine ⟨?_, fun item member => (limits item member).2⟩
      refine Json.nesting_ofMembers_le_iff.mpr
        ⟨inmost + 1, rfl, List.forall_mem_singleton.mpr ?_⟩
      refine Json.nesting_array_le_iff.mpr ⟨inmost, rfl, fun document listed => ?_⟩
      obtain ⟨item, member, rfl⟩ := List.mem_map.mp listed
      exact (limits item member).1

end Value

end EntityStore
