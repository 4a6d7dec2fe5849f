import EntityStore.Proofs.Calendar
import EntityStore.Proofs.Key.Token
import EntityStore.Proofs.Query.FanOut
import EntityStore.Value.Document

/-!
# Values are read back from their documents

The tag of a document names the type, and for every type but two the contents hold all of the
value.  Floats need not be read back: not-a-numbers and infinities have no digits and are written as
nulls, and reading digits rounds more than once.  Times always are, but a leap second within a
minute reads as the second after it.  So if all floats of a value are read back, the value is read
as its document says.  Lists are the only values that contain others, so the induction follows the
scalars of a value.
-/

namespace EntityStore

variable {depth : Nat}

/-! ## Records of texts -/

namespace Json

theorem byte?_ofInt (b : UInt8) : byte? (.number (.ofInt b.toNat)) = some b := by
  have small := b.toNat_lt
  have above : Int64.minValue.toInt ≤ b.toNat :=
    Int.le_trans (by decide) (Int.natCast_nonneg b.toNat)
  have below : (b.toNat : Int) < UInt64.size :=
    Int.lt_of_lt_of_le (Int.ofNat_lt.mpr small) (by decide)
  have inRange : (b.toNat : Int) < 256 := by omega
  simp [byte?, Numeral.byte?, Numeral.int?_ofInt above below, inRange]

end Json

theorem User.ofJson?_toJson {u : User} (shallow : u.toJson.nesting ≤ depth) :
    ofJson? depth u.toJson = some u := by
  obtain ⟨inner, rfl, _⟩ := Json.nesting_ofMembers_le_iff.mp shallow
  have entered : Json.fields? ["email", "auth_domain", "user_id"] (inner + 1) u.toJson =
      some (inner, [some (Json.ofString u.email), some (Json.ofString u.authDomain),
        some ((u.userId.map Json.ofString).getD .null)]) :=
    Json.fields?_ofMembers rfl (by simp) inner
  have idRead : Json.optional? Json.string? (some ((u.userId.map Json.ofString).getD .null)) =
      some u.userId :=
    Json.optional?_getD_null (fun _ => nofun) fun id _ => Json.string?_ofString id
  rw [ofJson?, entered]
  simp [idRead]

theorem User.isWritten_toJson (u : User) : Json.IsWritten u.toJson := by
  have idWritten : Json.IsWritten ((u.userId.map Json.ofString).getD .null) :=
    Json.isWritten_getD_null fun id _ => Json.isWritten_ofString id
  apply Json.isWritten_ofMembers
  simp only [List.forall_mem_cons]
  exact ⟨Json.isWritten_ofString u.email, Json.isWritten_ofString u.authDomain, idWritten, nofun⟩

theorem Handle.ofJson?_toJson {h : Handle} (shallow : h.toJson.nesting ≤ depth) :
    ofJson? depth h.toJson = some h := by
  obtain ⟨inner, rfl, _⟩ := Json.nesting_ofMembers_le_iff.mp shallow
  have entered : Json.fields? ["protocol", "address"] (inner + 1) h.toJson =
      some (inner, [some (Json.ofString h.protocol), some (Json.ofString h.address)]) :=
    Json.fields?_ofMembers rfl (by simp) inner
  rw [ofJson?, entered]
  simp

theorem Handle.isWritten_toJson (h : Handle) : Json.IsWritten h.toJson := by
  apply Json.isWritten_ofMembers
  simp only [List.forall_mem_cons]
  exact ⟨Json.isWritten_ofString h.protocol, Json.isWritten_ofString h.address, nofun⟩

/-! ## Floats -/

namespace Binary64

/-- Whether a float is read back from what is written for it. -/
def ReadsBack (x : Binary64) : Prop :=
  x.toJson.binary64? = some x

instance (x : Binary64) : Decidable x.ReadsBack :=
  inferInstanceAs (Decidable (_ = _))

theorem isWritten_toJson (x : Binary64) : Json.IsWritten x.toJson := by
  unfold toJson
  split
  · exact .null
  · exact .number (Json.Numeral.isWritten_ofBinary64 x)

theorem nesting_toJson (x : Binary64) : x.toJson.nesting = 0 := by
  unfold toJson
  split <;> rfl

end Binary64

namespace GeoPoint

/-- The coordinates of a point. -/
def coordinates (p : GeoPoint) : List Binary64 :=
  [p.latitude, p.longitude]

theorem ofJson?_toJson {p : GeoPoint} (back : ∀ x ∈ p.coordinates, x.ReadsBack)
    (shallow : p.toJson.nesting ≤ depth) : ofJson? depth p.toJson = some p := by
  obtain ⟨inner, rfl, _⟩ := Json.nesting_ofMembers_le_iff.mp shallow
  have entered : Json.fields? ["lat", "lon"] (inner + 1) p.toJson =
      some (inner, [some p.latitude.toJson, some p.longitude.toJson]) :=
    Json.fields?_ofMembers rfl (by simp) inner
  have latitudeRead : p.latitude.ReadsBack := back _ (by simp [coordinates])
  have longitudeRead : p.longitude.ReadsBack := back _ (by simp [coordinates])
  unfold Binary64.ReadsBack at latitudeRead longitudeRead
  rw [ofJson?, entered]
  simp [latitudeRead, longitudeRead]

theorem isWritten_toJson (p : GeoPoint) : Json.IsWritten p.toJson := by
  apply Json.isWritten_ofMembers
  simp only [List.forall_mem_cons]
  exact ⟨p.latitude.isWritten_toJson, p.longitude.isWritten_toJson, nofun⟩

end GeoPoint

/-! ## Types -/

/-- Types go by different names. -/
@[simp]
theorem ValueType.named?_name (type : ValueType) : named? type.name = some type := by
  cases type <;> decide

namespace Value

/-- Whether no float occurs in a value, neither by itself nor as a coordinate. -/
def Floatless (v : Value) : Prop :=
  ∀ s ∈ v.scalars, s.type ≠ .float ∧ s.type ≠ .geoPoint

instance (v : Value) : Decidable v.Floatless :=
  inferInstanceAs (Decidable (∀ s ∈ v.scalars, s.type ≠ .float ∧ s.type ≠ .geoPoint))

/-- What holds of every scalar, and of every list whose items it holds of, holds of every value. -/
theorem induction_on_items {P : Value → Prop} (scalar : ∀ v, (∀ items, v ≠ .list items) → P v)
    (list : ∀ items, (∀ item ∈ items, P item) → P (.list items)) (v : Value) : P v := by
  induction v using scalars.induct (motive_2 := fun items => ∀ item ∈ items, P item) with
  | case1 items inside => exact list items inside
  | case2 v notList => exact scalar v notList
  | case3 item member => contradiction
  | case4 first rest ofFirst ofRest item member =>
      rcases List.mem_cons.mp member with rfl | inRest
      · exact ofFirst
      · exact ofRest item inRest

/-- The float that a scalar is, or its coordinates. -/
def ownFloats : Value → List Binary64
  | .float x => [x]
  | .geoPoint p => p.coordinates
  | _ => []

/-- The floats that occur in a value, by themselves or as coordinates. -/
def floats (v : Value) : List Binary64 :=
  v.scalars.flatMap ownFloats

/-- What the scalars of a list hold is what the scalars of its items hold. -/
theorem forall_mem_flatMap_scalars_list {α : Type} {own : Value → List α} {P : α → Prop}
    {items : List Value} :
    (∀ a ∈ (list items).scalars.flatMap own, P a) ↔
      ∀ item ∈ items, ∀ a ∈ item.scalars.flatMap own, P a := by
  rw [scalars]
  induction items with
  | nil => simp [scalarsOfAll]
  | cons item rest ih =>
      rw [scalarsOfAll, List.flatMap_append, List.forall_mem_append, ih, List.forall_mem_cons]

theorem floats_of_scalar {v : Value} (notList : ∀ items, v ≠ .list items) :
    v.floats = v.ownFloats := by
  rw [floats, scalars.eq_2 v notList, List.flatMap_singleton]

theorem forall_mem_floats_list {P : Binary64 → Prop} {items : List Value} :
    (∀ x ∈ (list items).floats, P x) ↔ ∀ item ∈ items, ∀ x ∈ item.floats, P x :=
  forall_mem_flatMap_scalars_list

theorem floats_of_floatless {v : Value} (floatless : v.Floatless) : v.floats = [] := by
  rw [floats, List.flatMap_eq_nil_iff]
  intro s scalar
  obtain ⟨notFloat, notPoint⟩ := floatless s scalar
  cases s <;> first | rfl | contradiction

/-! ## Times -/

/-- The time of day that a scalar is or holds. -/
def ownTimes : Value → List Time
  | .time t => [t]
  | .dateTime d => [d.time]
  | _ => []

/-- The times of day that occur in a value, by themselves or in timestamps. -/
def times (v : Value) : List Time :=
  v.scalars.flatMap ownTimes

mutual

/-- The value that the document of a value says. -/
def asRead : Value → Value
  | .time t => .time t.asRead
  | .dateTime d => .dateTime d.asRead
  | .list items => .list (itemsAsRead items)
  | v => v

/-- The values that the documents of the items of a list say. -/
def itemsAsRead : List Value → List Value
  | [] => []
  | v :: rest => asRead v :: itemsAsRead rest

end

theorem itemsAsRead_eq_map (items : List Value) : itemsAsRead items = items.map asRead := by
  induction items with
  | nil => rfl
  | cons item rest ih => rw [itemsAsRead, ih, List.map_cons]

theorem asRead_eq_self_iff_of_scalar {v : Value} (notList : ∀ items, v ≠ .list items) :
    v.asRead = v ↔ ∀ t ∈ v.ownTimes, t.IsRegular := by
  cases v with
  | list items => exact absurd rfl (notList items)
  | time t => simp [asRead, ownTimes, Time.asRead_eq_self_iff]
  | dateTime d => simp [asRead, ownTimes, DateTime.asRead_eq_self_iff]
  | _ => simp [asRead, ownTimes]

/-- A document says the value itself if no leap second in it lies within a minute. -/
theorem asRead_eq_self_iff {v : Value} : v.asRead = v ↔ ∀ t ∈ v.times, t.IsRegular := by
  induction v using induction_on_items with
  | scalar v notList =>
      rw [times, scalars.eq_2 v notList, List.flatMap_singleton]
      exact asRead_eq_self_iff_of_scalar notList
  | list items ofItems =>
      have same : items.map asRead = items ↔ ∀ item ∈ items, item.asRead = item := by
        simpa using List.map_inj_left (f := asRead) (g := id)
      rw [times, forall_mem_flatMap_scalars_list, asRead, itemsAsRead_eq_map, Value.list.injEq,
        same]
      exact forall₂_congr ofItems

/-! ## Reading -/

theorem itemsToJson_eq_map (items : List Value) : itemsToJson items = items.map toJson := by
  induction items with
  | nil => rfl
  | cons item rest ih => rw [itemsToJson, ih, List.map_cons]

theorem bytesOfJson?_bytesToJson {bytes : List UInt8}
    (shallow : (bytesToJson bytes).nesting ≤ depth) :
    Json.items? (fun _ => Json.byte?) depth (bytesToJson bytes) = some bytes := by
  obtain ⟨inner, rfl, _⟩ := Json.nesting_array_le_iff.mp shallow
  exact Json.items?_map fun b _ => Json.byte?_ofInt b

/-- A document with a tag other than that of lists is read as its contents are. -/
theorem ofJson?_tag {type : ValueType} (notList : type ≠ .list) (inner : Nat) (contents : Json) :
    ofJson? (inner + 1) (toJson.tag type.name contents) = ofContents? type inner contents := by
  have typeRead : (Json.textOfBody? ((Json.bytesOf type.name).flatMap Json.escapeByte)).bind
      ValueType.named? = some type := by
    simp
  rw [toJson.tag, Json.ofMembers, List.map_cons, List.map_nil, ofJson?.eq_def]
  simp only [typeRead]

theorem ofJson?_listTag (inner : Nat) (items : List Json) :
    ofJson? (inner + 2) (toJson.tag ValueType.list.name (.array items)) =
      (items.mapM (ofJson? inner)).map .list := by
  have typeRead : (Json.textOfBody? ((Json.bytesOf ValueType.list.name).flatMap
      Json.escapeByte)).bind ValueType.named? = some .list := by
    simp
  rw [toJson.tag, Json.ofMembers, List.map_cons, List.map_nil, ofJson?.eq_def]
  simp only [typeRead]

theorem ofJson?_null (depth : Nat) : ofJson? depth (toJson .null) = some .null := by
  have read : (toJson .null).string? = some "Null" := by rw [toJson, Json.string?_ofString]
  cases depth with
  | zero => rw [ofJson?, if_pos read]
  | succ inner =>
      rw [ofJson?, if_pos read]
      nofun

/-- The contents of a value that holds no others are read as they say, if its floats are. -/
theorem ofJson?_toJson_of_scalar {v : Value} (notList : ∀ items, v ≠ .list items)
    (back : ∀ x ∈ v.ownFloats, x.ReadsBack) (shallow : v.toJson.nesting ≤ depth) :
    ofJson? depth v.toJson = some v.asRead := by
  have read : ∀ (type : ValueType) {contents : Json}, type ≠ .list →
      v.toJson = toJson.tag type.name contents →
      (∀ inner, contents.nesting ≤ inner → ofContents? type inner contents = some v.asRead) →
      ofJson? depth v.toJson = some v.asRead := by
    intro type contents otherType tagged back
    rw [tagged] at shallow ⊢
    obtain ⟨inner, rfl, inside⟩ := Json.nesting_ofMembers_le_iff.mp shallow
    rw [ofJson?_tag otherType]
    exact back inner (inside (type.name, contents) List.mem_cons_self)
  cases v with
  | null => exact ofJson?_null depth
  | list items => exact absurd rfl (notList items)
  | float x =>
      have digitsRead : x.toJson.binary64? = some x := back x List.mem_cons_self
      exact read .float nofun rfl fun _ _ => by simp [ofContents?, asRead, digitsRead]
  | geoPoint p =>
      exact read .geoPoint nofun rfl fun _ inside => by
        simp [ofContents?, asRead, GeoPoint.ofJson?_toJson back inside]
  | boolean b => exact read .boolean nofun rfl fun _ _ => rfl
  | integer i =>
      have whole : (Json.number (.ofInt i.toInt)).int64? = some i := Json.Numeral.int64?_ofInt i
      exact read .integer nofun rfl fun _ _ => by simp [ofContents?, asRead, whole]
  | rating i =>
      have whole : (Json.number (.ofInt i.toInt)).int64? = some i := Json.Numeral.int64?_ofInt i
      exact read .rating nofun rfl fun _ _ => by simp [ofContents?, asRead, whole]
  | string s => exact read .string nofun rfl fun _ _ => by simp [ofContents?, asRead]
  | text s => exact read .text nofun rfl fun _ _ => by simp [ofContents?, asRead]
  | category s => exact read .category nofun rfl fun _ _ => by simp [ofContents?, asRead]
  | link s => exact read .link nofun rfl fun _ _ => by simp [ofContents?, asRead]
  | email s => exact read .email nofun rfl fun _ _ => by simp [ofContents?, asRead]
  | phoneNumber s => exact read .phoneNumber nofun rfl fun _ _ => by simp [ofContents?, asRead]
  | postalAddress s =>
      exact read .postalAddress nofun rfl fun _ _ => by simp [ofContents?, asRead]
  | byteString b =>
      exact read .byteString nofun rfl fun _ inside => by
        simp [ofContents?, asRead, bytesOfJson?_bytesToJson inside]
  | blob b =>
      exact read .blob nofun rfl fun _ inside => by
        simp [ofContents?, asRead, bytesOfJson?_bytesToJson inside]
  | dateTime d =>
      exact read .dateTime nofun rfl fun _ _ => by
        simp [ofContents?, asRead, Calendar.dateTime?_text]
  | date d =>
      exact read .date nofun rfl fun _ _ => by simp [ofContents?, asRead, Calendar.date?_text]
  | time t =>
      exact read .time nofun rfl fun _ _ => by simp [ofContents?, asRead, Calendar.time?_text]
  | key k =>
      exact read .key nofun rfl fun _ inside => by
        simp [ofContents?, asRead, Key.ofJson?_toJson inside]
  | user u =>
      exact read .user nofun rfl fun _ inside => by
        simp [ofContents?, asRead, User.ofJson?_toJson inside]
  | handle h =>
      exact read .handle nofun rfl fun _ inside => by
        simp [ofContents?, asRead, Handle.ofJson?_toJson inside]

/-- A value whose floats are read back is read as its document says, wherever that stands. -/
theorem ofJson?_toJson {v : Value} (back : ∀ x ∈ v.floats, x.ReadsBack)
    (shallow : v.toJson.nesting ≤ depth) : ofJson? depth v.toJson = some v.asRead := by
  induction v using induction_on_items generalizing depth with
  | scalar v notList =>
      rw [floats_of_scalar notList] at back
      exact ofJson?_toJson_of_scalar notList back shallow
  | list items itemsRead =>
      rw [forall_mem_floats_list] at back
      rw [toJson, itemsToJson_eq_map] at shallow ⊢
      obtain ⟨inner, rfl, inside⟩ := Json.nesting_ofMembers_le_iff.mp shallow
      obtain ⟨inmost, rfl, itemsShallow⟩ :=
        Json.nesting_array_le_iff.mp (inside ("List", _) List.mem_cons_self)
      have allRead : (items.map toJson).mapM (ofJson? inmost) = some (items.map asRead) :=
        Json.items?_map_eq fun item member => itemsRead item member (back item member)
          (itemsShallow item.toJson (List.mem_map_of_mem member))
      rw [asRead, itemsAsRead_eq_map]
      exact (ofJson?_listTag inmost _).trans (congrArg (Option.map Value.list) allRead)

theorem isWritten_tag (name : String) {contents : Json} (written : Json.IsWritten contents) :
    Json.IsWritten (toJson.tag name contents) :=
  Json.isWritten_ofMembers (List.forall_mem_singleton.mpr written)

theorem isWritten_bytesToJson (bytes : List UInt8) : Json.IsWritten (bytesToJson bytes) := by
  refine .array fun item listed => ?_
  obtain ⟨b, _, rfl⟩ := List.mem_map.mp listed
  exact Json.isWritten_ofInt b.toNat

theorem isWritten_toJson_of_scalar {v : Value} (notList : ∀ items, v ≠ .list items) :
    Json.IsWritten v.toJson := by
  cases v with
  | null => exact Json.isWritten_ofString "Null"
  | list items => exact absurd rfl (notList items)
  | float x => exact isWritten_tag _ x.isWritten_toJson
  | geoPoint p => exact isWritten_tag _ p.isWritten_toJson
  | boolean b => exact isWritten_tag _ (.boolean b)
  | integer i | rating i => exact isWritten_tag _ (Json.isWritten_ofInt i.toInt)
  | byteString b | blob b => exact isWritten_tag _ (isWritten_bytesToJson b)
  | key k => exact isWritten_tag _ k.isWritten_toJson
  | user u => exact isWritten_tag _ u.isWritten_toJson
  | handle h => exact isWritten_tag _ h.isWritten_toJson
  | _ => exact isWritten_tag _ (Json.isWritten_ofString _)

/-- The document of a value can be written and read. -/
theorem isWritten_toJson (v : Value) : Json.IsWritten v.toJson := by
  induction v using induction_on_items with
  | scalar v notList => exact isWritten_toJson_of_scalar notList
  | list items itemsWritten =>
      rw [toJson, itemsToJson_eq_map]
      refine isWritten_tag _ (.array fun document listed => ?_)
      obtain ⟨item, member, rfl⟩ := List.mem_map.mp listed
      exact itemsWritten item member

/-- The document of a value is no null, so a missing value is told from every other. -/
theorem toJson_ne_null (v : Value) : v.toJson ≠ .null := by
  cases v <;> exact nofun

end Value

end EntityStore
