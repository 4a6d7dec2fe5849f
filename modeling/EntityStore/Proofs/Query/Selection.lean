import EntityStore.Proofs.Order.Entity
import EntityStore.Query.Primitive

/-!
# What a primitive query selects

A listing holds exactly the records with a property, each once and in the order of the results.  A
property has at most one listing.  Among records with different keys, a primitive query selects the
listing of the records that it accepts and reaches, and a window hands out a segment of it.
-/

namespace EntityStore

/-- A list of exactly the records with a property, each once, in the order of the results. -/
structure Listing (orders : List SortOrder) (wanted : Entity → Prop) (es : List Entity) : Prop where
  ascending : es.Pairwise fun a b => a.order b orders = .lt
  mem_iff : ∀ e, e ∈ es ↔ wanted e

namespace Listing

variable {orders : List SortOrder} {wanted : Entity → Prop} {es : List Entity}

theorem nodup (listing : Listing orders wanted es) : es.Nodup := by
  apply listing.ascending.imp
  rintro a b before rfl
  rw [Entity.order_self] at before
  contradiction

/-- A property has one listing at most. -/
theorem unique {es' : List Entity} (listing : Listing orders wanted es)
    (listing' : Listing orders wanted es') : es = es' := by
  have sameMembers : es.Perm es' := by
    rw [List.perm_ext_iff_of_nodup listing.nodup listing'.nodup]
    intro e
    rw [listing.mem_iff, listing'.mem_iff]
  refine List.Perm.eq_of_pairwise ?_ listing.ascending listing'.ascending sameMembers
  intro a b _ _ before after
  exact absurd after (Entity.order_asymm before)

theorem congr {wanted' : Entity → Prop} (listing : Listing orders wanted es)
    (same : ∀ e, wanted e ↔ wanted' e) : Listing orders wanted' es :=
  ⟨listing.ascending, fun e => (listing.mem_iff e).trans (same e)⟩

/-- The records of a listing that pass a test are listed by filtering it. -/
theorem filter (listing : Listing orders wanted es) (test : Entity → Bool) :
    Listing orders (fun e => wanted e ∧ test e) (es.filter test) where
  ascending := listing.ascending.filter test
  mem_iff e := by rw [List.mem_filter, listing.mem_iff]

end Listing

namespace Entity

/-- Whether the records of a list have different keys. -/
def DistinctKeys (es : List Entity) : Prop :=
  es.Pairwise fun a b => a.key ≠ b.key

/-- Whether a list of records never descends. -/
def Ascends (orders : List SortOrder) (es : List Entity) : Prop :=
  es.Pairwise fun a b => (a.order b orders).isLE

theorem DistinctKeys.eq_of_key_eq {es : List Entity} (distinct : DistinctKeys es) {a b : Entity}
    (aMem : a ∈ es) (bMem : b ∈ es) (sameKey : a.key = b.key) : a = b := by
  induction es with
  | nil => contradiction
  | cons x rest ih =>
      obtain ⟨fromHead, distinctRest⟩ := List.pairwise_cons.mp distinct
      rcases List.mem_cons.mp aMem with rfl | aRest
      · rcases List.mem_cons.mp bMem with rfl | bRest
        · rfl
        · exact absurd sameKey (fromHead b bRest)
      · rcases List.mem_cons.mp bMem with rfl | bRest
        · exact absurd sameKey.symm (fromHead a aRest)
        · exact ih distinctRest aRest bRest

/-- Records with different keys that never descend are strictly ascending. -/
theorem Ascends.strict {orders : List SortOrder} {es : List Entity} (ascends : Ascends orders es)
    (distinct : DistinctKeys es) : es.Pairwise fun a b => a.order b orders = .lt := by
  apply ascends.imp₂ _ distinct
  intro a b le keys
  cases place : a.order b orders with
  | lt => rfl
  | eq => exact absurd (key_eq_of_order_eq place) keys
  | gt => simp [place] at le

end Entity

namespace PrimitiveQuery

/-- Accepted records lie below the ancestor. -/
theorem ancestor_of_accepts (q : PrimitiveQuery) {e : Entity} (accepted : q.accepts e) :
    q.ancestor.all (·.isAncestorOf e.key) := by
  simp only [accepts, Bool.and_eq_true] at accepted
  exact accepted.1.1.2

theorem mem_select (q : PrimitiveQuery) (records : List Entity) (e : Entity) :
    e ∈ q.select records ↔ e ∈ records ∧ q.accepts e ∧ q.reaches e := by
  simp [select, sort, List.mem_mergeSort]

theorem ascends_select (q : PrimitiveQuery) (records : List Entity) :
    Entity.Ascends q.orders (q.select records) := by
  have asLE : ∀ a b : Entity, (a.order b q.orders != .gt) = (a.order b q.orders).isLE := by
    intro a b
    cases a.order b q.orders <;> rfl
  simp only [select, sort, asLE]
  apply List.pairwise_mergeSort
  · intro a b c
    exact Entity.isLE_order_trans
  · intro a b
    rw [Entity.order_swap b]
    cases a.order b q.orders <;> rfl

/-- Among records with different keys a query selects the listing of its results. -/
theorem listing_select (q : PrimitiveQuery) {records : List Entity}
    (distinct : Entity.DistinctKeys records) :
    Listing q.orders (fun e => e ∈ records ∧ q.accepts e ∧ q.reaches e) (q.select records) where
  mem_iff := q.mem_select records
  ascending := by
    refine (q.ascends_select records).strict ?_
    rw [Entity.DistinctKeys, select, sort, (List.mergeSort_perm _ _).pairwise_iff Ne.symm]
    exact distinct.filter _

end PrimitiveQuery

/-- The segment of a list that a window shows. -/
def Window.segment {α : Type} (window : Window) (l : List α) : List α :=
  match window.limit with
  | some limit => (l.drop window.offset.toNat).take limit.toNat
  | none => l.drop window.offset.toNat

@[simp]
theorem Window.segment_unlimited {α : Type} : Window.segment {} = (id : List α → List α) := by
  funext l
  simp [segment]

@[simp]
theorem Window.segment_of_limit {α : Type} (limit : UInt64) :
    Window.segment ⟨some limit, 0⟩ = (List.take limit.toNat : List α → List α) := by
  funext l
  simp [segment]

namespace PrimitiveQuery

/-- Cutting a list where a window ends and starting where it begins leaves its segment. -/
theorem drop_take_windowEnd {α : Type} (window : Window) (l : List α) :
    (l.take (windowEnd window l.length)).drop window.offset.toNat = window.segment l := by
  unfold windowEnd Window.segment
  cases window.limit with
  | none => simp
  | some limit =>
      simp only [List.drop_take, List.take_eq_take_iff, List.length_drop]
      omega

theorem run_entities (q : PrimitiveQuery) (records : List Entity) (window : Window) :
    (q.run records window).entities = (window.segment (q.select records)).map q.project := by
  rw [← drop_take_windowEnd]
  rfl

end PrimitiveQuery

end EntityStore
