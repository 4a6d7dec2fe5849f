import EntityStore.Proofs.Order.Position
import EntityStore.Proofs.Store.Records
import Mathlib.Algebra.Ring.Nat

/-!
# Resuming at a cursor

A cursor is a place among all positions and not a count of records.  So whatever is written after
a window was shown, the query that resumes at its cursor finds exactly the results that come after
the last record that the window passed.  On an unchanged store this is what the window left over,
and pages put one after the other show every result once.
-/

namespace EntityStore

namespace Cursor

/-- Whether the position of a cursor was taken under as many orders as there are. -/
def Fits (c : Cursor) (orders : List SortOrder) : Prop :=
  ∀ p, c.position = some p → p.Fits orders

theorem fits_start (orders : List SortOrder) : Fits start orders := by
  intro p position
  contradiction

/-- A cursor after a record fits the orders under which it was taken. -/
theorem fits_after (e : Entity) (orders : List SortOrder) : Fits (after e orders) orders := by
  intro p position
  cases position
  exact e.position_fits orders

end Cursor

/-- An item of a list without repetition lies on exactly one side of a place. -/
theorem mem_iff_take_or_drop {α : Type} {l : List α} (nodup : l.Nodup) (n : Nat) (a : α) :
    a ∈ l ↔ (a ∈ l.take n ∧ a ∉ l.drop n) ∨ (a ∉ l.take n ∧ a ∈ l.drop n) := by
  rw [← List.take_append_drop n l] at nodup
  obtain ⟨_, _, apart⟩ := List.nodup_append.mp nodup
  constructor
  · intro member
    rw [← List.take_append_drop n l] at member
    rcases List.mem_append.mp member with before | behind
    · exact .inl ⟨before, fun behind => apart a before a behind rfl⟩
    · exact .inr ⟨fun before => apart a before a behind rfl, behind⟩
  · rintro (⟨before, _⟩ | ⟨_, behind⟩)
    · exact List.mem_of_mem_take before
    · exact List.mem_of_mem_drop behind

/-- The records after one place of a strictly ascending list are those that come after the last
record before it. -/
theorem Listing.mem_drop_iff {orders : List SortOrder} {wanted : Entity → Prop} {es : List Entity}
    (listing : Listing orders wanted es) {n : Nat} {x : Entity}
    (last : (es.take n).getLast? = some x) (e : Entity) :
    e ∈ es.drop n ↔ e ∈ es ∧ x.order e orders = .lt := by
  obtain ⟨before, passed⟩ := List.getLast?_eq_some_iff.mp last
  have ascending := listing.ascending
  rw [← List.take_append_drop n es, passed] at ascending
  obtain ⟨ascends, _, beforeRest⟩ := List.pairwise_append.mp ascending
  obtain ⟨_, _, beforeLast⟩ := List.pairwise_append.mp ascends
  constructor
  · intro rest
    exact ⟨List.mem_of_mem_drop rest, beforeRest x (by simp) e rest⟩
  · rintro ⟨member, later⟩
    rw [← List.take_append_drop n es, passed] at member
    rcases List.mem_append.mp member with member | rest
    · rcases List.mem_append.mp member with earlier | same
      · exact absurd later (Entity.order_asymm (beforeLast e earlier x List.mem_cons_self))
      · rw [List.mem_singleton.mp same, Entity.order_self] at later
        contradiction
    · exact rest

/-- The records after one place of a listing, as a listing of their own. -/
theorem Listing.drop {orders : List SortOrder} {wanted : Entity → Prop} {es : List Entity}
    (listing : Listing orders wanted es) {n : Nat} {x : Entity}
    (last : (es.take n).getLast? = some x) :
    Listing orders (fun e => wanted e ∧ x.order e orders = .lt) (es.drop n) where
  ascending := listing.ascending.sublist (List.drop_sublist n es)
  mem_iff e := by rw [listing.mem_drop_iff last, listing.mem_iff]

namespace PrimitiveQuery

/-- Whether the cursor of a query was taken under the orders of the query. -/
def OwnCursorFits (q : PrimitiveQuery) : Prop :=
  ∀ c, q.cursor = some c → c.Fits q.orders

/-- The results in a store that a window passes, those before its offset included. -/
def passed (q : PrimitiveQuery) (s : Store) (window : Window) : List Entity :=
  (q.select s.entities).take (windowEnd window (q.select s.entities).length)

/-- The query that resumes at the cursor of a window. -/
def resumed (q : PrimitiveQuery) (s : Store) (window : Window) : PrimitiveQuery :=
  { q with cursor := (s.runQuery q window).cursor }

theorem windowEnd_le (window : Window) (count : Nat) : windowEnd window count ≤ count := by
  unfold windowEnd
  cases window.limit with
  | none => exact Nat.le_refl count
  | some limit => exact Nat.min_le_right _ _

theorem windowEnd_of_limit (limit offset : UInt64) (count : Nat) :
    windowEnd ⟨some limit, offset⟩ count = min (offset.toNat + limit.toNat) count := by
  simp only [windowEnd]
  omega

/-- The cursor of a window stands after the last record that it passes, or where the query
begins. -/
theorem runQuery_cursor (q : PrimitiveQuery) (s : Store) (window : Window) :
    (s.runQuery q window).cursor = some (match (q.passed s window).getLast? with
      | some x => .after x q.orders
      | none => q.cursor.getD .start) := by
  have inside := windowEnd_le window (q.select s.entities).length
  simp only [Store.runQuery, run, passed, List.getLast?_take]
  by_cases nothing : windowEnd window (q.select s.entities).length = 0
  · simp only [nothing, Nat.zero_le, Nat.sub_eq_zero_of_le, Nat.lt_irrefl, ↓reduceIte]
    split <;> rfl
  · have found : windowEnd window (q.select s.entities).length - 1 <
        (q.select s.entities).length := by
      omega
    simp [nothing, List.getElem?_eq_getElem found, Nat.pos_of_ne_zero nothing]

/-- After a cursor that stands after a record come the records after it. -/
theorem reaches_after (q : PrimitiveQuery) (x e : Entity) :
    reaches { q with cursor := some (.after x q.orders) } e ↔ x.order e q.orders = .lt :=
  Cursor.precedes_after x e q.orders

/-- What comes after a reached record is reached. -/
theorem reaches_of_order_lt {q : PrimitiveQuery} (own : q.OwnCursorFits) {x e : Entity}
    (reached : q.reaches x) (later : x.order e q.orders = .lt) : q.reaches e := by
  unfold reaches Cursor.precedes at reached ⊢
  cases resumes : q.cursor with
  | none => rfl
  | some c =>
      cases position : c.position with
      | none => simp [position]
      | some p =>
          have fits : p.Fits q.orders := own c resumes p position
          simp only [resumes, position, Option.all_some, beq_iff_eq] at reached ⊢
          have after : e.order x q.orders = .gt := by
            rw [Entity.order_swap, later]
            rfl
          rw [Position.order_eq_orderPadded (Entity.position_fits _ _) fits] at reached ⊢
          rw [Entity.order, Position.order_eq_orderPadded (Entity.position_fits _ _)
            (Entity.position_fits _ _)] at after
          exact Std.TransCmp.gt_trans after reached

theorem resumed_eq (q : PrimitiveQuery) (s : Store) (window : Window) :
    q.resumed s window = match (q.passed s window).getLast? with
      | some x => { q with cursor := some (.after x q.orders) }
      | none => { q with cursor := some (q.cursor.getD .start) } := by
  rw [resumed, runQuery_cursor]
  split <;> rfl

/-- A query that resumes keeps to the orders of its cursor. -/
theorem resumed_ownCursorFits {q : PrimitiveQuery} (own : q.OwnCursorFits) (s : Store)
    (window : Window) : (q.resumed s window).OwnCursorFits := by
  rw [resumed_eq]
  split
  · rename_i x _
    rintro c resumes
    cases resumes
    exact Cursor.fits_after x q.orders
  · rintro c resumes
    cases resumes
    cases begins : q.cursor with
    | none => exact Cursor.fits_start q.orders
    | some c => exact own c begins

/-- Resuming after a window that passed nothing starts where the query started. -/
theorem select_resumed_of_passed_nil {q : PrimitiveQuery} {s : Store} {window : Window}
    (nothing : q.passed s window = []) (records : List Entity) :
    (q.resumed s window).select records = q.select records := by
  rw [resumed_eq, nothing]
  unfold select
  cases begins : q.cursor with
  | none => simp [accepts, reaches, sort, begins, Cursor.precedes, Cursor.start]
  | some c => simp [accepts, reaches, sort, begins]

/-- Resuming after a window selects the accepted records after the last one that it passed. -/
theorem listing_select_resumed {q : PrimitiveQuery} {s : Store} {window : Window} {x : Entity}
    (last : (q.passed s window).getLast? = some x) (s' : Store) :
    Listing q.orders (fun e => e ∈ s'.entities ∧ q.accepts e ∧ x.order e q.orders = .lt)
      ((q.resumed s window).select s'.entities) := by
  have after : q.resumed s window = { q with cursor := some (.after x q.orders) } := by
    rw [resumed_eq, last]
  have selected := (q.resumed s window).listing_select s'.distinctKeys_entities
  rw [after] at selected ⊢
  apply selected.congr
  intro e
  rw [reaches_after]
  rfl

/-- On an unchanged store, resuming selects what the window left over. -/
theorem select_resumed {q : PrimitiveQuery} (own : q.OwnCursorFits) (s : Store) (window : Window) :
    (q.resumed s window).select s.entities =
      (q.select s.entities).drop (windowEnd window (q.select s.entities).length) := by
  have selected := q.listing_select s.distinctKeys_entities
  cases last : (q.passed s window).getLast? with
  | none =>
      rw [List.getLast?_eq_none_iff] at last
      rw [select_resumed_of_passed_nil last]
      rcases List.take_eq_nil_iff.mp last with start | empty
      · rw [start, List.drop_zero]
      · rw [empty, List.drop_nil]
  | some x =>
      apply (listing_select_resumed last s).unique
      apply (selected.drop last).congr
      intro e
      have reachedLast : q.reaches x :=
        ((selected.mem_iff x).mp (List.mem_of_mem_take (List.mem_of_getLast? last))).2.2
      constructor
      · rintro ⟨⟨stored, accepted, _⟩, later⟩
        exact ⟨stored, accepted, later⟩
      · rintro ⟨stored, accepted, later⟩
        exact ⟨⟨stored, accepted, reaches_of_order_lt own reachedLast later⟩, later⟩

/-- A record that two stores share is a result in the first of them if and only if it lies on
exactly one side of the cursor. -/
theorem mem_select_iff_sides {q : PrimitiveQuery} (own : q.OwnCursorFits) {s s' : Store}
    (window : Window) {e : Entity} (stored : e ∈ s.entities) (stored' : e ∈ s'.entities) :
    e ∈ q.select s.entities ↔
      (e ∈ q.passed s window ∧ e ∉ (q.resumed s window).select s'.entities) ∨
        (e ∉ q.passed s window ∧ e ∈ (q.resumed s window).select s'.entities) := by
  have unchanged : e ∈ (q.resumed s window).select s'.entities ↔
      e ∈ (q.resumed s window).select s.entities := by
    simp only [mem_select, stored, stored', true_and]
  rw [unchanged, select_resumed own, passed]
  exact mem_iff_take_or_drop (q.listing_select s.distinctKeys_entities).nodup _ e

/-- All results of a query in a store, as they are handed out. -/
theorem runQuery_unlimited (q : PrimitiveQuery) (s : Store) :
    (s.runQuery q {}).entities = (q.select s.entities).map q.project := by
  rw [Store.runQuery, run_entities, Window.segment_unlimited]
  rfl

/-- The pages of a query: each page resumes where the one before it ended. -/
def pages (q : PrimitiveQuery) (s : Store) : List UInt64 → List (List Entity)
  | [] => []
  | size :: sizes =>
    (s.runQuery q ⟨some size, 0⟩).entities :: (q.resumed s ⟨some size, 0⟩).pages s sizes

/-- Pages that are not empty reach at least as far as there are pages. -/
theorem length_le_sum {sizes : List UInt64} (positive : ∀ size ∈ sizes, 0 < size) :
    sizes.length ≤ (sizes.map UInt64.toNat).sum := by
  induction sizes with
  | nil => exact Nat.le_refl 0
  | cons size sizes ih =>
      have rest := ih fun other member => positive other (List.mem_cons_of_mem size member)
      have first : 0 < size.toNat := positive size List.mem_cons_self
      simp only [List.length_cons, List.map_cons, List.sum_cons]
      omega

/-- Pages put one after the other are the first results, as many as the pages are long. -/
theorem flatten_pages {q : PrimitiveQuery} (own : q.OwnCursorFits) (s : Store)
    (sizes : List UInt64) :
    (q.pages s sizes).flatten =
      (s.runQuery q {}).entities.take (sizes.map UInt64.toNat).sum := by
  induction sizes generalizing q with
  | nil => simp [pages]
  | cons size sizes ih =>
      have rest := ih (resumed_ownCursorFits own s ⟨some size, 0⟩)
      have page : (s.runQuery q ⟨some size, 0⟩).entities =
          ((q.select s.entities).take size.toNat).map q.project := by
        rw [Store.runQuery, run_entities, Window.segment_of_limit]
      have leftOver : (q.select s.entities).drop
          (min ((0 : UInt64).toNat + size.toNat) (q.select s.entities).length) =
            (q.select s.entities).drop size.toNat := by
        simp
      rw [runQuery_unlimited, select_resumed own, windowEnd_of_limit, leftOver] at rest
      rw [pages, List.flatten_cons, rest, runQuery_unlimited, page, List.map_cons, List.sum_cons,
        List.take_add, List.map_take, List.map_drop]
      rfl

/-- Resuming is exact whatever was written in between.  The query that resumes at the cursor of a
window answers the accepted records after the last one that the window passed, and starts again
where it started when the window passed none.  What both stores share is on exactly one side of
the cursor.  On one store the window and the resumed query share out the results, and so do
pages. -/
theorem resumption_exact {q : PrimitiveQuery} (own : q.OwnCursorFits) (s s' : Store)
    (window : Window) :
    ∃ found, (s'.runQuery (q.resumed s window) {}).entities = found.map q.project ∧
      (∀ x, (q.passed s window).getLast? = some x →
        Listing q.orders (fun e => e ∈ s'.entities ∧ q.accepts e ∧ x.order e q.orders = .lt)
          found) ∧
      (q.passed s window = [] →
        (s'.runQuery (q.resumed s window) {}).entities = (s'.runQuery q {}).entities) ∧
      (∀ e, e ∈ s.entities → e ∈ s'.entities →
        (e ∈ q.select s.entities ↔
          (e ∈ q.passed s window ∧ e ∉ found) ∨ (e ∉ q.passed s window ∧ e ∈ found))) ∧
      (∀ limit offset, (s.runQuery (q.resumed s ⟨some limit, offset⟩) {}).entities =
        (s.runQuery q {}).entities.drop (offset.toNat + limit.toNat)) ∧
      ∀ sizes : List UInt64, (∀ size ∈ sizes, 0 < size) →
        (s.runQuery q {}).entities.length ≤ sizes.length →
          (q.pages s sizes).flatten = (s.runQuery q {}).entities := by
  refine ⟨(q.resumed s window).select s'.entities, runQuery_unlimited _ s', ?_, ?_, ?_, ?_, ?_⟩
  · intro x last
    exact listing_select_resumed last s'
  · intro nothing
    rw [runQuery_unlimited, select_resumed_of_passed_nil nothing, runQuery_unlimited]
    rfl
  · intro e stored stored'
    exact mem_select_iff_sides own window stored stored'
  · intro limit offset
    rw [runQuery_unlimited, select_resumed own, windowEnd_of_limit, ← List.drop_eq_drop_min,
      runQuery_unlimited, List.map_drop]
    rfl
  · intro sizes positive enough
    rw [flatten_pages own]
    exact List.take_of_length_le (Nat.le_trans enough (length_le_sum positive))

/-- A record with a name and a rank. -/
def ranked (name : String) (rank : Int64) : Entity where
  key := ⟨[⟨"Song", some (.name name)⟩]⟩
  fields := .ofList [("rank", Value.integer rank)]

/-- The keys of all songs from the best one down, after one that was on the third rank. -/
def afterThird : PrimitiveQuery where
  kind := some "Song"
  orders := [⟨"rank", .descending⟩]
  keysOnly := true
  cursor := some (.after (ranked "c" 3) [⟨"rank", .descending⟩])

/-- A store with two songs. -/
def twoSongs : Store :=
  (({} : Store).write (ranked "a" 1).key (some (ranked "a" 1))).write (ranked "b" 2).key
    (some (ranked "b" 2))

theorem resumption_after_third :
    afterThird.OwnCursorFits ∧
      (twoSongs.runQuery (afterThird.resumed twoSongs ⟨some 1, 0⟩) {}).entities =
        (twoSongs.runQuery afterThird {}).entities.drop 1 := by
  have own : afterThird.OwnCursorFits := by
    rintro c resumes
    cases resumes
    exact Cursor.fits_after _ _
  obtain ⟨_, _, _, _, _, leftOver, _⟩ := resumption_exact own twoSongs {} ⟨some 1, 0⟩
  exact ⟨own, leftOver 1 0⟩

end PrimitiveQuery

end EntityStore
