import EntityStore.Proofs.Query.Execution
import Mathlib.Algebra.Ring.Nat
import Mathlib.Data.List.Perm.Subperm

/-!
# Windows of merged results

To fill a window, a query with several sets fetches only so much of every set as the window could
need.  The first results of a merge are among the first results of the parts, however often a
record occurs in them, so the window shows the same segment as if everything had been fetched.  A
window and a count then agree with all results of the query.
-/

namespace EntityStore

section

variable {α : Type} {l m : List α}

/-- What is among the first items of a list is among the first of every sublist that holds it. -/
theorem mem_take_of_sublist {n : Nat} {a : α} (sub : l.Sublist m) (nodup : m.Nodup)
    (first : a ∈ m.take n) (member : a ∈ l) : a ∈ l.take n := by
  induction sub generalizing n with
  | slnil => exact first
  | cons b sub ih =>
      obtain ⟨fresh, nodup⟩ := List.nodup_cons.mp nodup
      cases n with
      | zero => simp at first
      | succ n =>
          rcases List.mem_cons.mp first with rfl | first
          · exact absurd (sub.subset member) fresh
          · exact List.take_subset_take_left _ (Nat.le_succ n) (ih nodup first member)
  | cons_cons b sub ih =>
      obtain ⟨fresh, nodup⟩ := List.nodup_cons.mp nodup
      cases n with
      | zero => simp at first
      | succ n =>
          rcases List.mem_cons.mp first with rfl | first
          · exact List.mem_cons_self
          · rcases List.mem_cons.mp member with rfl | member
            · exact List.mem_cons_self
            · exact List.mem_cons_of_mem b (ih nodup first member)

/-- A sublist that holds the first items of a list has the same first items. -/
theorem take_eq_take_of_sublist {n : Nat} (sub : l.Sublist m) (nodup : m.Nodup)
    (covers : m.take n ⊆ l) : l.take n = m.take n := by
  induction sub generalizing n with
  | slnil => rfl
  | cons b sub ih =>
      obtain ⟨fresh, nodup⟩ := List.nodup_cons.mp nodup
      cases n with
      | zero => rfl
      | succ n => exact absurd (sub.subset (covers List.mem_cons_self)) fresh
  | cons_cons b sub ih =>
      obtain ⟨fresh, nodup⟩ := List.nodup_cons.mp nodup
      cases n with
      | zero => rfl
      | succ n =>
          rw [List.take_succ_cons, List.take_succ_cons, ih nodup]
          intro a first
          rcases List.mem_cons.mp (covers (List.mem_cons_of_mem b first)) with rfl | member
          · exact absurd (List.mem_of_mem_take first) fresh
          · exact member

end

variable {orders : List SortOrder}

/-- Strictly ascending records of a listing are a sublist of it. -/
theorem Listing.sublist {wanted : Entity → Prop} {es l : List Entity}
    (listing : Listing orders wanted es) (strict : l.Pairwise fun a b => a.order b orders = .lt)
    (drawn : l ⊆ es) : l.Sublist es := by
  classical
  have filtered : Listing orders (fun e => e ∈ l) (es.filter fun e => e ∈ l) := by
    apply (listing.filter fun e => e ∈ l).congr
    intro e
    rw [← listing.mem_iff, decide_eq_true_eq]
    exact ⟨And.right, fun member => ⟨drawn member, member⟩⟩
  have same : es.filter (fun e => e ∈ l) = l := filtered.unique ⟨strict, fun e => Iff.rfl⟩
  rw [← same]
  exact List.filter_sublist

/-- Cutting strictly ascending lists does not change the first records of their merge. -/
theorem Merge.take_merge_take {lists : List (List Entity)} {pool : List Entity}
    (distinct : Entity.DistinctKeys pool) (drawn : ∀ l ∈ lists, l ⊆ pool)
    (strict : ∀ l ∈ lists, l.Pairwise fun a b => a.order b orders = .lt) (n : Nat) :
    (merge orders (lists.map (List.take n))).take n = (merge orders lists).take n := by
  have ascend : ∀ l ∈ lists, Entity.Ascends orders l := by
    intro l listed
    exact (strict l listed).imp Entity.isLE_of_order_lt
  have whole := listing_merge distinct drawn ascend
  have cut : Listing orders (fun e => ∃ l ∈ lists.map (List.take n), e ∈ l)
      (merge orders (lists.map (List.take n))) := by
    apply listing_merge distinct
    · intro l listed
      obtain ⟨whole, ofLists, rfl⟩ := List.mem_map.mp listed
      exact fun e member => drawn whole ofLists (List.mem_of_mem_take member)
    · intro l listed
      obtain ⟨whole, ofLists, rfl⟩ := List.mem_map.mp listed
      exact (ascend whole ofLists).sublist (List.take_sublist n whole)
  have fromWhole : merge orders (lists.map (List.take n)) ⊆ merge orders lists := by
    intro e member
    obtain ⟨_, listed, member⟩ := (cut.mem_iff e).mp member
    obtain ⟨l, ofLists, rfl⟩ := List.mem_map.mp listed
    exact (whole.mem_iff e).mpr ⟨l, ofLists, List.mem_of_mem_take member⟩
  apply take_eq_take_of_sublist (whole.sublist cut.ascending fromWhole) whole.nodup
  intro e first
  obtain ⟨l, listed, member⟩ := (whole.mem_iff e).mp (List.mem_of_mem_take first)
  have part : l.Sublist (merge orders lists) :=
    whole.sublist (strict l listed) fun x xMem => (whole.mem_iff x).mpr ⟨l, listed, xMem⟩
  exact (cut.mem_iff e).mpr ⟨l.take n, List.mem_map_of_mem listed,
    mem_take_of_sublist part whole.nodup first member⟩

namespace Execution

theorem toNat_saturatingSum (limit offset : UInt64) :
    (saturatingSum limit offset).toNat = min (limit.toNat + offset.toNat) (2 ^ 64 - 1) := by
  unfold saturatingSum UInt64.size
  split
  · rename_i fits
    rw [UInt64.toNat_add, Nat.mod_eq_of_lt fits]
    omega
  · rename_i overflows
    change 2 ^ 64 - 1 = _
    omega

/-- Whether fetching up to the sum of limit and offset loses nothing of a window: either the sum
does not saturate, or there are fewer results than it could skip. -/
def Fits (window : Window) (count : Nat) : Prop :=
  ∀ limit, window.limit = some limit →
    limit.toNat + window.offset.toNat < 2 ^ 64 ∨ count < 2 ^ 64

/-- No set selects more than all results of its query. -/
theorem length_le_of_mem_selections {q : Query} {s : Store} {l : List Entity}
    (selected : l ∈ q.selections s) : l.length ≤ (q.results s).length := by
  have listing := q.listing_results s
  apply List.Sublist.length_le
  apply listing.sublist (Query.selections_spec selected).1
  intro e member
  exact (listing.mem_iff e).mpr ((q.matches_iff s e).mpr ⟨l, selected, member⟩)

/-- No query has more results than there are records. -/
theorem length_results_le (q : Query) (s : Store) : (q.results s).length ≤ s.size := by
  have listing := q.listing_results s
  have stored : q.results s ⊆ s.entities := fun e result => ((listing.mem_iff e).mp result).1
  rw [← s.length_entities]
  exact (listing.nodup.subperm stored).length_le

/-- Fetching every set up to the covering limit is enough to show a window of the merge. -/
theorem segment_merge_parts (q : Query) {s : Store} {window : Window}
    (fits : Fits window (q.results s).length) :
    window.segment (Merge.merge q.orders (parts q window s)) = window.segment (q.results s) := by
  unfold parts
  obtain ⟨limit, offset⟩ := window
  cases limit with
  | none =>
      have unlimited : coveringLimit ⟨none, offset⟩ = none := rfl
      rw [unlimited, Window.segment_unlimited, List.map_id]
      rfl
  | some limit =>
      have covering : coveringLimit ⟨some limit, offset⟩ = some (saturatingSum limit offset) := rfl
      rw [covering, Window.segment_of_limit, toNat_saturatingSum]
      simp only [Window.segment]
      by_cases exact : limit.toNat + offset.toNat < 2 ^ 64
      · rw [Nat.min_eq_left (by omega), List.take_drop, List.take_drop, Nat.add_comm offset.toNat]
        congr 1
        exact Merge.take_merge_take s.distinctKeys_entities
          (fun l selected => (Query.selections_spec selected).2)
          (fun l selected => (Query.selections_spec selected).1) _
      · have few : (q.results s).length < 2 ^ 64 := (fits limit rfl).resolve_left exact
        rw [Nat.min_eq_right (by omega)]
        have uncut : (q.selections s).map (List.take (2 ^ 64 - 1)) = q.selections s := by
          refine (List.map_congr_left fun l selected => ?_).trans (List.map_id _)
          have bound := length_le_of_mem_selections selected
          exact List.take_of_length_le (by omega)
        rw [uncut]
        rfl

variable (retries : Nat) (registry : Registry) (moment : Action Store Moment)
  (configuration : Configuration)

/-- A window of a query that can resume shows a segment of its results. -/
theorem runOn_fetchEntities_of_fits {q : Query} (wholeRecords : q.keysOnly = false)
    (resumable : q.Resumable) {s : Store} {window : Window}
    (fits : Fits window (q.results s).length) :
    ∃ q', (fetchEntities (Store.client retries registry moment configuration) window).runOn (q, s) =
      (.ok (window.segment (q.results s)), (q', s)) := by
  rcases resumable.cases with ⟨set, oneSet, _⟩ | ⟨multiple, noCursor⟩
  · rw [Query.results_of_single oneSet]
    exact runOn_fetchEntities_of_single retries registry moment configuration wholeRecords oneSet
      window s
  · rw [← segment_merge_parts q fits]
    exact runOn_fetchEntities_of_multiple retries registry moment configuration wholeRecords
      multiple noCursor window s

/-- Every window fits a store that is small enough. -/
theorem runOn_fetchEntities {q : Query} (wholeRecords : q.keysOnly = false)
    (resumable : q.Resumable) {s : Store} (small : s.size < 2 ^ 64) (window : Window) :
    ∃ q', (fetchEntities (Store.client retries registry moment configuration) window).runOn (q, s) =
      (.ok (window.segment (q.results s)), (q', s)) :=
  runOn_fetchEntities_of_fits retries registry moment configuration wholeRecords resumable
    fun _ _ => .inr (Nat.lt_of_le_of_lt (length_results_le q s) small)

/-- A count is the length of the results, up to the limit. -/
theorem runOn_count_of_resumable {q : Query} (wholeRecords : q.keysOnly = false)
    (resumable : q.Resumable) {s : Store} (small : s.size < 2 ^ 64) (limit : Option UInt64) :
    ∃ q', (count (Store.client retries registry moment configuration) limit).runOn (q, s) =
      (.ok (Window.segment ⟨limit, 0⟩ (q.results s)).length, (q', s)) := by
  rcases resumable.cases with ⟨set, oneSet, single⟩ | ⟨multiple, noCursor⟩
  · refine ⟨q.forgetExecution, ?_⟩
    rw [Query.results_of_single oneSet]
    cases limit <;>
      simp [count, Action.runOn_bind, single, Store.count, PrimitiveQuery.count, Window.segment,
        Nat.min_comm, Except.map]
  · obtain ⟨q', fetched⟩ := runOn_fetchEntities retries registry moment configuration wholeRecords
      resumable small ⟨limit, 0⟩
    refine ⟨q'.forgetExecution, ?_⟩
    simp [count, Action.runOn_bind, multiple, fetched, Except.map]

theorem runOn_count_of_cursor {q : Query} {ps : List PrimitiveQuery} {orders : List SortOrder}
    (multiple : q.compile = .multiple ps orders) (resumes : q.cursor.isSome)
    (limit : Option UInt64) (s : Store) :
    (count (Store.client retries registry moment configuration) limit).runOn (q, s) =
      (.error (.failure .cursorOnDisjunction), (q, s)) := by
  have failed := runOn_fetchEntities_of_cursor retries registry moment configuration multiple
    resumes ⟨limit, 0⟩ s
  simp [count, Action.runOn_bind, multiple, failed]

/-- Fetching hands out the records of the window. -/
theorem runOn_fetch {q : Query} {limit offset : UInt64} (positive : limit ≠ 0) (s : Store) :
    ((fetch (Store.client retries registry moment configuration) asEntity limit offset).runOn
        (q, s)).1 =
      ((fetchEntities (Store.client retries registry moment configuration)
        ⟨some limit, offset⟩).runOn (q, s)).1 := by
  have asItIs : ∀ schema e, (asEntity : Conversion Store Entity) schema e = pure (id e) :=
    fun _ _ => rfl
  rw [runOn_fetch_of_pure retries registry moment configuration asItIs positive, List.map_id_fun]
  rcases ((fetchEntities _ _).runOn (q, s)).1 with e | es <;> rfl

/-- Running a query, fetching any window of it and counting it agree: all of them answer from the
same records, or all of them fail because the query resumes and has several sets. -/
theorem windows_of_run {q : Query} (wholeRecords : q.keysOnly = false) {s : Store}
    (small : s.size < 2 ^ 64) :
    let c := Store.client retries registry moment configuration
    (∃ es, ((run c).runOn (q, s)).1 = .ok es ∧
        (∀ limit offset, ((fetch c asEntity limit offset).runOn (q, s)).1 =
          .ok ((es.drop offset.toNat).take limit.toNat)) ∧
        (∀ limit, ((count c (some limit)).runOn (q, s)).1 = .ok (min limit.toNat es.length)) ∧
        ((count c none).runOn (q, s)).1 = .ok es.length) ∨
      (q.compile.isMultiple ∧ q.cursor.isSome ∧
        ((run c).runOn (q, s)).1 = .error (.failure .cursorOnDisjunction) ∧
        (∀ limit offset, 1 ≤ limit → ((fetch c asEntity limit offset).runOn (q, s)).1 =
          .error (.failure .cursorOnDisjunction)) ∧
        ∀ limit, ((count c limit).runOn (q, s)).1 = .error (.failure .cursorOnDisjunction)) := by
  intro c
  by_cases resumable : q.Resumable
  · left
    refine ⟨q.results s, ?_, ?_, ?_, ?_⟩
    · obtain ⟨q', ran⟩ := runOn_run retries registry moment configuration wholeRecords resumable s
      rw [ran]
    · intro limit offset
      by_cases nothing : limit = 0
      · subst nothing
        rfl
      · obtain ⟨q', fetched⟩ := runOn_fetchEntities retries registry moment configuration
          wholeRecords resumable small ⟨some limit, offset⟩
        rw [runOn_fetch retries registry moment configuration nothing, fetched]
        rfl
    · intro limit
      obtain ⟨q', counted⟩ := runOn_count_of_resumable retries registry moment configuration
        wholeRecords resumable small (some limit)
      rw [counted, Window.segment_of_limit, List.length_take]
    · obtain ⟨q', counted⟩ := runOn_count_of_resumable retries registry moment configuration
        wholeRecords resumable small none
      rw [counted, Window.segment_unlimited]
      rfl
  · right
    obtain ⟨resumes, severalSets⟩ := not_or.mp resumable
    have hasCursor : q.cursor.isSome := Option.isSome_iff_ne_none.mpr resumes
    rcases q.compile_cases with ⟨set, oneSet, _⟩ | multiple
    · exact absurd ⟨set, oneSet⟩ severalSets
    · refine ⟨?_, hasCursor, ?_, ?_, ?_⟩
      · rw [multiple]
        rfl
      · rw [run, runOn_fetchEntities_of_cursor retries registry moment configuration multiple
          hasCursor]
      · intro limit offset positive
        have nonzero : limit ≠ 0 := by
          rintro rfl
          contradiction
        rw [runOn_fetch retries registry moment configuration nonzero,
          runOn_fetchEntities_of_cursor retries registry moment configuration multiple hasCursor]
      · intro limit
        rw [runOn_count_of_cursor retries registry moment configuration multiple hasCursor]

/-- A key with a number and no parent. -/
def numbered (id : Int64) : Key :=
  ⟨[⟨"A", some (.number id)⟩]⟩

/-- A query whose two sets overlap. -/
def overlapping : Query where
  schema := none
  sets := [[⟨Key.propertyName, .greaterThan, .key (numbered 1)⟩],
    [⟨Key.propertyName, .greaterOrEqual, .key (numbered 1)⟩]]

/-- A store with two records. -/
def twoRecords : Store :=
  (({} : Store).write (numbered 1) (some { key := numbered 1 })).write (numbered 2)
    (some { key := numbered 2 })

theorem windows_of_overlapping :
    ∃ es, ((run Store.plainClient).runOn (overlapping, twoRecords)).1 = .ok es ∧
      ((fetch Store.plainClient asEntity 1 1).runOn (overlapping, twoRecords)).1 =
        .ok ((es.drop 1).take 1) ∧
      ((count Store.plainClient (some 1)).runOn (overlapping, twoRecords)).1 =
        .ok (min 1 es.length) ∧
      ((count Store.plainClient none).runOn (overlapping, twoRecords)).1 = .ok es.length := by
  have small : twoRecords.size < 2 ^ 64 := by decide
  rcases windows_of_run 3 {} (pure { now := ⟨.epoch, .midnight⟩ }) {} (q := overlapping) rfl small
    with ⟨es, ran, fetched, limited, counted⟩ | ⟨_, resumes, _⟩
  · exact ⟨es, ran, fetched 1 1, limited 1, counted⟩
  · contradiction

end Execution

end EntityStore
