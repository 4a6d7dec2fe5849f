import EntityStore.Proofs.Query.Selection
import EntityStore.Query.Merge

/-!
# Merging listings

Taking the least first record removes it from one of the lists, and it comes before everything
that is left when the lists ascend.  So interleaving ascending lists ascends and keeps every record.
When one key always stands for one record, the merge of several lists is the listing of the records
that are in any of them.
-/

namespace EntityStore.Merge

open EntityStore.Entity (Ascends DistinctKeys)

variable {orders : List SortOrder}

/-- The record that is taken is the first of one of the lists, and only leaves that list. -/
theorem exists_split_of_takeLeast {lists rest : List (List Entity)} {e : Entity}
    (taken : takeLeast orders lists = some (e, rest)) :
    ∃ before tail after, lists = before ++ (e :: tail) :: after ∧
      rest = before ++ tail :: after := by
  induction lists generalizing e rest with
  | nil => simp [takeLeast] at taken
  | cons list lists ih =>
      cases list with
      | nil =>
          simp only [takeLeast, Option.map_eq_some_iff] at taken
          obtain ⟨⟨e', rest'⟩, fromRest, same⟩ := taken
          cases same
          obtain ⟨before, tail, after, rfl, rfl⟩ := ih fromRest
          exact ⟨[] :: before, tail, after, rfl, rfl⟩
      | cons head tail =>
          simp only [takeLeast] at taken
          split at taken
          · rename_i e' rest' fromRest
            split at taken
            · cases taken
              obtain ⟨before, tail', after, rfl, rfl⟩ := ih fromRest
              exact ⟨(head :: tail) :: before, tail', after, rfl, rfl⟩
            · cases taken
              exact ⟨[], tail, lists, rfl, rfl⟩
          · cases taken
            exact ⟨[], tail, lists, rfl, rfl⟩

/-- Nothing can be taken only when nothing is there. -/
theorem flatten_eq_nil_of_takeLeast {lists : List (List Entity)}
    (nothing : takeLeast orders lists = none) : lists.flatten = [] := by
  induction lists with
  | nil => rfl
  | cons list lists ih =>
      cases list with
      | nil =>
          simp only [takeLeast, Option.map_eq_none_iff] at nothing
          simpa using ih nothing
      | cons head tail =>
          simp only [takeLeast] at nothing
          split at nothing
          · split at nothing <;> contradiction
          · contradiction

/-- The record that is taken comes before the first records of all lists. -/
theorem isLE_head_of_takeLeast {lists rest : List (List Entity)} {e : Entity}
    (taken : takeLeast orders lists = some (e, rest)) {head : Entity} {tail : List Entity}
    (listed : head :: tail ∈ lists) : (e.order head orders).isLE := by
  induction lists generalizing e rest with
  | nil => contradiction
  | cons list lists ih =>
      cases list with
      | nil =>
          simp only [takeLeast, Option.map_eq_some_iff] at taken
          obtain ⟨⟨e', rest'⟩, fromRest, same⟩ := taken
          cases same
          exact ih fromRest (by simpa using listed)
      | cons first others =>
          simp only [takeLeast] at taken
          rcases List.mem_cons.mp listed with same | inRest
          · cases same
            split at taken
            · split at taken
              · rename_i before
                cases taken
                exact Entity.isLE_of_order_lt before
              · cases taken
                exact Entity.isLE_order_self head
            · cases taken
              exact Entity.isLE_order_self head
          · split at taken
            · rename_i e' rest' fromRest
              split at taken
              · cases taken
                exact ih fromRest inRest
              · rename_i notBefore
                cases taken
                exact Entity.isLE_order_trans (Entity.isLE_of_order_ne_lt notBefore)
                  (ih fromRest inRest)
            · rename_i nothing
              have empty := flatten_eq_nil_of_takeLeast nothing
              have member := List.mem_flatten_of_mem inRest List.mem_cons_self
              simp [empty] at member

/-- The record that is taken from ascending lists comes before all others. -/
theorem isLE_of_takeLeast {lists rest : List (List Entity)} {e : Entity}
    (ascend : ∀ l ∈ lists, Ascends orders l) (taken : takeLeast orders lists = some (e, rest)) :
    ∀ x ∈ lists.flatten, (e.order x orders).isLE := by
  intro x member
  obtain ⟨list, listed, member⟩ := List.mem_flatten.mp member
  cases list with
  | nil => contradiction
  | cons head tail =>
      have leHead := isLE_head_of_takeLeast taken listed
      rcases List.mem_cons.mp member with rfl | inTail
      · exact leHead
      · exact Entity.isLE_order_trans leHead (List.rel_of_pairwise_cons (ascend _ listed) inTail)

theorem interleave_of_nothing {lists : List (List Entity)}
    (nothing : takeLeast orders lists = none) : interleave orders lists = [] := by
  rw [interleave]
  split
  · rfl
  · simp_all

theorem interleave_of_taken {lists rest : List (List Entity)} {e : Entity}
    (taken : takeLeast orders lists = some (e, rest)) :
    interleave orders lists = e :: interleave orders rest := by
  rw [interleave]
  split
  · simp_all
  · rename_i e' rest' taken'
    cases taken.symm.trans taken'
    rfl

/-- Interleaving keeps every record. -/
theorem interleave_perm (lists : List (List Entity)) :
    (interleave orders lists).Perm lists.flatten := by
  induction lists using interleave.induct orders with
  | case1 lists nothing =>
      rw [interleave_of_nothing nothing, flatten_eq_nil_of_takeLeast nothing]
  | case2 lists e rest taken ih =>
      rw [interleave_of_taken taken]
      obtain ⟨before, tail, after, rfl, rfl⟩ := exists_split_of_takeLeast taken
      simp only [List.flatten_append, List.flatten_cons, List.cons_append] at ih ⊢
      exact (ih.cons e).trans List.perm_middle.symm

/-- Lists still ascend when one of them has lost its first record. -/
theorem ascend_of_split {before after : List (List Entity)} {e : Entity} {tail : List Entity}
    (ascend : ∀ l ∈ before ++ (e :: tail) :: after, Ascends orders l) :
    ∀ l ∈ before ++ tail :: after, Ascends orders l := by
  intro l listed
  simp only [List.mem_append, List.mem_cons] at listed
  rcases listed with inBefore | rfl | inAfter
  · exact ascend l (by simp [inBefore])
  · exact (ascend (e :: l) (by simp)).tail
  · exact ascend l (by simp [inAfter])

/-- Interleaving ascending lists ascends. -/
theorem ascends_interleave {lists : List (List Entity)} (ascend : ∀ l ∈ lists, Ascends orders l) :
    Ascends orders (interleave orders lists) := by
  induction lists using interleave.induct orders with
  | case1 lists nothing =>
      rw [interleave_of_nothing nothing]
      exact List.Pairwise.nil
  | case2 lists e rest taken ih =>
      rw [interleave_of_taken taken]
      have least := isLE_of_takeLeast ascend taken
      obtain ⟨before, tail, after, rfl, rfl⟩ := exists_split_of_takeLeast taken
      refine List.Pairwise.cons ?_ (ih (ascend_of_split ascend))
      intro x member
      apply least
      simp only [(interleave_perm _).mem_iff, List.flatten_append, List.flatten_cons,
        List.mem_append, List.cons_append, List.mem_cons] at member ⊢
      grind

theorem firstOfEachKey_sublist (seen : List Key) (es : List Entity) :
    (firstOfEachKey seen es).Sublist es := by
  induction es generalizing seen with
  | nil => exact List.Sublist.slnil
  | cons e rest ih =>
      rw [firstOfEachKey]
      split
      · exact (ih seen).cons e
      · exact (ih (e.key :: seen)).cons_cons e

theorem key_notMem_of_mem_firstOfEachKey {seen : List Key} {es : List Entity} {e : Entity}
    (kept : e ∈ firstOfEachKey seen es) : e.key ∉ seen := by
  induction es generalizing seen with
  | nil => simp [firstOfEachKey] at kept
  | cons x rest ih =>
      rw [firstOfEachKey] at kept
      split at kept
      · exact ih kept
      · rename_i unseen
        rcases List.mem_cons.mp kept with rfl | kept
        · simpa using unseen
        · exact fun known => ih kept (List.mem_cons_of_mem _ known)

/-- No key is kept twice. -/
theorem distinctKeys_firstOfEachKey (seen : List Key) (es : List Entity) :
    DistinctKeys (firstOfEachKey seen es) := by
  induction es generalizing seen with
  | nil => exact List.Pairwise.nil
  | cons e rest ih =>
      rw [firstOfEachKey]
      split
      · exact ih seen
      · refine List.Pairwise.cons ?_ (ih (e.key :: seen))
        intro x kept same
        have unseen := key_notMem_of_mem_firstOfEachKey kept
        simp [same] at unseen

/-- Every key that was not seen before is kept. -/
theorem exists_mem_firstOfEachKey {seen : List Key} {es : List Entity} {e : Entity}
    (member : e ∈ es) (unseen : e.key ∉ seen) :
    ∃ first ∈ firstOfEachKey seen es, first.key = e.key := by
  induction es generalizing seen with
  | nil => contradiction
  | cons x rest ih =>
      rw [firstOfEachKey]
      by_cases known : x.key ∈ seen
      · rcases List.mem_cons.mp member with rfl | inRest
        · contradiction
        · simpa [known] using ih inRest unseen
      · simp only [List.contains_iff_mem, known, if_false]
        by_cases same : x.key = e.key
        · exact ⟨x, List.mem_cons_self, same⟩
        · have inRest : e ∈ rest := by
            rcases List.mem_cons.mp member with rfl | inRest
            · contradiction
            · exact inRest
          have stillUnseen : e.key ∉ x.key :: seen := by
            simp [unseen, Ne.symm same]
          obtain ⟨first, kept, firstKey⟩ := ih inRest stillUnseen
          exact ⟨first, List.mem_cons_of_mem x kept, firstKey⟩

/-- Merging ascending lists of records from one pool lists the records that are in any of them. -/
theorem listing_merge {lists : List (List Entity)} {pool : List Entity}
    (distinct : DistinctKeys pool) (drawn : ∀ l ∈ lists, l ⊆ pool)
    (ascend : ∀ l ∈ lists, Ascends orders l) :
    Listing orders (fun e => ∃ l ∈ lists, e ∈ l) (merge orders lists) where
  ascending :=
    Ascends.strict ((ascends_interleave ascend).sublist (firstOfEachKey_sublist [] _))
      (distinctKeys_firstOfEachKey [] _)
  mem_iff e := by
    have interleaved : ∀ x, x ∈ interleave orders lists ↔ ∃ l ∈ lists, x ∈ l := by
      intro x
      rw [(interleave_perm lists).mem_iff, List.mem_flatten]
    constructor
    · intro merged
      exact (interleaved e).mp ((firstOfEachKey_sublist [] _).subset merged)
    · rintro ⟨l, listed, member⟩
      obtain ⟨first, kept, sameKey⟩ := exists_mem_firstOfEachKey
        ((interleaved e).mpr ⟨l, listed, member⟩) List.not_mem_nil
      obtain ⟨l', listed', member'⟩ :=
        (interleaved first).mp ((firstOfEachKey_sublist [] _).subset kept)
      have same : first = e :=
        distinct.eq_of_key_eq (drawn l' listed' member') (drawn l listed member) sameKey
      exact same ▸ kept

end EntityStore.Merge
