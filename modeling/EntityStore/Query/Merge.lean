import EntityStore.Entity

/-!
# Merging results

Several sorted lists of records become one: the least of the first records is taken again and
again, the earlier list winning a tie, and a record whose key was already taken is dropped.
-/

namespace EntityStore.Merge

/-- Takes the least first record out of several lists, if one of them has any. -/
def takeLeast (orders : List SortOrder) : List (List Entity) → Option (Entity × List (List Entity))
  | [] => none
  | [] :: lists => (takeLeast orders lists).map fun (e, lists) => (e, [] :: lists)
  | (head :: tail) :: lists =>
    match takeLeast orders lists with
    | some (e, rest) =>
      if e.order head orders = .lt then some (e, (head :: tail) :: rest)
      else some (head, tail :: lists)
    | none => some (head, tail :: lists)

/-- How many records several lists hold. -/
def size (lists : List (List Entity)) : Nat :=
  lists.flatten.length

/-- Taking the least first record leaves one record less. -/
theorem size_of_takeLeast {orders : List SortOrder} {lists rest : List (List Entity)} {e : Entity}
    (h : takeLeast orders lists = some (e, rest)) : size lists = size rest + 1 := by
  induction lists generalizing e rest with
  | nil => simp [takeLeast] at h
  | cons list lists ih =>
    cases list with
    | nil =>
      simp only [takeLeast, Option.map_eq_some_iff] at h
      obtain ⟨⟨e', rest'⟩, h', heq⟩ := h
      cases heq
      simpa [size] using ih h'
    | cons head tail =>
      simp only [takeLeast] at h
      split at h
      · rename_i e' rest' h'
        split at h
        · cases h
          have := ih h'
          simp only [size, List.flatten_cons, List.length_append, List.length_cons] at this ⊢
          omega
        · cases h
          simp only [size, List.flatten_cons, List.length_append, List.length_cons]
          omega
      · cases h
        simp only [size, List.flatten_cons, List.length_append, List.length_cons]
        omega

/-- Interleaves several lists, without dropping anything. -/
def interleave (orders : List SortOrder) (lists : List (List Entity)) : List Entity :=
  match _taken : takeLeast orders lists with
  | none => []
  | some (e, rest) => e :: interleave orders rest
termination_by size lists
decreasing_by
  have := size_of_takeLeast _taken
  omega

/-- Keeps the first record of every key. -/
def firstOfEachKey (seen : List Key) : List Entity → List Entity
  | [] => []
  | e :: rest =>
    if seen.contains e.key then firstOfEachKey seen rest
    else e :: firstOfEachKey (e.key :: seen) rest

/-- Merges several lists and keeps the first record of every key. -/
def merge (orders : List SortOrder) (lists : List (List Entity)) : List Entity :=
  firstOfEachKey [] (interleave orders lists)

end EntityStore.Merge
