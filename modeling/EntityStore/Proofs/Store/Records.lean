import EntityStore.Proofs.Query.Selection
import EntityStore.Store.Basic
import Mathlib.Data.List.Nodup

/-!
# The records of the memory store

The store lists every record once and in the order of the keys.  Replacing the record of one key
leaves all others alone, and a write moves the version of one group only.
-/

namespace EntityStore.Store

/-- The listed records are those that are found under their keys. -/
theorem mem_entities {s : Store} {e : Entity} : e ∈ s.entities ↔ s.records[e.key]? = some e := by
  simp only [entities, List.mem_map, Prod.exists, exists_eq_right,
    Std.ExtTreeMap.mem_toList_iff_getElem?_eq_some]
  constructor
  · rintro ⟨key, found⟩
    rwa [s.keyed key e found]
  · intro found
    exact ⟨e.key, found⟩

theorem distinctKeys_entities (s : Store) : Entity.DistinctKeys s.entities := by
  rw [Entity.DistinctKeys, entities, List.pairwise_map]
  have ordered := Std.ExtTreeMap.ordered_keys_toList (t := s.records)
  apply List.Pairwise.imp_of_mem _ ordered
  intro a b aMem bMem before same
  rw [Std.ExtTreeMap.mem_toList_iff_getElem?_eq_some] at aMem bMem
  rw [s.keyed _ _ aMem, s.keyed _ _ bMem] at same
  simp [same] at before

/-- The records of a listing from one store have different keys. -/
theorem nodup_keys_of_listing {orders : List SortOrder} {wanted : Entity → Prop} {es : List Entity}
    {s : Store} (listing : Listing orders wanted es) (stored : ∀ e, wanted e → e ∈ s.entities) :
    (es.map (·.key)).Nodup := by
  refine List.Nodup.map_on (fun a aMem b bMem same => ?_) listing.nodup
  have aStored := stored a ((listing.mem_iff a).mp aMem)
  have bStored := stored b ((listing.mem_iff b).mp bMem)
  exact s.distinctKeys_entities.eq_of_key_eq aStored bStored same

theorem length_entities (s : Store) : s.entities.length = s.size := by
  simp [entities, size]

/-- What a query selects depends on the records below its ancestor only. -/
theorem select_congr {q : PrimitiveQuery} {s s' : Store}
    (same : ∀ key, q.ancestor.all (·.isAncestorOf key) → s'.records[key]? = s.records[key]?) :
    q.select s'.entities = q.select s.entities := by
  apply (q.listing_select s'.distinctKeys_entities).unique
  apply (q.listing_select s.distinctKeys_entities).congr
  intro e
  rw [mem_entities, mem_entities]
  constructor
  · rintro ⟨stored, accepted, reached⟩
    rw [same e.key (q.ancestor_of_accepts accepted)]
    exact ⟨stored, accepted, reached⟩
  · rintro ⟨stored, accepted, reached⟩
    rw [same e.key (q.ancestor_of_accepts accepted)] at stored
    exact ⟨stored, accepted, reached⟩

theorem runQuery_congr {q : PrimitiveQuery} {s s' : Store}
    (same : q.select s'.entities = q.select s.entities) (window : Window) :
    s'.runQuery q window = s.runQuery q window := by
  rw [runQuery, runQuery, PrimitiveQuery.run, PrimitiveQuery.run, same]

theorem count_congr {q : PrimitiveQuery} {s s' : Store}
    (same : q.select s'.entities = q.select s.entities) (limit : Option UInt64) :
    s'.count q limit = s.count q limit := by
  simp only [count, PrimitiveQuery.count, same]

/-- Replacing the record of a key changes no other key. -/
theorem getElem?_replace (s : Store) (key : Key) (e : Option Entity) (key' : Key) :
    (s.replace key e).records[key']? =
      if key = key' then e.map fun e => { e with key } else s.records[key']? := by
  cases e <;> simp [replace, Std.ExtTreeMap.getElem?_insert, Std.ExtTreeMap.getElem?_erase]

@[simp]
theorem version_replace (s : Store) (key : Key) (e : Option Entity) (group : Key) :
    (s.replace key e).version group = s.version group := by
  cases e <;> rfl

@[simp]
theorem records_bump (s : Store) (group : Key) : (s.bump group).records = s.records :=
  rfl

/-- Moving a group to its next version moves no other group. -/
theorem version_bump (s : Store) (group group' : Key) :
    (s.bump group).version group' =
      if group = group' then s.version group + 1 else s.version group' := by
  simp only [bump, version, Std.ExtTreeMap.getElem?_insert, Std.compare_eq_iff_eq]
  split <;> rfl

theorem getElem?_write (s : Store) (key : Key) (e : Option Entity) (key' : Key) :
    (s.write key e).records[key']? =
      if key = key' then e.map fun e => { e with key } else s.records[key']? := by
  rw [write, records_bump, getElem?_replace]

theorem version_write (s : Store) (key : Key) (e : Option Entity) (group : Key) :
    (s.write key e).version group =
      if key.root = group then s.version group + 1 else s.version group := by
  rw [write, version_bump, version_replace, version_replace]
  split
  · rename_i same
    rw [same]
  · rfl

end EntityStore.Store
