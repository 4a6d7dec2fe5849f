import EntityStore.Proofs.Action
import EntityStore.Proofs.Store.Records

/-!
# How the memory store moves on

Every call moves the store on: no version goes back, and a group whose version stands still keeps
its records.  Handing out ids touches neither records nor versions.  Every key that a call writes
moves the version of its group.
-/

namespace EntityStore.Store

/-- Two states with the same records and versions. -/
structure Untouched (s s' : Store) : Prop where
  records : s'.records = s.records
  versions : s'.versions = s.versions

/-- A state and a later one: versions grow, and records change only with the version of their
group. -/
structure Advances (s s' : Store) : Prop where
  version_le : ∀ group, s.version group ≤ s'.version group
  records_eq : ∀ key : Key, s'.version key.root = s.version key.root →
    s'.records[key]? = s.records[key]?

theorem chains_untouched : Chains Untouched where
  refl _ := ⟨rfl, rfl⟩
  trans first second :=
    ⟨second.records.trans first.records, second.versions.trans first.versions⟩

theorem chains_advances : Chains Advances where
  refl s := ⟨fun _ => Nat.le_refl _, fun _ _ => rfl⟩
  trans {s s' s''} first second := by
    constructor
    · intro group
      exact Nat.le_trans (first.version_le group) (second.version_le group)
    · intro key same
      have before := first.version_le key.root
      have after := second.version_le key.root
      rw [second.records_eq key (by omega), first.records_eq key (by omega)]

theorem Untouched.version_eq {s s' : Store} (untouched : Untouched s s') (group : Key) :
    s'.version group = s.version group := by
  rw [version, version, untouched.versions]

theorem Untouched.advances {s s' : Store} (untouched : Untouched s s') : Advances s s' where
  version_le group := Nat.le_of_eq (untouched.version_eq group).symm
  records_eq key _ := by rw [untouched.records]

theorem keeps_allocate (count : Nat) : Action.Keeps Untouched (allocate count) := by
  intro s
  simp only [allocate]
  split
  · exact chains_untouched.refl s
  · split
    · exact chains_untouched.refl s
    · rw [Action.runOn_bind, Action.runOn_read]
      dsimp only
      split
      · exact chains_untouched.refl s
      · exact ⟨rfl, rfl⟩

theorem keeps_complete (key : Key) : Action.Keeps Untouched (complete key) := by
  unfold complete
  split
  · apply Action.keeps_bind chains_untouched (keeps_allocate 1)
    intro ids
    exact Action.keeps_pure chains_untouched _
  · intro s
    split
    · exact chains_untouched.refl s
    · exact ⟨rfl, rfl⟩
  · exact Action.keeps_pure chains_untouched _

theorem advances_write (s : Store) (key : Key) (e : Option Entity) :
    Advances s (s.write key e) where
  version_le group := by
    rw [version_write]
    split <;> omega
  records_eq key' same := by
    rw [getElem?_write]
    rw [version_write] at same
    split
    · rename_i written
      simp [written] at same
    · rfl

theorem keeps_putOne (e : Entity) : Action.Keeps Advances (putOne e) := by
  apply Action.keeps_bind chains_advances ((keeps_complete e.key).imp Untouched.advances)
  intro key
  apply Action.keeps_bind chains_advances
  · intro s
    exact s.advances_write key (some e)
  · intro _
    exact Action.keeps_pure chains_advances key

theorem advances_delete (s : Store) (keys : List Key) : Advances s (s.delete keys) := by
  induction keys generalizing s with
  | nil => exact chains_advances.refl s
  | cons key keys ih => exact chains_advances.trans (s.advances_write key none) (ih _)

/-- A deletion moves the group of every key. -/
theorem version_lt_of_mem_delete {s : Store} {keys : List Key} {key : Key} (member : key ∈ keys) :
    s.version key.root < (s.delete keys).version key.root := by
  induction keys generalizing s with
  | nil => contradiction
  | cons first keys ih =>
      change _ < ((s.write first none).delete keys).version key.root
      rcases List.mem_cons.mp member with rfl | member
      · have moved := ((s.write key none).advances_delete keys).version_le key.root
        rw [version_write, if_pos rfl] at moved
        exact moved
      · have kept := (s.advances_write first none).version_le key.root
        exact Nat.lt_of_le_of_lt kept (ih member)

/-- The keys that a put writes: those of the records before the first failure. -/
def written : List Entity → Store → List Key
  | [], _ => []
  | e :: es, s =>
    match (putOne e).runOn s with
    | (.ok key, s') => key :: written es s'
    | (.error _, _) => []

theorem version_of_putOne {e : Entity} {s s' : Store} {key : Key}
    (answered : (putOne e).runOn s = (.ok key, s')) :
    s'.version key.root = s.version key.root + 1 := by
  rw [putOne, Action.runOn_bind] at answered
  have untouched := keeps_complete e.key s
  rcases completed : (complete e.key).runOn s with ⟨error | key', s''⟩
  · simp [completed] at answered
  · rw [completed] at answered untouched
    cases answered
    rw [version_write, if_pos rfl, untouched.version_eq]

/-- A put moves the group of every key that it writes. -/
theorem version_lt_of_mem_written {es : List Entity} {s : Store} {key : Key}
    (member : key ∈ written es s) :
    s.version key.root < ((put es).runOn s).2.version key.root := by
  induction es generalizing s with
  | nil => contradiction
  | cons e es ih =>
      have rest : Action.Keeps Advances (put es) :=
        Action.keeps_mapM chains_advances keeps_putOne es
      have first := keeps_putOne e s
      rw [written] at member
      rw [put, Action.runOn_mapM_cons_snd, ← put]
      rcases answered : (putOne e).runOn s with ⟨error | key', s'⟩
      · rw [answered] at member
        contradiction
      · rw [answered] at member first
        dsimp only
        rcases List.mem_cons.mp member with rfl | member
        · have moved := version_of_putOne answered
          have kept := (rest s').version_le key.root
          omega
        · exact Nat.lt_of_le_of_lt (first.version_le key.root) (ih member)

/-! ## Keys that a call leaves alone -/

/-- A put leaves the records of the keys alone that it does not write. -/
theorem getElem?_put_of_not_mem_written {es : List Entity} {s : Store} {key : Key}
    (spared : key ∉ written es s) : ((put es).runOn s).2.records[key]? = s.records[key]? := by
  induction es generalizing s with
  | nil => rfl
  | cons e es ih =>
      rw [written] at spared
      rw [put, Action.runOn_mapM_cons_snd, ← put]
      rw [putOne, Action.runOn_bind] at spared ⊢
      have untouched := keeps_complete e.key s
      rcases completed : (complete e.key).runOn s with ⟨error | own, s'⟩
      all_goals
        rw [completed] at untouched spared
        have same : s'.records = s.records := untouched.records
      · exact congrArg (fun records => records[key]?) same
      · have other : key ≠ own ∧ key ∉ written es (s'.write own (some e)) := by
          simpa [Action.runOn_bind, Except.map] using spared
        simp only [Action.runOn_bind, Action.runOn_update, Action.runOn_pure]
        rw [ih other.2, getElem?_write, if_neg other.1.symm, same]

/-- A deletion leaves the records of all other keys alone. -/
theorem getElem?_delete_of_not_mem {keys : List Key} {s : Store} {key : Key}
    (spared : key ∉ keys) : (s.delete keys).records[key]? = s.records[key]? := by
  induction keys generalizing s with
  | nil => rfl
  | cons first keys ih =>
      rw [List.mem_cons, not_or] at spared
      change ((s.write first none).delete keys).records[key]? = _
      rw [ih spared.2, getElem?_write, if_neg fun same => spared.1 same.symm]

end EntityStore.Store
