import EntityStore.Proofs.Store.Progress

/-!
# Handing out ids

An allocation hands out ids from the next one on, and a key with a number moves the next id past it.
The arithmetic is exact: what does not fit sixty-four bits is refused and leaves the store as it is.
-/

namespace EntityStore.Store

theorem toInt_max (a b : Int64) : (max a b).toInt = max a.toInt b.toInt := by
  have chosen : max a b = if a ≤ b then b else a := rfl
  rw [chosen]
  split
  · rename_i le
    rw [Int64.le_iff_toInt_le] at le
    omega
  · rename_i gt
    rw [Int64.le_iff_toInt_le] at gt
    omega

/-- A number up to the largest id is kept in sixty-four bits. -/
theorem toInt_ofInt {n : Int} (ge : -0x8000000000000000 ≤ n) (le : n ≤ maxId) :
    (Int64.ofInt n).toInt = n := by
  rw [maxId, Int64.toInt_maxValue] at le
  exact Int64.toInt_ofInt_of_le (by omega) (by omega)

/-- An allocation that fits hands out ids from the next one on. -/
theorem runOn_allocate_of_fits {count : Nat} {s : Store} (positive : 1 ≤ count)
    (bounded : count ≤ maxId) (fits : s.nextId.toInt + count ≤ maxId) :
    (allocate count).runOn s =
      (.ok (s.nextId, Int64.ofInt (s.nextId.toInt + (count - 1 : Nat))),
        { s with nextId := Int64.ofInt (s.nextId.toInt + count) }) := by
  have notTooMany : ¬ maxId < count := by omega
  have notNone : ¬ count < 1 := by omega
  have notFull : ¬ maxId < s.nextId.toInt + count := by omega
  simp only [allocate, if_neg notTooMany, if_neg notNone, Action.runOn_bind, Action.runOn_read,
    if_neg notFull, Action.runOn_update, Action.runOn_pure]

/-- An allocation is refused, or hands out ids from the next one on. -/
theorem runOn_allocate_cases (count : Nat) (s : Store) :
    (∃ cause, (allocate count).runOn s = (.error (.failure cause), s)) ∨
      1 ≤ count ∧ s.nextId.toInt + count ≤ maxId ∧
        (allocate count).runOn s =
          (.ok (s.nextId, Int64.ofInt (s.nextId.toInt + (count - 1 : Nat))),
            { s with nextId := Int64.ofInt (s.nextId.toInt + count) }) := by
  by_cases tooMany : maxId < count
  · left
    exact ⟨.cannotAllocate count, by simp only [allocate, if_pos tooMany]; rfl⟩
  · by_cases none : count < 1
    · left
      exact ⟨.allocateNothing, by simp only [allocate, if_neg tooMany, if_pos none]; rfl⟩
    · by_cases full : maxId < s.nextId.toInt + count
      · left
        refine ⟨.cannotAllocate count, ?_⟩
        simp only [allocate, if_neg tooMany, if_neg none, Action.runOn_bind, Action.runOn_read,
          if_pos full, Action.runOn_fail]
      · right
        have positive : 1 ≤ count := by omega
        have fits : s.nextId.toInt + count ≤ maxId := by omega
        exact ⟨positive, fits, runOn_allocate_of_fits positive (by omega) fits⟩

theorem runOn_complete_open {key : Key} (isOpen : key.id? = none) (s : Store) :
    (complete key).runOn s =
      match (allocate 1).runOn s with
      | (.ok (id, _), s') => (.ok (key.withNumber id), s')
      | (.error e, s') => (.error e, s') := by
  rw [complete, isOpen]
  dsimp only
  rw [Action.runOn_bind]
  rcases (allocate 1).runOn s with ⟨_ | ⟨_, _⟩, _⟩ <;> rfl

theorem runOn_complete_number {key : Key} {id : Int64} (numbered : key.id? = some (.number id))
    (s : Store) :
    (complete key).runOn s =
      if maxId < id.toInt + 1 then (.error (.failure (.idLeavesNoRoom id)), s)
      else (.ok key, { s with nextId := max s.nextId (Int64.ofInt (id.toInt + 1)) }) := by
  rw [complete, numbered]
  dsimp only
  by_cases full : maxId < id.toInt + 1
  · simp only [if_pos full, Action.runOn_bind, Action.runOn_fail]
  · simp only [if_neg full, Action.runOn_bind, Action.runOn_update, Action.runOn_pure]

theorem runOn_complete_name {key : Key} {text : String} (named : key.id? = some (.name text))
    (s : Store) : (complete key).runOn s = (.ok key, s) := by
  rw [complete, named]
  rfl

/-- The arithmetic on ids is exact: what does not fit sixty-four bits is refused and leaves the
store as it is, and all that is computed fits. -/
structure ExactIds (s : Store) : Prop where
  allocation : ∀ (count : Nat) first last s', (allocate count).runOn s = (.ok (first, last), s') →
    first = s.nextId ∧ 1 ≤ count ∧ last.toInt = first.toInt + (count - 1) ∧
      s'.nextId.toInt = first.toInt + count
  completion_of_open : ∀ (key key' : Key) s', key.id? = none →
    (complete key).runOn s = (.ok key', s') → s'.nextId.toInt = s.nextId.toInt + 1
  completion_of_number : ∀ (key key' : Key) id s', key.id? = some (.number id) →
    (complete key).runOn s = (.ok key', s') →
      s'.nextId.toInt = max s.nextId.toInt (id.toInt + 1)
  allocation_refused : ∀ count : Nat, maxId < s.nextId.toInt + count →
    ∃ cause, (allocate count).runOn s = (.error (.failure cause), s)
  open_refused : ∀ key : Key, key.id? = none → maxId < s.nextId.toInt + 1 →
    ∃ cause, (complete key).runOn s = (.error (.failure cause), s)
  number_refused : ∀ (key : Key) id, key.id? = some (.number id) → maxId < id.toInt + 1 →
    ∃ cause, (complete key).runOn s = (.error (.failure cause), s)

theorem exactIds (s : Store) : s.ExactIds := by
  have lower := s.nextId.le_toInt
  have allocation : ∀ (count : Nat) first last s',
      (allocate count).runOn s = (.ok (first, last), s') →
        first = s.nextId ∧ 1 ≤ count ∧ last.toInt = first.toInt + (count - 1) ∧
          s'.nextId.toInt = first.toInt + count := by
    intro count first last s' answered
    rcases runOn_allocate_cases count s with ⟨_, refused⟩ | ⟨positive, fits, granted⟩
    · cases refused.symm.trans answered
    · cases granted.symm.trans answered
      refine ⟨rfl, positive, ?_, toInt_ofInt (by omega) fits⟩
      rw [toInt_ofInt (by omega) (by omega)]
      omega
  have allocation_refused : ∀ count : Nat, maxId < s.nextId.toInt + count →
      ∃ cause, (allocate count).runOn s = (.error (.failure cause), s) := by
    intro count full
    rcases runOn_allocate_cases count s with refused | ⟨_, fits, _⟩
    · exact refused
    · omega
  constructor
  case allocation => exact allocation
  case allocation_refused => exact allocation_refused
  case completion_of_open =>
    intro key key' s' isOpen answered
    rw [runOn_complete_open isOpen] at answered
    rcases granted : (allocate 1).runOn s with ⟨_ | ⟨first, last⟩, s''⟩
    · simp [granted] at answered
    · rw [granted] at answered
      cases answered
      obtain ⟨rfl, _, _, next⟩ := allocation 1 first last _ granted
      exact next
  case open_refused =>
    intro key isOpen full
    obtain ⟨cause, refused⟩ := allocation_refused 1 full
    exact ⟨cause, by rw [runOn_complete_open isOpen, refused]⟩
  case completion_of_number =>
    intro key key' id s' numbered answered
    rw [runOn_complete_number numbered] at answered
    have idLower := id.le_toInt
    split at answered
    · cases answered
    · rename_i fits
      cases answered
      rw [toInt_max, toInt_ofInt (by omega) (by omega)]
  case number_refused =>
    intro key id numbered full
    exact ⟨_, by rw [runOn_complete_number numbered, if_pos full]⟩

/-- Whether the number of a key is no longer to be handed out. -/
def Taken (s : Store) (key : Key) : Prop :=
  ∀ id, key.number? = some id → id < s.nextId

theorem Taken.mono {s s' : Store} {key : Key} (taken : s.Taken key) (le : s.nextId ≤ s'.nextId) :
    s'.Taken key :=
  fun id numbered => Int64.lt_of_lt_of_le (taken id numbered) le

/-- What the completion of a key leads to. -/
structure Completes (key : Key) (s : Store) (key' : Key) (s' : Store) : Prop where
  records : s'.records = s.records
  le : s.nextId ≤ s'.nextId
  taken : s'.Taken key'
  granted : key.id? = none → key.path ≠ [] → key'.number? = some s.nextId

theorem number?_withNumber {key : Key} (nonempty : key.path ≠ []) (id : Int64) :
    (key.withNumber id).number? = some id := by
  simp [Key.withNumber, List.getLast?_eq_some_getLast nonempty, Key.number?, Key.id?,
    Identifier.number?]

theorem kind_withNumber (key : Key) (id : Int64) : (key.withNumber id).kind = key.kind := by
  unfold Key.withNumber Key.kind
  cases last : key.path.getLast? <;> simp [last]

theorem path_ne_nil_of_kind {key : Key} (named : key.kind ≠ "") : key.path ≠ [] := by
  intro nowhere
  rw [Key.kind, nowhere] at named
  contradiction

/-- A completed key is the key itself if that has an identifier, and else the key with a number. -/
theorem complete_cases {key key' : Key} {s s' : Store}
    (answered : (complete key).runOn s = (.ok key', s')) :
    key.hasIdentifier = true ∧ key' = key ∨
      key.hasIdentifier = false ∧ ∃ id, key' = key.withNumber id := by
  unfold Key.hasIdentifier
  cases identified : key.id? with
  | none =>
    rw [runOn_complete_open identified] at answered
    rcases granted : (allocate 1).runOn s with ⟨_ | ⟨id, _⟩, s₁⟩
    · simp [granted] at answered
    · rw [granted] at answered
      cases answered
      exact .inr ⟨rfl, id, rfl⟩
  | some identifier =>
    refine .inl ⟨rfl, ?_⟩
    cases identifier with
    | number id =>
      rw [runOn_complete_number identified] at answered
      split at answered <;> cases answered
      rfl
    | name text =>
      rw [runOn_complete_name identified] at answered
      cases answered
      rfl

theorem eq_of_complete {key key' : Key} {s s' : Store} (identified : key.hasIdentifier = true)
    (answered : (complete key).runOn s = (.ok key', s')) : key' = key := by
  rcases complete_cases answered with ⟨-, same⟩ | ⟨isOpen, -⟩
  · exact same
  · rw [identified] at isOpen
    contradiction

/-- Completing a key with a path keeps its kind and leaves it with an identifier. -/
theorem completed_of_complete {key key' : Key} {s s' : Store} (named : key.kind ≠ "")
    (answered : (complete key).runOn s = (.ok key', s')) :
    key'.kind = key.kind ∧ key'.hasIdentifier = true := by
  rcases complete_cases answered with ⟨identified, rfl⟩ | ⟨-, id, rfl⟩
  · exact ⟨rfl, identified⟩
  · have numbered := number?_withNumber (path_ne_nil_of_kind named) id
    rw [Key.number?, Option.bind_eq_some_iff] at numbered
    rcases numbered with ⟨identifier, found, -⟩
    constructor
    · exact kind_withNumber key id
    · rw [Key.hasIdentifier, found]
      rfl

theorem completes_of_runOn {key key' : Key} {s s' : Store}
    (answered : (complete key).runOn s = (.ok key', s')) : Completes key s key' s' := by
  have records := (keeps_complete key s).records
  rw [answered] at records
  cases identified : key.id? with
  | none =>
      have next := s.exactIds.completion_of_open key key' s' identified answered
      rw [runOn_complete_open identified] at answered
      rcases allocated : (allocate 1).runOn s with ⟨_ | ⟨first, last⟩, s''⟩
      · simp [allocated] at answered
      · rw [allocated] at answered
        cases answered
        obtain ⟨rfl, -⟩ := s.exactIds.allocation 1 first last _ allocated
        refine ⟨records, by rw [Int64.le_iff_toInt_le]; omega, ?_, fun _ nonempty =>
          number?_withNumber nonempty _⟩
        intro id numbered
        by_cases nonempty : key.path = []
        · simp [Key.withNumber, nonempty, Key.number?, Key.id?] at numbered
        · rw [number?_withNumber nonempty] at numbered
          cases numbered
          rw [Int64.lt_iff_toInt_lt]
          omega
  | some identifier =>
      cases identifier with
      | number id =>
          have next := s.exactIds.completion_of_number key key' id s' identified answered
          rw [runOn_complete_number identified] at answered
          split at answered
          · cases answered
          · cases answered
            refine ⟨records, by rw [Int64.le_iff_toInt_le]; omega, ?_, fun isOpen =>
              absurd isOpen (by simp [identified])⟩
            intro id' numbered
            rw [Key.number?, identified] at numbered
            cases numbered
            rw [Int64.lt_iff_toInt_lt]
            omega
      | name text =>
          rw [runOn_complete_name identified] at answered
          cases answered
          refine ⟨rfl, Int64.le_refl _, ?_, fun isOpen =>
            absurd isOpen (by simp [identified])⟩
          intro id numbered
          simp [Key.number?, identified, Identifier.number?] at numbered

/-- A completion that fails leaves the store as it is. -/
theorem eq_of_complete_error {key : Key} {s s' : Store} {e : Interruption}
    (failed : (complete key).runOn s = (.error e, s')) : s' = s := by
  cases identified : key.id? with
  | none =>
      rw [runOn_complete_open identified] at failed
      rcases runOn_allocate_cases 1 s with ⟨_, refused⟩ | ⟨_, _, granted⟩
      · rw [refused] at failed
        cases failed
        rfl
      · simp [granted] at failed
  | some identifier =>
      cases identifier with
      | number id =>
          rw [runOn_complete_number identified] at failed
          split at failed
          · cases failed
            rfl
          · cases failed
      | name text =>
          rw [runOn_complete_name identified] at failed
          cases failed

theorem runOn_putOne_of_complete {e : Entity} {key : Key} {s s' : Store}
    (answered : (complete e.key).runOn s = (.ok key, s')) :
    (putOne e).runOn s = (.ok key, s'.write key (some e)) := by
  rw [putOne, Action.runOn_bind, answered]
  rfl

theorem ends_allocate (count : Nat) : Action.Ends (allocate count) := by
  intro s
  rcases runOn_allocate_cases count s with ⟨_, refused⟩ | ⟨_, _, granted⟩
  · simp [refused]
  · simp [granted]

theorem ends_complete (key : Key) : Action.Ends (complete key) := by
  unfold complete
  split
  · exact Action.ends_bind (ends_allocate 1) fun _ => Action.ends_pure _
  · intro s
    split
    · simp [Action.runOn_bind]
    · simp [Except.map]
  · exact Action.ends_pure key

theorem ends_putOne (e : Entity) : Action.Ends (putOne e) :=
  Action.ends_bind (ends_complete e.key) fun key =>
    Action.ends_bind (Action.ends_update _) fun _ => Action.ends_pure key

theorem ends_put (es : List Entity) : Action.Ends (put es) :=
  Action.ends_mapM ends_putOne es

end EntityStore.Store
