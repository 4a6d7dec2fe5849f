import EntityStore.Proofs.Client.Attempts
import EntityStore.Proofs.Store.Isolation

/-!
# Races of `getOrInsert`

Any number of calls ask for the instance of one key, each with its own values, and take their steps
in any order.  In between, others use the store in any way that leaves the record of this key alone.
Then at most one call creates the instance, and every call that returns has it.
-/

namespace EntityStore

/-- Calls that run at the same time, and the world that they run in. -/
structure Race where
  world : World
  callers : Nat → Caller

/-- What can happen next in a race. -/
inductive Turn where
  /-- The `k`-th call takes a step. -/
  | caller (k : Nat) (around : Surroundings)
  | other (e : Event)

namespace Race

/-- A race that begins in a world. -/
def start (world : World) (values : Nat → List (String × Value)) (retries : Nat → Nat) : Race where
  world := world
  callers k := { values := values k, retries := retries k }

/-- The race after one turn. -/
def step (goal : Goal) (race : Race) : Turn → Race
  | .caller k around =>
    let (caller, store) := (race.callers k).step goal around.client .whole race.world.store
    { world := { race.world with store }
      callers := fun j => if j = k then caller else race.callers j }
  | .other e => { race with world := race.world.step e }

/-- The race after some turns. -/
def run (goal : Goal) (race : Race) (turns : List Turn) : Race :=
  turns.foldl (step goal) race

/-- The call whose write of a key a turn commits. -/
def creator (key : Key) (race : Race) : Turn → List Nat
  | .caller k _ => if (race.callers k).writes key race.world.store then [k] else []
  | .other _ => []

/-- The calls whose writes of a key are committed along some turns. -/
def creators (goal : Goal) (key : Key) : Race → List Turn → List Nat
  | _, [] => []
  | race, turn :: turns => race.creator key turn ++ creators goal key (race.step goal turn) turns

/-- What holds at every moment of a race; `log` are the creators so far. -/
structure Holds (goal : Goal) (key : Key) (before : Option Entity)
    (values : Nat → List (String × Value)) (log : List Nat) (race : Race) : Prop where
  sound : race.world.Sound
  fits : ∀ k, (race.callers k).Fits goal key race.world.store
  values_eq : ∀ k, (race.callers k).values = values k
  record : (log = [] ∧ race.world.store.records[key]? = before) ∨
    ∃ k m e, log = [k] ∧ before = none ∧ race.world.store.records[key]? = some e ∧
      goal.Creates (values k) m e

variable {goal : Goal} {key : Key} {before : Option Entity} {values : Nat → List (String × Value)}
  {log : List Nat} {race : Race}

theorem holds_start {world : World} (sound : world.Sound) (retries : Nat → Nat) :
    Holds goal key world.store.records[key]? values [] (start world values retries) where
  sound := sound
  fits k := .looking (values k) (retries k)
  values_eq _ := rfl
  record := .inl ⟨rfl, rfl⟩

/-- A step of a call makes the record where there was none, or leaves it alone. -/
theorem Holds.step_caller (addressed : goal.key = .ok key)
    (holds : Holds goal key before values log race) (k : Nat) (around : Surroundings) :
    Holds goal key before values (log ++ race.creator key (.caller k around))
      (race.step goal (.caller k around)) := by
  have stepped := (holds.fits k).step around addressed
  refine ⟨(holds.sound.of_advances stepped.spares.advances).1, fun j => ?_, fun j => ?_, ?_⟩
  · dsimp only [step]
    split
    · exact stepped.fits
    · exact (holds.fits j).of_spares stepped.spares
  · dsimp only [step]
    split
    next same => rw [stepped.values_eq, same, holds.values_eq k]
    · exact holds.values_eq j
  · have record := stepped.record
    rw [creator]
    split at record
    next wrote =>
      obtain ⟨absent, m, e, creates, stored⟩ := record
      rw [holds.values_eq k] at creates
      rw [if_pos wrote]
      rcases holds.record with ⟨rfl, unchanged⟩ | ⟨_, _, e', -, -, occupied, -⟩
      · exact .inr ⟨k, m, e, rfl, unchanged.symm.trans absent, stored, creates⟩
      · cases absent.symm.trans occupied
    next silent =>
      rw [if_neg silent, List.append_nil]
      rcases holds.record with ⟨none, unchanged⟩ | ⟨k', m, e, one, vacant, stored, creates⟩
      · exact .inl ⟨none, record.trans unchanged⟩
      · exact .inr ⟨k', m, e, one, vacant, record.trans stored, creates⟩

/-- Whatever else happens changes nothing if it spares the record of the key. -/
theorem Holds.step_other (holds : Holds goal key before values log race) {e : Event}
    (spared : key ∉ e.writes race.world) :
    Holds goal key before values log (race.step goal (.other e)) := by
  obtain ⟨sound, later⟩ := holds.sound.step e
  have same := World.getElem?_step_of_not_mem_writes spared
  refine ⟨sound, fun k => (holds.fits k).of_spares ⟨later.advances, ?_⟩, holds.values_eq, ?_⟩
  · intro e' stored
    exact same.trans stored
  · dsimp only [step]
    rw [same]
    exact holds.record

/-- Only a call may write the record of a key next. -/
def Spared (key : Key) (race : Race) : Turn → Prop
  | .caller .. => True
  | .other e => key ∉ e.writes race.world

/-- Nothing but the calls writes the record of a key. -/
def Undisturbed (goal : Goal) (key : Key) : Race → List Turn → Prop
  | _, [] => True
  | race, turn :: turns => race.Spared key turn ∧ Undisturbed goal key (race.step goal turn) turns

/-- The creators along some turns follow those before. -/
theorem Holds.run (addressed : goal.key = .ok key)
    (holds : Holds goal key before values log race) {turns : List Turn}
    (undisturbed : Undisturbed goal key race turns) :
    Holds goal key before values (log ++ creators goal key race turns) (race.run goal turns) := by
  induction turns generalizing log race with
  | nil =>
    rw [creators, List.append_nil]
    exact holds
  | cons turn turns ih =>
    rw [creators, ← List.append_assoc]
    refine ih ?_ undisturbed.2
    cases turn with
    | caller k around => exact holds.step_caller addressed k around
    | other e =>
      rw [creator, List.append_nil]
      exact holds.step_other undisturbed.1

/-- Calls for an instance that cannot have a key return nothing. -/
theorem ne_returned_of_run {cause : Failure} (unaddressed : goal.key = .error cause)
    {turns : List Turn} (early : ∀ k, (race.callers k).Early) (k : Nat) (m : Model) :
    ((race.run goal turns).callers k).phase ≠ .returned m := by
  induction turns generalizing race with
  | nil => exact (early k).ne_returned m
  | cons turn turns ih =>
    refine ih fun j => ?_
    cases turn with
    | caller i around =>
      dsimp only [step]
      split
      · exact (early i).step unaddressed
      · exact early j
    | other e => exact early j

/-- A race in which the calls make one instance. -/
structure CreatesOne (goal : Goal) (values : Nat → List (String × Value)) (race : Race)
    (turns : List Turn) : Prop where
  once : ∀ key, goal.key = .ok key → (creators goal key race turns).length ≤ 1
  /-- A record that was there at the start stays. -/
  occupied : ∀ key e, goal.key = .ok key → race.world.store.records[key]? = some e →
    creators goal key race turns = [] ∧
      (race.run goal turns).world.store.records[key]? = some e
  /-- Otherwise the record is the one that the creator made from its own values. -/
  vacant : ∀ key, goal.key = .ok key → race.world.store.records[key]? = none →
    (creators goal key race turns = [] ∧
        (race.run goal turns).world.store.records[key]? = none) ∨
      ∃ k m e, creators goal key race turns = [k] ∧ goal.Creates (values k) m e ∧
        (race.run goal turns).world.store.records[key]? = some e
  /-- An instance that a call returns has the stored record, as it was loaded or created. -/
  returned : ∀ k m, ((race.run goal turns).callers k).phase = .returned m →
    ∃ key e, goal.key = .ok key ∧ m.entity = some e ∧
      (race.run goal turns).world.store.records[key]? = some e ∧ goal.Shows (values k) m e

/-- However calls for one instance interleave, at most one of them creates it, and all that return
have the stored one. -/
theorem createsOne (s : Store) (earlier : List Event) (goal : Goal)
    (values : Nat → List (String × Value)) (retries : Nat → Nat) (turns : List Turn)
    (undisturbed : ∀ key, goal.key = .ok key →
      Undisturbed goal key (start ((World.ofStore s).run earlier) values retries) turns) :
    CreatesOne goal values (start ((World.ofStore s).run earlier) values retries) turns := by
  have sound := ((World.sound_ofStore s).run earlier).1
  have holds : ∀ key, goal.key = .ok key →
      Holds goal key ((World.ofStore s).run earlier).store.records[key]? values
        (creators goal key (start ((World.ofStore s).run earlier) values retries) turns)
        ((start ((World.ofStore s).run earlier) values retries).run goal turns) :=
    fun key addressed => (holds_start sound retries).run addressed (undisturbed key addressed)
  constructor
  · intro key addressed
    rcases (holds key addressed).record with ⟨none, -⟩ | ⟨_, _, _, one, -⟩
    · rw [none]
      exact Nat.zero_le 1
    · rw [one]
      exact Nat.le_refl 1
  · intro key e addressed stored
    rcases (holds key addressed).record with ⟨none, unchanged⟩ | ⟨_, _, _, -, vacant, -⟩
    · exact ⟨none, unchanged.trans stored⟩
    · cases vacant.symm.trans stored
  · intro key addressed absent
    rcases (holds key addressed).record with ⟨none, unchanged⟩ | ⟨k, m, e, one, -, stored, creates⟩
    · exact .inl ⟨none, unchanged.trans absent⟩
    · exact .inr ⟨k, m, e, one, creates, stored⟩
  · intro k m ended
    cases addressed : goal.key with
    | error cause =>
      exact absurd ended (ne_returned_of_run addressed (fun _ => .looking ..) k m)
    | ok key =>
      obtain ⟨e, stored, shows⟩ := ((holds key addressed).fits k).shows_of_returned ended
      rw [(holds key addressed).values_eq k] at shows
      exact ⟨key, e, rfl, shows.entity_eq addressed (Store.keyed _ key e stored), stored, shows⟩

/-- A counter of visits. -/
def counter : Goal where
  schema := {
    kind := "Counter"
    properties :=
      [{ kind := .integer, binding := some ⟨"Counter", "visits"⟩, storage := some "visits" }]
    declared := ["visits"]
    unindexed := ∅
    ancestry := []
    isExpando := false
    isAbstract := false }
  name := "main"
  parent := none

/-- Every call wants a number of its own. -/
def visits (k : Nat) : List (String × Value) :=
  [("visits", .integer (.ofNat k))]

/-- Surroundings without schemas, at the start of the epoch. -/
def midnight : Surroundings where
  registry := {}
  moment := ⟨⟨.epoch, .midnight⟩, none⟩
  configuration := {}

/-- Two calls find no counter, and both put one.  The second commits first, so that the first, after
another counter was put, has to look again. -/
def collision : List Turn :=
  [.caller 0 midnight, .caller 1 midnight, .caller 0 midnight, .caller 1 midnight,
    .caller 0 midnight, .caller 1 midnight, .caller 1 midnight,
    .other (.direct (.put [{ key := ⟨[⟨"Counter", some (.name "other")⟩]⟩ }]) ⟨none, .strong⟩),
    .caller 0 midnight, .caller 0 midnight, .caller 0 midnight]

/-- The start of their race, with an empty store. -/
def colliding : Race :=
  start ((World.ofStore {}).run []) visits fun _ => 3

theorem createsOne_of_collision :
    (∀ key, counter.key = .ok key →
      Undisturbed counter key colliding collision ∧
      creators counter key colliding collision = [1]) ∧
    (∀ k < 2, ∃ m, ((colliding.run counter collision).callers k).phase = .returned m) ∧
    CreatesOne counter visits colliding collision := by
  have undisturbed : ∀ key, counter.key = .ok key →
      Undisturbed counter key colliding collision := by
    rintro key ⟨⟩
    refine ⟨trivial, trivial, trivial, trivial, trivial, trivial, trivial, ?_, trivial, trivial,
      trivial, trivial⟩
    rw [Spared]
    decide
  refine ⟨fun key addressed => ⟨undisturbed key addressed, ?_⟩, ?_, ?_⟩
  · cases addressed
    decide +kernel
  · exact fun
      | 0, _ => ⟨_, rfl⟩
      | 1, _ => ⟨_, rfl⟩
  · exact createsOne {} [] counter visits (fun _ => 3) collision undisturbed

end Race

end EntityStore
