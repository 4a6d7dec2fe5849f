import EntityStore.Proofs.Store.Keys

/-!
# The stores that can be reached

Whatever calls, transactions and commits a store has been through since it was empty, no record in
it lies under an open key: a put completes the key first, and a commit only stores what was put
inside its transaction.
-/

namespace EntityStore

/-- Whether a key has an identifier if it has a path at all. -/
def Key.Closed (key : Key) : Prop :=
  key.path ≠ [] → key.hasIdentifier = true

namespace Store

variable {s s' : Store} {key key' : Key}

theorem closed_of_complete (answered : (complete key).runOn s = (.ok key', s')) :
    key'.Closed := by
  intro nonempty
  rcases complete_cases answered with ⟨identified, rfl⟩ | ⟨-, id, rfl⟩
  · exact identified
  · have pathed : key.path ≠ [] := by
      intro empty
      simp [Key.withNumber, empty] at nonempty
    rcases Option.bind_eq_some_iff.mp (number?_withNumber pathed id) with ⟨identifier, found, -⟩
    rw [Key.hasIdentifier, found]
    rfl

/-- Whether a run leads from an empty store to this one. -/
def Reached (s : Store) : Prop :=
  ∃ events, ((World.ofStore {}).run events).store = s

theorem reached_empty : ({} : Store).Reached :=
  ⟨[], rfl⟩

/-- In a store that can be reached, no record lies under an open key. -/
theorem Reached.closed (reached : s.Reached) (stored : key ∈ s.records) : key.Closed := by
  rcases reached with ⟨events, rfl⟩
  have lasts : Lasts fun _ key => key.Closed := ⟨fun _ closed => closed⟩
  have closed : ((World.ofStore {}).run events).Stocks fun _ key => key.Closed :=
    (World.stocks_empty.run lasts fun _ _ _ _ _ answered => closed_of_complete answered).1
  exact closed.store key stored

end Store

end EntityStore
