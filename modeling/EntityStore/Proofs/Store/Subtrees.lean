import EntityStore.Proofs.Key.Ancestry
import EntityStore.Proofs.Store.Ids

/-!
# The subtrees below fresh keys

A key that is put keeps its own number from being handed out, but not the numbers above it in its
path.  So the store can hand out an id under which records lie already: the new record then has
descendants that it never got, and a new root joins an entity group that exists.

This cannot happen from a store on exactly when the paths of its records name no number that is
still to be handed out, as long as every record is put below numbers that are used up.
-/

namespace EntityStore

namespace Store

/-- Whether an id is never handed out from now on.  The largest id never is. -/
def Spent (s : Store) (id : Int64) : Prop :=
  id < s.nextId ∨ id.toInt = maxId

/-- Whether all numbers of a path are spent. -/
def SpentAlong (s : Store) (path : List PathElement) : Prop :=
  ∀ element ∈ path, ∀ id, element.id = some (.number id) → s.Spent id

/-- Whether all records lie along spent numbers. -/
def Settled (s : Store) : Prop :=
  s.Stocks fun s key => s.SpentAlong key.path

/-- Whether a key opens an empty subtree: no record lies at it or below it, and if it is a root, no
record lies in its entity group. -/
structure OpensEmpty (s : Store) (key : Key) : Prop where
  childless : ∀ other ∈ s.records, key.isAncestorOf other = false
  groupless : key.parent? = none → ∀ other ∈ s.records, other.root ≠ key.root

end Store

namespace World

/-- Whether every record is put below spent numbers. -/
def PutsBelowSpent (w : World) (events : List Event) : Prop :=
  ∀ e s, w.Puts events e s → s.SpentAlong e.key.path.dropLast

/-- Whether a put that completes an open key always opens an empty subtree. -/
def OpensEmpty (w : World) (events : List Event) : Prop :=
  ∀ e s, w.Puts events e s → e.key.id? = none →
    ∀ key s', (Store.complete e.key).runOn s = (.ok key, s') → s.OpensEmpty key

end World

/-- Whether completed keys open empty subtrees in all runs from a store that put their records below
spent numbers. -/
def Store.AlwaysOpensEmpty (s : Store) : Prop :=
  ∀ later, (∀ event ∈ later, event.HasPaths) →
    (World.ofStore s).PutsBelowSpent later → (World.ofStore s).OpensEmpty later

namespace Store

variable {s s' : Store} {key key' : Key}

/-! ## Numbers along paths -/

theorem Spent.mono {id : Int64} (spent : s.Spent id) (le : s.nextId ≤ s'.nextId) : s'.Spent id :=
  spent.imp_left fun before => Int64.lt_of_lt_of_le before le

theorem SpentAlong.mono {path : List PathElement} (spent : s.SpentAlong path)
    (le : s.nextId ≤ s'.nextId) : s'.SpentAlong path :=
  fun element inside id numbered => (spent element inside id numbered).mono le

theorem spentAlong_append {initial rest : List PathElement} :
    s.SpentAlong (initial ++ rest) ↔ s.SpentAlong initial ∧ s.SpentAlong rest :=
  List.forall_mem_append

theorem lasts_spentAlong : Lasts fun s key => s.SpentAlong key.path :=
  ⟨fun le spent => spent.mono le⟩

/-- A key lies along spent numbers if those above it are spent and its own is no longer to be handed
out. -/
theorem Taken.spentAlong (taken : s.Taken key) (above : s.SpentAlong key.path.dropLast) :
    s.SpentAlong key.path := by
  by_cases nowhere : key.path = []
  · simp [SpentAlong, nowhere]
  · rw [← List.dropLast_concat_getLast nowhere]
    refine spentAlong_append.mpr ⟨above, ?_⟩
    intro element own id numbered
    cases List.mem_singleton.mp own
    refine .inl (taken id ?_)
    simp [Key.number?, Key.id?, List.getLast?_eq_some_getLast nowhere, numbered,
      Identifier.number?]

theorem dropLast_of_complete (answered : (complete key).runOn s = (.ok key', s')) :
    key'.path.dropLast = key.path.dropLast := by
  rcases complete_cases answered with ⟨-, rfl⟩ | ⟨-, id, rfl⟩
  · rfl
  · unfold Key.withNumber
    cases key.path.getLast? with
    | none => rfl
    | some last => exact List.dropLast_concat

/-- A record that is put below spent numbers lies along spent numbers. -/
theorem enters_spentAlong {e : Entity} (above : s.SpentAlong e.key.path.dropLast) :
    e.Enters (fun s key => s.SpentAlong key.path) s := by
  intro key s' answered
  have completes := completes_of_runOn answered
  apply completes.taken.spentAlong
  rw [dropLast_of_complete answered]
  exact above.mono completes.le

/-! ## Fresh keys in a settled store -/

/-- The id that is handed out next is not spent. -/
theorem not_spent_of_complete (isOpen : key.id? = none)
    (answered : (complete key).runOn s = (.ok key', s')) : ¬ s.Spent s.nextId := by
  have next := s.exactIds.completion_of_open key key' s' isOpen answered
  have fits := s'.nextId.toInt_le
  rintro (before | last)
  · exact Int64.lt_irrefl before
  · rw [maxId] at last
    omega

theorem mem_path_of_number? {id : Int64} (numbered : key.number? = some id) :
    ∃ element ∈ key.path, element.id = some (.number id) := by
  rcases Option.bind_eq_some_iff.mp numbered with ⟨identifier, found, same⟩
  rcases Option.bind_eq_some_iff.mp found with ⟨last, isLast, identified⟩
  refine ⟨last, List.mem_of_getLast? isLast, ?_⟩
  rw [identified]
  cases identifier <;> cases same
  rfl

/-- A root stands above everything in its entity group. -/
theorem isAncestorOf_of_root_eq {other : Key} (isRoot : key.parent? = none)
    (same : other.root = key.root) : key.isAncestorOf other = true := by
  have short : key.path.length < 2 := by
    by_contra several
    simp [Key.parent?, several] at isRoot
  have own : key.path.take 1 = key.path := List.take_of_length_le (by omega)
  have initial : other.path.take 1 = key.path := (congrArg Key.path same).trans own
  exact Key.isAncestorOf_iff.mpr (initial ▸ List.take_prefix 1 other.path)

/-- In a settled store, a completed open key opens an empty subtree. -/
theorem Settled.opensEmpty (settled : s.Settled) (isOpen : key.id? = none)
    (nonempty : key.path ≠ []) (answered : (complete key).runOn s = (.ok key', s')) :
    s.OpensEmpty key' := by
  have childless : ∀ other ∈ s.records, key'.isAncestorOf other = false := by
    intro other stored
    by_contra above
    have fresh := (completes_of_runOn answered).granted isOpen nonempty
    rcases mem_path_of_number? fresh with ⟨element, inside, numbered⟩
    have initial := Key.isAncestorOf_iff.mp (Bool.of_not_eq_false above)
    apply not_spent_of_complete isOpen answered
    exact settled other stored element (initial.subset inside) _ numbered
  refine ⟨childless, ?_⟩
  intro isRoot other stored same
  have above := isAncestorOf_of_root_eq isRoot same
  rw [childless other stored] at above
  contradiction

/-! ## A number that is still to be handed out -/

theorem runOn_complete_of_fits {key : Key} {id : Int64} (numbered : key.id? = some (.number id))
    (fits : id.toInt + 1 ≤ maxId) (s : Store) :
    (complete key).runOn s =
      (.ok key, { s with nextId := max s.nextId (Int64.ofInt (id.toInt + 1)) }) := by
  rw [runOn_complete_number numbered, if_neg (by omega)]

theorem runOn_complete_of_room {key : Key} (isOpen : key.id? = none)
    (room : s.nextId.toInt + 1 ≤ maxId) :
    ∃ s', (complete key).runOn s = (.ok (key.withNumber s.nextId), s') := by
  have bounded : ((1 : Nat) : Int) ≤ maxId := by decide
  exact ⟨_, by rw [runOn_complete_open isOpen, runOn_allocate_of_fits (by omega) bounded room]⟩

theorem mem_write_of_mem {e : Entity} (stored : key ∈ s.records) :
    key ∈ (s.write key' (some e)).records := by
  rw [Std.ExtTreeMap.mem_iff_isSome_getElem?, getElem?_write]
  split
  · rfl
  · exact Std.ExtTreeMap.mem_iff_isSome_getElem?.mp stored

end Store

/-- A record at the end of a path. -/
def Entity.under (initial : List PathElement) (kind : String) (id : Option Identifier) :
    Entity where
  key := ⟨initial ++ [⟨kind, id⟩]⟩

/-- Puts a record with the number before an id, which makes the id the next one if it is still to be
handed out, and then a record without a number. -/
def Event.handOut (initial : List PathElement) (kind : String) (id : Int64) : Event :=
  .direct (.put [.under initial kind (some (.number (id - 1))), .under initial kind none])
    ⟨none, .strong⟩

section HandingOut

variable {initial : List PathElement} {kind : String} {id : Int64} {identifier : Option Identifier}

@[simp]
theorem Entity.dropLast_under : (under initial kind identifier).key.path.dropLast = initial :=
  List.dropLast_concat

@[simp]
theorem Entity.id?_under : (under initial kind identifier).key.id? = identifier := by
  simp [under, Key.id?]

theorem Entity.withNumber_under :
    (under initial kind identifier).key.withNumber id =
      ⟨initial ++ [⟨kind, some (.number id)⟩]⟩ := by
  simp [under, Key.withNumber]

namespace Store

variable {s s' : Store} {key : Key}

/-- Putting the number before an unspent id makes the id the next one and removes no record. -/
theorem runOn_putOne_before (positive : 1 ≤ s.nextId) (unspent : ¬ s.Spent id)
    (initial : List PathElement) (kind : String) :
    ∃ key s', (putOne (.under initial kind (some (.number (id - 1))))).runOn s = (.ok key, s') ∧
      s'.nextId = id ∧ ∀ key ∈ s.records, key ∈ s'.records := by
  obtain ⟨notBefore, notLast⟩ := not_or.mp unspent
  have least : 1 ≤ s.nextId.toInt := Int64.le_iff_toInt_le.mp positive
  have largest : id.toInt ≤ maxId := id.toInt_le
  have reached : s.nextId.toInt ≤ id.toInt := by
    rw [Int64.lt_iff_toInt_lt] at notBefore
    omega
  have before : (id - 1).toInt = id.toInt - 1 := by
    have one : (1 : Int64).toInt = 1 := rfl
    rw [maxId, Int64.toInt_maxValue] at largest
    rw [Int64.toInt_sub, one]
    exact Int.bmod_eq_of_le (by omega) (by omega)
  have numbered : (Entity.under initial kind (some (.number (id - 1)))).key.id? =
      some (.number (id - 1)) := Entity.id?_under
  have answered := runOn_complete_of_fits numbered (by omega) s
  have next := s.exactIds.completion_of_number _ _ _ _ numbered answered
  refine ⟨_, _, runOn_putOne_of_complete answered, ?_, fun key stored => mem_write_of_mem stored⟩
  apply Int64.toInt_inj.mp
  change Int64.toInt (max _ _) = _
  rw [next, before]
  omega

theorem putsBelowSpent_handOut (above : s.SpentAlong initial)
    (put : (putOne (.under initial kind (some (.number (id - 1))))).runOn s = (.ok key, s'))
    (le : s.nextId ≤ s'.nextId) : (World.ofStore s).PutsBelowSpent [.handOut initial kind id] := by
  rintro e s'' (puts | none)
  · cases puts with
    | first =>
        rw [Entity.dropLast_under]
        exact above
    | later answered reaches =>
        cases put.symm.trans answered
        cases reaches with
        | first =>
            rw [Entity.dropLast_under]
            exact above.mono le
        | later _ reaches => cases reaches
  · exact none.elim

/-- If an id is still to be handed out, two puts get there: the first uses up the number before it,
and the second gives it to an open key. -/
theorem spent_of_alwaysOpensEmpty (opens : s.AlwaysOpensEmpty) (positive : 1 ≤ s.nextId)
    (above : s.SpentAlong initial) (stored : key ∈ s.records)
    (lies : initial ++ [⟨kind, some (.number id)⟩] <+: key.path) : s.Spent id := by
  by_contra unspent
  rcases runOn_putOne_before positive unspent initial kind with ⟨prior, s', put, next, kept⟩
  rcases not_or.mp unspent with ⟨notBefore, notLast⟩
  have le : s.nextId ≤ s'.nextId := next ▸ Int64.not_lt.mp notBefore
  have room : s'.nextId.toInt + 1 ≤ maxId := by
    have largest : id.toInt ≤ maxId := id.toInt_le
    rw [next]
    omega
  have isOpen : (Entity.under initial kind none).key.id? = none := Entity.id?_under
  rcases runOn_complete_of_room isOpen room with ⟨s'', answered⟩
  have paths : ∀ event ∈ [Event.handOut initial kind id], event.HasPaths := by
    simp [Event.handOut, Event.HasPaths, Entity.under]
  have opened := opens _ paths (putsBelowSpent_handOut above put le) _ s' (.inl (.later put .first))
    isOpen _ s'' answered
  have childless := opened.childless key (kept key stored)
  rw [next, Entity.withNumber_under, Key.isAncestorOf_iff.mpr lies] at childless
  contradiction

/-- A store from which completed keys always open empty subtrees is settled: from the root
downwards, since the numbers above an element are spent before it can be put. -/
theorem AlwaysOpensEmpty.settled (opens : s.AlwaysOpensEmpty) (positive : 1 ≤ s.nextId) :
    s.Settled := by
  intro key stored
  have along : ∀ initial, initial <+: key.path → s.SpentAlong initial := by
    intro initial lies
    induction initial using List.reverseRecOn with
    | nil => exact fun _ inside => nomatch inside
    | append_singleton initial last inductionHypothesis =>
        have above := inductionHypothesis ((List.prefix_append _ _).trans lies)
        refine spentAlong_append.mpr ⟨above, ?_⟩
        intro element own id numbered
        cases List.mem_singleton.mp own
        obtain ⟨kind, identifier⟩ := last
        cases numbered
        exact spent_of_alwaysOpensEmpty opens positive above stored lies
  exact along key.path (List.prefix_refl _)

end Store

end HandingOut

theorem Store.Settled.alwaysOpensEmpty {s : Store} (settled : s.Settled) :
    s.AlwaysOpensEmpty := by
  intro later paths below e moment puts isOpen key s' answered
  have moments := (World.stocks_ofStore settled).run lasts_spentAlong fun e s puts =>
    enters_spentAlong (below e s puts)
  have settledThen : moment.Settled := moments.2 e moment puts
  exact settledThen.opensEmpty isOpen (World.path_ne_nil_of_puts paths puts) answered

/-- From a store that a run leads to, completed keys open empty subtrees, whatever calls and
transactions put records below spent numbers, exactly when the store is settled. -/
theorem World.opensEmpty_iff_settled {earlier : List Event}
    (paths : ∀ event ∈ earlier, event.HasPaths) :
    ((ofStore {}).run earlier).store.AlwaysOpensEmpty ↔
      ((ofStore {}).run earlier).store.Settled := by
  have positive := (orderly_empty.run paths).1.positive
  exact ⟨fun opens => opens.settled positive, fun settled => settled.alwaysOpensEmpty⟩

/-- A story is put, and a transaction puts a comment below it. -/
def publication : List Event :=
  [.direct (.put [.under [] "Story" none]) ⟨none, .strong⟩,
    .inside 0 (.put [.under [⟨"Story", some (.number 1)⟩] "Comment" none]) ⟨none, .strong⟩,
    .commit 0]

theorem settled_publication : ((World.ofStore {}).run publication).store.Settled := by
  have below : (World.ofStore {}).PutsBelowSpent publication := by
    rintro e s (story | ⟨t, comment⟩ | commit | none)
    · cases story with
      | first => exact fun _ inside => nomatch inside
      | later _ reaches => cases reaches
    · cases comment with
      | first =>
          intro element inside id numbered
          cases List.mem_singleton.mp inside
          cases numbered
          exact .inl (by decide)
      | later _ reaches => cases reaches
    · exact commit.elim
    · exact none.elim
  have stocks := World.stocks_empty.run Store.lasts_spentAlong fun e s puts =>
    Store.enters_spentAlong (below e s puts)
  exact stocks.1.store

/-- Whatever is put below spent numbers after the publication, fresh keys open empty subtrees. -/
theorem opensEmpty_publication :
    (∀ event ∈ publication, event.HasPaths) ∧
      ((World.ofStore {}).run publication).store.nextId = 3 ∧
      ((World.ofStore {}).run publication).store.AlwaysOpensEmpty := by
  have paths : ∀ event ∈ publication, event.HasPaths := by
    simp [publication, Event.HasPaths, Entity.under]
  exact ⟨paths, by decide, (World.opensEmpty_iff_settled paths).mpr settled_publication⟩

/-- A comment is put below a story that was never put, and then a story. -/
def adoption : List Event :=
  [.direct (.put [.under [⟨"Story", some (.number 1)⟩] "Comment" (some (.name "a"))])
      ⟨none, .strong⟩,
    .direct (.put [.under [] "Story" none]) ⟨none, .strong⟩]

/-- The story gets the number under which the comment lies. -/
theorem adoption_not_opensEmpty :
    (∀ event ∈ adoption, event.HasPaths) ∧ ¬ (World.ofStore {}).OpensEmpty adoption := by
  constructor
  · simp [adoption, Event.HasPaths, Entity.under]
  · intro opens
    have room : ((World.ofStore {}).run (adoption.take 1)).store.nextId.toInt + 1 ≤
        Store.maxId := by
      decide
    have isOpen : (Entity.under [] "Story" none).key.id? = none := rfl
    rcases Store.runOn_complete_of_room isOpen room with ⟨s', answered⟩
    have opened := opens _ _ (.inr (.inl .first)) isOpen _ s' answered
    have comment := opened.childless ⟨[⟨"Story", some (.number 1)⟩, ⟨"Comment", some (.name "a")⟩]⟩
      (by decide +kernel)
    revert comment
    decide

end EntityStore
