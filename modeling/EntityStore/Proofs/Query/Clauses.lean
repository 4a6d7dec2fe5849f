import EntityStore.Model.Basic
import EntityStore.Proofs.Query.Projection
import EntityStore.Proofs.Value.Shape

/-!
# The clauses that reach the store

A call that adds clauses resolves their property, takes apart the operators that the store cannot
evaluate, widens the values that it compares with, and refuses values that are no keys where keys
are compared.  All of them multiply the sets of the query by the comparisons of one property.  So
whatever chain of calls builds a query, its clauses are fit for the store as far as these checks go.

The operand of a plain filter must not be a list.  Nothing is said of the choices of a membership
and of the values of a disjunction: a list among them becomes an operand, with the dates and times
of day in it.  So all clauses can be executed exactly if no call lists a list, unless there are no
sets left.
-/

namespace EntityStore

/-! ## What the store can execute -/

/-- Whether the clauses and orders of a query may name a property: the name of the key, the storage
name of an indexed declared property, or a name that an expando kind does not declare. -/
inductive Query.Addresses : Option Schema → String → Prop where
  | key {schema : Option Schema} : Addresses schema Key.propertyName
  | declared {schema : Schema} {p : Property} (member : p ∈ schema.properties)
      (indexed : p.isIndexed) : Addresses (some schema) p.storageName
  | undeclared {schema : Schema} {name : String} (expando : schema.isExpando)
      (unknown : ∀ p ∈ schema.properties, p.attributeName ≠ name ∧ p.storageName ≠ name) :
      Addresses (some schema) name

namespace Clause

/-- Whether a clause compares by an operator of the store, names a property that the query may
name, and compares the key with keys and nothing with a date or a time of day. -/
structure Checked (schema : Option Schema) (c : Clause) : Prop where
  primitive : c.operator.isPrimitive
  addressed : Query.Addresses schema c.property
  keyed : c.property = Key.propertyName → c.operand.type = .key
  widened : c.operand.type ≠ .date ∧ c.operand.type ≠ .time

/-- Whether a store can execute a clause: its operand is no list either, and there is no date and no
time of day in it. -/
structure Executable (schema : Option Schema) (c : Clause) : Prop extends Checked schema c where
  single : c.operand.type ≠ .list
  timeless : ∀ w : Value, w.Within c.operand → w.type ≠ .date ∧ w.type ≠ .time

theorem Checked.executable_iff {schema : Option Schema} {c : Clause} (checked : c.Checked schema) :
    c.Executable schema ↔ c.operand.type ≠ .list := by
  constructor
  · exact Executable.single
  · intro single
    refine ⟨checked, single, ?_⟩
    have scalar : ∀ items, c.operand ≠ .list items := by
      intro items isList
      exact single (by rw [isList]; rfl)
    intro w inside
    rw [(Value.within_of_scalar scalar).mp inside]
    exact checked.widened

end Clause

namespace Value

theorem type_widen (v : Value) : v.widen.type ≠ .date ∧ v.widen.type ≠ .time := by
  cases v <;> simp [widen, type]

theorem type_widen_list_iff (v : Value) : v.widen.type = .list ↔ v.type = .list := by
  cases v <;> simp [widen, type]

/-- The values that a filter compares with, of which a membership lists several. -/
def choices : Value → List Value
  | .list items => items
  | v => [v]

theorem choices_of_scalar {v : Value} (scalar : ∀ items, v ≠ .list items) : v.choices = [v] := by
  cases v <;> first | rfl | exact absurd rfl (scalar _)

end Value

namespace Query

/-- A property that is resolved may be named. -/
theorem addresses_of_resolveProperty {q : Query} {name property : String}
    (resolved : q.resolveProperty name = .ok property) : Addresses q.schema property := by
  unfold resolveProperty at resolved
  split at resolved
  · rename_i isKey
    cases resolved
    rw [isKey]
    exact .key
  · cases bound : q.schema with
    | none =>
        rw [bound] at resolved
        exact absurd resolved Failure.throw_ne_ok
    | some schema =>
        rw [bound] at resolved
        cases found : (schema.property? name).or (schema.propertyByStorageName? name) with
        | some p =>
            simp only [found, Failure.require_eq_ok_iff, Failure.pure_eq_ok_iff] at resolved
            obtain ⟨indexed, rfl⟩ := resolved
            rcases Option.or_eq_some_iff.mp found with byAttribute | ⟨-, byStorageName⟩
            · exact .declared (List.mem_of_find?_eq_some byAttribute) indexed
            · exact .declared (List.mem_of_find?_eq_some byStorageName) indexed
        | none =>
            simp only [found, Failure.require_eq_ok_iff, Failure.pure_eq_ok_iff] at resolved
            obtain ⟨expando, rfl⟩ := resolved
            obtain ⟨noAttribute, noStorageName⟩ := Option.or_eq_none_iff.mp found
            refine .undeclared expando fun p member => ?_
            constructor
            · simpa using List.find?_eq_none.mp noAttribute p member
            · simpa using List.find?_eq_none.mp noStorageName p member

/-- Without a schema only the key may be named. -/
theorem Addresses.eq_key {property : String} (addressed : Addresses none property) :
    property = Key.propertyName := by
  cases addressed
  rfl

theorem type_of_checkKeyOperands {property : String} {operands : List Value}
    (checked : checkKeyOperands property operands = .ok ()) (isKey : property = Key.propertyName) :
    ∀ v ∈ operands, v.type = .key := by
  intro v member
  rw [checkKeyOperands, if_pos isKey] at checked
  split at checked
  · exact absurd checked Failure.throw_ne_ok
  · rename_i noOther
    have isSome := List.find?_eq_none.mp noOther v member
    cases v <;> simp_all [Value.key?, Value.type]

theorem queries_compile (q : Query) : q.compile.queries = q.sets.map q.primitive := by
  rcases q.compile_cases with ⟨set, oneSet, single⟩ | multiple
  · rw [single, oneSet]
    rfl
  · rw [multiple]
    rfl

/-! ## Multiplying the sets -/

/-- How the sets of a query become those of another: each is continued by all comparisons of a
property by some operators with the widened forms of some values. -/
structure Multiplies (q q' : Query) (property : String) (operators : List Operator)
    (values : List Value) : Prop where
  addressed : Addresses q.schema property
  primitive : ∀ op ∈ operators, op.isPrimitive
  keyed : property = Key.propertyName → ∀ v ∈ values, v.widen.type = .key
  sets_eq : q'.sets = multiplySets q.sets property operators (values.map Value.widen)
  schema_eq : q'.schema = q.schema
  orders_eq : q'.orders = q.orders

theorem Multiplies.mem_sets_iff {q q' : Query} {property : String} {operators : List Operator}
    {values : List Value} (multiplies : Multiplies q q' property operators values)
    {set : List Clause} :
    set ∈ q'.sets ↔ ∃ before ∈ q.sets, ∃ op ∈ operators, ∃ v ∈ values,
      set = before ++ [⟨property, op, v.widen⟩] := by
  simp only [multiplies.sets_eq, multiplySets, List.mem_flatMap, List.mem_map]
  grind

theorem multiplies_of_disjoin {q q' : Query} {property : String} {operators : List Operator}
    {values : List Value} (addressed : Addresses q.schema property)
    (checked : checkKeyOperands property (values.map Value.widen) = .ok ())
    (disjoined : q.disjoin property operators (values.map Value.widen) = .ok q') :
    Multiplies q q' property operators values := by
  simp only [disjoin, Failure.refuse_eq_ok_iff, Failure.pure_eq_ok_iff] at disjoined
  obtain ⟨primitive, -, rfl⟩ := disjoined
  refine ⟨addressed, ?_, ?_, rfl, rfl, rfl⟩
  · intro op listed
    simp only [List.any_eq_true, not_exists, not_and, Bool.not_eq_true, Bool.not_eq_false']
      at primitive
    exact primitive op listed
  · intro isKey v listed
    exact type_of_checkKeyOperands checked isKey _ (List.mem_map_of_mem listed)

theorem multiplies_of_conjoin {q : Query} {property : String} {operator : Operator}
    {operand : Value} (addressed : Addresses q.schema property) (primitive : operator.isPrimitive)
    (checked : checkKeyOperands property [operand.widen] = .ok ()) :
    Multiplies q (q.conjoin ⟨property, operator, operand.widen⟩) property [operator] [operand] where
  addressed := addressed
  primitive op listed := List.mem_singleton.mp listed ▸ primitive
  keyed isKey v listed := by
    rw [List.mem_singleton.mp listed]
    exact type_of_checkKeyOperands checked isKey _ List.mem_cons_self
  sets_eq := by simp [conjoin, multiplySets, List.map_eq_flatMap]
  schema_eq := rfl
  orders_eq := rfl

/-- A filter multiplies the sets by the comparisons with its choices. -/
theorem multiplies_of_filterResolved {q q' : Query} {property : String} {operator : Operator}
    {operand : Value} (addressed : Addresses q.schema property)
    (accepted : q.filterResolved property operator operand = .ok q') :
    ∃ operators, Multiplies q q' property operators operand.choices := by
  unfold filterResolved at accepted
  split at accepted
  · obtain ⟨-, accepted⟩ := Failure.refuse_eq_ok_iff.mp accepted
    split at accepted
    · obtain ⟨_, checked, disjoined⟩ := Failure.exists_of_bind_eq_ok accepted
      exact ⟨_, multiplies_of_disjoin addressed checked disjoined⟩
    · exact absurd accepted Failure.throw_ne_ok
  · exact absurd accepted Failure.throw_ne_ok
  · rename_i scalar
    obtain ⟨-, accepted⟩ := Failure.refuse_eq_ok_iff.mp accepted
    obtain ⟨_, checked, disjoined⟩ := Failure.exists_of_bind_eq_ok accepted
    have multiplies : Multiplies q q' property [.lessThan, .greaterThan] [operand] :=
      multiplies_of_disjoin addressed checked disjoined
    rw [Value.choices_of_scalar scalar]
    exact ⟨_, multiplies⟩
  · rename_i notIn notUnequal scalar
    obtain ⟨_, checked, conjoined⟩ := Failure.exists_of_bind_eq_ok accepted
    cases conjoined
    have primitive : operator.isPrimitive := by
      cases operator <;> simp_all [Operator.isPrimitive]
    rw [Value.choices_of_scalar scalar]
    exact ⟨[operator], multiplies_of_conjoin addressed primitive checked⟩

end Query

/-- The values that a filter compares with. -/
def FilterCall.compared : FilterCall → List Value
  | .filter _ operand => operand.choices
  | .disjunction _ _ values => values

theorem FilterCall.multiplies_of_apply {q q' : Query} {call : FilterCall}
    (accepted : call.apply q = .ok q') :
    ∃ property operators, q.Multiplies q' property operators call.compared := by
  cases call with
  | filter text operand =>
      obtain ⟨⟨name, operator⟩, -, accepted⟩ := Failure.exists_of_bind_eq_ok accepted
      obtain ⟨property, resolved, added⟩ := Failure.exists_of_bind_eq_ok accepted
      exact ⟨property, Query.multiplies_of_filterResolved
        (Query.addresses_of_resolveProperty resolved) added⟩
  | disjunction name operators values =>
      obtain ⟨property, resolved, accepted⟩ := Failure.exists_of_bind_eq_ok accepted
      obtain ⟨_, checked, disjoined⟩ := Failure.exists_of_bind_eq_ok accepted
      exact ⟨property, operators, Query.multiplies_of_disjoin
        (Query.addresses_of_resolveProperty resolved) checked disjoined⟩

/-! ## Chains of calls -/

/-- What stands for a key: the key itself, or an instance that has one. -/
inductive KeyArgument where
  | key (key : Key)
  | model (m : Model)

/-- The key that the argument stands for. -/
def KeyArgument.asKey : KeyArgument → Except Failure Key
  | .key k => return k
  | .model m => m.key

/-- A call in a chain that builds a query. -/
inductive ChainCall where
  | build (call : BuildCall)
  | filterKey (text : String) (target : KeyArgument)
  | underTarget (target : KeyArgument)
  | resume (token : String)

namespace ChainCall

/-- Makes the call on a query. -/
def apply (q : Query) : ChainCall → Except Failure Query
  | .build call => call.apply q
  | .filterKey text target => do q.filter text (.key (← target.asKey))
  | .underTarget target => do q.under (← target.asKey)
  | .resume token => q.resume token

/-- Makes some calls on a query that has no conditions yet. -/
def chain (calls : List ChainCall) (schema : Option Schema) (maxSets : Nat)
    (recordsCursor : Bool) : Except Failure Query :=
  calls.foldlM apply { schema, maxSets, recordsCursor }

/-- The values that a call compares with. -/
def compared : ChainCall → List Value
  | .build (.narrow filter) => filter.compared
  | .filterKey _ target => target.asKey.toOption.toList.map .key
  | _ => []

end ChainCall

namespace Query

/-- What a call does that adds no clause: it may add an order by a property that may be named, which
without a schema ascends. -/
structure Adjusts (q q' : Query) : Prop where
  schema_eq : q'.schema = q.schema
  sets_eq : q'.sets = q.sets
  ordered : ∀ o ∈ q'.orders, o ∈ q.orders ∨
    Addresses q.schema o.property ∧ (q.schema = none → o.direction = .ascending)

theorem adjusts_of_order {q q' : Query} {text : String} (accepted : q.order text = .ok q') :
    q.Adjusts q' := by
  simp only [order, Failure.guard_eq_ok_iff, Failure.bind_eq_ok_iff, Failure.pure_eq_ok_iff]
    at accepted
  obtain ⟨allowed, property, resolved, rfl⟩ := accepted
  refine ⟨rfl, rfl, fun o member => ?_⟩
  rcases List.mem_append.mp member with before | added
  · exact .inl before
  · right
    rw [List.mem_singleton.mp added]
    refine ⟨addresses_of_resolveProperty resolved, fun kindless => ?_⟩
    simp only [kindless, Option.isNone_none, true_and, not_or, not_not] at allowed
    exact allowed.2

theorem adjusts_of_under {q q' : Query} {ancestor : Key} (accepted : q.under ancestor = .ok q') :
    q.Adjusts q' := by
  rw [Request.eq_of_under accepted]
  exact ⟨rfl, rfl, fun o => .inl⟩

theorem adjusts_of_askKeysOnly {q q' : Query} (accepted : q.askKeysOnly = .ok q') :
    q.Adjusts q' := by
  obtain ⟨-, asked⟩ := Failure.refuse_eq_ok_iff.mp accepted
  cases asked
  exact ⟨rfl, rfl, fun o => .inl⟩

theorem adjusts_of_resume {q q' : Query} {token : String} (accepted : q.resume token = .ok q') :
    q.Adjusts q' := by
  unfold resume at accepted
  split at accepted
  · cases accepted
    exact ⟨rfl, rfl, fun o => .inl⟩
  · obtain ⟨cursor, -, resumed⟩ := Failure.exists_of_bind_eq_ok accepted
    cases resumed
    exact ⟨rfl, rfl, fun o => .inl⟩

end Query

namespace ChainCall

/-- A call multiplies the sets by the comparisons with its values, or adds no clause at all. -/
theorem cases_of_apply {q q' : Query} {call : ChainCall} (accepted : call.apply q = .ok q') :
    (∃ property operators, q.Multiplies q' property operators call.compared) ∨
      (call.compared = [] ∧ q.Adjusts q') := by
  cases call with
  | build call =>
      cases call with
      | narrow filter => exact .inl (FilterCall.multiplies_of_apply accepted)
      | order text => exact .inr ⟨rfl, Query.adjusts_of_order accepted⟩
      | under ancestor => exact .inr ⟨rfl, Query.adjusts_of_under accepted⟩
      | askKeysOnly => exact .inr ⟨rfl, Query.adjusts_of_askKeysOnly accepted⟩
  | filterKey text target =>
      obtain ⟨key, named, added⟩ := Failure.exists_of_bind_eq_ok accepted
      have multiplies := @FilterCall.multiplies_of_apply q q' (.filter text (.key key)) added
      rw [compared, named]
      exact .inl multiplies
  | underTarget target =>
      obtain ⟨key, -, restricted⟩ := Failure.exists_of_bind_eq_ok accepted
      exact .inr ⟨rfl, Query.adjusts_of_under restricted⟩
  | resume token => exact .inr ⟨rfl, Query.adjusts_of_resume accepted⟩

/-- What every query that calls build over a schema satisfies: its clauses are checked, and it is
sorted by what it may name, without a schema only in ascending order. -/
structure Proper (schema : Option Schema) (q : Query) : Prop where
  schema_eq : q.schema = schema
  clauses : ∀ set ∈ q.sets, ∀ c ∈ set, c.Checked schema
  orders : ∀ o ∈ q.orders, Query.Addresses schema o.property ∧
    (schema = none → o.direction = .ascending)

variable {schema : Option Schema} {maxSets : Nat} {recordsCursor : Bool} {calls : List ChainCall}
  {q q' : Query} {call : ChainCall}

theorem Proper.apply (proper : Proper schema q) (accepted : call.apply q = .ok q') :
    Proper schema q' := by
  rcases cases_of_apply accepted with ⟨property, operators, multiplies⟩ | ⟨-, adjusts⟩
  · refine ⟨multiplies.schema_eq.trans proper.schema_eq, ?_, ?_⟩
    · intro set listed c member
      obtain ⟨before, ofQuery, op, opListed, v, compared, rfl⟩ := multiplies.mem_sets_iff.mp listed
      rcases List.mem_append.mp member with old | new
      · exact proper.clauses before ofQuery c old
      · rw [List.mem_singleton.mp new, ← proper.schema_eq]
        exact ⟨multiplies.primitive op opListed, multiplies.addressed,
          fun isKey => multiplies.keyed isKey v compared, v.type_widen⟩
    · rw [multiplies.orders_eq]
      exact proper.orders
  · refine ⟨adjusts.schema_eq.trans proper.schema_eq, ?_, ?_⟩
    · rw [adjusts.sets_eq]
      exact proper.clauses
    · intro o ordered
      rcases adjusts.ordered o ordered with old | new
      · exact proper.orders o old
      · rwa [proper.schema_eq] at new

theorem proper_of_chain (accepted : chain calls schema maxSets recordsCursor = .ok q) :
    Proper schema q :=
  Failure.invariant_of_foldlM (fun _ _ => Proper.apply) ⟨rfl, by simp, by simp⟩ accepted

/-! ### Lists among the operands -/

/-- A call that compares with no list adds no clause with a list for an operand. -/
theorem listless_of_apply (none : ∀ v ∈ call.compared, v.type ≠ .list)
    (before : ∀ set ∈ q.sets, ∀ c ∈ set, c.operand.type ≠ .list)
    (accepted : call.apply q = .ok q') : ∀ set ∈ q'.sets, ∀ c ∈ set, c.operand.type ≠ .list := by
  rcases cases_of_apply accepted with ⟨property, operators, multiplies⟩ | ⟨-, adjusts⟩
  · intro set listed c member
    obtain ⟨old, ofQuery, op, -, v, compared, rfl⟩ := multiplies.mem_sets_iff.mp listed
    rcases List.mem_append.mp member with inOld | new
    · exact before old ofQuery c inOld
    · rw [List.mem_singleton.mp new]
      exact fun isList => none v compared (v.type_widen_list_iff.mp isList)
  · rwa [adjusts.sets_eq]

/-- Whether a query has no sets left, or a clause of it has a list for an operand. -/
def ListsOrEmpty (q : Query) : Prop :=
  q.sets = [] ∨ ∃ set ∈ q.sets, ∃ c ∈ set, c.operand.type = .list

/-- A list among the values that a call compares with becomes an operand. -/
theorem lists_of_apply (some : ∃ v ∈ call.compared, v.type = .list)
    (accepted : call.apply q = .ok q') : ListsOrEmpty q' := by
  obtain ⟨v, compared, isList⟩ := some
  rcases cases_of_apply accepted with ⟨property, operators, multiplies⟩ | ⟨nothing, -⟩
  · by_cases empty : q'.sets = []
    · exact .inl empty
    · obtain ⟨other, left⟩ := List.exists_mem_of_ne_nil _ empty
      obtain ⟨before, ofQuery, op, opListed, -⟩ := multiplies.mem_sets_iff.mp left
      exact .inr ⟨_, multiplies.mem_sets_iff.mpr ⟨before, ofQuery, op, opListed, v, compared, rfl⟩,
        _, List.mem_append_right _ List.mem_cons_self, v.type_widen_list_iff.mpr isList⟩
  · simp [nothing] at compared

/-- Clauses are never taken back: sets are continued or dropped all together. -/
theorem ListsOrEmpty.apply (before : ListsOrEmpty q) (accepted : call.apply q = .ok q') :
    ListsOrEmpty q' := by
  rcases cases_of_apply accepted with ⟨property, operators, multiplies⟩ | ⟨-, adjusts⟩
  · by_cases empty : q'.sets = []
    · exact .inl empty
    · obtain ⟨other, left⟩ := List.exists_mem_of_ne_nil _ empty
      obtain ⟨start, ofQuery, op, opListed, v, compared, -⟩ := multiplies.mem_sets_iff.mp left
      rcases before with noSets | ⟨set, inSets, c, member, isList⟩
      · simp [noSets] at ofQuery
      · exact .inr ⟨_, multiplies.mem_sets_iff.mpr ⟨set, inSets, op, opListed, v, compared, rfl⟩,
          c, List.mem_append_left _ member, isList⟩
  · rwa [ListsOrEmpty, adjusts.sets_eq]

/-- An operand is a list exactly if a call compares with one, as long as there are sets left. -/
theorem listless_iff_of_chain (accepted : chain calls schema maxSets recordsCursor = .ok q) :
    (∀ set ∈ q.sets, ∀ c ∈ set, c.operand.type ≠ .list) ↔
      q.sets = [] ∨ ∀ call ∈ calls, ∀ v ∈ call.compared, v.type ≠ .list := by
  constructor
  · intro listless
    by_contra! listed
    obtain ⟨left, call, called, compares⟩ := listed
    have lists : ListsOrEmpty q :=
      Failure.outcome_of_foldlM called (lists_of_apply compares)
        (fun _ _ => ListsOrEmpty.apply) accepted
    rcases lists with noSets | ⟨set, inSets, c, member, isList⟩
    · exact left noSets
    · exact listless set inSets c member isList
  · rintro (noSets | none)
    · simp [noSets]
    · exact Failure.invariant_of_foldlM
        (P := fun q => ∀ set ∈ q.sets, ∀ c ∈ set, c.operand.type ≠ .list)
        (fun call called => listless_of_apply (none call called)) (by simp) accepted

/-- Every clause that a chain of calls builds is checked, and can be executed exactly if its operand
is no list; so all of them can exactly if no call compares with a list, or no sets are left.
Without a schema the clauses and the ascending orders look at nothing but the key. -/
theorem executable_iff_listless (accepted : chain calls schema maxSets recordsCursor = .ok q) :
    (∀ p ∈ q.compile.queries,
      (∀ c ∈ p.filters, c.Checked schema ∧ (c.Executable schema ↔ c.operand.type ≠ .list)) ∧
      (∀ o ∈ p.orders, Query.Addresses schema o.property) ∧
      (schema = none → (∀ c ∈ p.filters, c.property = Key.propertyName) ∧
        ∀ o ∈ p.orders, o = ⟨Key.propertyName, .ascending⟩)) ∧
    ((∀ p ∈ q.compile.queries, ∀ c ∈ p.filters, c.Executable schema) ↔
      q.compile.queries = [] ∨ ∀ call ∈ calls, ∀ v ∈ call.compared, v.type ≠ .list) := by
  have proper := proper_of_chain accepted
  rw [Query.queries_compile, List.map_eq_nil_iff, ← listless_iff_of_chain accepted]
  simp only [List.forall_mem_map]
  constructor
  · intro set inSets
    refine ⟨fun c member => ?_, fun o ordered => (proper.orders o ordered).1, ?_⟩
    · have checked := proper.clauses set inSets c member
      exact ⟨checked, checked.executable_iff⟩
    · rintro rfl
      constructor
      · intro c member
        exact (proper.clauses set inSets c member).addressed.eq_key
      · rintro ⟨property, direction⟩ ordered
        obtain ⟨addressed, ascending⟩ := proper.orders _ ordered
        have isKey : property = Key.propertyName := addressed.eq_key
        have ascends : direction = .ascending := ascending rfl
        rw [isKey, ascends]
  · constructor
    · intro executable set inSets c member
      exact (executable set inSets c member).single
    · intro listless set inSets c member
      exact (proper.clauses set inSets c member).executable_iff.mpr (listless set inSets c member)

/-- A kind of stories with the day they were told on. -/
def datedStories : Definition where
  kind := "Story"
  declared := [("day", { kind := .date {} })]

/-- The first two days that times of day are attached to. -/
def firstDays : List Value :=
  [.date .epoch, .date ⟨1970, 1, 2, by decide⟩]

/-- Asks for the stories of two days below a story, from a later key on, the last day first. -/
def storiesOfDays : List ChainCall :=
  [.build (.narrow (.filter "day in" (.list firstDays))),
    .filterKey "__key__ >" (.key (BuildCall.story 1)),
    .build (.order "-day"),
    .underTarget (.key (BuildCall.story 1)),
    .resume ""]

theorem executable_storiesOfDays :
    ∃ schema q, datedStories.assemble = .ok schema ∧
      chain storiesOfDays (some schema) 30 true = .ok q ∧ q.compile.queries.length = 2 ∧
      ∀ p ∈ q.compile.queries, ∀ c ∈ p.filters, c.Executable (some schema) := by
  obtain ⟨schema, q, defined, built, two⟩ :
      ∃ schema q, datedStories.assemble = .ok schema ∧
        chain storiesOfDays (some schema) 30 true = .ok q ∧ q.compile.queries.length = 2 :=
    ⟨_, _, rfl, rfl, rfl⟩
  refine ⟨schema, q, defined, built, two, (executable_iff_listless built).2.mpr (.inr ?_)⟩
  decide

/-- The same days asked for as one value among the choices of a membership, and as a value of a
disjunction. -/
def storiesOfNestedDays : List (List ChainCall) :=
  [[.build (.narrow (.filter "day in" (.list [.list firstDays])))],
    [.build (.narrow (.disjunction "day" [.equal] [.list firstDays]))]]

/-- A plain filter refuses the list, but both reach the store with a list of dates for the operand
of a clause. -/
theorem nested_days_reach_store :
    ∃ schema, datedStories.assemble = .ok schema ∧
      Query.filter { schema := some schema } "day =" (.list firstDays) = .error .listOperand ∧
      ∀ calls ∈ storiesOfNestedDays, ∃ q, chain calls (some schema) 30 true = .ok q ∧
        ∃ p ∈ q.compile.queries, ∃ c ∈ p.filters, c.operand.type = .list ∧
          (∃ w : Value, w.Within c.operand ∧ w.type = .date) ∧ ¬ c.Executable (some schema) := by
  have dateInside : (Value.date .epoch).Within (.list firstDays) :=
    .item List.mem_cons_self .self
  refine ⟨_, rfl, rfl, ?_⟩
  simp only [storiesOfNestedDays, List.forall_mem_cons]
  refine ⟨?_, ?_, nofun⟩
  · refine ⟨_, rfl, _, .head _, _, .head _, rfl, ⟨_, dateInside, rfl⟩, ?_⟩
    exact fun executable => executable.single rfl
  · refine ⟨_, rfl, _, .head _, _, .head _, rfl, ⟨_, dateInside, rfl⟩, ?_⟩
    exact fun executable => executable.single rfl

end ChainCall

end EntityStore
