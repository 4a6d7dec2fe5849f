import EntityStore.Proofs.Client.Attempts
import EntityStore.Proofs.Store.Writes

/-!
# Puts that stop half-way

A put of several records takes them one after the other and stops at the first one that it cannot
put.  Nothing is taken back: the records before that one have been put as if they had been the whole
batch, and the others have not been touched.  This holds outside of transactions and inside, where
what was buffered takes effect if the body handles the failure and commits.  What has to happen
as a whole belongs into a transaction that fails with its put.
-/

namespace EntityStore

/-- Whether a call that had to wait failed because its deadline passed during the wait. -/
def CallOptions.RanOut (options : CallOptions) (wait : Nat) (cause : Interruption) : Prop :=
  ∃ milliseconds, options.deadline = some milliseconds ∧ milliseconds < wait ∧
    cause = .failure (.deadlineExceeded milliseconds)

/-- A put that stopped at `e`: the records before it were put, and `e` was not. -/
structure Store.StoppedAt (done : List Entity) (e : Entity) (keys : List Key)
    (cause : Interruption) (s s' : Store) : Prop where
  answered : (put done).runOn s = (.ok keys, s')
  refused : (complete e.key).runOn s' = (.error cause, s')
  /-- The records are stored under the completed keys, and the version of a group moves once for
  each of them. -/
  wrote : s.Wrote ((done.zip keys).map Write.ofPut) s'
  /-- If no record could be put, everything is as it was. -/
  unchanged : done = [] → s' = s

/-- A put inside a transaction that stopped at `e`: the records before it were buffered, and `e` was
not. -/
structure Transaction.StoppedAt (done : List Entity) (e : Entity) (keys : List Key)
    (cause : Interruption) (before after : OnStore) : Prop where
  answered : ∃ s, (done.mapM putOne).runOn before = (.ok keys, (after.1, s)) ∧
    (putOne e).runOn (after.1, s) = (.error cause, after)
  buffers : Buffers ((done.zip keys).map Write.ofPut) before after
  untouched : before.2.Untouched after.2
  unchanged : done = [] → after.1 = before.1
  /-- If the body handles the failure and commits, the records take effect with what was buffered
  before. -/
  tookEffect : ∀ earlier s, before.1.Holds earlier → before.1.Confined →
    (after.1.commit s).1 = true →
      s.TookEffect (earlier ++ (done.zip keys).map Write.ofPut) (after.1.commit s).2

theorem Store.exists_stoppedAt {es : List Entity} {s s' : Store} {cause : Interruption}
    (failed : (put es).runOn s = (.error cause, s')) :
    ∃ done e rest keys, es = done ++ e :: rest ∧ StoppedAt done e keys cause s s' := by
  obtain ⟨done, e, rest, keys, s₁, split, answered, refused⟩ :=
    Action.exists_of_runOn_mapM_error failed
  obtain ⟨incomplete, rfl⟩ := complete_of_putOne_error refused
  have wrote := wrote_put done s
  rw [put, answered, Action.answered_eq_zip answered] at wrote
  refine ⟨done, e, rest, keys, split, answered, incomplete, wrote, ?_⟩
  rintro rfl
  cases answered
  rfl

/-- A put that waits fails at its deadline and leaves the store as it is, or puts its records. -/
theorem Store.cases_put_storage (wait : Nat) (options : CallOptions) (es : List Entity)
    (s : Store) :
    (∃ cause, options.RanOut wait cause ∧
      ((storage wait).put es options).runOn s = (.error cause, s)) ∨
      ((storage wait).put es options).runOn s = (put es).runOn s := by
  have ended := (ends_put es).runOn_within_eq options.deadline wait s
  rcases passed : Action.missed options.deadline wait with _ | milliseconds
  · rw [passed] at ended
    exact .inr ended
  · rw [passed] at ended
    rcases Action.missed_eq_some_iff.mp passed with ⟨due, late⟩
    exact .inl ⟨_, ⟨milliseconds, due, late, rfl⟩, ended⟩

theorem Transaction.exists_stoppedAt {es : List Entity} {before after : OnStore}
    {cause : Interruption} (failed : (es.mapM putOne).runOn before = (.error cause, after)) :
    ∃ done e rest keys, es = done ++ e :: rest ∧ StoppedAt done e keys cause before after := by
  obtain ⟨t, s⟩ := before
  obtain ⟨t', s'⟩ := after
  obtain ⟨done, e, rest, keys, ⟨t₁, s₁⟩, split, answered, refused⟩ :=
    Action.exists_of_runOn_mapM_error failed
  obtain ⟨same, untouched⟩ := untouched_of_putOne_error refused
  obtain rfl : t' = t₁ := same
  have continues := Action.keeps_mapM chains_continues keeps_putOne done (t, s)
  have buffered := buffers_put done (t, s)
  rw [answered] at continues buffered
  rw [Action.answered_eq_zip answered] at buffered
  have buffers : Buffers ((done.zip keys).map Write.ofPut) (t, s) (t', s') := buffered
  refine ⟨done, e, rest, keys, split, ⟨s₁, answered, refused⟩, buffers,
    Store.chains_untouched.trans continues.untouched untouched, ?_, ?_⟩
  · rintro rfl
    cases answered
    rfl
  · intro earlier s'' holds confined committed
    exact tookEffect_commit (holds.append buffers) (continues.confined confined) committed

namespace Client

theorem runOn_record (around : Surroundings) (m : Model) (s : Store) :
    (around.client.record m).runOn s = ((m.toEntity around.moment).mapError .failure, s) := by
  rw [record, Action.runOn_bind]
  exact Action.runOn_lift (m.toEntity around.moment) s

theorem toEntity_of_record {around : Surroundings} {m : Model} {e : Entity} {s s' : Store}
    (answered : (around.client.record m).runOn s = (.ok e, s')) :
    m.toEntity around.moment = .ok e := by
  rw [record, Action.runOn_bind] at answered
  exact (Action.eq_ok_of_runOn_lift answered).1

/-- Making the records of instances does not touch the store. -/
theorem runOn_mapM_record (around : Surroundings) (ms : List Model) (s : Store) :
    ((ms.mapM around.client.record).runOn s).2 = s := by
  have chains : Chains fun s s' : Store => s' = s := ⟨fun _ => rfl, fun first second =>
    second.trans first⟩
  refine Action.keeps_mapM chains ?_ ms s
  intro m s
  rw [runOn_record]

theorem runOn_put_datastore (around : Surroundings) (es : List Entity) (s : Store) :
    (around.client.datastore.put es around.client.options).runOn s = (Store.put es).runOn s :=
  (Store.ends_put es).runOn_within _ s

/-- Writing several instances fails before anything is written, or as the put of their records
does. -/
theorem exists_of_putAll_error {around : Surroundings} {wait : Nat} {ms : List Model}
    {s s' : Store} {cause : Interruption}
    (failed : ((around.client wait).putAll ms).runOn s = (.error cause, s')) :
    s' = s ∨ ∃ es, (ms.mapM around.client.record).runOn s = (.ok es, s) ∧
      (Store.put es).runOn s = (.error cause, s') := by
  have same := runOn_mapM_record around ms s
  rcases Action.failed_of_runOn_bind failed with unrecorded | ⟨es, s₁, recorded, putting⟩
  · exact .inl ((congrArg Prod.snd unrecorded).symm.trans same)
  · obtain rfl : s₁ = s := (congrArg Prod.snd recorded).symm.trans same
    rcases Store.cases_put_storage wait around.client.options es s₁ with
      ⟨late, -, ranOut⟩ | inTime
    · rcases Action.failed_of_runOn_bind putting with refused | ⟨keys, s₂, stored, -⟩
      · exact .inl (congrArg Prod.snd (refused.symm.trans ranOut))
      · cases ranOut.symm.trans stored
    · refine .inr ⟨es, recorded, ?_⟩
      rcases Action.failed_of_runOn_bind putting with refused | ⟨keys, s₂, stored, ending⟩
      · exact inTime.symm.trans refused
      · have complete : keys.length = ms.length := by
          rw [Action.length_of_runOn_mapM (inTime.symm.trans stored),
            Action.length_of_runOn_mapM recorded]
        simp [complete] at ending

/-- An answered put of several instances has put their records one after the other, and each
instance takes on the key of its own. -/
theorem exists_of_putAll {around : Surroundings} {ms ms' : List Model} {keys : List Key}
    {s s' : Store} (answered : (around.client.putAll ms).runOn s = (.ok (ms', keys), s')) :
    ∃ es, (ms.mapM around.client.record).runOn s = (.ok es, s) ∧
      (Store.put es).runOn s = (.ok keys, s') ∧
      ms' = (ms.zip (es.zip keys)).map fun (m, e, key) => m.markSaved e key := by
  have same := runOn_mapM_record around ms s
  rcases Action.exists_of_runOn_bind answered with ⟨es, s₁, recorded, putting⟩
  rw [recorded] at same
  obtain rfl : s₁ = s := same
  rcases Action.exists_of_runOn_bind putting with ⟨keys', s₂, stored, ending⟩
  rw [runOn_put_datastore] at stored
  by_cases short : keys'.length ≠ ms.length
  · simp only [if_pos short] at ending
    cases ending
  · simp only [if_neg short] at ending
    cases ending
    exact ⟨es, recorded, stored, rfl⟩

end Client

/-- What failing puts of several records leave behind, when calls wait for the store. -/
structure StopsHalfWay (around : Surroundings) (options : CallOptions) (wait : Nat) : Prop where
  late : ∀ es s milliseconds, options.deadline = some milliseconds → milliseconds < wait →
    ((Store.storage wait).put es options).runOn s =
      (.error (.failure (.deadlineExceeded milliseconds)), s)
  direct : ∀ es s cause s', ((Store.storage wait).put es options).runOn s = (.error cause, s') →
    options.RanOut wait cause ∧ s' = s ∨
      ∃ done e rest keys, es = done ++ e :: rest ∧ Store.StoppedAt done e keys cause s s'
  /-- Instances that were not marked as saved have left records only before the first one that could
  not be put. -/
  instances : ∀ ms s cause s', ((around.client wait).putAll ms).runOn s = (.error cause, s') →
    s' = s ∨ ∃ done e rest keys,
      (ms.mapM around.client.record).runOn s = (.ok (done ++ e :: rest), s) ∧
        Store.StoppedAt done e keys cause s s'
  inside : ∀ es before cause after,
    (Transaction.storage.put es options).runOn before = (.error cause, after) →
      ∃ done e rest keys, es = done ++ e :: rest ∧
        Transaction.StoppedAt done e keys cause before after

theorem stopsHalfWay (around : Surroundings) (options : CallOptions) (wait : Nat) :
    StopsHalfWay around options wait where
  late es s milliseconds due passed := by
    have ended := (Store.ends_put es).runOn_within_eq options.deadline wait s
    rwa [Action.missed_eq_some_iff.mpr ⟨due, passed⟩] at ended
  direct es s cause s' failed := by
    rcases Store.cases_put_storage wait options es s with ⟨late, ranOut, unchanged⟩ | inTime
    · cases unchanged.symm.trans failed
      exact .inl ⟨ranOut, rfl⟩
    · exact .inr (Store.exists_stoppedAt (inTime.symm.trans failed))
  instances ms s cause s' failed := by
    rcases Client.exists_of_putAll_error failed with same | ⟨es, recorded, failed⟩
    · exact .inl same
    · obtain ⟨done, e, rest, keys, rfl, stopped⟩ := Store.exists_stoppedAt failed
      exact .inr ⟨done, e, rest, keys, recorded, stopped⟩
  inside es before cause after failed := Transaction.exists_stoppedAt failed

/-- An account that can be put, and one whose number leaves no room for the next id. -/
def crowded : List Entity :=
  [{ key := account "a" }, { key := ⟨[⟨"Account", some (.number Int64.maxValue)⟩]⟩ }]

/-- The put of both fails, and the first account is stored; in a transaction it is buffered, and is
stored if the body commits all the same. -/
theorem put_crowded :
    (∃ cause s', (Store.storage.put crowded ⟨none, .strong⟩).runOn {} = (.error cause, s') ∧
      ¬ Store.Untouched {} s' ∧ s'.records[account "a"]? ≠ none) ∧
    ∃ cause t s', (Transaction.storage.put crowded ⟨none, .strong⟩).runOn ({}, {}) =
      (.error cause, (t, s')) ∧ t.writes[account "a"]? ≠ none ∧ (t.commit s').1 = true ∧
        (t.commit s').2.records[account "a"]? ≠ none := by
  refine ⟨⟨_, _, rfl, ?_, by decide⟩, ⟨_, _, _, rfl, by decide, by decide, by decide⟩⟩
  intro untouched
  have same := untouched.version_eq (account "a")
  contradiction

end EntityStore
