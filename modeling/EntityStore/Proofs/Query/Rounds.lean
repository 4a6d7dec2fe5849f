import EntityStore.Proofs.Query.Merge
import Mathlib.Data.List.Induction
import Mathlib.Data.List.Sort

/-!
# Merging round by round

A merge goes through rounds.  In each round the sources are looked at from the left, the record that
comes first is taken from its source, the leftmost one if several are level, and it is kept unless a
record of its key was taken before.  There are as many rounds as there are records, and what they
keep is the merge.

Taking the leftmost of the first records again and again is sorting, if every list ascends already:
level records stay in the order of the lists and of their places in them.  So the merge is the
stable sort of all records from which the later records of each key are erased.
-/

namespace List

variable {α : Type} {le : α → α → Bool}

theorem orderedInsert_append {r : α → α → Prop} [DecidableRel r] {a : α} (smaller : List α)
    {larger : List α} (below : ∀ b ∈ smaller, ¬ r a b) (above : ∀ b ∈ larger, r a b) :
    (smaller ++ larger).orderedInsert r a = smaller ++ a :: larger := by
  induction smaller with
  | nil =>
      cases larger with
      | nil => rfl
      | cons b larger => simp [above b mem_cons_self]
  | cons b smaller inductionHypothesis =>
      rw [cons_append, orderedInsert_of_not_le _ _ (below b mem_cons_self),
        inductionHypothesis fun b member => below b (mem_cons_of_mem _ member)]
      rfl

/-- Merge sort is stable: it inserts one element after the other, from the last one on, each before
those that are level with it. -/
theorem mergeSort_eq_insertionSort_of_total
    (trans : ∀ a b c, le a b = true → le b c = true → le a c = true)
    (total : ∀ a b, (le a b || le b a) = true) (l : List α) :
    l.mergeSort le = l.insertionSort (le · · = true) := by
  induction l with
  | nil => simp
  | cons a l inductionHypothesis =>
      obtain ⟨smaller, larger, sorted, sortedRest, below⟩ := mergeSort_cons trans total a l
      have ascending := pairwise_mergeSort trans total (a :: l)
      rw [sorted] at ascending
      have above : ∀ b ∈ larger, le a b := by
        intro b member
        exact rel_of_pairwise_cons (pairwise_append.mp ascending).2.1 member
      calc (a :: l).mergeSort le
          = smaller ++ a :: larger := sorted
        _ = (smaller ++ larger).orderedInsert (le · · = true) a := by
            refine (orderedInsert_append smaller ?_ above).symm
            intro b member
            simpa using below b member
        _ = (a :: l).insertionSort (le · · = true) := by
            rw [← sortedRest, inductionHypothesis, insertionSort_cons]

/-- Sorting puts an element first that precedes all before it and is not after any behind it. -/
theorem mergeSort_append_cons
    (trans : ∀ a b c, le a b = true → le b c = true → le a c = true)
    (total : ∀ a b, (le a b || le b a) = true) {a : α} {before behind : List α}
    (first : ∀ b ∈ before, le b a = false) (least : ∀ b ∈ behind, le a b = true) :
    (before ++ a :: behind).mergeSort le = a :: (before ++ behind).mergeSort le := by
  simp only [mergeSort_eq_insertionSort_of_total trans total]
  induction before with
  | nil =>
      have above : ∀ b ∈ behind.insertionSort (le · · = true), le a b = true := by
        intro b member
        exact least b ((mem_insertionSort _).mp member)
      exact orderedInsert_append [] nofun above
  | cons b before inductionHypothesis =>
      rw [cons_append, insertionSort_cons,
        inductionHypothesis fun b member => first b (mem_cons_of_mem _ member),
        orderedInsert_of_not_le _ _ (by simp [first b mem_cons_self])]
      rfl

end List

namespace EntityStore.Merge

open EntityStore.Entity (Ascends DistinctKeys)

variable {orders : List SortOrder}

/-! ## The source that leads -/

/-- The record that waits in a source challenges the leader, and takes over if it comes strictly
before. -/
def challenge (orders : List SortOrder) (leader : Option (Nat × Entity))
    (source : List Entity × Nat) : Option (Nat × Entity) :=
  match source.1.head?, leader with
  | none, leader => leader
  | some waiting, none => some (source.2, waiting)
  | some waiting, some (place, e) =>
    if waiting.order e orders = .lt then some (source.2, waiting) else some (place, e)

/-- The place of the source whose waiting record comes first, with the record. -/
def leader (orders : List SortOrder) (sources : List (List Entity)) : Option (Nat × Entity) :=
  sources.zipIdx.foldl (challenge orders) none

/-- Whether a record leads the sources to both sides of its own: it comes strictly before the
records that wait on its left and is not after those that wait on its right. -/
structure Leads (orders : List SortOrder) (before : List (List Entity)) (e : Entity)
    (after : List (List Entity)) : Prop where
  left : ∀ source ∈ before, ∀ waiting ∈ source.head?, e.order waiting orders = .lt
  right : ∀ source ∈ after, ∀ waiting ∈ source.head?, (e.order waiting orders).isLE

theorem leader_append_singleton (sources : List (List Entity)) (source : List Entity) :
    leader orders (sources ++ [source]) =
      challenge orders (leader orders sources) (source, sources.length) := by
  simp [leader, List.zipIdx_append]

/-- Any record leads sources in which none waits. -/
theorem leads_of_exhausted {sources : List (List Entity)} (exhausted : sources.flatten = [])
    (e : Entity) : Leads orders sources e [] where
  left source listed waiting head := by
    have empty := List.flatten_eq_nil_iff.mp exhausted source listed
    simp [empty] at head
  right := nofun

/-- A record that comes before the leader leads all sources on its left. -/
theorem Leads.overtaken {before after : List (List Entity)} {e waiting : Entity}
    {tail : List Entity} (leads : Leads orders before e after)
    (sooner : waiting.order e orders = .lt) :
    Leads orders (before ++ (e :: tail) :: after) waiting [] where
  left source listed other head := by
    have laws := Entity.transCmp_order orders
    simp only [List.mem_append, List.mem_cons] at listed
    rcases listed with inBefore | rfl | inAfter
    · exact laws.lt_trans sooner (leads.left source inBefore other head)
    · cases head
      exact sooner
    · exact laws.lt_of_lt_of_isLE sooner (leads.right source inAfter other head)
  right := nofun

/-- The leader stays ahead of one more source that it is not after. -/
theorem Leads.append_singleton {before after : List (List Entity)} {e : Entity}
    {source : List Entity} (leads : Leads orders before e after)
    (notAfter : ∀ waiting ∈ source.head?, (e.order waiting orders).isLE) :
    Leads orders before e (after ++ [source]) where
  left := leads.left
  right other listed waiting head := by
    rcases List.mem_append.mp listed with inAfter | last
    · exact leads.right other inAfter waiting head
    · rw [List.mem_singleton.mp last] at head
      exact notAfter waiting head

/-- Looking through the sources finds the one that leads, unless all of them are exhausted. -/
theorem leader_cases (orders : List SortOrder) (sources : List (List Entity)) :
    (leader orders sources = none ∧ sources.flatten = []) ∨
      ∃ before e tail after, sources = before ++ (e :: tail) :: after ∧
        leader orders sources = some (before.length, e) ∧ Leads orders before e after := by
  induction sources using List.reverseRecOn with
  | nil => exact .inl ⟨rfl, rfl⟩
  | append_singleton sources source inductionHypothesis =>
      rw [leader_append_singleton]
      rcases inductionHypothesis with
        ⟨nobody, exhausted⟩ | ⟨before, e, tail, after, rfl, found, leads⟩
      · rw [nobody]
        cases source with
        | nil => exact .inl ⟨rfl, by simp [exhausted]⟩
        | cons waiting rest =>
            exact .inr ⟨sources, waiting, rest, [], rfl, rfl, leads_of_exhausted exhausted waiting⟩
      · right
        rw [found]
        cases source with
        | nil => exact ⟨before, e, tail, after ++ [[]], by simp, rfl, leads.append_singleton nofun⟩
        | cons waiting rest =>
            by_cases sooner : waiting.order e orders = .lt
            · refine ⟨before ++ (e :: tail) :: after, waiting, rest, [], rfl, ?_,
                leads.overtaken sooner⟩
              simp [challenge, sooner]
            · refine ⟨before, e, tail, after ++ [waiting :: rest], by simp, ?_,
                leads.append_singleton ?_⟩
              · simp [challenge, sooner]
              · rintro other ⟨⟩
                exact Entity.isLE_of_order_ne_lt sooner

/-- The least first record, which is found from the right, is the one that leads. -/
theorem takeLeast_of_leads {before after : List (List Entity)} {e : Entity} {tail : List Entity}
    (leads : Leads orders before e after) :
    takeLeast orders (before ++ (e :: tail) :: after) = some (e, before ++ tail :: after) := by
  obtain ⟨left, right⟩ := leads
  induction before with
  | nil =>
      rw [List.nil_append, takeLeast]
      cases taken : takeLeast orders after with
      | none => rfl
      | some least =>
          obtain ⟨waiting, rest⟩ := least
          obtain ⟨passed, others, untouched, rfl, -⟩ := exists_split_of_takeLeast taken
          have notLater : (e.order waiting orders).isLE := right (waiting :: others) (by simp) _ rfl
          have notSooner : waiting.order e orders ≠ .lt := by
            intro sooner
            rw [Entity.order_swap, sooner] at notLater
            contradiction
          simp [notSooner]
  | cons source before inductionHypothesis =>
      have next := inductionHypothesis fun source listed =>
        left source (List.mem_cons_of_mem _ listed)
      cases source with
      | nil => simp [takeLeast, next]
      | cons waiting others =>
          have sooner : e.order waiting orders = .lt := left _ List.mem_cons_self _ rfl
          simp [takeLeast, next, sooner]

/-- Which record is taken is what leading says. -/
theorem exists_leads_of_takeLeast {lists rest : List (List Entity)} {e : Entity}
    (taken : takeLeast orders lists = some (e, rest)) :
    ∃ before tail after, lists = before ++ (e :: tail) :: after ∧
      rest = before ++ tail :: after ∧ leader orders lists = some (before.length, e) ∧
      Leads orders before e after := by
  rcases leader_cases orders lists with
    ⟨-, exhausted⟩ | ⟨before, first, tail, after, rfl, found, leads⟩
  · obtain ⟨before, tail, after, rfl, -⟩ := exists_split_of_takeLeast taken
    simp at exhausted
  · rw [takeLeast_of_leads leads] at taken
    cases taken
    exact ⟨before, tail, after, rfl, rfl, found, leads⟩

/-! ## Interleaving sorts -/

/-- The record that waits in an ascending list is not after any of the list. -/
theorem isLE_of_waiting {list : List Entity} (ascends : Ascends orders list) {x : Entity}
    (member : x ∈ list) : ∃ waiting ∈ list.head?, (waiting.order x orders).isLE := by
  cases list with
  | nil => contradiction
  | cons waiting others =>
      refine ⟨waiting, rfl, ?_⟩
      rcases List.mem_cons.mp member with rfl | inOthers
      · exact Entity.isLE_order_self x
      · exact List.rel_of_pairwise_cons ascends inOthers

/-- A record that leads ascending sources comes strictly before all records on its left. -/
theorem Leads.lt_of_mem_before {before after : List (List Entity)} {e x : Entity}
    (leads : Leads orders before e after) (ascend : ∀ l ∈ before, Ascends orders l)
    (member : x ∈ before.flatten) : e.order x orders = .lt := by
  obtain ⟨source, listed, inSource⟩ := List.mem_flatten.mp member
  obtain ⟨waiting, head, notAfter⟩ := isLE_of_waiting (ascend source listed) inSource
  exact (Entity.transCmp_order orders).lt_of_lt_of_isLE (leads.left source listed waiting head)
    notAfter

/-- A record that leads ascending sources is not after any record on its right. -/
theorem Leads.isLE_of_mem_after {before after : List (List Entity)} {e x : Entity}
    (leads : Leads orders before e after) (ascend : ∀ l ∈ after, Ascends orders l)
    (member : x ∈ after.flatten) : (e.order x orders).isLE := by
  obtain ⟨source, listed, inSource⟩ := List.mem_flatten.mp member
  obtain ⟨waiting, head, notAfter⟩ := isLE_of_waiting (ascend source listed) inSource
  exact Entity.isLE_order_trans (leads.right source listed waiting head) notAfter

theorem isLE_order_total (a b : Entity) :
    ((a.order b orders).isLE || (b.order a orders).isLE) = true := by
  rw [Entity.order_swap b]
  cases a.order b orders <;> rfl

/-- Interleaving ascending lists is sorting all their records. -/
theorem interleave_eq_mergeSort {lists : List (List Entity)}
    (ascend : ∀ l ∈ lists, Ascends orders l) :
    interleave orders lists = lists.flatten.mergeSort fun a b => (a.order b orders).isLE := by
  induction lists using interleave.induct orders with
  | case1 lists nothing =>
      rw [interleave_of_nothing nothing, flatten_eq_nil_of_takeLeast nothing, List.mergeSort_nil]
  | case2 lists e rest taken inductionHypothesis =>
      rw [interleave_of_taken taken]
      obtain ⟨before, tail, after, rfl, rfl, -, leads⟩ := exists_leads_of_takeLeast taken
      have first : ∀ x ∈ before.flatten, (x.order e orders).isLE = false := by
        intro x member
        have sooner := leads.lt_of_mem_before (fun l listed => ascend l (by simp [listed])) member
        rw [Entity.order_swap, sooner]
        rfl
      have least : ∀ x ∈ tail ++ after.flatten, (e.order x orders).isLE := by
        intro x member
        rcases List.mem_append.mp member with inTail | inAfter
        · exact List.rel_of_pairwise_cons (ascend (e :: tail) (by simp)) inTail
        · exact leads.isLE_of_mem_after (fun l listed => ascend l (by simp [listed])) inAfter
      calc e :: interleave orders (before ++ tail :: after)
          = e :: (before.flatten ++ (tail ++ after.flatten)).mergeSort
              fun a b => (a.order b orders).isLE := by
            rw [inductionHypothesis (ascend_of_split ascend), List.flatten_append,
              List.flatten_cons]
        _ = (before.flatten ++ e :: (tail ++ after.flatten)).mergeSort
              fun a b => (a.order b orders).isLE := by
            refine (List.mergeSort_append_cons ?_ isLE_order_total first least).symm
            intro a b c
            exact Entity.isLE_order_trans
        _ = (before ++ (e :: tail) :: after).flatten.mergeSort
              fun a b => (a.order b orders).isLE := by
            simp

/-- Keeping the first record of each key is erasing the later ones, of the keys that were not seen
yet. -/
theorem firstOfEachKey_eq_eraseDupsBy (seen : List Key) (es : List Entity) :
    firstOfEachKey seen es =
      (es.filter fun e => !seen.contains e.key).eraseDupsBy fun a b => a.key == b.key := by
  induction es generalizing seen with
  | nil => rfl
  | cons e rest inductionHypothesis =>
      rw [firstOfEachKey]
      by_cases known : seen.contains e.key
      · rw [if_pos known, inductionHypothesis]
        simp only [List.filter_cons, known, Bool.not_true, Bool.false_eq_true, if_false]
      · rw [if_neg known, inductionHypothesis]
        simp only [List.filter_cons, known, Bool.not_false, if_true, List.eraseDupsBy_cons,
          List.filter_filter]
        congr 3
        funext x
        simp [Bool.beq_eq_decide_eq]

/-! ## The loop -/

/-- How far a merge has got: the sources with what is left of them, the keys of the records that
were taken, and the records that were kept. -/
structure Progress where
  sources : List (List Entity)
  seen : List Key := []
  merged : List Entity := []

namespace Progress

/-- One round takes the record that leads from its source, and keeps it if its key was not seen yet.
There is none when all sources are exhausted. -/
def round (orders : List SortOrder) (p : Progress) : Option Progress :=
  (leader orders p.sources).map fun (place, e) =>
    let sources := p.sources.modify place List.tail
    if p.seen.contains e.key then { p with sources }
    else { sources, seen := e.key :: p.seen, merged := p.merged ++ [e] }

/-- A number of rounds, unless the merge stops before. -/
def rounds (orders : List SortOrder) : Nat → Progress → Option Progress
  | 0, p => some p
  | n + 1, p => (p.round orders).bind (rounds orders n)

/-- What a merge will have kept when all sources are exhausted. -/
def outcome (orders : List SortOrder) (p : Progress) : List Entity :=
  p.merged ++ firstOfEachKey p.seen (interleave orders p.sources)

/-- A merge stops when its sources are exhausted, and has then kept its outcome.  Until then a round
takes one record and leaves the outcome as it is. -/
theorem round_cases (orders : List SortOrder) (p : Progress) :
    (p.round orders = none ∧ size p.sources = 0 ∧ p.outcome orders = p.merged) ∨
      ∃ next, p.round orders = some next ∧ size p.sources = size next.sources + 1 ∧
        next.outcome orders = p.outcome orders := by
  cases taken : takeLeast orders p.sources with
  | none =>
      left
      have exhausted := flatten_eq_nil_of_takeLeast taken
      rcases leader_cases orders p.sources with ⟨nobody, -⟩ | ⟨before, e, tail, after, split, -, -⟩
      · refine ⟨by simp [round, nobody], by simp [size, exhausted], ?_⟩
        simp [outcome, interleave_of_nothing taken, firstOfEachKey]
      · simp [split] at exhausted
  | some least =>
      right
      obtain ⟨e, rest⟩ := least
      have smaller := size_of_takeLeast taken
      obtain ⟨before, tail, after, split, rfl, found, -⟩ := exists_leads_of_takeLeast taken
      have left : p.sources.modify before.length List.tail = before ++ tail :: after := by
        simp [split, List.modify_eq_take_drop]
      simp only [round, found, Option.map_some, left]
      by_cases known : p.seen.contains e.key
      · refine ⟨_, rfl, by rwa [if_pos known], ?_⟩
        rw [if_pos known, outcome, outcome, interleave_of_taken taken, firstOfEachKey,
          if_pos known]
      · refine ⟨_, rfl, by rwa [if_neg known], ?_⟩
        rw [if_neg known, outcome, outcome, interleave_of_taken taken, firstOfEachKey,
          if_neg known, List.append_assoc, List.singleton_append]

/-- A merge goes on for as many rounds as there are records left, and keeps its outcome. -/
theorem rounds_size (orders : List SortOrder) (p : Progress) :
    ∃ last, p.rounds orders (size p.sources) = some last ∧ last.round orders = none ∧
      last.merged = p.outcome orders := by
  generalize left : size p.sources = remaining
  induction remaining generalizing p with
  | zero =>
      rcases p.round_cases orders with ⟨stops, -, kept⟩ | ⟨next, -, smaller, -⟩
      · exact ⟨p, rfl, stops, kept.symm⟩
      · omega
  | succ remaining inductionHypothesis =>
      rcases p.round_cases orders with ⟨-, exhausted, -⟩ | ⟨next, goesOn, smaller, same⟩
      · omega
      · obtain ⟨last, reached, stops, kept⟩ := inductionHypothesis next (by omega)
        refine ⟨last, ?_, stops, kept.trans same⟩
        rw [rounds, goesOn, Option.bind_some, reached]

end Progress

/-- A merge stops after as many rounds as there are records.  It keeps one record for each key and
no others, and these are, if the lists ascend, the first ones of the stable sort of all records. -/
theorem merge_eq_sort_eraseDups (orders : List SortOrder) (lists : List (List Entity)) :
    (∃ last, Progress.rounds orders lists.flatten.length { sources := lists } = some last ∧
        last.round orders = none ∧ last.merged = merge orders lists) ∧
      ((∀ l ∈ lists, Ascends orders l) →
        merge orders lists =
          (lists.flatten.mergeSort fun a b => (a.order b orders).isLE).eraseDupsBy
            fun a b => a.key == b.key) ∧
      DistinctKeys (merge orders lists) ∧
      (∀ e ∈ lists.flatten, ∃ kept ∈ merge orders lists, kept.key = e.key) ∧
      ∀ e ∈ merge orders lists, e ∈ lists.flatten := by
  have interleaved : ∀ e, e ∈ interleave orders lists ↔ e ∈ lists.flatten :=
    fun e => (interleave_perm lists).mem_iff
  refine ⟨Progress.rounds_size orders { sources := lists }, ?_, distinctKeys_firstOfEachKey [] _,
    ?_, ?_⟩
  · intro ascend
    rw [merge, firstOfEachKey_eq_eraseDupsBy, interleave_eq_mergeSort ascend]
    simp
  · intro e listed
    exact exists_mem_firstOfEachKey ((interleaved e).mpr listed) List.not_mem_nil
  · intro e kept
    exact (interleaved e).mp ((firstOfEachKey_sublist [] _).subset kept)

/-- A record of a story with a rank. -/
def rankedStory (id rank : Int64) : Entity where
  key := ⟨[⟨"Story", some (.number id)⟩]⟩
  fields := .ofList [("rank", Value.integer rank)]

/-- Two listings of stories by rank, of which the second one knows a better rank of the second
story. -/
def overlappingListings : List (List Entity) :=
  [[rankedStory 1 1, rankedStory 2 5], [rankedStory 2 3, rankedStory 3 3]]

/-- The second story is kept where it stands first, before the third one of the same rank. -/
theorem merge_overlappingListings :
    (∀ l ∈ overlappingListings, Ascends [⟨"rank", .ascending⟩] l) ∧
      (merge [⟨"rank", .ascending⟩] overlappingListings).map
          (fun e => (e.key.id?, (e.get? "rank").bind Value.integer?)) =
        [(some (.number 1), some 1), (some (.number 2), some 3), (some (.number 3), some 3)] := by
  have ascend : ∀ l ∈ overlappingListings, Ascends [⟨"rank", .ascending⟩] l := by
    unfold Ascends
    decide +kernel
  refine ⟨ascend, ?_⟩
  rw [(merge_eq_sort_eraseDups _ _).2.1 ascend, List.mergeSort_eq_insertionSort_of_total]
  · decide +kernel
  · intro a b c
    exact Entity.isLE_order_trans
  · exact isLE_order_total

end EntityStore.Merge
