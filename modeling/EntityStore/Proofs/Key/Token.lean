import EntityStore.Key.Token
import EntityStore.Proofs.Base64
import EntityStore.Proofs.Json.Decoding
import EntityStore.Proofs.Json.Reader
import EntityStore.Proofs.Key.Build
import EntityStore.Proofs.Text.Blank

/-!
# Tokens stand for keys

Keys are made from a kind and an identifier under a parent, and from other keys by giving the last
identifier a number and by going up.  All of these have a path in which only the last identifier
may be open.  The token of such a key is decoded to the key, and whatever text is accepted as a
token, the key that it is decoded to is such a key.
-/

namespace EntityStore

/-! ## Identifiers and path elements -/

namespace Identifier

variable {depth : Nat}

theorem ofJson?_toJson {id : Identifier} (shallow : id.toJson.nesting ≤ depth) :
    ofJson? depth id.toJson = some id := by
  cases id with
  | number n =>
      obtain ⟨inner, rfl, _⟩ := Json.nesting_ofMembers_le_iff.mp shallow
      have numberRead : (Json.number (.ofInt n.toInt)).int64? = some n :=
        Json.Numeral.int64?_ofInt n
      simp [toJson, ofJson?, numberRead]
  | name text =>
      obtain ⟨inner, rfl, _⟩ := Json.nesting_ofMembers_le_iff.mp shallow
      simp [toJson, ofJson?]

theorem toJson_ne_null (id : Identifier) : id.toJson ≠ .null := by
  cases id <;> exact nofun

theorem nesting_toJson (id : Identifier) : id.toJson.nesting = 1 := by
  cases id <;> rfl

theorem isWritten_toJson (id : Identifier) : Json.IsWritten id.toJson := by
  cases id with
  | number n =>
      have written : Json.IsWritten (.number (.ofInt n.toInt)) :=
        Json.isWritten_ofInt n.toInt
      exact Json.isWritten_ofMembers (by simpa using written)
  | name text => exact Json.isWritten_ofMembers (by simpa using Json.isWritten_ofString text)

end Identifier

namespace PathElement

theorem ofJson?_toJson {e : PathElement} {depth : Nat} (shallow : e.toJson.nesting ≤ depth) :
    ofJson? depth e.toJson = some e := by
  obtain ⟨inner, rfl, contents⟩ := Json.nesting_ofMembers_le_iff.mp shallow
  have entered : Json.fields? ["kind", "id"] (inner + 1) e.toJson =
      some (inner, [some (Json.ofString e.kind),
        some ((e.id.map Identifier.toJson).getD .null)]) :=
    Json.fields?_ofMembers rfl (by simp) inner
  simp only [List.forall_mem_cons] at contents
  have idRead : Json.optional? (Identifier.ofJson? inner)
      (some ((e.id.map Identifier.toJson).getD .null)) = some e.id := by
    refine Json.optional?_getD_null Identifier.toJson_ne_null fun id written => ?_
    rw [written] at contents
    exact Identifier.ofJson?_toJson contents.2.1
  rw [ofJson?, entered]
  simp [idRead]

theorem nesting_toJson_le (e : PathElement) : e.toJson.nesting ≤ 2 := by
  refine Json.nesting_ofMembers_le_iff.mpr ⟨1, rfl, ?_⟩
  rcases e with ⟨kind, _ | id⟩
  · simp
  · simp [Identifier.nesting_toJson]

theorem isWritten_toJson (e : PathElement) : Json.IsWritten e.toJson := by
  have idWritten : Json.IsWritten ((e.id.map Identifier.toJson).getD .null) :=
    Json.isWritten_getD_null fun id _ => id.isWritten_toJson
  exact Json.isWritten_ofMembers (by simpa using ⟨Json.isWritten_ofString e.kind, idWritten⟩)

end PathElement

namespace Key

/-! ## Keys with tokens -/

theorem isWritten_pathToJson (k : Key) : Json.IsWritten k.pathToJson := by
  apply Json.IsWritten.array
  intro item listed
  obtain ⟨e, _, rfl⟩ := List.mem_map.mp listed
  exact e.isWritten_toJson

theorem pathOfJson?_pathToJson {k : Key} {depth : Nat} (shallow : k.pathToJson.nesting ≤ depth) :
    pathOfJson? depth k.pathToJson = some k.path := by
  obtain ⟨inner, rfl, elements⟩ := Json.nesting_array_le_iff.mp shallow
  exact Json.items?_map fun e member =>
    PathElement.ofJson?_toJson (elements e.toJson (List.mem_map_of_mem member))

theorem nesting_pathToJson_le (k : Key) : k.pathToJson.nesting ≤ Json.depthLimit := by
  refine Json.nesting_array_le_iff.mpr ⟨126, rfl, ?_⟩
  intro item listed
  obtain ⟨e, _, rfl⟩ := List.mem_map.mp listed
  exact Nat.le_trans e.nesting_toJson_le (by decide)

/-- A key is read back wherever its document stands. -/
theorem ofJson?_toJson {k : Key} {depth : Nat} (shallow : k.toJson.nesting ≤ depth) :
    ofJson? depth k.toJson = some k := by
  obtain ⟨inner, rfl, contents⟩ := Json.nesting_ofMembers_le_iff.mp shallow
  have entered : Json.fields? ["path"] (inner + 1) k.toJson = some (inner, [some k.pathToJson]) :=
    Json.fields?_ofMembers rfl (by simp) inner
  simp only [List.forall_mem_cons] at contents
  rw [ofJson?, entered]
  simp [pathOfJson?_pathToJson contents.1]

theorem isWritten_toJson (k : Key) : Json.IsWritten k.toJson :=
  Json.isWritten_ofMembers (by simpa using k.isWritten_pathToJson)

/-- The bytes of a token hold the path. -/
theorem pathOfBytes?_write (k : Key) : pathOfBytes? k.pathToJson.write = some k.path := by
  rw [pathOfBytes?, Json.read?_write k.isWritten_pathToJson, Option.bind_some,
    pathOfJson?_pathToJson k.nesting_pathToJson_le]

/-- White space around a token makes no difference, so exactly the token is decoded. -/
theorem decode_surrounded {k : Key} (wellFormed : isWellFormedPath k.path)
    (before after : List Char) (blankBefore : ∀ c ∈ before, Text.isBlank c)
    (blankAfter : ∀ c ∈ after, Text.isBlank c) :
    decode (String.ofList before ++ k.encode ++ String.ofList after) = .ok k := by
  have trimmed : Text.trimChars
      (String.ofList before ++ k.encode ++ String.ofList after).toList =
        Base64.encode k.pathToJson.write := by
    have chars : (String.ofList before ++ k.encode ++ String.ofList after).toList =
        before ++ Base64.encode k.pathToJson.write ++ after := by
      simp [encode]
    rw [chars]
    exact Text.trimChars_append blankBefore blankAfter fun c => Base64.isBlank_of_mem_encode
  rw [decode, trimmed, Base64.decode_encode, Option.bind_some, pathOfBytes?_write]
  exact if_pos wellFormed

theorem decode_encode {k : Key} (wellFormed : isWellFormedPath k.path) :
    decode k.encode = .ok k := by
  have surrounded := decode_surrounded wellFormed [] [] nofun nofun
  simpa using surrounded

/-- Whatever is decoded has a path that is only open at its end, if at all. -/
theorem isWellFormedPath_of_decode {token : String} {k : Key} (decoded : decode token = .ok k) :
    isWellFormedPath k.path := by
  unfold decode at decoded
  split at decoded
  · contradiction
  · obtain ⟨wellFormed, same⟩ := Failure.require_eq_ok_iff.mp decoded
    cases same
    exact wellFormed

/-! ## Keys that can be made -/

/-- The keys that are made from kinds and identifiers, beginning without a parent. -/
inductive Made : Key → Prop where
  | build {parent : Option Key} {kind : String} {id : Identifier} {k : Key}
    (above : ∀ p ∈ parent, Made p) (built : build parent kind id = .ok k) : Made k
  | incomplete {parent : Option Key} {kind : String} {k : Key}
    (above : ∀ p ∈ parent, Made p) (opened : incomplete parent kind = .ok k) : Made k
  | withNumber {k : Key} (made : Made k) (id : Int64) : Made (k.withNumber id)
  | parent {k above : Key} (made : Made k) (up : k.parent? = some above) : Made above
  | root {k : Key} (made : Made k) : Made k.root

theorem isWellFormedPath_append (above : List PathElement) (last : PathElement) :
    isWellFormedPath (above ++ [last]) = above.all (·.id.isSome) := by
  simp [isWellFormedPath]

theorem isWellFormedPath_of_incomplete {parent : Option Key} {kind : String} {k : Key}
    (opened : incomplete parent kind = .ok k) : isWellFormedPath k.path := by
  simp only [incomplete, Failure.guard_eq_ok_iff] at opened
  obtain ⟨_, opened⟩ := opened
  cases parent with
  | none =>
      cases opened
      rfl
  | some parent =>
      obtain ⟨complete, same⟩ := Failure.require_eq_ok_iff.mp opened
      cases same
      rw [isWellFormedPath_append]
      simp only [isComplete, Bool.and_eq_true] at complete
      exact complete.2

/-- Going up from a path that is only open at its end leads to one without an open identifier. -/
theorem all_dropLast_of_isWellFormedPath {path : List PathElement}
    (wellFormed : isWellFormedPath path) : path.dropLast.all (·.id.isSome) := by
  simp only [isWellFormedPath, Bool.and_eq_true] at wellFormed
  exact wellFormed.2

theorem isWellFormedPath_of_build {parent : Option Key} {kind : String} {id : Identifier} {k : Key}
    (built : build parent kind id = .ok k) : isWellFormedPath k.path := by
  simp only [build, Failure.bind_eq_ok_iff, Failure.pure_eq_ok_iff] at built
  obtain ⟨_, _, opened, made, rfl⟩ := built
  rw [isWellFormedPath_append]
  exact all_dropLast_of_isWellFormedPath (isWellFormedPath_of_incomplete made)

theorem isWellFormedPath_withNumber {k : Key} (wellFormed : isWellFormedPath k.path) (id : Int64) :
    isWellFormedPath (k.withNumber id).path := by
  unfold withNumber
  split
  · exact wellFormed
  · rw [isWellFormedPath_append]
    exact all_dropLast_of_isWellFormedPath wellFormed

theorem isWellFormedPath_parent {k above : Key} (wellFormed : isWellFormedPath k.path)
    (up : k.parent? = some above) : isWellFormedPath above.path := by
  have complete := all_dropLast_of_isWellFormedPath wellFormed
  unfold parent? at up
  split at up
  · contradiction
  · rename_i long
    cases up
    rw [isWellFormedPath, Bool.and_eq_true]
    constructor
    · have nonempty : k.path.dropLast ≠ [] := by
        intro empty
        have lengths := congrArg List.length empty
        simp only [List.length_dropLast, List.length_nil] at lengths
        omega
      simpa using nonempty
    · rw [List.all_eq_true] at complete ⊢
      exact fun e member => complete e (List.dropLast_subset k.path.dropLast member)

theorem isWellFormedPath_root {k : Key} (wellFormed : isWellFormedPath k.path) :
    isWellFormedPath k.root.path := by
  unfold root
  cases path : k.path with
  | nil => simp [isWellFormedPath, path] at wellFormed
  | cons first rest => rfl

/-- Only the last identifier of a key that was made may be open. -/
theorem Made.isWellFormedPath {k : Key} (made : Made k) : isWellFormedPath k.path := by
  induction made with
  | build _ built _ => exact isWellFormedPath_of_build built
  | incomplete _ opened _ => exact isWellFormedPath_of_incomplete opened
  | withNumber _ id wellFormed => exact isWellFormedPath_withNumber wellFormed id
  | parent _ up wellFormed => exact isWellFormedPath_parent wellFormed up
  | root _ wellFormed => exact isWellFormedPath_root wellFormed

/-- Tokens stand for keys: every key that can be made has a path that is only open at its end, the
token of every such key is decoded to the key whatever white space surrounds it, and whatever is
decoded is such a key, which comes back from its own token. -/
theorem token_codec :
    (∀ k, Made k → isWellFormedPath k.path) ∧
      (∀ k : Key, isWellFormedPath k.path → ∀ before after : List Char,
        (∀ c ∈ before, Text.isBlank c) → (∀ c ∈ after, Text.isBlank c) →
          decode k.encode = .ok k ∧
            decode (String.ofList before ++ k.encode ++ String.ofList after) = .ok k) ∧
      ∀ token k, decode token = .ok k → isWellFormedPath k.path ∧ decode k.encode = .ok k := by
  refine ⟨fun k made => made.isWellFormedPath, ?_, ?_⟩
  · intro k wellFormed before after blankBefore blankAfter
    constructor
    · exact decode_encode wellFormed
    · exact decode_surrounded wellFormed before after blankBefore blankAfter
  · intro token k decoded
    have wellFormed := isWellFormedPath_of_decode decoded
    exact ⟨wellFormed, decode_encode wellFormed⟩

/-- The name of an author is written in UTF-8 before the bytes are written as digits. -/
example : (Key.mk [⟨"Author", some (.name "jö")⟩]).encode =
    "W3sia2luZCI6IkF1dGhvciIsImlkIjp7Ik5hbWUiOiJqw7YifX1d" := by
  decide +kernel

end Key

end EntityStore
