import EntityStore.Proofs.Text.Blank
import EntityStore.Value.Make
import EntityStore.Value.Order

/-!
# Texts of instant-messaging handles

A handle is shown and sorted by its protocol and its address with a space between them, and read
back by splitting at the first space.  So a handle comes back from its text exactly when there is
no space in its protocol.  The words that name protocols have none, but a URL may: its path can
hold spaces, and so can what surrounds it.
-/

namespace EntityStore

namespace Handle

variable {protocol address : String} {h : Handle}

theorem toList_text (h : Handle) :
    h.text.toList = h.protocol.toList ++ ' ' :: h.address.toList := by
  simp [text]

theorem eq_of_make (made : make protocol address = .ok h) : h = ⟨protocol, address⟩ := by
  unfold make at made
  split at made
  · cases made
  · split at made
    · cases made
    · cases made
      rfl

theorem make_of_isProtocol (known : isProtocol protocol = true) (addressed : address ≠ "") :
    make protocol address = .ok ⟨protocol, address⟩ := by
  have notEmpty : address.isEmpty = false := by simpa [String.isEmpty_iff] using addressed
  rw [make, known, notEmpty]
  rfl

/-- A text reads as the handle that is made of what stands around its first space. -/
theorem parse_eq_make {text first rest : String} (absent : ' ' ∉ first.toList)
    (split : text.toList = first.toList ++ ' ' :: rest.toList) : parse text = make first rest := by
  rw [parse, Text.splitOnce_eq_some_iff.mpr ⟨absent, split⟩]

/-- The protocol that is read off a text has no space. -/
theorem absent_of_parse {text : String} (parsed : parse text = .ok h) :
    ' ' ∉ h.protocol.toList := by
  unfold parse at parsed
  split at parsed
  · cases parsed
  · rename_i first rest found
    rw [eq_of_make parsed]
    exact (Text.splitOnce_eq_some_iff.mp found).1

/-- A handle comes back from its text exactly when there is no space in its protocol. -/
theorem parse_text_eq_ok_iff (made : make protocol address = .ok h) :
    parse h.text = .ok h ↔ ' ' ∉ protocol.toList := by
  obtain rfl := eq_of_make made
  constructor
  · exact absent_of_parse
  · intro absent
    rw [parse_eq_make absent (toList_text ⟨protocol, address⟩), made]

/-- Handles without spaces in their protocols are told apart by their texts. -/
theorem eq_of_text_eq {h' : Handle} (absent : ' ' ∉ h.protocol.toList)
    (absent' : ' ' ∉ h'.protocol.toList) (same : h.text = h'.text) : h = h' := by
  have split := Text.splitOnce_eq_some_iff.mpr ⟨absent, toList_text h⟩
  have split' := Text.splitOnce_eq_some_iff.mpr ⟨absent', toList_text h'⟩
  rw [same, split'] at split
  cases h
  cases h'
  cases split
  rfl

/-- The text of an accepted handle reads as that handle exactly when there is no space in its
protocol, and else as what can be made of the part of the protocol before the first space and
everything after it.  Accepted handles without spaces in their protocols are equal when they sort by
the same text. -/
theorem text_identifies (made : make protocol address = .ok h) :
    (parse h.text = .ok ⟨protocol, address⟩ ↔ ' ' ∉ protocol.toList) ∧
      (∀ first more : String, ' ' ∉ first.toList → protocol = first ++ " " ++ more →
        parse h.text = make first (more ++ " " ++ address)) ∧
      ∀ {protocol' address' : String} {h' : Handle}, make protocol' address' = .ok h' →
        ' ' ∉ protocol.toList → ' ' ∉ protocol'.toList →
        (Value.handle h).sortText? = (Value.handle h').sortText? → h = h' := by
  have whole := parse_text_eq_ok_iff made
  obtain rfl := eq_of_make made
  refine ⟨whole, ?_, ?_⟩
  · rintro first more absent rfl
    apply parse_eq_make absent
    simp [text]
  · intro protocol' address' h' made' absent absent' same
    obtain rfl := eq_of_make made'
    exact eq_of_text_eq absent absent' (Option.some.inj same)

theorem text_identifies_aim :
    make "http://aim.com/" "ada and bob" = .ok ⟨"http://aim.com/", "ada and bob"⟩ ∧
      make "xmpp" "ada@example.com" = .ok ⟨"xmpp", "ada@example.com"⟩ ∧
      parse (text ⟨"http://aim.com/", "ada and bob"⟩) = .ok ⟨"http://aim.com/", "ada and bob"⟩ ∧
      parse (text ⟨"xmpp", "ada@example.com"⟩) = .ok ⟨"xmpp", "ada@example.com"⟩ ∧
      (Value.handle ⟨"http://aim.com/", "ada and bob"⟩).sortText? ≠
        (Value.handle ⟨"xmpp", "ada@example.com"⟩).sortText? := by
  have url : make "http://aim.com/" "ada and bob" = .ok ⟨"http://aim.com/", "ada and bob"⟩ :=
    make_of_isProtocol (by decide +kernel) (by decide)
  have word : make "xmpp" "ada@example.com" = .ok ⟨"xmpp", "ada@example.com"⟩ :=
    make_of_isProtocol (by decide +kernel) (by decide)
  obtain ⟨readUrl, _, toldApart⟩ := text_identifies url
  obtain ⟨readWord, _, _⟩ := text_identifies word
  refine ⟨url, word, readUrl.mpr (by decide), readWord.mpr (by decide), ?_⟩
  intro same
  exact absurd (toldApart word (by decide) (by decide) same) (by decide)

/-- A URL with a space in its path is accepted as a protocol, and what follows the space is then
read as the beginning of the address. -/
theorem text_of_spaced_protocol :
    make "http://a/b c" "x" = .ok ⟨"http://a/b c", "x"⟩ ∧
      make "http://a/b" "c x" = .ok ⟨"http://a/b", "c x"⟩ ∧
      parse (text ⟨"http://a/b c", "x"⟩) = .ok ⟨"http://a/b", "c x"⟩ ∧
      (Value.handle ⟨"http://a/b c", "x"⟩).sortText? =
        (Value.handle ⟨"http://a/b", "c x"⟩).sortText? := by
  have spaced : make "http://a/b c" "x" = .ok ⟨"http://a/b c", "x"⟩ :=
    make_of_isProtocol (by decide +kernel) (by decide)
  have plain : make "http://a/b" "c x" = .ok ⟨"http://a/b", "c x"⟩ :=
    make_of_isProtocol (by decide +kernel) (by decide)
  have read : parse (text ⟨"http://a/b c", "x"⟩) = make "http://a/b" "c x" :=
    parse_eq_make (by decide) (by decide)
  exact ⟨spaced, plain, read.trans plain, by decide⟩

end Handle

end EntityStore
