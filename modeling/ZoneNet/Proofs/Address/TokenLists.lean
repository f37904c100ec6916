import ZoneNet.Address.Token

/-!
# Address lists as texts

A comma between two lists makes one list of both, so a list that is written token by token can be
read token by token.

* `parseList_append` — two lists with a comma between them.
* `listable_of_mem_parseList` — what tokens a list can hold.
* `parseList_writeList` — such tokens come back from the list that they are written as.
-/

namespace ZoneNet.Token

open Text

/-! ## Writing -/

/-- The address list that tokens are written as. -/
def writeList (ts : List Token) : String := ",".intercalate (ts.map text)

theorem writeList_cons (t : Token) {ts : List Token} (h : ts ≠ []) :
    writeList (t :: ts) = t.text ++ "," ++ writeList ts := by
  unfold writeList
  rw [List.map_cons, String.intercalate_cons_of_ne_nil (by simpa using h)]

/-- Whether a list can hold a token: a literal is an entry of its own, and no keyword. -/
def Listable : Token → Prop
  | dhcp | addrconf => True
  | literal addr => addr ≠ "" ∧ ',' ∉ addr.toList ∧ addr ≠ "dhcp" ∧ addr ≠ "addrconf"

instance : DecidablePred Listable
  | dhcp | addrconf => .isTrue trivial
  | literal _ => inferInstanceAs (Decidable (_ ∧ _ ∧ _ ∧ _))

theorem Listable.text_ne {t : Token} (h : t.Listable) : t.text ≠ "" := by
  cases t with
  | dhcp => decide
  | addrconf => decide
  | literal addr => exact h.1

theorem Listable.not_mem {t : Token} (h : t.Listable) : ',' ∉ t.text.toList := by
  cases t with
  | dhcp => decide
  | addrconf => decide
  | literal addr => exact h.2.1

/-- The text of such a token is an entry that stands for it. -/
theorem Listable.ofEntry_text {t : Token} (h : t.Listable) : ofEntry t.text = t := by
  cases t with
  | dhcp => rfl
  | addrconf => rfl
  | literal addr =>
    obtain ⟨-, -, hdhcp, haddrconf⟩ := h
    show ofEntry addr = _
    rw [ofEntry, if_neg hdhcp, if_neg haddrconf]

theorem listable_ofEntry {entry : String} (hne : entry ≠ "") (hcomma : ',' ∉ entry.toList) :
    (ofEntry entry).Listable := by
  unfold ofEntry
  split
  · trivial
  · next hdhcp =>
    split
    · trivial
    · next haddrconf => exact ⟨hne, hcomma, hdhcp, haddrconf⟩

/-! ## Reading -/

/-- A comma joins two lists to one. -/
theorem parseList_append (a b : String) :
    parseList (a ++ "," ++ b) = parseList a ++ parseList b := by
  have hlist : (a ++ "," ++ b).toList = a.toList ++ ',' :: b.toList := by simp
  unfold parseList
  rw [hlist, pieces_append, List.filter_append, List.map_append]

/-- A text without a comma is one entry. -/
theorem parseList_of_not_mem {entry : String} (hne : entry ≠ "") (hcomma : ',' ∉ entry.toList) :
    parseList entry = [ofEntry entry] := by
  have hlist : entry.toList ≠ [] := by simpa using hne
  unfold parseList
  rw [pieces_of_not_mem hcomma]
  simp [hlist]

/-- A list holds no token but those that it can hold. -/
theorem listable_of_mem_parseList {l : String} {t : Token} (h : t ∈ parseList l) : t.Listable := by
  unfold parseList at h
  obtain ⟨p, hp, rfl⟩ := List.mem_map.1 h
  obtain ⟨hpiece, hne⟩ := List.mem_filter.1 hp
  refine listable_ofEntry ?_ ?_
  · simpa using hne
  · rw [String.toList_ofList]
    exact not_mem_of_mem_pieces hpiece

/-- Tokens that a list can hold come back in order, each as often as it was written. -/
theorem parseList_writeList {ts : List Token} (h : ∀ t ∈ ts, t.Listable) :
    parseList (writeList ts) = ts := by
  induction ts with
  | nil => rfl
  | cons t ts ih =>
    obtain ⟨ht, hts⟩ := List.forall_mem_cons.1 h
    have hfirst : parseList t.text = [t] := by
      rw [parseList_of_not_mem ht.text_ne ht.not_mem, ht.ofEntry_text]
    by_cases hne : ts = []
    · subst hne
      rw [writeList, List.map_singleton, String.intercalate_singleton, hfirst]
    · rw [writeList_cons t hne, parseList_append, hfirst, ih hts]
      rfl

/-! ## Lists and texts -/

/-- Reading takes a comma between texts to the one list after the other. Every token that is read
has a text that is an entry, and what is written of the tokens is read as them again. Tokens come
back from what is written of them just when each is one that a list can hold, and these are just the
lists that are read from some text. -/
theorem parseList_algebra :
    (∀ a b : String, parseList (a ++ "," ++ b) = parseList a ++ parseList b) ∧
    (∀ l : String, (∀ t ∈ parseList l, t.text ≠ "" ∧ ',' ∉ t.text.toList) ∧
      parseList (writeList (parseList l)) = parseList l) ∧
    (∀ ts : List Token, parseList (writeList ts) = ts ↔ ∀ t ∈ ts, t.Listable) ∧
    ∀ ts : List Token, (∃ l, parseList l = ts) ↔ ∀ t ∈ ts, t.Listable := by
  have hread : ∀ {ts : List Token}, (∃ l, parseList l = ts) → ∀ t ∈ ts, t.Listable := by
    rintro _ ⟨l, rfl⟩ t ht
    exact listable_of_mem_parseList ht
  refine ⟨parseList_append, fun l => ⟨fun t ht => ?_, ?_⟩, fun ts => ⟨fun h => ?_, ?_⟩,
    fun ts => ⟨hread, fun h => ?_⟩⟩
  · have hlistable : t.Listable := listable_of_mem_parseList ht
    exact ⟨hlistable.text_ne, hlistable.not_mem⟩
  · exact parseList_writeList fun _ => listable_of_mem_parseList
  · exact hread ⟨_, h⟩
  · exact parseList_writeList
  · exact ⟨_, parseList_writeList h⟩

/-- Keywords and literals in any order, one of each twice. -/
theorem parseList_algebra_repeated :
    let ts := [literal "10.0.0.2/24", dhcp, literal " dhcp", dhcp, addrconf, literal "10.0.0.2/24"]
    (∀ t ∈ ts, t.Listable) ∧ parseList (writeList ts) = ts := by
  intro ts
  have hts : ∀ t ∈ ts, t.Listable := by decide
  exact ⟨hts, (parseList_algebra.2.2.1 ts).2 hts⟩

end ZoneNet.Token
