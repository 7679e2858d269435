import OperandCleanup.Json.Room

/-!
# Room enough and too little

A reader within some room either gives up for want of it or does what the reader without a limit
does. It gives up at brackets in a row that are more than there is room for.
-/

namespace OperandCleanup.Json

variable {room : Nat}

/-- Items are nested no deeper than to a depth if none of them is deeper. -/
theorem nestingItems_le {items : List Json} {depth : Nat}
    (h : ∀ item ∈ items, item.nesting ≤ depth) : nestingItems items ≤ depth := by
  induction items with
  | nil => exact Nat.zero_le depth
  | cons first rest ih =>
    obtain ⟨hfirst, hrest⟩ := List.forall_mem_cons.mp h
    exact Nat.max_le.mpr ⟨hfirst, ih hrest⟩

/-- Members are nested no deeper than to a depth if the value of none of them is deeper. -/
theorem nestingMembers_le {members : Members} {depth : Nat}
    (h : ∀ member ∈ members, member.2.nesting ≤ depth) : nestingMembers members ≤ depth := by
  induction members with
  | nil => exact Nat.zero_le depth
  | cons first rest ih =>
    obtain ⟨hfirst, hrest⟩ := List.forall_mem_cons.mp h
    exact Nat.max_le.mpr ⟨hfirst, ih hrest⟩

/-- A token that opens nothing takes no room. -/
theorem excess?_eq_none_of_opens? {token : Token} (h : token.opens? = none)
    (state : ReaderState) : excess? room state token = none := by
  rw [excess?, h]
  cases state.around? <;> rfl

/-- A reader either gives up for want of room or does what the reader without a limit does. -/
theorem readTokensWithin_cases (room : Nat) (state : ReaderState) (rest : List (Nat × Token)) :
    (∃ bracket, readTokensWithin room state rest = .error (.exhausted bracket)) ∨
      readTokensWithin room state rest = (readTokens state rest).mapError .failed := by
  induction rest generalizing state with
  | nil => exact .inr rfl
  | cons entry rest ih =>
    obtain ⟨offset, token⟩ := entry
    rw [readTokensWithin, readTokens]
    cases excess? room state token with
    | some bracket => exact .inl ⟨bracket, rfl⟩
    | none =>
      cases step state offset token with
      | next state => exact ih state
      | finished value => exact .inr rfl
      | stopped fault => exact .inr rfl

/-- A text is either nested too deeply for the room or read as without a limit. -/
theorem readWithin_cases (room : Nat) (text : List Char) :
    (∃ bracket, readWithin room text = .error (.exhausted bracket)) ∨
      readWithin room text = (read text).mapError .failed := by
  rw [readWithin, read]
  split
  · exact .inr rfl
  · exact readTokensWithin_cases room _ _

/-- What is read within some room is read without a limit. -/
theorem read_of_readWithin {text : List Char} {value : Json}
    (h : readWithin room text = .ok value) : read text = .ok value := by
  rcases readWithin_cases room text with ⟨bracket, hfull⟩ | hread
  · rw [hfull] at h
    cases h
  · rw [hread] at h
    cases hvalue : read text with
    | error fault =>
      rw [hvalue] at h
      cases h
    | ok other =>
      rw [hvalue] at h
      rw [Except.ok.inj h]

/-- Where a value may start, the bracket of an array takes room for one more, if there is any. -/
theorem readTokensWithin_openArray (room : Nat) {state : ReaderState} {around : Nat}
    (hstate : state.around? = some around) (offset : Nat) (rest : List (Nat × Token)) :
    if around < room then
      ∃ next : ReaderState, next.around? = some (around + 1) ∧
        readTokensWithin room state ((offset, .openArray) :: rest) =
          readTokensWithin room next rest
    else
      readTokensWithin room state ((offset, .openArray) :: rest) = .error (.exhausted .array) := by
  rw [readTokensWithin, excess?, hstate]
  split
  case isFalse hfull => simp only [Token.opens?, if_neg hfull]
  case isTrue hroom =>
    simp only [Token.opens?, if_pos hroom]
    obtain ⟨expectation, frames⟩ := state
    cases expectation with
    | value =>
      obtain rfl := Option.some.inj hstate
      exact ⟨⟨.firstItem, frames⟩, rfl, rfl⟩
    | firstItem =>
      obtain rfl := Option.some.inj hstate
      exact ⟨⟨.firstItem, .array [] :: frames⟩, rfl, rfl⟩
    | _ => cases hstate

/-- A reader gives up at brackets in a row that, with those around them, are more than there is room
for. -/
theorem readTokensWithin_brackets {state : ReaderState} {around count : Nat}
    (hstate : state.around? = some around) (hroom : around ≤ room) (hcount : room < around + count)
    (offset : Nat) (rest : List Char) :
    readTokensWithin room state (tokensFrom offset 0 (List.replicate count '[' ++ rest)) =
      .error (.exhausted .array) := by
  induction count generalizing state around offset with
  | zero => exact absurd hcount (Nat.not_lt.mpr hroom)
  | succ count ih =>
    have hopen (cs : List Char) :
        tokensFrom offset 0 ('[' :: cs) = (offset, .openArray) :: tokensFrom (offset + 1) 0 cs :=
      rfl
    rw [List.replicate_succ, List.cons_append, hopen]
    have hnext := readTokensWithin_openArray room hstate offset
      (tokensFrom (offset + 1) 0 (List.replicate count '[' ++ rest))
    split at hnext
    case isTrue hroom =>
      obtain ⟨next, haround, hread⟩ := hnext
      rw [hread]
      exact ih haround hroom (by omega) _
    case isFalse => exact hnext

/-- A text is nested too deeply that begins with more brackets than there is room for, whatever
follows. -/
theorem readWithin_brackets (rest : List Char) {count : Nat} (h : room < count) :
    readWithin room (List.replicate count '[' ++ rest) = .error (.exhausted .array) := by
  obtain ⟨count, rfl⟩ := Nat.exists_eq_add_one.mpr (Nat.lt_of_le_of_lt (Nat.zero_le room) h)
  rw [readWithin, if_neg (by simp [List.replicate_succ])]
  have hstart : (⟨.value, []⟩ : ReaderState).around? = some 0 := rfl
  exact readTokensWithin_brackets hstart (Nat.zero_le room) (by omega) 0 rest

end OperandCleanup.Json
