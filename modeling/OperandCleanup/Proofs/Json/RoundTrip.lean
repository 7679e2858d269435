import OperandCleanup.Json.Reader
import OperandCleanup.Proofs.Json.Characters
import OperandCleanup.Proofs.Json.Members
import OperandCleanup.Proofs.Json.Numbers
import OperandCleanup.Proofs.Json.Parts
import OperandCleanup.Proofs.Json.Room

/-!
# Written values read back

The reader goes through written text piece by piece: from one state to another behind the piece,
whatever follows. Only a value needs something behind it that does not continue a number, which all
that the printer puts there does. So what is written of a value is read as that value, if its
floating-point numbers are finite ones that decimals are rounded to and no names in it are ambiguous
and no integers too long. There has to be room for the arrays and objects that are around each
other in it.
-/

namespace OperandCleanup.Json

/-- Whether reading characters within some room leads from a state to another one, whatever
follows. -/
def Passes (room : Nat) (state : ReaderState) (cs : List Char) (next : ReaderState) : Prop :=
  ∀ (offset : Nat) (rest : List Char),
    readTokensWithin room state (tokensFrom offset 0 (cs ++ rest)) =
      readTokensWithin room next (tokensFrom (offset + cs.length) 0 rest)

/-- Whether reading characters within some room leads from a state to another one in front of what
ends a number. -/
def Completes (room : Nat) (state : ReaderState) (cs : List Char) (next : ReaderState) : Prop :=
  ∀ (offset : Nat) (rest : List Char), EndsNumber rest →
    readTokensWithin room state (tokensFrom offset 0 (cs ++ rest)) =
      readTokensWithin room next (tokensFrom (offset + cs.length) 0 rest)

variable {room : Nat} {first second third : ReaderState} {cs ds : List Char}

/-- What leads on whatever follows leads on in front of what ends a number. -/
theorem Passes.completes (h : Passes room first cs second) : Completes room first cs second :=
  fun offset rest _ => h offset rest

/-- One piece of text after the other. -/
theorem Passes.append (h : Passes room first cs second) (h' : Passes room second ds third) :
    Passes room first (cs ++ ds) third := by
  intro offset rest
  rw [List.append_assoc, h, h', List.length_append, Nat.add_assoc]

/-- A piece of text in front of one that completes a value. -/
theorem Passes.append_completes (h : Passes room first cs second)
    (h' : Completes room second ds third) : Completes room first (cs ++ ds) third := by
  intro offset rest hrest
  rw [List.append_assoc, h, h' _ _ hrest, List.length_append, Nat.add_assoc]

/-- A piece of text that ends a number behind one that may end with a number. -/
theorem Completes.append_passes (h : Completes room first cs second)
    (h' : Passes room second ds third) (hends : ∀ rest, EndsNumber (ds ++ rest)) :
    Passes room first (cs ++ ds) third := by
  intro offset rest
  rw [List.append_assoc, h _ _ (hends rest), h', List.length_append, Nat.add_assoc]

/-- What starts with a character that continues no number ends one. -/
theorem endsNumber_cons {c : Char} (h : c.isDigit = false ∧ c ≠ '.' ∧ c ≠ 'e' ∧ c ≠ 'E')
    (rest : List Char) : EndsNumber (c :: rest) := by
  rintro _ ⟨⟩
  exact h

/-- Blanks lead nowhere. -/
theorem passes_spaces (state : ReaderState) {spaces : List Char}
    (h : ∀ c ∈ spaces, isSpace c = true) : Passes room state spaces state :=
  fun offset rest => by rw [tokensFrom_spaces offset h]

/-- The end of a line leads nowhere. -/
theorem passes_newline (state : ReaderState) (depth : Nat) :
    Passes room state (newline depth) state :=
  passes_spaces state fun _ => isSpace_of_mem_newline

/-- A token leads where the reader's step leads. -/
theorem passes_token {c : Char} {token : Token} (hspace : isSpace c = false)
    (htoken : ∀ offset rest, tokenAt offset c (cs ++ rest) = (token, cs.length))
    (hlast : token.isLast = false) (hroom : excess? room first token = none)
    (hstep : ∀ offset, step first offset token = .next second) :
    Passes room first (c :: cs) second := by
  intro offset rest
  rw [tokensFrom_token c cs hspace (htoken offset rest) hlast, readTokensWithin, hroom, hstep]

/-- A written text leads where the step of its token leads. -/
theorem passes_writtenText {s : String} (h : ∀ offset, step first offset (.text s) = .next second) :
    Passes room first (writtenText s) second := by
  intro offset rest
  rw [tokensFrom_writtenText, readTokensWithin, excess?_eq_none_of_opens? rfl, h]

/-! ## Values -/

/-- Whether a state reads the first token of a value within some frames. It may read the end of an
array instead. -/
structure StartsValue (state : ReaderState) (frames : List Frame) : Prop where
  step_eq : ∀ (offset : Nat) (token : Token), token ≠ .closeArray →
    step state offset token = valueStep frames offset token
  around : state.around? = some frames.length

theorem startsValue_value (frames : List Frame) : StartsValue ⟨.value, frames⟩ frames :=
  ⟨fun _ _ _ => rfl, rfl⟩

theorem startsValue_firstItem (frames : List Frame) :
    StartsValue ⟨.firstItem, frames⟩ (.array [] :: frames) := by
  refine ⟨fun offset token h => ?_, rfl⟩
  cases token with
  | closeArray => exact absurd rfl h
  | _ => rfl

/-- A bracket may open a value where there is room for one more. -/
theorem StartsValue.excess?_eq_none {state : ReaderState} {frames : List Frame}
    (h : StartsValue state frames) (hroom : frames.length < room) (token : Token) :
    excess? room state token = none := by
  rw [excess?, h.around]
  cases token.opens? with
  | none => rfl
  | some bracket => exact if_pos hroom

/-- A scalar may start and end a value. -/
theorem StartsValue.readTokensWithin_scalar {state : ReaderState} {frames : List Frame}
    (h : StartsValue state frames) (offset : Nat) (value : Json) (rest : List (Nat × Token)) :
    readTokensWithin room state ((offset, .scalar value) :: rest) =
      readTokensWithin room ⟨.delimiter value, frames⟩ rest := by
  rw [readTokensWithin, excess?_eq_none_of_opens? rfl, h.step_eq offset _ Token.noConfusion]
  rfl

/-- Whether what is written of a value is read as that value, wherever it stands with room for what
is around each other in it. -/
def ReadsBack (room : Nat) (value : Json) : Prop :=
  ∀ (state : ReaderState) (frames : List Frame) (depth : Nat), StartsValue state frames →
    frames.length + value.nesting ≤ room →
      Completes room state (writtenAt depth value) ⟨.delimiter value, frames⟩

/-- A number ends in front of what is written behind an item. -/
theorem endsNumber_writtenItems (items : List Json) (depth outer : Nat) (rest : List Char) :
    EndsNumber (writtenItems depth items ++ (newline outer ++ [']']) ++ rest) := by
  cases items with
  | nil => exact endsNumber_cons (c := '\n') (by decide) _
  | cons => exact endsNumber_cons (c := ',') (by decide) _

/-- A number ends in front of what is written behind a member. -/
theorem endsNumber_writtenMembers (members : Members) (depth outer : Nat) (rest : List Char) :
    EndsNumber (writtenMembers depth members ++ (newline outer ++ ['\x7d']) ++ rest) := by
  cases members with
  | nil => exact endsNumber_cons (c := '\n') (by decide) _
  | cons => exact endsNumber_cons (c := ',') (by decide) _

/-- The items after the first and the end of an array are read behind an item. -/
theorem passes_writtenItems {items : List Json} (h : ∀ item ∈ items, ReadsBack room item)
    (value : Json) (done : List Json) (frames : List Frame) (depth outer : Nat)
    (hroom : frames.length + 1 + nestingItems items ≤ room) :
    Passes room ⟨.delimiter value, .array done :: frames⟩
      (writtenItems depth items ++ (newline outer ++ [']']))
      ⟨.delimiter (.array ((value :: done).reverse ++ items)), frames⟩ := by
  induction items generalizing value done with
  | nil =>
    rw [List.append_nil]
    exact (passes_newline _ outer).append
      (passes_token rfl (fun _ _ => rfl) rfl rfl fun _ => rfl)
  | cons item rest ih =>
    have hcomma : Passes room ⟨.delimiter value, .array done :: frames⟩ [',']
        ⟨.value, .array (value :: done) :: frames⟩ :=
      passes_token rfl (fun _ _ => rfl) rfl rfl fun _ => rfl
    rw [nestingItems] at hroom
    have hitem := h item (by simp) _ _ depth (startsValue_value (.array (value :: done) :: frames))
      (by rw [List.length_cons]; omega)
    have hrest := ih (fun other hother => h other (List.mem_cons_of_mem _ hother)) item
      (value :: done) (by omega)
    have hpasses := hcomma.append ((passes_newline _ depth).append
      (hitem.append_passes hrest (endsNumber_writtenItems rest depth outer)))
    simpa [writtenItems] using hpasses

/-- A written member is read up to the end of its value, by a state that reads its name. -/
theorem completes_writtenMember {value : Json} (h : ReadsBack room value) {state : ReaderState}
    {members : Members} {frames : List Frame} (name : String)
    (hname : ∀ offset, step state offset (.text name) = .next ⟨.colon members name, frames⟩)
    (depth : Nat) (hroom : frames.length + 1 + value.nesting ≤ room) :
    Completes room state (writtenText name ++ ([':'] ++ ([' '] ++ writtenAt depth value)))
      ⟨.delimiter value, .object members name :: frames⟩ := by
  have hcolon : Passes room ⟨.colon members name, frames⟩ [':']
      ⟨.value, .object members name :: frames⟩ :=
    passes_token rfl (fun _ _ => rfl) rfl rfl fun _ => rfl
  have hspace : Passes room ⟨.value, .object members name :: frames⟩ [' ']
      ⟨.value, .object members name :: frames⟩ :=
        passes_spaces _ (List.forall_mem_singleton.mpr rfl)
  have hvalue := h _ _ depth (startsValue_value (.object members name :: frames)) hroom
  exact (passes_writtenText hname).append_completes
    (hcolon.append_completes (hspace.append_completes hvalue))

/-- The members after the first and the end of an object are read behind a member's value, if no
name is there twice. -/
theorem passes_writtenMembers {members : Members} (h : ∀ member ∈ members, ReadsBack room member.2)
    (value : Json) (done : Members) (name : String) (frames : List Frame) (depth outer : Nat)
    (hroom : frames.length + 1 + nestingMembers members ≤ room)
    (hnames : ((done.set name value ++ members).map (·.1)).Nodup) :
    Passes room ⟨.delimiter value, .object done name :: frames⟩
      (writtenMembers depth members ++ (newline outer ++ ['\x7d']))
      ⟨.delimiter (.object (done.set name value ++ members)), frames⟩ := by
  induction members generalizing value done name with
  | nil =>
    rw [List.append_nil]
    exact (passes_newline _ outer).append
      (passes_token rfl (fun _ _ => rfl) rfl rfl fun _ => rfl)
  | cons member rest ih =>
    obtain ⟨key, first⟩ := member
    rw [nestingMembers] at hroom
    have hcomma : Passes room ⟨.delimiter value, .object done name :: frames⟩ [',']
        ⟨.name (done.set name value), frames⟩ :=
      passes_token rfl (fun _ _ => rfl) rfl rfl fun _ => rfl
    have hname : ∀ offset, step ⟨.name (done.set name value), frames⟩ offset (.text key) =
        .next ⟨.colon (done.set name value) key, frames⟩ := fun _ => rfl
    have hfirst : frames.length + 1 + first.nesting ≤ room := by omega
    have hmember := completes_writtenMember (h (key, first) (by simp)) key hname depth hfirst
    have hkey : key ∉ (done.set name value).map (·.1) := by
      rw [List.map_append, List.nodup_append] at hnames
      exact fun hmem => hnames.2.2 key hmem key (by simp) rfl
    have hset : (done.set name value).set key first ++ rest =
        done.set name value ++ (key, first) :: rest := by
      rw [Members.set_of_notMem hkey, List.append_assoc, List.singleton_append]
    have hrest := ih (fun other hother => h other (List.mem_cons_of_mem _ hother)) first
      (done.set name value) key (by omega) (by rwa [hset])
    rw [hset] at hrest
    have hpasses := hcomma.append ((passes_newline _ depth).append
      (hmember.append_passes hrest (endsNumber_writtenMembers rest depth outer)))
    simpa [writtenMembers] using hpasses

/-- A token that is a scalar is read where a value starts. -/
theorem passes_scalar {state : ReaderState} {frames : List Frame} (h : StartsValue state frames)
    {c : Char} {value : Json} (hspace : isSpace c = false)
    (htoken : ∀ offset rest, tokenAt offset c (cs ++ rest) = (.scalar value, cs.length)) :
    Passes room state (c :: cs) ⟨.delimiter value, frames⟩ :=
  passes_token hspace htoken rfl (excess?_eq_none_of_opens? rfl _) fun offset =>
    h.step_eq offset _ Token.noConfusion

/-- An array reads back if its items do. -/
theorem readsBack_array {items : List Json} (h : ∀ item ∈ items, ReadsBack room item) :
    ReadsBack room (.array items) := by
  intro state frames depth hstart hroom
  rw [nesting] at hroom
  have hopen : Passes room state ['['] ⟨.firstItem, frames⟩ :=
    passes_token rfl (fun _ _ => rfl) rfl (hstart.excess?_eq_none (by omega) _) fun offset =>
      hstart.step_eq offset _ Token.noConfusion
  cases items with
  | nil =>
    have hclose : Passes room ⟨.firstItem, frames⟩ [']'] ⟨.delimiter (.array []), frames⟩ :=
      passes_token rfl (fun _ _ => rfl) rfl rfl fun _ => rfl
    exact (hopen.append hclose).completes
  | cons item rest =>
    rw [nestingItems] at hroom
    have hitem := h item (by simp) _ _ (depth + 1) (startsValue_firstItem frames)
      (by rw [List.length_cons]; omega)
    have hrest := passes_writtenItems (fun other hother => h other (List.mem_cons_of_mem _ hother))
      item [] frames (depth + 1) depth (by omega)
    have hpasses := hopen.append ((passes_newline _ (depth + 1)).append
      (hitem.append_passes hrest (endsNumber_writtenItems rest (depth + 1) depth)))
    simpa [writtenAt] using hpasses.completes

/-- An object reads back if the values of its members do and no two of these have one name. -/
theorem readsBack_object {members : Members} (h : ∀ member ∈ members, ReadsBack room member.2)
    (hnames : (members.map (·.1)).Nodup) : ReadsBack room (.object members) := by
  intro state frames depth hstart hroom
  rw [nesting] at hroom
  have hopen : Passes room state ['\x7b'] ⟨.firstName, frames⟩ :=
    passes_token rfl (fun _ _ => rfl) rfl (hstart.excess?_eq_none (by omega) _) fun offset =>
      hstart.step_eq offset _ Token.noConfusion
  cases members with
  | nil =>
    have hclose : Passes room ⟨.firstName, frames⟩ ['\x7d'] ⟨.delimiter (.object []), frames⟩ :=
      passes_token rfl (fun _ _ => rfl) rfl rfl fun _ => rfl
    exact (hopen.append hclose).completes
  | cons member rest =>
    obtain ⟨name, value⟩ := member
    rw [nestingMembers] at hroom
    have hname : ∀ offset, step ⟨.firstName, frames⟩ offset (.text name) =
        .next ⟨.colon [] name, frames⟩ := fun _ => rfl
    have hfirst : frames.length + 1 + value.nesting ≤ room := by omega
    have hmember := completes_writtenMember (h (name, value) (by simp)) name hname (depth + 1)
      hfirst
    have hrest := passes_writtenMembers
      (fun other hother => h other (List.mem_cons_of_mem _ hother)) value [] name frames
      (depth + 1) depth (by omega) hnames
    have hpasses := hopen.append ((passes_newline _ (depth + 1)).append
      (hmember.append_passes hrest (endsNumber_writtenMembers rest (depth + 1) depth)))
    simpa [writtenAt, Members.set] using hpasses.completes

/-- What is written of a value reads back if the floating-point numbers in it are finite ones that
decimals are rounded to, no integer in it is too long and no object in it names two members
alike. -/
theorem readsBack {value : Json} (hfinite : value.AllFinite) (hcanonical : value.AllCanonical)
    (hreadable : value.Readable) (hnames : value.Unambiguous) : ReadsBack room value := by
  induction value using induction_parts with
  | null =>
    exact fun state frames depth h _ => (passes_scalar h rfl fun _ _ => rfl).completes
  | bool value =>
    intro state frames depth h _
    cases value
    · exact (passes_scalar h rfl fun _ _ => rfl).completes
    · exact (passes_scalar h rfl fun _ _ => rfl).completes
  | int value =>
    intro state frames depth h _ offset rest hrest
    have hlength : (Nat.toDigits 10 value.natAbs).length ≤ maxIntegerDigits := by
      simpa [Readable, throughout, isReadable] using hreadable
    rw [writtenAt, tokensFrom_writtenInt offset hrest hlength,
      h.readTokensWithin_scalar]
  | float value =>
    intro state frames depth h _ offset rest hrest
    have hvalue : value.IsCanonical := of_decide_eq_true hcanonical
    rw [writtenAt, tokensFrom_writtenFloat offset hfinite hvalue hrest,
      h.readTokensWithin_scalar]
  | string value =>
    intro state frames depth h _
    rw [writtenAt]
    exact (passes_writtenText fun offset => h.step_eq offset _ Token.noConfusion).completes
  | array items ih =>
    exact readsBack_array fun item hitem => ih item hitem (allFinite_array.mp hfinite item hitem)
      (allCanonical_array.mp hcanonical item hitem) (readable_array.mp hreadable item hitem)
      (unambiguous_array.mp hnames item hitem)
  | object members ih =>
    obtain ⟨hdistinct, hvalues⟩ := unambiguous_object.mp hnames
    exact readsBack_object (fun member hmember => ih member hmember
      (allFinite_object.mp hfinite member hmember)
      (allCanonical_object.mp hcanonical member hmember)
      (readable_object.mp hreadable member hmember) (hvalues member hmember)) hdistinct

/-- A number ends in front of blanks. -/
theorem endsNumber_spaces {spaces : List Char} (h : ∀ c ∈ spaces, isSpace c = true) :
    EndsNumber spaces := by
  intro c hc
  have hspace := h c (List.mem_of_head? hc)
  simp only [isSpace, Bool.or_eq_true, beq_iff_eq] at hspace
  rcases hspace with ((rfl | rfl) | rfl) | rfl <;> decide

/-- The text of a value is read as that value where there is room for it, also with blanks behind
it. -/
theorem readWithin_written {value : Json} (hfinite : value.AllFinite)
    (hcanonical : value.AllCanonical) (hreadable : value.Readable) (hnames : value.Unambiguous)
    (hroom : value.nesting ≤ room) {blanks : List Char} (h : ∀ c ∈ blanks, isSpace c = true) :
    readWithin room (written value ++ blanks) = .ok value := by
  have hmark : (written value ++ blanks).head? ≠ some '\ufeff' := by
    intro hhead
    rcases List.mem_append.mp (List.mem_of_head? hhead) with hmem | hmem
    · exact absurd (isWritten_of_mem_writtenAt _ hmem) (by decide)
    · exact absurd (h _ hmem) (by decide)
  have hvalue := readsBack hfinite hcanonical hreadable hnames ⟨.value, []⟩ [] 0
    (startsValue_value []) (by simpa using hroom) 0 blanks (endsNumber_spaces h)
  have hblanks := tokensFrom_spaces (0 + (writtenAt 0 value).length) h []
  rw [List.append_nil] at hblanks
  rw [readWithin, if_neg hmark, tokens, written, hvalue, hblanks]
  rfl

/-- The text of a value is read as that value, also with blanks behind it. -/
theorem read_written {value : Json} (hfinite : value.AllFinite) (hcanonical : value.AllCanonical)
    (hreadable : value.Readable) (hnames : value.Unambiguous) {blanks : List Char}
    (h : ∀ c ∈ blanks, isSpace c = true) : read (written value ++ blanks) = .ok value :=
  read_of_readWithin (readWithin_written hfinite hcanonical hreadable hnames Nat.le.refl h)

end OperandCleanup.Json
