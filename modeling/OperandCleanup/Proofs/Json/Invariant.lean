import OperandCleanup.Json.Reader
import OperandCleanup.Proofs.Json.Members
import OperandCleanup.Proofs.Json.Parts
import OperandCleanup.Proofs.Json.Tokens

/-!
# What is read

Between two tokens all that the reader holds is well formed: no object names two members alike, as
a name that comes again takes the place of the first, no integer is longer than may be read, and
every floating-point number is one that a decimal is rounded to. So is then every value that is read
from a text.

The reader puts values together from those of the tokens, whatever these are. So what holds of the
tokens and is kept by putting values together holds of what is read.
-/

namespace OperandCleanup.Json

/-! ## Values put together -/

/-- Whether a property of texts is one of the values too, and is kept when values are put
together. -/
structure Kept (fits : String → Prop) (holds : Json → Prop) : Prop where
  string {s : String} (h : fits s) : holds (.string s)
  array {items : List Json} : holds (.array items) ↔ ∀ item ∈ items, holds item
  empty : holds (.object [])
  set {members : Members} {name : String} {value : Json} (h : holds (.object members))
    (hname : fits name) (hvalue : holds value) : holds (.object (members.set name value))

/-- Whether what a token stands for has the property. -/
def Token.Sound (fits : String → Prop) (holds : Json → Prop) : Token → Prop
  | .text s => fits s
  | .scalar value => holds value
  | _ => True

/-- Properties that follow hold of what a token stands for. -/
theorem Token.Sound.imp {fits weakerFits : String → Prop} {holds weaker : Json → Prop}
    {token : Token} (h : token.Sound fits holds) (htext : ∀ s, fits s → weakerFits s)
    (hscalar : ∀ value, holds value → weaker value) : token.Sound weakerFits weaker := by
  cases token with
  | text s => exact htext s h
  | scalar value => exact hscalar value h
  | _ => trivial

/-- Whether what stands in an open array or object has the property. -/
def Frame.Sound (fits : String → Prop) (holds : Json → Prop) : Frame → Prop
  | .array items => holds (.array items)
  | .object members name => holds (.object members) ∧ fits name

/-- Whether what the reader holds besides its frames has the property. -/
def Expectation.Sound (fits : String → Prop) (holds : Json → Prop) : Expectation → Prop
  | .value => True
  | .firstItem => True
  | .firstName => True
  | .name members => holds (.object members)
  | .colon members key => holds (.object members) ∧ fits key
  | .delimiter complete => holds complete

/-- Whether all that the reader holds has the property. -/
structure ReaderState.Sound (fits : String → Prop) (holds : Json → Prop) (state : ReaderState) :
    Prop where
  expectation : state.expectation.Sound fits holds
  frames : ∀ frame ∈ state.frames, frame.Sound fits holds

/-- Whether a step leads to nothing but what has the property. -/
def Step.Sound (fits : String → Prop) (holds : Json → Prop) : Step → Prop
  | .next state => state.Sound fits holds
  | .finished value => holds value
  | .stopped _ => True

section Kept

variable {fits : String → Prop} {holds : Json → Prop} {frames : List Frame} {token : Token}

/-- Where a value starts, all keeps the property. -/
theorem sound_valueStep (hkept : Kept fits holds)
    (hframes : ∀ frame ∈ frames, frame.Sound fits holds) (htoken : token.Sound fits holds)
    (offset : Nat) : (valueStep frames offset token).Sound fits holds := by
  cases token with
  | openObject | openArray => exact ⟨trivial, hframes⟩
  | text value => exact ⟨hkept.string htoken, hframes⟩
  | scalar value => exact ⟨htoken, hframes⟩
  | _ => trivial

/-- Where a name starts, all keeps the property. -/
theorem sound_nameStep {members : Members} (hmembers : holds (.object members))
    (hframes : ∀ frame ∈ frames, frame.Sound fits holds) (htoken : token.Sound fits holds)
    (offset : Nat) : (nameStep members frames offset token).Sound fits holds := by
  unfold nameStep
  split
  · exact ⟨⟨hmembers, htoken⟩, hframes⟩
  · trivial
  · trivial

/-- Behind a complete value, all keeps the property. -/
theorem sound_delimiterStep (hkept : Kept fits holds) {value : Json} (hvalue : holds value)
    (hframes : ∀ frame ∈ frames, frame.Sound fits holds) (offset : Nat) :
    (delimiterStep value offset frames token).Sound fits holds := by
  unfold delimiterStep
  split
  · exact hvalue
  · trivial
  · rename_i items outer
    obtain ⟨hitems, houter⟩ := List.forall_mem_cons.mp hframes
    have hitems' : holds (.array (value :: items)) :=
      hkept.array.mpr (List.forall_mem_cons.mpr ⟨hvalue, hkept.array.mp hitems⟩)
    exact ⟨trivial, List.forall_mem_cons.mpr ⟨hitems', houter⟩⟩
  · rename_i items outer
    obtain ⟨hitems, houter⟩ := List.forall_mem_cons.mp hframes
    refine ⟨hkept.array.mpr fun item hitem => ?_, houter⟩
    rcases List.mem_cons.mp (List.mem_reverse.mp hitem) with rfl | hitem
    · exact hvalue
    · exact hkept.array.mp hitems item hitem
  · obtain ⟨⟨hmembers, hname⟩, houter⟩ := List.forall_mem_cons.mp hframes
    exact ⟨hkept.set hmembers hname hvalue, houter⟩
  · obtain ⟨⟨hmembers, hname⟩, houter⟩ := List.forall_mem_cons.mp hframes
    exact ⟨hkept.set hmembers hname hvalue, houter⟩
  · trivial

/-- A step keeps the property. -/
theorem sound_step (hkept : Kept fits holds) {state : ReaderState} (hstate : state.Sound fits holds)
    (htoken : token.Sound fits holds) (offset : Nat) :
    (step state offset token).Sound fits holds := by
  obtain ⟨expectation, frames⟩ := state
  obtain ⟨hexpectation, hframes⟩ := hstate
  have hnone : holds (.array []) := hkept.array.mpr fun _ hitem => absurd hitem List.not_mem_nil
  cases expectation with
  | value => exact sound_valueStep hkept hframes htoken offset
  | firstItem =>
    have hopened : ∀ frame ∈ Frame.array [] :: frames, frame.Sound fits holds :=
      List.forall_mem_cons.mpr ⟨hnone, hframes⟩
    cases token with
    | closeArray => exact ⟨hnone, hframes⟩
    | _ => exact sound_valueStep hkept hopened htoken offset
  | firstName =>
    unfold step
    dsimp only
    split
    · exact ⟨hkept.empty, hframes⟩
    · exact sound_nameStep hkept.empty hframes htoken offset
  | name members => exact sound_nameStep hexpectation hframes htoken offset
  | colon members name =>
    cases token with
    | colon => exact ⟨trivial, List.forall_mem_cons.mpr ⟨hexpectation, hframes⟩⟩
    | _ => trivial
  | delimiter value => exact sound_delimiterStep hkept hexpectation hframes offset

/-- What is read from tokens with the property has it. -/
theorem holds_of_readTokens (hkept : Kept fits holds) {entries : List (Nat × Token)}
    (htokens : ∀ entry ∈ entries, entry.2.Sound fits holds) {value : Json}
    (h : readTokens ⟨.value, []⟩ entries = .ok value) : holds value := by
  have hstart : ReaderState.Sound fits holds ⟨.value, []⟩ :=
    ⟨trivial, fun _ hframe => absurd hframe List.not_mem_nil⟩
  revert h
  generalize ReaderState.mk .value [] = state at hstart
  intro h
  induction entries generalizing state with
  | nil => cases h
  | cons entry rest ih =>
    obtain ⟨offset, token⟩ := entry
    obtain ⟨htoken, hrest⟩ := List.forall_mem_cons.mp htokens
    have hnext := sound_step hkept hstart htoken offset
    rw [readTokens] at h
    cases hstep : step state offset token with
    | next state =>
      rw [hstep] at h hnext
      exact ih hrest state hnext h
    | finished result =>
      rw [hstep] at h hnext
      obtain rfl := Except.ok.inj h
      exact hnext
    | stopped fault =>
      rw [hstep] at h
      cases h

end Kept

/-! ## Well-formed values -/

/-- What holds of every value that is read. -/
structure WellFormed (value : Json) : Prop where
  unambiguous : value.Unambiguous
  readable : value.Readable
  canonical : value.AllCanonical

theorem wellFormed_array {items : List Json} :
    (Json.array items).WellFormed ↔ ∀ item ∈ items, item.WellFormed := by
  constructor
  · intro h item hitem
    exact ⟨unambiguous_array.mp h.unambiguous item hitem, readable_array.mp h.readable item hitem,
      allCanonical_array.mp h.canonical item hitem⟩
  · intro h
    exact ⟨unambiguous_array.mpr fun item hitem => (h item hitem).unambiguous,
      readable_array.mpr fun item hitem => (h item hitem).readable,
      allCanonical_array.mpr fun item hitem => (h item hitem).canonical⟩

theorem wellFormed_object {members : Members} :
    (Json.object members).WellFormed ↔
      (members.map (·.1)).Nodup ∧ ∀ member ∈ members, member.2.WellFormed := by
  constructor
  · intro h
    obtain ⟨hnames, hvalues⟩ := unambiguous_object.mp h.unambiguous
    exact ⟨hnames, fun member hmember =>
      ⟨hvalues member hmember, readable_object.mp h.readable member hmember,
        allCanonical_object.mp h.canonical member hmember⟩⟩
  · rintro ⟨hnames, hvalues⟩
    exact ⟨unambiguous_object.mpr
        ⟨hnames, fun member hmember => (hvalues member hmember).unambiguous⟩,
      readable_object.mpr fun member hmember => (hvalues member hmember).readable,
      allCanonical_object.mpr fun member hmember => (hvalues member hmember).canonical⟩

/-- Setting a name keeps an object well formed. -/
theorem WellFormed.set {members : Members} (h : (Json.object members).WellFormed) (name : String)
    {value : Json} (hvalue : value.WellFormed) :
    (Json.object (members.set name value)).WellFormed := by
  obtain ⟨hnames, hvalues⟩ := wellFormed_object.mp h
  refine wellFormed_object.mpr ⟨Members.nodup_names_set hnames name value, fun member hmember => ?_⟩
  rcases Members.mem_of_mem_set hmember with hmember | rfl
  · exact hvalues member hmember
  · exact hvalue

/-- Putting values together keeps them well formed. -/
theorem kept_wellFormed : Kept (fun _ => True) WellFormed where
  string _ := ⟨rfl, rfl, rfl⟩
  array := wellFormed_array
  empty := ⟨rfl, rfl, rfl⟩
  set h _ hvalue := h.set _ hvalue

/-- Putting values together keeps what holds of all their texts. -/
theorem kept_allTexts (test : String → Bool) : Kept (test · = true) (AllTexts test) where
  string h := h
  array := allTexts_array
  empty := rfl
  set h hname hvalue := by
    refine allTexts_object.mpr fun member hmember => ?_
    rcases Members.mem_of_mem_set hmember with hmember | rfl
    · exact allTexts_object.mp h member hmember
    · exact ⟨hname, hvalue⟩

/-! ## Tokens -/

/-- What holds of every scalar that is no text: it is well formed, and no texts are in it. -/
structure Textless (value : Json) : Prop where
  wellFormed : value.WellFormed
  allTexts (test : String → Bool) : value.AllTexts test

/-- Digits write a number below the power of ten that they do not reach. -/
theorem decimalValue_lt {digits : List Char} (h : ∀ c ∈ digits, c.isDigit = true) :
    decimalValue digits < Nat.pow 10 digits.length := by
  induction digits with
  | nil => decide
  | cons c rest ih =>
    obtain ⟨hc, hrest⟩ := List.forall_mem_cons.mp h
    have hdigit : c.toNat - '0'.toNat ≤ 9 := by
      simp only [Char.isDigit, Bool.and_eq_true, decide_eq_true_eq, UInt32.le_iff_toNat_le] at hc
      have hhigh : c.toNat ≤ 57 := hc.2
      have hzero : '0'.toNat = 48 := rfl
      omega
    have hvalue : decimalValue (c :: rest) =
        Nat.pow 10 rest.length * (c.toNat - '0'.toNat) + decimalValue rest := by
      rw [decimalValue, Nat.ofDigitChars_cons, Nat.ofDigitChars_eq_ofDigitChars_zero,
        Nat.mul_zero, Nat.zero_add, decimalValue, Nat.pow_eq]
    calc decimalValue (c :: rest)
        = Nat.pow 10 rest.length * (c.toNat - '0'.toNat) + decimalValue rest := hvalue
      _ < Nat.pow 10 rest.length * 9 + Nat.pow 10 rest.length :=
        Nat.add_lt_add_of_le_of_lt (Nat.mul_le_mul_left _ hdigit) (ih hrest)
      _ = Nat.pow 10 (c :: rest).length := by
        rw [List.length_cons, Nat.pow_eq, Nat.pow_eq, Nat.pow_succ]
        omega

/-- Digits write a number of as many digits at most. -/
theorem length_toDigits_decimalValue {digits : List Char} {limit : Nat}
    (hdigits : ∀ c ∈ digits, c.isDigit = true) (hlength : digits.length ≤ limit)
    (hlimit : 0 < limit) : (Nat.toDigits 10 (decimalValue digits)).length ≤ limit := by
  rw [Nat.length_toDigits_le_iff (by decide) hlimit]
  exact Nat.lt_of_lt_of_le (decimalValue_lt hdigits) (Nat.pow_le_pow_right (by decide) hlength)

/-- The whole part of a number consists of digits. -/
theorem isDigit_of_mem_wholeDigits {cs : List Char} : ∀ c ∈ wholeDigits cs, c.isDigit = true := by
  unfold wholeDigits
  split
  · exact fun _ hc => absurd hc List.not_mem_nil
  · exact List.forall_mem_singleton.mpr rfl
  · exact List.all_eq_true.mp List.all_takeWhile

/-- A number is well formed, or too long to be read. -/
theorem sound_numberToken {fits : String → Prop} {parts : NumberParts}
    (h : ∀ c ∈ parts.whole, c.isDigit = true) : parts.token.Sound fits Textless := by
  unfold NumberParts.token
  split
  · split
    · trivial
    · rename_i hlength
      have hdigits := length_toDigits_decimalValue h (Nat.le_of_not_lt hlength) (by decide)
      have hreadable : isReadable (.int (if parts.negative then -(decimalValue parts.whole : Int)
          else decimalValue parts.whole)) = true := by
        rw [isReadable, decide_eq_true_eq]
        split
        · rwa [Int.natAbs_neg, Int.natAbs_natCast]
        · rwa [Int.natAbs_natCast]
      exact ⟨⟨rfl, hreadable, rfl⟩, fun _ => rfl⟩
  · exact ⟨⟨rfl, rfl, decide_eq_true (Binary64.isCanonical_ofDecimal ..)⟩, fun _ => rfl⟩

/-- The parts of a number have digits before the point. -/
theorem isDigit_of_numberParts? {cs : List Char} {parts : NumberParts}
    (h : numberParts? cs = some parts) : ∀ c ∈ parts.whole, c.isDigit = true := by
  unfold numberParts? at h
  dsimp only at h
  split at h
  all_goals
    split at h
    · cases h
    · rw [← Option.some.inj h]
      exact isDigit_of_mem_wholeDigits

/-- A named value is no text, and well formed. -/
theorem textless_of_namedValue? {cs : List Char} {value : Json} {length : Nat}
    (h : namedValue? cs = some (value, length)) : value.Textless := by
  have hnamed : ∀ entry ∈ namedValues, entry.2.Textless := by
    intro entry hentry
    simp only [namedValues, List.mem_cons, List.not_mem_nil, or_false] at hentry
    rcases hentry with rfl | rfl | rfl | rfl | rfl | rfl <;>
      exact ⟨⟨rfl, rfl, rfl⟩, fun _ => rfl⟩
  obtain ⟨entry, hentry, hfound⟩ := List.exists_of_findSome?_eq_some h
  dsimp only at hfound
  split at hfound
  · obtain ⟨rfl, -⟩ := Prod.mk.inj (Option.some.inj hfound)
    exact hnamed entry hentry
  · exact absurd hfound (by simp)

/-- What stands for a scalar is no text, and well formed. -/
theorem sound_scalarToken {fits : String → Prop} (cs : List Char) :
    (scalarToken cs).1.Sound fits Textless := by
  unfold scalarToken
  split
  · rename_i value length hnamed
    exact textless_of_namedValue? hnamed
  · split
    · rename_i parts hparts
      exact sound_numberToken (isDigit_of_numberParts? hparts)
    · trivial

/-- Every token of a text is sound. -/
theorem sound_tokenAt (offset : Nat) (c : Char) (rest : List Char) :
    (tokenAt offset c rest).1.Sound (fun _ => True) Textless := by
  unfold tokenAt
  split
  case h_7 =>
    unfold textToken
    split <;> trivial
  case h_8 => exact sound_scalarToken (c :: rest)
  all_goals trivial

/-- So are the tokens from any place on. -/
theorem sound_of_mem_tokensFrom {offset skip : Nat} {text : List Char} :
    ∀ entry ∈ tokensFrom offset skip text, entry.2.Sound (fun _ => True) Textless := by
  fun_induction tokensFrom offset skip text with
  | case1 => simp [Token.Sound]
  | case2 offset skip c rest ih => exact ih
  | case3 offset c rest hspace ih => exact ih
  | case4 offset c rest hspace token length htoken ih =>
    have hfirst := sound_tokenAt offset c rest
    rw [htoken] at hfirst
    refine List.forall_mem_cons.mpr ⟨hfirst, ?_⟩
    split
    · exact fun _ hentry => absurd hentry List.not_mem_nil
    · exact ih

/-- The value of a text is well formed. -/
theorem wellFormed_of_read {text : List Char} {value : Json} (h : read text = .ok value) :
    value.WellFormed := by
  unfold read at h
  split at h
  · cases h
  · exact holds_of_readTokens kept_wellFormed
      (fun entry hentry =>
        (sound_of_mem_tokensFrom entry hentry).imp (fun _ h => h) fun _ h => h.wellFormed) h

end OperandCleanup.Json
