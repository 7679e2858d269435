import OperandCleanup.Json.CodePoint
import OperandCleanup.Proofs.Json.RoundTrip

/-!
# Different values, different texts

Two values without floating-point numbers are written differently unless they are the same. The
first character of what is written tells which kind of value it is, and whatever stands behind a
value, its end is found: two texts that start with values and go on with what continues no number
are the same only if the values and the rests are. Reading texts back would prove less, as integers
may be too long to be read. What is asked of the way in which texts are quoted is only that it tells
those texts apart that occur.
-/

namespace OperandCleanup.Json

/-! ## Kinds of values -/

/-- The type of the values whose text starts with a character. -/
def typeOfInitial (c : Char) : String :=
  if c = 'n' then "NoneType"
  else if c = 't' ∨ c = 'f' then "bool"
  else if c = '"' then "str"
  else if c = '[' then "list"
  else if c = '\x7b' then "dict"
  else "int"

/-- The first character of an integer. -/
theorem typeOfInitial_of_isDigit {c : Char} (h : c = '-' ∨ c.isDigit = true) :
    typeOfInitial c = "int" := by
  have hother : ∀ other : Char, other.isDigit = false → other ≠ '-' → c ≠ other := by
    rintro other hdigit hminus rfl
    rcases h with rfl | hc
    · exact hminus rfl
    · exact ne_of_isDigit hc hdigit rfl
  simp [typeOfInitial, hother 'n' rfl (by decide), hother 't' rfl (by decide),
    hother 'f' rfl (by decide), hother '"' rfl (by decide), hother '[' rfl (by decide),
    hother '\x7b' rfl (by decide)]

/-- Values of one type. -/
inductive SameType : Json → Json → Prop
  | null : SameType .null .null
  | bool (value other : Bool) : SameType (.bool value) (.bool other)
  | int (value other : Int) : SameType (.int value) (.int other)
  | float (value other : Binary64) : SameType (.float value) (.float other)
  | string (value other : String) : SameType (.string value) (.string other)
  | array (items others : List Json) : SameType (.array items) (.array others)
  | object (members others : Members) : SameType (.object members) (.object others)

/-- Values whose types have one name are of one type. -/
theorem sameType_of_typeName {value other : Json} (h : value.typeName = other.typeName) :
    SameType value other := by
  cases value <;> cases other <;> first | constructor | exact absurd h (by simp [typeName])

/-! ## Scalars -/

/-- Whether the texts that pass a test are told apart by what they are quoted as, whatever
follows. -/
structure Quoting (quoted : String → List Char) (test : String → Bool) : Prop where
  starts (s : String) : ∃ cs, quoted s = '"' :: cs
  append_inj {s t : String} {rest rest' : List Char} (hs : test s = true) (ht : test t = true)
    (h : quoted s ++ rest = quoted t ++ rest') : s = t ∧ rest = rest'

/-- A text ends where its quotes do. -/
theorem writtenText_append_inj {s t : String} {rest rest' : List Char}
    (h : writtenText s ++ rest = writtenText t ++ rest') : s = t ∧ rest = rest' := by
  have hsame : s = t := by
    simp only [writtenText, List.cons_append, List.append_assoc, List.nil_append] at h
    have htoken := congrArg (textToken 0) (List.cons.inj h).2
    rw [textToken_written, textToken_written] at htoken
    exact Token.text.inj (Prod.mk.inj htoken).1
  subst hsame
  exact ⟨rfl, List.append_cancel_left h⟩

/-- So texts of characters are told apart, whatever they are. -/
theorem quoting_writtenText : Quoting writtenText fun _ => true :=
  ⟨fun _ => ⟨_, rfl⟩, fun _ _ h => writtenText_append_inj h⟩

/-- Different integers have different parts. -/
theorem intParts_injective {m n : Int} (h : intParts m = intParts n) : m = n := by
  have hnegative : decide (m < 0) = decide (n < 0) := congrArg NumberParts.negative h
  have hdigits : Nat.toDigits 10 m.natAbs = Nat.toDigits 10 n.natAbs :=
    congrArg NumberParts.whole h
  have habs : m.natAbs = n.natAbs := by
    have hvalue := congrArg decimalValue hdigits
    rwa [decimalValue, decimalValue, Nat.ofDigitChars_ten_toDigits,
      Nat.ofDigitChars_ten_toDigits] at hvalue
  have hsign := decide_eq_decide.mp hnegative
  omega

/-- An integer ends where its digits do. -/
theorem writtenInt_append_inj {m n : Int} {rest rest' : List Char} (hrest : EndsNumber rest)
    (hrest' : EndsNumber rest') (h : writtenInt m ++ rest = writtenInt n ++ rest') :
    m = n ∧ rest = rest' := by
  have hparts := congrArg numberParts? h
  rw [← written_intParts, ← written_intParts, (proper_intParts m).numberParts?_written hrest,
    (proper_intParts n).numberParts?_written hrest'] at hparts
  obtain rfl := intParts_injective (Option.some.inj hparts)
  exact ⟨rfl, List.append_cancel_left h⟩

/-! ## Values -/

section Quoted

variable {quoted : String → List Char} {test : String → Bool}

/-- What is written of a value starts as its type does. -/
theorem writtenBy_eq_cons (hquoted : Quoting quoted test) {value : Json} (h : value.FloatFree)
    (depth : Nat) :
    ∃ c cs, writtenBy quoted depth value = c :: cs ∧ typeOfInitial c = value.typeName := by
  cases value with
  | null => exact ⟨'n', _, rfl, rfl⟩
  | bool value =>
    cases value
    · exact ⟨'f', _, rfl, rfl⟩
    · exact ⟨'t', _, rfl, rfl⟩
  | int value =>
    obtain ⟨c, cs, hwritten, hc, -⟩ := (proper_intParts value).written_eq_cons
    rw [written_intParts] at hwritten
    exact ⟨c, cs, hwritten, typeOfInitial_of_isDigit hc⟩
  | float value => cases h
  | string value =>
    obtain ⟨cs, hwritten⟩ := hquoted.starts value
    exact ⟨'"', cs, hwritten, rfl⟩
  | array items =>
    cases items with
    | nil => exact ⟨'[', _, rfl, rfl⟩
    | cons item rest => exact ⟨'[', _, rfl, rfl⟩
  | object members =>
    cases members with
    | nil => exact ⟨'\x7b', _, rfl, rfl⟩
    | cons member rest => exact ⟨'\x7b', _, rfl, rfl⟩

/-- Values of which the same is written are of one type. -/
theorem sameType_of_written (hquoted : Quoting quoted test) {value other : Json}
    (hvalue : value.FloatFree) (hother : other.FloatFree) {depth : Nat} {rest rest' : List Char}
    (h : writtenBy quoted depth value ++ rest = writtenBy quoted depth other ++ rest') :
    SameType value other := by
  obtain ⟨c, cs, hwritten, htype⟩ := writtenBy_eq_cons hquoted hvalue depth
  obtain ⟨d, ds, hwritten', htype'⟩ := writtenBy_eq_cons hquoted hother depth
  rw [hwritten, hwritten'] at h
  refine sameType_of_typeName ?_
  rw [← htype, ← htype', (List.cons.inj h).1]

/-- Whether what is written of a value tells it from other values, wherever it stands and whatever
follows it. -/
def ToldApart (quoted : String → List Char) (test : String → Bool) (value : Json) : Prop :=
  ∀ (other : Json) (depth : Nat) (rest rest' : List Char), other.FloatFree → other.AllTexts test →
    EndsNumber rest → EndsNumber rest' →
    writtenBy quoted depth value ++ rest = writtenBy quoted depth other ++ rest' →
    value = other ∧ rest = rest'

/-- A number ends in front of what is written behind an item. -/
theorem endsNumber_writtenItemsBy (items : List Json) (depth outer : Nat) (rest : List Char) :
    EndsNumber (writtenItemsBy quoted depth items ++ (newline outer ++ (']' :: rest))) := by
  cases items with
  | nil => exact endsNumber_cons (c := '\n') (by decide) _
  | cons => exact endsNumber_cons (c := ',') (by decide) _

/-- A number ends in front of what is written behind a member. -/
theorem endsNumber_writtenMembersBy (members : Members) (depth outer : Nat) (rest : List Char) :
    EndsNumber (writtenMembersBy quoted depth members ++ (newline outer ++ ('\x7d' :: rest))) := by
  cases members with
  | nil => exact endsNumber_cons (c := '\n') (by decide) _
  | cons => exact endsNumber_cons (c := ',') (by decide) _

/-- The items after the first end with the array. -/
theorem writtenItemsBy_append_inj {items others : List Json}
    (hitems : ∀ item ∈ items, item.ToldApart quoted test)
    (hfree : ∀ other ∈ others, other.FloatFree) (htexts : ∀ other ∈ others, other.AllTexts test)
    {depth outer : Nat} {rest rest' : List Char}
    (h : writtenItemsBy quoted depth items ++ (newline outer ++ (']' :: rest)) =
      writtenItemsBy quoted depth others ++ (newline outer ++ (']' :: rest'))) :
    items = others ∧ rest = rest' := by
  induction items generalizing others with
  | nil =>
    cases others with
    | nil => exact ⟨rfl, (List.cons.inj (List.append_cancel_left (List.append_cancel_left h))).2⟩
    | cons other more => exact absurd (List.cons.inj h).1 (by decide)
  | cons item items ih =>
    cases others with
    | nil => exact absurd (List.cons.inj h).1 (by decide)
    | cons other more =>
      rw [List.forall_mem_cons] at hitems hfree htexts
      simp only [writtenItemsBy, List.cons_append, List.append_assoc] at h
      have hvalues := List.append_cancel_left (List.cons.inj h).2
      obtain ⟨rfl, hmore⟩ := hitems.1 other depth _ _ hfree.1 htexts.1
        (endsNumber_writtenItemsBy items depth outer rest)
        (endsNumber_writtenItemsBy more depth outer rest') hvalues
      obtain ⟨rfl, hrest⟩ := ih hitems.2 hfree.2 htexts.2 hmore
      exact ⟨rfl, hrest⟩

/-- A member ends where its value does. -/
theorem writtenMemberBy_append_inj (hquoted : Quoting quoted test) {value other : Json}
    (hvalue : value.ToldApart quoted test) (hfree : other.FloatFree) (htexts : other.AllTexts test)
    {name key : String} (hname : test name = true) (hkey : test key = true) {depth : Nat}
    {rest rest' : List Char} (hends : EndsNumber rest) (hends' : EndsNumber rest')
    (h : quoted name ++ (':' :: ' ' :: (writtenBy quoted depth value ++ rest)) =
      quoted key ++ (':' :: ' ' :: (writtenBy quoted depth other ++ rest'))) :
    (name, value) = (key, other) ∧ rest = rest' := by
  obtain ⟨rfl, hvalues⟩ := hquoted.append_inj hname hkey h
  obtain ⟨rfl, hrest⟩ := hvalue other depth rest rest' hfree htexts hends hends'
    (List.cons.inj (List.cons.inj hvalues).2).2
  exact ⟨rfl, hrest⟩

/-- The members after the first end with the object. -/
theorem writtenMembersBy_append_inj (hquoted : Quoting quoted test) {members others : Members}
    (hmembers : ∀ member ∈ members, test member.1 = true ∧ member.2.ToldApart quoted test)
    (hfree : ∀ other ∈ others, other.2.FloatFree)
    (htexts : ∀ other ∈ others, test other.1 = true ∧ other.2.AllTexts test)
    {depth outer : Nat} {rest rest' : List Char}
    (h : writtenMembersBy quoted depth members ++ (newline outer ++ ('\x7d' :: rest)) =
      writtenMembersBy quoted depth others ++ (newline outer ++ ('\x7d' :: rest'))) :
    members = others ∧ rest = rest' := by
  induction members generalizing others with
  | nil =>
    cases others with
    | nil => exact ⟨rfl, (List.cons.inj (List.append_cancel_left (List.append_cancel_left h))).2⟩
    | cons other more => exact absurd (List.cons.inj h).1 (by decide)
  | cons member members ih =>
    cases others with
    | nil => exact absurd (List.cons.inj h).1 (by decide)
    | cons other more =>
      obtain ⟨name, value⟩ := member
      obtain ⟨key, other⟩ := other
      rw [List.forall_mem_cons] at hmembers hfree htexts
      simp only [writtenMembersBy, List.cons_append, List.append_assoc, List.nil_append] at h
      have hvalues := List.append_cancel_left (List.cons.inj h).2
      obtain ⟨⟨⟩, hmore⟩ := writtenMemberBy_append_inj hquoted hmembers.1.2 hfree.1 htexts.1.2
        hmembers.1.1 htexts.1.1 (endsNumber_writtenMembersBy members depth outer rest)
        (endsNumber_writtenMembersBy more depth outer rest') hvalues
      obtain ⟨rfl, hrest⟩ := ih hmembers.2 hfree.2 htexts.2 hmore
      exact ⟨rfl, hrest⟩

/-- An array is told apart if its items are. -/
theorem toldApart_array (hquoted : Quoting quoted test) {items : List Json}
    (h : ∀ item ∈ items, item.ToldApart quoted test) (hfree : (array items).FloatFree) :
    (array items).ToldApart quoted test := by
  intro other depth rest rest' hother htexts _ _ hwritten
  cases sameType_of_written hquoted hfree hother hwritten with | array _ others =>
  cases items with
  | nil =>
    cases others with
    | nil => exact ⟨rfl, List.append_cancel_left hwritten⟩
    | cons other more => exact absurd (List.cons.inj (List.cons.inj hwritten).2).1 (by decide)
  | cons item items =>
    cases others with
    | nil => exact absurd (List.cons.inj (List.cons.inj hwritten).2).1 (by decide)
    | cons other more =>
      -- Behind its bracket an array is written as items are behind a comma.
      have hitems : writtenItemsBy quoted (depth + 1) (item :: items) ++
          (newline depth ++ (']' :: rest)) =
            writtenItemsBy quoted (depth + 1) (other :: more) ++
              (newline depth ++ (']' :: rest')) := by
        simpa [writtenBy, writtenItemsBy] using hwritten
      obtain ⟨hsame, hrest⟩ := writtenItemsBy_append_inj h (floatFree_array.mp hother)
        (allTexts_array.mp htexts) hitems
      exact ⟨congrArg array hsame, hrest⟩

/-- An object is told apart if the values of its members are, and its names pass. -/
theorem toldApart_object (hquoted : Quoting quoted test) {members : Members}
    (h : ∀ member ∈ members, test member.1 = true ∧ member.2.ToldApart quoted test)
    (hfree : (object members).FloatFree) : (object members).ToldApart quoted test := by
  intro other depth rest rest' hother htexts _ _ hwritten
  cases sameType_of_written hquoted hfree hother hwritten with | object _ others =>
  cases members with
  | nil =>
    cases others with
    | nil => exact ⟨rfl, List.append_cancel_left hwritten⟩
    | cons other more => exact absurd (List.cons.inj (List.cons.inj hwritten).2).1 (by decide)
  | cons member members =>
    cases others with
    | nil => exact absurd (List.cons.inj (List.cons.inj hwritten).2).1 (by decide)
    | cons other more =>
      have hmembers : writtenMembersBy quoted (depth + 1) (member :: members) ++
          (newline depth ++ ('\x7d' :: rest)) =
            writtenMembersBy quoted (depth + 1) (other :: more) ++
              (newline depth ++ ('\x7d' :: rest')) := by
        simpa [writtenBy, writtenMembersBy] using hwritten
      obtain ⟨hsame, hrest⟩ := writtenMembersBy_append_inj hquoted h (floatFree_object.mp hother)
        (allTexts_object.mp htexts) hmembers
      exact ⟨congrArg object hsame, hrest⟩

/-- A boolean is told apart by the first character. -/
theorem toldApart_bool (hquoted : Quoting quoted test) (value : Bool) :
    (bool value).ToldApart quoted test := by
  intro other depth rest rest' hother _ _ _ hwritten
  have hfree : (bool value).FloatFree := rfl
  cases sameType_of_written hquoted hfree hother hwritten with | bool _ other =>
  cases value <;> cases other
  · exact ⟨rfl, List.append_cancel_left hwritten⟩
  · exact absurd (List.cons.inj hwritten).1 (by decide)
  · exact absurd (List.cons.inj hwritten).1 (by decide)
  · exact ⟨rfl, List.append_cancel_left hwritten⟩

/-- A value without floating-point numbers whose texts pass is told apart by what is written of
it. -/
theorem toldApart (hquoted : Quoting quoted test) {value : Json} (hfree : value.FloatFree)
    (htexts : value.AllTexts test) : value.ToldApart quoted test := by
  induction value using induction_parts with
  | null =>
    intro other depth rest rest' hother _ _ _ hwritten
    cases sameType_of_written hquoted hfree hother hwritten
    exact ⟨rfl, List.append_cancel_left hwritten⟩
  | bool value => exact toldApart_bool hquoted value
  | int value =>
    intro other depth rest rest' hother _ hends hends' hwritten
    cases sameType_of_written hquoted hfree hother hwritten
    obtain ⟨rfl, hrest⟩ := writtenInt_append_inj hends hends' hwritten
    exact ⟨rfl, hrest⟩
  | float => cases hfree
  | string value =>
    intro other depth rest rest' hother htexts' _ _ hwritten
    cases sameType_of_written hquoted hfree hother hwritten
    obtain ⟨rfl, hrest⟩ := hquoted.append_inj htexts htexts' hwritten
    exact ⟨rfl, hrest⟩
  | array items ih =>
    exact toldApart_array hquoted (fun item hitem => ih item hitem
      (floatFree_array.mp hfree item hitem) (allTexts_array.mp htexts item hitem)) hfree
  | object members ih =>
    refine toldApart_object hquoted (fun member hmember => ?_) hfree
    obtain ⟨hname, hvalue⟩ := allTexts_object.mp htexts member hmember
    exact ⟨hname, ih member hmember (floatFree_object.mp hfree member hmember) hvalue⟩

/-- Different values without floating-point numbers whose texts pass have different texts. -/
theorem writtenBy_injective (hquoted : Quoting quoted test) {value other : Json}
    (hvalue : value.FloatFree) (hother : other.FloatFree) (htexts : value.AllTexts test)
    (htexts' : other.AllTexts test) (h : writtenBy quoted 0 value = writtenBy quoted 0 other) :
    value = other := by
  have hnil : EndsNumber [] := fun _ hc => nomatch hc
  exact (toldApart hquoted hvalue htexts other 0 [] [] hother htexts' hnil hnil
    (congrArg (· ++ []) h)).1

end Quoted

/-! ## Texts of characters -/

section Alike

variable {quoted : String → List Char}

/-- Items that are written as they are stay so behind others. -/
theorem writtenItemsBy_eq_writtenItems {depth : Nat} {items : List Json}
    (h : ∀ item ∈ items, writtenBy quoted depth item = writtenAt depth item) :
    writtenItemsBy quoted depth items = writtenItems depth items := by
  induction items with
  | nil => rfl
  | cons item rest ih =>
    rw [List.forall_mem_cons] at h
    rw [writtenItemsBy, writtenItems, h.1, ih h.2]

/-- Members that are written as they are stay so behind others. -/
theorem writtenMembersBy_eq_writtenMembers {depth : Nat} {members : Members}
    (h : ∀ member ∈ members, quoted member.1 = writtenText member.1 ∧
      writtenBy quoted depth member.2 = writtenAt depth member.2) :
    writtenMembersBy quoted depth members = writtenMembers depth members := by
  induction members with
  | nil => rfl
  | cons member rest ih =>
    rw [List.forall_mem_cons] at h
    rw [writtenMembersBy, writtenMembers, h.1.1, h.1.2, ih h.2]

/-- A value whose texts are quoted as they are is written as it is. -/
theorem writtenBy_eq_writtenAt {test : String → Bool}
    (hquoted : ∀ s, test s = true → quoted s = writtenText s) {value : Json}
    (h : value.AllTexts test) (depth : Nat) :
    writtenBy quoted depth value = writtenAt depth value := by
  induction value using induction_parts generalizing depth with
  | null | bool | int | float => rfl
  | string s => exact hquoted s h
  | array items ih =>
    have hitems (depth : Nat) : ∀ item ∈ items,
        writtenBy quoted depth item = writtenAt depth item := fun item hitem =>
      ih item hitem (allTexts_array.mp h item hitem) depth
    cases items with
    | nil => rfl
    | cons item rest =>
      rw [writtenBy, writtenAt, (List.forall_mem_cons.mp (hitems _)).1,
        writtenItemsBy_eq_writtenItems (List.forall_mem_cons.mp (hitems _)).2]
  | object members ih =>
    have hmembers (depth : Nat) : ∀ member ∈ members, quoted member.1 = writtenText member.1 ∧
        writtenBy quoted depth member.2 = writtenAt depth member.2 := fun member hmember =>
      have hmember' := allTexts_object.mp h member hmember
      ⟨hquoted _ hmember'.1, ih member hmember hmember'.2 depth⟩
    cases members with
    | nil => rfl
    | cons member rest =>
      obtain ⟨hfirst, hrest⟩ := List.forall_mem_cons.mp (hmembers (depth + 1))
      rw [writtenBy, writtenAt, hfirst.1, hfirst.2, writtenMembersBy_eq_writtenMembers hrest]

end Alike

end OperandCleanup.Json
