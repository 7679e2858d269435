import OperandCleanup.Proofs.Json.Parts
import OperandCleanup.Proofs.Json.Tokens
import OperandCleanup.Proofs.Number.Digits

/-!
# The characters of written text

Whatever a value holds, its text is printable ASCII and line feeds. The line feeds stand between
tokens: a text, a number or a named value is printable throughout.
-/

namespace OperandCleanup.Json

/-- Whether a character is a printable one of ASCII. -/
def IsPlain (c : Char) : Prop := 0x20 ≤ c.toNat ∧ c.toNat ≤ 0x7e

instance : DecidablePred IsPlain := fun c =>
  inferInstanceAs (Decidable (0x20 ≤ c.toNat ∧ c.toNat ≤ 0x7e))

/-- Whether the characters of a list are printable is found by going through them. -/
theorem isPlain_of_all {cs : List Char} (h : (cs.all fun c => decide (IsPlain c)) = true) :
    ∀ c ∈ cs, IsPlain c :=
  fun c hc => of_decide_eq_true (List.all_eq_true.mp h c hc)

/-- A digit is printable. -/
theorem isPlain_of_isDigit {c : Char} (h : c.isDigit = true) : IsPlain c := by
  simp only [Char.isDigit, Bool.and_eq_true, decide_eq_true_eq, ge_iff_le, UInt32.le_iff_toNat_le]
    at h
  have hlow : 48 ≤ c.toNat := h.1
  have hhigh : c.toNat ≤ 57 := h.2
  exact ⟨by omega, by omega⟩

/-! ## Texts and numbers -/

/-- Hexadecimal digits are printable. -/
theorem isPlain_of_mem_digits {width n : Nat} : ∀ c ∈ Hexadecimal.digits width n, IsPlain c := by
  induction width generalizing n with
  | zero => simp [Hexadecimal.digits]
  | succ width ih =>
    have hdigit : ∀ d < 16, IsPlain (Nat.digitChar d) := by decide
    rw [Hexadecimal.digits, List.forall_mem_append, List.forall_mem_singleton]
    exact ⟨ih, hdigit _ (Nat.mod_lt n (by decide))⟩

/-- The escape of a code is printable. -/
theorem isPlain_of_mem_unitEscape {code : Nat} : ∀ c ∈ unitEscape code, IsPlain c := by
  rw [unitEscape, List.forall_mem_cons, List.forall_mem_cons]
  exact ⟨by decide, by decide, isPlain_of_mem_digits⟩

/-- A character is written in printable ones. -/
theorem isPlain_of_mem_writtenChar {original : Char} : ∀ c ∈ writtenChar original, IsPlain c := by
  rcases writtenChar_cases original with ⟨letter, -, -, hhigh, hlow, hwritten⟩ |
    ⟨-, -, hlow, hhigh, hwritten⟩ | ⟨-, hwritten⟩ | ⟨-, hwritten⟩
  · rw [hwritten, List.forall_mem_cons, List.forall_mem_singleton]
    exact ⟨by decide, hlow, Nat.le_of_lt_succ hhigh⟩
  · rw [hwritten, List.forall_mem_singleton]
    exact ⟨hlow, hhigh⟩
  · rw [hwritten]
    exact isPlain_of_mem_unitEscape
  · rw [hwritten, List.forall_mem_append]
    exact ⟨isPlain_of_mem_unitEscape, isPlain_of_mem_unitEscape⟩

/-- A text is written in printable characters, whatever its own. -/
theorem isPlain_of_mem_writtenText {s : String} : ∀ c ∈ writtenText s, IsPlain c := by
  rw [writtenText, List.forall_mem_cons, List.forall_mem_append, List.forall_mem_singleton]
  refine ⟨by decide, fun c hc => ?_, by decide⟩
  obtain ⟨original, -, hwritten⟩ := List.mem_flatMap.mp hc
  exact isPlain_of_mem_writtenChar c hwritten

/-- An integer is written in digits, after a sign for a negative one. -/
theorem forall_mem_writtenInt {p : Char → Prop} (hdigit : ∀ c : Char, c.isDigit = true → p c)
    (hminus : p '-') {n : Int} : ∀ c ∈ writtenInt n, p c := by
  have hdigits : ∀ c ∈ Nat.toDigits 10 n.natAbs, p c :=
    fun c hc => hdigit c (isDigit_of_mem_toDigits hc)
  rw [writtenInt]
  split
  · exact List.forall_mem_cons.mpr ⟨hminus, hdigits⟩
  · exact hdigits

/-- An integer is written in printable characters. -/
theorem isPlain_of_mem_writtenInt {n : Int} : ∀ c ∈ writtenInt n, IsPlain c :=
  forall_mem_writtenInt (fun _ => isPlain_of_isDigit) (by decide)

/-- A floating-point number is written in printable characters. -/
theorem isPlain_of_mem_render {value : Binary64} : ∀ c ∈ floatLayout.render value, IsPlain c :=
  forall_mem_render (fun _ => isPlain_of_isDigit) (isPlain_of_all rfl) (isPlain_of_all rfl) value

/-! ## Values -/

/-- Whether a character is printable or ends a line. -/
def IsWritten (c : Char) : Prop := c = '\n' ∨ IsPlain c

instance : DecidablePred IsWritten := fun c => inferInstanceAs (Decidable (c = '\n' ∨ IsPlain c))

/-- The end of a line is a line feed and spaces. -/
theorem isWritten_of_mem_newline {depth : Nat} : ∀ c ∈ newline depth, IsWritten c := by
  rw [newline, List.forall_mem_cons]
  refine ⟨Or.inl rfl, fun c hc => Or.inr ?_⟩
  rw [List.eq_of_mem_replicate hc]
  decide

/-- The items after the first are written in what each of them is written in, and line ends. -/
theorem isWritten_of_mem_writtenItems {depth : Nat} {items : List Json}
    (h : ∀ item ∈ items, ∀ c ∈ writtenAt depth item, IsWritten c) :
    ∀ c ∈ writtenItems depth items, IsWritten c := by
  induction items with
  | nil => exact fun _ hc => absurd hc List.not_mem_nil
  | cons item rest ih =>
    rw [List.forall_mem_cons] at h
    rw [writtenItems, List.forall_mem_cons, List.forall_mem_append, List.forall_mem_append]
    exact ⟨Or.inr (by decide), ⟨isWritten_of_mem_newline, h.1⟩, ih h.2⟩

/-- The members after the first are written in what their names and values are written in, and line
ends. -/
theorem isWritten_of_mem_writtenMembers {depth : Nat} {members : Members}
    (h : ∀ member ∈ members, ∀ c ∈ writtenAt depth member.2, IsWritten c) :
    ∀ c ∈ writtenMembers depth members, IsWritten c := by
  induction members with
  | nil => exact fun _ hc => absurd hc List.not_mem_nil
  | cons member rest ih =>
    rw [List.forall_mem_cons] at h
    rw [writtenMembers, List.forall_mem_cons, List.forall_mem_append, List.forall_mem_append,
      List.forall_mem_append, List.forall_mem_append]
    have htext : ∀ c ∈ writtenText member.1, IsWritten c := fun c hc =>
      Or.inr (isPlain_of_mem_writtenText c hc)
    have hcolon : ∀ c ∈ [':', ' '], IsPlain c := isPlain_of_all rfl
    exact ⟨Or.inr (by decide), ⟨⟨⟨isWritten_of_mem_newline, htext⟩,
      fun c hc => Or.inr (hcolon c hc)⟩, h.1⟩, ih h.2⟩

/-- Every value is written in printable characters and line ends. -/
theorem isWritten_of_mem_writtenAt {value : Json} {depth : Nat} :
    ∀ c ∈ writtenAt depth value, IsWritten c := by
  induction value using induction_parts generalizing depth with
  | null =>
    have hnull : ∀ c ∈ ['n', 'u', 'l', 'l'], IsPlain c := isPlain_of_all rfl
    exact fun c hc => Or.inr (hnull c hc)
  | bool value =>
    have htrue : ∀ c ∈ ['t', 'r', 'u', 'e'], IsPlain c := isPlain_of_all rfl
    have hfalse : ∀ c ∈ ['f', 'a', 'l', 's', 'e'], IsPlain c := isPlain_of_all rfl
    cases value
    · exact fun c hc => Or.inr (hfalse c hc)
    · exact fun c hc => Or.inr (htrue c hc)
  | int value => exact fun c hc => Or.inr (isPlain_of_mem_writtenInt c hc)
  | float value => exact fun c hc => Or.inr (isPlain_of_mem_render c hc)
  | string value => exact fun c hc => Or.inr (isPlain_of_mem_writtenText c hc)
  | array items ih =>
    cases items with
    | nil =>
      rw [writtenAt, List.forall_mem_cons, List.forall_mem_singleton]
      exact ⟨Or.inr (by decide), Or.inr (by decide)⟩
    | cons item rest =>
      have hitems : ∀ c ∈ writtenItems (depth + 1) (item :: rest), IsWritten c :=
        isWritten_of_mem_writtenItems fun other hother => ih other hother
      have hwritten : writtenAt depth (.array (item :: rest)) =
          '[' :: ((writtenItems (depth + 1) (item :: rest)).tail ++ newline depth ++ [']']) := rfl
      rw [hwritten, List.forall_mem_cons, List.forall_mem_append, List.forall_mem_append,
        List.forall_mem_singleton]
      exact ⟨Or.inr (by decide), ⟨fun c hc => hitems c (List.mem_of_mem_tail hc),
        isWritten_of_mem_newline⟩, Or.inr (by decide)⟩
  | object members ih =>
    cases members with
    | nil =>
      rw [writtenAt, List.forall_mem_cons, List.forall_mem_singleton]
      exact ⟨Or.inr (by decide), Or.inr (by decide)⟩
    | cons member rest =>
      have hmembers : ∀ c ∈ writtenMembers (depth + 1) (member :: rest), IsWritten c :=
        isWritten_of_mem_writtenMembers fun other hother => ih other hother
      have hwritten : writtenAt depth (.object (member :: rest)) = '\x7b' ::
          ((writtenMembers (depth + 1) (member :: rest)).tail ++ newline depth ++ ['\x7d']) := rfl
      rw [hwritten, List.forall_mem_cons, List.forall_mem_append, List.forall_mem_append,
        List.forall_mem_singleton]
      exact ⟨Or.inr (by decide), ⟨fun c hc => hmembers c (List.mem_of_mem_tail hc),
        isWritten_of_mem_newline⟩, Or.inr (by decide)⟩

end OperandCleanup.Json
