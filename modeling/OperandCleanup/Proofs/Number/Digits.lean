import OperandCleanup.Number.Shortest

/-!
# Decimal digits

A number's digits are digits, and do not start with a zero unless it is zero. What digits write is
told from their parts, and zeros at their end multiply it by ten.
-/

namespace OperandCleanup

/-- The digits of a positive number do not start with a zero. -/
theorem head?_toDigits_ne_zero {n : Nat} (h : 0 < n) : (Nat.toDigits 10 n).head? ≠ some '0' := by
  induction n using Nat.strongRecOn with
  | ind n ih =>
    rw [Nat.toDigits_eq_if (by decide)]
    split
    · rename_i hsmall
      have hdigit : ∀ d < 10, 0 < d → d.digitChar ≠ '0' := by decide
      simpa using hdigit n hsmall h
    · rename_i hlarge
      have hleading := ih (n / 10) (by omega) (by omega)
      obtain ⟨first, digits, hdigits⟩ :=
        List.exists_cons_of_ne_nil (Nat.toDigits_ne_nil (n := n / 10) (b := 10))
      rw [hdigits] at hleading ⊢
      exact hleading

/-- Every character of decimal digits is a digit. -/
theorem isDigit_of_mem_toDigits {n : Nat} {c : Char} (h : c ∈ Nat.toDigits 10 n) :
    c.isDigit = true :=
  Nat.isDigit_of_mem_toDigits (by decide) (by decide) h

/-- A digit is none of the characters that are no digits. -/
theorem ne_of_isDigit {c other : Char} (h : c.isDigit = true) (hother : other.isDigit = false) :
    c ≠ other := by
  rintro rfl
  exact Bool.noConfusion (h.symm.trans hother)

/-! ## What digits write -/

/-- Digits before others count powers of ten. -/
theorem ofDigitChars_append (first second : List Char) :
    Nat.ofDigitChars 10 (first ++ second) 0 =
      Nat.ofDigitChars 10 first 0 * Nat.pow 10 second.length + Nat.ofDigitChars 10 second 0 := by
  rw [Nat.ofDigitChars_append, Nat.ofDigitChars_eq_ofDigitChars_zero, Nat.mul_comm, Nat.pow_eq]

/-- Zeros write zero. -/
theorem ofDigitChars_zeros (count : Nat) :
    Nat.ofDigitChars 10 (List.replicate count '0') 0 = 0 := by
  induction count with
  | zero => rfl
  | succ count ih =>
    rw [List.replicate_succ, Nat.ofDigitChars_cons]
    exact ih

/-- The zeros at the end of digits are taken away, and as many powers of ten are counted more. -/
theorem withoutTrailingZeros_spec (digits : List Char) (exponent : Int) :
    ∃ count, digits = (withoutTrailingZeros digits exponent).1 ++ List.replicate count '0' ∧
      (withoutTrailingZeros digits exponent).2 = exponent + count := by
  have hzeros : digits.reverse.takeWhile (· == '0') =
      List.replicate (digits.reverse.takeWhile (· == '0')).length '0' :=
    List.eq_replicate_iff.mpr ⟨rfl, fun c hc => by
      simpa using List.all_eq_true.mp List.all_takeWhile c hc⟩
  have hsplit : digits = (digits.reverse.dropWhile (· == '0')).reverse ++
      List.replicate (digits.reverse.takeWhile (· == '0')).length '0' := by
    rw [← List.reverse_replicate, ← hzeros, ← List.reverse_append, List.takeWhile_append_dropWhile,
      List.reverse_reverse]
  refine ⟨_, ?_, rfl⟩
  have hlength := congrArg List.length hsplit
  rw [List.length_append, List.length_replicate] at hlength
  have htake : (withoutTrailingZeros digits exponent).1 =
      (digits.reverse.dropWhile (· == '0')).reverse := by
    rw [withoutTrailingZeros]
    dsimp only
    conv => lhs; arg 2; rw [hsplit]
    exact List.take_left' (by omega)
  rw [htake]
  exact hsplit

/-! ## The characters of numbers -/

section Characters

variable {p : Char → Prop} (hdigit : ∀ c : Char, c.isDigit = true → p c)

include hdigit

/-- Digits are laid out with digits, a point, a mark and signs. -/
theorem forall_mem_place (hmark : ∀ c ∈ ['.', 'e', '+', '-'], p c) (layout : DecimalLayout)
    {digits : List Char} (h : ∀ c ∈ digits, p c) (exponent : Int) :
    ∀ c ∈ layout.place digits exponent, p c := by
  have hzero : p '0' := hdigit '0' rfl
  have hpoint : p '.' := hmark '.' (by simp)
  have hzeros : ∀ count, ∀ c ∈ List.replicate count '0', p c := fun count c hc => by
    rw [List.eq_of_mem_replicate hc]
    exact hzero
  have hexponent : ∀ leading, ∀ c ∈ layout.exponentPart leading, p c := by
    intro leading
    rw [DecimalLayout.exponentPart, List.forall_mem_cons, List.forall_mem_cons,
      List.forall_mem_append]
    refine ⟨hmark 'e' (by simp), ?_, hzeros _, fun c hc => hdigit c (isDigit_of_mem_toDigits hc)⟩
    split
    · exact hmark '-' (by simp)
    · exact hmark '+' (by simp)
  unfold DecimalLayout.place
  dsimp only
  split
  · split
    · rw [List.forall_mem_cons, List.forall_mem_cons, List.forall_mem_append]
      exact ⟨hzero, hpoint, hzeros _, h⟩
    · split
      · rw [List.forall_mem_append, List.forall_mem_append, List.forall_mem_cons,
          List.forall_mem_singleton]
        exact ⟨⟨h, hzeros _⟩, hpoint, hzero⟩
      · rw [List.forall_mem_append, List.forall_mem_cons]
        exact ⟨fun c hc => h c (List.mem_of_mem_take hc), hpoint,
          fun c hc => h c (List.mem_of_mem_drop hc)⟩
  · split
    · exact fun _ hc => absurd hc List.not_mem_nil
    · rw [List.forall_mem_cons]
      exact ⟨h _ (by simp), hexponent _⟩
    · rw [List.forall_mem_cons, List.forall_mem_cons, List.forall_mem_append]
      exact ⟨h _ (by simp), hpoint, fun c hc => h c (List.mem_cons_of_mem _ hc), hexponent _⟩

/-- A number is written in digits, a point, a mark and signs, unless it is one that has a name. -/
theorem forall_mem_render (hmark : ∀ c ∈ ['.', 'e', '+', '-'], p c) {layout : DecimalLayout}
    (hname : ∀ c ∈ layout.infinity.toList ++ layout.nan.toList, p c) (value : Binary64) :
    ∀ c ∈ layout.render value, p c := by
  obtain ⟨hinfinity, hnan⟩ := List.forall_mem_append.mp hname
  have hsign (negative : Bool) : ∀ c ∈ DecimalLayout.render.sign negative, p c := by
    cases negative with
    | false => exact List.forall_mem_nil _
    | true => exact List.forall_mem_singleton.mpr (hmark '-' (by simp))
  cases value with
  | nan => exact hnan
  | infinite negative =>
    rw [DecimalLayout.render, List.forall_mem_append]
    exact ⟨hsign negative, hinfinity⟩
  | finite negative significand exponent =>
    rw [DecimalLayout.render]
    split
    · rw [List.forall_mem_append, List.forall_mem_cons, List.forall_mem_cons,
        List.forall_mem_singleton]
      exact ⟨hsign negative, hdigit '0' rfl, hmark '.' (by simp), hdigit '0' rfl⟩
    · rw [List.forall_mem_append]
      refine ⟨hsign negative, forall_mem_place hdigit hmark layout (fun c hc => ?_) _⟩
      exact hdigit c (isDigit_of_mem_toDigits (List.mem_of_mem_take hc))

end Characters

end OperandCleanup
