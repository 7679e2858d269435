/-!
# Hexadecimal digits

Escapes in quoted text name a character by a fixed number of hexadecimal digits, most significant
first. Writing uses lower case, reading takes either case, and reading gives back every number that
the digits have room for.
-/

namespace OperandCleanup.Hexadecimal

/-- The last `width` digits of a number in base sixteen. -/
def digits : Nat → Nat → List Char
  | 0, _ => []
  | width + 1, n => digits width (n / 16) ++ [Nat.digitChar (n % 16)]

/-- The value of one digit. -/
def digitValue? (c : Char) : Option Nat :=
  if '0' ≤ c ∧ c ≤ '9' then some (c.toNat - '0'.toNat)
  else if 'a' ≤ c ∧ c ≤ 'f' then some (c.toNat - 'a'.toNat + 10)
  else if 'A' ≤ c ∧ c ≤ 'F' then some (c.toNat - 'A'.toNat + 10)
  else none

/-- The value of digits after others of a given value. -/
def valueFrom? : Nat → List Char → Option Nat
  | value, [] => some value
  | value, c :: rest =>
    match digitValue? c with
    | none => none
    | some digit => valueFrom? (value * 16 + digit) rest

/-- The value of digits, most significant first. -/
def value? (cs : List Char) : Option Nat := valueFrom? 0 cs

/-- A digit that is written reads back. -/
theorem digitValue?_digitChar {d : Nat} (h : d < 16) : digitValue? (Nat.digitChar d) = some d := by
  revert d; decide

/-- The number of digits is as asked for. -/
theorem length_digits (width n : Nat) : (digits width n).length = width := by
  induction width generalizing n with
  | zero => rfl
  | succ width ih => simp [digits, ih]

/-- Reading one more digit multiplies by sixteen and adds it. -/
theorem valueFrom?_append (start : Nat) (cs : List Char) (c : Char) :
    valueFrom? start (cs ++ [c]) =
      (valueFrom? start cs).bind fun value => (digitValue? c).map (value * 16 + ·) := by
  induction cs generalizing start with
  | nil => simp only [List.nil_append, valueFrom?, Option.bind_some]; cases digitValue? c <;> rfl
  | cons first rest ih =>
    simp only [List.cons_append, valueFrom?]
    cases digitValue? first <;> simp [ih]

/-- Digits that are written read back, if the number has room in them. -/
theorem value?_digits {width n : Nat} (h : n < Nat.pow 16 width) :
    value? (digits width n) = some n := by
  unfold value?
  induction width generalizing n with
  | zero => simp at h; subst h; rfl
  | succ width ih =>
    have hdiv : n / 16 < Nat.pow 16 width := (Nat.div_lt_iff_lt_mul (by decide)).mpr h
    rw [digits, valueFrom?_append, ih hdiv, Option.bind_some,
      digitValue?_digitChar (Nat.mod_lt n (by decide)), Option.map_some, Nat.div_add_mod' n 16]

end OperandCleanup.Hexadecimal
