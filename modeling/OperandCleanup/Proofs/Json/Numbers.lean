import OperandCleanup.Proofs.Json.Tokens
import OperandCleanup.Proofs.Number.Shortest

/-!
# The numbers of written text

A number is written part by part: a sign, the digits before the point, those after it, and an
exponent. In front of what ends a number the parts are read as they are. An integer is read back
from its digits, and a finite floating-point number from the shortest ones.
-/

namespace OperandCleanup.Json

open Binary64 (leastExponent)

/-! ## What ends a number -/

/-- Whether what follows digits leaves them as they are. -/
def EndsDigits (rest : List Char) : Prop := ∀ c ∈ rest.head?, c.isDigit = false

/-- Whether what follows a number leaves it as it is. -/
def EndsNumber (rest : List Char) : Prop :=
  ∀ c ∈ rest.head?, c.isDigit = false ∧ c ≠ '.' ∧ c ≠ 'e' ∧ c ≠ 'E'

/-- What ends a number ends its digits. -/
theorem EndsNumber.endsDigits {rest : List Char} (h : EndsNumber rest) : EndsDigits rest :=
  fun c hc => (h c hc).1

/-- The digits before what ends them. -/
theorem takeWhile_isDigit_append {digits rest : List Char}
    (hdigits : ∀ c ∈ digits, c.isDigit = true) (hrest : EndsDigits rest) :
    (digits ++ rest).takeWhile Char.isDigit = digits := by
  rw [List.takeWhile_append_of_pos hdigits]
  cases rest with
  | nil => simp
  | cons c rest => simp [hrest c rfl]

/-! ## The parts of a number -/

/-- Whether digits are those before a point: a single zero, or digits that do not start with one. -/
structure IsWhole (whole : List Char) : Prop where
  digits : ∀ c ∈ whole, c.isDigit = true
  nonempty : whole ≠ []
  leading : whole.head? = some '0' → whole = ['0']

/-- The decimal digits of a number are a whole part. -/
theorem isWhole_toDigits (n : Nat) : IsWhole (Nat.toDigits 10 n) where
  digits _ := isDigit_of_mem_toDigits
  nonempty := Nat.toDigits_ne_nil
  leading hzero := by
    rcases Nat.eq_zero_or_pos n with rfl | hpos
    · rfl
    · exact absurd hzero (head?_toDigits_ne_zero hpos)

/-- The whole part is read in front of what ends digits. -/
theorem IsWhole.wholeDigits_append {whole rest : List Char} (h : IsWhole whole)
    (hrest : EndsDigits rest) : wholeDigits (whole ++ rest) = whole := by
  have htake := takeWhile_isDigit_append h.digits hrest
  cases whole with
  | nil => exact absurd rfl h.nonempty
  | cons first digits =>
    by_cases hzero : first = '0'
    · subst hzero
      rw [h.leading rfl]
      rfl
    · rw [List.cons_append] at htake ⊢
      rwa [wholeDigits.eq_3 _ (by simp) (by simp [hzero])]

/-- A point and the digits after it, if there are any. -/
def pointed (fraction : List Char) : List Char := if fraction.isEmpty then [] else '.' :: fraction

/-- The mark of an exponent, its sign and its digits, if there is one. -/
def marked : Option (Bool × List Char) → List Char
  | none => []
  | some (negative, digits) => 'e' :: (if negative then '-' else '+') :: digits

/-- The text of the parts of a number. -/
def NumberParts.written (parts : NumberParts) : List Char :=
  (if parts.negative then ['-'] else []) ++
    (parts.whole ++ (pointed parts.fraction ++ marked parts.exponent))

/-- The parts of a number that is written without gaps. -/
def NumberParts.of (negative : Bool) (whole fraction : List Char)
    (exponent : Option (Bool × List Char)) : NumberParts where
  negative := negative
  whole := whole
  fraction := fraction
  exponent := exponent
  length := ((if negative then ['-'] else []) ++
    (whole ++ (pointed fraction ++ marked exponent))).length

/-- Whether the parts are those of a number as it is written. -/
structure NumberParts.Proper (parts : NumberParts) : Prop where
  whole : IsWhole parts.whole
  fraction : ∀ c ∈ parts.fraction, c.isDigit = true
  exponent : ∀ mark ∈ parts.exponent, mark.2 ≠ [] ∧ ∀ c ∈ mark.2, c.isDigit = true
  length : parts.length = parts.written.length

/-- The text of a number is as long as its parts are together. -/
theorem NumberParts.length_written (parts : NumberParts) :
    parts.written.length = (if parts.negative then 1 else 0) + parts.whole.length +
      (pointed parts.fraction).length + (marked parts.exponent).length := by
  rw [written, List.length_append, List.length_append, List.length_append, apply_ite List.length]
  simp only [List.length_singleton, List.length_nil, Nat.add_assoc]

section Parts

variable {rest : List Char}

/-- What ends a number is no exponent. -/
theorem exponentPart?_of_endsNumber (h : EndsNumber rest) : exponentPart? rest = none := by
  cases rest with
  | nil => rfl
  | cons c rest =>
    obtain ⟨-, -, he, hE⟩ := h c rfl
    simp [exponentPart?, he, hE]

/-- An exponent is read in front of what ends a number. -/
theorem exponentPart?_marked {exponent : Option (Bool × List Char)}
    (h : ∀ mark ∈ exponent, mark.2 ≠ [] ∧ ∀ c ∈ mark.2, c.isDigit = true)
    (hrest : EndsNumber rest) :
    exponentPart? (marked exponent ++ rest) =
      exponent.map fun mark => (mark.1, mark.2, (marked exponent).length) := by
  cases exponent with
  | none => exact exponentPart?_of_endsNumber hrest
  | some mark =>
    obtain ⟨negative, digits⟩ := mark
    obtain ⟨hnonempty, hdigits⟩ := h _ rfl
    have htake := takeWhile_isDigit_append hdigits hrest.endsDigits
    cases negative <;> simp [marked, exponentPart?, htake, hnonempty]

/-- An exponent ends the digits before it. -/
theorem endsDigits_marked (exponent : Option (Bool × List Char)) (hrest : EndsNumber rest) :
    EndsDigits (marked exponent ++ rest) := by
  cases exponent with
  | none => exact hrest.endsDigits
  | some mark =>
    intro c hc
    obtain rfl := Option.some.inj hc
    rfl

/-- A point ends the digits before it, and where there is none so does what follows. -/
theorem endsDigits_pointed (fraction : List Char) (hrest : EndsDigits rest) :
    EndsDigits (pointed fraction ++ rest) := by
  unfold pointed
  split
  · exact hrest
  · intro c hc
    obtain rfl := Option.some.inj hc
    rfl

/-- Without a point there is no fraction. -/
theorem fractionDigits_marked (exponent : Option (Bool × List Char)) (hrest : EndsNumber rest) :
    fractionDigits (marked exponent ++ rest) = [] := by
  cases exponent with
  | none =>
    change fractionDigits rest = []
    unfold fractionDigits
    split
    · exact absurd rfl (hrest '.' rfl).2.1
    · rfl
  | some mark => rfl

/-- The digits after a point are read in front of an exponent and of what ends a number. -/
theorem fractionDigits_pointed {fraction : List Char} (h : ∀ c ∈ fraction, c.isDigit = true)
    (exponent : Option (Bool × List Char)) (hrest : EndsNumber rest) :
    fractionDigits (pointed fraction ++ (marked exponent ++ rest)) = fraction := by
  cases fraction with
  | nil => exact fractionDigits_marked exponent hrest
  | cons first digits => exact takeWhile_isDigit_append h (endsDigits_marked exponent hrest)

/-- A number has a point just when it has digits after it. -/
theorem length_pointed (fraction : List Char) :
    (pointed fraction).length = if fraction.isEmpty then 0 else fraction.length + 1 := by
  unfold pointed
  split <;> rfl

/-- The parts of a number are read in front of what ends it. -/
theorem NumberParts.Proper.numberParts?_written {parts : NumberParts} (h : parts.Proper)
    (hrest : EndsNumber rest) : numberParts? (parts.written ++ rest) = some parts := by
  obtain ⟨negative, whole, fraction, exponent, length⟩ := parts
  obtain ⟨hwhole, hfraction, hexponent, hlength⟩ := h
  rw [NumberParts.length_written] at hlength
  dsimp only at hwhole hfraction hexponent hlength
  have hwritten : NumberParts.written ⟨negative, whole, fraction, exponent, length⟩ ++ rest =
      (if negative then ['-'] else []) ++
        (whole ++ (pointed fraction ++ (marked exponent ++ rest))) := by
    simp [NumberParts.written]
  have hwholeDigits := hwhole.wholeDigits_append
    (endsDigits_pointed fraction (endsDigits_marked exponent hrest))
  have hfractionDigits := fractionDigits_pointed hfraction exponent hrest
  have hexponentPart := exponentPart?_marked hexponent hrest
  -- What is read of an unsigned number is not a sign.
  have hsign : ∀ more, whole ++ (pointed fraction ++ (marked exponent ++ rest)) ≠ '-' :: more := by
    obtain ⟨first, digits, rfl⟩ := List.exists_cons_of_ne_nil hwhole.nonempty
    intro more hminus
    exact ne_of_isDigit (hwhole.digits first (by simp)) rfl (List.cons.inj hminus).1
  have hnonempty : whole.isEmpty = false := by
    rw [List.isEmpty_eq_false_iff]
    exact hwhole.nonempty
  have hmark : (exponent.map fun mark => (mark.1, mark.2, (marked exponent).length)).map
      (fun mark => (mark.1, mark.2.1)) = exponent := by
    cases exponent <;> rfl
  have hmarked : ((exponent.map fun mark => (mark.1, mark.2, (marked exponent).length)).map
      fun mark => mark.2.2).getD 0 = (marked exponent).length := by
    cases exponent <;> rfl
  rw [hwritten]
  cases negative with
  | true =>
    simp only [if_true, List.singleton_append, numberParts?, hwholeDigits, hnonempty,
      Bool.false_eq_true, if_false, List.drop_left, hfractionDigits, ← length_pointed,
      hexponentPart, hmark, hmarked, hlength]
  | false =>
    simp only [Bool.false_eq_true, if_false, List.nil_append, numberParts?, hwholeDigits,
      hnonempty, List.drop_left, hfractionDigits, ← length_pointed, hexponentPart, hmark, hmarked,
      hlength]

/-- A number begins with a digit, but for its sign. -/
theorem NumberParts.Proper.written_eq_cons {parts : NumberParts} (h : parts.Proper) :
    ∃ c cs, parts.written = c :: cs ∧ (c = '-' ∨ c.isDigit = true) ∧
      ∀ more, ∃ first, ((c :: cs ++ more).dropWhile (· == '-')).head? = some first ∧
        first.isDigit = true := by
  obtain ⟨first, digits, hwhole⟩ := List.exists_cons_of_ne_nil h.whole.nonempty
  have hfirst := h.whole.digits first (by simp [hwhole])
  have hminus : (first == '-') = false := beq_false_of_ne (ne_of_isDigit hfirst rfl)
  rw [NumberParts.written, hwhole]
  split
  · exact ⟨'-', _, rfl, Or.inl rfl, fun more => ⟨first, by simp [hminus], hfirst⟩⟩
  · exact ⟨first, _, rfl, Or.inr hfirst, fun more => ⟨first, by simp [hminus], hfirst⟩⟩

/-- No named value begins with a digit, but for its sign. -/
theorem namedValues_spec : ∀ named ∈ namedValues,
    (named.1.toList.dropWhile (· == '-')).head?.map Char.isDigit = some false := by decide

/-- No named value begins as a number does. -/
theorem NumberParts.Proper.namedValue?_written {parts : NumberParts} (h : parts.Proper) :
    namedValue? (parts.written ++ rest) = none := by
  obtain ⟨c, cs, hwritten, -, hdigit⟩ := h.written_eq_cons
  obtain ⟨first, hfirst, hisDigit⟩ := hdigit rest
  rw [namedValue?, List.findSome?_eq_none_iff]
  intro named hnamed
  refine if_neg fun hprefix => ?_
  obtain ⟨more, hmore⟩ := List.isPrefixOf_iff_prefix.mp hprefix
  have hname := namedValues_spec named hnamed
  rw [hwritten] at hmore
  rw [← hmore, List.dropWhile_append] at hfirst
  cases hunsigned : named.1.toList.dropWhile (· == '-') with
  | nil =>
    rw [hunsigned] at hname
    cases hname
  | cons letter letters =>
    rw [hunsigned] at hname hfirst
    obtain rfl : letter = first := Option.some.inj hfirst
    have hletter : letter.isDigit = false := Option.some.inj hname
    exact Bool.noConfusion (hletter.symm.trans hisDigit)

/-- A number is a token in front of what ends it. -/
theorem NumberParts.Proper.tokensFrom_written {parts : NumberParts} (h : parts.Proper)
    (hrest : EndsNumber rest) (hlast : parts.token.isLast = false) (offset : Nat) :
    tokensFrom offset 0 (parts.written ++ rest) =
      (offset, parts.token) :: tokensFrom (offset + parts.written.length) 0 rest := by
  have htoken : scalarToken (parts.written ++ rest) = (parts.token, parts.written.length - 1) := by
    rw [scalarToken, h.namedValue?_written, h.numberParts?_written hrest]
    dsimp only
    rw [h.length]
  obtain ⟨c, cs, hwritten, hc, -⟩ := h.written_eq_cons
  have hother : ∀ other : Char, other.isDigit = false → other ≠ '-' → c ≠ other := by
    rintro other hdigit hminus rfl
    rcases hc with rfl | hc
    · exact hminus rfl
    · exact ne_of_isDigit hc hdigit rfl
  rw [hwritten] at htoken ⊢
  refine tokensFrom_token c cs ?_ ?_ hlast
  · simp [isSpace, hother ' ' rfl (by decide), hother '\t' rfl (by decide),
      hother '\n' rfl (by decide), hother '\r' rfl (by decide)]
  · rw [tokenAt_eq_scalarToken ?_, ← List.cons_append, htoken]
    · rfl
    · simp [hother '\x7b' rfl (by decide), hother '\x7d' rfl (by decide),
        hother '[' rfl (by decide), hother ']' rfl (by decide), hother ',' rfl (by decide),
        hother ':' rfl (by decide), hother '"' rfl (by decide)]

end Parts

/-! ## Integers -/

/-- The parts of an integer. -/
def intParts (n : Int) : NumberParts := .of (decide (n < 0)) (Nat.toDigits 10 n.natAbs) [] none

/-- An integer is written part by part. -/
theorem written_intParts (n : Int) : (intParts n).written = writtenInt n := by
  rw [NumberParts.written, writtenInt]
  by_cases hneg : n < 0 <;> simp [intParts, NumberParts.of, hneg, pointed, marked]

/-- The parts of an integer are those of a number. -/
theorem proper_intParts (n : Int) : (intParts n).Proper where
  whole := isWhole_toDigits n.natAbs
  fraction := fun _ hc => absurd hc List.not_mem_nil
  exponent := fun _ hmark => absurd hmark (Option.not_mem_none _)
  length := rfl

/-- The parts of an integer are the token of that integer, unless it has too many digits. -/
theorem token_intParts {n : Int}
    (hlength : (Nat.toDigits 10 n.natAbs).length ≤ maxIntegerDigits) :
    (intParts n).token = .scalar (.int n) := by
  have hvalue : (decimalValue (Nat.toDigits 10 n.natAbs) : Int) = n.natAbs :=
    congrArg Nat.cast Nat.ofDigitChars_ten_toDigits
  have hsigned : (if n < 0 then -(n.natAbs : Int) else (n.natAbs : Int)) = n := by
    split <;> omega
  simp only [intParts, NumberParts.of, NumberParts.token, List.isEmpty_nil, Option.isNone_none,
    Bool.and_self, if_true, if_neg (Nat.not_lt.mpr hlength), hvalue, decide_eq_true_eq, hsigned]

/-- A written integer is a token in front of what ends a number. -/
theorem tokensFrom_writtenInt (offset : Nat) {n : Int} {rest : List Char} (h : EndsNumber rest)
    (hlength : (Nat.toDigits 10 n.natAbs).length ≤ maxIntegerDigits) :
    tokensFrom offset 0 (writtenInt n ++ rest) =
      (offset, .scalar (.int n)) :: tokensFrom (offset + (writtenInt n).length) 0 rest := by
  have htoken := token_intParts hlength
  have hread := (proper_intParts n).tokensFrom_written h (by rw [htoken]; rfl) offset
  rwa [written_intParts, htoken] at hread

/-! ## Floating-point numbers -/

/-- The power of ten that an exponent names. -/
def scaleOf : Option (Bool × List Char) → Int
  | none => 0
  | some (true, digits) => -decimalValue digits
  | some (false, digits) => decimalValue digits

/-- A number with a fraction or an exponent is the decimal that its digits write. -/
theorem NumberParts.token_eq {parts : NumberParts}
    (h : (parts.fraction.isEmpty && parts.exponent.isNone) = false) :
    parts.token = .scalar (.float (.ofDecimal parts.negative
      (decimalValue (parts.whole ++ parts.fraction))
      (scaleOf parts.exponent - parts.fraction.length))) := by
  rw [NumberParts.token, h, if_neg Bool.false_ne_true]
  rfl

/-- Zeros are digits. -/
theorem isDigit_of_mem_zeros {count : Nat} : ∀ c ∈ List.replicate count '0', c.isDigit = true := by
  intro c hc
  rw [List.eq_of_mem_replicate hc]
  rfl

/-- Digits after a point are written with it. -/
theorem pointed_of_ne_nil {fraction : List Char} (h : fraction ≠ []) :
    pointed fraction = '.' :: fraction := by
  rw [pointed, if_neg]
  rwa [List.isEmpty_iff]

/-- An exponent as a mark of a number. -/
def exponentMark (layout : DecimalLayout) (exponent : Int) : Bool × List Char :=
  (decide (exponent < 0),
    List.replicate (layout.exponentWidth - (Nat.toDigits 10 exponent.natAbs).length) '0' ++
      Nat.toDigits 10 exponent.natAbs)

/-- An exponent is written as a mark. -/
theorem marked_exponentMark (layout : DecimalLayout) (exponent : Int) :
    marked (some (exponentMark layout exponent)) = layout.exponentPart exponent := by
  rw [exponentMark, marked, DecimalLayout.exponentPart]
  simp only [decide_eq_true_eq]

/-- A written exponent names its power of ten. -/
theorem scaleOf_exponentMark (layout : DecimalLayout) (exponent : Int) :
    scaleOf (some (exponentMark layout exponent)) = exponent := by
  have hvalue : decimalValue (exponentMark layout exponent).2 = exponent.natAbs := by
    rw [exponentMark, decimalValue, ofDigitChars_append, ofDigitChars_zeros, Nat.zero_mul,
      Nat.zero_add, Nat.ofDigitChars_ten_toDigits]
  have hmark : exponentMark layout exponent =
      (decide (exponent < 0), (exponentMark layout exponent).2) := rfl
  rw [hmark]
  by_cases hneg : exponent < 0
  · rw [decide_eq_true hneg, scaleOf, hvalue]
    omega
  · rw [decide_eq_false hneg, scaleOf, hvalue]
    omega

/-- The digits of a written exponent. -/
theorem digits_exponentMark (layout : DecimalLayout) (exponent : Int) :
    (exponentMark layout exponent).2 ≠ [] ∧
      ∀ c ∈ (exponentMark layout exponent).2, c.isDigit = true := by
  rw [exponentMark, List.forall_mem_append]
  exact ⟨List.append_ne_nil_of_right_ne_nil _ Nat.toDigits_ne_nil, isDigit_of_mem_zeros,
    fun _ => isDigit_of_mem_toDigits⟩

/-- Whether a text is that of a number with a fraction or an exponent and writes the same value as
digits of which the last counts a power of ten. -/
def LaysOut (digits : List Char) (last : Int) (text : List Char) : Prop :=
  ∃ whole fraction exponent, text = whole ++ (pointed fraction ++ marked exponent) ∧
    IsWhole whole ∧ (∀ c ∈ fraction, c.isDigit = true) ∧
    (∀ mark ∈ exponent, mark.2 ≠ [] ∧ ∀ c ∈ mark.2, c.isDigit = true) ∧
    (fraction.isEmpty && exponent.isNone) = false ∧
    (decimalValue (whole ++ fraction) : ℚ) * 10 ^ (scaleOf exponent - fraction.length) =
      decimalValue digits * 10 ^ last

section Layout

variable {digits : List Char} {last : Int} (hdigits : ∀ c ∈ digits, c.isDigit = true)
  (hnonempty : digits ≠ []) (hleading : digits.head? ≠ some '0')

include hdigits hnonempty

/-- Digits behind a point and zeros. -/
theorem laysOut_small {zeros : Nat} (hlast : last = -(zeros + digits.length : Nat)) :
    LaysOut digits last ('0' :: '.' :: (List.replicate zeros '0' ++ digits)) := by
  have hfraction : List.replicate zeros '0' ++ digits ≠ [] :=
    List.append_ne_nil_of_right_ne_nil _ hnonempty
  have hvalue : decimalValue (['0'] ++ (List.replicate zeros '0' ++ digits)) =
      decimalValue digits := by
    rw [← List.append_assoc, decimalValue, ofDigitChars_append, ← List.replicate_one,
      ← List.replicate_add, ofDigitChars_zeros, Nat.zero_mul, Nat.zero_add, decimalValue]
  have hscale : scaleOf none - ((List.replicate zeros '0' ++ digits).length : Int) = last := by
    rw [hlast, List.length_append, List.length_replicate, scaleOf]
    omega
  refine ⟨['0'], List.replicate zeros '0' ++ digits, none, ?_, isWhole_toDigits 0, ?_,
    fun _ hmark => absurd hmark (Option.not_mem_none _), ?_, by rw [hvalue, hscale]⟩
  · rw [pointed_of_ne_nil hfraction, marked, List.append_nil]
    rfl
  · exact List.forall_mem_append.mpr ⟨isDigit_of_mem_zeros, hdigits⟩
  · rw [List.isEmpty_eq_false_iff.mpr hfraction, Bool.false_and]

include hleading

/-- Digits with zeros before the point. -/
theorem laysOut_large {zeros : Nat} (hlast : last = zeros) :
    LaysOut digits last (digits ++ List.replicate zeros '0' ++ ['.', '0']) := by
  have hvalue : decimalValue (digits ++ List.replicate zeros '0' ++ ['0']) =
      decimalValue digits * 10 ^ (zeros + 1) := by
    rw [List.append_assoc, ← List.replicate_one, ← List.replicate_add, decimalValue,
      ofDigitChars_append, ofDigitChars_zeros, List.length_replicate, Nat.add_zero, Nat.pow_eq,
      decimalValue]
  have hscale : scaleOf none - ((['0'] : List Char).length : Int) = -1 := rfl
  refine ⟨digits ++ List.replicate zeros '0', ['0'], none, rfl, ⟨?_, ?_, ?_⟩,
    List.forall_mem_singleton.mpr rfl, fun _ hmark => absurd hmark (Option.not_mem_none _), rfl, ?_⟩
  · exact List.forall_mem_append.mpr ⟨hdigits, isDigit_of_mem_zeros⟩
  · exact List.append_ne_nil_of_left_ne_nil hnonempty _
  · rw [List.head?_append_of_ne_nil _ hnonempty]
    exact fun hzero => absurd hzero hleading
  · rw [hvalue, hscale, hlast, Nat.cast_mul, Nat.cast_pow, Nat.cast_ofNat, pow_succ, zpow_neg_one,
      zpow_natCast]
    field_simp

/-- Digits with a point among them. -/
theorem laysOut_mixed {count : Nat} (hpos : 0 < count) (hcount : count < digits.length)
    (hlast : last = -(digits.length - count : Nat)) :
    LaysOut digits last (digits.take count ++ '.' :: digits.drop count) := by
  have hfraction : digits.drop count ≠ [] := by
    rw [Ne, List.drop_eq_nil_iff]
    omega
  have hvalue : decimalValue (digits.take count ++ digits.drop count) = decimalValue digits := by
    rw [List.take_append_drop]
  have hscale : scaleOf none - ((digits.drop count).length : Int) = last := by
    rw [hlast, List.length_drop, scaleOf]
    omega
  refine ⟨digits.take count, digits.drop count, none, ?_, ⟨?_, ?_, ?_⟩, ?_,
    fun _ hmark => absurd hmark (Option.not_mem_none _), ?_, by rw [hvalue, hscale]⟩
  · rw [pointed_of_ne_nil hfraction, marked, List.append_nil]
  · exact fun c hc => hdigits c (List.mem_of_mem_take hc)
  · rw [Ne, List.take_eq_nil_iff]
    rintro (hzero | hempty)
    · omega
    · exact hnonempty hempty
  · rw [List.head?_take, if_neg hpos.ne']
    exact fun hzero => absurd hzero hleading
  · exact fun c hc => hdigits c (List.mem_of_mem_drop hc)
  · rw [List.isEmpty_eq_false_iff.mpr hfraction, Bool.false_and]

/-- Digits with an exponent. -/
theorem laysOut_exponent (layout : DecimalLayout) {first : Char} {rest : List Char}
    (hsplit : digits = first :: rest) {leading : Int} (hlast : last = leading - rest.length) :
    LaysOut digits last (first :: (pointed rest ++ layout.exponentPart leading)) := by
  subst hsplit
  have hscale : scaleOf (some (exponentMark layout leading)) - (rest.length : Int) = last := by
    rw [scaleOf_exponentMark, hlast]
  refine ⟨[first], rest, some (exponentMark layout leading), ?_, ⟨?_, ?_, ?_⟩, ?_, ?_, ?_, ?_⟩
  · rw [marked_exponentMark]
    rfl
  · exact List.forall_mem_singleton.mpr (hdigits first List.mem_cons_self)
  · exact List.cons_ne_nil _ _
  · exact fun hzero => absurd hzero hleading
  · exact fun c hc => hdigits c (List.mem_cons_of_mem _ hc)
  · rintro mark hmark
    obtain rfl := Option.some.inj hmark
    exact digits_exponentMark layout leading
  · rw [Option.isNone_some, Bool.and_false]
  · rw [hscale]
    rfl

/-- Digits are laid out as a number that writes the same value. -/
theorem laysOut_place (layout : DecimalLayout) (last : Int) :
    LaysOut digits last (layout.place digits last) := by
  have hlength : 0 < digits.length := List.length_pos_iff.mpr hnonempty
  unfold DecimalLayout.place
  dsimp only
  split
  · split
    · exact laysOut_small hdigits hnonempty (by omega)
    · split
      · exact laysOut_large hdigits hnonempty hleading (by omega)
      · exact laysOut_mixed hdigits hnonempty hleading (Nat.succ_pos _) (by omega) (by omega)
  · obtain ⟨first, rest, rfl⟩ := List.exists_cons_of_ne_nil hnonempty
    have hlast : last = ((first :: rest).length : Int) - 1 + last - rest.length := by
      rw [List.length_cons]
      omega
    have hexponent := laysOut_exponent hdigits hnonempty hleading layout rfl hlast
    cases rest with
    | nil => exact hexponent
    | cons second more => exact hexponent

end Layout

/-- A text that lays out digits is a token in front of what ends a number: the decimal of the value
that they write. -/
theorem tokensFrom_laysOut {digits text rest : List Char} {last : Int}
    (h : LaysOut digits last text) (hrest : EndsNumber rest) :
    ∃ (coefficient : Nat) (scale : Int),
      (coefficient : ℚ) * 10 ^ scale = decimalValue digits * 10 ^ last ∧
      ∀ (negative : Bool) (offset : Nat),
        tokensFrom offset 0 (DecimalLayout.render.sign negative ++ text ++ rest) =
          (offset, .scalar (.float (.ofDecimal negative coefficient scale))) ::
            tokensFrom (offset + (DecimalLayout.render.sign negative ++ text).length) 0 rest := by
  obtain ⟨whole, fraction, exponent, rfl, hwhole, hfraction, hexponent, hpart, hvalue⟩ := h
  refine ⟨_, _, hvalue, fun negative offset => ?_⟩
  have hproper : (NumberParts.of negative whole fraction exponent).Proper :=
    ⟨hwhole, hfraction, hexponent, rfl⟩
  have htoken : (NumberParts.of negative whole fraction exponent).token = _ :=
    NumberParts.token_eq hpart
  have hread := hproper.tokensFrom_written hrest (by rw [htoken]; rfl) offset
  rwa [htoken] at hread

/-- A finite floating-point number that decimals are rounded to is a token in front of what ends a
number. -/
theorem tokensFrom_writtenFloat (offset : Nat) {value : Binary64} {rest : List Char}
    (hfinite : value.isFinite = true) (hcanonical : value.IsCanonical) (hrest : EndsNumber rest) :
    tokensFrom offset 0 (floatLayout.render value ++ rest) =
      (offset, .scalar (.float value)) ::
        tokensFrom (offset + (floatLayout.render value).length) 0 rest := by
  cases value with
  | infinite | nan => cases hfinite
  | finite negative significand exponent =>
    rw [DecimalLayout.render]
    split
    · rename_i hzero
      have hexponent : exponent = leastExponent :=
        hcanonical.normal_or_least.resolve_left (by rw [hzero]; norm_num)
      have hlaid : LaysOut ['0'] 0 ['0', '.', '0'] :=
        ⟨['0'], ['0'], none, rfl, isWhole_toDigits 0, List.forall_mem_singleton.mpr rfl,
          fun _ hmark => absurd hmark (Option.not_mem_none _), rfl,
          by simp [decimalValue, Nat.ofDigitChars]⟩
      obtain ⟨coefficient, scale, hvalue, hread⟩ := tokensFrom_laysOut hlaid hrest
      have hcoefficient : coefficient = 0 := by
        have hzeroValue : (coefficient : ℚ) * 10 ^ scale = 0 :=
          hvalue.trans (mul_eq_zero_of_left Nat.cast_zero _)
        have hten : (10 : ℚ) ^ scale ≠ 0 := by positivity
        exact_mod_cast (mul_eq_zero.mp hzeroValue).resolve_right hten
      rw [hread, hcoefficient, Binary64.ofDecimal, if_pos rfl, hzero, hexponent]
      rfl
    · rename_i hpositive
      have hpos := Nat.pos_of_ne_zero hpositive
      obtain ⟨digits, last, hshortest, hdigits, hnonempty, hleading, hrounds⟩ :=
        Binary64.shortest_spec hpos exponent
      rw [hshortest]
      obtain ⟨coefficient, scale, hvalue, hread⟩ := tokensFrom_laysOut
        (laysOut_place hdigits hnonempty hleading floatLayout last) hrest
      rw [← decimalValue, ← hvalue] at hrounds
      rw [hread, Binary64.ofDecimal_eq hcanonical hpos hrounds]

end OperandCleanup.Json
