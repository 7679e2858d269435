import OperandCleanup.Json.Printer
import OperandCleanup.Json.Token

/-!
# The tokens of written text

What the printer writes of a text is one token, and it reads as what was written. Texts may hold any
characters, escaped or not. Blanks are passed over.
-/

namespace OperandCleanup.Json

/-! ## Texts -/

/-- The characters of an escape that is read already are passed over. -/
theorem textBody_skip (start offset : Nat) (skipped rest : List Char) :
    textBody start offset skipped.length (skipped ++ rest) =
      textBody start (offset + skipped.length) 0 rest := by
  induction skipped generalizing offset with
  | nil => rfl
  | cons c skipped ih =>
    rw [List.length_cons, List.cons_append, textBody, ih]
    congr 1
    omega

/-- A text goes on behind an escape with the character that the escape stands for. -/
theorem textBody_escape (escaped : List Char) {start offset : Nat} {c : Char} {rest : List Char}
    (h : escape start offset (escaped ++ rest) = .ok (c, escaped.length)) :
    textBody start offset 0 ('\\' :: escaped ++ rest) =
      (textBody start (offset + (escaped.length + 1)) 0 rest).map fun (cs, stop) =>
        (c :: cs, stop) := by
  rw [List.cons_append, textBody, if_neg (by decide), if_pos rfl, h]
  change (textBody start (offset + 1) escaped.length (escaped ++ rest) >>= _) = _
  rw [textBody_skip, show offset + 1 + escaped.length = offset + (escaped.length + 1) by omega]
  cases textBody start (offset + (escaped.length + 1)) 0 rest <;> rfl

/-- The digits of a code of 16 bits are four. -/
theorem digits_four (code : Nat) : ∃ a b c d, Hexadecimal.digits 4 code = [a, b, c, d] :=
  ⟨_, _, _, _, rfl⟩

/-- A code of 16 bits is read alone behind the `u` of its escape, unless it is a high surrogate with
a low one behind it. -/
theorem codeEscape_alone {offset code : Nat} {next : Char} {rest : List Char}
    (hcode : code < 0x10000)
    (hnext : isHighSurrogate code = true → secondUnit? (offset + 5) (next :: rest) = .ok none) :
    codeEscape offset (Hexadecimal.digits 4 code ++ next :: rest) =
      .ok (charOfUnit code, 4) := by
  have hvalue : Hexadecimal.value? (Hexadecimal.digits 4 code) = some code :=
    Hexadecimal.value?_digits hcode
  obtain ⟨a, b, c, d, hdigits⟩ := digits_four code
  rw [hdigits] at hvalue ⊢
  simp only [List.cons_append, List.nil_append, codeEscape, hvalue]
  cases hhigh : isHighSurrogate code with
  | true => simp only [if_true, hnext hhigh, bind, Except.bind, pure, Except.pure]
  | false => rfl

/-- A code of 16 bits that is no surrogate is read behind the `u` of its escape. -/
theorem codeEscape_unit {offset code : Nat} {next : Char} {rest : List Char}
    (hcode : code < 0x10000) (hsurrogate : ¬ (0xd800 ≤ code ∧ code ≤ 0xdfff)) :
    codeEscape offset (Hexadecimal.digits 4 code ++ next :: rest) = .ok (Char.ofNat code, 4) := by
  have hhigh : isHighSurrogate code = false := by
    simp only [isHighSurrogate, Bool.and_eq_false_iff, decide_eq_false_iff_not]
    omega
  rw [codeEscape_alone hcode (by rw [hhigh]; exact fun h => absurd h Bool.false_ne_true),
    charOfUnit, if_neg hsurrogate]

/-- A surrogate pair is read behind the `u` of its first escape. -/
theorem codeEscape_pair {offset high low : Nat} {next : Char} {rest : List Char}
    (hhigh : 0xd800 ≤ high ∧ high ≤ 0xdbff) (hlow : 0xdc00 ≤ low ∧ low ≤ 0xdfff) :
    codeEscape offset (Hexadecimal.digits 4 high ++ (unitEscape low ++ next :: rest)) =
      .ok (charOfPair high low, 10) := by
  have hhighValue : Hexadecimal.value? (Hexadecimal.digits 4 high) = some high :=
    Hexadecimal.value?_digits (show high < 0x10000 by omega)
  have hlowValue : Hexadecimal.value? (Hexadecimal.digits 4 low) = some low :=
    Hexadecimal.value?_digits (show low < 0x10000 by omega)
  obtain ⟨a, b, c, d, hdigits⟩ := digits_four high
  obtain ⟨a', b', c', d', hdigits'⟩ := digits_four low
  rw [unitEscape]
  rw [hdigits] at hhighValue ⊢
  rw [hdigits'] at hlowValue ⊢
  have hisHigh : isHighSurrogate high = true := by simp [isHighSurrogate, hhigh]
  have hisLow : isLowSurrogate low = true := by simp [isLowSurrogate, hlow]
  simp only [List.cons_append, List.nil_append, codeEscape, hhighValue, hisHigh, if_true,
    secondUnit?, hlowValue, hisLow]
  rfl

/-- The surrogate pair of a character above the basic plane stands for it. -/
theorem charOfPair_units {c : Char} (h : 0x10000 ≤ c.toNat) :
    charOfPair (0xd800 + (c.toNat - 0x10000) / 0x400) (0xdc00 + (c.toNat - 0x10000) % 0x400) =
      c := by
  have hcode : 0x10000 + (0xd800 + (c.toNat - 0x10000) / 0x400 - 0xd800) * 0x400 +
      (0xdc00 + (c.toNat - 0x10000) % 0x400 - 0xdc00) = c.toNat := by omega
  rw [charOfPair, hcode, Char.ofNat_toNat]

/-- A character is neither a surrogate nor above the last code. -/
theorem toNat_bounds (c : Char) :
    ¬ (0xd800 ≤ c.toNat ∧ c.toNat ≤ 0xdfff) ∧ c.toNat < 0x110000 := by
  have h := c.valid
  simp only [UInt32.isValidChar, Nat.isValidChar] at h
  simp only [Char.toNat]
  omega

/-- The ways in which a character is written: by a letter after a backslash, as itself, or by the
escapes of one or two codes. -/
theorem writtenChar_cases (c : Char) :
    (∃ letter, escapedLetter? letter = some c ∧ letter ≠ 'u' ∧ letter.toNat < 0x7f ∧
      0x20 ≤ letter.toNat ∧ writtenChar c = ['\\', letter]) ∨
    (c ≠ '"' ∧ c ≠ '\\' ∧ 0x20 ≤ c.toNat ∧ c.toNat ≤ 0x7e ∧ writtenChar c = [c]) ∨
    (c.toNat < 0x10000 ∧ writtenChar c = unitEscape c.toNat) ∨
    (0x10000 ≤ c.toNat ∧ writtenChar c =
      unitEscape (0xd800 + (c.toNat - 0x10000) / 0x400) ++
        unitEscape (0xdc00 + (c.toNat - 0x10000) % 0x400)) := by
  by_cases hletter : c ∈ ['"', '\\', '\n', '\r', '\t', '\x0c', '\x08']
  · left
    simp only [List.mem_cons, List.not_mem_nil, or_false] at hletter
    rcases hletter with rfl | rfl | rfl | rfl | rfl | rfl | rfl
    · exact ⟨'"', by decide⟩
    · exact ⟨'\\', by decide⟩
    · exact ⟨'n', by decide⟩
    · exact ⟨'r', by decide⟩
    · exact ⟨'t', by decide⟩
    · exact ⟨'f', by decide⟩
    · exact ⟨'b', by decide⟩
  · right
    simp only [List.mem_cons, List.not_mem_nil, or_false, not_or] at hletter
    obtain ⟨hquote, hbackslash, hlf, hcr, htab, hff, hbs⟩ := hletter
    rw [writtenChar, if_neg hquote, if_neg hbackslash, if_neg hlf, if_neg hcr, if_neg htab,
      if_neg hff, if_neg hbs]
    by_cases hprintable : 0x20 ≤ c.toNat ∧ c.toNat ≤ 0x7e
    · exact Or.inl ⟨hquote, hbackslash, hprintable.1, hprintable.2, if_pos hprintable⟩
    · rw [if_neg hprintable]
      by_cases hunit : c.toNat < 0x10000
      · exact Or.inr (Or.inl ⟨hunit, if_pos hunit⟩)
      · exact Or.inr (Or.inr ⟨Nat.le_of_not_lt hunit, if_neg hunit⟩)

/-- A written character is read, and the text goes on behind it. An escape needs something that
follows it. -/
theorem textBody_writtenChar (start offset : Nat) (c next : Char) (rest : List Char) :
    textBody start offset 0 (writtenChar c ++ next :: rest) =
      (textBody start (offset + (writtenChar c).length) 0 (next :: rest)).map fun (cs, stop) =>
        (c :: cs, stop) := by
  rcases writtenChar_cases c with ⟨letter, hletter, hu, -, -, hwritten⟩ |
    ⟨hquote, hbackslash, hlow, -, hwritten⟩ | ⟨hunit, hwritten⟩ | ⟨hpair, hwritten⟩
  · rw [hwritten]
    refine textBody_escape [letter] ?_
    simp [escape, hletter]
  · rw [hwritten, List.singleton_append, textBody, if_neg hquote, if_neg hbackslash,
      if_neg (Nat.not_lt.mpr hlow), List.length_singleton]
    cases textBody start (offset + 1) 0 (next :: rest) <;> rfl
  · rw [hwritten]
    refine textBody_escape ('u' :: Hexadecimal.digits 4 c.toNat) ?_
    rw [List.cons_append, escape, codeEscape_unit hunit (toNat_bounds c).1, Char.ofNat_toNat]
    rfl
  · have hlast := (toNat_bounds c).2
    rw [hwritten]
    refine textBody_escape ('u' ::
      (Hexadecimal.digits 4 (0xd800 + (c.toNat - 0x10000) / 0x400) ++
        unitEscape (0xdc00 + (c.toNat - 0x10000) % 0x400))) ?_
    rw [List.cons_append, List.append_assoc, escape,
      codeEscape_pair (by omega) (by omega), charOfPair_units hpair]
    rfl

/-- The characters of a text are read up to its closing quote. -/
theorem textBody_written (start offset : Nat) (cs rest : List Char) :
    textBody start offset 0 (cs.flatMap writtenChar ++ '"' :: rest) =
      .ok (cs, offset + (cs.flatMap writtenChar).length + 1) := by
  induction cs generalizing offset with
  | nil => rfl
  | cons c cs ih =>
    obtain ⟨next, more, hnext⟩ :
        ∃ next more, cs.flatMap writtenChar ++ '"' :: rest = next :: more :=
      List.exists_cons_of_ne_nil (by simp)
    rw [List.flatMap_cons, List.append_assoc, hnext, textBody_writtenChar, ← hnext, ih,
      List.length_append]
    simp only [Except.map, Nat.add_assoc]

/-- A written text is the token of that text. -/
theorem textToken_written (start : Nat) (s : String) (rest : List Char) :
    textToken start (s.toList.flatMap writtenChar ++ '"' :: rest) =
      (.text s, (s.toList.flatMap writtenChar).length + 1) := by
  have hlength : start + 1 + (s.toList.flatMap writtenChar).length + 1 - (start + 1) =
      (s.toList.flatMap writtenChar).length + 1 := by omega
  simp only [textToken, textBody_written, String.ofList_toList, hlength]

/-! ## Tokens -/

/-- The characters of a token that is read already are passed over. -/
theorem tokensFrom_skip (offset : Nat) (skipped rest : List Char) :
    tokensFrom offset skipped.length (skipped ++ rest) =
      tokensFrom (offset + skipped.length) 0 rest := by
  induction skipped generalizing offset with
  | nil => rfl
  | cons c skipped ih =>
    rw [List.length_cons, List.cons_append, tokensFrom, ih]
    congr 1
    omega

/-- The tokens of a text go on behind its first one. -/
theorem tokensFrom_token (c : Char) (cs : List Char) {offset : Nat} {rest : List Char}
    {token : Token} (hspace : isSpace c = false)
    (htoken : tokenAt offset c (cs ++ rest) = (token, cs.length)) (hlast : token.isLast = false) :
    tokensFrom offset 0 (c :: cs ++ rest) =
      (offset, token) :: tokensFrom (offset + (c :: cs).length) 0 rest := by
  rw [List.cons_append, tokensFrom, hspace, htoken]
  simp only [Bool.false_eq_true, if_false, hlast, tokensFrom_skip, List.length_cons]
  congr 2
  omega

/-- Blanks between tokens are passed over. -/
theorem tokensFrom_spaces (offset : Nat) {spaces : List Char}
    (h : ∀ c ∈ spaces, isSpace c = true) (rest : List Char) :
    tokensFrom offset 0 (spaces ++ rest) = tokensFrom (offset + spaces.length) 0 rest := by
  induction spaces generalizing offset with
  | nil => rfl
  | cons c spaces ih =>
    rw [List.cons_append, tokensFrom, if_pos (h c (by simp)),
      ih (offset + 1) fun other hother => h other (by simp [hother]), List.length_cons]
    congr 1
    omega

/-- A line end and the spaces after it are blanks. -/
theorem isSpace_of_mem_newline {depth : Nat} {c : Char} (h : c ∈ newline depth) :
    isSpace c = true := by
  rcases List.mem_cons.mp h with rfl | hspaces
  · rfl
  · rw [List.eq_of_mem_replicate hspaces]
    rfl

/-- A written text is a token. -/
theorem tokensFrom_writtenText (offset : Nat) (s : String) (rest : List Char) :
    tokensFrom offset 0 (writtenText s ++ rest) =
      (offset, .text s) :: tokensFrom (offset + (writtenText s).length) 0 rest := by
  refine tokensFrom_token '"' (s.toList.flatMap writtenChar ++ ['"']) rfl ?_ rfl
  rw [List.append_assoc, List.singleton_append]
  change textToken offset _ = _
  rw [textToken_written, List.length_append, List.length_singleton]

/-- A character that starts no bracket, no separator and no text starts a scalar. -/
theorem tokenAt_eq_scalarToken {c : Char} (h : c ∉ ['\x7b', '\x7d', '[', ']', ',', ':', '"'])
    (offset : Nat) (rest : List Char) : tokenAt offset c rest = scalarToken (c :: rest) := by
  simp only [List.mem_cons, List.not_mem_nil, or_false, not_or] at h
  obtain ⟨hopen, hclose, hopenArray, hcloseArray, hcomma, hcolon, hquote⟩ := h
  unfold tokenAt
  split
  all_goals first | contradiction | rfl

end OperandCleanup.Json
