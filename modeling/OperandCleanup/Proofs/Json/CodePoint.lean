import OperandCleanup.Json.CodePoint
import OperandCleanup.Proofs.Json.Injective
import OperandCleanup.Proofs.Json.Invariant
import OperandCleanup.Proofs.Loading
import OperandCleanup.Proofs.Text.CodePoint

/-!
# Written surrogates

What is written for a marked text is read as that text again, unless it holds a high surrogate
right before a low one: the two escapes are one character then. So where no such pair stands, texts
are written alike only if they are the same, and the values that are read of a JSON text hold marked
texts throughout. In a text without surrogates and without the mark nothing is different: it is
read, and written, as the text of characters that it is.
-/

namespace OperandCleanup.Json

open CodePoint (firstSurrogate mark marked unmarked markedText isMarked isUnpaired isPairFree)

/-! ## Escapes -/

theorem map_shown_map_char (cs : List Char) : (cs.map CodePoint.char).map CodePoint.shown = cs := by
  rw [List.map_map]
  exact List.map_id cs

/-- An escape of another length than that of a single code stands for its character. -/
theorem escapedPoint_of_length_ne {rest : List Char} {c : Char} {length : Nat}
    (h : escape 0 0 rest = .ok (c, length)) (hlength : length ≠ 5) :
    escapedPoint rest = (.char c, length) := by
  unfold escapedPoint
  split
  · rename_i hescape
    rw [h] at hescape
    exact absurd (Prod.mk.inj (Except.ok.inj hescape)).2 hlength
  · rename_i hescape
    rw [h] at hescape
    obtain ⟨rfl, rfl⟩ := Prod.mk.inj (Except.ok.inj hescape)
    rfl
  · rename_i hescape
    rw [h] at hescape
    cases hescape

/-- An escape of a single code stands for the code point. -/
theorem escapedPoint_unit {code : Nat} (hcode : code < 0x10000) {rest : List Char} {c : Char}
    (h : escape 0 0 ('u' :: Hexadecimal.digits 4 code ++ rest) = .ok (c, 5)) :
    escapedPoint ('u' :: Hexadecimal.digits 4 code ++ rest) = (.ofNat code, 5) := by
  have hvalue : Hexadecimal.value? (Hexadecimal.digits 4 code) = some code :=
    Hexadecimal.value?_digits hcode
  obtain ⟨a, b, d, e, hdigits⟩ := digits_four code
  rw [hdigits] at hvalue h ⊢
  simp only [List.cons_append, List.nil_append] at h ⊢
  simp only [escapedPoint, h, hvalue, Option.getD_some]

/-- The code points of an escape that is read already are passed over. -/
theorem quotedPoints_skip (skipped rest : List CodePoint) :
    quotedPoints skipped.length (skipped ++ rest) = quotedPoints 0 rest := by
  induction skipped with
  | nil => rfl
  | cons code skipped ih => rw [List.length_cons, List.cons_append, quotedPoints, ih]

/-- Quoted code points go on behind an escape with the one that it stands for. -/
theorem quotedPoints_escape (escaped : List Char) {code : CodePoint} {rest : List Char}
    (h : escapedPoint (escaped ++ rest) = (code, escaped.length)) :
    quotedPoints 0 (('\\' :: escaped ++ rest).map .char) =
      code :: quotedPoints 0 (rest.map .char) := by
  rw [List.cons_append, List.map_cons, quotedPoints, if_neg (by decide), if_pos rfl,
    map_shown_map_char, h, List.map_append]
  exact congrArg (code :: ·)
    ((congrArg (quotedPoints · _) (List.length_map _).symm).trans (quotedPoints_skip _ _))

/-! ## Written code points -/

/-- A character is no surrogate. -/
theorem ofNat_toNat (c : Char) : CodePoint.ofNat c.toNat = .char c := by
  have hc := toNat_bounds c
  have hfirst : firstSurrogate = 0xd800 := rfl
  rw [CodePoint.ofNat, dif_neg (by omega), Char.ofNat_toNat]

/-- The number of a surrogate stands for it. -/
theorem ofNat_surrogate (rank : Fin 0x800) :
    CodePoint.ofNat (firstSurrogate + rank) = .surrogate rank := by
  rw [CodePoint.ofNat, dif_pos ⟨by omega, by omega⟩]
  exact congrArg CodePoint.surrogate (Fin.ext (Nat.add_sub_cancel_left _ _))

/-- A written character is read, and the code points go on behind it. -/
theorem quotedPoints_writtenChar (c next : Char) (rest : List Char) :
    quotedPoints 0 ((writtenChar c ++ next :: rest).map .char) =
      .char c :: quotedPoints 0 ((next :: rest).map .char) := by
  rcases writtenChar_cases c with ⟨letter, hletter, hu, -, -, hwritten⟩ |
    ⟨hquote, hbackslash, -, -, hwritten⟩ | ⟨hunit, hwritten⟩ | ⟨hpair, hwritten⟩
  · rw [hwritten]
    refine quotedPoints_escape [letter] (escapedPoint_of_length_ne ?_ (by simp))
    simp [escape, hletter]
  · rw [hwritten, List.singleton_append, List.map_cons, quotedPoints,
      if_neg (mt CodePoint.char.inj hquote), if_neg (mt CodePoint.char.inj hbackslash)]
  · have hescape : escape 0 0 ('u' :: Hexadecimal.digits 4 c.toNat ++ next :: rest) =
        .ok (c, 5) := by
      rw [List.cons_append, escape, codeEscape_unit hunit (toNat_bounds c).1, Char.ofNat_toNat]
      rfl
    have hpoint := escapedPoint_unit hunit hescape
    rw [ofNat_toNat] at hpoint
    rw [hwritten]
    exact quotedPoints_escape ('u' :: Hexadecimal.digits 4 c.toNat) hpoint
  · have hlast := (toNat_bounds c).2
    rw [hwritten]
    refine quotedPoints_escape ('u' ::
      (Hexadecimal.digits 4 (0xd800 + (c.toNat - 0x10000) / 0x400) ++
        unitEscape (0xdc00 + (c.toNat - 0x10000) % 0x400)))
      (escapedPoint_of_length_ne ?_ (by simp [unitEscape, Hexadecimal.length_digits]))
    rw [List.cons_append, List.append_assoc, escape,
      codeEscape_pair (by omega) (by omega), charOfPair_units hpair]
    rfl

/-- A written surrogate is read, unless it is a high one and a low one follows. -/
theorem quotedPoints_writtenSurrogate (rank : Fin 0x800) {next : Char} {rest : List Char}
    (hnext : (CodePoint.surrogate rank).isHigh = true →
      ∀ offset, secondUnit? offset (next :: rest) = .ok none) :
    quotedPoints 0 ((writtenPoint (.surrogate rank) ++ next :: rest).map .char) =
      .surrogate rank :: quotedPoints 0 ((next :: rest).map .char) := by
  have hfirst : firstSurrogate = 0xd800 := rfl
  have hcode : firstSurrogate + rank < 0x10000 := by omega
  have hescape : escape 0 0 ('u' :: Hexadecimal.digits 4 (firstSurrogate + rank) ++ next :: rest) =
      .ok (charOfUnit (firstSurrogate + rank), 5) := by
    rw [List.cons_append, escape, codeEscape_alone hcode]
    · rfl
    · intro hhigh
      refine hnext ?_ _
      simp only [isHighSurrogate, Bool.and_eq_true, decide_eq_true_eq] at hhigh
      exact decide_eq_true (by omega)
  have hpoint := escapedPoint_unit hcode hescape
  rw [ofNat_surrogate] at hpoint
  exact quotedPoints_escape ('u' :: Hexadecimal.digits 4 (firstSurrogate + rank)) hpoint

/-- An escape of a code that is no low surrogate ends no pair. -/
theorem secondUnit?_unitEscape {code : Nat} (hcode : code < 0x10000)
    (hlow : isLowSurrogate code = false) (offset : Nat) (rest : List Char) :
    secondUnit? offset (unitEscape code ++ rest) = .ok none := by
  have hvalue : Hexadecimal.value? (Hexadecimal.digits 4 code) = some code :=
    Hexadecimal.value?_digits hcode
  obtain ⟨a, b, c, d, hdigits⟩ := digits_four code
  rw [unitEscape]
  rw [hdigits] at hvalue ⊢
  cases rest with
  | nil => rfl
  | cons next rest =>
    simp only [List.cons_append, List.nil_append, secondUnit?, hvalue, hlow, Bool.false_eq_true,
      if_false]

/-- What is written of a code point ends no pair, unless it is a low surrogate. -/
theorem secondUnit?_writtenPoint {code : CodePoint} (h : code.isLow = false) (offset : Nat)
    (rest : List Char) : secondUnit? offset (writtenPoint code ++ rest) = .ok none := by
  cases code with
  | char c =>
    rw [writtenPoint]
    have hc := toNat_bounds c
    rcases writtenChar_cases c with ⟨letter, hletter, hu, -, -, hwritten⟩ |
      ⟨hquote, hbackslash, -, -, hwritten⟩ | ⟨hunit, hwritten⟩ | ⟨hpair, hwritten⟩
    · rw [hwritten]
      unfold secondUnit?
      split
      · rename_i heq
        exact absurd (List.cons.inj (List.cons.inj heq).2).1 hu
      · rfl
    · rw [hwritten]
      unfold secondUnit?
      split
      · rename_i heq
        exact absurd (List.cons.inj heq).1 hbackslash
      · rfl
    · rw [hwritten]
      refine secondUnit?_unitEscape hunit ?_ offset rest
      simp only [isLowSurrogate, Bool.and_eq_false_iff, decide_eq_false_iff_not]
      omega
    · rw [hwritten, List.append_assoc]
      refine secondUnit?_unitEscape (by omega) ?_ offset _
      simp only [isLowSurrogate, Bool.and_eq_false_iff, decide_eq_false_iff_not]
      omega
  | surrogate rank =>
    have hrank : ¬ 0x400 ≤ rank.val := of_decide_eq_false h
    have hfirst : firstSurrogate = 0xd800 := rfl
    refine secondUnit?_unitEscape (by omega) ?_ offset rest
    simp only [isLowSurrogate, Bool.and_eq_false_iff, decide_eq_false_iff_not]
    omega

/-- Written code points read back up to the closing quote, if no surrogates among them stand side by
side as a pair. -/
theorem quotedPoints_written {codes : List CodePoint} (h : isUnpaired codes = true)
    (rest : List Char) :
    quotedPoints 0 ((codes.flatMap writtenPoint ++ '"' :: rest).map .char) = codes := by
  induction codes with
  | nil => rfl
  | cons code codes ih =>
    obtain ⟨next, more, hnext⟩ :
        ∃ next more, codes.flatMap writtenPoint ++ '"' :: rest = next :: more :=
      List.exists_cons_of_ne_nil (by simp)
    have hcodes : isUnpaired codes = true := by
      cases codes with
      | nil => rfl
      | cons second codes =>
        rw [isUnpaired, Bool.and_eq_true] at h
        exact h.2
    have hread := ih hcodes
    rw [List.flatMap_cons, List.append_assoc]
    rw [hnext] at hread ⊢
    cases code with
    | char c => rw [writtenPoint, quotedPoints_writtenChar, hread]
    | surrogate rank =>
      rw [quotedPoints_writtenSurrogate, hread]
      intro hhigh offset
      rw [← hnext]
      cases codes with
      | nil => rfl
      | cons second codes =>
        have hlow : second.isLow = false := by
          rw [isUnpaired, hhigh] at h
          simpa using (Bool.and_eq_true_iff.mp h).1
        rw [List.flatMap_cons, List.append_assoc]
        exact secondUnit?_writtenPoint hlow offset _

/-- Marked texts in which no surrogates stand side by side as a pair are told apart. -/
theorem quoting_writtenMarked :
    Quoting writtenMarked fun s => isMarked s && isPairFree s := by
  refine ⟨fun _ => ⟨_, rfl⟩, fun {s t rest rest'} hs ht h => ?_⟩
  rw [Bool.and_eq_true, isMarked, beq_iff_eq] at hs ht
  have hsame : s = t := by
    simp only [writtenMarked, List.cons_append, List.append_assoc, List.nil_append] at h
    have hcodes := congrArg (fun cs => quotedPoints 0 (cs.map .char)) (List.cons.inj h).2
    simp only [quotedPoints_written hs.2, quotedPoints_written ht.2] at hcodes
    rw [← hs.1, ← ht.1, hcodes]
  subst hsame
  exact ⟨rfl, List.append_cancel_left h⟩

/-! ## What is shown -/

/-- What a second escape names does not depend on where it stands. -/
theorem secondUnit?_ok_anywhere {offset : Nat} {rest : List Char} {result : Option Nat}
    (h : secondUnit? offset rest = .ok result) (place : Nat) :
    secondUnit? place rest = .ok result := by
  revert h
  unfold secondUnit?
  split
  · rename_i a b c d next more
    cases Hexadecimal.value? [a, b, c, d] with
    | none => exact fun h => nomatch h
    | some code => exact id
  · exact id

/-- A code escape is read alike wherever it stands, and one of four digits stands for their code. -/
theorem codeEscape_ok_anywhere {offset : Nat} {rest : List Char} {c : Char} {length : Nat}
    (h : codeEscape offset rest = .ok (c, length)) (place : Nat) :
    codeEscape place rest = .ok (c, length) := by
  revert h
  unfold codeEscape
  split
  · rename_i x y z w next more
    cases Hexadecimal.value? [x, y, z, w] with
    | none => exact fun h => nomatch h
    | some code =>
      dsimp only
      split
      · intro h
        cases hsecond : secondUnit? (offset + 5) (next :: more) with
        | error fault =>
          rw [hsecond] at h
          cases h
        | ok second =>
          rw [hsecond] at h
          rw [secondUnit?_ok_anywhere hsecond]
          exact h
      · exact id
  · exact fun h => nomatch h

theorem escape_ok_anywhere {start offset : Nat} {rest : List Char} {result : Char × Nat}
    (h : escape start offset rest = .ok result) : escape 0 0 rest = .ok result := by
  revert h
  unfold escape
  split
  · exact fun h => nomatch h
  · rename_i rest
    intro h
    cases hcode : codeEscape (offset + 1) rest with
    | error fault =>
      rw [hcode] at h
      cases h
    | ok read =>
      rw [hcode] at h
      rw [codeEscape_ok_anywhere hcode]
      exact h
  · rename_i letter more hne
    cases escapedLetter? letter with
    | none => exact fun h => nomatch h
    | some c => exact id

/-- An escape of four digits is read as their code alone. -/
theorem eq_charOfUnit_of_escape {a b c d : Char} {rest : List Char} {read : Char}
    (h : escape 0 0 ('u' :: a :: b :: c :: d :: rest) = .ok (read, 5)) :
    ∃ code, Hexadecimal.value? [a, b, c, d] = some code ∧ read = charOfUnit code := by
  cases rest with
  | nil => cases h
  | cons next more =>
    simp only [escape, codeEscape] at h
    cases hvalue : Hexadecimal.value? [a, b, c, d] with
    | none =>
      rw [hvalue] at h
      cases h
    | some code =>
      simp only [hvalue] at h
      refine ⟨code, rfl, ?_⟩
      split at h
      · cases hsecond : secondUnit? (0 + 1 + 5) (next :: more) with
        | error fault =>
          rw [hsecond] at h
          cases h
        | ok second =>
          rw [hsecond] at h
          cases second with
          | none => exact (Prod.mk.inj (Except.ok.inj h)).1.symm
          | some low => exact absurd (Prod.mk.inj (Except.ok.inj h)).2 (by simp)
      · exact (Prod.mk.inj (Except.ok.inj h)).1.symm

/-- The code point of a code of 16 bits is shown as the character of the code. -/
theorem shown_ofNat (code : Nat) : (CodePoint.ofNat code).shown = charOfUnit code := by
  rw [CodePoint.ofNat, charOfUnit]
  have hfirst : CodePoint.firstSurrogate = 0xd800 := rfl
  by_cases h : 0xd800 ≤ code ∧ code ≤ 0xdfff
  · rw [dif_pos (by omega), if_pos h]
    rfl
  · rw [dif_neg (by omega), if_neg h]
    rfl

/-- The code point of an escape is shown as the character that the escape is read as. -/
theorem shown_escapedPoint {rest : List Char} {c : Char} {length : Nat}
    (h : escape 0 0 rest = .ok (c, length)) :
    (escapedPoint rest).1.shown = c ∧ (escapedPoint rest).2 = length := by
  unfold escapedPoint
  rw [h]
  split
  · rename_i hescape
    obtain ⟨rfl, rfl⟩ := Prod.mk.inj (Except.ok.inj hescape)
    obtain ⟨code, hvalue, rfl⟩ := eq_charOfUnit_of_escape h
    rw [hvalue]
    exact ⟨shown_ofNat code, rfl⟩
  · rename_i hescape
    obtain ⟨rfl, rfl⟩ := Prod.mk.inj (Except.ok.inj hescape)
    exact ⟨rfl, rfl⟩
  · rename_i hescape
    cases hescape

/-- A code point other than a surrogate is shown as itself. -/
theorem eq_char_iff_shown {code : CodePoint} {c : Char} (hc : c ≠ '\ufffd') :
    code.shown = c ↔ code = .char c := by
  cases code with
  | char d => exact (CodePoint.char.injEq d c).to_iff.symm
  | surrogate rank => exact iff_of_false (Ne.symm hc) nofun

/-- The code points of a quoted text are shown as its characters. -/
theorem shown_quotedPoints {start offset skip : Nat} {codes : List CodePoint} {cs : List Char}
    {stop : Nat} (h : textBody start offset skip (codes.map CodePoint.shown) = .ok (cs, stop)) :
    (quotedPoints skip codes).map CodePoint.shown = cs := by
  induction codes generalizing offset skip cs stop with
  | nil => cases skip <;> cases h
  | cons code codes ih =>
    cases skip with
    | succ skip => exact ih h
    | zero =>
      rw [List.map_cons, textBody] at h
      rw [quotedPoints]
      have hquote : code.shown = '"' ↔ code = .char '"' := eq_char_iff_shown (by decide)
      have hbackslash : code.shown = '\\' ↔ code = .char '\\' := eq_char_iff_shown (by decide)
      by_cases hends : code = .char '"'
      · rw [if_pos (hquote.mpr hends)] at h
        rw [if_pos hends, ← (Prod.mk.inj (Except.ok.inj h)).1]
        rfl
      rw [if_neg (mt hquote.mp hends)] at h
      rw [if_neg hends]
      by_cases hescapes : code = .char '\\'
      · rw [if_pos (hbackslash.mpr hescapes)] at h
        rw [if_pos hescapes]
        obtain ⟨⟨c, length⟩, hescape, hrest⟩ := bind_eq_ok_iff.mp h
        obtain ⟨⟨body, last⟩, hbody, hall⟩ := bind_eq_ok_iff.mp hrest
        obtain ⟨hshown, hlength⟩ := shown_escapedPoint (escape_ok_anywhere hescape)
        rw [← (Prod.mk.inj (Except.ok.inj hall)).1]
        dsimp only
        rw [List.map_cons, hshown, hlength, ih hbody]
      rw [if_neg (mt hbackslash.mp hescapes)] at h
      rw [if_neg hescapes]
      split at h
      · cases h
      · obtain ⟨⟨body, last⟩, hbody, hall⟩ := bind_eq_ok_iff.mp h
        rw [← (Prod.mk.inj (Except.ok.inj hall)).1, List.map_cons, ih hbody]

/-- Whether an entry is the token that starts where it stands in a text at an offset. -/
def StartsIn (offset : Nat) (text : List Char) (entry : Nat × Token) : Prop :=
  ∃ before c rest, text = before ++ c :: rest ∧ entry.1 = offset + before.length ∧
    entry.2 = (tokenAt entry.1 c rest).1

/-- It does so with a character in front of the text. -/
theorem StartsIn.cons {offset : Nat} {text : List Char} {entry : Nat × Token}
    (h : StartsIn (offset + 1) text entry) (c : Char) : StartsIn offset (c :: text) entry := by
  obtain ⟨before, d, rest, rfl, hplace, htoken⟩ := h
  exact ⟨c :: before, d, rest, rfl, by rw [hplace, List.length_cons]; omega, htoken⟩

/-- Every token but the end of a text is the one that starts where it stands. -/
theorem startsIn_of_mem_tokensFrom {offset skip : Nat} {text : List Char} {entry : Nat × Token}
    (h : entry ∈ tokensFrom offset skip text) :
    entry.2 = .endOfText ∨ StartsIn offset text entry := by
  fun_induction tokensFrom offset skip text with
  | case1 => exact Or.inl (by rw [List.mem_singleton.mp h])
  | case2 offset skip c rest ih => exact (ih h).imp_right (·.cons c)
  | case3 offset c rest hspace ih => exact (ih h).imp_right (·.cons c)
  | case4 offset c rest hspace token length htoken ih =>
    rcases List.mem_cons.mp h with rfl | hrest
    · exact Or.inr ⟨[], c, rest, rfl, rfl, by rw [htoken]⟩
    · split at hrest
      · exact absurd hrest List.not_mem_nil
      · exact (ih hrest).imp_right (·.cons c)

/-- A token that is a text starts with a quote. -/
theorem textBody_of_tokenAt {offset : Nat} {c : Char} {rest : List Char} {s : String}
    (h : (tokenAt offset c rest).1 = .text s) :
    ∃ stop, textBody offset (offset + 1) 0 rest = .ok (s.toList, stop) := by
  unfold tokenAt at h
  split at h
  case h_7 =>
    unfold textToken at h
    split at h
    · cases h
    · rename_i cs stop hbody
      exact ⟨stop, by rw [hbody, ← Token.text.inj h, String.toList_ofList]⟩
  case h_8 =>
    have hsound : (scalarToken (c :: rest)).1.Sound (fun _ => False) Textless :=
      sound_scalarToken (c :: rest)
    rw [h] at hsound
    exact hsound.elim
  all_goals cases h

/-- The code points of a token that is a text are shown as its characters. -/
theorem shown_of_mem_tokens {codes : List CodePoint} {offset : Nat} {s : String}
    (h : (offset, Token.text s) ∈ tokens (codes.map CodePoint.shown)) :
    (quotedPoints 0 (codes.drop (offset + 1))).map CodePoint.shown = s.toList := by
  obtain hend | ⟨before, c, rest, htext, hplace, htoken⟩ := startsIn_of_mem_tokensFrom h
  · cases hend
  obtain ⟨stop, hbody⟩ := textBody_of_tokenAt htoken.symm
  have hrest : (codes.drop (offset + 1)).map CodePoint.shown = rest := by
    have hlength : offset + 1 = (before ++ [c]).length := by
      rw [show offset = 0 + before.length from hplace, List.length_append, List.length_singleton,
        Nat.zero_add]
    rw [List.map_drop, htext, List.append_cons, hlength, List.drop_left]
  rw [← hrest] at hbody
  exact shown_quotedPoints hbody

/-- Without the mark what stands for code points is what they are shown as. -/
theorem markedText_of_notMem {codes : List CodePoint} (h : mark ∉ (markedText codes).toList) :
    markedText codes = String.ofList (codes.map CodePoint.shown) := by
  have hcodes := CodePoint.unmarked_of_notMem h
  rw [CodePoint.unmarked_markedText] at hcodes
  rw [hcodes, map_shown_map_char, ← hcodes, String.ofList_toList]

/-- A text of code points whose quoted texts hold neither surrogates nor the mark is read as the
text that it is shown as. -/
theorem readPoints_eq_read {codes : List CodePoint}
    (h : ∀ entry ∈ pointTokens codes, ∀ s, entry.2 = .text s → mark ∉ s.toList) :
    readPoints codes = read (codes.map CodePoint.shown) := by
  have htokens : pointTokens codes = tokens (codes.map CodePoint.shown) := by
    refine (List.map_congr_left fun entry hentry => ?_).trans (List.map_id _)
    obtain ⟨offset, token⟩ := entry
    have hpoint := h _ (List.mem_map_of_mem hentry)
    cases token with
    | text s =>
      have hmarked := markedText_of_notMem (hpoint _ rfl)
      rw [shown_of_mem_tokens hentry, String.ofList_toList] at hmarked
      exact congrArg (fun s => (offset, Token.text s)) hmarked
    | _ => rfl
  have hfirst : codes.head? = some (.char '\ufeff') ↔
      (codes.map CodePoint.shown).head? = some '\ufeff' := by
    cases codes with
    | nil => simp
    | cons code codes =>
      simp only [List.map_cons, List.head?_cons, Option.some.injEq]
      exact (eq_char_iff_shown (by decide)).symm
  simp only [readPoints, read, htokens, hfirst]

/-! ## What is read -/

/-- What the tokens of code points stand for are marked texts, and scalars that are well formed. -/
theorem sound_of_mem_pointTokens {codes : List CodePoint} :
    ∀ entry ∈ pointTokens codes, entry.2.Sound (isMarked · = true) Textless := by
  intro entry hentry
  obtain ⟨⟨offset, token⟩, horiginal, rfl⟩ := List.mem_map.mp hentry
  have hsound := sound_of_mem_tokensFrom _ horiginal
  cases token with
  | text s => exact CodePoint.isMarked_markedText _
  | scalar value => exact hsound
  | _ => trivial

/-- The value of code points is well formed. -/
theorem wellFormed_of_readPoints {codes : List CodePoint} {value : Json}
    (h : readPoints codes = .ok value) : value.WellFormed := by
  unfold readPoints at h
  split at h
  · cases h
  · refine holds_of_readTokens kept_wellFormed (fun entry hentry => ?_) h
    exact (sound_of_mem_pointTokens entry hentry).imp (fun _ _ => trivial) fun _ h => h.wellFormed

/-- The texts of a value of code points are marked. -/
theorem isMarked_of_readPoints {codes : List CodePoint} {value : Json}
    (h : readPoints codes = .ok value) : value.AllTexts isMarked := by
  unfold readPoints at h
  split at h
  · cases h
  · refine holds_of_readTokens (kept_allTexts isMarked) (fun entry hentry => ?_) h
    exact (sound_of_mem_pointTokens entry hentry).imp (fun _ h => h) fun _ h => h.allTexts isMarked

/-! ## Texts without the mark -/

/-- A text without the mark is written as one of characters. -/
theorem writtenMarked_of_notMem {s : String} (h : mark ∉ s.toList) :
    writtenMarked s = writtenText s := by
  rw [writtenMarked, writtenText, CodePoint.unmarked_of_notMem h, List.flatMap_map]
  rfl

end OperandCleanup.Json
