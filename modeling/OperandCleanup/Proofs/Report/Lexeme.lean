import Mathlib.Data.List.Infix
import Mathlib.Data.List.TakeWhile
import OperandCleanup.Proofs.Loading
import OperandCleanup.Report.Handler

/-!
# Reading of values

A lexeme is read off the beginning of what is left, and at least one character of it is used up. So
reading ends when the characters do, whatever more fuel there is, and the fuel is no part of what it
finds. The brackets that are reported as open are those that the lexemes leave open: every closing
bracket among them matches the last one that is open there.
-/

namespace OperandCleanup.Report.Lexeme

/-! ## What is left -/

/-- What follows digits is an ending of the characters. -/
theorem suffix_afterDigits {cs rest : List Char} (h : afterDigits cs = .ok rest) : rest <:+ cs := by
  fun_induction afterDigits cs with
  | case1 | case6 => exact Except.ok.inj h ▸ List.suffix_rfl
  | case2 | case4 => exact absurd h (by simp)
  | case3 c more hdigit ih =>
    exact ((ih h).trans (List.suffix_cons c more)).trans (List.suffix_cons '_' _)
  | case5 c more _ _ hdigit ih => exact (ih h).trans (List.suffix_cons c more)

/-- So is what follows the digits of a base. -/
theorem suffix_afterBased {kind : String} {isDigit : Char → Bool} {cs rest : List Char}
    (h : afterBased kind isDigit cs = .ok rest) : rest <:+ cs := by
  fun_induction afterBased kind isDigit cs with
  | case1 | case5 | case7 | case8 => exact absurd h (by simp [afterBased.wrongDigit])
  | case2 | case6 => exact Except.ok.inj h ▸ List.suffix_cons ..
  | case3 d hdigit others ih =>
    exact ((ih h).trans (List.suffix_cons '_' others)).trans (List.suffix_cons d _)
  | case4 d hdigit next others _ _ ih => exact (ih h).trans (List.suffix_cons d _)

/-- The end of a number is where its characters end. -/
theorem endNumber_eq_ok {kind : String} {cs rest : List Char} (h : endNumber kind cs = .ok rest) :
    rest = cs := by
  rw [endNumber] at h
  split at h
  · exact absurd h (by simp)
  · exact (Except.ok.inj h).symm

/-- What follows a number with a base is an ending of the characters. -/
theorem suffix_basedNumber {kind : String} {isDigit : Char → Bool} {cs rest : List Char}
    (h : basedNumber kind isDigit cs = .ok rest) : rest <:+ cs := by
  obtain ⟨after, hafter, hend⟩ := bind_eq_ok_iff.mp h
  obtain rfl := endNumber_eq_ok hend
  have hdigits := suffix_afterBased hafter
  split at hdigits
  · exact hdigits.trans (List.suffix_cons ..)
  · exact hdigits

/-- A digit is read with those after it. -/
theorem afterDigits_cons {c : Char} (h : c.isDigit = true) (rest : List Char) :
    afterDigits (c :: rest) = afterDigits rest := by
  have hunderscore : c ≠ '_' := by
    rintro rfl
    exact absurd h (by decide)
  rw [afterDigits.eq_4, if_pos h]
  · exact fun hc => absurd hc hunderscore
  · exact fun _ _ hc => absurd hc hunderscore

/-- What follows a fraction is an ending of the characters. -/
theorem suffix_afterFraction {cs rest : List Char} (h : afterFraction cs = .ok rest) :
    rest <:+ cs := by
  rw [afterFraction.eq_def] at h
  split at h
  · split at h
    · exact (suffix_afterDigits h).trans (List.suffix_cons ..)
    · exact Except.ok.inj h ▸ List.suffix_cons ..
  · exact Except.ok.inj h ▸ List.suffix_rfl

/-- What follows a sign is an ending of the characters. -/
theorem suffix_afterSign (cs : List Char) : afterSign cs <:+ cs := by
  unfold afterSign
  split
  · exact List.suffix_cons ..
  · exact List.suffix_cons ..
  · exact List.suffix_rfl

/-- What follows an exponent is an ending of the characters. -/
theorem suffix_afterExponent {cs rest : List Char} (h : afterExponent cs = .ok rest) :
    rest <:+ cs := by
  simp only [afterExponent] at h
  split at h
  · split at h
    · exact (suffix_afterDigits h).trans ((suffix_afterSign _).trans (List.drop_suffix 1 cs))
    · split at h
      · exact absurd h (by simp)
      · exact endNumber_eq_ok h ▸ List.suffix_rfl
  · exact Except.ok.inj h ▸ List.suffix_rfl

/-- At a digit, or at a point before one, a decimal number uses up a character. -/
theorem suffix_decimalNumber {c : Char} {cs rest : List Char} {imaginary : Bool}
    (hc : c.isDigit = true ∨ c = '.') (h : decimalNumber (c :: cs) = .ok (imaginary, rest)) :
    rest <:+ cs := by
  obtain ⟨whole, hwhole, h⟩ := bind_eq_ok_iff.mp h
  simp only at h
  split at h
  · exact absurd h (by simp)
  · obtain ⟨fraction, hfraction, h⟩ := bind_eq_ok_iff.mp h
    obtain ⟨after, hafter, h⟩ := bind_eq_ok_iff.mp h
    have hrest : rest <:+ after := by
      split at h
      · obtain ⟨left, hleft, hpair⟩ := map_eq_ok_iff.mp h
        obtain ⟨-, rfl⟩ := Prod.mk.inj hpair
        exact endNumber_eq_ok hleft ▸ List.drop_suffix 1 after
      · obtain ⟨left, hleft, hpair⟩ := map_eq_ok_iff.mp h
        obtain ⟨-, rfl⟩ := Prod.mk.inj hpair
        exact endNumber_eq_ok hleft ▸ List.suffix_rfl
    refine (hrest.trans (suffix_afterExponent hafter)).trans ?_
    rcases hc with hdigit | rfl
    · rw [afterDigits_cons hdigit] at hwhole
      exact (suffix_afterFraction hfraction).trans (suffix_afterDigits hwhole)
    · obtain rfl := Except.ok.inj hwhole
      rw [afterFraction] at hfraction
      split at hfraction
      · exact suffix_afterDigits hfraction
      · exact Except.ok.inj hfraction ▸ List.suffix_rfl

/-- At a digit, or at a point before one, a number uses up a character. -/
theorem suffix_afterNumber {c : Char} {cs rest : List Char} {imaginary : Bool}
    (hc : c.isDigit = true ∨ c = '.') (h : afterNumber (c :: cs) = .ok (imaginary, rest)) :
    rest <:+ cs := by
  have hbased {kind : String} {isDigit : Char → Bool}
      (h : (basedNumber kind isDigit ((c :: cs).drop 2)).map (false, ·) =
        .ok (imaginary, rest)) : rest <:+ cs := by
    obtain ⟨left, hleft, hpair⟩ := map_eq_ok_iff.mp h
    obtain ⟨-, rfl⟩ := Prod.mk.inj hpair
    exact (suffix_basedNumber hleft).trans (List.drop_suffix 1 cs)
  simp only [afterNumber] at h
  split at h
  · exact hbased h
  · exact hbased h
  · exact hbased h
  · exact suffix_decimalNumber hc h

/-- What follows a text is an ending of the characters. -/
theorem suffix_afterText {quote : Char} {cs rest : List Char} (h : afterText quote cs = .ok rest) :
    rest <:+ cs := by
  fun_induction afterText quote cs with
  | case1 | case2 | case5 => exact absurd h (by simp)
  | case3 c more ih =>
    exact ((ih h).trans (List.suffix_cons c more)).trans (List.suffix_cons ..)
  | case4 => exact Except.ok.inj h ▸ List.suffix_cons ..
  | case6 c more _ _ _ _ ih => exact (ih h).trans (List.suffix_cons c more)

/-- So is what follows a text in triple quotes. -/
theorem suffix_afterLongText {quote : Char} {cs rest : List Char}
    (h : afterLongText quote cs = some rest) : rest <:+ cs := by
  fun_induction afterLongText quote cs with
  | case1 => exact absurd h (by simp)
  | case2 c more ih =>
    exact ((ih h).trans (List.suffix_cons c more)).trans (List.suffix_cons ..)
  | case3 c more =>
    exact Option.some.inj h ▸ (List.drop_suffix 2 more).trans (List.suffix_cons c more)
  | case4 c more _ _ ih => exact (ih h).trans (List.suffix_cons c more)

/-- A text in quotes uses up its first quote. -/
theorem suffix_afterQuoted {lines : Nat} {quote : Char} {cs rest : List Char}
    (h : afterQuoted lines (quote :: cs) = .ok rest) : rest <:+ cs := by
  rw [afterQuoted] at h
  split at h
  · split at h
    · rename_i after hafter
      exact Except.ok.inj h ▸ (suffix_afterLongText hafter).trans (List.drop_suffix 2 cs)
    · exact absurd h (by simp)
  · split at h
    · rename_i after hafter
      exact Except.ok.inj h ▸ suffix_afterText hafter
    · exact absurd h (by simp)

/-! ## One lexeme -/

/-- The brackets that open something. -/
def openers : List Char := ['(', '[', '\x7b']

/-- The brackets that close something. -/
def closers : List Char := [')', ']', '\x7d']

/-- The bracket that a lexeme is. -/
def bracket? : Lexeme → Option Char
  | .mark text => (openers ++ closers).find? (·.toString == text)
  | _ => none

/-- What can be read where some brackets are open: nothing, a lexeme that is no bracket, a bracket
that opens something, or one that closes what is open. The characters after it are an ending of
those that follow. -/
inductive Reading.Follows (opened : List OpenBracket) (cs : List Char) : Reading → Prop
  | passed {rest : List Char} (hrest : rest <:+ cs) : Follows opened cs ⟨none, opened, rest⟩
  | plain {lexeme : Lexeme} {rest : List Char} (hplain : lexeme.bracket? = none)
      (hrest : rest <:+ cs) : Follows opened cs ⟨some lexeme, opened, rest⟩
  | opens {c : Char} {line : Nat} (hc : c ∈ openers) (hroom : opened.length < maxOpen) :
      Follows opened cs ⟨some (.mark c.toString), ⟨c, line⟩ :: opened, cs⟩
  | closes {c : Char} {last : OpenBracket} {outer : List OpenBracket} (hc : c ∈ closers)
      (hopened : opened = last :: outer) (hmatch : last.bracket = opening c) :
      Follows opened cs ⟨some (.mark c.toString), outer, cs⟩

/-- A word is no bracket, and uses up its first character. -/
theorem follows_readWord {lines : Nat} {opened : List OpenBracket} {c : Char} {cs : List Char}
    (hc : Text.startsName c = true) {reading : Reading}
    (h : readWord lines opened (c :: cs) = .ok reading) : reading.Follows opened cs := by
  have hin : Text.inName c = true := by simp [Text.inName, hc]
  obtain ⟨word, hword⟩ : ∃ word, (c :: cs).takeWhile Text.inName = c :: word :=
    ⟨_, List.takeWhile_cons_of_pos hin⟩
  have hafter : (c :: cs).drop (c :: word).length <:+ cs := List.drop_suffix word.length cs
  simp only [readWord, hword] at h
  split at h
  · obtain ⟨rest, hrest, h⟩ := bind_eq_ok_iff.mp h
    have hsuffix : rest <:+ (c :: cs).drop (c :: word).length := by
      revert hrest
      cases (c :: cs).drop (c :: word).length with
      | nil => exact fun hrest => Except.ok.inj hrest ▸ List.suffix_rfl
      | cons quote more => exact fun hrest => (suffix_afterQuoted hrest).trans (List.suffix_cons ..)
    split at h
    · exact absurd h (by simp)
    · exact Except.ok.inj h ▸ .plain rfl (hsuffix.trans hafter)
  · split at h
    · exact absurd h (by simp)
    · refine Except.ok.inj h ▸ .plain ?_ hafter
      split <;> rfl

/-- A mark that is read as such is no bracket, and uses up a character. -/
theorem follows_readMark {opened : List OpenBracket} {c : Char} {cs : List Char}
    (hc : c ∉ openers ++ closers) : (readMark opened (c :: cs)).Follows opened cs := by
  simp only [readMark]
  cases hlong : longMarks.find? fun long => long.toList.isPrefixOf (c :: cs) with
  | none =>
    refine .plain (List.find?_eq_none.mpr fun bracket hbracket hsame => hc ?_) List.suffix_rfl
    obtain rfl : bracket = c := by simpa [Char.toString_eq_singleton] using hsame
    exact hbracket
  | some long =>
    have hmem := List.mem_of_find?_eq_some hlong
    have hmarks : ∀ long ∈ longMarks, (mark long).bracket? = none ∧ 0 < long.toList.length := by
      decide
    obtain ⟨hplain, hlength⟩ := hmarks long hmem
    obtain ⟨count, hcount⟩ := Nat.exists_eq_add_one.mpr hlength
    refine .plain (by simpa using hplain) ?_
    simp only [Option.map_some, Option.getD_some, hcount, List.drop_succ_cons]
    exact List.drop_suffix count cs

/-- A bracket opens where there is room for it. -/
theorem follows_openBracket {line : Nat} {opened : List OpenBracket} {c : Char} {cs : List Char}
    (hc : c ∈ openers) {reading : Reading} (h : openBracket line opened c cs = .ok reading) :
    reading.Follows opened cs := by
  rw [openBracket] at h
  split at h
  · exact Except.ok.inj h ▸ .opens hc ‹_›
  · exact absurd h (by simp)

/-- A bracket closes the last one that is open, if it matches. -/
theorem follows_closeBracket {line : Nat} {opened : List OpenBracket} {c : Char} {cs : List Char}
    (hc : c ∈ closers) {reading : Reading} (h : closeBracket line opened c cs = .ok reading) :
    reading.Follows opened cs := by
  rw [closeBracket.eq_def] at h
  split at h
  · exact absurd h (by simp)
  · split at h
    · exact Except.ok.inj h ▸ .closes hc rfl ‹_›
    · exact absurd h (by simp)

/-- What a character begins is read. -/
theorem follows_readFirst {lines : Nat} {begun : Bool} {opened : List OpenBracket} {c : Char}
    {cs : List Char} {reading : Reading} (h : readFirst lines begun opened c cs = .ok reading) :
    reading.Follows opened cs := by
  simp only [readFirst] at h
  split at h
  · exact Except.ok.inj h ▸ .passed List.suffix_rfl
  split at h
  · obtain rfl := Except.ok.inj h
    split
    · exact .plain (by decide) List.suffix_rfl
    · exact .passed List.suffix_rfl
  split at h
  · exact Except.ok.inj h ▸ .passed (List.dropWhile_suffix _)
  split at h
  · split at h
    · obtain rfl := Except.ok.inj h
      exact .passed (List.suffix_cons ..)
    · exact Except.ok.inj h ▸ .plain rfl (List.nil_suffix)
  split at h
  · exact follows_readWord ‹_› h
  split at h
  · rename_i hnumber
    obtain ⟨⟨imaginary, rest⟩, hrest, rfl⟩ := map_eq_ok_iff.mp h
    refine .plain rfl (suffix_afterNumber ?_ hrest)
    simp only [Bool.or_eq_true, Bool.and_eq_true, beq_iff_eq] at hnumber
    exact hnumber.imp_right And.left
  split at h
  · obtain ⟨rest, hrest, rfl⟩ := map_eq_ok_iff.mp h
    exact .plain rfl (suffix_afterQuoted hrest)
  split at h
  · exact absurd h (by simp)
  split at h
  · rename_i hopener
    exact follows_openBracket (by simpa [openers] using hopener) h
  split at h
  · rename_i hcloser
    exact follows_closeBracket (by simpa [closers] using hcloser) h
  · rename_i hopener hcloser
    refine Except.ok.inj h ▸ follows_readMark ?_
    rw [List.mem_append]
    exact not_or.mpr ⟨by simpa [openers] using hopener, by simpa [closers] using hcloser⟩

/-! ## All lexemes -/

/-- The brackets that are open after a lexeme, if some are open before it. -/
def opensAfter (opened : List Char) (lexeme : Lexeme) : Option (List Char) :=
  match lexeme.bracket? with
  | none => some opened
  | some c =>
    if c ∈ openers then some (c :: opened)
    else if opened.head? = some (opening c) then some opened.tail else none

/-- The mark of a bracket is that bracket. -/
theorem bracket?_mark {c : Char} (h : c ∈ openers ++ closers) :
    (mark c.toString).bracket? = some c := by
  simp only [openers, closers, List.cons_append, List.nil_append, List.mem_cons,
    List.not_mem_nil, or_false] at h
  rcases h with rfl | rfl | rfl | rfl | rfl | rfl <;> rfl

/-- A bracket that closes something opens nothing. -/
theorem notMem_openers {c : Char} (h : c ∈ closers) : c ∉ openers := by
  simp only [closers, List.mem_cons, List.not_mem_nil, or_false] at h
  rcases h with rfl | rfl | rfl <;> decide

namespace Reading.Follows

variable {opened : List OpenBracket} {cs : List Char} {reading : Reading}

/-- What is left is no longer than what follows. -/
theorem length_rest_le (h : reading.Follows opened cs) : reading.rest.length ≤ cs.length := by
  cases h with
  | passed hrest => exact hrest.length_le
  | plain _ hrest => exact hrest.length_le
  | opens => exact Nat.le_refl _
  | closes => exact Nat.le_refl _

/-- There is room for the brackets that are open. -/
theorem length_opened_le (h : reading.Follows opened cs) (hopened : opened.length ≤ maxOpen) :
    reading.opened.length ≤ maxOpen := by
  cases h with
  | passed => exact hopened
  | plain => exact hopened
  | opens _ hroom => exact hroom
  | closes _ hlast =>
    rw [hlast, List.length_cons] at hopened
    exact Nat.le_of_succ_le hopened

/-- The lexeme that is read, if there is one, leaves open what is open then. -/
theorem foldlM_opensAfter (h : reading.Follows opened cs) :
    reading.lexeme?.toList.foldlM opensAfter (opened.map (·.bracket)) =
      some (reading.opened.map (·.bracket)) := by
  cases h with
  | passed => rfl
  | plain hplain => simp [opensAfter, hplain]
  | opens hc =>
    rw [Option.toList_some, List.foldlM_cons, opensAfter,
      bracket?_mark (List.mem_append_left closers hc)]
    simp only [if_pos hc]
    rfl
  | @closes c last outer hc hlast hmatch =>
    rw [Option.toList_some, List.foldlM_cons, opensAfter,
      bracket?_mark (List.mem_append_right openers hc), hlast]
    simp only [if_neg (notMem_openers hc), List.map_cons, List.head?_cons, hmatch]
    rfl

end Reading.Follows

/-- With a unit of fuel for each character, more fuel makes no difference. -/
theorem readFrom_of_length_le (lines : Nat) {fuel other : Nat} {cs : List Char}
    (h : cs.length ≤ fuel) (hother : cs.length ≤ other) (begun : Bool)
    (opened : List OpenBracket) :
    readFrom lines fuel begun opened cs = readFrom lines other begun opened cs := by
  induction fuel generalizing other cs begun opened with
  | zero =>
    obtain rfl := List.eq_nil_of_length_eq_zero (Nat.le_zero.mp h)
    cases other <;> rfl
  | succ fuel ih =>
    cases cs with
    | nil => cases other <;> rfl
    | cons c rest =>
      obtain ⟨other, rfl⟩ := Nat.exists_eq_add_one.mpr (Nat.lt_of_lt_of_le (Nat.succ_pos _) hother)
      rw [readFrom, readFrom]
      cases hfirst : readFirst lines begun opened c rest with
      | error reason => rfl
      | ok reading =>
        have hlength := (follows_readFirst hfirst).length_rest_le
        simp only [List.length_cons] at h hother
        have hfuel : reading.rest.length ≤ fuel := by omega
        have hmore : reading.rest.length ≤ other := by omega
        simp only [bind, Except.bind, ih hfuel hmore]

/-- The brackets that reading leaves open are those that its lexemes leave open, and they are not
too many. -/
theorem readFrom_opened {lines fuel : Nat} {begun : Bool} {opened left : List OpenBracket}
    {cs : List Char} {lexemes : List Lexeme} (hopened : opened.length ≤ maxOpen)
    (h : readFrom lines fuel begun opened cs = .ok (lexemes, left)) :
    lexemes.foldlM opensAfter (opened.map (·.bracket)) = some (left.map (·.bracket)) ∧
      left.length ≤ maxOpen := by
  induction fuel generalizing begun opened cs lexemes with
  | zero =>
    obtain ⟨rfl, rfl⟩ := Prod.mk.inj (Except.ok.inj h)
    exact ⟨rfl, hopened⟩
  | succ fuel ih =>
    cases cs with
    | nil =>
      obtain ⟨rfl, rfl⟩ := Prod.mk.inj (Except.ok.inj h)
      exact ⟨rfl, hopened⟩
    | cons c rest =>
      obtain ⟨reading, hreading, h⟩ := bind_eq_ok_iff.mp h
      obtain ⟨⟨more, left'⟩, hmore, h⟩ := bind_eq_ok_iff.mp h
      obtain ⟨rfl, rfl⟩ := Prod.mk.inj (Except.ok.inj h)
      have hfollows := follows_readFirst hreading
      obtain ⟨hbrackets, hroom⟩ := ih (hfollows.length_opened_le hopened) hmore
      rw [List.foldlM_append, hfollows.foldlM_opensAfter]
      exact ⟨hbrackets, hroom⟩

/-- The lexemes of a text close what they open, but for the brackets that are reported as open. -/
theorem read_opened {cs : List Char} {lexemes : List Lexeme} {opened : List OpenBracket}
    (h : read cs = .ok (lexemes, opened)) :
    lexemes.foldlM opensAfter [] = some (opened.map (·.bracket)) ∧ opened.length ≤ maxOpen := by
  have hnone : ([] : List OpenBracket).length ≤ maxOpen := Nat.zero_le maxOpen
  exact readFrom_opened hnone h

end OperandCleanup.Report.Lexeme

namespace OperandCleanup.Report

/-- The parameters of a handler that are a name alone have no fault: they give no values. -/
theorem handlerFault?_of_name {parameters : List Char}
    (h : ∀ c ∈ (Text.trim (String.ofList parameters)).toList,
      (Text.inWord c || c == '.') = true) : handlerFault? parameters = none := by
  have hvalues : handlerValues parameters = ['(', ')'] := by
    simp only [handlerValues, List.dropWhile_eq_nil_iff.mpr h]
    rfl
  have hnone : valueFault? ['(', ')'] = none := by decide
  rw [handlerFault?, hvalues, hnone]
  exact ite_self none

end OperandCleanup.Report
