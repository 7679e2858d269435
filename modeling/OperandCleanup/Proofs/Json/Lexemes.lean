import OperandCleanup.Proofs.Json.Characters

/-!
# Where lines of written text end

A JSON text is cut into its tokens as they are written: a text with its quotes, a bracket or a
separator, and what is left between blanks. This takes no notice of what a token means, so it cuts
any text. The text of a value has its line ends between tokens. That is so for any value: a number,
a name or a bracket has no quotes, so from any place between tokens to the next the cutting does not
get into a text, and a text is written without quotes or line ends within.
-/

namespace OperandCleanup.Json

/-- Where the cutting of a text stands. The characters of the token that is begun come in
reverse. -/
inductive Cutting where
  /-- Outside texts; a token that is no text may be begun. -/
  | outside (begun : List Char)
  /-- Within a text. -/
  | inText (begun : List Char)
  /-- Behind a backslash within a text. -/
  | escaped (begun : List Char)

/-- Whether a character is a token by itself. -/
def isMark (c : Char) : Bool := ['\x7b', '\x7d', '[', ']', ',', ':'].contains c

/-- The token that ends where no more of it comes, if one is begun. -/
def endedToken (begun : List Char) : List (List Char) :=
  if begun.isEmpty then [] else [begun.reverse]

/-- The tokens of a text from a place on. -/
def lexemesFrom : Cutting → List Char → List (List Char)
  | .outside begun, [] => endedToken begun
  | .inText begun, [] => endedToken begun
  | .escaped begun, [] => endedToken begun
  | .outside begun, c :: rest =>
    if isSpace c then endedToken begun ++ lexemesFrom (.outside []) rest
    else if c = '"' then endedToken begun ++ lexemesFrom (.inText [c]) rest
    else if isMark c then endedToken begun ++ [c] :: lexemesFrom (.outside []) rest
    else lexemesFrom (.outside (c :: begun)) rest
  | .inText begun, c :: rest =>
    if c = '"' then endedToken (c :: begun) ++ lexemesFrom (.outside []) rest
    else if c = '\\' then lexemesFrom (.escaped (c :: begun)) rest
    else lexemesFrom (.inText (c :: begun)) rest
  | .escaped begun, c :: rest => lexemesFrom (.inText (c :: begun)) rest

/-- The tokens of a text as they are written. -/
def lexemes (cs : List Char) : List (List Char) := lexemesFrom (.outside []) cs

example : lexemes "[1,\n \"a\\\" \n\"]".toList =
    ["[".toList, "1".toList, ",".toList, "\"a\\\" \n\"".toList, "]".toList] := by decide

/-! ## What tokens hold -/

/-- The characters of the token that is begun, in reverse. -/
def Cutting.begun : Cutting → List Char
  | .outside begun | .inText begun | .escaped begun => begun

@[simp] theorem flatten_endedToken (begun : List Char) :
    (endedToken begun).flatten = begun.reverse := by
  cases begun <;> simp [endedToken]

theorem filter_lexemesFrom (cs : List Char) (cutting : Cutting) :
    ((lexemesFrom cutting cs).flatten.filter fun c => !isSpace c) =
      (cutting.begun.reverse ++ cs).filter fun c => !isSpace c := by
  induction cs generalizing cutting with
  | nil => cases cutting <;> simp [lexemesFrom, Cutting.begun]
  | cons c rest ih =>
    cases cutting with
    | outside begun =>
      rw [lexemesFrom]
      split
      case isTrue hspace => simp [ih, Cutting.begun, hspace]
      case isFalse =>
        split
        case isTrue => simp [ih, Cutting.begun]
        case isFalse => split <;> simp [ih, Cutting.begun, List.filter_cons]
    | inText begun =>
      rw [lexemesFrom]
      split
      case isTrue => simp [ih, Cutting.begun, List.filter_cons]
      case isFalse => split <;> simp [ih, Cutting.begun]
    | escaped begun => simp [lexemesFrom, ih, Cutting.begun]

/-- The tokens of a text hold all of it but blanks. -/
theorem filter_lexemes (cs : List Char) :
    ((lexemes cs).flatten.filter fun c => !isSpace c) = cs.filter fun c => !isSpace c :=
  filter_lexemesFrom cs (.outside [])

/-! ## Texts without line ends in tokens -/

/-- Whether no token has a line end in it. -/
def LineFree (tokens : List (List Char)) : Prop := ∀ token ∈ tokens, '\n' ∉ token

/-- Whether no token of a text has a line end in it, whatever token without one is begun. -/
def EndsLinesOutside (cs : List Char) : Prop :=
  ∀ begun, '\n' ∉ begun → LineFree (lexemesFrom (.outside begun) cs)

/-- Whether a text may stand before any that ends its lines between tokens. -/
def Separable (cs : List Char) : Prop :=
  ∀ rest, EndsLinesOutside rest → EndsLinesOutside (cs ++ rest)

theorem LineFree.append {tokens others : List (List Char)} (h : LineFree tokens)
    (hothers : LineFree others) : LineFree (tokens ++ others) :=
  List.forall_mem_append.mpr ⟨h, hothers⟩

theorem lineFree_endedToken {begun : List Char} (h : '\n' ∉ begun) :
    LineFree (endedToken begun) := by
  intro token htoken
  rw [endedToken] at htoken
  split at htoken
  · cases htoken
  · obtain rfl := List.mem_singleton.mp htoken
    rwa [List.mem_reverse]

theorem separable_nil : Separable [] := fun _ h => h

theorem Separable.append {cs more : List Char} (h : Separable cs) (hmore : Separable more) :
    Separable (cs ++ more) := by
  intro rest hrest
  rw [List.append_assoc]
  exact h _ (hmore rest hrest)

/-- Outside texts only a quote leads into one. -/
theorem separable_singleton {c : Char} (h : c ≠ '"') : Separable [c] := by
  intro rest hrest begun hbegun
  have hended := lineFree_endedToken hbegun
  have hfresh := hrest [] List.not_mem_nil
  rw [List.singleton_append, lexemesFrom]
  split
  case isTrue => exact hended.append hfresh
  case isFalse hspace =>
    have hc : '\n' ≠ c := by
      rintro rfl
      exact hspace rfl
    split
    case isTrue =>
      have hmark : LineFree [[c]] := by simpa [LineFree] using hc
      exact hended.append (hmark.append hfresh)
    case isFalse => exact hrest _ (List.not_mem_cons_of_ne_of_not_mem hc hbegun)

theorem separable_of_forall {cs : List Char} (h : ∀ c ∈ cs, c ≠ '"') : Separable cs := by
  induction cs with
  | nil => exact separable_nil
  | cons c rest ih =>
    obtain ⟨hc, hrest⟩ := List.forall_mem_cons.mp h
    exact (separable_singleton hc).append (ih hrest)

/-- Whether there is a quote in a list is found by going through it. -/
theorem ne_quote_of_all {cs : List Char} (h : (cs.all fun c => c != '"') = true) :
    ∀ c ∈ cs, c ≠ '"' :=
  fun c hc => bne_iff_ne.mp (List.all_eq_true.mp h c hc)

theorem separable_of_all {cs : List Char} (h : (cs.all fun c => c != '"') = true) :
    Separable cs :=
  separable_of_forall (ne_quote_of_all h)

/-! ## Texts -/

/-- Within a text, characters other than quotes, backslashes and line ends stay in it. -/
theorem lexemesFrom_inText {cs : List Char} (h : ∀ c ∈ cs, c ≠ '"' ∧ c ≠ '\\') (begun rest) :
    lexemesFrom (.inText begun) (cs ++ rest) =
      lexemesFrom (.inText (cs.reverse ++ begun)) rest := by
  induction cs generalizing begun with
  | nil => rfl
  | cons c cs ih =>
    obtain ⟨⟨hquote, hbackslash⟩, hcs⟩ := List.forall_mem_cons.mp h
    rw [List.cons_append, lexemesFrom, if_neg hquote, if_neg hbackslash, ih hcs,
      List.reverse_cons, List.append_assoc, List.singleton_append]

/-- The digits of a code are neither quotes nor backslashes. -/
theorem forall_mem_hexadecimal (width code : Nat) :
    ∀ c ∈ Hexadecimal.digits width code, c ≠ '"' ∧ c ≠ '\\' := by
  induction width generalizing code with
  | zero => simp [Hexadecimal.digits]
  | succ width ih =>
    have hdigit : ∀ d < 16, Nat.digitChar d ≠ '"' ∧ Nat.digitChar d ≠ '\\' := by decide
    rw [Hexadecimal.digits, List.forall_mem_append, List.forall_mem_singleton]
    exact ⟨ih _, hdigit _ (Nat.mod_lt code (by decide))⟩

theorem lexemesFrom_unitEscape (code : Nat) (begun rest : List Char) :
    lexemesFrom (.inText begun) (unitEscape code ++ rest) =
      lexemesFrom (.inText ((unitEscape code).reverse ++ begun)) rest := by
  change lexemesFrom (.inText ('u' :: '\\' :: begun)) (Hexadecimal.digits 4 code ++ rest) = _
  rw [lexemesFrom_inText (forall_mem_hexadecimal 4 code), unitEscape]
  simp

/-- A written character does not end the text that it is in. -/
theorem lexemesFrom_writtenChar (c : Char) (begun rest : List Char) :
    lexemesFrom (.inText begun) (writtenChar c ++ rest) =
      lexemesFrom (.inText ((writtenChar c).reverse ++ begun)) rest := by
  rcases writtenChar_cases c with ⟨letter, -, -, -, -, hwritten⟩ |
    ⟨hquote, hbackslash, -, -, hwritten⟩ | ⟨-, hwritten⟩ | ⟨-, hwritten⟩
  · rw [hwritten]
    rfl
  · rw [hwritten]
    exact lexemesFrom_inText (List.forall_mem_singleton.mpr ⟨hquote, hbackslash⟩) begun rest
  · rw [hwritten, lexemesFrom_unitEscape]
  · rw [hwritten, List.append_assoc, lexemesFrom_unitEscape, lexemesFrom_unitEscape,
      List.reverse_append, List.append_assoc]

/-- The characters of a text are in one token, with what stands before them in it. -/
theorem lexemesFrom_characters (cs begun rest : List Char) :
    lexemesFrom (.inText begun) (cs.flatMap writtenChar ++ rest) =
      lexemesFrom (.inText ((cs.flatMap writtenChar).reverse ++ begun)) rest := by
  induction cs generalizing begun with
  | nil => rfl
  | cons c cs ih =>
    rw [List.flatMap_cons, List.append_assoc, lexemesFrom_writtenChar, ih, List.reverse_append,
      List.append_assoc]

/-- A written text is a token without a line end. -/
theorem separable_writtenText (s : String) : Separable (writtenText s) := by
  intro rest hrest begun hbegun
  have hplain : '\n' ∉ writtenText s := fun hmem =>
    absurd (isPlain_of_mem_writtenText _ hmem) (by decide)
  have htoken : lexemesFrom (.outside begun) (writtenText s ++ rest) =
      endedToken begun ++ (writtenText s :: lexemesFrom (.outside []) rest) := by
    have hopen : writtenText s ++ rest =
        '"' :: (s.toList.flatMap writtenChar ++ '"' :: rest) := by
      simp [writtenText]
    rw [hopen, lexemesFrom, if_neg (by decide), if_pos rfl, lexemesFrom_characters, lexemesFrom,
      if_pos rfl]
    simp [endedToken, writtenText]
  rw [htoken]
  exact (lineFree_endedToken hbegun).append
    (List.forall_mem_cons.mpr ⟨hplain, hrest [] List.not_mem_nil⟩)

/-! ## Values -/

theorem separable_newline (depth : Nat) : Separable (newline depth) := by
  refine separable_of_forall fun c hc => ?_
  rcases List.mem_cons.mp hc with rfl | hspaces
  · decide
  · rw [List.eq_of_mem_replicate hspaces]
    decide

theorem separable_writtenItems {depth : Nat} {items : List Json}
    (h : ∀ item ∈ items, Separable (writtenAt depth item)) :
    Separable (writtenItems depth items) := by
  induction items with
  | nil => exact separable_nil
  | cons item rest ih =>
    obtain ⟨hitem, hrest⟩ := List.forall_mem_cons.mp h
    have hcomma : Separable [','] := separable_singleton (by decide)
    exact hcomma.append (((separable_newline depth).append hitem).append (ih hrest))

theorem separable_writtenMembers {depth : Nat} {members : Members}
    (h : ∀ member ∈ members, Separable (writtenAt depth member.2)) :
    Separable (writtenMembers depth members) := by
  induction members with
  | nil => exact separable_nil
  | cons member rest ih =>
    obtain ⟨hvalue, hrest⟩ := List.forall_mem_cons.mp h
    have hcomma : Separable [','] := separable_singleton (by decide)
    have hcolon : Separable [':', ' '] := separable_of_all rfl
    have hname := (separable_newline depth).append (separable_writtenText member.1)
    exact hcomma.append (((hname.append hcolon).append hvalue).append (ih hrest))

/-- The text of a value has its line ends between tokens. -/
theorem separable_writtenAt (value : Json) (depth : Nat) : Separable (writtenAt depth value) := by
  have hdigit (c : Char) (hc : c.isDigit = true) : c ≠ '"' := ne_of_isDigit hc rfl
  induction value using induction_parts generalizing depth with
  | null => exact separable_of_all rfl
  | bool value => cases value <;> exact separable_of_all rfl
  | int value => exact separable_of_forall (forall_mem_writtenInt hdigit (by decide))
  | float value =>
    exact separable_of_forall
      (forall_mem_render hdigit (ne_quote_of_all rfl) (ne_quote_of_all rfl) value)
  | string value => exact separable_writtenText value
  | array items ih =>
    cases items with
    | nil => exact separable_of_all rfl
    | cons item rest =>
      obtain ⟨hitem, hrest⟩ := List.forall_mem_cons.mp fun other hother =>
        ih other hother (depth + 1)
      have hopen : Separable ['['] := separable_singleton (by decide)
      have hclose : Separable [']'] := separable_singleton (by decide)
      have hitems := ((separable_newline (depth + 1)).append hitem).append
        (separable_writtenItems hrest)
      exact hopen.append ((hitems.append (separable_newline depth)).append hclose)
  | object members ih =>
    cases members with
    | nil => exact separable_of_all rfl
    | cons member rest =>
      obtain ⟨hvalue, hrest⟩ := List.forall_mem_cons.mp fun other hother =>
        ih other hother (depth + 1)
      have hopen : Separable ['\x7b'] := separable_singleton (by decide)
      have hcolon : Separable [':', ' '] := separable_of_all rfl
      have hclose : Separable ['\x7d'] := separable_singleton (by decide)
      have hname := (separable_newline (depth + 1)).append (separable_writtenText member.1)
      have hmembers := ((hname.append hcolon).append hvalue).append
        (separable_writtenMembers hrest)
      exact hopen.append ((hmembers.append (separable_newline depth)).append hclose)

/-- No token of the text of a value has a line end in it. -/
theorem lineFree_lexemes_written (value : Json) : LineFree (lexemes (written value)) := by
  have hnone : EndsLinesOutside [] := fun begun hbegun => lineFree_endedToken hbegun
  have hvalue := separable_writtenAt value 0 [] hnone [] List.not_mem_nil
  rwa [List.append_nil] at hvalue

end OperandCleanup.Json
