import OperandCleanup.Proofs.Markup

/-!
# What the console shows of escaped text

Escaping keeps tags from being read, but it does not keep the text. A backslash in front of a
bracket that opens no tag is not escaped, and taken away when the bracket is shown; a single
backslash at the end is doubled, and both are shown; and a name between two colons may still stand
for a pictograph. Where no name does, this is all that happens. So escaped text is shown as it is
exactly if it has no backslash in front of such a bracket and does not end with a single one.
-/

namespace OperandCleanup.Report.Markup

/-- Text without the backslashes that stand in front of brackets that open no tag. -/
def withoutLooseEscapes : List Char → List Char
  | [] => []
  | '\\' :: '[' :: rest =>
    if (tag? rest).isSome then '\\' :: '[' :: withoutLooseEscapes rest
    else '[' :: withoutLooseEscapes rest
  | c :: rest => c :: withoutLooseEscapes rest

/-- What the console shows of text that has been escaped, unless a name in it stands for a
pictograph. -/
def shownOfEscaped (cs : List Char) : List Char :=
  withoutLooseEscapes cs ++ if endsWithBackslash cs then ['\\'] else []

/-- Whether every backslash in front of a bracket is in front of one that opens a tag. -/
def NoLooseEscape (cs : List Char) : Prop :=
  ∀ before after, cs = before ++ '\\' :: '[' :: after → (tag? after).isSome = true

/-- Whether no name between two colons stands for a pictograph. -/
def NamesNoPictograph (cs : List Char) : Prop :=
  ∀ before name after, cs = before ++ ':' :: (name ++ ':' :: after) → ':' ∉ name →
    (∀ c ∈ name, Text.isBlank c = false) → namedPictograph? name = none

/-! ## Backslashes in front of brackets -/

/-- A tag has a character at least. -/
theorem tag?_ne_nil {cs : List Char} : tag? cs ≠ some [] := by
  cases cs with
  | nil => exact (Option.some_ne_none []).symm
  | cons c rest =>
    rw [tag?]
    split
    · cases tagBody? rest <;> simp
    · exact (Option.some_ne_none []).symm

theorem withoutBracketEscapes_cons {c : Char} (h : c ≠ '\\') (rest : List Char) :
    withoutBracketEscapes (c :: rest) = c :: withoutBracketEscapes rest :=
  withoutBracketEscapes.eq_3 c rest fun _ hc => absurd hc h

theorem withoutLooseEscapes_cons {c : Char} (h : c ≠ '\\') (rest : List Char) :
    withoutLooseEscapes (c :: rest) = c :: withoutLooseEscapes rest :=
  withoutLooseEscapes.eq_3 c rest fun _ hc => absurd hc h

/-- Text that does not end with a backslash is read by itself. -/
theorem withoutBracketEscapes_append {cs : List Char} (h : cs.getLast? ≠ some '\\')
    (rest : List Char) :
    withoutBracketEscapes (cs ++ rest) =
      withoutBracketEscapes cs ++ withoutBracketEscapes rest := by
  fun_induction withoutBracketEscapes cs with
  | case1 => rfl
  | case2 more ih =>
    have hmore : more.getLast? ≠ some '\\' := by
      cases more with
      | nil => simp
      | cons c more => simpa using h
    exact congrArg (List.cons '[') (ih hmore)
  | case3 c more hother ih =>
    cases more with
    | nil =>
      have hc : c ≠ '\\' := fun hc => h (congrArg some hc)
      simp [withoutBracketEscapes_cons hc, withoutBracketEscapes]
    | cons d more =>
      rw [List.getLast?_cons_cons] at h
      have hnext : ∀ after, c = '\\' → d :: (more ++ rest) = '[' :: after → False := by
        intro after hc hd
        exact hother more hc (by rw [(List.cons.inj hd).1])
      rw [List.cons_append, List.cons_append, withoutBracketEscapes.eq_3 c _ hnext,
        ← List.cons_append, ih h, List.cons_append]

/-- Text without backslashes but before its end stays. -/
theorem withoutBracketEscapes_eq_self {cs : List Char} (h : '[' ∉ cs) :
    withoutBracketEscapes cs = cs := by
  fun_induction withoutBracketEscapes cs with
  | case1 => rfl
  | case2 rest ih => exact absurd (by simp) h
  | case3 c rest hother ih => rw [ih (List.not_mem_of_not_mem_cons h)]

/-- Text without opening brackets stays, unless one follows. -/
theorem withoutLooseEscapes_append {cs rest : List Char} (h : '[' ∉ cs)
    (hrest : rest.head? ≠ some '[') :
    withoutLooseEscapes (cs ++ rest) = cs ++ withoutLooseEscapes rest := by
  induction cs with
  | nil => rfl
  | cons c cs ih =>
    obtain ⟨-, hcs⟩ := List.ne_and_not_mem_of_not_mem_cons h
    have hnext : ∀ after, c = '\\' → cs ++ rest = '[' :: after → False := by
      intro after _ hafter
      cases cs with
      | nil =>
        rw [List.nil_append] at hafter
        exact hrest (by rw [hafter]; rfl)
      | cons d cs => exact hcs (by rw [← (List.cons.inj hafter).1]; exact List.mem_cons_self)
    rw [List.cons_append, withoutLooseEscapes.eq_3 c _ hnext, ih hcs, List.cons_append]

/-- A tag stays. -/
theorem withoutLooseEscapes_body {tag : List Char} (h : '[' ∉ tag) (more : List Char) :
    withoutLooseEscapes (tag ++ ']' :: more) = tag ++ ']' :: withoutLooseEscapes more := by
  rw [withoutLooseEscapes_append h (by simp), withoutLooseEscapes_cons (by decide)]

/-- Backslashes in front of a tag stay. -/
theorem withoutLooseEscapes_tag (slashes : Nat) {tag more : List Char}
    (h : tag? (tag ++ ']' :: more) = some tag) :
    withoutLooseEscapes (List.replicate slashes '\\' ++ '[' :: (tag ++ ']' :: more)) =
      List.replicate slashes '\\' ++ '[' :: (tag ++ ']' :: withoutLooseEscapes more) := by
  have hopen := (tag?_eq_some h).1
  induction slashes with
  | zero =>
    rw [List.replicate_zero, List.nil_append, withoutLooseEscapes_cons (by decide),
      withoutLooseEscapes_body hopen, List.nil_append]
  | succ slashes ih =>
    cases slashes with
    | zero =>
      change withoutLooseEscapes ('\\' :: '[' :: (tag ++ ']' :: more)) = _
      rw [withoutLooseEscapes, h, Option.isSome_some, if_pos rfl,
        withoutLooseEscapes_body hopen]
      rfl
    | succ slashes => exact congrArg (List.cons '\\') ih

/-- A character that opens no tag takes a backslash away in plain text as in text that is
escaped. -/
theorem withoutLooseEscapes_char (slashes : Nat) {c : Char} {rest : List Char}
    (hbackslash : c ≠ '\\') (htag : ¬ (c = '[' ∧ (tag? rest).isSome = true)) :
    withoutLooseEscapes (List.replicate slashes '\\' ++ c :: rest) =
      withoutBracketEscapes (List.replicate slashes '\\' ++ [c]) ++ withoutLooseEscapes rest := by
  induction slashes with
  | zero =>
    rw [List.replicate_zero, List.nil_append, List.nil_append, withoutLooseEscapes_cons hbackslash,
      withoutBracketEscapes_cons hbackslash]
    rfl
  | succ slashes ih =>
    cases slashes with
    | zero =>
      change withoutLooseEscapes ('\\' :: c :: rest) = withoutBracketEscapes ['\\', c] ++ _
      by_cases hopen : c = '['
      · subst hopen
        have hnone : ¬ (tag? rest).isSome = true := fun hsome => htag ⟨rfl, hsome⟩
        rw [withoutLooseEscapes, if_neg hnone]
        rfl
      · have hnext : ∀ after, '\\' = '\\' → c :: rest = '[' :: after → False :=
          fun _ _ hc => hopen (List.cons.inj hc).1
        have hnext' : ∀ after, '\\' = '\\' → [c] = '[' :: after → False :=
          fun _ _ hc => hopen (List.cons.inj hc).1
        rw [withoutLooseEscapes.eq_3 _ _ hnext, withoutLooseEscapes_cons hbackslash,
          withoutBracketEscapes.eq_3 _ _ hnext', withoutBracketEscapes_cons hbackslash]
        rfl
    | succ slashes => exact congrArg (List.cons '\\') ih

/-! ## Pieces of escaped text -/

/-- The characters of a piece of plain text. -/
def Piece.chars : Piece → List Char
  | .plain chars => chars
  | .tag _ _ => []

/-- Pieces without the backslashes in front of brackets, one after the other. -/
def unescaped (pieces : List Piece) : List Char :=
  pieces.flatMap fun piece => withoutBracketEscapes piece.chars

@[simp] theorem unescaped_append (first second : List Piece) :
    unescaped (first ++ second) = unescaped first ++ unescaped second := List.flatMap_append

@[simp] theorem unescaped_plainPiece (chars : List Char) :
    unescaped (plainPiece chars) = withoutBracketEscapes chars := by
  rw [plainPiece]
  split
  case isTrue hnil =>
    rw [List.isEmpty_iff.mp hnil]
    rfl
  case isFalse => exact List.append_nil _

theorem not_mem_replicate_backslash (count : Nat) : '[' ∉ List.replicate count '\\' := fun hmem =>
  absurd (List.eq_of_mem_replicate hmem) (by decide)

/-- Text that begins with something else than a backslash does not end with one in reverse. -/
theorem getLast?_reverse_ne {plain : List Char} (h : plain.head? ≠ some '\\') :
    plain.reverse.getLast? ≠ some '\\' := by
  rwa [List.getLast?_reverse]

section Escaped

variable {tail : List Char} (htail : ∀ c ∈ tail, c = '\\')
include htail

/-- Backslashes alone amount to themselves. -/
theorem unescaped_escapeFrom_nil (position slashes : Nat) {plain : List Char}
    (hplain : plain.head? ≠ some '\\') :
    unescaped (piecesFrom position slashes 0 plain (escapeFrom slashes [] ++ tail)) =
      withoutBracketEscapes plain.reverse ++
        withoutLooseEscapes (List.replicate slashes '\\') ++ tail := by
  have hslashes : withoutLooseEscapes (List.replicate slashes '\\') =
      List.replicate slashes '\\' := by
    have happend := withoutLooseEscapes_append (not_mem_replicate_backslash slashes)
      (by simp : [].head? ≠ some '[')
    rwa [List.append_nil, withoutLooseEscapes, List.append_nil] at happend
  rw [piecesFrom_escapeFrom_nil htail, unescaped_plainPiece,
    withoutBracketEscapes_append (getLast?_reverse_ne hplain),
    withoutBracketEscapes_eq_self (not_mem_replicate_backslash _), hslashes, List.append_assoc,
    List.replicate_append_replicate.symm, ← List.eq_replicate_of_mem htail]

/-- An escaped tag amounts to itself, behind the backslashes that stood before it. -/
theorem unescaped_escapeFrom_tag (position slashes : Nat) (plain : List Char)
    {tag more : List Char} (htag : tag? (tag ++ ']' :: more) = some tag) :
    unescaped (piecesFrom position slashes 0 plain
        (escapeFrom slashes ('[' :: (tag ++ ']' :: more)) ++ tail)) =
      withoutBracketEscapes plain.reverse ++ List.replicate slashes '\\' ++
        '[' :: (tag ++ ']' :: unescaped
          (piecesFrom (position + (slashes + 1) + 1 + (tag.length + 1)) 0 0 []
            (escapeFrom 0 more ++ tail))) := by
  have htext : withoutBracketEscapes ('[' :: (tag ++ [']'])) = '[' :: (tag ++ [']']) := by
    rw [withoutBracketEscapes_cons (by decide), withoutBracketEscapes_eq_self]
    simpa using (tag?_eq_some htag).1
  rw [piecesFrom_escapeFrom_tag htail _ _ _ htag, unescaped_append, unescaped_append,
    unescaped_plainPiece, unescaped_plainPiece,
    withoutBracketEscapes_eq_self (not_mem_replicate_backslash _)]
  conv_lhs => rw [unescaped, List.flatMap_cons, Piece.chars, htext, ← unescaped]
  simp

/-- What escaped text amounts to, after some plain text and some backslashes, with backslashes
behind it. -/
theorem unescaped_escapeFrom (position slashes : Nat) {plain : List Char}
    (hplain : plain.head? ≠ some '\\') (cs : List Char) :
    unescaped (piecesFrom position slashes 0 plain (escapeFrom slashes cs ++ tail)) =
      withoutBracketEscapes plain.reverse ++
        withoutLooseEscapes (List.replicate slashes '\\' ++ cs) ++ tail := by
  -- Behind an escaped tag the text goes on after the tag, so the induction is on the length.
  induction hlength : cs.length using Nat.strongRecOn generalizing position slashes plain cs with
  | ind length ih =>
    subst hlength
    cases cs with
    | nil => rw [List.append_nil, unescaped_escapeFrom_nil htail position slashes hplain]
    | cons c rest =>
      by_cases hbackslash : c = '\\'
      · rw [escapeFrom, if_pos hbackslash, List.cons_append, piecesFrom, if_pos hbackslash,
          ih rest.length (Nat.lt_succ_self _) _ _ hplain _ rfl, hbackslash,
          List.replicate_succ', List.append_assoc, List.append_assoc, List.singleton_append,
          List.append_assoc]
      · by_cases htag : c = '[' ∧ (tag? rest).isSome = true
        · obtain ⟨rfl, hsome⟩ := htag
          obtain ⟨tag, htag⟩ := Option.isSome_iff_exists.mp hsome
          obtain ⟨-, more, rfl⟩ := tag?_eq_some htag
          have hmore (position : Nat) : unescaped (piecesFrom position 0 0 []
              (escapeFrom 0 more ++ tail)) = withoutLooseEscapes more ++ tail :=
            ih more.length (by simp; omega) position 0 (by simp) more rfl
          rw [unescaped_escapeFrom_tag htail _ _ _ htag, hmore,
            withoutLooseEscapes_tag slashes htag]
          simp
        · have hplain' : (c :: (List.replicate slashes '\\' ++ plain)).head? ≠ some '\\' := by
            simpa using hbackslash
          have hread : (c :: (List.replicate slashes '\\' ++ plain)).reverse =
              plain.reverse ++ (List.replicate slashes '\\' ++ [c]) := by simp
          rw [piecesFrom_escapeFrom_char htail _ _ _ hbackslash htag,
            ih rest.length (Nat.lt_succ_self _) _ _ hplain' _ rfl,
            withoutLooseEscapes_char slashes hbackslash htag, hread,
            withoutBracketEscapes_append (getLast?_reverse_ne hplain)]
          simp

end Escaped

/-! ## Backslashes at the end -/

/-- Escaping changes none of the last two characters. -/
theorem take_two_reverse_escapeFrom (slashes : Nat) (cs : List Char) :
    (escapeFrom slashes cs).reverse.take 2 = cs.reverse.take 2 := by
  induction cs generalizing slashes with
  | nil => rfl
  | cons c rest ih =>
    have happend (slashes : Nat) {more : List Char} (hmore : more = [] ∨ 2 ≤ rest.length) :
        ((escapeFrom slashes rest).reverse ++ c :: more).take 2 = (rest.reverse ++ [c]).take 2 := by
      have hlength := congrArg List.length (ih slashes)
      simp only [List.length_take, List.length_reverse] at hlength
      rw [List.take_append, List.take_append, ih slashes, List.length_reverse, List.length_reverse]
      rcases hmore with rfl | hrest
      · rw [show 2 - (escapeFrom slashes rest).length = 2 - rest.length by omega]
      · rw [show 2 - (escapeFrom slashes rest).length = 0 by omega,
          show 2 - rest.length = 0 by omega, List.take_zero, List.take_zero]
    rw [escapeFrom, List.reverse_cons]
    split
    case isTrue => rw [List.reverse_cons, happend (slashes + 1) (Or.inl rfl)]
    case isFalse =>
      split
      case isTrue htag =>
        -- A tag has a character and a bracket at least, so no backslash is among the last two.
        obtain ⟨tag, htag⟩ := Option.isSome_iff_exists.mp htag.2
        have hrest : 2 ≤ rest.length := by
          obtain ⟨-, more, rfl⟩ := tag?_eq_some htag
          cases tag with
          | nil => exact absurd htag tag?_ne_nil
          | cons =>
            simp
            omega
        rw [List.reverse_append, List.reverse_cons, List.append_assoc, List.singleton_append,
          happend 0 (Or.inr hrest)]
      case isFalse => rw [List.reverse_cons, happend 0 (Or.inl rfl)]

/-- Whether a text ends with a single backslash is seen from its last two characters. -/
theorem endsWithBackslash_congr {cs ds : List Char}
    (h : cs.reverse.take 2 = ds.reverse.take 2) : endsWithBackslash cs = endsWithBackslash ds := by
  have htwo (cs : List Char) :
      endsWithBackslash cs = endsWithBackslash (cs.reverse.take 2).reverse := by
    unfold endsWithBackslash
    rw [List.reverse_reverse]
    match cs.reverse with
    | [] => rfl
    | [_] => rfl
    | last :: other :: _ =>
      by_cases hlast : last = '\\' <;> by_cases hother : other = '\\' <;> simp [hlast, hother]
  rw [htwo cs, htwo ds, h]

/-- Escaped text amounts to what is shown of it, behind some plain text. -/
theorem unescaped_escape (position : Nat) {plain : List Char} (hplain : plain.head? ≠ some '\\')
    (cs : List Char) :
    unescaped (piecesFrom position 0 0 plain (escape cs)) =
      withoutBracketEscapes plain.reverse ++ shownOfEscaped cs := by
  rw [escape, endsWithBackslash_congr (take_two_reverse_escapeFrom 0 cs), shownOfEscaped]
  split
  · have htail : ∀ c ∈ ['\\'], c = '\\' := List.forall_mem_singleton.mpr rfl
    rw [unescaped_escapeFrom htail position 0 hplain]
    simp
  · have htail : ∀ c ∈ [], c = '\\' := List.forall_mem_nil _
    have hescaped := unescaped_escapeFrom htail position 0 hplain cs
    simpa using hescaped

/-! ## Pictographs -/

/-- A part of text in which no name stands for a pictograph has no such name. -/
theorem NamesNoPictograph.infix {cs part : List Char} (h : NamesNoPictograph cs)
    (hpart : part <:+: cs) : NamesNoPictograph part := by
  obtain ⟨left, right, rfl⟩ := hpart
  rintro before name after rfl hname hblank
  refine h (left ++ before) name (after ++ right) ?_ hname hblank
  simp

/-- A character other than a colon begins no name. -/
theorem NamesNoPictograph.cons {cs : List Char} (h : NamesNoPictograph cs) {c : Char}
    (hc : c ≠ ':') : NamesNoPictograph (c :: cs) := by
  intro before name after heq
  cases before with
  | nil => exact absurd (List.cons.inj heq).1 hc
  | cons d before => exact h before name after (List.cons.inj heq).2

/-- A name ends at the first colon, and no blank comes before it. -/
theorem name?_eq_some {cs name : List Char} (h : name? cs = some name) :
    ':' ∉ name ∧ (∀ c ∈ name, Text.isBlank c = false) ∧ ∃ rest, cs = name ++ ':' :: rest := by
  induction cs generalizing name with
  | nil => cases h
  | cons c rest ih =>
    rw [name?] at h
    split at h
    case isTrue hcolon =>
      obtain rfl := Option.some.inj h
      exact ⟨List.not_mem_nil, List.forall_mem_nil _, rest, by rw [hcolon]; rfl⟩
    case isFalse hcolon =>
      split at h
      case isTrue => cases h
      case isFalse hblank =>
        obtain ⟨more, hmore, rfl⟩ := Option.map_eq_some_iff.mp h
        obtain ⟨hname, hblanks, after, rfl⟩ := ih hmore
        exact ⟨List.not_mem_cons_of_ne_of_not_mem (Ne.symm hcolon) hname,
          List.forall_mem_cons.mpr ⟨Bool.eq_false_iff.mpr hblank, hblanks⟩, after, rfl⟩

/-- What is done already is passed over. -/
theorem withPictographsFrom_skip (cs rest : List Char) :
    withPictographsFrom cs.length (cs ++ rest) = withPictographsFrom 0 rest := by
  induction cs with
  | nil => rfl
  | cons c cs ih => exact ih

/-- Text in which no name stands for a pictograph stays. -/
theorem withPictographsFrom_eq_self {cs : List Char} (h : NamesNoPictograph cs) :
    withPictographsFrom 0 cs = cs := by
  -- Behind a name the text goes on after the name, so the induction is on the length.
  induction hlength : cs.length using Nat.strongRecOn generalizing cs with
  | ind length ih =>
    subst hlength
    cases cs with
    | nil => rfl
    | cons c rest =>
      have hrest : NamesNoPictograph rest := h.infix (List.suffix_cons c rest).isInfix
      rw [withPictographsFrom]
      split
      case h_1 => rw [ih rest.length (Nat.lt_succ_self _) hrest rfl]
      case h_2 name hfound =>
        split at hfound
        case isFalse => cases hfound
        case isTrue hcolon =>
          obtain ⟨hname, hblank, more, rfl⟩ := name?_eq_some hfound
          have hnone : namedPictograph? name = none :=
            h [] name more (by rw [hcolon]; rfl) hname hblank
          have hmore : NamesNoPictograph more := hrest.infix ⟨name ++ [':'], [], by simp⟩
          have hskip := withPictographsFrom_skip (name ++ [':']) more
          rw [List.length_append, List.length_singleton, List.append_assoc,
            List.singleton_append] at hskip
          rw [hnone, hskip, ih more.length (by simp; omega) hmore rfl, hcolon]
          simp

/-- Pieces of plain text are shown one after the other. -/
theorem shownPieces_of_isPlain {pieces : List Piece} (h : ∀ piece ∈ pieces, piece.IsPlain)
    (tags : List OpenTag) :
    shownPieces tags pieces = .ok (pieces.flatMap fun piece => shownPlain piece.chars) := by
  induction pieces with
  | nil => rfl
  | cons piece rest ih =>
    obtain ⟨hpiece, hrest⟩ := List.forall_mem_cons.mp h
    cases piece with
    | plain chars => rw [shownPieces, ih hrest]; rfl
    | tag body position => exact hpiece.elim

/-- Pieces of plain text in which no name stands for a pictograph are shown as they are, without the
backslashes in front of brackets. -/
theorem shownPieces_eq_unescaped {pieces : List Piece} (h : ∀ piece ∈ pieces, piece.IsPlain)
    (hnames : NamesNoPictograph (unescaped pieces)) (tags : List OpenTag) :
    shownPieces tags pieces = .ok (unescaped pieces) := by
  rw [shownPieces_of_isPlain h, unescaped]
  refine congrArg _ (List.flatMap_congr fun piece hpiece => withPictographsFrom_eq_self ?_)
  obtain ⟨before, after, rfl⟩ := List.append_of_mem hpiece
  refine hnames.infix ⟨unescaped before, unescaped after, ?_⟩
  rw [unescaped_append]
  simp [unescaped]

/-- Where there are not two colons, there are no names between colons. -/
theorem namesNoPictograph_of_count {cs : List Char} (h : cs.count ':' ≤ 1) :
    NamesNoPictograph cs := by
  rintro before name after rfl
  simp only [List.count_append, List.count_cons_self] at h
  omega

/-- Without opening brackets, there is only plain text. -/
theorem piecesFrom_of_not_mem {cs : List Char} (h : '[' ∉ cs) (position slashes : Nat)
    (plain : List Char) :
    piecesFrom position slashes 0 plain cs =
      plainPiece (plain.reverse ++ (List.replicate slashes '\\' ++ cs)) := by
  induction cs generalizing position slashes plain with
  | nil => rw [piecesFrom, List.append_nil]
  | cons c rest ih =>
    obtain ⟨hc, hrest⟩ := List.ne_and_not_mem_of_not_mem_cons h
    by_cases hbackslash : c = '\\'
    · rw [piecesFrom, if_pos hbackslash, ih hrest, hbackslash, List.replicate_succ',
        List.append_assoc, List.singleton_append]
    · rw [piecesFrom, if_neg hbackslash, if_neg hc.symm]
      dsimp only
      rw [ih hrest]
      simp

/-- Text without opening brackets in which no name stands for a pictograph is shown as it is. -/
theorem shown_of_not_mem {cs : List Char} (h : '[' ∉ cs) (hnames : NamesNoPictograph cs) :
    shown cs = .ok cs := by
  have hpieces : pieces cs = plainPiece cs := piecesFrom_of_not_mem h 0 0 []
  have hunescaped : unescaped (plainPiece cs) = cs := by
    rw [unescaped_plainPiece, withoutBracketEscapes_eq_self h]
  rw [shown, hpieces, shownPieces_eq_unescaped isPlain_of_mem_plainPiece (by rwa [hunescaped]),
    hunescaped]

/-! ## Text that is shown as it is -/

/-- Nothing is shown that is not in the text. -/
theorem sublist_withoutLooseEscapes (cs : List Char) : (withoutLooseEscapes cs).Sublist cs := by
  fun_induction withoutLooseEscapes cs with
  | case1 => exact List.Sublist.refl []
  | case2 rest _ ih => exact (ih.cons_cons '[').cons_cons '\\'
  | case3 rest _ ih => exact (ih.cons_cons '[').cons '\\'
  | case4 c rest _ ih => exact ih.cons_cons c

/-- The last character is shown. -/
theorem getLast?_withoutLooseEscapes (cs : List Char) :
    (withoutLooseEscapes cs).getLast? = cs.getLast? := by
  fun_induction withoutLooseEscapes cs with
  | case1 => rfl
  | case2 rest _ ih =>
    rw [List.getLast?_cons, List.getLast?_cons, ih, ← List.getLast?_cons, ← List.getLast?_cons]
  | case3 rest _ ih => rw [List.getLast?_cons, ih, List.getLast?_cons_cons, List.getLast?_cons]
  | case4 c rest _ ih => rw [List.getLast?_cons, ih, List.getLast?_cons]

/-- What holds of the characters of a text and of the backslash holds of what is shown. -/
theorem forall_mem_shownOfEscaped {p : Char → Prop} (hbackslash : p '\\') {cs : List Char}
    (h : ∀ c ∈ cs, p c) : ∀ c ∈ shownOfEscaped cs, p c := by
  rw [shownOfEscaped, List.forall_mem_append]
  refine ⟨fun c hc => h c ((sublist_withoutLooseEscapes cs).subset hc), ?_⟩
  split
  · exact List.forall_mem_singleton.mpr hbackslash
  · exact List.forall_mem_nil _

/-- What holds of the last character of a text and of the backslash holds of the last one shown. -/
theorem forall_mem_getLast?_shownOfEscaped {p : Char → Prop} (hbackslash : p '\\')
    {cs : List Char} (h : ∀ c ∈ cs.getLast?, p c) : ∀ c ∈ (shownOfEscaped cs).getLast?, p c := by
  rw [shownOfEscaped]
  split
  · rw [List.getLast?_concat]
    rintro c ⟨⟩
    exact hbackslash
  · rwa [List.append_nil, getLast?_withoutLooseEscapes]

theorem shownOfEscaped_ne_nil {cs : List Char} (h : cs ≠ []) : shownOfEscaped cs ≠ [] := by
  refine List.append_ne_nil_of_left_ne_nil (fun hnil => h ?_) _
  rw [← List.getLast?_eq_none_iff, ← getLast?_withoutLooseEscapes, hnil, List.getLast?_nil]

/-- No text is as before with a backslash taken away and something behind it. -/
theorem eq_of_withoutLooseEscapes_append {cs tail : List Char}
    (h : withoutLooseEscapes cs ++ tail = cs) : withoutLooseEscapes cs = cs ∧ tail = [] := by
  have hself : withoutLooseEscapes cs = cs := by
    fun_induction withoutLooseEscapes cs with
    | case1 => rfl
    | case2 rest _ ih => rw [ih (List.cons.inj (List.cons.inj h).2).2]
    | case3 rest _ ih => exact absurd (List.cons.inj h).1 (by decide)
    | case4 c rest _ ih => rw [ih (List.cons.inj h).2]
  rw [hself] at h
  exact ⟨hself, List.append_right_eq_self.mp h⟩

theorem noLooseEscape_cons {c : Char} {rest : List Char} :
    NoLooseEscape (c :: rest) ↔
      (∀ after, c = '\\' → rest = '[' :: after → (tag? after).isSome = true) ∧
        NoLooseEscape rest := by
  constructor
  · exact fun h => ⟨fun after hc hrest => h [] after (by rw [hc, hrest]; rfl),
      fun before after hrest => h (c :: before) after (by rw [hrest]; rfl)⟩
  · rintro ⟨hfirst, hrest⟩ before after h
    cases before with
    | nil => exact hfirst after (List.cons.inj h).1 (List.cons.inj h).2
    | cons d before => exact hrest before after (List.cons.inj h).2

/-- Text keeps its backslashes exactly if each of those in front of a bracket is in front of one
that opens a tag. -/
theorem withoutLooseEscapes_eq_self_iff {cs : List Char} :
    withoutLooseEscapes cs = cs ↔ NoLooseEscape cs := by
  fun_induction withoutLooseEscapes cs with
  | case1 => exact iff_of_true rfl fun before after h => by simp at h
  | case2 rest hsome ih =>
    have hbracket (after : List Char) :
        '[' = '\\' → rest = '[' :: after → (tag? after).isSome = true :=
      fun hc => absurd hc (by decide)
    have hbackslash (after : List Char) :
        '\\' = '\\' → '[' :: rest = '[' :: after → (tag? after).isSome = true :=
      fun _ hafter => (List.cons.inj hafter).2 ▸ hsome
    rw [noLooseEscape_cons, and_iff_right hbackslash, noLooseEscape_cons, and_iff_right hbracket,
      List.cons_inj_right, List.cons_inj_right, ih]
  | case3 rest hnone _ =>
    exact iff_of_false (fun h => absurd (List.cons.inj h).1 (by decide))
      fun h => hnone (h [] rest rfl)
  | case4 c rest hother ih =>
    have hnone (after : List Char) : c = '\\' → rest = '[' :: after → (tag? after).isSome = true :=
      fun hc hafter => (hother after hc hafter).elim
    rw [noLooseEscape_cons, and_iff_right hnone, List.cons_inj_right, ih]

/-- Escaped text is shown as it is exactly if each backslash in front of a bracket is in front of
one that opens a tag, and it does not end with a single one. -/
theorem shownOfEscaped_eq_self_iff {cs : List Char} :
    shownOfEscaped cs = cs ↔ NoLooseEscape cs ∧ endsWithBackslash cs = false := by
  rw [shownOfEscaped, ← withoutLooseEscapes_eq_self_iff]
  constructor
  · intro h
    obtain ⟨hself, htail⟩ := eq_of_withoutLooseEscapes_append h
    refine ⟨hself, Bool.eq_false_iff.mpr fun hend => ?_⟩
    rw [if_pos hend] at htail
    cases htail
  · rintro ⟨hself, hend⟩
    rw [hend, hself, if_neg Bool.false_ne_true, List.append_nil]

end OperandCleanup.Report.Markup
