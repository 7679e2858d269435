import OperandCleanup.Proofs.Loading
import OperandCleanup.Proofs.Selection
import OperandCleanup.Report.RunTable

/-!
# Runs can be shown

Markup can fail to be shown, as a closing tag has to close something. Markup without tags does not
fail. Text without opening brackets has no tags, and neither has escaped text: the backslashes that
escaping puts before a tag leave an odd number of them there. So a run over passes of the library is
always shown, whatever its errors say.
-/

namespace OperandCleanup

namespace Report

namespace Markup

/-! ## Markup without tags -/

/-- Whether a piece of markup is plain text. -/
def Piece.IsPlain : Piece → Prop
  | .plain _ => True
  | .tag _ _ => False

/-- A tag changes only which tags are open. -/
theorem shownPieces_tag {body : List Char} {position : Nat} {tags after : List OpenTag}
    (h : openAfter body position tags = .ok after) (rest : List Piece) :
    shownPieces tags (.tag body position :: rest) = shownPieces after rest := by
  rw [shownPieces, h]
  rfl

/-- Plain text is shown, whatever tags are open. -/
theorem exists_shownPieces {pieces : List Piece} (h : ∀ piece ∈ pieces, piece.IsPlain)
    (tags : List OpenTag) : ∃ cs, shownPieces tags pieces = .ok cs := by
  induction pieces with
  | nil => exact ⟨[], rfl⟩
  | cons piece rest ih =>
    obtain ⟨hpiece, hrest⟩ := List.forall_mem_cons.mp h
    obtain ⟨cs, hcs⟩ := ih hrest
    cases piece with
    | plain chars => exact ⟨shownPlain chars ++ cs, by rw [shownPieces, hcs]; rfl⟩
    | tag body position => exact hpiece.elim

theorem isPlain_of_mem_plainPiece {chars : List Char} :
    ∀ piece ∈ plainPiece chars, piece.IsPlain := by
  intro piece hpiece
  rw [plainPiece] at hpiece
  split at hpiece
  · cases hpiece
  · obtain rfl := List.mem_singleton.mp hpiece
    trivial

/-- A tag ends at the first closing bracket, and no opening one comes before it. -/
theorem tagBody?_eq_some {cs body : List Char} (h : tagBody? cs = some body) :
    '[' ∉ body ∧ ∃ rest, cs = body ++ ']' :: rest := by
  induction cs generalizing body with
  | nil => cases h
  | cons c rest ih =>
    rw [tagBody?] at h
    split at h
    case isTrue hclose =>
      obtain rfl := Option.some.inj h
      exact ⟨List.not_mem_nil, rest, by rw [hclose]; rfl⟩
    case isFalse =>
      split at h
      case isTrue => cases h
      case isFalse hopen =>
        obtain ⟨after, hafter, rfl⟩ := Option.map_eq_some_iff.mp h
        obtain ⟨hbody, more, rfl⟩ := ih hafter
        exact ⟨List.not_mem_cons_of_ne_of_not_mem (Ne.symm hopen) hbody, more, rfl⟩

theorem tag?_eq_some {cs tag : List Char} (h : tag? cs = some tag) :
    '[' ∉ tag ∧ ∃ rest, cs = tag ++ ']' :: rest := by
  cases cs with
  | nil => cases h
  | cons c rest =>
    rw [tag?] at h
    split at h
    case isFalse => cases h
    case isTrue hstart =>
      obtain ⟨body, hbody, rfl⟩ := Option.map_eq_some_iff.mp h
      obtain ⟨hopen, more, rfl⟩ := tagBody?_eq_some hbody
      have hc : '[' ≠ c := by
        rintro rfl
        exact absurd hstart (by decide)
      exact ⟨List.not_mem_cons_of_ne_of_not_mem hc hopen, more, rfl⟩

/-- Characters other than the closing bracket and the opening one are part of a tag or of none. -/
theorem tagBody?_append {cs rest : List Char} (h : ∀ c ∈ cs, c ≠ ']' ∧ c ≠ '[') :
    tagBody? (cs ++ rest) = (tagBody? rest).map (cs ++ ·) := by
  induction cs with
  | nil => simp
  | cons c cs ih =>
    obtain ⟨⟨hclose, hopen⟩, hcs⟩ := List.forall_mem_cons.mp h
    rw [List.cons_append, tagBody?, if_neg hclose, if_neg hopen, ih hcs, Option.map_map]
    rfl

section Escaped

variable {tail : List Char} (htail : ∀ c ∈ tail, c = '\\')

include htail

/-- Escaping changes no text within a tag, and backslashes at the end of the text end no tag. -/
theorem tagBody?_escapeFrom {slashes : Nat} {cs : List Char} :
    tagBody? (escapeFrom slashes cs ++ tail) = tagBody? cs := by
  have hbackslash : '\\' ≠ ']' ∧ '\\' ≠ '[' := by decide
  induction cs generalizing slashes with
  | nil =>
    have hplain : ∀ c ∈ tail, c ≠ ']' ∧ c ≠ '[' := fun c hc => by
      rw [htail c hc]
      exact hbackslash
    have hend : tagBody? (tail ++ []) = (tagBody? []).map (tail ++ ·) := tagBody?_append hplain
    simpa [escapeFrom, tagBody?] using hend
  | cons c rest ih =>
    rw [escapeFrom]
    split
    case isTrue =>
      rw [List.cons_append, tagBody?, tagBody?, ih]
    case isFalse =>
      split
      case isTrue htag =>
        have hslashes : ∀ c ∈ List.replicate (slashes + 1) '\\', c ≠ ']' ∧ c ≠ '[' :=
          fun c hc => by
            rw [List.eq_of_mem_replicate hc]
            exact hbackslash
        rw [List.append_assoc, tagBody?_append hslashes, htag.1]
        rfl
      case isFalse => rw [List.cons_append, tagBody?, tagBody?, ih]

theorem tag?_escapeFrom {cs : List Char} : tag? (escapeFrom 0 cs ++ tail) = tag? cs := by
  cases cs with
  | nil =>
    cases tail with
    | nil => rfl
    | cons c rest =>
      obtain rfl := htail c List.mem_cons_self
      rfl
  | cons c rest =>
    rw [escapeFrom]
    split
    case isTrue hbackslash =>
      subst hbackslash
      rfl
    case isFalse =>
      split
      case isTrue htag =>
        obtain ⟨rfl, -⟩ := htag
        rfl
      case isFalse => rw [List.cons_append, tag?, tag?, tagBody?_escapeFrom htail]

end Escaped

/-- Text without opening brackets up to a closing one is escaped as it is. -/
theorem escapeFrom_append {slashes : Nat} {cs rest : List Char} (h : '[' ∉ cs) :
    escapeFrom slashes (cs ++ ']' :: rest) = cs ++ ']' :: escapeFrom 0 rest := by
  induction cs generalizing slashes with
  | nil => simp [escapeFrom]
  | cons c cs ih =>
    obtain ⟨hc, hcs⟩ := List.ne_and_not_mem_of_not_mem_cons h
    rw [List.cons_append, escapeFrom, if_neg fun htag : _ ∧ _ => hc htag.1.symm]
    split <;> rw [ih hcs] <;> rfl

/-! ## Reading escaped text -/

/-- Backslashes are counted. -/
theorem piecesFrom_backslashes (position slashes count : Nat) (plain cs : List Char) :
    piecesFrom position slashes 0 plain (List.replicate count '\\' ++ cs) =
      piecesFrom (position + count) (slashes + count) 0 plain cs := by
  induction count generalizing position slashes with
  | zero => rfl
  | succ count ih =>
    rw [List.replicate_succ, List.cons_append, piecesFrom, if_pos rfl, ih, Nat.add_right_comm,
      Nat.add_right_comm slashes]
    rfl

/-- What belongs to a tag that was read already is passed over. -/
theorem piecesFrom_skip (position slashes : Nat) (plain cs rest : List Char) :
    piecesFrom position slashes cs.length plain (cs ++ rest) =
      piecesFrom (position + cs.length) slashes 0 plain rest := by
  induction cs generalizing position with
  | nil => rfl
  | cons c cs ih =>
    rw [List.cons_append, List.length_cons, piecesFrom, ih, Nat.add_right_comm]
    rfl

section Escaped

variable {tail : List Char} (htail : ∀ c ∈ tail, c = '\\')

include htail

/-- Backslashes alone are plain text. -/
theorem piecesFrom_escapeFrom_nil (position slashes : Nat) (plain : List Char) :
    piecesFrom position slashes 0 plain (escapeFrom slashes [] ++ tail) =
      plainPiece (plain.reverse ++ List.replicate (slashes + tail.length) '\\') := by
  obtain ⟨count, rfl⟩ : ∃ count, tail = List.replicate count '\\' :=
    ⟨tail.length, List.eq_replicate_of_mem htail⟩
  have hread := piecesFrom_backslashes position slashes count plain []
  rw [List.append_nil] at hread
  rw [escapeFrom, List.nil_append, hread, piecesFrom, List.length_replicate]

/-- An escaped tag is plain text, behind the backslashes that stood before it. -/
theorem piecesFrom_escapeFrom_tag (position slashes : Nat) (plain : List Char)
    {tag more : List Char} (htag : tag? (tag ++ ']' :: more) = some tag) :
    piecesFrom position slashes 0 plain (escapeFrom slashes ('[' :: (tag ++ ']' :: more)) ++ tail) =
      plainPiece plain.reverse ++ plainPiece (List.replicate slashes '\\') ++
        .plain ('[' :: (tag ++ [']'])) ::
          piecesFrom (position + (slashes + 1) + 1 + (tag.length + 1)) 0 0 []
            (escapeFrom 0 more ++ tail) := by
  obtain ⟨hopen, -⟩ := tag?_eq_some htag
  have hodd : (slashes + (slashes + 1)) % 2 = 1 := by omega
  have hhalf : (slashes + (slashes + 1)) / 2 = slashes := by omega
  have hread : escapeFrom 0 (tag ++ ']' :: more) ++ tail =
      (tag ++ [']']) ++ (escapeFrom 0 more ++ tail) := by
    simp [escapeFrom_append hopen]
  have hskip := piecesFrom_skip (position + (slashes + 1) + 1) 0 []
    (tag ++ [']']) (escapeFrom 0 more ++ tail)
  rw [List.length_append, List.length_singleton] at hskip
  rw [escapeFrom, if_neg (by decide), if_pos ⟨rfl, Option.isSome_iff_exists.mpr ⟨tag, htag⟩⟩,
    List.append_assoc, piecesFrom_backslashes, List.cons_append, piecesFrom, if_neg (by decide),
    if_pos rfl, tag?_escapeFrom htail, htag]
  dsimp only
  rw [if_pos hodd, hhalf, hread, hskip]

/-- Other characters are plain text, behind the backslashes that stood before them. -/
theorem piecesFrom_escapeFrom_char (position slashes : Nat) (plain : List Char) {c : Char}
    {rest : List Char} (hbackslash : c ≠ '\\') (htag : ¬ (c = '[' ∧ (tag? rest).isSome = true)) :
    piecesFrom position slashes 0 plain (escapeFrom slashes (c :: rest) ++ tail) =
      piecesFrom (position + 1) 0 0 (c :: (List.replicate slashes '\\' ++ plain))
        (escapeFrom 0 rest ++ tail) := by
  have hnone : (if c = '[' then tag? (escapeFrom 0 rest ++ tail) else none) = none := by
    rw [tag?_escapeFrom htail]
    split
    case isTrue hopen => simpa [hopen] using htag
    case isFalse => rfl
  rw [escapeFrom, if_neg hbackslash, if_neg htag, List.cons_append, piecesFrom, if_neg hbackslash,
    hnone]

/-- Escaped text has no tags, also with backslashes behind it. -/
theorem isPlain_escapeFrom (position slashes : Nat) (plain cs : List Char) :
    ∀ piece ∈ piecesFrom position slashes 0 plain (escapeFrom slashes cs ++ tail),
      piece.IsPlain := by
  -- Behind an escaped tag the text goes on after the tag, so the induction is on the length.
  induction hlength : cs.length using Nat.strongRecOn generalizing position slashes plain cs with
  | ind length ih =>
    subst hlength
    cases cs with
    | nil =>
      rw [piecesFrom_escapeFrom_nil htail]
      exact isPlain_of_mem_plainPiece
    | cons c rest =>
      by_cases hbackslash : c = '\\'
      · rw [escapeFrom, if_pos hbackslash, List.cons_append, piecesFrom, if_pos hbackslash]
        exact ih rest.length (Nat.lt_succ_self _) _ _ _ _ rfl
      · by_cases htag : c = '[' ∧ (tag? rest).isSome = true
        · obtain ⟨rfl, hsome⟩ := htag
          obtain ⟨tag, htag⟩ := Option.isSome_iff_exists.mp hsome
          obtain ⟨-, more, rfl⟩ := tag?_eq_some htag
          rw [piecesFrom_escapeFrom_tag htail _ _ _ htag, List.forall_mem_append,
            List.forall_mem_append, List.forall_mem_cons]
          exact ⟨⟨isPlain_of_mem_plainPiece, isPlain_of_mem_plainPiece⟩, trivial,
            ih more.length (by simp; omega) _ _ _ _ rfl⟩
        · rw [piecesFrom_escapeFrom_char htail _ _ _ hbackslash htag]
          exact ih rest.length (Nat.lt_succ_self _) _ _ _ _ rfl

end Escaped

/-- Escaped text has no tags, whatever plain text stands before it. -/
theorem isPlain_escape (position : Nat) (plain cs : List Char) :
    ∀ piece ∈ piecesFrom position 0 0 plain (escape cs), piece.IsPlain := by
  rw [escape]
  split
  · exact isPlain_escapeFrom (by simp) position 0 plain cs
  · have hnone : ∀ c ∈ ([] : List Char), c = '\\' := List.forall_mem_nil _
    simpa using isPlain_escapeFrom hnone position 0 plain cs

end Markup

/-! ## The last error -/

/-- The words for bold red letters name them as they are. -/
theorem canonicalName_boldRed : Style.canonicalName "bold red" = "bold red" := by
  have hwords : blankSeparated "bold red" = ["bold", "red"] := by decide +kernel
  have hred : lowerCase "red" = "red" := by decide +kernel
  have hattribute : styleAttribute? (lowerCase "bold") = some "bold" := by decide +kernel
  have hother : styleAttribute? "red" = none := by decide +kernel
  have hstyle : Style.addWords {} ["bold", "red"] =
      (colour? "red").map fun colour => ⟨[("bold", true)], some colour, none, none⟩ := by
    rw [Style.addWords.eq_3]
    split
    case h_1 hon => exact absurd hon (by decide)
    case h_2 hnot => exact absurd hnot (by decide)
    case h_3 hlink => exact absurd hlink (by decide)
    case h_4 =>
      rw [hattribute]
      dsimp only
      rw [Style.addWords.eq_2, hred, hother]
      rfl
  -- The table of colours is not searched: the name is the same if red were none.
  rw [Style.canonicalName, hwords, hstyle, colour?]
  cases isColour (lowerCase "red") <;> decide +kernel

/-- The tag for bold red letters. -/
def boldRed : Markup.OpenTag := ⟨"bold red", []⟩

/-- The tag for bold red letters is opened and closed again. -/
theorem openAfter_boldRed :
    Markup.openAfter "bold red".toList 0 [] = .ok [boldRed] ∧
      Markup.openAfter "/bold red".toList 21 [boldRed] = .ok [] := by
  have hname : Markup.tagName "bold red".toList = "bold red" := by decide +kernel
  have htrim : Text.trim "bold red" = "bold red" := by decide +kernel
  have hopen : Markup.OpenTag.of "bold red".toList = boldRed := by
    rw [Markup.OpenTag.of, hname, canonicalName_boldRed]
    rfl
  constructor
  · change Except.ok [Markup.OpenTag.of "bold red".toList] = _
    rw [hopen]
  · change Markup.openAfter ('/' :: "bold red".toList) 21 [boldRed] = _
    rw [Markup.openAfter, hname, htrim, canonicalName_boldRed]
    rfl

/-- The pieces of the line of the last error: a title in bold red letters, and the error. -/
theorem pieces_lastError (cs : List Char) :
    Markup.pieces ("[bold red]Last error:[/bold red] ".toList ++ cs) =
      .tag "bold red".toList 0 :: .plain "Last error:".toList :: .tag "/bold red".toList 21 ::
        Markup.piecesFrom 33 0 0 [' '] cs := rfl

/-- The line of the last error is shown, whatever the error says. -/
theorem exists_shown_lastError (cs : List Char) :
    ∃ shown, Markup.shown ("[bold red]Last error:[/bold red] ".toList ++ Markup.escape cs) =
      .ok shown := by
  obtain ⟨shown, hshown⟩ := Markup.exists_shownPieces (Markup.isPlain_escape 33 [' '] cs) []
  rw [Markup.shown, pieces_lastError, Markup.shownPieces_tag openAfter_boldRed.1,
    Markup.shownPieces, Markup.shownPieces_tag openAfter_boldRed.2, hshown]
  exact ⟨_, rfl⟩

theorem exists_lastErrorLine (error : DataError) : ∃ line, lastErrorLine error = .ok line := by
  let escaped := Markup.escape error.describe.toList
  obtain ⟨shown, hshown⟩ := exists_shown_lastError error.describe.toList
  have hescaped : (String.ofList escaped).toList = escaped := String.toList_ofList
  refine ⟨String.ofList shown, ?_⟩
  change (Markup.shown ("[bold red]Last error:[/bold red] " ++ String.ofList escaped).toList).map
    String.ofList = _
  rw [String.toList_append, hescaped, hshown]
  rfl

end Report

/-! ## Runs -/

namespace Report

end Report

/-- Every entry of a run over passes is the account of one of them on some document. -/
theorem Pipeline.exists_entry_of_mem_stages {passes : List Pass} {failFast : Bool}
    {document : Document} {entry : StageEntry}
    (h : entry ∈ (runStages failFast (passes.map Pass.stage) document).stages) :
    ∃ pass ∈ passes, ∃ before, entry = pass.stage.entry before (pass.apply before) := by
  induction passes generalizing document with
  | nil => cases h
  | cons pass rest ih =>
    have hfirst : ∃ other ∈ pass :: rest, ∃ before,
        pass.stage.entry document (pass.apply document) =
          other.stage.entry before (other.apply before) :=
      ⟨pass, List.mem_cons_self, document, rfl⟩
    rw [List.map_cons, runStages] at h
    dsimp only at h
    split at h
    · obtain rfl := List.mem_singleton.mp h
      exact hfirst
    · rcases List.mem_cons.mp h with rfl | hlater
      · exact hfirst
      · obtain ⟨other, hother, hentry⟩ := ih hlater
        exact ⟨other, List.mem_cons_of_mem pass hother, hentry⟩

end OperandCleanup
