import OperandCleanup.Text.Lines

/-!
# Lines and pieces

A text in which only line feeds end lines, none of them at its end, has its lines between them.
Pieces with the separator between each two are the text again, and texts without the separator are
the pieces of what they are joined to.
-/

namespace OperandCleanup.Text

/-- A text that does not end with a line feed, and in which nothing else ends a line, has its lines
between line feeds. -/
theorem lineLists_eq_pieces {cs : List Char} {last : Char}
    (hends : ∀ c ∈ cs, endsLine c = true → c = '\n') (hlast : cs.getLast? = some last)
    (hfeed : last ≠ '\n') : lineLists cs = pieces '\n' cs := by
  induction cs with
  | nil => cases hlast
  | cons c rest ih =>
    obtain ⟨hc, hrest⟩ := List.forall_mem_cons.mp hends
    have hreturn : c ≠ '\r' := by
      rintro rfl
      exact absurd (hc rfl) (by decide)
    rw [lineLists.eq_3 c rest fun _ hcrlf _ => hreturn hcrlf]
    cases rest with
    | nil =>
      have hother : c ≠ '\n' := by
        rintro rfl
        exact hfeed (Option.some.inj hlast).symm
      rw [if_neg fun hend => hother (hc hend), pieces, if_neg hother]
      rfl
    | cons other others =>
      rw [List.getLast?_cons_cons] at hlast
      rw [pieces, ih hrest hlast]
      by_cases hend : endsLine c = true
      · rw [if_pos hend, if_pos (hc hend)]
      · have hother : c ≠ '\n' := by
          rintro rfl
          exact hend rfl
        rw [if_neg hend, if_neg hother]

/-- No piece has the separator in it. -/
theorem not_mem_of_mem_pieces {separator : Char} {cs : List Char} :
    ∀ piece ∈ pieces separator cs, separator ∉ piece := by
  induction cs with
  | nil => exact List.forall_mem_singleton.mpr List.not_mem_nil
  | cons c rest ih =>
    rw [pieces]
    split
    case isTrue => exact List.forall_mem_cons.mpr ⟨List.not_mem_nil, ih⟩
    case isFalse hc =>
      cases hpieces : pieces separator rest with
      | nil => exact List.forall_mem_singleton.mpr (mt List.mem_singleton.mp (Ne.symm hc))
      | cons piece others =>
        rw [hpieces] at ih
        obtain ⟨hpiece, hothers⟩ := List.forall_mem_cons.mp ih
        exact List.forall_mem_cons.mpr
          ⟨List.not_mem_cons_of_ne_of_not_mem (Ne.symm hc) hpiece, hothers⟩

/-- What holds of every character of a text holds of those of its pieces. -/
theorem forall_mem_pieces {p : Char → Prop} {separator : Char} {cs : List Char}
    (h : ∀ c ∈ cs, p c) : ∀ piece ∈ pieces separator cs, ∀ c ∈ piece, p c := by
  induction cs with
  | nil => exact List.forall_mem_singleton.mpr (List.forall_mem_nil _)
  | cons c rest ih =>
    obtain ⟨hc, hrest⟩ := List.forall_mem_cons.mp h
    rw [pieces]
    split
    case isTrue => exact List.forall_mem_cons.mpr ⟨List.forall_mem_nil _, ih hrest⟩
    case isFalse =>
      cases hpieces : pieces separator rest with
      | nil => exact List.forall_mem_singleton.mpr (List.forall_mem_singleton.mpr hc)
      | cons piece others =>
        rw [hpieces] at ih
        obtain ⟨hpiece, hothers⟩ := List.forall_mem_cons.mp (ih hrest)
        exact List.forall_mem_cons.mpr ⟨List.forall_mem_cons.mpr ⟨hc, hpiece⟩, hothers⟩

theorem pieces_ne_nil (separator : Char) (cs : List Char) : pieces separator cs ≠ [] := by
  cases cs with
  | nil => exact List.cons_ne_nil _ _
  | cons c rest =>
    rw [pieces]
    split
    · exact List.cons_ne_nil _ _
    · cases pieces separator rest <;> exact List.cons_ne_nil _ _

theorem joined_cons (separator s : String) {rest : List String} (h : rest ≠ []) :
    joined separator (s :: rest) = s ++ separator ++ joined separator rest := by
  cases rest with
  | nil => exact absurd rfl h
  | cons => rfl

/-- A character in front of the first text is in front of all. -/
theorem joined_consFirst (separator : String) (c : Char) (found : List (List Char)) :
    joined separator ((consFirst c found).map String.ofList) =
      String.ofList [c] ++ joined separator (found.map String.ofList) := by
  have hpiece (piece : List Char) :
      String.ofList (c :: piece) = String.ofList [c] ++ String.ofList piece :=
    (String.ofList_append : String.ofList ([c] ++ piece) = _)
  match found with
  | [] => simp [consFirst, joined]
  | [piece] => exact hpiece piece
  | piece :: other :: others => simp [consFirst, joined, hpiece piece, String.append_assoc]

/-- The pieces of a text with the separator between each two are the text. -/
theorem joined_pieces (separator : Char) (cs : List Char) :
    joined (String.singleton separator) ((pieces separator cs).map String.ofList) =
      String.ofList cs := by
  induction cs with
  | nil => rfl
  | cons c rest ih =>
    rw [pieces]
    split
    case isTrue hc =>
      have hrest : (pieces separator rest).map String.ofList ≠ [] := by
        simpa using pieces_ne_nil separator rest
      rw [List.map_cons, joined_cons _ _ hrest, ih, hc, String.singleton_eq_ofList,
        String.ofList_nil, String.empty_append, ← String.ofList_append, List.singleton_append]
    case isFalse => rw [joined_consFirst, ih, ← String.ofList_append, List.singleton_append]

/-- A text without the separator in front of one is the first piece. -/
theorem pieces_append_cons {separator : Char} {piece : List Char} (h : separator ∉ piece)
    (rest : List Char) :
    pieces separator (piece ++ separator :: rest) = piece :: pieces separator rest := by
  induction piece with
  | nil => rw [List.nil_append, pieces, if_pos rfl]
  | cons c piece ih =>
    obtain ⟨hc, hpiece⟩ := List.ne_and_not_mem_of_not_mem_cons h
    rw [List.cons_append, pieces, if_neg (Ne.symm hc), ih hpiece, consFirst]

/-- Texts without the separator are the pieces of what they are joined to. -/
theorem pieces_joined {separator : Char} {texts : List String} (hne : texts ≠ [])
    (h : ∀ s ∈ texts, separator ∉ s.toList) :
    (pieces separator (joined (String.singleton separator) texts).toList).map String.ofList =
      texts := by
  induction texts with
  | nil => exact absurd rfl hne
  | cons s rest ih =>
    obtain ⟨hs, hrest⟩ := List.forall_mem_cons.mp h
    cases rest with
    | nil => rw [joined, pieces_eq_singleton hs, List.map_singleton, String.ofList_toList]
    | cons other others =>
      have hlist : (joined (String.singleton separator) (s :: other :: others)).toList =
          s.toList ++ separator ::
            (joined (String.singleton separator) (other :: others)).toList := by
        rw [joined_cons _ s (List.cons_ne_nil other others), String.toList_append,
          String.toList_append, String.toList_singleton, List.append_assoc, List.singleton_append]
      rw [hlist, pieces_append_cons hs, List.map_cons, String.ofList_toList,
        ih (List.cons_ne_nil other others) hrest]

end OperandCleanup.Text
