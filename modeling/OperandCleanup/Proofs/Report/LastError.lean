import OperandCleanup.Proofs.Report.Console
import OperandCleanup.Proofs.Report.Escaped

/-!
# The line of the last error

The line that shows the last error is a title and the text of the error. On a console that is wide
enough it is read as one line. That is the title and the text, character for character, exactly if
the text has no characters that printing drops or widens and is shown as it is when it is escaped.
-/

namespace OperandCleanup.Report

/-- Whether escaped text is printed as it is. -/
structure PrintsAsIs (cs : List Char) : Prop where
  printed : ∀ c ∈ cs, c ≠ '\t' ∧ isDropped c = false
  noLooseEscape : Markup.NoLooseEscape cs
  ending : Markup.endsWithBackslash cs = false

/-- The line that shows the text of an error, unless a name in it stands for a pictograph. -/
def lastErrorText (text : String) : String :=
  "Last error: " ++ String.ofList (Markup.shownOfEscaped text.toList)

theorem toList_lastErrorText (text : String) : (lastErrorText text).toList =
    "Last error: ".toList ++ Markup.shownOfEscaped text.toList := by
  rw [lastErrorText, String.toList_append]
  exact congrArg _ String.toList_ofList

/-- The markup of the line is shown as a title and what is shown of the text. -/
theorem shown_lastError {cs : List Char}
    (h : Markup.NamesNoPictograph (Markup.shownOfEscaped cs)) :
    Markup.shown ("[bold red]Last error:[/bold red] ".toList ++ Markup.escape cs) =
      .ok ("Last error: ".toList ++ Markup.shownOfEscaped cs) := by
  have hplain : [' '].head? ≠ some '\\' := by decide
  have hunescaped : Markup.unescaped (Markup.piecesFrom 33 0 0 [' '] (Markup.escape cs)) =
      ' ' :: Markup.shownOfEscaped cs := Markup.unescaped_escape 33 hplain cs
  have hnames : Markup.NamesNoPictograph
      (Markup.unescaped (Markup.piecesFrom 33 0 0 [' '] (Markup.escape cs))) := by
    rw [hunescaped]
    exact h.cons (by decide)
  have htitle : Markup.shownPlain "Last error:".toList = "Last error:".toList := by decide +kernel
  rw [Markup.shown, pieces_lastError, Markup.shownPieces_tag openAfter_boldRed.1,
    Markup.shownPieces, Markup.shownPieces_tag openAfter_boldRed.2,
    Markup.shownPieces_eq_unescaped (Markup.isPlain_escape 33 [' '] cs) hnames, hunescaped, htitle]
  rfl

/-- The line of an error in which no name stands for a pictograph. -/
theorem lastErrorLine_eq {error : DataError}
    (h : Markup.NamesNoPictograph (Markup.shownOfEscaped error.describe.toList)) :
    lastErrorLine error = .ok (lastErrorText error.describe) := by
  let escaped := Markup.escape error.describe.toList
  have hescaped : (String.ofList escaped).toList = escaped := String.toList_ofList
  change (Markup.shown ("[bold red]Last error:[/bold red] " ++ String.ofList escaped).toList).map
    String.ofList = _
  rw [String.toList_append, hescaped, shown_lastError h]
  refine congrArg Except.ok (String.toList_inj.mp ?_)
  rw [String.toList_ofList, toList_lastErrorText]

section Line

variable {text : String}

/-- What holds of printable ASCII and of the characters of the text holds of the line. -/
theorem forall_mem_lastErrorText {p : Char → Prop} (hplain : ∀ c, Json.IsPlain c → p c)
    (h : ∀ c ∈ text.toList, p c) : ∀ c ∈ (lastErrorText text).toList, p c := by
  have htitle : ∀ c ∈ "Last error: ".toList, Json.IsPlain c := Json.isPlain_of_all rfl
  rw [toList_lastErrorText]
  exact List.forall_mem_append.mpr ⟨fun c hc => hplain c (htitle c hc),
    Markup.forall_mem_shownOfEscaped (hplain '\\' (by decide)) h⟩

/-- The line is printed as it is if the text has nothing that printing drops or widens. -/
theorem printedLine_lastErrorText (h : ∀ c ∈ text.toList, c ≠ '\t' ∧ isDropped c = false) :
    printedLine (lastErrorText text) = (lastErrorText text).toList :=
  printedLine_eq_self (forall_mem_lastErrorText (fun _ => Json.IsPlain.isPrinted) h)

/-- No blanks stand at the end of the line if there are none at the end of the text. -/
theorem trimmedRight_lastErrorText (htrimmed : Text.IsTrimmed text.toList) (hne : text ≠ "") :
    Text.trimmedRight (lastErrorText text).toList = (lastErrorText text).toList := by
  have hne' : text.toList ≠ [] := mt String.toList_eq_nil_iff.mp hne
  refine Text.trimmedRight_eq_self ?_
  rw [toList_lastErrorText, List.getLast?_append_of_ne_nil _ (Markup.shownOfEscaped_ne_nil hne')]
  exact Markup.forall_mem_getLast?_shownOfEscaped (by decide) htrimmed.last

/-- A text of one line that neither begins nor ends with a blank is read again behind the title of
the last error. It is read as it is exactly if it is printed as it is when it is escaped. -/
theorem readAgain_lastError (hline : Text.IsOneLine text.toList)
    (htrimmed : Text.IsTrimmed text.toList) (hne : text ≠ "") {console : Nat}
    (hroom : messageRoom (lastErrorText text) ≤ console) :
    ∃ line, readAgain (Fitting.message.lines false console (lastErrorText text)) = [line] ∧
      (line = "Last error: " ++ text ↔ PrintsAsIs text.toList) := by
  have hone : Text.IsOneLine (lastErrorText text).toList :=
    forall_mem_lastErrorText (fun _ => Json.IsPlain.endsLine_eq_false) hline
  have hread (h : ∀ c ∈ text.toList, c ≠ '\t' ∧ isDropped c = false) :
      String.ofList (Text.trimmedRight (printedLine (lastErrorText text))) =
        lastErrorText text := by
    rw [printedLine_lastErrorText h, trimmedRight_lastErrorText htrimmed hne, String.ofList_toList]
  refine ⟨_, readAgain_message hone hroom, ?_, fun h => ?_⟩
  · intro hsame
    have hprinted : ∀ c ∈ text.toList, c ≠ '\t' ∧ isDropped c = false := by
      intro c hc
      have hlist := congrArg String.toList hsame
      rw [String.toList_ofList, String.toList_append] at hlist
      have hmem : c ∈ Text.trimmedRight (printedLine (lastErrorText text)) := by
        rw [hlist]
        exact List.mem_append_right _ hc
      exact not_isDropped_of_mem_printedLine c ((Text.trimmedRight_isPrefix _).subset hmem)
    rw [hread hprinted, ← String.toList_inj, toList_lastErrorText, String.toList_append,
      List.append_cancel_left_eq, Markup.shownOfEscaped_eq_self_iff] at hsame
    exact ⟨hprinted, hsame.1, hsame.2⟩
  · rw [hread h.printed, lastErrorText,
      Markup.shownOfEscaped_eq_self_iff.mpr ⟨h.noLooseEscape, h.ending⟩, String.ofList_toList]

end Line

end OperandCleanup.Report
