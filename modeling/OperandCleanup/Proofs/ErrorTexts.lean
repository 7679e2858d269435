import OperandCleanup.Proofs.EventLog
import OperandCleanup.Proofs.Report.Console

/-!
# Errors on one line

An error quotes names of operands and mnemonics as they are, and a whole record only in the quoted
form of messages, in which nothing ends a line. Passes write names of their own, and copy names, but
make no others. So if nothing in the mnemonics and names of a document ends a line, then neither
does anything in what a cleanup reports.
-/

namespace OperandCleanup

namespace Text

theorem isOneLine_append {first second : List Char} (h : IsOneLine first) (h' : IsOneLine second) :
    IsOneLine (first ++ second) := List.forall_mem_append.mpr ⟨h, h'⟩

/-- Printable ASCII is on one line. -/
theorem isOneLine_of_isPlain {cs : List Char} (h : ∀ c ∈ cs, Json.IsPlain c) : IsOneLine cs :=
  fun c hc => (h c hc).endsLine_eq_false

/-- What ends a line is not printable. -/
theorem endsLine_eq_false_of_isPrintable {c : Char} (h : isPrintable c = true) :
    endsLine c = false := by
  refine Bool.eq_false_iff.mpr fun hend => ?_
  have hwide : ∀ code ∈ [0x85, 0x2028, 0x2029], isPrintable (Char.ofNat code) = false := by
    decide +kernel
  have hcode : c.toNat < 0x20 ∨ c.toNat ∈ [0x85, 0x2028, 0x2029] := by
    simp only [endsLine, Bool.or_eq_true, Bool.and_eq_true, decide_eq_true_eq, beq_iff_eq] at hend
    simp only [List.mem_cons, List.not_mem_nil, or_false]
    omega
  rcases hcode with hlow | hwider
  · rw [isPrintable, if_pos (by omega), decide_eq_true_eq] at h
    omega
  · have hunprintable := hwide c.toNat hwider
    rw [Char.ofNat_toNat, h] at hunprintable
    cases hunprintable

/-- A character between quotes is on one line. -/
theorem isOneLine_quotedChar {quote : Char} (hquote : Json.IsPlain quote) (c : Char) :
    IsOneLine (quotedChar quote c) := by
  rw [quotedChar]
  split
  case isTrue hescaped =>
    have hc : Json.IsPlain c := by
      rcases hescaped with rfl | rfl
      · exact hquote
      · decide
    exact isOneLine_of_isPlain
      (List.forall_mem_cons.mpr ⟨by decide, List.forall_mem_singleton.mpr hc⟩)
  case isFalse =>
    split
    · decide
    split
    · decide
    split
    · decide
    split
    case isTrue hprintable =>
      exact List.forall_mem_singleton.mpr (endsLine_eq_false_of_isPrintable hprintable)
    case isFalse =>
      have hcode (mark : Char) (hmark : Json.IsPlain mark) (width code : Nat) :
          IsOneLine ('\\' :: mark :: Hexadecimal.digits width code) :=
        isOneLine_of_isPlain (List.forall_mem_cons.mpr
          ⟨by decide, List.forall_mem_cons.mpr ⟨hmark, Json.isPlain_of_mem_digits⟩⟩)
      rw [escapedByCode]
      split
      · exact hcode 'x' (by decide) 2 _
      · split
        · exact hcode 'u' (by decide) 4 _
        · exact hcode 'U' (by decide) 8 _

/-- A quoted text is on one line, whatever it quotes. -/
theorem isOneLine_quotedList (cs : List Char) : IsOneLine (quotedList cs) := by
  have hquote : Json.IsPlain (quoteFor cs) := by
    rw [quoteFor]
    split <;> decide
  refine List.forall_mem_cons.mpr ⟨hquote.endsLine_eq_false, isOneLine_append (fun c hc => ?_)
    (List.forall_mem_singleton.mpr hquote.endsLine_eq_false)⟩
  obtain ⟨original, -, hquoted⟩ := List.mem_flatMap.mp hc
  exact isOneLine_quotedChar hquote original c hquoted

end Text

namespace Json

theorem isOneLine_literalItems {items : List Json}
    (h : ∀ item ∈ items, Text.IsOneLine item.literal) : Text.IsOneLine (literalItems items) := by
  induction items with
  | nil => exact List.forall_mem_nil _
  | cons item rest ih =>
    obtain ⟨hitem, hrest⟩ := List.forall_mem_cons.mp h
    cases rest with
    | nil => exact hitem
    | cons other others =>
      exact Text.isOneLine_append hitem
        (Text.isOneLine_append (by decide : Text.IsOneLine [',', ' ']) (ih hrest))

theorem isOneLine_literalMembers {members : Members}
    (h : ∀ member ∈ members, Text.IsOneLine member.2.literal) :
    Text.IsOneLine (literalMembers members) := by
  have hmember (name : String) {value : Json} (hvalue : Text.IsOneLine value.literal) :
      Text.IsOneLine (Text.quotedList name.toList ++ (':' :: ' ' :: value.literal)) :=
    Text.isOneLine_append (Text.isOneLine_quotedList _)
      (Text.isOneLine_append (by decide : Text.IsOneLine [':', ' ']) hvalue)
  induction members with
  | nil => exact List.forall_mem_nil _
  | cons member rest ih =>
    obtain ⟨hfirst, hrest⟩ := List.forall_mem_cons.mp h
    cases rest with
    | nil => exact hmember member.1 hfirst
    | cons other others =>
      exact Text.isOneLine_append (hmember member.1 hfirst)
        (Text.isOneLine_append (by decide : Text.IsOneLine [',', ' ']) (ih hrest))

/-- A value is on one line in a message. -/
theorem isOneLine_literal (value : Json) : Text.IsOneLine value.literal := by
  have hbracket {cs : List Char} (h : Text.IsOneLine cs) (left right : Char)
      (hleft : Text.endsLine left = false) (hright : Text.endsLine right = false) :
      Text.IsOneLine (left :: (cs ++ [right])) :=
    List.forall_mem_cons.mpr ⟨hleft, Text.isOneLine_append h
      (List.forall_mem_singleton.mpr hright)⟩
  have hdigit (c : Char) (h : c.isDigit = true) : IsPlain c := isPlain_of_isDigit h
  induction value using induction_parts with
  | null => decide
  | bool value => cases value <;> decide
  | int value => exact Text.isOneLine_of_isPlain isPlain_of_mem_writtenInt
  | float value =>
    exact Text.isOneLine_of_isPlain
      (forall_mem_render hdigit (isPlain_of_all rfl) (isPlain_of_all rfl) value)
  | string value => exact Text.isOneLine_quotedList value.toList
  | array items ih => exact hbracket (isOneLine_literalItems ih) '[' ']' (by decide) (by decide)
  | object members ih =>
    exact hbracket (isOneLine_literalMembers ih) '\x7b' '\x7d' (by decide) (by decide)

end Json

/-! ## Names -/

/-- Whether the mnemonic of a record and the names of its operands are on one line each. -/
structure Record.NamedOnOneLine (record : Record) : Prop where
  mnemonic : Text.IsOneLine record.mnemonic.toList
  operands : ∀ operand ∈ record.operands, Text.IsOneLine operand.name.toList

/-- Whether the mnemonics and names of a document are on one line each. -/
def Document.NamedOnOneLine (document : Document) : Prop :=
  ∀ record ∈ document.records, record.NamedOnOneLine

/-- Whether what a pass decides about a record is on one line: the names that it leaves, and the
message that it reports. -/
def Verdict.OnOneLine : Verdict → Prop
  | .unchanged => True
  | .changed revised added => revised.NamedOnOneLine ∧ ∀ record ∈ added, record.NamedOnOneLine
  | .malformed message => Text.IsOneLine message.toList
  | .corrupt headline => Text.IsOneLine headline.toList

namespace PointerSize

theorem isOneLine_source (size : PointerSize) : Text.IsOneLine size.source.toList := by
  cases size <;> decide

theorem isOneLine_destination (size : PointerSize) : Text.IsOneLine size.destination.toList := by
  cases size <;> decide

theorem isOneLine_accumulator (size : PointerSize) : Text.IsOneLine size.accumulator.toList := by
  cases size <;> decide

end PointerSize

namespace Pass

variable {record : Record}

/-- A message that ends with a name is on one line if the name is. -/
theorem isOneLine_message {headline name : String} (hheadline : Text.IsOneLine headline.toList)
    (hname : Text.IsOneLine name.toList) : Text.IsOneLine (headline ++ name).toList := by
  rw [String.toList_append]
  exact Text.isOneLine_append hheadline hname

/-- A record is left with operands whose names are on one line. -/
theorem onOneLine_changed (h : record.NamedOnOneLine) {operands : List Operand}
    (hoperands : ∀ operand ∈ operands, Text.IsOneLine operand.name.toList) :
    (Verdict.changed { record with operands := operands } []).OnOneLine :=
  ⟨⟨h.mnemonic, hoperands⟩, List.forall_mem_nil _⟩

theorem onOneLine_cmpsMovs (h : record.NamedOnOneLine) : (judgeCmpsMovs record).OnOneLine := by
  rw [judgeCmpsMovs]
  split
  case isFalse => trivial
  case isTrue =>
    split
    case h_2 =>
      exact (by decide : Text.IsOneLine
        "Unexpected number of operands of a CMPS/MOVS instruction.".toList)
    case h_1 first second hoperands =>
      split
      case h_1 =>
        exact isOneLine_message (by decide) (h.operands first (by simp [hoperands]))
      case h_2 size _ =>
        refine onOneLine_changed h ?_
        split
        · exact List.forall_mem_cons.mpr ⟨size.isOneLine_destination,
            List.forall_mem_singleton.mpr size.isOneLine_source⟩
        · exact List.forall_mem_cons.mpr ⟨size.isOneLine_source,
            List.forall_mem_singleton.mpr size.isOneLine_destination⟩

theorem onOneLine_insOuts (h : record.NamedOnOneLine) : (judgeInsOuts record).OnOneLine := by
  have haddress : Text.IsOneLine addressRegister.toList := by decide
  rw [judgeInsOuts]
  split
  case isFalse => trivial
  case isTrue =>
    split
    case h_2 =>
      exact (by decide : Text.IsOneLine
        "Unexpected number of operands of an INS/OUTS instruction.".toList)
    case h_1 first second hoperands =>
      split
      case h_1 =>
        have hfirst := h.operands first (by simp [hoperands])
        have hsecond := h.operands second (by simp [hoperands])
        exact isOneLine_message
          (isOneLine_message (isOneLine_message (by decide) hfirst) (by decide)) hsecond
      case h_2 size _ =>
        refine onOneLine_changed h ?_
        split
        · exact List.forall_mem_cons.mpr ⟨size.isOneLine_destination,
            List.forall_mem_singleton.mpr haddress⟩
        · exact List.forall_mem_cons.mpr ⟨haddress,
            List.forall_mem_singleton.mpr size.isOneLine_source⟩

theorem onOneLine_lodsScasStos (h : record.NamedOnOneLine) :
    (judgeLodsScasStos record).OnOneLine := by
  rw [judgeLodsScasStos]
  split
  case isFalse => trivial
  case isTrue hmnemonic =>
    split
    case h_2 => trivial
    case h_1 operand hoperands =>
      split
      case h_1 =>
        exact isOneLine_message (by decide) (h.operands operand (by simp [hoperands]))
      case h_2 size _ =>
        refine onOneLine_changed h (List.forall_mem_map.mpr ?_)
        rcases hmnemonic with hmnemonic | hmnemonic | hmnemonic <;> rw [hmnemonic]
        · exact List.forall_mem_cons.mpr ⟨size.isOneLine_accumulator,
            List.forall_mem_singleton.mpr size.isOneLine_source⟩
        · exact List.forall_mem_cons.mpr ⟨size.isOneLine_accumulator,
            List.forall_mem_singleton.mpr size.isOneLine_destination⟩
        · exact List.forall_mem_cons.mpr ⟨size.isOneLine_destination,
            List.forall_mem_singleton.mpr size.isOneLine_accumulator⟩

theorem onOneLine_vmovq (h : record.NamedOnOneLine) : (judgeVmovq record).OnOneLine := by
  rw [judgeVmovq]
  split
  case isFalse => trivial
  case isTrue =>
    split
    case h_2 =>
      exact (by decide : Text.IsOneLine
        "Unexpected number of operands of a VMOVQ instruction: ".toList)
    case h_1 first second hoperands =>
      split
      case isTrue => trivial
      case isFalse =>
        exact onOneLine_changed h (List.forall_mem_cons.mpr
          ⟨h.operands first (by simp [hoperands]), List.forall_mem_singleton.mpr
            (by decide : Text.IsOneLine registerOrMemory.toList)⟩)

/-- Operands with a register in place of the placeholder have names on one line. -/
theorem isOneLine_withRegister (h : record.NamedOnOneLine) {register : String}
    (hregister : Text.IsOneLine register.toList) :
    ∀ operand ∈ withRegister record.operands register, Text.IsOneLine operand.name.toList := by
  refine List.forall_mem_map.mpr fun operand hoperand => ?_
  split
  · exact hregister
  · exact h.operands operand hoperand

theorem onOneLine_generalRegister (h : record.NamedOnOneLine) :
    (judgeGeneralRegister record).OnOneLine := by
  rw [judgeGeneralRegister]
  split
  case isFalse => trivial
  case isTrue =>
    split
    case isTrue =>
      exact ⟨⟨h.mnemonic, isOneLine_withRegister h (by decide)⟩,
        List.forall_mem_singleton.mpr ⟨h.mnemonic, isOneLine_withRegister h (by decide)⟩⟩
    case isFalse =>
      split
      case h_1 => exact isOneLine_message (by decide) h.mnemonic
      case h_2 register hregister =>
        refine onOneLine_changed h (isOneLine_withRegister h ?_)
        rw [singleRegister?] at hregister
        split at hregister
        · obtain rfl := Option.some.inj hregister
          decide
        split at hregister
        · obtain rfl := Option.some.inj hregister
          decide
        split at hregister
        · obtain rfl := Option.some.inj hregister
          decide
        · cases hregister

theorem onOneLine_renameSynonyms (h : record.NamedOnOneLine) :
    (judgeSynonyms record).OnOneLine := by
  have hcanonical : ∀ entry ∈ synonyms, Text.IsOneLine entry.2.toList := by decide
  rw [judgeSynonyms]
  split
  case isFalse => trivial
  case isTrue =>
    refine onOneLine_changed h (List.forall_mem_map.mpr fun operand hoperand => ?_)
    rw [canonicalOperand]
    split
    case h_1 name hname =>
      exact hcanonical (operand.name, name) (mem_synonyms_of_canonicalName? hname)
    case h_2 => exact h.operands operand hoperand

theorem onOneLine_judgeRemoval (h : record.NamedOnOneLine) (name : String) :
    (judgeRemoval name record).OnOneLine := by
  rw [judgeRemoval]
  split
  case isTrue =>
    exact onOneLine_changed h fun operand hoperand =>
      h.operands operand (List.mem_filter.mp hoperand).1
  case isFalse => trivial

theorem onOneLine_stackTop (h : record.NamedOnOneLine) : (judgeStackTop record).OnOneLine := by
  rw [judgeStackTop]
  split
  · exact onOneLine_judgeRemoval h stackTop
  · trivial

/-- What a pass of the library decides about a record with names on one line is on one line. -/
theorem onOneLine_of_mem_standard {pass : Pass} (hpass : pass ∈ standard)
    (h : record.NamedOnOneLine) : (pass.judge record).OnOneLine := by
  simp only [standard, List.mem_cons, List.not_mem_nil, or_false] at hpass
  rcases hpass with rfl | rfl | rfl | rfl | rfl | rfl | rfl | rfl
  · exact onOneLine_cmpsMovs h
  · exact onOneLine_insOuts h
  · exact onOneLine_lodsScasStos h
  · exact onOneLine_vmovq h
  · exact onOneLine_generalRegister h
  · exact onOneLine_renameSynonyms h
  · exact onOneLine_stackTop h
  · exact onOneLine_judgeRemoval h impliedVector

variable {pass : Pass}

theorem namedOnOneLine_revise (hpass : pass ∈ standard) (h : record.NamedOnOneLine) :
    (pass.revise record).NamedOnOneLine := by
  have hjudged := onOneLine_of_mem_standard hpass h
  unfold revise
  cases hjudge : pass.judge record with
  | unchanged => exact h
  | changed revised added =>
    rw [hjudge] at hjudged
    exact hjudged.1
  | malformed message => exact h
  | corrupt headline => exact h

theorem namedOnOneLine_additions (hpass : pass ∈ standard) (h : record.NamedOnOneLine) :
    ∀ added ∈ pass.additions record, added.NamedOnOneLine := by
  have hjudged := onOneLine_of_mem_standard hpass h
  unfold additions
  cases hjudge : pass.judge record with
  | unchanged => exact List.forall_mem_nil _
  | changed revised added =>
    rw [hjudge] at hjudged
    exact hjudged.2
  | malformed message => exact List.forall_mem_nil _
  | corrupt headline => exact List.forall_mem_nil _

/-- A pass of the library leaves names on one line if it meets such. -/
theorem namedOnOneLine_apply (hpass : pass ∈ standard) {document : Document}
    (h : document.NamedOnOneLine) : (pass.apply document).document.NamedOnOneLine := by
  refine pass.forall_mem_apply (P := Record.NamedOnOneLine) ?_ ?_ h
  · exact fun record hrecord => namedOnOneLine_revise hpass hrecord
  · exact fun record hrecord => namedOnOneLine_additions hpass hrecord

end Pass

/-! ## Reported errors -/

/-- Whether an error is shown as a line of its own: it is on one line, there is something on it, and
it neither begins nor ends with a blank. -/
structure DataError.IsLine (error : DataError) : Prop where
  oneLine : Text.IsOneLine error.describe.toList
  trimmed : Text.IsTrimmed error.describe.toList
  ne_empty : error.describe ≠ ""

namespace Pass

variable {pass : Pass} {record : Record} {index : Nat} {error : DataError}

/-- The message about a record with names on one line is on one line, also one that gives the whole
record. -/
theorem isOneLine_message_of_errorFor? (hpass : pass ∈ standard) (h : record.NamedOnOneLine)
    (herror : pass.errorFor? index record = some error) :
    Text.IsOneLine error.message.toList := by
  have hjudged := onOneLine_of_mem_standard hpass h
  unfold errorFor? at herror
  cases hjudge : pass.judge record with
  | unchanged => simp [hjudge] at herror
  | changed revised added => simp [hjudge] at herror
  | malformed message =>
    rw [hjudge] at hjudged herror
    rwa [← Option.some.inj herror]
  | corrupt headline =>
    rw [hjudge] at hjudged herror
    rw [← Option.some.inj herror]
    refine isOneLine_message hjudged ?_
    rw [String.toList_ofList]
    exact Json.isOneLine_literal record.toJson

/-- The place of an error that a pass reports. -/
theorem place_of_errorFor? (hname : pass.name ≠ "")
    (herror : pass.errorFor? index record = some error) :
    error.place = "[" ++ pass.name ++ "]" ++ (" record #" ++ (Json.int index).text) := by
  have habout := pass.isAbout_of_errorFor? herror
  rw [DataError.place, DataError.indexText?, (pass.errorFor?_plain herror).2, habout.transform,
    habout.recordIndex, if_neg hname, Json.text_int]
  rfl

theorem isLine_of_errorFor? (hpass : pass ∈ standard) (h : record.NamedOnOneLine)
    (herror : pass.errorFor? index record = some error) : error.IsLine := by
  have hnames : ∀ pass ∈ standard, pass.name ≠ "" ∧ Text.IsOneLine pass.name.toList := by decide
  obtain ⟨hname, hline⟩ := hnames pass hpass
  have hindex : Text.IsOneLine (Json.int index).text.toList := by
    change Text.IsOneLine (String.ofList (Json.writtenInt index)).toList
    rw [String.toList_ofList]
    exact Text.isOneLine_of_isPlain Json.isPlain_of_mem_writtenInt
  have hplace := place_of_errorFor? hname herror
  refine ⟨Text.forall_mem_trim ?_, Text.isTrimmed_trim _, Text.trim_ne_empty (c := '[') ?_ rfl⟩
  · rw [hplace]
    simp only [String.toList_append]
    refine Text.isOneLine_append (Text.isOneLine_append (Text.isOneLine_append
      (Text.isOneLine_append (Text.isOneLine_append (by decide) hline) (by decide))
      (Text.isOneLine_append (by decide) hindex)) (by decide)) ?_
    exact isOneLine_message_of_errorFor? hpass h herror
  · rw [hplace]
    simp only [String.toList_append]
    rfl

end Pass

/-- The errors of passes of the library, one after the other on a document with names on one line,
are shown as lines. -/
theorem Pipeline.isLine_of_mem_errors {passes : List Pass}
    (hpasses : ∀ pass ∈ passes, pass ∈ Pass.standard) {document : Document}
    (h : document.NamedOnOneLine) {error : DataError}
    (herror : error ∈ (bestEffort passes document).errors) : error.IsLine := by
  induction passes generalizing document with
  | nil => cases herror
  | cons pass rest ih =>
    obtain ⟨hpass, hrest⟩ := List.forall_mem_cons.mp hpasses
    rw [Run.errors, bestEffort_outcomes_cons, List.flatMap_cons] at herror
    rcases List.mem_append.mp herror with hfirst | hlater
    · rw [outcomeOf, Pass.scan_errors] at hfirst
      obtain ⟨_, record, hrecord, herror⟩ := pass.mem_errorsFrom.mp hfirst
      have hmem : record ∈ document.records :=
        pass.mem_of_mem_reached (List.mem_of_getElem? hrecord)
      exact Pass.isLine_of_errorFor? hpass (h record hmem) herror
    · exact ih hrest (Pass.namedOnOneLine_apply hpass h) hlater

/-- The errors of a cleanup of a document with names on one line are shown as lines. -/
theorem isLine_of_cleanup {config : Config} (hconfig : config.KnownTo Registry.default)
    {document : Document} (h : document.NamedOnOneLine) {run : Run}
    (hrun : cleanup document config = .ok run) : ∀ error ∈ run.errors, error.IsLine := by
  obtain ⟨applied, happlied, houtcomes, -, -⟩ :=
    Pipeline.exists_bestEffort config.failFast (Pass.selected config) document
  obtain rfl := Except.ok.inj ((cleanup_selected hconfig document).symm.trans hrun)
  intro error herror
  have herror : error ∈ (Pipeline.bestEffort applied document).errors := by
    rw [Run.errors, ← houtcomes]
    exact herror
  refine Pipeline.isLine_of_mem_errors (fun pass hpass => ?_) h herror
  exact (List.mem_filter.mp (happlied.subset hpass)).1

end OperandCleanup
