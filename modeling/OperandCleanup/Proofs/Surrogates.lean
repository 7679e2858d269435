import OperandCleanup.Document.CodePoint
import OperandCleanup.Proofs.Canonical
import OperandCleanup.Proofs.Json.CodePoint

/-!
# Documents with surrogates

The text of a document stays canonical where its texts hold surrogates, but for one case: a high
surrogate and a low one side by side are written as the character that they are the pair of. So two
documents that are not equal may have the same text. Without such a pair documents of the same text
are equal, and equal documents have the same text in any case.
-/

namespace OperandCleanup

open CodePoint (isMarked isPairFree mark)

/-! ## Texts in documents -/

section Written

variable {test : String → Bool} {names : List String} {known extras : Json.Members}

/-- The texts that are written of known members and of others are theirs. -/
theorem allTexts_known_append (hnames : ∀ name ∈ names, test name = true)
    (hknown : (known.map (·.1)).Sublist names)
    (hvalues : ∀ member ∈ known, member.2.AllTexts test)
    (hextras : ∀ member ∈ extras, test member.1 = true ∧ member.2.AllTexts test) :
    (Json.object (known ++ writtenExtras extras)).AllTexts test := by
  rw [Json.allTexts_object, List.forall_mem_append]
  refine ⟨fun member hmember => ⟨hnames _ (hknown.subset (List.mem_map_of_mem hmember)),
    hvalues member hmember⟩, ?_⟩
  rw [writtenExtras, Json.finiteMembers_eq_map]
  refine List.forall_mem_map.mpr fun member hmember => ?_
  obtain ⟨hname, hvalue⟩ := hextras member (List.mem_filter.mp hmember).1
  exact ⟨hname, Json.throughout_finite
    (fun value h => (Json.hasTexts_finite test value).trans h) hvalue⟩

end Written

/-- The texts of an operand that is loaded from a value of marked texts are marked. -/
theorem Operand.isMarked_toJson {value : Json} (hvalue : value.AllTexts isMarked)
    {operand : Operand} (h : ofJson value = .ok operand) : operand.toJson.AllTexts isMarked := by
  obtain ⟨members, rfl, hmembers⟩ := ofJson_eq_ok_iff.mp h
  obtain ⟨hname, -, -, hextras⟩ := ofMembers_eq_ok_iff.mp hmembers
  have hall := Json.allTexts_object.mp hvalue
  have hnamed : isMarked operand.name = true :=
    (hall _ (Json.Members.mem_of_lookup_eq_some hname)).2
  have husage (usage : Usage) : isMarked usage.name = true := by cases usage <;> rfl
  have hencoding (encoding : Encoding) : isMarked encoding.name = true := by cases encoding <;> rfl
  refine allTexts_known_append (by decide) operand.names_knownMembers_sublist ?_ ?_
  · rw [List.cons_append, List.forall_mem_cons, List.forall_mem_append, List.forall_mem_map,
      List.forall_mem_map]
    exact ⟨hnamed, fun usage _ => husage usage, fun encoding _ => hencoding encoding⟩
  · rw [hextras]
    exact fun member hmember => hall member (List.mem_filter.mp hmember).1

/-- The texts of a record that is loaded from members of marked texts are marked. -/
theorem Record.isMarked_toJson {members : Json.Members}
    (hmembers : (Json.object members).AllTexts isMarked) {record : Record}
    (h : ofMembers members = .ok record) : record.toJson.AllTexts isMarked := by
  obtain ⟨hmnemonic, hencoding, hoperands, hextras⟩ := ofMembers_eq_ok_iff.mp h
  have hall := Json.allTexts_object.mp hmembers
  have hnamed : isMarked record.mnemonic = true :=
    (hall _ (Json.Members.mem_of_lookup_eq_some hmnemonic)).2
  have hencoded : isMarked record.binaryEncoding = true := by
    rcases Checked.withDefault_eq_ok_iff.mp hencoding with ⟨-, hnone⟩ | ⟨value, hvalue, htext⟩
    · rw [hnone]
      rfl
    · obtain rfl := Checked.text_eq_ok_iff.mp htext
      exact (hall _ (Json.Members.mem_of_lookup_eq_some hvalue)).2
  have hlisted : (Json.array (record.operands.map Operand.toJson)).AllTexts isMarked := by
    rw [Json.allTexts_array, List.forall_mem_map]
    rcases Checked.withDefault_eq_ok_iff.mp hoperands with ⟨-, hnone⟩ | ⟨value, hvalue, hlist⟩
    · rw [hnone]
      exact fun _ hoperand => absurd hoperand List.not_mem_nil
    · obtain ⟨items, rfl, hitems⟩ := Checked.list_eq_ok_iff.mp hlist
      have harray := Json.allTexts_array.mp (hall _ (Json.Members.mem_of_lookup_eq_some hvalue)).2
      intro operand hoperand
      have hloaded : Except.ok operand ∈ items.map Operand.ofJson := by
        rw [hitems]
        exact List.mem_map_of_mem hoperand
      obtain ⟨item, hitem, hof⟩ := List.mem_map.mp hloaded
      exact Operand.isMarked_toJson (harray item hitem) hof
  refine allTexts_known_append (by decide) record.names_knownMembers_sublist ?_ ?_
  · simp only [knownMembers, List.forall_mem_cons]
    exact ⟨hnamed, hencoded, hlisted, fun _ hmember => absurd hmember List.not_mem_nil⟩
  · rw [hextras]
    exact fun member hmember => hall member (List.mem_filter.mp hmember).1

namespace Document

/-- The texts of a document that is loaded from a value of marked texts are marked. -/
theorem isMarked_toJson {value : Json} (hvalue : value.AllTexts isMarked) {document : Document}
    (h : ofJson value = .ok document) : document.toJson.AllTexts isMarked := by
  obtain ⟨members, lists, rfl, hitems, hrecords⟩ := ofJson_eq_ok_iff.mp h
  have hlists : ∀ members ∈ lists, (Json.object members).AllTexts isMarked := by
    cases hfound : members.get? "instructions" with
    | none =>
      rw [hfound] at hitems
      have hnil : lists = [] := List.map_eq_nil_iff.mp (Json.array.inj hitems).symm
      rw [hnil]
      exact fun _ hmem => absurd hmem List.not_mem_nil
    | some value =>
      rw [hfound] at hitems
      have harray := (Json.allTexts_object.mp hvalue _
        (Json.Members.mem_of_lookup_eq_some hfound)).2
      rw [show value = .array (lists.map .object) from hitems, Json.allTexts_array,
        List.forall_mem_map] at harray
      exact harray
  have hname : isMarked "instructions" = true := by decide
  refine Json.allTexts_object.mpr (List.forall_mem_singleton.mpr ⟨hname, ?_⟩)
  rw [Json.allTexts_array, List.forall_mem_map]
  intro record hrecord
  have hloaded : Except.ok record ∈ lists.map Record.ofMembers := by
    rw [hrecords]
    exact List.mem_map_of_mem hrecord
  obtain ⟨list, hlist, hof⟩ := List.mem_map.mp hloaded
  exact Record.isMarked_toJson (hlists list hlist) hof

/-- A document that is loaded from a text of code points, or from a value whose texts are marked and
in which no object names two members alike. -/
inductive LoadedPoints : Document → Prop
  | read {codes : List CodePoint} {document : Document} (h : parsePoints codes = .ok document) :
      LoadedPoints document
  | loaded {value : Json} {document : Document} (hvalue : value.Unambiguous)
      (htexts : value.AllTexts isMarked) (h : ofJson value = .ok document) : LoadedPoints document

/-- Every such document is loaded from a value. -/
theorem LoadedPoints.exists_value {document : Document} (h : document.LoadedPoints) :
    ∃ value : Json, value.Unambiguous ∧ value.AllTexts isMarked ∧ ofJson value = .ok document := by
  cases h with
  | loaded hvalue htexts h => exact ⟨_, hvalue, htexts, h⟩
  | read h =>
    rw [parsePoints] at h
    split at h
    · cases h
    · rename_i value hread
      exact ⟨value, (Json.wellFormed_of_readPoints hread).unambiguous,
        Json.isMarked_of_readPoints hread, h⟩

variable {document other : Document}

/-- Such a document is well formed. -/
theorem LoadedPoints.wellFormed (h : document.LoadedPoints) : document.WellFormed := by
  obtain ⟨value, hvalue, -, hloaded⟩ := h.exists_value
  exact wellFormed_of_ofJson hvalue hloaded

/-- Where no surrogates stand side by side as a pair, the texts of such a document are told
apart. -/
theorem LoadedPoints.allTexts (h : document.LoadedPoints)
    (hfree : document.toJson.AllTexts isPairFree) :
    document.toJson.AllTexts fun s => isMarked s && isPairFree s := by
  obtain ⟨value, -, htexts, hloaded⟩ := h.exists_value
  exact (isMarked_toJson htexts hloaded).and hfree

/-! ## Documents without the mark -/

/-- Code points whose quoted texts hold neither surrogates nor the mark are loaded as the text that
they are shown as. -/
theorem parsePoints_eq_parse {codes : List CodePoint}
    (h : ∀ entry ∈ Json.pointTokens codes, ∀ s, entry.2 = .text s → mark ∉ s.toList) :
    parsePoints codes = parse (codes.map CodePoint.shown) := by
  rw [parsePoints, Json.readPoints_eq_read h]
  cases hread : Json.read (codes.map CodePoint.shown) <;> simp only [parse, hread]

/-- A document without the mark has the text that it has as one of characters. -/
theorem pointText_eq_text (h : document.toJson.AllTexts fun s => decide (mark ∉ s.toList)) :
    document.pointText = document.text := by
  have hquoted (s : String) (hs : decide (mark ∉ s.toList) = true) :
      Json.writtenMarked s = Json.writtenText s :=
    Json.writtenMarked_of_notMem (of_decide_eq_true hs)
  exact congrArg String.ofList
    (Json.writtenBy_eq_writtenAt hquoted (Json.allTexts_sorted.mpr h) 0)

/-! ## Canonical texts -/

/-- The text of a document of code points is canonical but for surrogate pairs. Documents that carry
no floating-point numbers are equal if they have the same text and no text in them, names among
them, holds a high surrogate right before a low one. They have the same text if they are equal and
carry no booleans either. Texts whose values differ in the order of members only are loaded as
documents of the same text, or not loaded for the same reason. -/
theorem pointText_canonical :
    (∀ document other : Document, document.LoadedPoints → other.LoadedPoints →
      document.CarriesOnly Json.FloatFree → other.CarriesOnly Json.FloatFree →
        (document.toJson.AllTexts isPairFree → other.toJson.AllTexts isPairFree →
          document.pointText = other.pointText → document.equals other = true) ∧
        (document.CarriesOnly Json.BoolFree → other.CarriesOnly Json.BoolFree →
          document.equals other = true → document.pointText = other.pointText)) ∧
      ∀ (codes codes' : List CodePoint) (value value' : Json), Json.readPoints codes = .ok value →
        Json.readPoints codes' = .ok value' → Json.Reordering value value' →
          (parsePoints codes').map pointText = (parsePoints codes).map pointText := by
  constructor
  · intro document other h hother hfree hfree'
    constructor
    · intro hpairs hpairs' htext
      exact equals_of_writtenBy_eq Json.quoting_writtenMarked h.wellFormed hother.wellFormed hfree
        hfree' (h.allTexts hpairs) (hother.allTexts hpairs') (String.ofList_injective htext)
    · intro hbool hbool' hequal
      rw [pointText, pointText, sorted_toJson_eq_of_equals h.wellFormed hother.wellFormed hfree
        hfree' hbool hbool' hequal]
  · intro codes codes' value value' hread hread' hreordering
    rw [parsePoints, parsePoints, hread, hread']
    exact map_write_ofJson_of_reordering
      (fun value => String.ofList (Json.writtenBy Json.writtenMarked 0 value)) (fun _ => rfl)
      (Json.wellFormed_of_readPoints hread).unambiguous hreordering

/-- A text of an instruction whose note is a surrogate alone. -/
def loneSurrogate : List CodePoint :=
  "\x7b\"instructions\":[\x7b\"mnemonic\":\"NOP\",\"size\":1,\"note\":\"".toList.map .char ++
    .surrogate 0x3d :: "\"\x7d]\x7d".toList.map .char

/-- A text of the same instruction, with the members of the record permuted. -/
def loneSurrogateFirst : List CodePoint :=
  "\x7b\"instructions\":[\x7b\"note\":\"".toList.map .char ++
    .surrogate 0x3d :: "\",\"mnemonic\":\"NOP\",\"size\":1\x7d]\x7d".toList.map .char

/-- The two texts are loaded as different documents that are equal and have the same text. -/
theorem pointText_canonical_loneSurrogate :
    ∃ first second : Document, parsePoints loneSurrogate = .ok first ∧
      parsePoints loneSurrogateFirst = .ok second ∧ first ≠ second ∧
      first.pointText = second.pointText ∧ first.equals second = true := by
  let note : String × Json := ("note", .string (CodePoint.markedText [.surrogate 0x3d]))
  let first : Document := ⟨[{ mnemonic := "NOP", extras := [("size", .int 1), note] }]⟩
  let second : Document := ⟨[{ mnemonic := "NOP", extras := [note, ("size", .int 1)] }]⟩
  have hfirst : parsePoints loneSurrogate = .ok first := rfl
  have hsecond : parsePoints loneSurrogateFirst = .ok second := rfl
  have hmembers : [("mnemonic", Json.string "NOP"), ("size", .int 1), note].Perm
      [note, ("mnemonic", .string "NOP"), ("size", .int 1)] :=
    List.perm_append_singleton note [("mnemonic", .string "NOP"), ("size", .int 1)]
  have hreordering : Json.Reordering
      (.object [("instructions", .array [.object [("mnemonic", .string "NOP"), ("size", .int 1),
        note]])])
      (.object [("instructions", .array [.object [note, ("mnemonic", .string "NOP"),
        ("size", .int 1)]])]) :=
    .member [] [] "instructions" (.item [] [] (.members hmembers))
  obtain ⟨hdocuments, hsources⟩ := pointText_canonical
  have htext : first.pointText = second.pointText := by
    have hmapped := hsources loneSurrogate loneSurrogateFirst _ _ rfl rfl hreordering
    rw [hfirst, hsecond] at hmapped
    exact (Except.ok.inj hmapped).symm
  obtain ⟨hequal, hsame⟩ := hdocuments first second (.read hfirst) (.read hsecond) (by decide)
    (by decide)
  have hequals : first.equals second = true := hequal (by decide) (by decide) htext
  exact ⟨first, second, hfirst, hsecond, by decide, hsame (by decide) (by decide) hequals, hequals⟩

/-- The document of an instruction with a note. -/
def noted (note : List CodePoint) : Document :=
  ⟨[{ mnemonic := "X", extras := [("note", .string (CodePoint.markedText note))] }]⟩

/-- A text of an instruction with a note, which is written as given. -/
def notedPoints (note : List CodePoint) : List CodePoint :=
  "\x7b\"instructions\":[\x7b\"mnemonic\":\"X\",\"note\":\"".toList.map .char ++ note ++
    "\"\x7d]\x7d".toList.map .char

/-- A surrogate pair and the character of the pair have the same text in documents that are not
equal. The pair is read from a high surrogate with the escape of a low one behind it. -/
theorem pointText_surrogatePair :
    ∃ first second : Document,
      parsePoints (notedPoints (.surrogate 0x3d :: "\\ude00".toList.map .char)) = .ok first ∧
      parsePoints (notedPoints ("\\ud83d\\ude00".toList.map .char)) = .ok second ∧
      first.CarriesOnly Json.FloatFree ∧ second.CarriesOnly Json.FloatFree ∧
      first.pointText = second.pointText ∧ first.equals second = false := by
  refine ⟨noted [.surrogate 0x3d, .surrogate 0x600], noted [.char (Char.ofNat 0x1f600)], rfl, rfl,
    by decide, by decide, congrArg String.ofList ?_, by decide⟩
  rfl

end Document

end OperandCleanup
