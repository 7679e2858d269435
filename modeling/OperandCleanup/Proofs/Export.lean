import OperandCleanup.Proofs.Reload

/-!
# What is exported of what was loaded

The fields of a record without a meaning here are carried from the text that is loaded to the value
that is exported after a cleanup, record by record. Two things happen to them on the way: a field
that is null is left out, and a number that is not finite becomes null. A field without either
survives unchanged, in the value and in the text that is written of it.
-/

namespace OperandCleanup

namespace Json

/-- Of a value that is left out if it is null, and has null in place of numbers that are not finite,
the same is left just when it is not null and its numbers are finite. -/
theorem map_finite_filter_eq_iff {value : Json} :
    ((some value).filter fun value => !value.isNull).map finite = some value ↔
      value ≠ .null ∧ value.AllFinite := by
  rw [← finite_eq_self_iff]
  cases value <;> simp [Option.filter_some, isNull]

/-- The members of an object; other values have none. -/
def membersOf : Json → Members
  | .object members => members
  | _ => []

/-- The members of a sorted value are sorted. -/
theorem membersOf_sorted (value : Json) :
    membersOf value.sorted = sortedMembers value.membersOf := by
  cases value <;> rfl

end Json

namespace Document

/-- The fields of the records in a document's value, record by record. -/
def fields (value : Json) : List Json.Members :=
  match value.membersOf.get? "instructions" with
  | some (.array items) => items.map Json.membersOf
  | _ => []

/-- The fields of a record are parts of the value. -/
theorem throughout_of_mem_fields {test : Json → Bool} (hobject : test (.object []) = true)
    {value : Json} (h : Json.throughout test value = true) {given : Json.Members}
    (hgiven : given ∈ fields value) : Json.throughout test (.object given) = true := by
  rw [fields] at hgiven
  split at hgiven
  · rename_i items hitems
    obtain ⟨item, hitem, rfl⟩ := List.mem_map.mp hgiven
    cases value with
    | object members =>
      have harray := (Json.throughout_object.mp h).2 _ (Json.Members.mem_of_lookup_eq_some hitems)
      have hpart := (Json.throughout_array.mp harray).2 item hitem
      cases item with
      | object => exact hpart
      | _ => exact Json.throughout_object.mpr ⟨hobject, fun _ hmem => absurd hmem List.not_mem_nil⟩
    | _ => simp [Json.membersOf, Json.Members.get?] at hitems
  · exact absurd hgiven List.not_mem_nil

/-- The records of a document are those of the fields in the value it is loaded from. -/
theorem map_ofMembers_fields {value : Json} {document : Document}
    (h : ofJson value = .ok document) :
    (fields value).map Record.ofMembers = document.records.map .ok := by
  obtain ⟨members, lists, rfl, hitems, hrecords⟩ := ofJson_eq_ok_iff.mp h
  have hfields : fields (.object members) = lists := by
    rw [fields, Json.membersOf]
    cases hfound : members.get? "instructions" with
    | none =>
      rw [hfound] at hitems
      exact (List.map_eq_nil_iff.mp (Json.array.inj hitems).symm).symm
    | some value =>
      rw [hfound, Option.getD_some] at hitems
      rw [hitems]
      exact (List.map_map ..).trans (List.map_id lists)
  rw [hfields, hrecords]

/-- The fields in a sorted value are sorted, record by record. -/
theorem fields_sorted (value : Json) :
    fields value.sorted = (fields value).map Json.sortedMembers := by
  have hitems : (Json.membersOf value.sorted).get? "instructions" =
      (value.membersOf.get? "instructions").map Json.sorted := by
    rw [Json.membersOf_sorted]
    exact Json.lookup_sortedMembers value.membersOf "instructions"
  rw [fields, fields, hitems]
  cases value.membersOf.get? "instructions" with
  | none => rfl
  | some list =>
    cases list with
    | array items =>
      simp only [Option.map_some, Json.sorted, Json.sortedItems_eq_map, List.map_map]
      exact List.map_congr_left fun item _ => Json.membersOf_sorted item
    | _ => rfl

/-- What the parts of a value are asked for is asked of all that a document carries that is loaded
from it. -/
theorem carriesOnly_of_ofJson {test : Json → Bool} {value : Json}
    (hvalue : Json.throughout test value = true) {document : Document}
    (h : ofJson value = .ok document) :
    document.CarriesOnly fun value => Json.throughout test value = true := by
  have hmembers (members : Json.Members) (hobject : Json.throughout test (.object members) = true)
      (known : List String) :
      ∀ member ∈ members.without known, Json.throughout test member.2 = true :=
    fun member hmember =>
      (Json.throughout_object.mp hobject).2 member (List.mem_filter.mp hmember).1
  exact carries_of_ofJson (fun members hobject => hmembers members hobject _)
    (fun members hobject => hmembers members hobject _) hvalue h

/-- The fields that are exported are those of the records. -/
theorem fields_toJson (document : Document) :
    fields document.toJson = document.records.map Record.toMembers := by
  change (document.records.map Record.toJson).map Json.membersOf = _
  rw [List.map_map]
  rfl

end Document

namespace Record

/-- What is carried along from loaded members are those without the known names. -/
theorem lookup_extras {members : Json.Members} {record : Record}
    (h : ofMembers members = .ok record) (hdistinct : (members.map (·.1)).Nodup) {name : String}
    (hname : name ∉ memberNames) : record.extras.lookup name = members.get? name := by
  rw [(ofMembers_eq_ok_iff.mp h).2.2.2, Json.Members.lookup_without hdistinct, if_neg hname]
  rfl

/-- The members that are written give a name that is not known its finite value unless it is
null. -/
theorem lookup_toMembers {record : Record} (h : record.WellFormed) {name : String}
    (hname : name ∉ memberNames) :
    record.toMembers.get? name =
      ((record.extras.lookup name).filter fun value => !value.isNull).map Json.finite := by
  rw [Json.Members.get?, toMembers_eq, lookup_known_append record.names_knownMembers_sublist h.own,
    if_neg hname, lookup_writtenExtras h.own.distinct]

end Record

/-- What the parts of a value are asked for is asked of all that the document loaded from it carries
after a cleanup. -/
theorem carriesOnly_cleanup {config : Config} (hconfig : config.KnownTo Registry.default)
    {test : Json → Bool} {value : Json} (hvalue : Json.throughout test value = true)
    {document : Document} (hload : Document.ofJson value = .ok document) {run : Run}
    (hrun : cleanup document config = .ok run) :
    run.document.CarriesOnly fun value => Json.throughout test value = true :=
  carries_cleanup (fun _ h => absurd h List.not_mem_nil) hconfig hrun
    (Document.carriesOnly_of_ofJson hvalue hload)

/-- What is exported of the fields that were loaded. After a cleanup by any selection of passes the
record at an index gives each name without a meaning the finite value of the field of that name in
the record at that index of the text, unless it is null; and the text that is written gives it the
same value, with members in the order of their names. So a field comes out as it was just when it is
not null and its numbers are all finite. -/
theorem cleanup_exports {config : Config} (hconfig : config.KnownTo Registry.default)
    {text : List Char} {value : Json} {document : Document} (hread : Json.read text = .ok value)
    (hload : Document.ofJson value = .ok document) :
    ∃ run saved, cleanup document config = .ok run ∧
      Json.read run.document.text.toList = .ok saved ∧
      ∀ (index : Nat) (given : Json.Members), (Document.fields value)[index]? = some given →
        ∃ exported written, (Document.fields run.document.toJson)[index]? = some exported ∧
          (Document.fields saved)[index]? = some written ∧
          ∀ name ∉ Record.memberNames,
            exported.get? name =
                ((given.get? name).filter fun field => !field.isNull).map Json.finite ∧
              written.get? name = (exported.get? name).map Json.sorted ∧
              ∀ field, given.get? name = some field →
                (exported.get? name = some field ↔ field ≠ .null ∧ field.AllFinite) := by
  have hvalue := Json.wellFormed_of_read hread
  have hreachable := Document.Reachable.loaded hvalue.unambiguous hload
  obtain ⟨run, hrun, hframe, -⟩ := cleanup_frame hconfig document
  have hwell := (hreachable.cleanup hconfig hrun).wellFormed
  have hcanonical := carriesOnly_cleanup hconfig hvalue.canonical hload hrun
  have hreadable := carriesOnly_cleanup hconfig hvalue.readable hload hrun
  have hsaved : Json.read run.document.text.toList = .ok run.document.toJson.sorted := by
    simpa using Document.read_text hwell hcanonical hreadable fun _ h => absurd h List.not_mem_nil
  refine ⟨run, _, hrun, hsaved, fun index given hgiven => ?_⟩
  have hdistinct : (given.map (·.1)).Nodup := (Json.unambiguous_object.mp
    (Document.throughout_of_mem_fields rfl hvalue.unambiguous (List.mem_of_getElem? hgiven))).1
  have hloaded : (document.records.map Except.ok)[index]? = some (Record.ofMembers given) := by
    rw [← Document.map_ofMembers_fields hload, List.getElem?_map, hgiven, Option.map_some]
  obtain ⟨record, hrecord, hgivenRecord⟩ := Option.map_eq_some_iff.mp
    ((List.getElem?_map ..).symm.trans hloaded)
  obtain ⟨left, hleft, -, -, hextras, -⟩ := hframe index record hrecord
  have hfields : (Document.fields run.document.toJson)[index]? = some left.toMembers := by
    rw [Document.fields_toJson, List.getElem?_map, hleft, Option.map_some]
  refine ⟨left.toMembers, Json.sortedMembers left.toMembers, hfields, ?_, fun name hname => ?_⟩
  · rw [Document.fields_sorted, List.getElem?_map, hfields, Option.map_some]
  · have hexported := Record.lookup_toMembers (hwell left (List.mem_of_getElem? hleft)) hname
    rw [hextras, Record.lookup_extras hgivenRecord.symm hdistinct hname] at hexported
    refine ⟨hexported, Json.lookup_sortedMembers left.toMembers name, fun field hfield => ?_⟩
    rw [hexported, hfield]
    exact Json.map_finite_filter_eq_iff

/-- A text with fields of every fate: one that stays, one that is null, one that is not a number. -/
def mixedText : String :=
  "\x7b\"instructions\":[\x7b\"mnemonic\":\"NOP\",\"a\":[null,0.5],\"b\":null,\"c\":NaN\x7d]\x7d"

/-- Of the mixed fields one comes out as it was, also in the text; one is left out, and one becomes
null. -/
theorem cleanup_exports_mixed :
    ({} : Config).KnownTo Registry.default ∧
      ∃ value document run saved exported written, Json.read mixedText.toList = .ok value ∧
        Document.ofJson value = .ok document ∧ cleanup document = .ok run ∧
        Json.read run.document.text.toList = .ok saved ∧
        (Document.fields run.document.toJson)[0]? = some exported ∧
        (Document.fields saved)[0]? = some written ∧
        exported.get? "a" = some (.array [.null, .float (.finite false (Nat.pow 2 52) (-53))]) ∧
        written.get? "a" = some (.array [.null, .float (.finite false (Nat.pow 2 52) (-53))]) ∧
        exported.get? "b" = none ∧ exported.get? "c" = some .null := by
  have hknown : ({} : Config).KnownTo Registry.default := by decide
  have hread : Json.read mixedText.toList = .ok (.object [("instructions", .array [.object
      [("mnemonic", .string "NOP"),
        ("a", .array [.null, .float (.finite false (Nat.pow 2 52) (-53))]), ("b", .null),
        ("c", .float .nan)]])]) := rfl
  obtain ⟨run, saved, hrun, hsaved, hexports⟩ := cleanup_exports hknown hread rfl
  obtain ⟨exported, written, hexported, hwritten, hfields⟩ := hexports 0 _ rfl
  obtain ⟨ha, haWritten, -⟩ := hfields "a" (by decide)
  rw [ha] at haWritten
  exact ⟨hknown, _, _, run, saved, exported, written, hread, rfl, hrun, hsaved, hexported, hwritten,
    ha.trans rfl, haWritten.trans rfl, (hfields "b" (by decide)).1.trans rfl,
    (hfields "c" (by decide)).1.trans rfl⟩

/-- A text with a field that is null. -/
def nullNoteText : String := "\x7b\"instructions\":[\x7b\"mnemonic\":\"NOP\",\"note\":null\x7d]\x7d"

/-- The field that is null is there in the text and left out of what is exported. -/
theorem cleanup_nullNote_leftOut :
    ∃ value document run given exported, Json.read nullNoteText.toList = .ok value ∧
      Document.ofJson value = .ok document ∧ cleanup document = .ok run ∧
      (Document.fields value)[0]? = some given ∧
      (Document.fields run.document.toJson)[0]? = some exported ∧
      "note" ∉ Record.memberNames ∧ given.get? "note" = some .null ∧
      exported.get? "note" = none :=
  ⟨_, _, _, _, _, rfl, rfl, cleanup_default _, rfl, rfl, by decide, rfl, rfl⟩

end OperandCleanup
