import OperandCleanup.Proofs.Carried
import OperandCleanup.Proofs.Json.Order
import OperandCleanup.Proofs.Json.RoundTrip

/-!
# Loading what was written

The canonical text of a document that can come about is loaded again, if it carries no integers too
long to be read and no floating-point numbers but those that decimals are rounded to. The known
members come back as they were; those carried along come back in the order of their names, with null
for the numbers that are not finite and without the null ones. Where all numbers are finite nothing
of it counts: the two documents are equal and have the same text.
-/

namespace OperandCleanup

/-! ## Members that are written -/

/-- Of the members carried along the written ones give a name its finite value unless it is null. -/
theorem lookup_writtenExtras {extras : Json.Members} (h : (extras.map (·.1)).Nodup)
    (name : String) :
    (writtenExtras extras).lookup name =
      ((extras.lookup name).filter fun value => !value.isNull).map Json.finite := by
  rw [writtenExtras, Json.finiteMembers_eq_map, Json.Members.lookup_mapValues,
    Json.Members.lookup_filter h]

/-- The names of the written ones are some of those carried along. -/
theorem names_writtenExtras_sublist (extras : Json.Members) :
    ((writtenExtras extras).map (·.1)).Sublist (extras.map (·.1)) := by
  rw [writtenExtras, Json.finiteMembers_eq_map, List.map_map]
  exact List.filter_sublist.map _

/-- What is carried along beside known names once members are written and loaded. -/
def reloadedExtras (names : List String) (members : Json.Members) : Json.Members :=
  Json.Members.without (Json.sortedMembers members) names

section Known

variable {names : List String} {known extras members : Json.Members}

/-- Names of known members and of others are told apart. -/
theorem nodup_names_known_append (hnames : names.Nodup)
    (hknown : (known.map (·.1)).Sublist names) (hextras : Carried names extras) :
    ((known ++ writtenExtras extras).map (·.1)).Nodup := by
  have hsublist := names_writtenExtras_sublist extras
  rw [List.map_append, List.nodup_append]
  refine ⟨hnames.sublist hknown, hextras.distinct.sublist hsublist, ?_⟩
  rintro name hmem _ hextra rfl
  obtain ⟨member, hmember, rfl⟩ := List.mem_map.mp (hsublist.subset hextra)
  exact hextras.unknown member hmember (hknown.subset hmem)

/-- Nothing that is carried well is written under a known name. -/
theorem lookup_writtenExtras_of_mem (hextras : Carried names extras) {name : String}
    (hname : name ∈ names) : (writtenExtras extras).lookup name = none := by
  refine Json.Members.lookup_eq_none_iff_notMem.mpr fun hmem => ?_
  obtain ⟨member, hmember, rfl⟩ :=
    List.mem_map.mp ((names_writtenExtras_sublist extras).subset hmem)
  exact hextras.unknown member hmember hname

/-- A known name has its value from the known members, any other name from the others. -/
theorem lookup_known_append (hknown : (known.map (·.1)).Sublist names)
    (hextras : Carried names extras) (name : String) :
    (known ++ writtenExtras extras).lookup name =
      if name ∈ names then known.lookup name else (writtenExtras extras).lookup name := by
  rw [List.lookup_append]
  split
  · rename_i hname
    rw [lookup_writtenExtras_of_mem hextras hname, Option.or_none]
  · rename_i hname
    have hnone : known.lookup name = none :=
      Json.Members.lookup_eq_none_iff_notMem.mpr fun hmem => hname (hknown.subset hmem)
    rw [hnone, Option.none_or]

/-- What is asked of an object and its members is kept by writing them if it is where numbers that
are not finite become null. -/
theorem throughout_known_append {test after : Json → Bool}
    (hafter : ∀ value, test value = true → after value.finite = true)
    (hobject : after (.object (known ++ writtenExtras extras)) = true)
    (hknown : ∀ member ∈ known, Json.throughout after member.2 = true)
    (hextras : ∀ member ∈ extras, Json.throughout test member.2 = true) :
    Json.throughout after (.object (known ++ writtenExtras extras)) = true := by
  refine Json.throughout_object.mpr ⟨hobject, List.forall_mem_append.mpr ⟨hknown, ?_⟩⟩
  rw [writtenExtras, Json.finiteMembers_eq_map]
  exact List.forall_mem_map.mpr fun member hmember =>
    Json.throughout_finite hafter (hextras member (List.mem_filter.mp hmember).1)

/-- No name is written twice. -/
theorem unambiguous_known_append (hnames : names.Nodup) (hknown : (known.map (·.1)).Sublist names)
    (hvalues : ∀ member ∈ known, member.2.Unambiguous) (hextras : Carried names extras) :
    (Json.object (known ++ writtenExtras extras)).Unambiguous :=
  throughout_known_append (fun value h => (Json.isUnambiguous_finite value).trans h)
    (decide_eq_true (nodup_names_known_append hnames hknown hextras)) hvalues hextras.unambiguous

/-- Members that were written and loaded carry well what they have beside the known names. -/
theorem carried_reloadedExtras (hwritten : (Json.object members).Unambiguous) :
    Carried names (reloadedExtras names members) :=
  carried_without (Json.unambiguous_sorted.mpr hwritten) names

/-- What is carried along is written after loading as it was before. -/
theorem lookup_writtenExtras_reloaded
    (hwritten : (Json.object (known ++ writtenExtras extras)).Unambiguous)
    (hknown : (known.map (·.1)).Sublist names) (hextras : Carried names extras)
    (hfinite : ∀ member ∈ extras, member.2.AllFinite) {name : String} (hname : name ∉ names) :
    ((writtenExtras (reloadedExtras names (known ++ writtenExtras extras))).lookup name).map
        Json.sorted =
      ((writtenExtras extras).lookup name).map Json.sorted := by
  have hsorted := (Json.nodup_names_sortedMembers _).mpr (Json.unambiguous_object.mp hwritten).1
  have hreloaded : (reloadedExtras names (known ++ writtenExtras extras)).lookup name =
      ((writtenExtras extras).lookup name).map Json.sorted := by
    rw [reloadedExtras, Json.Members.lookup_without hsorted, if_neg hname,
      Json.lookup_sortedMembers, lookup_known_append hknown hextras, if_neg hname]
  rw [lookup_writtenExtras (carried_reloadedExtras hwritten).distinct, hreloaded,
    lookup_writtenExtras hextras.distinct]
  cases hvalue : extras.lookup name with
  | none => rfl
  | some value =>
    have hvalueFinite := hfinite _ (Json.Members.mem_of_lookup_eq_some hvalue)
    have hsame := Json.finite_eq_self_iff.mpr hvalueFinite
    have hsortedSame := Json.finite_eq_self_iff.mpr (Json.allFinite_sorted.mpr hvalueFinite)
    cases hnull : value.isNull with
    | true => simp [Option.filter_some, hnull]
    | false =>
      have hsortedNull : value.sorted.isNull = false := by rw [Json.isNull_sorted, hnull]
      simp [Option.filter_some, hnull, hsame, hsortedNull, hsortedSame, Json.sorted_sorted]

/-- Members that were written and loaded are written alike if the known ones are. -/
theorem sortedMembers_reloaded {known' : Json.Members} (hnames : names.Nodup)
    (hwritten : (Json.object (known ++ writtenExtras extras)).Unambiguous)
    (hknown : (known.map (·.1)).Sublist names) (hknown' : (known'.map (·.1)).Sublist names)
    (hextras : Carried names extras) (hfinite : ∀ member ∈ extras, member.2.AllFinite)
    (hsame : ∀ name, (known'.lookup name).map Json.sorted = (known.lookup name).map Json.sorted) :
    Json.sortedMembers
        (known' ++ writtenExtras (reloadedExtras names (known ++ writtenExtras extras))) =
      Json.sortedMembers (known ++ writtenExtras extras) := by
  have hreloaded : Carried names (reloadedExtras names (known ++ writtenExtras extras)) :=
    carried_reloadedExtras hwritten
  refine Json.sortedMembers_eq_of_lookup (nodup_names_known_append hnames hknown' hreloaded)
    (nodup_names_known_append hnames hknown hextras) fun name => ?_
  rw [lookup_known_append hknown' hreloaded, lookup_known_append hknown hextras]
  split
  · exact hsame name
  · rename_i hname
    exact lookup_writtenExtras_reloaded hwritten hknown hextras hfinite hname

end Known

namespace Operand

/-- The known members of an operand. -/
def knownMembers (operand : Operand) : Json.Members :=
  ("name", .string operand.name) ::
    (operand.usage.toList.map fun usage => ("usage", .string usage.name)) ++
    (operand.encoding.toList.map fun encoding => ("encoding", .string encoding.name))

/-- The members of an operand are the known ones and those carried along. -/
theorem toMembers_eq (operand : Operand) :
    operand.toMembers = operand.knownMembers ++ writtenExtras operand.extras := rfl

/-- The known members have known names, each once and in order. -/
theorem names_knownMembers_sublist (operand : Operand) :
    (operand.knownMembers.map (·.1)).Sublist memberNames := by
  obtain ⟨name, usage, encoding, extras⟩ := operand
  cases usage <;> cases encoding
  · exact (by decide : ["name"].Sublist memberNames)
  · exact (by decide : ["name", "encoding"].Sublist memberNames)
  · exact (by decide : ["name", "usage"].Sublist memberNames)
  · exact List.Sublist.refl memberNames

/-- The usage is written under its name. -/
theorem lookup_usage (operand : Operand) :
    operand.knownMembers.lookup "usage" = operand.usage.map (.string ·.name) := by
  obtain ⟨name, usage, encoding, extras⟩ := operand
  cases usage <;> cases encoding <;> rfl

/-- The encoding is written under its name. -/
theorem lookup_encoding (operand : Operand) :
    operand.knownMembers.lookup "encoding" = operand.encoding.map (.string ·.name) := by
  obtain ⟨name, usage, encoding, extras⟩ := operand
  cases usage <;> cases encoding <;> rfl

/-- The known members are scalars. -/
theorem throughout_knownMembers {test : Json → Bool} (htest : ∀ s, test (.string s) = true)
    (operand : Operand) :
    ∀ member ∈ operand.knownMembers, Json.throughout test member.2 = true := by
  obtain ⟨name, usage, encoding, extras⟩ := operand
  cases usage <;> cases encoding <;> simp [knownMembers, Json.throughout, htest]

/-- No name is written twice in an operand. -/
theorem unambiguous_toJson {operand : Operand} (hcarried : Carried memberNames operand.extras) :
    operand.toJson.Unambiguous :=
  unambiguous_known_append (by decide) operand.names_knownMembers_sublist
    (operand.throughout_knownMembers fun _ => rfl) hcarried

/-- What holds of all texts, of all objects and of what an operand carries holds throughout it. -/
theorem throughout_toJson {test after : Json → Bool}
    (hafter : ∀ value, test value = true → after value.finite = true)
    (hstring : ∀ s, after (.string s) = true) (hobject : ∀ members, after (.object members) = true)
    {operand : Operand}
    (hcarried : ∀ member ∈ operand.extras, Json.throughout test member.2 = true) :
    Json.throughout after operand.toJson = true :=
  throughout_known_append hafter (hobject _) (operand.throughout_knownMembers hstring) hcarried

/-- An operand after writing and loading. -/
def reloaded (operand : Operand) : Operand :=
  { operand with extras := reloadedExtras memberNames operand.toMembers }

@[simp] theorem reloaded_usage (operand : Operand) : operand.reloaded.usage = operand.usage := rfl

@[simp] theorem reloaded_encoding (operand : Operand) :
    operand.reloaded.encoding = operand.encoding := rfl

/-- The value of a known name in what is written. -/
theorem lookup_sorted_toMembers {operand : Operand} (h : Carried memberNames operand.extras)
    (name : String) (hname : name ∈ memberNames) :
    (Json.sortedMembers operand.toMembers).lookup name =
      (operand.knownMembers.lookup name).map Json.sorted := by
  rw [Json.lookup_sortedMembers, toMembers_eq,
    lookup_known_append operand.names_knownMembers_sublist h, if_pos hname]

/-- An operand that was written is loaded again. -/
theorem ofJson_sorted_toJson {operand : Operand} (h : Carried memberNames operand.extras) :
    ofJson operand.toJson.sorted = .ok operand.reloaded := by
  have hname := lookup_sorted_toMembers h "name" (by decide)
  have husage := lookup_sorted_toMembers h "usage" (by decide)
  have hencoding := lookup_sorted_toMembers h "encoding" (by decide)
  refine ofJson_eq_ok_iff.mpr ⟨_, rfl, ofMembers_eq_ok_iff.mpr ⟨hname, ?_, ?_, rfl⟩⟩
  · rw [checkedUsage, Checked.withDefault_eq_ok_iff, Json.Members.get?, husage, lookup_usage,
      reloaded_usage]
    cases operand.usage with
    | none => exact Or.inl ⟨rfl, rfl⟩
    | some usage => exact Or.inr ⟨_, rfl, by cases usage <;> rfl⟩
  · rw [checkedEncoding, Checked.withDefault_eq_ok_iff, Json.Members.get?, hencoding,
      lookup_encoding, reloaded_encoding]
    cases operand.encoding with
    | none => exact Or.inl ⟨rfl, rfl⟩
    | some encoding => exact Or.inr ⟨_, rfl, by cases encoding <;> rfl⟩

/-- A loaded operand is written as it was. -/
theorem sorted_reloaded {operand : Operand} (h : Carried memberNames operand.extras)
    (hfinite : ∀ member ∈ operand.extras, member.2.AllFinite) :
    operand.reloaded.toJson.sorted = operand.toJson.sorted :=
  congrArg Json.object (sortedMembers_reloaded (by decide) (unambiguous_toJson h)
    operand.names_knownMembers_sublist operand.reloaded.names_knownMembers_sublist h hfinite
    fun _ => rfl)

end Operand

namespace Record

/-- The known members of a record. -/
def knownMembers (record : Record) : Json.Members :=
  [("mnemonic", .string record.mnemonic), ("binary_encoding", .string record.binaryEncoding),
    ("vendor_syntax", .array (record.operands.map Operand.toJson))]

/-- The members of a record are the known ones and those carried along. -/
theorem toMembers_eq (record : Record) :
    record.toMembers = record.knownMembers ++ writtenExtras record.extras := rfl

/-- The known members have the known names. -/
theorem names_knownMembers_sublist (record : Record) :
    (record.knownMembers.map (·.1)).Sublist memberNames :=
  List.Sublist.refl memberNames

/-- Whether every value that a record or an operand of it carries along has a property. -/
abbrev CarriesOnly (holds : Json → Prop) (record : Record) : Prop :=
  record.Carries (fun extras => ∀ member ∈ extras, holds member.2)
    fun extras => ∀ member ∈ extras, holds member.2

/-- No name is written twice in a record. -/
theorem unambiguous_toJson {record : Record} (h : record.WellFormed) :
    record.toJson.Unambiguous := by
  refine unambiguous_known_append (by decide) record.names_knownMembers_sublist ?_ h.own
  have hoperands : (Json.array (record.operands.map Operand.toJson)).Unambiguous := by
    refine Json.unambiguous_array.mpr fun item hitem => ?_
    obtain ⟨operand, hoperand, rfl⟩ := List.mem_map.mp hitem
    exact Operand.unambiguous_toJson (h.operands operand hoperand)
  simp only [knownMembers, List.forall_mem_cons]
  exact ⟨rfl, rfl, hoperands, fun _ hmember => absurd hmember List.not_mem_nil⟩

/-- What holds of all texts, arrays and objects and of what a record carries holds throughout it. -/
theorem throughout_toJson {test after : Json → Bool}
    (hafter : ∀ value, test value = true → after value.finite = true)
    (hstring : ∀ s, after (.string s) = true) (harray : ∀ items, after (.array items) = true)
    (hobject : ∀ members, after (.object members) = true) {record : Record}
    (hcarried : record.CarriesOnly fun value => Json.throughout test value = true) :
    Json.throughout after record.toJson = true := by
  have hoperands : Json.throughout after (.array (record.operands.map Operand.toJson)) = true := by
    refine Json.throughout_array.mpr ⟨harray _, fun item hitem => ?_⟩
    obtain ⟨operand, hoperand, rfl⟩ := List.mem_map.mp hitem
    exact Operand.throughout_toJson hafter hstring hobject (hcarried.operands operand hoperand)
  have hknown : ∀ member ∈ record.knownMembers, Json.throughout after member.2 = true := by
    simp only [knownMembers, List.forall_mem_cons]
    exact ⟨hstring _, hstring _, hoperands, fun _ hmember => absurd hmember List.not_mem_nil⟩
  exact throughout_known_append hafter (hobject _) hknown hcarried.own

/-- A record after writing and loading. -/
def reloaded (record : Record) : Record :=
  { record with
    operands := record.operands.map Operand.reloaded
    extras := reloadedExtras memberNames record.toMembers }

/-- The value of a known name in what is written. -/
theorem lookup_sorted_toMembers {record : Record} (h : record.WellFormed) (name : String)
    (hname : name ∈ memberNames) :
    (Json.sortedMembers record.toMembers).lookup name =
      (record.knownMembers.lookup name).map Json.sorted := by
  rw [Json.lookup_sortedMembers, toMembers_eq,
    lookup_known_append record.names_knownMembers_sublist h.own, if_pos hname]

/-- The operands that were written are loaded again. -/
theorem map_ofJson_sorted_operands {record : Record} (h : record.WellFormed) :
    (Json.sortedItems (record.operands.map Operand.toJson)).map Operand.ofJson =
      (record.operands.map Operand.reloaded).map .ok := by
  rw [Json.sortedItems_eq_map, List.map_map, List.map_map, List.map_map]
  exact List.map_congr_left fun operand hoperand =>
    Operand.ofJson_sorted_toJson (h.operands operand hoperand)

/-- A record that was written is loaded again. -/
theorem ofMembers_sorted_toMembers {record : Record} (h : record.WellFormed) :
    ofMembers (Json.sortedMembers record.toMembers) = .ok record.reloaded := by
  have hmnemonic := lookup_sorted_toMembers h "mnemonic" (by decide)
  have hencoding := lookup_sorted_toMembers h "binary_encoding" (by decide)
  have hoperands := lookup_sorted_toMembers h "vendor_syntax" (by decide)
  refine ofMembers_eq_ok_iff.mpr ⟨hmnemonic, ?_, ?_, rfl⟩
  · exact Checked.withDefault_eq_ok_iff.mpr (Or.inr ⟨_, hencoding, rfl⟩)
  · exact Checked.withDefault_eq_ok_iff.mpr (Or.inr ⟨_, hoperands,
      Checked.list_eq_ok_iff.mpr ⟨_, rfl, map_ofJson_sorted_operands h⟩⟩)

/-- A loaded record is written as it was. -/
theorem sorted_reloaded {record : Record} (h : record.WellFormed)
    (hfinite : record.CarriesOnly Json.AllFinite) :
    record.reloaded.toJson.sorted = record.toJson.sorted := by
  have hoperands : Json.sortedItems (record.reloaded.operands.map Operand.toJson) =
      Json.sortedItems (record.operands.map Operand.toJson) := by
    rw [Json.sortedItems_eq_map, Json.sortedItems_eq_map, reloaded, List.map_map, List.map_map,
      List.map_map]
    exact List.map_congr_left fun operand hoperand =>
      Operand.sorted_reloaded (h.operands operand hoperand) (hfinite.operands operand hoperand)
  have hwritten : (Json.object (record.knownMembers ++ writtenExtras record.extras)).Unambiguous :=
    unambiguous_toJson h
  have hknown (name : String) : (record.reloaded.knownMembers.lookup name).map Json.sorted =
      (record.knownMembers.lookup name).map Json.sorted := by
    rw [← Json.Members.lookup_mapValues, ← Json.Members.lookup_mapValues]
    simp only [knownMembers, List.map_cons, Json.sorted, hoperands]
    rfl
  exact congrArg Json.object (sortedMembers_reloaded (by decide) hwritten
    record.names_knownMembers_sublist record.reloaded.names_knownMembers_sublist h.own hfinite.own
    hknown)

end Record

namespace Document

/-- Whether every value that a document carries along has a property. -/
def CarriesOnly (holds : Json → Prop) (document : Document) : Prop :=
  ∀ record ∈ document.records, record.CarriesOnly holds

instance {holds : Json → Prop} [DecidablePred holds] : DecidablePred (CarriesOnly holds) :=
  fun document =>
    inferInstanceAs (Decidable (∀ record ∈ document.records, record.CarriesOnly holds))

/-- What is carried along has any property that follows from the ones it has. -/
theorem CarriesOnly.imp {holds weaker : Json → Prop} (himp : ∀ value, holds value → weaker value)
    {document : Document} (h : document.CarriesOnly holds) : document.CarriesOnly weaker :=
  fun record hrecord =>
    ⟨fun member hmember => himp _ ((h record hrecord).own member hmember),
      fun operand hoperand member hmember =>
        himp _ ((h record hrecord).operands operand hoperand member hmember)⟩

/-- A document after writing and loading. -/
def reloaded (document : Document) : Document := ⟨document.records.map Record.reloaded⟩

/-- A document that was written is loaded again. -/
theorem ofJson_sorted_toJson {document : Document} (h : document.WellFormed) :
    ofJson document.toJson.sorted = .ok document.reloaded := by
  have hrecords : (document.records.map fun record => Json.sortedMembers record.toMembers).map
      Record.ofMembers = document.reloaded.records.map .ok := by
    rw [reloaded, List.map_map, List.map_map]
    exact List.map_congr_left fun record hrecord =>
      Record.ofMembers_sorted_toMembers (h record hrecord)
  refine ofJson_eq_ok_iff.mpr ⟨_, _, rfl, ?_, hrecords⟩
  change Json.array (Json.sortedItems (document.records.map Record.toJson)) = _
  rw [Json.sortedItems_eq_map, List.map_map, List.map_map]
  rfl

/-- A loaded document is written as it was. -/
theorem sorted_reloaded {document : Document} (h : document.WellFormed)
    (hfinite : document.CarriesOnly Json.AllFinite) :
    document.reloaded.toJson.sorted = document.toJson.sorted := by
  have hrecords : Json.sortedItems (document.reloaded.records.map Record.toJson) =
      Json.sortedItems (document.records.map Record.toJson) := by
    rw [Json.sortedItems_eq_map, Json.sortedItems_eq_map, reloaded, List.map_map, List.map_map,
      List.map_map]
    exact List.map_congr_left fun record hrecord =>
      Record.sorted_reloaded (h record hrecord) (hfinite record hrecord)
  exact congrArg (fun items => Json.object [("instructions", .array items)]) hrecords

/-- What holds of all texts, arrays and objects and of what a document carries holds throughout
it. -/
theorem throughout_toJson {test after : Json → Bool}
    (hafter : ∀ value, test value = true → after value.finite = true)
    (hstring : ∀ s, after (.string s) = true) (harray : ∀ items, after (.array items) = true)
    (hobject : ∀ members, after (.object members) = true) {document : Document}
    (hcarried : document.CarriesOnly fun value => Json.throughout test value = true) :
    Json.throughout after document.toJson = true := by
  refine Json.throughout_object.mpr ⟨hobject _, List.forall_mem_singleton.mpr ?_⟩
  refine Json.throughout_array.mpr ⟨harray _, fun item hitem => ?_⟩
  obtain ⟨record, hrecord, rfl⟩ := List.mem_map.mp hitem
  exact Record.throughout_toJson hafter hstring harray hobject (hcarried record hrecord)

/-- What is written of a document has finite numbers only. -/
theorem allFinite_toJson (document : Document) : document.toJson.AllFinite := by
  have hany (value : Json) : Json.throughout (fun _ => true) value = true :=
    Json.throughout_of_forall (fun _ => rfl) value
  exact throughout_toJson (fun value _ => Json.isFinitePart_finite value) (fun _ => rfl)
    (fun _ => rfl) (fun _ => rfl) fun _ _ =>
      ⟨fun member _ => hany member.2, fun _ _ member _ => hany member.2⟩

/-- No name is written twice in a document. -/
theorem unambiguous_toJson {document : Document} (h : document.WellFormed) :
    document.toJson.Unambiguous := by
  have hrecords : (Json.array (document.records.map Record.toJson)).Unambiguous := by
    refine Json.unambiguous_array.mpr fun item hitem => ?_
    obtain ⟨record, hrecord, rfl⟩ := List.mem_map.mp hitem
    exact Record.unambiguous_toJson (h record hrecord)
  exact Json.unambiguous_object.mpr
    ⟨List.pairwise_singleton _ _, List.forall_mem_singleton.mpr hrecords⟩

section Text

variable {document : Document} (h : document.WellFormed)

include h

/-- The text of a document is that of its value, also with blanks behind it. -/
theorem read_text (hcanonical : document.CarriesOnly Json.AllCanonical)
    (hreadable : document.CarriesOnly Json.Readable) {blanks : List Char}
    (hblanks : ∀ c ∈ blanks, Json.isSpace c = true) :
    Json.read (document.text.toList ++ blanks) = .ok document.toJson.sorted := by
  have hcanonical : document.toJson.AllCanonical :=
    throughout_toJson (fun _ => Json.isCanonicalPart_finite) (fun _ => rfl) (fun _ => rfl)
      (fun _ => rfl) hcanonical
  have hreadable : document.toJson.Readable :=
    throughout_toJson (fun value hvalue => (Json.isReadable_finite value).trans hvalue)
      (fun _ => rfl) (fun _ => rfl) (fun _ => rfl) hreadable
  rw [text, Json.canonicalText, String.toList_ofList]
  exact Json.read_written (Json.allFinite_sorted.mpr document.allFinite_toJson)
    (Json.allCanonical_sorted.mpr hcanonical) (Json.readable_sorted.mpr hreadable)
    (Json.unambiguous_sorted.mpr (unambiguous_toJson h)) hblanks

/-- The text of a document is loaded again, also with blanks behind it. -/
theorem parse_text (hcanonical : document.CarriesOnly Json.AllCanonical)
    (hreadable : document.CarriesOnly Json.Readable) {blanks : List Char}
    (hblanks : ∀ c ∈ blanks, Json.isSpace c = true) :
    parse (document.text.toList ++ blanks) = .ok document.reloaded := by
  rw [parse, read_text h hcanonical hreadable hblanks]
  exact ofJson_sorted_toJson h

variable (hfinite : document.CarriesOnly Json.AllFinite)

include hfinite

/-- A loaded document has the text that it was loaded from. -/
theorem text_reloaded : document.reloaded.text = document.text := by
  rw [text, text, Json.canonicalText, Json.canonicalText, sorted_reloaded h hfinite]

/-- A loaded document equals the one that was written. -/
theorem equals_reloaded : document.reloaded.equals document = true := by
  have hsorted := sorted_reloaded h hfinite
  have hagain : document.reloaded.toJson.Unambiguous := by
    rw [← Json.unambiguous_sorted, hsorted, Json.unambiguous_sorted]
    exact unambiguous_toJson h
  exact Json.equals_of_sorted_eq document.reloaded.allFinite_toJson hagain (unambiguous_toJson h)
    hsorted

end Text

end Document

end OperandCleanup
