import OperandCleanup.FileSystem.Import
import OperandCleanup.Proofs.Reload

/-!
# Documents written to files

A file that is written holds what was written: no directory is replaced by it, so its path still
leads to it. The bytes of ASCII text are its characters, and without carriage returns its lines are
read as they are. So a document in a file is loaded again as from its text.
-/

namespace OperandCleanup

/-! ## Bytes -/

namespace Text

/-- Text of ASCII is encoded character by character. -/
theorem Utf8.decode_encode {cs : List Char} (h : ∀ c ∈ cs, c.toNat < 0x80) :
    Utf8.decode (Utf8.encode cs) = .ok cs := by
  suffices hfrom : ∀ position, Utf8.charsFrom position none (Utf8.encode cs) = .ok cs from hfrom 0
  induction cs with
  | nil => exact fun _ => rfl
  | cons c rest ih =>
    intro position
    obtain ⟨hc, hrest⟩ := List.forall_mem_cons.mp h
    have hencoded : String.utf8EncodeChar c = [UInt8.ofNat c.toNat] :=
      if_pos (Nat.le_of_lt_succ hc)
    have hbyte : (UInt8.ofNat c.toNat).toNat = c.toNat :=
      UInt8.toNat_ofNat_of_lt' (Nat.lt_trans hc (by decide))
    have hascii : UInt8.ofNat c.toNat < 0x80 := by
      rw [UInt8.lt_iff_toNat_lt, hbyte]
      exact hc
    rw [Utf8.encode, List.flatMap_cons, hencoded, List.singleton_append, Utf8.charsFrom,
      if_pos hascii]
    change ((Utf8.charsFrom (position + 1) none (Utf8.encode rest)).map _) = _
    rw [ih hrest, hbyte, Char.ofNat_toNat]
    rfl

/-- Text without carriage returns is read as it is. -/
theorem withLineFeeds_eq_self {cs : List Char} (h : '\r' ∉ cs) : withLineFeeds cs = cs := by
  induction cs with
  | nil => rfl
  | cons c rest ih =>
    obtain ⟨hc, hrest⟩ := List.ne_and_not_mem_of_not_mem_cons h
    rw [withLineFeeds.eq_4 c rest (fun _ hreturn _ => hc hreturn.symm)
      fun hreturn => hc hreturn.symm, ih hrest]

end Text

namespace FileSystem

/-! ## Nodes -/

/-- A node that is put among nodes is the one at its place. -/
theorem lookup_setNode (nodes : List (Place × Node)) (place other : Place) (node : Node) :
    (setNode nodes place node).lookup other =
      if other = place then some node else nodes.lookup other := by
  induction nodes with
  | nil =>
    by_cases hother : other = place
    · simp [setNode, hother]
    · simp [setNode, List.lookup_cons, hother, beq_false_of_ne hother]
  | cons entry rest ih =>
    obtain ⟨key, old⟩ := entry
    rw [setNode]
    by_cases hkey : key = place
    · subst hkey
      by_cases hother : other = key
      · simp [hother]
      · simp [List.lookup_cons, hother, beq_false_of_ne hother]
    · rw [if_neg hkey, List.lookup_cons, List.lookup_cons, ih]
      by_cases hother : other = key
      · subst hother
        simp [hkey]
      · rw [beq_false_of_ne hother]

/-- A node that is put at a place is there, and the others stay. -/
theorem node?_set (files : FileSystem) {place : Place} (hplace : place ≠ []) (node : Node)
    (other : Place) :
    (files.set place node).node? other =
      if other = place then some node else files.node? other := by
  cases other with
  | nil => simp [node?, hplace.symm]
  | cons name rest => exact lookup_setNode files.nodes place (name :: rest) node

/-! ## Paths -/

/-- Two dots lead to the directory around. -/
theorem follow_up (files : FileSystem) {start : Place} (hstart : start ≠ []) (names : List String) :
    files.follow start (".." :: names) = files.follow start.dropLast names := by
  conv => lhs; rw [follow.eq_def]
  exact (if_pos rfl).trans (if_neg hstart)

/-- The name of a directory leads into it. -/
theorem follow_into {files : FileSystem} {start : Place} {name : String} (hup : name ≠ "..")
    (hname : nameProblem? name = none)
    (hdirectory : files.node? (start ++ [name]) = some .directory) (names : List String) :
    files.follow start (name :: names) = files.follow (start ++ [name]) names := by
  rw [follow.eq_3 files start name names hdirectory, if_neg hup, hname]

/-- The name of a file leads to it. -/
theorem follow_file {files : FileSystem} {start : Place} {name : String} {bytes : List UInt8}
    (hup : name ≠ "..") (hname : nameProblem? name = none)
    (hfile : files.node? (start ++ [name]) = some (.file bytes)) :
    files.follow start [name] = .ok (start ++ [name]) := by
  rw [follow.eq_def]
  dsimp only
  rw [if_neg hup, hname, hfile]

/-- Names that lead to a directory lead through directories only. -/
theorem follow_cons_cases {files : FileSystem} {start stop : Place} {name : String}
    {names : List String} (h : files.follow start (name :: names) = .ok stop)
    (hstop : files.node? stop = some .directory) :
    (name = ".." ∧ start ≠ [] ∧ files.follow start.dropLast names = .ok stop) ∨
      (name ≠ ".." ∧ nameProblem? name = none ∧
        files.node? (start ++ [name]) = some .directory ∧
        files.follow (start ++ [name]) names = .ok stop) := by
  rw [follow.eq_def] at h
  dsimp only at h
  split at h
  case isTrue hup =>
    split at h
    case isTrue => cases h
    case isFalse hstart => exact .inl ⟨hup, hstart, h⟩
  case isFalse hup =>
    split at h
    case h_1 => cases h
    case h_2 hname =>
      split at h
      case h_1 => cases h
      case h_2 hdirectory => exact .inr ⟨hup, hname, hdirectory, h⟩
      -- A file at the end of the names is not the directory that they lead to.
      case h_3 hfile =>
        obtain rfl := Except.ok.inj h
        rw [hfile] at hstop
        cases hstop
      case h_4 => cases h

/-- Names that lead to a directory lead there too when a file is put where no directory is. -/
theorem follow_set {files : FileSystem} {place : Place} (hplace : place ≠ [])
    (hdirectory : files.node? place ≠ some .directory) (bytes : List UInt8) {start stop : Place}
    {names : List String} (h : files.follow start names = .ok stop)
    (hstop : files.node? stop = some .directory) :
    (files.set place (.file bytes)).follow start names = .ok stop := by
  induction names generalizing start with
  | nil => exact h
  | cons name rest ih =>
    rcases follow_cons_cases h hstop with ⟨rfl, hstart, hrest⟩ | ⟨hup, hname, hinto, hrest⟩
    · rw [follow_up _ hstart]
      exact ih hrest
    · have hother : start ++ [name] ≠ place := by
        rintro rfl
        exact hdirectory hinto
      rw [follow_into hup hname (by rwa [node?_set files hplace, if_neg hother])]
      exact ih hrest

/-- Names behind those that lead to a directory are followed from there. -/
theorem follow_append {files : FileSystem} {start stop : Place} {names : List String}
    (h : files.follow start names = .ok stop) (hstop : files.node? stop = some .directory)
    (more : List String) : files.follow start (names ++ more) = files.follow stop more := by
  induction names generalizing start with
  | nil =>
    obtain rfl := Except.ok.inj h
    rfl
  | cons name rest ih =>
    rw [List.cons_append]
    rcases follow_cons_cases h hstop with ⟨rfl, hstart, hrest⟩ | ⟨hup, hname, hinto, hrest⟩
    · rw [follow_up _ hstart, ih hrest]
    · rw [follow_into hup hname hinto, ih hrest]

/-- The directory at the end of a path is where its names lead. -/
theorem directoryAt_eq_ok_iff {files : FileSystem} {path : Path} {place : Place} :
    files.directoryAt path = .ok place ↔
      files.follow [] path.names = .ok place ∧ files.node? place = some .directory := by
  rw [directoryAt]
  constructor
  · intro h
    obtain ⟨found, hfollow, hfound⟩ := bind_eq_ok_iff.mp h
    split at hfound
    · obtain rfl := Except.ok.inj hfound
      exact ⟨hfollow, ‹_›⟩
    · cases hfound
  · rintro ⟨hfollow, hdirectory⟩
    refine bind_eq_ok_iff.mpr ⟨place, hfollow, ?_⟩
    rw [hdirectory]
    rfl

/-- A directory at the end of a path stays there when a file is put where no directory is. -/
theorem directoryAt_set {files : FileSystem} {path : Path} {directory place : Place}
    (h : files.directoryAt path = .ok directory) (hplace : place ≠ [])
    (hfree : files.node? place ≠ some .directory) (bytes : List UInt8) :
    (files.set place (.file bytes)).directoryAt path = .ok directory := by
  obtain ⟨hfollow, hdirectory⟩ := directoryAt_eq_ok_iff.mp h
  have hother : directory ≠ place := by
    rintro rfl
    exact hfree hdirectory
  have hstill : (files.set place (.file bytes)).node? directory = some .directory := by
    rw [node?_set files hplace, if_neg hother, hdirectory]
  exact directoryAt_eq_ok_iff.mpr ⟨follow_set hplace hfree bytes hfollow hdirectory, hstill⟩

/-- A place that is not a directory is that of a name in a directory. -/
theorem placeFor_cases {files : FileSystem} {path : Path} {place : Place}
    (h : files.placeFor path = .ok place) (hdirectory : files.node? place ≠ some .directory) :
    ∃ directory name, path.names = path.parent.names ++ [name] ∧ name ≠ ".." ∧
      nameProblem? name = none ∧ files.directoryAt path.parent = .ok directory ∧
      place = directory ++ [name] := by
  unfold placeFor at h
  split at h
  case h_1 =>
    obtain rfl := Except.ok.inj h
    exact absurd rfl hdirectory
  case h_2 name hlast =>
    split at h
    case isTrue => exact absurd (directoryAt_eq_ok_iff.mp h).2 hdirectory
    case isFalse hup =>
      obtain ⟨directory, hparent, hplace⟩ := bind_eq_ok_iff.mp h
      split at hplace
      case h_1 => cases hplace
      case h_2 hname =>
        obtain rfl := Except.ok.inj hplace
        obtain ⟨around, hnames⟩ := List.getLast?_eq_some_iff.mp hlast
        refine ⟨directory, name, ?_, hup, hname, hparent, rfl⟩
        simp [Path.parent, hnames]

/-- A file that is written is where its path leads. -/
theorem updateFile_eq_ok {files files' : FileSystem} {path : Path}
    {change : List UInt8 → List UInt8} (h : files.updateFile path change = .ok files') :
    pathProblem? path = none ∧ ∃ place bytes, files.placeFor path = .ok place ∧
      files.node? place ≠ some .directory ∧ files' = files.set place (.file (change bytes)) := by
  unfold updateFile at h
  split at h
  case h_1 => cases h
  case h_2 hpath =>
    split at h
    case h_1 => cases h
    case h_2 place hplace =>
      split at h
      case h_1 => cases h
      case h_2 bytes hfile =>
        exact ⟨hpath, place, bytes, hplace, by simp [hfile], (Except.ok.inj h).symm⟩
      case h_3 hnone =>
        exact ⟨hpath, place, [], hplace, by simp [hnone], (Except.ok.inj h).symm⟩

/-- What is written to a file is what the file holds. -/
theorem readBytes_writeBytes {files files' : FileSystem} {path : Path} {bytes : List UInt8}
    (h : files.writeBytes path bytes = .ok files') : files'.readBytes path = .ok bytes := by
  obtain ⟨hpath, place, old, hplace, hfree, rfl⟩ := updateFile_eq_ok h
  obtain ⟨directory, name, hnames, hup, hname, hparent, rfl⟩ := placeFor_cases hplace hfree
  have hnonempty : directory ++ [name] ≠ [] := by simp
  obtain ⟨hfollow, hdirectory⟩ :=
    directoryAt_eq_ok_iff.mp (directoryAt_set hparent hnonempty hfree bytes)
  have hwritten : (files.set (directory ++ [name]) (.file bytes)).node? (directory ++ [name]) =
      some (.file bytes) := by
    rw [node?_set files hnonempty, if_pos rfl]
  have hplace' : (files.set (directory ++ [name]) (.file bytes)).follow [] path.names =
      .ok (directory ++ [name]) := by
    rw [hnames, follow_append hfollow hdirectory, follow_file hup hname hwritten]
  simp only [readBytes, hpath, hplace', hwritten]

/-- ASCII text that is written to a file is read as it is. -/
theorem readText_store {files files' : FileSystem} {path : Path} {text : List Char}
    (hascii : ∀ c ∈ text, c.toNat < 0x80) (hreturn : '\r' ∉ text)
    (h : files.store path text = .ok files') : files'.readText path = .ok text := by
  obtain ⟨around, -, hwritten⟩ := bind_eq_ok_iff.mp h
  simp only [readText, readBytes_writeBytes (mapError_eq_ok_iff.mp hwritten),
    Text.Utf8.decode_encode hascii, Text.withLineFeeds_eq_self hreturn]

end FileSystem

/-! ## Documents -/

/-- What a value is written in is ASCII. -/
theorem Json.IsWritten.toNat_lt {c : Char} (h : IsWritten c) : c.toNat < 0x80 := by
  rcases h with rfl | ⟨-, hhigh⟩
  · decide
  · exact Nat.lt_succ_of_lt (Nat.lt_succ_of_le hhigh)

/-- What a value is written in has no carriage return. -/
theorem Json.not_isWritten_return : ¬IsWritten '\r' := by decide

/-- Text in characters that values are written in is read as it was written to a file. -/
theorem FileSystem.readText_store_of_isWritten {files files' : FileSystem} {path : Path}
    {text : List Char} (hwritten : ∀ c ∈ text, Json.IsWritten c)
    (h : files.store path text = .ok files') : files'.readText path = .ok text :=
  readText_store (fun c hc => (hwritten c hc).toNat_lt)
    (fun hreturn => Json.not_isWritten_return (hwritten _ hreturn)) h

/-- The text of a document has characters that any value is written in only. -/
theorem Document.isWritten_of_mem_text {document : Document} :
    ∀ c ∈ document.text.toList, Json.IsWritten c := by
  rw [text, Json.canonicalText, String.toList_ofList]
  exact Json.isWritten_of_mem_writtenAt

section Export

variable {document : Document} {files files' : FileSystem} {path : Path}

/-- A document's file holds its text and a line feed. -/
theorem FileSystem.readText_exportDocument
    (h : files.exportDocument path document = .ok files') :
    files'.readText path = .ok (document.text.toList ++ ['\n']) := by
  have hwritten : ∀ c ∈ document.text.toList ++ ['\n'], Json.IsWritten c :=
    List.forall_mem_append.mpr
      ⟨Document.isWritten_of_mem_text, List.forall_mem_singleton.mpr (Or.inl rfl)⟩
  exact readText_store_of_isWritten hwritten h

/-- A document that was written to a file is loaded from it as from its text. -/
theorem FileSystem.importDocument_exportDocument (hdocument : document.WellFormed)
    (hcanonical : document.CarriesOnly Json.AllCanonical)
    (hreadable : document.CarriesOnly Json.Readable)
    (h : files.exportDocument path document = .ok files') :
    files'.importDocument path = .ok document.reloaded := by
  have hblank : ∀ c ∈ ['\n'], Json.isSpace c = true := List.forall_mem_singleton.mpr rfl
  refine bind_eq_ok_iff.mpr ⟨_, readText_exportDocument h, ?_⟩
  rw [Document.parse_text hdocument hcanonical hreadable hblank]
  rfl

end Export

/-- Writing a document and loading it again changes nothing that counts. A document that can come
about, and that carries no floating-point numbers and no integers too long to be read, is loaded
from its text: what is loaded equals it and has the same text. So is what is loaded from the file
that the document was written to. -/
theorem Document.Reachable.roundTrip {document : Document} (h : document.Reachable)
    (hfree : document.CarriesOnly Json.FloatFree)
    (hreadable : document.CarriesOnly Json.Readable) :
    ∃ again, parse document.text.toList = .ok again ∧ again.equals document = true ∧
      again.text = document.text ∧
      ∀ (files files' : FileSystem) (path : Path),
        files.exportDocument path document = .ok files' →
          ∃ imported, files'.importDocument path = .ok imported ∧
            imported.equals document = true := by
  have hwell := h.wellFormed
  have hfinite : document.CarriesOnly Json.AllFinite := hfree.imp fun _ => Json.FloatFree.allFinite
  have hcanonical : document.CarriesOnly Json.AllCanonical :=
    hfree.imp fun _ => Json.FloatFree.allCanonical
  have hequals := equals_reloaded hwell hfinite
  have hparse : parse document.text.toList = .ok document.reloaded := by
    simpa using parse_text hwell hcanonical hreadable (fun _ hc => absurd hc List.not_mem_nil)
  exact ⟨document.reloaded, hparse, hequals, text_reloaded hwell hfinite, fun _ _ _ hexport =>
    ⟨document.reloaded, FileSystem.importDocument_exportDocument hwell hcanonical hreadable hexport,
      hequals⟩⟩

/-- A load into a register of no stated size, with a remark that needs escapes. -/
def remarkedLoad : Record where
  mnemonic := "LAR"
  operands := [{ name := "reg", extras := [("x", .array [.string "😀", .int (-7)])] }]
  extras := [("y", .null)]

/-- A text of the remarked load. -/
def remarkedText : String :=
  "\x7b\"instructions\":[\x7b\"mnemonic\":\"LAR\",\"vendor_syntax\":" ++
    "[\x7b\"name\":\"reg\",\"x\":[\"\\ud83d\\ude00\",-7]\x7d],\"y\":null\x7d]\x7d"

/-- The remarked load is read and split; both records are written to a file and loaded again. -/
theorem Document.roundTrip_remarkedLoad :
    parse remarkedText.toList = .ok ⟨[remarkedLoad]⟩ ∧
      (Pass.generalRegister.apply ⟨[remarkedLoad]⟩).document.size = 2 ∧
      ∃ files imported,
        FileSystem.exportDocument {} ⟨["lar.json"]⟩
          (Pass.generalRegister.apply ⟨[remarkedLoad]⟩).document = .ok files ∧
        files.importDocument ⟨["lar.json"]⟩ = .ok imported ∧
        imported.equals (Pass.generalRegister.apply ⟨[remarkedLoad]⟩).document = true := by
  have hread : parse remarkedText.toList = .ok ⟨[remarkedLoad]⟩ := rfl
  have hreachable : (Pass.generalRegister.apply ⟨[remarkedLoad]⟩).document.Reachable :=
    .passed (.read hread) (by simp [Pass.standard])
  obtain ⟨_, -, -, -, hfile⟩ := hreachable.roundTrip (by decide) (by decide)
  obtain ⟨imported, himport, hequals⟩ := hfile {} _ ⟨["lar.json"]⟩ rfl
  exact ⟨hread, rfl, _, imported, rfl, himport, hequals⟩

end OperandCleanup
