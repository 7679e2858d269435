import OperandCleanup.Config.File
import OperandCleanup.Interruption
import OperandCleanup.Proofs.Files
import OperandCleanup.Proofs.Overriding
import OperandCleanup.Proofs.Reordering

/-!
# Configurations in files

A file gives a configuration when it can be read, is JSON and holds an object of a configuration's
members. Every other file is refused for one reason, and so is a path that leads to no file; only a
text that is nested too deeply for the stack is neither. The members of a configuration give it
back, in whatever order and layout a file holds them.
-/

namespace OperandCleanup

namespace FileSystem

variable {files : FileSystem} {room : Nat} {path : Path}

/-! ## Files that are refused -/

/-- Why a path gives no configuration. -/
inductive RefusesConfig (files : FileSystem) (room : Nat) (path : Path) : ConfigError → Prop where
  /-- No file can be read there. -/
  | file {error : FileError} (h : files.readBytes path = .error error) :
    RefusesConfig files room path (.unreadable path (.file error))
  /-- The file is not UTF-8. -/
  | encoding {bytes : List UInt8} {fault : Text.Utf8.Fault}
    (hbytes : files.readBytes path = .ok bytes) (h : Text.Utf8.decode bytes = .error fault) :
    RefusesConfig files room path (.unreadable path (.encoding fault))
  /-- The text of the file is not JSON. -/
  | text {text : List Char} {fault : Json.Fault} (htext : files.readText path = .ok text)
    (h : Json.readWithin room text = .error (.failed fault)) :
    RefusesConfig files room path (.unreadable path (.content (.malformedText text fault)))
  | notAnObject {value : Json} (hvalue : files.importJson room path = .ok value)
    (h : ∀ members, value ≠ .object members) :
    RefusesConfig files room path (.notAnObject path)
  /-- The members are not those of a configuration. -/
  | invalid {members : Json.Members} {issues : List Issue}
    (hmembers : files.importJson room path = .ok (.object members))
    (h : Config.ofMembers members = .error issues) :
    RefusesConfig files room path (.invalidFile path issues)

/-- Whether a path leads to a text that opens more arrays and objects around each other than there
is room for, and is JSON up to there. -/
def Exhausts (files : FileSystem) (room : Nat) (path : Path) (bracket : Json.Bracket) : Prop :=
  ∃ text, files.readText path = .ok text ∧
    Json.readWithin room text = .error (.exhausted bracket)

/-- There is no text where there are no bytes or they are not UTF-8. -/
theorem readText_eq_error_iff {cause : ImportError} :
    files.readText path = .error cause ↔
      (∃ error, files.readBytes path = .error error ∧ cause = .file error) ∨
        ∃ bytes fault, files.readBytes path = .ok bytes ∧
          Text.Utf8.decode bytes = .error fault ∧ cause = .encoding fault := by
  rw [readText]
  cases files.readBytes path with
  | error error => simp [eq_comm]
  | ok bytes => cases hcs : Text.Utf8.decode bytes <;> simp [hcs, eq_comm]

/-- There is no value where there is no text or it is not read. -/
theorem importJson_eq_error_iff {halt : Halt ImportError} :
    files.importJson room path = .error halt ↔
      (∃ cause, files.readText path = .error cause ∧ halt = .failed cause) ∨
        (∃ text fault, files.readText path = .ok text ∧
          Json.readWithin room text = .error (.failed fault) ∧
          halt = .failed (.content (.malformedText text fault))) ∨
        ∃ bracket, files.Exhausts room path bracket ∧ halt = .exhausted bracket := by
  rw [importJson]
  simp only [Exhausts]
  cases files.readText path with
  | error cause => simp [eq_comm]
  | ok text =>
    dsimp only
    cases hread : Json.readWithin room text with
    | ok value => simp [Except.mapError, hread]
    | error halt => cases halt <;> simp [Except.mapError, Halt.map, hread, eq_comm]

/-- A configuration is loaded from an object of its members. -/
theorem loadConfig_eq_ok_iff {config : Config} :
    files.loadConfig room path = .ok config ↔
      ∃ members, files.importJson room path = .ok (.object members) ∧ config.Reads members := by
  rw [loadConfig.eq_def]
  cases files.importJson room path with
  | error halt => simp
  | ok value =>
    cases value with
    | object members =>
      simp only [Except.ok.injEq, Json.object.injEq, exists_eq_left', ← Config.ofMembers_eq_ok_iff]
      cases Config.ofMembers members <;> simp
    | _ => simp

/-- Every path that gives no configuration is refused for one of the reasons, or leads to a text
that there is no room for. -/
theorem refusesConfig_of_loadConfig {halt : Halt ConfigError}
    (h : files.loadConfig room path = .error halt) :
    (∃ error, halt = .failed error ∧ files.RefusesConfig room path error) ∨
      ∃ bracket, halt = .exhausted bracket ∧ files.Exhausts room path bracket := by
  rw [loadConfig.eq_def] at h
  cases hjson : files.importJson room path with
  | error cause =>
    rw [hjson] at h
    obtain rfl := Except.error.inj h
    rcases importJson_eq_error_iff.mp hjson with
      ⟨cause, htext, rfl⟩ | ⟨text, fault, htext, hread, rfl⟩ | ⟨bracket, hfull, rfl⟩
    · rcases readText_eq_error_iff.mp htext with
        ⟨error, hbytes, rfl⟩ | ⟨bytes, fault, hbytes, hdecode, rfl⟩
      · exact .inl ⟨_, rfl, .file hbytes⟩
      · exact .inl ⟨_, rfl, .encoding hbytes hdecode⟩
    · exact .inl ⟨_, rfl, .text htext hread⟩
    · exact .inr ⟨bracket, rfl, hfull⟩
  | ok value =>
    rw [hjson] at h
    cases value with
    | object members =>
      dsimp only at h
      cases hmembers : Config.ofMembers members with
      | error issues =>
        rw [hmembers] at h
        obtain rfl := Except.error.inj h
        exact .inl ⟨_, rfl, .invalid hjson hmembers⟩
      | ok config =>
        rw [hmembers] at h
        cases h
    | _ =>
      obtain rfl := Except.error.inj h
      exact .inl ⟨_, rfl, .notAnObject hjson fun _ => Json.noConfusion⟩

/-- A path gives no configuration where it gives no value. -/
theorem loadConfig_of_importJson {halt : Halt ImportError}
    (h : files.importJson room path = .error halt) :
    files.loadConfig room path = .error (halt.map (.unreadable path)) := by
  rw [loadConfig, h]

/-- A path that is refused gives no configuration. -/
theorem RefusesConfig.loadConfig_eq {error : ConfigError}
    (h : files.RefusesConfig room path error) :
    files.loadConfig room path = .error (.failed error) := by
  cases h with
  | file hbytes =>
    exact loadConfig_of_importJson (importJson_eq_error_iff.mpr
      (.inl ⟨_, readText_eq_error_iff.mpr (.inl ⟨_, hbytes, rfl⟩), rfl⟩))
  | encoding hbytes hdecode =>
    exact loadConfig_of_importJson (importJson_eq_error_iff.mpr
      (.inl ⟨_, readText_eq_error_iff.mpr (.inr ⟨_, _, hbytes, hdecode, rfl⟩), rfl⟩))
  | text htext hread =>
    exact loadConfig_of_importJson
      (importJson_eq_error_iff.mpr (.inr (.inl ⟨_, _, htext, hread, rfl⟩)))
  | @notAnObject value hvalue hother =>
    rw [loadConfig, hvalue]
    cases value with
    | object members => exact absurd rfl (hother members)
    | _ => rfl
  | invalid hmembers hissues => simp only [loadConfig, hmembers, hissues]

/-- A path gives no configuration with an error of it exactly when it is refused. -/
theorem loadConfig_eq_failed_iff {error : ConfigError} :
    files.loadConfig room path = .error (.failed error) ↔ files.RefusesConfig room path error := by
  refine ⟨fun h => ?_, RefusesConfig.loadConfig_eq⟩
  rcases refusesConfig_of_loadConfig h with ⟨_, heq, hrefuses⟩ | ⟨_, heq, -⟩
  · cases heq
    exact hrefuses
  · cases heq

/-- The stack is exhausted exactly when the path leads to a text that there is no room for. -/
theorem loadConfig_eq_exhausted_iff {bracket : Json.Bracket} :
    files.loadConfig room path = .error (.exhausted bracket) ↔
      files.Exhausts room path bracket := by
  constructor
  · intro h
    rcases refusesConfig_of_loadConfig h with ⟨_, heq, -⟩ | ⟨_, heq, hfull⟩
    · cases heq
    · cases heq
      exact hfull
  · exact fun h =>
      loadConfig_of_importJson (importJson_eq_error_iff.mpr (.inr (.inr ⟨bracket, h, rfl⟩)))

end FileSystem

/-! ## Files of a configuration -/

namespace Config

variable {config : Config} {members : Json.Members}

/-- A configuration has no member twice. -/
theorem nodup_names_of_perm (h : members.Perm config.toMembers) : (members.map (·.1)).Nodup := by
  have hnames : (config.toMembers.map (·.1)).Nodup := show memberNames.Nodup by decide
  exact (h.map (·.1)).nodup_iff.mpr hnames

/-- The members of a configuration give it back in any order. -/
theorem reads_of_perm (h : members.Perm config.toMembers) : config.Reads members := by
  have hlookup (name : String) : Json.Members.get? members name = config.toMembers.lookup name :=
    Json.Members.lookup_eq_of_perm h (nodup_names_of_perm h) name
  have hlevel : config.logLevel.name = Text.uppercase config.logLevel.name :=
    config.logLevel.uppercase_name.symm
  refine ⟨.inr (hlookup "only"), .inr (hlookup "skip"), .inr ⟨_, hlookup "fail_fast", rfl⟩,
    .inr ⟨_, hlookup "log_level", hlevel⟩, fun member hmember => ?_⟩
  exact List.mem_map_of_mem (h.mem_iff.mp hmember)

/-- The members of a configuration pass a test throughout that arrays, booleans and texts pass. -/
theorem throughout_of_perm (h : members.Perm config.toMembers) {test : Json → Bool}
    (hobject : test (.object members) = true) (harray : ∀ items, test (.array items) = true)
    (hbool : ∀ value, test (.bool value) = true) (hstring : ∀ text, test (.string text) = true) :
    Json.throughout test (.object members) = true := by
  have htexts (texts : List String) : Json.throughout test (.array (texts.map .string)) = true :=
    Json.throughout_array.mpr ⟨harray _, by simp [Json.throughout, hstring]⟩
  have hown : ∀ member ∈ config.toMembers, Json.throughout test member.2 = true := by
    simp only [toMembers, List.forall_mem_cons]
    exact ⟨htexts _, htexts _, hbool _, hstring _, List.forall_mem_nil _⟩
  exact Json.throughout_object.mpr
    ⟨hobject, fun member hmember => hown member (h.mem_iff.mp hmember)⟩

/-- In the members of a configuration, lists of names are in the object and nothing further in. -/
theorem nesting_of_perm (h : members.Perm config.toMembers) :
    (Json.object members).nesting ≤ 2 := by
  have htexts (texts : List String) : (Json.array (texts.map .string)).nesting ≤ 1 := by
    refine Nat.succ_le_succ (Json.nestingItems_le fun item hitem => ?_)
    obtain ⟨text, -, rfl⟩ := List.mem_map.mp hitem
    exact Nat.le.refl
  have hown : ∀ member ∈ config.toMembers, member.2.nesting ≤ 1 := by
    simp only [toMembers, List.forall_mem_cons]
    exact ⟨htexts _, htexts _, Nat.zero_le 1, Nat.zero_le 1, List.forall_mem_nil _⟩
  exact Nat.succ_le_succ
    (Json.nestingMembers_le fun member hmember => hown member (h.mem_iff.mp hmember))

/-- The text of a configuration's members, in any order, is read as them where there is room for two
brackets around each other. -/
theorem readWithin_written_of_perm (h : members.Perm config.toMembers) {room : Nat}
    (hroom : 2 ≤ room) :
    Json.readWithin room (Json.written (.object members)) = .ok (.object members) := by
  have hfinite : (Json.object members).AllFinite :=
    throughout_of_perm h rfl (fun _ => rfl) (fun _ => rfl) fun _ => rfl
  have hcanonical : (Json.object members).AllCanonical :=
    throughout_of_perm h rfl (fun _ => rfl) (fun _ => rfl) fun _ => rfl
  have hreadable : (Json.object members).Readable :=
    throughout_of_perm h rfl (fun _ => rfl) (fun _ => rfl) fun _ => rfl
  have hunambiguous : (Json.object members).Unambiguous :=
    throughout_of_perm h (decide_eq_true (nodup_names_of_perm h)) (fun _ => rfl) (fun _ => rfl)
      fun _ => rfl
  have hread := Json.readWithin_written hfinite hcanonical hreadable hunambiguous
    (Nat.le_trans (nesting_of_perm h) hroom) (List.forall_mem_nil fun c => Json.isSpace c = true)
  rwa [List.append_nil] at hread

end Config

section Files

variable {files files' : FileSystem} {room : Nat} {path : Path} {config : Config}
  {members : Json.Members}

/-- A file that holds the members of a configuration, in any order, gives it. -/
theorem FileSystem.loadConfig_of_perm (h : members.Perm config.toMembers)
    (hmembers : files.importJson room path = .ok (.object members)) :
    files.loadConfig room path = .ok config :=
  loadConfig_eq_ok_iff.mpr ⟨members, hmembers, Config.reads_of_perm h⟩

/-- A configuration whose members are written to a file is loaded from it. -/
theorem FileSystem.loadConfig_store (h : members.Perm config.toMembers) (hroom : 2 ≤ room)
    (hstore : files.store path (Json.written (.object members)) = .ok files') :
    files'.loadConfig room path = .ok config := by
  have htext : files'.readText path = .ok (Json.written (.object members)) :=
    readText_store_of_isWritten Json.isWritten_of_mem_writtenAt hstore
  refine loadConfig_of_perm h ?_
  rw [importJson, htext]
  exact mapError_eq_ok_iff.mpr (Config.readWithin_written_of_perm h hroom)

end Files

/-- A configuration stays as it is when nothing is merged into it, and when it is written to a file
and loaded. Merging twice is merging once what the later values give, and what the earlier ones give
where those give nothing. A merge fails exactly when it gives a level whose capital form is no name
of one, and otherwise puts the values in place. Configurations come from members that give their
values, so every one has a level of those with a name. A path gives a configuration when it leads to
a file of such members, and is refused for one reason otherwise, unless it leads to a text that the
stack has no room for: that is no error of the configuration. -/
theorem Config.merge_and_load (config : Config) :
    config.merge {} = .ok config ∧ config.merge (.of [] [] none none) = .ok config ∧
      (∀ members : Json.Members, members.Perm config.toMembers →
        (∀ (files : FileSystem) (room : Nat) (path : Path),
          files.importJson room path = .ok (.object members) →
            files.loadConfig room path = .ok config) ∧
        ∀ (files files' : FileSystem) (room : Nat) (path : Path), 2 ≤ room →
          files.store path (Json.written (.object members)) = .ok files' →
            files'.loadConfig room path = .ok config) ∧
      (∀ (earlier later : OverrideValues) (first : Config),
        config.merge earlier.toOverrides = .ok first →
          first.merge later.toOverrides = config.merge (later.after earlier).toOverrides) ∧
      (∀ (values : OverrideValues) (merged : Config),
        config.merge values.toOverrides = .ok merged ↔
          ∃ level : Level, level.name = Text.uppercase (values.levelText config) ∧
            values.replace config level = merged) ∧
      (∀ (values : OverrideValues) (error : OverrideError),
        config.merge values.toOverrides = .error error ↔
          ∃ text, values.logLevel = some text ∧ Text.uppercase text ∉ Level.all.map Level.name ∧
            error = .invalid [⟨.rejected (unknownLevelReason text), [.member "log_level"]⟩]) ∧
      (config.logLevel.name ∈ Level.all.map Level.name ∧
        Level.all.map Level.name =
          ["TRACE", "DEBUG", "INFO", "SUCCESS", "WARNING", "ERROR", "CRITICAL"]) ∧
      (∀ members : Json.Members, ofMembers members = .ok config ↔ config.Reads members) ∧
      ∀ (files : FileSystem) (room : Nat) (path : Path),
        (files.loadConfig room path = .ok config ↔
          ∃ members, files.importJson room path = .ok (.object members) ∧
            config.Reads members) ∧
        (∀ error, files.loadConfig room path = .error (.failed error) ↔
          files.RefusesConfig room path error) ∧
        ∀ bracket, files.loadConfig room path = .error (.exhausted bracket) ↔
          files.Exhausts room path bracket := by
  refine ⟨merge_nothing config, merge_empty config, fun members hmembers => ⟨?_, ?_⟩,
    fun _ _ _ => merge_merge, fun _ _ => merge_eq_ok_iff, fun _ _ => merge_eq_error_iff,
    ⟨config.logLevel.name_mem_names, rfl⟩, fun _ => ofMembers_eq_ok_iff, fun files room path => ?_⟩
  · exact fun _ _ _ => FileSystem.loadConfig_of_perm hmembers
  · exact fun _ _ _ _ => FileSystem.loadConfig_store hmembers
  · exact ⟨FileSystem.loadConfig_eq_ok_iff, fun _ => FileSystem.loadConfig_eq_failed_iff,
      fun _ => FileSystem.loadConfig_eq_exhausted_iff⟩

/-- A file with a number of brackets that open arrays. -/
def openingFiles (count : Nat) : FileSystem :=
  ⟨[(["c.json"], .file (Text.Utf8.encode (List.replicate count '[')))]⟩

/-- With more brackets than there is room for, the file exhausts the stack. -/
theorem exhausts_openingFiles {room count : Nat} (h : room < count) :
    (openingFiles count).Exhausts room ⟨["c.json"]⟩ .array := by
  have hbytes : (openingFiles count).readBytes ⟨["c.json"]⟩ =
      .ok (Text.Utf8.encode (List.replicate count '[')) := rfl
  have hascii : ∀ c ∈ List.replicate count '[', c.toNat < 0x80 := by
    intro c hc
    rw [List.eq_of_mem_replicate hc]
    decide
  have hreturn : '\r' ∉ List.replicate count '[' := fun hmem =>
    absurd (List.eq_of_mem_replicate hmem) (by decide)
  refine ⟨List.replicate count '[', ?_, ?_⟩
  · simp only [FileSystem.readText, hbytes, Text.Utf8.decode_encode hascii,
      Text.withLineFeeds_eq_self hreturn]
  · simpa using Json.readWithin_brackets [] h

/-- A file of two thousand opening brackets gives neither a configuration nor an error of one. -/
theorem Config.loadConfig_openingFiles :
    (openingFiles 2000).loadConfig Room.standard.reading ⟨["c.json"]⟩ =
        .error (.exhausted .array) ∧
      (∀ config, (openingFiles 2000).loadConfig Room.standard.reading ⟨["c.json"]⟩ ≠ .ok config) ∧
      ∀ error,
        (openingFiles 2000).loadConfig Room.standard.reading ⟨["c.json"]⟩ ≠
          .error (.failed error) := by
  have hload : (openingFiles 2000).loadConfig Room.standard.reading ⟨["c.json"]⟩ =
      .error (.exhausted .array) :=
    FileSystem.loadConfig_eq_exhausted_iff.mpr (exhausts_openingFiles (by decide))
  refine ⟨hload, fun config h => ?_, fun error h => ?_⟩
  · rw [hload] at h
    cases h
  · rw [hload] at h
    cases h

end OperandCleanup
