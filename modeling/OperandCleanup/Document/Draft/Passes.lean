import OperandCleanup.Document.Draft.Editing
import OperandCleanup.Registry.Default

/-!
# Passes over drafts

A pass judges a record of a draft by what it sees of it: the text of every value, and operands that
stand for those of the draft by their position. Before it judges, it reads some parts of the record
in order, and the first of them that cannot be used as the pass uses it is an obstacle. The pass
ends there: what it has changed stays changed, and it adds no records.
-/

namespace OperandCleanup

/-- A use of a part of a record. -/
inductive Access where
  | mnemonicAsKey
  | encodingAsKey
  | encodingAsText
  | operandCount
  | operandName (position : Nat)
  | operandNameAsKey (position : Nat)
  | operandNames
  | operandNamesAsKeys
  /-- One of the record's own operations. -/
  | operation (name : String)
  | written
deriving DecidableEq, Repr, Inhabited

/-- Use a part of a record. -/
def DraftRecord.access (record : DraftRecord) : Access → Except Misuse Unit
  | .mnemonicAsKey => do let _ ← record.mnemonic.key
  | .encodingAsKey => do let _ ← record.binaryEncoding.key
  | .encodingAsText =>
    match record.binaryEncoding with
    | .string _ => .ok ()
    | value => .error (.asText value.typeName)
  | .operandCount => do let _ ← record.operands.size
  | .operandName position => do
    let item ← record.operands.part (.int position)
    let _ ← item.name
  | .operandNameAsKey position => do
    let item ← record.operands.part (.int position)
    let name ← item.name
    let _ ← name.key
  | .operandNames => do
    let items ← record.operands.items
    items.forM fun item => do let _ ← item.name
  | .operandNamesAsKeys => do
    let items ← record.operands.items
    items.forM fun item => do
      let name ← item.name
      let _ ← name.key
  | .operation name => record.operation name
  | .written => do let _ ← record.toJson

/-! ## What a pass sees -/

/-- The operand that stands for the one at a position. Its only member carried along is that
position, under a name that no member carried along has. -/
def DraftOperand.seen (position : Nat) : DraftOperand → Operand
  | .operand name usage encoding _ =>
    { name := name.text, usage, encoding, extras := [("name", .int position)] }
  | .other _ => { name := "", extras := [("name", .int position)] }

/-- The item that an operand stands for, as the operand has become, or else a new operand. -/
def DraftOperand.revised (items : List DraftOperand) (operand : Operand) : DraftOperand :=
  match operand.extras with
  | [("name", .int position)] =>
    match items[position.toNat]? with
    | some (.operand name _ _ extras) =>
      .operand (if operand.name = name.text then name else .string operand.name) operand.usage
        operand.encoding extras
    | some (.other value) => .other value
    | none => .ofOperand operand
  | _ => .ofOperand operand

namespace DraftRecord

/-- The operands one after the other, none where they cannot be looked at. -/
def visibleOperands (record : DraftRecord) : List DraftOperand :=
  match record.operands.items with
  | .ok items => items
  | .error _ => []

/-- A record as a pass sees it. -/
def seen (record : DraftRecord) : Record where
  mnemonic := record.mnemonic.text
  binaryEncoding := record.binaryEncoding.text
  operands := record.visibleOperands.mapIdx DraftOperand.seen
  extras := record.extras

/-- The record of the draft after what a pass sees of it has become another record. -/
def revised (record : DraftRecord) (changed : Record) : DraftRecord :=
  { record with
    binaryEncoding :=
      if changed.binaryEncoding = record.binaryEncoding.text then record.binaryEncoding
      else .string changed.binaryEncoding
    operands := .list (changed.operands.map (DraftOperand.revised record.visibleOperands)) }

end DraftRecord

/-! ## Passes and their readings -/

/-- A pass together with what it reads of a record. -/
structure DraftPass where
  pass : Pass
  reads : Record → List Access
  /-- What the pass has made of a record that it cannot read to the end. -/
  interrupted : DraftRecord → DraftRecord := id

namespace DraftPass

/-- A record that is looked up by its mnemonic and, if it is found, by its operands. -/
def readsByMnemonic (mnemonics : List String) (operands : Record → List Access)
    (record : Record) : List Access :=
  if mnemonics.contains record.mnemonic then .operandCount :: operands record else []

def cmpsMovs : DraftPass where
  pass := Pass.cmpsMovs
  reads := fun record => .mnemonicAsKey ::
    readsByMnemonic ["CMPS", "MOVS"] (fun record =>
      if record.operands.length = 2 then [.operandNameAsKey 0] else []) record

def insOuts : DraftPass where
  pass := Pass.insOuts
  reads := readsByMnemonic ["INS", "OUTS"] fun record =>
    match record.operands with
    | [first, _] =>
      .operandNameAsKey 0 ::
        if (PointerSize.ofOperand? first.name).isSome then [] else [.operandNameAsKey 1]
    | _ => []

def lodsScasStos : DraftPass where
  pass := Pass.lodsScasStos
  reads := fun record => .mnemonicAsKey ::
    readsByMnemonic ["LODS", "SCAS", "STOS"] (fun record =>
      match record.operands with
      | [operand] =>
        .operandNameAsKey 0 ::
          if (PointerSize.ofMemory? operand.name).isSome then [.operation "set_operands"] else []
      | _ => []) record

def vmovq : DraftPass where
  pass := Pass.vmovq
  reads := fun record =>
    if record.binaryEncoding = Pass.vmovqEncoding then
      [.operandCount, if record.operands.length = 2 then .operandName 1 else .written]
    else []

def generalRegister : DraftPass where
  pass := Pass.generalRegister
  reads := fun record => .operandNames ::
    if record.hasOperand Pass.placeholder then
      .mnemonicAsKey ::
        if Pass.splitMnemonics.contains record.mnemonic then
          [.encodingAsText, .operation "copy_record", .operation "model_copy"]
        else []
    else []

/-- The operands that can be read under their canonical names, up to the first that cannot. -/
def canonicalOperands : List DraftOperand → List DraftOperand
  | [] => []
  | item :: rest =>
    match item.name with
    | .ok (.string name) =>
      match Pass.canonicalName? name with
      | some canonical =>
        (item.renamed (.string canonical)).toOption.getD item :: canonicalOperands rest
      | none => item :: canonicalOperands rest
    | .ok name => if name.isKey then item :: canonicalOperands rest else item :: rest
    | .error _ => item :: rest

def renameSynonyms : DraftPass where
  pass := Pass.renameSynonyms
  reads := fun _ => [.operandNamesAsKeys]
  interrupted := fun record =>
    match record.operands with
    | .list items => { record with operands := .list (canonicalOperands items) }
    | .other _ => record

def removeStackTop : DraftPass where
  pass := Pass.removeStackTop
  reads := fun record => .encodingAsKey ::
    if Pass.stackTopEncodings.contains record.binaryEncoding then
      [.operation "remove_operands", .operandNames]
    else []

def removeImpliedVector : DraftPass where
  pass := Pass.removeImpliedVector
  reads := fun _ => [.operation "remove_operands", .operandNames]

/-- The passes of the library, in the order in which they run. -/
def standard : List DraftPass :=
  [cmpsMovs, insOuts, lodsScasStos, vmovq, generalRegister, renameSynonyms, removeStackTop,
    removeImpliedVector]

end DraftPass

/-! ## Applying a pass -/

/-- The state of a draft's records after a pass, what the pass did, and what it met. -/
structure DraftScan where
  records : List DraftRecord
  added : List DraftRecord := []
  errors : List DataError := []
  modified : Nat := 0
  obstacle : Option Misuse := none
deriving Repr, Inhabited

/-- The draft that a transform leaves, and what it reports unless it met an obstacle. -/
structure DraftApplication where
  draft : Draft
  outcome : Except Misuse Outcome

namespace DraftPass

/-- The error that a pass reports about the record at an index. -/
def errorAt (pass : DraftPass) (kind : ErrorKind) (index : Nat) (record : DraftRecord)
    (message : String) : DataError :=
  { pass.pass.errorAt kind index record.seen message with
    covers := DataError.coverOf "mnemonic" record.mnemonic }

/-- Look at records in order, the first of them at `index`. -/
def scan (pass : DraftPass) : Nat → List DraftRecord → DraftScan
  | _, [] => { records := [] }
  | index, record :: rest =>
    match (pass.reads record.seen).forM record.access with
    | .error obstacle =>
      { records := pass.interrupted record :: rest, obstacle := some obstacle }
    | .ok () =>
      match pass.pass.judge record.seen with
      | .unchanged =>
        let after := pass.scan (index + 1) rest
        { after with records := record :: after.records }
      | .changed revised added =>
        let after := pass.scan (index + 1) rest
        { after with
          records := record.revised revised :: after.records
          added := added.map record.revised ++ after.added
          modified := after.modified + 1 }
      | .malformed message =>
        let after := pass.scan (index + 1) rest
        { after with
          records := record :: after.records
          errors := pass.errorAt .malformedRecord index record message :: after.errors }
      | .corrupt headline =>
        { records := record :: rest
          errors := [pass.errorAt .corruptFixedForm index record
            (headline ++ String.ofList (Json.object record.toMembers).literal)] }

/-- Apply a pass to a draft. -/
def apply (pass : DraftPass) (draft : Draft) : DraftApplication :=
  let scan := pass.scan 0 draft.records
  match scan.obstacle with
  | some obstacle => ⟨⟨scan.records⟩, .error obstacle⟩
  | none => ⟨⟨scan.records ++ scan.added⟩,
      .ok { transform := pass.pass.name, errors := scan.errors, modified := scan.modified }⟩

end DraftPass

end OperandCleanup
