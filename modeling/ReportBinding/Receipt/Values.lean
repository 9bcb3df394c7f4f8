import ReportBinding.Json.Printer
import ReportBinding.Json.Record
import ReportBinding.Pipeline.Inputs

/-!
# Values in JSON documents

How digests, revisions, report data, quotes, stages, provenances and input
paths are written to JSON documents and read back.  All but the records and the
stages are texts.
-/

namespace ReportBinding

open Json

/-- The value of a text that may be refused. -/
def Json.Node.parsed {α : Type} (node : Node)
    (parse : String → Except String α) : Except Json.Fault α :=
  match node.text .text with
  | .error fault => .error fault
  | .ok text =>
      match parse text with
      | .ok value => .ok value
      | .error reason => .error (.rejected reason)

/-- Read a file digest. -/
def FileDigest.read (node : Node) : Except Json.Fault FileDigest :=
  node.parsed fun text => (FileDigest.ofHex text).mapError Fault.message

/-- Write a file digest. -/
def FileDigest.toNode (digest : FileDigest) : Node :=
  .ofText digest.toHex

/-- Read a revision id. -/
def RevisionId.read (node : Node) : Except Json.Fault RevisionId :=
  node.parsed fun text => (RevisionId.parse text).mapError Fault.message

/-- Write a revision id. -/
def RevisionId.toNode (id : RevisionId) : Node :=
  .ofText id.text

/-- Read report data. -/
def ReportData.read (node : Node) : Except Json.Fault ReportData :=
  node.parsed fun text => (ReportData.ofHex text).mapError fun fault =>
    (Error.invalidReportData fault).message

/-- Write report data. -/
def ReportData.toNode (reportData : ReportData) : Node :=
  .ofText reportData.toHex

/-- Read a quote. -/
def Quote.read (node : Node) : Except Json.Fault Quote :=
  node.parsed fun text => (Quote.ofHex text).mapError Hex.Fault.message

/-- Write a quote. -/
def Quote.toNode (quote : Quote) : Node :=
  .ofText quote.toHex

namespace Stage

/-- Read the name of a stage. -/
def readName (name : String) : Except Json.Fault Stage :=
  match ofName? name with
  | some stage => .ok stage
  | none => .error (.unknownCase name (all.map Stage.name))

/-- Read a stage: its name, or an object that has nothing but null under its
name. -/
def read (node : Node) : Except Json.Fault Stage :=
  match node with
  | .string (some name) => readName name
  | .object (.misnamed node) => .error (node.mismatch .caseName)
  | .object (.cons (some name) value tail) =>
      match readName name with
      | .error fault => .error fault
      | .ok stage =>
          match value, tail with
          | .null, .closed => .ok stage
          | .null, _ => .error .malformed
          | value, _ => .error (value.mismatch .unit)
  | _ => .error .malformed

/-- Write a stage. -/
def toNode (stage : Stage) : Node :=
  .ofText stage.name

end Stage

namespace Provenance

/-- The record type of provenances. -/
def recordType : RecordType Input Parts Provenance where
  name := "Provenance"
  fields := Input.all
  fieldName
    | .toolchain => "toolchain"
    | .proof => "proof"
    | .revision => "sdk_revision"
  isOptional _ := false
  empty := ⟨none, none, none⟩
  has := Parts.has
  readField
    | .toolchain, node, parts =>
        (FileDigest.read node).map fun digest =>
          { parts with toolchain := some digest }
    | .proof, node, parts =>
        (FileDigest.read node).map fun digest =>
          { parts with proof := some digest }
    | .revision, node, parts =>
        (RevisionId.read node).map fun id =>
          { parts with revision := some id }
  result? parts := parts.complete.toOption

/-- Read a provenance. -/
def read (node : Node) : Except Json.Fault Provenance :=
  recordType.read node

/-- Write a provenance. -/
def toNode (provenance : Provenance) : Node :=
  .ofMembers
    [("toolchain", provenance.toolchain.toNode),
      ("proof", provenance.proof.toNode),
      ("sdk_revision", provenance.revision.toNode)]

end Provenance

namespace InputPaths

/-- Input paths as far as they are known. -/
structure Draft where
  toolchain : Option HostText
  proof : Option HostText
  sdk : Option HostText
deriving DecidableEq, Repr

/-- The record type of input paths. -/
def recordType : RecordType Input Draft InputPaths where
  name := "AttestationInputs"
  fields := Input.all
  fieldName
    | .toolchain => "toolchain"
    | .proof => "proof"
    | .revision => "sdk"
  isOptional _ := false
  empty := ⟨none, none, none⟩
  has
    | draft, .toolchain => draft.toolchain.isSome
    | draft, .proof => draft.proof.isSome
    | draft, .revision => draft.sdk.isSome
  readField
    | .toolchain, node, draft =>
        (node.text .path).map fun text =>
          { draft with toolchain := some (.ofText text) }
    | .proof, node, draft =>
        (node.text .path).map fun text =>
          { draft with proof := some (.ofText text) }
    | .revision, node, draft =>
        (node.text .path).map fun text =>
          { draft with sdk := some (.ofText text) }
  result?
    | ⟨some toolchain, some proof, some sdk⟩ => some ⟨toolchain, proof, sdk⟩
    | _ => none

/-- Read input paths. -/
def read (node : Node) : Except Json.Fault InputPaths :=
  recordType.read node

/-- Write a path, which has to be a text. -/
def nodeOfPath (path : HostText) : Except Receipt.Fault Node :=
  match path.text? with
  | some text => .ok (.ofText text)
  | none => .error .illFormedPath

/-- Write input paths. -/
def toNode (paths : InputPaths) : Except Receipt.Fault Node := do
  let toolchain ← nodeOfPath paths.toolchain
  let proof ← nodeOfPath paths.proof
  let sdk ← nodeOfPath paths.sdk
  .ok (.ofMembers
    [("toolchain", toolchain), ("proof", proof), ("sdk", sdk)])

end InputPaths
end ReportBinding
