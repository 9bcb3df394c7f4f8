/-!
# Provenance inputs

The three things that report data is bound to, in binding order.
-/

namespace ReportBinding

/-- One of the three inputs of a binding. -/
inductive Input where
  /-- The binary of the toolchain. -/
  | toolchain
  /-- The proof artifact. -/
  | proof
  /-- The checked-out revision of the attestation SDK. -/
  | revision
deriving DecidableEq, Repr

namespace Input

/-- All inputs, in binding order. -/
def all : List Input := [.toolchain, .proof, .revision]

/-- How messages name an input. -/
def label : Input → String
  | .toolchain => "toolchain binary"
  | .proof => "proof artifact"
  | .revision => "attestation SDK revision"

/-- Several labels, separated by commas. -/
def labels (inputs : List Input) : String :=
  ", ".intercalate (inputs.map label)

end Input
end ReportBinding
