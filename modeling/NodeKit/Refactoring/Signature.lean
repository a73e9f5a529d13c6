import NodeKit.Log
import NodeKit.Text.Occurrence

/-!
# Changing a method signature

Every occurrence of one signature gives way to another. The two changes narrow
the visibility of the methods that carry a node's data.
-/
namespace NodeKit.Refactoring

/-- A signature and the one that takes its place. -/
structure SignatureChange where
  name : Text
  old : Text
  new : Text
deriving DecidableEq, Repr

/-- Narrows the method that reads a node's data. -/
def getNodeDataChange : SignatureChange where
  name := "get-node-data"
  old := "public override JObject GetNodeData()"
  new := "protected internal override JObject GetNodeData()"

/-- Narrows the method that writes a node's data. -/
def setNodeDataChange : SignatureChange where
  name := "set-node-data"
  old := "public override void SetNodeData(JObject jsonData)"
  new := "protected internal override void SetNodeData(JObject jsonData)"

namespace SignatureChange

/-- Makes the change throughout the text. -/
def apply (change : SignatureChange) (t : Text) : Text :=
  Text.replaceAll change.old change.new t

/-- The log of a change. -/
def records (change : SignatureChange) (t : Text) : List Record :=
  [⟨.trace, .signature, change.name ++ ": " ++
    Text.ofNat (Text.countOccurrences change.old t) ++ " occurrence(s)"⟩]

end SignatureChange

end NodeKit.Refactoring
