import NfaWorkbench.Yaml.Token
set_option autoImplicit false

/-!
# YAML: nodes

The content of a document.  A scalar keeps how it was written, because only a plain scalar can mean
a missing value or a truth value.  A node may have an anchor, and an alias stands for the node with
its anchor; so a document may hold itself, and aliases are followed only where their contents are
asked for.  Of several nodes with one anchor an alias means the last.
-/

namespace NfaWorkbench.Yaml

/-- What may stand in front of a node. -/
structure Properties where
  anchor : Option Nat
  tag : Option String
  deriving DecidableEq, Repr, Inhabited

/-- A node. -/
inductive Node
  | alias (anchor : Nat)
  | scalar (properties : Properties) (style : ScalarStyle) (text : String)
  | sequence (properties : Properties) (items : List Node)
  | mapping (properties : Properties) (entries : List (Node × Node))
  deriving Repr

/-- The content of a document: its root, and the nodes with anchors, the last of each first. -/
structure Document where
  root : Node
  anchored : List (Nat × Node)
  deriving Repr

namespace Node

/-- A node that is not written at all. -/
def missing : Node := .scalar default .plain ""

instance : Inhabited Node := ⟨missing⟩

/-- The words for a missing value. -/
def nullWords : List String := ["~", "null", "Null", "NULL"]

/-- The truth value that a word means. -/
def truthOf? (text : String) : Option Bool :=
  if text ∈ ["true", "True", "TRUE"] then some true
  else if text ∈ ["false", "False", "FALSE"] then some false
  else none

/-- The tag of a missing value. -/
def nullTag : String := "tag:yaml.org,2002:null"

/-- The tag of a truth value. -/
def truthTag : String := "tag:yaml.org,2002:bool"

/-- The truth value of a node: it must be plain, or a literal scalar with the tag. -/
def truth? : Node → Option Bool
  | .scalar _ .plain text => truthOf? text
  | .scalar properties .literal text =>
    if properties.tag = some truthTag then truthOf? text else none
  | _ => none

/-- The text of a scalar, however it was written. -/
def text? : Node → Option String
  | .scalar _ _ text => some text
  | _ => none

/-- The text of a node that may mean a missing value.  With the tag of a missing value a plain
scalar must be a word for it; with another tag it cannot mean it. -/
def optionalText? : Node → Option (Option String)
  | .scalar properties .plain text => match properties.tag with
    | some tag =>
      if tag ≠ nullTag then some (some text) else if text ∈ nullWords then some none else none
    | none => some (if text = "" ∨ text ∈ nullWords then none else some text)
  | node => node.text?.map some

/-- The entries of a mapping; a plain scalar without text has none. -/
def entries? : Node → Option (List (Node × Node))
  | .mapping _ entries => some entries
  | .scalar _ .plain "" => some []
  | _ => none

end Node

namespace Document

/-- A document with nothing in it. -/
def empty : Document := ⟨.missing, []⟩

instance : Inhabited Document := ⟨empty⟩

/-- The node that a node stands for. -/
def resolve (d : Document) : Node → Node
  | .alias anchor => (d.anchored.lookup anchor).getD (.alias anchor)
  | node => node

end Document

end NfaWorkbench.Yaml
