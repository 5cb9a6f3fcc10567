import NfaWorkbench.Registry
import NfaWorkbench.Yaml.Node
import NfaWorkbench.Yaml.Tokens
set_option autoImplicit false

/-!
# YAML: from tokens to nodes

A stream must hold one document, or none.  The readers of nodes take fuel.  Of four calls that
follow one another at least one has read a token, so four times the number of tokens is enough.
-/

namespace NfaWorkbench.Yaml

/-- The tokens that are left, and what is known of the document around them. -/
structure Parse where
  tokens : List Token
  /-- The handles that begin tags, and what they stand for. -/
  handles : List (String × String)
  /-- The names of the anchors so far, and the anchors that they mean. -/
  names : Registry String Nat
  /-- The nodes with anchors so far: their anchors, their ranks in the order in which they began,
  and the nodes. -/
  anchored : List (Nat × Nat × Node)
  /-- The number of nodes with anchors that have begun. -/
  rank : Nat

namespace Parse

/-- Without the next token. -/
def drop (p : Parse) : Parse := { p with tokens := p.tokens.drop 1 }

/-- The next token. -/
def head (p : Parse) : Token := p.tokens.headD .streamEnd

/-- The properties of a node that begins here, and the rank of its anchor. -/
structure Heading where
  properties : Properties
  rank : Nat

/-- A node begins that has an anchor.  The anchor is the number of different names before it. -/
def beginAnchored (p : Parse) (name : String) : Nat × Parse :=
  let anchor := p.names.length
  (anchor, { p with names := p.names.put name anchor, rank := p.rank + 1 })

/-- A node that has been read; if it has an anchor, aliases mean it from now on. -/
def finishNode (p : Parse) (heading : Heading) (node : Node) : Node × Parse :=
  match heading.properties.anchor with
  | none => (node, p)
  | some anchor =>
    (node, { p with anchored := (anchor, heading.rank, node) :: p.anchored })

/-- The tag that a handle and the rest of a tag mean. -/
def tagOf? (p : Parse) (handle suffix : String) : Option String :=
  if handle = "" then some suffix
  else (p.handles.lookup handle).map (· ++ suffix)

/-- Reads a tag, if there is one here. -/
def readTag (p : Parse) : Option (Option String × Parse) :=
  match p.head with
  | .tag handle suffix => (p.tagOf? handle suffix).map fun tag => (some tag, p.drop)
  | _ => some (none, p)

/-- Reads an anchor, if there is one here. -/
def readAnchor (p : Parse) : Option String × Parse :=
  match p.head with
  | .anchor name => (some name, p.drop)
  | _ => (none, p)

/-- Reads an anchor and a tag, in either order; each may be missing. -/
def readProperties (p : Parse) : Option (Option String × Option String × Parse) :=
  match p.head with
  | .tag _ _ => p.readTag.map fun (tag, p) =>
      let (anchor, p) := p.readAnchor
      (anchor, tag, p)
  | _ =>
    let (anchor, p) := p.readAnchor
    if anchor.isSome then p.readTag.map fun (tag, p) => (anchor, tag, p)
    else some (none, none, p)

/-- The heading of a node with the given anchor and tag. -/
def begin (p : Parse) (anchor tag : Option String) : Heading × Parse :=
  match anchor with
  | none => (⟨⟨none, tag⟩, 0⟩, p)
  | some name =>
    let rank := p.rank
    let (anchor, p) := p.beginAnchored name
    (⟨⟨some anchor, tag⟩, rank⟩, p)

/-- Whether one of some tokens comes next. -/
def isAt (p : Parse) (tokens : List Token) : Bool := p.head ∈ tokens

mutual

/-- Reads a node.  `block` tells whether it may be given by indentation, and `indentless` whether it
may be a sequence at the column of the key it belongs to. -/
def node : (fuel : Nat) → (block indentless : Bool) → Parse → Option (Node × Parse)
  | 0, _, _, _ => none
  | fuel + 1, block, indentless, p => match p.head with
    | .alias name => (p.names.get? name).map fun anchor => (.alias anchor, p.drop)
    | _ => match p.readProperties with
      | none => none
      | some (anchor, tag, p) =>
        let hasProperties := anchor.isSome || tag.isSome
        let (heading, p) := p.begin anchor tag
        content fuel block indentless heading hasProperties p

/-- Reads a node after its properties. -/
def content : (fuel : Nat) → (block indentless : Bool) → Heading → (hasProperties : Bool) →
    Parse → Option (Node × Parse)
  | 0, _, _, _, _, _ => none
  | fuel + 1, block, indentless, heading, hasProperties, p =>
    let sequence := fun (items, p) => finishNode p heading (.sequence heading.properties items)
    let mapping := fun (entries, p) => finishNode p heading (.mapping heading.properties entries)
    match p.head with
    | .scalar style text =>
      some (p.drop.finishNode heading (.scalar heading.properties style text))
    | .flowSequenceStart => (flowItems fuel true [] p.drop).map sequence
    | .flowMappingStart => (flowEntries fuel true [] p.drop).map mapping
    | token =>
      if indentless ∧ token = .item then (indentlessItems fuel [] p).map sequence
      else if block ∧ token = .blockSequenceStart then (blockItems fuel [] p.drop).map sequence
      else if block ∧ token = .blockMappingStart then (blockEntries fuel [] p.drop).map mapping
      else if hasProperties then
        some (finishNode p heading (.scalar heading.properties .plain ""))
      else none

/-- Reads a node, unless one of some tokens shows that it is missing. -/
def nodeUnless : (fuel : Nat) → (block indentless : Bool) → List Token → Parse →
    Option (Node × Parse)
  | 0, _, _, _, _ => none
  | fuel + 1, block, indentless, ends, p =>
    if p.isAt ends then some (.missing, p) else node fuel block indentless p

/-- Reads the items of a sequence given by indentation. -/
def blockItems : (fuel : Nat) → List Node → Parse → Option (List Node × Parse)
  | 0, _, _ => none
  | fuel + 1, items, p =>
    if p.isAt [.blockEnd] then some (items.reverse, p.drop)
    else if p.isAt [.item] then
      match nodeUnless fuel true false [.item, .blockEnd] p.drop with
      | none => none
      | some (item, p) => blockItems fuel (item :: items) p
    else none

/-- Reads the items of a sequence at the column of its key. -/
def indentlessItems : (fuel : Nat) → List Node → Parse → Option (List Node × Parse)
  | 0, _, _ => none
  | fuel + 1, items, p =>
    if p.isAt [.item] then
      match nodeUnless fuel true false [.item, .key, .value, .blockEnd] p.drop with
      | none => none
      | some (item, p) => indentlessItems fuel (item :: items) p
    else some (items.reverse, p)

/-- Reads the entries of a mapping given by indentation. -/
def blockEntries : (fuel : Nat) → List (Node × Node) → Parse → Option (List (Node × Node) × Parse)
  | 0, _, _ => none
  | fuel + 1, entries, p =>
    if p.isAt [.blockEnd] then some (entries.reverse, p.drop)
    else if p.isAt [.key] then
      match nodeUnless fuel true true [.key, .value, .blockEnd] p.drop with
      | none => none
      | some (key, p) =>
        let value :=
          if p.isAt [.value] then nodeUnless fuel true true [.key, .value, .blockEnd] p.drop
          else some (.missing, p)
        match value with
        | none => none
        | some (value, p) => blockEntries fuel ((key, value) :: entries) p
    else none

/-- Reads the items of a sequence in brackets; a comma must come before every item but the
first. -/
def flowItems : (fuel : Nat) → (first : Bool) → List Node → Parse → Option (List Node × Parse)
  | 0, _, _, _ => none
  | fuel + 1, first, items, p =>
    if p.isAt [.flowSequenceEnd] then some (items.reverse, p.drop)
    else if !first && !p.isAt [.comma] then none
    else
      let p := if first then p else p.drop
      if p.isAt [.flowSequenceEnd] then some (items.reverse, p.drop)
      else
        let item := if p.isAt [.key] then flowPair fuel p.drop else node fuel false false p
        match item with
        | none => none
        | some (item, p) => flowItems fuel false (item :: items) p

/-- Reads a key and its value that are an item of a sequence in brackets.  If the key is missing,
the token in its place is read, too. -/
def flowPair : (fuel : Nat) → Parse → Option (Node × Parse)
  | 0, _ => none
  | fuel + 1, p =>
    let key :=
      if p.isAt [.value, .comma, .flowSequenceEnd] then some (.missing, p.drop)
      else node fuel false false p
    match key with
    | none => none
    | some (key, p) =>
      let value :=
        if p.isAt [.value] then nodeUnless fuel false false [.comma, .flowSequenceEnd] p.drop
        else some (.missing, p)
      value.map fun (value, p) => (.mapping default [(key, value)], p)

/-- Reads the entries of a mapping in braces; a comma must come before every entry but the first. -/
def flowEntries : (fuel : Nat) → (first : Bool) → List (Node × Node) → Parse →
    Option (List (Node × Node) × Parse)
  | 0, _, _, _ => none
  | fuel + 1, first, entries, p =>
    if p.isAt [.flowMappingEnd] then some (entries.reverse, p.drop)
    else if !first && !p.isAt [.comma] then none
    else
      let p := if first then p else p.drop
      if p.isAt [.flowMappingEnd] then some (entries.reverse, p.drop)
      else
        match flowEntry fuel p with
        | none => none
        | some (entry, p) => flowEntries fuel false (entry :: entries) p

/-- Reads an entry of a mapping in braces; without the sign of a key it has no value. -/
def flowEntry : (fuel : Nat) → Parse → Option ((Node × Node) × Parse)
  | 0, _ => none
  | fuel + 1, p =>
    if p.isAt [.key] then
      match nodeUnless fuel false false [.value, .comma, .flowMappingEnd] p.drop with
      | none => none
      | some (key, p) =>
        let value :=
          if p.isAt [.value] then nodeUnless fuel false false [.comma, .flowMappingEnd] p.drop
          else some (.missing, p)
        value.map fun (value, p) => ((key, value), p)
    else (node fuel false false p).map fun (key, p) => ((key, .missing), p)

end

/-! ## Documents -/

/-- The handles that every document knows. -/
def commonHandles : List (String × String) := [("!", "!"), ("!!", "tag:yaml.org,2002:")]

/-- Reads directives; `versioned` tells whether there was one with a version. -/
def directives (versioned : Bool) (p : Parse) : List Token → Option Parse
  | .version major minor :: rest =>
    if versioned || major ≠ 1 || !(minor = 1 || minor = 2) then none else directives true p rest
  | .tagHandle handle beginning :: rest =>
    if (p.handles.lookup handle).isSome then none
    else directives versioned { p with handles := p.handles ++ [(handle, beginning)] } rest
  | tokens => some { p with tokens, handles := p.handles ++ commonHandles }

/-- Whether a token ends a document without content. -/
def endsDocument : Token → Bool
  | .version _ _ => true
  | .tagHandle _ _ => true
  | .documentStart => true
  | .documentEnd => true
  | .streamEnd => true
  | _ => false

/-- Whether a document begins with directives or a marker. -/
def isExplicit : Token → Bool
  | .version _ _ => true
  | .tagHandle _ _ => true
  | .documentStart => true
  | _ => false

/-- Reads the root of a document. -/
def root (fuel : Nat) (p : Parse) : Option (Node × Parse) :=
  if isExplicit p.head then
    match directives false p p.tokens with
    | none => none
    | some p =>
      if p.head ≠ .documentStart then none
      else if endsDocument p.drop.head then some (.missing, p.drop)
      else node fuel true false p.drop
  else node fuel true false { p with handles := commonHandles }

/-- Whether nothing but markers follows a document. -/
def isFinished (p : Parse) : Bool :=
  p.tokens.dropWhile (· = .documentEnd) = [.streamEnd]

/-- The nodes with anchors, of each anchor the one that began last. -/
def lastAnchored (p : Parse) : List (Nat × Node) :=
  (p.anchored.mergeSort fun a b => b.2.1 ≤ a.2.1).map fun a => (a.1, a.2.2)

end Parse

/-- The document that tokens mean. -/
def Document.ofTokens? (tokens : List Token) : Option Document :=
  if tokens = [.streamEnd] then some .empty
  else match Parse.root (4 * tokens.length + 4) ⟨tokens, [], [], [], 0⟩ with
    | none => none
    | some (root, p) => if p.isFinished then some ⟨root, p.lastAnchored⟩ else none

/-- Reads a document. -/
def Document.parse (text : String) : Option Document := (tokens? text).bind Document.ofTokens?

end NfaWorkbench.Yaml
