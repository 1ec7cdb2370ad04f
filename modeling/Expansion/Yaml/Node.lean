import Expansion.Yaml.Token

/-!
# The tree of a YAML text

A text holds at most one document, and that is a tree of scalars, sequences and mappings.

* **An alias is a leaf with a number**, since the node that it names may have the alias inside it;
  the document tells which node a number stands for (`Document.target`).
* **Numbers may be taken over.** An anchor's number is the count of the distinct names before it. A
  name that is given again therefore gets the number that the next new name gets too, and a number
  stands for the last node that began with it, wherever the alias is.
* A node that is left out is an empty plain scalar.
* The functions for the parts of a collection recurse on a budget; each either takes a token or goes
  to a part that does, so a multiple of the number of tokens suffices (`Document.ofText`).
-/

namespace Expansion.Yaml

/-- A node of a document. -/
inductive Node where
  | scalar (text : String) (isPlain : Bool)
  | sequence (items : List Node)
  | mapping (pairs : List (Node × Node))
  /-- The node that a number stands for. -/
  | alias (number : Nat)
  deriving Repr

/-- The node that stands where nothing is written. -/
def Node.empty : Node := .scalar "" true

/-- A tree and the nodes that the numbers of its aliases stand for. -/
structure Document where
  root : Node
  anchored : List (Nat × Node)
  deriving Repr

/-- The node that a node stands for, which is itself unless it is an alias. -/
def Document.target (d : Document) : Node → Node
  | .alias number => (d.anchored.lookup number).getD Node.empty
  | node => node

/-- What a reader of tokens knows: the tokens left, the handles that tags may use, the number of
each anchor's name, and how many anchored nodes have begun. -/
structure TreeReader where
  tokens : List Token
  handles : List String
  anchors : List (String × Nat)
  begun : Nat
  /-- The numbers of the anchored nodes with the order in which these began, last first. -/
  numbers : List (Nat × Nat)
  /-- The finished ones, by the order in which they began. -/
  nodes : List (Nat × Node)

/-- Why tokens are no tree. -/
abbrev Problem := String

namespace TreeReader

/-- The reader without its first token. -/
def skip (r : TreeReader) : TreeReader := { r with tokens := r.tokens.drop 1 }

/-- The properties of a node: an anchor's name, if any, and whether there is an anchor or a tag. -/
structure Properties where
  anchor? : Option String
  any : Bool

/-- The handles that need no directive. -/
def standardHandles : List String := ["", "!", "!!"]

/-- Whether a tag's handle is known. -/
def knows (r : TreeReader) (handle : String) : Bool :=
  standardHandles.contains handle || r.handles.contains handle

/-- The anchor and the tag in front, in either order. -/
def properties (r : TreeReader) : Except Problem (Properties × TreeReader) :=
  match r.tokens with
  | .anchor name :: .tag handle :: rest =>
    if r.knows handle then .ok (⟨some name, true⟩, { r with tokens := rest })
    else .error "found undefined tag handle"
  | .anchor name :: rest => .ok (⟨some name, true⟩, { r with tokens := rest })
  | .tag handle :: rest =>
    if r.knows handle then
      match rest with
      | .anchor name :: rest => .ok (⟨some name, true⟩, { r with tokens := rest })
      | rest => .ok (⟨none, true⟩, { r with tokens := rest })
    else .error "found undefined tag handle"
  | _ => .ok (⟨none, false⟩, r)

/-- A name that gets a number, in the place of what it had. -/
def setNumber (anchors : List (String × Nat)) (name : String) (number : Nat) :
    List (String × Nat) :=
  (name, number) :: anchors.filter fun (other, _) => other != name

/-- Begins a node, which its anchor, if it has one, names from now on. -/
def begin (r : TreeReader) (anchor? : Option String) : TreeReader :=
  match anchor? with
  | some name =>
    let number := r.anchors.length
    { r with
      anchors := setNumber r.anchors name number
      begun := r.begun + 1
      numbers := (number, r.begun) :: r.numbers }
  | none => r

/-- Ends the node that began as number `order`, if an anchor names it. -/
def finish (r : TreeReader) (anchor? : Option String) (order : Nat) (found : Node) : TreeReader :=
  match anchor? with
  | some _ => { r with nodes := (order, found) :: r.nodes }
  | none => r

/-- The leaf for an alias. -/
def aliasOf (r : TreeReader) (name : String) : Except Problem Node :=
  match r.anchors.lookup name with
  | none => .error "unknown anchor"
  | some number => .ok (.alias number)

/-- The anchored nodes by number, the last begun of each number first. -/
def anchored (r : TreeReader) : List (Nat × Node) :=
  r.numbers.filterMap fun (number, order) => (r.nodes.lookup order).map fun node => (number, node)

mutual

/-- The node in front. `block` allows block collections, and `indentless` a sequence that is not
indented. -/
def node : Nat → Bool → Bool → TreeReader → Except Problem (Node × TreeReader)
  | 0, _, _, _ => .error "the document is too deep"
  | budget + 1, block, indentless, r =>
    match r.tokens with
    | .alias name :: _ => do
      let found ← r.aliasOf name
      .ok (found, r.skip)
    | _ => do
      let (given, r) ← r.properties
      let order := r.begun
      let opened := r.begin given.anchor?
      let (found, r) ←
        (match r.tokens with
        | .blockEntry :: _ =>
          if indentless then do
            let (items, r) ← indentlessItems budget opened
            .ok (Node.sequence items, r)
          else if given.any then .ok (Node.empty, opened)
          else .error "did not find expected node content"
        | .scalar text isPlain :: _ => .ok (Node.scalar text isPlain, opened.skip)
        | .flowSequenceStart :: _ => do
          let (items, r) ← flowItems budget true opened.skip
          .ok (Node.sequence items, r)
        | .flowMappingStart :: _ => do
          let (pairs, r) ← flowPairs budget true opened.skip
          .ok (Node.mapping pairs, r)
        | .blockSequenceStart :: _ =>
          if block then do
            let (items, r) ← blockItems budget opened.skip
            .ok (Node.sequence items, r)
          else if given.any then .ok (Node.empty, opened)
          else .error "did not find expected node content"
        | .blockMappingStart :: _ =>
          if block then do
            let (pairs, r) ← blockPairs budget opened.skip
            .ok (Node.mapping pairs, r)
          else if given.any then .ok (Node.empty, opened)
          else .error "did not find expected node content"
        | _ =>
          if given.any then .ok (Node.empty, opened)
          else .error "did not find expected node content" :
          Except Problem (Node × TreeReader))
      .ok (found, r.finish given.anchor? order found)

/-- The items of an indented sequence, up to its end. -/
def blockItems : Nat → TreeReader → Except Problem (List Node × TreeReader)
  | 0, _ => .error "the document is too deep"
  | budget + 1, r =>
    match r.tokens with
    | .blockEntry :: next => do
      let (item, r) ←
        (match next with
        | .blockEntry :: _ | .blockEnd :: _ => .ok (Node.empty, r.skip)
        | _ => node budget true false r.skip)
      let (items, r) ← blockItems budget r
      .ok (item :: items, r)
    | .blockEnd :: _ => .ok ([], r.skip)
    | _ => .error "did not find expected '-' indicator"

/-- The items of a sequence that is not indented. -/
def indentlessItems : Nat → TreeReader → Except Problem (List Node × TreeReader)
  | 0, _ => .error "the document is too deep"
  | budget + 1, r =>
    match r.tokens with
    | .blockEntry :: next => do
      let (item, r) ←
        (match next with
        | .blockEntry :: _ | .key :: _ | .value :: _ | .blockEnd :: _ => .ok (Node.empty, r.skip)
        | _ => node budget true false r.skip)
      let (items, r) ← indentlessItems budget r
      .ok (item :: items, r)
    | _ => .ok ([], r)

/-- The pairs of an indented mapping, up to its end. -/
def blockPairs : Nat → TreeReader → Except Problem (List (Node × Node) × TreeReader)
  | 0, _ => .error "the document is too deep"
  | budget + 1, r =>
    match r.tokens with
    | .key :: next => do
      let (key, r) ←
        (match next with
        | .key :: _ | .value :: _ | .blockEnd :: _ => .ok (Node.empty, r.skip)
        | _ => node budget true true r.skip)
      let (value, r) ←
        (match r.tokens with
        | .value :: .key :: _ | .value :: .value :: _ | .value :: .blockEnd :: _ =>
          .ok (Node.empty, r.skip)
        | .value :: _ => node budget true true r.skip
        | _ => .ok (Node.empty, r))
      let (pairs, r) ← blockPairs budget r
      .ok ((key, value) :: pairs, r)
    | .blockEnd :: _ => .ok ([], r.skip)
    | _ => .error "did not find expected key"

/-- The items between square brackets, up to the closing one. -/
def flowItems : Nat → Bool → TreeReader → Except Problem (List Node × TreeReader)
  | 0, _, _ => .error "the document is too deep"
  | budget + 1, isFirst, r =>
    match isFirst, r.tokens with
    | _, .flowSequenceEnd :: _ => .ok ([], r.skip)
    | true, _ => flowItem budget r
    | false, .flowEntry :: .flowSequenceEnd :: _ => .ok ([], r.skip.skip)
    | false, .flowEntry :: _ => flowItem budget r.skip
    | false, _ => .error "did not find expected ',' or ']'"

/-- An item between square brackets, and those after it. -/
def flowItem : Nat → TreeReader → Except Problem (List Node × TreeReader)
  | 0, _ => .error "the document is too deep"
  | budget + 1, r => do
    let (item, r) ←
      (match r.tokens with
      | .key :: next => do
        let (key, r) ←
          (match next with
          | .value :: _ | .flowEntry :: _ | .flowSequenceEnd :: _ =>
            .ok (Node.empty, r.skip.skip)
          | _ => node budget false false r.skip)
        let (value, r) ← flowValue budget .flowSequenceEnd r
        .ok (Node.mapping [(key, value)], r)
      | _ => node budget false false r : Except Problem (Node × TreeReader))
    let (items, r) ← flowItems budget false r
    .ok (item :: items, r)

/-- The pairs between braces, up to the closing one. -/
def flowPairs : Nat → Bool → TreeReader → Except Problem (List (Node × Node) × TreeReader)
  | 0, _, _ => .error "the document is too deep"
  | budget + 1, isFirst, r =>
    match isFirst, r.tokens with
    | _, .flowMappingEnd :: _ => .ok ([], r.skip)
    | true, _ => flowPair budget r
    | false, .flowEntry :: .flowMappingEnd :: _ => .ok ([], r.skip.skip)
    | false, .flowEntry :: _ => flowPair budget r.skip
    | false, _ => .error "did not find expected ',' or '\x7d'"

/-- A pair between braces, and those after it. -/
def flowPair : Nat → TreeReader → Except Problem (List (Node × Node) × TreeReader)
  | 0, _ => .error "the document is too deep"
  | budget + 1, r => do
    let (pair, r) ←
      (match r.tokens with
      | .key :: next => do
        let (key, r) ←
          (match next with
          | .value :: _ | .flowEntry :: _ | .flowMappingEnd :: _ => .ok (Node.empty, r.skip)
          | _ => node budget false false r.skip)
        let (value, r) ← flowValue budget .flowMappingEnd r
        .ok ((key, value), r)
      | _ => do
        let (key, r) ← node budget false false r
        .ok ((key, Node.empty), r) : Except Problem ((Node × Node) × TreeReader))
    let (pairs, r) ← flowPairs budget false r
    .ok (pair :: pairs, r)

/-- The value of a pair between brackets, where `ending` closes them. -/
def flowValue : Nat → Token → TreeReader → Except Problem (Node × TreeReader)
  | 0, _, _ => .error "the document is too deep"
  | budget + 1, ending, r =>
    match r.tokens with
    | .value :: next =>
      match next with
      | .flowEntry :: _ => .ok (Node.empty, r.skip)
      | token :: _ =>
        if token = ending then .ok (Node.empty, r.skip) else node budget false false r.skip
      | [] => node budget false false r.skip
    | _ => .ok (Node.empty, r)

end

/-- The directives in front of a document: at most one version, and handles given once each. -/
def directives : List Token → Bool → List String → Except Problem (List String × List Token)
  | .versionDirective major minor :: rest, hasVersion, handles =>
    if hasVersion then .error "found duplicate %YAML directive"
    else if major = 1 && (minor = 1 || minor = 2) then directives rest true handles
    else .error "found incompatible YAML document"
  | .tagDirective handle :: rest, hasVersion, handles =>
    if handles.contains handle then .error "found duplicate %TAG directive"
    else directives rest hasVersion (handle :: handles)
  | rest, _, handles => .ok (handles, rest)

end TreeReader

/-- Whether a token belongs to no document's content. -/
def Token.isBetweenDocuments : Token → Bool
  | .versionDirective _ _ | .tagDirective _ | .documentStart | .documentEnd => true
  | _ => false

/-- The document of the tokens, or `none` when there is none. -/
def Document.ofTokens? (tokens : List Token) : Except Problem (Option Document) :=
  match tokens with
  | [] => .ok none
  | first :: _ => do
    let reader (handles : List String) (tokens : List Token) : TreeReader :=
      { tokens, handles, anchors := [], begun := 0, numbers := [], nodes := [] }
    let budget := 8 * (tokens.length + 1)
    let (found, r) ←
      (if first.isBetweenDocuments then do
        let (handles, rest) ← TreeReader.directives tokens false []
        match rest with
        | .documentStart :: content =>
          match content with
          | [] => .ok (Node.empty, reader handles content)
          | next :: _ =>
            if next.isBetweenDocuments then .ok (Node.empty, reader handles content)
            else TreeReader.node budget true false (reader handles content)
        | _ => .error "did not find expected <document start>"
      else TreeReader.node budget true false (reader [] tokens) :
        Except Problem (Node × TreeReader))
    match r.tokens.dropWhile (· == .documentEnd) with
    | [] => .ok (some ⟨found, r.anchored⟩)
    | _ :: _ => .error "deserializing from YAML containing more than one document is not supported"

/-- The document of a text, or `none` when there is none. -/
def Document.ofText (s : String) : Except String (Option Document) :=
  match Token.ofText s with
  | .error fault => .error fault.message
  | .ok tokens => Document.ofTokens? tokens

end Expansion.Yaml
