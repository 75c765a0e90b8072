import LuaDebugger.Config.Yaml.Scanner
import LuaDebugger.Config.Yaml.Resolve
/-!
# Composing a YAML document

The composer reads the tokens of the first document of a stream into a tree of nodes:
scalars with their tags and styles, sequences and mappings. Block collections come from
indentation, flow collections from brackets and braces; a `[a: b]` entry is a mapping of one
pair, and an entry with nothing in it, like a key without a value, is the empty scalar.

A node may carry an anchor; an alias names the latest anchor of its name before it, and
stands for that node. An anchor is known from the start of its node, so an alias inside a
node may name the node itself. Aliases refer to anchored nodes by number: the document keeps
the anchored nodes in the order of their anchors, and every alias has a number of its own.

Each node records the line where it starts, counted from one, and its tag: the explicit tag
with its handle expanded and the core schema's prefix written as `!!`; else `!!str` for a
quoted or block scalar, `!!merge` for a plain `<<`, the resolved tag of another plain scalar,
and `!!seq` or `!!map` for a collection.

A fault names the line of the collection that failed, or of the offending token.
-/

namespace LuaDebugger.Yaml

/-- A node of a YAML document. -/
inductive Node where
  /-- A scalar: its text, its tag, its style and its line. -/
  | scalar (value : String) (tag : String) (style : ScalarStyle) (line : Nat)
  /-- A sequence of nodes. -/
  | sequence (items : List Node) (tag : String) (line : Nat)
  /-- A mapping, its pairs in the order written. -/
  | mapping (entries : List (Node × Node)) (tag : String) (line : Nat)
  /-- An alias: its name, its own number, and the number of the anchored node it stands
  for. -/
  | reference (name : String) (occurrence : Nat) (anchor : Nat) (line : Nat)
  deriving Inhabited

/-- A composed document: its root, none for an empty stream, and its anchored nodes. -/
structure Document where
  /-- The root node. -/
  root : Option Node
  /-- The anchored nodes, by the number of their anchor. -/
  anchored : Array Node

/-- The empty scalar at a mark. -/
def emptyAt (m : Mark) : Node := .scalar "" "!!null" .plain (m.line + 1)

/-- The tag of a scalar node, from its explicit tag, its style and its text. -/
def scalarTag (tag value : String) (style : ScalarStyle) : String :=
  if tag ≠ "" ∧ tag ≠ "!" then shortTag tag
  else if style ≠ .plain then "!!str"
  else if value = "<<" then "!!merge"
  else (resolveText "" value).1

/-- The tag of a collection node: its explicit tag, or the default. -/
def collectionTag (tag default : String) : String :=
  if tag ≠ "" ∧ tag ≠ "!" then shortTag tag else default

/-- The tag handles every document knows. -/
def defaultHandles : List (String × String) := [("!", "!"), ("!!", longTagPrefix)]

/-- The anchor and tag written before a node. -/
structure Properties where
  /-- The anchor. -/
  anchor : Option String := none
  /-- The tag's handle and suffix, and where the tag starts. -/
  tag : Option (String × String × Mark) := none

/-- The state of a composer. -/
structure Composer where
  /-- The scanner of the stream. -/
  scan : Scanner
  /-- The tag handles in effect, with their prefixes. -/
  handles : List (String × String) := []
  /-- The anchors so far, the latest first, with the numbers of their nodes. -/
  anchors : List (String × Nat) := []
  /-- The anchored nodes so far. -/
  anchored : Array Node := #[]
  /-- The number of aliases so far. -/
  aliases : Nat := 0

namespace Composer

/-- The next token. -/
def peek (c : Composer) : Except Fault (Token × Composer) := do
  let (t, s) ← c.scan.peek
  pure (t, { c with scan := s })

/-- Takes the next token. -/
def skip (c : Composer) : Composer := { c with scan := c.scan.next }

/-- The fault of a document nested beyond the composer's reach. -/
def exhausted : Fault := .document "document nested too deeply"

/-- Reads the anchor and the tag before a node, in either order, from its first token. -/
def properties (c : Composer) (t : Token) : Except Fault (Properties × Token × Composer) := do
  match t.kind with
  | .anchor a =>
    let (t2, c) ← c.skip.peek
    match t2.kind with
    | .tag h s =>
      let (t3, c) ← c.skip.peek
      pure ({ anchor := some a, tag := some (h, s, t2.start) }, t3, c)
    | _ => pure ({ anchor := some a }, t2, c)
  | .tag h s =>
    let (t2, c) ← c.skip.peek
    match t2.kind with
    | .anchor a =>
      let (t3, c) ← c.skip.peek
      pure ({ anchor := some a, tag := some (h, s, t.start) }, t3, c)
    | _ => pure ({ tag := some (h, s, t.start) }, t2, c)
  | _ => pure ({}, t, c)

/-- The full tag of a node, its handle replaced by the handle's prefix. -/
def fullTag (c : Composer) (start : Mark) : Option (String × String × Mark) → Except Fault String
  | none => .ok ""
  | some (h, s, m) =>
    if h = "" then .ok s
    else match c.handles.lookup h with
      | some pre => .ok (pre ++ s)
      | none => .error (.invalid false start "found undefined tag handle" m)

/-- Makes a slot for the node of an anchor, known from here on. -/
def openAnchor (c : Composer) : Option String → Composer × Option Nat
  | none => (c, none)
  | some a =>
    let i := c.anchored.size
    ({ c with anchored := c.anchored.push default, anchors := (a, i) :: c.anchors }, some i)

/-- Fills the slot of an anchor with its node. -/
def closeAnchor (c : Composer) (slot : Option Nat) (n : Node) : Composer :=
  match slot with
  | none => c
  | some i => { c with anchored := c.anchored.setIfInBounds i n }

mutual

/-- Composes a node. `block` tells whether a block collection may start here, and
`indentless` whether a sequence may start at the indentation of its mapping key. -/
def node : Nat → Bool → Bool → Composer → Except Fault (Node × Composer)
  | 0, _, _, _ => .error exhausted
  | fuel + 1, block, indentless, c => do
    let (t, c) ← c.peek
    match t.kind with
    | .reference name =>
      let c := c.skip
      match c.anchors.lookup name with
      | none => .error (.document ("unknown anchor '" ++ name ++ "' referenced"))
      | some i => pure (.reference name c.aliases i (t.start.line + 1), { c with aliases := c.aliases + 1 })
    | _ =>
      let start := t.start
      let line := start.line + 1
      let (props, t, c) ← c.properties t
      let tag ← c.fullTag start props.tag
      match t.kind with
      | .blockEntry =>
        if indentless then
          let (c, slot) := c.openAnchor props.anchor
          let (items, c) ← indentlessSequence fuel c []
          let n := Node.sequence items (collectionTag tag "!!seq") line
          pure (n, c.closeAnchor slot n)
        else emptyOrFault start t props tag c
      | .scalar v style =>
        let n := Node.scalar v (scalarTag tag v style) style line
        let (c, slot) := c.skip.openAnchor props.anchor
        pure (n, c.closeAnchor slot n)
      | .flowSequenceStart =>
        let (c, slot) := c.openAnchor props.anchor
        let (items, c) ← flowSequence fuel t.start true c.skip []
        let n := Node.sequence items (collectionTag tag "!!seq") line
        pure (n, c.closeAnchor slot n)
      | .flowMappingStart =>
        let (c, slot) := c.openAnchor props.anchor
        let (entries, c) ← flowMapping fuel t.start true c.skip []
        let n := Node.mapping entries (collectionTag tag "!!map") line
        pure (n, c.closeAnchor slot n)
      | .blockSequenceStart =>
        if block then
          let (c, slot) := c.openAnchor props.anchor
          let (items, c) ← blockSequence fuel t.start c.skip []
          let n := Node.sequence items (collectionTag tag "!!seq") line
          pure (n, c.closeAnchor slot n)
        else emptyOrFault start t props tag c
      | .blockMappingStart =>
        if block then
          let (c, slot) := c.openAnchor props.anchor
          let (entries, c) ← blockMapping fuel t.start c.skip []
          let n := Node.mapping entries (collectionTag tag "!!map") line
          pure (n, c.closeAnchor slot n)
        else emptyOrFault start t props tag c
      | _ => emptyOrFault start t props tag c

/-- The empty scalar that an anchor or a tag alone stands for, or the fault of a node
without content. -/
def emptyOrFault (start : Mark) (t : Token) (props : Properties) (tag : String)
    (c : Composer) : Except Fault (Node × Composer) :=
  if props.anchor.isSome || props.tag.isSome then
    let n := Node.scalar "" (scalarTag tag "" .plain) .plain (start.line + 1)
    let (c, slot) := c.openAnchor props.anchor
    .ok (n, c.closeAnchor slot n)
  else
    .error (.invalid false start "did not find expected node content" t.start)

/-- Composes the entries of a block sequence up to its block end. -/
def blockSequence : Nat → Mark → Composer → List Node → Except Fault (List Node × Composer)
  | 0, _, _, _ => .error exhausted
  | fuel + 1, ctx, c, acc => do
    let (t, c) ← c.peek
    match t.kind with
    | .blockEntry =>
      let (t2, c) ← c.skip.peek
      match t2.kind with
      | .blockEntry | .blockEnd => blockSequence fuel ctx c (emptyAt t.stop :: acc)
      | _ =>
        let (n, c) ← node fuel true false c
        blockSequence fuel ctx c (n :: acc)
    | .blockEnd => pure (acc.reverse, c.skip)
    | _ => .error (.invalid false ctx "did not find expected '-' indicator" t.start)

/-- Composes the entries of a sequence at the indentation of its mapping key. -/
def indentlessSequence : Nat → Composer → List Node → Except Fault (List Node × Composer)
  | 0, _, _ => .error exhausted
  | fuel + 1, c, acc => do
    let (t, c) ← c.peek
    match t.kind with
    | .blockEntry =>
      let (t2, c) ← c.skip.peek
      match t2.kind with
      | .blockEntry | .key | .value | .blockEnd => indentlessSequence fuel c (emptyAt t.stop :: acc)
      | _ =>
        let (n, c) ← node fuel true false c
        indentlessSequence fuel c (n :: acc)
    | _ => pure (acc.reverse, c)

/-- Composes the pairs of a block mapping up to its block end. -/
def blockMapping : Nat → Mark → Composer → List (Node × Node) →
    Except Fault (List (Node × Node) × Composer)
  | 0, _, _, _ => .error exhausted
  | fuel + 1, ctx, c, acc => do
    let (t, c) ← c.peek
    match t.kind with
    | .key =>
      let (t2, c) ← c.skip.peek
      let (k, c) ← match t2.kind with
        | .key | .value | .blockEnd => pure (emptyAt t.stop, c)
        | _ => node fuel true true c
      let (t3, c) ← c.peek
      let (v, c) ← match t3.kind with
        | .value => do
          let (t4, c) ← c.skip.peek
          match t4.kind with
          | .key | .value | .blockEnd => pure (emptyAt t3.stop, c)
          | _ => node fuel true true c
        | _ => pure (emptyAt t3.start, c)
      blockMapping fuel ctx c ((k, v) :: acc)
    | .blockEnd => pure (acc.reverse, c.skip)
    | _ => .error (.invalid false ctx "did not find expected key" t.start)

/-- Composes the entries of a flow sequence up to its closing bracket. -/
def flowSequence : Nat → Mark → Bool → Composer → List Node → Except Fault (List Node × Composer)
  | 0, _, _, _, _ => .error exhausted
  | fuel + 1, ctx, first, c, acc => do
    let (t, c) ← c.peek
    match t.kind with
    | .flowSequenceEnd => pure (acc.reverse, c.skip)
    | _ =>
      let (t, c) ← if first then pure (t, c) else match t.kind with
        | .flowEntry => c.skip.peek
        | _ => .error (.invalid false ctx "did not find expected ',' or ']'" t.start)
      match t.kind with
      | .key =>
        let (t2, c) ← c.skip.peek
        let (k, c) ← match t2.kind with
          | .value | .flowEntry | .flowSequenceEnd => pure (emptyAt t2.stop, c.skip)
          | _ => node fuel false false c
        let (t3, c) ← c.peek
        let (v, c) ← match t3.kind with
          | .value => do
            let (t4, c) ← c.skip.peek
            match t4.kind with
            | .flowEntry | .flowSequenceEnd => pure (emptyAt t3.start, c)
            | _ => node fuel false false c
          | _ => pure (emptyAt t3.start, c)
        let (_, c) ← c.peek
        flowSequence fuel ctx false c (.mapping [(k, v)] "!!map" (t.start.line + 1) :: acc)
      | .flowSequenceEnd => pure (acc.reverse, c.skip)
      | _ =>
        let (n, c) ← node fuel false false c
        flowSequence fuel ctx false c (n :: acc)

/-- Composes the pairs of a flow mapping up to its closing brace. -/
def flowMapping : Nat → Mark → Bool → Composer → List (Node × Node) →
    Except Fault (List (Node × Node) × Composer)
  | 0, _, _, _, _ => .error exhausted
  | fuel + 1, ctx, first, c, acc => do
    let (t, c) ← c.peek
    match t.kind with
    | .flowMappingEnd => pure (acc.reverse, c.skip)
    | _ =>
      let (t, c) ← if first then pure (t, c) else match t.kind with
        | .flowEntry => c.skip.peek
        | _ => .error (.invalid false ctx "did not find expected ',' or '\x7d'" t.start)
      match t.kind with
      | .key =>
        let (t2, c) ← c.skip.peek
        let (k, c) ← match t2.kind with
          | .value | .flowEntry | .flowMappingEnd => pure (emptyAt t2.start, c)
          | _ => node fuel false false c
        let (t3, c) ← c.peek
        let (v, c) ← match t3.kind with
          | .value => do
            let (t4, c) ← c.skip.peek
            match t4.kind with
            | .flowEntry | .flowMappingEnd => pure (emptyAt t4.start, c)
            | _ => node fuel false false c
          | _ => pure (emptyAt t3.start, c)
        flowMapping fuel ctx false c ((k, v) :: acc)
      | .flowMappingEnd => pure (acc.reverse, c.skip)
      | _ =>
        let (k, c) ← node fuel false false c
        let (t3, c) ← c.peek
        flowMapping fuel ctx false c ((k, emptyAt t3.start) :: acc)

end

/-- Reads the directives before an explicit document, then settles the tag handles: those
declared, then the defaults. -/
def directives : Nat → Composer → Bool → List (String × String) → Except Fault Composer
  | 0, _, _, _ => .error exhausted
  | fuel + 1, c, version, handles => do
    let (t, c) ← c.peek
    match t.kind with
    | .versionDirective major minor =>
      if version then .error (.invalid false {} "found duplicate %YAML directive" t.start)
      else if major ≠ 1 ∨ minor ≠ 1 then .error (.invalid false {} "found incompatible YAML document" t.start)
      else directives fuel c.skip true handles
    | .tagDirective h p =>
      if (handles.lookup h).isSome then .error (.invalid false {} "found duplicate %TAG directive" t.start)
      else directives fuel c.skip version ((h, p) :: handles)
    | _ =>
      let declared := handles.reverse
      let extra := defaultHandles.filter fun (h, _) ↦ (declared.lookup h).isNone
      pure { c with handles := declared ++ extra }

/-- Composes the content of an explicit document, after its directives. -/
def explicitDocument (fuel : Nat) (c : Composer) : Except Fault (Node × Composer) := do
  let c ← directives fuel c false []
  let (t, c) ← c.peek
  match t.kind with
  | .documentStart =>
    let c := c.skip
    let (t, c) ← c.peek
    match t.kind with
    | .versionDirective .. | .tagDirective .. | .documentStart | .documentEnd | .streamEnd =>
      pure (emptyAt t.start, c)
    | _ => node fuel true false c
  | _ => .error (.invalid false {} "did not find expected <document start>" t.start)

end Composer

/-- Composes the first document of a stream. -/
def compose (src : List Char) : Except Fault Document := do
  let fuel := 8 * src.length + 64
  let c : Composer := { scan := { rest := src } }
  let (_, c) ← c.peek
  let c := c.skip
  let (t, c) ← c.peek
  let (root, c) ← match t.kind with
    | .streamEnd => pure (none, c)
    | .versionDirective .. | .tagDirective .. | .documentStart => do
      let (n, c) ← c.explicitDocument fuel
      pure (some n, c)
    | _ => do
      let (n, c) ← Composer.node fuel true false { c with handles := defaultHandles }
      pure (some n, c)
  match root with
  | none => pure ⟨none, c.anchored⟩
  | some _ =>
    let (_, c) ← c.peek
    pure ⟨root, c.anchored⟩

end LuaDebugger.Yaml
