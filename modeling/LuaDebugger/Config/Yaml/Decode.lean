import LuaDebugger.Config.Yaml.Node
import LuaDebugger.Config.Tree
import LuaDebugger.Datum.Display
import LuaDebugger.Text.Quote
import LuaDebugger.Config.Yaml.Stream
/-!
# Reading a YAML document as settings

The root of the document must be a mapping, or empty; its keys are taken as text. A nested
mapping whose keys are all strings (or merge keys) keeps its keys as text; another has keys of
any type, written out as text at the end. Scalars become booleans, integers, floats and
strings by resolution; a timestamp becomes a point in time, and a binary scalar is
decoded from base64.

A merge key `<<` folds a mapping, or each of a sequence of mappings, into the mapping that
holds it: keys written in the mapping win over merged ones, and among merged mappings the
first one to give a key wins.

A mapping that repeats a key is left out, with an error; so is a key that is a collection
where text is wanted, and a root that is not a mapping. Such errors are collected and
reported together, each with its line. Other faults stop the reading at once: a tag that the
text disagrees with, an alias inside the node it stands for, a merge of something other than
mappings, and a collection used as a key of any type. An alias is read as the node it stands
for, as often as it appears; a document that grows mostly by aliases is refused.
-/

namespace LuaDebugger.Yaml

/-- A value read from a document. -/
inductive Value where
  | null
  | bool (b : Bool)
  | int (i : Int)
  | uint (n : Nat)
  | float (x : Float)
  | text (s : String)
  /-- A point in time. -/
  | time (d : CivilDate) (t : CivilTime) (offset : Int) (utc : Bool)
  | list (items : List Value)
  /-- A map from text keys, its entries in the order of their first insertion. -/
  | textMap (entries : List (String × Value))
  /-- A map from keys of any type. -/
  | anyMap (entries : List (Value × Value))
  deriving Inhabited

namespace Value

/-- Whether two keys are the same key: of the same type and equal, where a float NaN equals
nothing. -/
def sameKey : Value → Value → Bool
  | .null, .null => true
  | .bool a, .bool b => a == b
  | .int a, .int b => a == b
  | .uint a, .uint b => a == b
  | .float a, .float b => a == b
  | .text a, .text b => a == b
  | .time d t o u, .time d' t' o' u' => d == d' && t == t' && o == o' && u == u'
  | _, _ => false

/-- Whether a value is a collection, which cannot be a key. -/
def isCollection : Value → Bool
  | .list _ | .textMap _ | .anyMap _ => true
  | _ => false

/-- Sets `key` to `v` in text-keyed entries. -/
def setText (es : List (String × Value)) (key : String) (v : Value) : List (String × Value) :=
  if es.any (·.1 == key) then es.map fun (k, w) ↦ if k == key then (k, v) else (k, w)
  else es ++ [(key, v)]

/-- Sets `key` to `v` in entries with keys of any type. -/
def setAny (es : List (Value × Value)) (key : Value) (v : Value) : List (Value × Value) :=
  if es.any (sameKey ·.1 key) then es.map fun (k, w) ↦ if sameKey k key then (k, v) else (k, w)
  else es ++ [(key, v)]

/-- Whether a map holds a key. -/
def holds : Value → Value → Bool
  | .textMap es, .text k => es.any (·.1 == k)
  | .anyMap es, k => es.any (sameKey ·.1 k)
  | _, _ => false

/-- Sets a key of a map; a text map takes text keys only. -/
def put : Value → Value → Value → Value
  | .textMap es, .text k, v => .textMap (setText es k v)
  | .anyMap es, k, v => .anyMap (setAny es k v)
  | m, _, _ => m

mutual
/-- A value as the source text of a composite literal, as faults show an offending key. -/
def literal : Value → String
  | .null => "interface \x7b\x7d(nil)"
  | .bool b => if b then "true" else "false"
  | .int i => toString i
  | .uint n => "0x" ++ Text.hexPadded 1 n
  | .float x => Decimal.FloatFormat.general.render x
  | .text s => Text.quote s
  | .time d t o u => (Datum.instant d t o u).display
  | .list xs => "[]interface \x7b\x7d\x7b" ++ literalList xs ++ "\x7d"
  | .textMap es => "map[string]interface \x7b\x7d\x7b" ++ literalEntries es ++ "\x7d"
  | .anyMap _ => "map[interface \x7b\x7d]interface \x7b\x7d\x7b...\x7d"
/-- The items of a list literal. -/
def literalList : List Value → String
  | [] => ""
  | [x] => literal x
  | x :: rest => literal x ++ ", " ++ literalList rest
/-- The entries of a text-keyed map literal, in the order given. -/
def literalEntries : List (String × Value) → String
  | [] => ""
  | [(k, v)] => Text.quote k ++ ":" ++ literal v
  | (k, v) :: rest => Text.quote k ++ ":" ++ literal v ++ ", " ++ literalEntries rest
end

mutual
/-- A value as a datum: a map of any keys gets its keys written as text. -/
def toDatum : Value → Datum
  | .null => .null
  | .bool b => .bool b
  | .int i => .int i
  | .uint n => .uint64 n
  | .float x => .float x
  | .text s => .text s
  | .time d t o u => .instant d t o u
  | .list xs => .list (listToData xs)
  | .textMap es => .map (Datum.entriesOf (textEntries es))
  | .anyMap es => .map (Datum.entriesOf (anyEntries es))
/-- The items of a list as data. -/
def listToData : List Value → List Datum
  | [] => []
  | x :: rest => toDatum x :: listToData rest
/-- The entries of a text map as data. -/
def textEntries : List (String × Value) → List (String × Datum)
  | [] => []
  | (k, v) :: rest => (k, toDatum v) :: textEntries rest
/-- The entries of a map of any keys as data, each key written as text. -/
def anyEntries : List (Value × Value) → List (String × Datum)
  | [] => []
  | (k, v) :: rest => ((toDatum k).display, toDatum v) :: anyEntries rest
end

end Value

/-- The value of a base64 digit. -/
def base64Digit (c : Char) : Option Nat :=
  if 'A' ≤ c ∧ c ≤ 'Z' then some (c.toNat - 65)
  else if 'a' ≤ c ∧ c ≤ 'z' then some (c.toNat - 71)
  else if '0' ≤ c ∧ c ≤ '9' then some (c.toNat + 4)
  else if c = '+' then some 62
  else if c = '/' then some 63
  else none

/-- Decodes padded base64 text, line breaks ignored. -/
def base64Decode (s : String) : Option ByteArray :=
  let cs := s.toList.filter fun c ↦ c ≠ '\r' ∧ c ≠ '\n'
  let pad := (cs.reverse.takeWhile (· = '=')).length
  let body := cs.take (cs.length - pad)
  if cs.length % 4 ≠ 0 ∨ pad > 2 then none
  else
    match body.mapM base64Digit with
    | none => none
    | some ds =>
      let bits := ds.foldl (fun acc d ↦ acc * 64 + d) 0
      let total := 6 * ds.length
      let count := total / 8
      let bits := bits / 2 ^ (total - 8 * count)
      if pad > 0 ∧ (ds.length % 4 + pad ≠ 4) then none
      else some ⟨((List.range count).map fun i ↦ UInt8.ofNat (bits / 2 ^ (8 * (count - 1 - i)) % 256)).toArray⟩

/-- Where a value is read into. -/
inductive Target where
  /-- A value of any type. -/
  | any
  /-- Text: the key of a text map. -/
  | text
  /-- The document's map from text keys, not made yet. -/
  | root
  /-- A map being filled, by a merge. -/
  | into (m : Value)

/-- The name of the type a target stands for, as errors name it. -/
def Target.typeName : Target → String
  | .any => "interface \x7b\x7d"
  | .text => "string"
  | _ => "map[string]interface \x7b\x7d"

/-- The state of a reading. -/
structure Reading where
  /-- The errors collected so far. -/
  errors : Array String := #[]
  /-- The aliases being read, by number. -/
  active : List Nat := []
  /-- The number of nodes read. -/
  reads : Nat := 0
  /-- The number of nodes read through aliases. -/
  aliased : Nat := 0
  /-- How many aliases deep the reading is. -/
  depth : Nat := 0
  /-- The keys a merge has given so far, when merging. -/
  merged : Option (List Value) := none

/-- A step of a reading, which may stop with a fault. -/
abbrev Reader := StateT Reading (Except String)

/-- The line of a node. -/
def Node.line : Node → Nat
  | .scalar _ _ _ l | .sequence _ _ l | .mapping _ _ l | .reference _ _ _ l => l

/-- The tag of a node as written in it. -/
def Node.tag : Node → String
  | .scalar _ t _ _ | .sequence _ t _ | .mapping _ t _ => t
  | .reference .. => ""

/-- The text of a node: a scalar's text, an alias's name, nothing for a collection. -/
def Node.value : Node → String
  | .scalar v _ _ _ => v
  | .reference n _ _ _ => n
  | _ => ""

/-- The kind of a node, as a number. -/
def Node.kind : Node → Nat
  | .scalar .. => 0
  | .sequence .. => 1
  | .mapping .. => 2
  | .reference .. => 3

/-- Whether a node is a scalar that must be a string: tagged `!!str`, or quoted or in
block style without a tag. -/
def Node.isString : Node → Bool
  | .scalar _ tag style _ =>
    shortTag tag == "!!str" || ((tag == "" || tag == "!") && style != .plain)
  | _ => false

/-- The short tag of a node that is not an alias. -/
def Node.ownShortTag (n : Node) : String :=
  if n.isString then "!!str"
  else match n with
    | .scalar v tag _ _ => if tag == "" || tag == "!" then (resolveText "" v).1 else shortTag tag
    | .sequence _ tag _ => if tag == "" || tag == "!" then "!!seq" else shortTag tag
    | .mapping _ tag _ => if tag == "" || tag == "!" then "!!map" else shortTag tag
    | .reference .. => ""

/-- The short tag of a node, an alias taking that of its node. -/
def Document.shortTag (doc : Document) : Node → String
  | .reference _ _ i _ => (doc.anchored[i]?.map Node.ownShortTag).getD ""
  | n => n.ownShortTag

/-- Whether a node is a merge key: a plain `<<`. -/
def Node.isMerge : Node → Bool
  | .scalar "<<" tag _ _ => tag == "" || tag == "!" || shortTag tag == "!!merge"
  | _ => false

/-- The text of a value in an error: cut to seven bytes and an ellipsis past ten. -/
def shownValue (v : String) : String :=
  if v.utf8ByteSize > 10 then Text.decodeLossy (v.toUTF8.extract 0 7) ++ "..." else v

/-- Records that a node cannot be read into a target. -/
def typeError (n : Node) (tag : String) (out : Target) : Reader Unit :=
  let tag := if n.tag ≠ "" then n.tag else tag
  let shown := if tag ≠ "!!seq" ∧ tag ≠ "!!map" then " `" ++ shownValue n.value ++ "`" else ""
  modify fun r ↦ { r with errors := r.errors.push ("line " ++ toString n.line ++ ": cannot unmarshal " ++
    shortTag tag ++ shown ++ " into " ++ out.typeName) }

/-- The errors of keys repeated in a mapping, each naming the later line and the first. -/
def repeatedKeys (entries : List (Node × Node)) : List String :=
  let keys := entries.map (·.1)
  let rec go : List Node → List String
    | [] => []
    | k :: rest =>
      (rest.filter fun j ↦ j.kind == k.kind && j.value == k.value).map (fun j ↦
        "line " ++ toString j.line ++ ": mapping key " ++ Text.quote j.value ++
          " already defined at line " ++ toString k.line) ++ go rest
  go keys

/-- Whether the reads through aliases have outgrown the document: past 100 of them and
1000 reads, more than 99% of reads up to 400000 reads, falling evenly to 10% at 4000000. -/
def tooAliased (reads aliased : Nat) : Bool :=
  aliased > 100 && reads > 1000 &&
    if reads ≤ 400000 then aliased * 100 > reads * 99
    else if reads ≥ 4000000 then aliased * 10 > reads
    else
      (aliased : Int) * 100 * 3600000 > (reads : Int) * (99 * 3600000 - 89 * ((reads : Int) - 400000))

/-- Counts a read, and stops a document that grows mostly by aliases. -/
def countRead : Reader Unit := do
  let r ← get
  let reads := r.reads + 1
  let aliased := if r.depth > 0 then r.aliased + 1 else r.aliased
  set { r with reads, aliased }
  if tooAliased reads aliased then throw "document contains excessive aliasing"

/-- The value of a resolved scalar. -/
def Scalar.value : Scalar → Value
  | .null => .null
  | .bool b => .bool b
  | .int i => .int i
  | .uint n => .uint n
  | .float x => .float x
  | .text s => .text s
  | .timestamp d t o u => .time d t o u

/-- Reads a scalar into a target: whether it could be, and the value. -/
def readScalar (n : Node) (v tag : String) (out : Target) : Reader (Bool × Value) := do
  let (tag, resolved) ← if n.isString then pure ("!!str", Scalar.text v)
    else match resolve tag v with
      | .ok r => pure r
      | .error e => throw e
  let resolved ← if tag == "!!binary" then
      match resolved with
      | .text s => match base64Decode s with
        | some b => pure (Scalar.text (Text.decodeLossy b))
        | none => throw "!!binary value contains invalid base64 data"
      | r => pure r
    else pure resolved
  match resolved, out with
  | .null, .text => pure (false, .null)
  | .null, _ => pure (true, .null)
  | .text s, .text => pure (true, .text s)
  | _, .text => pure (true, .text v)
  | r, .any => pure (true, r.value)
  | _, _ => do
    typeError n tag out
    pure (false, .null)

mutual

/-- Reads a node into a target: whether it could be, and the value; the value of a map
target is the map. -/
def read : Nat → Document → Node → Target → Reader (Bool × Value)
  | 0, _, _, _ => throw "document nested too deeply"
  | fuel + 1, doc, n, out => do
    countRead
    match n with
    | .reference name occurrence i _ =>
      if (← get).active.contains occurrence then
        throw ("anchor '" ++ name ++ "' value contains itself")
      modify fun r ↦ { r with active := occurrence :: r.active, depth := r.depth + 1 }
      let result ← read fuel doc (doc.anchored[i]?.getD default) out
      modify fun r ↦ { r with active := r.active.erase occurrence, depth := r.depth - 1 }
      pure result
    | .scalar v tag _ _ => readScalar n v tag out
    | .sequence items _ _ =>
      match out with
      | .any => do
        let vs ← readItems fuel doc items []
        pure (true, .list vs)
      | _ => do
        typeError n "!!seq" out
        pure (false, .null)
    | .mapping entries _ _ =>
      let repeated := repeatedKeys entries
      if !repeated.isEmpty then do
        modify fun r ↦ { r with errors := r.errors ++ repeated.toArray }
        pure (false, .null)
      else match out with
        | .text => do
          typeError n "!!map" out
          pure (false, .null)
        | .any =>
          let textKeys := entries.all fun (k, _) ↦
            let t := doc.shortTag k
            t == "!!str" || t == "!!merge"
          fill fuel doc entries (if textKeys then .textMap [] else .anyMap []) true
        | .root => fill fuel doc entries (.textMap []) true
        | .into m => fill fuel doc entries m false

/-- Reads the items of a sequence, leaving out those that cannot be read. -/
def readItems : Nat → Document → List Node → List Value → Reader (List Value)
  | 0, _, _, _ => throw "document nested too deeply"
  | _ + 1, _, [], acc => pure acc.reverse
  | fuel + 1, doc, x :: rest, acc => do
    let (ok, v) ← read fuel doc x .any
    readItems fuel doc rest (if ok then v :: acc else acc)

/-- Fills a map with the pairs of a mapping, then with the mapping of its last merge key. -/
def fill : Nat → Document → List (Node × Node) → Value → Bool → Reader (Bool × Value)
  | 0, _, _, _, _ => throw "document nested too deeply"
  | fuel + 1, doc, entries, m, fresh => do
    let saved := (← get).merged
    modify fun r ↦ { r with merged := none }
    let (m, saved, mergeNode) ← fillPairs fuel doc entries m fresh saved none
    modify fun r ↦ { r with merged := saved }
    match mergeNode with
    | none => pure (true, m)
    | some mn => do
      let m ← merge fuel doc entries mn m
      pure (true, m)

/-- Fills a map with pairs, skipping the keys a merge has given already, and keeps the last
merge key's value aside. -/
def fillPairs : Nat → Document → List (Node × Node) → Value → Bool → Option (List Value) →
    Option Node → Reader (Value × Option (List Value) × Option Node)
  | 0, _, _, _, _, _, _ => throw "document nested too deeply"
  | _ + 1, _, [], m, _, saved, mergeNode => pure (m, saved, mergeNode)
  | fuel + 1, doc, (k, v) :: rest, m, fresh, saved, mergeNode =>
    if k.isMerge then fillPairs fuel doc rest m fresh saved (some v)
    else do
      let keyTarget : Target := match m with
        | .textMap _ => .text
        | _ => .any
      let (ok, key) ← read fuel doc k keyTarget
      if !ok then fillPairs fuel doc rest m fresh saved mergeNode
      else
        let taken := match saved with
          | some keys => keys.any (Value.sameKey · key)
          | none => false
        if taken then fillPairs fuel doc rest m fresh saved mergeNode
        else do
          let saved := saved.map (key :: ·)
          if key.isCollection then throw ("invalid map key: " ++ key.literal)
          let (okv, value) ← read fuel doc v .any
          let m := if okv || (doc.shortTag v == "!!null" && (fresh || !m.holds key)) then m.put key value
            else m
          fillPairs fuel doc rest m fresh saved mergeNode

/-- Merges the mapping, or the mappings, of a merge key into a map. -/
def merge : Nat → Document → List (Node × Node) → Node → Value → Reader Value
  | 0, _, _, _, _ => throw "document nested too deeply"
  | fuel + 1, doc, entries, mergeNode, m => do
    let outer := (← get).merged
    if outer.isNone then
      let keys ← readKeys fuel doc entries []
      modify fun r ↦ { r with merged := some keys }
    let m ← match mergeNode with
      | .mapping .. => readInto fuel doc mergeNode m
      | .reference _ _ i _ =>
        match doc.anchored[i]? with
        | some (.mapping ..) => readInto fuel doc mergeNode m
        | _ => throw "map merge requires map or sequence of maps as the value"
      | .sequence items _ _ => mergeEach fuel doc items m
      | _ => throw "map merge requires map or sequence of maps as the value"
    if outer.isNone then modify fun r ↦ { r with merged := none }
    pure m

/-- Reads the keys of pairs as values of any type, for a merge to skip. -/
def readKeys : Nat → Document → List (Node × Node) → List Value → Reader (List Value)
  | 0, _, _, _ => throw "document nested too deeply"
  | _ + 1, _, [], acc => pure acc
  | fuel + 1, doc, (k, _) :: rest, acc => do
    let (ok, key) ← read fuel doc k .any
    readKeys fuel doc rest (if ok then key :: acc else acc)

/-- Merges each of a sequence of mappings into a map, in order. -/
def mergeEach : Nat → Document → List Node → Value → Reader Value
  | 0, _, _, _ => throw "document nested too deeply"
  | _ + 1, _, [], m => pure m
  | fuel + 1, doc, x :: rest, m => do
    let isMapping := match x with
      | .reference _ _ i _ => match doc.anchored[i]? with
        | some (.mapping ..) => true
        | _ => false
      | .mapping .. => true
      | _ => false
    if !isMapping then throw "map merge requires map or sequence of maps as the value"
    let m ← readInto fuel doc x m
    mergeEach fuel doc rest m

/-- Reads a mapping into a map being filled. -/
def readInto : Nat → Document → Node → Value → Reader Value
  | 0, _, _, _ => throw "document nested too deeply"
  | fuel + 1, doc, n, m => do
    let (ok, v) ← read fuel doc n (.into m)
    pure (if ok then v else m)

end

/-- Reads a document's root into a map from text keys: the map, none for an empty root,
and the errors collected. A document of at most `nodes` nodes is read within `nodes`
squared steps deep, as no alias is read inside itself. -/
def readDocument (doc : Document) (nodes : Nat) : Except String (Value × Array String) :=
  match doc.root with
  | none => .ok (.textMap [], #[])
  | some root =>
    match (read (4 * nodes * nodes + 64) doc root .root).run {} with
    | .error e => .error e
    | .ok ((_, v), r) => .ok (v, r.errors)

/-- Reads a YAML stream, given as its bytes, as a tree of settings, or gives the message of
what is wrong with it. An empty stream reads as a single line break. -/
def decode (src : ByteArray) : Except String Config.Tree :=
  match streamChars (if src.size = 0 then "\n".toUTF8 else src) with
  | .error e => .error ("yaml: " ++ e)
  | .ok cs =>
    let cs := match cs with
      | '\uFEFF' :: rest => rest
      | cs => cs
    match compose cs with
    | .error f => .error f.message
    | .ok doc =>
      match readDocument doc (8 * cs.length + 64) with
      | .error e => .error ("yaml: " ++ e)
      | .ok (v, errors) =>
        if !errors.isEmpty then
          .error ("yaml: unmarshal errors:\n  " ++ "\n  ".intercalate errors.toList)
        else match v.toDatum with
          | .map es => .ok es
          | _ => .ok []

end LuaDebugger.Yaml
