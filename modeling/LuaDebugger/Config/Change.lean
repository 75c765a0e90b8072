import LuaDebugger.Config.Tree
/-!
# Layers and the changes between two configurations

A configuration is made of layers, each from one source. The sources rank by priority:
built-in defaults lowest, then the configuration file, the environment and the command line;
a layer of higher priority wins where two layers set the same setting.

Between two merged configurations, `diff` lists one change per dotted path whose value
differs: `set` for a path that has a value afterwards (its old value, absent or different,
beside the new), `delete` for one that lost its value. Values compare by kind as well as by
value, so a 64-bit integer differs from a machine integer of the same value, and a NaN from
itself. The changes come sorted by path.
-/

namespace LuaDebugger.Config

/-- Where a layer of settings came from. -/
inductive Source where
  /-- The built-in defaults. -/
  | builtin
  /-- The configuration file. -/
  | file
  /-- The environment of the process. -/
  | environment
  /-- The command line. -/
  | arguments
  deriving DecidableEq, Repr, Inhabited

namespace Source

/-- The name of a source. -/
def name : Source → String
  | .builtin => "builtin"
  | .file => "file"
  | .environment => "environment"
  | .arguments => "arguments"

/-- The priority of a source: a layer of higher priority overrides one of lower. -/
def priority : Source → Nat
  | .builtin => 0
  | .file => 100
  | .environment => 500
  | .arguments => 600

/-- The name of the source with a numeric code, `unknown` for a code of none. -/
def nameOfCode : Int → String
  | 0 => "builtin"
  | 1 => "file"
  | 2 => "environment"
  | 3 => "arguments"
  | _ => "unknown"

end Source

/-- Whether a setting took a value or lost it. -/
inductive ChangeKind where
  /-- The setting has a new value. -/
  | set
  /-- The setting no longer has a value. -/
  | delete
  deriving DecidableEq, Repr, Inhabited

namespace ChangeKind

/-- The name of a kind of change. -/
def name : ChangeKind → String
  | .set => "set"
  | .delete => "delete"

/-- The name of the kind of change with a numeric code, `unknown` for a code of none. -/
def nameOfCode : Int → String
  | 0 => "set"
  | 1 => "delete"
  | _ => "unknown"

end ChangeKind

/-- A change of one setting of the merged configuration. -/
structure Change where
  /-- The dotted path of the setting. -/
  path : String
  /-- Whether it took a value or lost it. -/
  kind : ChangeKind
  /-- The value before, `null` when it had none. -/
  old : Datum
  /-- The value after, `null` when it has none. -/
  new : Datum
  /-- The source whose layer changed. -/
  source : Source
  deriving Inhabited

/-- The changes from the merged configuration `before` to `after`, caused by a change of
the layer of `source`, sorted by path. -/
def diff (before after : Tree) (source : Source) : List Change :=
  let old := before.flatten
  let new := after.flatten
  let sets := new.filterMap fun (p, nv) ↦
    match Datum.lookup old p with
    | some ov => if Datum.same ov nv then none else some ⟨p, .set, ov, nv, source⟩
    | none => some ⟨p, .set, .null, nv, source⟩
  let deletes := old.filterMap fun (p, ov) ↦
    if (Datum.lookup new p).isSome then none else some ⟨p, .delete, ov, .null, source⟩
  (sets ++ deletes).mergeSort fun a b ↦ decide (a.path ≤ b.path)

/-- Whether a subscription to `sub` sees a change at `path`: the empty path sees every
change, and a path sees itself and the paths below it. -/
def matchesPath (sub path : String) : Bool :=
  sub = "" || sub = path || path.startsWith (sub ++ ".")

/-- The deliveries of changes, change by change: each change goes to every subscription whose
path covers it, in the order of the subscriptions. -/
def routes (subscriptions : List (Nat × String)) (changes : List Change) : List (Nat × Change) :=
  changes.flatMap fun c ↦
    (subscriptions.filter fun (_, p) ↦ matchesPath p c.path).map fun (id, _) ↦ (id, c)

end LuaDebugger.Config
