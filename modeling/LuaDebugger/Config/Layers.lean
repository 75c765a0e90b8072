import LuaDebugger.Config.Change
/-!
# The layers of a configuration

A configuration keeps one layer of settings per source, lowest priority first, and caches
their merge. Putting a layer replaces the layer of its source in place, or adds it and sorts
the layers again by priority, keeping the order of layers of equal priority. Removing drops
the layer of a source. Both mark the cache stale; a merge serves the cache while it is fresh,
and otherwise merges the layers anew and keeps the result.
-/

namespace LuaDebugger.Config

/-- A layer of settings from one source. -/
structure Layer where
  /-- Where the settings came from. -/
  source : Source
  /-- The settings. -/
  data : Tree

/-- The layers of a configuration with the cache of their merge. -/
structure LayerSet where
  /-- The layers, lowest priority first. -/
  layers : List Layer := []
  /-- The merge of the layers as last computed, none before the first. -/
  merged : Option Tree := none
  /-- Whether the layers may have changed since the last merge. -/
  dirty : Bool := true

namespace LayerSet

/-- The merge of layers, lowest priority first, computed afresh. -/
def mergeAll (layers : List Layer) : Tree :=
  layers.foldl (fun acc l ↦ Tree.merge acc l.data) []

/-- The layers with `l` in place of the first layer of its source; none when no layer has
its source. -/
def replaceSource (l : Layer) : List Layer → Option (List Layer)
  | [] => none
  | x :: xs => if x.source == l.source then some (l :: xs) else (replaceSource l xs).map (x :: ·)

/-- The layers with `l` in place of the layer of its source, or added in the order of
priority. -/
def insertLayer (layers : List Layer) (l : Layer) : List Layer :=
  match replaceSource l layers with
  | some layers => layers
  | none => (layers ++ [l]).mergeSort fun a b ↦ decide (a.source.priority ≤ b.source.priority)

/-- Puts a layer: in place of the layer of its source, or added in the order of priority. -/
def put (s : LayerSet) (l : Layer) : LayerSet :=
  { s with layers := insertLayer s.layers l, dirty := true }

/-- Removes the layer of a source: whether there was one, and the layers without it. -/
def remove (s : LayerSet) (source : Source) : Bool × LayerSet :=
  if s.layers.any (·.source == source) then
    (true, { s with layers := s.layers.eraseP (·.source == source), dirty := true })
  else (false, s)

/-- The layer of a source. -/
def get (s : LayerSet) (source : Source) : Option Layer :=
  s.layers.find? (·.source == source)

/-- The sources of the layers, lowest priority first. -/
def sources (s : LayerSet) : List Source :=
  s.layers.map (·.source)

/-- The merged settings: the cache while it is fresh, else a new merge, which is kept. -/
def merge (s : LayerSet) : Tree × LayerSet :=
  match s.dirty, s.merged with
  | false, some t => (t, s)
  | _, _ => (mergeAll s.layers, { s with merged := some (mergeAll s.layers), dirty := false })

end LayerSet

end LuaDebugger.Config
