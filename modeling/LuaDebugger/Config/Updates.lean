import LuaDebugger.Config.Store
/-!
# Overlapping sets and reloads, step by step

A set and a reload each hold the configuration's lock only while they edit the layers
(`Store.commit`); they deliver the changes after releasing it, calling the observers of one
change after another. Calls from several goroutines, the application's sets and the reloads
the watcher's timer starts, overlap there: each takes the lock in turn, and their deliveries
interleave. This module takes the calls apart into those steps: a commit, atomic under the
lock, and each call of an observer with one change. The subscriptions stay as they are while
the calls run.
-/

namespace LuaDebugger.Config

/-- A call that edits the settings. -/
inductive Edit where
  /-- Sets one setting in the command line's layer. -/
  | set (path : String) (value : Datum)
  /-- Reloads the file. -/
  | reload (fs : FileSystem)

/-- The part of an edit that holds the lock: the changes it has to deliver. -/
def Edit.commit : Edit → Action (List Change)
  | .set path v => Store.setCommit path v
  | .reload fs => Store.reloadCommit fs

/-- A call past its lock, delivering its changes. -/
structure Handout where
  /-- The changes its commit gave, in path order. -/
  changes : List Change
  /-- How many observers it has called: its changes are delivered change by change, and
  each to the subscriptions that cover it in turn. -/
  told : Nat := 0

/-- A configuration with the calls that have taken its lock. -/
structure Updates where
  store : Store
  /-- The calls that committed, in the order they took the lock. -/
  handouts : List Handout := []

/-- A step of one goroutine. -/
inductive UpdateAction where
  /-- A call takes the lock and commits its edit. -/
  | commit (e : Edit)
  /-- The `i`-th call that committed calls its next observer. -/
  | notify (i : Nat)

namespace Updates

/-- A configuration before any call. -/
def start (s : Store) : Updates := { store := s }

/-- The configuration after a step, or nothing when the step cannot be taken now. A failed
commit returns its fault and delivers nothing. -/
def act (u : Updates) : UpdateAction → Option Updates
  | .commit e =>
    match e.commit.run.run u.store with
    | (.ok changes, s) => some { store := s, handouts := u.handouts ++ [{ changes }] }
    | (.error _, s) => some { u with store := s }
  | .notify i =>
    match u.handouts[i]? with
    | none => none
    | some h =>
      match (routes u.store.subscriptions h.changes)[h.told]? with
      | none => none
      | some d =>
        some { store := { u.store with delivered := u.store.delivered.push d }
               handouts := u.handouts.set i { h with told := h.told + 1 } }

/-- The configuration after steps in order, or nothing when one of them cannot be taken. -/
def actAll (u : Updates) : List UpdateAction → Option Updates
  | [] => some u
  | a :: as => (u.act a).bind fun u ↦ u.actAll as

end Updates

end LuaDebugger.Config
