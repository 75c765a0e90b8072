import LuaDebugger.App.Application
import LuaDebugger.App.Command
import LuaDebugger.App.Serve
import LuaDebugger.Config.Change
import LuaDebugger.Config.Check
import LuaDebugger.Config.Environment
import LuaDebugger.Config.Fault
import LuaDebugger.Config.Layers
import LuaDebugger.Config.Store
import LuaDebugger.Config.Toml.Document
import LuaDebugger.Config.Toml.Expression
import LuaDebugger.Config.Tree
import LuaDebugger.Config.Updates
import LuaDebugger.Config.Watcher
import LuaDebugger.Config.Yaml.Decode
import LuaDebugger.Config.Yaml.Node
import LuaDebugger.Config.Yaml.Resolve
import LuaDebugger.Config.Yaml.Scanner
import LuaDebugger.Config.Yaml.Stream
import LuaDebugger.Config.Yaml.Token
import LuaDebugger.CoreInstances
import LuaDebugger.Datum.Basic
import LuaDebugger.Datum.Display
import LuaDebugger.Datum.Json
import LuaDebugger.Debug.Breakpoint
import LuaDebugger.Debug.Frame
import LuaDebugger.Debug.Program
import LuaDebugger.Debug.Session
import LuaDebugger.Decimal.Fixed
import LuaDebugger.Decimal.Read
import LuaDebugger.Decimal.Shortest
import LuaDebugger.Decimal.Text
import LuaDebugger.Duration
import LuaDebugger.Elementary.Arc
import LuaDebugger.Elementary.Binary
import LuaDebugger.Elementary.ExpLog
import LuaDebugger.Elementary.Hyperbolic
import LuaDebugger.Elementary.Trig
import LuaDebugger.FileSystem
import LuaDebugger.Json.Value
import LuaDebugger.Log.Journal
import LuaDebugger.Log.Level
import LuaDebugger.Lua.Arith
import LuaDebugger.Lua.Builtin
import LuaDebugger.Lua.Code
import LuaDebugger.Lua.Compiler
import LuaDebugger.Lua.Export
import LuaDebugger.Lua.Heap
import LuaDebugger.Lua.Inspect
import LuaDebugger.Lua.Lexer
import LuaDebugger.Lua.Library.Base
import LuaDebugger.Lua.Library.Coroutines
import LuaDebugger.Lua.Library.Maths
import LuaDebugger.Lua.Library.Strings
import LuaDebugger.Lua.Library.System
import LuaDebugger.Lua.Library.Tables
import LuaDebugger.Lua.Load
import LuaDebugger.Lua.Meta
import LuaDebugger.Lua.Native
import LuaDebugger.Lua.Open
import LuaDebugger.Lua.Parser
import LuaDebugger.Lua.Pattern
import LuaDebugger.Lua.Run
import LuaDebugger.Lua.State
import LuaDebugger.Lua.Syntax
import LuaDebugger.Lua.Table
import LuaDebugger.Lua.Token
import LuaDebugger.Lua.Value
import LuaDebugger.Main
import LuaDebugger.Path
import LuaDebugger.Printf
import LuaDebugger.Proofs.AtomicUpdates
import LuaDebugger.Proofs.BreakpointRequests
import LuaDebugger.Proofs.CaseTables
import LuaDebugger.Proofs.ChangeDelivery
import LuaDebugger.Proofs.ConnectionRegistry
import LuaDebugger.Proofs.ConnectionSchedules
import LuaDebugger.Proofs.DataConversion
import LuaDebugger.Proofs.EngineSteps
import LuaDebugger.Proofs.ExecutorQueue
import LuaDebugger.Proofs.ExportedNumbers
import LuaDebugger.Proofs.FrameLocals
import LuaDebugger.Proofs.Framing
import LuaDebugger.Proofs.FullLowercase
import LuaDebugger.Proofs.FunctionLines
import LuaDebugger.Proofs.FunctionStatements
import LuaDebugger.Proofs.Handoff
import LuaDebugger.Proofs.HangupDelivery
import LuaDebugger.Proofs.InPlaceWrites
import LuaDebugger.Proofs.Inspection
import LuaDebugger.Proofs.Instrumentation
import LuaDebugger.Proofs.InstrumentedLines
import LuaDebugger.Proofs.LayerCache
import LuaDebugger.Proofs.LayeredSettings
import LuaDebugger.Proofs.OrderedSet
import LuaDebugger.Proofs.OverlappingUpdates
import LuaDebugger.Proofs.PathNormalization
import LuaDebugger.Proofs.RacingOffers
import LuaDebugger.Proofs.RequestHandling
import LuaDebugger.Proofs.RequestLines
import LuaDebugger.Proofs.ScopeListing
import LuaDebugger.Proofs.SectionDomains
import LuaDebugger.Proofs.ServerLifecycle
import LuaDebugger.Proofs.SessionRuns
import LuaDebugger.Proofs.SettingChanges
import LuaDebugger.Proofs.SettingPaths
import LuaDebugger.Proofs.StackReplies
import LuaDebugger.Proofs.Stepping
import LuaDebugger.Proofs.TimeoutSeconds
import LuaDebugger.Proofs.TokenLines
import LuaDebugger.Proofs.Utf8Reading
import LuaDebugger.Proofs.ValidatedStartup
import LuaDebugger.Proofs.VariableReading
import LuaDebugger.Protocol.Dispatcher
import LuaDebugger.Protocol.Policy
import LuaDebugger.Protocol.Replay
import LuaDebugger.Protocol.Reply
import LuaDebugger.Protocol.Request
import LuaDebugger.Script.Encounter
import LuaDebugger.Script.Engine
import LuaDebugger.Script.Executor
import LuaDebugger.Script.Interpreter
import LuaDebugger.Script.Scope
import LuaDebugger.Server.Address
import LuaDebugger.Server.Connection
import LuaDebugger.Server.Listener
import LuaDebugger.Server.Writer
import LuaDebugger.Sorting.Asking
import LuaDebugger.Sorting.Quicksort
import LuaDebugger.Text.Bytes
import LuaDebugger.Text.Case
import LuaDebugger.Text.CaseMap
import LuaDebugger.Text.Cased
import LuaDebugger.Text.Printable
import LuaDebugger.Text.Quote
import LuaDebugger.Text.Ranges
import LuaDebugger.Text.Space
import LuaDebugger.Text.Utf8
