import LuaDebugger.Debug.Breakpoint
import LuaDebugger.Debug.Frame
import LuaDebugger.Debug.Session
import LuaDebugger.Protocol.Request
import LuaDebugger.Protocol.Policy
import LuaDebugger.Protocol.Reply
import LuaDebugger.Log.Journal
import LuaDebugger.Datum.Json
import LuaDebugger.Decimal.Read
import LuaDebugger.Text.Space
/-!
# Answering requests

The dispatcher answers each request of the client by asking a debugger engine and writing
the reply. It knows twelve requests, by their exact names:

* `adicionar-ponto-parada <path> <line>` and `remover-ponto-parada <path> <line>` add or
  remove a breakpoint. The line is a decimal integer with an optional sign; the path must
  name an open file that has the line. A problem is answered on one line after the receipt;
  adding a breakpoint that is there, or removing one that is not, answers the receipt alone;
* `pontos-parada` lists the breakpoints as `<path>: <line>`, a file that is not open shown by
  its identity;
* `pilha-execucao` lists the frames the client sees, innermost first, as
  `<statement> --- <path>::<function>::<line>`; a frame without statements is left out;
* `variaveis` lists the variables of the current scope as `<name> :: <type> :: <value>`;
* `avaliar <code>` runs code and shows its first result as JSON, `null` when there is none
  or it has no JSON text, and the error text as a JSON string when the code fails;
* `avaliar-variavel <name>` shows the value of a variable as JSON, or the error text;
* `adentrar-escopo`, `proximo`, `sair-escopo` and `continuar` start the program again and
  answer when it stops; the receipt goes out first, then the opening of the answer block,
  which is not closed;
* `tchau` says goodbye and asks for the connection to be closed.

An unknown request is answered by an error frame, or by nothing when the policy says to
ignore it. Every engine failure is logged as a warning and answered by an error frame.
-/

namespace LuaDebugger

/-- What the dispatcher asks of a debugger engine whose state is `σ`. A question may change the
state: listing the variables, evaluating code and stepping may run code of the program, and
all of them may write to the log that the engine and the dispatcher share. -/
class DebugEngine (σ : Type) where
  /-- The breakpoints in force. -/
  breakpoints : σ → Registry
  /-- The state with other breakpoints in force. -/
  setBreakpoints : σ → Registry → σ
  /-- The open file with an identity. -/
  openFile : σ → FileId → Option OpenFile
  /-- The log that the engine and the dispatcher share. -/
  journal : σ → Journal
  /-- The state with the shared log replaced. -/
  setJournal : σ → Journal → σ
  /-- The call stack of the paused program, outermost first. -/
  scopeStack : StateM σ (Except ByteArray (List Frame))
  /-- The variables of the current scope. -/
  localVariables : StateM σ (Except ByteArray (List Variable))
  /-- Runs a line of code in the current scope and gives its results. -/
  executeLine : ByteArray → StateM σ (Except ByteArray (List Datum))
  /-- The value of a variable of the current scope. -/
  readVariable : ByteArray → StateM σ (Except ByteArray Datum)
  /-- Starts the paused program as the command asks and waits until it stops again. -/
  run : Command → StateM σ (Except ByteArray Unit)

/-- The requests of the client. -/
inductive Instruction where
  | addBreakpoint
  | removeBreakpoint
  | listBreakpoints
  | stackTrace
  | listVariables
  | evaluate
  | evaluateVariable
  /-- Starts the program again as the command says. -/
  | run (c : Command)
  | goodbye
  deriving DecidableEq, Repr

namespace Instruction

/-- Every request, once. -/
def all : List Instruction :=
  [.addBreakpoint, .removeBreakpoint, .listBreakpoints, .stackTrace, .listVariables, .evaluate,
   .evaluateVariable, .run .stepIn, .run .stepOver, .run .stepOut, .run .resume, .goodbye]

/-- The name by which the client asks for a request. -/
def name : Instruction → String
  | .addBreakpoint => "adicionar-ponto-parada"
  | .removeBreakpoint => "remover-ponto-parada"
  | .listBreakpoints => "pontos-parada"
  | .stackTrace => "pilha-execucao"
  | .listVariables => "variaveis"
  | .evaluate => "avaliar"
  | .evaluateVariable => "avaliar-variavel"
  | .run .stepIn => "adentrar-escopo"
  | .run .stepOver => "proximo"
  | .run .stepOut => "sair-escopo"
  | .run _ => "continuar"
  | .goodbye => "tchau"

/-- The request with a name, if there is one. -/
def ofName? (n : ByteArray) : Option Instruction := all.find? fun i ↦ i.name.toUTF8 == n

/-- The names of all requests. -/
def names : List String := all.map name

end Instruction

/-- The line of a variable in a listing: `<name> :: <type> :: <value>`. -/
def Variable.listingLine (v : Variable) : ByteArray :=
  v.name ++ " :: ".toUTF8 ++ v.type.toUTF8 ++ " :: ".toUTF8 ++ v.value

/-- The JSON text of a datum, `null` when it has none. -/
def Datum.jsonOrNull (d : Datum) : String := (d.toJson?).getD "null"

/-- A dispatcher: how it answers unknown requests, the logger it writes through, and the
directory against which relative breakpoint paths are read. -/
structure Dispatcher where
  /-- How unknown requests are answered. -/
  policy : UnknownPolicy := .report
  /-- The logger of the dispatcher. -/
  logger : Logger := {}
  /-- The working directory. -/
  cwd : String := "/"
  deriving Inhabited

namespace Dispatcher

variable {σ : Type} [DebugEngine σ]

/-- A dispatcher writing through `logger` as the component `dispatcher`. -/
def new (logger : Logger) (cwd : String) (policy : UnknownPolicy := .report) : Dispatcher :=
  ⟨policy, logger.withComponent "dispatcher", cwd⟩

/-- Writes a line to the shared log. -/
def note (d : Dispatcher) (level : Level) (msg : ByteArray) : StateM σ Unit :=
  modify fun s ↦ DebugEngine.setJournal s ((DebugEngine.journal s).write d.logger level msg)

/-- `[<request>]: <reason>`, the text of a refused request. -/
def refusal (name reason : ByteArray) : ByteArray := "[".toUTF8 ++ name ++ "]: ".toUTF8 ++ reason

/-- Logs an engine failure as a warning and answers it with an error frame. -/
def fail (d : Dispatcher) (name : ByteArray) (err : ByteArray) (r : Reply) :
    StateM σ Reply := do
  d.note .warn (name ++ ": ".toUTF8 ++ err)
  return r.error err

/-- Reads the breakpoint that a request names by its first two arguments, answering any
problem on a line of the reply. -/
def breakpointArg (d : Dispatcher) (req : Request) (r : Reply) :
    StateM σ (Reply × Option Breakpoint) := do
  match req.args with
  | path :: lineArg :: _ =>
    match Decimal.readInt 10 (Text.decodeLossy lineArg) with
    | .error _ =>
      let msg := refusal req.name ("Linha '".toUTF8 ++ lineArg ++ "' inválida".toUTF8)
      d.note .debug msg
      return (r.line msg, none)
    | .ok line =>
      let s ← get
      match Breakpoint.validate d.cwd (DebugEngine.openFile s) (Text.decodeLossy path) line with
      | .ok b => return (r, some b)
      | .error e =>
        match e.cause with
        | .fileNotOpen =>
          return (r.line (refusal req.name
            ("Arquivo '".toUTF8 ++ path ++ "' não encontrado".toUTF8)), none)
        | .lineOutOfRange =>
          return (r.line (refusal req.name ((s!"Linha {line} não existente em arquivo '").toUTF8 ++
            path ++ "'".toUTF8)), none)
  | _ =>
    let n := req.name
    return (r.line (refusal n ("Formato: ".toUTF8 ++ n ++ " /caminho/do/arquivo.egua 1".toUTF8)),
      none)

/-- Adds or removes the breakpoint of a request: `edit` changes the registry and says whether
it changed anything, and `unchanged` is the debug line logged when it did not. -/
def editBreakpoint (d : Dispatcher) (edit : Registry → Breakpoint → Bool × Registry)
    (unchanged : Breakpoint → String) (req : Request) (r : Reply) : StateM σ Reply := do
  let (r, b) ← d.breakpointArg req (r.ack req.name)
  if let some b := b then
    let s ← get
    let (changed, reg) := edit (DebugEngine.breakpoints s) b
    set (DebugEngine.setBreakpoints s reg)
    if !changed then d.note .debug (unchanged b).toUTF8
  return r

/-- Adds the breakpoint of a request. -/
def addBreakpoint (d : Dispatcher) : Request → Reply → StateM σ Reply :=
  d.editBreakpoint Registry.add fun b ↦ s!"breakpoint {b.render} already registered"

/-- Removes the breakpoint of a request. -/
def removeBreakpoint (d : Dispatcher) : Request → Reply → StateM σ Reply :=
  d.editBreakpoint Registry.remove fun b ↦ s!"breakpoint {b.render} not registered"

/-- Lists the breakpoints. -/
def listBreakpoints (req : Request) (r : Reply) : StateM σ Reply := do
  let s ← get
  let shown (f : FileId) : String := ((DebugEngine.openFile s f).map (·.path)).getD f.hex
  return (DebugEngine.breakpoints s).entries.foldl
    (fun r b ↦ r.lineText s!"{shown b.file}: {b.line}") (r.ack req.name)

/-- The listing line of a visible frame, or the failure that prevents it; a frame without
statements has none. -/
def frameLine (files : FileId → Option OpenFile) (f : Frame) :
    Except ByteArray (Option ByteArray) :=
  match f.currentStatement? with
  | none => .ok none
  | some st =>
    match files st.file with
    | none => .error (s!"file not open: {st.file.hex}").toUTF8
    | some of =>
      match of.line? st.line with
      | none => .error (s!"line out of range: {of.path}:{st.line}").toUTF8
      | some src =>
        .ok (some (Text.trimSpaceBytes src ++ (s!" --- {of.path}::{f.signature}::{st.line}").toUTF8))

/-- The listing lines of the visible frames, or the first failure. -/
def frameLines (files : FileId → Option OpenFile) : List Frame → Except ByteArray (List ByteArray)
  | [] => .ok []
  | f :: rest => do
    let l ← frameLine files f
    let ls ← frameLines files rest
    pure (l.toList ++ ls)

/-- Lists the call stack. -/
def stackTrace (d : Dispatcher) (req : Request) (r : Reply) : StateM σ Reply := do
  let r := r.ack req.name
  match ← DebugEngine.scopeStack with
  | .error e => d.fail req.name e r
  | .ok frames =>
    let s ← get
    match frameLines (DebugEngine.openFile s) (visibleFrames frames) with
    | .error e => d.fail req.name e r
    | .ok ls => return (ls.foldl Reply.line (r.begin req.name)).end req.name

/-- The receipt of a variable listing, which says what follows. -/
def variablesReceipt (name : ByteArray) : ByteArray :=
  "Recebido comando '".toUTF8 ++ name ++ "'. Enviando variáveis do escopo atual".toUTF8

/-- Lists the variables of the current scope. -/
def listVariables (d : Dispatcher) (req : Request) (r : Reply) : StateM σ Reply := do
  let r := r.line (variablesReceipt req.name)
  match ← DebugEngine.localVariables with
  | .error e => d.fail req.name e r
  | .ok vs => return (vs.foldl (fun r v ↦ r.line v.listingLine) (r.begin req.name)).end req.name

/-- Runs the code of a request and shows its first result. -/
def evaluate (d : Dispatcher) (req : Request) (r : Reply) : StateM σ Reply := do
  let r := r.ack req.name
  let result ← match ← DebugEngine.executeLine req.rest with
    | .error e => do
      d.note .debug ("evaluation failed: ".toUTF8 ++ e)
      pure (Datum.ofBytes e)
    | .ok vs => pure (vs.head?.getD .null)
  return ((r.begin req.name).lineText result.jsonOrNull).end req.name

/-- Shows the value of the variable a request names. -/
def evaluateVariable (req : Request) (r : Reply) : StateM σ Reply := do
  let r := (r.ack req.name).begin req.name
  let r := match ← DebugEngine.readVariable req.rest with
    | .error e => r.line e
    | .ok v => r.lineText v.jsonOrNull
  return r.end req.name

/-- Starts the program again; the receipt is handed over before the program runs. -/
def run (d : Dispatcher) (c : Command) (req : Request) (r : Reply) : StateM σ Reply := do
  let r := (r.ack req.name).flush
  let result ← DebugEngine.run c
  let r := r.begin req.name
  match result with
  | .error e => d.fail req.name e r
  | .ok () => return r

/-- Says goodbye and asks for the connection to be closed. -/
def goodbye (req : Request) (r : Reply) : Reply :=
  { r.line ("Recebido comando '".toUTF8 ++ req.name ++ "'. Conexão será encerrada".toUTF8) with
    close := true }

/-- The arguments of a request in a log line: `[a b c]`. -/
def argsText (req : Request) : ByteArray := "[".toUTF8 ++ Text.joinBytes " ".toUTF8 req.args ++ "]".toUTF8

/-- The handler of each request. -/
def handler (d : Dispatcher) : Instruction → Request → Reply → StateM σ Reply
  | .addBreakpoint => d.addBreakpoint
  | .removeBreakpoint => d.removeBreakpoint
  | .listBreakpoints => listBreakpoints
  | .stackTrace => d.stackTrace
  | .listVariables => d.listVariables
  | .evaluate => d.evaluate
  | .evaluateVariable => evaluateVariable
  | .run c => d.run c
  | .goodbye => fun req r ↦ return goodbye req r

/-- Answers a request; `early` says whether the connection takes early parts of the reply. -/
def dispatch (d : Dispatcher) (req : Request) (early : Bool := false) : StateM σ Reply := do
  let r : Reply := { early := early }
  match Instruction.ofName? req.name with
  | none =>
    let msg := refusal req.name "comando desconhecido".toUTF8
    match d.policy with
    | .ignore =>
      d.note .debug ("ignoring ".toUTF8 ++ msg)
      return r
    | .report =>
      d.note .warn msg
      return r.error msg
  | some i =>
    d.note .debug ("command ".toUTF8 ++ req.name ++ " ".toUTF8 ++ argsText req)
    d.handler i req r

end Dispatcher

end LuaDebugger
