import LuaDebugger.CoreInstances
/-!
# Computations that ask questions

`Asking q r α` is a computation that may stop to ask a question of type `q` and goes on with
the answer, of type `r`. It is how a sort that compares its items with a function of the
script runs: each comparison is a question, which the interpreter answers by calling the
function, for as long as it likes, before it hands the answer back. An answer may carry more
than a yes or a no: what the function did to the items meanwhile.

A computation that asks nothing is `done`; `bind` threads the rest of a computation under
every question, so the questions come out in the order the computation asks them.
-/

namespace LuaDebugger

/-- A computation that may stop to ask questions of type `q`, each answered by an `r`. -/
inductive Asking (q : Type) (r : Type) (α : Type) where
  /-- The computation ended with `a`. -/
  | done (a : α)
  /-- The computation asks `question`, and goes on with `next` of the answer. -/
  | ask (question : q) (next : r → Asking q r α)

namespace Asking

/-- Runs `f` on the result of `x`, after every question `x` asks. -/
def bind : Asking q r α → (α → Asking q r β) → Asking q r β
  | .done a, f => f a
  | .ask question next, f => .ask question fun b ↦ bind (next b) f

instance : Monad (Asking q r) where
  pure := .done
  bind := bind

/-- The result of a computation whose every question is answered by `answer`. -/
def answerAll (answer : q → r) : Asking q r α → α
  | .done a => a
  | .ask question next => answerAll answer (next (answer question))

/-- A computation that asks one question and ends with its answer. -/
def query (question : q) : Asking q r r := .ask question .done

end Asking

end LuaDebugger
