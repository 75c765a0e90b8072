import LuaDebugger.Text.CaseMap
import LuaDebugger.Text.Cased
/-!
# Lowercasing text

Two ways to lowercase a text. `lowerEach` maps every character to its simple lowercase on
its own. `lowerWords` is the full, context-aware lowercase by version 15 of the character
database: a capital dotted I becomes an `i` followed by a combining dot above, and a capital
sigma at the end of a word becomes the final sigma. The second is the one that decides
whether two file paths are the same file.
-/

namespace LuaDebugger.Text

/-- Every character replaced by its simple lowercase. -/
def lowerEach (s : String) : String := String.map lowerSimple s

/-- Every character replaced by its simple uppercase. -/
def upperEach (s : String) : String := String.map upperSimple s

/-- The lowercase of a character inside a word: its simple lowercase by version 15 of the
character database, and the capital dotted I as an `i` with a combining dot above. -/
def lowerInWord (c : Char) : List Char :=
  if c = 'İ' then ['i', '̇'] else [lowerSimple15 c]

/-- The most case-ignorable characters looked through after a capital sigma. -/
def sigmaReach : Nat := 31

/-- The form of a capital sigma inside a word, given the character that follows the
case-ignorable ones after it: small when that one is cased, final otherwise. -/
def sigmaBefore (next : Option Char) : Char :=
  match next with
  | some d => if isCased d then 'σ' else 'ς'
  | none => 'ς'

/-- Lowercases `cs` word by word. `inWord` says whether a word has started: it starts at a
cased character and ends at one that is neither cased nor case-ignorable. A capital sigma
inside a word waits in `pending` with the case-ignorable characters read after it, which
are copied as they are; it becomes final unless a cased character follows them, and when
`sigmaReach` of them have been read it is final. -/
def lowerWordsFrom (inWord : Bool) (pending : Option (List Char)) : List Char → List Char
  | [] =>
    match pending with
    | some buf => 'ς' :: buf
    | none => []
  | c :: rest =>
    match pending with
    | some buf =>
      if isCaseIgnorable c ∧ buf.length < sigmaReach then
        lowerWordsFrom true (some (buf ++ [c])) rest
      else
        let form := if buf.length < sigmaReach then sigmaBefore (some c) else 'ς'
        form :: buf ++ lowerWordsFrom true none (c :: rest)
    | none =>
      if !inWord then
        if isCased c then lowerInWord c ++ lowerWordsFrom true none rest
        else c :: lowerWordsFrom false none rest
      else if !isCased c ∧ !isCaseIgnorable c then c :: lowerWordsFrom false none rest
      else if c = 'Σ' then lowerWordsFrom true (some []) rest
      else lowerInWord c ++ lowerWordsFrom true none rest
termination_by cs => (cs.length, if pending.isSome then 1 else 0)

/-- The full, context-aware lowercase of a text. -/
def lowerWords (s : String) : String := String.ofList (lowerWordsFrom false none s.toList)

end LuaDebugger.Text
