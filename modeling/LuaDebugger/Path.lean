import LuaDebugger.Text.Case
/-!
# File paths and the identity of a source file

A breakpoint names its file by a number that does not depend on how the path was written:
the path is made absolute against the working directory, cleaned lexically, lowercased, and
hashed with 64-bit FNV-1a. The lowercasing is a parameter of the normal form
(`normalizeWith`); the program lowercases in full by the character database
(`Text.lowerWords`). Cleaning follows the usual lexical rules: repeated
separators collapse, `.` elements vanish, a `..` removes the element before it, and a `..`
at the root stays at the root.
-/

namespace LuaDebugger.Path

/-- Whether a path starts at the root. -/
def isAbsolute (p : String) : Bool := p.toList.head? == some '/'

/-- Pushes one path element onto the cleaned elements `acc` (last element first). -/
def pushElement (rooted : Bool) (acc : List (List Char)) (e : List Char) : List (List Char) :=
  if e = [] ∨ e = ['.'] then acc
  else if e = ['.', '.'] then
    match acc with
    | top :: rest => if top = ['.', '.'] then e :: acc else rest
    | [] => if rooted then [] else [e]
  else e :: acc

/-- The elements of a path once cleaned, in order. -/
def cleanElements (rooted : Bool) (cs : List Char) : List (List Char) :=
  ((cs.splitOn '/').foldl (pushElement rooted) []).reverse

/-- The shortest path that names the same file as `p` by lexical rules alone. -/
def clean (p : String) : String :=
  let rooted := isAbsolute p
  let body := ['/'].intercalate (cleanElements rooted p.toList)
  String.ofList (if rooted then '/' :: body else if body = [] then ['.'] else body)

/-- The absolute, cleaned form of `p`, relative paths being read against `cwd`. -/
def absolute (cwd p : String) : String :=
  if isAbsolute p then clean p
  else if p = "" then clean cwd
  else clean (cwd ++ "/" ++ p)

/-- The normal form of a path under a lowercasing `lower`: absolute, cleaned and lowercased. -/
def normalizeWith (lower : String → String) (cwd p : String) : String := lower (absolute cwd p)

/-- The normal form of a path: absolute, cleaned and lowercased in full. -/
def normalize (cwd p : String) : String := normalizeWith Text.lowerWords cwd p

/-- The 64-bit FNV-1a hash of a byte string. -/
def fnv1a (bytes : ByteArray) : UInt64 :=
  bytes.foldl (fun h b ↦ (h ^^^ b.toUInt64) * 1099511628211) 14695981039346656037

/-- The digits of `n` in base 16, lowercase and without leading zeros. -/
def hexDigits (n : Nat) : String := String.ofList (Nat.toDigits 16 n)

/-- The final element of a path, after the last separator. -/
def baseName (p : String) : String := ((p.splitOn "/").getLast?).getD p

/-- The extension of a path: the part of its final element from the last dot on, or empty. -/
def extension (p : String) : String :=
  let parts := (baseName p).splitOn "."
  if parts.length ≤ 1 then "" else "." ++ (parts.getLast?).getD ""

/-- The directory part of a path: all but its final element, cleaned. -/
def directory (p : String) : String :=
  let parts := p.splitOn "/"
  clean ("/".intercalate (parts.dropLast))

end LuaDebugger.Path

namespace LuaDebugger

/-- The identity of a source file: the hash of its normalized path. -/
structure FileId where
  /-- The FNV-1a hash of the normalized path. -/
  hash : UInt64
  deriving DecidableEq, Hashable, Repr, Inhabited

namespace FileId

/-- The identity of the file that `p` names under a lowercasing `lower`, relative paths read
against `cwd`. -/
def ofPathWith (lower : String → String) (cwd p : String) : FileId :=
  ⟨Path.fnv1a (Path.normalizeWith lower cwd p).toUTF8⟩

/-- The identity of the file that `p` names, relative paths read against `cwd`. -/
def ofPath (cwd p : String) : FileId := ofPathWith Text.lowerWords cwd p

/-- The hash in base 16, as breakpoint listings show it. -/
def hex (f : FileId) : String := Path.hexDigits f.hash.toNat

end FileId

end LuaDebugger
