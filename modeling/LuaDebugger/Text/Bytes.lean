import LuaDebugger.CoreInstances
/-!
# Byte strings

Small operations on byte strings that the line protocol and the script engine share:
cutting at a separator byte and joining with one.
-/

namespace LuaDebugger.Text

/-- The parts of `bs` between the occurrences of `sep`, empty parts included. -/
def splitBytesList (sep : UInt8) : List UInt8 → List (List UInt8)
  | [] => [[]]
  | b :: rest =>
    if b = sep then [] :: splitBytesList sep rest
    else match splitBytesList sep rest with
      | part :: parts => (b :: part) :: parts
      | [] => [[b]]

/-- The parts of `bs` between the occurrences of `sep`, empty parts included. -/
def splitBytes (sep : UInt8) (bs : ByteArray) : List ByteArray :=
  (splitBytesList sep bs.toList).map fun part ↦ ⟨part.toArray⟩

/-- The parts joined, with `sep` between each two. -/
def joinBytes (sep : ByteArray) : List ByteArray → ByteArray
  | [] => ByteArray.empty
  | [b] => b
  | b :: rest => b ++ sep ++ joinBytes sep rest

/-- Whether `bs` ends with the byte `b`. -/
def endsWithByte (bs : ByteArray) (b : UInt8) : Bool :=
  bs.size > 0 ∧ bs.get! (bs.size - 1) = b

/-- `bs` without its last byte. -/
def dropLastByte (bs : ByteArray) : ByteArray := bs.extract 0 (bs.size - 1)

/-- `bs` without one final byte `b`, when it ends with one. -/
def dropFinal (b : UInt8) (bs : ByteArray) : ByteArray :=
  if endsWithByte bs b then dropLastByte bs else bs

end LuaDebugger.Text
