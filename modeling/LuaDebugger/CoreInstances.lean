/-!
# The instances numbers and byte strings are read with

The library runs on the core library alone and is reasoned about with Mathlib beside it, and
each definition must denote the same term in both settings. Two instances would otherwise
change with what is imported: Mathlib raises natural numbers and integers to powers through
its monoid structure (`NPow.toPow`, a default instance of high priority), and decides equality
of byte arrays by an instance of its own. The two instances here rank above those, so the core
operations are the ones found in either setting.
-/

namespace LuaDebugger

universe u

/-- Powers by a natural number are the core operation of the type (`Nat.pow`, `Int.pow`). As a
default instance it also decides what a literal exponent means. -/
@[default_instance 10001]
instance (priority := 1100) corePow {α : Type u} [NatPow α] : Pow α Nat := instPowNat

/-- Byte arrays are equal when their bytes are, decided as the core library decides it. -/
instance (priority := 1100) byteArrayDecEq : DecidableEq ByteArray := ByteArray.instDecidableEq

end LuaDebugger
