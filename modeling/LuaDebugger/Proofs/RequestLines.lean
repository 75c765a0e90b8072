import LuaDebugger.Protocol.Request
import LuaDebugger.Proofs.InstrumentedLines
/-!
# A request line is its parts joined by single spaces

A line of the client loses one final carriage return (`Text.dropFinal`), and is then either
blank, holding white space only, or cut at every single space into the request's name and
arguments. Nothing is quoted and nothing is dropped: the parts are exactly the space-free
pieces whose join with single spaces is the line, empty pieces from repeated spaces included.
The text after the name is the text after the first space, and a chunk of input read line by
line gives the requests of its lines in order, so reading two chunks joined by a line feed
gives the requests of each, one after the other.

The proofs move to the bytes of each byte string and rest on the library's `List.splitOn` and
`List.intercalate`, which undo each other on pieces free of the separator. Main statement:
`line_reads_as_its_space_separated_parts`.
-/

namespace LuaDebugger

namespace Text

/-! ### One final byte dropped -/

/-- A byte string loses its last byte when that is `b`, and is kept whole otherwise. -/
theorem data_dropFinal (b : UInt8) (bs : ByteArray) :
    (dropFinal b bs).data.toList =
      if bs.data.toList.getLast? = some b then bs.data.toList.dropLast else bs.data.toList := by
  by_cases h : bs.data.toList.getLast? = some b
  · rw [dropFinal, if_pos ((endsWithByte_iff bs b).2 h), if_pos h, data_dropLastByte]
  · rw [dropFinal, if_neg (mt (endsWithByte_iff bs b).1 h), if_neg h]

/-! ### Blank lines -/

/-- A byte string is not blank exactly when its text holds a character that is not white
space, a stray byte reading as the replacement character, which is not. -/
theorem isBlankBytes_eq_false_iff (bs : ByteArray) :
    isBlankBytes bs = false ↔ ∃ c ∈ (decodeLossy bs).toList, isSpace c = false := by
  have replacement : isSpace '�' = false := by decide
  simp only [isBlankBytes, decodeLossy, String.toList_ofList, List.all_eq_false, List.mem_map]
  constructor
  · rintro ⟨p, hp, h⟩
    cases p with
    | char c => exact ⟨c, ⟨_, hp, rfl⟩, by simpa using h⟩
    | stray b => exact ⟨'�', ⟨_, hp, rfl⟩, replacement⟩
  · rintro ⟨_, ⟨p, hp, rfl⟩, h⟩
    cases p with
    | char c => exact ⟨_, hp, by simpa using h⟩
    | stray b => exact ⟨_, hp, by simp⟩

/-! ### Splitting and joining bytes -/

theorem space_toUTF8 : " ".toUTF8 = ByteArray.mk #[32] := data_toList_injective (by decide)

theorem line_feed_toUTF8 : "\n".toUTF8 = ByteArray.mk #[10] := data_toList_injective (by decide)

/-- **Splitting undoes joining exactly on the pieces without the separator**: the split of a
byte string is the one nonempty list of pieces free of the separator whose join is the
string. -/
theorem splitBytes_eq_iff (sep : UInt8) (bs : ByteArray) (parts : List ByteArray) :
    splitBytes sep bs = parts ↔
      joinBytes (ByteArray.mk #[sep]) parts = bs ∧ parts ≠ [] ∧
        ∀ part ∈ parts, sep ∉ part.data.toList := by
  have sepData : (ByteArray.mk #[sep]).data.toList = [sep] := rfl
  constructor
  · rintro rfl
    refine ⟨data_toList_injective ?_, splitBytes_ne_nil sep bs, fun part hpart ↦ ?_⟩
    · show (joinBytes _ _).data.toList = bs.data.toList
      rw [data_joinBytes, data_splitBytes, sepData, List.intercalate_splitOn]
    · have piece : part.data.toList ∈ bs.data.toList.splitOn sep := by
        rw [← data_splitBytes]
        exact List.mem_map_of_mem hpart
      exact Config.not_mem_of_mem_splitOn piece
  · rintro ⟨joined, nonempty, free⟩
    -- both sides have the same bytes piece by piece: the library's split of a join
    apply List.map_injective_iff.2 data_toList_injective
    rw [data_splitBytes, ← joined, data_joinBytes, sepData]
    apply List.splitOn_intercalate
    · intro l hl
      obtain ⟨part, hpart, rfl⟩ := List.mem_map.1 hl
      exact free part hpart
    · simpa using nonempty

/-- A byte string without the separator is one piece. -/
theorem splitBytes_eq_singleton {sep : UInt8} {bs : ByteArray} (h : sep ∉ bs.data.toList) :
    splitBytes sep bs = [bs] :=
  (splitBytes_eq_iff sep bs [bs]).2 ⟨rfl, List.cons_ne_nil _ _, by simpa using h⟩

/-- Splitting at a separator that stands between two byte strings splits each. -/
theorem splitBytes_append_sep (sep : UInt8) (a b : ByteArray) :
    splitBytes sep (a ++ ByteArray.mk #[sep] ++ b) = splitBytes sep a ++ splitBytes sep b := by
  apply List.map_injective_iff.2 data_toList_injective
  have bytes : (a ++ ByteArray.mk #[sep] ++ b).data.toList =
      a.data.toList ++ sep :: b.data.toList := by
    simp
  rw [data_splitBytes, List.map_append, data_splitBytes, data_splitBytes, bytes,
    List.splitOn_append_cons_self]

end Text

namespace Request

/-- A line reads as a request exactly when it is not blank once its final carriage return is
dropped, and then as the pieces between its spaces. -/
theorem ofLine?_eq_some_iff (line : ByteArray) (r : Request) :
    ofLine? line = some r ↔
      Text.isBlankBytes (Text.dropFinal 13 line) = false ∧
        Text.splitBytes 32 (Text.dropFinal 13 line) = r.name :: r.args := by
  obtain ⟨name, args, split⟩ :=
    List.exists_cons_of_ne_nil (Text.splitBytes_ne_nil 32 (Text.dropFinal 13 line))
  dsimp only [ofLine?]
  rcases r with ⟨n, as⟩
  cases Text.isBlankBytes (Text.dropFinal 13 line) <;> simp [split]

/-- A line reads as a request exactly when it is not blank. -/
theorem isSome_ofLine? (line : ByteArray) :
    (ofLine? line).isSome ↔ Text.isBlankBytes (Text.dropFinal 13 line) = false := by
  obtain ⟨name, args, split⟩ :=
    List.exists_cons_of_ne_nil (Text.splitBytes_ne_nil 32 (Text.dropFinal 13 line))
  rw [Option.isSome_iff_exists]
  constructor
  · rintro ⟨r, hr⟩
    exact ((ofLine?_eq_some_iff line r).1 hr).1
  · intro blank
    exact ⟨⟨name, args⟩, (ofLine?_eq_some_iff line _).2 ⟨blank, split⟩⟩

/-- The text after the name is the text after the first space. -/
theorem rest_eq_of_split {body a b : ByteArray} {r : Request}
    (split : Text.splitBytes 32 body = r.name :: r.args) (hbody : body = a ++ " ".toUTF8 ++ b)
    (first : (32 : UInt8) ∉ a.data.toList) : r.rest = b := by
  rw [hbody, Text.space_toUTF8, Text.splitBytes_append_sep, Text.splitBytes_eq_singleton first,
    List.singleton_append, List.cons.injEq] at split
  rw [rest, Text.space_toUTF8, ← split.2]
  exact ((Text.splitBytes_eq_iff 32 b _).1 rfl).1

/-- A line without a space has nothing after its name. -/
theorem rest_eq_empty_of_split {body : ByteArray} {r : Request}
    (split : Text.splitBytes 32 body = r.name :: r.args) (none : (32 : UInt8) ∉ body.data.toList) :
    r.rest = ByteArray.empty := by
  rw [Text.splitBytes_eq_singleton none, List.cons.injEq] at split
  rw [rest, ← split.2]
  rfl

/-- Reading a chunk made of two chunks with a line feed between them reads each. -/
theorem ofChunk_append_line_feed (a b : ByteArray) :
    ofChunk (a ++ "\n".toUTF8 ++ b) = ofChunk a ++ ofChunk b := by
  rw [ofChunk, Text.line_feed_toUTF8, Text.splitBytes_append_sep, List.filterMap_append]
  rfl

/-- **A request line is its parts joined by single spaces.** Once its final carriage return,
if any, is dropped, a line reads as a request exactly when its text holds a character that is
not white space; it then reads as the request whose name and arguments are free of spaces and
joined by single spaces give the line back, empty arguments from repeated spaces included.
The text after the name is the text after the first space, and nothing when there is no
space. A chunk is read line by line, so two chunks joined by a line feed read as the requests
of the first and then those of the second. -/
theorem line_reads_as_its_space_separated_parts (line : ByteArray) :
    ((ofLine? line).isSome ↔
      ∃ c ∈ (Text.decodeLossy (Text.dropFinal 13 line)).toList, Text.isSpace c = false) ∧
    (∀ r, ofLine? line = some r ↔
      (∃ c ∈ (Text.decodeLossy (Text.dropFinal 13 line)).toList, Text.isSpace c = false) ∧
        Text.joinBytes " ".toUTF8 (r.name :: r.args) = Text.dropFinal 13 line ∧
        ∀ part ∈ r.name :: r.args, (32 : UInt8) ∉ part.data.toList) ∧
    (∀ r, ofLine? line = some r →
      (∀ a b : ByteArray, Text.dropFinal 13 line = a ++ " ".toUTF8 ++ b →
        (32 : UInt8) ∉ a.data.toList → r.rest = b) ∧
      ((32 : UInt8) ∉ (Text.dropFinal 13 line).data.toList → r.rest = ByteArray.empty)) ∧
    ∀ a b : ByteArray, ofChunk (a ++ "\n".toUTF8 ++ b) = ofChunk a ++ ofChunk b := by
  refine ⟨by rw [isSome_ofLine?, Text.isBlankBytes_eq_false_iff], fun r ↦ ?_, fun r hr ↦ ?_,
    ofChunk_append_line_feed⟩
  · rw [ofLine?_eq_some_iff, Text.isBlankBytes_eq_false_iff, Text.splitBytes_eq_iff,
      Text.space_toUTF8]
    simp only [ne_eq, reduceCtorEq, not_false_eq_true, true_and]
  · have split := ((ofLine?_eq_some_iff line r).1 hr).2
    exact ⟨fun a b hbody first ↦ rest_eq_of_split split hbody first,
      rest_eq_empty_of_split split⟩

end Request

end LuaDebugger
