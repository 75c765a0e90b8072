import LuaDebugger.Text.Ranges
/-!
# Simple case mapping

The one-character lowercase and uppercase of each code point, as the Unicode character
database gives them: `lowerSimple` and `upperSimple` follow version 17 of the database, and
`lowerSimple15` and `upperSimple15` version 15, which lacks the case pairs that 16 and 17
add.

The version 15 mappings are stored as runs: a run is a first point, a count, a shift and a
stride, and covers the points `first + k * stride` for `k < count`, each of which maps to
itself plus the shift. Points outside every run map to themselves.
-/

namespace LuaDebugger.Text

/-- Runs of the simple lowercase mapping: `(first, count, shift, stride)` says that the
`count` characters `first`, `first + stride`, … each map to themselves plus `shift`. -/
def lowerRuns : Array (Nat × Nat × Int × Nat) := #[
  (65, 26, 32, 1), (192, 23, 32, 1), (216, 7, 32, 1), (256, 24, 1, 2), (304, 1, -199, 1), (306, 3, 1, 2),
  (313, 8, 1, 2), (330, 23, 1, 2), (376, 1, -121, 1), (377, 3, 1, 2), (385, 1, 210, 1), (386, 2, 1, 2),
  (390, 1, 206, 1), (391, 1, 1, 1), (393, 2, 205, 1), (395, 1, 1, 1), (398, 1, 79, 1), (399, 1, 202, 1),
  (400, 1, 203, 1), (401, 1, 1, 1), (403, 1, 205, 1), (404, 1, 207, 1), (406, 1, 211, 1), (407, 1, 209, 1),
  (408, 1, 1, 1), (412, 1, 211, 1), (413, 1, 213, 1), (415, 1, 214, 1), (416, 3, 1, 2), (422, 1, 218, 1),
  (423, 1, 1, 1), (425, 1, 218, 1), (428, 1, 1, 1), (430, 1, 218, 1), (431, 1, 1, 1), (433, 2, 217, 1),
  (435, 2, 1, 2), (439, 1, 219, 1), (440, 1, 1, 1), (444, 1, 1, 1), (452, 1, 2, 1), (453, 1, 1, 1),
  (455, 1, 2, 1), (456, 1, 1, 1), (458, 1, 2, 1), (459, 9, 1, 2), (478, 9, 1, 2), (497, 1, 2, 1),
  (498, 2, 1, 2), (502, 1, -97, 1), (503, 1, -56, 1), (504, 20, 1, 2), (544, 1, -130, 1), (546, 9, 1, 2),
  (570, 1, 10795, 1), (571, 1, 1, 1), (573, 1, -163, 1), (574, 1, 10792, 1), (577, 1, 1, 1), (579, 1, -195, 1),
  (580, 1, 69, 1), (581, 1, 71, 1), (582, 5, 1, 2), (880, 2, 1, 2), (886, 1, 1, 1), (895, 1, 116, 1),
  (902, 1, 38, 1), (904, 3, 37, 1), (908, 1, 64, 1), (910, 2, 63, 1), (913, 17, 32, 1), (931, 9, 32, 1),
  (975, 1, 8, 1), (984, 12, 1, 2), (1012, 1, -60, 1), (1015, 1, 1, 1), (1017, 1, -7, 1), (1018, 1, 1, 1),
  (1021, 3, -130, 1), (1024, 16, 80, 1), (1040, 32, 32, 1), (1120, 17, 1, 2), (1162, 27, 1, 2), (1216, 1, 15, 1),
  (1217, 7, 1, 2), (1232, 48, 1, 2), (1329, 38, 48, 1), (4256, 38, 7264, 1), (4295, 1, 7264, 1), (4301, 1, 7264, 1),
  (5024, 80, 38864, 1), (5104, 6, 8, 1), (7312, 43, -3008, 1), (7357, 3, -3008, 1), (7680, 75, 1, 2), (7838, 1, -7615, 1),
  (7840, 48, 1, 2), (7944, 8, -8, 1), (7960, 6, -8, 1), (7976, 8, -8, 1), (7992, 8, -8, 1), (8008, 6, -8, 1),
  (8025, 4, -8, 2), (8040, 8, -8, 1), (8072, 8, -8, 1), (8088, 8, -8, 1), (8104, 8, -8, 1), (8120, 2, -8, 1),
  (8122, 2, -74, 1), (8124, 1, -9, 1), (8136, 4, -86, 1), (8140, 1, -9, 1), (8152, 2, -8, 1), (8154, 2, -100, 1),
  (8168, 2, -8, 1), (8170, 2, -112, 1), (8172, 1, -7, 1), (8184, 2, -128, 1), (8186, 2, -126, 1), (8188, 1, -9, 1),
  (8486, 1, -7517, 1), (8490, 1, -8383, 1), (8491, 1, -8262, 1), (8498, 1, 28, 1), (8544, 16, 16, 1), (8579, 1, 1, 1),
  (9398, 26, 26, 1), (11264, 48, 48, 1), (11360, 1, 1, 1), (11362, 1, -10743, 1), (11363, 1, -3814, 1), (11364, 1, -10727, 1),
  (11367, 3, 1, 2), (11373, 1, -10780, 1), (11374, 1, -10749, 1), (11375, 1, -10783, 1), (11376, 1, -10782, 1), (11378, 1, 1, 1),
  (11381, 1, 1, 1), (11390, 2, -10815, 1), (11392, 50, 1, 2), (11499, 2, 1, 2), (11506, 1, 1, 1), (42560, 23, 1, 2),
  (42624, 14, 1, 2), (42786, 7, 1, 2), (42802, 31, 1, 2), (42873, 2, 1, 2), (42877, 1, -35332, 1), (42878, 5, 1, 2),
  (42891, 1, 1, 1), (42893, 1, -42280, 1), (42896, 2, 1, 2), (42902, 10, 1, 2), (42922, 1, -42308, 1), (42923, 1, -42319, 1),
  (42924, 1, -42315, 1), (42925, 1, -42305, 1), (42926, 1, -42308, 1), (42928, 1, -42258, 1), (42929, 1, -42282, 1), (42930, 1, -42261, 1),
  (42931, 1, 928, 1), (42932, 8, 1, 2), (42948, 1, -48, 1), (42949, 1, -42307, 1), (42950, 1, -35384, 1), (42951, 2, 1, 2),
  (42960, 1, 1, 1), (42966, 2, 1, 2), (42997, 1, 1, 1), (65313, 26, 32, 1), (66560, 40, 40, 1), (66736, 36, 40, 1),
  (66928, 11, 39, 1), (66940, 15, 39, 1), (66956, 7, 39, 1), (66964, 2, 39, 1), (68736, 51, 64, 1), (71840, 32, 32, 1),
  (93760, 32, 32, 1), (125184, 34, 34, 1)
]

/-- Runs of the simple uppercase mapping, in the layout of `lowerRuns`. -/
def upperRuns : Array (Nat × Nat × Int × Nat) := #[
  (97, 26, -32, 1), (181, 1, 743, 1), (224, 23, -32, 1), (248, 7, -32, 1), (255, 1, 121, 1), (257, 24, -1, 2),
  (305, 1, -232, 1), (307, 3, -1, 2), (314, 8, -1, 2), (331, 23, -1, 2), (378, 3, -1, 2), (383, 1, -300, 1),
  (384, 1, 195, 1), (387, 2, -1, 2), (392, 1, -1, 1), (396, 1, -1, 1), (402, 1, -1, 1), (405, 1, 97, 1),
  (409, 1, -1, 1), (410, 1, 163, 1), (414, 1, 130, 1), (417, 3, -1, 2), (424, 1, -1, 1), (429, 1, -1, 1),
  (432, 1, -1, 1), (436, 2, -1, 2), (441, 1, -1, 1), (445, 1, -1, 1), (447, 1, 56, 1), (453, 1, -1, 1),
  (454, 1, -2, 1), (456, 1, -1, 1), (457, 1, -2, 1), (459, 1, -1, 1), (460, 1, -2, 1), (462, 8, -1, 2),
  (477, 1, -79, 1), (479, 9, -1, 2), (498, 1, -1, 1), (499, 1, -2, 1), (501, 1, -1, 1), (505, 20, -1, 2),
  (547, 9, -1, 2), (572, 1, -1, 1), (575, 2, 10815, 1), (578, 1, -1, 1), (583, 5, -1, 2), (592, 1, 10783, 1),
  (593, 1, 10780, 1), (594, 1, 10782, 1), (595, 1, -210, 1), (596, 1, -206, 1), (598, 2, -205, 1), (601, 1, -202, 1),
  (603, 1, -203, 1), (604, 1, 42319, 1), (608, 1, -205, 1), (609, 1, 42315, 1), (611, 1, -207, 1), (613, 1, 42280, 1),
  (614, 1, 42308, 1), (616, 1, -209, 1), (617, 1, -211, 1), (618, 1, 42308, 1), (619, 1, 10743, 1), (620, 1, 42305, 1),
  (623, 1, -211, 1), (625, 1, 10749, 1), (626, 1, -213, 1), (629, 1, -214, 1), (637, 1, 10727, 1), (640, 1, -218, 1),
  (642, 1, 42307, 1), (643, 1, -218, 1), (647, 1, 42282, 1), (648, 1, -218, 1), (649, 1, -69, 1), (650, 2, -217, 1),
  (652, 1, -71, 1), (658, 1, -219, 1), (669, 1, 42261, 1), (670, 1, 42258, 1), (837, 1, 84, 1), (881, 2, -1, 2),
  (887, 1, -1, 1), (891, 3, 130, 1), (940, 1, -38, 1), (941, 3, -37, 1), (945, 17, -32, 1), (962, 1, -31, 1),
  (963, 9, -32, 1), (972, 1, -64, 1), (973, 2, -63, 1), (976, 1, -62, 1), (977, 1, -57, 1), (981, 1, -47, 1),
  (982, 1, -54, 1), (983, 1, -8, 1), (985, 12, -1, 2), (1008, 1, -86, 1), (1009, 1, -80, 1), (1010, 1, 7, 1),
  (1011, 1, -116, 1), (1013, 1, -96, 1), (1016, 1, -1, 1), (1019, 1, -1, 1), (1072, 32, -32, 1), (1104, 16, -80, 1),
  (1121, 17, -1, 2), (1163, 27, -1, 2), (1218, 7, -1, 2), (1231, 1, -15, 1), (1233, 48, -1, 2), (1377, 38, -48, 1),
  (4304, 43, 3008, 1), (4349, 3, 3008, 1), (5112, 6, -8, 1), (7296, 1, -6254, 1), (7297, 1, -6253, 1), (7298, 1, -6244, 1),
  (7299, 2, -6242, 1), (7301, 1, -6243, 1), (7302, 1, -6236, 1), (7303, 1, -6181, 1), (7304, 1, 35266, 1), (7545, 1, 35332, 1),
  (7549, 1, 3814, 1), (7566, 1, 35384, 1), (7681, 75, -1, 2), (7835, 1, -59, 1), (7841, 48, -1, 2), (7936, 8, 8, 1),
  (7952, 6, 8, 1), (7968, 8, 8, 1), (7984, 8, 8, 1), (8000, 6, 8, 1), (8017, 4, 8, 2), (8032, 8, 8, 1),
  (8048, 2, 74, 1), (8050, 4, 86, 1), (8054, 2, 100, 1), (8056, 2, 128, 1), (8058, 2, 112, 1), (8060, 2, 126, 1),
  (8064, 8, 8, 1), (8080, 8, 8, 1), (8096, 8, 8, 1), (8112, 2, 8, 1), (8115, 1, 9, 1), (8126, 1, -7205, 1),
  (8131, 1, 9, 1), (8144, 2, 8, 1), (8160, 2, 8, 1), (8165, 1, 7, 1), (8179, 1, 9, 1), (8526, 1, -28, 1),
  (8560, 16, -16, 1), (8580, 1, -1, 1), (9424, 26, -26, 1), (11312, 48, -48, 1), (11361, 1, -1, 1), (11365, 1, -10795, 1),
  (11366, 1, -10792, 1), (11368, 3, -1, 2), (11379, 1, -1, 1), (11382, 1, -1, 1), (11393, 50, -1, 2), (11500, 2, -1, 2),
  (11507, 1, -1, 1), (11520, 38, -7264, 1), (11559, 1, -7264, 1), (11565, 1, -7264, 1), (42561, 23, -1, 2), (42625, 14, -1, 2),
  (42787, 7, -1, 2), (42803, 31, -1, 2), (42874, 2, -1, 2), (42879, 5, -1, 2), (42892, 1, -1, 1), (42897, 2, -1, 2),
  (42900, 1, 48, 1), (42903, 10, -1, 2), (42933, 8, -1, 2), (42952, 2, -1, 2), (42961, 1, -1, 1), (42967, 2, -1, 2),
  (42998, 1, -1, 1), (43859, 1, -928, 1), (43888, 80, -38864, 1), (65345, 26, -32, 1), (66600, 40, -40, 1), (66776, 36, -40, 1),
  (66967, 11, -39, 1), (66979, 15, -39, 1), (66995, 7, -39, 1), (67003, 2, -39, 1), (68800, 51, -64, 1), (71872, 32, -32, 1),
  (93792, 32, -32, 1), (125218, 34, -34, 1)
]

/-- Applies the run table `runs` to the code point `c`. -/
def applyRuns (runs : Array (Nat × Nat × Int × Nat)) (c : Nat) : Nat :=
  match lastAtMost runs (fun r ↦ r.1) c with
  | some (first, count, shift, stride) =>
    if c < first + count * stride ∧ (c - first) % stride = 0 then
      (Int.ofNat c + shift).toNat
    else c
  | none => c

/-- The simple lowercase of a character by version 15 of the character database, which the
run tables record. -/
def lowerSimple15 (c : Char) : Char :=
  Char.ofNat (applyRuns lowerRuns c.toNat)

/-- The simple uppercase of a character by version 15 of the character database. -/
def upperSimple15 (c : Char) : Char :=
  Char.ofNat (applyRuns upperRuns c.toNat)

/-- The case pairs that versions 16 and 17 of the character database add to version 15, each
capital with its small letter: in 16 a Cyrillic letter, five Latin letters and the Garay
alphabet, in 17 three more Latin letters and the Beria Erfe alphabet. -/
def pairsAddedSince15 : List (Nat × Nat) :=
  [(0x1C89, 0x1C8A), (0xA7CB, 0x0264), (0xA7CC, 0xA7CD), (0xA7DA, 0xA7DB), (0xA7DC, 0x019B),
    (0xA7CE, 0xA7CF), (0xA7D2, 0xA7D3), (0xA7D4, 0xA7D5)] ++
    (List.range 22).map (fun k ↦ (0x10D50 + k, 0x10D70 + k)) ++
    (List.range 25).map fun k ↦ (0x16EA0 + k, 0x16EBB + k)

/-- The simple lowercase of a character by version 17 of the character database. -/
def lowerSimple (c : Char) : Char :=
  match pairsAddedSince15.find? (·.1 = c.toNat) with
  | some (_, small) => Char.ofNat small
  | none => lowerSimple15 c

/-- The simple uppercase of a character by version 17 of the character database. -/
def upperSimple (c : Char) : Char :=
  match pairsAddedSince15.find? (·.2 = c.toNat) with
  | some (capital, _) => Char.ofNat capital
  | none => upperSimple15 c

end LuaDebugger.Text
