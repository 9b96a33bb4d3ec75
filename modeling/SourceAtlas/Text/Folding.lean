import SourceAtlas.Text.Case

/-! Characters that differ only in case, for searches that do not tell case apart. -/

namespace SourceAtlas

/-- The code points at which characters that have another case begin and end. -/
def twoCaseBounds : Array Nat :=
  #[
    65, 91, 97, 123, 181, 182, 192, 215, 216, 247, 248, 312, 313, 397, 398, 411, 412, 426, 428,
    442, 444, 446, 447, 448, 452, 545, 546, 564, 570, 597, 598, 600, 601, 602, 603, 605, 608,
    610, 611, 612, 613, 615, 616, 621, 623, 624, 625, 627, 629, 630, 637, 638, 640, 641, 642,
    644, 647, 653, 658, 659, 669, 671, 837, 838, 880, 884, 886, 888, 891, 894, 895, 896, 902,
    903, 904, 907, 908, 909, 910, 930, 931, 978, 981, 1014, 1015, 1020, 1021, 1154, 1162, 1328,
    1329, 1367, 1377, 1416, 4256, 4294, 4295, 4296, 4301, 4302, 4304, 4347, 4349, 4352, 5024,
    5110, 5112, 5118, 7296, 7305, 7312, 7355, 7357, 7360, 7545, 7546, 7549, 7550, 7566, 7567,
    7680, 7836, 7838, 7839, 7840, 7958, 7960, 7966, 7968, 8006, 8008, 8014, 8016, 8024, 8025,
    8026, 8027, 8028, 8029, 8030, 8031, 8062, 8064, 8117, 8118, 8125, 8126, 8127, 8130, 8133,
    8134, 8141, 8144, 8148, 8150, 8156, 8160, 8173, 8178, 8181, 8182, 8189, 8486, 8487, 8490,
    8492, 8498, 8499, 8526, 8527, 8544, 8576, 8579, 8581, 9398, 9450, 11264, 11377, 11378,
    11380, 11381, 11383, 11390, 11492, 11499, 11503, 11506, 11508, 11520, 11558, 11559, 11560,
    11565, 11566, 42560, 42606, 42624, 42652, 42786, 42800, 42802, 42864, 42873, 42888, 42891,
    42894, 42896, 42901, 42902, 42927, 42928, 42955, 42960, 42962, 42966, 42970, 42997, 42999,
    43859, 43860, 43888, 43968, 64256, 64263, 64275, 64280, 65313, 65339, 65345, 65371, 66560,
    66640, 66736, 66772, 66776, 66812, 66928, 66939, 66940, 66955, 66956, 66963, 66964, 66966,
    66967, 66978, 66979, 66994, 66995, 67002, 67003, 67005, 68736, 68787, 68800, 68851, 71840,
    71904, 93760, 93824, 125184, 125252]

/-- Whether a character has another case. -/
def hasOtherCase (code : Nat) : Bool :=
  inBounds twoCaseBounds code

/-- Lower case characters that share one capital, each with the others. -/
def caseFamilies : List (List Nat) :=
  [
    [105, 305], [115, 383], [181, 956], [837, 953, 8126], [912, 8147], [944, 8163], [946, 976],
    [949, 1013], [952, 977], [954, 1008], [960, 982], [961, 1009], [962, 963], [966, 981],
    [1074, 7296], [1076, 7297], [1086, 7298], [1089, 7299], [1090, 7300, 7301], [1098, 7302],
    [1123, 7303], [7304, 42571], [7777, 7835], [64261, 64262]]

/-- The other lower case characters that share the capital of one. -/
def caseRelatives (code : Nat) : List Nat :=
  -- No character belongs to two families.
  match caseFamilies.find? (·.contains code) with
  | some family => family.filter (· != code)
  | none => []

/-- The simple lower case of a code point. -/
def lowerCode (code : Nat) : Nat :=
  -- Code points that are no characters have no case.
  if code < 0x110000 && !(0xD800 ≤ code && code < 0xE000) then
    (lowerChar (Char.ofNat code)).toNat
  else code

/-- The code points whose lower case is a given one. -/
def lowerSources (code : Nat) : List Nat :=
  -- The capitals of ASCII are in no run.
  let capitals := if 97 ≤ code && code ≤ 122 then [code - 32] else []
  let shifted := lowerRuns.toList.filterMap fun run =>
    let source := ((code : Int) - run.shift).toNat
    if run.first ≤ source && source ≤ run.last && (source - run.first) % run.step == 0 then
      some source
    else none
  -- A character that is its own lower case comes first.
  if lowerCode code == code then code :: capitals ++ shifted else capitals ++ shifted

end SourceAtlas
