import SceneCatalog.Text.Ranges

/-
This file lists the letters beyond ASCII that have two cases, after Unicode 17.
-/

namespace SceneCatalog.Text

/-- The letters with a lower case of one character, and the distance to it. -/
def loweredRuns : List Run :=
  [⟨192, 214, 1, 32⟩, ⟨216, 222, 1, 32⟩, ⟨256, 302, 2, 1⟩, ⟨306, 310, 2, 1⟩, ⟨313, 327, 2, 1⟩,
   ⟨330, 374, 2, 1⟩, ⟨376, 376, 0, -121⟩, ⟨377, 381, 2, 1⟩, ⟨385, 385, 0, 210⟩, ⟨386, 388, 2, 1⟩,
   ⟨390, 390, 0, 206⟩, ⟨391, 391, 0, 1⟩, ⟨393, 394, 1, 205⟩, ⟨395, 395, 0, 1⟩, ⟨398, 398, 0, 79⟩,
   ⟨399, 399, 0, 202⟩, ⟨400, 400, 0, 203⟩, ⟨401, 401, 0, 1⟩, ⟨403, 403, 0, 205⟩, ⟨404, 404, 0, 207⟩,
   ⟨406, 406, 0, 211⟩, ⟨407, 407, 0, 209⟩, ⟨408, 408, 0, 1⟩, ⟨412, 412, 0, 211⟩, ⟨413, 413, 0, 213⟩,
   ⟨415, 415, 0, 214⟩, ⟨416, 420, 2, 1⟩, ⟨422, 422, 0, 218⟩, ⟨423, 423, 0, 1⟩, ⟨425, 425, 0, 218⟩,
   ⟨428, 428, 0, 1⟩, ⟨430, 430, 0, 218⟩, ⟨431, 431, 0, 1⟩, ⟨433, 434, 1, 217⟩, ⟨435, 437, 2, 1⟩,
   ⟨439, 439, 0, 219⟩, ⟨440, 440, 0, 1⟩, ⟨444, 444, 0, 1⟩, ⟨452, 452, 0, 2⟩, ⟨453, 453, 0, 1⟩,
   ⟨455, 455, 0, 2⟩, ⟨456, 456, 0, 1⟩, ⟨458, 458, 0, 2⟩, ⟨459, 475, 2, 1⟩, ⟨478, 494, 2, 1⟩,
   ⟨497, 497, 0, 2⟩, ⟨498, 500, 2, 1⟩, ⟨502, 502, 0, -97⟩, ⟨503, 503, 0, -56⟩, ⟨504, 542, 2, 1⟩,
   ⟨544, 544, 0, -130⟩, ⟨546, 562, 2, 1⟩, ⟨570, 570, 0, 10795⟩, ⟨571, 571, 0, 1⟩,
   ⟨573, 573, 0, -163⟩, ⟨574, 574, 0, 10792⟩, ⟨577, 577, 0, 1⟩, ⟨579, 579, 0, -195⟩,
   ⟨580, 580, 0, 69⟩, ⟨581, 581, 0, 71⟩, ⟨582, 590, 2, 1⟩, ⟨880, 882, 2, 1⟩, ⟨886, 886, 0, 1⟩,
   ⟨895, 895, 0, 116⟩, ⟨902, 902, 0, 38⟩, ⟨904, 906, 1, 37⟩, ⟨908, 908, 0, 64⟩, ⟨910, 911, 1, 63⟩,
   ⟨913, 929, 1, 32⟩, ⟨931, 939, 1, 32⟩, ⟨975, 975, 0, 8⟩, ⟨984, 1006, 2, 1⟩, ⟨1012, 1012, 0, -60⟩,
   ⟨1015, 1015, 0, 1⟩, ⟨1017, 1017, 0, -7⟩, ⟨1018, 1018, 0, 1⟩, ⟨1021, 1023, 1, -130⟩,
   ⟨1024, 1039, 1, 80⟩, ⟨1040, 1071, 1, 32⟩, ⟨1120, 1152, 2, 1⟩, ⟨1162, 1214, 2, 1⟩,
   ⟨1216, 1216, 0, 15⟩, ⟨1217, 1229, 2, 1⟩, ⟨1232, 1326, 2, 1⟩, ⟨1329, 1366, 1, 48⟩,
   ⟨4256, 4293, 1, 7264⟩, ⟨4295, 4295, 0, 7264⟩, ⟨4301, 4301, 0, 7264⟩, ⟨5024, 5103, 1, 38864⟩,
   ⟨5104, 5109, 1, 8⟩, ⟨7305, 7305, 0, 1⟩, ⟨7312, 7354, 1, -3008⟩, ⟨7357, 7359, 1, -3008⟩,
   ⟨7680, 7828, 2, 1⟩, ⟨7838, 7838, 0, -7615⟩, ⟨7840, 7934, 2, 1⟩, ⟨7944, 7951, 1, -8⟩,
   ⟨7960, 7965, 1, -8⟩, ⟨7976, 7983, 1, -8⟩, ⟨7992, 7999, 1, -8⟩, ⟨8008, 8013, 1, -8⟩,
   ⟨8025, 8031, 2, -8⟩, ⟨8040, 8047, 1, -8⟩, ⟨8072, 8079, 1, -8⟩, ⟨8088, 8095, 1, -8⟩,
   ⟨8104, 8111, 1, -8⟩, ⟨8120, 8121, 1, -8⟩, ⟨8122, 8123, 1, -74⟩, ⟨8124, 8124, 0, -9⟩,
   ⟨8136, 8139, 1, -86⟩, ⟨8140, 8140, 0, -9⟩, ⟨8152, 8153, 1, -8⟩, ⟨8154, 8155, 1, -100⟩,
   ⟨8168, 8169, 1, -8⟩, ⟨8170, 8171, 1, -112⟩, ⟨8172, 8172, 0, -7⟩, ⟨8184, 8185, 1, -128⟩,
   ⟨8186, 8187, 1, -126⟩, ⟨8188, 8188, 0, -9⟩, ⟨8486, 8486, 0, -7517⟩, ⟨8490, 8490, 0, -8383⟩,
   ⟨8491, 8491, 0, -8262⟩, ⟨8498, 8498, 0, 28⟩, ⟨8544, 8559, 1, 16⟩, ⟨8579, 8579, 0, 1⟩,
   ⟨9398, 9423, 1, 26⟩, ⟨11264, 11311, 1, 48⟩, ⟨11360, 11360, 0, 1⟩, ⟨11362, 11362, 0, -10743⟩,
   ⟨11363, 11363, 0, -3814⟩, ⟨11364, 11364, 0, -10727⟩, ⟨11367, 11371, 2, 1⟩,
   ⟨11373, 11373, 0, -10780⟩, ⟨11374, 11374, 0, -10749⟩, ⟨11375, 11375, 0, -10783⟩,
   ⟨11376, 11376, 0, -10782⟩, ⟨11378, 11378, 0, 1⟩, ⟨11381, 11381, 0, 1⟩, ⟨11390, 11391, 1, -10815⟩,
   ⟨11392, 11490, 2, 1⟩, ⟨11499, 11501, 2, 1⟩, ⟨11506, 11506, 0, 1⟩, ⟨42560, 42604, 2, 1⟩,
   ⟨42624, 42650, 2, 1⟩, ⟨42786, 42798, 2, 1⟩, ⟨42802, 42862, 2, 1⟩, ⟨42873, 42875, 2, 1⟩,
   ⟨42877, 42877, 0, -35332⟩, ⟨42878, 42886, 2, 1⟩, ⟨42891, 42891, 0, 1⟩, ⟨42893, 42893, 0, -42280⟩,
   ⟨42896, 42898, 2, 1⟩, ⟨42902, 42920, 2, 1⟩, ⟨42922, 42922, 0, -42308⟩, ⟨42923, 42923, 0, -42319⟩,
   ⟨42924, 42924, 0, -42315⟩, ⟨42925, 42925, 0, -42305⟩, ⟨42926, 42926, 0, -42308⟩,
   ⟨42928, 42928, 0, -42258⟩, ⟨42929, 42929, 0, -42282⟩, ⟨42930, 42930, 0, -42261⟩,
   ⟨42931, 42931, 0, 928⟩, ⟨42932, 42946, 2, 1⟩, ⟨42948, 42948, 0, -48⟩, ⟨42949, 42949, 0, -42307⟩,
   ⟨42950, 42950, 0, -35384⟩, ⟨42951, 42953, 2, 1⟩, ⟨42955, 42955, 0, -42343⟩, ⟨42956, 42970, 2, 1⟩,
   ⟨42972, 42972, 0, -42561⟩, ⟨42997, 42997, 0, 1⟩, ⟨65313, 65338, 1, 32⟩, ⟨66560, 66599, 1, 40⟩,
   ⟨66736, 66771, 1, 40⟩, ⟨66928, 66938, 1, 39⟩, ⟨66940, 66954, 1, 39⟩, ⟨66956, 66962, 1, 39⟩,
   ⟨66964, 66965, 1, 39⟩, ⟨68736, 68786, 1, 64⟩, ⟨68944, 68965, 1, 32⟩, ⟨71840, 71871, 1, 32⟩,
   ⟨93760, 93791, 1, 32⟩, ⟨93856, 93880, 1, 27⟩, ⟨125184, 125217, 1, 34⟩]

/-- The lower-case letters that have an upper case. -/
def smallRuns : List Run :=
  [⟨181, 181, 0, 0⟩, ⟨223, 246, 1, 0⟩, ⟨248, 255, 1, 0⟩, ⟨257, 311, 2, 0⟩, ⟨314, 328, 2, 0⟩,
   ⟨329, 375, 2, 0⟩, ⟨378, 382, 2, 0⟩, ⟨383, 384, 1, 0⟩, ⟨387, 389, 2, 0⟩, ⟨392, 392, 0, 0⟩,
   ⟨396, 396, 0, 0⟩, ⟨402, 402, 0, 0⟩, ⟨405, 405, 0, 0⟩, ⟨409, 411, 1, 0⟩, ⟨414, 414, 0, 0⟩,
   ⟨417, 421, 2, 0⟩, ⟨424, 424, 0, 0⟩, ⟨429, 429, 0, 0⟩, ⟨432, 432, 0, 0⟩, ⟨436, 438, 2, 0⟩,
   ⟨441, 441, 0, 0⟩, ⟨445, 447, 2, 0⟩, ⟨454, 454, 0, 0⟩, ⟨457, 457, 0, 0⟩, ⟨460, 476, 2, 0⟩,
   ⟨477, 495, 2, 0⟩, ⟨496, 496, 0, 0⟩, ⟨499, 501, 2, 0⟩, ⟨505, 543, 2, 0⟩, ⟨547, 563, 2, 0⟩,
   ⟨572, 572, 0, 0⟩, ⟨575, 576, 1, 0⟩, ⟨578, 578, 0, 0⟩, ⟨583, 591, 2, 0⟩, ⟨592, 596, 1, 0⟩,
   ⟨598, 599, 1, 0⟩, ⟨601, 603, 2, 0⟩, ⟨604, 604, 0, 0⟩, ⟨608, 609, 1, 0⟩, ⟨611, 614, 1, 0⟩,
   ⟨616, 620, 1, 0⟩, ⟨623, 625, 2, 0⟩, ⟨626, 626, 0, 0⟩, ⟨629, 629, 0, 0⟩, ⟨637, 637, 0, 0⟩,
   ⟨640, 642, 2, 0⟩, ⟨643, 643, 0, 0⟩, ⟨647, 652, 1, 0⟩, ⟨658, 658, 0, 0⟩, ⟨669, 670, 1, 0⟩,
   ⟨837, 837, 0, 0⟩, ⟨881, 883, 2, 0⟩, ⟨887, 887, 0, 0⟩, ⟨891, 893, 1, 0⟩, ⟨912, 912, 0, 0⟩,
   ⟨940, 974, 1, 0⟩, ⟨976, 977, 1, 0⟩, ⟨981, 983, 1, 0⟩, ⟨985, 1007, 2, 0⟩, ⟨1008, 1011, 1, 0⟩,
   ⟨1013, 1013, 0, 0⟩, ⟨1016, 1016, 0, 0⟩, ⟨1019, 1019, 0, 0⟩, ⟨1072, 1119, 1, 0⟩,
   ⟨1121, 1153, 2, 0⟩, ⟨1163, 1215, 2, 0⟩, ⟨1218, 1230, 2, 0⟩, ⟨1231, 1327, 2, 0⟩,
   ⟨1377, 1415, 1, 0⟩, ⟨4304, 4346, 1, 0⟩, ⟨4349, 4351, 1, 0⟩, ⟨5112, 5117, 1, 0⟩,
   ⟨7296, 7304, 1, 0⟩, ⟨7306, 7306, 0, 0⟩, ⟨7545, 7545, 0, 0⟩, ⟨7549, 7549, 0, 0⟩,
   ⟨7566, 7566, 0, 0⟩, ⟨7681, 7829, 2, 0⟩, ⟨7830, 7835, 1, 0⟩, ⟨7841, 7935, 2, 0⟩,
   ⟨7936, 7943, 1, 0⟩, ⟨7952, 7957, 1, 0⟩, ⟨7968, 7975, 1, 0⟩, ⟨7984, 7991, 1, 0⟩,
   ⟨8000, 8005, 1, 0⟩, ⟨8016, 8023, 1, 0⟩, ⟨8032, 8039, 1, 0⟩, ⟨8048, 8061, 1, 0⟩,
   ⟨8064, 8071, 1, 0⟩, ⟨8080, 8087, 1, 0⟩, ⟨8096, 8103, 1, 0⟩, ⟨8112, 8116, 1, 0⟩,
   ⟨8118, 8119, 1, 0⟩, ⟨8126, 8126, 0, 0⟩, ⟨8130, 8132, 1, 0⟩, ⟨8134, 8135, 1, 0⟩,
   ⟨8144, 8147, 1, 0⟩, ⟨8150, 8151, 1, 0⟩, ⟨8160, 8167, 1, 0⟩, ⟨8178, 8180, 1, 0⟩,
   ⟨8182, 8183, 1, 0⟩, ⟨8526, 8526, 0, 0⟩, ⟨8560, 8575, 1, 0⟩, ⟨8580, 8580, 0, 0⟩,
   ⟨9424, 9449, 1, 0⟩, ⟨11312, 11359, 1, 0⟩, ⟨11361, 11361, 0, 0⟩, ⟨11365, 11366, 1, 0⟩,
   ⟨11368, 11372, 2, 0⟩, ⟨11379, 11379, 0, 0⟩, ⟨11382, 11382, 0, 0⟩, ⟨11393, 11491, 2, 0⟩,
   ⟨11500, 11502, 2, 0⟩, ⟨11507, 11507, 0, 0⟩, ⟨11520, 11557, 1, 0⟩, ⟨11559, 11559, 0, 0⟩,
   ⟨11565, 11565, 0, 0⟩, ⟨42561, 42605, 2, 0⟩, ⟨42625, 42651, 2, 0⟩, ⟨42787, 42799, 2, 0⟩,
   ⟨42803, 42863, 2, 0⟩, ⟨42874, 42876, 2, 0⟩, ⟨42879, 42887, 2, 0⟩, ⟨42892, 42892, 0, 0⟩,
   ⟨42897, 42899, 2, 0⟩, ⟨42900, 42900, 0, 0⟩, ⟨42903, 42921, 2, 0⟩, ⟨42933, 42947, 2, 0⟩,
   ⟨42952, 42954, 2, 0⟩, ⟨42957, 42971, 2, 0⟩, ⟨42998, 42998, 0, 0⟩, ⟨43859, 43859, 0, 0⟩,
   ⟨43888, 43967, 1, 0⟩, ⟨64256, 64262, 1, 0⟩, ⟨64275, 64279, 1, 0⟩, ⟨65345, 65370, 1, 0⟩,
   ⟨66600, 66639, 1, 0⟩, ⟨66776, 66811, 1, 0⟩, ⟨66967, 66977, 1, 0⟩, ⟨66979, 66993, 1, 0⟩,
   ⟨66995, 67001, 1, 0⟩, ⟨67003, 67004, 1, 0⟩, ⟨68800, 68850, 1, 0⟩, ⟨68976, 68997, 1, 0⟩,
   ⟨71872, 71903, 1, 0⟩, ⟨93792, 93823, 1, 0⟩, ⟨93883, 93907, 1, 0⟩, ⟨125218, 125251, 1, 0⟩]

/-- The letters that have both a lower and an upper case other than themselves. -/
def titleRanges : List Nat :=
  [453, 454, 456, 457, 459, 460, 498, 499, 8072, 8080, 8088, 8096, 8104, 8112, 8124, 8125, 8140,
   8141, 8188, 8189]

end SceneCatalog.Text
