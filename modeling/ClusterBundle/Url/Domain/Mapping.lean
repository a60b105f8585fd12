import ClusterBundle.Text.Unicode

/-!
How characters are mapped before they are used in domain names: letters to lower case, forms of a
character to the character, and some to nothing.

Mappings to one character are kept as runs, which are arithmetic progressions on both sides;
mappings that canonical composition makes anyway are left out. A long table is put together from
numbered or lettered pieces.
-/

namespace ClusterBundle.Url.Domain

def mappingRuns1 : List (Nat × Nat × Nat × Nat × Nat) :=
  [(65, 26, 1, 97, 1), (160, 1, 1, 32, 0), (170, 1, 1, 97, 0), (178, 2, 1, 50, 1),
   (181, 1, 1, 956, 0), (185, 1, 1, 49, 0), (186, 1, 1, 111, 0), (192, 23, 1, 224, 1),
   (216, 7, 1, 248, 1), (256, 24, 2, 257, 2), (308, 2, 2, 309, 2), (313, 3, 2, 314, 2),
   (321, 4, 2, 322, 2), (330, 23, 2, 331, 2), (376, 1, 1, 255, 0), (377, 3, 2, 378, 2),
   (383, 1, 1, 115, 0), (385, 1, 1, 595, 0), (386, 2, 2, 387, 2), (390, 1, 1, 596, 0),
   (391, 1, 1, 392, 0), (393, 2, 1, 598, 1), (395, 1, 1, 396, 0), (398, 1, 1, 477, 0),
   (399, 2, 1, 601, 2), (401, 1, 1, 402, 0), (403, 1, 1, 608, 0), (404, 1, 1, 611, 0),
   (406, 1, 1, 617, 0), (407, 1, 1, 616, 0), (408, 1, 1, 409, 0), (412, 1, 1, 623, 0),
   (413, 1, 1, 626, 0), (415, 1, 1, 629, 0), (416, 3, 2, 417, 2), (422, 1, 1, 640, 0),
   (423, 1, 1, 424, 0), (425, 1, 1, 643, 0), (428, 1, 1, 429, 0), (430, 1, 1, 648, 0),
   (431, 1, 1, 432, 0), (433, 2, 1, 650, 1), (435, 2, 2, 436, 2), (439, 1, 1, 658, 0),
   (440, 1, 1, 441, 0), (444, 1, 1, 445, 0), (461, 8, 2, 462, 2), (478, 9, 2, 479, 2),
   (500, 1, 1, 501, 0), (502, 1, 1, 405, 0), (503, 1, 1, 447, 0), (504, 20, 2, 505, 2),
   (544, 1, 1, 414, 0), (546, 9, 2, 547, 2), (570, 1, 1, 11365, 0), (571, 1, 1, 572, 0),
   (573, 1, 1, 410, 0), (574, 1, 1, 11366, 0), (577, 1, 1, 578, 0), (579, 1, 1, 384, 0),
   (580, 1, 1, 649, 0), (581, 1, 1, 652, 0), (582, 5, 2, 583, 2), (688, 1, 1, 104, 0),
   (689, 1, 1, 614, 0), (690, 1, 1, 106, 0), (691, 1, 1, 114, 0), (692, 2, 1, 633, 2),
   (694, 1, 1, 641, 0), (695, 2, 1, 119, 2), (736, 1, 1, 611, 0), (737, 1, 1, 108, 0),
   (738, 1, 1, 115, 0), (739, 1, 1, 120, 0), (740, 1, 1, 661, 0), (837, 1, 1, 953, 0),
   (880, 2, 2, 881, 2), (886, 1, 1, 887, 0), (895, 1, 1, 1011, 0), (902, 2, 2, 940, 1),
   (905, 2, 1, 942, 1), (908, 2, 2, 972, 1), (911, 1, 1, 974, 0), (913, 17, 1, 945, 1),
   (931, 9, 1, 963, 1), (975, 1, 1, 983, 0), (976, 1, 1, 946, 0), (977, 1, 1, 952, 0),
   (978, 1, 1, 965, 0), (979, 1, 1, 973, 0), (980, 1, 1, 971, 0), (981, 1, 1, 966, 0),
   (982, 1, 1, 960, 0), (984, 12, 2, 985, 2), (1008, 1, 1, 954, 0), (1009, 2, 1, 961, 2),
   (1012, 1, 1, 952, 0), (1013, 1, 1, 949, 0), (1015, 1, 1, 1016, 0), (1017, 1, 1, 963, 0),
   (1018, 1, 1, 1019, 0), (1021, 3, 1, 891, 1), (1024, 16, 1, 1104, 1), (1040, 32, 1, 1072, 1),
   (1120, 17, 2, 1121, 2), (1162, 27, 2, 1163, 2), (1216, 1, 1, 1231, 0), (1217, 7, 2, 1218, 2),
   (1232, 48, 2, 1233, 2), (1329, 38, 1, 1377, 1), (3852, 1, 1, 3851, 0),
   (4256, 38, 1, 11520, 1), (4295, 1, 1, 11559, 0), (4301, 1, 1, 11565, 0),
   (4348, 1, 1, 4316, 0), (5112, 6, 1, 5104, 1), (7296, 2, 1, 1074, 2), (7298, 1, 1, 1086, 0),
   (7299, 2, 1, 1089, 1), (7301, 1, 1, 1090, 0), (7302, 1, 1, 1098, 0), (7303, 1, 1, 1123, 0),
   (7304, 1, 1, 42571, 0), (7305, 1, 1, 7306, 0), (7312, 43, 1, 4304, 1), (7357, 3, 1, 4349, 1),
   (7468, 1, 1, 97, 0), (7469, 1, 1, 230, 0), (7470, 2, 2, 98, 2), (7473, 1, 1, 101, 0),
   (7474, 1, 1, 477, 0), (7475, 8, 1, 103, 1), (7484, 1, 1, 111, 0), (7485, 1, 1, 547, 0),
   (7486, 3, 1, 112, 2), (7489, 2, 1, 117, 2), (7491, 1, 1, 97, 0), (7492, 2, 1, 592, 1),
   (7494, 1, 1, 7426, 0), (7495, 2, 1, 98, 2), (7497, 1, 1, 101, 0), (7498, 2, 1, 601, 2),
   (7500, 1, 1, 604, 0), (7501, 1, 1, 103, 0), (7503, 2, 1, 107, 2), (7505, 1, 1, 331, 0),
   (7506, 1, 1, 111, 0), (7507, 1, 1, 596, 0), (7508, 2, 1, 7446, 1), (7510, 1, 1, 112, 0)]

def mappingRuns2 : List (Nat × Nat × Nat × Nat × Nat) :=
  [(7511, 2, 1, 116, 1), (7513, 1, 1, 7453, 0), (7514, 1, 1, 623, 0), (7515, 1, 1, 118, 0),
   (7516, 1, 1, 7461, 0), (7517, 3, 1, 946, 1), (7520, 2, 1, 966, 1), (7522, 1, 1, 105, 0),
   (7523, 1, 1, 114, 0), (7524, 2, 1, 117, 1), (7526, 2, 1, 946, 1), (7528, 1, 1, 961, 0),
   (7529, 2, 1, 966, 1), (7544, 1, 1, 1085, 0), (7579, 1, 1, 594, 0), (7580, 1, 1, 99, 0),
   (7581, 1, 1, 597, 0), (7582, 1, 1, 240, 0), (7583, 1, 1, 604, 0), (7584, 1, 1, 102, 0),
   (7585, 2, 1, 607, 2), (7587, 1, 1, 613, 0), (7588, 3, 1, 616, 1), (7591, 1, 1, 7547, 0),
   (7592, 1, 1, 669, 0), (7593, 1, 1, 621, 0), (7594, 1, 1, 7557, 0), (7595, 1, 1, 671, 0),
   (7596, 1, 1, 625, 0), (7597, 2, 1, 624, 2), (7599, 3, 1, 627, 1), (7602, 1, 1, 632, 0),
   (7603, 2, 1, 642, 1), (7605, 1, 1, 427, 0), (7606, 2, 1, 649, 1), (7608, 1, 1, 7452, 0),
   (7609, 2, 1, 651, 1), (7611, 1, 1, 122, 0), (7612, 3, 1, 656, 1), (7615, 1, 1, 952, 0),
   (7680, 75, 2, 7681, 2), (7835, 1, 1, 7777, 0), (7838, 1, 1, 223, 0), (7840, 48, 2, 7841, 2),
   (7944, 8, 1, 7936, 1), (7960, 6, 1, 7952, 1), (7976, 8, 1, 7968, 1), (7992, 8, 1, 7984, 1),
   (8008, 6, 1, 8000, 1), (8025, 4, 2, 8017, 2), (8040, 8, 1, 8032, 1), (8120, 2, 1, 8112, 1),
   (8122, 1, 1, 8048, 0), (8123, 1, 1, 940, 0), (8136, 1, 1, 8050, 0), (8137, 1, 1, 941, 0),
   (8138, 1, 1, 8052, 0), (8139, 1, 1, 942, 0), (8152, 2, 1, 8144, 1), (8154, 1, 1, 8054, 0),
   (8155, 1, 1, 943, 0), (8168, 2, 1, 8160, 1), (8170, 1, 1, 8058, 0), (8171, 1, 1, 973, 0),
   (8172, 1, 1, 8165, 0), (8184, 1, 1, 8056, 0), (8185, 1, 1, 972, 0), (8186, 1, 1, 8060, 0),
   (8187, 1, 1, 974, 0), (8192, 11, 1, 32, 0), (8209, 1, 1, 8208, 0), (8239, 1, 1, 32, 0),
   (8287, 1, 1, 32, 0), (8304, 1, 1, 48, 0), (8305, 1, 1, 105, 0), (8308, 6, 1, 52, 1),
   (8314, 1, 1, 43, 0), (8315, 1, 1, 8722, 0), (8316, 1, 1, 61, 0), (8317, 2, 1, 40, 1),
   (8319, 1, 1, 110, 0), (8320, 10, 1, 48, 1), (8330, 1, 1, 43, 0), (8331, 1, 1, 8722, 0),
   (8332, 1, 1, 61, 0), (8333, 2, 1, 40, 1), (8336, 1, 1, 97, 0), (8337, 1, 1, 101, 0),
   (8338, 1, 1, 111, 0), (8339, 1, 1, 120, 0), (8340, 1, 1, 601, 0), (8341, 1, 1, 104, 0),
   (8342, 4, 1, 107, 1), (8346, 1, 1, 112, 0), (8347, 2, 1, 115, 1), (8450, 1, 1, 99, 0),
   (8455, 1, 1, 603, 0), (8458, 2, 1, 103, 1), (8460, 3, 1, 104, 0), (8463, 1, 1, 295, 0),
   (8464, 2, 1, 105, 0), (8466, 2, 1, 108, 0), (8469, 1, 1, 110, 0), (8473, 3, 1, 112, 1),
   (8476, 2, 1, 114, 0), (8484, 1, 1, 122, 0), (8486, 1, 1, 969, 0), (8488, 1, 1, 122, 0),
   (8490, 1, 1, 107, 0), (8491, 1, 1, 229, 0), (8492, 2, 1, 98, 1), (8495, 2, 1, 101, 0),
   (8497, 1, 1, 102, 0), (8498, 1, 1, 8526, 0), (8499, 2, 1, 109, 2), (8501, 4, 1, 1488, 1),
   (8505, 1, 1, 105, 0), (8508, 1, 1, 960, 0), (8509, 2, 1, 947, 0), (8511, 1, 1, 960, 0),
   (8512, 1, 1, 8721, 0), (8517, 2, 1, 100, 0), (8519, 1, 1, 101, 0), (8520, 2, 1, 105, 1),
   (8544, 1, 1, 105, 0), (8548, 1, 1, 118, 0), (8553, 1, 1, 120, 0), (8556, 1, 1, 108, 0),
   (8557, 2, 1, 99, 1), (8559, 1, 1, 109, 0), (8560, 1, 1, 105, 0), (8564, 1, 1, 118, 0),
   (8569, 1, 1, 120, 0), (8572, 1, 1, 108, 0), (8573, 2, 1, 99, 1), (8575, 1, 1, 109, 0),
   (8579, 1, 1, 8580, 0), (9312, 9, 1, 49, 1), (9398, 26, 1, 97, 1), (9424, 26, 1, 97, 1),
   (9450, 1, 1, 48, 0), (11264, 48, 1, 11312, 1), (11360, 1, 1, 11361, 0), (11362, 1, 1, 619, 0),
   (11363, 1, 1, 7549, 0), (11364, 1, 1, 637, 0), (11367, 3, 2, 11368, 2), (11373, 1, 1, 593, 0),
   (11374, 1, 1, 625, 0), (11375, 2, 1, 592, 2)]

def mappingRuns3 : List (Nat × Nat × Nat × Nat × Nat) :=
  [(11378, 1, 1, 11379, 0), (11381, 1, 1, 11382, 0), (11388, 1, 1, 106, 0),
   (11389, 1, 1, 118, 0), (11390, 2, 1, 575, 1), (11392, 50, 2, 11393, 2),
   (11499, 2, 2, 11500, 2), (11506, 1, 1, 11507, 0), (11631, 1, 1, 11617, 0),
   (11935, 1, 1, 27597, 0), (12019, 1, 1, 40863, 0), (12032, 1, 1, 19968, 0),
   (12033, 1, 1, 20008, 0), (12034, 1, 1, 20022, 0), (12035, 1, 1, 20031, 0),
   (12036, 1, 1, 20057, 0), (12037, 1, 1, 20101, 0), (12038, 1, 1, 20108, 0),
   (12039, 1, 1, 20128, 0), (12040, 1, 1, 20154, 0), (12041, 1, 1, 20799, 0),
   (12042, 1, 1, 20837, 0), (12043, 1, 1, 20843, 0), (12044, 1, 1, 20866, 0),
   (12045, 1, 1, 20886, 0), (12046, 1, 1, 20907, 0), (12047, 1, 1, 20960, 0),
   (12048, 1, 1, 20981, 0), (12049, 1, 1, 20992, 0), (12050, 1, 1, 21147, 0),
   (12051, 1, 1, 21241, 0), (12052, 1, 1, 21269, 0), (12053, 1, 1, 21274, 0),
   (12054, 1, 1, 21304, 0), (12055, 1, 1, 21313, 0), (12056, 1, 1, 21340, 0),
   (12057, 1, 1, 21353, 0), (12058, 1, 1, 21378, 0), (12059, 1, 1, 21430, 0),
   (12060, 1, 1, 21448, 0), (12061, 1, 1, 21475, 0), (12062, 1, 1, 22231, 0),
   (12063, 1, 1, 22303, 0), (12064, 1, 1, 22763, 0), (12065, 1, 1, 22786, 0),
   (12066, 1, 1, 22794, 0), (12067, 1, 1, 22805, 0), (12068, 1, 1, 22823, 0),
   (12069, 1, 1, 22899, 0), (12070, 1, 1, 23376, 0), (12071, 1, 1, 23424, 0),
   (12072, 1, 1, 23544, 0), (12073, 1, 1, 23567, 0), (12074, 1, 1, 23586, 0),
   (12075, 1, 1, 23608, 0), (12076, 1, 1, 23662, 0), (12077, 1, 1, 23665, 0),
   (12078, 1, 1, 24027, 0), (12079, 1, 1, 24037, 0), (12080, 1, 1, 24049, 0),
   (12081, 1, 1, 24062, 0), (12082, 1, 1, 24178, 0), (12083, 1, 1, 24186, 0),
   (12084, 1, 1, 24191, 0), (12085, 1, 1, 24308, 0), (12086, 1, 1, 24318, 0),
   (12087, 1, 1, 24331, 0), (12088, 1, 1, 24339, 0), (12089, 1, 1, 24400, 0),
   (12090, 1, 1, 24417, 0), (12091, 1, 1, 24435, 0), (12092, 1, 1, 24515, 0),
   (12093, 1, 1, 25096, 0), (12094, 1, 1, 25142, 0), (12095, 1, 1, 25163, 0),
   (12096, 1, 1, 25903, 0), (12097, 1, 1, 25908, 0), (12098, 1, 1, 25991, 0),
   (12099, 1, 1, 26007, 0), (12100, 1, 1, 26020, 0), (12101, 1, 1, 26041, 0),
   (12102, 1, 1, 26080, 0), (12103, 1, 1, 26085, 0), (12104, 1, 1, 26352, 0),
   (12105, 1, 1, 26376, 0), (12106, 1, 1, 26408, 0), (12107, 1, 1, 27424, 0),
   (12108, 1, 1, 27490, 0), (12109, 1, 1, 27513, 0), (12110, 1, 1, 27571, 0),
   (12111, 1, 1, 27595, 0), (12112, 1, 1, 27604, 0), (12113, 1, 1, 27611, 0),
   (12114, 1, 1, 27663, 0), (12115, 1, 1, 27668, 0), (12116, 1, 1, 27700, 0),
   (12117, 1, 1, 28779, 0), (12118, 1, 1, 29226, 0), (12119, 1, 1, 29238, 0),
   (12120, 1, 1, 29243, 0), (12121, 1, 1, 29247, 0), (12122, 1, 1, 29255, 0),
   (12123, 2, 1, 29273, 2), (12125, 1, 1, 29356, 0), (12126, 1, 1, 29572, 0),
   (12127, 1, 1, 29577, 0), (12128, 1, 1, 29916, 0), (12129, 1, 1, 29926, 0),
   (12130, 1, 1, 29976, 0), (12131, 1, 1, 29983, 0), (12132, 1, 1, 29992, 0),
   (12133, 1, 1, 30000, 0), (12134, 1, 1, 30091, 0), (12135, 1, 1, 30098, 0),
   (12136, 1, 1, 30326, 0), (12137, 1, 1, 30333, 0), (12138, 1, 1, 30382, 0),
   (12139, 1, 1, 30399, 0), (12140, 1, 1, 30446, 0), (12141, 1, 1, 30683, 0),
   (12142, 1, 1, 30690, 0), (12143, 1, 1, 30707, 0), (12144, 1, 1, 31034, 0),
   (12145, 1, 1, 31160, 0), (12146, 1, 1, 31166, 0), (12147, 1, 1, 31348, 0),
   (12148, 1, 1, 31435, 0), (12149, 1, 1, 31481, 0), (12150, 1, 1, 31859, 0),
   (12151, 1, 1, 31992, 0), (12152, 1, 1, 32566, 0), (12153, 1, 1, 32593, 0),
   (12154, 1, 1, 32650, 0), (12155, 1, 1, 32701, 0), (12156, 1, 1, 32769, 0),
   (12157, 1, 1, 32780, 0), (12158, 1, 1, 32786, 0), (12159, 1, 1, 32819, 0),
   (12160, 1, 1, 32895, 0), (12161, 1, 1, 32905, 0), (12162, 1, 1, 33251, 0),
   (12163, 1, 1, 33258, 0), (12164, 1, 1, 33267, 0), (12165, 1, 1, 33276, 0),
   (12166, 1, 1, 33292, 0), (12167, 1, 1, 33307, 0), (12168, 1, 1, 33311, 0),
   (12169, 1, 1, 33390, 0), (12170, 1, 1, 33394, 0), (12171, 1, 1, 33400, 0)]

def mappingRuns4 : List (Nat × Nat × Nat × Nat × Nat) :=
  [(12172, 1, 1, 34381, 0), (12173, 1, 1, 34411, 0), (12174, 1, 1, 34880, 0),
   (12175, 1, 1, 34892, 0), (12176, 1, 1, 34915, 0), (12177, 1, 1, 35198, 0),
   (12178, 1, 1, 35211, 0), (12179, 1, 1, 35282, 0), (12180, 1, 1, 35328, 0),
   (12181, 1, 1, 35895, 0), (12182, 1, 1, 35910, 0), (12183, 1, 1, 35925, 0),
   (12184, 1, 1, 35960, 0), (12185, 1, 1, 35997, 0), (12186, 1, 1, 36196, 0),
   (12187, 1, 1, 36208, 0), (12188, 1, 1, 36275, 0), (12189, 1, 1, 36523, 0),
   (12190, 1, 1, 36554, 0), (12191, 1, 1, 36763, 0), (12192, 1, 1, 36784, 0),
   (12193, 1, 1, 36789, 0), (12194, 1, 1, 37009, 0), (12195, 1, 1, 37193, 0),
   (12196, 1, 1, 37318, 0), (12197, 1, 1, 37324, 0), (12198, 1, 1, 37329, 0),
   (12199, 1, 1, 38263, 0), (12200, 1, 1, 38272, 0), (12201, 1, 1, 38428, 0),
   (12202, 1, 1, 38582, 0), (12203, 1, 1, 38585, 0), (12204, 1, 1, 38632, 0),
   (12205, 1, 1, 38737, 0), (12206, 1, 1, 38750, 0), (12207, 1, 1, 38754, 0),
   (12208, 1, 1, 38761, 0), (12209, 1, 1, 38859, 0), (12210, 1, 1, 38893, 0),
   (12211, 1, 1, 38899, 0), (12212, 1, 1, 38913, 0), (12213, 1, 1, 39080, 0),
   (12214, 1, 1, 39131, 0), (12215, 1, 1, 39135, 0), (12216, 1, 1, 39318, 0),
   (12217, 1, 1, 39321, 0), (12218, 1, 1, 39340, 0), (12219, 1, 1, 39592, 0),
   (12220, 1, 1, 39640, 0), (12221, 1, 1, 39647, 0), (12222, 1, 1, 39717, 0),
   (12223, 1, 1, 39727, 0), (12224, 1, 1, 39730, 0), (12225, 1, 1, 39740, 0),
   (12226, 1, 1, 39770, 0), (12227, 1, 1, 40165, 0), (12228, 1, 1, 40565, 0),
   (12229, 1, 1, 40575, 0), (12230, 1, 1, 40613, 0), (12231, 1, 1, 40635, 0),
   (12232, 1, 1, 40643, 0), (12233, 1, 1, 40653, 0), (12234, 1, 1, 40657, 0),
   (12235, 1, 1, 40697, 0), (12236, 1, 1, 40701, 0), (12237, 1, 1, 40718, 0),
   (12238, 1, 1, 40723, 0), (12239, 1, 1, 40736, 0), (12240, 1, 1, 40763, 0),
   (12241, 1, 1, 40778, 0), (12242, 1, 1, 40786, 0), (12243, 1, 1, 40845, 0),
   (12244, 1, 1, 40860, 0), (12245, 1, 1, 40864, 0), (12288, 1, 1, 32, 0), (12290, 1, 1, 46, 0),
   (12342, 1, 1, 12306, 0), (12344, 1, 1, 21313, 0), (12345, 2, 1, 21316, 1),
   (12593, 2, 1, 4352, 1), (12595, 1, 1, 4522, 0), (12596, 1, 1, 4354, 0),
   (12597, 2, 1, 4524, 1), (12599, 3, 1, 4355, 1), (12602, 6, 1, 4528, 1),
   (12608, 1, 1, 4378, 0), (12609, 3, 1, 4358, 1), (12612, 1, 1, 4385, 0),
   (12613, 10, 1, 4361, 1), (12623, 21, 1, 4449, 1), (12645, 2, 1, 4372, 1),
   (12647, 2, 1, 4551, 1), (12649, 2, 1, 4556, 2), (12651, 1, 1, 4563, 0),
   (12652, 2, 1, 4567, 2), (12654, 1, 1, 4380, 0), (12655, 2, 1, 4573, 2),
   (12657, 2, 1, 4381, 1), (12659, 2, 1, 4384, 2), (12661, 1, 1, 4387, 0),
   (12662, 3, 1, 4391, 2), (12665, 4, 1, 4396, 1), (12669, 1, 1, 4402, 0),
   (12670, 1, 1, 4406, 0), (12671, 1, 1, 4416, 0), (12672, 1, 1, 4423, 0),
   (12673, 1, 1, 4428, 0), (12674, 2, 1, 4593, 1), (12676, 3, 1, 4439, 1),
   (12679, 2, 1, 4484, 1), (12681, 1, 1, 4488, 0), (12682, 2, 1, 4497, 1),
   (12684, 1, 1, 4500, 0), (12685, 1, 1, 4510, 0), (12686, 1, 1, 4513, 0),
   (12690, 1, 1, 19968, 0), (12691, 1, 1, 20108, 0), (12692, 1, 1, 19977, 0),
   (12693, 1, 1, 22235, 0), (12694, 1, 1, 19978, 0), (12695, 1, 1, 20013, 0),
   (12696, 1, 1, 19979, 0), (12697, 1, 1, 30002, 0), (12698, 1, 1, 20057, 0),
   (12699, 1, 1, 19993, 0), (12700, 1, 1, 19969, 0), (12701, 1, 1, 22825, 0),
   (12702, 1, 1, 22320, 0), (12703, 1, 1, 20154, 0), (12868, 1, 1, 21839, 0),
   (12869, 1, 1, 24188, 0), (12870, 1, 1, 25991, 0), (12871, 1, 1, 31631, 0),
   (12896, 2, 1, 4352, 2), (12898, 2, 1, 4355, 2), (12900, 2, 1, 4358, 1),
   (12902, 2, 1, 4361, 2), (12904, 2, 1, 4364, 2), (12906, 4, 1, 4367, 1),
   (12910, 1, 1, 44032, 0), (12911, 1, 1, 45208, 0), (12912, 1, 1, 45796, 0),
   (12913, 1, 1, 46972, 0), (12914, 1, 1, 47560, 0), (12915, 1, 1, 48148, 0),
   (12916, 1, 1, 49324, 0), (12917, 1, 1, 50500, 0), (12918, 1, 1, 51088, 0),
   (12919, 1, 1, 52264, 0), (12920, 1, 1, 52852, 0)]

def mappingRuns5 : List (Nat × Nat × Nat × Nat × Nat) :=
  [(12921, 1, 1, 53440, 0), (12922, 1, 1, 54028, 0), (12923, 1, 1, 54616, 0),
   (12926, 1, 1, 50864, 0), (12928, 1, 1, 19968, 0), (12929, 1, 1, 20108, 0),
   (12930, 1, 1, 19977, 0), (12931, 1, 1, 22235, 0), (12932, 1, 1, 20116, 0),
   (12933, 1, 1, 20845, 0), (12934, 1, 1, 19971, 0), (12935, 1, 1, 20843, 0),
   (12936, 1, 1, 20061, 0), (12937, 1, 1, 21313, 0), (12938, 1, 1, 26376, 0),
   (12939, 1, 1, 28779, 0), (12940, 1, 1, 27700, 0), (12941, 1, 1, 26408, 0),
   (12942, 1, 1, 37329, 0), (12943, 1, 1, 22303, 0), (12944, 1, 1, 26085, 0),
   (12945, 1, 1, 26666, 0), (12946, 1, 1, 26377, 0), (12947, 1, 1, 31038, 0),
   (12948, 1, 1, 21517, 0), (12949, 1, 1, 29305, 0), (12950, 1, 1, 36001, 0),
   (12951, 1, 1, 31069, 0), (12952, 1, 1, 21172, 0), (12953, 1, 1, 31192, 0),
   (12954, 1, 1, 30007, 0), (12955, 1, 1, 22899, 0), (12956, 1, 1, 36969, 0),
   (12957, 1, 1, 20778, 0), (12958, 1, 1, 21360, 0), (12959, 1, 1, 27880, 0),
   (12960, 1, 1, 38917, 0), (12961, 1, 1, 20241, 0), (12962, 1, 1, 20889, 0),
   (12963, 1, 1, 27491, 0), (12964, 1, 1, 19978, 0), (12965, 1, 1, 20013, 0),
   (12966, 1, 1, 19979, 0), (12967, 1, 1, 24038, 0), (12968, 1, 1, 21491, 0),
   (12969, 1, 1, 21307, 0), (12970, 1, 1, 23447, 0), (12971, 1, 1, 23398, 0),
   (12972, 1, 1, 30435, 0), (12973, 1, 1, 20225, 0), (12974, 1, 1, 36039, 0),
   (12975, 1, 1, 21332, 0), (12976, 1, 1, 22812, 0), (13008, 5, 1, 12450, 2),
   (13013, 12, 1, 12459, 2), (13025, 4, 1, 12484, 2), (13029, 5, 1, 12491, 1),
   (13034, 1, 1, 12498, 0), (13035, 1, 1, 12501, 0), (13036, 1, 1, 12504, 0),
   (13037, 1, 1, 12507, 0), (13038, 5, 1, 12510, 1), (13043, 3, 1, 12516, 2),
   (13046, 5, 1, 12521, 1), (13051, 4, 1, 12527, 1), (42560, 23, 2, 42561, 2),
   (42624, 14, 2, 42625, 2), (42652, 2, 1, 1098, 2), (42786, 7, 2, 42787, 2),
   (42802, 31, 2, 42803, 2), (42864, 1, 1, 42863, 0), (42873, 2, 2, 42874, 2),
   (42877, 1, 1, 7545, 0), (42878, 5, 2, 42879, 2), (42891, 1, 1, 42892, 0),
   (42893, 1, 1, 613, 0), (42896, 2, 2, 42897, 2), (42902, 10, 2, 42903, 2),
   (42922, 1, 1, 614, 0), (42923, 1, 1, 604, 0), (42924, 1, 1, 609, 0), (42925, 1, 1, 620, 0),
   (42926, 1, 1, 618, 0), (42928, 1, 1, 670, 0), (42929, 1, 1, 647, 0), (42930, 1, 1, 669, 0),
   (42931, 1, 1, 43859, 0), (42932, 8, 2, 42933, 2), (42948, 1, 1, 42900, 0),
   (42949, 1, 1, 642, 0), (42950, 1, 1, 7566, 0), (42951, 2, 2, 42952, 2), (42955, 1, 1, 612, 0),
   (42956, 8, 2, 42957, 2), (42972, 1, 1, 411, 0), (42993, 1, 1, 115, 0), (42994, 1, 1, 99, 0),
   (42995, 1, 1, 102, 0), (42996, 1, 1, 113, 0), (42997, 1, 1, 42998, 0), (43000, 1, 1, 295, 0),
   (43001, 1, 1, 339, 0), (43868, 1, 1, 42791, 0), (43869, 1, 1, 43831, 0),
   (43870, 1, 1, 619, 0), (43871, 1, 1, 43858, 0), (43881, 1, 1, 653, 0),
   (43888, 80, 1, 5024, 1), (64288, 1, 1, 1506, 0), (64289, 1, 1, 1488, 0),
   (64290, 2, 1, 1491, 1), (64292, 3, 1, 1499, 1), (64295, 2, 1, 1512, 2), (64297, 1, 1, 43, 0),
   (64336, 2, 1, 1649, 0), (64338, 4, 1, 1659, 0), (64342, 4, 1, 1662, 0),
   (64346, 4, 1, 1664, 0), (64350, 4, 1, 1658, 0), (64354, 4, 1, 1663, 0),
   (64358, 4, 1, 1657, 0), (64362, 4, 1, 1700, 0), (64366, 4, 1, 1702, 0),
   (64370, 4, 1, 1668, 0), (64374, 4, 1, 1667, 0), (64378, 4, 1, 1670, 0),
   (64382, 4, 1, 1671, 0), (64386, 2, 1, 1677, 0), (64388, 2, 1, 1676, 0),
   (64390, 2, 1, 1678, 0), (64392, 2, 1, 1672, 0), (64394, 2, 1, 1688, 0),
   (64396, 2, 1, 1681, 0), (64398, 4, 1, 1705, 0), (64402, 4, 1, 1711, 0),
   (64406, 4, 1, 1715, 0), (64410, 4, 1, 1713, 0), (64414, 2, 1, 1722, 0),
   (64416, 4, 1, 1723, 0), (64420, 2, 1, 1728, 0), (64422, 4, 1, 1729, 0),
   (64426, 4, 1, 1726, 0), (64430, 2, 1, 1746, 0), (64432, 2, 1, 1747, 0),
   (64467, 4, 1, 1709, 0), (64471, 2, 1, 1735, 0), (64473, 2, 1, 1734, 0),
   (64475, 2, 1, 1736, 0), (64478, 2, 1, 1739, 0), (64480, 2, 1, 1733, 0)]

def mappingRuns6 : List (Nat × Nat × Nat × Nat × Nat) :=
  [(64482, 2, 1, 1737, 0), (64484, 4, 1, 1744, 0), (64488, 2, 1, 1609, 0),
   (64508, 4, 1, 1740, 0), (65040, 1, 1, 44, 0), (65041, 1, 1, 12289, 0), (65043, 2, 1, 58, 1),
   (65045, 1, 1, 33, 0), (65046, 1, 1, 63, 0), (65047, 2, 1, 12310, 1), (65073, 1, 1, 8212, 0),
   (65074, 1, 1, 8211, 0), (65075, 2, 1, 95, 0), (65077, 2, 1, 40, 1), (65079, 2, 1, 123, 2),
   (65081, 2, 1, 12308, 1), (65083, 2, 1, 12304, 1), (65085, 2, 1, 12298, 1),
   (65087, 2, 1, 12296, 1), (65089, 4, 1, 12300, 1), (65095, 2, 1, 91, 2), (65101, 3, 1, 95, 0),
   (65104, 1, 1, 44, 0), (65105, 1, 1, 12289, 0), (65108, 1, 1, 59, 0), (65109, 1, 1, 58, 0),
   (65110, 1, 1, 63, 0), (65111, 1, 1, 33, 0), (65112, 1, 1, 8212, 0), (65113, 2, 1, 40, 1),
   (65115, 2, 1, 123, 2), (65117, 2, 1, 12308, 1), (65119, 1, 1, 35, 0), (65120, 1, 1, 38, 0),
   (65121, 2, 1, 42, 1), (65123, 1, 1, 45, 0), (65124, 2, 1, 60, 2), (65126, 1, 1, 61, 0),
   (65128, 1, 1, 92, 0), (65129, 2, 1, 36, 1), (65131, 1, 1, 64, 0), (65152, 2, 1, 1569, 1),
   (65154, 2, 1, 1570, 1), (65156, 2, 1, 1571, 1), (65158, 2, 1, 1572, 1),
   (65160, 2, 1, 1573, 1), (65162, 3, 1, 1574, 0), (65165, 2, 1, 1575, 0),
   (65167, 4, 1, 1576, 0), (65171, 2, 1, 1577, 0), (65173, 4, 1, 1578, 0),
   (65177, 4, 1, 1579, 0), (65181, 4, 1, 1580, 0), (65185, 4, 1, 1581, 0),
   (65189, 4, 1, 1582, 0), (65193, 2, 1, 1583, 0), (65195, 2, 1, 1584, 0),
   (65197, 2, 1, 1585, 0), (65199, 2, 1, 1586, 0), (65201, 4, 1, 1587, 0),
   (65205, 4, 1, 1588, 0), (65209, 4, 1, 1589, 0), (65213, 4, 1, 1590, 0),
   (65217, 4, 1, 1591, 0), (65221, 4, 1, 1592, 0), (65225, 4, 1, 1593, 0),
   (65229, 4, 1, 1594, 0), (65233, 4, 1, 1601, 0), (65237, 4, 1, 1602, 0),
   (65241, 4, 1, 1603, 0), (65245, 4, 1, 1604, 0), (65249, 4, 1, 1605, 0),
   (65253, 4, 1, 1606, 0), (65257, 4, 1, 1607, 0), (65261, 2, 1, 1608, 0),
   (65263, 2, 1, 1609, 0), (65265, 4, 1, 1610, 0), (65281, 32, 1, 33, 1), (65313, 26, 1, 97, 1),
   (65339, 36, 1, 91, 1), (65375, 2, 1, 10629, 1), (65377, 1, 1, 46, 0), (65378, 2, 1, 12300, 1),
   (65380, 1, 1, 12289, 0), (65381, 1, 1, 12539, 0), (65382, 1, 1, 12530, 0),
   (65383, 5, 1, 12449, 2), (65388, 3, 1, 12515, 2), (65391, 1, 1, 12483, 0),
   (65392, 1, 1, 12540, 0), (65393, 5, 1, 12450, 2), (65398, 12, 1, 12459, 2),
   (65410, 4, 1, 12484, 2), (65414, 5, 1, 12491, 1), (65419, 1, 1, 12498, 0),
   (65420, 1, 1, 12501, 0), (65421, 1, 1, 12504, 0), (65422, 1, 1, 12507, 0),
   (65423, 5, 1, 12510, 1), (65428, 3, 1, 12516, 2), (65431, 5, 1, 12521, 1),
   (65436, 1, 1, 12527, 0), (65437, 1, 1, 12531, 0), (65438, 2, 1, 12441, 1),
   (65441, 2, 1, 4352, 1), (65443, 1, 1, 4522, 0), (65444, 1, 1, 4354, 0),
   (65445, 2, 1, 4524, 1), (65447, 3, 1, 4355, 1), (65450, 6, 1, 4528, 1),
   (65456, 1, 1, 4378, 0), (65457, 3, 1, 4358, 1), (65460, 1, 1, 4385, 0),
   (65461, 10, 1, 4361, 1), (65474, 6, 1, 4449, 1), (65482, 6, 1, 4455, 1),
   (65490, 6, 1, 4461, 1), (65498, 3, 1, 4467, 1), (65504, 2, 1, 162, 1), (65506, 1, 1, 172, 0),
   (65508, 1, 1, 166, 0), (65509, 1, 1, 165, 0), (65510, 1, 1, 8361, 0), (65512, 1, 1, 9474, 0),
   (65513, 4, 1, 8592, 1), (65517, 1, 1, 9632, 0), (65518, 1, 1, 9675, 0),
   (66560, 40, 1, 66600, 1), (66736, 36, 1, 66776, 1), (66928, 11, 1, 66967, 1),
   (66940, 15, 1, 66979, 1), (66956, 7, 1, 66995, 1), (66964, 2, 1, 67003, 1),
   (67457, 2, 1, 720, 1), (67459, 1, 1, 230, 0), (67460, 1, 1, 665, 0), (67461, 1, 1, 595, 0),
   (67463, 1, 1, 675, 0), (67464, 1, 1, 43878, 0), (67465, 1, 1, 677, 0), (67466, 1, 1, 676, 0),
   (67467, 2, 1, 598, 1), (67469, 1, 1, 7569, 0), (67470, 1, 1, 600, 0), (67471, 1, 1, 606, 0),
   (67472, 1, 1, 681, 0), (67473, 1, 1, 612, 0), (67474, 1, 1, 610, 0), (67475, 1, 1, 608, 0),
   (67476, 1, 1, 667, 0)]

def mappingRuns7 : List (Nat × Nat × Nat × Nat × Nat) :=
  [(67477, 1, 1, 295, 0), (67478, 1, 1, 668, 0), (67479, 1, 1, 615, 0), (67480, 1, 1, 644, 0),
   (67481, 2, 1, 682, 1), (67483, 1, 1, 620, 0), (67484, 1, 1, 122628, 0),
   (67485, 1, 1, 42894, 0), (67486, 1, 1, 622, 0), (67487, 1, 1, 122629, 0),
   (67488, 1, 1, 654, 0), (67489, 1, 1, 122630, 0), (67490, 1, 1, 248, 0), (67491, 2, 1, 630, 1),
   (67493, 1, 1, 113, 0), (67494, 1, 1, 634, 0), (67495, 1, 1, 122632, 0), (67496, 2, 1, 637, 1),
   (67498, 1, 1, 640, 0), (67499, 1, 1, 680, 0), (67500, 1, 1, 678, 0), (67501, 1, 1, 43879, 0),
   (67502, 1, 1, 679, 0), (67503, 1, 1, 648, 0), (67504, 1, 1, 11377, 0), (67506, 1, 1, 655, 0),
   (67507, 2, 1, 673, 1), (67509, 1, 1, 664, 0), (67510, 3, 1, 448, 1), (67513, 1, 1, 122634, 0),
   (67514, 1, 1, 122654, 0), (68736, 51, 1, 68800, 1), (68944, 22, 1, 68976, 1),
   (71840, 32, 1, 71872, 1), (93760, 32, 1, 93792, 1), (93856, 25, 1, 93883, 1),
   (117974, 26, 1, 97, 1), (118000, 10, 1, 48, 1), (119808, 26, 1, 97, 1),
   (119834, 26, 1, 97, 1), (119860, 26, 1, 97, 1), (119886, 7, 1, 97, 1),
   (119894, 18, 1, 105, 1), (119912, 26, 1, 97, 1), (119938, 26, 1, 97, 1),
   (119964, 2, 2, 97, 2), (119967, 1, 1, 100, 0), (119970, 1, 1, 103, 0), (119973, 2, 1, 106, 1),
   (119977, 4, 1, 110, 1), (119982, 8, 1, 115, 1), (119990, 4, 1, 97, 1), (119995, 2, 2, 102, 2),
   (119998, 6, 1, 105, 1), (120005, 11, 1, 112, 1), (120016, 26, 1, 97, 1),
   (120042, 26, 1, 97, 1), (120068, 2, 1, 97, 1), (120071, 4, 1, 100, 1), (120077, 8, 1, 106, 1),
   (120086, 7, 1, 115, 1), (120094, 26, 1, 97, 1), (120120, 2, 1, 97, 1), (120123, 4, 1, 100, 1),
   (120128, 5, 1, 105, 1), (120134, 1, 1, 111, 0), (120138, 7, 1, 115, 1),
   (120146, 26, 1, 97, 1), (120172, 26, 1, 97, 1), (120198, 26, 1, 97, 1),
   (120224, 26, 1, 97, 1), (120250, 26, 1, 97, 1), (120276, 26, 1, 97, 1),
   (120302, 26, 1, 97, 1), (120328, 26, 1, 97, 1), (120354, 26, 1, 97, 1),
   (120380, 26, 1, 97, 1), (120406, 26, 1, 97, 1), (120432, 26, 1, 97, 1),
   (120458, 26, 1, 97, 1), (120484, 1, 1, 305, 0), (120485, 1, 1, 567, 0),
   (120488, 17, 1, 945, 1), (120505, 1, 1, 952, 0), (120506, 7, 1, 963, 1),
   (120513, 1, 1, 8711, 0), (120514, 17, 1, 945, 1), (120531, 2, 1, 963, 0),
   (120533, 6, 1, 964, 1), (120539, 1, 1, 8706, 0), (120540, 1, 1, 949, 0),
   (120541, 2, 1, 952, 2), (120543, 1, 1, 966, 0), (120544, 1, 1, 961, 0),
   (120545, 1, 1, 960, 0), (120546, 17, 1, 945, 1), (120563, 1, 1, 952, 0),
   (120564, 7, 1, 963, 1), (120571, 1, 1, 8711, 0), (120572, 17, 1, 945, 1),
   (120589, 2, 1, 963, 0), (120591, 6, 1, 964, 1), (120597, 1, 1, 8706, 0),
   (120598, 1, 1, 949, 0), (120599, 2, 1, 952, 2), (120601, 1, 1, 966, 0),
   (120602, 1, 1, 961, 0), (120603, 1, 1, 960, 0), (120604, 17, 1, 945, 1),
   (120621, 1, 1, 952, 0), (120622, 7, 1, 963, 1), (120629, 1, 1, 8711, 0),
   (120630, 17, 1, 945, 1), (120647, 2, 1, 963, 0), (120649, 6, 1, 964, 1),
   (120655, 1, 1, 8706, 0), (120656, 1, 1, 949, 0), (120657, 2, 1, 952, 2),
   (120659, 1, 1, 966, 0), (120660, 1, 1, 961, 0), (120661, 1, 1, 960, 0),
   (120662, 17, 1, 945, 1), (120679, 1, 1, 952, 0), (120680, 7, 1, 963, 1),
   (120687, 1, 1, 8711, 0), (120688, 17, 1, 945, 1), (120705, 2, 1, 963, 0),
   (120707, 6, 1, 964, 1), (120713, 1, 1, 8706, 0), (120714, 1, 1, 949, 0),
   (120715, 2, 1, 952, 2), (120717, 1, 1, 966, 0), (120718, 1, 1, 961, 0),
   (120719, 1, 1, 960, 0), (120720, 17, 1, 945, 1), (120737, 1, 1, 952, 0),
   (120738, 7, 1, 963, 1), (120745, 1, 1, 8711, 0), (120746, 17, 1, 945, 1),
   (120763, 2, 1, 963, 0), (120765, 6, 1, 964, 1), (120771, 1, 1, 8706, 0),
   (120772, 1, 1, 949, 0), (120773, 2, 1, 952, 2), (120775, 1, 1, 966, 0),
   (120776, 1, 1, 961, 0), (120777, 1, 1, 960, 0), (120778, 2, 1, 989, 0),
   (120782, 10, 1, 48, 1), (120792, 10, 1, 48, 1)]

def mappingRuns8 : List (Nat × Nat × Nat × Nat × Nat) :=
  [(120802, 10, 1, 48, 1), (120812, 10, 1, 48, 1), (120822, 10, 1, 48, 1),
   (122928, 9, 1, 1072, 1), (122937, 3, 1, 1082, 1), (122940, 11, 1, 1086, 1),
   (122951, 2, 1, 1099, 2), (122953, 1, 1, 1102, 0), (122954, 1, 1, 42633, 0),
   (122955, 1, 1, 1241, 0), (122956, 2, 1, 1110, 2), (122958, 1, 1, 1257, 0),
   (122959, 1, 1, 1199, 0), (122960, 1, 1, 1231, 0), (122961, 9, 1, 1072, 1),
   (122970, 2, 1, 1082, 1), (122972, 2, 1, 1086, 1), (122974, 2, 1, 1089, 2),
   (122976, 5, 1, 1092, 1), (122981, 2, 1, 1098, 1), (122983, 1, 1, 1169, 0),
   (122984, 1, 1, 1110, 0), (122985, 1, 1, 1109, 0), (122986, 1, 1, 1119, 0),
   (122987, 1, 1, 1195, 0), (122988, 1, 1, 42577, 0), (122989, 1, 1, 1201, 0),
   (125184, 34, 1, 125218, 1), (126464, 2, 1, 1575, 1), (126466, 1, 1, 1580, 0),
   (126467, 1, 1, 1583, 0), (126469, 1, 1, 1608, 0), (126470, 1, 1, 1586, 0),
   (126471, 1, 1, 1581, 0), (126472, 1, 1, 1591, 0), (126473, 1, 1, 1610, 0),
   (126474, 4, 1, 1603, 1), (126478, 1, 1, 1587, 0), (126479, 1, 1, 1593, 0),
   (126480, 1, 1, 1601, 0), (126481, 1, 1, 1589, 0), (126482, 1, 1, 1602, 0),
   (126483, 1, 1, 1585, 0), (126484, 1, 1, 1588, 0), (126485, 2, 1, 1578, 1),
   (126487, 2, 1, 1582, 2), (126489, 3, 1, 1590, 2), (126492, 1, 1, 1646, 0),
   (126493, 1, 1, 1722, 0), (126494, 1, 1, 1697, 0), (126495, 1, 1, 1647, 0),
   (126497, 1, 1, 1576, 0), (126498, 1, 1, 1580, 0), (126500, 1, 1, 1607, 0),
   (126503, 1, 1, 1581, 0), (126505, 1, 1, 1610, 0), (126506, 4, 1, 1603, 1),
   (126510, 1, 1, 1587, 0), (126511, 1, 1, 1593, 0), (126512, 1, 1, 1601, 0),
   (126513, 1, 1, 1589, 0), (126514, 1, 1, 1602, 0), (126516, 1, 1, 1588, 0),
   (126517, 2, 1, 1578, 1), (126519, 1, 1, 1582, 0), (126521, 1, 1, 1590, 0),
   (126523, 1, 1, 1594, 0), (126530, 1, 1, 1580, 0), (126535, 1, 1, 1581, 0),
   (126537, 1, 1, 1610, 0), (126539, 2, 2, 1604, 2), (126542, 1, 1, 1587, 0),
   (126543, 1, 1, 1593, 0), (126545, 1, 1, 1589, 0), (126546, 1, 1, 1602, 0),
   (126548, 1, 1, 1588, 0), (126551, 1, 1, 1582, 0), (126553, 1, 1, 1590, 0),
   (126555, 1, 1, 1594, 0), (126557, 1, 1, 1722, 0), (126559, 1, 1, 1647, 0),
   (126561, 1, 1, 1576, 0), (126562, 1, 1, 1580, 0), (126564, 1, 1, 1607, 0),
   (126567, 1, 1, 1581, 0), (126568, 1, 1, 1591, 0), (126569, 1, 1, 1610, 0),
   (126570, 2, 2, 1603, 2), (126573, 1, 1, 1606, 0), (126574, 1, 1, 1587, 0),
   (126575, 1, 1, 1593, 0), (126576, 1, 1, 1601, 0), (126577, 1, 1, 1589, 0),
   (126578, 1, 1, 1602, 0), (126580, 1, 1, 1588, 0), (126581, 2, 1, 1578, 1),
   (126583, 1, 1, 1582, 0), (126585, 3, 1, 1590, 2), (126588, 1, 1, 1646, 0),
   (126590, 1, 1, 1697, 0), (126592, 2, 1, 1575, 1), (126594, 1, 1, 1580, 0),
   (126595, 1, 1, 1583, 0), (126596, 2, 1, 1607, 1), (126598, 1, 1, 1586, 0),
   (126599, 1, 1, 1581, 0), (126600, 1, 1, 1591, 0), (126601, 1, 1, 1610, 0),
   (126603, 3, 1, 1604, 1), (126606, 1, 1, 1587, 0), (126607, 1, 1, 1593, 0),
   (126608, 1, 1, 1601, 0), (126609, 1, 1, 1589, 0), (126610, 1, 1, 1602, 0),
   (126611, 1, 1, 1585, 0), (126612, 1, 1, 1588, 0), (126613, 2, 1, 1578, 1),
   (126615, 2, 1, 1582, 2), (126617, 3, 1, 1590, 2), (126625, 1, 1, 1576, 0),
   (126626, 1, 1, 1580, 0), (126627, 1, 1, 1583, 0), (126629, 1, 1, 1608, 0),
   (126630, 1, 1, 1586, 0), (126631, 1, 1, 1581, 0), (126632, 1, 1, 1591, 0),
   (126633, 1, 1, 1610, 0), (126635, 3, 1, 1604, 1), (126638, 1, 1, 1587, 0),
   (126639, 1, 1, 1593, 0), (126640, 1, 1, 1601, 0), (126641, 1, 1, 1589, 0),
   (126642, 1, 1, 1602, 0), (126643, 1, 1, 1585, 0), (126644, 1, 1, 1588, 0),
   (126645, 2, 1, 1578, 1), (126647, 2, 1, 1582, 2), (126649, 3, 1, 1590, 2),
   (127275, 1, 1, 99, 0), (127276, 1, 1, 114, 0), (127280, 26, 1, 97, 1),
   (127490, 1, 1, 12469, 0), (127504, 1, 1, 25163, 0), (127505, 1, 1, 23383, 0),
   (127506, 1, 1, 21452, 0), (127507, 1, 1, 12487, 0), (127508, 1, 1, 20108, 0),
   (127509, 1, 1, 22810, 0), (127510, 1, 1, 35299, 0), (127511, 1, 1, 22825, 0)]

def mappingRuns9 : List (Nat × Nat × Nat × Nat × Nat) :=
  [(127512, 1, 1, 20132, 0), (127513, 1, 1, 26144, 0), (127514, 1, 1, 28961, 0),
   (127515, 1, 1, 26009, 0), (127516, 1, 1, 21069, 0), (127517, 1, 1, 24460, 0),
   (127518, 1, 1, 20877, 0), (127519, 1, 1, 26032, 0), (127520, 1, 1, 21021, 0),
   (127521, 1, 1, 32066, 0), (127522, 1, 1, 29983, 0), (127523, 1, 1, 36009, 0),
   (127524, 1, 1, 22768, 0), (127525, 1, 1, 21561, 0), (127526, 1, 1, 28436, 0),
   (127527, 1, 1, 25237, 0), (127528, 1, 1, 25429, 0), (127529, 1, 1, 19968, 0),
   (127530, 1, 1, 19977, 0), (127531, 1, 1, 36938, 0), (127532, 1, 1, 24038, 0),
   (127533, 1, 1, 20013, 0), (127534, 1, 1, 21491, 0), (127535, 1, 1, 25351, 0),
   (127536, 1, 1, 36208, 0), (127537, 1, 1, 25171, 0), (127538, 1, 1, 31105, 0),
   (127539, 1, 1, 31354, 0), (127540, 1, 1, 21512, 0), (127541, 1, 1, 28288, 0),
   (127542, 1, 1, 26377, 0), (127543, 1, 1, 26376, 0), (127544, 1, 1, 30003, 0),
   (127545, 1, 1, 21106, 0), (127546, 1, 1, 21942, 0), (127547, 1, 1, 37197, 0),
   (127568, 1, 1, 24471, 0), (127569, 1, 1, 21487, 0), (130032, 10, 1, 48, 1)]

/-- Runs of mappings to one character: first code point, count, step, first image, step of
images. -/
def mappingRuns : List (Nat × Nat × Nat × Nat × Nat) :=
  mappingRuns1 ++ mappingRuns2 ++ mappingRuns3 ++ mappingRuns4 ++ mappingRuns5 ++
    mappingRuns6 ++ mappingRuns7 ++ mappingRuns8 ++ mappingRuns9

def mappingTexts1 : List (Nat × List Nat) :=
  [(168, [32, 776]), (175, [32, 772]), (180, [32, 769]), (184, [32, 807]), (188, [49, 8260, 52]),
   (189, [49, 8260, 50]), (190, [51, 8260, 52]), (304, [105, 775]), (306, [105, 106]),
   (307, [105, 106]), (319, [108, 183]), (320, [108, 183]), (329, [700, 110]), (452, [100, 382]),
   (453, [100, 382]), (454, [100, 382]), (455, [108, 106]), (456, [108, 106]), (457, [108, 106]),
   (458, [110, 106]), (459, [110, 106]), (460, [110, 106]), (497, [100, 122]), (498, [100, 122]),
   (499, [100, 122]), (728, [32, 774]), (729, [32, 775]), (730, [32, 778]), (731, [32, 808]),
   (732, [32, 771]), (733, [32, 779]), (890, [32, 953]), (900, [32, 769]), (901, [32, 776, 769]),
   (1415, [1381, 1410]), (1653, [1575, 1652]), (1654, [1608, 1652]), (1655, [1735, 1652]),
   (1656, [1610, 1652]), (3635, [3661, 3634]), (3763, [3789, 3762]), (3804, [3755, 3737]),
   (3805, [3755, 3745]), (3959, [4018, 3953, 3968]), (3961, [4019, 3953, 3968]),
   (7834, [97, 702]), (8064, [7936, 953]), (8065, [7937, 953]), (8066, [7938, 953]),
   (8067, [7939, 953]), (8068, [7940, 953]), (8069, [7941, 953]), (8070, [7942, 953]),
   (8071, [7943, 953]), (8072, [7936, 953]), (8073, [7937, 953]), (8074, [7938, 953]),
   (8075, [7939, 953]), (8076, [7940, 953]), (8077, [7941, 953]), (8078, [7942, 953]),
   (8079, [7943, 953]), (8080, [7968, 953]), (8081, [7969, 953]), (8082, [7970, 953]),
   (8083, [7971, 953]), (8084, [7972, 953]), (8085, [7973, 953]), (8086, [7974, 953]),
   (8087, [7975, 953]), (8088, [7968, 953]), (8089, [7969, 953]), (8090, [7970, 953]),
   (8091, [7971, 953]), (8092, [7972, 953]), (8093, [7973, 953]), (8094, [7974, 953]),
   (8095, [7975, 953]), (8096, [8032, 953]), (8097, [8033, 953]), (8098, [8034, 953]),
   (8099, [8035, 953]), (8100, [8036, 953]), (8101, [8037, 953]), (8102, [8038, 953]),
   (8103, [8039, 953]), (8104, [8032, 953]), (8105, [8033, 953]), (8106, [8034, 953]),
   (8107, [8035, 953]), (8108, [8036, 953]), (8109, [8037, 953]), (8110, [8038, 953]),
   (8111, [8039, 953]), (8114, [8048, 953]), (8115, [945, 953]), (8116, [940, 953]),
   (8119, [8118, 953]), (8124, [945, 953]), (8125, [32, 787]), (8127, [32, 787]),
   (8128, [32, 834]), (8129, [32, 776, 834]), (8130, [8052, 953]), (8131, [951, 953]),
   (8132, [942, 953]), (8135, [8134, 953]), (8140, [951, 953]), (8141, [32, 787, 768]),
   (8142, [32, 787, 769]), (8143, [32, 787, 834]), (8157, [32, 788, 768]),
   (8158, [32, 788, 769]), (8159, [32, 788, 834]), (8173, [32, 776, 768]),
   (8174, [32, 776, 769]), (8178, [8060, 953]), (8179, [969, 953]), (8180, [974, 953]),
   (8183, [8182, 953]), (8188, [969, 953]), (8189, [32, 769]), (8190, [32, 788]),
   (8215, [32, 819]), (8243, [8242, 8242]), (8244, [8242, 8242, 8242]), (8246, [8245, 8245]),
   (8247, [8245, 8245, 8245]), (8252, [33, 33]), (8254, [32, 773]), (8263, [63, 63]),
   (8264, [63, 33]), (8265, [33, 63]), (8279, [8242, 8242, 8242, 8242]), (8360, [114, 115]),
   (8448, [97, 47, 99]), (8449, [97, 47, 115]), (8451, [176, 99]), (8453, [99, 47, 111]),
   (8454, [99, 47, 117]), (8457, [176, 102]), (8470, [110, 111]), (8480, [115, 109]),
   (8481, [116, 101, 108]), (8482, [116, 109]), (8507, [102, 97, 120]), (8528, [49, 8260, 55]),
   (8529, [49, 8260, 57]), (8530, [49, 8260, 49, 48]), (8531, [49, 8260, 51])]

def mappingTexts2 : List (Nat × List Nat) :=
  [(8532, [50, 8260, 51]), (8533, [49, 8260, 53]), (8534, [50, 8260, 53]),
   (8535, [51, 8260, 53]), (8536, [52, 8260, 53]), (8537, [49, 8260, 54]),
   (8538, [53, 8260, 54]), (8539, [49, 8260, 56]), (8540, [51, 8260, 56]),
   (8541, [53, 8260, 56]), (8542, [55, 8260, 56]), (8543, [49, 8260]), (8545, [105, 105]),
   (8546, [105, 105, 105]), (8547, [105, 118]), (8549, [118, 105]), (8550, [118, 105, 105]),
   (8551, [118, 105, 105, 105]), (8552, [105, 120]), (8554, [120, 105]), (8555, [120, 105, 105]),
   (8561, [105, 105]), (8562, [105, 105, 105]), (8563, [105, 118]), (8565, [118, 105]),
   (8566, [118, 105, 105]), (8567, [118, 105, 105, 105]), (8568, [105, 120]), (8570, [120, 105]),
   (8571, [120, 105, 105]), (8585, [48, 8260, 51]), (8748, [8747, 8747]),
   (8749, [8747, 8747, 8747]), (8751, [8750, 8750]), (8752, [8750, 8750, 8750]),
   (9321, [49, 48]), (9322, [49, 49]), (9323, [49, 50]), (9324, [49, 51]), (9325, [49, 52]),
   (9326, [49, 53]), (9327, [49, 54]), (9328, [49, 55]), (9329, [49, 56]), (9330, [49, 57]),
   (9331, [50, 48]), (9332, [40, 49, 41]), (9333, [40, 50, 41]), (9334, [40, 51, 41]),
   (9335, [40, 52, 41]), (9336, [40, 53, 41]), (9337, [40, 54, 41]), (9338, [40, 55, 41]),
   (9339, [40, 56, 41]), (9340, [40, 57, 41]), (9341, [40, 49, 48, 41]),
   (9342, [40, 49, 49, 41]), (9343, [40, 49, 50, 41]), (9344, [40, 49, 51, 41]),
   (9345, [40, 49, 52, 41]), (9346, [40, 49, 53, 41]), (9347, [40, 49, 54, 41]),
   (9348, [40, 49, 55, 41]), (9349, [40, 49, 56, 41]), (9350, [40, 49, 57, 41]),
   (9351, [40, 50, 48, 41]), (9372, [40, 97, 41]), (9373, [40, 98, 41]), (9374, [40, 99, 41]),
   (9375, [40, 100, 41]), (9376, [40, 101, 41]), (9377, [40, 102, 41]), (9378, [40, 103, 41]),
   (9379, [40, 104, 41]), (9380, [40, 105, 41]), (9381, [40, 106, 41]), (9382, [40, 107, 41]),
   (9383, [40, 108, 41]), (9384, [40, 109, 41]), (9385, [40, 110, 41]), (9386, [40, 111, 41]),
   (9387, [40, 112, 41]), (9388, [40, 113, 41]), (9389, [40, 114, 41]), (9390, [40, 115, 41]),
   (9391, [40, 116, 41]), (9392, [40, 117, 41]), (9393, [40, 118, 41]), (9394, [40, 119, 41]),
   (9395, [40, 120, 41]), (9396, [40, 121, 41]), (9397, [40, 122, 41]),
   (10764, [8747, 8747, 8747, 8747]), (10868, [58, 58, 61]), (10869, [61, 61]),
   (10870, [61, 61, 61]), (12443, [32, 12441]), (12444, [32, 12442]), (12447, [12424, 12426]),
   (12543, [12467, 12488]), (12800, [40, 4352, 41]), (12801, [40, 4354, 41]),
   (12802, [40, 4355, 41]), (12803, [40, 4357, 41]), (12804, [40, 4358, 41]),
   (12805, [40, 4359, 41]), (12806, [40, 4361, 41]), (12807, [40, 4363, 41]),
   (12808, [40, 4364, 41]), (12809, [40, 4366, 41]), (12810, [40, 4367, 41]),
   (12811, [40, 4368, 41]), (12812, [40, 4369, 41]), (12813, [40, 4370, 41]),
   (12814, [40, 44032, 41]), (12815, [40, 45208, 41]), (12816, [40, 45796, 41]),
   (12817, [40, 46972, 41]), (12818, [40, 47560, 41]), (12819, [40, 48148, 41]),
   (12820, [40, 49324, 41]), (12821, [40, 50500, 41]), (12822, [40, 51088, 41]),
   (12823, [40, 52264, 41]), (12824, [40, 52852, 41]), (12825, [40, 53440, 41]),
   (12826, [40, 54028, 41]), (12827, [40, 54616, 41]), (12828, [40, 51452, 41]),
   (12829, [40, 50724, 51204, 41]), (12830, [40, 50724, 54980, 41]), (12832, [40, 19968, 41]),
   (12833, [40, 20108, 41]), (12834, [40, 19977, 41]), (12835, [40, 22235, 41]),
   (12836, [40, 20116, 41]), (12837, [40, 20845, 41]), (12838, [40, 19971, 41]),
   (12839, [40, 20843, 41]), (12840, [40, 20061, 41]), (12841, [40, 21313, 41]),
   (12842, [40, 26376, 41]), (12843, [40, 28779, 41]), (12844, [40, 27700, 41]),
   (12845, [40, 26408, 41]), (12846, [40, 37329, 41]), (12847, [40, 22303, 41]),
   (12848, [40, 26085, 41]), (12849, [40, 26666, 41]), (12850, [40, 26377, 41])]

def mappingTexts3 : List (Nat × List Nat) :=
  [(12851, [40, 31038, 41]), (12852, [40, 21517, 41]), (12853, [40, 29305, 41]),
   (12854, [40, 36001, 41]), (12855, [40, 31069, 41]), (12856, [40, 21172, 41]),
   (12857, [40, 20195, 41]), (12858, [40, 21628, 41]), (12859, [40, 23398, 41]),
   (12860, [40, 30435, 41]), (12861, [40, 20225, 41]), (12862, [40, 36039, 41]),
   (12863, [40, 21332, 41]), (12864, [40, 31085, 41]), (12865, [40, 20241, 41]),
   (12866, [40, 33258, 41]), (12867, [40, 33267, 41]), (12880, [112, 116, 101]),
   (12881, [50, 49]), (12882, [50, 50]), (12883, [50, 51]), (12884, [50, 52]), (12885, [50, 53]),
   (12886, [50, 54]), (12887, [50, 55]), (12888, [50, 56]), (12889, [50, 57]), (12890, [51, 48]),
   (12891, [51, 49]), (12892, [51, 50]), (12893, [51, 51]), (12894, [51, 52]), (12895, [51, 53]),
   (12924, [52280, 44256]), (12925, [51452, 51032]), (12977, [51, 54]), (12978, [51, 55]),
   (12979, [51, 56]), (12980, [51, 57]), (12981, [52, 48]), (12982, [52, 49]), (12983, [52, 50]),
   (12984, [52, 51]), (12985, [52, 52]), (12986, [52, 53]), (12987, [52, 54]), (12988, [52, 55]),
   (12989, [52, 56]), (12990, [52, 57]), (12991, [53, 48]), (12992, [49, 26376]),
   (12993, [50, 26376]), (12994, [51, 26376]), (12995, [52, 26376]), (12996, [53, 26376]),
   (12997, [54, 26376]), (12998, [55, 26376]), (12999, [56, 26376]), (13000, [57, 26376]),
   (13001, [49, 48, 26376]), (13002, [49, 49, 26376]), (13003, [49, 50, 26376]),
   (13004, [104, 103]), (13005, [101, 114, 103]), (13006, [101, 118]), (13007, [108, 116, 100]),
   (13055, [20196, 21644]), (13056, [12450, 12497, 12540, 12488]),
   (13057, [12450, 12523, 12501, 12449]), (13058, [12450, 12531, 12506, 12450]),
   (13059, [12450, 12540, 12523]), (13060, [12452, 12491, 12531, 12464]),
   (13061, [12452, 12531, 12481]), (13062, [12454, 12457, 12531]),
   (13063, [12456, 12473, 12463, 12540, 12489]), (13064, [12456, 12540, 12459, 12540]),
   (13065, [12458, 12531, 12473]), (13066, [12458, 12540, 12512]),
   (13067, [12459, 12452, 12522]), (13068, [12459, 12521, 12483, 12488]),
   (13069, [12459, 12525, 12522, 12540]), (13070, [12460, 12525, 12531]),
   (13071, [12460, 12531, 12510]), (13072, [12462, 12460]), (13073, [12462, 12491, 12540]),
   (13074, [12461, 12517, 12522, 12540]), (13075, [12462, 12523, 12480, 12540]),
   (13076, [12461, 12525]), (13077, [12461, 12525, 12464, 12521, 12512]),
   (13078, [12461, 12525, 12513, 12540, 12488, 12523]),
   (13079, [12461, 12525, 12527, 12483, 12488]), (13080, [12464, 12521, 12512]),
   (13081, [12464, 12521, 12512, 12488, 12531]), (13082, [12463, 12523, 12476, 12452, 12525]),
   (13083, [12463, 12525, 12540, 12493]), (13084, [12465, 12540, 12473]),
   (13085, [12467, 12523, 12490]), (13086, [12467, 12540, 12509]),
   (13087, [12469, 12452, 12463, 12523]), (13088, [12469, 12531, 12481, 12540, 12512]),
   (13089, [12471, 12522, 12531, 12464]), (13090, [12475, 12531, 12481]),
   (13091, [12475, 12531, 12488]), (13092, [12480, 12540, 12473]), (13093, [12487, 12471]),
   (13094, [12489, 12523]), (13095, [12488, 12531]), (13096, [12490, 12494]),
   (13097, [12494, 12483, 12488]), (13098, [12495, 12452, 12484]),
   (13099, [12497, 12540, 12475, 12531, 12488]), (13100, [12497, 12540, 12484]),
   (13101, [12496, 12540, 12524, 12523]), (13102, [12500, 12450, 12473, 12488, 12523]),
   (13103, [12500, 12463, 12523]), (13104, [12500, 12467]), (13105, [12499, 12523]),
   (13106, [12501, 12449, 12521, 12483, 12489]), (13107, [12501, 12451, 12540, 12488]),
   (13108, [12502, 12483, 12471, 12455, 12523]), (13109, [12501, 12521, 12531]),
   (13110, [12504, 12463, 12479, 12540, 12523]), (13111, [12506, 12477]),
   (13112, [12506, 12491, 12498]), (13113, [12504, 12523, 12484]),
   (13114, [12506, 12531, 12473]), (13115, [12506, 12540, 12472]),
   (13116, [12505, 12540, 12479]), (13117, [12509, 12452, 12531, 12488]),
   (13118, [12508, 12523, 12488]), (13119, [12507, 12531]), (13120, [12509, 12531, 12489]),
   (13121, [12507, 12540, 12523]), (13122, [12507, 12540, 12531]),
   (13123, [12510, 12452, 12463, 12525]), (13124, [12510, 12452, 12523]),
   (13125, [12510, 12483, 12495]), (13126, [12510, 12523, 12463]),
   (13127, [12510, 12531, 12471, 12519, 12531]), (13128, [12511, 12463, 12525, 12531]),
   (13129, [12511, 12522]), (13130, [12511, 12522, 12496, 12540, 12523]),
   (13131, [12513, 12460]), (13132, [12513, 12460, 12488, 12531]),
   (13133, [12513, 12540, 12488, 12523]), (13134, [12516, 12540, 12489]),
   (13135, [12516, 12540, 12523]), (13136, [12518, 12450, 12531]),
   (13137, [12522, 12483, 12488, 12523]), (13138, [12522, 12521])]

def mappingTexts4 : List (Nat × List Nat) :=
  [(13139, [12523, 12500, 12540]), (13140, [12523, 12540, 12502, 12523]),
   (13141, [12524, 12512]), (13142, [12524, 12531, 12488, 12466, 12531]),
   (13143, [12527, 12483, 12488]), (13144, [48, 28857]), (13145, [49, 28857]),
   (13146, [50, 28857]), (13147, [51, 28857]), (13148, [52, 28857]), (13149, [53, 28857]),
   (13150, [54, 28857]), (13151, [55, 28857]), (13152, [56, 28857]), (13153, [57, 28857]),
   (13154, [49, 48, 28857]), (13155, [49, 49, 28857]), (13156, [49, 50, 28857]),
   (13157, [49, 51, 28857]), (13158, [49, 52, 28857]), (13159, [49, 53, 28857]),
   (13160, [49, 54, 28857]), (13161, [49, 55, 28857]), (13162, [49, 56, 28857]),
   (13163, [49, 57, 28857]), (13164, [50, 48, 28857]), (13165, [50, 49, 28857]),
   (13166, [50, 50, 28857]), (13167, [50, 51, 28857]), (13168, [50, 52, 28857]),
   (13169, [104, 112, 97]), (13170, [100, 97]), (13171, [97, 117]), (13172, [98, 97, 114]),
   (13173, [111, 118]), (13174, [112, 99]), (13175, [100, 109]), (13176, [100, 109, 50]),
   (13177, [100, 109, 51]), (13178, [105, 117]), (13179, [24179, 25104]),
   (13180, [26157, 21644]), (13181, [22823, 27491]), (13182, [26126, 27835]),
   (13183, [26666, 24335, 20250, 31038]), (13184, [112, 97]), (13185, [110, 97]),
   (13186, [956, 97]), (13187, [109, 97]), (13188, [107, 97]), (13189, [107, 98]),
   (13190, [109, 98]), (13191, [103, 98]), (13192, [99, 97, 108]), (13193, [107, 99, 97, 108]),
   (13194, [112, 102]), (13195, [110, 102]), (13196, [956, 102]), (13197, [956, 103]),
   (13198, [109, 103]), (13199, [107, 103]), (13200, [104, 122]), (13201, [107, 104, 122]),
   (13202, [109, 104, 122]), (13203, [103, 104, 122]), (13204, [116, 104, 122]),
   (13205, [956, 108]), (13206, [109, 108]), (13207, [100, 108]), (13208, [107, 108]),
   (13209, [102, 109]), (13210, [110, 109]), (13211, [956, 109]), (13212, [109, 109]),
   (13213, [99, 109]), (13214, [107, 109]), (13215, [109, 109, 50]), (13216, [99, 109, 50]),
   (13217, [109, 50]), (13218, [107, 109, 50]), (13219, [109, 109, 51]), (13220, [99, 109, 51]),
   (13221, [109, 51]), (13222, [107, 109, 51]), (13223, [109, 8725, 115]),
   (13224, [109, 8725, 115, 50]), (13225, [112, 97]), (13226, [107, 112, 97]),
   (13227, [109, 112, 97]), (13228, [103, 112, 97]), (13229, [114, 97, 100]),
   (13230, [114, 97, 100, 8725, 115]), (13231, [114, 97, 100, 8725, 115, 50]),
   (13232, [112, 115]), (13233, [110, 115]), (13234, [956, 115]), (13235, [109, 115]),
   (13236, [112, 118]), (13237, [110, 118]), (13238, [956, 118]), (13239, [109, 118]),
   (13240, [107, 118]), (13241, [109, 118]), (13242, [112, 119]), (13243, [110, 119]),
   (13244, [956, 119]), (13245, [109, 119]), (13246, [107, 119]), (13247, [109, 119]),
   (13248, [107, 969]), (13249, [109, 969]), (13251, [98, 113]), (13252, [99, 99]),
   (13253, [99, 100]), (13254, [99, 8725, 107, 103]), (13256, [100, 98]), (13257, [103, 121]),
   (13258, [104, 97]), (13259, [104, 112]), (13260, [105, 110]), (13261, [107, 107]),
   (13262, [107, 109]), (13263, [107, 116]), (13264, [108, 109]), (13265, [108, 110]),
   (13266, [108, 111, 103]), (13267, [108, 120]), (13268, [109, 98]), (13269, [109, 105, 108]),
   (13270, [109, 111, 108]), (13271, [112, 104]), (13273, [112, 112, 109]), (13274, [112, 114]),
   (13275, [115, 114]), (13276, [115, 118]), (13277, [119, 98]), (13278, [118, 8725, 109]),
   (13279, [97, 8725, 109]), (13280, [49, 26085]), (13281, [50, 26085]), (13282, [51, 26085]),
   (13283, [52, 26085]), (13284, [53, 26085]), (13285, [54, 26085]), (13286, [55, 26085]),
   (13287, [56, 26085]), (13288, [57, 26085]), (13289, [49, 48, 26085]),
   (13290, [49, 49, 26085]), (13291, [49, 50, 26085])]

def mappingTexts5 : List (Nat × List Nat) :=
  [(13292, [49, 51, 26085]), (13293, [49, 52, 26085]), (13294, [49, 53, 26085]),
   (13295, [49, 54, 26085]), (13296, [49, 55, 26085]), (13297, [49, 56, 26085]),
   (13298, [49, 57, 26085]), (13299, [50, 48, 26085]), (13300, [50, 49, 26085]),
   (13301, [50, 50, 26085]), (13302, [50, 51, 26085]), (13303, [50, 52, 26085]),
   (13304, [50, 53, 26085]), (13305, [50, 54, 26085]), (13306, [50, 55, 26085]),
   (13307, [50, 56, 26085]), (13308, [50, 57, 26085]), (13309, [51, 48, 26085]),
   (13310, [51, 49, 26085]), (13311, [103, 97, 108]), (64256, [102, 102]), (64257, [102, 105]),
   (64258, [102, 108]), (64259, [102, 102, 105]), (64260, [102, 102, 108]), (64261, [115, 116]),
   (64262, [115, 116]), (64275, [1396, 1398]), (64276, [1396, 1381]), (64277, [1396, 1387]),
   (64278, [1406, 1398]), (64279, [1396, 1389]), (64335, [1488, 1500]), (64477, [1735, 1652]),
   (64490, [1574, 1575]), (64491, [1574, 1575]), (64492, [1574, 1749]), (64493, [1574, 1749]),
   (64494, [1574, 1608]), (64495, [1574, 1608]), (64496, [1574, 1735]), (64497, [1574, 1735]),
   (64498, [1574, 1734]), (64499, [1574, 1734]), (64500, [1574, 1736]), (64501, [1574, 1736]),
   (64502, [1574, 1744]), (64503, [1574, 1744]), (64504, [1574, 1744]), (64505, [1574, 1609]),
   (64506, [1574, 1609]), (64507, [1574, 1609]), (64512, [1574, 1580]), (64513, [1574, 1581]),
   (64514, [1574, 1605]), (64515, [1574, 1609]), (64516, [1574, 1610]), (64517, [1576, 1580]),
   (64518, [1576, 1581]), (64519, [1576, 1582]), (64520, [1576, 1605]), (64521, [1576, 1609]),
   (64522, [1576, 1610]), (64523, [1578, 1580]), (64524, [1578, 1581]), (64525, [1578, 1582]),
   (64526, [1578, 1605]), (64527, [1578, 1609]), (64528, [1578, 1610]), (64529, [1579, 1580]),
   (64530, [1579, 1605]), (64531, [1579, 1609]), (64532, [1579, 1610]), (64533, [1580, 1581]),
   (64534, [1580, 1605]), (64535, [1581, 1580]), (64536, [1581, 1605]), (64537, [1582, 1580]),
   (64538, [1582, 1581]), (64539, [1582, 1605]), (64540, [1587, 1580]), (64541, [1587, 1581]),
   (64542, [1587, 1582]), (64543, [1587, 1605]), (64544, [1589, 1581]), (64545, [1589, 1605]),
   (64546, [1590, 1580]), (64547, [1590, 1581]), (64548, [1590, 1582]), (64549, [1590, 1605]),
   (64550, [1591, 1581]), (64551, [1591, 1605]), (64552, [1592, 1605]), (64553, [1593, 1580]),
   (64554, [1593, 1605]), (64555, [1594, 1580]), (64556, [1594, 1605]), (64557, [1601, 1580]),
   (64558, [1601, 1581]), (64559, [1601, 1582]), (64560, [1601, 1605]), (64561, [1601, 1609]),
   (64562, [1601, 1610]), (64563, [1602, 1581]), (64564, [1602, 1605]), (64565, [1602, 1609]),
   (64566, [1602, 1610]), (64567, [1603, 1575]), (64568, [1603, 1580]), (64569, [1603, 1581]),
   (64570, [1603, 1582]), (64571, [1603, 1604]), (64572, [1603, 1605]), (64573, [1603, 1609]),
   (64574, [1603, 1610]), (64575, [1604, 1580]), (64576, [1604, 1581]), (64577, [1604, 1582]),
   (64578, [1604, 1605]), (64579, [1604, 1609]), (64580, [1604, 1610]), (64581, [1605, 1580]),
   (64582, [1605, 1581]), (64583, [1605, 1582]), (64584, [1605, 1605]), (64585, [1605, 1609]),
   (64586, [1605, 1610]), (64587, [1606, 1580]), (64588, [1606, 1581]), (64589, [1606, 1582]),
   (64590, [1606, 1605]), (64591, [1606, 1609]), (64592, [1606, 1610]), (64593, [1607, 1580]),
   (64594, [1607, 1605]), (64595, [1607, 1609]), (64596, [1607, 1610]), (64597, [1610, 1580]),
   (64598, [1610, 1581]), (64599, [1610, 1582]), (64600, [1610, 1605]), (64601, [1610, 1609]),
   (64602, [1610, 1610]), (64603, [1584, 1648]), (64604, [1585, 1648]), (64605, [1609, 1648]),
   (64606, [32, 1612, 1617]), (64607, [32, 1613, 1617]), (64608, [32, 1614, 1617]),
   (64609, [32, 1615, 1617])]

def mappingTexts6 : List (Nat × List Nat) :=
  [(64610, [32, 1616, 1617]), (64611, [32, 1617, 1648]), (64612, [1574, 1585]),
   (64613, [1574, 1586]), (64614, [1574, 1605]), (64615, [1574, 1606]), (64616, [1574, 1609]),
   (64617, [1574, 1610]), (64618, [1576, 1585]), (64619, [1576, 1586]), (64620, [1576, 1605]),
   (64621, [1576, 1606]), (64622, [1576, 1609]), (64623, [1576, 1610]), (64624, [1578, 1585]),
   (64625, [1578, 1586]), (64626, [1578, 1605]), (64627, [1578, 1606]), (64628, [1578, 1609]),
   (64629, [1578, 1610]), (64630, [1579, 1585]), (64631, [1579, 1586]), (64632, [1579, 1605]),
   (64633, [1579, 1606]), (64634, [1579, 1609]), (64635, [1579, 1610]), (64636, [1601, 1609]),
   (64637, [1601, 1610]), (64638, [1602, 1609]), (64639, [1602, 1610]), (64640, [1603, 1575]),
   (64641, [1603, 1604]), (64642, [1603, 1605]), (64643, [1603, 1609]), (64644, [1603, 1610]),
   (64645, [1604, 1605]), (64646, [1604, 1609]), (64647, [1604, 1610]), (64648, [1605, 1575]),
   (64649, [1605, 1605]), (64650, [1606, 1585]), (64651, [1606, 1586]), (64652, [1606, 1605]),
   (64653, [1606, 1606]), (64654, [1606, 1609]), (64655, [1606, 1610]), (64656, [1609, 1648]),
   (64657, [1610, 1585]), (64658, [1610, 1586]), (64659, [1610, 1605]), (64660, [1610, 1606]),
   (64661, [1610, 1609]), (64662, [1610, 1610]), (64663, [1574, 1580]), (64664, [1574, 1581]),
   (64665, [1574, 1582]), (64666, [1574, 1605]), (64667, [1574, 1607]), (64668, [1576, 1580]),
   (64669, [1576, 1581]), (64670, [1576, 1582]), (64671, [1576, 1605]), (64672, [1576, 1607]),
   (64673, [1578, 1580]), (64674, [1578, 1581]), (64675, [1578, 1582]), (64676, [1578, 1605]),
   (64677, [1578, 1607]), (64678, [1579, 1605]), (64679, [1580, 1581]), (64680, [1580, 1605]),
   (64681, [1581, 1580]), (64682, [1581, 1605]), (64683, [1582, 1580]), (64684, [1582, 1605]),
   (64685, [1587, 1580]), (64686, [1587, 1581]), (64687, [1587, 1582]), (64688, [1587, 1605]),
   (64689, [1589, 1581]), (64690, [1589, 1582]), (64691, [1589, 1605]), (64692, [1590, 1580]),
   (64693, [1590, 1581]), (64694, [1590, 1582]), (64695, [1590, 1605]), (64696, [1591, 1581]),
   (64697, [1592, 1605]), (64698, [1593, 1580]), (64699, [1593, 1605]), (64700, [1594, 1580]),
   (64701, [1594, 1605]), (64702, [1601, 1580]), (64703, [1601, 1581]), (64704, [1601, 1582]),
   (64705, [1601, 1605]), (64706, [1602, 1581]), (64707, [1602, 1605]), (64708, [1603, 1580]),
   (64709, [1603, 1581]), (64710, [1603, 1582]), (64711, [1603, 1604]), (64712, [1603, 1605]),
   (64713, [1604, 1580]), (64714, [1604, 1581]), (64715, [1604, 1582]), (64716, [1604, 1605]),
   (64717, [1604, 1607]), (64718, [1605, 1580]), (64719, [1605, 1581]), (64720, [1605, 1582]),
   (64721, [1605, 1605]), (64722, [1606, 1580]), (64723, [1606, 1581]), (64724, [1606, 1582]),
   (64725, [1606, 1605]), (64726, [1606, 1607]), (64727, [1607, 1580]), (64728, [1607, 1605]),
   (64729, [1607, 1648]), (64730, [1610, 1580]), (64731, [1610, 1581]), (64732, [1610, 1582]),
   (64733, [1610, 1605]), (64734, [1610, 1607]), (64735, [1574, 1605]), (64736, [1574, 1607]),
   (64737, [1576, 1605]), (64738, [1576, 1607]), (64739, [1578, 1605]), (64740, [1578, 1607]),
   (64741, [1579, 1605]), (64742, [1579, 1607]), (64743, [1587, 1605]), (64744, [1587, 1607]),
   (64745, [1588, 1605]), (64746, [1588, 1607]), (64747, [1603, 1604]), (64748, [1603, 1605]),
   (64749, [1604, 1605]), (64750, [1606, 1605]), (64751, [1606, 1607]), (64752, [1610, 1605]),
   (64753, [1610, 1607]), (64754, [1600, 1614, 1617]), (64755, [1600, 1615, 1617]),
   (64756, [1600, 1616, 1617]), (64757, [1591, 1609]), (64758, [1591, 1610]),
   (64759, [1593, 1609])]

def mappingTexts7 : List (Nat × List Nat) :=
  [(64760, [1593, 1610]), (64761, [1594, 1609]), (64762, [1594, 1610]), (64763, [1587, 1609]),
   (64764, [1587, 1610]), (64765, [1588, 1609]), (64766, [1588, 1610]), (64767, [1581, 1609]),
   (64768, [1581, 1610]), (64769, [1580, 1609]), (64770, [1580, 1610]), (64771, [1582, 1609]),
   (64772, [1582, 1610]), (64773, [1589, 1609]), (64774, [1589, 1610]), (64775, [1590, 1609]),
   (64776, [1590, 1610]), (64777, [1588, 1580]), (64778, [1588, 1581]), (64779, [1588, 1582]),
   (64780, [1588, 1605]), (64781, [1588, 1585]), (64782, [1587, 1585]), (64783, [1589, 1585]),
   (64784, [1590, 1585]), (64785, [1591, 1609]), (64786, [1591, 1610]), (64787, [1593, 1609]),
   (64788, [1593, 1610]), (64789, [1594, 1609]), (64790, [1594, 1610]), (64791, [1587, 1609]),
   (64792, [1587, 1610]), (64793, [1588, 1609]), (64794, [1588, 1610]), (64795, [1581, 1609]),
   (64796, [1581, 1610]), (64797, [1580, 1609]), (64798, [1580, 1610]), (64799, [1582, 1609]),
   (64800, [1582, 1610]), (64801, [1589, 1609]), (64802, [1589, 1610]), (64803, [1590, 1609]),
   (64804, [1590, 1610]), (64805, [1588, 1580]), (64806, [1588, 1581]), (64807, [1588, 1582]),
   (64808, [1588, 1605]), (64809, [1588, 1585]), (64810, [1587, 1585]), (64811, [1589, 1585]),
   (64812, [1590, 1585]), (64813, [1588, 1580]), (64814, [1588, 1581]), (64815, [1588, 1582]),
   (64816, [1588, 1605]), (64817, [1587, 1607]), (64818, [1588, 1607]), (64819, [1591, 1605]),
   (64820, [1587, 1580]), (64821, [1587, 1581]), (64822, [1587, 1582]), (64823, [1588, 1580]),
   (64824, [1588, 1581]), (64825, [1588, 1582]), (64826, [1591, 1605]), (64827, [1592, 1605]),
   (64828, [1575, 1611]), (64829, [1575, 1611]), (64848, [1578, 1580, 1605]),
   (64849, [1578, 1581, 1580]), (64850, [1578, 1581, 1580]), (64851, [1578, 1581, 1605]),
   (64852, [1578, 1582, 1605]), (64853, [1578, 1605, 1580]), (64854, [1578, 1605, 1581]),
   (64855, [1578, 1605, 1582]), (64856, [1580, 1605, 1581]), (64857, [1580, 1605, 1581]),
   (64858, [1581, 1605, 1610]), (64859, [1581, 1605, 1609]), (64860, [1587, 1581, 1580]),
   (64861, [1587, 1580, 1581]), (64862, [1587, 1580, 1609]), (64863, [1587, 1605, 1581]),
   (64864, [1587, 1605, 1581]), (64865, [1587, 1605, 1580]), (64866, [1587, 1605, 1605]),
   (64867, [1587, 1605, 1605]), (64868, [1589, 1581, 1581]), (64869, [1589, 1581, 1581]),
   (64870, [1589, 1605, 1605]), (64871, [1588, 1581, 1605]), (64872, [1588, 1581, 1605]),
   (64873, [1588, 1580, 1610]), (64874, [1588, 1605, 1582]), (64875, [1588, 1605, 1582]),
   (64876, [1588, 1605, 1605]), (64877, [1588, 1605, 1605]), (64878, [1590, 1581, 1609]),
   (64879, [1590, 1582, 1605]), (64880, [1590, 1582, 1605]), (64881, [1591, 1605, 1581]),
   (64882, [1591, 1605, 1581]), (64883, [1591, 1605, 1605]), (64884, [1591, 1605, 1610]),
   (64885, [1593, 1580, 1605]), (64886, [1593, 1605, 1605]), (64887, [1593, 1605, 1605]),
   (64888, [1593, 1605, 1609]), (64889, [1594, 1605, 1605]), (64890, [1594, 1605, 1610]),
   (64891, [1594, 1605, 1609]), (64892, [1601, 1582, 1605]), (64893, [1601, 1582, 1605]),
   (64894, [1602, 1605, 1581]), (64895, [1602, 1605, 1605]), (64896, [1604, 1581, 1605]),
   (64897, [1604, 1581, 1610]), (64898, [1604, 1581, 1609]), (64899, [1604, 1580, 1580]),
   (64900, [1604, 1580, 1580]), (64901, [1604, 1582, 1605]), (64902, [1604, 1582, 1605]),
   (64903, [1604, 1605, 1581]), (64904, [1604, 1605, 1581]), (64905, [1605, 1581, 1580]),
   (64906, [1605, 1581, 1605]), (64907, [1605, 1581, 1610]), (64908, [1605, 1580, 1581]),
   (64909, [1605, 1580, 1605]), (64910, [1605, 1582, 1580]), (64911, [1605, 1582, 1605]),
   (64914, [1605, 1580, 1582]), (64915, [1607, 1605, 1580]), (64916, [1607, 1605, 1605]),
   (64917, [1606, 1581, 1605]), (64918, [1606, 1581, 1609]), (64919, [1606, 1580, 1605]),
   (64920, [1606, 1580, 1605]), (64921, [1606, 1580, 1609]), (64922, [1606, 1605, 1610]),
   (64923, [1606, 1605, 1609]), (64924, [1610, 1605, 1605]), (64925, [1610, 1605, 1605]),
   (64926, [1576, 1582, 1610]), (64927, [1578, 1580, 1610]), (64928, [1578, 1580, 1609]),
   (64929, [1578, 1582, 1610])]

def mappingTexts8 : List (Nat × List Nat) :=
  [(64930, [1578, 1582, 1609]), (64931, [1578, 1605, 1610]), (64932, [1578, 1605, 1609]),
   (64933, [1580, 1605, 1610]), (64934, [1580, 1581, 1609]), (64935, [1580, 1605, 1609]),
   (64936, [1587, 1582, 1609]), (64937, [1589, 1581, 1610]), (64938, [1588, 1581, 1610]),
   (64939, [1590, 1581, 1610]), (64940, [1604, 1580, 1610]), (64941, [1604, 1605, 1610]),
   (64942, [1610, 1581, 1610]), (64943, [1610, 1580, 1610]), (64944, [1610, 1605, 1610]),
   (64945, [1605, 1605, 1610]), (64946, [1602, 1605, 1610]), (64947, [1606, 1581, 1610]),
   (64948, [1602, 1605, 1581]), (64949, [1604, 1581, 1605]), (64950, [1593, 1605, 1610]),
   (64951, [1603, 1605, 1610]), (64952, [1606, 1580, 1581]), (64953, [1605, 1582, 1610]),
   (64954, [1604, 1580, 1605]), (64955, [1603, 1605, 1605]), (64956, [1604, 1580, 1605]),
   (64957, [1606, 1580, 1581]), (64958, [1580, 1581, 1610]), (64959, [1581, 1580, 1610]),
   (64960, [1605, 1580, 1610]), (64961, [1601, 1605, 1610]), (64962, [1576, 1581, 1610]),
   (64963, [1603, 1605, 1605]), (64964, [1593, 1580, 1605]), (64965, [1589, 1605, 1605]),
   (64966, [1587, 1582, 1610]), (64967, [1606, 1580, 1610]), (65008, [1589, 1604, 1746]),
   (65009, [1602, 1604, 1746]), (65010, [1575, 1604, 1604, 1607]),
   (65011, [1575, 1603, 1576, 1585]), (65012, [1605, 1581, 1605, 1583]),
   (65013, [1589, 1604, 1593, 1605]), (65014, [1585, 1587, 1608, 1604]),
   (65015, [1593, 1604, 1610, 1607]), (65016, [1608, 1587, 1604, 1605]),
   (65017, [1589, 1604, 1609]),
   (65018, [1589, 1604, 1609, 32, 1575, 1604, 1604, 1607, 32, 1593, 1604, 1610, 1607, 32, 1608,
    1587, 1604, 1605]),
   (65019, [1580, 1604, 32, 1580, 1604, 1575, 1604, 1607]), (65020, [1585, 1740, 1575, 1604]),
   (65097, [32, 773]), (65098, [32, 773]), (65099, [32, 773]), (65100, [32, 773]),
   (65136, [32, 1611]), (65137, [1600, 1611]), (65138, [32, 1612]), (65140, [32, 1613]),
   (65142, [32, 1614]), (65143, [1600, 1614]), (65144, [32, 1615]), (65145, [1600, 1615]),
   (65146, [32, 1616]), (65147, [1600, 1616]), (65148, [32, 1617]), (65149, [1600, 1617]),
   (65150, [32, 1618]), (65151, [1600, 1618]), (65269, [1604, 1570]), (65270, [1604, 1570]),
   (65271, [1604, 1571]), (65272, [1604, 1571]), (65273, [1604, 1573]), (65274, [1604, 1573]),
   (65275, [1604, 1575]), (65276, [1604, 1575]), (65507, [32, 772]), (127233, [48, 44]),
   (127234, [49, 44]), (127235, [50, 44]), (127236, [51, 44]), (127237, [52, 44]),
   (127238, [53, 44]), (127239, [54, 44]), (127240, [55, 44]), (127241, [56, 44]),
   (127242, [57, 44]), (127248, [40, 97, 41]), (127249, [40, 98, 41]), (127250, [40, 99, 41]),
   (127251, [40, 100, 41]), (127252, [40, 101, 41]), (127253, [40, 102, 41]),
   (127254, [40, 103, 41]), (127255, [40, 104, 41]), (127256, [40, 105, 41]),
   (127257, [40, 106, 41]), (127258, [40, 107, 41]), (127259, [40, 108, 41]),
   (127260, [40, 109, 41]), (127261, [40, 110, 41]), (127262, [40, 111, 41]),
   (127263, [40, 112, 41]), (127264, [40, 113, 41]), (127265, [40, 114, 41]),
   (127266, [40, 115, 41]), (127267, [40, 116, 41]), (127268, [40, 117, 41]),
   (127269, [40, 118, 41]), (127270, [40, 119, 41]), (127271, [40, 120, 41]),
   (127272, [40, 121, 41]), (127273, [40, 122, 41]), (127274, [12308, 115, 12309]),
   (127277, [99, 100]), (127278, [119, 122]), (127306, [104, 118]), (127307, [109, 118]),
   (127308, [115, 100]), (127309, [115, 115]), (127310, [112, 112, 118]), (127311, [119, 99]),
   (127338, [109, 99]), (127339, [109, 100]), (127340, [109, 114]), (127376, [100, 106]),
   (127488, [12411, 12363]), (127489, [12467, 12467]), (127552, [12308, 26412, 12309]),
   (127553, [12308, 19977, 12309]), (127554, [12308, 20108, 12309]),
   (127555, [12308, 23433, 12309]), (127556, [12308, 28857, 12309]),
   (127557, [12308, 25171, 12309]), (127558, [12308, 30423, 12309]),
   (127559, [12308, 21213, 12309]), (127560, [12308, 25943, 12309])]

/-- Mappings to several characters or to none. -/
def mappingTexts : List (Nat × List Nat) :=
  mappingTexts1 ++ mappingTexts2 ++ mappingTexts3 ++ mappingTexts4 ++ mappingTexts5 ++
    mappingTexts6 ++ mappingTexts7 ++ mappingTexts8

/-- Code points that are left out. -/
def ignoredRanges : List (Nat × Nat) :=
  [(0xAD, 0xAD), (0x34F, 0x34F), (0x115F, 0x1160), (0x17B4, 0x17B5), (0x180B, 0x180F),
   (0x200B, 0x200B), (0x2060, 0x2064), (0x206A, 0x206F), (0x3164, 0x3164), (0xFE00, 0xFE0F),
   (0xFEFF, 0xFEFF), (0xFFA0, 0xFFA0), (0x1BCA0, 0x1BCA3), (0x1D173, 0x1D17A),
   (0xE0100, 0xE01EF)]

def disallowedRangesA : List (Nat × Nat) :=
  [(0x80, 0x9F), (0x378, 0x379), (0x380, 0x383), (0x38B, 0x38B), (0x38D, 0x38D), (0x3A2, 0x3A2),
   (0x530, 0x530), (0x557, 0x558), (0x58B, 0x58C), (0x590, 0x590), (0x5C8, 0x5CF),
   (0x5EB, 0x5EE), (0x5F5, 0x605), (0x61C, 0x61C), (0x6DD, 0x6DD), (0x70E, 0x70F),
   (0x74B, 0x74C), (0x7B2, 0x7BF), (0x7FB, 0x7FC), (0x82E, 0x82F), (0x83F, 0x83F),
   (0x85C, 0x85D), (0x85F, 0x85F), (0x86B, 0x86F), (0x890, 0x896), (0x8E2, 0x8E2),
   (0x984, 0x984), (0x98D, 0x98E), (0x991, 0x992), (0x9A9, 0x9A9), (0x9B1, 0x9B1),
   (0x9B3, 0x9B5), (0x9BA, 0x9BB), (0x9C5, 0x9C6), (0x9C9, 0x9CA), (0x9CF, 0x9D6),
   (0x9D8, 0x9DB), (0x9DE, 0x9DE), (0x9E4, 0x9E5), (0x9FF, 0xA00), (0xA04, 0xA04),
   (0xA0B, 0xA0E), (0xA11, 0xA12), (0xA29, 0xA29), (0xA31, 0xA31), (0xA34, 0xA34),
   (0xA37, 0xA37), (0xA3A, 0xA3B), (0xA3D, 0xA3D), (0xA43, 0xA46), (0xA49, 0xA4A),
   (0xA4E, 0xA50), (0xA52, 0xA58), (0xA5D, 0xA5D), (0xA5F, 0xA65), (0xA77, 0xA80),
   (0xA84, 0xA84), (0xA8E, 0xA8E), (0xA92, 0xA92), (0xAA9, 0xAA9), (0xAB1, 0xAB1),
   (0xAB4, 0xAB4), (0xABA, 0xABB), (0xAC6, 0xAC6), (0xACA, 0xACA), (0xACE, 0xACF),
   (0xAD1, 0xADF), (0xAE4, 0xAE5), (0xAF2, 0xAF8), (0xB00, 0xB00), (0xB04, 0xB04),
   (0xB0D, 0xB0E), (0xB11, 0xB12), (0xB29, 0xB29), (0xB31, 0xB31), (0xB34, 0xB34),
   (0xB3A, 0xB3B), (0xB45, 0xB46), (0xB49, 0xB4A), (0xB4E, 0xB54), (0xB58, 0xB5B),
   (0xB5E, 0xB5E), (0xB64, 0xB65), (0xB78, 0xB81), (0xB84, 0xB84), (0xB8B, 0xB8D),
   (0xB91, 0xB91), (0xB96, 0xB98), (0xB9B, 0xB9B), (0xB9D, 0xB9D), (0xBA0, 0xBA2),
   (0xBA5, 0xBA7), (0xBAB, 0xBAD), (0xBBA, 0xBBD), (0xBC3, 0xBC5), (0xBC9, 0xBC9),
   (0xBCE, 0xBCF), (0xBD1, 0xBD6), (0xBD8, 0xBE5), (0xBFB, 0xBFF), (0xC0D, 0xC0D),
   (0xC11, 0xC11), (0xC29, 0xC29), (0xC3A, 0xC3B), (0xC45, 0xC45), (0xC49, 0xC49),
   (0xC4E, 0xC54), (0xC57, 0xC57), (0xC5B, 0xC5B), (0xC5E, 0xC5F), (0xC64, 0xC65),
   (0xC70, 0xC76), (0xC8D, 0xC8D), (0xC91, 0xC91), (0xCA9, 0xCA9), (0xCB4, 0xCB4),
   (0xCBA, 0xCBB), (0xCC5, 0xCC5), (0xCC9, 0xCC9), (0xCCE, 0xCD4), (0xCD7, 0xCDB),
   (0xCDF, 0xCDF), (0xCE4, 0xCE5), (0xCF0, 0xCF0), (0xCF4, 0xCFF), (0xD0D, 0xD0D),
   (0xD11, 0xD11), (0xD45, 0xD45), (0xD49, 0xD49), (0xD50, 0xD53), (0xD64, 0xD65),
   (0xD80, 0xD80), (0xD84, 0xD84), (0xD97, 0xD99), (0xDB2, 0xDB2), (0xDBC, 0xDBC),
   (0xDBE, 0xDBF), (0xDC7, 0xDC9), (0xDCB, 0xDCE), (0xDD5, 0xDD5), (0xDD7, 0xDD7),
   (0xDE0, 0xDE5), (0xDF0, 0xDF1), (0xDF5, 0xE00), (0xE3B, 0xE3E), (0xE5C, 0xE80),
   (0xE83, 0xE83), (0xE85, 0xE85), (0xE8B, 0xE8B), (0xEA4, 0xEA4), (0xEA6, 0xEA6),
   (0xEBE, 0xEBF), (0xEC5, 0xEC5), (0xEC7, 0xEC7), (0xECF, 0xECF), (0xEDA, 0xEDB),
   (0xEE0, 0xEFF), (0xF48, 0xF48), (0xF6D, 0xF70), (0xF98, 0xF98), (0xFBD, 0xFBD),
   (0xFCD, 0xFCD), (0xFDB, 0xFFF), (0x10C6, 0x10C6), (0x10C8, 0x10CC), (0x10CE, 0x10CF),
   (0x1249, 0x1249), (0x124E, 0x124F), (0x1257, 0x1257), (0x1259, 0x1259), (0x125E, 0x125F),
   (0x1289, 0x1289), (0x128E, 0x128F), (0x12B1, 0x12B1), (0x12B6, 0x12B7), (0x12BF, 0x12BF),
   (0x12C1, 0x12C1), (0x12C6, 0x12C7), (0x12D7, 0x12D7), (0x1311, 0x1311)]

def disallowedRangesB : List (Nat × Nat) :=
  [(0x1316, 0x1317), (0x135B, 0x135C), (0x137D, 0x137F), (0x139A, 0x139F), (0x13F6, 0x13F7),
   (0x13FE, 0x13FF), (0x1680, 0x1680), (0x169D, 0x169F), (0x16F9, 0x16FF), (0x1716, 0x171E),
   (0x1737, 0x173F), (0x1754, 0x175F), (0x176D, 0x176D), (0x1771, 0x1771), (0x1774, 0x177F),
   (0x17DE, 0x17DF), (0x17EA, 0x17EF), (0x17FA, 0x17FF), (0x181A, 0x181F), (0x1879, 0x187F),
   (0x18AB, 0x18AF), (0x18F6, 0x18FF), (0x191F, 0x191F), (0x192C, 0x192F), (0x193C, 0x193F),
   (0x1941, 0x1943), (0x196E, 0x196F), (0x1975, 0x197F), (0x19AC, 0x19AF), (0x19CA, 0x19CF),
   (0x19DB, 0x19DD), (0x1A1C, 0x1A1D), (0x1A5F, 0x1A5F), (0x1A7D, 0x1A7E), (0x1A8A, 0x1A8F),
   (0x1A9A, 0x1A9F), (0x1AAE, 0x1AAF), (0x1ADE, 0x1ADF), (0x1AEC, 0x1AFF), (0x1B4D, 0x1B4D),
   (0x1BF4, 0x1BFB), (0x1C38, 0x1C3A), (0x1C4A, 0x1C4C), (0x1C8B, 0x1C8F), (0x1CBB, 0x1CBC),
   (0x1CC8, 0x1CCF), (0x1CFB, 0x1CFF), (0x1F16, 0x1F17), (0x1F1E, 0x1F1F), (0x1F46, 0x1F47),
   (0x1F4E, 0x1F4F), (0x1F58, 0x1F58), (0x1F5A, 0x1F5A), (0x1F5C, 0x1F5C), (0x1F5E, 0x1F5E),
   (0x1F7E, 0x1F7F), (0x1FB5, 0x1FB5), (0x1FC5, 0x1FC5), (0x1FD4, 0x1FD5), (0x1FDC, 0x1FDC),
   (0x1FF0, 0x1FF1), (0x1FF5, 0x1FF5), (0x1FFF, 0x1FFF), (0x200E, 0x200F), (0x2024, 0x2026),
   (0x2028, 0x202E), (0x2065, 0x2069), (0x2072, 0x2073), (0x208F, 0x208F), (0x209D, 0x209F),
   (0x20C2, 0x20CF), (0x20F1, 0x20FF), (0x218C, 0x218F), (0x242A, 0x243F), (0x244B, 0x245F),
   (0x2488, 0x249B), (0x2B74, 0x2B75), (0x2CF4, 0x2CF8), (0x2D26, 0x2D26), (0x2D28, 0x2D2C),
   (0x2D2E, 0x2D2F), (0x2D68, 0x2D6E), (0x2D71, 0x2D7E), (0x2D97, 0x2D9F), (0x2DA7, 0x2DA7),
   (0x2DAF, 0x2DAF), (0x2DB7, 0x2DB7), (0x2DBF, 0x2DBF), (0x2DC7, 0x2DC7), (0x2DCF, 0x2DCF),
   (0x2DD7, 0x2DD7), (0x2DDF, 0x2DDF), (0x2E5E, 0x2E7F), (0x2E9A, 0x2E9A), (0x2EF4, 0x2EFF),
   (0x2FD6, 0x2FFF), (0x3040, 0x3040), (0x3097, 0x3098), (0x3100, 0x3104), (0x3130, 0x3130),
   (0x318F, 0x318F), (0x31E6, 0x31EF), (0x321F, 0x321F), (0x33C2, 0x33C2), (0x33C7, 0x33C7),
   (0x33D8, 0x33D8), (0xA48D, 0xA48F), (0xA4C7, 0xA4CF), (0xA62C, 0xA63F), (0xA6F8, 0xA6FF),
   (0xA7DD, 0xA7F0), (0xA82D, 0xA82F), (0xA83A, 0xA83F), (0xA878, 0xA87F), (0xA8C6, 0xA8CD),
   (0xA8DA, 0xA8DF), (0xA954, 0xA95E), (0xA97D, 0xA97F), (0xA9CE, 0xA9CE), (0xA9DA, 0xA9DD),
   (0xA9FF, 0xA9FF), (0xAA37, 0xAA3F), (0xAA4E, 0xAA4F), (0xAA5A, 0xAA5B), (0xAAC3, 0xAADA),
   (0xAAF7, 0xAB00), (0xAB07, 0xAB08), (0xAB0F, 0xAB10), (0xAB17, 0xAB1F), (0xAB27, 0xAB27),
   (0xAB2F, 0xAB2F), (0xAB6C, 0xAB6F), (0xABEE, 0xABEF), (0xABFA, 0xABFF), (0xD7A4, 0xD7AF),
   (0xD7C7, 0xD7CA), (0xD7FC, 0xF8FF), (0xFA6E, 0xFA6F), (0xFADA, 0xFAFF), (0xFB07, 0xFB12),
   (0xFB18, 0xFB1C), (0xFB37, 0xFB37), (0xFB3D, 0xFB3D), (0xFB3F, 0xFB3F), (0xFB42, 0xFB42),
   (0xFB45, 0xFB45), (0xFDD0, 0xFDEF), (0xFE12, 0xFE12), (0xFE19, 0xFE1F), (0xFE30, 0xFE30),
   (0xFE52, 0xFE53), (0xFE67, 0xFE67), (0xFE6C, 0xFE6F), (0xFE75, 0xFE75), (0xFEFD, 0xFEFE),
   (0xFF00, 0xFF00), (0xFFBF, 0xFFC1), (0xFFC8, 0xFFC9), (0xFFD0, 0xFFD1), (0xFFD8, 0xFFD9),
   (0xFFDD, 0xFFDF), (0xFFE7, 0xFFE7), (0xFFEF, 0xFFFF), (0x1000C, 0x1000C), (0x10027, 0x10027),
   (0x1003B, 0x1003B), (0x1003E, 0x1003E), (0x1004E, 0x1004F), (0x1005E, 0x1007F),
   (0x100FB, 0x100FF), (0x10103, 0x10106), (0x10134, 0x10136), (0x1018F, 0x1018F),
   (0x1019D, 0x1019F), (0x101A1, 0x101CF), (0x101FE, 0x1027F), (0x1029D, 0x1029F),
   (0x102D1, 0x102DF), (0x102FC, 0x102FF), (0x10324, 0x1032C)]

def disallowedRangesC : List (Nat × Nat) :=
  [(0x1034B, 0x1034F), (0x1037B, 0x1037F), (0x1039E, 0x1039E), (0x103C4, 0x103C7),
   (0x103D6, 0x103FF), (0x1049E, 0x1049F), (0x104AA, 0x104AF), (0x104D4, 0x104D7),
   (0x104FC, 0x104FF), (0x10528, 0x1052F), (0x10564, 0x1056E), (0x1057B, 0x1057B),
   (0x1058B, 0x1058B), (0x10593, 0x10593), (0x10596, 0x10596), (0x105A2, 0x105A2),
   (0x105B2, 0x105B2), (0x105BA, 0x105BA), (0x105BD, 0x105BF), (0x105F4, 0x105FF),
   (0x10737, 0x1073F), (0x10756, 0x1075F), (0x10768, 0x1077F), (0x10786, 0x10786),
   (0x107B1, 0x107B1), (0x107BB, 0x107FF), (0x10806, 0x10807), (0x10809, 0x10809),
   (0x10836, 0x10836), (0x10839, 0x1083B), (0x1083D, 0x1083E), (0x10856, 0x10856),
   (0x1089F, 0x108A6), (0x108B0, 0x108DF), (0x108F3, 0x108F3), (0x108F6, 0x108FA),
   (0x1091C, 0x1091E), (0x1093A, 0x1093E), (0x1095A, 0x1097F), (0x109B8, 0x109BB),
   (0x109D0, 0x109D1), (0x10A04, 0x10A04), (0x10A07, 0x10A0B), (0x10A14, 0x10A14),
   (0x10A18, 0x10A18), (0x10A36, 0x10A37), (0x10A3B, 0x10A3E), (0x10A49, 0x10A4F),
   (0x10A59, 0x10A5F), (0x10AA0, 0x10ABF), (0x10AE7, 0x10AEA), (0x10AF7, 0x10AFF),
   (0x10B36, 0x10B38), (0x10B56, 0x10B57), (0x10B73, 0x10B77), (0x10B92, 0x10B98),
   (0x10B9D, 0x10BA8), (0x10BB0, 0x10BFF), (0x10C49, 0x10C7F), (0x10CB3, 0x10CBF),
   (0x10CF3, 0x10CF9), (0x10D28, 0x10D2F), (0x10D3A, 0x10D3F), (0x10D66, 0x10D68),
   (0x10D86, 0x10D8D), (0x10D90, 0x10E5F), (0x10E7F, 0x10E7F), (0x10EAA, 0x10EAA),
   (0x10EAE, 0x10EAF), (0x10EB2, 0x10EC1), (0x10EC8, 0x10ECF), (0x10ED9, 0x10EF9),
   (0x10F28, 0x10F2F), (0x10F5A, 0x10F6F), (0x10F8A, 0x10FAF), (0x10FCC, 0x10FDF),
   (0x10FF7, 0x10FFF), (0x1104E, 0x11051), (0x11076, 0x1107E), (0x110BD, 0x110BD),
   (0x110C3, 0x110CF), (0x110E9, 0x110EF), (0x110FA, 0x110FF), (0x11135, 0x11135),
   (0x11148, 0x1114F), (0x11177, 0x1117F), (0x111E0, 0x111E0), (0x111F5, 0x111FF),
   (0x11212, 0x11212), (0x11242, 0x1127F), (0x11287, 0x11287), (0x11289, 0x11289),
   (0x1128E, 0x1128E), (0x1129E, 0x1129E), (0x112AA, 0x112AF), (0x112EB, 0x112EF),
   (0x112FA, 0x112FF), (0x11304, 0x11304), (0x1130D, 0x1130E), (0x11311, 0x11312),
   (0x11329, 0x11329), (0x11331, 0x11331), (0x11334, 0x11334), (0x1133A, 0x1133A),
   (0x11345, 0x11346), (0x11349, 0x1134A), (0x1134E, 0x1134F), (0x11351, 0x11356),
   (0x11358, 0x1135C), (0x11364, 0x11365), (0x1136D, 0x1136F), (0x11375, 0x1137F),
   (0x1138A, 0x1138A), (0x1138C, 0x1138D), (0x1138F, 0x1138F), (0x113B6, 0x113B6),
   (0x113C1, 0x113C1), (0x113C3, 0x113C4), (0x113C6, 0x113C6), (0x113CB, 0x113CB),
   (0x113D6, 0x113D6), (0x113D9, 0x113E0), (0x113E3, 0x113FF), (0x1145C, 0x1145C),
   (0x11462, 0x1147F), (0x114C8, 0x114CF), (0x114DA, 0x1157F), (0x115B6, 0x115B7),
   (0x115DE, 0x115FF), (0x11645, 0x1164F), (0x1165A, 0x1165F), (0x1166D, 0x1167F),
   (0x116BA, 0x116BF), (0x116CA, 0x116CF), (0x116E4, 0x116FF), (0x1171B, 0x1171C),
   (0x1172C, 0x1172F), (0x11747, 0x117FF), (0x1183C, 0x1189F), (0x118F3, 0x118FE),
   (0x11907, 0x11908), (0x1190A, 0x1190B), (0x11914, 0x11914), (0x11917, 0x11917),
   (0x11936, 0x11936), (0x11939, 0x1193A), (0x11947, 0x1194F), (0x1195A, 0x1199F),
   (0x119A8, 0x119A9), (0x119D8, 0x119D9), (0x119E5, 0x119FF), (0x11A48, 0x11A4F),
   (0x11AA3, 0x11AAF), (0x11AF9, 0x11AFF), (0x11B0A, 0x11B5F), (0x11B68, 0x11BBF),
   (0x11BE2, 0x11BEF), (0x11BFA, 0x11BFF), (0x11C09, 0x11C09), (0x11C37, 0x11C37),
   (0x11C46, 0x11C4F), (0x11C6D, 0x11C6F), (0x11C90, 0x11C91), (0x11CA8, 0x11CA8),
   (0x11CB7, 0x11CFF), (0x11D07, 0x11D07), (0x11D0A, 0x11D0A), (0x11D37, 0x11D39),
   (0x11D3B, 0x11D3B), (0x11D3E, 0x11D3E), (0x11D48, 0x11D4F), (0x11D5A, 0x11D5F),
   (0x11D66, 0x11D66), (0x11D69, 0x11D69), (0x11D8F, 0x11D8F), (0x11D92, 0x11D92),
   (0x11D99, 0x11D9F), (0x11DAA, 0x11DAF), (0x11DDC, 0x11DDF), (0x11DEA, 0x11EDF)]

def disallowedRangesD : List (Nat × Nat) :=
  [(0x11EF9, 0x11EFF), (0x11F11, 0x11F11), (0x11F3B, 0x11F3D), (0x11F5B, 0x11FAF),
   (0x11FB1, 0x11FBF), (0x11FF2, 0x11FFE), (0x1239A, 0x123FF), (0x1246F, 0x1246F),
   (0x12475, 0x1247F), (0x12544, 0x12F8F), (0x12FF3, 0x12FFF), (0x13430, 0x1343F),
   (0x13456, 0x1345F), (0x143FB, 0x143FF), (0x14647, 0x160FF), (0x1613A, 0x167FF),
   (0x16A39, 0x16A3F), (0x16A5F, 0x16A5F), (0x16A6A, 0x16A6D), (0x16ABF, 0x16ABF),
   (0x16ACA, 0x16ACF), (0x16AEE, 0x16AEF), (0x16AF6, 0x16AFF), (0x16B46, 0x16B4F),
   (0x16B5A, 0x16B5A), (0x16B62, 0x16B62), (0x16B78, 0x16B7C), (0x16B90, 0x16D3F),
   (0x16D7A, 0x16E3F), (0x16E9B, 0x16E9F), (0x16EB9, 0x16EBA), (0x16ED4, 0x16EFF),
   (0x16F4B, 0x16F4E), (0x16F88, 0x16F8E), (0x16FA0, 0x16FDF), (0x16FE5, 0x16FEF),
   (0x16FF7, 0x16FFF), (0x18CD6, 0x18CFE), (0x18D1F, 0x18D7F), (0x18DF3, 0x1AFEF),
   (0x1AFF4, 0x1AFF4), (0x1AFFC, 0x1AFFC), (0x1AFFF, 0x1AFFF), (0x1B123, 0x1B131),
   (0x1B133, 0x1B14F), (0x1B153, 0x1B154), (0x1B156, 0x1B163), (0x1B168, 0x1B16F),
   (0x1B2FC, 0x1BBFF), (0x1BC6B, 0x1BC6F), (0x1BC7D, 0x1BC7F), (0x1BC89, 0x1BC8F),
   (0x1BC9A, 0x1BC9B), (0x1BCA4, 0x1CBFF), (0x1CCFD, 0x1CCFF), (0x1CEB4, 0x1CEB9),
   (0x1CED1, 0x1CEDF), (0x1CEF1, 0x1CEFF), (0x1CF2E, 0x1CF2F), (0x1CF47, 0x1CF4F),
   (0x1CFC4, 0x1CFFF), (0x1D0F6, 0x1D0FF), (0x1D127, 0x1D128), (0x1D1EB, 0x1D1FF),
   (0x1D246, 0x1D2BF), (0x1D2D4, 0x1D2DF), (0x1D2F4, 0x1D2FF), (0x1D357, 0x1D35F),
   (0x1D379, 0x1D3FF), (0x1D455, 0x1D455), (0x1D49D, 0x1D49D), (0x1D4A0, 0x1D4A1),
   (0x1D4A3, 0x1D4A4), (0x1D4A7, 0x1D4A8), (0x1D4AD, 0x1D4AD), (0x1D4BA, 0x1D4BA),
   (0x1D4BC, 0x1D4BC), (0x1D4C4, 0x1D4C4), (0x1D506, 0x1D506), (0x1D50B, 0x1D50C),
   (0x1D515, 0x1D515), (0x1D51D, 0x1D51D), (0x1D53A, 0x1D53A), (0x1D53F, 0x1D53F),
   (0x1D545, 0x1D545), (0x1D547, 0x1D549), (0x1D551, 0x1D551), (0x1D6A6, 0x1D6A7),
   (0x1D7CC, 0x1D7CD), (0x1DA8C, 0x1DA9A), (0x1DAA0, 0x1DAA0), (0x1DAB0, 0x1DEFF),
   (0x1DF1F, 0x1DF24), (0x1DF2B, 0x1DFFF), (0x1E007, 0x1E007), (0x1E019, 0x1E01A),
   (0x1E022, 0x1E022), (0x1E025, 0x1E025), (0x1E02B, 0x1E02F), (0x1E06E, 0x1E08E),
   (0x1E090, 0x1E0FF), (0x1E12D, 0x1E12F), (0x1E13E, 0x1E13F), (0x1E14A, 0x1E14D),
   (0x1E150, 0x1E28F), (0x1E2AF, 0x1E2BF), (0x1E2FA, 0x1E2FE), (0x1E300, 0x1E4CF),
   (0x1E4FA, 0x1E5CF), (0x1E5FB, 0x1E5FE), (0x1E600, 0x1E6BF), (0x1E6DF, 0x1E6DF),
   (0x1E6F6, 0x1E6FD), (0x1E700, 0x1E7DF), (0x1E7E7, 0x1E7E7), (0x1E7EC, 0x1E7EC),
   (0x1E7EF, 0x1E7EF), (0x1E7FF, 0x1E7FF), (0x1E8C5, 0x1E8C6), (0x1E8D7, 0x1E8FF),
   (0x1E94C, 0x1E94F), (0x1E95A, 0x1E95D), (0x1E960, 0x1EC70), (0x1ECB5, 0x1ED00),
   (0x1ED3E, 0x1EDFF), (0x1EE04, 0x1EE04), (0x1EE20, 0x1EE20), (0x1EE23, 0x1EE23),
   (0x1EE25, 0x1EE26), (0x1EE28, 0x1EE28), (0x1EE33, 0x1EE33), (0x1EE38, 0x1EE38),
   (0x1EE3A, 0x1EE3A), (0x1EE3C, 0x1EE41), (0x1EE43, 0x1EE46), (0x1EE48, 0x1EE48),
   (0x1EE4A, 0x1EE4A), (0x1EE4C, 0x1EE4C), (0x1EE50, 0x1EE50), (0x1EE53, 0x1EE53),
   (0x1EE55, 0x1EE56), (0x1EE58, 0x1EE58), (0x1EE5A, 0x1EE5A), (0x1EE5C, 0x1EE5C),
   (0x1EE5E, 0x1EE5E), (0x1EE60, 0x1EE60), (0x1EE63, 0x1EE63), (0x1EE65, 0x1EE66),
   (0x1EE6B, 0x1EE6B), (0x1EE73, 0x1EE73), (0x1EE78, 0x1EE78), (0x1EE7D, 0x1EE7D),
   (0x1EE7F, 0x1EE7F), (0x1EE8A, 0x1EE8A), (0x1EE9C, 0x1EEA0), (0x1EEA4, 0x1EEA4),
   (0x1EEAA, 0x1EEAA), (0x1EEBC, 0x1EEEF), (0x1EEF2, 0x1EFFF), (0x1F02C, 0x1F02F),
   (0x1F094, 0x1F09F), (0x1F0AF, 0x1F0B0), (0x1F0C0, 0x1F0C0), (0x1F0D0, 0x1F0D0),
   (0x1F0F6, 0x1F100), (0x1F1AE, 0x1F1E5), (0x1F203, 0x1F20F), (0x1F23C, 0x1F23F),
   (0x1F249, 0x1F24F), (0x1F252, 0x1F25F), (0x1F266, 0x1F2FF), (0x1F6D9, 0x1F6DB),
   (0x1F6ED, 0x1F6EF), (0x1F6FD, 0x1F6FF), (0x1F7DA, 0x1F7DF), (0x1F7EC, 0x1F7EF),
   (0x1F7F1, 0x1F7FF), (0x1F80C, 0x1F80F), (0x1F848, 0x1F84F), (0x1F85A, 0x1F85F)]

def disallowedRangesE : List (Nat × Nat) :=
  [(0x1F888, 0x1F88F), (0x1F8AE, 0x1F8AF), (0x1F8BC, 0x1F8BF), (0x1F8C2, 0x1F8CF),
   (0x1F8D9, 0x1F8FF), (0x1FA58, 0x1FA5F), (0x1FA6E, 0x1FA6F), (0x1FA7D, 0x1FA7F),
   (0x1FA8B, 0x1FA8D), (0x1FAC7, 0x1FAC7), (0x1FAC9, 0x1FACC), (0x1FADD, 0x1FADE),
   (0x1FAEB, 0x1FAEE), (0x1FAF9, 0x1FAFF), (0x1FB93, 0x1FB93), (0x1FBFB, 0x1FFFF),
   (0x2A6E0, 0x2A6FF), (0x2B81E, 0x2B81F), (0x2CEAE, 0x2CEAF), (0x2EBE1, 0x2EBEF),
   (0x2EE5E, 0x2F7FF), (0x2FA1E, 0x2FFFF), (0x3134B, 0x3134F), (0x3347A, 0xE00FF),
   (0xE01F0, 0x10FFFF)]

/-- Code points that no domain name has. -/
def disallowedRanges : List (Nat × Nat) :=
  disallowedRangesA ++ disallowedRangesB ++ disallowedRangesC ++ disallowedRangesD ++
    disallowedRangesE

/-- What becomes of a character in a domain name. -/
inductive Mapped where
  /-- It stays. -/
  | kept
  | replaced (image : List Char)
  | disallowed
  deriving Repr, DecidableEq

/-- The image of a code point in a run. -/
def runImage? (code : Nat) (run : Nat × Nat × Nat × Nat × Nat) : Option Nat :=
  let (first, count, step, image, imageStep) := run
  if first ≤ code ∧ code < first + count * step ∧ (code - first) % step = 0 then
    some (image + (code - first) / step * imageStep)
  else none

def mapped (c : Char) : Mapped :=
  let code := c.toNat
  match mappingRuns.findSome? (runImage? code) with
  | some image => .replaced [Char.ofNat image]
  | none =>
      match mappingTexts.lookup code with
      | some image => .replaced (image.map Char.ofNat)
      | none =>
          if Unicode.inRanges ignoredRanges code then .replaced []
          else if Unicode.inRanges disallowedRanges code then .disallowed
          else .kept

end ClusterBundle.Url.Domain
