/-!
Letter case of the characters: which single character is the capital or small letter of which, which
characters have several characters in their place, which have a case at all, and which are passed
over where the case of the letters around them is asked for.
-/

namespace BlockScript.CaseTable

/-- The characters from `first` to `last`, every one or every second one, that are turned into
the ones `shift` after them. -/
structure Run where
  first : Nat
  last : Nat
  stride : Nat
  shift : Int

def stretches (rs : List (Nat × Nat × Int)) : List Run := rs.map fun (n, m, shift) => ⟨n, m, 1, shift⟩

/-- Runs of a capital letter and its small letter in turn, by their first and last small letters. -/
def alternating (rs : List (Nat × Nat)) : List Run := rs.map fun (n, m) => ⟨n, m, 2, -1⟩

def singles (rs : List (Nat × Int)) : List Run := rs.map fun (n, shift) => ⟨n, n, 1, shift⟩

def Run.reverse (r : Run) : Run :=
  ⟨(r.first + r.shift).toNat, (r.last + r.shift).toNat, r.stride, -r.shift⟩

def pairs : List Run :=
  stretches [(97, 122, -32), (224, 246, -32), (248, 254, -32), (575, 576, 10815), (598, 599, -205),
    (650, 651, -217), (891, 893, 130), (941, 943, -37), (945, 961, -32), (963, 971, -32),
    (973, 974, -63), (1072, 1103, -32), (1104, 1119, -80), (1377, 1414, -48), (4304, 4346, 3008),
    (4349, 4351, 3008), (5112, 5117, -8), (7936, 7943, 8), (7952, 7957, 8), (7968, 7975, 8),
    (7984, 7991, 8), (8000, 8005, 8), (8032, 8039, 8), (8048, 8049, 74), (8050, 8053, 86),
    (8054, 8055, 100), (8056, 8057, 128), (8058, 8059, 112), (8060, 8061, 126), (8112, 8113, 8),
    (8144, 8145, 8), (8160, 8161, 8), (8560, 8575, -16), (9424, 9449, -26), (11312, 11359, -48),
    (11520, 11557, -7264), (43888, 43967, -38864), (65345, 65370, -32), (66600, 66639, -40),
    (66776, 66811, -40), (66967, 66977, -39), (66979, 66993, -39), (66995, 67001, -39),
    (67003, 67004, -39), (68800, 68850, -64), (71872, 71903, -32), (93792, 93823, -32),
    (125218, 125251, -34)] ++
  alternating [(257, 303), (307, 311), (314, 328), (331, 375), (378, 382), (387, 389), (417, 421),
    (436, 438), (462, 476), (479, 495), (505, 543), (547, 563), (583, 591), (881, 883), (985, 1007),
    (1121, 1153), (1163, 1215), (1218, 1230), (1233, 1327), (7681, 7829), (7841, 7935),
    (11368, 11372), (11393, 11491), (11500, 11502), (42561, 42605), (42625, 42651), (42787, 42799),
    (42803, 42863), (42874, 42876), (42879, 42887), (42897, 42899), (42903, 42921), (42933, 42947),
    (42952, 42954), (42967, 42969)] ++
  singles [(255, 121), (384, 195), (392, -1), (396, -1), (402, -1), (405, 97), (409, -1),
    (410, 163), (414, 130), (424, -1), (429, -1), (432, -1), (441, -1), (445, -1), (447, 56),
    (454, -2), (457, -2), (460, -2), (477, -79), (499, -2), (501, -1), (572, -1), (578, -1),
    (592, 10783), (593, 10780), (594, 10782), (595, -210), (596, -206), (601, -202), (603, -203),
    (604, 42319), (608, -205), (609, 42315), (611, -207), (613, 42280), (614, 42308), (616, -209),
    (617, -211), (618, 42308), (619, 10743), (620, 42305), (623, -211), (625, 10749), (626, -213),
    (629, -214), (637, 10727), (640, -218), (642, 42307), (643, -218), (647, 42282), (648, -218),
    (649, -69), (652, -71), (658, -219), (669, 42261), (670, 42258), (887, -1), (940, -38),
    (972, -64), (983, -8), (1010, 7), (1011, -116), (1016, -1), (1019, -1), (1231, -15),
    (7545, 35332), (7549, 3814), (7566, 35384), (8165, 7), (8526, -28), (8580, -1), (11361, -1),
    (11365, -10795), (11366, -10792), (11379, -1), (11382, -1), (11507, -1), (11559, -7264),
    (11565, -7264), (42892, -1), (42900, 48), (42961, -1), (42998, -1), (43859, -928)] ++
  [⟨8017, 8023, 2, 8⟩]

def capitals : List Run :=
  pairs ++
  stretches [(7299, 7300, -6242)] ++
  singles [(181, 743), (305, -232), (383, -300), (453, -1), (456, -1), (459, -1), (498, -1),
    (837, 84), (962, -31), (976, -62), (977, -57), (981, -47), (982, -54), (1008, -86), (1009, -80),
    (1013, -96), (7296, -6254), (7297, -6253), (7298, -6244), (7301, -6243), (7302, -6236),
    (7303, -6181), (7304, 35266), (7835, -59), (8126, -7205)]

/-- Small letters and then capital ones with an iota below, which stands behind the capital letter. -/
def iotas (first letter : Nat) : List (Nat × List Nat) :=
  (List.range 16).map fun i => (first + i, [letter + i % 8, 921])

def longCapitals : List (Nat × List Nat) :=
  iotas 8064 7944 ++ iotas 8080 7976 ++ iotas 8096 8040 ++
  [(223, [83, 83]), (329, [700, 78]), (496, [74, 780]), (912, [921, 776, 769]),
    (944, [933, 776, 769]), (1415, [1333, 1362]), (7830, [72, 817]), (7831, [84, 776]),
    (7832, [87, 778]), (7833, [89, 778]), (7834, [65, 702]), (8016, [933, 787]),
    (8018, [933, 787, 768]), (8020, [933, 787, 769]), (8022, [933, 787, 834]), (8114, [8122, 921]),
    (8115, [913, 921]), (8116, [902, 921]), (8118, [913, 834]), (8119, [913, 834, 921]),
    (8124, [913, 921]), (8130, [8138, 921]), (8131, [919, 921]), (8132, [905, 921]),
    (8134, [919, 834]), (8135, [919, 834, 921]), (8140, [919, 921]), (8146, [921, 776, 768]),
    (8147, [921, 776, 769]), (8150, [921, 834]), (8151, [921, 776, 834]), (8162, [933, 776, 768]),
    (8163, [933, 776, 769]), (8164, [929, 787]), (8166, [933, 834]), (8167, [933, 776, 834]),
    (8178, [8186, 921]), (8179, [937, 921]), (8180, [911, 921]), (8182, [937, 834]),
    (8183, [937, 834, 921]), (8188, [937, 921]), (64256, [70, 70]), (64257, [70, 73]),
    (64258, [70, 76]), (64259, [70, 70, 73]), (64260, [70, 70, 76]), (64261, [83, 84]),
    (64262, [83, 84]), (64275, [1348, 1350]), (64276, [1348, 1333]), (64277, [1348, 1339]),
    (64278, [1358, 1350]), (64279, [1348, 1341])]

def smalls : List Run :=
  pairs.map Run.reverse ++
  stretches [(8072, 8079, -8), (8088, 8095, -8), (8104, 8111, -8)] ++
  singles [(453, 1), (456, 1), (459, 1), (498, 1), (1012, -60), (7838, -7615), (8124, -9),
    (8140, -9), (8188, -9), (8486, -7517), (8490, -8383), (8491, -8262)]

def longSmalls : List (Nat × List Nat) :=
  [(304, [105, 775])]

def cased : List Nat :=
  [65, 26, 6, 26, 47, 1, 10, 1, 4, 1, 5, 23, 1, 31, 1, 195, 1, 4, 4, 208, 1, 27, 192, 4, 2, 2, 3,
    3, 1, 1, 6, 1, 1, 3, 1, 1, 1, 20, 1, 83, 1, 139, 8, 166, 1, 38, 9, 41, 2839, 38, 1, 1, 5, 1, 2,
    43, 2, 3, 672, 86, 2, 6, 2178, 9, 7, 43, 2, 3, 64, 44, 63, 13, 1, 34, 101, 278, 2, 6, 2, 38, 2,
    6, 2, 8, 1, 1, 1, 1, 1, 1, 1, 31, 2, 53, 1, 7, 1, 1, 3, 3, 1, 7, 3, 4, 2, 6, 4, 13, 5, 3, 1, 7,
    261, 1, 4, 1, 2, 10, 1, 1, 3, 5, 6, 1, 1, 1, 1, 1, 1, 4, 1, 6, 4, 1, 2, 4, 5, 5, 4, 1, 17, 32,
    3, 2, 817, 52, 1814, 124, 2, 103, 6, 4, 3, 2, 12, 38, 1, 1, 5, 1, 30994, 46, 18, 28, 134, 78,
    1, 23, 3, 4, 1, 59, 5, 2, 1, 1, 1, 5, 27, 2, 3, 1, 821, 43, 5, 9, 7, 80, 20288, 7, 12, 5, 1033,
    26, 6, 26, 1189, 80, 96, 36, 4, 36, 116, 11, 1, 15, 1, 7, 1, 2, 1, 11, 1, 15, 1, 7, 1, 2, 1731,
    51, 13, 51, 2989, 64, 21856, 64, 25984, 85, 1, 71, 1, 2, 2, 1, 2, 2, 2, 4, 1, 12, 1, 1, 1, 7,
    1, 65, 1, 4, 2, 8, 1, 7, 1, 28, 1, 4, 1, 5, 1, 1, 3, 7, 1, 340, 2, 25, 1, 25, 1, 31, 1, 25, 1,
    31, 1, 25, 1, 31, 1, 25, 1, 31, 1, 25, 1, 8, 1844, 10, 1, 20, 2529, 68, 2028, 26, 6, 26, 6, 26]

def ignorable : List Nat :=
  [39, 1, 6, 1, 11, 1, 35, 1, 1, 1, 71, 1, 4, 1, 1, 1, 4, 1, 2, 2, 503, 192, 4, 2, 4, 1, 9, 2, 1,
    1, 251, 7, 207, 1, 5, 1, 49, 45, 1, 1, 1, 2, 1, 2, 1, 1, 44, 1, 11, 6, 10, 11, 1, 1, 35, 1, 10,
    21, 16, 1, 101, 8, 1, 10, 1, 4, 33, 1, 1, 1, 30, 27, 91, 11, 58, 11, 4, 1, 2, 1, 24, 24, 43, 3,
    44, 1, 7, 2, 6, 8, 41, 58, 55, 1, 1, 1, 4, 8, 4, 1, 3, 7, 10, 2, 13, 1, 15, 1, 58, 1, 4, 4, 8,
    1, 20, 2, 26, 1, 2, 2, 57, 1, 4, 2, 4, 2, 2, 3, 3, 1, 30, 2, 3, 1, 11, 2, 57, 1, 4, 5, 1, 2, 4,
    1, 20, 2, 22, 6, 1, 1, 58, 1, 2, 1, 1, 4, 8, 1, 7, 2, 11, 2, 30, 1, 61, 1, 12, 1, 50, 1, 3, 1,
    55, 1, 1, 3, 5, 3, 1, 4, 7, 2, 11, 2, 29, 1, 58, 1, 2, 1, 6, 1, 5, 2, 20, 2, 28, 2, 57, 2, 4,
    4, 8, 1, 20, 2, 29, 1, 72, 1, 7, 3, 1, 1, 90, 1, 2, 7, 11, 9, 98, 1, 2, 9, 9, 1, 1, 6, 74, 2,
    27, 1, 1, 1, 1, 1, 55, 14, 1, 5, 1, 2, 5, 11, 1, 36, 9, 1, 102, 4, 1, 6, 1, 2, 2, 2, 25, 2, 4,
    3, 16, 4, 13, 1, 2, 2, 6, 1, 15, 1, 94, 1, 608, 3, 946, 3, 29, 2, 30, 2, 30, 2, 64, 2, 1, 7, 8,
    1, 2, 11, 3, 1, 5, 1, 45, 5, 51, 1, 65, 2, 34, 1, 118, 3, 4, 2, 9, 1, 6, 3, 219, 2, 2, 1, 58,
    1, 1, 7, 1, 1, 1, 1, 2, 8, 6, 10, 2, 1, 39, 1, 8, 31, 49, 4, 48, 1, 1, 5, 1, 1, 5, 1, 40, 9,
    12, 2, 32, 4, 2, 2, 1, 3, 56, 1, 1, 2, 3, 1, 1, 3, 58, 8, 2, 2, 64, 6, 82, 3, 1, 13, 1, 7, 4,
    1, 6, 1, 3, 2, 50, 63, 13, 1, 34, 101, 445, 1, 1, 3, 11, 3, 13, 3, 13, 3, 13, 2, 12, 5, 8, 2,
    10, 1, 2, 1, 2, 5, 49, 5, 1, 10, 1, 1, 13, 1, 16, 13, 51, 33, 2955, 2, 113, 3, 125, 1, 15, 1,
    96, 32, 47, 1, 469, 1, 36, 4, 3, 5, 5, 1, 93, 6, 93, 3, 28438, 1, 1250, 6, 270, 1, 98, 4, 1,
    10, 1, 1, 28, 4, 80, 2, 14, 34, 78, 1, 23, 3, 103, 3, 3, 2, 8, 1, 3, 1, 4, 1, 25, 2, 5, 1, 151,
    2, 26, 18, 13, 1, 38, 8, 25, 11, 46, 3, 48, 1, 2, 4, 2, 2, 17, 1, 21, 2, 66, 6, 2, 2, 2, 2, 12,
    1, 8, 1, 35, 1, 11, 1, 51, 1, 1, 3, 2, 2, 5, 2, 1, 1, 27, 1, 14, 2, 5, 2, 1, 1, 100, 5, 9, 3,
    121, 1, 2, 1, 4, 1, 20272, 1, 147, 17, 573, 16, 3, 1, 12, 16, 34, 1, 2, 1, 169, 1, 7, 1, 6, 1,
    11, 1, 35, 1, 1, 1, 47, 1, 45, 2, 67, 1, 21, 3, 513, 1, 226, 1, 149, 5, 1029, 6, 1, 42, 1, 9,
    582, 3, 1, 2, 5, 4, 40, 3, 4, 1, 165, 2, 573, 4, 387, 2, 153, 11, 49, 4, 123, 1, 54, 15, 41, 1,
    2, 2, 10, 3, 49, 4, 2, 2, 2, 1, 4, 1, 10, 1, 50, 3, 36, 5, 1, 8, 62, 1, 12, 2, 52, 9, 10, 4, 2,
    1, 95, 3, 2, 1, 1, 2, 6, 1, 160, 1, 3, 8, 21, 2, 57, 2, 3, 1, 37, 7, 3, 5, 195, 8, 2, 3, 1, 1,
    23, 1, 84, 6, 1, 1, 4, 2, 1, 2, 238, 4, 6, 2, 1, 2, 27, 2, 85, 8, 2, 1, 1, 2, 106, 1, 1, 1, 2,
    6, 1, 1, 101, 3, 2, 4, 1, 5, 259, 9, 1, 2, 256, 2, 1, 1, 4, 1, 144, 4, 2, 2, 4, 1, 32, 10, 40,
    6, 2, 4, 8, 1, 9, 6, 2, 3, 46, 13, 1, 2, 406, 7, 1, 6, 1, 1, 82, 22, 2, 7, 1, 2, 1, 2, 122, 6,
    3, 1, 1, 2, 1, 7, 1, 1, 72, 2, 3, 1, 1, 1, 347, 2, 5435, 9, 14007, 5, 59, 7, 9, 4, 1035, 1, 63,
    17, 64, 2, 1, 2, 16395, 4, 1, 7, 1, 2, 3230, 2, 1, 4, 4700, 46, 2, 23, 544, 3, 9, 16, 2, 7, 30,
    4, 148, 3, 1979, 55, 4, 50, 8, 1, 14, 1, 22, 5, 1, 15, 1360, 7, 1, 17, 2, 7, 1, 2, 1, 5, 261,
    14, 368, 1, 61, 4, 1504, 7, 109, 8, 2735, 5, 789505, 1, 30, 96, 128, 240]

end BlockScript.CaseTable
