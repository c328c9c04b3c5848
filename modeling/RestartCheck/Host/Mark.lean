import RestartCheck.Text.CharRange

/-!
# Marks

Marks are written with the letter before them.  A letter with a mark may also be a letter of its
own; a text is composed when no letter in it could be merged with a mark after it, and when the
marks of a letter stand in their usual order.  The tables hold the marks and the merged letters that
can stand in host names.
-/

namespace RestartCheck.Host

/-- Marks that take no room of their own. -/
def nonspacingRanges : Text.CharRanges :=
  [(0x0300, 0x036f), (0x0483, 0x0487), (0x0591, 0x05c7), (0x0610, 0x061a), (0x064b, 0x065f),
   (0x0670, 0x0670), (0x06d6, 0x06e4), (0x06e7, 0x06ed), (0x0711, 0x0711), (0x0730, 0x074a),
   (0x07a6, 0x07b0), (0x07eb, 0x07f3), (0x07fd, 0x07fd), (0x0816, 0x0819), (0x081b, 0x0823),
   (0x0825, 0x0827), (0x0829, 0x082d), (0x0859, 0x085b), (0x0898, 0x089f), (0x08ca, 0x0902),
   (0x093a, 0x093a), (0x093c, 0x093c), (0x0941, 0x0948), (0x094d, 0x094d), (0x0951, 0x0957),
   (0x0962, 0x0963), (0x0981, 0x0981), (0x09bc, 0x09bc), (0x09c1, 0x09c4), (0x09cd, 0x09cd),
   (0x09e2, 0x09e3), (0x09fe, 0x0a02), (0x0a3c, 0x0a3c), (0x0a41, 0x0a51), (0x0a70, 0x0a71),
   (0x0a75, 0x0a82), (0x0abc, 0x0abc), (0x0ac1, 0x0ac8), (0x0acd, 0x0acd), (0x0ae2, 0x0ae3),
   (0x0afa, 0x0b01), (0x0b3c, 0x0b3c), (0x0b3f, 0x0b3f), (0x0b41, 0x0b44), (0x0b4d, 0x0b56),
   (0x0b62, 0x0b63), (0x0b82, 0x0b82), (0x0bc0, 0x0bc0), (0x0bcd, 0x0bcd), (0x0c00, 0x0c00),
   (0x0c04, 0x0c04), (0x0c3c, 0x0c3c), (0x0c3e, 0x0c40), (0x0c46, 0x0c56), (0x0c62, 0x0c63),
   (0x0c81, 0x0c81), (0x0cbc, 0x0cbc), (0x0cbf, 0x0cbf), (0x0cc6, 0x0cc6), (0x0ccc, 0x0ccd),
   (0x0ce2, 0x0ce3), (0x0d00, 0x0d01), (0x0d3b, 0x0d3c), (0x0d41, 0x0d44), (0x0d4d, 0x0d4d),
   (0x0d62, 0x0d63), (0x0d81, 0x0d81), (0x0dca, 0x0dca), (0x0dd2, 0x0dd6), (0x0e31, 0x0e31),
   (0x0e34, 0x0e3a), (0x0e47, 0x0e4e), (0x0eb1, 0x0eb1), (0x0eb4, 0x0ebc), (0x0ec8, 0x0ecd),
   (0x0f18, 0x0f19), (0x0f35, 0x0f39), (0x0f71, 0x0f7e), (0x0f80, 0x0f87), (0x0f8d, 0x0fc6),
   (0x102d, 0x1030), (0x1032, 0x1037), (0x1039, 0x103a), (0x103d, 0x103e), (0x1058, 0x1059),
   (0x105e, 0x1060), (0x1071, 0x1074), (0x1082, 0x1082), (0x1085, 0x1086), (0x108d, 0x108d),
   (0x109d, 0x109d), (0x135d, 0x135f), (0x1712, 0x1714), (0x1732, 0x1733), (0x1752, 0x1753),
   (0x1772, 0x1773), (0x17b7, 0x17bd), (0x17c6, 0x17c6), (0x17c9, 0x17d3), (0x17dd, 0x17dd),
   (0x1885, 0x1886), (0x18a9, 0x18a9), (0x1920, 0x1922), (0x1927, 0x1928), (0x1932, 0x1932),
   (0x1939, 0x193b), (0x1a17, 0x1a18), (0x1a1b, 0x1a1b), (0x1a56, 0x1a56), (0x1a58, 0x1a60),
   (0x1a62, 0x1a62), (0x1a65, 0x1a6c), (0x1a73, 0x1a7f), (0x1ab0, 0x1b03), (0x1b34, 0x1b34),
   (0x1b36, 0x1b3a), (0x1b3c, 0x1b3c), (0x1b42, 0x1b42), (0x1b6b, 0x1b81), (0x1ba2, 0x1ba5),
   (0x1ba8, 0x1ba9), (0x1bab, 0x1bad), (0x1be6, 0x1be6), (0x1be8, 0x1be9), (0x1bed, 0x1bed),
   (0x1bef, 0x1bf1), (0x1c2c, 0x1c33), (0x1c36, 0x1c37), (0x1cd0, 0x1ce0), (0x1ce2, 0x1ce8),
   (0x1ced, 0x1ced), (0x1cf4, 0x1cf4), (0x1cf8, 0x1cf9), (0x1dc0, 0x1dff), (0x2cef, 0x2cf1),
   (0x2d7f, 0x2d7f), (0x2de0, 0x2dff), (0x302a, 0x302d), (0x3099, 0x309a), (0xa66f, 0xa67d),
   (0xa69e, 0xa69f), (0xa6f0, 0xa6f1), (0xa802, 0xa802), (0xa806, 0xa806), (0xa80b, 0xa80b),
   (0xa825, 0xa826), (0xa82c, 0xa82c), (0xa8c4, 0xa8c5), (0xa8e0, 0xa8f1), (0xa8ff, 0xa8ff),
   (0xa926, 0xa92d), (0xa947, 0xa951), (0xa980, 0xa982), (0xa9b3, 0xa9b3), (0xa9b6, 0xa9b9),
   (0xa9bc, 0xa9bd), (0xa9e5, 0xa9e5), (0xaa29, 0xaa2e), (0xaa31, 0xaa32), (0xaa35, 0xaa36),
   (0xaa43, 0xaa43), (0xaa4c, 0xaa4c), (0xaa7c, 0xaa7c), (0xaab0, 0xaab0), (0xaab2, 0xaab4),
   (0xaab7, 0xaab8), (0xaabe, 0xaabf), (0xaac1, 0xaac1), (0xaaec, 0xaaed), (0xaaf6, 0xaaf6),
   (0xabe5, 0xabe5), (0xabe8, 0xabe8), (0xabed, 0xabed), (0xfb1e, 0xfe2f), (0x101fd, 0x101fd),
   (0x102e0, 0x102e0), (0x10376, 0x1037a), (0x10a01, 0x10a0f), (0x10a38, 0x10a3f),
   (0x10ae5, 0x10ae6), (0x10d24, 0x10d27), (0x10eab, 0x10eac), (0x10f46, 0x10f50),
   (0x10f82, 0x10f85), (0x11001, 0x11001), (0x11038, 0x11046), (0x11070, 0x11070),
   (0x11073, 0x11074), (0x1107f, 0x11081), (0x110b3, 0x110b6), (0x110b9, 0x110c2),
   (0x11100, 0x11102), (0x11127, 0x1112b), (0x1112d, 0x11134), (0x11173, 0x11173),
   (0x11180, 0x11181), (0x111b6, 0x111be), (0x111c9, 0x111cc), (0x111cf, 0x111cf),
   (0x1122f, 0x11231), (0x11234, 0x11234), (0x11236, 0x1123e), (0x112df, 0x112df),
   (0x112e3, 0x112ea), (0x11300, 0x11301), (0x1133b, 0x1133c), (0x11340, 0x11340),
   (0x11366, 0x11374), (0x11438, 0x1143f), (0x11442, 0x11444), (0x11446, 0x11446),
   (0x1145e, 0x1145e), (0x114b3, 0x114b8), (0x114ba, 0x114ba), (0x114bf, 0x114c0),
   (0x114c2, 0x114c3), (0x115b2, 0x115b5), (0x115bc, 0x115bd), (0x115bf, 0x115c0),
   (0x115dc, 0x115dd), (0x11633, 0x1163a), (0x1163d, 0x1163d), (0x1163f, 0x11640),
   (0x116ab, 0x116ab), (0x116ad, 0x116ad), (0x116b0, 0x116b5), (0x116b7, 0x116b7),
   (0x1171d, 0x1171f), (0x11722, 0x11725), (0x11727, 0x1172b), (0x1182f, 0x11837),
   (0x11839, 0x1183a), (0x1193b, 0x1193c), (0x1193e, 0x1193e), (0x11943, 0x11943),
   (0x119d4, 0x119db), (0x119e0, 0x119e0), (0x11a01, 0x11a0a), (0x11a33, 0x11a38),
   (0x11a3b, 0x11a47), (0x11a51, 0x11a56), (0x11a59, 0x11a5b), (0x11a8a, 0x11a96),
   (0x11a98, 0x11a99), (0x11c30, 0x11c3d), (0x11c3f, 0x11c3f), (0x11c92, 0x11ca7),
   (0x11caa, 0x11cb0), (0x11cb2, 0x11cb3), (0x11cb5, 0x11cb6), (0x11d31, 0x11d45),
   (0x11d47, 0x11d47), (0x11d90, 0x11d91), (0x11d95, 0x11d95), (0x11d97, 0x11d97),
   (0x11ef3, 0x11ef4), (0x16af0, 0x16af4), (0x16b30, 0x16b36), (0x16f4f, 0x16f4f),
   (0x16f8f, 0x16f92), (0x16fe4, 0x16fe4), (0x1bc9d, 0x1daaf), (0x1e000, 0x1e02a),
   (0x1e130, 0x1e136), (0x1e2ae, 0x1e2ae), (0x1e2ec, 0x1e2ef), (0x1e8d0, 0x1e8d6),
   (0x1e944, 0x1e94a)]

/-- Marks that take room of their own. -/
def spacingRanges : Text.CharRanges :=
  [(0x0903, 0x0903), (0x093b, 0x093b), (0x093e, 0x094f), (0x0982, 0x0983), (0x09be, 0x09cc),
   (0x09d7, 0x09d7), (0x0a03, 0x0a03), (0x0a3e, 0x0a40), (0x0a83, 0x0a83), (0x0abe, 0x0acc),
   (0x0b02, 0x0b03), (0x0b3e, 0x0b57), (0x0bbe, 0x0bcc), (0x0bd7, 0x0bd7), (0x0c01, 0x0c03),
   (0x0c41, 0x0c44), (0x0c82, 0x0c83), (0x0cbe, 0x0cd6), (0x0d02, 0x0d03), (0x0d3e, 0x0d4c),
   (0x0d57, 0x0d57), (0x0d82, 0x0d83), (0x0dcf, 0x0ddf), (0x0df2, 0x0df3), (0x0f3e, 0x0f3f),
   (0x0f7f, 0x0f7f), (0x102b, 0x103c), (0x1056, 0x1057), (0x1062, 0x1064), (0x1067, 0x106d),
   (0x1083, 0x108c), (0x108f, 0x108f), (0x109a, 0x109c), (0x1715, 0x1715), (0x1734, 0x1734),
   (0x17b6, 0x17c8), (0x1923, 0x1938), (0x1a19, 0x1a1a), (0x1a55, 0x1a72), (0x1b04, 0x1b04),
   (0x1b35, 0x1b44), (0x1b82, 0x1b82), (0x1ba1, 0x1baa), (0x1be7, 0x1bf3), (0x1c24, 0x1c35),
   (0x1ce1, 0x1ce1), (0x1cf7, 0x1cf7), (0xa823, 0xa827), (0xa880, 0xa881), (0xa8b4, 0xa8c3),
   (0xa952, 0xa983), (0xa9b4, 0xa9c0), (0xaa2f, 0xaa34), (0xaa4d, 0xaa4d), (0xaa7b, 0xaa7d),
   (0xaaeb, 0xaaef), (0xaaf5, 0xaaf5), (0xabe3, 0xabec), (0x11000, 0x11002), (0x11082, 0x11082),
   (0x110b0, 0x110b8), (0x1112c, 0x1112c), (0x11145, 0x11146), (0x11182, 0x11182),
   (0x111b3, 0x111c0), (0x111ce, 0x111ce), (0x1122c, 0x11235), (0x112e0, 0x112e2),
   (0x11302, 0x11303), (0x1133e, 0x1134d), (0x11357, 0x11357), (0x11362, 0x11363),
   (0x11435, 0x11445), (0x114b0, 0x114c1), (0x115af, 0x115be), (0x11630, 0x1163e),
   (0x116ac, 0x116b6), (0x11720, 0x11726), (0x1182c, 0x11838), (0x11930, 0x1193d),
   (0x11940, 0x11940), (0x11942, 0x11942), (0x119d1, 0x119df), (0x119e4, 0x119e4),
   (0x11a39, 0x11a39), (0x11a57, 0x11a58), (0x11a97, 0x11a97), (0x11c2f, 0x11c3e),
   (0x11ca9, 0x11cb4), (0x11d8a, 0x11d96), (0x11ef5, 0x11ef6), (0x16f51, 0x16f87),
   (0x16ff0, 0x16ff1)]

/-- The mark takes no room of its own. -/
def isNonspacing (c : Char) : Bool := nonspacingRanges.has c

def isMark (c : Char) : Bool := isNonspacing c || spacingRanges.has c

/-! ## Order of marks -/

/-- Marks that attach to a letter in the same place, from the first to the last, with the number of
the place. -/
def placeRows : List (Nat × Nat × Nat) :=
  [(0x0300, 0x0314, 230), (0x0315, 0x0315, 232), (0x0316, 0x0319, 220), (0x031a, 0x031a, 232),
   (0x031b, 0x031b, 216), (0x031c, 0x0320, 220), (0x0321, 0x0322, 202), (0x0323, 0x0326, 220),
   (0x0327, 0x0328, 202), (0x0329, 0x0333, 220), (0x0334, 0x0338, 1), (0x0339, 0x033c, 220),
   (0x033d, 0x0346, 230), (0x0347, 0x0349, 220), (0x034a, 0x034c, 230), (0x034d, 0x034e, 220),
   (0x0350, 0x0352, 230), (0x0353, 0x0356, 220), (0x0357, 0x0357, 230), (0x0358, 0x0358, 232),
   (0x0359, 0x035a, 220), (0x035b, 0x035b, 230), (0x035c, 0x035c, 233), (0x035d, 0x035e, 234),
   (0x035f, 0x035f, 233), (0x0360, 0x0361, 234), (0x0362, 0x0362, 233), (0x0363, 0x036f, 230),
   (0x0483, 0x0487, 230), (0x0591, 0x0591, 220), (0x0592, 0x0595, 230), (0x0596, 0x0596, 220),
   (0x0597, 0x0599, 230), (0x059a, 0x059a, 222), (0x059b, 0x059b, 220), (0x059c, 0x05a1, 230),
   (0x05a2, 0x05a7, 220), (0x05a8, 0x05a9, 230), (0x05aa, 0x05aa, 220), (0x05ab, 0x05ac, 230),
   (0x05ad, 0x05ad, 222), (0x05ae, 0x05ae, 228), (0x05af, 0x05af, 230), (0x05b0, 0x05b0, 10),
   (0x05b1, 0x05b1, 11), (0x05b2, 0x05b2, 12), (0x05b3, 0x05b3, 13), (0x05b4, 0x05b4, 14),
   (0x05b5, 0x05b5, 15), (0x05b6, 0x05b6, 16), (0x05b7, 0x05b7, 17), (0x05b8, 0x05b8, 18),
   (0x05b9, 0x05ba, 19), (0x05bb, 0x05bb, 20), (0x05bc, 0x05bc, 21), (0x05bd, 0x05bd, 22),
   (0x05bf, 0x05bf, 23), (0x05c1, 0x05c1, 24), (0x05c2, 0x05c2, 25), (0x05c4, 0x05c4, 230),
   (0x05c5, 0x05c5, 220), (0x05c7, 0x05c7, 18), (0x0610, 0x0617, 230), (0x0618, 0x0618, 30),
   (0x0619, 0x0619, 31), (0x061a, 0x061a, 32), (0x064b, 0x064b, 27), (0x064c, 0x064c, 28),
   (0x064d, 0x064d, 29), (0x064e, 0x064e, 30), (0x064f, 0x064f, 31), (0x0650, 0x0650, 32),
   (0x0651, 0x0651, 33), (0x0652, 0x0652, 34), (0x0653, 0x0654, 230), (0x0655, 0x0656, 220),
   (0x0657, 0x065b, 230), (0x065c, 0x065c, 220), (0x065d, 0x065e, 230), (0x065f, 0x065f, 220),
   (0x0670, 0x0670, 35), (0x06d6, 0x06e2, 230), (0x06e3, 0x06e3, 220), (0x06e4, 0x06e4, 230),
   (0x06e7, 0x06e8, 230), (0x06ea, 0x06ea, 220), (0x06eb, 0x06ec, 230), (0x06ed, 0x06ed, 220),
   (0x0711, 0x0711, 36), (0x0730, 0x0730, 230), (0x0731, 0x0731, 220), (0x0732, 0x0733, 230),
   (0x0734, 0x0734, 220), (0x0735, 0x0736, 230), (0x0737, 0x0739, 220), (0x073a, 0x073a, 230),
   (0x073b, 0x073c, 220), (0x073d, 0x073d, 230), (0x073e, 0x073e, 220), (0x073f, 0x0741, 230),
   (0x0742, 0x0742, 220), (0x0743, 0x0743, 230), (0x0744, 0x0744, 220), (0x0745, 0x0745, 230),
   (0x0746, 0x0746, 220), (0x0747, 0x0747, 230), (0x0748, 0x0748, 220), (0x0749, 0x074a, 230),
   (0x07eb, 0x07f1, 230), (0x07f2, 0x07f2, 220), (0x07f3, 0x07f3, 230), (0x07fd, 0x07fd, 220),
   (0x0816, 0x0819, 230), (0x081b, 0x0823, 230), (0x0825, 0x0827, 230), (0x0829, 0x082d, 230),
   (0x0859, 0x085b, 220), (0x0898, 0x0898, 230), (0x0899, 0x089b, 220), (0x089c, 0x089f, 230),
   (0x08ca, 0x08ce, 230), (0x08cf, 0x08d3, 220), (0x08d4, 0x08e1, 230), (0x08e3, 0x08e3, 220),
   (0x08e4, 0x08e5, 230), (0x08e6, 0x08e6, 220), (0x08e7, 0x08e8, 230), (0x08e9, 0x08e9, 220),
   (0x08ea, 0x08ec, 230), (0x08ed, 0x08ef, 220), (0x08f0, 0x08f0, 27), (0x08f1, 0x08f1, 28),
   (0x08f2, 0x08f2, 29), (0x08f3, 0x08f5, 230), (0x08f6, 0x08f6, 220), (0x08f7, 0x08f8, 230),
   (0x08f9, 0x08fa, 220), (0x08fb, 0x08ff, 230), (0x093c, 0x093c, 7), (0x094d, 0x094d, 9),
   (0x0951, 0x0951, 230), (0x0952, 0x0952, 220), (0x0953, 0x0954, 230), (0x09bc, 0x09bc, 7),
   (0x09cd, 0x09cd, 9), (0x09fe, 0x09fe, 230), (0x0a3c, 0x0a3c, 7), (0x0a4d, 0x0a4d, 9),
   (0x0abc, 0x0abc, 7), (0x0acd, 0x0acd, 9), (0x0b3c, 0x0b3c, 7), (0x0b4d, 0x0b4d, 9),
   (0x0bcd, 0x0bcd, 9), (0x0c3c, 0x0c3c, 7), (0x0c4d, 0x0c4d, 9), (0x0c55, 0x0c55, 84),
   (0x0c56, 0x0c56, 91), (0x0cbc, 0x0cbc, 7), (0x0ccd, 0x0ccd, 9), (0x0d3b, 0x0d3c, 9),
   (0x0d4d, 0x0d4d, 9), (0x0dca, 0x0dca, 9), (0x0e38, 0x0e39, 103), (0x0e3a, 0x0e3a, 9),
   (0x0e48, 0x0e4b, 107), (0x0eb8, 0x0eb9, 118), (0x0eba, 0x0eba, 9), (0x0ec8, 0x0ecb, 122),
   (0x0f18, 0x0f19, 220), (0x0f35, 0x0f37, 220), (0x0f39, 0x0f39, 216), (0x0f71, 0x0f71, 129),
   (0x0f72, 0x0f72, 130), (0x0f74, 0x0f74, 132), (0x0f7a, 0x0f7d, 130), (0x0f80, 0x0f80, 130),
   (0x0f82, 0x0f83, 230), (0x0f84, 0x0f84, 9), (0x0f86, 0x0f87, 230), (0x0fc6, 0x0fc6, 220),
   (0x1037, 0x1037, 7), (0x1039, 0x103a, 9), (0x108d, 0x108d, 220), (0x135d, 0x135f, 230),
   (0x1714, 0x1715, 9), (0x1734, 0x1734, 9), (0x17d2, 0x17d2, 9), (0x17dd, 0x17dd, 230),
   (0x18a9, 0x18a9, 228), (0x1939, 0x1939, 222), (0x193a, 0x193a, 230), (0x193b, 0x193b, 220),
   (0x1a17, 0x1a17, 230), (0x1a18, 0x1a18, 220), (0x1a60, 0x1a60, 9), (0x1a75, 0x1a7c, 230),
   (0x1a7f, 0x1a7f, 220), (0x1ab0, 0x1ab4, 230), (0x1ab5, 0x1aba, 220), (0x1abb, 0x1abc, 230),
   (0x1abd, 0x1ac0, 220), (0x1ac1, 0x1ac2, 230), (0x1ac3, 0x1ac4, 220), (0x1ac5, 0x1ac9, 230),
   (0x1aca, 0x1aca, 220), (0x1acb, 0x1ace, 230), (0x1b34, 0x1b34, 7), (0x1b44, 0x1b44, 9),
   (0x1b6b, 0x1b6b, 230), (0x1b6c, 0x1b6c, 220), (0x1b6d, 0x1b73, 230), (0x1baa, 0x1bab, 9),
   (0x1be6, 0x1be6, 7), (0x1bf2, 0x1bf3, 9), (0x1c37, 0x1c37, 7), (0x1cd0, 0x1cd2, 230),
   (0x1cd4, 0x1cd4, 1), (0x1cd5, 0x1cd9, 220), (0x1cda, 0x1cdb, 230), (0x1cdc, 0x1cdf, 220),
   (0x1ce0, 0x1ce0, 230), (0x1ce2, 0x1ce8, 1), (0x1ced, 0x1ced, 220), (0x1cf4, 0x1cf4, 230),
   (0x1cf8, 0x1cf9, 230), (0x1dc0, 0x1dc1, 230), (0x1dc2, 0x1dc2, 220), (0x1dc3, 0x1dc9, 230),
   (0x1dca, 0x1dca, 220), (0x1dcb, 0x1dcc, 230), (0x1dcd, 0x1dcd, 234), (0x1dce, 0x1dce, 214),
   (0x1dcf, 0x1dcf, 220), (0x1dd0, 0x1dd0, 202), (0x1dd1, 0x1df5, 230), (0x1df6, 0x1df6, 232),
   (0x1df7, 0x1df8, 228), (0x1df9, 0x1df9, 220), (0x1dfa, 0x1dfa, 218), (0x1dfb, 0x1dfb, 230),
   (0x1dfc, 0x1dfc, 233), (0x1dfd, 0x1dfd, 220), (0x1dfe, 0x1dfe, 230), (0x1dff, 0x1dff, 220),
   (0x2cef, 0x2cf1, 230), (0x2d7f, 0x2d7f, 9), (0x2de0, 0x2dff, 230), (0x302a, 0x302a, 218),
   (0x302b, 0x302b, 228), (0x302c, 0x302c, 232), (0x302d, 0x302d, 222), (0x3099, 0x309a, 8),
   (0xa66f, 0xa67d, 230), (0xa69e, 0xa69f, 230), (0xa6f0, 0xa6f1, 230), (0xa806, 0xa806, 9),
   (0xa82c, 0xa82c, 9), (0xa8c4, 0xa8c4, 9), (0xa8e0, 0xa8f1, 230), (0xa92b, 0xa92d, 220),
   (0xa953, 0xa953, 9), (0xa9b3, 0xa9b3, 7), (0xa9c0, 0xa9c0, 9), (0xaab0, 0xaab0, 230),
   (0xaab2, 0xaab3, 230), (0xaab4, 0xaab4, 220), (0xaab7, 0xaab8, 230), (0xaabe, 0xaabf, 230),
   (0xaac1, 0xaac1, 230), (0xaaf6, 0xaaf6, 9), (0xabed, 0xabed, 9), (0xfb1e, 0xfb1e, 26),
   (0xfe20, 0xfe26, 230), (0xfe27, 0xfe2d, 220), (0xfe2e, 0xfe2f, 230), (0x101fd, 0x101fd, 220),
   (0x102e0, 0x102e0, 220), (0x10376, 0x1037a, 230), (0x10a0d, 0x10a0d, 220),
   (0x10a0f, 0x10a0f, 230), (0x10a38, 0x10a38, 230), (0x10a39, 0x10a39, 1),
   (0x10a3a, 0x10a3a, 220), (0x10a3f, 0x10a3f, 9), (0x10ae5, 0x10ae5, 230),
   (0x10ae6, 0x10ae6, 220), (0x10d24, 0x10d27, 230), (0x10eab, 0x10eac, 230),
   (0x10f46, 0x10f47, 220), (0x10f48, 0x10f4a, 230), (0x10f4b, 0x10f4b, 220),
   (0x10f4c, 0x10f4c, 230), (0x10f4d, 0x10f50, 220), (0x10f82, 0x10f82, 230),
   (0x10f83, 0x10f83, 220), (0x10f84, 0x10f84, 230), (0x10f85, 0x10f85, 220),
   (0x11046, 0x11046, 9), (0x11070, 0x11070, 9), (0x1107f, 0x1107f, 9), (0x110b9, 0x110b9, 9),
   (0x110ba, 0x110ba, 7), (0x11100, 0x11102, 230), (0x11133, 0x11134, 9), (0x11173, 0x11173, 7),
   (0x111c0, 0x111c0, 9), (0x111ca, 0x111ca, 7), (0x11235, 0x11235, 9), (0x11236, 0x11236, 7),
   (0x112e9, 0x112e9, 7), (0x112ea, 0x112ea, 9), (0x1133b, 0x1133c, 7), (0x1134d, 0x1134d, 9),
   (0x11366, 0x11374, 230), (0x11442, 0x11442, 9), (0x11446, 0x11446, 7), (0x1145e, 0x1145e, 230),
   (0x114c2, 0x114c2, 9), (0x114c3, 0x114c3, 7), (0x115bf, 0x115bf, 9), (0x115c0, 0x115c0, 7),
   (0x1163f, 0x1163f, 9), (0x116b6, 0x116b6, 9), (0x116b7, 0x116b7, 7), (0x1172b, 0x1172b, 9),
   (0x11839, 0x11839, 9), (0x1183a, 0x1183a, 7), (0x1193d, 0x1193e, 9), (0x11943, 0x11943, 7),
   (0x119e0, 0x119e0, 9), (0x11a34, 0x11a34, 9), (0x11a47, 0x11a47, 9), (0x11a99, 0x11a99, 9),
   (0x11c3f, 0x11c3f, 9), (0x11d42, 0x11d42, 7), (0x11d44, 0x11d45, 9), (0x11d97, 0x11d97, 9),
   (0x16af0, 0x16af4, 1), (0x16b30, 0x16b36, 230), (0x16ff0, 0x16ff1, 6), (0x1bc9e, 0x1bc9e, 1),
   (0x1e000, 0x1e02a, 230), (0x1e130, 0x1e136, 230), (0x1e2ae, 0x1e2ae, 230),
   (0x1e2ec, 0x1e2ef, 230), (0x1e8d0, 0x1e8d6, 220), (0x1e944, 0x1e949, 230),
   (0x1e94a, 0x1e94a, 7)]

/-- The number of the place that a mark attaches to, and zero for letters. -/
def place (c : Char) : Nat :=
  ((placeRows.find? fun row => row.1 ≤ c.toNat && c.toNat ≤ row.2.1).map fun row => row.2.2).getD 0

/-- Insert a character in front of a text in order: a mark goes behind the marks of lower places. -/
def insertMark (c : Char) : List Char → List Char
  | [] => [c]
  | d :: rest =>
    if place d ≠ 0 ∧ place d < place c then d :: insertMark c rest else c :: d :: rest

def orderMarks (text : List Char) : List Char :=
  text.foldr insertMark []

/-! ## Merged letters -/

/-- A merged letter, the letter in it and the mark in it. -/
def mergedRows : List (Nat × Nat × Nat) :=
  [(0x00e0, 0x0061, 0x0300), (0x00e1, 0x0061, 0x0301), (0x00e2, 0x0061, 0x0302),
   (0x00e3, 0x0061, 0x0303), (0x00e4, 0x0061, 0x0308), (0x00e5, 0x0061, 0x030a),
   (0x00e7, 0x0063, 0x0327), (0x00e8, 0x0065, 0x0300), (0x00e9, 0x0065, 0x0301),
   (0x00ea, 0x0065, 0x0302), (0x00eb, 0x0065, 0x0308), (0x00ec, 0x0069, 0x0300),
   (0x00ed, 0x0069, 0x0301), (0x00ee, 0x0069, 0x0302), (0x00ef, 0x0069, 0x0308),
   (0x00f1, 0x006e, 0x0303), (0x00f2, 0x006f, 0x0300), (0x00f3, 0x006f, 0x0301),
   (0x00f4, 0x006f, 0x0302), (0x00f5, 0x006f, 0x0303), (0x00f6, 0x006f, 0x0308),
   (0x00f9, 0x0075, 0x0300), (0x00fa, 0x0075, 0x0301), (0x00fb, 0x0075, 0x0302),
   (0x00fc, 0x0075, 0x0308), (0x00fd, 0x0079, 0x0301), (0x00ff, 0x0079, 0x0308),
   (0x0101, 0x0061, 0x0304), (0x0103, 0x0061, 0x0306), (0x0105, 0x0061, 0x0328),
   (0x0107, 0x0063, 0x0301), (0x0109, 0x0063, 0x0302), (0x010b, 0x0063, 0x0307),
   (0x010d, 0x0063, 0x030c), (0x010f, 0x0064, 0x030c), (0x0113, 0x0065, 0x0304),
   (0x0115, 0x0065, 0x0306), (0x0117, 0x0065, 0x0307), (0x0119, 0x0065, 0x0328),
   (0x011b, 0x0065, 0x030c), (0x011d, 0x0067, 0x0302), (0x011f, 0x0067, 0x0306),
   (0x0121, 0x0067, 0x0307), (0x0123, 0x0067, 0x0327), (0x0125, 0x0068, 0x0302),
   (0x0129, 0x0069, 0x0303), (0x012b, 0x0069, 0x0304), (0x012d, 0x0069, 0x0306),
   (0x012f, 0x0069, 0x0328), (0x0135, 0x006a, 0x0302), (0x0137, 0x006b, 0x0327),
   (0x013a, 0x006c, 0x0301), (0x013c, 0x006c, 0x0327), (0x013e, 0x006c, 0x030c),
   (0x0144, 0x006e, 0x0301), (0x0146, 0x006e, 0x0327), (0x0148, 0x006e, 0x030c),
   (0x014d, 0x006f, 0x0304), (0x014f, 0x006f, 0x0306), (0x0151, 0x006f, 0x030b),
   (0x0155, 0x0072, 0x0301), (0x0157, 0x0072, 0x0327), (0x0159, 0x0072, 0x030c),
   (0x015b, 0x0073, 0x0301), (0x015d, 0x0073, 0x0302), (0x015f, 0x0073, 0x0327),
   (0x0161, 0x0073, 0x030c), (0x0163, 0x0074, 0x0327), (0x0165, 0x0074, 0x030c),
   (0x0169, 0x0075, 0x0303), (0x016b, 0x0075, 0x0304), (0x016d, 0x0075, 0x0306),
   (0x016f, 0x0075, 0x030a), (0x0171, 0x0075, 0x030b), (0x0173, 0x0075, 0x0328),
   (0x0175, 0x0077, 0x0302), (0x0177, 0x0079, 0x0302), (0x017a, 0x007a, 0x0301),
   (0x017c, 0x007a, 0x0307), (0x017e, 0x007a, 0x030c), (0x01a1, 0x006f, 0x031b),
   (0x01b0, 0x0075, 0x031b), (0x01ce, 0x0061, 0x030c), (0x01d0, 0x0069, 0x030c),
   (0x01d2, 0x006f, 0x030c), (0x01d4, 0x0075, 0x030c), (0x01d6, 0x00fc, 0x0304),
   (0x01d8, 0x00fc, 0x0301), (0x01da, 0x00fc, 0x030c), (0x01dc, 0x00fc, 0x0300),
   (0x01df, 0x00e4, 0x0304), (0x01e1, 0x0227, 0x0304), (0x01e3, 0x00e6, 0x0304),
   (0x01e7, 0x0067, 0x030c), (0x01e9, 0x006b, 0x030c), (0x01eb, 0x006f, 0x0328),
   (0x01ed, 0x01eb, 0x0304), (0x01ef, 0x0292, 0x030c), (0x01f0, 0x006a, 0x030c),
   (0x01f5, 0x0067, 0x0301), (0x01f9, 0x006e, 0x0300), (0x01fb, 0x00e5, 0x0301),
   (0x01fd, 0x00e6, 0x0301), (0x01ff, 0x00f8, 0x0301), (0x0201, 0x0061, 0x030f),
   (0x0203, 0x0061, 0x0311), (0x0205, 0x0065, 0x030f), (0x0207, 0x0065, 0x0311),
   (0x0209, 0x0069, 0x030f), (0x020b, 0x0069, 0x0311), (0x020d, 0x006f, 0x030f),
   (0x020f, 0x006f, 0x0311), (0x0211, 0x0072, 0x030f), (0x0213, 0x0072, 0x0311),
   (0x0215, 0x0075, 0x030f), (0x0217, 0x0075, 0x0311), (0x0219, 0x0073, 0x0326),
   (0x021b, 0x0074, 0x0326), (0x021f, 0x0068, 0x030c), (0x0227, 0x0061, 0x0307),
   (0x0229, 0x0065, 0x0327), (0x022b, 0x00f6, 0x0304), (0x022d, 0x00f5, 0x0304),
   (0x022f, 0x006f, 0x0307), (0x0231, 0x022f, 0x0304), (0x0233, 0x0079, 0x0304),
   (0x0390, 0x03ca, 0x0301), (0x03ac, 0x03b1, 0x0301), (0x03ad, 0x03b5, 0x0301),
   (0x03ae, 0x03b7, 0x0301), (0x03af, 0x03b9, 0x0301), (0x03b0, 0x03cb, 0x0301),
   (0x03ca, 0x03b9, 0x0308), (0x03cb, 0x03c5, 0x0308), (0x03cc, 0x03bf, 0x0301),
   (0x03cd, 0x03c5, 0x0301), (0x03ce, 0x03c9, 0x0301), (0x0439, 0x0438, 0x0306),
   (0x0450, 0x0435, 0x0300), (0x0451, 0x0435, 0x0308), (0x0453, 0x0433, 0x0301),
   (0x0457, 0x0456, 0x0308), (0x045c, 0x043a, 0x0301), (0x045d, 0x0438, 0x0300),
   (0x045e, 0x0443, 0x0306), (0x0477, 0x0475, 0x030f), (0x04c2, 0x0436, 0x0306),
   (0x04d1, 0x0430, 0x0306), (0x04d3, 0x0430, 0x0308), (0x04d7, 0x0435, 0x0306),
   (0x04db, 0x04d9, 0x0308), (0x04dd, 0x0436, 0x0308), (0x04df, 0x0437, 0x0308),
   (0x04e3, 0x0438, 0x0304), (0x04e5, 0x0438, 0x0308), (0x04e7, 0x043e, 0x0308),
   (0x04eb, 0x04e9, 0x0308), (0x04ed, 0x044d, 0x0308), (0x04ef, 0x0443, 0x0304),
   (0x04f1, 0x0443, 0x0308), (0x04f3, 0x0443, 0x030b), (0x04f5, 0x0447, 0x0308),
   (0x04f9, 0x044b, 0x0308), (0x0622, 0x0627, 0x0653), (0x0623, 0x0627, 0x0654),
   (0x0624, 0x0648, 0x0654), (0x0625, 0x0627, 0x0655), (0x0626, 0x064a, 0x0654),
   (0x06c0, 0x06d5, 0x0654), (0x06c2, 0x06c1, 0x0654), (0x06d3, 0x06d2, 0x0654),
   (0x0929, 0x0928, 0x093c), (0x0931, 0x0930, 0x093c), (0x0934, 0x0933, 0x093c),
   (0x09cb, 0x09c7, 0x09be), (0x09cc, 0x09c7, 0x09d7), (0x0b48, 0x0b47, 0x0b56),
   (0x0b4b, 0x0b47, 0x0b3e), (0x0b4c, 0x0b47, 0x0b57), (0x0b94, 0x0b92, 0x0bd7),
   (0x0bca, 0x0bc6, 0x0bbe), (0x0bcb, 0x0bc7, 0x0bbe), (0x0bcc, 0x0bc6, 0x0bd7),
   (0x0c48, 0x0c46, 0x0c56), (0x0cc0, 0x0cbf, 0x0cd5), (0x0cc7, 0x0cc6, 0x0cd5),
   (0x0cc8, 0x0cc6, 0x0cd6), (0x0cca, 0x0cc6, 0x0cc2), (0x0ccb, 0x0cca, 0x0cd5),
   (0x0d4a, 0x0d46, 0x0d3e), (0x0d4b, 0x0d47, 0x0d3e), (0x0d4c, 0x0d46, 0x0d57),
   (0x0dda, 0x0dd9, 0x0dca), (0x0ddc, 0x0dd9, 0x0dcf), (0x0ddd, 0x0ddc, 0x0dca),
   (0x0dde, 0x0dd9, 0x0ddf), (0x1026, 0x1025, 0x102e), (0x1b06, 0x1b05, 0x1b35),
   (0x1b08, 0x1b07, 0x1b35), (0x1b0a, 0x1b09, 0x1b35), (0x1b0c, 0x1b0b, 0x1b35),
   (0x1b0e, 0x1b0d, 0x1b35), (0x1b12, 0x1b11, 0x1b35), (0x1b3b, 0x1b3a, 0x1b35),
   (0x1b3d, 0x1b3c, 0x1b35), (0x1b40, 0x1b3e, 0x1b35), (0x1b41, 0x1b3f, 0x1b35),
   (0x1b43, 0x1b42, 0x1b35), (0x1e01, 0x0061, 0x0325), (0x1e03, 0x0062, 0x0307),
   (0x1e05, 0x0062, 0x0323), (0x1e07, 0x0062, 0x0331), (0x1e09, 0x00e7, 0x0301),
   (0x1e0b, 0x0064, 0x0307), (0x1e0d, 0x0064, 0x0323), (0x1e0f, 0x0064, 0x0331),
   (0x1e11, 0x0064, 0x0327), (0x1e13, 0x0064, 0x032d), (0x1e15, 0x0113, 0x0300),
   (0x1e17, 0x0113, 0x0301), (0x1e19, 0x0065, 0x032d), (0x1e1b, 0x0065, 0x0330),
   (0x1e1d, 0x0229, 0x0306), (0x1e1f, 0x0066, 0x0307), (0x1e21, 0x0067, 0x0304),
   (0x1e23, 0x0068, 0x0307), (0x1e25, 0x0068, 0x0323), (0x1e27, 0x0068, 0x0308),
   (0x1e29, 0x0068, 0x0327), (0x1e2b, 0x0068, 0x032e), (0x1e2d, 0x0069, 0x0330),
   (0x1e2f, 0x00ef, 0x0301), (0x1e31, 0x006b, 0x0301), (0x1e33, 0x006b, 0x0323),
   (0x1e35, 0x006b, 0x0331), (0x1e37, 0x006c, 0x0323), (0x1e39, 0x1e37, 0x0304),
   (0x1e3b, 0x006c, 0x0331), (0x1e3d, 0x006c, 0x032d), (0x1e3f, 0x006d, 0x0301),
   (0x1e41, 0x006d, 0x0307), (0x1e43, 0x006d, 0x0323), (0x1e45, 0x006e, 0x0307),
   (0x1e47, 0x006e, 0x0323), (0x1e49, 0x006e, 0x0331), (0x1e4b, 0x006e, 0x032d),
   (0x1e4d, 0x00f5, 0x0301), (0x1e4f, 0x00f5, 0x0308), (0x1e51, 0x014d, 0x0300),
   (0x1e53, 0x014d, 0x0301), (0x1e55, 0x0070, 0x0301), (0x1e57, 0x0070, 0x0307),
   (0x1e59, 0x0072, 0x0307), (0x1e5b, 0x0072, 0x0323), (0x1e5d, 0x1e5b, 0x0304),
   (0x1e5f, 0x0072, 0x0331), (0x1e61, 0x0073, 0x0307), (0x1e63, 0x0073, 0x0323),
   (0x1e65, 0x015b, 0x0307), (0x1e67, 0x0161, 0x0307), (0x1e69, 0x1e63, 0x0307),
   (0x1e6b, 0x0074, 0x0307), (0x1e6d, 0x0074, 0x0323), (0x1e6f, 0x0074, 0x0331),
   (0x1e71, 0x0074, 0x032d), (0x1e73, 0x0075, 0x0324), (0x1e75, 0x0075, 0x0330),
   (0x1e77, 0x0075, 0x032d), (0x1e79, 0x0169, 0x0301), (0x1e7b, 0x016b, 0x0308),
   (0x1e7d, 0x0076, 0x0303), (0x1e7f, 0x0076, 0x0323), (0x1e81, 0x0077, 0x0300),
   (0x1e83, 0x0077, 0x0301), (0x1e85, 0x0077, 0x0308), (0x1e87, 0x0077, 0x0307),
   (0x1e89, 0x0077, 0x0323), (0x1e8b, 0x0078, 0x0307), (0x1e8d, 0x0078, 0x0308),
   (0x1e8f, 0x0079, 0x0307), (0x1e91, 0x007a, 0x0302), (0x1e93, 0x007a, 0x0323),
   (0x1e95, 0x007a, 0x0331), (0x1e96, 0x0068, 0x0331), (0x1e97, 0x0074, 0x0308),
   (0x1e98, 0x0077, 0x030a), (0x1e99, 0x0079, 0x030a), (0x1ea1, 0x0061, 0x0323),
   (0x1ea3, 0x0061, 0x0309), (0x1ea5, 0x00e2, 0x0301), (0x1ea7, 0x00e2, 0x0300),
   (0x1ea9, 0x00e2, 0x0309), (0x1eab, 0x00e2, 0x0303), (0x1ead, 0x1ea1, 0x0302),
   (0x1eaf, 0x0103, 0x0301), (0x1eb1, 0x0103, 0x0300), (0x1eb3, 0x0103, 0x0309),
   (0x1eb5, 0x0103, 0x0303), (0x1eb7, 0x1ea1, 0x0306), (0x1eb9, 0x0065, 0x0323),
   (0x1ebb, 0x0065, 0x0309), (0x1ebd, 0x0065, 0x0303), (0x1ebf, 0x00ea, 0x0301),
   (0x1ec1, 0x00ea, 0x0300), (0x1ec3, 0x00ea, 0x0309), (0x1ec5, 0x00ea, 0x0303),
   (0x1ec7, 0x1eb9, 0x0302), (0x1ec9, 0x0069, 0x0309), (0x1ecb, 0x0069, 0x0323),
   (0x1ecd, 0x006f, 0x0323), (0x1ecf, 0x006f, 0x0309), (0x1ed1, 0x00f4, 0x0301),
   (0x1ed3, 0x00f4, 0x0300), (0x1ed5, 0x00f4, 0x0309), (0x1ed7, 0x00f4, 0x0303),
   (0x1ed9, 0x1ecd, 0x0302), (0x1edb, 0x01a1, 0x0301), (0x1edd, 0x01a1, 0x0300),
   (0x1edf, 0x01a1, 0x0309), (0x1ee1, 0x01a1, 0x0303), (0x1ee3, 0x01a1, 0x0323),
   (0x1ee5, 0x0075, 0x0323), (0x1ee7, 0x0075, 0x0309), (0x1ee9, 0x01b0, 0x0301),
   (0x1eeb, 0x01b0, 0x0300), (0x1eed, 0x01b0, 0x0309), (0x1eef, 0x01b0, 0x0303),
   (0x1ef1, 0x01b0, 0x0323), (0x1ef3, 0x0079, 0x0300), (0x1ef5, 0x0079, 0x0323),
   (0x1ef7, 0x0079, 0x0309), (0x1ef9, 0x0079, 0x0303), (0x1f00, 0x03b1, 0x0313),
   (0x1f01, 0x03b1, 0x0314), (0x1f02, 0x1f00, 0x0300), (0x1f03, 0x1f01, 0x0300),
   (0x1f04, 0x1f00, 0x0301), (0x1f05, 0x1f01, 0x0301), (0x1f06, 0x1f00, 0x0342),
   (0x1f07, 0x1f01, 0x0342), (0x1f10, 0x03b5, 0x0313), (0x1f11, 0x03b5, 0x0314),
   (0x1f12, 0x1f10, 0x0300), (0x1f13, 0x1f11, 0x0300), (0x1f14, 0x1f10, 0x0301),
   (0x1f15, 0x1f11, 0x0301), (0x1f20, 0x03b7, 0x0313), (0x1f21, 0x03b7, 0x0314),
   (0x1f22, 0x1f20, 0x0300), (0x1f23, 0x1f21, 0x0300), (0x1f24, 0x1f20, 0x0301),
   (0x1f25, 0x1f21, 0x0301), (0x1f26, 0x1f20, 0x0342), (0x1f27, 0x1f21, 0x0342),
   (0x1f30, 0x03b9, 0x0313), (0x1f31, 0x03b9, 0x0314), (0x1f32, 0x1f30, 0x0300),
   (0x1f33, 0x1f31, 0x0300), (0x1f34, 0x1f30, 0x0301), (0x1f35, 0x1f31, 0x0301),
   (0x1f36, 0x1f30, 0x0342), (0x1f37, 0x1f31, 0x0342), (0x1f40, 0x03bf, 0x0313),
   (0x1f41, 0x03bf, 0x0314), (0x1f42, 0x1f40, 0x0300), (0x1f43, 0x1f41, 0x0300),
   (0x1f44, 0x1f40, 0x0301), (0x1f45, 0x1f41, 0x0301), (0x1f50, 0x03c5, 0x0313),
   (0x1f51, 0x03c5, 0x0314), (0x1f52, 0x1f50, 0x0300), (0x1f53, 0x1f51, 0x0300),
   (0x1f54, 0x1f50, 0x0301), (0x1f55, 0x1f51, 0x0301), (0x1f56, 0x1f50, 0x0342),
   (0x1f57, 0x1f51, 0x0342), (0x1f60, 0x03c9, 0x0313), (0x1f61, 0x03c9, 0x0314),
   (0x1f62, 0x1f60, 0x0300), (0x1f63, 0x1f61, 0x0300), (0x1f64, 0x1f60, 0x0301),
   (0x1f65, 0x1f61, 0x0301), (0x1f66, 0x1f60, 0x0342), (0x1f67, 0x1f61, 0x0342),
   (0x1f70, 0x03b1, 0x0300), (0x1f72, 0x03b5, 0x0300), (0x1f74, 0x03b7, 0x0300),
   (0x1f76, 0x03b9, 0x0300), (0x1f78, 0x03bf, 0x0300), (0x1f7a, 0x03c5, 0x0300),
   (0x1f7c, 0x03c9, 0x0300), (0x1fb0, 0x03b1, 0x0306), (0x1fb1, 0x03b1, 0x0304),
   (0x1fb6, 0x03b1, 0x0342), (0x1fc6, 0x03b7, 0x0342), (0x1fd0, 0x03b9, 0x0306),
   (0x1fd1, 0x03b9, 0x0304), (0x1fd2, 0x03ca, 0x0300), (0x1fd6, 0x03b9, 0x0342),
   (0x1fd7, 0x03ca, 0x0342), (0x1fe0, 0x03c5, 0x0306), (0x1fe1, 0x03c5, 0x0304),
   (0x1fe2, 0x03cb, 0x0300), (0x1fe4, 0x03c1, 0x0313), (0x1fe5, 0x03c1, 0x0314),
   (0x1fe6, 0x03c5, 0x0342), (0x1fe7, 0x03cb, 0x0342), (0x1ff6, 0x03c9, 0x0342),
   (0x304c, 0x304b, 0x3099), (0x304e, 0x304d, 0x3099), (0x3050, 0x304f, 0x3099),
   (0x3052, 0x3051, 0x3099), (0x3054, 0x3053, 0x3099), (0x3056, 0x3055, 0x3099),
   (0x3058, 0x3057, 0x3099), (0x305a, 0x3059, 0x3099), (0x305c, 0x305b, 0x3099),
   (0x305e, 0x305d, 0x3099), (0x3060, 0x305f, 0x3099), (0x3062, 0x3061, 0x3099),
   (0x3065, 0x3064, 0x3099), (0x3067, 0x3066, 0x3099), (0x3069, 0x3068, 0x3099),
   (0x3070, 0x306f, 0x3099), (0x3071, 0x306f, 0x309a), (0x3073, 0x3072, 0x3099),
   (0x3074, 0x3072, 0x309a), (0x3076, 0x3075, 0x3099), (0x3077, 0x3075, 0x309a),
   (0x3079, 0x3078, 0x3099), (0x307a, 0x3078, 0x309a), (0x307c, 0x307b, 0x3099),
   (0x307d, 0x307b, 0x309a), (0x3094, 0x3046, 0x3099), (0x309e, 0x309d, 0x3099),
   (0x30ac, 0x30ab, 0x3099), (0x30ae, 0x30ad, 0x3099), (0x30b0, 0x30af, 0x3099),
   (0x30b2, 0x30b1, 0x3099), (0x30b4, 0x30b3, 0x3099), (0x30b6, 0x30b5, 0x3099),
   (0x30b8, 0x30b7, 0x3099), (0x30ba, 0x30b9, 0x3099), (0x30bc, 0x30bb, 0x3099),
   (0x30be, 0x30bd, 0x3099), (0x30c0, 0x30bf, 0x3099), (0x30c2, 0x30c1, 0x3099),
   (0x30c5, 0x30c4, 0x3099), (0x30c7, 0x30c6, 0x3099), (0x30c9, 0x30c8, 0x3099),
   (0x30d0, 0x30cf, 0x3099), (0x30d1, 0x30cf, 0x309a), (0x30d3, 0x30d2, 0x3099),
   (0x30d4, 0x30d2, 0x309a), (0x30d6, 0x30d5, 0x3099), (0x30d7, 0x30d5, 0x309a),
   (0x30d9, 0x30d8, 0x3099), (0x30da, 0x30d8, 0x309a), (0x30dc, 0x30db, 0x3099),
   (0x30dd, 0x30db, 0x309a), (0x30f4, 0x30a6, 0x3099), (0x30f7, 0x30ef, 0x3099),
   (0x30f8, 0x30f0, 0x3099), (0x30f9, 0x30f1, 0x3099), (0x30fa, 0x30f2, 0x3099),
   (0x30fe, 0x30fd, 0x3099), (0x1109a, 0x11099, 0x110ba), (0x1109c, 0x1109b, 0x110ba),
   (0x110ab, 0x110a5, 0x110ba), (0x1112e, 0x11131, 0x11127), (0x1112f, 0x11132, 0x11127),
   (0x1134b, 0x11347, 0x1133e), (0x1134c, 0x11347, 0x11357), (0x114bb, 0x114b9, 0x114ba),
   (0x114bc, 0x114b9, 0x114b0), (0x114be, 0x114b9, 0x114bd), (0x115ba, 0x115b8, 0x115af),
   (0x115bb, 0x115b9, 0x115af), (0x11938, 0x11935, 0x11930)]

/-- The letter and the mark that are merged in a letter. -/
def partsOf? (c : Char) : Option (Char × Char) :=
  (mergedRows.find? fun row => row.1 = c.toNat).map fun row =>
    (Char.ofNat row.2.1, Char.ofNat row.2.2)

def merged? (letter mark : Char) : Option Char :=
  (mergedRows.find? fun row => row.2.1 = letter.toNat && row.2.2 = mark.toNat).map fun row =>
    Char.ofNat row.1

/-- No letter merges more marks than this. -/
def mergeDepth : Nat := 4

/-- A character with everything in it taken apart. -/
def takeApart : Nat → Char → List Char
  | 0, c => [c]
  | depth + 1, c =>
    match partsOf? c with
    | some (letter, mark) => takeApart depth letter ++ [mark]
    | none => [c]

/-- The text after a letter that marks may be merged with.  The marks that could not be merged are
held in reverse order. -/
def mergeFrom (letter : Char) (held : List Char) : List Char → List Char
  | [] => letter :: held.reverse
  | c :: rest =>
    let isFree := match held with
      | [] => true
      | last :: _ => place last < place c
    match if isFree then merged? letter c else none with
    | some merged => mergeFrom merged held rest
    | none =>
      if place c = 0 then letter :: (held.reverse ++ mergeFrom c [] rest)
      else mergeFrom letter (c :: held) rest

/-- The text with all letters and marks merged that can be. -/
def compose (text : List Char) : List Char :=
  match orderMarks (text.flatMap (takeApart mergeDepth)) with
  | [] => []
  | first :: rest => mergeFrom first [] rest

def isComposed (text : List Char) : Bool :=
  compose text = text

end RestartCheck.Host
