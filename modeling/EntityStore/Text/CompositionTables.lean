/-!
# Composition tables

Data on how marks go with the letters they stand on: the order in which marks are written, and
which pairs of characters are one character in composed text.
-/

namespace EntityStore.Text

/-- The classes of combining marks.  A character outside the ranges has class zero: it starts a
letter of its own. -/
def combiningRanges : List (Nat × List (Nat × Nat)) :=
  [(1, [(0x334, 0x338), (0x1cd4, 0x1cd4), (0x1ce2, 0x1ce8), (0x20d2, 0x20d3), (0x20d8, 0x20da),
     (0x20e5, 0x20e6), (0x20ea, 0x20eb), (0x10a39, 0x10a39), (0x16af0, 0x16af4), (0x1bc9e, 0x1bc9e),
     (0x1d167, 0x1d169)]),
   (6, [(0x16ff0, 0x16ff1)]),
   (7, [(0x93c, 0x93c), (0x9bc, 0x9bc), (0xa3c, 0xa3c), (0xabc, 0xabc), (0xb3c, 0xb3c),
     (0xc3c, 0xc3c), (0xcbc, 0xcbc), (0x1037, 0x1037), (0x1b34, 0x1b34), (0x1be6, 0x1be6),
     (0x1c37, 0x1c37), (0xa9b3, 0xa9b3), (0x110ba, 0x110ba), (0x11173, 0x11173), (0x111ca, 0x111ca),
     (0x11236, 0x11236), (0x112e9, 0x112e9), (0x1133b, 0x1133c), (0x11446, 0x11446),
     (0x114c3, 0x114c3), (0x115c0, 0x115c0), (0x116b7, 0x116b7), (0x1183a, 0x1183a),
     (0x11943, 0x11943), (0x11d42, 0x11d42), (0x11f5a, 0x11f5a), (0x1e94a, 0x1e94a)]),
   (8, [(0x3099, 0x309a)]),
   (9, [(0x94d, 0x94d), (0x9cd, 0x9cd), (0xa4d, 0xa4d), (0xacd, 0xacd), (0xb4d, 0xb4d),
     (0xbcd, 0xbcd), (0xc4d, 0xc4d), (0xccd, 0xccd), (0xd3b, 0xd3c), (0xd4d, 0xd4d), (0xdca, 0xdca),
     (0xe3a, 0xe3a), (0xeba, 0xeba), (0xf84, 0xf84), (0x1039, 0x103a), (0x1714, 0x1715),
     (0x1734, 0x1734), (0x17d2, 0x17d2), (0x1a60, 0x1a60), (0x1b44, 0x1b44), (0x1baa, 0x1bab),
     (0x1bf2, 0x1bf3), (0x2d7f, 0x2d7f), (0xa806, 0xa806), (0xa82c, 0xa82c), (0xa8c4, 0xa8c4),
     (0xa953, 0xa953), (0xa9c0, 0xa9c0), (0xaaf6, 0xaaf6), (0xabed, 0xabed), (0x10a3f, 0x10a3f),
     (0x11046, 0x11046), (0x11070, 0x11070), (0x1107f, 0x1107f), (0x110b9, 0x110b9),
     (0x11133, 0x11134), (0x111c0, 0x111c0), (0x11235, 0x11235), (0x112ea, 0x112ea),
     (0x1134d, 0x1134d), (0x113ce, 0x113d0), (0x11442, 0x11442), (0x114c2, 0x114c2),
     (0x115bf, 0x115bf), (0x1163f, 0x1163f), (0x116b6, 0x116b6), (0x1172b, 0x1172b),
     (0x11839, 0x11839), (0x1193d, 0x1193e), (0x119e0, 0x119e0), (0x11a34, 0x11a34),
     (0x11a47, 0x11a47), (0x11a99, 0x11a99), (0x11c3f, 0x11c3f), (0x11d44, 0x11d45),
     (0x11d97, 0x11d97), (0x11f41, 0x11f42), (0x1612f, 0x1612f)]),
   (10, [(0x5b0, 0x5b0)]),
   (11, [(0x5b1, 0x5b1)]),
   (12, [(0x5b2, 0x5b2)]),
   (13, [(0x5b3, 0x5b3)]),
   (14, [(0x5b4, 0x5b4)]),
   (15, [(0x5b5, 0x5b5)]),
   (16, [(0x5b6, 0x5b6)]),
   (17, [(0x5b7, 0x5b7)]),
   (18, [(0x5b8, 0x5b8), (0x5c7, 0x5c7)]),
   (19, [(0x5b9, 0x5ba)]),
   (20, [(0x5bb, 0x5bb)]),
   (21, [(0x5bc, 0x5bc)]),
   (22, [(0x5bd, 0x5bd)]),
   (23, [(0x5bf, 0x5bf)]),
   (24, [(0x5c1, 0x5c1)]),
   (25, [(0x5c2, 0x5c2)]),
   (26, [(0xfb1e, 0xfb1e)]),
   (27, [(0x64b, 0x64b), (0x8f0, 0x8f0)]),
   (28, [(0x64c, 0x64c), (0x8f1, 0x8f1)]),
   (29, [(0x64d, 0x64d), (0x8f2, 0x8f2)]),
   (30, [(0x618, 0x618), (0x64e, 0x64e)]),
   (31, [(0x619, 0x619), (0x64f, 0x64f)]),
   (32, [(0x61a, 0x61a), (0x650, 0x650)]),
   (33, [(0x651, 0x651)]),
   (34, [(0x652, 0x652)]),
   (35, [(0x670, 0x670)]),
   (36, [(0x711, 0x711)]),
   (84, [(0xc55, 0xc55)]),
   (91, [(0xc56, 0xc56)]),
   (103, [(0xe38, 0xe39)]),
   (107, [(0xe48, 0xe4b)]),
   (118, [(0xeb8, 0xeb9)]),
   (122, [(0xec8, 0xecb)]),
   (129, [(0xf71, 0xf71)]),
   (130, [(0xf72, 0xf72), (0xf7a, 0xf7d), (0xf80, 0xf80)]),
   (132, [(0xf74, 0xf74)]),
   (202, [(0x321, 0x322), (0x327, 0x328), (0x1dd0, 0x1dd0)]),
   (214, [(0x1dce, 0x1dce)]),
   (216, [(0x31b, 0x31b), (0xf39, 0xf39), (0x1d165, 0x1d166), (0x1d16e, 0x1d172)]),
   (218, [(0x1dfa, 0x1dfa), (0x302a, 0x302a)]),
   (220, [(0x316, 0x319), (0x31c, 0x320), (0x323, 0x326), (0x329, 0x333), (0x339, 0x33c),
     (0x347, 0x349), (0x34d, 0x34e), (0x353, 0x356), (0x359, 0x35a), (0x591, 0x591), (0x596, 0x596),
     (0x59b, 0x59b), (0x5a2, 0x5a7), (0x5aa, 0x5aa), (0x5c5, 0x5c5), (0x655, 0x656), (0x65c, 0x65c),
     (0x65f, 0x65f), (0x6e3, 0x6e3), (0x6ea, 0x6ea), (0x6ed, 0x6ed), (0x731, 0x731), (0x734, 0x734),
     (0x737, 0x739), (0x73b, 0x73c), (0x73e, 0x73e), (0x742, 0x742), (0x744, 0x744), (0x746, 0x746),
     (0x748, 0x748), (0x7f2, 0x7f2), (0x7fd, 0x7fd), (0x859, 0x85b), (0x899, 0x89b), (0x8cf, 0x8d3),
     (0x8e3, 0x8e3), (0x8e6, 0x8e6), (0x8e9, 0x8e9), (0x8ed, 0x8ef), (0x8f6, 0x8f6), (0x8f9, 0x8fa),
     (0x952, 0x952), (0xf18, 0xf19), (0xf35, 0xf35), (0xf37, 0xf37), (0xfc6, 0xfc6),
     (0x108d, 0x108d), (0x193b, 0x193b), (0x1a18, 0x1a18), (0x1a7f, 0x1a7f), (0x1ab5, 0x1aba),
     (0x1abd, 0x1abd), (0x1abf, 0x1ac0), (0x1ac3, 0x1ac4), (0x1aca, 0x1aca), (0x1add, 0x1add),
     (0x1ae6, 0x1ae6), (0x1b6c, 0x1b6c), (0x1cd5, 0x1cd9), (0x1cdc, 0x1cdf), (0x1ced, 0x1ced),
     (0x1dc2, 0x1dc2), (0x1dca, 0x1dca), (0x1dcf, 0x1dcf), (0x1df9, 0x1df9), (0x1dfd, 0x1dfd),
     (0x1dff, 0x1dff), (0x20e8, 0x20e8), (0x20ec, 0x20ef), (0xa92b, 0xa92d), (0xaab4, 0xaab4),
     (0xfe27, 0xfe2d), (0x101fd, 0x101fd), (0x102e0, 0x102e0), (0x10a0d, 0x10a0d),
     (0x10a3a, 0x10a3a), (0x10ae6, 0x10ae6), (0x10efa, 0x10efb), (0x10efd, 0x10eff),
     (0x10f46, 0x10f47), (0x10f4b, 0x10f4b), (0x10f4d, 0x10f50), (0x10f83, 0x10f83),
     (0x10f85, 0x10f85), (0x1d17b, 0x1d182), (0x1d18a, 0x1d18b), (0x1e4ee, 0x1e4ee),
     (0x1e5ef, 0x1e5ef), (0x1e8d0, 0x1e8d6)]),
   (222, [(0x59a, 0x59a), (0x5ad, 0x5ad), (0x1939, 0x1939), (0x302d, 0x302d)]),
   (224, [(0x302e, 0x302f)]),
   (226, [(0x1d16d, 0x1d16d)]),
   (228, [(0x5ae, 0x5ae), (0x18a9, 0x18a9), (0x1df7, 0x1df8), (0x302b, 0x302b)]),
   (230, [(0x300, 0x314), (0x33d, 0x344), (0x346, 0x346), (0x34a, 0x34c), (0x350, 0x352),
     (0x357, 0x357), (0x35b, 0x35b), (0x363, 0x36f), (0x483, 0x487), (0x592, 0x595), (0x597, 0x599),
     (0x59c, 0x5a1), (0x5a8, 0x5a9), (0x5ab, 0x5ac), (0x5af, 0x5af), (0x5c4, 0x5c4), (0x610, 0x617),
     (0x653, 0x654), (0x657, 0x65b), (0x65d, 0x65e), (0x6d6, 0x6dc), (0x6df, 0x6e2), (0x6e4, 0x6e4),
     (0x6e7, 0x6e8), (0x6eb, 0x6ec), (0x730, 0x730), (0x732, 0x733), (0x735, 0x736), (0x73a, 0x73a),
     (0x73d, 0x73d), (0x73f, 0x741), (0x743, 0x743), (0x745, 0x745), (0x747, 0x747), (0x749, 0x74a),
     (0x7eb, 0x7f1), (0x7f3, 0x7f3), (0x816, 0x819), (0x81b, 0x823), (0x825, 0x827), (0x829, 0x82d),
     (0x897, 0x898), (0x89c, 0x89f), (0x8ca, 0x8ce), (0x8d4, 0x8e1), (0x8e4, 0x8e5), (0x8e7, 0x8e8),
     (0x8ea, 0x8ec), (0x8f3, 0x8f5), (0x8f7, 0x8f8), (0x8fb, 0x8ff), (0x951, 0x951), (0x953, 0x954),
     (0x9fe, 0x9fe), (0xf82, 0xf83), (0xf86, 0xf87), (0x135d, 0x135f), (0x17dd, 0x17dd),
     (0x193a, 0x193a), (0x1a17, 0x1a17), (0x1a75, 0x1a7c), (0x1ab0, 0x1ab4), (0x1abb, 0x1abc),
     (0x1ac1, 0x1ac2), (0x1ac5, 0x1ac9), (0x1acb, 0x1adc), (0x1ae0, 0x1ae5), (0x1ae7, 0x1aea),
     (0x1b6b, 0x1b6b), (0x1b6d, 0x1b73), (0x1cd0, 0x1cd2), (0x1cda, 0x1cdb), (0x1ce0, 0x1ce0),
     (0x1cf4, 0x1cf4), (0x1cf8, 0x1cf9), (0x1dc0, 0x1dc1), (0x1dc3, 0x1dc9), (0x1dcb, 0x1dcc),
     (0x1dd1, 0x1df5), (0x1dfb, 0x1dfb), (0x1dfe, 0x1dfe), (0x20d0, 0x20d1), (0x20d4, 0x20d7),
     (0x20db, 0x20dc), (0x20e1, 0x20e1), (0x20e7, 0x20e7), (0x20e9, 0x20e9), (0x20f0, 0x20f0),
     (0x2cef, 0x2cf1), (0x2de0, 0x2dff), (0xa66f, 0xa66f), (0xa674, 0xa67d), (0xa69e, 0xa69f),
     (0xa6f0, 0xa6f1), (0xa8e0, 0xa8f1), (0xaab0, 0xaab0), (0xaab2, 0xaab3), (0xaab7, 0xaab8),
     (0xaabe, 0xaabf), (0xaac1, 0xaac1), (0xfe20, 0xfe26), (0xfe2e, 0xfe2f), (0x10376, 0x1037a),
     (0x10a0f, 0x10a0f), (0x10a38, 0x10a38), (0x10ae5, 0x10ae5), (0x10d24, 0x10d27),
     (0x10d69, 0x10d6d), (0x10eab, 0x10eac), (0x10f48, 0x10f4a), (0x10f4c, 0x10f4c),
     (0x10f82, 0x10f82), (0x10f84, 0x10f84), (0x11100, 0x11102), (0x11366, 0x1136c),
     (0x11370, 0x11374), (0x113e1, 0x113e2), (0x1145e, 0x1145e), (0x16b30, 0x16b36),
     (0x1d185, 0x1d189), (0x1d1aa, 0x1d1ad), (0x1d242, 0x1d244), (0x1e000, 0x1e006),
     (0x1e008, 0x1e018), (0x1e01b, 0x1e021), (0x1e023, 0x1e024), (0x1e026, 0x1e02a),
     (0x1e08f, 0x1e08f), (0x1e130, 0x1e136), (0x1e2ae, 0x1e2ae), (0x1e2ec, 0x1e2ef),
     (0x1e4ef, 0x1e4ef), (0x1e5ee, 0x1e5ee), (0x1e6e3, 0x1e6e3), (0x1e6e6, 0x1e6e6),
     (0x1e6ee, 0x1e6ef), (0x1e6f5, 0x1e6f5), (0x1e944, 0x1e949)]),
   (232, [(0x315, 0x315), (0x31a, 0x31a), (0x358, 0x358), (0x1df6, 0x1df6), (0x302c, 0x302c),
     (0x1e4ec, 0x1e4ed)]),
   (233, [(0x35c, 0x35c), (0x35f, 0x35f), (0x362, 0x362), (0x1dfc, 0x1dfc)]),
   (234, [(0x35d, 0x35e), (0x360, 0x361), (0x1aeb, 0x1aeb), (0x1dcd, 0x1dcd)]),
   (240, [(0x345, 0x345)])]

/-- The second characters of composed ones, each with the first characters and what they compose to.
What is composed from a composed character comes before that one. -/
def compositions : List (Nat × List (Nat × Nat)) :=
  [(0x345, [(0x1f02, 0x1f82), (0x1f03, 0x1f83), (0x1f04, 0x1f84), (0x1f05, 0x1f85),
     (0x1f06, 0x1f86), (0x1f07, 0x1f87), (0x1f0a, 0x1f8a), (0x1f0b, 0x1f8b), (0x1f0c, 0x1f8c),
     (0x1f0d, 0x1f8d), (0x1f0e, 0x1f8e), (0x1f0f, 0x1f8f), (0x1f22, 0x1f92), (0x1f23, 0x1f93),
     (0x1f24, 0x1f94), (0x1f25, 0x1f95), (0x1f26, 0x1f96), (0x1f27, 0x1f97), (0x1f2a, 0x1f9a),
     (0x1f2b, 0x1f9b), (0x1f2c, 0x1f9c), (0x1f2d, 0x1f9d), (0x1f2e, 0x1f9e), (0x1f2f, 0x1f9f),
     (0x1f62, 0x1fa2), (0x1f63, 0x1fa3), (0x1f64, 0x1fa4), (0x1f65, 0x1fa5), (0x1f66, 0x1fa6),
     (0x1f67, 0x1fa7), (0x1f6a, 0x1faa), (0x1f6b, 0x1fab), (0x1f6c, 0x1fac), (0x1f6d, 0x1fad),
     (0x1f6e, 0x1fae), (0x1f6f, 0x1faf)]),
   (0x300, [(0xdc, 0x1db), (0xfc, 0x1dc), (0x112, 0x1e14), (0x113, 0x1e15), (0x14c, 0x1e50),
     (0x14d, 0x1e51), (0xc2, 0x1ea6), (0xe2, 0x1ea7), (0x102, 0x1eb0), (0x103, 0x1eb1),
     (0xca, 0x1ec0), (0xea, 0x1ec1), (0xd4, 0x1ed2), (0xf4, 0x1ed3), (0x1a0, 0x1edc),
     (0x1a1, 0x1edd), (0x1af, 0x1eea), (0x1b0, 0x1eeb), (0x1f00, 0x1f02), (0x1f01, 0x1f03),
     (0x1f08, 0x1f0a), (0x1f09, 0x1f0b), (0x1f10, 0x1f12), (0x1f11, 0x1f13), (0x1f18, 0x1f1a),
     (0x1f19, 0x1f1b), (0x1f20, 0x1f22), (0x1f21, 0x1f23), (0x1f28, 0x1f2a), (0x1f29, 0x1f2b),
     (0x1f30, 0x1f32), (0x1f31, 0x1f33), (0x1f38, 0x1f3a), (0x1f39, 0x1f3b), (0x1f40, 0x1f42),
     (0x1f41, 0x1f43), (0x1f48, 0x1f4a), (0x1f49, 0x1f4b), (0x1f50, 0x1f52), (0x1f51, 0x1f53),
     (0x1f59, 0x1f5b), (0x1f60, 0x1f62), (0x1f61, 0x1f63), (0x1f68, 0x1f6a), (0x1f69, 0x1f6b),
     (0x3ca, 0x1fd2), (0x3cb, 0x1fe2)]),
   (0x301, [(0xdc, 0x1d7), (0xfc, 0x1d8), (0xc5, 0x1fa), (0xe5, 0x1fb), (0x3ca, 0x390),
     (0x3cb, 0x3b0), (0xc7, 0x1e08), (0xe7, 0x1e09), (0x112, 0x1e16), (0x113, 0x1e17),
     (0xcf, 0x1e2e), (0xef, 0x1e2f), (0xd5, 0x1e4c), (0xf5, 0x1e4d), (0x14c, 0x1e52),
     (0x14d, 0x1e53), (0x168, 0x1e78), (0x169, 0x1e79), (0xc2, 0x1ea4), (0xe2, 0x1ea5),
     (0x102, 0x1eae), (0x103, 0x1eaf), (0xca, 0x1ebe), (0xea, 0x1ebf), (0xd4, 0x1ed0),
     (0xf4, 0x1ed1), (0x1a0, 0x1eda), (0x1a1, 0x1edb), (0x1af, 0x1ee8), (0x1b0, 0x1ee9),
     (0x1f00, 0x1f04), (0x1f01, 0x1f05), (0x1f08, 0x1f0c), (0x1f09, 0x1f0d), (0x1f10, 0x1f14),
     (0x1f11, 0x1f15), (0x1f18, 0x1f1c), (0x1f19, 0x1f1d), (0x1f20, 0x1f24), (0x1f21, 0x1f25),
     (0x1f28, 0x1f2c), (0x1f29, 0x1f2d), (0x1f30, 0x1f34), (0x1f31, 0x1f35), (0x1f38, 0x1f3c),
     (0x1f39, 0x1f3d), (0x1f40, 0x1f44), (0x1f41, 0x1f45), (0x1f48, 0x1f4c), (0x1f49, 0x1f4d),
     (0x1f50, 0x1f54), (0x1f51, 0x1f55), (0x1f59, 0x1f5d), (0x1f60, 0x1f64), (0x1f61, 0x1f65),
     (0x1f68, 0x1f6c), (0x1f69, 0x1f6d)]),
   (0x302, [(0x1ea0, 0x1eac), (0x1ea1, 0x1ead), (0x1eb8, 0x1ec6), (0x1eb9, 0x1ec7),
     (0x1ecc, 0x1ed8), (0x1ecd, 0x1ed9)]),
   (0x303, [(0xc2, 0x1eaa), (0xe2, 0x1eab), (0x102, 0x1eb4), (0x103, 0x1eb5), (0xca, 0x1ec4),
     (0xea, 0x1ec5), (0xd4, 0x1ed6), (0xf4, 0x1ed7), (0x1a0, 0x1ee0), (0x1a1, 0x1ee1),
     (0x1af, 0x1eee), (0x1b0, 0x1eef)]),
   (0x304, [(0xdc, 0x1d5), (0xfc, 0x1d6), (0xc4, 0x1de), (0xe4, 0x1df), (0x226, 0x1e0),
     (0x227, 0x1e1), (0x1ea, 0x1ec), (0x1eb, 0x1ed), (0xd6, 0x22a), (0xf6, 0x22b), (0xd5, 0x22c),
     (0xf5, 0x22d), (0x22e, 0x230), (0x22f, 0x231), (0x1e36, 0x1e38), (0x1e37, 0x1e39),
     (0x1e5a, 0x1e5c), (0x1e5b, 0x1e5d)]),
   (0x306, [(0x228, 0x1e1c), (0x229, 0x1e1d), (0x1ea0, 0x1eb6), (0x1ea1, 0x1eb7)]),
   (0x307, [(0x15a, 0x1e64), (0x15b, 0x1e65), (0x160, 0x1e66), (0x161, 0x1e67), (0x1e62, 0x1e68),
     (0x1e63, 0x1e69)]),
   (0x308, [(0xd5, 0x1e4e), (0xf5, 0x1e4f), (0x16a, 0x1e7a), (0x16b, 0x1e7b)]),
   (0x309, [(0xc2, 0x1ea8), (0xe2, 0x1ea9), (0x102, 0x1eb2), (0x103, 0x1eb3), (0xca, 0x1ec2),
     (0xea, 0x1ec3), (0xd4, 0x1ed4), (0xf4, 0x1ed5), (0x1a0, 0x1ede), (0x1a1, 0x1edf),
     (0x1af, 0x1eec), (0x1b0, 0x1eed)]),
   (0x30c, [(0xdc, 0x1d9), (0xfc, 0x1da)]),
   (0x323, [(0x1a0, 0x1ee2), (0x1a1, 0x1ee3), (0x1af, 0x1ef0), (0x1b0, 0x1ef1)]),
   (0x342, [(0x1f00, 0x1f06), (0x1f01, 0x1f07), (0x1f08, 0x1f0e), (0x1f09, 0x1f0f),
     (0x1f20, 0x1f26), (0x1f21, 0x1f27), (0x1f28, 0x1f2e), (0x1f29, 0x1f2f), (0x1f30, 0x1f36),
     (0x1f31, 0x1f37), (0x1f38, 0x1f3e), (0x1f39, 0x1f3f), (0x1f50, 0x1f56), (0x1f51, 0x1f57),
     (0x1f59, 0x1f5f), (0x1f60, 0x1f66), (0x1f61, 0x1f67), (0x1f68, 0x1f6e), (0x1f69, 0x1f6f),
     (0x3ca, 0x1fd7), (0x3cb, 0x1fe7)]),
   (0x345, [(0x1f00, 0x1f80), (0x1f01, 0x1f81), (0x1f08, 0x1f88), (0x1f09, 0x1f89),
     (0x1f20, 0x1f90), (0x1f21, 0x1f91), (0x1f28, 0x1f98), (0x1f29, 0x1f99), (0x1f60, 0x1fa0),
     (0x1f61, 0x1fa1), (0x1f68, 0x1fa8), (0x1f69, 0x1fa9), (0x1f70, 0x1fb2), (0x3ac, 0x1fb4),
     (0x1fb6, 0x1fb7), (0x1f74, 0x1fc2), (0x3ae, 0x1fc4), (0x1fc6, 0x1fc7), (0x1f7c, 0x1ff2),
     (0x3ce, 0x1ff4), (0x1ff6, 0x1ff7)]),
   (0xcd5, [(0xcca, 0xccb)]),
   (0xdca, [(0xddc, 0xddd)]),
   (0x16d67, [(0x16d69, 0x16d6a)]),
   (0x300, [(0x41, 0xc0), (0x45, 0xc8), (0x49, 0xcc), (0x4f, 0xd2), (0x55, 0xd9), (0x61, 0xe0),
     (0x65, 0xe8), (0x69, 0xec), (0x6f, 0xf2), (0x75, 0xf9), (0x4e, 0x1f8), (0x6e, 0x1f9),
     (0x415, 0x400), (0x418, 0x40d), (0x435, 0x450), (0x438, 0x45d), (0x57, 0x1e80), (0x77, 0x1e81),
     (0x59, 0x1ef2), (0x79, 0x1ef3), (0x3b1, 0x1f70), (0x3b5, 0x1f72), (0x3b7, 0x1f74),
     (0x3b9, 0x1f76), (0x3bf, 0x1f78), (0x3c5, 0x1f7a), (0x3c9, 0x1f7c), (0x391, 0x1fba),
     (0x395, 0x1fc8), (0x397, 0x1fca), (0x1fbf, 0x1fcd), (0x399, 0x1fda), (0x1ffe, 0x1fdd),
     (0x3a5, 0x1fea), (0xa8, 0x1fed), (0x39f, 0x1ff8), (0x3a9, 0x1ffa)]),
   (0x301, [(0x41, 0xc1), (0x45, 0xc9), (0x49, 0xcd), (0x4f, 0xd3), (0x55, 0xda), (0x59, 0xdd),
     (0x61, 0xe1), (0x65, 0xe9), (0x69, 0xed), (0x6f, 0xf3), (0x75, 0xfa), (0x79, 0xfd),
     (0x43, 0x106), (0x63, 0x107), (0x4c, 0x139), (0x6c, 0x13a), (0x4e, 0x143), (0x6e, 0x144),
     (0x52, 0x154), (0x72, 0x155), (0x53, 0x15a), (0x73, 0x15b), (0x5a, 0x179), (0x7a, 0x17a),
     (0x47, 0x1f4), (0x67, 0x1f5), (0xc6, 0x1fc), (0xe6, 0x1fd), (0xd8, 0x1fe), (0xf8, 0x1ff),
     (0xa8, 0x385), (0x391, 0x386), (0x395, 0x388), (0x397, 0x389), (0x399, 0x38a), (0x39f, 0x38c),
     (0x3a5, 0x38e), (0x3a9, 0x38f), (0x3b1, 0x3ac), (0x3b5, 0x3ad), (0x3b7, 0x3ae), (0x3b9, 0x3af),
     (0x3bf, 0x3cc), (0x3c5, 0x3cd), (0x3c9, 0x3ce), (0x3d2, 0x3d3), (0x413, 0x403), (0x41a, 0x40c),
     (0x433, 0x453), (0x43a, 0x45c), (0x4b, 0x1e30), (0x6b, 0x1e31), (0x4d, 0x1e3e), (0x6d, 0x1e3f),
     (0x50, 0x1e54), (0x70, 0x1e55), (0x57, 0x1e82), (0x77, 0x1e83), (0x1fbf, 0x1fce),
     (0x1ffe, 0x1fde)]),
   (0x302, [(0x41, 0xc2), (0x45, 0xca), (0x49, 0xce), (0x4f, 0xd4), (0x55, 0xdb), (0x61, 0xe2),
     (0x65, 0xea), (0x69, 0xee), (0x6f, 0xf4), (0x75, 0xfb), (0x43, 0x108), (0x63, 0x109),
     (0x47, 0x11c), (0x67, 0x11d), (0x48, 0x124), (0x68, 0x125), (0x4a, 0x134), (0x6a, 0x135),
     (0x53, 0x15c), (0x73, 0x15d), (0x57, 0x174), (0x77, 0x175), (0x59, 0x176), (0x79, 0x177),
     (0x5a, 0x1e90), (0x7a, 0x1e91)]),
   (0x303, [(0x41, 0xc3), (0x4e, 0xd1), (0x4f, 0xd5), (0x61, 0xe3), (0x6e, 0xf1), (0x6f, 0xf5),
     (0x49, 0x128), (0x69, 0x129), (0x55, 0x168), (0x75, 0x169), (0x56, 0x1e7c), (0x76, 0x1e7d),
     (0x45, 0x1ebc), (0x65, 0x1ebd), (0x59, 0x1ef8), (0x79, 0x1ef9)]),
   (0x304, [(0x41, 0x100), (0x61, 0x101), (0x45, 0x112), (0x65, 0x113), (0x49, 0x12a),
     (0x69, 0x12b), (0x4f, 0x14c), (0x6f, 0x14d), (0x55, 0x16a), (0x75, 0x16b), (0xc6, 0x1e2),
     (0xe6, 0x1e3), (0x59, 0x232), (0x79, 0x233), (0x418, 0x4e2), (0x438, 0x4e3), (0x423, 0x4ee),
     (0x443, 0x4ef), (0x47, 0x1e20), (0x67, 0x1e21), (0x3b1, 0x1fb1), (0x391, 0x1fb9),
     (0x3b9, 0x1fd1), (0x399, 0x1fd9), (0x3c5, 0x1fe1), (0x3a5, 0x1fe9)]),
   (0x306, [(0x41, 0x102), (0x61, 0x103), (0x45, 0x114), (0x65, 0x115), (0x47, 0x11e),
     (0x67, 0x11f), (0x49, 0x12c), (0x69, 0x12d), (0x4f, 0x14e), (0x6f, 0x14f), (0x55, 0x16c),
     (0x75, 0x16d), (0x423, 0x40e), (0x418, 0x419), (0x438, 0x439), (0x443, 0x45e), (0x416, 0x4c1),
     (0x436, 0x4c2), (0x410, 0x4d0), (0x430, 0x4d1), (0x415, 0x4d6), (0x435, 0x4d7),
     (0x3b1, 0x1fb0), (0x391, 0x1fb8), (0x3b9, 0x1fd0), (0x399, 0x1fd8), (0x3c5, 0x1fe0),
     (0x3a5, 0x1fe8)]),
   (0x307, [(0x43, 0x10a), (0x63, 0x10b), (0x45, 0x116), (0x65, 0x117), (0x47, 0x120),
     (0x67, 0x121), (0x49, 0x130), (0x5a, 0x17b), (0x7a, 0x17c), (0x41, 0x226), (0x61, 0x227),
     (0x4f, 0x22e), (0x6f, 0x22f), (0x42, 0x1e02), (0x62, 0x1e03), (0x44, 0x1e0a), (0x64, 0x1e0b),
     (0x46, 0x1e1e), (0x66, 0x1e1f), (0x48, 0x1e22), (0x68, 0x1e23), (0x4d, 0x1e40), (0x6d, 0x1e41),
     (0x4e, 0x1e44), (0x6e, 0x1e45), (0x50, 0x1e56), (0x70, 0x1e57), (0x52, 0x1e58), (0x72, 0x1e59),
     (0x53, 0x1e60), (0x73, 0x1e61), (0x54, 0x1e6a), (0x74, 0x1e6b), (0x57, 0x1e86), (0x77, 0x1e87),
     (0x58, 0x1e8a), (0x78, 0x1e8b), (0x59, 0x1e8e), (0x79, 0x1e8f), (0x17f, 0x1e9b),
     (0x105d2, 0x105c9), (0x105da, 0x105e4)]),
   (0x308, [(0x41, 0xc4), (0x45, 0xcb), (0x49, 0xcf), (0x4f, 0xd6), (0x55, 0xdc), (0x61, 0xe4),
     (0x65, 0xeb), (0x69, 0xef), (0x6f, 0xf6), (0x75, 0xfc), (0x79, 0xff), (0x59, 0x178),
     (0x399, 0x3aa), (0x3a5, 0x3ab), (0x3b9, 0x3ca), (0x3c5, 0x3cb), (0x3d2, 0x3d4), (0x415, 0x401),
     (0x406, 0x407), (0x435, 0x451), (0x456, 0x457), (0x410, 0x4d2), (0x430, 0x4d3), (0x4d8, 0x4da),
     (0x4d9, 0x4db), (0x416, 0x4dc), (0x436, 0x4dd), (0x417, 0x4de), (0x437, 0x4df), (0x418, 0x4e4),
     (0x438, 0x4e5), (0x41e, 0x4e6), (0x43e, 0x4e7), (0x4e8, 0x4ea), (0x4e9, 0x4eb), (0x42d, 0x4ec),
     (0x44d, 0x4ed), (0x423, 0x4f0), (0x443, 0x4f1), (0x427, 0x4f4), (0x447, 0x4f5), (0x42b, 0x4f8),
     (0x44b, 0x4f9), (0x48, 0x1e26), (0x68, 0x1e27), (0x57, 0x1e84), (0x77, 0x1e85), (0x58, 0x1e8c),
     (0x78, 0x1e8d), (0x74, 0x1e97)]),
   (0x309, [(0x41, 0x1ea2), (0x61, 0x1ea3), (0x45, 0x1eba), (0x65, 0x1ebb), (0x49, 0x1ec8),
     (0x69, 0x1ec9), (0x4f, 0x1ece), (0x6f, 0x1ecf), (0x55, 0x1ee6), (0x75, 0x1ee7), (0x59, 0x1ef6),
     (0x79, 0x1ef7)]),
   (0x30a, [(0x41, 0xc5), (0x61, 0xe5), (0x55, 0x16e), (0x75, 0x16f), (0x77, 0x1e98),
     (0x79, 0x1e99)]),
   (0x30b, [(0x4f, 0x150), (0x6f, 0x151), (0x55, 0x170), (0x75, 0x171), (0x423, 0x4f2),
     (0x443, 0x4f3)]),
   (0x30c, [(0x43, 0x10c), (0x63, 0x10d), (0x44, 0x10e), (0x64, 0x10f), (0x45, 0x11a),
     (0x65, 0x11b), (0x4c, 0x13d), (0x6c, 0x13e), (0x4e, 0x147), (0x6e, 0x148), (0x52, 0x158),
     (0x72, 0x159), (0x53, 0x160), (0x73, 0x161), (0x54, 0x164), (0x74, 0x165), (0x5a, 0x17d),
     (0x7a, 0x17e), (0x41, 0x1cd), (0x61, 0x1ce), (0x49, 0x1cf), (0x69, 0x1d0), (0x4f, 0x1d1),
     (0x6f, 0x1d2), (0x55, 0x1d3), (0x75, 0x1d4), (0x47, 0x1e6), (0x67, 0x1e7), (0x4b, 0x1e8),
     (0x6b, 0x1e9), (0x1b7, 0x1ee), (0x292, 0x1ef), (0x6a, 0x1f0), (0x48, 0x21e), (0x68, 0x21f)]),
   (0x30f, [(0x41, 0x200), (0x61, 0x201), (0x45, 0x204), (0x65, 0x205), (0x49, 0x208),
     (0x69, 0x209), (0x4f, 0x20c), (0x6f, 0x20d), (0x52, 0x210), (0x72, 0x211), (0x55, 0x214),
     (0x75, 0x215), (0x474, 0x476), (0x475, 0x477)]),
   (0x311, [(0x41, 0x202), (0x61, 0x203), (0x45, 0x206), (0x65, 0x207), (0x49, 0x20a),
     (0x69, 0x20b), (0x4f, 0x20e), (0x6f, 0x20f), (0x52, 0x212), (0x72, 0x213), (0x55, 0x216),
     (0x75, 0x217)]),
   (0x313, [(0x3b1, 0x1f00), (0x391, 0x1f08), (0x3b5, 0x1f10), (0x395, 0x1f18), (0x3b7, 0x1f20),
     (0x397, 0x1f28), (0x3b9, 0x1f30), (0x399, 0x1f38), (0x3bf, 0x1f40), (0x39f, 0x1f48),
     (0x3c5, 0x1f50), (0x3c9, 0x1f60), (0x3a9, 0x1f68), (0x3c1, 0x1fe4)]),
   (0x314, [(0x3b1, 0x1f01), (0x391, 0x1f09), (0x3b5, 0x1f11), (0x395, 0x1f19), (0x3b7, 0x1f21),
     (0x397, 0x1f29), (0x3b9, 0x1f31), (0x399, 0x1f39), (0x3bf, 0x1f41), (0x39f, 0x1f49),
     (0x3c5, 0x1f51), (0x3a5, 0x1f59), (0x3c9, 0x1f61), (0x3a9, 0x1f69), (0x3c1, 0x1fe5),
     (0x3a1, 0x1fec)]),
   (0x31b, [(0x4f, 0x1a0), (0x6f, 0x1a1), (0x55, 0x1af), (0x75, 0x1b0)]),
   (0x323, [(0x42, 0x1e04), (0x62, 0x1e05), (0x44, 0x1e0c), (0x64, 0x1e0d), (0x48, 0x1e24),
     (0x68, 0x1e25), (0x4b, 0x1e32), (0x6b, 0x1e33), (0x4c, 0x1e36), (0x6c, 0x1e37), (0x4d, 0x1e42),
     (0x6d, 0x1e43), (0x4e, 0x1e46), (0x6e, 0x1e47), (0x52, 0x1e5a), (0x72, 0x1e5b), (0x53, 0x1e62),
     (0x73, 0x1e63), (0x54, 0x1e6c), (0x74, 0x1e6d), (0x56, 0x1e7e), (0x76, 0x1e7f), (0x57, 0x1e88),
     (0x77, 0x1e89), (0x5a, 0x1e92), (0x7a, 0x1e93), (0x41, 0x1ea0), (0x61, 0x1ea1), (0x45, 0x1eb8),
     (0x65, 0x1eb9), (0x49, 0x1eca), (0x69, 0x1ecb), (0x4f, 0x1ecc), (0x6f, 0x1ecd), (0x55, 0x1ee4),
     (0x75, 0x1ee5), (0x59, 0x1ef4), (0x79, 0x1ef5)]),
   (0x324, [(0x55, 0x1e72), (0x75, 0x1e73)]),
   (0x325, [(0x41, 0x1e00), (0x61, 0x1e01)]),
   (0x326, [(0x53, 0x218), (0x73, 0x219), (0x54, 0x21a), (0x74, 0x21b)]),
   (0x327, [(0x43, 0xc7), (0x63, 0xe7), (0x47, 0x122), (0x67, 0x123), (0x4b, 0x136), (0x6b, 0x137),
     (0x4c, 0x13b), (0x6c, 0x13c), (0x4e, 0x145), (0x6e, 0x146), (0x52, 0x156), (0x72, 0x157),
     (0x53, 0x15e), (0x73, 0x15f), (0x54, 0x162), (0x74, 0x163), (0x45, 0x228), (0x65, 0x229),
     (0x44, 0x1e10), (0x64, 0x1e11), (0x48, 0x1e28), (0x68, 0x1e29)]),
   (0x328, [(0x41, 0x104), (0x61, 0x105), (0x45, 0x118), (0x65, 0x119), (0x49, 0x12e),
     (0x69, 0x12f), (0x55, 0x172), (0x75, 0x173), (0x4f, 0x1ea), (0x6f, 0x1eb)]),
   (0x32d, [(0x44, 0x1e12), (0x64, 0x1e13), (0x45, 0x1e18), (0x65, 0x1e19), (0x4c, 0x1e3c),
     (0x6c, 0x1e3d), (0x4e, 0x1e4a), (0x6e, 0x1e4b), (0x54, 0x1e70), (0x74, 0x1e71), (0x55, 0x1e76),
     (0x75, 0x1e77)]),
   (0x32e, [(0x48, 0x1e2a), (0x68, 0x1e2b)]),
   (0x330, [(0x45, 0x1e1a), (0x65, 0x1e1b), (0x49, 0x1e2c), (0x69, 0x1e2d), (0x55, 0x1e74),
     (0x75, 0x1e75)]),
   (0x331, [(0x42, 0x1e06), (0x62, 0x1e07), (0x44, 0x1e0e), (0x64, 0x1e0f), (0x4b, 0x1e34),
     (0x6b, 0x1e35), (0x4c, 0x1e3a), (0x6c, 0x1e3b), (0x4e, 0x1e48), (0x6e, 0x1e49), (0x52, 0x1e5e),
     (0x72, 0x1e5f), (0x54, 0x1e6e), (0x74, 0x1e6f), (0x5a, 0x1e94), (0x7a, 0x1e95),
     (0x68, 0x1e96)]),
   (0x338, [(0x2190, 0x219a), (0x2192, 0x219b), (0x2194, 0x21ae), (0x21d0, 0x21cd),
     (0x21d4, 0x21ce), (0x21d2, 0x21cf), (0x2203, 0x2204), (0x2208, 0x2209), (0x220b, 0x220c),
     (0x2223, 0x2224), (0x2225, 0x2226), (0x223c, 0x2241), (0x2243, 0x2244), (0x2245, 0x2247),
     (0x2248, 0x2249), (0x3d, 0x2260), (0x2261, 0x2262), (0x224d, 0x226d), (0x3c, 0x226e),
     (0x3e, 0x226f), (0x2264, 0x2270), (0x2265, 0x2271), (0x2272, 0x2274), (0x2273, 0x2275),
     (0x2276, 0x2278), (0x2277, 0x2279), (0x227a, 0x2280), (0x227b, 0x2281), (0x2282, 0x2284),
     (0x2283, 0x2285), (0x2286, 0x2288), (0x2287, 0x2289), (0x22a2, 0x22ac), (0x22a8, 0x22ad),
     (0x22a9, 0x22ae), (0x22ab, 0x22af), (0x227c, 0x22e0), (0x227d, 0x22e1), (0x2291, 0x22e2),
     (0x2292, 0x22e3), (0x22b2, 0x22ea), (0x22b3, 0x22eb), (0x22b4, 0x22ec), (0x22b5, 0x22ed)]),
   (0x342, [(0x3b1, 0x1fb6), (0xa8, 0x1fc1), (0x3b7, 0x1fc6), (0x1fbf, 0x1fcf), (0x3b9, 0x1fd6),
     (0x1ffe, 0x1fdf), (0x3c5, 0x1fe6), (0x3c9, 0x1ff6)]),
   (0x345, [(0x3b1, 0x1fb3), (0x391, 0x1fbc), (0x3b7, 0x1fc3), (0x397, 0x1fcc), (0x3c9, 0x1ff3),
     (0x3a9, 0x1ffc)]),
   (0x653, [(0x627, 0x622)]),
   (0x654, [(0x627, 0x623), (0x648, 0x624), (0x64a, 0x626), (0x6d5, 0x6c0), (0x6c1, 0x6c2),
     (0x6d2, 0x6d3)]),
   (0x655, [(0x627, 0x625)]),
   (0x93c, [(0x928, 0x929), (0x930, 0x931), (0x933, 0x934)]),
   (0x9be, [(0x9c7, 0x9cb)]),
   (0x9d7, [(0x9c7, 0x9cc)]),
   (0xb3e, [(0xb47, 0xb4b)]),
   (0xb56, [(0xb47, 0xb48)]),
   (0xb57, [(0xb47, 0xb4c)]),
   (0xbbe, [(0xbc6, 0xbca), (0xbc7, 0xbcb)]),
   (0xbd7, [(0xb92, 0xb94), (0xbc6, 0xbcc)]),
   (0xc56, [(0xc46, 0xc48)]),
   (0xcc2, [(0xcc6, 0xcca)]),
   (0xcd5, [(0xcbf, 0xcc0), (0xcc6, 0xcc7)]),
   (0xcd6, [(0xcc6, 0xcc8)]),
   (0xd3e, [(0xd46, 0xd4a), (0xd47, 0xd4b)]),
   (0xd57, [(0xd46, 0xd4c)]),
   (0xdca, [(0xdd9, 0xdda)]),
   (0xdcf, [(0xdd9, 0xddc)]),
   (0xddf, [(0xdd9, 0xdde)]),
   (0x102e, [(0x1025, 0x1026)]),
   (0x1b35, [(0x1b05, 0x1b06), (0x1b07, 0x1b08), (0x1b09, 0x1b0a), (0x1b0b, 0x1b0c),
     (0x1b0d, 0x1b0e), (0x1b11, 0x1b12), (0x1b3a, 0x1b3b), (0x1b3c, 0x1b3d), (0x1b3e, 0x1b40),
     (0x1b3f, 0x1b41), (0x1b42, 0x1b43)]),
   (0x3099, [(0x304b, 0x304c), (0x304d, 0x304e), (0x304f, 0x3050), (0x3051, 0x3052),
     (0x3053, 0x3054), (0x3055, 0x3056), (0x3057, 0x3058), (0x3059, 0x305a), (0x305b, 0x305c),
     (0x305d, 0x305e), (0x305f, 0x3060), (0x3061, 0x3062), (0x3064, 0x3065), (0x3066, 0x3067),
     (0x3068, 0x3069), (0x306f, 0x3070), (0x3072, 0x3073), (0x3075, 0x3076), (0x3078, 0x3079),
     (0x307b, 0x307c), (0x3046, 0x3094), (0x309d, 0x309e), (0x30ab, 0x30ac), (0x30ad, 0x30ae),
     (0x30af, 0x30b0), (0x30b1, 0x30b2), (0x30b3, 0x30b4), (0x30b5, 0x30b6), (0x30b7, 0x30b8),
     (0x30b9, 0x30ba), (0x30bb, 0x30bc), (0x30bd, 0x30be), (0x30bf, 0x30c0), (0x30c1, 0x30c2),
     (0x30c4, 0x30c5), (0x30c6, 0x30c7), (0x30c8, 0x30c9), (0x30cf, 0x30d0), (0x30d2, 0x30d3),
     (0x30d5, 0x30d6), (0x30d8, 0x30d9), (0x30db, 0x30dc), (0x30a6, 0x30f4), (0x30ef, 0x30f7),
     (0x30f0, 0x30f8), (0x30f1, 0x30f9), (0x30f2, 0x30fa), (0x30fd, 0x30fe)]),
   (0x309a, [(0x306f, 0x3071), (0x3072, 0x3074), (0x3075, 0x3077), (0x3078, 0x307a),
     (0x307b, 0x307d), (0x30cf, 0x30d1), (0x30d2, 0x30d4), (0x30d5, 0x30d7), (0x30d8, 0x30da),
     (0x30db, 0x30dd)]),
   (0x110ba, [(0x11099, 0x1109a), (0x1109b, 0x1109c), (0x110a5, 0x110ab)]),
   (0x11127, [(0x11131, 0x1112e), (0x11132, 0x1112f)]),
   (0x1133e, [(0x11347, 0x1134b)]),
   (0x11357, [(0x11347, 0x1134c)]),
   (0x113b8, [(0x113c2, 0x113c7)]),
   (0x113bb, [(0x11384, 0x11385)]),
   (0x113c2, [(0x1138b, 0x1138e), (0x113c2, 0x113c5)]),
   (0x113c9, [(0x11382, 0x11383), (0x11390, 0x11391), (0x113c2, 0x113c8)]),
   (0x114b0, [(0x114b9, 0x114bc)]),
   (0x114ba, [(0x114b9, 0x114bb)]),
   (0x114bd, [(0x114b9, 0x114be)]),
   (0x115af, [(0x115b8, 0x115ba), (0x115b9, 0x115bb)]),
   (0x11930, [(0x11935, 0x11938)]),
   (0x16d67, [(0x16d67, 0x16d68), (0x16d63, 0x16d69)])]

end EntityStore.Text
