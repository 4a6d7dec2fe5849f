/-!
# Mapping tables

Data on what a character stands for in a domain.  Code points that no domain holds are refused
first, so the ranges of the other tables may run across them.
-/

namespace EntityStore.Url

/-- The characters above ASCII that no domain holds: unassigned ones, and those that are not allowed
or stand for a text that is not. -/
def refusedRanges : List (Nat × Nat) :=
  [(0x80, 0xa0), (0xa8, 0xa8), (0xaf, 0xaf), (0xb4, 0xb4), (0xb8, 0xb8), (0x2d8, 0x2dd),
   (0x378, 0x37a), (0x380, 0x385), (0x38b, 0x38b), (0x38d, 0x38d), (0x3a2, 0x3a2),
   (0x530, 0x530), (0x557, 0x558), (0x58b, 0x58c), (0x590, 0x590), (0x5c8, 0x5cf),
   (0x5eb, 0x5ee), (0x5f5, 0x605), (0x61c, 0x61c), (0x6dd, 0x6dd), (0x70e, 0x70f),
   (0x74b, 0x74c), (0x7b2, 0x7bf), (0x7fb, 0x7fc), (0x82e, 0x82f), (0x83f, 0x83f),
   (0x85c, 0x85d), (0x85f, 0x85f), (0x86b, 0x86f), (0x890, 0x896), (0x8e2, 0x8e2),
   (0x984, 0x984), (0x98d, 0x98e), (0x991, 0x992), (0x9a9, 0x9a9), (0x9b1, 0x9b1),
   (0x9b3, 0x9b5), (0x9ba, 0x9bb), (0x9c5, 0x9c6), (0x9c9, 0x9ca), (0x9cf, 0x9d6),
   (0x9d8, 0x9db), (0x9de, 0x9de), (0x9e4, 0x9e5), (0x9ff, 0xa00), (0xa04, 0xa04),
   (0xa0b, 0xa0e), (0xa11, 0xa12), (0xa29, 0xa29), (0xa31, 0xa31), (0xa34, 0xa34),
   (0xa37, 0xa37), (0xa3a, 0xa3b), (0xa3d, 0xa3d), (0xa43, 0xa46), (0xa49, 0xa4a),
   (0xa4e, 0xa50), (0xa52, 0xa58), (0xa5d, 0xa5d), (0xa5f, 0xa65), (0xa77, 0xa80),
   (0xa84, 0xa84), (0xa8e, 0xa8e), (0xa92, 0xa92), (0xaa9, 0xaa9), (0xab1, 0xab1),
   (0xab4, 0xab4), (0xaba, 0xabb), (0xac6, 0xac6), (0xaca, 0xaca), (0xace, 0xacf),
   (0xad1, 0xadf), (0xae4, 0xae5), (0xaf2, 0xaf8), (0xb00, 0xb00), (0xb04, 0xb04),
   (0xb0d, 0xb0e), (0xb11, 0xb12), (0xb29, 0xb29), (0xb31, 0xb31), (0xb34, 0xb34),
   (0xb3a, 0xb3b), (0xb45, 0xb46), (0xb49, 0xb4a), (0xb4e, 0xb54), (0xb58, 0xb5b),
   (0xb5e, 0xb5e), (0xb64, 0xb65), (0xb78, 0xb81), (0xb84, 0xb84), (0xb8b, 0xb8d),
   (0xb91, 0xb91), (0xb96, 0xb98), (0xb9b, 0xb9b), (0xb9d, 0xb9d), (0xba0, 0xba2),
   (0xba5, 0xba7), (0xbab, 0xbad), (0xbba, 0xbbd), (0xbc3, 0xbc5), (0xbc9, 0xbc9),
   (0xbce, 0xbcf), (0xbd1, 0xbd6), (0xbd8, 0xbe5), (0xbfb, 0xbff), (0xc0d, 0xc0d),
   (0xc11, 0xc11), (0xc29, 0xc29), (0xc3a, 0xc3b), (0xc45, 0xc45), (0xc49, 0xc49),
   (0xc4e, 0xc54), (0xc57, 0xc57), (0xc5b, 0xc5b), (0xc5e, 0xc5f), (0xc64, 0xc65),
   (0xc70, 0xc76), (0xc8d, 0xc8d), (0xc91, 0xc91), (0xca9, 0xca9), (0xcb4, 0xcb4),
   (0xcba, 0xcbb), (0xcc5, 0xcc5), (0xcc9, 0xcc9), (0xcce, 0xcd4), (0xcd7, 0xcdb),
   (0xcdf, 0xcdf), (0xce4, 0xce5), (0xcf0, 0xcf0), (0xcf4, 0xcff), (0xd0d, 0xd0d),
   (0xd11, 0xd11), (0xd45, 0xd45), (0xd49, 0xd49), (0xd50, 0xd53), (0xd64, 0xd65),
   (0xd80, 0xd80), (0xd84, 0xd84), (0xd97, 0xd99), (0xdb2, 0xdb2), (0xdbc, 0xdbc),
   (0xdbe, 0xdbf), (0xdc7, 0xdc9), (0xdcb, 0xdce), (0xdd5, 0xdd5), (0xdd7, 0xdd7),
   (0xde0, 0xde5), (0xdf0, 0xdf1), (0xdf5, 0xe00), (0xe3b, 0xe3e), (0xe5c, 0xe80),
   (0xe83, 0xe83), (0xe85, 0xe85), (0xe8b, 0xe8b), (0xea4, 0xea4), (0xea6, 0xea6),
   (0xebe, 0xebf), (0xec5, 0xec5), (0xec7, 0xec7), (0xecf, 0xecf), (0xeda, 0xedb),
   (0xee0, 0xeff), (0xf48, 0xf48), (0xf6d, 0xf70), (0xf98, 0xf98), (0xfbd, 0xfbd),
   (0xfcd, 0xfcd), (0xfdb, 0xfff), (0x10c6, 0x10c6), (0x10c8, 0x10cc), (0x10ce, 0x10cf),
   (0x1249, 0x1249), (0x124e, 0x124f), (0x1257, 0x1257), (0x1259, 0x1259), (0x125e, 0x125f),
   (0x1289, 0x1289), (0x128e, 0x128f), (0x12b1, 0x12b1), (0x12b6, 0x12b7), (0x12bf, 0x12bf),
   (0x12c1, 0x12c1), (0x12c6, 0x12c7), (0x12d7, 0x12d7), (0x1311, 0x1311), (0x1316, 0x1317),
   (0x135b, 0x135c), (0x137d, 0x137f), (0x139a, 0x139f), (0x13f6, 0x13f7), (0x13fe, 0x13ff),
   (0x1680, 0x1680), (0x169d, 0x169f), (0x16f9, 0x16ff), (0x1716, 0x171e), (0x1737, 0x173f),
   (0x1754, 0x175f), (0x176d, 0x176d), (0x1771, 0x1771), (0x1774, 0x177f), (0x17de, 0x17df),
   (0x17ea, 0x17ef), (0x17fa, 0x17ff), (0x181a, 0x181f), (0x1879, 0x187f), (0x18ab, 0x18af),
   (0x18f6, 0x18ff), (0x191f, 0x191f), (0x192c, 0x192f), (0x193c, 0x193f), (0x1941, 0x1943),
   (0x196e, 0x196f), (0x1975, 0x197f), (0x19ac, 0x19af), (0x19ca, 0x19cf), (0x19db, 0x19dd),
   (0x1a1c, 0x1a1d), (0x1a5f, 0x1a5f), (0x1a7d, 0x1a7e), (0x1a8a, 0x1a8f), (0x1a9a, 0x1a9f),
   (0x1aae, 0x1aaf), (0x1ade, 0x1adf), (0x1aec, 0x1aff), (0x1b4d, 0x1b4d), (0x1bf4, 0x1bfb),
   (0x1c38, 0x1c3a), (0x1c4a, 0x1c4c), (0x1c8b, 0x1c8f), (0x1cbb, 0x1cbc), (0x1cc8, 0x1ccf),
   (0x1cfb, 0x1cff), (0x1f16, 0x1f17), (0x1f1e, 0x1f1f), (0x1f46, 0x1f47), (0x1f4e, 0x1f4f),
   (0x1f58, 0x1f58), (0x1f5a, 0x1f5a), (0x1f5c, 0x1f5c), (0x1f5e, 0x1f5e), (0x1f7e, 0x1f7f),
   (0x1fb5, 0x1fb5), (0x1fbd, 0x1fbd), (0x1fbf, 0x1fc1), (0x1fc5, 0x1fc5), (0x1fcd, 0x1fcf),
   (0x1fd4, 0x1fd5), (0x1fdc, 0x1fdf), (0x1fed, 0x1fee), (0x1ff0, 0x1ff1), (0x1ff5, 0x1ff5),
   (0x1ffd, 0x200a), (0x200e, 0x200f), (0x2017, 0x2017), (0x2024, 0x2026), (0x2028, 0x202f),
   (0x203e, 0x203e), (0x2047, 0x2049), (0x205f, 0x205f), (0x2065, 0x2069), (0x2072, 0x2073),
   (0x208f, 0x208f), (0x209d, 0x209f), (0x20c2, 0x20cf), (0x20f1, 0x2101), (0x2105, 0x2106),
   (0x218c, 0x218f), (0x242a, 0x243f), (0x244b, 0x245f), (0x2488, 0x249b), (0x2a74, 0x2a74),
   (0x2b74, 0x2b75), (0x2cf4, 0x2cf8), (0x2d26, 0x2d26), (0x2d28, 0x2d2c), (0x2d2e, 0x2d2f),
   (0x2d68, 0x2d6e), (0x2d71, 0x2d7e), (0x2d97, 0x2d9f), (0x2da7, 0x2da7), (0x2daf, 0x2daf),
   (0x2db7, 0x2db7), (0x2dbf, 0x2dbf), (0x2dc7, 0x2dc7), (0x2dcf, 0x2dcf), (0x2dd7, 0x2dd7),
   (0x2ddf, 0x2ddf), (0x2e5e, 0x2e7f), (0x2e9a, 0x2e9a), (0x2ef4, 0x2eff), (0x2fd6, 0x3000),
   (0x3040, 0x3040), (0x3097, 0x3098), (0x309b, 0x309c), (0x3100, 0x3104), (0x3130, 0x3130),
   (0x318f, 0x318f), (0x31e6, 0x31ef), (0x321f, 0x321f), (0x33c2, 0x33c2), (0x33c7, 0x33c7),
   (0x33d8, 0x33d8), (0xa48d, 0xa48f), (0xa4c7, 0xa4cf), (0xa62c, 0xa63f), (0xa6f8, 0xa6ff),
   (0xa7dd, 0xa7f0), (0xa82d, 0xa82f), (0xa83a, 0xa83f), (0xa878, 0xa87f), (0xa8c6, 0xa8cd),
   (0xa8da, 0xa8df), (0xa954, 0xa95e), (0xa97d, 0xa97f), (0xa9ce, 0xa9ce), (0xa9da, 0xa9dd),
   (0xa9ff, 0xa9ff), (0xaa37, 0xaa3f), (0xaa4e, 0xaa4f), (0xaa5a, 0xaa5b), (0xaac3, 0xaada),
   (0xaaf7, 0xab00), (0xab07, 0xab08), (0xab0f, 0xab10), (0xab17, 0xab1f), (0xab27, 0xab27),
   (0xab2f, 0xab2f), (0xab6c, 0xab6f), (0xabee, 0xabef), (0xabfa, 0xabff), (0xd7a4, 0xd7af),
   (0xd7c7, 0xd7ca), (0xd7fc, 0xf8ff), (0xfa6e, 0xfa6f), (0xfada, 0xfaff), (0xfb07, 0xfb12),
   (0xfb18, 0xfb1c), (0xfb37, 0xfb37), (0xfb3d, 0xfb3d), (0xfb3f, 0xfb3f), (0xfb42, 0xfb42),
   (0xfb45, 0xfb45), (0xfc5e, 0xfc63), (0xfdd0, 0xfdef), (0xfdfa, 0xfdfb), (0xfe12, 0xfe13),
   (0xfe16, 0xfe16), (0xfe19, 0xfe1f), (0xfe30, 0xfe30), (0xfe47, 0xfe4c), (0xfe52, 0xfe53),
   (0xfe55, 0xfe56), (0xfe5f, 0xfe5f), (0xfe64, 0xfe65), (0xfe67, 0xfe68), (0xfe6a, 0xfe70),
   (0xfe72, 0xfe72), (0xfe74, 0xfe76), (0xfe78, 0xfe78), (0xfe7a, 0xfe7a), (0xfe7c, 0xfe7c),
   (0xfe7e, 0xfe7e), (0xfefd, 0xfefe), (0xff00, 0xff00), (0xff03, 0xff03), (0xff05, 0xff05),
   (0xff0f, 0xff0f), (0xff1a, 0xff1a), (0xff1c, 0xff1c), (0xff1e, 0xff20), (0xff3b, 0xff3e),
   (0xff5c, 0xff5c), (0xffbf, 0xffc1), (0xffc8, 0xffc9), (0xffd0, 0xffd1), (0xffd8, 0xffd9),
   (0xffdd, 0xffdf), (0xffe3, 0xffe3), (0xffe7, 0xffe7), (0xffef, 0xffff), (0x1000c, 0x1000c),
   (0x10027, 0x10027), (0x1003b, 0x1003b), (0x1003e, 0x1003e), (0x1004e, 0x1004f),
   (0x1005e, 0x1007f), (0x100fb, 0x100ff), (0x10103, 0x10106), (0x10134, 0x10136),
   (0x1018f, 0x1018f), (0x1019d, 0x1019f), (0x101a1, 0x101cf), (0x101fe, 0x1027f),
   (0x1029d, 0x1029f), (0x102d1, 0x102df), (0x102fc, 0x102ff), (0x10324, 0x1032c),
   (0x1034b, 0x1034f), (0x1037b, 0x1037f), (0x1039e, 0x1039e), (0x103c4, 0x103c7),
   (0x103d6, 0x103ff), (0x1049e, 0x1049f), (0x104aa, 0x104af), (0x104d4, 0x104d7),
   (0x104fc, 0x104ff), (0x10528, 0x1052f), (0x10564, 0x1056e), (0x1057b, 0x1057b),
   (0x1058b, 0x1058b), (0x10593, 0x10593), (0x10596, 0x10596), (0x105a2, 0x105a2),
   (0x105b2, 0x105b2), (0x105ba, 0x105ba), (0x105bd, 0x105bf), (0x105f4, 0x105ff),
   (0x10737, 0x1073f), (0x10756, 0x1075f), (0x10768, 0x1077f), (0x10786, 0x10786),
   (0x107b1, 0x107b1), (0x107bb, 0x107ff), (0x10806, 0x10807), (0x10809, 0x10809),
   (0x10836, 0x10836), (0x10839, 0x1083b), (0x1083d, 0x1083e), (0x10856, 0x10856),
   (0x1089f, 0x108a6), (0x108b0, 0x108df), (0x108f3, 0x108f3), (0x108f6, 0x108fa),
   (0x1091c, 0x1091e), (0x1093a, 0x1093e), (0x1095a, 0x1097f), (0x109b8, 0x109bb),
   (0x109d0, 0x109d1), (0x10a04, 0x10a04), (0x10a07, 0x10a0b), (0x10a14, 0x10a14),
   (0x10a18, 0x10a18), (0x10a36, 0x10a37), (0x10a3b, 0x10a3e), (0x10a49, 0x10a4f),
   (0x10a59, 0x10a5f), (0x10aa0, 0x10abf), (0x10ae7, 0x10aea), (0x10af7, 0x10aff),
   (0x10b36, 0x10b38), (0x10b56, 0x10b57), (0x10b73, 0x10b77), (0x10b92, 0x10b98),
   (0x10b9d, 0x10ba8), (0x10bb0, 0x10bff), (0x10c49, 0x10c7f), (0x10cb3, 0x10cbf),
   (0x10cf3, 0x10cf9), (0x10d28, 0x10d2f), (0x10d3a, 0x10d3f), (0x10d66, 0x10d68),
   (0x10d86, 0x10d8d), (0x10d90, 0x10e5f), (0x10e7f, 0x10e7f), (0x10eaa, 0x10eaa),
   (0x10eae, 0x10eaf), (0x10eb2, 0x10ec1), (0x10ec8, 0x10ecf), (0x10ed9, 0x10ef9),
   (0x10f28, 0x10f2f), (0x10f5a, 0x10f6f), (0x10f8a, 0x10faf), (0x10fcc, 0x10fdf),
   (0x10ff7, 0x10fff), (0x1104e, 0x11051), (0x11076, 0x1107e), (0x110bd, 0x110bd),
   (0x110c3, 0x110cf), (0x110e9, 0x110ef), (0x110fa, 0x110ff), (0x11135, 0x11135),
   (0x11148, 0x1114f), (0x11177, 0x1117f), (0x111e0, 0x111e0), (0x111f5, 0x111ff),
   (0x11212, 0x11212), (0x11242, 0x1127f), (0x11287, 0x11287), (0x11289, 0x11289),
   (0x1128e, 0x1128e), (0x1129e, 0x1129e), (0x112aa, 0x112af), (0x112eb, 0x112ef),
   (0x112fa, 0x112ff), (0x11304, 0x11304), (0x1130d, 0x1130e), (0x11311, 0x11312),
   (0x11329, 0x11329), (0x11331, 0x11331), (0x11334, 0x11334), (0x1133a, 0x1133a),
   (0x11345, 0x11346), (0x11349, 0x1134a), (0x1134e, 0x1134f), (0x11351, 0x11356),
   (0x11358, 0x1135c), (0x11364, 0x11365), (0x1136d, 0x1136f), (0x11375, 0x1137f),
   (0x1138a, 0x1138a), (0x1138c, 0x1138d), (0x1138f, 0x1138f), (0x113b6, 0x113b6),
   (0x113c1, 0x113c1), (0x113c3, 0x113c4), (0x113c6, 0x113c6), (0x113cb, 0x113cb),
   (0x113d6, 0x113d6), (0x113d9, 0x113e0), (0x113e3, 0x113ff), (0x1145c, 0x1145c),
   (0x11462, 0x1147f), (0x114c8, 0x114cf), (0x114da, 0x1157f), (0x115b6, 0x115b7),
   (0x115de, 0x115ff), (0x11645, 0x1164f), (0x1165a, 0x1165f), (0x1166d, 0x1167f),
   (0x116ba, 0x116bf), (0x116ca, 0x116cf), (0x116e4, 0x116ff), (0x1171b, 0x1171c),
   (0x1172c, 0x1172f), (0x11747, 0x117ff), (0x1183c, 0x1189f), (0x118f3, 0x118fe),
   (0x11907, 0x11908), (0x1190a, 0x1190b), (0x11914, 0x11914), (0x11917, 0x11917),
   (0x11936, 0x11936), (0x11939, 0x1193a), (0x11947, 0x1194f), (0x1195a, 0x1199f),
   (0x119a8, 0x119a9), (0x119d8, 0x119d9), (0x119e5, 0x119ff), (0x11a48, 0x11a4f),
   (0x11aa3, 0x11aaf), (0x11af9, 0x11aff), (0x11b0a, 0x11b5f), (0x11b68, 0x11bbf),
   (0x11be2, 0x11bef), (0x11bfa, 0x11bff), (0x11c09, 0x11c09), (0x11c37, 0x11c37),
   (0x11c46, 0x11c4f), (0x11c6d, 0x11c6f), (0x11c90, 0x11c91), (0x11ca8, 0x11ca8),
   (0x11cb7, 0x11cff), (0x11d07, 0x11d07), (0x11d0a, 0x11d0a), (0x11d37, 0x11d39),
   (0x11d3b, 0x11d3b), (0x11d3e, 0x11d3e), (0x11d48, 0x11d4f), (0x11d5a, 0x11d5f),
   (0x11d66, 0x11d66), (0x11d69, 0x11d69), (0x11d8f, 0x11d8f), (0x11d92, 0x11d92),
   (0x11d99, 0x11d9f), (0x11daa, 0x11daf), (0x11ddc, 0x11ddf), (0x11dea, 0x11edf),
   (0x11ef9, 0x11eff), (0x11f11, 0x11f11), (0x11f3b, 0x11f3d), (0x11f5b, 0x11faf),
   (0x11fb1, 0x11fbf), (0x11ff2, 0x11ffe), (0x1239a, 0x123ff), (0x1246f, 0x1246f),
   (0x12475, 0x1247f), (0x12544, 0x12f8f), (0x12ff3, 0x12fff), (0x13430, 0x1343f),
   (0x13456, 0x1345f), (0x143fb, 0x143ff), (0x14647, 0x160ff), (0x1613a, 0x167ff),
   (0x16a39, 0x16a3f), (0x16a5f, 0x16a5f), (0x16a6a, 0x16a6d), (0x16abf, 0x16abf),
   (0x16aca, 0x16acf), (0x16aee, 0x16aef), (0x16af6, 0x16aff), (0x16b46, 0x16b4f),
   (0x16b5a, 0x16b5a), (0x16b62, 0x16b62), (0x16b78, 0x16b7c), (0x16b90, 0x16d3f),
   (0x16d7a, 0x16e3f), (0x16e9b, 0x16e9f), (0x16eb9, 0x16eba), (0x16ed4, 0x16eff),
   (0x16f4b, 0x16f4e), (0x16f88, 0x16f8e), (0x16fa0, 0x16fdf), (0x16fe5, 0x16fef),
   (0x16ff7, 0x16fff), (0x18cd6, 0x18cfe), (0x18d1f, 0x18d7f), (0x18df3, 0x1afef),
   (0x1aff4, 0x1aff4), (0x1affc, 0x1affc), (0x1afff, 0x1afff), (0x1b123, 0x1b131),
   (0x1b133, 0x1b14f), (0x1b153, 0x1b154), (0x1b156, 0x1b163), (0x1b168, 0x1b16f),
   (0x1b2fc, 0x1bbff), (0x1bc6b, 0x1bc6f), (0x1bc7d, 0x1bc7f), (0x1bc89, 0x1bc8f),
   (0x1bc9a, 0x1bc9b), (0x1bca4, 0x1cbff), (0x1ccfd, 0x1ccff), (0x1ceb4, 0x1ceb9),
   (0x1ced1, 0x1cedf), (0x1cef1, 0x1ceff), (0x1cf2e, 0x1cf2f), (0x1cf47, 0x1cf4f),
   (0x1cfc4, 0x1cfff), (0x1d0f6, 0x1d0ff), (0x1d127, 0x1d128), (0x1d1eb, 0x1d1ff),
   (0x1d246, 0x1d2bf), (0x1d2d4, 0x1d2df), (0x1d2f4, 0x1d2ff), (0x1d357, 0x1d35f),
   (0x1d379, 0x1d3ff), (0x1d455, 0x1d455), (0x1d49d, 0x1d49d), (0x1d4a0, 0x1d4a1),
   (0x1d4a3, 0x1d4a4), (0x1d4a7, 0x1d4a8), (0x1d4ad, 0x1d4ad), (0x1d4ba, 0x1d4ba),
   (0x1d4bc, 0x1d4bc), (0x1d4c4, 0x1d4c4), (0x1d506, 0x1d506), (0x1d50b, 0x1d50c),
   (0x1d515, 0x1d515), (0x1d51d, 0x1d51d), (0x1d53a, 0x1d53a), (0x1d53f, 0x1d53f),
   (0x1d545, 0x1d545), (0x1d547, 0x1d549), (0x1d551, 0x1d551), (0x1d6a6, 0x1d6a7),
   (0x1d7cc, 0x1d7cd), (0x1da8c, 0x1da9a), (0x1daa0, 0x1daa0), (0x1dab0, 0x1deff),
   (0x1df1f, 0x1df24), (0x1df2b, 0x1dfff), (0x1e007, 0x1e007), (0x1e019, 0x1e01a),
   (0x1e022, 0x1e022), (0x1e025, 0x1e025), (0x1e02b, 0x1e02f), (0x1e06e, 0x1e08e),
   (0x1e090, 0x1e0ff), (0x1e12d, 0x1e12f), (0x1e13e, 0x1e13f), (0x1e14a, 0x1e14d),
   (0x1e150, 0x1e28f), (0x1e2af, 0x1e2bf), (0x1e2fa, 0x1e2fe), (0x1e300, 0x1e4cf),
   (0x1e4fa, 0x1e5cf), (0x1e5fb, 0x1e5fe), (0x1e600, 0x1e6bf), (0x1e6df, 0x1e6df),
   (0x1e6f6, 0x1e6fd), (0x1e700, 0x1e7df), (0x1e7e7, 0x1e7e7), (0x1e7ec, 0x1e7ec),
   (0x1e7ef, 0x1e7ef), (0x1e7ff, 0x1e7ff), (0x1e8c5, 0x1e8c6), (0x1e8d7, 0x1e8ff),
   (0x1e94c, 0x1e94f), (0x1e95a, 0x1e95d), (0x1e960, 0x1ec70), (0x1ecb5, 0x1ed00),
   (0x1ed3e, 0x1edff), (0x1ee04, 0x1ee04), (0x1ee20, 0x1ee20), (0x1ee23, 0x1ee23),
   (0x1ee25, 0x1ee26), (0x1ee28, 0x1ee28), (0x1ee33, 0x1ee33), (0x1ee38, 0x1ee38),
   (0x1ee3a, 0x1ee3a), (0x1ee3c, 0x1ee41), (0x1ee43, 0x1ee46), (0x1ee48, 0x1ee48),
   (0x1ee4a, 0x1ee4a), (0x1ee4c, 0x1ee4c), (0x1ee50, 0x1ee50), (0x1ee53, 0x1ee53),
   (0x1ee55, 0x1ee56), (0x1ee58, 0x1ee58), (0x1ee5a, 0x1ee5a), (0x1ee5c, 0x1ee5c),
   (0x1ee5e, 0x1ee5e), (0x1ee60, 0x1ee60), (0x1ee63, 0x1ee63), (0x1ee65, 0x1ee66),
   (0x1ee6b, 0x1ee6b), (0x1ee73, 0x1ee73), (0x1ee78, 0x1ee78), (0x1ee7d, 0x1ee7d),
   (0x1ee7f, 0x1ee7f), (0x1ee8a, 0x1ee8a), (0x1ee9c, 0x1eea0), (0x1eea4, 0x1eea4),
   (0x1eeaa, 0x1eeaa), (0x1eebc, 0x1eeef), (0x1eef2, 0x1efff), (0x1f02c, 0x1f02f),
   (0x1f094, 0x1f09f), (0x1f0af, 0x1f0b0), (0x1f0c0, 0x1f0c0), (0x1f0d0, 0x1f0d0),
   (0x1f0f6, 0x1f100), (0x1f1ae, 0x1f1e5), (0x1f203, 0x1f20f), (0x1f23c, 0x1f23f),
   (0x1f249, 0x1f24f), (0x1f252, 0x1f25f), (0x1f266, 0x1f2ff), (0x1f6d9, 0x1f6db),
   (0x1f6ed, 0x1f6ef), (0x1f6fd, 0x1f6ff), (0x1f7da, 0x1f7df), (0x1f7ec, 0x1f7ef),
   (0x1f7f1, 0x1f7ff), (0x1f80c, 0x1f80f), (0x1f848, 0x1f84f), (0x1f85a, 0x1f85f),
   (0x1f888, 0x1f88f), (0x1f8ae, 0x1f8af), (0x1f8bc, 0x1f8bf), (0x1f8c2, 0x1f8cf),
   (0x1f8d9, 0x1f8ff), (0x1fa58, 0x1fa5f), (0x1fa6e, 0x1fa6f), (0x1fa7d, 0x1fa7f),
   (0x1fa8b, 0x1fa8d), (0x1fac7, 0x1fac7), (0x1fac9, 0x1facc), (0x1fadd, 0x1fade),
   (0x1faeb, 0x1faee), (0x1faf9, 0x1faff), (0x1fb93, 0x1fb93), (0x1fbfb, 0x1ffff),
   (0x2a6e0, 0x2a6ff), (0x2b81e, 0x2b81f), (0x2ceae, 0x2ceaf), (0x2ebe1, 0x2ebef),
   (0x2ee5e, 0x2f7ff), (0x2fa1e, 0x2ffff), (0x3134b, 0x3134f), (0x3347a, 0xe00ff),
   (0xe01f0, 0x10ffff)]

/-- The characters that a domain is read without. -/
def ignoredRanges : List (Nat × Nat) :=
  [(0xad, 0xad), (0x34f, 0x34f), (0x115f, 0x1160), (0x17b4, 0x17b5), (0x180b, 0x180f),
   (0x200b, 0x200b), (0x2060, 0x206f), (0x3164, 0x3164), (0xfe00, 0xfe0f), (0xfeff, 0xfeff),
   (0xffa0, 0xffa0), (0x1bca0, 0x1bca3), (0x1d173, 0x1d17a), (0xe0100, 0xe01ef)]

/-- Runs of characters that stand for one ASCII character each: first, last, and what the first
stands for; the others stand for the characters after it. -/
def asciiRuns : List (Nat × Nat × Nat) :=
  [(0xaa, 0xaa, 0x61), (0xb2, 0xb3, 0x32), (0xb9, 0xb9, 0x31), (0xba, 0xba, 0x6f),
   (0x17f, 0x17f, 0x73), (0x2b0, 0x2b0, 0x68), (0x2b2, 0x2b2, 0x6a), (0x2b3, 0x2b3, 0x72),
   (0x2b7, 0x2b7, 0x77), (0x2b8, 0x2b8, 0x79), (0x2e1, 0x2e1, 0x6c), (0x2e2, 0x2e2, 0x73),
   (0x2e3, 0x2e3, 0x78), (0x37e, 0x37e, 0x3b), (0x1d2c, 0x1d2c, 0x61), (0x1d2e, 0x1d2e, 0x62),
   (0x1d30, 0x1d31, 0x64), (0x1d33, 0x1d3a, 0x67), (0x1d3c, 0x1d3c, 0x6f),
   (0x1d3e, 0x1d3e, 0x70), (0x1d3f, 0x1d3f, 0x72), (0x1d40, 0x1d41, 0x74),
   (0x1d42, 0x1d42, 0x77), (0x1d43, 0x1d43, 0x61), (0x1d47, 0x1d47, 0x62),
   (0x1d48, 0x1d49, 0x64), (0x1d4d, 0x1d4d, 0x67), (0x1d4f, 0x1d4f, 0x6b),
   (0x1d50, 0x1d50, 0x6d), (0x1d52, 0x1d52, 0x6f), (0x1d56, 0x1d56, 0x70),
   (0x1d57, 0x1d58, 0x74), (0x1d5b, 0x1d5b, 0x76), (0x1d62, 0x1d62, 0x69),
   (0x1d63, 0x1d63, 0x72), (0x1d64, 0x1d65, 0x75), (0x1d9c, 0x1d9c, 0x63),
   (0x1da0, 0x1da0, 0x66), (0x1dbb, 0x1dbb, 0x7a), (0x1fef, 0x1fef, 0x60),
   (0x2070, 0x2070, 0x30), (0x2071, 0x2071, 0x69), (0x2074, 0x2079, 0x34),
   (0x207a, 0x207a, 0x2b), (0x207c, 0x207c, 0x3d), (0x207d, 0x207e, 0x28),
   (0x207f, 0x207f, 0x6e), (0x2080, 0x2089, 0x30), (0x208a, 0x208a, 0x2b),
   (0x208c, 0x208c, 0x3d), (0x208d, 0x208e, 0x28), (0x2090, 0x2090, 0x61),
   (0x2091, 0x2091, 0x65), (0x2092, 0x2092, 0x6f), (0x2093, 0x2093, 0x78),
   (0x2095, 0x2095, 0x68), (0x2096, 0x2099, 0x6b), (0x209a, 0x209a, 0x70),
   (0x209b, 0x209c, 0x73), (0x2102, 0x2102, 0x63), (0x210a, 0x210b, 0x67),
   (0x210c, 0x210c, 0x68), (0x210d, 0x210d, 0x68), (0x210e, 0x210e, 0x68),
   (0x2110, 0x2110, 0x69), (0x2111, 0x2111, 0x69), (0x2112, 0x2112, 0x6c),
   (0x2113, 0x2113, 0x6c), (0x2115, 0x2115, 0x6e), (0x2119, 0x211b, 0x70),
   (0x211c, 0x211c, 0x72), (0x211d, 0x211d, 0x72), (0x2124, 0x2124, 0x7a),
   (0x2128, 0x2128, 0x7a), (0x212a, 0x212a, 0x6b), (0x212c, 0x212d, 0x62),
   (0x212f, 0x212f, 0x65), (0x2130, 0x2131, 0x65), (0x2133, 0x2133, 0x6d),
   (0x2134, 0x2134, 0x6f), (0x2139, 0x2139, 0x69), (0x2145, 0x2145, 0x64),
   (0x2146, 0x2147, 0x64), (0x2148, 0x2149, 0x69), (0x2160, 0x2160, 0x69),
   (0x2164, 0x2164, 0x76), (0x2169, 0x2169, 0x78), (0x216c, 0x216c, 0x6c),
   (0x216d, 0x216e, 0x63), (0x216f, 0x216f, 0x6d), (0x2170, 0x2170, 0x69),
   (0x2174, 0x2174, 0x76), (0x2179, 0x2179, 0x78), (0x217c, 0x217c, 0x6c),
   (0x217d, 0x217e, 0x63), (0x217f, 0x217f, 0x6d), (0x2460, 0x2468, 0x31),
   (0x24b6, 0x24cf, 0x61), (0x24d0, 0x24e9, 0x61), (0x24ea, 0x24ea, 0x30),
   (0x2c7c, 0x2c7c, 0x6a), (0x2c7d, 0x2c7d, 0x76), (0x3002, 0x3002, 0x2e),
   (0xa7f1, 0xa7f1, 0x73), (0xa7f2, 0xa7f2, 0x63), (0xa7f3, 0xa7f3, 0x66),
   (0xa7f4, 0xa7f4, 0x71), (0xfb29, 0xfb29, 0x2b), (0xfe10, 0xfe10, 0x2c),
   (0xfe14, 0xfe14, 0x3b), (0xfe15, 0xfe15, 0x21), (0xfe33, 0xfe33, 0x5f),
   (0xfe34, 0xfe34, 0x5f), (0xfe35, 0xfe36, 0x28), (0xfe37, 0xfe37, 0x7b),
   (0xfe38, 0xfe38, 0x7d), (0xfe4d, 0xfe4d, 0x5f), (0xfe4e, 0xfe4e, 0x5f),
   (0xfe4f, 0xfe4f, 0x5f), (0xfe50, 0xfe50, 0x2c), (0xfe54, 0xfe54, 0x3b),
   (0xfe57, 0xfe57, 0x21), (0xfe59, 0xfe5a, 0x28), (0xfe5b, 0xfe5b, 0x7b),
   (0xfe5c, 0xfe5c, 0x7d), (0xfe60, 0xfe60, 0x26), (0xfe61, 0xfe62, 0x2a),
   (0xfe63, 0xfe63, 0x2d), (0xfe66, 0xfe66, 0x3d), (0xfe69, 0xfe69, 0x24),
   (0xff01, 0xff02, 0x21), (0xff04, 0xff04, 0x24), (0xff06, 0xff0e, 0x26),
   (0xff10, 0xff19, 0x30), (0xff1b, 0xff1b, 0x3b), (0xff1d, 0xff1d, 0x3d),
   (0xff21, 0xff3a, 0x61), (0xff3f, 0xff5b, 0x5f), (0xff5d, 0xff5e, 0x7d),
   (0xff61, 0xff61, 0x2e), (0x107a5, 0x107a5, 0x71), (0x1ccd6, 0x1ccef, 0x61),
   (0x1ccf0, 0x1ccf9, 0x30), (0x1d400, 0x1d419, 0x61), (0x1d41a, 0x1d433, 0x61),
   (0x1d434, 0x1d44d, 0x61), (0x1d44e, 0x1d454, 0x61), (0x1d456, 0x1d467, 0x69),
   (0x1d468, 0x1d481, 0x61), (0x1d482, 0x1d49b, 0x61), (0x1d49c, 0x1d49c, 0x61),
   (0x1d49e, 0x1d49f, 0x63), (0x1d4a2, 0x1d4a2, 0x67), (0x1d4a5, 0x1d4a6, 0x6a),
   (0x1d4a9, 0x1d4ac, 0x6e), (0x1d4ae, 0x1d4b5, 0x73), (0x1d4b6, 0x1d4b9, 0x61),
   (0x1d4bb, 0x1d4bb, 0x66), (0x1d4bd, 0x1d4c3, 0x68), (0x1d4c5, 0x1d4cf, 0x70),
   (0x1d4d0, 0x1d4e9, 0x61), (0x1d4ea, 0x1d503, 0x61), (0x1d504, 0x1d505, 0x61),
   (0x1d507, 0x1d50a, 0x64), (0x1d50d, 0x1d514, 0x6a), (0x1d516, 0x1d51c, 0x73),
   (0x1d51e, 0x1d537, 0x61), (0x1d538, 0x1d539, 0x61), (0x1d53b, 0x1d53e, 0x64),
   (0x1d540, 0x1d544, 0x69), (0x1d546, 0x1d546, 0x6f), (0x1d54a, 0x1d550, 0x73),
   (0x1d552, 0x1d56b, 0x61), (0x1d56c, 0x1d585, 0x61), (0x1d586, 0x1d59f, 0x61),
   (0x1d5a0, 0x1d5b9, 0x61), (0x1d5ba, 0x1d5d3, 0x61), (0x1d5d4, 0x1d5ed, 0x61),
   (0x1d5ee, 0x1d607, 0x61), (0x1d608, 0x1d621, 0x61), (0x1d622, 0x1d63b, 0x61),
   (0x1d63c, 0x1d655, 0x61), (0x1d656, 0x1d66f, 0x61), (0x1d670, 0x1d689, 0x61),
   (0x1d68a, 0x1d6a3, 0x61), (0x1d7ce, 0x1d7d7, 0x30), (0x1d7d8, 0x1d7e1, 0x30),
   (0x1d7e2, 0x1d7eb, 0x30), (0x1d7ec, 0x1d7f5, 0x30), (0x1d7f6, 0x1d7ff, 0x30),
   (0x1f12b, 0x1f12b, 0x63), (0x1f12c, 0x1f12c, 0x72), (0x1f130, 0x1f149, 0x61),
   (0x1fbf0, 0x1fbf9, 0x30)]

/-- Runs of characters that stand for several ASCII characters each: the first, and what each stands
for. -/
def asciiTexts : List (Nat × List String) :=
  [(0x132, ["ij", "ij"]), (0x1c7, ["lj", "lj", "lj", "nj", "nj", "nj"]),
   (0x1f1, ["dz", "dz", "dz"]), (0x203c, ["!!"]), (0x20a8, ["rs"]), (0x2116, ["no"]),
   (0x2120, ["sm", "tel", "tm"]), (0x213b, ["fax"]), (0x2161, ["ii", "iii", "iv"]),
   (0x2165, ["vi", "vii", "viii", "ix"]), (0x216a, ["xi", "xii"]),
   (0x2171, ["ii", "iii", "iv"]), (0x2175, ["vi", "vii", "viii", "ix"]),
   (0x217a, ["xi", "xii"]), (0x2469, ["10", "11", "12", "13", "14", "15", "16"]),
   (0x2470, ["17", "18", "19", "20", "(1)", "(2)", "(3)"]),
   (0x2477, ["(4)", "(5)", "(6)", "(7)", "(8)", "(9)", "(10)"]),
   (0x247e, ["(11)", "(12)", "(13)", "(14)", "(15)", "(16)", "(17)"]),
   (0x2485, ["(18)", "(19)", "(20)"]),
   (0x249c, ["(a)", "(b)", "(c)", "(d)", "(e)", "(f)", "(g)"]),
   (0x24a3, ["(h)", "(i)", "(j)", "(k)", "(l)", "(m)", "(n)"]),
   (0x24aa, ["(o)", "(p)", "(q)", "(r)", "(s)", "(t)", "(u)"]),
   (0x24b1, ["(v)", "(w)", "(x)", "(y)", "(z)"]), (0x2a75, ["==", "==="]),
   (0x3250, ["pte", "21", "22", "23", "24", "25", "26"]),
   (0x3257, ["27", "28", "29", "30", "31", "32", "33"]), (0x325e, ["34", "35"]),
   (0x32b1, ["36", "37", "38", "39", "40", "41", "42"]),
   (0x32b8, ["43", "44", "45", "46", "47", "48", "49"]), (0x32bf, ["50"]),
   (0x32cc, ["hg", "erg", "ev", "ltd"]),
   (0x3371, ["hpa", "da", "au", "bar", "ov", "pc", "dm"]), (0x3378, ["dm2", "dm3", "iu"]),
   (0x3380, ["pa", "na"]), (0x3383, ["ma", "ka", "kb", "mb", "gb", "cal", "kcal"]),
   (0x338a, ["pf", "nf"]), (0x338e, ["mg", "kg", "hz", "khz", "mhz", "ghz", "thz"]),
   (0x3396, ["ml", "dl", "kl", "fm", "nm"]),
   (0x339c, ["mm", "cm", "km", "mm2", "cm2", "m2", "km2"]),
   (0x33a3, ["mm3", "cm3", "m3", "km3"]), (0x33a9, ["pa", "kpa", "mpa", "gpa", "rad"]),
   (0x33b0, ["ps", "ns"]), (0x33b3, ["ms", "pv", "nv"]),
   (0x33b7, ["mv", "kv", "mv", "pw", "nw"]), (0x33bd, ["mw", "kw", "mw"]),
   (0x33c3, ["bq", "cc", "cd"]), (0x33c8, ["db", "gy", "ha", "hp", "in", "kk", "km"]),
   (0x33cf, ["kt", "lm", "ln", "log", "lx", "mb", "mil"]), (0x33d6, ["mol", "ph"]),
   (0x33d9, ["ppm", "pr", "sr", "sv", "wb"]), (0x33ff, ["gal"]),
   (0xfb00, ["ff", "fi", "fl", "ffi", "ffl", "st", "st"]),
   (0x1f101, ["0,", "1,", "2,", "3,", "4,", "5,", "6,"]), (0x1f108, ["7,", "8,", "9,"]),
   (0x1f110, ["(a)", "(b)", "(c)", "(d)", "(e)", "(f)", "(g)"]),
   (0x1f117, ["(h)", "(i)", "(j)", "(k)", "(l)", "(m)", "(n)"]),
   (0x1f11e, ["(o)", "(p)", "(q)", "(r)", "(s)", "(t)", "(u)"]),
   (0x1f125, ["(v)", "(w)", "(x)", "(y)", "(z)"]), (0x1f12d, ["cd", "wz"]),
   (0x1f14a, ["hv", "mv", "sd", "ss", "ppv", "wc"]), (0x1f16a, ["mc", "md", "mr"]),
   (0x1f190, ["dj"])]

/-- Runs of characters that stand for others outside ASCII: first, last and stride. -/
def foldedRuns : List (Nat × Nat × Nat) :=
  [(0xb5, 0xb5, 1), (0xbc, 0xbe, 1), (0xc0, 0xd6, 1), (0xd8, 0xde, 1), (0x100, 0x130, 2),
   (0x134, 0x136, 2), (0x139, 0x13f, 2), (0x140, 0x141, 1), (0x143, 0x149, 2),
   (0x14a, 0x178, 2), (0x179, 0x17d, 2), (0x181, 0x182, 1), (0x184, 0x186, 2),
   (0x187, 0x189, 2), (0x18a, 0x18b, 1), (0x18e, 0x191, 1), (0x193, 0x194, 1),
   (0x196, 0x198, 1), (0x19c, 0x19d, 1), (0x19f, 0x1a0, 1), (0x1a2, 0x1a6, 2),
   (0x1a7, 0x1a9, 2), (0x1ac, 0x1ae, 2), (0x1af, 0x1b1, 2), (0x1b2, 0x1b3, 1),
   (0x1b5, 0x1b7, 2), (0x1b8, 0x1b8, 1), (0x1bc, 0x1bc, 1), (0x1c4, 0x1cd, 1),
   (0x1cf, 0x1db, 2), (0x1de, 0x1ee, 2), (0x1f4, 0x1f6, 2), (0x1f7, 0x1f8, 1),
   (0x1fa, 0x232, 2), (0x23a, 0x23b, 1), (0x23d, 0x23e, 1), (0x241, 0x243, 2),
   (0x244, 0x246, 1), (0x248, 0x24e, 2), (0x2b1, 0x2b6, 1), (0x2e0, 0x2e4, 1),
   (0x340, 0x341, 1), (0x343, 0x345, 1), (0x370, 0x376, 2), (0x37f, 0x38f, 1),
   (0x391, 0x3ab, 1), (0x3cf, 0x3d6, 1), (0x3d8, 0x3f0, 2), (0x3f1, 0x3f2, 1),
   (0x3f4, 0x3f5, 1), (0x3f7, 0x3f9, 2), (0x3fa, 0x3fa, 1), (0x3fd, 0x42f, 1),
   (0x460, 0x480, 2), (0x48a, 0x4c0, 2), (0x4c1, 0x4cd, 2), (0x4d0, 0x52e, 2),
   (0x531, 0x556, 1), (0x587, 0x587, 1), (0x675, 0x678, 1), (0x958, 0x95f, 1),
   (0x9dc, 0x9df, 1), (0xa33, 0xa33, 1), (0xa36, 0xa36, 1), (0xa59, 0xa5b, 1),
   (0xa5e, 0xa5e, 1), (0xb5c, 0xb5d, 1), (0xe33, 0xe33, 1), (0xeb3, 0xeb3, 1),
   (0xedc, 0xedd, 1), (0xf0c, 0xf0c, 1), (0xf43, 0xf43, 1), (0xf4d, 0xf4d, 1),
   (0xf52, 0xf52, 1), (0xf57, 0xf57, 1), (0xf5c, 0xf5c, 1), (0xf69, 0xf69, 1),
   (0xf73, 0xf75, 2), (0xf76, 0xf79, 1), (0xf81, 0xf81, 1), (0xf93, 0xf93, 1),
   (0xf9d, 0xf9d, 1), (0xfa2, 0xfa2, 1), (0xfa7, 0xfa7, 1), (0xfac, 0xfac, 1),
   (0xfb9, 0xfb9, 1), (0x10a0, 0x10cd, 1), (0x10fc, 0x10fc, 1), (0x13f8, 0x13fd, 1),
   (0x1c80, 0x1c89, 1), (0x1c90, 0x1cbf, 1), (0x1d2d, 0x1d2d, 1), (0x1d32, 0x1d32, 1),
   (0x1d3d, 0x1d4c, 1), (0x1d51, 0x1d6a, 1), (0x1d78, 0x1d78, 1), (0x1d9b, 0x1dbf, 1),
   (0x1e00, 0x1e94, 2), (0x1e9a, 0x1e9b, 1), (0x1e9e, 0x1efe, 2), (0x1f08, 0x1f0f, 1),
   (0x1f18, 0x1f1d, 1), (0x1f28, 0x1f2f, 1), (0x1f38, 0x1f3f, 1), (0x1f48, 0x1f4d, 1),
   (0x1f59, 0x1f5f, 1), (0x1f68, 0x1f6f, 1), (0x1f71, 0x1f7d, 2), (0x1f80, 0x1faf, 1),
   (0x1fb2, 0x1fb4, 1), (0x1fb7, 0x1fc4, 1), (0x1fc7, 0x1fcc, 1), (0x1fd3, 0x1fd3, 1),
   (0x1fd8, 0x1fdb, 1), (0x1fe3, 0x1fe3, 1), (0x1fe8, 0x1ff4, 1), (0x1ff7, 0x1ffc, 1),
   (0x2011, 0x2011, 1), (0x2033, 0x2034, 1), (0x2036, 0x2037, 1), (0x2057, 0x2057, 1),
   (0x207b, 0x2094, 1), (0x2103, 0x2103, 1), (0x2107, 0x2109, 2), (0x210f, 0x210f, 1),
   (0x2126, 0x2126, 1), (0x212b, 0x212b, 1), (0x2132, 0x2138, 1), (0x213c, 0x2140, 1),
   (0x2150, 0x215f, 1), (0x2183, 0x2183, 1), (0x2189, 0x2189, 1), (0x222c, 0x222d, 1),
   (0x222f, 0x2230, 1), (0x2329, 0x232a, 1), (0x2a0c, 0x2a0c, 1), (0x2adc, 0x2adc, 1),
   (0x2c00, 0x2c2f, 1), (0x2c60, 0x2c62, 2), (0x2c63, 0x2c64, 1), (0x2c67, 0x2c6d, 2),
   (0x2c6e, 0x2c70, 1), (0x2c72, 0x2c72, 1), (0x2c75, 0x2c75, 1), (0x2c7e, 0x2c80, 1),
   (0x2c82, 0x2ce2, 2), (0x2ceb, 0x2ced, 2), (0x2cf2, 0x2cf2, 1), (0x2d6f, 0x2d6f, 1),
   (0x2e9f, 0x2e9f, 1), (0x2ef3, 0x2fd5, 1), (0x3036, 0x3038, 2), (0x3039, 0x303a, 1),
   (0x309f, 0x309f, 1), (0x30ff, 0x30ff, 1), (0x3131, 0x318e, 1), (0x3192, 0x319f, 1),
   (0x3200, 0x3247, 1), (0x3260, 0x327e, 1), (0x3280, 0x33fe, 1), (0xa640, 0xa66c, 2),
   (0xa680, 0xa69c, 2), (0xa69d, 0xa69d, 1), (0xa722, 0xa72e, 2), (0xa732, 0xa770, 2),
   (0xa779, 0xa77d, 2), (0xa77e, 0xa786, 2), (0xa78b, 0xa78d, 2), (0xa790, 0xa792, 2),
   (0xa796, 0xa7aa, 2), (0xa7ab, 0xa7ae, 1), (0xa7b0, 0xa7b4, 1), (0xa7b6, 0xa7c4, 2),
   (0xa7c5, 0xa7c7, 1), (0xa7c9, 0xa7cb, 2), (0xa7cc, 0xa7dc, 2), (0xa7f5, 0xa7f5, 1),
   (0xa7f8, 0xa7f9, 1), (0xab5c, 0xab5f, 1), (0xab69, 0xab69, 1), (0xab70, 0xabbf, 1),
   (0xf900, 0xfa0d, 1), (0xfa10, 0xfa12, 2), (0xfa15, 0xfa1e, 1), (0xfa20, 0xfa22, 2),
   (0xfa25, 0xfa26, 1), (0xfa2a, 0xfb1d, 1), (0xfb1f, 0xfbb1, 1), (0xfbd3, 0xfd3d, 1),
   (0xfd50, 0xfd8f, 1), (0xfd92, 0xfdc7, 1), (0xfdf0, 0xfdfc, 1), (0xfe11, 0xfe18, 1),
   (0xfe31, 0xfe44, 1), (0xfe51, 0xfe71, 1), (0xfe77, 0xffee, 1), (0x10400, 0x10427, 1),
   (0x104b0, 0x104d3, 1), (0x10570, 0x10595, 1), (0x10781, 0x107ba, 1), (0x10c80, 0x10cb2, 1),
   (0x10d50, 0x10d65, 1), (0x118a0, 0x118bf, 1), (0x16e40, 0x16e5f, 1), (0x16ea0, 0x16eb8, 1),
   (0x1d15e, 0x1d164, 1), (0x1d1bb, 0x1d1c0, 1), (0x1d6a4, 0x1d7cb, 1), (0x1e030, 0x1e06d, 1),
   (0x1e900, 0x1e921, 1), (0x1ee00, 0x1eebb, 1), (0x1f12a, 0x1f12a, 1), (0x1f200, 0x1f251, 1),
   (0x2f800, 0x2fa1d, 1)]

end EntityStore.Url
