/-!
# Characters of domains

Beyond ASCII, a domain may be written in many forms. `refusedRanges` are the
characters no domain has, also because they stand for such ASCII characters;
`ignoredRanges` stand for nothing; those of `shiftedRanges` and `spelledRanges`
stand for another text. All others stand for themselves. `markRanges` are the
marks, which belong to the character before them.
-/

namespace SymbolOutline.Url

def refusedRanges : List (Nat × Nat) :=
  [(0x80, 0xa0), (0xa8, 0xa8), (0xaf, 0xaf), (0xb4, 0xb4), (0xb8, 0xb8), (0x2d8, 0x2dd),
    (0x378, 0x37a), (0x380, 0x385), (0x38b, 0x38b), (0x38d, 0x38d), (0x3a2, 0x3a2), (0x530, 0x530),
    (0x557, 0x557), (0x58c, 0x58c), (0x590, 0x590), (0x5ca, 0x5cf), (0x5eb, 0x5ee), (0x5f5, 0x605),
    (0x61c, 0x61c), (0x6dd, 0x6dd), (0x70e, 0x70f), (0x74b, 0x74c), (0x7b2, 0x7bf), (0x7fb, 0x7fc),
    (0x82e, 0x82f), (0x83f, 0x83f), (0x85c, 0x85d), (0x85f, 0x85f), (0x86b, 0x86f), (0x890, 0x896),
    (0x8e2, 0x8e2), (0x984, 0x984), (0x98d, 0x98e), (0x991, 0x992), (0x9a9, 0x9a9), (0x9b1, 0x9b1),
    (0x9b3, 0x9b5), (0x9ba, 0x9bb), (0x9c5, 0x9c6), (0x9c9, 0x9ca), (0x9cf, 0x9d6), (0x9d8, 0x9db),
    (0x9de, 0x9de), (0x9e4, 0x9e5), (0x9ff, 0xa00), (0xa04, 0xa04), (0xa0b, 0xa0e), (0xa11, 0xa12),
    (0xa29, 0xa29), (0xa31, 0xa31), (0xa34, 0xa34), (0xa37, 0xa37), (0xa3a, 0xa3b), (0xa3d, 0xa3d),
    (0xa43, 0xa46), (0xa49, 0xa4a), (0xa4e, 0xa50), (0xa52, 0xa58), (0xa5d, 0xa5d), (0xa5f, 0xa65),
    (0xa77, 0xa80), (0xa84, 0xa84), (0xa8e, 0xa8e), (0xa92, 0xa92), (0xaa9, 0xaa9), (0xab1, 0xab1),
    (0xab4, 0xab4), (0xaba, 0xabb), (0xac6, 0xac6), (0xaca, 0xaca), (0xace, 0xacf), (0xad1, 0xadf),
    (0xae4, 0xae5), (0xaf2, 0xaf8), (0xb00, 0xb00), (0xb04, 0xb04), (0xb0d, 0xb0e), (0xb11, 0xb12),
    (0xb29, 0xb29), (0xb31, 0xb31), (0xb34, 0xb34), (0xb3a, 0xb3b), (0xb45, 0xb46), (0xb49, 0xb4a),
    (0xb4e, 0xb54), (0xb58, 0xb5b), (0xb5e, 0xb5e), (0xb64, 0xb65), (0xb78, 0xb81), (0xb84, 0xb84),
    (0xb8b, 0xb8d), (0xb91, 0xb91), (0xb96, 0xb98), (0xb9b, 0xb9b), (0xb9d, 0xb9d), (0xba0, 0xba2),
    (0xba5, 0xba7), (0xbab, 0xbad), (0xbba, 0xbbd), (0xbc3, 0xbc5), (0xbc9, 0xbc9), (0xbce, 0xbcf),
    (0xbd1, 0xbd6), (0xbd8, 0xbe5), (0xbfb, 0xbff), (0xc0d, 0xc0d), (0xc11, 0xc11), (0xc29, 0xc29),
    (0xc3a, 0xc3b), (0xc45, 0xc45), (0xc49, 0xc49), (0xc4e, 0xc54), (0xc57, 0xc57), (0xc5b, 0xc5b),
    (0xc5e, 0xc5f), (0xc64, 0xc65), (0xc70, 0xc76), (0xc8d, 0xc8d), (0xc91, 0xc91), (0xca9, 0xca9),
    (0xcb4, 0xcb4), (0xcba, 0xcbb), (0xcc5, 0xcc5), (0xcc9, 0xcc9), (0xcce, 0xcd4), (0xcd7, 0xcdb),
    (0xcdf, 0xcdf), (0xce4, 0xce5), (0xcf0, 0xcf0), (0xcf4, 0xcff), (0xd0d, 0xd0d), (0xd11, 0xd11),
    (0xd45, 0xd45), (0xd49, 0xd49), (0xd50, 0xd53), (0xd64, 0xd65), (0xd80, 0xd80), (0xd84, 0xd84),
    (0xd97, 0xd99), (0xdb2, 0xdb2), (0xdbc, 0xdbc), (0xdbe, 0xdbf), (0xdc7, 0xdc9), (0xdcb, 0xdce),
    (0xdd5, 0xdd5), (0xdd7, 0xdd7), (0xde0, 0xde5), (0xdf0, 0xdf1), (0xdf5, 0xe00), (0xe3b, 0xe3e),
    (0xe5c, 0xe80), (0xe83, 0xe83), (0xe85, 0xe85), (0xe8b, 0xe8b), (0xea4, 0xea4), (0xea6, 0xea6),
    (0xebe, 0xebf), (0xec5, 0xec5), (0xec7, 0xec7), (0xecf, 0xecf), (0xeda, 0xedb), (0xee0, 0xeff),
    (0xf48, 0xf48), (0xf6d, 0xf70), (0xf98, 0xf98), (0xfbd, 0xfbd), (0xfcd, 0xfcd), (0xfdb, 0xfff),
    (0x10c6, 0x10c6), (0x10c8, 0x10cc), (0x10ce, 0x10cf), (0x1249, 0x1249), (0x124e, 0x124f),
    (0x1257, 0x1257), (0x1259, 0x1259), (0x125e, 0x125f), (0x1289, 0x1289), (0x128e, 0x128f),
    (0x12b1, 0x12b1), (0x12b6, 0x12b7), (0x12bf, 0x12bf), (0x12c1, 0x12c1), (0x12c6, 0x12c7),
    (0x12d7, 0x12d7), (0x1311, 0x1311), (0x1316, 0x1317), (0x135b, 0x135c), (0x137d, 0x137f),
    (0x139a, 0x139f), (0x13f6, 0x13f7), (0x13fe, 0x13ff), (0x1680, 0x1680), (0x169d, 0x169f),
    (0x16f9, 0x16ff), (0x1716, 0x171e), (0x1737, 0x173f), (0x1754, 0x175f), (0x176d, 0x176d),
    (0x1771, 0x1771), (0x1774, 0x177f), (0x17de, 0x17df), (0x17ea, 0x17ef), (0x17fa, 0x17ff),
    (0x181a, 0x181f), (0x1879, 0x187f), (0x18ab, 0x18af), (0x18f6, 0x18ff), (0x191f, 0x191f),
    (0x192c, 0x192f), (0x193c, 0x193f), (0x1941, 0x1943), (0x196e, 0x196f), (0x1975, 0x197f),
    (0x19ac, 0x19af), (0x19ca, 0x19cf), (0x19db, 0x19dd), (0x1a1c, 0x1a1d), (0x1a5f, 0x1a5f),
    (0x1a7d, 0x1a7e), (0x1a8a, 0x1a8f), (0x1a9a, 0x1a9f), (0x1aae, 0x1aaf), (0x1aec, 0x1aff),
    (0x1b4d, 0x1b4d), (0x1bf4, 0x1bfb), (0x1c38, 0x1c3a), (0x1c4a, 0x1c4c), (0x1c8b, 0x1c8f),
    (0x1cbb, 0x1cbc), (0x1cc8, 0x1ccf), (0x1cfb, 0x1cff), (0x1f16, 0x1f17), (0x1f1e, 0x1f1f),
    (0x1f46, 0x1f47), (0x1f4e, 0x1f4f), (0x1f58, 0x1f58), (0x1f5a, 0x1f5a), (0x1f5c, 0x1f5c),
    (0x1f5e, 0x1f5e), (0x1f7e, 0x1f7f), (0x1fb5, 0x1fb5), (0x1fbd, 0x1fbd), (0x1fbf, 0x1fc1),
    (0x1fc5, 0x1fc5), (0x1fcd, 0x1fcf), (0x1fd4, 0x1fd5), (0x1fdc, 0x1fdf), (0x1fed, 0x1fee),
    (0x1ff0, 0x1ff1), (0x1ff5, 0x1ff5), (0x1ffd, 0x200a), (0x200e, 0x200f), (0x2017, 0x2017),
    (0x2024, 0x2026), (0x2028, 0x202f), (0x203e, 0x203e), (0x2047, 0x2049), (0x205f, 0x205f),
    (0x2065, 0x2069), (0x2072, 0x2073), (0x20c4, 0x20cf), (0x20f1, 0x2101), (0x2105, 0x2106),
    (0x218c, 0x218f), (0x242a, 0x243f), (0x244b, 0x245f), (0x2488, 0x249b), (0x2a74, 0x2a74),
    (0x2b74, 0x2b75), (0x2cf4, 0x2cf8), (0x2d26, 0x2d26), (0x2d28, 0x2d2c), (0x2d2e, 0x2d2f),
    (0x2d68, 0x2d6e), (0x2d71, 0x2d7e), (0x2d97, 0x2d9f), (0x2da7, 0x2da7), (0x2daf, 0x2daf),
    (0x2db7, 0x2db7), (0x2dbf, 0x2dbf), (0x2dc7, 0x2dc7), (0x2dcf, 0x2dcf), (0x2dd7, 0x2dd7),
    (0x2ddf, 0x2ddf), (0x2e5e, 0x2e5f), (0x2e62, 0x2e7f), (0x2e9a, 0x2e9a), (0x2ef4, 0x2eff),
    (0x2fd6, 0x3000), (0x3040, 0x3040), (0x3097, 0x3098), (0x309b, 0x309c), (0x3100, 0x3104),
    (0x3130, 0x3130), (0x318f, 0x318f), (0x31e6, 0x31ef), (0x321f, 0x321f), (0x33c2, 0x33c2),
    (0x33c7, 0x33c7), (0x33d8, 0x33d8), (0xa48d, 0xa48f), (0xa4c7, 0xa4cf), (0xa62c, 0xa63f),
    (0xa6f8, 0xa6ff), (0xa7e0, 0xa7f0), (0xa82d, 0xa82f), (0xa83a, 0xa83f), (0xa878, 0xa87f),
    (0xa8c6, 0xa8cd), (0xa8da, 0xa8df), (0xa954, 0xa95e), (0xa97d, 0xa97f), (0xa9ce, 0xa9ce),
    (0xa9da, 0xa9dd), (0xa9ff, 0xa9ff), (0xaa37, 0xaa3f), (0xaa4e, 0xaa4f), (0xaa5a, 0xaa5b),
    (0xaac3, 0xaada), (0xaaf7, 0xab00), (0xab07, 0xab08), (0xab0f, 0xab10), (0xab17, 0xab1f),
    (0xab27, 0xab27), (0xab2f, 0xab2f), (0xabee, 0xabef), (0xabfa, 0xabff), (0xd7a4, 0xd7af),
    (0xd7c7, 0xd7ca), (0xd7fc, 0xf8ff), (0xfa6e, 0xfa6f), (0xfada, 0xfaff), (0xfb07, 0xfb12),
    (0xfb18, 0xfb1c), (0xfb37, 0xfb37), (0xfb3d, 0xfb3d), (0xfb3f, 0xfb3f), (0xfb42, 0xfb42),
    (0xfb45, 0xfb45), (0xfc5e, 0xfc63), (0xfdd0, 0xfdef), (0xfdfa, 0xfdfb), (0xfe12, 0xfe13),
    (0xfe16, 0xfe16), (0xfe19, 0xfe1f), (0xfe30, 0xfe30), (0xfe47, 0xfe4c), (0xfe52, 0xfe53),
    (0xfe55, 0xfe56), (0xfe5f, 0xfe5f), (0xfe67, 0xfe68), (0xfe6a, 0xfe70), (0xfe72, 0xfe72),
    (0xfe74, 0xfe76), (0xfe78, 0xfe78), (0xfe7a, 0xfe7a), (0xfe7c, 0xfe7c), (0xfe7e, 0xfe7e),
    (0xfefd, 0xfefe), (0xff00, 0xff00), (0xff03, 0xff03), (0xff05, 0xff05), (0xff0f, 0xff0f),
    (0xff1a, 0xff1a), (0xff1f, 0xff20), (0xff3b, 0xff3e), (0xff5c, 0xff5c), (0xffbf, 0xffc1),
    (0xffc8, 0xffc9), (0xffd0, 0xffd1), (0xffd8, 0xffd9), (0xffdd, 0xffdf), (0xffe3, 0xffe3),
    (0xffe7, 0xffe7), (0xffef, 0xffff), (0x1000c, 0x1000c), (0x10027, 0x10027), (0x1003b, 0x1003b),
    (0x1003e, 0x1003e), (0x1004e, 0x1004f), (0x1005e, 0x1007f), (0x100fb, 0x100ff),
    (0x10103, 0x10106), (0x10134, 0x10136), (0x1018f, 0x1018f), (0x1019d, 0x1019f),
    (0x101a1, 0x101cf), (0x101fe, 0x1027f), (0x1029d, 0x1029f), (0x102d1, 0x102df),
    (0x102fc, 0x102ff), (0x10324, 0x1032c), (0x1034b, 0x1034f), (0x1037b, 0x1037f),
    (0x1039e, 0x1039e), (0x103c4, 0x103c7), (0x103d6, 0x103ff), (0x1049e, 0x1049f),
    (0x104aa, 0x104af), (0x104d4, 0x104d7), (0x104fc, 0x104ff), (0x10528, 0x1052f),
    (0x10564, 0x1056e), (0x1057b, 0x1057b), (0x1058b, 0x1058b), (0x10593, 0x10593),
    (0x10596, 0x10596), (0x105a2, 0x105a2), (0x105b2, 0x105b2), (0x105ba, 0x105ba),
    (0x105bd, 0x105bf), (0x105f4, 0x105ff), (0x10737, 0x1073f), (0x10756, 0x1075f),
    (0x10768, 0x1077f), (0x10786, 0x10786), (0x107b1, 0x107b1), (0x107bb, 0x107ff),
    (0x10806, 0x10807), (0x10809, 0x10809), (0x10836, 0x10836), (0x10839, 0x1083b),
    (0x1083d, 0x1083e), (0x10856, 0x10856), (0x1089f, 0x108a6), (0x108b0, 0x108df),
    (0x108f3, 0x108f3), (0x108f6, 0x108fa), (0x1091c, 0x1091e), (0x1093a, 0x1093e),
    (0x1095a, 0x1097f), (0x109b8, 0x109bb), (0x109d0, 0x109d1), (0x10a04, 0x10a04),
    (0x10a07, 0x10a0b), (0x10a14, 0x10a14), (0x10a18, 0x10a18), (0x10a36, 0x10a37),
    (0x10a3b, 0x10a3e), (0x10a49, 0x10a4f), (0x10a59, 0x10a5f), (0x10aa0, 0x10abf),
    (0x10ae7, 0x10aea), (0x10af7, 0x10aff), (0x10b36, 0x10b38), (0x10b56, 0x10b57),
    (0x10b73, 0x10b77), (0x10b92, 0x10b98), (0x10b9d, 0x10ba8), (0x10bb0, 0x10bff),
    (0x10c49, 0x10c7f), (0x10cb3, 0x10cbf), (0x10cf3, 0x10cf9), (0x10d28, 0x10d2f),
    (0x10d3a, 0x10d3f), (0x10d66, 0x10d68), (0x10d86, 0x10d8d), (0x10d90, 0x10e5f),
    (0x10e7f, 0x10e7f), (0x10eaa, 0x10eaa), (0x10eae, 0x10eaf), (0x10eb2, 0x10ec1),
    (0x10ec8, 0x10ecf), (0x10ed9, 0x10ef9), (0x10f28, 0x10f2f), (0x10f5a, 0x10f6f),
    (0x10f8a, 0x10faf), (0x10fcc, 0x10fdf), (0x10ff7, 0x10fff), (0x1104e, 0x11051),
    (0x11076, 0x1107e), (0x110bd, 0x110bd), (0x110c3, 0x110cf), (0x110e9, 0x110ef),
    (0x110fa, 0x110ff), (0x11135, 0x11135), (0x11148, 0x1114f), (0x11177, 0x1117f),
    (0x111e0, 0x111e0), (0x111f5, 0x111ff), (0x11212, 0x11212), (0x11242, 0x1127f),
    (0x11287, 0x11287), (0x11289, 0x11289), (0x1128e, 0x1128e), (0x1129e, 0x1129e),
    (0x112aa, 0x112af), (0x112eb, 0x112ef), (0x112fa, 0x112ff), (0x11304, 0x11304),
    (0x1130d, 0x1130e), (0x11311, 0x11312), (0x11329, 0x11329), (0x11331, 0x11331),
    (0x11334, 0x11334), (0x1133a, 0x1133a), (0x11345, 0x11346), (0x11349, 0x1134a),
    (0x1134e, 0x1134f), (0x11351, 0x11356), (0x11358, 0x1135c), (0x11364, 0x11365),
    (0x1136d, 0x1136f), (0x11375, 0x1137f), (0x1138a, 0x1138a), (0x1138c, 0x1138d),
    (0x1138f, 0x1138f), (0x113b6, 0x113b6), (0x113c1, 0x113c1), (0x113c3, 0x113c4),
    (0x113c6, 0x113c6), (0x113cb, 0x113cb), (0x113d6, 0x113d6), (0x113d9, 0x113e0),
    (0x113e3, 0x113ff), (0x1145c, 0x1145c), (0x11462, 0x1147f), (0x114c8, 0x114cf),
    (0x114da, 0x1157f), (0x115b6, 0x115b7), (0x115de, 0x115ff), (0x11645, 0x1164f),
    (0x1165a, 0x1165f), (0x1166d, 0x1167f), (0x116ba, 0x116bf), (0x116ca, 0x116cf),
    (0x116e4, 0x116ff), (0x1171b, 0x1171c), (0x1172c, 0x1172f), (0x11747, 0x117ff),
    (0x1183c, 0x1189f), (0x118f3, 0x118fe), (0x11907, 0x11908), (0x1190a, 0x1190b),
    (0x11914, 0x11914), (0x11917, 0x11917), (0x11936, 0x11936), (0x11939, 0x1193a),
    (0x11947, 0x1194f), (0x1195a, 0x1199f), (0x119a8, 0x119a9), (0x119d8, 0x119d9),
    (0x119e5, 0x119ff), (0x11a48, 0x11a4f), (0x11aa3, 0x11aaf), (0x11af9, 0x11aff),
    (0x11b0a, 0x11b5f), (0x11b68, 0x11bbf), (0x11be2, 0x11bef), (0x11bfa, 0x11bff),
    (0x11c09, 0x11c09), (0x11c37, 0x11c37), (0x11c46, 0x11c4f), (0x11c6d, 0x11c6f),
    (0x11c90, 0x11c91), (0x11ca8, 0x11ca8), (0x11cb7, 0x11cff), (0x11d07, 0x11d07),
    (0x11d0a, 0x11d0a), (0x11d37, 0x11d39), (0x11d3b, 0x11d3b), (0x11d3e, 0x11d3e),
    (0x11d48, 0x11d4f), (0x11d5a, 0x11d5f), (0x11d66, 0x11d66), (0x11d69, 0x11d69),
    (0x11d8f, 0x11d8f), (0x11d92, 0x11d92), (0x11d99, 0x11d9f), (0x11daa, 0x11daf),
    (0x11ddc, 0x11ddf), (0x11dea, 0x11edf), (0x11ef9, 0x11eff), (0x11f11, 0x11f11),
    (0x11f3b, 0x11f3d), (0x11f5b, 0x11faf), (0x11fb1, 0x11fbf), (0x11ff2, 0x11ffe),
    (0x1239a, 0x123ff), (0x1246f, 0x1246f), (0x12475, 0x1247f), (0x12544, 0x1254f),
    (0x12687, 0x12f8f), (0x12ff3, 0x12fff), (0x13430, 0x1343f), (0x13456, 0x1345f),
    (0x143fb, 0x143ff), (0x14647, 0x160ff), (0x1613a, 0x167ff), (0x16a39, 0x16a3f),
    (0x16a5f, 0x16a5f), (0x16a6a, 0x16a6d), (0x16abf, 0x16abf), (0x16aca, 0x16acf),
    (0x16aee, 0x16aef), (0x16af6, 0x16aff), (0x16b46, 0x16b4f), (0x16b5a, 0x16b5a),
    (0x16b62, 0x16b62), (0x16b78, 0x16b7c), (0x16b90, 0x16d3f), (0x16d7a, 0x16d7f),
    (0x16db0, 0x16e3f), (0x16e9b, 0x16e9f), (0x16eb9, 0x16eba), (0x16ed4, 0x16eff),
    (0x16f4b, 0x16f4e), (0x16f88, 0x16f8e), (0x16fa0, 0x16fdf), (0x16fe5, 0x16fef),
    (0x16ff7, 0x16fff), (0x18cd6, 0x18cfe), (0x18d1f, 0x18d7f), (0x18df3, 0x18dff),
    (0x191e0, 0x1afef), (0x1aff4, 0x1aff4), (0x1affc, 0x1affc), (0x1afff, 0x1afff),
    (0x1b123, 0x1b131), (0x1b133, 0x1b14f), (0x1b153, 0x1b154), (0x1b156, 0x1b163),
    (0x1b169, 0x1b16f), (0x1b2fc, 0x1bbff), (0x1bc6b, 0x1bc6f), (0x1bc7d, 0x1bc7f),
    (0x1bc89, 0x1bc8f), (0x1bc9a, 0x1bc9b), (0x1bca4, 0x1cbff), (0x1ccfd, 0x1ccff),
    (0x1ceb4, 0x1ceb9), (0x1ced1, 0x1cedf), (0x1cef1, 0x1ceff), (0x1cf2e, 0x1cf2f),
    (0x1cf47, 0x1cf4f), (0x1cfc4, 0x1cfff), (0x1d0f6, 0x1d0ff), (0x1d127, 0x1d128),
    (0x1d1eb, 0x1d1ff), (0x1d246, 0x1d24f), (0x1d290, 0x1d2bf), (0x1d2d4, 0x1d2df),
    (0x1d2f4, 0x1d2ff), (0x1d357, 0x1d35f), (0x1d379, 0x1d3ff), (0x1d455, 0x1d455),
    (0x1d49d, 0x1d49d), (0x1d4a0, 0x1d4a1), (0x1d4a3, 0x1d4a4), (0x1d4a7, 0x1d4a8),
    (0x1d4ad, 0x1d4ad), (0x1d4ba, 0x1d4ba), (0x1d4bc, 0x1d4bc), (0x1d4c4, 0x1d4c4),
    (0x1d506, 0x1d506), (0x1d50b, 0x1d50c), (0x1d515, 0x1d515), (0x1d51d, 0x1d51d),
    (0x1d53a, 0x1d53a), (0x1d53f, 0x1d53f), (0x1d545, 0x1d545), (0x1d547, 0x1d549),
    (0x1d551, 0x1d551), (0x1d6a6, 0x1d6a7), (0x1d7cc, 0x1d7cd), (0x1da8c, 0x1da9a),
    (0x1daa0, 0x1daa0), (0x1dab0, 0x1daff), (0x1dc00, 0x1deff), (0x1df1f, 0x1df24),
    (0x1df2b, 0x1dfff), (0x1e007, 0x1e007), (0x1e019, 0x1e01a), (0x1e022, 0x1e022),
    (0x1e025, 0x1e025), (0x1e02b, 0x1e02f), (0x1e06e, 0x1e08e), (0x1e090, 0x1e0ff),
    (0x1e12d, 0x1e12f), (0x1e13e, 0x1e13f), (0x1e14a, 0x1e14d), (0x1e150, 0x1e28f),
    (0x1e2af, 0x1e2bf), (0x1e2fa, 0x1e2fe), (0x1e300, 0x1e4cf), (0x1e4fa, 0x1e5cf),
    (0x1e5fb, 0x1e5fe), (0x1e600, 0x1e6bf), (0x1e6df, 0x1e6df), (0x1e6f6, 0x1e6fd),
    (0x1e700, 0x1e7df), (0x1e7e7, 0x1e7e7), (0x1e7ec, 0x1e7ec), (0x1e7ef, 0x1e7ef),
    (0x1e7ff, 0x1e7ff), (0x1e8c5, 0x1e8c6), (0x1e8d7, 0x1e8ff), (0x1e94c, 0x1e94f),
    (0x1e95a, 0x1e95d), (0x1e960, 0x1ec70), (0x1ecb5, 0x1ed00), (0x1ed3e, 0x1edff),
    (0x1ee04, 0x1ee04), (0x1ee20, 0x1ee20), (0x1ee23, 0x1ee23), (0x1ee25, 0x1ee26),
    (0x1ee28, 0x1ee28), (0x1ee33, 0x1ee33), (0x1ee38, 0x1ee38), (0x1ee3a, 0x1ee3a),
    (0x1ee3c, 0x1ee41), (0x1ee43, 0x1ee46), (0x1ee48, 0x1ee48), (0x1ee4a, 0x1ee4a),
    (0x1ee4c, 0x1ee4c), (0x1ee50, 0x1ee50), (0x1ee53, 0x1ee53), (0x1ee55, 0x1ee56),
    (0x1ee58, 0x1ee58), (0x1ee5a, 0x1ee5a), (0x1ee5c, 0x1ee5c), (0x1ee5e, 0x1ee5e),
    (0x1ee60, 0x1ee60), (0x1ee63, 0x1ee63), (0x1ee65, 0x1ee66), (0x1ee6b, 0x1ee6b),
    (0x1ee73, 0x1ee73), (0x1ee78, 0x1ee78), (0x1ee7d, 0x1ee7d), (0x1ee7f, 0x1ee7f),
    (0x1ee8a, 0x1ee8a), (0x1ee9c, 0x1eea0), (0x1eea4, 0x1eea4), (0x1eeaa, 0x1eeaa),
    (0x1eebc, 0x1eeef), (0x1eef2, 0x1efff), (0x1f02c, 0x1f02f), (0x1f094, 0x1f09f),
    (0x1f0af, 0x1f0b0), (0x1f0c0, 0x1f0c0), (0x1f0d0, 0x1f0d0), (0x1f0f6, 0x1f100),
    (0x1f1ae, 0x1f1e5), (0x1f203, 0x1f20f), (0x1f23c, 0x1f23f), (0x1f249, 0x1f24f),
    (0x1f252, 0x1f25f), (0x1f266, 0x1f2ff), (0x1f6da, 0x1f6db), (0x1f6ed, 0x1f6ef),
    (0x1f6fd, 0x1f6ff), (0x1f7da, 0x1f7df), (0x1f7ec, 0x1f7ef), (0x1f7f1, 0x1f7ff),
    (0x1f80c, 0x1f80f), (0x1f848, 0x1f84f), (0x1f85a, 0x1f85f), (0x1f888, 0x1f88f),
    (0x1f8ae, 0x1f8af), (0x1f8bc, 0x1f8bf), (0x1f8c2, 0x1f8cf), (0x1f8d9, 0x1f8ff),
    (0x1fa58, 0x1fa5f), (0x1fa6e, 0x1fa6f), (0x1fa7d, 0x1fa7f), (0x1fac7, 0x1fac7),
    (0x1fade, 0x1fade), (0x1faec, 0x1faee), (0x1fafb, 0x1faff), (0x1fb93, 0x1fb93),
    (0x1fbfb, 0x1ffff), (0x2a6e0, 0x2a6ff), (0x2b81e, 0x2b81f), (0x2ceae, 0x2ceaf),
    (0x2ebe1, 0x2ebef), (0x2ee5e, 0x2f7ff), (0x2fa1e, 0x2ffff), (0x3134b, 0x3134f),
    (0x3347a, 0x3cfff), (0x3fc40, 0xe00ff), (0xe01f0, 0x10ffff)]

def ignoredRanges : List (Nat × Nat) :=
  [(0xad, 0xad), (0x34f, 0x34f), (0x115f, 0x1160), (0x17b4, 0x17b5), (0x180b, 0x180f),
    (0x200b, 0x200b), (0x2060, 0x2064), (0x206a, 0x206f), (0x3164, 0x3164), (0xfe00, 0xfe0f),
    (0xfeff, 0xfeff), (0xffa0, 0xffa0), (0x1bca0, 0x1bca3), (0x1d173, 0x1d17a), (0xe0100, 0xe01ef)]

/-- Characters that stand for others at one distance: from the first to the
last, in steps of the third number, and what the first one stands for. -/
def shiftedRanges : List (Nat × Nat × Nat × Nat) :=
  [(0xc0, 0xd6, 1, 0xe0), (0xd8, 0xde, 1, 0xf8), (0x100, 0x12e, 2, 0x101), (0x139, 0x13d, 2, 0x13a),
    (0x141, 0x147, 2, 0x142), (0x14a, 0x176, 2, 0x14b), (0x179, 0x17d, 2, 0x17a),
    (0x1a0, 0x1a4, 2, 0x1a1), (0x1cd, 0x1db, 2, 0x1ce), (0x1de, 0x1ee, 2, 0x1df),
    (0x1f8, 0x21e, 2, 0x1f9), (0x222, 0x232, 2, 0x223), (0x246, 0x24e, 2, 0x247),
    (0x391, 0x3ab, 1, 0x3b1), (0x3d8, 0x3ee, 2, 0x3d9), (0x400, 0x40f, 1, 0x450),
    (0x410, 0x42f, 1, 0x430), (0x460, 0x480, 2, 0x461), (0x48a, 0x4be, 2, 0x48b),
    (0x4c1, 0x4cd, 2, 0x4c2), (0x4d0, 0x52e, 2, 0x4d1), (0x531, 0x556, 1, 0x561),
    (0x10a0, 0x10c7, 1, 0x2d00), (0x13f8, 0x13fd, 1, 0x13f0), (0x1c90, 0x1cbf, 1, 0x10d0),
    (0x1d31, 0x1d39, 2, 0x65), (0x1d34, 0x1d3a, 2, 0x68), (0x1dae, 0x1db1, 1, 0x272),
    (0x1e00, 0x1e94, 2, 0x1e01), (0x1ea0, 0x1efe, 2, 0x1ea1), (0x1f08, 0x1f0f, 1, 0x1f00),
    (0x1f18, 0x1f1d, 1, 0x1f10), (0x1f28, 0x1f2f, 1, 0x1f20), (0x1f38, 0x1f3f, 1, 0x1f30),
    (0x1f48, 0x1f4d, 1, 0x1f40), (0x1f59, 0x1f5f, 1, 0x1f51), (0x1f68, 0x1f6f, 1, 0x1f60),
    (0x2070, 0x2078, 2, 0x30), (0x2075, 0x2079, 2, 0x35), (0x2080, 0x2089, 1, 0x30),
    (0x2096, 0x2099, 1, 0x6b), (0x2135, 0x2138, 1, 0x5d0), (0x2460, 0x2468, 1, 0x31),
    (0x24b6, 0x24cf, 1, 0x61), (0x24d0, 0x24e9, 1, 0x61), (0x2c00, 0x2c2f, 1, 0x2c30),
    (0x2c67, 0x2c6b, 2, 0x2c68), (0x2c80, 0x2ce2, 2, 0x2c81), (0x313a, 0x313f, 1, 0x11b0),
    (0x3145, 0x314e, 1, 0x1109), (0x314f, 0x3163, 1, 0x1161), (0x3178, 0x317c, 1, 0x112b),
    (0x3269, 0x326d, 1, 0x110e), (0x32e4, 0x32e9, 1, 0x30ca), (0x32ee, 0x32f2, 1, 0x30de),
    (0x32f5, 0x32fa, 1, 0x30e8), (0x32fb, 0x32fe, 1, 0x30ef), (0xa640, 0xa66c, 2, 0xa641),
    (0xa680, 0xa69a, 2, 0xa681), (0xa722, 0xa72e, 2, 0xa723), (0xa732, 0xa76e, 2, 0xa733),
    (0xa77e, 0xa786, 2, 0xa77f), (0xa796, 0xa7a8, 2, 0xa797), (0xa7b4, 0xa7c2, 2, 0xa7b5),
    (0xa7cc, 0xa7da, 2, 0xa7cd), (0xab70, 0xabbf, 1, 0x13a0), (0xfe41, 0xfe44, 1, 0x300c),
    (0xff01, 0xff1e, 1, 0x21), (0xff21, 0xff3a, 1, 0x61), (0xff3f, 0xff5e, 1, 0x5f),
    (0xff85, 0xff8a, 1, 0x30ca), (0xff8f, 0xff93, 1, 0x30de), (0xff96, 0xff9b, 1, 0x30e8),
    (0xffaa, 0xffaf, 1, 0x11b0), (0xffb5, 0xffbe, 1, 0x1109), (0xffc2, 0xffc7, 1, 0x1161),
    (0xffca, 0xffcf, 1, 0x1167), (0xffd2, 0xffd7, 1, 0x116d), (0xffe9, 0xffec, 1, 0x2190),
    (0x10400, 0x10427, 1, 0x10428), (0x104b0, 0x104d3, 1, 0x104d8), (0x10570, 0x10595, 1, 0x10597),
    (0x10c80, 0x10cb2, 1, 0x10cc0), (0x10d50, 0x10d65, 1, 0x10d70), (0x118a0, 0x118bf, 1, 0x118c0),
    (0x16e40, 0x16e5f, 1, 0x16e60), (0x16ea0, 0x16eb8, 1, 0x16ebb), (0x1ccd6, 0x1ccef, 1, 0x61),
    (0x1ccf0, 0x1ccf9, 1, 0x30), (0x1d400, 0x1d419, 1, 0x61), (0x1d41a, 0x1d433, 1, 0x61),
    (0x1d434, 0x1d44d, 1, 0x61), (0x1d44e, 0x1d467, 1, 0x61), (0x1d468, 0x1d481, 1, 0x61),
    (0x1d482, 0x1d49b, 1, 0x61), (0x1d49c, 0x1d4b5, 1, 0x61), (0x1d4b6, 0x1d4cf, 1, 0x61),
    (0x1d4d0, 0x1d4e9, 1, 0x61), (0x1d4ea, 0x1d503, 1, 0x61), (0x1d504, 0x1d51c, 1, 0x61),
    (0x1d51e, 0x1d537, 1, 0x61), (0x1d538, 0x1d550, 1, 0x61), (0x1d552, 0x1d56b, 1, 0x61),
    (0x1d56c, 0x1d585, 1, 0x61), (0x1d586, 0x1d59f, 1, 0x61), (0x1d5a0, 0x1d5b9, 1, 0x61),
    (0x1d5ba, 0x1d5d3, 1, 0x61), (0x1d5d4, 0x1d5ed, 1, 0x61), (0x1d5ee, 0x1d607, 1, 0x61),
    (0x1d608, 0x1d621, 1, 0x61), (0x1d622, 0x1d63b, 1, 0x61), (0x1d63c, 0x1d655, 1, 0x61),
    (0x1d656, 0x1d66f, 1, 0x61), (0x1d670, 0x1d689, 1, 0x61), (0x1d68a, 0x1d6a3, 1, 0x61),
    (0x1d6a8, 0x1d6b8, 1, 0x3b1), (0x1d6ba, 0x1d6c0, 1, 0x3c3), (0x1d6c2, 0x1d6d2, 1, 0x3b1),
    (0x1d6d4, 0x1d6da, 1, 0x3c3), (0x1d6e2, 0x1d6f2, 1, 0x3b1), (0x1d6f4, 0x1d6fa, 1, 0x3c3),
    (0x1d6fc, 0x1d70c, 1, 0x3b1), (0x1d70e, 0x1d714, 1, 0x3c3), (0x1d71c, 0x1d72c, 1, 0x3b1),
    (0x1d72e, 0x1d734, 1, 0x3c3), (0x1d736, 0x1d746, 1, 0x3b1), (0x1d748, 0x1d74e, 1, 0x3c3),
    (0x1d756, 0x1d766, 1, 0x3b1), (0x1d768, 0x1d76e, 1, 0x3c3), (0x1d770, 0x1d780, 1, 0x3b1),
    (0x1d782, 0x1d788, 1, 0x3c3), (0x1d790, 0x1d7a0, 1, 0x3b1), (0x1d7a2, 0x1d7a8, 1, 0x3c3),
    (0x1d7aa, 0x1d7ba, 1, 0x3b1), (0x1d7bc, 0x1d7c2, 1, 0x3c3), (0x1d7ce, 0x1d7d7, 1, 0x30),
    (0x1d7d8, 0x1d7e1, 1, 0x30), (0x1d7e2, 0x1d7eb, 1, 0x30), (0x1d7ec, 0x1d7f5, 1, 0x30),
    (0x1d7f6, 0x1d7ff, 1, 0x30), (0x1e030, 0x1e038, 1, 0x430), (0x1e03c, 0x1e046, 1, 0x43e),
    (0x1e051, 0x1e059, 1, 0x430), (0x1e05f, 0x1e064, 1, 0x443), (0x1e900, 0x1e921, 1, 0x1e922),
    (0x1ee0a, 0x1ee0d, 1, 0x643), (0x1ee2a, 0x1ee2d, 1, 0x643), (0x1f130, 0x1f149, 1, 0x61),
    (0x1fbf0, 0x1fbf9, 1, 0x30)]

/-- For characters in a row, what each of them stands for. -/
def spelledRanges : List (Nat × Nat × String) :=
  [(0xaa, 0xaa, "a"), (0xb2, 0xb3, "2 3"), (0xb5, 0xb5, "μ"), (0xb9, 0xba, "1 o"),
    (0xbc, 0xbe, "1⁄4 1⁄2 3⁄4"), (0x130, 0x130, "i\u0307"), (0x132, 0x134, "ij ij ĵ"),
    (0x136, 0x136, "ķ"), (0x13f, 0x140, "l· l·"), (0x149, 0x149, "\u02bcn"), (0x178, 0x178, "ÿ"),
    (0x17f, 0x17f, "s"), (0x181, 0x182, "ɓ ƃ"), (0x184, 0x184, "ƅ"), (0x186, 0x187, "ɔ ƈ"),
    (0x189, 0x18b, "ɖ ɗ ƌ"), (0x18e, 0x191, "ǝ ə ɛ ƒ"), (0x193, 0x194, "ɠ ɣ"),
    (0x196, 0x198, "ɩ ɨ ƙ"), (0x19c, 0x19d, "ɯ ɲ"), (0x19f, 0x19f, "ɵ"), (0x1a6, 0x1a7, "ʀ ƨ"),
    (0x1a9, 0x1a9, "ʃ"), (0x1ac, 0x1ac, "ƭ"), (0x1ae, 0x1af, "ʈ ư"), (0x1b1, 0x1b3, "ʊ ʋ ƴ"),
    (0x1b5, 0x1b5, "ƶ"), (0x1b7, 0x1b8, "ʒ ƹ"), (0x1bc, 0x1bc, "ƽ"),
    (0x1c4, 0x1cc, "dž dž dž lj lj lj nj nj nj"), (0x1f1, 0x1f4, "dz dz dz ǵ"),
    (0x1f6, 0x1f7, "ƕ ƿ"), (0x220, 0x220, "ƞ"), (0x23a, 0x23b, "ⱥ ȼ"), (0x23d, 0x23e, "ƚ ⱦ"),
    (0x241, 0x241, "ɂ"), (0x243, 0x245, "ƀ ʉ ʌ"), (0x2b0, 0x2b8, "h ɦ j r ɹ ɻ ʁ w y"),
    (0x2e0, 0x2e4, "ɣ l s x ʕ"), (0x345, 0x345, "ι"), (0x370, 0x370, "ͱ"), (0x372, 0x372, "ͳ"),
    (0x376, 0x376, "ͷ"), (0x37f, 0x37f, "ϳ"), (0x386, 0x386, "ά"), (0x388, 0x38a, "έ ή ί"),
    (0x38c, 0x38c, "ό"), (0x38e, 0x38f, "ύ ώ"), (0x3cf, 0x3d6, "ϗ β θ υ ύ ϋ φ π"),
    (0x3f0, 0x3f2, "κ ρ σ"), (0x3f4, 0x3f5, "θ ε"), (0x3f7, 0x3f7, "ϸ"), (0x3f9, 0x3fa, "σ ϻ"),
    (0x3fd, 0x3ff, "ͻ ͼ ͽ"), (0x4c0, 0x4c0, "ӏ"), (0x558, 0x558, "֋"), (0x587, 0x587, "եւ"),
    (0x675, 0x678, "\u0627\u0674 \u0648\u0674 \u06c7\u0674 \u064a\u0674"),
    (0xe33, 0xe33, "\u0e4dา"), (0xeb3, 0xeb3, "\u0ecdາ"), (0xedc, 0xedd, "ຫນ ຫມ"),
    (0xf0c, 0xf0c, "་"), (0xf77, 0xf77, "\u0fb2\u0f71\u0f80"), (0xf79, 0xf79, "\u0fb3\u0f71\u0f80"),
    (0x10cd, 0x10cd, "ⴭ"), (0x10fc, 0x10fc, "ნ"), (0x1c80, 0x1c89, "в д о с т т ъ ѣ ꙋ ᲊ"),
    (0x1d2c, 0x1d2e, "a æ b"), (0x1d30, 0x1d30, "d"), (0x1d32, 0x1d32, "ǝ"),
    (0x1d3c, 0x1d4d, "o ȣ p r t u w a ɐ ɑ ᴂ b d e ə ɛ ɜ g"),
    (0x1d4f, 0x1d6a, "k m ŋ o ɔ ᴖ ᴗ p t u ᴝ ɯ v ᴥ β γ δ φ χ i r u v β γ ρ φ χ"),
    (0x1d78, 0x1d78, "н"), (0x1d9b, 0x1dad, "ɒ c ɕ ð ɜ f ɟ ɡ ɥ ɨ ɩ ɪ ᵻ ʝ ɭ ᶅ ʟ ɱ ɰ"),
    (0x1db2, 0x1dbf, "ɸ ʂ ʃ ƫ ʉ ʊ ᴜ ʋ ʌ z ʐ ʑ ʒ θ"), (0x1e9a, 0x1e9b, "a\u02be ṡ"),
    (0x1e9e, 0x1e9e, "ß"),
    (0x1f80, 0x1f96, "ἀι ἁι ἂι ἃι ἄι ἅι ἆι ἇι ἀι ἁι ἂι ἃι ἄι ἅι ἆι ἇι ἠι ἡι ἢι ἣι ἤι ἥι ἦι"),
    (0x1f97, 0x1fad, "ἧι ἠι ἡι ἢι ἣι ἤι ἥι ἦι ἧι ὠι ὡι ὢι ὣι ὤι ὥι ὦι ὧι ὠι ὡι ὢι ὣι ὤι ὥι"),
    (0x1fae, 0x1faf, "ὦι ὧι"), (0x1fb2, 0x1fb4, "ὰι αι άι"), (0x1fb7, 0x1fbc, "ᾶι ᾰ ᾱ ὰ ά αι"),
    (0x1fc2, 0x1fc4, "ὴι ηι ήι"), (0x1fc7, 0x1fcc, "ῆι ὲ έ ὴ ή ηι"), (0x1fd8, 0x1fdb, "ῐ ῑ ὶ ί"),
    (0x1fe8, 0x1fec, "ῠ ῡ ὺ ύ ῥ"), (0x1ff2, 0x1ff4, "ὼι ωι ώι"), (0x1ff7, 0x1ffc, "ῶι ὸ ό ὼ ώ ωι"),
    (0x2011, 0x2011, "‐"), (0x2033, 0x2034, "′′ ′′′"), (0x2036, 0x2037, "‵‵ ‵‵‵"),
    (0x203c, 0x203c, "!!"), (0x2057, 0x2057, "′′′′"), (0x2071, 0x2071, "i"),
    (0x207a, 0x207f, "+ − = ( ) n"), (0x208a, 0x2095, "+ − = ( ) c a e o x ə h"),
    (0x209a, 0x209f, "p s t w y z"), (0x20a8, 0x20a8, "rs"), (0x2102, 0x2103, "c °c"),
    (0x2107, 0x2107, "ɛ"), (0x2109, 0x2113, "°f g h h h h ħ i i l l"), (0x2115, 0x2116, "n no"),
    (0x2119, 0x211d, "p q r r r"), (0x2120, 0x2122, "sm tel tm"), (0x2124, 0x2124, "z"),
    (0x2126, 0x2126, "ω"), (0x2128, 0x2128, "z"), (0x212a, 0x212d, "k å b c"),
    (0x212f, 0x2134, "e e f ⅎ m o"), (0x2139, 0x2139, "i"), (0x213b, 0x2140, "fax π γ γ π ∑"),
    (0x2145, 0x2149, "d d e i j"),
    (0x2150, 0x2161, "1⁄7 1⁄9 1⁄10 1⁄3 2⁄3 1⁄5 2⁄5 3⁄5 4⁄5 1⁄6 5⁄6 1⁄8 3⁄8 5⁄8 7⁄8 1⁄ i ii"),
    (0x2162, 0x2177, "iii iv v vi vii viii ix x xi xii l c d m i ii iii iv v vi vii viii"),
    (0x2178, 0x217f, "ix x xi xii l c d m"), (0x2183, 0x2183, "ↄ"), (0x2189, 0x2189, "0⁄3"),
    (0x222c, 0x222d, "∫∫ ∫∫∫"), (0x222f, 0x2230, "∮∮ ∮∮∮"),
    (0x2469, 0x247c, "10 11 12 13 14 15 16 17 18 19 20 (1) (2) (3) (4) (5) (6) (7) (8) (9)"),
    (0x247d, 0x2487, "(10) (11) (12) (13) (14) (15) (16) (17) (18) (19) (20)"),
    (0x249c, 0x24ac, "(a) (b) (c) (d) (e) (f) (g) (h) (i) (j) (k) (l) (m) (n) (o) (p) (q)"),
    (0x24ad, 0x24b5, "(r) (s) (t) (u) (v) (w) (x) (y) (z)"), (0x24ea, 0x24ea, "0"),
    (0x2a0c, 0x2a0c, "∫∫∫∫"), (0x2a75, 0x2a76, "== ==="), (0x2c60, 0x2c60, "ⱡ"),
    (0x2c62, 0x2c64, "ɫ ᵽ ɽ"), (0x2c6d, 0x2c70, "ɑ ɱ ɐ ɒ"), (0x2c72, 0x2c72, "ⱳ"),
    (0x2c75, 0x2c75, "ⱶ"), (0x2c7c, 0x2c7f, "j v ȿ ɀ"), (0x2ceb, 0x2ceb, "ⳬ"),
    (0x2ced, 0x2ced, "ⳮ"), (0x2cf2, 0x2cf2, "ⳳ"), (0x2d6f, 0x2d6f, "ⵡ"), (0x2e9f, 0x2e9f, "母"),
    (0x2ef3, 0x2ef3, "龟"),
    (0x2f00, 0x2f21, "一 丨 丶 丿 乙 亅 二 亠 人 儿 入 八 冂 冖 冫 几 凵 刀 力 勹 匕 匚 匸 十 卜 卩 厂 厶 又 口 囗 土 士 夂"),
    (0x2f22, 0x2f43, "夊 夕 大 女 子 宀 寸 小 尢 尸 屮 山 巛 工 己 巾 干 幺 广 廴 廾 弋 弓 彐 彡 彳 心 戈 戶 手 支 攴 文 斗"),
    (0x2f44, 0x2f65, "斤 方 无 日 曰 月 木 欠 止 歹 殳 毋 比 毛 氏 气 水 火 爪 父 爻 爿 片 牙 牛 犬 玄 玉 瓜 瓦 甘 生 用 田"),
    (0x2f66, 0x2f87, "疋 疒 癶 白 皮 皿 目 矛 矢 石 示 禸 禾 穴 立 竹 米 糸 缶 网 羊 羽 老 而 耒 耳 聿 肉 臣 自 至 臼 舌 舛"),
    (0x2f88, 0x2fa9, "舟 艮 色 艸 虍 虫 血 行 衣 襾 見 角 言 谷 豆 豕 豸 貝 赤 走 足 身 車 辛 辰 辵 邑 酉 釆 里 金 長 門 阜"),
    (0x2faa, 0x2fcb, "隶 隹 雨 靑 非 面 革 韋 韭 音 頁 風 飛 食 首 香 馬 骨 高 髟 鬥 鬯 鬲 鬼 魚 鳥 鹵 鹿 麥 麻 黃 黍 黑 黹"),
    (0x2fcc, 0x2fd5, "黽 鼎 鼓 鼠 鼻 齊 齒 龍 龜 龠"), (0x3002, 0x3002, "."), (0x3036, 0x3036, "〒"),
    (0x3038, 0x303a, "十 卄 卅"), (0x309f, 0x309f, "より"), (0x30ff, 0x30ff, "コト"),
    (0x3131, 0x3139, "ᄀ ᄁ ᆪ ᄂ ᆬ ᆭ ᄃ ᄄ ᄅ"), (0x3140, 0x3144, "ᄚ ᄆ ᄇ ᄈ ᄡ"),
    (0x3165, 0x3177, "ᄔ ᄕ ᇇ ᇈ ᇌ ᇎ ᇓ ᇗ ᇙ ᄜ ᇝ ᇟ ᄝ ᄞ ᄠ ᄢ ᄣ ᄧ ᄩ"),
    (0x317d, 0x318e, "ᄲ ᄶ ᅀ ᅇ ᅌ ᇱ ᇲ ᅗ ᅘ ᅙ ᆄ ᆅ ᆈ ᆑ ᆒ ᆔ ᆞ ᆡ"),
    (0x3192, 0x319f, "一 二 三 四 上 中 下 甲 乙 丙 丁 天 地 人"),
    (0x3200, 0x3210, "(ᄀ) (ᄂ) (ᄃ) (ᄅ) (ᄆ) (ᄇ) (ᄉ) (ᄋ) (ᄌ) (ᄎ) (ᄏ) (ᄐ) (ᄑ) (ᄒ) (가) (나) (다)"),
    (0x3211, 0x321e, "(라) (마) (바) (사) (아) (자) (차) (카) (타) (파) (하) (주) (오전) (오후)"),
    (0x3220, 0x3230, "(一) (二) (三) (四) (五) (六) (七) (八) (九) (十) (月) (火) (水) (木) (金) (土) (日)"),
    (0x3231, 0x3241, "(株) (有) (社) (名) (特) (財) (祝) (労) (代) (呼) (学) (監) (企) (資) (協) (祭) (休)"),
    (0x3242, 0x3247, "(自) (至) 問 幼 文 箏"),
    (0x3250, 0x3268, "pte 21 22 23 24 25 26 27 28 29 30 31 32 33 34 35 ᄀ ᄂ ᄃ ᄅ ᄆ ᄇ ᄉ ᄋ ᄌ"),
    (0x326e, 0x327e, "가 나 다 라 마 바 사 아 자 차 카 타 파 하 참고 주의 우"),
    (0x3280, 0x32a1, "一 二 三 四 五 六 七 八 九 十 月 火 水 木 金 土 日 株 有 社 名 特 財 祝 労 秘 男 女 適 優 印 注 項 休"),
    (0x32a2, 0x32bd, "写 正 上 中 下 左 右 医 宗 学 監 企 資 協 夜 36 37 38 39 40 41 42 43 44 45 46 47 48"),
    (0x32be, 0x32d4, "49 50 1月 2月 3月 4月 5月 6月 7月 8月 9月 10月 11月 12月 hg erg ev ltd ア イ ウ エ オ"),
    (0x32d5, 0x32e3, "カ キ ク ケ コ サ シ ス セ ソ タ チ ツ テ ト"), (0x32ea, 0x32ed, "ヒ フ ヘ ホ"),
    (0x32f3, 0x32f4, "ヤ ユ"),
    (0x32ff, 0x3307, "令和 アパ\u30fcト アルファ アンペア ア\u30fcル イニング インチ ウォン エスク\u30fcド"),
    (0x3308, 0x3311, "エ\u30fcカ\u30fc オンス オ\u30fcム カイリ カラット カロリ\u30fc ガロン ガンマ ギガ ギニ\u30fc"),
    (0x3312, 0x331a, "キュリ\u30fc ギルダ\u30fc キロ キログラム キロメ\u30fcトル キロワット グラム グラムトン クルゼイロ"),
    (0x331b, 0x3323, "クロ\u30fcネ ケ\u30fcス コルナ コ\u30fcポ サイクル サンチ\u30fcム シリング センチ セント"),
    (0x3324, 0x332f, "ダ\u30fcス デシ ドル トン ナノ ノット ハイツ パ\u30fcセント パ\u30fcツ バ\u30fcレル ピアストル ピクル"),
    (0x3330, 0x333b, "ピコ ビル ファラッド フィ\u30fcト ブッシェル フラン ヘクタ\u30fcル ペソ ペニヒ ヘルツ ペンス ペ\u30fcジ"),
    (0x333c, 0x3347, "ベ\u30fcタ ポイント ボルト ホン ポンド ホ\u30fcル ホ\u30fcン マイクロ マイル マッハ マルク マンション"),
    (0x3348, 0x3352, "ミクロン ミリ ミリバ\u30fcル メガ メガトン メ\u30fcトル ヤ\u30fcド ヤ\u30fcル ユアン リットル リラ"),
    (0x3353, 0x3362, "ルピ\u30fc ル\u30fcブル レム レントゲン ワット 0点 1点 2点 3点 4点 5点 6点 7点 8点 9点 10点"),
    (0x3363, 0x3373, "11点 12点 13点 14点 15点 16点 17点 18点 19点 20点 21点 22点 23点 24点 hpa da au"),
    (0x3374, 0x3388, "bar ov pc dm dm2 dm3 iu 平成 昭和 大正 明治 株式会社 pa na μa ma ka kb mb gb cal"),
    (0x3389, 0x339d, "kcal pf nf μf μg mg kg hz khz mhz ghz thz μl ml dl kl fm nm μm mm cm"),
    (0x339e, 0x33ae, "km mm2 cm2 m2 km2 mm3 cm3 m3 km3 m∕s m∕s2 pa kpa mpa gpa rad rad∕s"),
    (0x33af, 0x33c1, "rad∕s2 ps ns μs ms pv nv μv mv kv mv pw nw μw mw kw mw kω mω"),
    (0x33c3, 0x33c6, "bq cc cd c∕kg"),
    (0x33c8, 0x33d7, "db gy ha hp in kk km kt lm ln log lx mb mil mol ph"),
    (0x33d9, 0x33ec, "ppm pr sr sv wb v∕m a∕m 1日 2日 3日 4日 5日 6日 7日 8日 9日 10日 11日 12日 13日"),
    (0x33ed, 0x33fd, "14日 15日 16日 17日 18日 19日 20日 21日 22日 23日 24日 25日 26日 27日 28日 29日 30日"),
    (0x33fe, 0x33ff, "31日 gal"), (0xa69c, 0xa69d, "ъ ь"), (0xa770, 0xa770, "ꝯ"),
    (0xa779, 0xa779, "ꝺ"), (0xa77b, 0xa77b, "ꝼ"), (0xa77d, 0xa77d, "ᵹ"), (0xa78b, 0xa78b, "ꞌ"),
    (0xa78d, 0xa78d, "ɥ"), (0xa790, 0xa790, "ꞑ"), (0xa792, 0xa792, "ꞓ"),
    (0xa7aa, 0xa7ae, "ɦ ɜ ɡ ɬ ɪ"), (0xa7b0, 0xa7b3, "ʞ ʇ ʝ ꭓ"), (0xa7c4, 0xa7c7, "ꞔ ʂ ᶎ ꟈ"),
    (0xa7c9, 0xa7c9, "ꟊ"), (0xa7cb, 0xa7cb, "ɤ"), (0xa7dc, 0xa7dc, "ƛ"),
    (0xa7f1, 0xa7f5, "s c f q ꟶ"), (0xa7f8, 0xa7f9, "ħ œ"), (0xab5c, 0xab5f, "ꜧ ꬷ ɫ ꭒ"),
    (0xab69, 0xab69, "ʍ"), (0xfb00, 0xfb06, "ff fi fl ffi ffl st st"),
    (0xfb13, 0xfb17, "մն մե մի վն մխ"),
    (0xfb20, 0xfb29, "\u05e2 \u05d0 \u05d3 \u05d4 \u05db \u05dc \u05dd \u05e8 \u05ea +"),
    (0xfb4f, 0xfb57, "\u05d0\u05dc \u0671 \u0671 \u067b \u067b \u067b \u067b \u067e \u067e"),
    (0xfb58, 0xfb60, "\u067e \u067e \u0680 \u0680 \u0680 \u0680 \u067a \u067a \u067a"),
    (0xfb61, 0xfb69, "\u067a \u067f \u067f \u067f \u067f \u0679 \u0679 \u0679 \u0679"),
    (0xfb6a, 0xfb72, "\u06a4 \u06a4 \u06a4 \u06a4 \u06a6 \u06a6 \u06a6 \u06a6 \u0684"),
    (0xfb73, 0xfb7b, "\u0684 \u0684 \u0684 \u0683 \u0683 \u0683 \u0683 \u0686 \u0686"),
    (0xfb7c, 0xfb84, "\u0686 \u0686 \u0687 \u0687 \u0687 \u0687 \u068d \u068d \u068c"),
    (0xfb85, 0xfb8d, "\u068c \u068e \u068e \u0688 \u0688 \u0698 \u0698 \u0691 \u0691"),
    (0xfb8e, 0xfb96, "\u06a9 \u06a9 \u06a9 \u06a9 \u06af \u06af \u06af \u06af \u06b3"),
    (0xfb97, 0xfb9f, "\u06b3 \u06b3 \u06b3 \u06b1 \u06b1 \u06b1 \u06b1 \u06ba \u06ba"),
    (0xfba0, 0xfba8, "\u06bb \u06bb \u06bb \u06bb \u06c0 \u06c0 \u06c1 \u06c1 \u06c1"),
    (0xfba9, 0xfbb1, "\u06c1 \u06be \u06be \u06be \u06be \u06d2 \u06d2 \u06d3 \u06d3"),
    (0xfbd3, 0xfbdb, "\u06ad \u06ad \u06ad \u06ad \u06c7 \u06c7 \u06c6 \u06c6 \u06c8"),
    (0xfbdc, 0xfbe4, "\u06c8 \u06c7\u0674 \u06cb \u06cb \u06c5 \u06c5 \u06c9 \u06c9 \u06d0"),
    (0xfbe5, 0xfbeb, "\u06d0 \u06d0 \u06d0 \u0649 \u0649 \u0626\u0627 \u0626\u0627"),
    (0xfbec, 0xfbf0, "\u0626\u06d5 \u0626\u06d5 \u0626\u0648 \u0626\u0648 \u0626\u06c7"),
    (0xfbf1, 0xfbf5, "\u0626\u06c7 \u0626\u06c6 \u0626\u06c6 \u0626\u06c8 \u0626\u06c8"),
    (0xfbf6, 0xfbfa, "\u0626\u06d0 \u0626\u06d0 \u0626\u06d0 \u0626\u0649 \u0626\u0649"),
    (0xfbfb, 0xfc01, "\u0626\u0649 \u06cc \u06cc \u06cc \u06cc \u0626\u062c \u0626\u062d"),
    (0xfc02, 0xfc06, "\u0626\u0645 \u0626\u0649 \u0626\u064a \u0628\u062c \u0628\u062d"),
    (0xfc07, 0xfc0b, "\u0628\u062e \u0628\u0645 \u0628\u0649 \u0628\u064a \u062a\u062c"),
    (0xfc0c, 0xfc10, "\u062a\u062d \u062a\u062e \u062a\u0645 \u062a\u0649 \u062a\u064a"),
    (0xfc11, 0xfc15, "\u062b\u062c \u062b\u0645 \u062b\u0649 \u062b\u064a \u062c\u062d"),
    (0xfc16, 0xfc1a, "\u062c\u0645 \u062d\u062c \u062d\u0645 \u062e\u062c \u062e\u062d"),
    (0xfc1b, 0xfc1f, "\u062e\u0645 \u0633\u062c \u0633\u062d \u0633\u062e \u0633\u0645"),
    (0xfc20, 0xfc24, "\u0635\u062d \u0635\u0645 \u0636\u062c \u0636\u062d \u0636\u062e"),
    (0xfc25, 0xfc29, "\u0636\u0645 \u0637\u062d \u0637\u0645 \u0638\u0645 \u0639\u062c"),
    (0xfc2a, 0xfc2e, "\u0639\u0645 \u063a\u062c \u063a\u0645 \u0641\u062c \u0641\u062d"),
    (0xfc2f, 0xfc33, "\u0641\u062e \u0641\u0645 \u0641\u0649 \u0641\u064a \u0642\u062d"),
    (0xfc34, 0xfc38, "\u0642\u0645 \u0642\u0649 \u0642\u064a \u0643\u0627 \u0643\u062c"),
    (0xfc39, 0xfc3d, "\u0643\u062d \u0643\u062e \u0643\u0644 \u0643\u0645 \u0643\u0649"),
    (0xfc3e, 0xfc42, "\u0643\u064a \u0644\u062c \u0644\u062d \u0644\u062e \u0644\u0645"),
    (0xfc43, 0xfc47, "\u0644\u0649 \u0644\u064a \u0645\u062c \u0645\u062d \u0645\u062e"),
    (0xfc48, 0xfc4c, "\u0645\u0645 \u0645\u0649 \u0645\u064a \u0646\u062c \u0646\u062d"),
    (0xfc4d, 0xfc51, "\u0646\u062e \u0646\u0645 \u0646\u0649 \u0646\u064a \u0647\u062c"),
    (0xfc52, 0xfc56, "\u0647\u0645 \u0647\u0649 \u0647\u064a \u064a\u062c \u064a\u062d"),
    (0xfc57, 0xfc5b, "\u064a\u062e \u064a\u0645 \u064a\u0649 \u064a\u064a \u0630\u0670"),
    (0xfc5c, 0xfc5d, "\u0631\u0670 \u0649\u0670"),
    (0xfc64, 0xfc68, "\u0626\u0631 \u0626\u0632 \u0626\u0645 \u0626\u0646 \u0626\u0649"),
    (0xfc69, 0xfc6d, "\u0626\u064a \u0628\u0631 \u0628\u0632 \u0628\u0645 \u0628\u0646"),
    (0xfc6e, 0xfc72, "\u0628\u0649 \u0628\u064a \u062a\u0631 \u062a\u0632 \u062a\u0645"),
    (0xfc73, 0xfc77, "\u062a\u0646 \u062a\u0649 \u062a\u064a \u062b\u0631 \u062b\u0632"),
    (0xfc78, 0xfc7c, "\u062b\u0645 \u062b\u0646 \u062b\u0649 \u062b\u064a \u0641\u0649"),
    (0xfc7d, 0xfc81, "\u0641\u064a \u0642\u0649 \u0642\u064a \u0643\u0627 \u0643\u0644"),
    (0xfc82, 0xfc86, "\u0643\u0645 \u0643\u0649 \u0643\u064a \u0644\u0645 \u0644\u0649"),
    (0xfc87, 0xfc8b, "\u0644\u064a \u0645\u0627 \u0645\u0645 \u0646\u0631 \u0646\u0632"),
    (0xfc8c, 0xfc90, "\u0646\u0645 \u0646\u0646 \u0646\u0649 \u0646\u064a \u0649\u0670"),
    (0xfc91, 0xfc95, "\u064a\u0631 \u064a\u0632 \u064a\u0645 \u064a\u0646 \u064a\u0649"),
    (0xfc96, 0xfc9a, "\u064a\u064a \u0626\u062c \u0626\u062d \u0626\u062e \u0626\u0645"),
    (0xfc9b, 0xfc9f, "\u0626\u0647 \u0628\u062c \u0628\u062d \u0628\u062e \u0628\u0645"),
    (0xfca0, 0xfca4, "\u0628\u0647 \u062a\u062c \u062a\u062d \u062a\u062e \u062a\u0645"),
    (0xfca5, 0xfca9, "\u062a\u0647 \u062b\u0645 \u062c\u062d \u062c\u0645 \u062d\u062c"),
    (0xfcaa, 0xfcae, "\u062d\u0645 \u062e\u062c \u062e\u0645 \u0633\u062c \u0633\u062d"),
    (0xfcaf, 0xfcb3, "\u0633\u062e \u0633\u0645 \u0635\u062d \u0635\u062e \u0635\u0645"),
    (0xfcb4, 0xfcb8, "\u0636\u062c \u0636\u062d \u0636\u062e \u0636\u0645 \u0637\u062d"),
    (0xfcb9, 0xfcbd, "\u0638\u0645 \u0639\u062c \u0639\u0645 \u063a\u062c \u063a\u0645"),
    (0xfcbe, 0xfcc2, "\u0641\u062c \u0641\u062d \u0641\u062e \u0641\u0645 \u0642\u062d"),
    (0xfcc3, 0xfcc7, "\u0642\u0645 \u0643\u062c \u0643\u062d \u0643\u062e \u0643\u0644"),
    (0xfcc8, 0xfccc, "\u0643\u0645 \u0644\u062c \u0644\u062d \u0644\u062e \u0644\u0645"),
    (0xfccd, 0xfcd1, "\u0644\u0647 \u0645\u062c \u0645\u062d \u0645\u062e \u0645\u0645"),
    (0xfcd2, 0xfcd6, "\u0646\u062c \u0646\u062d \u0646\u062e \u0646\u0645 \u0646\u0647"),
    (0xfcd7, 0xfcdb, "\u0647\u062c \u0647\u0645 \u0647\u0670 \u064a\u062c \u064a\u062d"),
    (0xfcdc, 0xfce0, "\u064a\u062e \u064a\u0645 \u064a\u0647 \u0626\u0645 \u0626\u0647"),
    (0xfce1, 0xfce5, "\u0628\u0645 \u0628\u0647 \u062a\u0645 \u062a\u0647 \u062b\u0645"),
    (0xfce6, 0xfcea, "\u062b\u0647 \u0633\u0645 \u0633\u0647 \u0634\u0645 \u0634\u0647"),
    (0xfceb, 0xfcef, "\u0643\u0644 \u0643\u0645 \u0644\u0645 \u0646\u0645 \u0646\u0647"),
    (0xfcf0, 0xfcf3, "\u064a\u0645 \u064a\u0647 \u0640\u064e\u0651 \u0640\u064f\u0651"),
    (0xfcf4, 0xfcf7, "\u0640\u0650\u0651 \u0637\u0649 \u0637\u064a \u0639\u0649"),
    (0xfcf8, 0xfcfc, "\u0639\u064a \u063a\u0649 \u063a\u064a \u0633\u0649 \u0633\u064a"),
    (0xfcfd, 0xfd01, "\u0634\u0649 \u0634\u064a \u062d\u0649 \u062d\u064a \u062c\u0649"),
    (0xfd02, 0xfd06, "\u062c\u064a \u062e\u0649 \u062e\u064a \u0635\u0649 \u0635\u064a"),
    (0xfd07, 0xfd0b, "\u0636\u0649 \u0636\u064a \u0634\u062c \u0634\u062d \u0634\u062e"),
    (0xfd0c, 0xfd10, "\u0634\u0645 \u0634\u0631 \u0633\u0631 \u0635\u0631 \u0636\u0631"),
    (0xfd11, 0xfd15, "\u0637\u0649 \u0637\u064a \u0639\u0649 \u0639\u064a \u063a\u0649"),
    (0xfd16, 0xfd1a, "\u063a\u064a \u0633\u0649 \u0633\u064a \u0634\u0649 \u0634\u064a"),
    (0xfd1b, 0xfd1f, "\u062d\u0649 \u062d\u064a \u062c\u0649 \u062c\u064a \u062e\u0649"),
    (0xfd20, 0xfd24, "\u062e\u064a \u0635\u0649 \u0635\u064a \u0636\u0649 \u0636\u064a"),
    (0xfd25, 0xfd29, "\u0634\u062c \u0634\u062d \u0634\u062e \u0634\u0645 \u0634\u0631"),
    (0xfd2a, 0xfd2e, "\u0633\u0631 \u0635\u0631 \u0636\u0631 \u0634\u062c \u0634\u062d"),
    (0xfd2f, 0xfd33, "\u0634\u062e \u0634\u0645 \u0633\u0647 \u0634\u0647 \u0637\u0645"),
    (0xfd34, 0xfd38, "\u0633\u062c \u0633\u062d \u0633\u062e \u0634\u062c \u0634\u062d"),
    (0xfd39, 0xfd3d, "\u0634\u062e \u0637\u0645 \u0638\u0645 \u0627\u064b \u0627\u064b"),
    (0xfd50, 0xfd52, "\u062a\u062c\u0645 \u062a\u062d\u062c \u062a\u062d\u062c"),
    (0xfd53, 0xfd55, "\u062a\u062d\u0645 \u062a\u062e\u0645 \u062a\u0645\u062c"),
    (0xfd56, 0xfd58, "\u062a\u0645\u062d \u062a\u0645\u062e \u062c\u0645\u062d"),
    (0xfd59, 0xfd5b, "\u062c\u0645\u062d \u062d\u0645\u064a \u062d\u0645\u0649"),
    (0xfd5c, 0xfd5e, "\u0633\u062d\u062c \u0633\u062c\u062d \u0633\u062c\u0649"),
    (0xfd5f, 0xfd61, "\u0633\u0645\u062d \u0633\u0645\u062d \u0633\u0645\u062c"),
    (0xfd62, 0xfd64, "\u0633\u0645\u0645 \u0633\u0645\u0645 \u0635\u062d\u062d"),
    (0xfd65, 0xfd67, "\u0635\u062d\u062d \u0635\u0645\u0645 \u0634\u062d\u0645"),
    (0xfd68, 0xfd6a, "\u0634\u062d\u0645 \u0634\u062c\u064a \u0634\u0645\u062e"),
    (0xfd6b, 0xfd6d, "\u0634\u0645\u062e \u0634\u0645\u0645 \u0634\u0645\u0645"),
    (0xfd6e, 0xfd70, "\u0636\u062d\u0649 \u0636\u062e\u0645 \u0636\u062e\u0645"),
    (0xfd71, 0xfd73, "\u0637\u0645\u062d \u0637\u0645\u062d \u0637\u0645\u0645"),
    (0xfd74, 0xfd76, "\u0637\u0645\u064a \u0639\u062c\u0645 \u0639\u0645\u0645"),
    (0xfd77, 0xfd79, "\u0639\u0645\u0645 \u0639\u0645\u0649 \u063a\u0645\u0645"),
    (0xfd7a, 0xfd7c, "\u063a\u0645\u064a \u063a\u0645\u0649 \u0641\u062e\u0645"),
    (0xfd7d, 0xfd7f, "\u0641\u062e\u0645 \u0642\u0645\u062d \u0642\u0645\u0645"),
    (0xfd80, 0xfd82, "\u0644\u062d\u0645 \u0644\u062d\u064a \u0644\u062d\u0649"),
    (0xfd83, 0xfd85, "\u0644\u062c\u062c \u0644\u062c\u062c \u0644\u062e\u0645"),
    (0xfd86, 0xfd88, "\u0644\u062e\u0645 \u0644\u0645\u062d \u0644\u0645\u062d"),
    (0xfd89, 0xfd8b, "\u0645\u062d\u062c \u0645\u062d\u0645 \u0645\u062d\u064a"),
    (0xfd8c, 0xfd8e, "\u0645\u062c\u062d \u0645\u062c\u0645 \u0645\u062e\u062c"),
    (0xfd8f, 0xfd8f, "\u0645\u062e\u0645"),
    (0xfd92, 0xfd94, "\u0645\u062c\u062e \u0647\u0645\u062c \u0647\u0645\u0645"),
    (0xfd95, 0xfd97, "\u0646\u062d\u0645 \u0646\u062d\u0649 \u0646\u062c\u0645"),
    (0xfd98, 0xfd9a, "\u0646\u062c\u0645 \u0646\u062c\u0649 \u0646\u0645\u064a"),
    (0xfd9b, 0xfd9d, "\u0646\u0645\u0649 \u064a\u0645\u0645 \u064a\u0645\u0645"),
    (0xfd9e, 0xfda0, "\u0628\u062e\u064a \u062a\u062c\u064a \u062a\u062c\u0649"),
    (0xfda1, 0xfda3, "\u062a\u062e\u064a \u062a\u062e\u0649 \u062a\u0645\u064a"),
    (0xfda4, 0xfda6, "\u062a\u0645\u0649 \u062c\u0645\u064a \u062c\u062d\u0649"),
    (0xfda7, 0xfda9, "\u062c\u0645\u0649 \u0633\u062e\u0649 \u0635\u062d\u064a"),
    (0xfdaa, 0xfdac, "\u0634\u062d\u064a \u0636\u062d\u064a \u0644\u062c\u064a"),
    (0xfdad, 0xfdaf, "\u0644\u0645\u064a \u064a\u062d\u064a \u064a\u062c\u064a"),
    (0xfdb0, 0xfdb2, "\u064a\u0645\u064a \u0645\u0645\u064a \u0642\u0645\u064a"),
    (0xfdb3, 0xfdb5, "\u0646\u062d\u064a \u0642\u0645\u062d \u0644\u062d\u0645"),
    (0xfdb6, 0xfdb8, "\u0639\u0645\u064a \u0643\u0645\u064a \u0646\u062c\u062d"),
    (0xfdb9, 0xfdbb, "\u0645\u062e\u064a \u0644\u062c\u0645 \u0643\u0645\u0645"),
    (0xfdbc, 0xfdbe, "\u0644\u062c\u0645 \u0646\u062c\u062d \u062c\u062d\u064a"),
    (0xfdbf, 0xfdc1, "\u062d\u062c\u064a \u0645\u062c\u064a \u0641\u0645\u064a"),
    (0xfdc2, 0xfdc4, "\u0628\u062d\u064a \u0643\u0645\u0645 \u0639\u062c\u0645"),
    (0xfdc5, 0xfdc7, "\u0635\u0645\u0645 \u0633\u062e\u064a \u0646\u062c\u064a"),
    (0xfdf0, 0xfdf2, "\u0635\u0644\u06d2 \u0642\u0644\u06d2 \u0627\u0644\u0644\u0647"),
    (0xfdf3, 0xfdf4, "\u0627\u0643\u0628\u0631 \u0645\u062d\u0645\u062f"),
    (0xfdf5, 0xfdf6, "\u0635\u0644\u0639\u0645 \u0631\u0633\u0648\u0644"),
    (0xfdf7, 0xfdf9, "\u0639\u0644\u064a\u0647 \u0648\u0633\u0644\u0645 \u0635\u0644\u0649"),
    (0xfdfc, 0xfdfc, "\u0631\u06cc\u0627\u0644"), (0xfe10, 0xfe11, ", 、"), (0xfe14, 0xfe15, "; !"),
    (0xfe17, 0xfe18, "〖 〗"), (0xfe31, 0xfe40, "— – _ _ ( ) \x7b \x7d 〔 〕 【 】 《 》 〈 〉"),
    (0xfe4d, 0xfe51, "_ _ _ , 、"), (0xfe54, 0xfe54, ";"), (0xfe57, 0xfe5e, "! — ( ) \x7b \x7d 〔 〕"),
    (0xfe60, 0xfe66, "& * + - < > ="), (0xfe69, 0xfe69, "$"), (0xfe71, 0xfe71, "\u0640\u064b"),
    (0xfe77, 0xfe77, "\u0640\u064e"), (0xfe79, 0xfe79, "\u0640\u064f"),
    (0xfe7b, 0xfe7b, "\u0640\u0650"), (0xfe7d, 0xfe7d, "\u0640\u0651"),
    (0xfe7f, 0xfe87, "\u0640\u0652 \u0621 \u0622 \u0622 \u0623 \u0623 \u0624 \u0624 \u0625"),
    (0xfe88, 0xfe90, "\u0625 \u0626 \u0626 \u0626 \u0626 \u0627 \u0627 \u0628 \u0628"),
    (0xfe91, 0xfe99, "\u0628 \u0628 \u0629 \u0629 \u062a \u062a \u062a \u062a \u062b"),
    (0xfe9a, 0xfea2, "\u062b \u062b \u062b \u062c \u062c \u062c \u062c \u062d \u062d"),
    (0xfea3, 0xfeab, "\u062d \u062d \u062e \u062e \u062e \u062e \u062f \u062f \u0630"),
    (0xfeac, 0xfeb4, "\u0630 \u0631 \u0631 \u0632 \u0632 \u0633 \u0633 \u0633 \u0633"),
    (0xfeb5, 0xfebd, "\u0634 \u0634 \u0634 \u0634 \u0635 \u0635 \u0635 \u0635 \u0636"),
    (0xfebe, 0xfec6, "\u0636 \u0636 \u0636 \u0637 \u0637 \u0637 \u0637 \u0638 \u0638"),
    (0xfec7, 0xfecf, "\u0638 \u0638 \u0639 \u0639 \u0639 \u0639 \u063a \u063a \u063a"),
    (0xfed0, 0xfed8, "\u063a \u0641 \u0641 \u0641 \u0641 \u0642 \u0642 \u0642 \u0642"),
    (0xfed9, 0xfee1, "\u0643 \u0643 \u0643 \u0643 \u0644 \u0644 \u0644 \u0644 \u0645"),
    (0xfee2, 0xfeea, "\u0645 \u0645 \u0645 \u0646 \u0646 \u0646 \u0646 \u0647 \u0647"),
    (0xfeeb, 0xfef3, "\u0647 \u0647 \u0648 \u0648 \u0649 \u0649 \u064a \u064a \u064a"),
    (0xfef4, 0xfef8, "\u064a \u0644\u0622 \u0644\u0622 \u0644\u0623 \u0644\u0623"),
    (0xfef9, 0xfefc, "\u0644\u0625 \u0644\u0625 \u0644\u0627 \u0644\u0627"),
    (0xff5f, 0xff7e, "⦅ ⦆ . 「 」 、 ・ ヲ ァ ィ ゥ ェ ォ ャ ュ ョ ッ \u30fc ア イ ウ エ オ カ キ ク ケ コ サ シ ス セ"),
    (0xff7f, 0xff84, "ソ タ チ ツ テ ト"), (0xff8b, 0xff8e, "ヒ フ ヘ ホ"), (0xff94, 0xff95, "ヤ ユ"),
    (0xff9c, 0xff9f, "ワ ン \u3099 \u309a"), (0xffa1, 0xffa9, "ᄀ ᄁ ᆪ ᄂ ᆬ ᆭ ᄃ ᄄ ᄅ"),
    (0xffb0, 0xffb4, "ᄚ ᄆ ᄇ ᄈ ᄡ"), (0xffda, 0xffdc, "ᅳ ᅴ ᅵ"), (0xffe0, 0xffe2, "¢ £ ¬"),
    (0xffe4, 0xffe6, "¦ ¥ ₩"), (0xffe8, 0xffe8, "│"), (0xffed, 0xffee, "■ ○"),
    (0x10781, 0x10785, "\u02d0 \u02d1 æ ʙ ɓ"),
    (0x10787, 0x107a8, "ʣ ꭦ ʥ ʤ ɖ ɗ ᶑ ɘ ɞ ʩ ɤ ɢ ɠ ʛ ħ ʜ ɧ ʄ ʪ ʫ ɬ 𝼄 ꞎ ɮ 𝼅 ʎ 𝼆 ø ɶ ɷ q ɺ 𝼈 ɽ"),
    (0x107a9, 0x107b0, "ɾ ʀ ʨ ʦ ꭧ ʧ ʈ ⱱ"), (0x107b2, 0x107ba, "ʏ ʡ ʢ ʘ ǀ ǁ ǂ 𝼊 𝼞"),
    (0x1d6a4, 0x1d6a5, "ı ȷ"), (0x1d6b9, 0x1d6b9, "θ"), (0x1d6c1, 0x1d6c1, "∇"),
    (0x1d6d3, 0x1d6d3, "σ"), (0x1d6db, 0x1d6e1, "∂ ε θ κ φ ρ π"), (0x1d6f3, 0x1d6f3, "θ"),
    (0x1d6fb, 0x1d6fb, "∇"), (0x1d70d, 0x1d70d, "σ"), (0x1d715, 0x1d71b, "∂ ε θ κ φ ρ π"),
    (0x1d72d, 0x1d72d, "θ"), (0x1d735, 0x1d735, "∇"), (0x1d747, 0x1d747, "σ"),
    (0x1d74f, 0x1d755, "∂ ε θ κ φ ρ π"), (0x1d767, 0x1d767, "θ"), (0x1d76f, 0x1d76f, "∇"),
    (0x1d781, 0x1d781, "σ"), (0x1d789, 0x1d78f, "∂ ε θ κ φ ρ π"), (0x1d7a1, 0x1d7a1, "θ"),
    (0x1d7a9, 0x1d7a9, "∇"), (0x1d7bb, 0x1d7bb, "σ"), (0x1d7c3, 0x1d7cb, "∂ ε θ κ φ ρ π ϝ ϝ"),
    (0x1e039, 0x1e03b, "к л м"), (0x1e047, 0x1e050, "ы э ю ꚉ ә і ј ө ү ӏ"),
    (0x1e05a, 0x1e05e, "к л о п с"), (0x1e065, 0x1e06d, "ъ ы ґ і ѕ џ ҫ ꙑ ұ"),
    (0x1ee00, 0x1ee03, "\u0627 \u0628 \u062c \u062f"),
    (0x1ee05, 0x1ee09, "\u0648 \u0632 \u062d \u0637 \u064a"),
    (0x1ee0e, 0x1ee16, "\u0633 \u0639 \u0641 \u0635 \u0642 \u0631 \u0634 \u062a \u062b"),
    (0x1ee17, 0x1ee1f, "\u062e \u0630 \u0636 \u0638 \u063a \u066e \u06ba \u06a1 \u066f"),
    (0x1ee21, 0x1ee22, "\u0628 \u062c"), (0x1ee24, 0x1ee24, "\u0647"), (0x1ee27, 0x1ee27, "\u062d"),
    (0x1ee29, 0x1ee29, "\u064a"), (0x1ee2e, 0x1ee32, "\u0633 \u0639 \u0641 \u0635 \u0642"),
    (0x1ee34, 0x1ee37, "\u0634 \u062a \u062b \u062e"), (0x1ee39, 0x1ee39, "\u0636"),
    (0x1ee3b, 0x1ee3b, "\u063a"), (0x1ee42, 0x1ee42, "\u062c"), (0x1ee47, 0x1ee47, "\u062d"),
    (0x1ee49, 0x1ee49, "\u064a"), (0x1ee4b, 0x1ee4b, "\u0644"),
    (0x1ee4d, 0x1ee4f, "\u0646 \u0633 \u0639"), (0x1ee51, 0x1ee52, "\u0635 \u0642"),
    (0x1ee54, 0x1ee54, "\u0634"), (0x1ee57, 0x1ee57, "\u062e"), (0x1ee59, 0x1ee59, "\u0636"),
    (0x1ee5b, 0x1ee5b, "\u063a"), (0x1ee5d, 0x1ee5d, "\u06ba"), (0x1ee5f, 0x1ee5f, "\u066f"),
    (0x1ee61, 0x1ee62, "\u0628 \u062c"), (0x1ee64, 0x1ee64, "\u0647"),
    (0x1ee67, 0x1ee6a, "\u062d \u0637 \u064a \u0643"),
    (0x1ee6c, 0x1ee72, "\u0645 \u0646 \u0633 \u0639 \u0641 \u0635 \u0642"),
    (0x1ee74, 0x1ee77, "\u0634 \u062a \u062b \u062e"),
    (0x1ee79, 0x1ee7c, "\u0636 \u0638 \u063a \u066e"), (0x1ee7e, 0x1ee7e, "\u06a1"),
    (0x1ee80, 0x1ee88, "\u0627 \u0628 \u062c \u062f \u0647 \u0648 \u0632 \u062d \u0637"),
    (0x1ee89, 0x1ee89, "\u064a"),
    (0x1ee8b, 0x1ee93, "\u0644 \u0645 \u0646 \u0633 \u0639 \u0641 \u0635 \u0642 \u0631"),
    (0x1ee94, 0x1ee9b, "\u0634 \u062a \u062b \u062e \u0630 \u0636 \u0638 \u063a"),
    (0x1eea1, 0x1eea3, "\u0628 \u062c \u062f"),
    (0x1eea5, 0x1eea9, "\u0648 \u0632 \u062d \u0637 \u064a"),
    (0x1eeab, 0x1eeb3, "\u0644 \u0645 \u0646 \u0633 \u0639 \u0641 \u0635 \u0642 \u0631"),
    (0x1eeb4, 0x1eebb, "\u0634 \u062a \u062b \u062e \u0630 \u0636 \u0638 \u063a"),
    (0x1f101, 0x1f10a, "0, 1, 2, 3, 4, 5, 6, 7, 8, 9,"),
    (0x1f110, 0x1f120, "(a) (b) (c) (d) (e) (f) (g) (h) (i) (j) (k) (l) (m) (n) (o) (p) (q)"),
    (0x1f121, 0x1f12e, "(r) (s) (t) (u) (v) (w) (x) (y) (z) 〔s〕 c r cd wz"),
    (0x1f14a, 0x1f14f, "hv mv sd ss ppv wc"), (0x1f16a, 0x1f16c, "mc md mr"),
    (0x1f190, 0x1f190, "dj"), (0x1f200, 0x1f202, "ほか ココ サ"),
    (0x1f210, 0x1f231, "手 字 双 デ 二 多 解 天 交 映 無 料 前 後 再 新 初 終 生 販 声 吹 演 投 捕 一 三 遊 左 中 右 指 走 打"),
    (0x1f232, 0x1f23b, "禁 空 合 満 有 月 申 割 営 配"),
    (0x1f240, 0x1f248, "〔本〕 〔三〕 〔二〕 〔安〕 〔点〕 〔打〕 〔盗〕 〔勝〕 〔敗〕"), (0x1f250, 0x1f251, "得 可")]

def markRanges : List (Nat × Nat) :=
  [(0x300, 0x36f), (0x483, 0x489), (0x591, 0x5bd), (0x5bf, 0x5bf), (0x5c1, 0x5c2), (0x5c4, 0x5c5),
    (0x5c7, 0x5c9), (0x610, 0x61a), (0x64b, 0x65f), (0x670, 0x670), (0x6d6, 0x6dc), (0x6df, 0x6e4),
    (0x6e7, 0x6e8), (0x6ea, 0x6ed), (0x711, 0x711), (0x730, 0x74a), (0x7a6, 0x7b0), (0x7eb, 0x7f3),
    (0x7fd, 0x7fd), (0x816, 0x819), (0x81b, 0x823), (0x825, 0x827), (0x829, 0x82d), (0x859, 0x85b),
    (0x897, 0x89f), (0x8ca, 0x903), (0x93a, 0x93c), (0x93e, 0x94f), (0x951, 0x957), (0x962, 0x963),
    (0x981, 0x983), (0x9bc, 0x9bc), (0x9be, 0x9cd), (0x9d7, 0x9d7), (0x9e2, 0x9e3), (0x9fe, 0xa03),
    (0xa3c, 0xa51), (0xa70, 0xa71), (0xa75, 0xa75), (0xa81, 0xa83), (0xabc, 0xabc), (0xabe, 0xacd),
    (0xae2, 0xae3), (0xafa, 0xb03), (0xb3c, 0xb3c), (0xb3e, 0xb57), (0xb62, 0xb63), (0xb82, 0xb82),
    (0xbbe, 0xbcd), (0xbd7, 0xbd7), (0xc00, 0xc04), (0xc3c, 0xc3c), (0xc3e, 0xc56), (0xc62, 0xc63),
    (0xc81, 0xc83), (0xcbc, 0xcbc), (0xcbe, 0xcd6), (0xce2, 0xce3), (0xcf3, 0xd03), (0xd3b, 0xd3c),
    (0xd3e, 0xd4d), (0xd57, 0xd57), (0xd62, 0xd63), (0xd81, 0xd83), (0xdca, 0xddf), (0xdf2, 0xdf3),
    (0xe31, 0xe31), (0xe34, 0xe3a), (0xe47, 0xe4e), (0xeb1, 0xeb1), (0xeb4, 0xebc), (0xec8, 0xece),
    (0xf18, 0xf19), (0xf35, 0xf35), (0xf37, 0xf37), (0xf39, 0xf39), (0xf3e, 0xf3f), (0xf71, 0xf84),
    (0xf86, 0xf87), (0xf8d, 0xfbc), (0xfc6, 0xfc6), (0x102b, 0x103e), (0x1056, 0x1059),
    (0x105e, 0x1060), (0x1062, 0x1064), (0x1067, 0x106d), (0x1071, 0x1074), (0x1082, 0x108d),
    (0x108f, 0x108f), (0x109a, 0x109d), (0x135d, 0x135f), (0x1712, 0x1715), (0x1732, 0x1734),
    (0x1752, 0x1753), (0x1772, 0x1773), (0x17b6, 0x17d3), (0x17dd, 0x17dd), (0x1885, 0x1886),
    (0x18a9, 0x18a9), (0x1920, 0x193b), (0x1a17, 0x1a1b), (0x1a55, 0x1a7f), (0x1ab0, 0x1b04),
    (0x1b34, 0x1b44), (0x1b6b, 0x1b73), (0x1b80, 0x1b82), (0x1ba1, 0x1bad), (0x1be6, 0x1bf3),
    (0x1c24, 0x1c37), (0x1cd0, 0x1cd2), (0x1cd4, 0x1ce8), (0x1ced, 0x1ced), (0x1cf4, 0x1cf4),
    (0x1cf7, 0x1cf9), (0x1dc0, 0x1dff), (0x20d0, 0x20f0), (0x2cef, 0x2cf1), (0x2d7f, 0x2d7f),
    (0x2de0, 0x2dff), (0x302a, 0x302f), (0x3099, 0x309a), (0xa66f, 0xa672), (0xa674, 0xa67d),
    (0xa69e, 0xa69f), (0xa6f0, 0xa6f1), (0xa802, 0xa802), (0xa806, 0xa806), (0xa80b, 0xa80b),
    (0xa823, 0xa827), (0xa82c, 0xa82c), (0xa880, 0xa881), (0xa8b4, 0xa8c5), (0xa8e0, 0xa8f1),
    (0xa8ff, 0xa8ff), (0xa926, 0xa92d), (0xa947, 0xa953), (0xa980, 0xa983), (0xa9b3, 0xa9c0),
    (0xa9e5, 0xa9e5), (0xaa29, 0xaa36), (0xaa43, 0xaa43), (0xaa4c, 0xaa4d), (0xaa7b, 0xaa7d),
    (0xaab0, 0xaab0), (0xaab2, 0xaab4), (0xaab7, 0xaab8), (0xaabe, 0xaabf), (0xaac1, 0xaac1),
    (0xaaeb, 0xaaef), (0xaaf5, 0xaaf6), (0xabe3, 0xabea), (0xabec, 0xabed), (0xfb1e, 0xfb1e),
    (0xfe20, 0xfe2f), (0x101fd, 0x101fd), (0x102e0, 0x102e0), (0x10376, 0x1037a),
    (0x10a01, 0x10a0f), (0x10a38, 0x10a3f), (0x10ae5, 0x10ae6), (0x10d24, 0x10d27),
    (0x10d69, 0x10d6d), (0x10eab, 0x10eac), (0x10efa, 0x10eff), (0x10f46, 0x10f50),
    (0x10f82, 0x10f85), (0x11000, 0x11002), (0x11038, 0x11046), (0x11070, 0x11070),
    (0x11073, 0x11074), (0x1107f, 0x11082), (0x110b0, 0x110ba), (0x110c2, 0x110c2),
    (0x11100, 0x11102), (0x11127, 0x11134), (0x11145, 0x11146), (0x11173, 0x11173),
    (0x11180, 0x11182), (0x111b3, 0x111c0), (0x111c9, 0x111cc), (0x111ce, 0x111cf),
    (0x1122c, 0x11237), (0x1123e, 0x1123e), (0x11241, 0x11241), (0x112df, 0x112ea),
    (0x11300, 0x11303), (0x1133b, 0x1133c), (0x1133e, 0x1134d), (0x11357, 0x11357),
    (0x11362, 0x11374), (0x113b8, 0x113d0), (0x113d2, 0x113d2), (0x113e1, 0x113e2),
    (0x11435, 0x11446), (0x1145e, 0x1145e), (0x114b0, 0x114c3), (0x115af, 0x115c0),
    (0x115dc, 0x115dd), (0x11630, 0x11640), (0x116ab, 0x116b7), (0x1171d, 0x1172b),
    (0x1182c, 0x1183a), (0x11930, 0x1193e), (0x11940, 0x11940), (0x11942, 0x11943),
    (0x119d1, 0x119e0), (0x119e4, 0x119e4), (0x11a01, 0x11a0a), (0x11a33, 0x11a39),
    (0x11a3b, 0x11a3e), (0x11a47, 0x11a47), (0x11a51, 0x11a5b), (0x11a8a, 0x11a99),
    (0x11b60, 0x11b67), (0x11c2f, 0x11c3f), (0x11c92, 0x11cb6), (0x11d31, 0x11d45),
    (0x11d47, 0x11d47), (0x11d8a, 0x11d97), (0x11ef3, 0x11ef6), (0x11f00, 0x11f01),
    (0x11f03, 0x11f03), (0x11f34, 0x11f42), (0x11f5a, 0x11f5a), (0x13440, 0x13440),
    (0x13447, 0x13455), (0x1611e, 0x1612f), (0x16af0, 0x16af4), (0x16b30, 0x16b36),
    (0x16f4f, 0x16f4f), (0x16f51, 0x16f92), (0x16fe4, 0x16ff1), (0x1bc9d, 0x1bc9e),
    (0x1cf00, 0x1cf46), (0x1d165, 0x1d169), (0x1d16d, 0x1d182), (0x1d185, 0x1d18b),
    (0x1d1aa, 0x1d1ad), (0x1d242, 0x1d244), (0x1da00, 0x1da36), (0x1da3b, 0x1da6c),
    (0x1da75, 0x1da75), (0x1da84, 0x1da84), (0x1da9b, 0x1daaf), (0x1e000, 0x1e08f),
    (0x1e130, 0x1e136), (0x1e2ae, 0x1e2ae), (0x1e2ec, 0x1e2ef), (0x1e4ec, 0x1e4ef),
    (0x1e5ee, 0x1e5ef), (0x1e6e3, 0x1e6e3), (0x1e6e6, 0x1e6e6), (0x1e6ee, 0x1e6ef),
    (0x1e6f5, 0x1e6f5), (0x1e8d0, 0x1e8d6), (0x1e944, 0x1e94a)]

example : (refusedRanges.zip refusedRanges.tail).all fun (a, b) => a.2 < b.1 := by decide +kernel

end SymbolOutline.Url
