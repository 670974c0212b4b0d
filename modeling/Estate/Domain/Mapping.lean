import Estate.Text.Table

/-!
What becomes of each character of a domain name before it is looked up: kept, left out, refused, or
replaced by others. Capital letters are replaced by small ones.
-/

namespace Estate.Domain

inductive Fate where
  | kept
  | dropped
  | refused
  | replaced (codes : List Nat)
deriving DecidableEq

set_option maxRecDepth 20000 in
def fatesFrom0 : Text.Runs Fate :=
  List.flatten [
    [(0x80, .refused), (0xa0, .replaced [0x20]), (0xa1, .kept), (0xa8, .replaced [0x20, 0x308]),
     (0xa9, .kept), (0xaa, .replaced [0x61]), (0xab, .kept), (0xad, .dropped), (0xae, .kept),
     (0xaf, .replaced [0x20, 0x304]), (0xb0, .kept), (0xb2, .replaced [0x32]),
     (0xb3, .replaced [0x33]), (0xb4, .replaced [0x20, 0x301]), (0xb5, .replaced [0x3bc]),
     (0xb6, .kept), (0xb8, .replaced [0x20, 0x327]), (0xb9, .replaced [0x31]),
     (0xba, .replaced [0x6f]), (0xbb, .kept), (0xbc, .replaced [0x31, 0x2044, 0x34]),
     (0xbd, .replaced [0x31, 0x2044, 0x32]), (0xbe, .replaced [0x33, 0x2044, 0x34]), (0xbf, .kept),
     (0xc0, .replaced [0xe0]), (0xc1, .replaced [0xe1]), (0xc2, .replaced [0xe2]),
     (0xc3, .replaced [0xe3]), (0xc4, .replaced [0xe4]), (0xc5, .replaced [0xe5]),
     (0xc6, .replaced [0xe6]), (0xc7, .replaced [0xe7]), (0xc8, .replaced [0xe8]),
     (0xc9, .replaced [0xe9]), (0xca, .replaced [0xea]), (0xcb, .replaced [0xeb]),
     (0xcc, .replaced [0xec]), (0xcd, .replaced [0xed]), (0xce, .replaced [0xee]),
     (0xcf, .replaced [0xef]), (0xd0, .replaced [0xf0]), (0xd1, .replaced [0xf1]),
     (0xd2, .replaced [0xf2]), (0xd3, .replaced [0xf3]), (0xd4, .replaced [0xf4]),
     (0xd5, .replaced [0xf5]), (0xd6, .replaced [0xf6]), (0xd7, .kept), (0xd8, .replaced [0xf8]),
     (0xd9, .replaced [0xf9]), (0xda, .replaced [0xfa]), (0xdb, .replaced [0xfb]),
     (0xdc, .replaced [0xfc]), (0xdd, .replaced [0xfd]), (0xde, .replaced [0xfe]), (0xdf, .kept),
     (0x100, .replaced [0x101]), (0x101, .kept), (0x102, .replaced [0x103]), (0x103, .kept)],
    [(0x104, .replaced [0x105]), (0x105, .kept), (0x106, .replaced [0x107]), (0x107, .kept),
     (0x108, .replaced [0x109]), (0x109, .kept), (0x10a, .replaced [0x10b]), (0x10b, .kept),
     (0x10c, .replaced [0x10d]), (0x10d, .kept), (0x10e, .replaced [0x10f]), (0x10f, .kept),
     (0x110, .replaced [0x111]), (0x111, .kept), (0x112, .replaced [0x113]), (0x113, .kept),
     (0x114, .replaced [0x115]), (0x115, .kept), (0x116, .replaced [0x117]), (0x117, .kept),
     (0x118, .replaced [0x119]), (0x119, .kept), (0x11a, .replaced [0x11b]), (0x11b, .kept),
     (0x11c, .replaced [0x11d]), (0x11d, .kept), (0x11e, .replaced [0x11f]), (0x11f, .kept),
     (0x120, .replaced [0x121]), (0x121, .kept), (0x122, .replaced [0x123]), (0x123, .kept),
     (0x124, .replaced [0x125]), (0x125, .kept), (0x126, .replaced [0x127]), (0x127, .kept),
     (0x128, .replaced [0x129]), (0x129, .kept), (0x12a, .replaced [0x12b]), (0x12b, .kept),
     (0x12c, .replaced [0x12d]), (0x12d, .kept), (0x12e, .replaced [0x12f]), (0x12f, .kept),
     (0x130, .replaced [0x69, 0x307]), (0x131, .kept), (0x132, .replaced [0x69, 0x6a]),
     (0x134, .replaced [0x135]), (0x135, .kept), (0x136, .replaced [0x137]), (0x137, .kept),
     (0x139, .replaced [0x13a]), (0x13a, .kept), (0x13b, .replaced [0x13c]), (0x13c, .kept),
     (0x13d, .replaced [0x13e]), (0x13e, .kept), (0x13f, .replaced [0x6c, 0xb7]),
     (0x141, .replaced [0x142]), (0x142, .kept)],
    [(0x143, .replaced [0x144]), (0x144, .kept), (0x145, .replaced [0x146]), (0x146, .kept),
     (0x147, .replaced [0x148]), (0x148, .kept), (0x149, .replaced [0x2bc, 0x6e]),
     (0x14a, .replaced [0x14b]), (0x14b, .kept), (0x14c, .replaced [0x14d]), (0x14d, .kept),
     (0x14e, .replaced [0x14f]), (0x14f, .kept), (0x150, .replaced [0x151]), (0x151, .kept),
     (0x152, .replaced [0x153]), (0x153, .kept), (0x154, .replaced [0x155]), (0x155, .kept),
     (0x156, .replaced [0x157]), (0x157, .kept), (0x158, .replaced [0x159]), (0x159, .kept),
     (0x15a, .replaced [0x15b]), (0x15b, .kept), (0x15c, .replaced [0x15d]), (0x15d, .kept),
     (0x15e, .replaced [0x15f]), (0x15f, .kept), (0x160, .replaced [0x161]), (0x161, .kept),
     (0x162, .replaced [0x163]), (0x163, .kept), (0x164, .replaced [0x165]), (0x165, .kept),
     (0x166, .replaced [0x167]), (0x167, .kept), (0x168, .replaced [0x169]), (0x169, .kept),
     (0x16a, .replaced [0x16b]), (0x16b, .kept), (0x16c, .replaced [0x16d]), (0x16d, .kept),
     (0x16e, .replaced [0x16f]), (0x16f, .kept), (0x170, .replaced [0x171]), (0x171, .kept),
     (0x172, .replaced [0x173]), (0x173, .kept), (0x174, .replaced [0x175]), (0x175, .kept),
     (0x176, .replaced [0x177]), (0x177, .kept), (0x178, .replaced [0xff]),
     (0x179, .replaced [0x17a]), (0x17a, .kept), (0x17b, .replaced [0x17c]), (0x17c, .kept),
     (0x17d, .replaced [0x17e]), (0x17e, .kept)],
    [(0x17f, .replaced [0x73]), (0x180, .kept), (0x181, .replaced [0x253]),
     (0x182, .replaced [0x183]), (0x183, .kept), (0x184, .replaced [0x185]), (0x185, .kept),
     (0x186, .replaced [0x254]), (0x187, .replaced [0x188]), (0x188, .kept),
     (0x189, .replaced [0x256]), (0x18a, .replaced [0x257]), (0x18b, .replaced [0x18c]),
     (0x18c, .kept), (0x18e, .replaced [0x1dd]), (0x18f, .replaced [0x259]),
     (0x190, .replaced [0x25b]), (0x191, .replaced [0x192]), (0x192, .kept),
     (0x193, .replaced [0x260]), (0x194, .replaced [0x263]), (0x195, .kept),
     (0x196, .replaced [0x269]), (0x197, .replaced [0x268]), (0x198, .replaced [0x199]),
     (0x199, .kept), (0x19c, .replaced [0x26f]), (0x19d, .replaced [0x272]), (0x19e, .kept),
     (0x19f, .replaced [0x275]), (0x1a0, .replaced [0x1a1]), (0x1a1, .kept),
     (0x1a2, .replaced [0x1a3]), (0x1a3, .kept), (0x1a4, .replaced [0x1a5]), (0x1a5, .kept),
     (0x1a6, .replaced [0x280]), (0x1a7, .replaced [0x1a8]), (0x1a8, .kept),
     (0x1a9, .replaced [0x283]), (0x1aa, .kept), (0x1ac, .replaced [0x1ad]), (0x1ad, .kept),
     (0x1ae, .replaced [0x288]), (0x1af, .replaced [0x1b0]), (0x1b0, .kept),
     (0x1b1, .replaced [0x28a]), (0x1b2, .replaced [0x28b]), (0x1b3, .replaced [0x1b4]),
     (0x1b4, .kept), (0x1b5, .replaced [0x1b6]), (0x1b6, .kept), (0x1b7, .replaced [0x292]),
     (0x1b8, .replaced [0x1b9]), (0x1b9, .kept), (0x1bc, .replaced [0x1bd]), (0x1bd, .kept),
     (0x1c4, .replaced [0x64, 0x17e]), (0x1c7, .replaced [0x6c, 0x6a]),
     (0x1ca, .replaced [0x6e, 0x6a])],
    [(0x1cd, .replaced [0x1ce]), (0x1ce, .kept), (0x1cf, .replaced [0x1d0]), (0x1d0, .kept),
     (0x1d1, .replaced [0x1d2]), (0x1d2, .kept), (0x1d3, .replaced [0x1d4]), (0x1d4, .kept),
     (0x1d5, .replaced [0x1d6]), (0x1d6, .kept), (0x1d7, .replaced [0x1d8]), (0x1d8, .kept),
     (0x1d9, .replaced [0x1da]), (0x1da, .kept), (0x1db, .replaced [0x1dc]), (0x1dc, .kept),
     (0x1de, .replaced [0x1df]), (0x1df, .kept), (0x1e0, .replaced [0x1e1]), (0x1e1, .kept),
     (0x1e2, .replaced [0x1e3]), (0x1e3, .kept), (0x1e4, .replaced [0x1e5]), (0x1e5, .kept),
     (0x1e6, .replaced [0x1e7]), (0x1e7, .kept), (0x1e8, .replaced [0x1e9]), (0x1e9, .kept),
     (0x1ea, .replaced [0x1eb]), (0x1eb, .kept), (0x1ec, .replaced [0x1ed]), (0x1ed, .kept),
     (0x1ee, .replaced [0x1ef]), (0x1ef, .kept), (0x1f1, .replaced [0x64, 0x7a]),
     (0x1f4, .replaced [0x1f5]), (0x1f5, .kept), (0x1f6, .replaced [0x195]),
     (0x1f7, .replaced [0x1bf]), (0x1f8, .replaced [0x1f9]), (0x1f9, .kept),
     (0x1fa, .replaced [0x1fb]), (0x1fb, .kept), (0x1fc, .replaced [0x1fd]), (0x1fd, .kept),
     (0x1fe, .replaced [0x1ff]), (0x1ff, .kept), (0x200, .replaced [0x201]), (0x201, .kept),
     (0x202, .replaced [0x203]), (0x203, .kept), (0x204, .replaced [0x205]), (0x205, .kept),
     (0x206, .replaced [0x207]), (0x207, .kept), (0x208, .replaced [0x209]), (0x209, .kept),
     (0x20a, .replaced [0x20b]), (0x20b, .kept), (0x20c, .replaced [0x20d])],
    [(0x20d, .kept), (0x20e, .replaced [0x20f]), (0x20f, .kept), (0x210, .replaced [0x211]),
     (0x211, .kept), (0x212, .replaced [0x213]), (0x213, .kept), (0x214, .replaced [0x215]),
     (0x215, .kept), (0x216, .replaced [0x217]), (0x217, .kept), (0x218, .replaced [0x219]),
     (0x219, .kept), (0x21a, .replaced [0x21b]), (0x21b, .kept), (0x21c, .replaced [0x21d]),
     (0x21d, .kept), (0x21e, .replaced [0x21f]), (0x21f, .kept), (0x220, .replaced [0x19e]),
     (0x221, .kept), (0x222, .replaced [0x223]), (0x223, .kept), (0x224, .replaced [0x225]),
     (0x225, .kept), (0x226, .replaced [0x227]), (0x227, .kept), (0x228, .replaced [0x229]),
     (0x229, .kept), (0x22a, .replaced [0x22b]), (0x22b, .kept), (0x22c, .replaced [0x22d]),
     (0x22d, .kept), (0x22e, .replaced [0x22f]), (0x22f, .kept), (0x230, .replaced [0x231]),
     (0x231, .kept), (0x232, .replaced [0x233]), (0x233, .kept), (0x23a, .replaced [0x2c65]),
     (0x23b, .replaced [0x23c]), (0x23c, .kept), (0x23d, .replaced [0x19a]),
     (0x23e, .replaced [0x2c66]), (0x23f, .kept), (0x241, .replaced [0x242]), (0x242, .kept),
     (0x243, .replaced [0x180]), (0x244, .replaced [0x289]), (0x245, .replaced [0x28c]),
     (0x246, .replaced [0x247]), (0x247, .kept), (0x248, .replaced [0x249]), (0x249, .kept),
     (0x24a, .replaced [0x24b]), (0x24b, .kept), (0x24c, .replaced [0x24d]), (0x24d, .kept),
     (0x24e, .replaced [0x24f]), (0x24f, .kept)],
    [(0x2b0, .replaced [0x68]), (0x2b1, .replaced [0x266]), (0x2b2, .replaced [0x6a]),
     (0x2b3, .replaced [0x72]), (0x2b4, .replaced [0x279]), (0x2b5, .replaced [0x27b]),
     (0x2b6, .replaced [0x281]), (0x2b7, .replaced [0x77]), (0x2b8, .replaced [0x79]),
     (0x2b9, .kept), (0x2d8, .replaced [0x20, 0x306]), (0x2d9, .replaced [0x20, 0x307]),
     (0x2da, .replaced [0x20, 0x30a]), (0x2db, .replaced [0x20, 0x328]),
     (0x2dc, .replaced [0x20, 0x303]), (0x2dd, .replaced [0x20, 0x30b]), (0x2de, .kept),
     (0x2e0, .replaced [0x263]), (0x2e1, .replaced [0x6c]), (0x2e2, .replaced [0x73]),
     (0x2e3, .replaced [0x78]), (0x2e4, .replaced [0x295]), (0x2e5, .kept),
     (0x340, .replaced [0x300]), (0x341, .replaced [0x301]), (0x342, .kept),
     (0x343, .replaced [0x313]), (0x344, .replaced [0x308, 0x301]), (0x345, .replaced [0x3b9]),
     (0x346, .kept), (0x34f, .dropped), (0x350, .kept), (0x370, .replaced [0x371]), (0x371, .kept),
     (0x372, .replaced [0x373]), (0x373, .kept), (0x374, .replaced [0x2b9]), (0x375, .kept),
     (0x376, .replaced [0x377]), (0x377, .kept), (0x378, .refused),
     (0x37a, .replaced [0x20, 0x3b9]), (0x37b, .kept), (0x37e, .replaced [0x3b]),
     (0x37f, .replaced [0x3f3]), (0x380, .refused), (0x384, .replaced [0x20, 0x301]),
     (0x385, .replaced [0x20, 0x308, 0x301]), (0x386, .replaced [0x3ac]),
     (0x387, .replaced [0xb7]), (0x388, .replaced [0x3ad]), (0x389, .replaced [0x3ae]),
     (0x38a, .replaced [0x3af]), (0x38b, .refused), (0x38c, .replaced [0x3cc]), (0x38d, .refused),
     (0x38e, .replaced [0x3cd]), (0x38f, .replaced [0x3ce]), (0x390, .kept),
     (0x391, .replaced [0x3b1])],
    [(0x392, .replaced [0x3b2]), (0x393, .replaced [0x3b3]), (0x394, .replaced [0x3b4]),
     (0x395, .replaced [0x3b5]), (0x396, .replaced [0x3b6]), (0x397, .replaced [0x3b7]),
     (0x398, .replaced [0x3b8]), (0x399, .replaced [0x3b9]), (0x39a, .replaced [0x3ba]),
     (0x39b, .replaced [0x3bb]), (0x39c, .replaced [0x3bc]), (0x39d, .replaced [0x3bd]),
     (0x39e, .replaced [0x3be]), (0x39f, .replaced [0x3bf]), (0x3a0, .replaced [0x3c0]),
     (0x3a1, .replaced [0x3c1]), (0x3a2, .refused), (0x3a3, .replaced [0x3c3]),
     (0x3a4, .replaced [0x3c4]), (0x3a5, .replaced [0x3c5]), (0x3a6, .replaced [0x3c6]),
     (0x3a7, .replaced [0x3c7]), (0x3a8, .replaced [0x3c8]), (0x3a9, .replaced [0x3c9]),
     (0x3aa, .replaced [0x3ca]), (0x3ab, .replaced [0x3cb]), (0x3ac, .kept),
     (0x3cf, .replaced [0x3d7]), (0x3d0, .replaced [0x3b2]), (0x3d1, .replaced [0x3b8]),
     (0x3d2, .replaced [0x3c5]), (0x3d3, .replaced [0x3cd]), (0x3d4, .replaced [0x3cb]),
     (0x3d5, .replaced [0x3c6]), (0x3d6, .replaced [0x3c0]), (0x3d7, .kept),
     (0x3d8, .replaced [0x3d9]), (0x3d9, .kept), (0x3da, .replaced [0x3db]), (0x3db, .kept),
     (0x3dc, .replaced [0x3dd]), (0x3dd, .kept), (0x3de, .replaced [0x3df]), (0x3df, .kept),
     (0x3e0, .replaced [0x3e1]), (0x3e1, .kept), (0x3e2, .replaced [0x3e3]), (0x3e3, .kept),
     (0x3e4, .replaced [0x3e5]), (0x3e5, .kept), (0x3e6, .replaced [0x3e7]), (0x3e7, .kept),
     (0x3e8, .replaced [0x3e9]), (0x3e9, .kept), (0x3ea, .replaced [0x3eb]), (0x3eb, .kept),
     (0x3ec, .replaced [0x3ed]), (0x3ed, .kept), (0x3ee, .replaced [0x3ef]), (0x3ef, .kept)],
    [(0x3f0, .replaced [0x3ba]), (0x3f1, .replaced [0x3c1]), (0x3f2, .replaced [0x3c3]),
     (0x3f3, .kept), (0x3f4, .replaced [0x3b8]), (0x3f5, .replaced [0x3b5]), (0x3f6, .kept),
     (0x3f7, .replaced [0x3f8]), (0x3f8, .kept), (0x3f9, .replaced [0x3c3]),
     (0x3fa, .replaced [0x3fb]), (0x3fb, .kept), (0x3fd, .replaced [0x37b]),
     (0x3fe, .replaced [0x37c]), (0x3ff, .replaced [0x37d]), (0x400, .replaced [0x450]),
     (0x401, .replaced [0x451]), (0x402, .replaced [0x452]), (0x403, .replaced [0x453]),
     (0x404, .replaced [0x454]), (0x405, .replaced [0x455]), (0x406, .replaced [0x456]),
     (0x407, .replaced [0x457]), (0x408, .replaced [0x458]), (0x409, .replaced [0x459]),
     (0x40a, .replaced [0x45a]), (0x40b, .replaced [0x45b]), (0x40c, .replaced [0x45c]),
     (0x40d, .replaced [0x45d]), (0x40e, .replaced [0x45e]), (0x40f, .replaced [0x45f]),
     (0x410, .replaced [0x430]), (0x411, .replaced [0x431]), (0x412, .replaced [0x432]),
     (0x413, .replaced [0x433]), (0x414, .replaced [0x434]), (0x415, .replaced [0x435]),
     (0x416, .replaced [0x436]), (0x417, .replaced [0x437]), (0x418, .replaced [0x438]),
     (0x419, .replaced [0x439]), (0x41a, .replaced [0x43a]), (0x41b, .replaced [0x43b]),
     (0x41c, .replaced [0x43c]), (0x41d, .replaced [0x43d]), (0x41e, .replaced [0x43e]),
     (0x41f, .replaced [0x43f]), (0x420, .replaced [0x440]), (0x421, .replaced [0x441]),
     (0x422, .replaced [0x442]), (0x423, .replaced [0x443]), (0x424, .replaced [0x444]),
     (0x425, .replaced [0x445]), (0x426, .replaced [0x446]), (0x427, .replaced [0x447]),
     (0x428, .replaced [0x448]), (0x429, .replaced [0x449]), (0x42a, .replaced [0x44a]),
     (0x42b, .replaced [0x44b]), (0x42c, .replaced [0x44c])],
    [(0x42d, .replaced [0x44d]), (0x42e, .replaced [0x44e]), (0x42f, .replaced [0x44f]),
     (0x430, .kept), (0x460, .replaced [0x461]), (0x461, .kept), (0x462, .replaced [0x463]),
     (0x463, .kept), (0x464, .replaced [0x465]), (0x465, .kept), (0x466, .replaced [0x467]),
     (0x467, .kept), (0x468, .replaced [0x469]), (0x469, .kept), (0x46a, .replaced [0x46b]),
     (0x46b, .kept), (0x46c, .replaced [0x46d]), (0x46d, .kept), (0x46e, .replaced [0x46f]),
     (0x46f, .kept), (0x470, .replaced [0x471]), (0x471, .kept), (0x472, .replaced [0x473]),
     (0x473, .kept), (0x474, .replaced [0x475]), (0x475, .kept), (0x476, .replaced [0x477]),
     (0x477, .kept), (0x478, .replaced [0x479]), (0x479, .kept), (0x47a, .replaced [0x47b]),
     (0x47b, .kept), (0x47c, .replaced [0x47d]), (0x47d, .kept), (0x47e, .replaced [0x47f]),
     (0x47f, .kept), (0x480, .replaced [0x481]), (0x481, .kept), (0x48a, .replaced [0x48b]),
     (0x48b, .kept), (0x48c, .replaced [0x48d]), (0x48d, .kept), (0x48e, .replaced [0x48f]),
     (0x48f, .kept), (0x490, .replaced [0x491]), (0x491, .kept), (0x492, .replaced [0x493]),
     (0x493, .kept), (0x494, .replaced [0x495]), (0x495, .kept), (0x496, .replaced [0x497]),
     (0x497, .kept), (0x498, .replaced [0x499]), (0x499, .kept), (0x49a, .replaced [0x49b]),
     (0x49b, .kept), (0x49c, .replaced [0x49d]), (0x49d, .kept), (0x49e, .replaced [0x49f]),
     (0x49f, .kept)],
    [(0x4a0, .replaced [0x4a1]), (0x4a1, .kept), (0x4a2, .replaced [0x4a3]), (0x4a3, .kept),
     (0x4a4, .replaced [0x4a5]), (0x4a5, .kept), (0x4a6, .replaced [0x4a7]), (0x4a7, .kept),
     (0x4a8, .replaced [0x4a9]), (0x4a9, .kept), (0x4aa, .replaced [0x4ab]), (0x4ab, .kept),
     (0x4ac, .replaced [0x4ad]), (0x4ad, .kept), (0x4ae, .replaced [0x4af]), (0x4af, .kept),
     (0x4b0, .replaced [0x4b1]), (0x4b1, .kept), (0x4b2, .replaced [0x4b3]), (0x4b3, .kept),
     (0x4b4, .replaced [0x4b5]), (0x4b5, .kept), (0x4b6, .replaced [0x4b7]), (0x4b7, .kept),
     (0x4b8, .replaced [0x4b9]), (0x4b9, .kept), (0x4ba, .replaced [0x4bb]), (0x4bb, .kept),
     (0x4bc, .replaced [0x4bd]), (0x4bd, .kept), (0x4be, .replaced [0x4bf]), (0x4bf, .kept),
     (0x4c0, .refused), (0x4c1, .replaced [0x4c2]), (0x4c2, .kept), (0x4c3, .replaced [0x4c4]),
     (0x4c4, .kept), (0x4c5, .replaced [0x4c6]), (0x4c6, .kept), (0x4c7, .replaced [0x4c8]),
     (0x4c8, .kept), (0x4c9, .replaced [0x4ca]), (0x4ca, .kept), (0x4cb, .replaced [0x4cc]),
     (0x4cc, .kept), (0x4cd, .replaced [0x4ce]), (0x4ce, .kept), (0x4d0, .replaced [0x4d1]),
     (0x4d1, .kept), (0x4d2, .replaced [0x4d3]), (0x4d3, .kept), (0x4d4, .replaced [0x4d5]),
     (0x4d5, .kept), (0x4d6, .replaced [0x4d7]), (0x4d7, .kept), (0x4d8, .replaced [0x4d9]),
     (0x4d9, .kept), (0x4da, .replaced [0x4db]), (0x4db, .kept), (0x4dc, .replaced [0x4dd])],
    [(0x4dd, .kept), (0x4de, .replaced [0x4df]), (0x4df, .kept), (0x4e0, .replaced [0x4e1]),
     (0x4e1, .kept), (0x4e2, .replaced [0x4e3]), (0x4e3, .kept), (0x4e4, .replaced [0x4e5]),
     (0x4e5, .kept), (0x4e6, .replaced [0x4e7]), (0x4e7, .kept), (0x4e8, .replaced [0x4e9]),
     (0x4e9, .kept), (0x4ea, .replaced [0x4eb]), (0x4eb, .kept), (0x4ec, .replaced [0x4ed]),
     (0x4ed, .kept), (0x4ee, .replaced [0x4ef]), (0x4ef, .kept), (0x4f0, .replaced [0x4f1]),
     (0x4f1, .kept), (0x4f2, .replaced [0x4f3]), (0x4f3, .kept), (0x4f4, .replaced [0x4f5]),
     (0x4f5, .kept), (0x4f6, .replaced [0x4f7]), (0x4f7, .kept), (0x4f8, .replaced [0x4f9]),
     (0x4f9, .kept), (0x4fa, .replaced [0x4fb]), (0x4fb, .kept), (0x4fc, .replaced [0x4fd]),
     (0x4fd, .kept), (0x4fe, .replaced [0x4ff]), (0x4ff, .kept), (0x500, .replaced [0x501]),
     (0x501, .kept), (0x502, .replaced [0x503]), (0x503, .kept), (0x504, .replaced [0x505]),
     (0x505, .kept), (0x506, .replaced [0x507]), (0x507, .kept), (0x508, .replaced [0x509]),
     (0x509, .kept), (0x50a, .replaced [0x50b]), (0x50b, .kept), (0x50c, .replaced [0x50d]),
     (0x50d, .kept), (0x50e, .replaced [0x50f]), (0x50f, .kept), (0x510, .replaced [0x511]),
     (0x511, .kept), (0x512, .replaced [0x513]), (0x513, .kept), (0x514, .replaced [0x515]),
     (0x515, .kept), (0x516, .replaced [0x517]), (0x517, .kept), (0x518, .replaced [0x519])],
    [(0x519, .kept), (0x51a, .replaced [0x51b]), (0x51b, .kept), (0x51c, .replaced [0x51d]),
     (0x51d, .kept), (0x51e, .replaced [0x51f]), (0x51f, .kept), (0x520, .replaced [0x521]),
     (0x521, .kept), (0x522, .replaced [0x523]), (0x523, .kept), (0x524, .replaced [0x525]),
     (0x525, .kept), (0x526, .replaced [0x527]), (0x527, .kept), (0x528, .replaced [0x529]),
     (0x529, .kept), (0x52a, .replaced [0x52b]), (0x52b, .kept), (0x52c, .replaced [0x52d]),
     (0x52d, .kept), (0x52e, .replaced [0x52f]), (0x52f, .kept), (0x530, .refused),
     (0x531, .replaced [0x561]), (0x532, .replaced [0x562]), (0x533, .replaced [0x563]),
     (0x534, .replaced [0x564]), (0x535, .replaced [0x565]), (0x536, .replaced [0x566]),
     (0x537, .replaced [0x567]), (0x538, .replaced [0x568]), (0x539, .replaced [0x569]),
     (0x53a, .replaced [0x56a]), (0x53b, .replaced [0x56b]), (0x53c, .replaced [0x56c]),
     (0x53d, .replaced [0x56d]), (0x53e, .replaced [0x56e]), (0x53f, .replaced [0x56f]),
     (0x540, .replaced [0x570]), (0x541, .replaced [0x571]), (0x542, .replaced [0x572]),
     (0x543, .replaced [0x573]), (0x544, .replaced [0x574]), (0x545, .replaced [0x575]),
     (0x546, .replaced [0x576]), (0x547, .replaced [0x577]), (0x548, .replaced [0x578]),
     (0x549, .replaced [0x579]), (0x54a, .replaced [0x57a]), (0x54b, .replaced [0x57b]),
     (0x54c, .replaced [0x57c]), (0x54d, .replaced [0x57d]), (0x54e, .replaced [0x57e]),
     (0x54f, .replaced [0x57f]), (0x550, .replaced [0x580]), (0x551, .replaced [0x581]),
     (0x552, .replaced [0x582]), (0x553, .replaced [0x583]), (0x554, .replaced [0x584])],
    [(0x555, .replaced [0x585]), (0x556, .replaced [0x586]), (0x557, .refused), (0x559, .kept),
     (0x587, .replaced [0x565, 0x582]), (0x588, .kept), (0x58b, .refused), (0x58d, .kept),
     (0x590, .refused), (0x591, .kept), (0x5c8, .refused), (0x5d0, .kept), (0x5eb, .refused),
     (0x5ef, .kept), (0x5f5, .refused), (0x606, .kept), (0x61c, .refused), (0x61d, .kept),
     (0x675, .replaced [0x627, 0x674]), (0x676, .replaced [0x648, 0x674]),
     (0x677, .replaced [0x6c7, 0x674]), (0x678, .replaced [0x64a, 0x674]), (0x679, .kept),
     (0x6dd, .refused), (0x6de, .kept), (0x70e, .refused), (0x710, .kept), (0x74b, .refused),
     (0x74d, .kept), (0x7b2, .refused), (0x7c0, .kept), (0x7fb, .refused), (0x7fd, .kept)]]

set_option maxRecDepth 20000 in
def fatesFrom800 : Text.Runs Fate :=
  List.flatten [
    [(0x82e, .refused), (0x830, .kept), (0x83f, .refused), (0x840, .kept), (0x85c, .refused),
     (0x85e, .kept), (0x85f, .refused), (0x860, .kept), (0x86b, .refused), (0x870, .kept),
     (0x88f, .refused), (0x898, .kept), (0x8e2, .refused), (0x8e3, .kept),
     (0x958, .replaced [0x915, 0x93c]), (0x959, .replaced [0x916, 0x93c]),
     (0x95a, .replaced [0x917, 0x93c]), (0x95b, .replaced [0x91c, 0x93c]),
     (0x95c, .replaced [0x921, 0x93c]), (0x95d, .replaced [0x922, 0x93c]),
     (0x95e, .replaced [0x92b, 0x93c]), (0x95f, .replaced [0x92f, 0x93c]), (0x960, .kept),
     (0x984, .refused), (0x985, .kept), (0x98d, .refused), (0x98f, .kept), (0x991, .refused),
     (0x993, .kept), (0x9a9, .refused), (0x9aa, .kept), (0x9b1, .refused), (0x9b2, .kept),
     (0x9b3, .refused), (0x9b6, .kept), (0x9ba, .refused), (0x9bc, .kept), (0x9c5, .refused),
     (0x9c7, .kept), (0x9c9, .refused), (0x9cb, .kept), (0x9cf, .refused), (0x9d7, .kept),
     (0x9d8, .refused), (0x9dc, .replaced [0x9a1, 0x9bc]), (0x9dd, .replaced [0x9a2, 0x9bc]),
     (0x9de, .refused), (0x9df, .replaced [0x9af, 0x9bc]), (0x9e0, .kept), (0x9e4, .refused),
     (0x9e6, .kept), (0x9ff, .refused), (0xa01, .kept), (0xa04, .refused), (0xa05, .kept),
     (0xa0b, .refused), (0xa0f, .kept), (0xa11, .refused), (0xa13, .kept), (0xa29, .refused)],
    [(0xa2a, .kept), (0xa31, .refused), (0xa32, .kept), (0xa33, .replaced [0xa32, 0xa3c]),
     (0xa34, .refused), (0xa35, .kept), (0xa36, .replaced [0xa38, 0xa3c]), (0xa37, .refused),
     (0xa38, .kept), (0xa3a, .refused), (0xa3c, .kept), (0xa3d, .refused), (0xa3e, .kept),
     (0xa43, .refused), (0xa47, .kept), (0xa49, .refused), (0xa4b, .kept), (0xa4e, .refused),
     (0xa51, .kept), (0xa52, .refused), (0xa59, .replaced [0xa16, 0xa3c]),
     (0xa5a, .replaced [0xa17, 0xa3c]), (0xa5b, .replaced [0xa1c, 0xa3c]), (0xa5c, .kept),
     (0xa5d, .refused), (0xa5e, .replaced [0xa2b, 0xa3c]), (0xa5f, .refused), (0xa66, .kept),
     (0xa77, .refused), (0xa81, .kept), (0xa84, .refused), (0xa85, .kept), (0xa8e, .refused),
     (0xa8f, .kept), (0xa92, .refused), (0xa93, .kept), (0xaa9, .refused), (0xaaa, .kept),
     (0xab1, .refused), (0xab2, .kept), (0xab4, .refused), (0xab5, .kept), (0xaba, .refused),
     (0xabc, .kept), (0xac6, .refused), (0xac7, .kept), (0xaca, .refused), (0xacb, .kept),
     (0xace, .refused), (0xad0, .kept), (0xad1, .refused), (0xae0, .kept), (0xae4, .refused),
     (0xae6, .kept), (0xaf2, .refused), (0xaf9, .kept), (0xb00, .refused), (0xb01, .kept),
     (0xb04, .refused), (0xb05, .kept)],
    [(0xb0d, .refused), (0xb0f, .kept), (0xb11, .refused), (0xb13, .kept), (0xb29, .refused),
     (0xb2a, .kept), (0xb31, .refused), (0xb32, .kept), (0xb34, .refused), (0xb35, .kept),
     (0xb3a, .refused), (0xb3c, .kept), (0xb45, .refused), (0xb47, .kept), (0xb49, .refused),
     (0xb4b, .kept), (0xb4e, .refused), (0xb55, .kept), (0xb58, .refused),
     (0xb5c, .replaced [0xb21, 0xb3c]), (0xb5d, .replaced [0xb22, 0xb3c]), (0xb5e, .refused),
     (0xb5f, .kept), (0xb64, .refused), (0xb66, .kept), (0xb78, .refused), (0xb82, .kept),
     (0xb84, .refused), (0xb85, .kept), (0xb8b, .refused), (0xb8e, .kept), (0xb91, .refused),
     (0xb92, .kept), (0xb96, .refused), (0xb99, .kept), (0xb9b, .refused), (0xb9c, .kept),
     (0xb9d, .refused), (0xb9e, .kept), (0xba0, .refused), (0xba3, .kept), (0xba5, .refused),
     (0xba8, .kept), (0xbab, .refused), (0xbae, .kept), (0xbba, .refused), (0xbbe, .kept),
     (0xbc3, .refused), (0xbc6, .kept), (0xbc9, .refused), (0xbca, .kept), (0xbce, .refused),
     (0xbd0, .kept), (0xbd1, .refused), (0xbd7, .kept), (0xbd8, .refused), (0xbe6, .kept),
     (0xbfb, .refused), (0xc00, .kept), (0xc0d, .refused)],
    [(0xc0e, .kept), (0xc11, .refused), (0xc12, .kept), (0xc29, .refused), (0xc2a, .kept),
     (0xc3a, .refused), (0xc3c, .kept), (0xc45, .refused), (0xc46, .kept), (0xc49, .refused),
     (0xc4a, .kept), (0xc4e, .refused), (0xc55, .kept), (0xc57, .refused), (0xc58, .kept),
     (0xc5b, .refused), (0xc5d, .kept), (0xc5e, .refused), (0xc60, .kept), (0xc64, .refused),
     (0xc66, .kept), (0xc70, .refused), (0xc77, .kept), (0xc8d, .refused), (0xc8e, .kept),
     (0xc91, .refused), (0xc92, .kept), (0xca9, .refused), (0xcaa, .kept), (0xcb4, .refused),
     (0xcb5, .kept), (0xcba, .refused), (0xcbc, .kept), (0xcc5, .refused), (0xcc6, .kept),
     (0xcc9, .refused), (0xcca, .kept), (0xcce, .refused), (0xcd5, .kept), (0xcd7, .refused),
     (0xcdd, .kept), (0xcdf, .refused), (0xce0, .kept), (0xce4, .refused), (0xce6, .kept),
     (0xcf0, .refused), (0xcf1, .kept), (0xcf4, .refused), (0xd00, .kept), (0xd0d, .refused),
     (0xd0e, .kept), (0xd11, .refused), (0xd12, .kept), (0xd45, .refused), (0xd46, .kept),
     (0xd49, .refused), (0xd4a, .kept), (0xd50, .refused), (0xd54, .kept), (0xd64, .refused)],
    [(0xd66, .kept), (0xd80, .refused), (0xd81, .kept), (0xd84, .refused), (0xd85, .kept),
     (0xd97, .refused), (0xd9a, .kept), (0xdb2, .refused), (0xdb3, .kept), (0xdbc, .refused),
     (0xdbd, .kept), (0xdbe, .refused), (0xdc0, .kept), (0xdc7, .refused), (0xdca, .kept),
     (0xdcb, .refused), (0xdcf, .kept), (0xdd5, .refused), (0xdd6, .kept), (0xdd7, .refused),
     (0xdd8, .kept), (0xde0, .refused), (0xde6, .kept), (0xdf0, .refused), (0xdf2, .kept),
     (0xdf5, .refused), (0xe01, .kept), (0xe33, .replaced [0xe4d, 0xe32]), (0xe34, .kept),
     (0xe3b, .refused), (0xe3f, .kept), (0xe5c, .refused), (0xe81, .kept), (0xe83, .refused),
     (0xe84, .kept), (0xe85, .refused), (0xe86, .kept), (0xe8b, .refused), (0xe8c, .kept),
     (0xea4, .refused), (0xea5, .kept), (0xea6, .refused), (0xea7, .kept),
     (0xeb3, .replaced [0xecd, 0xeb2]), (0xeb4, .kept), (0xebe, .refused), (0xec0, .kept),
     (0xec5, .refused), (0xec6, .kept), (0xec7, .refused), (0xec8, .kept), (0xecf, .refused),
     (0xed0, .kept), (0xeda, .refused), (0xedc, .replaced [0xeab, 0xe99]),
     (0xedd, .replaced [0xeab, 0xea1]), (0xede, .kept), (0xee0, .refused), (0xf00, .kept),
     (0xf0c, .replaced [0xf0b])],
    [(0xf0d, .kept), (0xf43, .replaced [0xf42, 0xfb7]), (0xf44, .kept), (0xf48, .refused),
     (0xf49, .kept), (0xf4d, .replaced [0xf4c, 0xfb7]), (0xf4e, .kept),
     (0xf52, .replaced [0xf51, 0xfb7]), (0xf53, .kept), (0xf57, .replaced [0xf56, 0xfb7]),
     (0xf58, .kept), (0xf5c, .replaced [0xf5b, 0xfb7]), (0xf5d, .kept),
     (0xf69, .replaced [0xf40, 0xfb5]), (0xf6a, .kept), (0xf6d, .refused), (0xf71, .kept),
     (0xf73, .replaced [0xf71, 0xf72]), (0xf74, .kept), (0xf75, .replaced [0xf71, 0xf74]),
     (0xf76, .replaced [0xfb2, 0xf80]), (0xf77, .replaced [0xfb2, 0xf71, 0xf80]),
     (0xf78, .replaced [0xfb3, 0xf80]), (0xf79, .replaced [0xfb3, 0xf71, 0xf80]), (0xf7a, .kept),
     (0xf81, .replaced [0xf71, 0xf80]), (0xf82, .kept), (0xf93, .replaced [0xf92, 0xfb7]),
     (0xf94, .kept), (0xf98, .refused), (0xf99, .kept), (0xf9d, .replaced [0xf9c, 0xfb7]),
     (0xf9e, .kept), (0xfa2, .replaced [0xfa1, 0xfb7]), (0xfa3, .kept),
     (0xfa7, .replaced [0xfa6, 0xfb7]), (0xfa8, .kept), (0xfac, .replaced [0xfab, 0xfb7]),
     (0xfad, .kept), (0xfb9, .replaced [0xf90, 0xfb5]), (0xfba, .kept), (0xfbd, .refused),
     (0xfbe, .kept), (0xfcd, .refused), (0xfce, .kept), (0xfdb, .refused), (0x1000, .kept),
     (0x10a0, .refused), (0x10c7, .replaced [0x2d27]), (0x10c8, .refused),
     (0x10cd, .replaced [0x2d2d]), (0x10ce, .refused), (0x10d0, .kept),
     (0x10fc, .replaced [0x10dc]), (0x10fd, .kept), (0x115f, .refused), (0x1161, .kept),
     (0x1249, .refused), (0x124a, .kept), (0x124e, .refused)],
    [(0x1250, .kept), (0x1257, .refused), (0x1258, .kept), (0x1259, .refused), (0x125a, .kept),
     (0x125e, .refused), (0x1260, .kept), (0x1289, .refused), (0x128a, .kept), (0x128e, .refused),
     (0x1290, .kept), (0x12b1, .refused), (0x12b2, .kept), (0x12b6, .refused), (0x12b8, .kept),
     (0x12bf, .refused), (0x12c0, .kept), (0x12c1, .refused), (0x12c2, .kept), (0x12c6, .refused),
     (0x12c8, .kept), (0x12d7, .refused), (0x12d8, .kept), (0x1311, .refused), (0x1312, .kept),
     (0x1316, .refused), (0x1318, .kept), (0x135b, .refused), (0x135d, .kept), (0x137d, .refused),
     (0x1380, .kept), (0x139a, .refused), (0x13a0, .kept), (0x13f6, .refused),
     (0x13f8, .replaced [0x13f0]), (0x13f9, .replaced [0x13f1]), (0x13fa, .replaced [0x13f2]),
     (0x13fb, .replaced [0x13f3]), (0x13fc, .replaced [0x13f4]), (0x13fd, .replaced [0x13f5]),
     (0x13fe, .refused), (0x1400, .kept), (0x1680, .refused), (0x1681, .kept), (0x169d, .refused),
     (0x16a0, .kept), (0x16f9, .refused), (0x1700, .kept), (0x1716, .refused), (0x171f, .kept),
     (0x1737, .refused), (0x1740, .kept), (0x1754, .refused), (0x1760, .kept), (0x176d, .refused),
     (0x176e, .kept), (0x1771, .refused), (0x1772, .kept), (0x1774, .refused), (0x1780, .kept)],
    [(0x17b4, .refused), (0x17b6, .kept), (0x17de, .refused), (0x17e0, .kept), (0x17ea, .refused),
     (0x17f0, .kept), (0x17fa, .refused), (0x1800, .kept), (0x1806, .refused), (0x1807, .kept),
     (0x180b, .dropped), (0x180e, .refused), (0x180f, .dropped), (0x1810, .kept),
     (0x181a, .refused), (0x1820, .kept), (0x1879, .refused), (0x1880, .kept), (0x18ab, .refused),
     (0x18b0, .kept), (0x18f6, .refused), (0x1900, .kept), (0x191f, .refused), (0x1920, .kept),
     (0x192c, .refused), (0x1930, .kept), (0x193c, .refused), (0x1940, .kept), (0x1941, .refused),
     (0x1944, .kept), (0x196e, .refused), (0x1970, .kept), (0x1975, .refused), (0x1980, .kept),
     (0x19ac, .refused), (0x19b0, .kept), (0x19ca, .refused), (0x19d0, .kept), (0x19db, .refused),
     (0x19de, .kept), (0x1a1c, .refused), (0x1a1e, .kept), (0x1a5f, .refused), (0x1a60, .kept),
     (0x1a7d, .refused), (0x1a7f, .kept), (0x1a8a, .refused), (0x1a90, .kept), (0x1a9a, .refused),
     (0x1aa0, .kept), (0x1aae, .refused), (0x1ab0, .kept), (0x1acf, .refused), (0x1b00, .kept),
     (0x1b4d, .refused), (0x1b50, .kept), (0x1b7f, .refused), (0x1b80, .kept), (0x1bf4, .refused),
     (0x1bfc, .kept)],
    [(0x1c38, .refused), (0x1c3b, .kept), (0x1c4a, .refused), (0x1c4d, .kept),
     (0x1c80, .replaced [0x432]), (0x1c81, .replaced [0x434]), (0x1c82, .replaced [0x43e]),
     (0x1c83, .replaced [0x441]), (0x1c84, .replaced [0x442]), (0x1c86, .replaced [0x44a]),
     (0x1c87, .replaced [0x463]), (0x1c88, .replaced [0xa64b]), (0x1c89, .refused),
     (0x1c90, .replaced [0x10d0]), (0x1c91, .replaced [0x10d1]), (0x1c92, .replaced [0x10d2]),
     (0x1c93, .replaced [0x10d3]), (0x1c94, .replaced [0x10d4]), (0x1c95, .replaced [0x10d5]),
     (0x1c96, .replaced [0x10d6]), (0x1c97, .replaced [0x10d7]), (0x1c98, .replaced [0x10d8]),
     (0x1c99, .replaced [0x10d9]), (0x1c9a, .replaced [0x10da]), (0x1c9b, .replaced [0x10db]),
     (0x1c9c, .replaced [0x10dc]), (0x1c9d, .replaced [0x10dd]), (0x1c9e, .replaced [0x10de]),
     (0x1c9f, .replaced [0x10df]), (0x1ca0, .replaced [0x10e0]), (0x1ca1, .replaced [0x10e1]),
     (0x1ca2, .replaced [0x10e2]), (0x1ca3, .replaced [0x10e3]), (0x1ca4, .replaced [0x10e4]),
     (0x1ca5, .replaced [0x10e5]), (0x1ca6, .replaced [0x10e6]), (0x1ca7, .replaced [0x10e7]),
     (0x1ca8, .replaced [0x10e8]), (0x1ca9, .replaced [0x10e9]), (0x1caa, .replaced [0x10ea]),
     (0x1cab, .replaced [0x10eb]), (0x1cac, .replaced [0x10ec]), (0x1cad, .replaced [0x10ed]),
     (0x1cae, .replaced [0x10ee]), (0x1caf, .replaced [0x10ef]), (0x1cb0, .replaced [0x10f0]),
     (0x1cb1, .replaced [0x10f1]), (0x1cb2, .replaced [0x10f2]), (0x1cb3, .replaced [0x10f3]),
     (0x1cb4, .replaced [0x10f4]), (0x1cb5, .replaced [0x10f5]), (0x1cb6, .replaced [0x10f6]),
     (0x1cb7, .replaced [0x10f7]), (0x1cb8, .replaced [0x10f8]), (0x1cb9, .replaced [0x10f9]),
     (0x1cba, .replaced [0x10fa]), (0x1cbb, .refused), (0x1cbd, .replaced [0x10fd]),
     (0x1cbe, .replaced [0x10fe]), (0x1cbf, .replaced [0x10ff])],
    [(0x1cc0, .kept), (0x1cc8, .refused), (0x1cd0, .kept), (0x1cfb, .refused), (0x1d00, .kept),
     (0x1d2c, .replaced [0x61]), (0x1d2d, .replaced [0xe6]), (0x1d2e, .replaced [0x62]),
     (0x1d2f, .kept), (0x1d30, .replaced [0x64]), (0x1d31, .replaced [0x65]),
     (0x1d32, .replaced [0x1dd]), (0x1d33, .replaced [0x67]), (0x1d34, .replaced [0x68]),
     (0x1d35, .replaced [0x69]), (0x1d36, .replaced [0x6a]), (0x1d37, .replaced [0x6b]),
     (0x1d38, .replaced [0x6c]), (0x1d39, .replaced [0x6d]), (0x1d3a, .replaced [0x6e]),
     (0x1d3b, .kept), (0x1d3c, .replaced [0x6f]), (0x1d3d, .replaced [0x223]),
     (0x1d3e, .replaced [0x70]), (0x1d3f, .replaced [0x72]), (0x1d40, .replaced [0x74]),
     (0x1d41, .replaced [0x75]), (0x1d42, .replaced [0x77]), (0x1d43, .replaced [0x61]),
     (0x1d44, .replaced [0x250]), (0x1d45, .replaced [0x251]), (0x1d46, .replaced [0x1d02]),
     (0x1d47, .replaced [0x62]), (0x1d48, .replaced [0x64]), (0x1d49, .replaced [0x65]),
     (0x1d4a, .replaced [0x259]), (0x1d4b, .replaced [0x25b]), (0x1d4c, .replaced [0x25c]),
     (0x1d4d, .replaced [0x67]), (0x1d4e, .kept), (0x1d4f, .replaced [0x6b]),
     (0x1d50, .replaced [0x6d]), (0x1d51, .replaced [0x14b]), (0x1d52, .replaced [0x6f]),
     (0x1d53, .replaced [0x254]), (0x1d54, .replaced [0x1d16]), (0x1d55, .replaced [0x1d17]),
     (0x1d56, .replaced [0x70]), (0x1d57, .replaced [0x74]), (0x1d58, .replaced [0x75]),
     (0x1d59, .replaced [0x1d1d]), (0x1d5a, .replaced [0x26f]), (0x1d5b, .replaced [0x76]),
     (0x1d5c, .replaced [0x1d25]), (0x1d5d, .replaced [0x3b2]), (0x1d5e, .replaced [0x3b3]),
     (0x1d5f, .replaced [0x3b4]), (0x1d60, .replaced [0x3c6]), (0x1d61, .replaced [0x3c7]),
     (0x1d62, .replaced [0x69])],
    [(0x1d63, .replaced [0x72]), (0x1d64, .replaced [0x75]), (0x1d65, .replaced [0x76]),
     (0x1d66, .replaced [0x3b2]), (0x1d67, .replaced [0x3b3]), (0x1d68, .replaced [0x3c1]),
     (0x1d69, .replaced [0x3c6]), (0x1d6a, .replaced [0x3c7]), (0x1d6b, .kept),
     (0x1d78, .replaced [0x43d]), (0x1d79, .kept), (0x1d9b, .replaced [0x252]),
     (0x1d9c, .replaced [0x63]), (0x1d9d, .replaced [0x255]), (0x1d9e, .replaced [0xf0]),
     (0x1d9f, .replaced [0x25c]), (0x1da0, .replaced [0x66]), (0x1da1, .replaced [0x25f]),
     (0x1da2, .replaced [0x261]), (0x1da3, .replaced [0x265]), (0x1da4, .replaced [0x268]),
     (0x1da5, .replaced [0x269]), (0x1da6, .replaced [0x26a]), (0x1da7, .replaced [0x1d7b]),
     (0x1da8, .replaced [0x29d]), (0x1da9, .replaced [0x26d]), (0x1daa, .replaced [0x1d85]),
     (0x1dab, .replaced [0x29f]), (0x1dac, .replaced [0x271]), (0x1dad, .replaced [0x270]),
     (0x1dae, .replaced [0x272]), (0x1daf, .replaced [0x273]), (0x1db0, .replaced [0x274]),
     (0x1db1, .replaced [0x275]), (0x1db2, .replaced [0x278]), (0x1db3, .replaced [0x282]),
     (0x1db4, .replaced [0x283]), (0x1db5, .replaced [0x1ab]), (0x1db6, .replaced [0x289]),
     (0x1db7, .replaced [0x28a]), (0x1db8, .replaced [0x1d1c]), (0x1db9, .replaced [0x28b]),
     (0x1dba, .replaced [0x28c]), (0x1dbb, .replaced [0x7a]), (0x1dbc, .replaced [0x290]),
     (0x1dbd, .replaced [0x291]), (0x1dbe, .replaced [0x292]), (0x1dbf, .replaced [0x3b8]),
     (0x1dc0, .kept), (0x1e00, .replaced [0x1e01]), (0x1e01, .kept), (0x1e02, .replaced [0x1e03]),
     (0x1e03, .kept), (0x1e04, .replaced [0x1e05]), (0x1e05, .kept), (0x1e06, .replaced [0x1e07]),
     (0x1e07, .kept), (0x1e08, .replaced [0x1e09]), (0x1e09, .kept), (0x1e0a, .replaced [0x1e0b])],
    [(0x1e0b, .kept), (0x1e0c, .replaced [0x1e0d]), (0x1e0d, .kept), (0x1e0e, .replaced [0x1e0f]),
     (0x1e0f, .kept), (0x1e10, .replaced [0x1e11]), (0x1e11, .kept), (0x1e12, .replaced [0x1e13]),
     (0x1e13, .kept), (0x1e14, .replaced [0x1e15]), (0x1e15, .kept), (0x1e16, .replaced [0x1e17]),
     (0x1e17, .kept), (0x1e18, .replaced [0x1e19]), (0x1e19, .kept), (0x1e1a, .replaced [0x1e1b]),
     (0x1e1b, .kept), (0x1e1c, .replaced [0x1e1d]), (0x1e1d, .kept), (0x1e1e, .replaced [0x1e1f]),
     (0x1e1f, .kept), (0x1e20, .replaced [0x1e21]), (0x1e21, .kept), (0x1e22, .replaced [0x1e23]),
     (0x1e23, .kept), (0x1e24, .replaced [0x1e25]), (0x1e25, .kept), (0x1e26, .replaced [0x1e27]),
     (0x1e27, .kept), (0x1e28, .replaced [0x1e29]), (0x1e29, .kept), (0x1e2a, .replaced [0x1e2b]),
     (0x1e2b, .kept), (0x1e2c, .replaced [0x1e2d]), (0x1e2d, .kept), (0x1e2e, .replaced [0x1e2f]),
     (0x1e2f, .kept), (0x1e30, .replaced [0x1e31]), (0x1e31, .kept), (0x1e32, .replaced [0x1e33]),
     (0x1e33, .kept), (0x1e34, .replaced [0x1e35]), (0x1e35, .kept), (0x1e36, .replaced [0x1e37]),
     (0x1e37, .kept), (0x1e38, .replaced [0x1e39]), (0x1e39, .kept), (0x1e3a, .replaced [0x1e3b]),
     (0x1e3b, .kept), (0x1e3c, .replaced [0x1e3d]), (0x1e3d, .kept), (0x1e3e, .replaced [0x1e3f]),
     (0x1e3f, .kept), (0x1e40, .replaced [0x1e41]), (0x1e41, .kept), (0x1e42, .replaced [0x1e43]),
     (0x1e43, .kept), (0x1e44, .replaced [0x1e45]), (0x1e45, .kept), (0x1e46, .replaced [0x1e47])],
    [(0x1e47, .kept), (0x1e48, .replaced [0x1e49]), (0x1e49, .kept), (0x1e4a, .replaced [0x1e4b]),
     (0x1e4b, .kept), (0x1e4c, .replaced [0x1e4d]), (0x1e4d, .kept), (0x1e4e, .replaced [0x1e4f]),
     (0x1e4f, .kept), (0x1e50, .replaced [0x1e51]), (0x1e51, .kept), (0x1e52, .replaced [0x1e53]),
     (0x1e53, .kept), (0x1e54, .replaced [0x1e55]), (0x1e55, .kept), (0x1e56, .replaced [0x1e57]),
     (0x1e57, .kept), (0x1e58, .replaced [0x1e59]), (0x1e59, .kept), (0x1e5a, .replaced [0x1e5b]),
     (0x1e5b, .kept), (0x1e5c, .replaced [0x1e5d]), (0x1e5d, .kept), (0x1e5e, .replaced [0x1e5f]),
     (0x1e5f, .kept), (0x1e60, .replaced [0x1e61]), (0x1e61, .kept), (0x1e62, .replaced [0x1e63]),
     (0x1e63, .kept), (0x1e64, .replaced [0x1e65]), (0x1e65, .kept), (0x1e66, .replaced [0x1e67]),
     (0x1e67, .kept), (0x1e68, .replaced [0x1e69]), (0x1e69, .kept), (0x1e6a, .replaced [0x1e6b]),
     (0x1e6b, .kept), (0x1e6c, .replaced [0x1e6d]), (0x1e6d, .kept), (0x1e6e, .replaced [0x1e6f]),
     (0x1e6f, .kept), (0x1e70, .replaced [0x1e71]), (0x1e71, .kept), (0x1e72, .replaced [0x1e73]),
     (0x1e73, .kept), (0x1e74, .replaced [0x1e75]), (0x1e75, .kept), (0x1e76, .replaced [0x1e77]),
     (0x1e77, .kept), (0x1e78, .replaced [0x1e79]), (0x1e79, .kept), (0x1e7a, .replaced [0x1e7b]),
     (0x1e7b, .kept), (0x1e7c, .replaced [0x1e7d]), (0x1e7d, .kept), (0x1e7e, .replaced [0x1e7f]),
     (0x1e7f, .kept), (0x1e80, .replaced [0x1e81]), (0x1e81, .kept), (0x1e82, .replaced [0x1e83])],
    [(0x1e83, .kept), (0x1e84, .replaced [0x1e85]), (0x1e85, .kept), (0x1e86, .replaced [0x1e87]),
     (0x1e87, .kept), (0x1e88, .replaced [0x1e89]), (0x1e89, .kept), (0x1e8a, .replaced [0x1e8b]),
     (0x1e8b, .kept), (0x1e8c, .replaced [0x1e8d]), (0x1e8d, .kept), (0x1e8e, .replaced [0x1e8f]),
     (0x1e8f, .kept), (0x1e90, .replaced [0x1e91]), (0x1e91, .kept), (0x1e92, .replaced [0x1e93]),
     (0x1e93, .kept), (0x1e94, .replaced [0x1e95]), (0x1e95, .kept),
     (0x1e9a, .replaced [0x61, 0x2be]), (0x1e9b, .replaced [0x1e61]), (0x1e9c, .kept),
     (0x1e9e, .replaced [0xdf]), (0x1e9f, .kept), (0x1ea0, .replaced [0x1ea1]), (0x1ea1, .kept),
     (0x1ea2, .replaced [0x1ea3]), (0x1ea3, .kept), (0x1ea4, .replaced [0x1ea5]), (0x1ea5, .kept),
     (0x1ea6, .replaced [0x1ea7]), (0x1ea7, .kept), (0x1ea8, .replaced [0x1ea9]), (0x1ea9, .kept),
     (0x1eaa, .replaced [0x1eab]), (0x1eab, .kept), (0x1eac, .replaced [0x1ead]), (0x1ead, .kept),
     (0x1eae, .replaced [0x1eaf]), (0x1eaf, .kept), (0x1eb0, .replaced [0x1eb1]), (0x1eb1, .kept),
     (0x1eb2, .replaced [0x1eb3]), (0x1eb3, .kept), (0x1eb4, .replaced [0x1eb5]), (0x1eb5, .kept),
     (0x1eb6, .replaced [0x1eb7]), (0x1eb7, .kept), (0x1eb8, .replaced [0x1eb9]), (0x1eb9, .kept),
     (0x1eba, .replaced [0x1ebb]), (0x1ebb, .kept), (0x1ebc, .replaced [0x1ebd]), (0x1ebd, .kept),
     (0x1ebe, .replaced [0x1ebf]), (0x1ebf, .kept), (0x1ec0, .replaced [0x1ec1]), (0x1ec1, .kept),
     (0x1ec2, .replaced [0x1ec3]), (0x1ec3, .kept)],
    [(0x1ec4, .replaced [0x1ec5]), (0x1ec5, .kept), (0x1ec6, .replaced [0x1ec7]), (0x1ec7, .kept),
     (0x1ec8, .replaced [0x1ec9]), (0x1ec9, .kept), (0x1eca, .replaced [0x1ecb]), (0x1ecb, .kept),
     (0x1ecc, .replaced [0x1ecd]), (0x1ecd, .kept), (0x1ece, .replaced [0x1ecf]), (0x1ecf, .kept),
     (0x1ed0, .replaced [0x1ed1]), (0x1ed1, .kept), (0x1ed2, .replaced [0x1ed3]), (0x1ed3, .kept),
     (0x1ed4, .replaced [0x1ed5]), (0x1ed5, .kept), (0x1ed6, .replaced [0x1ed7]), (0x1ed7, .kept),
     (0x1ed8, .replaced [0x1ed9]), (0x1ed9, .kept), (0x1eda, .replaced [0x1edb]), (0x1edb, .kept),
     (0x1edc, .replaced [0x1edd]), (0x1edd, .kept), (0x1ede, .replaced [0x1edf]), (0x1edf, .kept),
     (0x1ee0, .replaced [0x1ee1]), (0x1ee1, .kept), (0x1ee2, .replaced [0x1ee3]), (0x1ee3, .kept),
     (0x1ee4, .replaced [0x1ee5]), (0x1ee5, .kept), (0x1ee6, .replaced [0x1ee7]), (0x1ee7, .kept),
     (0x1ee8, .replaced [0x1ee9]), (0x1ee9, .kept), (0x1eea, .replaced [0x1eeb]), (0x1eeb, .kept),
     (0x1eec, .replaced [0x1eed]), (0x1eed, .kept), (0x1eee, .replaced [0x1eef]), (0x1eef, .kept),
     (0x1ef0, .replaced [0x1ef1]), (0x1ef1, .kept), (0x1ef2, .replaced [0x1ef3]), (0x1ef3, .kept),
     (0x1ef4, .replaced [0x1ef5]), (0x1ef5, .kept), (0x1ef6, .replaced [0x1ef7]), (0x1ef7, .kept),
     (0x1ef8, .replaced [0x1ef9]), (0x1ef9, .kept), (0x1efa, .replaced [0x1efb]), (0x1efb, .kept),
     (0x1efc, .replaced [0x1efd]), (0x1efd, .kept), (0x1efe, .replaced [0x1eff]), (0x1eff, .kept)],
    [(0x1f08, .replaced [0x1f00]), (0x1f09, .replaced [0x1f01]), (0x1f0a, .replaced [0x1f02]),
     (0x1f0b, .replaced [0x1f03]), (0x1f0c, .replaced [0x1f04]), (0x1f0d, .replaced [0x1f05]),
     (0x1f0e, .replaced [0x1f06]), (0x1f0f, .replaced [0x1f07]), (0x1f10, .kept),
     (0x1f16, .refused), (0x1f18, .replaced [0x1f10]), (0x1f19, .replaced [0x1f11]),
     (0x1f1a, .replaced [0x1f12]), (0x1f1b, .replaced [0x1f13]), (0x1f1c, .replaced [0x1f14]),
     (0x1f1d, .replaced [0x1f15]), (0x1f1e, .refused), (0x1f20, .kept),
     (0x1f28, .replaced [0x1f20]), (0x1f29, .replaced [0x1f21]), (0x1f2a, .replaced [0x1f22]),
     (0x1f2b, .replaced [0x1f23]), (0x1f2c, .replaced [0x1f24]), (0x1f2d, .replaced [0x1f25]),
     (0x1f2e, .replaced [0x1f26]), (0x1f2f, .replaced [0x1f27]), (0x1f30, .kept),
     (0x1f38, .replaced [0x1f30]), (0x1f39, .replaced [0x1f31]), (0x1f3a, .replaced [0x1f32]),
     (0x1f3b, .replaced [0x1f33]), (0x1f3c, .replaced [0x1f34]), (0x1f3d, .replaced [0x1f35]),
     (0x1f3e, .replaced [0x1f36]), (0x1f3f, .replaced [0x1f37]), (0x1f40, .kept),
     (0x1f46, .refused), (0x1f48, .replaced [0x1f40]), (0x1f49, .replaced [0x1f41]),
     (0x1f4a, .replaced [0x1f42]), (0x1f4b, .replaced [0x1f43]), (0x1f4c, .replaced [0x1f44]),
     (0x1f4d, .replaced [0x1f45]), (0x1f4e, .refused), (0x1f50, .kept), (0x1f58, .refused),
     (0x1f59, .replaced [0x1f51]), (0x1f5a, .refused), (0x1f5b, .replaced [0x1f53]),
     (0x1f5c, .refused), (0x1f5d, .replaced [0x1f55]), (0x1f5e, .refused),
     (0x1f5f, .replaced [0x1f57]), (0x1f60, .kept), (0x1f68, .replaced [0x1f60]),
     (0x1f69, .replaced [0x1f61]), (0x1f6a, .replaced [0x1f62]), (0x1f6b, .replaced [0x1f63]),
     (0x1f6c, .replaced [0x1f64]), (0x1f6d, .replaced [0x1f65])],
    [(0x1f6e, .replaced [0x1f66]), (0x1f6f, .replaced [0x1f67]), (0x1f70, .kept),
     (0x1f71, .replaced [0x3ac]), (0x1f72, .kept), (0x1f73, .replaced [0x3ad]), (0x1f74, .kept),
     (0x1f75, .replaced [0x3ae]), (0x1f76, .kept), (0x1f77, .replaced [0x3af]), (0x1f78, .kept),
     (0x1f79, .replaced [0x3cc]), (0x1f7a, .kept), (0x1f7b, .replaced [0x3cd]), (0x1f7c, .kept),
     (0x1f7d, .replaced [0x3ce]), (0x1f7e, .refused), (0x1f80, .replaced [0x1f00, 0x3b9]),
     (0x1f81, .replaced [0x1f01, 0x3b9]), (0x1f82, .replaced [0x1f02, 0x3b9]),
     (0x1f83, .replaced [0x1f03, 0x3b9]), (0x1f84, .replaced [0x1f04, 0x3b9]),
     (0x1f85, .replaced [0x1f05, 0x3b9]), (0x1f86, .replaced [0x1f06, 0x3b9]),
     (0x1f87, .replaced [0x1f07, 0x3b9]), (0x1f88, .replaced [0x1f00, 0x3b9]),
     (0x1f89, .replaced [0x1f01, 0x3b9]), (0x1f8a, .replaced [0x1f02, 0x3b9]),
     (0x1f8b, .replaced [0x1f03, 0x3b9]), (0x1f8c, .replaced [0x1f04, 0x3b9]),
     (0x1f8d, .replaced [0x1f05, 0x3b9]), (0x1f8e, .replaced [0x1f06, 0x3b9]),
     (0x1f8f, .replaced [0x1f07, 0x3b9]), (0x1f90, .replaced [0x1f20, 0x3b9]),
     (0x1f91, .replaced [0x1f21, 0x3b9]), (0x1f92, .replaced [0x1f22, 0x3b9]),
     (0x1f93, .replaced [0x1f23, 0x3b9]), (0x1f94, .replaced [0x1f24, 0x3b9]),
     (0x1f95, .replaced [0x1f25, 0x3b9]), (0x1f96, .replaced [0x1f26, 0x3b9]),
     (0x1f97, .replaced [0x1f27, 0x3b9]), (0x1f98, .replaced [0x1f20, 0x3b9]),
     (0x1f99, .replaced [0x1f21, 0x3b9]), (0x1f9a, .replaced [0x1f22, 0x3b9]),
     (0x1f9b, .replaced [0x1f23, 0x3b9]), (0x1f9c, .replaced [0x1f24, 0x3b9]),
     (0x1f9d, .replaced [0x1f25, 0x3b9]), (0x1f9e, .replaced [0x1f26, 0x3b9]),
     (0x1f9f, .replaced [0x1f27, 0x3b9]), (0x1fa0, .replaced [0x1f60, 0x3b9]),
     (0x1fa1, .replaced [0x1f61, 0x3b9]), (0x1fa2, .replaced [0x1f62, 0x3b9]),
     (0x1fa3, .replaced [0x1f63, 0x3b9]), (0x1fa4, .replaced [0x1f64, 0x3b9]),
     (0x1fa5, .replaced [0x1f65, 0x3b9]), (0x1fa6, .replaced [0x1f66, 0x3b9]),
     (0x1fa7, .replaced [0x1f67, 0x3b9]), (0x1fa8, .replaced [0x1f60, 0x3b9]),
     (0x1fa9, .replaced [0x1f61, 0x3b9]), (0x1faa, .replaced [0x1f62, 0x3b9])],
    [(0x1fab, .replaced [0x1f63, 0x3b9]), (0x1fac, .replaced [0x1f64, 0x3b9]),
     (0x1fad, .replaced [0x1f65, 0x3b9]), (0x1fae, .replaced [0x1f66, 0x3b9]),
     (0x1faf, .replaced [0x1f67, 0x3b9]), (0x1fb0, .kept), (0x1fb2, .replaced [0x1f70, 0x3b9]),
     (0x1fb3, .replaced [0x3b1, 0x3b9]), (0x1fb4, .replaced [0x3ac, 0x3b9]), (0x1fb5, .refused),
     (0x1fb6, .kept), (0x1fb7, .replaced [0x1fb6, 0x3b9]), (0x1fb8, .replaced [0x1fb0]),
     (0x1fb9, .replaced [0x1fb1]), (0x1fba, .replaced [0x1f70]), (0x1fbb, .replaced [0x3ac]),
     (0x1fbc, .replaced [0x3b1, 0x3b9]), (0x1fbd, .replaced [0x20, 0x313]),
     (0x1fbe, .replaced [0x3b9]), (0x1fbf, .replaced [0x20, 0x313]),
     (0x1fc0, .replaced [0x20, 0x342]), (0x1fc1, .replaced [0x20, 0x308, 0x342]),
     (0x1fc2, .replaced [0x1f74, 0x3b9]), (0x1fc3, .replaced [0x3b7, 0x3b9]),
     (0x1fc4, .replaced [0x3ae, 0x3b9]), (0x1fc5, .refused), (0x1fc6, .kept),
     (0x1fc7, .replaced [0x1fc6, 0x3b9]), (0x1fc8, .replaced [0x1f72]),
     (0x1fc9, .replaced [0x3ad]), (0x1fca, .replaced [0x1f74]), (0x1fcb, .replaced [0x3ae]),
     (0x1fcc, .replaced [0x3b7, 0x3b9]), (0x1fcd, .replaced [0x20, 0x313, 0x300]),
     (0x1fce, .replaced [0x20, 0x313, 0x301]), (0x1fcf, .replaced [0x20, 0x313, 0x342]),
     (0x1fd0, .kept), (0x1fd3, .replaced [0x390]), (0x1fd4, .refused), (0x1fd6, .kept),
     (0x1fd8, .replaced [0x1fd0]), (0x1fd9, .replaced [0x1fd1]), (0x1fda, .replaced [0x1f76]),
     (0x1fdb, .replaced [0x3af]), (0x1fdc, .refused), (0x1fdd, .replaced [0x20, 0x314, 0x300]),
     (0x1fde, .replaced [0x20, 0x314, 0x301]), (0x1fdf, .replaced [0x20, 0x314, 0x342]),
     (0x1fe0, .kept), (0x1fe3, .replaced [0x3b0]), (0x1fe4, .kept), (0x1fe8, .replaced [0x1fe0]),
     (0x1fe9, .replaced [0x1fe1]), (0x1fea, .replaced [0x1f7a]), (0x1feb, .replaced [0x3cd]),
     (0x1fec, .replaced [0x1fe5]), (0x1fed, .replaced [0x20, 0x308, 0x300]),
     (0x1fee, .replaced [0x20, 0x308, 0x301]), (0x1fef, .replaced [0x60]), (0x1ff0, .refused)],
    [(0x1ff2, .replaced [0x1f7c, 0x3b9]), (0x1ff3, .replaced [0x3c9, 0x3b9]),
     (0x1ff4, .replaced [0x3ce, 0x3b9]), (0x1ff5, .refused), (0x1ff6, .kept),
     (0x1ff7, .replaced [0x1ff6, 0x3b9]), (0x1ff8, .replaced [0x1f78]),
     (0x1ff9, .replaced [0x3cc]), (0x1ffa, .replaced [0x1f7c]), (0x1ffb, .replaced [0x3ce]),
     (0x1ffc, .replaced [0x3c9, 0x3b9]), (0x1ffd, .replaced [0x20, 0x301]),
     (0x1ffe, .replaced [0x20, 0x314]), (0x1fff, .refused)]]

set_option maxRecDepth 20000 in
def fatesFrom2000 : Text.Runs Fate :=
  List.flatten [
    [(0x2000, .replaced [0x20]), (0x200b, .dropped), (0x200c, .kept), (0x200e, .refused),
     (0x2010, .kept), (0x2011, .replaced [0x2010]), (0x2012, .kept),
     (0x2017, .replaced [0x20, 0x333]), (0x2018, .kept), (0x2024, .refused), (0x2027, .kept),
     (0x2028, .refused), (0x202f, .replaced [0x20]), (0x2030, .kept),
     (0x2033, .replaced [0x2032, 0x2032]), (0x2034, .replaced [0x2032, 0x2032, 0x2032]),
     (0x2035, .kept), (0x2036, .replaced [0x2035, 0x2035]),
     (0x2037, .replaced [0x2035, 0x2035, 0x2035]), (0x2038, .kept),
     (0x203c, .replaced [0x21, 0x21]), (0x203d, .kept), (0x203e, .replaced [0x20, 0x305]),
     (0x203f, .kept), (0x2047, .replaced [0x3f, 0x3f]), (0x2048, .replaced [0x3f, 0x21]),
     (0x2049, .replaced [0x21, 0x3f]), (0x204a, .kept),
     (0x2057, .replaced [0x2032, 0x2032, 0x2032, 0x2032]), (0x2058, .kept),
     (0x205f, .replaced [0x20]), (0x2060, .dropped), (0x2061, .refused), (0x2064, .dropped),
     (0x2065, .refused), (0x2070, .replaced [0x30]), (0x2071, .replaced [0x69]),
     (0x2072, .refused), (0x2074, .replaced [0x34]), (0x2075, .replaced [0x35]),
     (0x2076, .replaced [0x36]), (0x2077, .replaced [0x37]), (0x2078, .replaced [0x38]),
     (0x2079, .replaced [0x39]), (0x207a, .replaced [0x2b]), (0x207b, .replaced [0x2212]),
     (0x207c, .replaced [0x3d]), (0x207d, .replaced [0x28]), (0x207e, .replaced [0x29]),
     (0x207f, .replaced [0x6e]), (0x2080, .replaced [0x30]), (0x2081, .replaced [0x31]),
     (0x2082, .replaced [0x32]), (0x2083, .replaced [0x33]), (0x2084, .replaced [0x34]),
     (0x2085, .replaced [0x35]), (0x2086, .replaced [0x36]), (0x2087, .replaced [0x37]),
     (0x2088, .replaced [0x38]), (0x2089, .replaced [0x39])],
    [(0x208a, .replaced [0x2b]), (0x208b, .replaced [0x2212]), (0x208c, .replaced [0x3d]),
     (0x208d, .replaced [0x28]), (0x208e, .replaced [0x29]), (0x208f, .refused),
     (0x2090, .replaced [0x61]), (0x2091, .replaced [0x65]), (0x2092, .replaced [0x6f]),
     (0x2093, .replaced [0x78]), (0x2094, .replaced [0x259]), (0x2095, .replaced [0x68]),
     (0x2096, .replaced [0x6b]), (0x2097, .replaced [0x6c]), (0x2098, .replaced [0x6d]),
     (0x2099, .replaced [0x6e]), (0x209a, .replaced [0x70]), (0x209b, .replaced [0x73]),
     (0x209c, .replaced [0x74]), (0x209d, .refused), (0x20a0, .kept),
     (0x20a8, .replaced [0x72, 0x73]), (0x20a9, .kept), (0x20c1, .refused), (0x20d0, .kept),
     (0x20f1, .refused), (0x2100, .replaced [0x61, 0x2f, 0x63]),
     (0x2101, .replaced [0x61, 0x2f, 0x73]), (0x2102, .replaced [0x63]),
     (0x2103, .replaced [0xb0, 0x63]), (0x2104, .kept), (0x2105, .replaced [0x63, 0x2f, 0x6f]),
     (0x2106, .replaced [0x63, 0x2f, 0x75]), (0x2107, .replaced [0x25b]), (0x2108, .kept),
     (0x2109, .replaced [0xb0, 0x66]), (0x210a, .replaced [0x67]), (0x210b, .replaced [0x68]),
     (0x210f, .replaced [0x127]), (0x2110, .replaced [0x69]), (0x2112, .replaced [0x6c]),
     (0x2114, .kept), (0x2115, .replaced [0x6e]), (0x2116, .replaced [0x6e, 0x6f]),
     (0x2117, .kept), (0x2119, .replaced [0x70]), (0x211a, .replaced [0x71]),
     (0x211b, .replaced [0x72]), (0x211e, .kept), (0x2120, .replaced [0x73, 0x6d]),
     (0x2121, .replaced [0x74, 0x65, 0x6c]), (0x2122, .replaced [0x74, 0x6d]), (0x2123, .kept),
     (0x2124, .replaced [0x7a]), (0x2125, .kept), (0x2126, .replaced [0x3c9]), (0x2127, .kept),
     (0x2128, .replaced [0x7a]), (0x2129, .kept), (0x212a, .replaced [0x6b])],
    [(0x212b, .replaced [0xe5]), (0x212c, .replaced [0x62]), (0x212d, .replaced [0x63]),
     (0x212e, .kept), (0x212f, .replaced [0x65]), (0x2131, .replaced [0x66]), (0x2132, .refused),
     (0x2133, .replaced [0x6d]), (0x2134, .replaced [0x6f]), (0x2135, .replaced [0x5d0]),
     (0x2136, .replaced [0x5d1]), (0x2137, .replaced [0x5d2]), (0x2138, .replaced [0x5d3]),
     (0x2139, .replaced [0x69]), (0x213a, .kept), (0x213b, .replaced [0x66, 0x61, 0x78]),
     (0x213c, .replaced [0x3c0]), (0x213d, .replaced [0x3b3]), (0x213f, .replaced [0x3c0]),
     (0x2140, .replaced [0x2211]), (0x2141, .kept), (0x2145, .replaced [0x64]),
     (0x2147, .replaced [0x65]), (0x2148, .replaced [0x69]), (0x2149, .replaced [0x6a]),
     (0x214a, .kept), (0x2150, .replaced [0x31, 0x2044, 0x37]),
     (0x2151, .replaced [0x31, 0x2044, 0x39]), (0x2152, .replaced [0x31, 0x2044, 0x31, 0x30]),
     (0x2153, .replaced [0x31, 0x2044, 0x33]), (0x2154, .replaced [0x32, 0x2044, 0x33]),
     (0x2155, .replaced [0x31, 0x2044, 0x35]), (0x2156, .replaced [0x32, 0x2044, 0x35]),
     (0x2157, .replaced [0x33, 0x2044, 0x35]), (0x2158, .replaced [0x34, 0x2044, 0x35]),
     (0x2159, .replaced [0x31, 0x2044, 0x36]), (0x215a, .replaced [0x35, 0x2044, 0x36]),
     (0x215b, .replaced [0x31, 0x2044, 0x38]), (0x215c, .replaced [0x33, 0x2044, 0x38]),
     (0x215d, .replaced [0x35, 0x2044, 0x38]), (0x215e, .replaced [0x37, 0x2044, 0x38]),
     (0x215f, .replaced [0x31, 0x2044]), (0x2160, .replaced [0x69]),
     (0x2161, .replaced [0x69, 0x69]), (0x2162, .replaced [0x69, 0x69, 0x69]),
     (0x2163, .replaced [0x69, 0x76]), (0x2164, .replaced [0x76]),
     (0x2165, .replaced [0x76, 0x69]), (0x2166, .replaced [0x76, 0x69, 0x69]),
     (0x2167, .replaced [0x76, 0x69, 0x69, 0x69]), (0x2168, .replaced [0x69, 0x78]),
     (0x2169, .replaced [0x78]), (0x216a, .replaced [0x78, 0x69]),
     (0x216b, .replaced [0x78, 0x69, 0x69]), (0x216c, .replaced [0x6c]),
     (0x216d, .replaced [0x63]), (0x216e, .replaced [0x64]), (0x216f, .replaced [0x6d]),
     (0x2170, .replaced [0x69]), (0x2171, .replaced [0x69, 0x69])],
    [(0x2172, .replaced [0x69, 0x69, 0x69]), (0x2173, .replaced [0x69, 0x76]),
     (0x2174, .replaced [0x76]), (0x2175, .replaced [0x76, 0x69]),
     (0x2176, .replaced [0x76, 0x69, 0x69]), (0x2177, .replaced [0x76, 0x69, 0x69, 0x69]),
     (0x2178, .replaced [0x69, 0x78]), (0x2179, .replaced [0x78]),
     (0x217a, .replaced [0x78, 0x69]), (0x217b, .replaced [0x78, 0x69, 0x69]),
     (0x217c, .replaced [0x6c]), (0x217d, .replaced [0x63]), (0x217e, .replaced [0x64]),
     (0x217f, .replaced [0x6d]), (0x2180, .kept), (0x2183, .refused), (0x2184, .kept),
     (0x2189, .replaced [0x30, 0x2044, 0x33]), (0x218a, .kept), (0x218c, .refused),
     (0x2190, .kept), (0x222c, .replaced [0x222b, 0x222b]),
     (0x222d, .replaced [0x222b, 0x222b, 0x222b]), (0x222e, .kept),
     (0x222f, .replaced [0x222e, 0x222e]), (0x2230, .replaced [0x222e, 0x222e, 0x222e]),
     (0x2231, .kept), (0x2329, .replaced [0x3008]), (0x232a, .replaced [0x3009]), (0x232b, .kept),
     (0x2427, .refused), (0x2440, .kept), (0x244b, .refused), (0x2460, .replaced [0x31]),
     (0x2461, .replaced [0x32]), (0x2462, .replaced [0x33]), (0x2463, .replaced [0x34]),
     (0x2464, .replaced [0x35]), (0x2465, .replaced [0x36]), (0x2466, .replaced [0x37]),
     (0x2467, .replaced [0x38]), (0x2468, .replaced [0x39]), (0x2469, .replaced [0x31, 0x30]),
     (0x246a, .replaced [0x31, 0x31]), (0x246b, .replaced [0x31, 0x32]),
     (0x246c, .replaced [0x31, 0x33]), (0x246d, .replaced [0x31, 0x34]),
     (0x246e, .replaced [0x31, 0x35]), (0x246f, .replaced [0x31, 0x36]),
     (0x2470, .replaced [0x31, 0x37]), (0x2471, .replaced [0x31, 0x38]),
     (0x2472, .replaced [0x31, 0x39]), (0x2473, .replaced [0x32, 0x30]),
     (0x2474, .replaced [0x28, 0x31, 0x29]), (0x2475, .replaced [0x28, 0x32, 0x29]),
     (0x2476, .replaced [0x28, 0x33, 0x29]), (0x2477, .replaced [0x28, 0x34, 0x29]),
     (0x2478, .replaced [0x28, 0x35, 0x29]), (0x2479, .replaced [0x28, 0x36, 0x29]),
     (0x247a, .replaced [0x28, 0x37, 0x29])],
    [(0x247b, .replaced [0x28, 0x38, 0x29]), (0x247c, .replaced [0x28, 0x39, 0x29]),
     (0x247d, .replaced [0x28, 0x31, 0x30, 0x29]), (0x247e, .replaced [0x28, 0x31, 0x31, 0x29]),
     (0x247f, .replaced [0x28, 0x31, 0x32, 0x29]), (0x2480, .replaced [0x28, 0x31, 0x33, 0x29]),
     (0x2481, .replaced [0x28, 0x31, 0x34, 0x29]), (0x2482, .replaced [0x28, 0x31, 0x35, 0x29]),
     (0x2483, .replaced [0x28, 0x31, 0x36, 0x29]), (0x2484, .replaced [0x28, 0x31, 0x37, 0x29]),
     (0x2485, .replaced [0x28, 0x31, 0x38, 0x29]), (0x2486, .replaced [0x28, 0x31, 0x39, 0x29]),
     (0x2487, .replaced [0x28, 0x32, 0x30, 0x29]), (0x2488, .refused),
     (0x249c, .replaced [0x28, 0x61, 0x29]), (0x249d, .replaced [0x28, 0x62, 0x29]),
     (0x249e, .replaced [0x28, 0x63, 0x29]), (0x249f, .replaced [0x28, 0x64, 0x29]),
     (0x24a0, .replaced [0x28, 0x65, 0x29]), (0x24a1, .replaced [0x28, 0x66, 0x29]),
     (0x24a2, .replaced [0x28, 0x67, 0x29]), (0x24a3, .replaced [0x28, 0x68, 0x29]),
     (0x24a4, .replaced [0x28, 0x69, 0x29]), (0x24a5, .replaced [0x28, 0x6a, 0x29]),
     (0x24a6, .replaced [0x28, 0x6b, 0x29]), (0x24a7, .replaced [0x28, 0x6c, 0x29]),
     (0x24a8, .replaced [0x28, 0x6d, 0x29]), (0x24a9, .replaced [0x28, 0x6e, 0x29]),
     (0x24aa, .replaced [0x28, 0x6f, 0x29]), (0x24ab, .replaced [0x28, 0x70, 0x29]),
     (0x24ac, .replaced [0x28, 0x71, 0x29]), (0x24ad, .replaced [0x28, 0x72, 0x29]),
     (0x24ae, .replaced [0x28, 0x73, 0x29]), (0x24af, .replaced [0x28, 0x74, 0x29]),
     (0x24b0, .replaced [0x28, 0x75, 0x29]), (0x24b1, .replaced [0x28, 0x76, 0x29]),
     (0x24b2, .replaced [0x28, 0x77, 0x29]), (0x24b3, .replaced [0x28, 0x78, 0x29]),
     (0x24b4, .replaced [0x28, 0x79, 0x29]), (0x24b5, .replaced [0x28, 0x7a, 0x29]),
     (0x24b6, .replaced [0x61]), (0x24b7, .replaced [0x62]), (0x24b8, .replaced [0x63]),
     (0x24b9, .replaced [0x64]), (0x24ba, .replaced [0x65]), (0x24bb, .replaced [0x66]),
     (0x24bc, .replaced [0x67]), (0x24bd, .replaced [0x68]), (0x24be, .replaced [0x69]),
     (0x24bf, .replaced [0x6a]), (0x24c0, .replaced [0x6b]), (0x24c1, .replaced [0x6c]),
     (0x24c2, .replaced [0x6d]), (0x24c3, .replaced [0x6e]), (0x24c4, .replaced [0x6f]),
     (0x24c5, .replaced [0x70]), (0x24c6, .replaced [0x71]), (0x24c7, .replaced [0x72]),
     (0x24c8, .replaced [0x73]), (0x24c9, .replaced [0x74])],
    [(0x24ca, .replaced [0x75]), (0x24cb, .replaced [0x76]), (0x24cc, .replaced [0x77]),
     (0x24cd, .replaced [0x78]), (0x24ce, .replaced [0x79]), (0x24cf, .replaced [0x7a]),
     (0x24d0, .replaced [0x61]), (0x24d1, .replaced [0x62]), (0x24d2, .replaced [0x63]),
     (0x24d3, .replaced [0x64]), (0x24d4, .replaced [0x65]), (0x24d5, .replaced [0x66]),
     (0x24d6, .replaced [0x67]), (0x24d7, .replaced [0x68]), (0x24d8, .replaced [0x69]),
     (0x24d9, .replaced [0x6a]), (0x24da, .replaced [0x6b]), (0x24db, .replaced [0x6c]),
     (0x24dc, .replaced [0x6d]), (0x24dd, .replaced [0x6e]), (0x24de, .replaced [0x6f]),
     (0x24df, .replaced [0x70]), (0x24e0, .replaced [0x71]), (0x24e1, .replaced [0x72]),
     (0x24e2, .replaced [0x73]), (0x24e3, .replaced [0x74]), (0x24e4, .replaced [0x75]),
     (0x24e5, .replaced [0x76]), (0x24e6, .replaced [0x77]), (0x24e7, .replaced [0x78]),
     (0x24e8, .replaced [0x79]), (0x24e9, .replaced [0x7a]), (0x24ea, .replaced [0x30]),
     (0x24eb, .kept), (0x2a0c, .replaced [0x222b, 0x222b, 0x222b, 0x222b]), (0x2a0d, .kept),
     (0x2a74, .replaced [0x3a, 0x3a, 0x3d]), (0x2a75, .replaced [0x3d, 0x3d]),
     (0x2a76, .replaced [0x3d, 0x3d, 0x3d]), (0x2a77, .kept), (0x2adc, .replaced [0x2add, 0x338]),
     (0x2add, .kept), (0x2b74, .refused), (0x2b76, .kept), (0x2b96, .refused), (0x2b97, .kept),
     (0x2c00, .replaced [0x2c30]), (0x2c01, .replaced [0x2c31]), (0x2c02, .replaced [0x2c32]),
     (0x2c03, .replaced [0x2c33]), (0x2c04, .replaced [0x2c34]), (0x2c05, .replaced [0x2c35]),
     (0x2c06, .replaced [0x2c36]), (0x2c07, .replaced [0x2c37]), (0x2c08, .replaced [0x2c38]),
     (0x2c09, .replaced [0x2c39]), (0x2c0a, .replaced [0x2c3a]), (0x2c0b, .replaced [0x2c3b]),
     (0x2c0c, .replaced [0x2c3c]), (0x2c0d, .replaced [0x2c3d])],
    [(0x2c0e, .replaced [0x2c3e]), (0x2c0f, .replaced [0x2c3f]), (0x2c10, .replaced [0x2c40]),
     (0x2c11, .replaced [0x2c41]), (0x2c12, .replaced [0x2c42]), (0x2c13, .replaced [0x2c43]),
     (0x2c14, .replaced [0x2c44]), (0x2c15, .replaced [0x2c45]), (0x2c16, .replaced [0x2c46]),
     (0x2c17, .replaced [0x2c47]), (0x2c18, .replaced [0x2c48]), (0x2c19, .replaced [0x2c49]),
     (0x2c1a, .replaced [0x2c4a]), (0x2c1b, .replaced [0x2c4b]), (0x2c1c, .replaced [0x2c4c]),
     (0x2c1d, .replaced [0x2c4d]), (0x2c1e, .replaced [0x2c4e]), (0x2c1f, .replaced [0x2c4f]),
     (0x2c20, .replaced [0x2c50]), (0x2c21, .replaced [0x2c51]), (0x2c22, .replaced [0x2c52]),
     (0x2c23, .replaced [0x2c53]), (0x2c24, .replaced [0x2c54]), (0x2c25, .replaced [0x2c55]),
     (0x2c26, .replaced [0x2c56]), (0x2c27, .replaced [0x2c57]), (0x2c28, .replaced [0x2c58]),
     (0x2c29, .replaced [0x2c59]), (0x2c2a, .replaced [0x2c5a]), (0x2c2b, .replaced [0x2c5b]),
     (0x2c2c, .replaced [0x2c5c]), (0x2c2d, .replaced [0x2c5d]), (0x2c2e, .replaced [0x2c5e]),
     (0x2c2f, .replaced [0x2c5f]), (0x2c30, .kept), (0x2c60, .replaced [0x2c61]), (0x2c61, .kept),
     (0x2c62, .replaced [0x26b]), (0x2c63, .replaced [0x1d7d]), (0x2c64, .replaced [0x27d]),
     (0x2c65, .kept), (0x2c67, .replaced [0x2c68]), (0x2c68, .kept), (0x2c69, .replaced [0x2c6a]),
     (0x2c6a, .kept), (0x2c6b, .replaced [0x2c6c]), (0x2c6c, .kept), (0x2c6d, .replaced [0x251]),
     (0x2c6e, .replaced [0x271]), (0x2c6f, .replaced [0x250]), (0x2c70, .replaced [0x252]),
     (0x2c71, .kept), (0x2c72, .replaced [0x2c73]), (0x2c73, .kept), (0x2c75, .replaced [0x2c76]),
     (0x2c76, .kept), (0x2c7c, .replaced [0x6a]), (0x2c7d, .replaced [0x76]),
     (0x2c7e, .replaced [0x23f]), (0x2c7f, .replaced [0x240])],
    [(0x2c80, .replaced [0x2c81]), (0x2c81, .kept), (0x2c82, .replaced [0x2c83]), (0x2c83, .kept),
     (0x2c84, .replaced [0x2c85]), (0x2c85, .kept), (0x2c86, .replaced [0x2c87]), (0x2c87, .kept),
     (0x2c88, .replaced [0x2c89]), (0x2c89, .kept), (0x2c8a, .replaced [0x2c8b]), (0x2c8b, .kept),
     (0x2c8c, .replaced [0x2c8d]), (0x2c8d, .kept), (0x2c8e, .replaced [0x2c8f]), (0x2c8f, .kept),
     (0x2c90, .replaced [0x2c91]), (0x2c91, .kept), (0x2c92, .replaced [0x2c93]), (0x2c93, .kept),
     (0x2c94, .replaced [0x2c95]), (0x2c95, .kept), (0x2c96, .replaced [0x2c97]), (0x2c97, .kept),
     (0x2c98, .replaced [0x2c99]), (0x2c99, .kept), (0x2c9a, .replaced [0x2c9b]), (0x2c9b, .kept),
     (0x2c9c, .replaced [0x2c9d]), (0x2c9d, .kept), (0x2c9e, .replaced [0x2c9f]), (0x2c9f, .kept),
     (0x2ca0, .replaced [0x2ca1]), (0x2ca1, .kept), (0x2ca2, .replaced [0x2ca3]), (0x2ca3, .kept),
     (0x2ca4, .replaced [0x2ca5]), (0x2ca5, .kept), (0x2ca6, .replaced [0x2ca7]), (0x2ca7, .kept),
     (0x2ca8, .replaced [0x2ca9]), (0x2ca9, .kept), (0x2caa, .replaced [0x2cab]), (0x2cab, .kept),
     (0x2cac, .replaced [0x2cad]), (0x2cad, .kept), (0x2cae, .replaced [0x2caf]), (0x2caf, .kept),
     (0x2cb0, .replaced [0x2cb1]), (0x2cb1, .kept), (0x2cb2, .replaced [0x2cb3]), (0x2cb3, .kept),
     (0x2cb4, .replaced [0x2cb5]), (0x2cb5, .kept), (0x2cb6, .replaced [0x2cb7]), (0x2cb7, .kept),
     (0x2cb8, .replaced [0x2cb9]), (0x2cb9, .kept), (0x2cba, .replaced [0x2cbb]), (0x2cbb, .kept)],
    [(0x2cbc, .replaced [0x2cbd]), (0x2cbd, .kept), (0x2cbe, .replaced [0x2cbf]), (0x2cbf, .kept),
     (0x2cc0, .replaced [0x2cc1]), (0x2cc1, .kept), (0x2cc2, .replaced [0x2cc3]), (0x2cc3, .kept),
     (0x2cc4, .replaced [0x2cc5]), (0x2cc5, .kept), (0x2cc6, .replaced [0x2cc7]), (0x2cc7, .kept),
     (0x2cc8, .replaced [0x2cc9]), (0x2cc9, .kept), (0x2cca, .replaced [0x2ccb]), (0x2ccb, .kept),
     (0x2ccc, .replaced [0x2ccd]), (0x2ccd, .kept), (0x2cce, .replaced [0x2ccf]), (0x2ccf, .kept),
     (0x2cd0, .replaced [0x2cd1]), (0x2cd1, .kept), (0x2cd2, .replaced [0x2cd3]), (0x2cd3, .kept),
     (0x2cd4, .replaced [0x2cd5]), (0x2cd5, .kept), (0x2cd6, .replaced [0x2cd7]), (0x2cd7, .kept),
     (0x2cd8, .replaced [0x2cd9]), (0x2cd9, .kept), (0x2cda, .replaced [0x2cdb]), (0x2cdb, .kept),
     (0x2cdc, .replaced [0x2cdd]), (0x2cdd, .kept), (0x2cde, .replaced [0x2cdf]), (0x2cdf, .kept),
     (0x2ce0, .replaced [0x2ce1]), (0x2ce1, .kept), (0x2ce2, .replaced [0x2ce3]), (0x2ce3, .kept),
     (0x2ceb, .replaced [0x2cec]), (0x2cec, .kept), (0x2ced, .replaced [0x2cee]), (0x2cee, .kept),
     (0x2cf2, .replaced [0x2cf3]), (0x2cf3, .kept), (0x2cf4, .refused), (0x2cf9, .kept),
     (0x2d26, .refused), (0x2d27, .kept), (0x2d28, .refused), (0x2d2d, .kept), (0x2d2e, .refused),
     (0x2d30, .kept), (0x2d68, .refused), (0x2d6f, .replaced [0x2d61]), (0x2d70, .kept),
     (0x2d71, .refused), (0x2d7f, .kept), (0x2d97, .refused)],
    [(0x2da0, .kept), (0x2da7, .refused), (0x2da8, .kept), (0x2daf, .refused), (0x2db0, .kept),
     (0x2db7, .refused), (0x2db8, .kept), (0x2dbf, .refused), (0x2dc0, .kept), (0x2dc7, .refused),
     (0x2dc8, .kept), (0x2dcf, .refused), (0x2dd0, .kept), (0x2dd7, .refused), (0x2dd8, .kept),
     (0x2ddf, .refused), (0x2de0, .kept), (0x2e5e, .refused), (0x2e80, .kept), (0x2e9a, .refused),
     (0x2e9b, .kept), (0x2e9f, .replaced [0x6bcd]), (0x2ea0, .kept), (0x2ef3, .replaced [0x9f9f]),
     (0x2ef4, .refused), (0x2f00, .replaced [0x4e00]), (0x2f01, .replaced [0x4e28]),
     (0x2f02, .replaced [0x4e36]), (0x2f03, .replaced [0x4e3f]), (0x2f04, .replaced [0x4e59]),
     (0x2f05, .replaced [0x4e85]), (0x2f06, .replaced [0x4e8c]), (0x2f07, .replaced [0x4ea0]),
     (0x2f08, .replaced [0x4eba]), (0x2f09, .replaced [0x513f]), (0x2f0a, .replaced [0x5165]),
     (0x2f0b, .replaced [0x516b]), (0x2f0c, .replaced [0x5182]), (0x2f0d, .replaced [0x5196]),
     (0x2f0e, .replaced [0x51ab]), (0x2f0f, .replaced [0x51e0]), (0x2f10, .replaced [0x51f5]),
     (0x2f11, .replaced [0x5200]), (0x2f12, .replaced [0x529b]), (0x2f13, .replaced [0x52f9]),
     (0x2f14, .replaced [0x5315]), (0x2f15, .replaced [0x531a]), (0x2f16, .replaced [0x5338]),
     (0x2f17, .replaced [0x5341]), (0x2f18, .replaced [0x535c]), (0x2f19, .replaced [0x5369]),
     (0x2f1a, .replaced [0x5382]), (0x2f1b, .replaced [0x53b6]), (0x2f1c, .replaced [0x53c8]),
     (0x2f1d, .replaced [0x53e3]), (0x2f1e, .replaced [0x56d7]), (0x2f1f, .replaced [0x571f]),
     (0x2f20, .replaced [0x58eb]), (0x2f21, .replaced [0x5902]), (0x2f22, .replaced [0x590a])],
    [(0x2f23, .replaced [0x5915]), (0x2f24, .replaced [0x5927]), (0x2f25, .replaced [0x5973]),
     (0x2f26, .replaced [0x5b50]), (0x2f27, .replaced [0x5b80]), (0x2f28, .replaced [0x5bf8]),
     (0x2f29, .replaced [0x5c0f]), (0x2f2a, .replaced [0x5c22]), (0x2f2b, .replaced [0x5c38]),
     (0x2f2c, .replaced [0x5c6e]), (0x2f2d, .replaced [0x5c71]), (0x2f2e, .replaced [0x5ddb]),
     (0x2f2f, .replaced [0x5de5]), (0x2f30, .replaced [0x5df1]), (0x2f31, .replaced [0x5dfe]),
     (0x2f32, .replaced [0x5e72]), (0x2f33, .replaced [0x5e7a]), (0x2f34, .replaced [0x5e7f]),
     (0x2f35, .replaced [0x5ef4]), (0x2f36, .replaced [0x5efe]), (0x2f37, .replaced [0x5f0b]),
     (0x2f38, .replaced [0x5f13]), (0x2f39, .replaced [0x5f50]), (0x2f3a, .replaced [0x5f61]),
     (0x2f3b, .replaced [0x5f73]), (0x2f3c, .replaced [0x5fc3]), (0x2f3d, .replaced [0x6208]),
     (0x2f3e, .replaced [0x6236]), (0x2f3f, .replaced [0x624b]), (0x2f40, .replaced [0x652f]),
     (0x2f41, .replaced [0x6534]), (0x2f42, .replaced [0x6587]), (0x2f43, .replaced [0x6597]),
     (0x2f44, .replaced [0x65a4]), (0x2f45, .replaced [0x65b9]), (0x2f46, .replaced [0x65e0]),
     (0x2f47, .replaced [0x65e5]), (0x2f48, .replaced [0x66f0]), (0x2f49, .replaced [0x6708]),
     (0x2f4a, .replaced [0x6728]), (0x2f4b, .replaced [0x6b20]), (0x2f4c, .replaced [0x6b62]),
     (0x2f4d, .replaced [0x6b79]), (0x2f4e, .replaced [0x6bb3]), (0x2f4f, .replaced [0x6bcb]),
     (0x2f50, .replaced [0x6bd4]), (0x2f51, .replaced [0x6bdb]), (0x2f52, .replaced [0x6c0f]),
     (0x2f53, .replaced [0x6c14]), (0x2f54, .replaced [0x6c34]), (0x2f55, .replaced [0x706b]),
     (0x2f56, .replaced [0x722a]), (0x2f57, .replaced [0x7236]), (0x2f58, .replaced [0x723b]),
     (0x2f59, .replaced [0x723f]), (0x2f5a, .replaced [0x7247]), (0x2f5b, .replaced [0x7259]),
     (0x2f5c, .replaced [0x725b]), (0x2f5d, .replaced [0x72ac]), (0x2f5e, .replaced [0x7384])],
    [(0x2f5f, .replaced [0x7389]), (0x2f60, .replaced [0x74dc]), (0x2f61, .replaced [0x74e6]),
     (0x2f62, .replaced [0x7518]), (0x2f63, .replaced [0x751f]), (0x2f64, .replaced [0x7528]),
     (0x2f65, .replaced [0x7530]), (0x2f66, .replaced [0x758b]), (0x2f67, .replaced [0x7592]),
     (0x2f68, .replaced [0x7676]), (0x2f69, .replaced [0x767d]), (0x2f6a, .replaced [0x76ae]),
     (0x2f6b, .replaced [0x76bf]), (0x2f6c, .replaced [0x76ee]), (0x2f6d, .replaced [0x77db]),
     (0x2f6e, .replaced [0x77e2]), (0x2f6f, .replaced [0x77f3]), (0x2f70, .replaced [0x793a]),
     (0x2f71, .replaced [0x79b8]), (0x2f72, .replaced [0x79be]), (0x2f73, .replaced [0x7a74]),
     (0x2f74, .replaced [0x7acb]), (0x2f75, .replaced [0x7af9]), (0x2f76, .replaced [0x7c73]),
     (0x2f77, .replaced [0x7cf8]), (0x2f78, .replaced [0x7f36]), (0x2f79, .replaced [0x7f51]),
     (0x2f7a, .replaced [0x7f8a]), (0x2f7b, .replaced [0x7fbd]), (0x2f7c, .replaced [0x8001]),
     (0x2f7d, .replaced [0x800c]), (0x2f7e, .replaced [0x8012]), (0x2f7f, .replaced [0x8033]),
     (0x2f80, .replaced [0x807f]), (0x2f81, .replaced [0x8089]), (0x2f82, .replaced [0x81e3]),
     (0x2f83, .replaced [0x81ea]), (0x2f84, .replaced [0x81f3]), (0x2f85, .replaced [0x81fc]),
     (0x2f86, .replaced [0x820c]), (0x2f87, .replaced [0x821b]), (0x2f88, .replaced [0x821f]),
     (0x2f89, .replaced [0x826e]), (0x2f8a, .replaced [0x8272]), (0x2f8b, .replaced [0x8278]),
     (0x2f8c, .replaced [0x864d]), (0x2f8d, .replaced [0x866b]), (0x2f8e, .replaced [0x8840]),
     (0x2f8f, .replaced [0x884c]), (0x2f90, .replaced [0x8863]), (0x2f91, .replaced [0x897e]),
     (0x2f92, .replaced [0x898b]), (0x2f93, .replaced [0x89d2]), (0x2f94, .replaced [0x8a00]),
     (0x2f95, .replaced [0x8c37]), (0x2f96, .replaced [0x8c46]), (0x2f97, .replaced [0x8c55]),
     (0x2f98, .replaced [0x8c78]), (0x2f99, .replaced [0x8c9d]), (0x2f9a, .replaced [0x8d64])],
    [(0x2f9b, .replaced [0x8d70]), (0x2f9c, .replaced [0x8db3]), (0x2f9d, .replaced [0x8eab]),
     (0x2f9e, .replaced [0x8eca]), (0x2f9f, .replaced [0x8f9b]), (0x2fa0, .replaced [0x8fb0]),
     (0x2fa1, .replaced [0x8fb5]), (0x2fa2, .replaced [0x9091]), (0x2fa3, .replaced [0x9149]),
     (0x2fa4, .replaced [0x91c6]), (0x2fa5, .replaced [0x91cc]), (0x2fa6, .replaced [0x91d1]),
     (0x2fa7, .replaced [0x9577]), (0x2fa8, .replaced [0x9580]), (0x2fa9, .replaced [0x961c]),
     (0x2faa, .replaced [0x96b6]), (0x2fab, .replaced [0x96b9]), (0x2fac, .replaced [0x96e8]),
     (0x2fad, .replaced [0x9751]), (0x2fae, .replaced [0x975e]), (0x2faf, .replaced [0x9762]),
     (0x2fb0, .replaced [0x9769]), (0x2fb1, .replaced [0x97cb]), (0x2fb2, .replaced [0x97ed]),
     (0x2fb3, .replaced [0x97f3]), (0x2fb4, .replaced [0x9801]), (0x2fb5, .replaced [0x98a8]),
     (0x2fb6, .replaced [0x98db]), (0x2fb7, .replaced [0x98df]), (0x2fb8, .replaced [0x9996]),
     (0x2fb9, .replaced [0x9999]), (0x2fba, .replaced [0x99ac]), (0x2fbb, .replaced [0x9aa8]),
     (0x2fbc, .replaced [0x9ad8]), (0x2fbd, .replaced [0x9adf]), (0x2fbe, .replaced [0x9b25]),
     (0x2fbf, .replaced [0x9b2f]), (0x2fc0, .replaced [0x9b32]), (0x2fc1, .replaced [0x9b3c]),
     (0x2fc2, .replaced [0x9b5a]), (0x2fc3, .replaced [0x9ce5]), (0x2fc4, .replaced [0x9e75]),
     (0x2fc5, .replaced [0x9e7f]), (0x2fc6, .replaced [0x9ea5]), (0x2fc7, .replaced [0x9ebb]),
     (0x2fc8, .replaced [0x9ec3]), (0x2fc9, .replaced [0x9ecd]), (0x2fca, .replaced [0x9ed1]),
     (0x2fcb, .replaced [0x9ef9]), (0x2fcc, .replaced [0x9efd]), (0x2fcd, .replaced [0x9f0e]),
     (0x2fce, .replaced [0x9f13]), (0x2fcf, .replaced [0x9f20]), (0x2fd0, .replaced [0x9f3b]),
     (0x2fd1, .replaced [0x9f4a]), (0x2fd2, .replaced [0x9f52]), (0x2fd3, .replaced [0x9f8d]),
     (0x2fd4, .replaced [0x9f9c]), (0x2fd5, .replaced [0x9fa0]), (0x2fd6, .refused)]]

set_option maxRecDepth 20000 in
def fatesFrom3000 : Text.Runs Fate :=
  List.flatten [
    [(0x3000, .replaced [0x20]), (0x3001, .kept), (0x3002, .replaced [0x2e]), (0x3003, .kept),
     (0x3036, .replaced [0x3012]), (0x3037, .kept), (0x3038, .replaced [0x5341]),
     (0x3039, .replaced [0x5344]), (0x303a, .replaced [0x5345]), (0x303b, .kept),
     (0x3040, .refused), (0x3041, .kept), (0x3097, .refused), (0x3099, .kept),
     (0x309b, .replaced [0x20, 0x3099]), (0x309c, .replaced [0x20, 0x309a]), (0x309d, .kept),
     (0x309f, .replaced [0x3088, 0x308a]), (0x30a0, .kept), (0x30ff, .replaced [0x30b3, 0x30c8]),
     (0x3100, .refused), (0x3105, .kept), (0x3130, .refused), (0x3131, .replaced [0x1100]),
     (0x3132, .replaced [0x1101]), (0x3133, .replaced [0x11aa]), (0x3134, .replaced [0x1102]),
     (0x3135, .replaced [0x11ac]), (0x3136, .replaced [0x11ad]), (0x3137, .replaced [0x1103]),
     (0x3138, .replaced [0x1104]), (0x3139, .replaced [0x1105]), (0x313a, .replaced [0x11b0]),
     (0x313b, .replaced [0x11b1]), (0x313c, .replaced [0x11b2]), (0x313d, .replaced [0x11b3]),
     (0x313e, .replaced [0x11b4]), (0x313f, .replaced [0x11b5]), (0x3140, .replaced [0x111a]),
     (0x3141, .replaced [0x1106]), (0x3142, .replaced [0x1107]), (0x3143, .replaced [0x1108]),
     (0x3144, .replaced [0x1121]), (0x3145, .replaced [0x1109]), (0x3146, .replaced [0x110a]),
     (0x3147, .replaced [0x110b]), (0x3148, .replaced [0x110c]), (0x3149, .replaced [0x110d]),
     (0x314a, .replaced [0x110e]), (0x314b, .replaced [0x110f]), (0x314c, .replaced [0x1110]),
     (0x314d, .replaced [0x1111]), (0x314e, .replaced [0x1112]), (0x314f, .replaced [0x1161]),
     (0x3150, .replaced [0x1162]), (0x3151, .replaced [0x1163]), (0x3152, .replaced [0x1164]),
     (0x3153, .replaced [0x1165]), (0x3154, .replaced [0x1166]), (0x3155, .replaced [0x1167])],
    [(0x3156, .replaced [0x1168]), (0x3157, .replaced [0x1169]), (0x3158, .replaced [0x116a]),
     (0x3159, .replaced [0x116b]), (0x315a, .replaced [0x116c]), (0x315b, .replaced [0x116d]),
     (0x315c, .replaced [0x116e]), (0x315d, .replaced [0x116f]), (0x315e, .replaced [0x1170]),
     (0x315f, .replaced [0x1171]), (0x3160, .replaced [0x1172]), (0x3161, .replaced [0x1173]),
     (0x3162, .replaced [0x1174]), (0x3163, .replaced [0x1175]), (0x3164, .refused),
     (0x3165, .replaced [0x1114]), (0x3166, .replaced [0x1115]), (0x3167, .replaced [0x11c7]),
     (0x3168, .replaced [0x11c8]), (0x3169, .replaced [0x11cc]), (0x316a, .replaced [0x11ce]),
     (0x316b, .replaced [0x11d3]), (0x316c, .replaced [0x11d7]), (0x316d, .replaced [0x11d9]),
     (0x316e, .replaced [0x111c]), (0x316f, .replaced [0x11dd]), (0x3170, .replaced [0x11df]),
     (0x3171, .replaced [0x111d]), (0x3172, .replaced [0x111e]), (0x3173, .replaced [0x1120]),
     (0x3174, .replaced [0x1122]), (0x3175, .replaced [0x1123]), (0x3176, .replaced [0x1127]),
     (0x3177, .replaced [0x1129]), (0x3178, .replaced [0x112b]), (0x3179, .replaced [0x112c]),
     (0x317a, .replaced [0x112d]), (0x317b, .replaced [0x112e]), (0x317c, .replaced [0x112f]),
     (0x317d, .replaced [0x1132]), (0x317e, .replaced [0x1136]), (0x317f, .replaced [0x1140]),
     (0x3180, .replaced [0x1147]), (0x3181, .replaced [0x114c]), (0x3182, .replaced [0x11f1]),
     (0x3183, .replaced [0x11f2]), (0x3184, .replaced [0x1157]), (0x3185, .replaced [0x1158]),
     (0x3186, .replaced [0x1159]), (0x3187, .replaced [0x1184]), (0x3188, .replaced [0x1185]),
     (0x3189, .replaced [0x1188]), (0x318a, .replaced [0x1191]), (0x318b, .replaced [0x1192]),
     (0x318c, .replaced [0x1194]), (0x318d, .replaced [0x119e]), (0x318e, .replaced [0x11a1]),
     (0x318f, .refused), (0x3190, .kept), (0x3192, .replaced [0x4e00])],
    [(0x3193, .replaced [0x4e8c]), (0x3194, .replaced [0x4e09]), (0x3195, .replaced [0x56db]),
     (0x3196, .replaced [0x4e0a]), (0x3197, .replaced [0x4e2d]), (0x3198, .replaced [0x4e0b]),
     (0x3199, .replaced [0x7532]), (0x319a, .replaced [0x4e59]), (0x319b, .replaced [0x4e19]),
     (0x319c, .replaced [0x4e01]), (0x319d, .replaced [0x5929]), (0x319e, .replaced [0x5730]),
     (0x319f, .replaced [0x4eba]), (0x31a0, .kept), (0x31e4, .refused), (0x31f0, .kept),
     (0x3200, .replaced [0x28, 0x1100, 0x29]), (0x3201, .replaced [0x28, 0x1102, 0x29]),
     (0x3202, .replaced [0x28, 0x1103, 0x29]), (0x3203, .replaced [0x28, 0x1105, 0x29]),
     (0x3204, .replaced [0x28, 0x1106, 0x29]), (0x3205, .replaced [0x28, 0x1107, 0x29]),
     (0x3206, .replaced [0x28, 0x1109, 0x29]), (0x3207, .replaced [0x28, 0x110b, 0x29]),
     (0x3208, .replaced [0x28, 0x110c, 0x29]), (0x3209, .replaced [0x28, 0x110e, 0x29]),
     (0x320a, .replaced [0x28, 0x110f, 0x29]), (0x320b, .replaced [0x28, 0x1110, 0x29]),
     (0x320c, .replaced [0x28, 0x1111, 0x29]), (0x320d, .replaced [0x28, 0x1112, 0x29]),
     (0x320e, .replaced [0x28, 0xac00, 0x29]), (0x320f, .replaced [0x28, 0xb098, 0x29]),
     (0x3210, .replaced [0x28, 0xb2e4, 0x29]), (0x3211, .replaced [0x28, 0xb77c, 0x29]),
     (0x3212, .replaced [0x28, 0xb9c8, 0x29]), (0x3213, .replaced [0x28, 0xbc14, 0x29]),
     (0x3214, .replaced [0x28, 0xc0ac, 0x29]), (0x3215, .replaced [0x28, 0xc544, 0x29]),
     (0x3216, .replaced [0x28, 0xc790, 0x29]), (0x3217, .replaced [0x28, 0xcc28, 0x29]),
     (0x3218, .replaced [0x28, 0xce74, 0x29]), (0x3219, .replaced [0x28, 0xd0c0, 0x29]),
     (0x321a, .replaced [0x28, 0xd30c, 0x29]), (0x321b, .replaced [0x28, 0xd558, 0x29]),
     (0x321c, .replaced [0x28, 0xc8fc, 0x29]), (0x321d, .replaced [0x28, 0xc624, 0xc804, 0x29]),
     (0x321e, .replaced [0x28, 0xc624, 0xd6c4, 0x29]), (0x321f, .refused),
     (0x3220, .replaced [0x28, 0x4e00, 0x29]), (0x3221, .replaced [0x28, 0x4e8c, 0x29]),
     (0x3222, .replaced [0x28, 0x4e09, 0x29]), (0x3223, .replaced [0x28, 0x56db, 0x29]),
     (0x3224, .replaced [0x28, 0x4e94, 0x29]), (0x3225, .replaced [0x28, 0x516d, 0x29]),
     (0x3226, .replaced [0x28, 0x4e03, 0x29]), (0x3227, .replaced [0x28, 0x516b, 0x29]),
     (0x3228, .replaced [0x28, 0x4e5d, 0x29]), (0x3229, .replaced [0x28, 0x5341, 0x29]),
     (0x322a, .replaced [0x28, 0x6708, 0x29]), (0x322b, .replaced [0x28, 0x706b, 0x29])],
    [(0x322c, .replaced [0x28, 0x6c34, 0x29]), (0x322d, .replaced [0x28, 0x6728, 0x29]),
     (0x322e, .replaced [0x28, 0x91d1, 0x29]), (0x322f, .replaced [0x28, 0x571f, 0x29]),
     (0x3230, .replaced [0x28, 0x65e5, 0x29]), (0x3231, .replaced [0x28, 0x682a, 0x29]),
     (0x3232, .replaced [0x28, 0x6709, 0x29]), (0x3233, .replaced [0x28, 0x793e, 0x29]),
     (0x3234, .replaced [0x28, 0x540d, 0x29]), (0x3235, .replaced [0x28, 0x7279, 0x29]),
     (0x3236, .replaced [0x28, 0x8ca1, 0x29]), (0x3237, .replaced [0x28, 0x795d, 0x29]),
     (0x3238, .replaced [0x28, 0x52b4, 0x29]), (0x3239, .replaced [0x28, 0x4ee3, 0x29]),
     (0x323a, .replaced [0x28, 0x547c, 0x29]), (0x323b, .replaced [0x28, 0x5b66, 0x29]),
     (0x323c, .replaced [0x28, 0x76e3, 0x29]), (0x323d, .replaced [0x28, 0x4f01, 0x29]),
     (0x323e, .replaced [0x28, 0x8cc7, 0x29]), (0x323f, .replaced [0x28, 0x5354, 0x29]),
     (0x3240, .replaced [0x28, 0x796d, 0x29]), (0x3241, .replaced [0x28, 0x4f11, 0x29]),
     (0x3242, .replaced [0x28, 0x81ea, 0x29]), (0x3243, .replaced [0x28, 0x81f3, 0x29]),
     (0x3244, .replaced [0x554f]), (0x3245, .replaced [0x5e7c]), (0x3246, .replaced [0x6587]),
     (0x3247, .replaced [0x7b8f]), (0x3248, .kept), (0x3250, .replaced [0x70, 0x74, 0x65]),
     (0x3251, .replaced [0x32, 0x31]), (0x3252, .replaced [0x32, 0x32]),
     (0x3253, .replaced [0x32, 0x33]), (0x3254, .replaced [0x32, 0x34]),
     (0x3255, .replaced [0x32, 0x35]), (0x3256, .replaced [0x32, 0x36]),
     (0x3257, .replaced [0x32, 0x37]), (0x3258, .replaced [0x32, 0x38]),
     (0x3259, .replaced [0x32, 0x39]), (0x325a, .replaced [0x33, 0x30]),
     (0x325b, .replaced [0x33, 0x31]), (0x325c, .replaced [0x33, 0x32]),
     (0x325d, .replaced [0x33, 0x33]), (0x325e, .replaced [0x33, 0x34]),
     (0x325f, .replaced [0x33, 0x35]), (0x3260, .replaced [0x1100]), (0x3261, .replaced [0x1102]),
     (0x3262, .replaced [0x1103]), (0x3263, .replaced [0x1105]), (0x3264, .replaced [0x1106]),
     (0x3265, .replaced [0x1107]), (0x3266, .replaced [0x1109]), (0x3267, .replaced [0x110b]),
     (0x3268, .replaced [0x110c]), (0x3269, .replaced [0x110e]), (0x326a, .replaced [0x110f]),
     (0x326b, .replaced [0x1110]), (0x326c, .replaced [0x1111]), (0x326d, .replaced [0x1112]),
     (0x326e, .replaced [0xac00])],
    [(0x326f, .replaced [0xb098]), (0x3270, .replaced [0xb2e4]), (0x3271, .replaced [0xb77c]),
     (0x3272, .replaced [0xb9c8]), (0x3273, .replaced [0xbc14]), (0x3274, .replaced [0xc0ac]),
     (0x3275, .replaced [0xc544]), (0x3276, .replaced [0xc790]), (0x3277, .replaced [0xcc28]),
     (0x3278, .replaced [0xce74]), (0x3279, .replaced [0xd0c0]), (0x327a, .replaced [0xd30c]),
     (0x327b, .replaced [0xd558]), (0x327c, .replaced [0xcc38, 0xace0]),
     (0x327d, .replaced [0xc8fc, 0xc758]), (0x327e, .replaced [0xc6b0]), (0x327f, .kept),
     (0x3280, .replaced [0x4e00]), (0x3281, .replaced [0x4e8c]), (0x3282, .replaced [0x4e09]),
     (0x3283, .replaced [0x56db]), (0x3284, .replaced [0x4e94]), (0x3285, .replaced [0x516d]),
     (0x3286, .replaced [0x4e03]), (0x3287, .replaced [0x516b]), (0x3288, .replaced [0x4e5d]),
     (0x3289, .replaced [0x5341]), (0x328a, .replaced [0x6708]), (0x328b, .replaced [0x706b]),
     (0x328c, .replaced [0x6c34]), (0x328d, .replaced [0x6728]), (0x328e, .replaced [0x91d1]),
     (0x328f, .replaced [0x571f]), (0x3290, .replaced [0x65e5]), (0x3291, .replaced [0x682a]),
     (0x3292, .replaced [0x6709]), (0x3293, .replaced [0x793e]), (0x3294, .replaced [0x540d]),
     (0x3295, .replaced [0x7279]), (0x3296, .replaced [0x8ca1]), (0x3297, .replaced [0x795d]),
     (0x3298, .replaced [0x52b4]), (0x3299, .replaced [0x79d8]), (0x329a, .replaced [0x7537]),
     (0x329b, .replaced [0x5973]), (0x329c, .replaced [0x9069]), (0x329d, .replaced [0x512a]),
     (0x329e, .replaced [0x5370]), (0x329f, .replaced [0x6ce8]), (0x32a0, .replaced [0x9805]),
     (0x32a1, .replaced [0x4f11]), (0x32a2, .replaced [0x5199]), (0x32a3, .replaced [0x6b63]),
     (0x32a4, .replaced [0x4e0a]), (0x32a5, .replaced [0x4e2d]), (0x32a6, .replaced [0x4e0b]),
     (0x32a7, .replaced [0x5de6]), (0x32a8, .replaced [0x53f3]), (0x32a9, .replaced [0x533b]),
     (0x32aa, .replaced [0x5b97])],
    [(0x32ab, .replaced [0x5b66]), (0x32ac, .replaced [0x76e3]), (0x32ad, .replaced [0x4f01]),
     (0x32ae, .replaced [0x8cc7]), (0x32af, .replaced [0x5354]), (0x32b0, .replaced [0x591c]),
     (0x32b1, .replaced [0x33, 0x36]), (0x32b2, .replaced [0x33, 0x37]),
     (0x32b3, .replaced [0x33, 0x38]), (0x32b4, .replaced [0x33, 0x39]),
     (0x32b5, .replaced [0x34, 0x30]), (0x32b6, .replaced [0x34, 0x31]),
     (0x32b7, .replaced [0x34, 0x32]), (0x32b8, .replaced [0x34, 0x33]),
     (0x32b9, .replaced [0x34, 0x34]), (0x32ba, .replaced [0x34, 0x35]),
     (0x32bb, .replaced [0x34, 0x36]), (0x32bc, .replaced [0x34, 0x37]),
     (0x32bd, .replaced [0x34, 0x38]), (0x32be, .replaced [0x34, 0x39]),
     (0x32bf, .replaced [0x35, 0x30]), (0x32c0, .replaced [0x31, 0x6708]),
     (0x32c1, .replaced [0x32, 0x6708]), (0x32c2, .replaced [0x33, 0x6708]),
     (0x32c3, .replaced [0x34, 0x6708]), (0x32c4, .replaced [0x35, 0x6708]),
     (0x32c5, .replaced [0x36, 0x6708]), (0x32c6, .replaced [0x37, 0x6708]),
     (0x32c7, .replaced [0x38, 0x6708]), (0x32c8, .replaced [0x39, 0x6708]),
     (0x32c9, .replaced [0x31, 0x30, 0x6708]), (0x32ca, .replaced [0x31, 0x31, 0x6708]),
     (0x32cb, .replaced [0x31, 0x32, 0x6708]), (0x32cc, .replaced [0x68, 0x67]),
     (0x32cd, .replaced [0x65, 0x72, 0x67]), (0x32ce, .replaced [0x65, 0x76]),
     (0x32cf, .replaced [0x6c, 0x74, 0x64]), (0x32d0, .replaced [0x30a2]),
     (0x32d1, .replaced [0x30a4]), (0x32d2, .replaced [0x30a6]), (0x32d3, .replaced [0x30a8]),
     (0x32d4, .replaced [0x30aa]), (0x32d5, .replaced [0x30ab]), (0x32d6, .replaced [0x30ad]),
     (0x32d7, .replaced [0x30af]), (0x32d8, .replaced [0x30b1]), (0x32d9, .replaced [0x30b3]),
     (0x32da, .replaced [0x30b5]), (0x32db, .replaced [0x30b7]), (0x32dc, .replaced [0x30b9]),
     (0x32dd, .replaced [0x30bb]), (0x32de, .replaced [0x30bd]), (0x32df, .replaced [0x30bf]),
     (0x32e0, .replaced [0x30c1]), (0x32e1, .replaced [0x30c4]), (0x32e2, .replaced [0x30c6]),
     (0x32e3, .replaced [0x30c8]), (0x32e4, .replaced [0x30ca]), (0x32e5, .replaced [0x30cb]),
     (0x32e6, .replaced [0x30cc])],
    [(0x32e7, .replaced [0x30cd]), (0x32e8, .replaced [0x30ce]), (0x32e9, .replaced [0x30cf]),
     (0x32ea, .replaced [0x30d2]), (0x32eb, .replaced [0x30d5]), (0x32ec, .replaced [0x30d8]),
     (0x32ed, .replaced [0x30db]), (0x32ee, .replaced [0x30de]), (0x32ef, .replaced [0x30df]),
     (0x32f0, .replaced [0x30e0]), (0x32f1, .replaced [0x30e1]), (0x32f2, .replaced [0x30e2]),
     (0x32f3, .replaced [0x30e4]), (0x32f4, .replaced [0x30e6]), (0x32f5, .replaced [0x30e8]),
     (0x32f6, .replaced [0x30e9]), (0x32f7, .replaced [0x30ea]), (0x32f8, .replaced [0x30eb]),
     (0x32f9, .replaced [0x30ec]), (0x32fa, .replaced [0x30ed]), (0x32fb, .replaced [0x30ef]),
     (0x32fc, .replaced [0x30f0]), (0x32fd, .replaced [0x30f1]), (0x32fe, .replaced [0x30f2]),
     (0x32ff, .replaced [0x4ee4, 0x548c]), (0x3300, .replaced [0x30a2, 0x30d1, 0x30fc, 0x30c8]),
     (0x3301, .replaced [0x30a2, 0x30eb, 0x30d5, 0x30a1]),
     (0x3302, .replaced [0x30a2, 0x30f3, 0x30da, 0x30a2]),
     (0x3303, .replaced [0x30a2, 0x30fc, 0x30eb]),
     (0x3304, .replaced [0x30a4, 0x30cb, 0x30f3, 0x30b0]),
     (0x3305, .replaced [0x30a4, 0x30f3, 0x30c1]), (0x3306, .replaced [0x30a6, 0x30a9, 0x30f3]),
     (0x3307, .replaced [0x30a8, 0x30b9, 0x30af, 0x30fc, 0x30c9]),
     (0x3308, .replaced [0x30a8, 0x30fc, 0x30ab, 0x30fc]),
     (0x3309, .replaced [0x30aa, 0x30f3, 0x30b9]), (0x330a, .replaced [0x30aa, 0x30fc, 0x30e0]),
     (0x330b, .replaced [0x30ab, 0x30a4, 0x30ea]),
     (0x330c, .replaced [0x30ab, 0x30e9, 0x30c3, 0x30c8]),
     (0x330d, .replaced [0x30ab, 0x30ed, 0x30ea, 0x30fc]),
     (0x330e, .replaced [0x30ac, 0x30ed, 0x30f3]), (0x330f, .replaced [0x30ac, 0x30f3, 0x30de]),
     (0x3310, .replaced [0x30ae, 0x30ac]), (0x3311, .replaced [0x30ae, 0x30cb, 0x30fc]),
     (0x3312, .replaced [0x30ad, 0x30e5, 0x30ea, 0x30fc]),
     (0x3313, .replaced [0x30ae, 0x30eb, 0x30c0, 0x30fc]), (0x3314, .replaced [0x30ad, 0x30ed]),
     (0x3315, .replaced [0x30ad, 0x30ed, 0x30b0, 0x30e9, 0x30e0]),
     (0x3316, .replaced [0x30ad, 0x30ed, 0x30e1, 0x30fc, 0x30c8, 0x30eb]),
     (0x3317, .replaced [0x30ad, 0x30ed, 0x30ef, 0x30c3, 0x30c8]),
     (0x3318, .replaced [0x30b0, 0x30e9, 0x30e0]),
     (0x3319, .replaced [0x30b0, 0x30e9, 0x30e0, 0x30c8, 0x30f3]),
     (0x331a, .replaced [0x30af, 0x30eb, 0x30bc, 0x30a4, 0x30ed]),
     (0x331b, .replaced [0x30af, 0x30ed, 0x30fc, 0x30cd]),
     (0x331c, .replaced [0x30b1, 0x30fc, 0x30b9]), (0x331d, .replaced [0x30b3, 0x30eb, 0x30ca]),
     (0x331e, .replaced [0x30b3, 0x30fc, 0x30dd]),
     (0x331f, .replaced [0x30b5, 0x30a4, 0x30af, 0x30eb]),
     (0x3320, .replaced [0x30b5, 0x30f3, 0x30c1, 0x30fc, 0x30e0]),
     (0x3321, .replaced [0x30b7, 0x30ea, 0x30f3, 0x30b0]),
     (0x3322, .replaced [0x30bb, 0x30f3, 0x30c1])],
    [(0x3323, .replaced [0x30bb, 0x30f3, 0x30c8]), (0x3324, .replaced [0x30c0, 0x30fc, 0x30b9]),
     (0x3325, .replaced [0x30c7, 0x30b7]), (0x3326, .replaced [0x30c9, 0x30eb]),
     (0x3327, .replaced [0x30c8, 0x30f3]), (0x3328, .replaced [0x30ca, 0x30ce]),
     (0x3329, .replaced [0x30ce, 0x30c3, 0x30c8]), (0x332a, .replaced [0x30cf, 0x30a4, 0x30c4]),
     (0x332b, .replaced [0x30d1, 0x30fc, 0x30bb, 0x30f3, 0x30c8]),
     (0x332c, .replaced [0x30d1, 0x30fc, 0x30c4]),
     (0x332d, .replaced [0x30d0, 0x30fc, 0x30ec, 0x30eb]),
     (0x332e, .replaced [0x30d4, 0x30a2, 0x30b9, 0x30c8, 0x30eb]),
     (0x332f, .replaced [0x30d4, 0x30af, 0x30eb]), (0x3330, .replaced [0x30d4, 0x30b3]),
     (0x3331, .replaced [0x30d3, 0x30eb]),
     (0x3332, .replaced [0x30d5, 0x30a1, 0x30e9, 0x30c3, 0x30c9]),
     (0x3333, .replaced [0x30d5, 0x30a3, 0x30fc, 0x30c8]),
     (0x3334, .replaced [0x30d6, 0x30c3, 0x30b7, 0x30a7, 0x30eb]),
     (0x3335, .replaced [0x30d5, 0x30e9, 0x30f3]),
     (0x3336, .replaced [0x30d8, 0x30af, 0x30bf, 0x30fc, 0x30eb]),
     (0x3337, .replaced [0x30da, 0x30bd]), (0x3338, .replaced [0x30da, 0x30cb, 0x30d2]),
     (0x3339, .replaced [0x30d8, 0x30eb, 0x30c4]), (0x333a, .replaced [0x30da, 0x30f3, 0x30b9]),
     (0x333b, .replaced [0x30da, 0x30fc, 0x30b8]), (0x333c, .replaced [0x30d9, 0x30fc, 0x30bf]),
     (0x333d, .replaced [0x30dd, 0x30a4, 0x30f3, 0x30c8]),
     (0x333e, .replaced [0x30dc, 0x30eb, 0x30c8]), (0x333f, .replaced [0x30db, 0x30f3]),
     (0x3340, .replaced [0x30dd, 0x30f3, 0x30c9]), (0x3341, .replaced [0x30db, 0x30fc, 0x30eb]),
     (0x3342, .replaced [0x30db, 0x30fc, 0x30f3]),
     (0x3343, .replaced [0x30de, 0x30a4, 0x30af, 0x30ed]),
     (0x3344, .replaced [0x30de, 0x30a4, 0x30eb]), (0x3345, .replaced [0x30de, 0x30c3, 0x30cf]),
     (0x3346, .replaced [0x30de, 0x30eb, 0x30af]),
     (0x3347, .replaced [0x30de, 0x30f3, 0x30b7, 0x30e7, 0x30f3]),
     (0x3348, .replaced [0x30df, 0x30af, 0x30ed, 0x30f3]), (0x3349, .replaced [0x30df, 0x30ea]),
     (0x334a, .replaced [0x30df, 0x30ea, 0x30d0, 0x30fc, 0x30eb]),
     (0x334b, .replaced [0x30e1, 0x30ac]), (0x334c, .replaced [0x30e1, 0x30ac, 0x30c8, 0x30f3]),
     (0x334d, .replaced [0x30e1, 0x30fc, 0x30c8, 0x30eb]),
     (0x334e, .replaced [0x30e4, 0x30fc, 0x30c9]), (0x334f, .replaced [0x30e4, 0x30fc, 0x30eb]),
     (0x3350, .replaced [0x30e6, 0x30a2, 0x30f3]),
     (0x3351, .replaced [0x30ea, 0x30c3, 0x30c8, 0x30eb]), (0x3352, .replaced [0x30ea, 0x30e9]),
     (0x3353, .replaced [0x30eb, 0x30d4, 0x30fc]),
     (0x3354, .replaced [0x30eb, 0x30fc, 0x30d6, 0x30eb]), (0x3355, .replaced [0x30ec, 0x30e0]),
     (0x3356, .replaced [0x30ec, 0x30f3, 0x30c8, 0x30b2, 0x30f3]),
     (0x3357, .replaced [0x30ef, 0x30c3, 0x30c8]), (0x3358, .replaced [0x30, 0x70b9]),
     (0x3359, .replaced [0x31, 0x70b9]), (0x335a, .replaced [0x32, 0x70b9]),
     (0x335b, .replaced [0x33, 0x70b9]), (0x335c, .replaced [0x34, 0x70b9]),
     (0x335d, .replaced [0x35, 0x70b9]), (0x335e, .replaced [0x36, 0x70b9])],
    [(0x335f, .replaced [0x37, 0x70b9]), (0x3360, .replaced [0x38, 0x70b9]),
     (0x3361, .replaced [0x39, 0x70b9]), (0x3362, .replaced [0x31, 0x30, 0x70b9]),
     (0x3363, .replaced [0x31, 0x31, 0x70b9]), (0x3364, .replaced [0x31, 0x32, 0x70b9]),
     (0x3365, .replaced [0x31, 0x33, 0x70b9]), (0x3366, .replaced [0x31, 0x34, 0x70b9]),
     (0x3367, .replaced [0x31, 0x35, 0x70b9]), (0x3368, .replaced [0x31, 0x36, 0x70b9]),
     (0x3369, .replaced [0x31, 0x37, 0x70b9]), (0x336a, .replaced [0x31, 0x38, 0x70b9]),
     (0x336b, .replaced [0x31, 0x39, 0x70b9]), (0x336c, .replaced [0x32, 0x30, 0x70b9]),
     (0x336d, .replaced [0x32, 0x31, 0x70b9]), (0x336e, .replaced [0x32, 0x32, 0x70b9]),
     (0x336f, .replaced [0x32, 0x33, 0x70b9]), (0x3370, .replaced [0x32, 0x34, 0x70b9]),
     (0x3371, .replaced [0x68, 0x70, 0x61]), (0x3372, .replaced [0x64, 0x61]),
     (0x3373, .replaced [0x61, 0x75]), (0x3374, .replaced [0x62, 0x61, 0x72]),
     (0x3375, .replaced [0x6f, 0x76]), (0x3376, .replaced [0x70, 0x63]),
     (0x3377, .replaced [0x64, 0x6d]), (0x3378, .replaced [0x64, 0x6d, 0x32]),
     (0x3379, .replaced [0x64, 0x6d, 0x33]), (0x337a, .replaced [0x69, 0x75]),
     (0x337b, .replaced [0x5e73, 0x6210]), (0x337c, .replaced [0x662d, 0x548c]),
     (0x337d, .replaced [0x5927, 0x6b63]), (0x337e, .replaced [0x660e, 0x6cbb]),
     (0x337f, .replaced [0x682a, 0x5f0f, 0x4f1a, 0x793e]), (0x3380, .replaced [0x70, 0x61]),
     (0x3381, .replaced [0x6e, 0x61]), (0x3382, .replaced [0x3bc, 0x61]),
     (0x3383, .replaced [0x6d, 0x61]), (0x3384, .replaced [0x6b, 0x61]),
     (0x3385, .replaced [0x6b, 0x62]), (0x3386, .replaced [0x6d, 0x62]),
     (0x3387, .replaced [0x67, 0x62]), (0x3388, .replaced [0x63, 0x61, 0x6c]),
     (0x3389, .replaced [0x6b, 0x63, 0x61, 0x6c]), (0x338a, .replaced [0x70, 0x66]),
     (0x338b, .replaced [0x6e, 0x66]), (0x338c, .replaced [0x3bc, 0x66]),
     (0x338d, .replaced [0x3bc, 0x67]), (0x338e, .replaced [0x6d, 0x67]),
     (0x338f, .replaced [0x6b, 0x67]), (0x3390, .replaced [0x68, 0x7a]),
     (0x3391, .replaced [0x6b, 0x68, 0x7a]), (0x3392, .replaced [0x6d, 0x68, 0x7a]),
     (0x3393, .replaced [0x67, 0x68, 0x7a]), (0x3394, .replaced [0x74, 0x68, 0x7a]),
     (0x3395, .replaced [0x3bc, 0x6c]), (0x3396, .replaced [0x6d, 0x6c]),
     (0x3397, .replaced [0x64, 0x6c]), (0x3398, .replaced [0x6b, 0x6c]),
     (0x3399, .replaced [0x66, 0x6d]), (0x339a, .replaced [0x6e, 0x6d])],
    [(0x339b, .replaced [0x3bc, 0x6d]), (0x339c, .replaced [0x6d, 0x6d]),
     (0x339d, .replaced [0x63, 0x6d]), (0x339e, .replaced [0x6b, 0x6d]),
     (0x339f, .replaced [0x6d, 0x6d, 0x32]), (0x33a0, .replaced [0x63, 0x6d, 0x32]),
     (0x33a1, .replaced [0x6d, 0x32]), (0x33a2, .replaced [0x6b, 0x6d, 0x32]),
     (0x33a3, .replaced [0x6d, 0x6d, 0x33]), (0x33a4, .replaced [0x63, 0x6d, 0x33]),
     (0x33a5, .replaced [0x6d, 0x33]), (0x33a6, .replaced [0x6b, 0x6d, 0x33]),
     (0x33a7, .replaced [0x6d, 0x2215, 0x73]), (0x33a8, .replaced [0x6d, 0x2215, 0x73, 0x32]),
     (0x33a9, .replaced [0x70, 0x61]), (0x33aa, .replaced [0x6b, 0x70, 0x61]),
     (0x33ab, .replaced [0x6d, 0x70, 0x61]), (0x33ac, .replaced [0x67, 0x70, 0x61]),
     (0x33ad, .replaced [0x72, 0x61, 0x64]), (0x33ae, .replaced [0x72, 0x61, 0x64, 0x2215, 0x73]),
     (0x33af, .replaced [0x72, 0x61, 0x64, 0x2215, 0x73, 0x32]), (0x33b0, .replaced [0x70, 0x73]),
     (0x33b1, .replaced [0x6e, 0x73]), (0x33b2, .replaced [0x3bc, 0x73]),
     (0x33b3, .replaced [0x6d, 0x73]), (0x33b4, .replaced [0x70, 0x76]),
     (0x33b5, .replaced [0x6e, 0x76]), (0x33b6, .replaced [0x3bc, 0x76]),
     (0x33b7, .replaced [0x6d, 0x76]), (0x33b8, .replaced [0x6b, 0x76]),
     (0x33b9, .replaced [0x6d, 0x76]), (0x33ba, .replaced [0x70, 0x77]),
     (0x33bb, .replaced [0x6e, 0x77]), (0x33bc, .replaced [0x3bc, 0x77]),
     (0x33bd, .replaced [0x6d, 0x77]), (0x33be, .replaced [0x6b, 0x77]),
     (0x33bf, .replaced [0x6d, 0x77]), (0x33c0, .replaced [0x6b, 0x3c9]),
     (0x33c1, .replaced [0x6d, 0x3c9]), (0x33c2, .refused), (0x33c3, .replaced [0x62, 0x71]),
     (0x33c4, .replaced [0x63, 0x63]), (0x33c5, .replaced [0x63, 0x64]),
     (0x33c6, .replaced [0x63, 0x2215, 0x6b, 0x67]), (0x33c7, .refused),
     (0x33c8, .replaced [0x64, 0x62]), (0x33c9, .replaced [0x67, 0x79]),
     (0x33ca, .replaced [0x68, 0x61]), (0x33cb, .replaced [0x68, 0x70]),
     (0x33cc, .replaced [0x69, 0x6e]), (0x33cd, .replaced [0x6b, 0x6b]),
     (0x33ce, .replaced [0x6b, 0x6d]), (0x33cf, .replaced [0x6b, 0x74]),
     (0x33d0, .replaced [0x6c, 0x6d]), (0x33d1, .replaced [0x6c, 0x6e]),
     (0x33d2, .replaced [0x6c, 0x6f, 0x67]), (0x33d3, .replaced [0x6c, 0x78]),
     (0x33d4, .replaced [0x6d, 0x62]), (0x33d5, .replaced [0x6d, 0x69, 0x6c]),
     (0x33d6, .replaced [0x6d, 0x6f, 0x6c])],
    [(0x33d7, .replaced [0x70, 0x68]), (0x33d8, .refused), (0x33d9, .replaced [0x70, 0x70, 0x6d]),
     (0x33da, .replaced [0x70, 0x72]), (0x33db, .replaced [0x73, 0x72]),
     (0x33dc, .replaced [0x73, 0x76]), (0x33dd, .replaced [0x77, 0x62]),
     (0x33de, .replaced [0x76, 0x2215, 0x6d]), (0x33df, .replaced [0x61, 0x2215, 0x6d]),
     (0x33e0, .replaced [0x31, 0x65e5]), (0x33e1, .replaced [0x32, 0x65e5]),
     (0x33e2, .replaced [0x33, 0x65e5]), (0x33e3, .replaced [0x34, 0x65e5]),
     (0x33e4, .replaced [0x35, 0x65e5]), (0x33e5, .replaced [0x36, 0x65e5]),
     (0x33e6, .replaced [0x37, 0x65e5]), (0x33e7, .replaced [0x38, 0x65e5]),
     (0x33e8, .replaced [0x39, 0x65e5]), (0x33e9, .replaced [0x31, 0x30, 0x65e5]),
     (0x33ea, .replaced [0x31, 0x31, 0x65e5]), (0x33eb, .replaced [0x31, 0x32, 0x65e5]),
     (0x33ec, .replaced [0x31, 0x33, 0x65e5]), (0x33ed, .replaced [0x31, 0x34, 0x65e5]),
     (0x33ee, .replaced [0x31, 0x35, 0x65e5]), (0x33ef, .replaced [0x31, 0x36, 0x65e5]),
     (0x33f0, .replaced [0x31, 0x37, 0x65e5]), (0x33f1, .replaced [0x31, 0x38, 0x65e5]),
     (0x33f2, .replaced [0x31, 0x39, 0x65e5]), (0x33f3, .replaced [0x32, 0x30, 0x65e5]),
     (0x33f4, .replaced [0x32, 0x31, 0x65e5]), (0x33f5, .replaced [0x32, 0x32, 0x65e5]),
     (0x33f6, .replaced [0x32, 0x33, 0x65e5]), (0x33f7, .replaced [0x32, 0x34, 0x65e5]),
     (0x33f8, .replaced [0x32, 0x35, 0x65e5]), (0x33f9, .replaced [0x32, 0x36, 0x65e5]),
     (0x33fa, .replaced [0x32, 0x37, 0x65e5]), (0x33fb, .replaced [0x32, 0x38, 0x65e5]),
     (0x33fc, .replaced [0x32, 0x39, 0x65e5]), (0x33fd, .replaced [0x33, 0x30, 0x65e5]),
     (0x33fe, .replaced [0x33, 0x31, 0x65e5]), (0x33ff, .replaced [0x67, 0x61, 0x6c]),
     (0x3400, .kept), (0xa48d, .refused), (0xa490, .kept), (0xa4c7, .refused), (0xa4d0, .kept),
     (0xa62c, .refused), (0xa640, .replaced [0xa641]), (0xa641, .kept),
     (0xa642, .replaced [0xa643]), (0xa643, .kept), (0xa644, .replaced [0xa645]), (0xa645, .kept),
     (0xa646, .replaced [0xa647]), (0xa647, .kept), (0xa648, .replaced [0xa649]), (0xa649, .kept),
     (0xa64a, .replaced [0xa64b]), (0xa64b, .kept), (0xa64c, .replaced [0xa64d])],
    [(0xa64d, .kept), (0xa64e, .replaced [0xa64f]), (0xa64f, .kept), (0xa650, .replaced [0xa651]),
     (0xa651, .kept), (0xa652, .replaced [0xa653]), (0xa653, .kept), (0xa654, .replaced [0xa655]),
     (0xa655, .kept), (0xa656, .replaced [0xa657]), (0xa657, .kept), (0xa658, .replaced [0xa659]),
     (0xa659, .kept), (0xa65a, .replaced [0xa65b]), (0xa65b, .kept), (0xa65c, .replaced [0xa65d]),
     (0xa65d, .kept), (0xa65e, .replaced [0xa65f]), (0xa65f, .kept), (0xa660, .replaced [0xa661]),
     (0xa661, .kept), (0xa662, .replaced [0xa663]), (0xa663, .kept), (0xa664, .replaced [0xa665]),
     (0xa665, .kept), (0xa666, .replaced [0xa667]), (0xa667, .kept), (0xa668, .replaced [0xa669]),
     (0xa669, .kept), (0xa66a, .replaced [0xa66b]), (0xa66b, .kept), (0xa66c, .replaced [0xa66d]),
     (0xa66d, .kept), (0xa680, .replaced [0xa681]), (0xa681, .kept), (0xa682, .replaced [0xa683]),
     (0xa683, .kept), (0xa684, .replaced [0xa685]), (0xa685, .kept), (0xa686, .replaced [0xa687]),
     (0xa687, .kept), (0xa688, .replaced [0xa689]), (0xa689, .kept), (0xa68a, .replaced [0xa68b]),
     (0xa68b, .kept), (0xa68c, .replaced [0xa68d]), (0xa68d, .kept), (0xa68e, .replaced [0xa68f]),
     (0xa68f, .kept), (0xa690, .replaced [0xa691]), (0xa691, .kept), (0xa692, .replaced [0xa693]),
     (0xa693, .kept), (0xa694, .replaced [0xa695]), (0xa695, .kept), (0xa696, .replaced [0xa697]),
     (0xa697, .kept), (0xa698, .replaced [0xa699]), (0xa699, .kept), (0xa69a, .replaced [0xa69b])],
    [(0xa69b, .kept), (0xa69c, .replaced [0x44a]), (0xa69d, .replaced [0x44c]), (0xa69e, .kept),
     (0xa6f8, .refused), (0xa700, .kept), (0xa722, .replaced [0xa723]), (0xa723, .kept),
     (0xa724, .replaced [0xa725]), (0xa725, .kept), (0xa726, .replaced [0xa727]), (0xa727, .kept),
     (0xa728, .replaced [0xa729]), (0xa729, .kept), (0xa72a, .replaced [0xa72b]), (0xa72b, .kept),
     (0xa72c, .replaced [0xa72d]), (0xa72d, .kept), (0xa72e, .replaced [0xa72f]), (0xa72f, .kept),
     (0xa732, .replaced [0xa733]), (0xa733, .kept), (0xa734, .replaced [0xa735]), (0xa735, .kept),
     (0xa736, .replaced [0xa737]), (0xa737, .kept), (0xa738, .replaced [0xa739]), (0xa739, .kept),
     (0xa73a, .replaced [0xa73b]), (0xa73b, .kept), (0xa73c, .replaced [0xa73d]), (0xa73d, .kept),
     (0xa73e, .replaced [0xa73f]), (0xa73f, .kept), (0xa740, .replaced [0xa741]), (0xa741, .kept),
     (0xa742, .replaced [0xa743]), (0xa743, .kept), (0xa744, .replaced [0xa745]), (0xa745, .kept),
     (0xa746, .replaced [0xa747]), (0xa747, .kept), (0xa748, .replaced [0xa749]), (0xa749, .kept),
     (0xa74a, .replaced [0xa74b]), (0xa74b, .kept), (0xa74c, .replaced [0xa74d]), (0xa74d, .kept),
     (0xa74e, .replaced [0xa74f]), (0xa74f, .kept), (0xa750, .replaced [0xa751]), (0xa751, .kept),
     (0xa752, .replaced [0xa753]), (0xa753, .kept), (0xa754, .replaced [0xa755]), (0xa755, .kept),
     (0xa756, .replaced [0xa757]), (0xa757, .kept), (0xa758, .replaced [0xa759]), (0xa759, .kept)],
    [(0xa75a, .replaced [0xa75b]), (0xa75b, .kept), (0xa75c, .replaced [0xa75d]), (0xa75d, .kept),
     (0xa75e, .replaced [0xa75f]), (0xa75f, .kept), (0xa760, .replaced [0xa761]), (0xa761, .kept),
     (0xa762, .replaced [0xa763]), (0xa763, .kept), (0xa764, .replaced [0xa765]), (0xa765, .kept),
     (0xa766, .replaced [0xa767]), (0xa767, .kept), (0xa768, .replaced [0xa769]), (0xa769, .kept),
     (0xa76a, .replaced [0xa76b]), (0xa76b, .kept), (0xa76c, .replaced [0xa76d]), (0xa76d, .kept),
     (0xa76e, .replaced [0xa76f]), (0xa76f, .kept), (0xa770, .replaced [0xa76f]), (0xa771, .kept),
     (0xa779, .replaced [0xa77a]), (0xa77a, .kept), (0xa77b, .replaced [0xa77c]), (0xa77c, .kept),
     (0xa77d, .replaced [0x1d79]), (0xa77e, .replaced [0xa77f]), (0xa77f, .kept),
     (0xa780, .replaced [0xa781]), (0xa781, .kept), (0xa782, .replaced [0xa783]), (0xa783, .kept),
     (0xa784, .replaced [0xa785]), (0xa785, .kept), (0xa786, .replaced [0xa787]), (0xa787, .kept),
     (0xa78b, .replaced [0xa78c]), (0xa78c, .kept), (0xa78d, .replaced [0x265]), (0xa78e, .kept),
     (0xa790, .replaced [0xa791]), (0xa791, .kept), (0xa792, .replaced [0xa793]), (0xa793, .kept),
     (0xa796, .replaced [0xa797]), (0xa797, .kept), (0xa798, .replaced [0xa799]), (0xa799, .kept),
     (0xa79a, .replaced [0xa79b]), (0xa79b, .kept), (0xa79c, .replaced [0xa79d]), (0xa79d, .kept),
     (0xa79e, .replaced [0xa79f]), (0xa79f, .kept), (0xa7a0, .replaced [0xa7a1]), (0xa7a1, .kept),
     (0xa7a2, .replaced [0xa7a3])],
    [(0xa7a3, .kept), (0xa7a4, .replaced [0xa7a5]), (0xa7a5, .kept), (0xa7a6, .replaced [0xa7a7]),
     (0xa7a7, .kept), (0xa7a8, .replaced [0xa7a9]), (0xa7a9, .kept), (0xa7aa, .replaced [0x266]),
     (0xa7ab, .replaced [0x25c]), (0xa7ac, .replaced [0x261]), (0xa7ad, .replaced [0x26c]),
     (0xa7ae, .replaced [0x26a]), (0xa7af, .kept), (0xa7b0, .replaced [0x29e]),
     (0xa7b1, .replaced [0x287]), (0xa7b2, .replaced [0x29d]), (0xa7b3, .replaced [0xab53]),
     (0xa7b4, .replaced [0xa7b5]), (0xa7b5, .kept), (0xa7b6, .replaced [0xa7b7]), (0xa7b7, .kept),
     (0xa7b8, .replaced [0xa7b9]), (0xa7b9, .kept), (0xa7ba, .replaced [0xa7bb]), (0xa7bb, .kept),
     (0xa7bc, .replaced [0xa7bd]), (0xa7bd, .kept), (0xa7be, .replaced [0xa7bf]), (0xa7bf, .kept),
     (0xa7c0, .replaced [0xa7c1]), (0xa7c1, .kept), (0xa7c2, .replaced [0xa7c3]), (0xa7c3, .kept),
     (0xa7c4, .replaced [0xa794]), (0xa7c5, .replaced [0x282]), (0xa7c6, .replaced [0x1d8e]),
     (0xa7c7, .replaced [0xa7c8]), (0xa7c8, .kept), (0xa7c9, .replaced [0xa7ca]), (0xa7ca, .kept),
     (0xa7cb, .refused), (0xa7d0, .replaced [0xa7d1]), (0xa7d1, .kept), (0xa7d2, .refused),
     (0xa7d3, .kept), (0xa7d4, .refused), (0xa7d5, .kept), (0xa7d6, .replaced [0xa7d7]),
     (0xa7d7, .kept), (0xa7d8, .replaced [0xa7d9]), (0xa7d9, .kept), (0xa7da, .refused),
     (0xa7f2, .replaced [0x63]), (0xa7f3, .replaced [0x66]), (0xa7f4, .replaced [0x71]),
     (0xa7f5, .replaced [0xa7f6]), (0xa7f6, .kept), (0xa7f8, .replaced [0x127]),
     (0xa7f9, .replaced [0x153]), (0xa7fa, .kept)],
    [(0xa82d, .refused), (0xa830, .kept), (0xa83a, .refused), (0xa840, .kept), (0xa878, .refused),
     (0xa880, .kept), (0xa8c6, .refused), (0xa8ce, .kept), (0xa8da, .refused), (0xa8e0, .kept),
     (0xa954, .refused), (0xa95f, .kept), (0xa97d, .refused), (0xa980, .kept), (0xa9ce, .refused),
     (0xa9cf, .kept), (0xa9da, .refused), (0xa9de, .kept), (0xa9ff, .refused), (0xaa00, .kept),
     (0xaa37, .refused), (0xaa40, .kept), (0xaa4e, .refused), (0xaa50, .kept), (0xaa5a, .refused),
     (0xaa5c, .kept), (0xaac3, .refused), (0xaadb, .kept), (0xaaf7, .refused), (0xab01, .kept),
     (0xab07, .refused), (0xab09, .kept), (0xab0f, .refused), (0xab11, .kept), (0xab17, .refused),
     (0xab20, .kept), (0xab27, .refused), (0xab28, .kept), (0xab2f, .refused), (0xab30, .kept),
     (0xab5c, .replaced [0xa727]), (0xab5d, .replaced [0xab37]), (0xab5e, .replaced [0x26b]),
     (0xab5f, .replaced [0xab52]), (0xab60, .kept), (0xab69, .replaced [0x28d]), (0xab6a, .kept),
     (0xab6c, .refused), (0xab70, .replaced [0x13a0]), (0xab71, .replaced [0x13a1]),
     (0xab72, .replaced [0x13a2]), (0xab73, .replaced [0x13a3]), (0xab74, .replaced [0x13a4]),
     (0xab75, .replaced [0x13a5]), (0xab76, .replaced [0x13a6]), (0xab77, .replaced [0x13a7]),
     (0xab78, .replaced [0x13a8]), (0xab79, .replaced [0x13a9]), (0xab7a, .replaced [0x13aa]),
     (0xab7b, .replaced [0x13ab])],
    [(0xab7c, .replaced [0x13ac]), (0xab7d, .replaced [0x13ad]), (0xab7e, .replaced [0x13ae]),
     (0xab7f, .replaced [0x13af]), (0xab80, .replaced [0x13b0]), (0xab81, .replaced [0x13b1]),
     (0xab82, .replaced [0x13b2]), (0xab83, .replaced [0x13b3]), (0xab84, .replaced [0x13b4]),
     (0xab85, .replaced [0x13b5]), (0xab86, .replaced [0x13b6]), (0xab87, .replaced [0x13b7]),
     (0xab88, .replaced [0x13b8]), (0xab89, .replaced [0x13b9]), (0xab8a, .replaced [0x13ba]),
     (0xab8b, .replaced [0x13bb]), (0xab8c, .replaced [0x13bc]), (0xab8d, .replaced [0x13bd]),
     (0xab8e, .replaced [0x13be]), (0xab8f, .replaced [0x13bf]), (0xab90, .replaced [0x13c0]),
     (0xab91, .replaced [0x13c1]), (0xab92, .replaced [0x13c2]), (0xab93, .replaced [0x13c3]),
     (0xab94, .replaced [0x13c4]), (0xab95, .replaced [0x13c5]), (0xab96, .replaced [0x13c6]),
     (0xab97, .replaced [0x13c7]), (0xab98, .replaced [0x13c8]), (0xab99, .replaced [0x13c9]),
     (0xab9a, .replaced [0x13ca]), (0xab9b, .replaced [0x13cb]), (0xab9c, .replaced [0x13cc]),
     (0xab9d, .replaced [0x13cd]), (0xab9e, .replaced [0x13ce]), (0xab9f, .replaced [0x13cf]),
     (0xaba0, .replaced [0x13d0]), (0xaba1, .replaced [0x13d1]), (0xaba2, .replaced [0x13d2]),
     (0xaba3, .replaced [0x13d3]), (0xaba4, .replaced [0x13d4]), (0xaba5, .replaced [0x13d5]),
     (0xaba6, .replaced [0x13d6]), (0xaba7, .replaced [0x13d7]), (0xaba8, .replaced [0x13d8]),
     (0xaba9, .replaced [0x13d9]), (0xabaa, .replaced [0x13da]), (0xabab, .replaced [0x13db]),
     (0xabac, .replaced [0x13dc]), (0xabad, .replaced [0x13dd]), (0xabae, .replaced [0x13de]),
     (0xabaf, .replaced [0x13df]), (0xabb0, .replaced [0x13e0]), (0xabb1, .replaced [0x13e1]),
     (0xabb2, .replaced [0x13e2]), (0xabb3, .replaced [0x13e3]), (0xabb4, .replaced [0x13e4]),
     (0xabb5, .replaced [0x13e5]), (0xabb6, .replaced [0x13e6]), (0xabb7, .replaced [0x13e7])],
    [(0xabb8, .replaced [0x13e8]), (0xabb9, .replaced [0x13e9]), (0xabba, .replaced [0x13ea]),
     (0xabbb, .replaced [0x13eb]), (0xabbc, .replaced [0x13ec]), (0xabbd, .replaced [0x13ed]),
     (0xabbe, .replaced [0x13ee]), (0xabbf, .replaced [0x13ef]), (0xabc0, .kept),
     (0xabee, .refused), (0xabf0, .kept), (0xabfa, .refused), (0xac00, .kept), (0xd7a4, .refused),
     (0xd7b0, .kept), (0xd7c7, .refused), (0xd7cb, .kept), (0xd7fc, .refused)]]

set_option maxRecDepth 20000 in
def fatesFromF800 : Text.Runs Fate :=
  List.flatten [
    [(0xf900, .replaced [0x8c48]), (0xf901, .replaced [0x66f4]), (0xf902, .replaced [0x8eca]),
     (0xf903, .replaced [0x8cc8]), (0xf904, .replaced [0x6ed1]), (0xf905, .replaced [0x4e32]),
     (0xf906, .replaced [0x53e5]), (0xf907, .replaced [0x9f9c]), (0xf909, .replaced [0x5951]),
     (0xf90a, .replaced [0x91d1]), (0xf90b, .replaced [0x5587]), (0xf90c, .replaced [0x5948]),
     (0xf90d, .replaced [0x61f6]), (0xf90e, .replaced [0x7669]), (0xf90f, .replaced [0x7f85]),
     (0xf910, .replaced [0x863f]), (0xf911, .replaced [0x87ba]), (0xf912, .replaced [0x88f8]),
     (0xf913, .replaced [0x908f]), (0xf914, .replaced [0x6a02]), (0xf915, .replaced [0x6d1b]),
     (0xf916, .replaced [0x70d9]), (0xf917, .replaced [0x73de]), (0xf918, .replaced [0x843d]),
     (0xf919, .replaced [0x916a]), (0xf91a, .replaced [0x99f1]), (0xf91b, .replaced [0x4e82]),
     (0xf91c, .replaced [0x5375]), (0xf91d, .replaced [0x6b04]), (0xf91e, .replaced [0x721b]),
     (0xf91f, .replaced [0x862d]), (0xf920, .replaced [0x9e1e]), (0xf921, .replaced [0x5d50]),
     (0xf922, .replaced [0x6feb]), (0xf923, .replaced [0x85cd]), (0xf924, .replaced [0x8964]),
     (0xf925, .replaced [0x62c9]), (0xf926, .replaced [0x81d8]), (0xf927, .replaced [0x881f]),
     (0xf928, .replaced [0x5eca]), (0xf929, .replaced [0x6717]), (0xf92a, .replaced [0x6d6a]),
     (0xf92b, .replaced [0x72fc]), (0xf92c, .replaced [0x90ce]), (0xf92d, .replaced [0x4f86]),
     (0xf92e, .replaced [0x51b7]), (0xf92f, .replaced [0x52de]), (0xf930, .replaced [0x64c4]),
     (0xf931, .replaced [0x6ad3]), (0xf932, .replaced [0x7210]), (0xf933, .replaced [0x76e7]),
     (0xf934, .replaced [0x8001]), (0xf935, .replaced [0x8606]), (0xf936, .replaced [0x865c]),
     (0xf937, .replaced [0x8def]), (0xf938, .replaced [0x9732]), (0xf939, .replaced [0x9b6f]),
     (0xf93a, .replaced [0x9dfa]), (0xf93b, .replaced [0x788c]), (0xf93c, .replaced [0x797f])],
    [(0xf93d, .replaced [0x7da0]), (0xf93e, .replaced [0x83c9]), (0xf93f, .replaced [0x9304]),
     (0xf940, .replaced [0x9e7f]), (0xf941, .replaced [0x8ad6]), (0xf942, .replaced [0x58df]),
     (0xf943, .replaced [0x5f04]), (0xf944, .replaced [0x7c60]), (0xf945, .replaced [0x807e]),
     (0xf946, .replaced [0x7262]), (0xf947, .replaced [0x78ca]), (0xf948, .replaced [0x8cc2]),
     (0xf949, .replaced [0x96f7]), (0xf94a, .replaced [0x58d8]), (0xf94b, .replaced [0x5c62]),
     (0xf94c, .replaced [0x6a13]), (0xf94d, .replaced [0x6dda]), (0xf94e, .replaced [0x6f0f]),
     (0xf94f, .replaced [0x7d2f]), (0xf950, .replaced [0x7e37]), (0xf951, .replaced [0x964b]),
     (0xf952, .replaced [0x52d2]), (0xf953, .replaced [0x808b]), (0xf954, .replaced [0x51dc]),
     (0xf955, .replaced [0x51cc]), (0xf956, .replaced [0x7a1c]), (0xf957, .replaced [0x7dbe]),
     (0xf958, .replaced [0x83f1]), (0xf959, .replaced [0x9675]), (0xf95a, .replaced [0x8b80]),
     (0xf95b, .replaced [0x62cf]), (0xf95c, .replaced [0x6a02]), (0xf95d, .replaced [0x8afe]),
     (0xf95e, .replaced [0x4e39]), (0xf95f, .replaced [0x5be7]), (0xf960, .replaced [0x6012]),
     (0xf961, .replaced [0x7387]), (0xf962, .replaced [0x7570]), (0xf963, .replaced [0x5317]),
     (0xf964, .replaced [0x78fb]), (0xf965, .replaced [0x4fbf]), (0xf966, .replaced [0x5fa9]),
     (0xf967, .replaced [0x4e0d]), (0xf968, .replaced [0x6ccc]), (0xf969, .replaced [0x6578]),
     (0xf96a, .replaced [0x7d22]), (0xf96b, .replaced [0x53c3]), (0xf96c, .replaced [0x585e]),
     (0xf96d, .replaced [0x7701]), (0xf96e, .replaced [0x8449]), (0xf96f, .replaced [0x8aaa]),
     (0xf970, .replaced [0x6bba]), (0xf971, .replaced [0x8fb0]), (0xf972, .replaced [0x6c88]),
     (0xf973, .replaced [0x62fe]), (0xf974, .replaced [0x82e5]), (0xf975, .replaced [0x63a0]),
     (0xf976, .replaced [0x7565]), (0xf977, .replaced [0x4eae]), (0xf978, .replaced [0x5169])],
    [(0xf979, .replaced [0x51c9]), (0xf97a, .replaced [0x6881]), (0xf97b, .replaced [0x7ce7]),
     (0xf97c, .replaced [0x826f]), (0xf97d, .replaced [0x8ad2]), (0xf97e, .replaced [0x91cf]),
     (0xf97f, .replaced [0x52f5]), (0xf980, .replaced [0x5442]), (0xf981, .replaced [0x5973]),
     (0xf982, .replaced [0x5eec]), (0xf983, .replaced [0x65c5]), (0xf984, .replaced [0x6ffe]),
     (0xf985, .replaced [0x792a]), (0xf986, .replaced [0x95ad]), (0xf987, .replaced [0x9a6a]),
     (0xf988, .replaced [0x9e97]), (0xf989, .replaced [0x9ece]), (0xf98a, .replaced [0x529b]),
     (0xf98b, .replaced [0x66c6]), (0xf98c, .replaced [0x6b77]), (0xf98d, .replaced [0x8f62]),
     (0xf98e, .replaced [0x5e74]), (0xf98f, .replaced [0x6190]), (0xf990, .replaced [0x6200]),
     (0xf991, .replaced [0x649a]), (0xf992, .replaced [0x6f23]), (0xf993, .replaced [0x7149]),
     (0xf994, .replaced [0x7489]), (0xf995, .replaced [0x79ca]), (0xf996, .replaced [0x7df4]),
     (0xf997, .replaced [0x806f]), (0xf998, .replaced [0x8f26]), (0xf999, .replaced [0x84ee]),
     (0xf99a, .replaced [0x9023]), (0xf99b, .replaced [0x934a]), (0xf99c, .replaced [0x5217]),
     (0xf99d, .replaced [0x52a3]), (0xf99e, .replaced [0x54bd]), (0xf99f, .replaced [0x70c8]),
     (0xf9a0, .replaced [0x88c2]), (0xf9a1, .replaced [0x8aaa]), (0xf9a2, .replaced [0x5ec9]),
     (0xf9a3, .replaced [0x5ff5]), (0xf9a4, .replaced [0x637b]), (0xf9a5, .replaced [0x6bae]),
     (0xf9a6, .replaced [0x7c3e]), (0xf9a7, .replaced [0x7375]), (0xf9a8, .replaced [0x4ee4]),
     (0xf9a9, .replaced [0x56f9]), (0xf9aa, .replaced [0x5be7]), (0xf9ab, .replaced [0x5dba]),
     (0xf9ac, .replaced [0x601c]), (0xf9ad, .replaced [0x73b2]), (0xf9ae, .replaced [0x7469]),
     (0xf9af, .replaced [0x7f9a]), (0xf9b0, .replaced [0x8046]), (0xf9b1, .replaced [0x9234]),
     (0xf9b2, .replaced [0x96f6]), (0xf9b3, .replaced [0x9748]), (0xf9b4, .replaced [0x9818])],
    [(0xf9b5, .replaced [0x4f8b]), (0xf9b6, .replaced [0x79ae]), (0xf9b7, .replaced [0x91b4]),
     (0xf9b8, .replaced [0x96b8]), (0xf9b9, .replaced [0x60e1]), (0xf9ba, .replaced [0x4e86]),
     (0xf9bb, .replaced [0x50da]), (0xf9bc, .replaced [0x5bee]), (0xf9bd, .replaced [0x5c3f]),
     (0xf9be, .replaced [0x6599]), (0xf9bf, .replaced [0x6a02]), (0xf9c0, .replaced [0x71ce]),
     (0xf9c1, .replaced [0x7642]), (0xf9c2, .replaced [0x84fc]), (0xf9c3, .replaced [0x907c]),
     (0xf9c4, .replaced [0x9f8d]), (0xf9c5, .replaced [0x6688]), (0xf9c6, .replaced [0x962e]),
     (0xf9c7, .replaced [0x5289]), (0xf9c8, .replaced [0x677b]), (0xf9c9, .replaced [0x67f3]),
     (0xf9ca, .replaced [0x6d41]), (0xf9cb, .replaced [0x6e9c]), (0xf9cc, .replaced [0x7409]),
     (0xf9cd, .replaced [0x7559]), (0xf9ce, .replaced [0x786b]), (0xf9cf, .replaced [0x7d10]),
     (0xf9d0, .replaced [0x985e]), (0xf9d1, .replaced [0x516d]), (0xf9d2, .replaced [0x622e]),
     (0xf9d3, .replaced [0x9678]), (0xf9d4, .replaced [0x502b]), (0xf9d5, .replaced [0x5d19]),
     (0xf9d6, .replaced [0x6dea]), (0xf9d7, .replaced [0x8f2a]), (0xf9d8, .replaced [0x5f8b]),
     (0xf9d9, .replaced [0x6144]), (0xf9da, .replaced [0x6817]), (0xf9db, .replaced [0x7387]),
     (0xf9dc, .replaced [0x9686]), (0xf9dd, .replaced [0x5229]), (0xf9de, .replaced [0x540f]),
     (0xf9df, .replaced [0x5c65]), (0xf9e0, .replaced [0x6613]), (0xf9e1, .replaced [0x674e]),
     (0xf9e2, .replaced [0x68a8]), (0xf9e3, .replaced [0x6ce5]), (0xf9e4, .replaced [0x7406]),
     (0xf9e5, .replaced [0x75e2]), (0xf9e6, .replaced [0x7f79]), (0xf9e7, .replaced [0x88cf]),
     (0xf9e8, .replaced [0x88e1]), (0xf9e9, .replaced [0x91cc]), (0xf9ea, .replaced [0x96e2]),
     (0xf9eb, .replaced [0x533f]), (0xf9ec, .replaced [0x6eba]), (0xf9ed, .replaced [0x541d]),
     (0xf9ee, .replaced [0x71d0]), (0xf9ef, .replaced [0x7498]), (0xf9f0, .replaced [0x85fa])],
    [(0xf9f1, .replaced [0x96a3]), (0xf9f2, .replaced [0x9c57]), (0xf9f3, .replaced [0x9e9f]),
     (0xf9f4, .replaced [0x6797]), (0xf9f5, .replaced [0x6dcb]), (0xf9f6, .replaced [0x81e8]),
     (0xf9f7, .replaced [0x7acb]), (0xf9f8, .replaced [0x7b20]), (0xf9f9, .replaced [0x7c92]),
     (0xf9fa, .replaced [0x72c0]), (0xf9fb, .replaced [0x7099]), (0xf9fc, .replaced [0x8b58]),
     (0xf9fd, .replaced [0x4ec0]), (0xf9fe, .replaced [0x8336]), (0xf9ff, .replaced [0x523a]),
     (0xfa00, .replaced [0x5207]), (0xfa01, .replaced [0x5ea6]), (0xfa02, .replaced [0x62d3]),
     (0xfa03, .replaced [0x7cd6]), (0xfa04, .replaced [0x5b85]), (0xfa05, .replaced [0x6d1e]),
     (0xfa06, .replaced [0x66b4]), (0xfa07, .replaced [0x8f3b]), (0xfa08, .replaced [0x884c]),
     (0xfa09, .replaced [0x964d]), (0xfa0a, .replaced [0x898b]), (0xfa0b, .replaced [0x5ed3]),
     (0xfa0c, .replaced [0x5140]), (0xfa0d, .replaced [0x55c0]), (0xfa0e, .kept),
     (0xfa10, .replaced [0x585a]), (0xfa11, .kept), (0xfa12, .replaced [0x6674]), (0xfa13, .kept),
     (0xfa15, .replaced [0x51de]), (0xfa16, .replaced [0x732a]), (0xfa17, .replaced [0x76ca]),
     (0xfa18, .replaced [0x793c]), (0xfa19, .replaced [0x795e]), (0xfa1a, .replaced [0x7965]),
     (0xfa1b, .replaced [0x798f]), (0xfa1c, .replaced [0x9756]), (0xfa1d, .replaced [0x7cbe]),
     (0xfa1e, .replaced [0x7fbd]), (0xfa1f, .kept), (0xfa20, .replaced [0x8612]), (0xfa21, .kept),
     (0xfa22, .replaced [0x8af8]), (0xfa23, .kept), (0xfa25, .replaced [0x9038]),
     (0xfa26, .replaced [0x90fd]), (0xfa27, .kept), (0xfa2a, .replaced [0x98ef]),
     (0xfa2b, .replaced [0x98fc]), (0xfa2c, .replaced [0x9928]), (0xfa2d, .replaced [0x9db4]),
     (0xfa2e, .replaced [0x90de]), (0xfa2f, .replaced [0x96b7]), (0xfa30, .replaced [0x4fae]),
     (0xfa31, .replaced [0x50e7])],
    [(0xfa32, .replaced [0x514d]), (0xfa33, .replaced [0x52c9]), (0xfa34, .replaced [0x52e4]),
     (0xfa35, .replaced [0x5351]), (0xfa36, .replaced [0x559d]), (0xfa37, .replaced [0x5606]),
     (0xfa38, .replaced [0x5668]), (0xfa39, .replaced [0x5840]), (0xfa3a, .replaced [0x58a8]),
     (0xfa3b, .replaced [0x5c64]), (0xfa3c, .replaced [0x5c6e]), (0xfa3d, .replaced [0x6094]),
     (0xfa3e, .replaced [0x6168]), (0xfa3f, .replaced [0x618e]), (0xfa40, .replaced [0x61f2]),
     (0xfa41, .replaced [0x654f]), (0xfa42, .replaced [0x65e2]), (0xfa43, .replaced [0x6691]),
     (0xfa44, .replaced [0x6885]), (0xfa45, .replaced [0x6d77]), (0xfa46, .replaced [0x6e1a]),
     (0xfa47, .replaced [0x6f22]), (0xfa48, .replaced [0x716e]), (0xfa49, .replaced [0x722b]),
     (0xfa4a, .replaced [0x7422]), (0xfa4b, .replaced [0x7891]), (0xfa4c, .replaced [0x793e]),
     (0xfa4d, .replaced [0x7949]), (0xfa4e, .replaced [0x7948]), (0xfa4f, .replaced [0x7950]),
     (0xfa50, .replaced [0x7956]), (0xfa51, .replaced [0x795d]), (0xfa52, .replaced [0x798d]),
     (0xfa53, .replaced [0x798e]), (0xfa54, .replaced [0x7a40]), (0xfa55, .replaced [0x7a81]),
     (0xfa56, .replaced [0x7bc0]), (0xfa57, .replaced [0x7df4]), (0xfa58, .replaced [0x7e09]),
     (0xfa59, .replaced [0x7e41]), (0xfa5a, .replaced [0x7f72]), (0xfa5b, .replaced [0x8005]),
     (0xfa5c, .replaced [0x81ed]), (0xfa5d, .replaced [0x8279]), (0xfa5f, .replaced [0x8457]),
     (0xfa60, .replaced [0x8910]), (0xfa61, .replaced [0x8996]), (0xfa62, .replaced [0x8b01]),
     (0xfa63, .replaced [0x8b39]), (0xfa64, .replaced [0x8cd3]), (0xfa65, .replaced [0x8d08]),
     (0xfa66, .replaced [0x8fb6]), (0xfa67, .replaced [0x9038]), (0xfa68, .replaced [0x96e3]),
     (0xfa69, .replaced [0x97ff]), (0xfa6a, .replaced [0x983b]), (0xfa6b, .replaced [0x6075]),
     (0xfa6c, .replaced [0x242ee]), (0xfa6d, .replaced [0x8218]), (0xfa6e, .refused)],
    [(0xfa70, .replaced [0x4e26]), (0xfa71, .replaced [0x51b5]), (0xfa72, .replaced [0x5168]),
     (0xfa73, .replaced [0x4f80]), (0xfa74, .replaced [0x5145]), (0xfa75, .replaced [0x5180]),
     (0xfa76, .replaced [0x52c7]), (0xfa77, .replaced [0x52fa]), (0xfa78, .replaced [0x559d]),
     (0xfa79, .replaced [0x5555]), (0xfa7a, .replaced [0x5599]), (0xfa7b, .replaced [0x55e2]),
     (0xfa7c, .replaced [0x585a]), (0xfa7d, .replaced [0x58b3]), (0xfa7e, .replaced [0x5944]),
     (0xfa7f, .replaced [0x5954]), (0xfa80, .replaced [0x5a62]), (0xfa81, .replaced [0x5b28]),
     (0xfa82, .replaced [0x5ed2]), (0xfa83, .replaced [0x5ed9]), (0xfa84, .replaced [0x5f69]),
     (0xfa85, .replaced [0x5fad]), (0xfa86, .replaced [0x60d8]), (0xfa87, .replaced [0x614e]),
     (0xfa88, .replaced [0x6108]), (0xfa89, .replaced [0x618e]), (0xfa8a, .replaced [0x6160]),
     (0xfa8b, .replaced [0x61f2]), (0xfa8c, .replaced [0x6234]), (0xfa8d, .replaced [0x63c4]),
     (0xfa8e, .replaced [0x641c]), (0xfa8f, .replaced [0x6452]), (0xfa90, .replaced [0x6556]),
     (0xfa91, .replaced [0x6674]), (0xfa92, .replaced [0x6717]), (0xfa93, .replaced [0x671b]),
     (0xfa94, .replaced [0x6756]), (0xfa95, .replaced [0x6b79]), (0xfa96, .replaced [0x6bba]),
     (0xfa97, .replaced [0x6d41]), (0xfa98, .replaced [0x6edb]), (0xfa99, .replaced [0x6ecb]),
     (0xfa9a, .replaced [0x6f22]), (0xfa9b, .replaced [0x701e]), (0xfa9c, .replaced [0x716e]),
     (0xfa9d, .replaced [0x77a7]), (0xfa9e, .replaced [0x7235]), (0xfa9f, .replaced [0x72af]),
     (0xfaa0, .replaced [0x732a]), (0xfaa1, .replaced [0x7471]), (0xfaa2, .replaced [0x7506]),
     (0xfaa3, .replaced [0x753b]), (0xfaa4, .replaced [0x761d]), (0xfaa5, .replaced [0x761f]),
     (0xfaa6, .replaced [0x76ca]), (0xfaa7, .replaced [0x76db]), (0xfaa8, .replaced [0x76f4]),
     (0xfaa9, .replaced [0x774a]), (0xfaaa, .replaced [0x7740]), (0xfaab, .replaced [0x78cc])],
    [(0xfaac, .replaced [0x7ab1]), (0xfaad, .replaced [0x7bc0]), (0xfaae, .replaced [0x7c7b]),
     (0xfaaf, .replaced [0x7d5b]), (0xfab0, .replaced [0x7df4]), (0xfab1, .replaced [0x7f3e]),
     (0xfab2, .replaced [0x8005]), (0xfab3, .replaced [0x8352]), (0xfab4, .replaced [0x83ef]),
     (0xfab5, .replaced [0x8779]), (0xfab6, .replaced [0x8941]), (0xfab7, .replaced [0x8986]),
     (0xfab8, .replaced [0x8996]), (0xfab9, .replaced [0x8abf]), (0xfaba, .replaced [0x8af8]),
     (0xfabb, .replaced [0x8acb]), (0xfabc, .replaced [0x8b01]), (0xfabd, .replaced [0x8afe]),
     (0xfabe, .replaced [0x8aed]), (0xfabf, .replaced [0x8b39]), (0xfac0, .replaced [0x8b8a]),
     (0xfac1, .replaced [0x8d08]), (0xfac2, .replaced [0x8f38]), (0xfac3, .replaced [0x9072]),
     (0xfac4, .replaced [0x9199]), (0xfac5, .replaced [0x9276]), (0xfac6, .replaced [0x967c]),
     (0xfac7, .replaced [0x96e3]), (0xfac8, .replaced [0x9756]), (0xfac9, .replaced [0x97db]),
     (0xfaca, .replaced [0x97ff]), (0xfacb, .replaced [0x980b]), (0xfacc, .replaced [0x983b]),
     (0xfacd, .replaced [0x9b12]), (0xface, .replaced [0x9f9c]), (0xfacf, .replaced [0x2284a]),
     (0xfad0, .replaced [0x22844]), (0xfad1, .replaced [0x233d5]), (0xfad2, .replaced [0x3b9d]),
     (0xfad3, .replaced [0x4018]), (0xfad4, .replaced [0x4039]), (0xfad5, .replaced [0x25249]),
     (0xfad6, .replaced [0x25cd0]), (0xfad7, .replaced [0x27ed3]), (0xfad8, .replaced [0x9f43]),
     (0xfad9, .replaced [0x9f8e]), (0xfada, .refused), (0xfb00, .replaced [0x66, 0x66]),
     (0xfb01, .replaced [0x66, 0x69]), (0xfb02, .replaced [0x66, 0x6c]),
     (0xfb03, .replaced [0x66, 0x66, 0x69]), (0xfb04, .replaced [0x66, 0x66, 0x6c]),
     (0xfb05, .replaced [0x73, 0x74]), (0xfb07, .refused), (0xfb13, .replaced [0x574, 0x576]),
     (0xfb14, .replaced [0x574, 0x565]), (0xfb15, .replaced [0x574, 0x56b]),
     (0xfb16, .replaced [0x57e, 0x576]), (0xfb17, .replaced [0x574, 0x56d]), (0xfb18, .refused)],
    [(0xfb1d, .replaced [0x5d9, 0x5b4]), (0xfb1e, .kept), (0xfb1f, .replaced [0x5f2, 0x5b7]),
     (0xfb20, .replaced [0x5e2]), (0xfb21, .replaced [0x5d0]), (0xfb22, .replaced [0x5d3]),
     (0xfb23, .replaced [0x5d4]), (0xfb24, .replaced [0x5db]), (0xfb25, .replaced [0x5dc]),
     (0xfb26, .replaced [0x5dd]), (0xfb27, .replaced [0x5e8]), (0xfb28, .replaced [0x5ea]),
     (0xfb29, .replaced [0x2b]), (0xfb2a, .replaced [0x5e9, 0x5c1]),
     (0xfb2b, .replaced [0x5e9, 0x5c2]), (0xfb2c, .replaced [0x5e9, 0x5bc, 0x5c1]),
     (0xfb2d, .replaced [0x5e9, 0x5bc, 0x5c2]), (0xfb2e, .replaced [0x5d0, 0x5b7]),
     (0xfb2f, .replaced [0x5d0, 0x5b8]), (0xfb30, .replaced [0x5d0, 0x5bc]),
     (0xfb31, .replaced [0x5d1, 0x5bc]), (0xfb32, .replaced [0x5d2, 0x5bc]),
     (0xfb33, .replaced [0x5d3, 0x5bc]), (0xfb34, .replaced [0x5d4, 0x5bc]),
     (0xfb35, .replaced [0x5d5, 0x5bc]), (0xfb36, .replaced [0x5d6, 0x5bc]), (0xfb37, .refused),
     (0xfb38, .replaced [0x5d8, 0x5bc]), (0xfb39, .replaced [0x5d9, 0x5bc]),
     (0xfb3a, .replaced [0x5da, 0x5bc]), (0xfb3b, .replaced [0x5db, 0x5bc]),
     (0xfb3c, .replaced [0x5dc, 0x5bc]), (0xfb3d, .refused), (0xfb3e, .replaced [0x5de, 0x5bc]),
     (0xfb3f, .refused), (0xfb40, .replaced [0x5e0, 0x5bc]), (0xfb41, .replaced [0x5e1, 0x5bc]),
     (0xfb42, .refused), (0xfb43, .replaced [0x5e3, 0x5bc]), (0xfb44, .replaced [0x5e4, 0x5bc]),
     (0xfb45, .refused), (0xfb46, .replaced [0x5e6, 0x5bc]), (0xfb47, .replaced [0x5e7, 0x5bc]),
     (0xfb48, .replaced [0x5e8, 0x5bc]), (0xfb49, .replaced [0x5e9, 0x5bc]),
     (0xfb4a, .replaced [0x5ea, 0x5bc]), (0xfb4b, .replaced [0x5d5, 0x5b9]),
     (0xfb4c, .replaced [0x5d1, 0x5bf]), (0xfb4d, .replaced [0x5db, 0x5bf]),
     (0xfb4e, .replaced [0x5e4, 0x5bf]), (0xfb4f, .replaced [0x5d0, 0x5dc]),
     (0xfb50, .replaced [0x671]), (0xfb52, .replaced [0x67b]), (0xfb56, .replaced [0x67e]),
     (0xfb5a, .replaced [0x680]), (0xfb5e, .replaced [0x67a]), (0xfb62, .replaced [0x67f]),
     (0xfb66, .replaced [0x679]), (0xfb6a, .replaced [0x6a4]), (0xfb6e, .replaced [0x6a6])],
    [(0xfb72, .replaced [0x684]), (0xfb76, .replaced [0x683]), (0xfb7a, .replaced [0x686]),
     (0xfb7e, .replaced [0x687]), (0xfb82, .replaced [0x68d]), (0xfb84, .replaced [0x68c]),
     (0xfb86, .replaced [0x68e]), (0xfb88, .replaced [0x688]), (0xfb8a, .replaced [0x698]),
     (0xfb8c, .replaced [0x691]), (0xfb8e, .replaced [0x6a9]), (0xfb92, .replaced [0x6af]),
     (0xfb96, .replaced [0x6b3]), (0xfb9a, .replaced [0x6b1]), (0xfb9e, .replaced [0x6ba]),
     (0xfba0, .replaced [0x6bb]), (0xfba4, .replaced [0x6c0]), (0xfba6, .replaced [0x6c1]),
     (0xfbaa, .replaced [0x6be]), (0xfbae, .replaced [0x6d2]), (0xfbb0, .replaced [0x6d3]),
     (0xfbb2, .kept), (0xfbc3, .refused), (0xfbd3, .replaced [0x6ad]), (0xfbd7, .replaced [0x6c7]),
     (0xfbd9, .replaced [0x6c6]), (0xfbdb, .replaced [0x6c8]), (0xfbdd, .replaced [0x6c7, 0x674]),
     (0xfbde, .replaced [0x6cb]), (0xfbe0, .replaced [0x6c5]), (0xfbe2, .replaced [0x6c9]),
     (0xfbe4, .replaced [0x6d0]), (0xfbe8, .replaced [0x649]), (0xfbea, .replaced [0x626, 0x627]),
     (0xfbec, .replaced [0x626, 0x6d5]), (0xfbee, .replaced [0x626, 0x648]),
     (0xfbf0, .replaced [0x626, 0x6c7]), (0xfbf2, .replaced [0x626, 0x6c6]),
     (0xfbf4, .replaced [0x626, 0x6c8]), (0xfbf6, .replaced [0x626, 0x6d0]),
     (0xfbf9, .replaced [0x626, 0x649]), (0xfbfc, .replaced [0x6cc]),
     (0xfc00, .replaced [0x626, 0x62c]), (0xfc01, .replaced [0x626, 0x62d]),
     (0xfc02, .replaced [0x626, 0x645]), (0xfc03, .replaced [0x626, 0x649]),
     (0xfc04, .replaced [0x626, 0x64a]), (0xfc05, .replaced [0x628, 0x62c]),
     (0xfc06, .replaced [0x628, 0x62d]), (0xfc07, .replaced [0x628, 0x62e]),
     (0xfc08, .replaced [0x628, 0x645]), (0xfc09, .replaced [0x628, 0x649]),
     (0xfc0a, .replaced [0x628, 0x64a]), (0xfc0b, .replaced [0x62a, 0x62c]),
     (0xfc0c, .replaced [0x62a, 0x62d]), (0xfc0d, .replaced [0x62a, 0x62e]),
     (0xfc0e, .replaced [0x62a, 0x645]), (0xfc0f, .replaced [0x62a, 0x649]),
     (0xfc10, .replaced [0x62a, 0x64a]), (0xfc11, .replaced [0x62b, 0x62c])],
    [(0xfc12, .replaced [0x62b, 0x645]), (0xfc13, .replaced [0x62b, 0x649]),
     (0xfc14, .replaced [0x62b, 0x64a]), (0xfc15, .replaced [0x62c, 0x62d]),
     (0xfc16, .replaced [0x62c, 0x645]), (0xfc17, .replaced [0x62d, 0x62c]),
     (0xfc18, .replaced [0x62d, 0x645]), (0xfc19, .replaced [0x62e, 0x62c]),
     (0xfc1a, .replaced [0x62e, 0x62d]), (0xfc1b, .replaced [0x62e, 0x645]),
     (0xfc1c, .replaced [0x633, 0x62c]), (0xfc1d, .replaced [0x633, 0x62d]),
     (0xfc1e, .replaced [0x633, 0x62e]), (0xfc1f, .replaced [0x633, 0x645]),
     (0xfc20, .replaced [0x635, 0x62d]), (0xfc21, .replaced [0x635, 0x645]),
     (0xfc22, .replaced [0x636, 0x62c]), (0xfc23, .replaced [0x636, 0x62d]),
     (0xfc24, .replaced [0x636, 0x62e]), (0xfc25, .replaced [0x636, 0x645]),
     (0xfc26, .replaced [0x637, 0x62d]), (0xfc27, .replaced [0x637, 0x645]),
     (0xfc28, .replaced [0x638, 0x645]), (0xfc29, .replaced [0x639, 0x62c]),
     (0xfc2a, .replaced [0x639, 0x645]), (0xfc2b, .replaced [0x63a, 0x62c]),
     (0xfc2c, .replaced [0x63a, 0x645]), (0xfc2d, .replaced [0x641, 0x62c]),
     (0xfc2e, .replaced [0x641, 0x62d]), (0xfc2f, .replaced [0x641, 0x62e]),
     (0xfc30, .replaced [0x641, 0x645]), (0xfc31, .replaced [0x641, 0x649]),
     (0xfc32, .replaced [0x641, 0x64a]), (0xfc33, .replaced [0x642, 0x62d]),
     (0xfc34, .replaced [0x642, 0x645]), (0xfc35, .replaced [0x642, 0x649]),
     (0xfc36, .replaced [0x642, 0x64a]), (0xfc37, .replaced [0x643, 0x627]),
     (0xfc38, .replaced [0x643, 0x62c]), (0xfc39, .replaced [0x643, 0x62d]),
     (0xfc3a, .replaced [0x643, 0x62e]), (0xfc3b, .replaced [0x643, 0x644]),
     (0xfc3c, .replaced [0x643, 0x645]), (0xfc3d, .replaced [0x643, 0x649]),
     (0xfc3e, .replaced [0x643, 0x64a]), (0xfc3f, .replaced [0x644, 0x62c]),
     (0xfc40, .replaced [0x644, 0x62d]), (0xfc41, .replaced [0x644, 0x62e]),
     (0xfc42, .replaced [0x644, 0x645]), (0xfc43, .replaced [0x644, 0x649]),
     (0xfc44, .replaced [0x644, 0x64a]), (0xfc45, .replaced [0x645, 0x62c]),
     (0xfc46, .replaced [0x645, 0x62d]), (0xfc47, .replaced [0x645, 0x62e]),
     (0xfc48, .replaced [0x645, 0x645]), (0xfc49, .replaced [0x645, 0x649]),
     (0xfc4a, .replaced [0x645, 0x64a]), (0xfc4b, .replaced [0x646, 0x62c]),
     (0xfc4c, .replaced [0x646, 0x62d]), (0xfc4d, .replaced [0x646, 0x62e])],
    [(0xfc4e, .replaced [0x646, 0x645]), (0xfc4f, .replaced [0x646, 0x649]),
     (0xfc50, .replaced [0x646, 0x64a]), (0xfc51, .replaced [0x647, 0x62c]),
     (0xfc52, .replaced [0x647, 0x645]), (0xfc53, .replaced [0x647, 0x649]),
     (0xfc54, .replaced [0x647, 0x64a]), (0xfc55, .replaced [0x64a, 0x62c]),
     (0xfc56, .replaced [0x64a, 0x62d]), (0xfc57, .replaced [0x64a, 0x62e]),
     (0xfc58, .replaced [0x64a, 0x645]), (0xfc59, .replaced [0x64a, 0x649]),
     (0xfc5a, .replaced [0x64a, 0x64a]), (0xfc5b, .replaced [0x630, 0x670]),
     (0xfc5c, .replaced [0x631, 0x670]), (0xfc5d, .replaced [0x649, 0x670]),
     (0xfc5e, .replaced [0x20, 0x64c, 0x651]), (0xfc5f, .replaced [0x20, 0x64d, 0x651]),
     (0xfc60, .replaced [0x20, 0x64e, 0x651]), (0xfc61, .replaced [0x20, 0x64f, 0x651]),
     (0xfc62, .replaced [0x20, 0x650, 0x651]), (0xfc63, .replaced [0x20, 0x651, 0x670]),
     (0xfc64, .replaced [0x626, 0x631]), (0xfc65, .replaced [0x626, 0x632]),
     (0xfc66, .replaced [0x626, 0x645]), (0xfc67, .replaced [0x626, 0x646]),
     (0xfc68, .replaced [0x626, 0x649]), (0xfc69, .replaced [0x626, 0x64a]),
     (0xfc6a, .replaced [0x628, 0x631]), (0xfc6b, .replaced [0x628, 0x632]),
     (0xfc6c, .replaced [0x628, 0x645]), (0xfc6d, .replaced [0x628, 0x646]),
     (0xfc6e, .replaced [0x628, 0x649]), (0xfc6f, .replaced [0x628, 0x64a]),
     (0xfc70, .replaced [0x62a, 0x631]), (0xfc71, .replaced [0x62a, 0x632]),
     (0xfc72, .replaced [0x62a, 0x645]), (0xfc73, .replaced [0x62a, 0x646]),
     (0xfc74, .replaced [0x62a, 0x649]), (0xfc75, .replaced [0x62a, 0x64a]),
     (0xfc76, .replaced [0x62b, 0x631]), (0xfc77, .replaced [0x62b, 0x632]),
     (0xfc78, .replaced [0x62b, 0x645]), (0xfc79, .replaced [0x62b, 0x646]),
     (0xfc7a, .replaced [0x62b, 0x649]), (0xfc7b, .replaced [0x62b, 0x64a]),
     (0xfc7c, .replaced [0x641, 0x649]), (0xfc7d, .replaced [0x641, 0x64a]),
     (0xfc7e, .replaced [0x642, 0x649]), (0xfc7f, .replaced [0x642, 0x64a]),
     (0xfc80, .replaced [0x643, 0x627]), (0xfc81, .replaced [0x643, 0x644]),
     (0xfc82, .replaced [0x643, 0x645]), (0xfc83, .replaced [0x643, 0x649]),
     (0xfc84, .replaced [0x643, 0x64a]), (0xfc85, .replaced [0x644, 0x645]),
     (0xfc86, .replaced [0x644, 0x649]), (0xfc87, .replaced [0x644, 0x64a]),
     (0xfc88, .replaced [0x645, 0x627]), (0xfc89, .replaced [0x645, 0x645])],
    [(0xfc8a, .replaced [0x646, 0x631]), (0xfc8b, .replaced [0x646, 0x632]),
     (0xfc8c, .replaced [0x646, 0x645]), (0xfc8d, .replaced [0x646, 0x646]),
     (0xfc8e, .replaced [0x646, 0x649]), (0xfc8f, .replaced [0x646, 0x64a]),
     (0xfc90, .replaced [0x649, 0x670]), (0xfc91, .replaced [0x64a, 0x631]),
     (0xfc92, .replaced [0x64a, 0x632]), (0xfc93, .replaced [0x64a, 0x645]),
     (0xfc94, .replaced [0x64a, 0x646]), (0xfc95, .replaced [0x64a, 0x649]),
     (0xfc96, .replaced [0x64a, 0x64a]), (0xfc97, .replaced [0x626, 0x62c]),
     (0xfc98, .replaced [0x626, 0x62d]), (0xfc99, .replaced [0x626, 0x62e]),
     (0xfc9a, .replaced [0x626, 0x645]), (0xfc9b, .replaced [0x626, 0x647]),
     (0xfc9c, .replaced [0x628, 0x62c]), (0xfc9d, .replaced [0x628, 0x62d]),
     (0xfc9e, .replaced [0x628, 0x62e]), (0xfc9f, .replaced [0x628, 0x645]),
     (0xfca0, .replaced [0x628, 0x647]), (0xfca1, .replaced [0x62a, 0x62c]),
     (0xfca2, .replaced [0x62a, 0x62d]), (0xfca3, .replaced [0x62a, 0x62e]),
     (0xfca4, .replaced [0x62a, 0x645]), (0xfca5, .replaced [0x62a, 0x647]),
     (0xfca6, .replaced [0x62b, 0x645]), (0xfca7, .replaced [0x62c, 0x62d]),
     (0xfca8, .replaced [0x62c, 0x645]), (0xfca9, .replaced [0x62d, 0x62c]),
     (0xfcaa, .replaced [0x62d, 0x645]), (0xfcab, .replaced [0x62e, 0x62c]),
     (0xfcac, .replaced [0x62e, 0x645]), (0xfcad, .replaced [0x633, 0x62c]),
     (0xfcae, .replaced [0x633, 0x62d]), (0xfcaf, .replaced [0x633, 0x62e]),
     (0xfcb0, .replaced [0x633, 0x645]), (0xfcb1, .replaced [0x635, 0x62d]),
     (0xfcb2, .replaced [0x635, 0x62e]), (0xfcb3, .replaced [0x635, 0x645]),
     (0xfcb4, .replaced [0x636, 0x62c]), (0xfcb5, .replaced [0x636, 0x62d]),
     (0xfcb6, .replaced [0x636, 0x62e]), (0xfcb7, .replaced [0x636, 0x645]),
     (0xfcb8, .replaced [0x637, 0x62d]), (0xfcb9, .replaced [0x638, 0x645]),
     (0xfcba, .replaced [0x639, 0x62c]), (0xfcbb, .replaced [0x639, 0x645]),
     (0xfcbc, .replaced [0x63a, 0x62c]), (0xfcbd, .replaced [0x63a, 0x645]),
     (0xfcbe, .replaced [0x641, 0x62c]), (0xfcbf, .replaced [0x641, 0x62d]),
     (0xfcc0, .replaced [0x641, 0x62e]), (0xfcc1, .replaced [0x641, 0x645]),
     (0xfcc2, .replaced [0x642, 0x62d]), (0xfcc3, .replaced [0x642, 0x645]),
     (0xfcc4, .replaced [0x643, 0x62c]), (0xfcc5, .replaced [0x643, 0x62d])],
    [(0xfcc6, .replaced [0x643, 0x62e]), (0xfcc7, .replaced [0x643, 0x644]),
     (0xfcc8, .replaced [0x643, 0x645]), (0xfcc9, .replaced [0x644, 0x62c]),
     (0xfcca, .replaced [0x644, 0x62d]), (0xfccb, .replaced [0x644, 0x62e]),
     (0xfccc, .replaced [0x644, 0x645]), (0xfccd, .replaced [0x644, 0x647]),
     (0xfcce, .replaced [0x645, 0x62c]), (0xfccf, .replaced [0x645, 0x62d]),
     (0xfcd0, .replaced [0x645, 0x62e]), (0xfcd1, .replaced [0x645, 0x645]),
     (0xfcd2, .replaced [0x646, 0x62c]), (0xfcd3, .replaced [0x646, 0x62d]),
     (0xfcd4, .replaced [0x646, 0x62e]), (0xfcd5, .replaced [0x646, 0x645]),
     (0xfcd6, .replaced [0x646, 0x647]), (0xfcd7, .replaced [0x647, 0x62c]),
     (0xfcd8, .replaced [0x647, 0x645]), (0xfcd9, .replaced [0x647, 0x670]),
     (0xfcda, .replaced [0x64a, 0x62c]), (0xfcdb, .replaced [0x64a, 0x62d]),
     (0xfcdc, .replaced [0x64a, 0x62e]), (0xfcdd, .replaced [0x64a, 0x645]),
     (0xfcde, .replaced [0x64a, 0x647]), (0xfcdf, .replaced [0x626, 0x645]),
     (0xfce0, .replaced [0x626, 0x647]), (0xfce1, .replaced [0x628, 0x645]),
     (0xfce2, .replaced [0x628, 0x647]), (0xfce3, .replaced [0x62a, 0x645]),
     (0xfce4, .replaced [0x62a, 0x647]), (0xfce5, .replaced [0x62b, 0x645]),
     (0xfce6, .replaced [0x62b, 0x647]), (0xfce7, .replaced [0x633, 0x645]),
     (0xfce8, .replaced [0x633, 0x647]), (0xfce9, .replaced [0x634, 0x645]),
     (0xfcea, .replaced [0x634, 0x647]), (0xfceb, .replaced [0x643, 0x644]),
     (0xfcec, .replaced [0x643, 0x645]), (0xfced, .replaced [0x644, 0x645]),
     (0xfcee, .replaced [0x646, 0x645]), (0xfcef, .replaced [0x646, 0x647]),
     (0xfcf0, .replaced [0x64a, 0x645]), (0xfcf1, .replaced [0x64a, 0x647]),
     (0xfcf2, .replaced [0x640, 0x64e, 0x651]), (0xfcf3, .replaced [0x640, 0x64f, 0x651]),
     (0xfcf4, .replaced [0x640, 0x650, 0x651]), (0xfcf5, .replaced [0x637, 0x649]),
     (0xfcf6, .replaced [0x637, 0x64a]), (0xfcf7, .replaced [0x639, 0x649]),
     (0xfcf8, .replaced [0x639, 0x64a]), (0xfcf9, .replaced [0x63a, 0x649]),
     (0xfcfa, .replaced [0x63a, 0x64a]), (0xfcfb, .replaced [0x633, 0x649]),
     (0xfcfc, .replaced [0x633, 0x64a]), (0xfcfd, .replaced [0x634, 0x649]),
     (0xfcfe, .replaced [0x634, 0x64a]), (0xfcff, .replaced [0x62d, 0x649]),
     (0xfd00, .replaced [0x62d, 0x64a]), (0xfd01, .replaced [0x62c, 0x649])],
    [(0xfd02, .replaced [0x62c, 0x64a]), (0xfd03, .replaced [0x62e, 0x649]),
     (0xfd04, .replaced [0x62e, 0x64a]), (0xfd05, .replaced [0x635, 0x649]),
     (0xfd06, .replaced [0x635, 0x64a]), (0xfd07, .replaced [0x636, 0x649]),
     (0xfd08, .replaced [0x636, 0x64a]), (0xfd09, .replaced [0x634, 0x62c]),
     (0xfd0a, .replaced [0x634, 0x62d]), (0xfd0b, .replaced [0x634, 0x62e]),
     (0xfd0c, .replaced [0x634, 0x645]), (0xfd0d, .replaced [0x634, 0x631]),
     (0xfd0e, .replaced [0x633, 0x631]), (0xfd0f, .replaced [0x635, 0x631]),
     (0xfd10, .replaced [0x636, 0x631]), (0xfd11, .replaced [0x637, 0x649]),
     (0xfd12, .replaced [0x637, 0x64a]), (0xfd13, .replaced [0x639, 0x649]),
     (0xfd14, .replaced [0x639, 0x64a]), (0xfd15, .replaced [0x63a, 0x649]),
     (0xfd16, .replaced [0x63a, 0x64a]), (0xfd17, .replaced [0x633, 0x649]),
     (0xfd18, .replaced [0x633, 0x64a]), (0xfd19, .replaced [0x634, 0x649]),
     (0xfd1a, .replaced [0x634, 0x64a]), (0xfd1b, .replaced [0x62d, 0x649]),
     (0xfd1c, .replaced [0x62d, 0x64a]), (0xfd1d, .replaced [0x62c, 0x649]),
     (0xfd1e, .replaced [0x62c, 0x64a]), (0xfd1f, .replaced [0x62e, 0x649]),
     (0xfd20, .replaced [0x62e, 0x64a]), (0xfd21, .replaced [0x635, 0x649]),
     (0xfd22, .replaced [0x635, 0x64a]), (0xfd23, .replaced [0x636, 0x649]),
     (0xfd24, .replaced [0x636, 0x64a]), (0xfd25, .replaced [0x634, 0x62c]),
     (0xfd26, .replaced [0x634, 0x62d]), (0xfd27, .replaced [0x634, 0x62e]),
     (0xfd28, .replaced [0x634, 0x645]), (0xfd29, .replaced [0x634, 0x631]),
     (0xfd2a, .replaced [0x633, 0x631]), (0xfd2b, .replaced [0x635, 0x631]),
     (0xfd2c, .replaced [0x636, 0x631]), (0xfd2d, .replaced [0x634, 0x62c]),
     (0xfd2e, .replaced [0x634, 0x62d]), (0xfd2f, .replaced [0x634, 0x62e]),
     (0xfd30, .replaced [0x634, 0x645]), (0xfd31, .replaced [0x633, 0x647]),
     (0xfd32, .replaced [0x634, 0x647]), (0xfd33, .replaced [0x637, 0x645]),
     (0xfd34, .replaced [0x633, 0x62c]), (0xfd35, .replaced [0x633, 0x62d]),
     (0xfd36, .replaced [0x633, 0x62e]), (0xfd37, .replaced [0x634, 0x62c]),
     (0xfd38, .replaced [0x634, 0x62d]), (0xfd39, .replaced [0x634, 0x62e]),
     (0xfd3a, .replaced [0x637, 0x645]), (0xfd3b, .replaced [0x638, 0x645]),
     (0xfd3c, .replaced [0x627, 0x64b]), (0xfd3e, .kept)],
    [(0xfd50, .replaced [0x62a, 0x62c, 0x645]), (0xfd51, .replaced [0x62a, 0x62d, 0x62c]),
     (0xfd53, .replaced [0x62a, 0x62d, 0x645]), (0xfd54, .replaced [0x62a, 0x62e, 0x645]),
     (0xfd55, .replaced [0x62a, 0x645, 0x62c]), (0xfd56, .replaced [0x62a, 0x645, 0x62d]),
     (0xfd57, .replaced [0x62a, 0x645, 0x62e]), (0xfd58, .replaced [0x62c, 0x645, 0x62d]),
     (0xfd5a, .replaced [0x62d, 0x645, 0x64a]), (0xfd5b, .replaced [0x62d, 0x645, 0x649]),
     (0xfd5c, .replaced [0x633, 0x62d, 0x62c]), (0xfd5d, .replaced [0x633, 0x62c, 0x62d]),
     (0xfd5e, .replaced [0x633, 0x62c, 0x649]), (0xfd5f, .replaced [0x633, 0x645, 0x62d]),
     (0xfd61, .replaced [0x633, 0x645, 0x62c]), (0xfd62, .replaced [0x633, 0x645, 0x645]),
     (0xfd64, .replaced [0x635, 0x62d, 0x62d]), (0xfd66, .replaced [0x635, 0x645, 0x645]),
     (0xfd67, .replaced [0x634, 0x62d, 0x645]), (0xfd69, .replaced [0x634, 0x62c, 0x64a]),
     (0xfd6a, .replaced [0x634, 0x645, 0x62e]), (0xfd6c, .replaced [0x634, 0x645, 0x645]),
     (0xfd6e, .replaced [0x636, 0x62d, 0x649]), (0xfd6f, .replaced [0x636, 0x62e, 0x645]),
     (0xfd71, .replaced [0x637, 0x645, 0x62d]), (0xfd73, .replaced [0x637, 0x645, 0x645]),
     (0xfd74, .replaced [0x637, 0x645, 0x64a]), (0xfd75, .replaced [0x639, 0x62c, 0x645]),
     (0xfd76, .replaced [0x639, 0x645, 0x645]), (0xfd78, .replaced [0x639, 0x645, 0x649]),
     (0xfd79, .replaced [0x63a, 0x645, 0x645]), (0xfd7a, .replaced [0x63a, 0x645, 0x64a]),
     (0xfd7b, .replaced [0x63a, 0x645, 0x649]), (0xfd7c, .replaced [0x641, 0x62e, 0x645]),
     (0xfd7e, .replaced [0x642, 0x645, 0x62d]), (0xfd7f, .replaced [0x642, 0x645, 0x645]),
     (0xfd80, .replaced [0x644, 0x62d, 0x645]), (0xfd81, .replaced [0x644, 0x62d, 0x64a]),
     (0xfd82, .replaced [0x644, 0x62d, 0x649]), (0xfd83, .replaced [0x644, 0x62c, 0x62c]),
     (0xfd85, .replaced [0x644, 0x62e, 0x645]), (0xfd87, .replaced [0x644, 0x645, 0x62d]),
     (0xfd89, .replaced [0x645, 0x62d, 0x62c]), (0xfd8a, .replaced [0x645, 0x62d, 0x645]),
     (0xfd8b, .replaced [0x645, 0x62d, 0x64a]), (0xfd8c, .replaced [0x645, 0x62c, 0x62d]),
     (0xfd8d, .replaced [0x645, 0x62c, 0x645]), (0xfd8e, .replaced [0x645, 0x62e, 0x62c]),
     (0xfd8f, .replaced [0x645, 0x62e, 0x645]), (0xfd90, .refused),
     (0xfd92, .replaced [0x645, 0x62c, 0x62e]), (0xfd93, .replaced [0x647, 0x645, 0x62c]),
     (0xfd94, .replaced [0x647, 0x645, 0x645]), (0xfd95, .replaced [0x646, 0x62d, 0x645]),
     (0xfd96, .replaced [0x646, 0x62d, 0x649]), (0xfd97, .replaced [0x646, 0x62c, 0x645]),
     (0xfd99, .replaced [0x646, 0x62c, 0x649]), (0xfd9a, .replaced [0x646, 0x645, 0x64a]),
     (0xfd9b, .replaced [0x646, 0x645, 0x649]), (0xfd9c, .replaced [0x64a, 0x645, 0x645])],
    [(0xfd9e, .replaced [0x628, 0x62e, 0x64a]), (0xfd9f, .replaced [0x62a, 0x62c, 0x64a]),
     (0xfda0, .replaced [0x62a, 0x62c, 0x649]), (0xfda1, .replaced [0x62a, 0x62e, 0x64a]),
     (0xfda2, .replaced [0x62a, 0x62e, 0x649]), (0xfda3, .replaced [0x62a, 0x645, 0x64a]),
     (0xfda4, .replaced [0x62a, 0x645, 0x649]), (0xfda5, .replaced [0x62c, 0x645, 0x64a]),
     (0xfda6, .replaced [0x62c, 0x62d, 0x649]), (0xfda7, .replaced [0x62c, 0x645, 0x649]),
     (0xfda8, .replaced [0x633, 0x62e, 0x649]), (0xfda9, .replaced [0x635, 0x62d, 0x64a]),
     (0xfdaa, .replaced [0x634, 0x62d, 0x64a]), (0xfdab, .replaced [0x636, 0x62d, 0x64a]),
     (0xfdac, .replaced [0x644, 0x62c, 0x64a]), (0xfdad, .replaced [0x644, 0x645, 0x64a]),
     (0xfdae, .replaced [0x64a, 0x62d, 0x64a]), (0xfdaf, .replaced [0x64a, 0x62c, 0x64a]),
     (0xfdb0, .replaced [0x64a, 0x645, 0x64a]), (0xfdb1, .replaced [0x645, 0x645, 0x64a]),
     (0xfdb2, .replaced [0x642, 0x645, 0x64a]), (0xfdb3, .replaced [0x646, 0x62d, 0x64a]),
     (0xfdb4, .replaced [0x642, 0x645, 0x62d]), (0xfdb5, .replaced [0x644, 0x62d, 0x645]),
     (0xfdb6, .replaced [0x639, 0x645, 0x64a]), (0xfdb7, .replaced [0x643, 0x645, 0x64a]),
     (0xfdb8, .replaced [0x646, 0x62c, 0x62d]), (0xfdb9, .replaced [0x645, 0x62e, 0x64a]),
     (0xfdba, .replaced [0x644, 0x62c, 0x645]), (0xfdbb, .replaced [0x643, 0x645, 0x645]),
     (0xfdbc, .replaced [0x644, 0x62c, 0x645]), (0xfdbd, .replaced [0x646, 0x62c, 0x62d]),
     (0xfdbe, .replaced [0x62c, 0x62d, 0x64a]), (0xfdbf, .replaced [0x62d, 0x62c, 0x64a]),
     (0xfdc0, .replaced [0x645, 0x62c, 0x64a]), (0xfdc1, .replaced [0x641, 0x645, 0x64a]),
     (0xfdc2, .replaced [0x628, 0x62d, 0x64a]), (0xfdc3, .replaced [0x643, 0x645, 0x645]),
     (0xfdc4, .replaced [0x639, 0x62c, 0x645]), (0xfdc5, .replaced [0x635, 0x645, 0x645]),
     (0xfdc6, .replaced [0x633, 0x62e, 0x64a]), (0xfdc7, .replaced [0x646, 0x62c, 0x64a]),
     (0xfdc8, .refused), (0xfdcf, .kept), (0xfdd0, .refused),
     (0xfdf0, .replaced [0x635, 0x644, 0x6d2]), (0xfdf1, .replaced [0x642, 0x644, 0x6d2]),
     (0xfdf2, .replaced [0x627, 0x644, 0x644, 0x647]),
     (0xfdf3, .replaced [0x627, 0x643, 0x628, 0x631]),
     (0xfdf4, .replaced [0x645, 0x62d, 0x645, 0x62f]),
     (0xfdf5, .replaced [0x635, 0x644, 0x639, 0x645]),
     (0xfdf6, .replaced [0x631, 0x633, 0x648, 0x644]),
     (0xfdf7, .replaced [0x639, 0x644, 0x64a, 0x647]),
     (0xfdf8, .replaced [0x648, 0x633, 0x644, 0x645]), (0xfdf9, .replaced [0x635, 0x644, 0x649]),
     (0xfdfa, .replaced [0x635, 0x644, 0x649, 0x20, 0x627, 0x644, 0x644, 0x647, 0x20, 0x639,
      0x644, 0x64a, 0x647, 0x20, 0x648, 0x633, 0x644, 0x645]),
     (0xfdfb, .replaced [0x62c, 0x644, 0x20, 0x62c, 0x644, 0x627, 0x644, 0x647]),
     (0xfdfc, .replaced [0x631, 0x6cc, 0x627, 0x644]), (0xfdfd, .kept), (0xfe00, .dropped)],
    [(0xfe10, .replaced [0x2c]), (0xfe11, .replaced [0x3001]), (0xfe12, .refused),
     (0xfe13, .replaced [0x3a]), (0xfe14, .replaced [0x3b]), (0xfe15, .replaced [0x21]),
     (0xfe16, .replaced [0x3f]), (0xfe17, .replaced [0x3016]), (0xfe18, .replaced [0x3017]),
     (0xfe19, .refused), (0xfe20, .kept), (0xfe30, .refused), (0xfe31, .replaced [0x2014]),
     (0xfe32, .replaced [0x2013]), (0xfe33, .replaced [0x5f]), (0xfe35, .replaced [0x28]),
     (0xfe36, .replaced [0x29]), (0xfe37, .replaced [0x7b]), (0xfe38, .replaced [0x7d]),
     (0xfe39, .replaced [0x3014]), (0xfe3a, .replaced [0x3015]), (0xfe3b, .replaced [0x3010]),
     (0xfe3c, .replaced [0x3011]), (0xfe3d, .replaced [0x300a]), (0xfe3e, .replaced [0x300b]),
     (0xfe3f, .replaced [0x3008]), (0xfe40, .replaced [0x3009]), (0xfe41, .replaced [0x300c]),
     (0xfe42, .replaced [0x300d]), (0xfe43, .replaced [0x300e]), (0xfe44, .replaced [0x300f]),
     (0xfe45, .kept), (0xfe47, .replaced [0x5b]), (0xfe48, .replaced [0x5d]),
     (0xfe49, .replaced [0x20, 0x305]), (0xfe4d, .replaced [0x5f]), (0xfe50, .replaced [0x2c]),
     (0xfe51, .replaced [0x3001]), (0xfe52, .refused), (0xfe54, .replaced [0x3b]),
     (0xfe55, .replaced [0x3a]), (0xfe56, .replaced [0x3f]), (0xfe57, .replaced [0x21]),
     (0xfe58, .replaced [0x2014]), (0xfe59, .replaced [0x28]), (0xfe5a, .replaced [0x29]),
     (0xfe5b, .replaced [0x7b]), (0xfe5c, .replaced [0x7d]), (0xfe5d, .replaced [0x3014]),
     (0xfe5e, .replaced [0x3015]), (0xfe5f, .replaced [0x23]), (0xfe60, .replaced [0x26]),
     (0xfe61, .replaced [0x2a]), (0xfe62, .replaced [0x2b]), (0xfe63, .replaced [0x2d]),
     (0xfe64, .replaced [0x3c]), (0xfe65, .replaced [0x3e]), (0xfe66, .replaced [0x3d]),
     (0xfe67, .refused), (0xfe68, .replaced [0x5c])],
    [(0xfe69, .replaced [0x24]), (0xfe6a, .replaced [0x25]), (0xfe6b, .replaced [0x40]),
     (0xfe6c, .refused), (0xfe70, .replaced [0x20, 0x64b]), (0xfe71, .replaced [0x640, 0x64b]),
     (0xfe72, .replaced [0x20, 0x64c]), (0xfe73, .kept), (0xfe74, .replaced [0x20, 0x64d]),
     (0xfe75, .refused), (0xfe76, .replaced [0x20, 0x64e]), (0xfe77, .replaced [0x640, 0x64e]),
     (0xfe78, .replaced [0x20, 0x64f]), (0xfe79, .replaced [0x640, 0x64f]),
     (0xfe7a, .replaced [0x20, 0x650]), (0xfe7b, .replaced [0x640, 0x650]),
     (0xfe7c, .replaced [0x20, 0x651]), (0xfe7d, .replaced [0x640, 0x651]),
     (0xfe7e, .replaced [0x20, 0x652]), (0xfe7f, .replaced [0x640, 0x652]),
     (0xfe80, .replaced [0x621]), (0xfe81, .replaced [0x622]), (0xfe83, .replaced [0x623]),
     (0xfe85, .replaced [0x624]), (0xfe87, .replaced [0x625]), (0xfe89, .replaced [0x626]),
     (0xfe8d, .replaced [0x627]), (0xfe8f, .replaced [0x628]), (0xfe93, .replaced [0x629]),
     (0xfe95, .replaced [0x62a]), (0xfe99, .replaced [0x62b]), (0xfe9d, .replaced [0x62c]),
     (0xfea1, .replaced [0x62d]), (0xfea5, .replaced [0x62e]), (0xfea9, .replaced [0x62f]),
     (0xfeab, .replaced [0x630]), (0xfead, .replaced [0x631]), (0xfeaf, .replaced [0x632]),
     (0xfeb1, .replaced [0x633]), (0xfeb5, .replaced [0x634]), (0xfeb9, .replaced [0x635]),
     (0xfebd, .replaced [0x636]), (0xfec1, .replaced [0x637]), (0xfec5, .replaced [0x638]),
     (0xfec9, .replaced [0x639]), (0xfecd, .replaced [0x63a]), (0xfed1, .replaced [0x641]),
     (0xfed5, .replaced [0x642]), (0xfed9, .replaced [0x643]), (0xfedd, .replaced [0x644]),
     (0xfee1, .replaced [0x645]), (0xfee5, .replaced [0x646]), (0xfee9, .replaced [0x647]),
     (0xfeed, .replaced [0x648]), (0xfeef, .replaced [0x649]), (0xfef1, .replaced [0x64a]),
     (0xfef5, .replaced [0x644, 0x622]), (0xfef7, .replaced [0x644, 0x623]),
     (0xfef9, .replaced [0x644, 0x625]), (0xfefb, .replaced [0x644, 0x627])],
    [(0xfefd, .refused), (0xfeff, .dropped), (0xff00, .refused), (0xff01, .replaced [0x21]),
     (0xff02, .replaced [0x22]), (0xff03, .replaced [0x23]), (0xff04, .replaced [0x24]),
     (0xff05, .replaced [0x25]), (0xff06, .replaced [0x26]), (0xff07, .replaced [0x27]),
     (0xff08, .replaced [0x28]), (0xff09, .replaced [0x29]), (0xff0a, .replaced [0x2a]),
     (0xff0b, .replaced [0x2b]), (0xff0c, .replaced [0x2c]), (0xff0d, .replaced [0x2d]),
     (0xff0e, .replaced [0x2e]), (0xff0f, .replaced [0x2f]), (0xff10, .replaced [0x30]),
     (0xff11, .replaced [0x31]), (0xff12, .replaced [0x32]), (0xff13, .replaced [0x33]),
     (0xff14, .replaced [0x34]), (0xff15, .replaced [0x35]), (0xff16, .replaced [0x36]),
     (0xff17, .replaced [0x37]), (0xff18, .replaced [0x38]), (0xff19, .replaced [0x39]),
     (0xff1a, .replaced [0x3a]), (0xff1b, .replaced [0x3b]), (0xff1c, .replaced [0x3c]),
     (0xff1d, .replaced [0x3d]), (0xff1e, .replaced [0x3e]), (0xff1f, .replaced [0x3f]),
     (0xff20, .replaced [0x40]), (0xff21, .replaced [0x61]), (0xff22, .replaced [0x62]),
     (0xff23, .replaced [0x63]), (0xff24, .replaced [0x64]), (0xff25, .replaced [0x65]),
     (0xff26, .replaced [0x66]), (0xff27, .replaced [0x67]), (0xff28, .replaced [0x68]),
     (0xff29, .replaced [0x69]), (0xff2a, .replaced [0x6a]), (0xff2b, .replaced [0x6b]),
     (0xff2c, .replaced [0x6c]), (0xff2d, .replaced [0x6d]), (0xff2e, .replaced [0x6e]),
     (0xff2f, .replaced [0x6f]), (0xff30, .replaced [0x70]), (0xff31, .replaced [0x71]),
     (0xff32, .replaced [0x72]), (0xff33, .replaced [0x73]), (0xff34, .replaced [0x74]),
     (0xff35, .replaced [0x75]), (0xff36, .replaced [0x76]), (0xff37, .replaced [0x77]),
     (0xff38, .replaced [0x78]), (0xff39, .replaced [0x79])],
    [(0xff3a, .replaced [0x7a]), (0xff3b, .replaced [0x5b]), (0xff3c, .replaced [0x5c]),
     (0xff3d, .replaced [0x5d]), (0xff3e, .replaced [0x5e]), (0xff3f, .replaced [0x5f]),
     (0xff40, .replaced [0x60]), (0xff41, .replaced [0x61]), (0xff42, .replaced [0x62]),
     (0xff43, .replaced [0x63]), (0xff44, .replaced [0x64]), (0xff45, .replaced [0x65]),
     (0xff46, .replaced [0x66]), (0xff47, .replaced [0x67]), (0xff48, .replaced [0x68]),
     (0xff49, .replaced [0x69]), (0xff4a, .replaced [0x6a]), (0xff4b, .replaced [0x6b]),
     (0xff4c, .replaced [0x6c]), (0xff4d, .replaced [0x6d]), (0xff4e, .replaced [0x6e]),
     (0xff4f, .replaced [0x6f]), (0xff50, .replaced [0x70]), (0xff51, .replaced [0x71]),
     (0xff52, .replaced [0x72]), (0xff53, .replaced [0x73]), (0xff54, .replaced [0x74]),
     (0xff55, .replaced [0x75]), (0xff56, .replaced [0x76]), (0xff57, .replaced [0x77]),
     (0xff58, .replaced [0x78]), (0xff59, .replaced [0x79]), (0xff5a, .replaced [0x7a]),
     (0xff5b, .replaced [0x7b]), (0xff5c, .replaced [0x7c]), (0xff5d, .replaced [0x7d]),
     (0xff5e, .replaced [0x7e]), (0xff5f, .replaced [0x2985]), (0xff60, .replaced [0x2986]),
     (0xff61, .replaced [0x2e]), (0xff62, .replaced [0x300c]), (0xff63, .replaced [0x300d]),
     (0xff64, .replaced [0x3001]), (0xff65, .replaced [0x30fb]), (0xff66, .replaced [0x30f2]),
     (0xff67, .replaced [0x30a1]), (0xff68, .replaced [0x30a3]), (0xff69, .replaced [0x30a5]),
     (0xff6a, .replaced [0x30a7]), (0xff6b, .replaced [0x30a9]), (0xff6c, .replaced [0x30e3]),
     (0xff6d, .replaced [0x30e5]), (0xff6e, .replaced [0x30e7]), (0xff6f, .replaced [0x30c3]),
     (0xff70, .replaced [0x30fc]), (0xff71, .replaced [0x30a2]), (0xff72, .replaced [0x30a4]),
     (0xff73, .replaced [0x30a6]), (0xff74, .replaced [0x30a8]), (0xff75, .replaced [0x30aa])],
    [(0xff76, .replaced [0x30ab]), (0xff77, .replaced [0x30ad]), (0xff78, .replaced [0x30af]),
     (0xff79, .replaced [0x30b1]), (0xff7a, .replaced [0x30b3]), (0xff7b, .replaced [0x30b5]),
     (0xff7c, .replaced [0x30b7]), (0xff7d, .replaced [0x30b9]), (0xff7e, .replaced [0x30bb]),
     (0xff7f, .replaced [0x30bd]), (0xff80, .replaced [0x30bf]), (0xff81, .replaced [0x30c1]),
     (0xff82, .replaced [0x30c4]), (0xff83, .replaced [0x30c6]), (0xff84, .replaced [0x30c8]),
     (0xff85, .replaced [0x30ca]), (0xff86, .replaced [0x30cb]), (0xff87, .replaced [0x30cc]),
     (0xff88, .replaced [0x30cd]), (0xff89, .replaced [0x30ce]), (0xff8a, .replaced [0x30cf]),
     (0xff8b, .replaced [0x30d2]), (0xff8c, .replaced [0x30d5]), (0xff8d, .replaced [0x30d8]),
     (0xff8e, .replaced [0x30db]), (0xff8f, .replaced [0x30de]), (0xff90, .replaced [0x30df]),
     (0xff91, .replaced [0x30e0]), (0xff92, .replaced [0x30e1]), (0xff93, .replaced [0x30e2]),
     (0xff94, .replaced [0x30e4]), (0xff95, .replaced [0x30e6]), (0xff96, .replaced [0x30e8]),
     (0xff97, .replaced [0x30e9]), (0xff98, .replaced [0x30ea]), (0xff99, .replaced [0x30eb]),
     (0xff9a, .replaced [0x30ec]), (0xff9b, .replaced [0x30ed]), (0xff9c, .replaced [0x30ef]),
     (0xff9d, .replaced [0x30f3]), (0xff9e, .replaced [0x3099]), (0xff9f, .replaced [0x309a]),
     (0xffa0, .refused), (0xffa1, .replaced [0x1100]), (0xffa2, .replaced [0x1101]),
     (0xffa3, .replaced [0x11aa]), (0xffa4, .replaced [0x1102]), (0xffa5, .replaced [0x11ac]),
     (0xffa6, .replaced [0x11ad]), (0xffa7, .replaced [0x1103]), (0xffa8, .replaced [0x1104]),
     (0xffa9, .replaced [0x1105]), (0xffaa, .replaced [0x11b0]), (0xffab, .replaced [0x11b1]),
     (0xffac, .replaced [0x11b2]), (0xffad, .replaced [0x11b3]), (0xffae, .replaced [0x11b4]),
     (0xffaf, .replaced [0x11b5]), (0xffb0, .replaced [0x111a]), (0xffb1, .replaced [0x1106])],
    [(0xffb2, .replaced [0x1107]), (0xffb3, .replaced [0x1108]), (0xffb4, .replaced [0x1121]),
     (0xffb5, .replaced [0x1109]), (0xffb6, .replaced [0x110a]), (0xffb7, .replaced [0x110b]),
     (0xffb8, .replaced [0x110c]), (0xffb9, .replaced [0x110d]), (0xffba, .replaced [0x110e]),
     (0xffbb, .replaced [0x110f]), (0xffbc, .replaced [0x1110]), (0xffbd, .replaced [0x1111]),
     (0xffbe, .replaced [0x1112]), (0xffbf, .refused), (0xffc2, .replaced [0x1161]),
     (0xffc3, .replaced [0x1162]), (0xffc4, .replaced [0x1163]), (0xffc5, .replaced [0x1164]),
     (0xffc6, .replaced [0x1165]), (0xffc7, .replaced [0x1166]), (0xffc8, .refused),
     (0xffca, .replaced [0x1167]), (0xffcb, .replaced [0x1168]), (0xffcc, .replaced [0x1169]),
     (0xffcd, .replaced [0x116a]), (0xffce, .replaced [0x116b]), (0xffcf, .replaced [0x116c]),
     (0xffd0, .refused), (0xffd2, .replaced [0x116d]), (0xffd3, .replaced [0x116e]),
     (0xffd4, .replaced [0x116f]), (0xffd5, .replaced [0x1170]), (0xffd6, .replaced [0x1171]),
     (0xffd7, .replaced [0x1172]), (0xffd8, .refused), (0xffda, .replaced [0x1173]),
     (0xffdb, .replaced [0x1174]), (0xffdc, .replaced [0x1175]), (0xffdd, .refused),
     (0xffe0, .replaced [0xa2]), (0xffe1, .replaced [0xa3]), (0xffe2, .replaced [0xac]),
     (0xffe3, .replaced [0x20, 0x304]), (0xffe4, .replaced [0xa6]), (0xffe5, .replaced [0xa5]),
     (0xffe6, .replaced [0x20a9]), (0xffe7, .refused), (0xffe8, .replaced [0x2502]),
     (0xffe9, .replaced [0x2190]), (0xffea, .replaced [0x2191]), (0xffeb, .replaced [0x2192]),
     (0xffec, .replaced [0x2193]), (0xffed, .replaced [0x25a0]), (0xffee, .replaced [0x25cb]),
     (0xffef, .refused)]]

set_option maxRecDepth 20000 in
def fatesFrom10000 : Text.Runs Fate :=
  List.flatten [
    [(0x10000, .kept), (0x1000c, .refused), (0x1000d, .kept), (0x10027, .refused),
     (0x10028, .kept), (0x1003b, .refused), (0x1003c, .kept), (0x1003e, .refused),
     (0x1003f, .kept), (0x1004e, .refused), (0x10050, .kept), (0x1005e, .refused),
     (0x10080, .kept), (0x100fb, .refused), (0x10100, .kept), (0x10103, .refused),
     (0x10107, .kept), (0x10134, .refused), (0x10137, .kept), (0x1018f, .refused),
     (0x10190, .kept), (0x1019d, .refused), (0x101a0, .kept), (0x101a1, .refused),
     (0x101d0, .kept), (0x101fe, .refused), (0x10280, .kept), (0x1029d, .refused),
     (0x102a0, .kept), (0x102d1, .refused), (0x102e0, .kept), (0x102fc, .refused),
     (0x10300, .kept), (0x10324, .refused), (0x1032d, .kept), (0x1034b, .refused),
     (0x10350, .kept), (0x1037b, .refused), (0x10380, .kept), (0x1039e, .refused),
     (0x1039f, .kept), (0x103c4, .refused), (0x103c8, .kept), (0x103d6, .refused),
     (0x10400, .replaced [0x10428]), (0x10401, .replaced [0x10429]),
     (0x10402, .replaced [0x1042a]), (0x10403, .replaced [0x1042b]),
     (0x10404, .replaced [0x1042c]), (0x10405, .replaced [0x1042d]),
     (0x10406, .replaced [0x1042e]), (0x10407, .replaced [0x1042f]),
     (0x10408, .replaced [0x10430]), (0x10409, .replaced [0x10431]),
     (0x1040a, .replaced [0x10432]), (0x1040b, .replaced [0x10433]),
     (0x1040c, .replaced [0x10434]), (0x1040d, .replaced [0x10435]),
     (0x1040e, .replaced [0x10436]), (0x1040f, .replaced [0x10437])],
    [(0x10410, .replaced [0x10438]), (0x10411, .replaced [0x10439]),
     (0x10412, .replaced [0x1043a]), (0x10413, .replaced [0x1043b]),
     (0x10414, .replaced [0x1043c]), (0x10415, .replaced [0x1043d]),
     (0x10416, .replaced [0x1043e]), (0x10417, .replaced [0x1043f]),
     (0x10418, .replaced [0x10440]), (0x10419, .replaced [0x10441]),
     (0x1041a, .replaced [0x10442]), (0x1041b, .replaced [0x10443]),
     (0x1041c, .replaced [0x10444]), (0x1041d, .replaced [0x10445]),
     (0x1041e, .replaced [0x10446]), (0x1041f, .replaced [0x10447]),
     (0x10420, .replaced [0x10448]), (0x10421, .replaced [0x10449]),
     (0x10422, .replaced [0x1044a]), (0x10423, .replaced [0x1044b]),
     (0x10424, .replaced [0x1044c]), (0x10425, .replaced [0x1044d]),
     (0x10426, .replaced [0x1044e]), (0x10427, .replaced [0x1044f]), (0x10428, .kept),
     (0x1049e, .refused), (0x104a0, .kept), (0x104aa, .refused), (0x104b0, .replaced [0x104d8]),
     (0x104b1, .replaced [0x104d9]), (0x104b2, .replaced [0x104da]),
     (0x104b3, .replaced [0x104db]), (0x104b4, .replaced [0x104dc]),
     (0x104b5, .replaced [0x104dd]), (0x104b6, .replaced [0x104de]),
     (0x104b7, .replaced [0x104df]), (0x104b8, .replaced [0x104e0]),
     (0x104b9, .replaced [0x104e1]), (0x104ba, .replaced [0x104e2]),
     (0x104bb, .replaced [0x104e3]), (0x104bc, .replaced [0x104e4]),
     (0x104bd, .replaced [0x104e5]), (0x104be, .replaced [0x104e6]),
     (0x104bf, .replaced [0x104e7]), (0x104c0, .replaced [0x104e8]),
     (0x104c1, .replaced [0x104e9]), (0x104c2, .replaced [0x104ea]),
     (0x104c3, .replaced [0x104eb]), (0x104c4, .replaced [0x104ec]),
     (0x104c5, .replaced [0x104ed]), (0x104c6, .replaced [0x104ee]),
     (0x104c7, .replaced [0x104ef]), (0x104c8, .replaced [0x104f0]),
     (0x104c9, .replaced [0x104f1]), (0x104ca, .replaced [0x104f2]),
     (0x104cb, .replaced [0x104f3]), (0x104cc, .replaced [0x104f4]),
     (0x104cd, .replaced [0x104f5]), (0x104ce, .replaced [0x104f6]), (0x104cf,
      .replaced [0x104f7])],
    [(0x104d0, .replaced [0x104f8]), (0x104d1, .replaced [0x104f9]),
     (0x104d2, .replaced [0x104fa]), (0x104d3, .replaced [0x104fb]), (0x104d4, .refused),
     (0x104d8, .kept), (0x104fc, .refused), (0x10500, .kept), (0x10528, .refused),
     (0x10530, .kept), (0x10564, .refused), (0x1056f, .kept), (0x10570, .replaced [0x10597]),
     (0x10571, .replaced [0x10598]), (0x10572, .replaced [0x10599]),
     (0x10573, .replaced [0x1059a]), (0x10574, .replaced [0x1059b]),
     (0x10575, .replaced [0x1059c]), (0x10576, .replaced [0x1059d]),
     (0x10577, .replaced [0x1059e]), (0x10578, .replaced [0x1059f]),
     (0x10579, .replaced [0x105a0]), (0x1057a, .replaced [0x105a1]), (0x1057b, .refused),
     (0x1057c, .replaced [0x105a3]), (0x1057d, .replaced [0x105a4]),
     (0x1057e, .replaced [0x105a5]), (0x1057f, .replaced [0x105a6]),
     (0x10580, .replaced [0x105a7]), (0x10581, .replaced [0x105a8]),
     (0x10582, .replaced [0x105a9]), (0x10583, .replaced [0x105aa]),
     (0x10584, .replaced [0x105ab]), (0x10585, .replaced [0x105ac]),
     (0x10586, .replaced [0x105ad]), (0x10587, .replaced [0x105ae]),
     (0x10588, .replaced [0x105af]), (0x10589, .replaced [0x105b0]),
     (0x1058a, .replaced [0x105b1]), (0x1058b, .refused), (0x1058c, .replaced [0x105b3]),
     (0x1058d, .replaced [0x105b4]), (0x1058e, .replaced [0x105b5]),
     (0x1058f, .replaced [0x105b6]), (0x10590, .replaced [0x105b7]),
     (0x10591, .replaced [0x105b8]), (0x10592, .replaced [0x105b9]), (0x10593, .refused),
     (0x10594, .replaced [0x105bb]), (0x10595, .replaced [0x105bc]), (0x10596, .refused),
     (0x10597, .kept), (0x105a2, .refused), (0x105a3, .kept), (0x105b2, .refused),
     (0x105b3, .kept), (0x105ba, .refused), (0x105bb, .kept), (0x105bd, .refused), (0x10600,
      .kept)],
    [(0x10737, .refused), (0x10740, .kept), (0x10756, .refused), (0x10760, .kept),
     (0x10768, .refused), (0x10780, .kept), (0x10781, .replaced [0x2d0]),
     (0x10782, .replaced [0x2d1]), (0x10783, .replaced [0xe6]), (0x10784, .replaced [0x299]),
     (0x10785, .replaced [0x253]), (0x10786, .refused), (0x10787, .replaced [0x2a3]),
     (0x10788, .replaced [0xab66]), (0x10789, .replaced [0x2a5]), (0x1078a, .replaced [0x2a4]),
     (0x1078b, .replaced [0x256]), (0x1078c, .replaced [0x257]), (0x1078d, .replaced [0x1d91]),
     (0x1078e, .replaced [0x258]), (0x1078f, .replaced [0x25e]), (0x10790, .replaced [0x2a9]),
     (0x10791, .replaced [0x264]), (0x10792, .replaced [0x262]), (0x10793, .replaced [0x260]),
     (0x10794, .replaced [0x29b]), (0x10795, .replaced [0x127]), (0x10796, .replaced [0x29c]),
     (0x10797, .replaced [0x267]), (0x10798, .replaced [0x284]), (0x10799, .replaced [0x2aa]),
     (0x1079a, .replaced [0x2ab]), (0x1079b, .replaced [0x26c]), (0x1079c, .replaced [0x1df04]),
     (0x1079d, .replaced [0xa78e]), (0x1079e, .replaced [0x26e]), (0x1079f, .replaced [0x1df05]),
     (0x107a0, .replaced [0x28e]), (0x107a1, .replaced [0x1df06]), (0x107a2, .replaced [0xf8]),
     (0x107a3, .replaced [0x276]), (0x107a4, .replaced [0x277]), (0x107a5, .replaced [0x71]),
     (0x107a6, .replaced [0x27a]), (0x107a7, .replaced [0x1df08]), (0x107a8, .replaced [0x27d]),
     (0x107a9, .replaced [0x27e]), (0x107aa, .replaced [0x280]), (0x107ab, .replaced [0x2a8]),
     (0x107ac, .replaced [0x2a6]), (0x107ad, .replaced [0xab67]), (0x107ae, .replaced [0x2a7]),
     (0x107af, .replaced [0x288]), (0x107b0, .replaced [0x2c71]), (0x107b1, .refused),
     (0x107b2, .replaced [0x28f]), (0x107b3, .replaced [0x2a1]), (0x107b4, .replaced [0x2a2]),
     (0x107b5, .replaced [0x298]), (0x107b6, .replaced [0x1c0])],
    [(0x107b7, .replaced [0x1c1]), (0x107b8, .replaced [0x1c2]), (0x107b9, .replaced [0x1df0a]),
     (0x107ba, .replaced [0x1df1e]), (0x107bb, .refused), (0x10800, .kept), (0x10806, .refused),
     (0x10808, .kept), (0x10809, .refused), (0x1080a, .kept), (0x10836, .refused),
     (0x10837, .kept), (0x10839, .refused), (0x1083c, .kept), (0x1083d, .refused),
     (0x1083f, .kept), (0x10856, .refused), (0x10857, .kept), (0x1089f, .refused),
     (0x108a7, .kept), (0x108b0, .refused), (0x108e0, .kept), (0x108f3, .refused),
     (0x108f4, .kept), (0x108f6, .refused), (0x108fb, .kept), (0x1091c, .refused),
     (0x1091f, .kept), (0x1093a, .refused), (0x1093f, .kept), (0x10940, .refused),
     (0x10980, .kept), (0x109b8, .refused), (0x109bc, .kept), (0x109d0, .refused),
     (0x109d2, .kept), (0x10a04, .refused), (0x10a05, .kept), (0x10a07, .refused),
     (0x10a0c, .kept), (0x10a14, .refused), (0x10a15, .kept), (0x10a18, .refused),
     (0x10a19, .kept), (0x10a36, .refused), (0x10a38, .kept), (0x10a3b, .refused),
     (0x10a3f, .kept), (0x10a49, .refused), (0x10a50, .kept), (0x10a59, .refused),
     (0x10a60, .kept), (0x10aa0, .refused), (0x10ac0, .kept), (0x10ae7, .refused),
     (0x10aeb, .kept), (0x10af7, .refused), (0x10b00, .kept), (0x10b36, .refused), (0x10b39,
      .kept)],
    [(0x10b56, .refused), (0x10b58, .kept), (0x10b73, .refused), (0x10b78, .kept),
     (0x10b92, .refused), (0x10b99, .kept), (0x10b9d, .refused), (0x10ba9, .kept),
     (0x10bb0, .refused), (0x10c00, .kept), (0x10c49, .refused), (0x10c80, .replaced [0x10cc0]),
     (0x10c81, .replaced [0x10cc1]), (0x10c82, .replaced [0x10cc2]),
     (0x10c83, .replaced [0x10cc3]), (0x10c84, .replaced [0x10cc4]),
     (0x10c85, .replaced [0x10cc5]), (0x10c86, .replaced [0x10cc6]),
     (0x10c87, .replaced [0x10cc7]), (0x10c88, .replaced [0x10cc8]),
     (0x10c89, .replaced [0x10cc9]), (0x10c8a, .replaced [0x10cca]),
     (0x10c8b, .replaced [0x10ccb]), (0x10c8c, .replaced [0x10ccc]),
     (0x10c8d, .replaced [0x10ccd]), (0x10c8e, .replaced [0x10cce]),
     (0x10c8f, .replaced [0x10ccf]), (0x10c90, .replaced [0x10cd0]),
     (0x10c91, .replaced [0x10cd1]), (0x10c92, .replaced [0x10cd2]),
     (0x10c93, .replaced [0x10cd3]), (0x10c94, .replaced [0x10cd4]),
     (0x10c95, .replaced [0x10cd5]), (0x10c96, .replaced [0x10cd6]),
     (0x10c97, .replaced [0x10cd7]), (0x10c98, .replaced [0x10cd8]),
     (0x10c99, .replaced [0x10cd9]), (0x10c9a, .replaced [0x10cda]),
     (0x10c9b, .replaced [0x10cdb]), (0x10c9c, .replaced [0x10cdc]),
     (0x10c9d, .replaced [0x10cdd]), (0x10c9e, .replaced [0x10cde]),
     (0x10c9f, .replaced [0x10cdf]), (0x10ca0, .replaced [0x10ce0]),
     (0x10ca1, .replaced [0x10ce1]), (0x10ca2, .replaced [0x10ce2]),
     (0x10ca3, .replaced [0x10ce3]), (0x10ca4, .replaced [0x10ce4]),
     (0x10ca5, .replaced [0x10ce5]), (0x10ca6, .replaced [0x10ce6]),
     (0x10ca7, .replaced [0x10ce7]), (0x10ca8, .replaced [0x10ce8]),
     (0x10ca9, .replaced [0x10ce9]), (0x10caa, .replaced [0x10cea]),
     (0x10cab, .replaced [0x10ceb]), (0x10cac, .replaced [0x10cec]),
     (0x10cad, .replaced [0x10ced]), (0x10cae, .replaced [0x10cee]),
     (0x10caf, .replaced [0x10cef]), (0x10cb0, .replaced [0x10cf0])],
    [(0x10cb1, .replaced [0x10cf1]), (0x10cb2, .replaced [0x10cf2]), (0x10cb3, .refused),
     (0x10cc0, .kept), (0x10cf3, .refused), (0x10cfa, .kept), (0x10d28, .refused),
     (0x10d30, .kept), (0x10d3a, .refused), (0x10e60, .kept), (0x10e7f, .refused),
     (0x10e80, .kept), (0x10eaa, .refused), (0x10eab, .kept), (0x10eae, .refused),
     (0x10eb0, .kept), (0x10eb2, .refused), (0x10efd, .kept), (0x10f28, .refused),
     (0x10f30, .kept), (0x10f5a, .refused), (0x10f70, .kept), (0x10f8a, .refused),
     (0x10fb0, .kept), (0x10fcc, .refused), (0x10fe0, .kept), (0x10ff7, .refused),
     (0x11000, .kept), (0x1104e, .refused), (0x11052, .kept), (0x11076, .refused),
     (0x1107f, .kept), (0x110bd, .refused), (0x110be, .kept), (0x110c3, .refused),
     (0x110d0, .kept), (0x110e9, .refused), (0x110f0, .kept), (0x110fa, .refused),
     (0x11100, .kept), (0x11135, .refused), (0x11136, .kept), (0x11148, .refused),
     (0x11150, .kept), (0x11177, .refused), (0x11180, .kept), (0x111e0, .refused),
     (0x111e1, .kept), (0x111f5, .refused), (0x11200, .kept), (0x11212, .refused),
     (0x11213, .kept), (0x11242, .refused), (0x11280, .kept), (0x11287, .refused),
     (0x11288, .kept), (0x11289, .refused), (0x1128a, .kept), (0x1128e, .refused), (0x1128f,
      .kept)],
    [(0x1129e, .refused), (0x1129f, .kept), (0x112aa, .refused), (0x112b0, .kept),
     (0x112eb, .refused), (0x112f0, .kept), (0x112fa, .refused), (0x11300, .kept),
     (0x11304, .refused), (0x11305, .kept), (0x1130d, .refused), (0x1130f, .kept),
     (0x11311, .refused), (0x11313, .kept), (0x11329, .refused), (0x1132a, .kept),
     (0x11331, .refused), (0x11332, .kept), (0x11334, .refused), (0x11335, .kept),
     (0x1133a, .refused), (0x1133b, .kept), (0x11345, .refused), (0x11347, .kept),
     (0x11349, .refused), (0x1134b, .kept), (0x1134e, .refused), (0x11350, .kept),
     (0x11351, .refused), (0x11357, .kept), (0x11358, .refused), (0x1135d, .kept),
     (0x11364, .refused), (0x11366, .kept), (0x1136d, .refused), (0x11370, .kept),
     (0x11375, .refused), (0x11400, .kept), (0x1145c, .refused), (0x1145d, .kept),
     (0x11462, .refused), (0x11480, .kept), (0x114c8, .refused), (0x114d0, .kept),
     (0x114da, .refused), (0x11580, .kept), (0x115b6, .refused), (0x115b8, .kept),
     (0x115de, .refused), (0x11600, .kept), (0x11645, .refused), (0x11650, .kept),
     (0x1165a, .refused), (0x11660, .kept), (0x1166d, .refused), (0x11680, .kept),
     (0x116ba, .refused), (0x116c0, .kept), (0x116ca, .refused), (0x11700, .kept)],
    [(0x1171b, .refused), (0x1171d, .kept), (0x1172c, .refused), (0x11730, .kept),
     (0x11747, .refused), (0x11800, .kept), (0x1183c, .refused), (0x118a0, .replaced [0x118c0]),
     (0x118a1, .replaced [0x118c1]), (0x118a2, .replaced [0x118c2]),
     (0x118a3, .replaced [0x118c3]), (0x118a4, .replaced [0x118c4]),
     (0x118a5, .replaced [0x118c5]), (0x118a6, .replaced [0x118c6]),
     (0x118a7, .replaced [0x118c7]), (0x118a8, .replaced [0x118c8]),
     (0x118a9, .replaced [0x118c9]), (0x118aa, .replaced [0x118ca]),
     (0x118ab, .replaced [0x118cb]), (0x118ac, .replaced [0x118cc]),
     (0x118ad, .replaced [0x118cd]), (0x118ae, .replaced [0x118ce]),
     (0x118af, .replaced [0x118cf]), (0x118b0, .replaced [0x118d0]),
     (0x118b1, .replaced [0x118d1]), (0x118b2, .replaced [0x118d2]),
     (0x118b3, .replaced [0x118d3]), (0x118b4, .replaced [0x118d4]),
     (0x118b5, .replaced [0x118d5]), (0x118b6, .replaced [0x118d6]),
     (0x118b7, .replaced [0x118d7]), (0x118b8, .replaced [0x118d8]),
     (0x118b9, .replaced [0x118d9]), (0x118ba, .replaced [0x118da]),
     (0x118bb, .replaced [0x118db]), (0x118bc, .replaced [0x118dc]),
     (0x118bd, .replaced [0x118dd]), (0x118be, .replaced [0x118de]),
     (0x118bf, .replaced [0x118df]), (0x118c0, .kept), (0x118f3, .refused), (0x118ff, .kept),
     (0x11907, .refused), (0x11909, .kept), (0x1190a, .refused), (0x1190c, .kept),
     (0x11914, .refused), (0x11915, .kept), (0x11917, .refused), (0x11918, .kept),
     (0x11936, .refused), (0x11937, .kept), (0x11939, .refused), (0x1193b, .kept),
     (0x11947, .refused), (0x11950, .kept), (0x1195a, .refused), (0x119a0, .kept),
     (0x119a8, .refused), (0x119aa, .kept)],
    [(0x119d8, .refused), (0x119da, .kept), (0x119e5, .refused), (0x11a00, .kept),
     (0x11a48, .refused), (0x11a50, .kept), (0x11aa3, .refused), (0x11ab0, .kept),
     (0x11af9, .refused), (0x11b00, .kept), (0x11b0a, .refused), (0x11c00, .kept),
     (0x11c09, .refused), (0x11c0a, .kept), (0x11c37, .refused), (0x11c38, .kept),
     (0x11c46, .refused), (0x11c50, .kept), (0x11c6d, .refused), (0x11c70, .kept),
     (0x11c90, .refused), (0x11c92, .kept), (0x11ca8, .refused), (0x11ca9, .kept),
     (0x11cb7, .refused), (0x11d00, .kept), (0x11d07, .refused), (0x11d08, .kept),
     (0x11d0a, .refused), (0x11d0b, .kept), (0x11d37, .refused), (0x11d3a, .kept),
     (0x11d3b, .refused), (0x11d3c, .kept), (0x11d3e, .refused), (0x11d3f, .kept),
     (0x11d48, .refused), (0x11d50, .kept), (0x11d5a, .refused), (0x11d60, .kept),
     (0x11d66, .refused), (0x11d67, .kept), (0x11d69, .refused), (0x11d6a, .kept),
     (0x11d8f, .refused), (0x11d90, .kept), (0x11d92, .refused), (0x11d93, .kept),
     (0x11d99, .refused), (0x11da0, .kept), (0x11daa, .refused), (0x11ee0, .kept),
     (0x11ef9, .refused), (0x11f00, .kept), (0x11f11, .refused), (0x11f12, .kept),
     (0x11f3b, .refused), (0x11f3e, .kept), (0x11f5a, .refused), (0x11fb0, .kept)],
    [(0x11fb1, .refused), (0x11fc0, .kept), (0x11ff2, .refused), (0x11fff, .kept),
     (0x1239a, .refused), (0x12400, .kept), (0x1246f, .refused), (0x12470, .kept),
     (0x12475, .refused), (0x12480, .kept), (0x12544, .refused), (0x12f90, .kept),
     (0x12ff3, .refused), (0x13000, .kept), (0x13430, .refused), (0x13440, .kept),
     (0x13456, .refused), (0x14400, .kept), (0x14647, .refused), (0x16800, .kept),
     (0x16a39, .refused), (0x16a40, .kept), (0x16a5f, .refused), (0x16a60, .kept),
     (0x16a6a, .refused), (0x16a6e, .kept), (0x16abf, .refused), (0x16ac0, .kept),
     (0x16aca, .refused), (0x16ad0, .kept), (0x16aee, .refused), (0x16af0, .kept),
     (0x16af6, .refused), (0x16b00, .kept), (0x16b46, .refused), (0x16b50, .kept),
     (0x16b5a, .refused), (0x16b5b, .kept), (0x16b62, .refused), (0x16b63, .kept),
     (0x16b78, .refused), (0x16b7d, .kept), (0x16b90, .refused), (0x16e40, .replaced [0x16e60]),
     (0x16e41, .replaced [0x16e61]), (0x16e42, .replaced [0x16e62]),
     (0x16e43, .replaced [0x16e63]), (0x16e44, .replaced [0x16e64]),
     (0x16e45, .replaced [0x16e65]), (0x16e46, .replaced [0x16e66]),
     (0x16e47, .replaced [0x16e67]), (0x16e48, .replaced [0x16e68]),
     (0x16e49, .replaced [0x16e69]), (0x16e4a, .replaced [0x16e6a]),
     (0x16e4b, .replaced [0x16e6b]), (0x16e4c, .replaced [0x16e6c]),
     (0x16e4d, .replaced [0x16e6d]), (0x16e4e, .replaced [0x16e6e]),
     (0x16e4f, .replaced [0x16e6f]), (0x16e50, .replaced [0x16e70])],
    [(0x16e51, .replaced [0x16e71]), (0x16e52, .replaced [0x16e72]),
     (0x16e53, .replaced [0x16e73]), (0x16e54, .replaced [0x16e74]),
     (0x16e55, .replaced [0x16e75]), (0x16e56, .replaced [0x16e76]),
     (0x16e57, .replaced [0x16e77]), (0x16e58, .replaced [0x16e78]),
     (0x16e59, .replaced [0x16e79]), (0x16e5a, .replaced [0x16e7a]),
     (0x16e5b, .replaced [0x16e7b]), (0x16e5c, .replaced [0x16e7c]),
     (0x16e5d, .replaced [0x16e7d]), (0x16e5e, .replaced [0x16e7e]),
     (0x16e5f, .replaced [0x16e7f]), (0x16e60, .kept), (0x16e9b, .refused), (0x16f00, .kept),
     (0x16f4b, .refused), (0x16f4f, .kept), (0x16f88, .refused), (0x16f8f, .kept),
     (0x16fa0, .refused), (0x16fe0, .kept), (0x16fe5, .refused), (0x16ff0, .kept),
     (0x16ff2, .refused), (0x17000, .kept), (0x187f8, .refused), (0x18800, .kept),
     (0x18cd6, .refused), (0x18d00, .kept), (0x18d09, .refused), (0x1aff0, .kept),
     (0x1aff4, .refused), (0x1aff5, .kept), (0x1affc, .refused), (0x1affd, .kept),
     (0x1afff, .refused), (0x1b000, .kept), (0x1b123, .refused), (0x1b132, .kept),
     (0x1b133, .refused), (0x1b150, .kept), (0x1b153, .refused), (0x1b155, .kept),
     (0x1b156, .refused), (0x1b164, .kept), (0x1b168, .refused), (0x1b170, .kept),
     (0x1b2fc, .refused), (0x1bc00, .kept), (0x1bc6b, .refused), (0x1bc70, .kept),
     (0x1bc7d, .refused), (0x1bc80, .kept), (0x1bc89, .refused), (0x1bc90, .kept),
     (0x1bc9a, .refused), (0x1bc9c, .kept)],
    [(0x1bca0, .dropped), (0x1bca4, .refused), (0x1cf00, .kept), (0x1cf2e, .refused),
     (0x1cf30, .kept), (0x1cf47, .refused), (0x1cf50, .kept), (0x1cfc4, .refused)]]

set_option maxRecDepth 20000 in
def fatesFrom1D000 : Text.Runs Fate :=
  List.flatten [
    [(0x1d000, .kept), (0x1d0f6, .refused), (0x1d100, .kept), (0x1d127, .refused),
     (0x1d129, .kept), (0x1d15e, .replaced [0x1d157, 0x1d165]),
     (0x1d15f, .replaced [0x1d158, 0x1d165]), (0x1d160, .replaced [0x1d158, 0x1d165, 0x1d16e]),
     (0x1d161, .replaced [0x1d158, 0x1d165, 0x1d16f]),
     (0x1d162, .replaced [0x1d158, 0x1d165, 0x1d170]),
     (0x1d163, .replaced [0x1d158, 0x1d165, 0x1d171]),
     (0x1d164, .replaced [0x1d158, 0x1d165, 0x1d172]), (0x1d165, .kept), (0x1d173, .refused),
     (0x1d17b, .kept), (0x1d1bb, .replaced [0x1d1b9, 0x1d165]),
     (0x1d1bc, .replaced [0x1d1ba, 0x1d165]), (0x1d1bd, .replaced [0x1d1b9, 0x1d165, 0x1d16e]),
     (0x1d1be, .replaced [0x1d1ba, 0x1d165, 0x1d16e]),
     (0x1d1bf, .replaced [0x1d1b9, 0x1d165, 0x1d16f]),
     (0x1d1c0, .replaced [0x1d1ba, 0x1d165, 0x1d16f]), (0x1d1c1, .kept), (0x1d1eb, .refused),
     (0x1d200, .kept), (0x1d246, .refused), (0x1d2c0, .kept), (0x1d2d4, .refused),
     (0x1d2e0, .kept), (0x1d2f4, .refused), (0x1d300, .kept), (0x1d357, .refused),
     (0x1d360, .kept), (0x1d379, .refused), (0x1d400, .replaced [0x61]),
     (0x1d401, .replaced [0x62]), (0x1d402, .replaced [0x63]), (0x1d403, .replaced [0x64]),
     (0x1d404, .replaced [0x65]), (0x1d405, .replaced [0x66]), (0x1d406, .replaced [0x67]),
     (0x1d407, .replaced [0x68]), (0x1d408, .replaced [0x69]), (0x1d409, .replaced [0x6a]),
     (0x1d40a, .replaced [0x6b]), (0x1d40b, .replaced [0x6c]), (0x1d40c, .replaced [0x6d]),
     (0x1d40d, .replaced [0x6e]), (0x1d40e, .replaced [0x6f]), (0x1d40f, .replaced [0x70]),
     (0x1d410, .replaced [0x71]), (0x1d411, .replaced [0x72]), (0x1d412, .replaced [0x73]),
     (0x1d413, .replaced [0x74]), (0x1d414, .replaced [0x75]), (0x1d415, .replaced [0x76]),
     (0x1d416, .replaced [0x77]), (0x1d417, .replaced [0x78]), (0x1d418, .replaced [0x79]),
     (0x1d419, .replaced [0x7a]), (0x1d41a, .replaced [0x61])],
    [(0x1d41b, .replaced [0x62]), (0x1d41c, .replaced [0x63]), (0x1d41d, .replaced [0x64]),
     (0x1d41e, .replaced [0x65]), (0x1d41f, .replaced [0x66]), (0x1d420, .replaced [0x67]),
     (0x1d421, .replaced [0x68]), (0x1d422, .replaced [0x69]), (0x1d423, .replaced [0x6a]),
     (0x1d424, .replaced [0x6b]), (0x1d425, .replaced [0x6c]), (0x1d426, .replaced [0x6d]),
     (0x1d427, .replaced [0x6e]), (0x1d428, .replaced [0x6f]), (0x1d429, .replaced [0x70]),
     (0x1d42a, .replaced [0x71]), (0x1d42b, .replaced [0x72]), (0x1d42c, .replaced [0x73]),
     (0x1d42d, .replaced [0x74]), (0x1d42e, .replaced [0x75]), (0x1d42f, .replaced [0x76]),
     (0x1d430, .replaced [0x77]), (0x1d431, .replaced [0x78]), (0x1d432, .replaced [0x79]),
     (0x1d433, .replaced [0x7a]), (0x1d434, .replaced [0x61]), (0x1d435, .replaced [0x62]),
     (0x1d436, .replaced [0x63]), (0x1d437, .replaced [0x64]), (0x1d438, .replaced [0x65]),
     (0x1d439, .replaced [0x66]), (0x1d43a, .replaced [0x67]), (0x1d43b, .replaced [0x68]),
     (0x1d43c, .replaced [0x69]), (0x1d43d, .replaced [0x6a]), (0x1d43e, .replaced [0x6b]),
     (0x1d43f, .replaced [0x6c]), (0x1d440, .replaced [0x6d]), (0x1d441, .replaced [0x6e]),
     (0x1d442, .replaced [0x6f]), (0x1d443, .replaced [0x70]), (0x1d444, .replaced [0x71]),
     (0x1d445, .replaced [0x72]), (0x1d446, .replaced [0x73]), (0x1d447, .replaced [0x74]),
     (0x1d448, .replaced [0x75]), (0x1d449, .replaced [0x76]), (0x1d44a, .replaced [0x77]),
     (0x1d44b, .replaced [0x78]), (0x1d44c, .replaced [0x79]), (0x1d44d, .replaced [0x7a]),
     (0x1d44e, .replaced [0x61]), (0x1d44f, .replaced [0x62]), (0x1d450, .replaced [0x63]),
     (0x1d451, .replaced [0x64]), (0x1d452, .replaced [0x65]), (0x1d453, .replaced [0x66]),
     (0x1d454, .replaced [0x67]), (0x1d455, .refused), (0x1d456, .replaced [0x69])],
    [(0x1d457, .replaced [0x6a]), (0x1d458, .replaced [0x6b]), (0x1d459, .replaced [0x6c]),
     (0x1d45a, .replaced [0x6d]), (0x1d45b, .replaced [0x6e]), (0x1d45c, .replaced [0x6f]),
     (0x1d45d, .replaced [0x70]), (0x1d45e, .replaced [0x71]), (0x1d45f, .replaced [0x72]),
     (0x1d460, .replaced [0x73]), (0x1d461, .replaced [0x74]), (0x1d462, .replaced [0x75]),
     (0x1d463, .replaced [0x76]), (0x1d464, .replaced [0x77]), (0x1d465, .replaced [0x78]),
     (0x1d466, .replaced [0x79]), (0x1d467, .replaced [0x7a]), (0x1d468, .replaced [0x61]),
     (0x1d469, .replaced [0x62]), (0x1d46a, .replaced [0x63]), (0x1d46b, .replaced [0x64]),
     (0x1d46c, .replaced [0x65]), (0x1d46d, .replaced [0x66]), (0x1d46e, .replaced [0x67]),
     (0x1d46f, .replaced [0x68]), (0x1d470, .replaced [0x69]), (0x1d471, .replaced [0x6a]),
     (0x1d472, .replaced [0x6b]), (0x1d473, .replaced [0x6c]), (0x1d474, .replaced [0x6d]),
     (0x1d475, .replaced [0x6e]), (0x1d476, .replaced [0x6f]), (0x1d477, .replaced [0x70]),
     (0x1d478, .replaced [0x71]), (0x1d479, .replaced [0x72]), (0x1d47a, .replaced [0x73]),
     (0x1d47b, .replaced [0x74]), (0x1d47c, .replaced [0x75]), (0x1d47d, .replaced [0x76]),
     (0x1d47e, .replaced [0x77]), (0x1d47f, .replaced [0x78]), (0x1d480, .replaced [0x79]),
     (0x1d481, .replaced [0x7a]), (0x1d482, .replaced [0x61]), (0x1d483, .replaced [0x62]),
     (0x1d484, .replaced [0x63]), (0x1d485, .replaced [0x64]), (0x1d486, .replaced [0x65]),
     (0x1d487, .replaced [0x66]), (0x1d488, .replaced [0x67]), (0x1d489, .replaced [0x68]),
     (0x1d48a, .replaced [0x69]), (0x1d48b, .replaced [0x6a]), (0x1d48c, .replaced [0x6b]),
     (0x1d48d, .replaced [0x6c]), (0x1d48e, .replaced [0x6d]), (0x1d48f, .replaced [0x6e]),
     (0x1d490, .replaced [0x6f]), (0x1d491, .replaced [0x70]), (0x1d492, .replaced [0x71])],
    [(0x1d493, .replaced [0x72]), (0x1d494, .replaced [0x73]), (0x1d495, .replaced [0x74]),
     (0x1d496, .replaced [0x75]), (0x1d497, .replaced [0x76]), (0x1d498, .replaced [0x77]),
     (0x1d499, .replaced [0x78]), (0x1d49a, .replaced [0x79]), (0x1d49b, .replaced [0x7a]),
     (0x1d49c, .replaced [0x61]), (0x1d49d, .refused), (0x1d49e, .replaced [0x63]),
     (0x1d49f, .replaced [0x64]), (0x1d4a0, .refused), (0x1d4a2, .replaced [0x67]),
     (0x1d4a3, .refused), (0x1d4a5, .replaced [0x6a]), (0x1d4a6, .replaced [0x6b]),
     (0x1d4a7, .refused), (0x1d4a9, .replaced [0x6e]), (0x1d4aa, .replaced [0x6f]),
     (0x1d4ab, .replaced [0x70]), (0x1d4ac, .replaced [0x71]), (0x1d4ad, .refused),
     (0x1d4ae, .replaced [0x73]), (0x1d4af, .replaced [0x74]), (0x1d4b0, .replaced [0x75]),
     (0x1d4b1, .replaced [0x76]), (0x1d4b2, .replaced [0x77]), (0x1d4b3, .replaced [0x78]),
     (0x1d4b4, .replaced [0x79]), (0x1d4b5, .replaced [0x7a]), (0x1d4b6, .replaced [0x61]),
     (0x1d4b7, .replaced [0x62]), (0x1d4b8, .replaced [0x63]), (0x1d4b9, .replaced [0x64]),
     (0x1d4ba, .refused), (0x1d4bb, .replaced [0x66]), (0x1d4bc, .refused),
     (0x1d4bd, .replaced [0x68]), (0x1d4be, .replaced [0x69]), (0x1d4bf, .replaced [0x6a]),
     (0x1d4c0, .replaced [0x6b]), (0x1d4c1, .replaced [0x6c]), (0x1d4c2, .replaced [0x6d]),
     (0x1d4c3, .replaced [0x6e]), (0x1d4c4, .refused), (0x1d4c5, .replaced [0x70]),
     (0x1d4c6, .replaced [0x71]), (0x1d4c7, .replaced [0x72]), (0x1d4c8, .replaced [0x73]),
     (0x1d4c9, .replaced [0x74]), (0x1d4ca, .replaced [0x75]), (0x1d4cb, .replaced [0x76]),
     (0x1d4cc, .replaced [0x77]), (0x1d4cd, .replaced [0x78]), (0x1d4ce, .replaced [0x79]),
     (0x1d4cf, .replaced [0x7a]), (0x1d4d0, .replaced [0x61]), (0x1d4d1, .replaced [0x62])],
    [(0x1d4d2, .replaced [0x63]), (0x1d4d3, .replaced [0x64]), (0x1d4d4, .replaced [0x65]),
     (0x1d4d5, .replaced [0x66]), (0x1d4d6, .replaced [0x67]), (0x1d4d7, .replaced [0x68]),
     (0x1d4d8, .replaced [0x69]), (0x1d4d9, .replaced [0x6a]), (0x1d4da, .replaced [0x6b]),
     (0x1d4db, .replaced [0x6c]), (0x1d4dc, .replaced [0x6d]), (0x1d4dd, .replaced [0x6e]),
     (0x1d4de, .replaced [0x6f]), (0x1d4df, .replaced [0x70]), (0x1d4e0, .replaced [0x71]),
     (0x1d4e1, .replaced [0x72]), (0x1d4e2, .replaced [0x73]), (0x1d4e3, .replaced [0x74]),
     (0x1d4e4, .replaced [0x75]), (0x1d4e5, .replaced [0x76]), (0x1d4e6, .replaced [0x77]),
     (0x1d4e7, .replaced [0x78]), (0x1d4e8, .replaced [0x79]), (0x1d4e9, .replaced [0x7a]),
     (0x1d4ea, .replaced [0x61]), (0x1d4eb, .replaced [0x62]), (0x1d4ec, .replaced [0x63]),
     (0x1d4ed, .replaced [0x64]), (0x1d4ee, .replaced [0x65]), (0x1d4ef, .replaced [0x66]),
     (0x1d4f0, .replaced [0x67]), (0x1d4f1, .replaced [0x68]), (0x1d4f2, .replaced [0x69]),
     (0x1d4f3, .replaced [0x6a]), (0x1d4f4, .replaced [0x6b]), (0x1d4f5, .replaced [0x6c]),
     (0x1d4f6, .replaced [0x6d]), (0x1d4f7, .replaced [0x6e]), (0x1d4f8, .replaced [0x6f]),
     (0x1d4f9, .replaced [0x70]), (0x1d4fa, .replaced [0x71]), (0x1d4fb, .replaced [0x72]),
     (0x1d4fc, .replaced [0x73]), (0x1d4fd, .replaced [0x74]), (0x1d4fe, .replaced [0x75]),
     (0x1d4ff, .replaced [0x76]), (0x1d500, .replaced [0x77]), (0x1d501, .replaced [0x78]),
     (0x1d502, .replaced [0x79]), (0x1d503, .replaced [0x7a]), (0x1d504, .replaced [0x61]),
     (0x1d505, .replaced [0x62]), (0x1d506, .refused), (0x1d507, .replaced [0x64]),
     (0x1d508, .replaced [0x65]), (0x1d509, .replaced [0x66]), (0x1d50a, .replaced [0x67]),
     (0x1d50b, .refused), (0x1d50d, .replaced [0x6a]), (0x1d50e, .replaced [0x6b])],
    [(0x1d50f, .replaced [0x6c]), (0x1d510, .replaced [0x6d]), (0x1d511, .replaced [0x6e]),
     (0x1d512, .replaced [0x6f]), (0x1d513, .replaced [0x70]), (0x1d514, .replaced [0x71]),
     (0x1d515, .refused), (0x1d516, .replaced [0x73]), (0x1d517, .replaced [0x74]),
     (0x1d518, .replaced [0x75]), (0x1d519, .replaced [0x76]), (0x1d51a, .replaced [0x77]),
     (0x1d51b, .replaced [0x78]), (0x1d51c, .replaced [0x79]), (0x1d51d, .refused),
     (0x1d51e, .replaced [0x61]), (0x1d51f, .replaced [0x62]), (0x1d520, .replaced [0x63]),
     (0x1d521, .replaced [0x64]), (0x1d522, .replaced [0x65]), (0x1d523, .replaced [0x66]),
     (0x1d524, .replaced [0x67]), (0x1d525, .replaced [0x68]), (0x1d526, .replaced [0x69]),
     (0x1d527, .replaced [0x6a]), (0x1d528, .replaced [0x6b]), (0x1d529, .replaced [0x6c]),
     (0x1d52a, .replaced [0x6d]), (0x1d52b, .replaced [0x6e]), (0x1d52c, .replaced [0x6f]),
     (0x1d52d, .replaced [0x70]), (0x1d52e, .replaced [0x71]), (0x1d52f, .replaced [0x72]),
     (0x1d530, .replaced [0x73]), (0x1d531, .replaced [0x74]), (0x1d532, .replaced [0x75]),
     (0x1d533, .replaced [0x76]), (0x1d534, .replaced [0x77]), (0x1d535, .replaced [0x78]),
     (0x1d536, .replaced [0x79]), (0x1d537, .replaced [0x7a]), (0x1d538, .replaced [0x61]),
     (0x1d539, .replaced [0x62]), (0x1d53a, .refused), (0x1d53b, .replaced [0x64]),
     (0x1d53c, .replaced [0x65]), (0x1d53d, .replaced [0x66]), (0x1d53e, .replaced [0x67]),
     (0x1d53f, .refused), (0x1d540, .replaced [0x69]), (0x1d541, .replaced [0x6a]),
     (0x1d542, .replaced [0x6b]), (0x1d543, .replaced [0x6c]), (0x1d544, .replaced [0x6d]),
     (0x1d545, .refused), (0x1d546, .replaced [0x6f]), (0x1d547, .refused),
     (0x1d54a, .replaced [0x73]), (0x1d54b, .replaced [0x74]), (0x1d54c, .replaced [0x75])],
    [(0x1d54d, .replaced [0x76]), (0x1d54e, .replaced [0x77]), (0x1d54f, .replaced [0x78]),
     (0x1d550, .replaced [0x79]), (0x1d551, .refused), (0x1d552, .replaced [0x61]),
     (0x1d553, .replaced [0x62]), (0x1d554, .replaced [0x63]), (0x1d555, .replaced [0x64]),
     (0x1d556, .replaced [0x65]), (0x1d557, .replaced [0x66]), (0x1d558, .replaced [0x67]),
     (0x1d559, .replaced [0x68]), (0x1d55a, .replaced [0x69]), (0x1d55b, .replaced [0x6a]),
     (0x1d55c, .replaced [0x6b]), (0x1d55d, .replaced [0x6c]), (0x1d55e, .replaced [0x6d]),
     (0x1d55f, .replaced [0x6e]), (0x1d560, .replaced [0x6f]), (0x1d561, .replaced [0x70]),
     (0x1d562, .replaced [0x71]), (0x1d563, .replaced [0x72]), (0x1d564, .replaced [0x73]),
     (0x1d565, .replaced [0x74]), (0x1d566, .replaced [0x75]), (0x1d567, .replaced [0x76]),
     (0x1d568, .replaced [0x77]), (0x1d569, .replaced [0x78]), (0x1d56a, .replaced [0x79]),
     (0x1d56b, .replaced [0x7a]), (0x1d56c, .replaced [0x61]), (0x1d56d, .replaced [0x62]),
     (0x1d56e, .replaced [0x63]), (0x1d56f, .replaced [0x64]), (0x1d570, .replaced [0x65]),
     (0x1d571, .replaced [0x66]), (0x1d572, .replaced [0x67]), (0x1d573, .replaced [0x68]),
     (0x1d574, .replaced [0x69]), (0x1d575, .replaced [0x6a]), (0x1d576, .replaced [0x6b]),
     (0x1d577, .replaced [0x6c]), (0x1d578, .replaced [0x6d]), (0x1d579, .replaced [0x6e]),
     (0x1d57a, .replaced [0x6f]), (0x1d57b, .replaced [0x70]), (0x1d57c, .replaced [0x71]),
     (0x1d57d, .replaced [0x72]), (0x1d57e, .replaced [0x73]), (0x1d57f, .replaced [0x74]),
     (0x1d580, .replaced [0x75]), (0x1d581, .replaced [0x76]), (0x1d582, .replaced [0x77]),
     (0x1d583, .replaced [0x78]), (0x1d584, .replaced [0x79]), (0x1d585, .replaced [0x7a]),
     (0x1d586, .replaced [0x61]), (0x1d587, .replaced [0x62]), (0x1d588, .replaced [0x63])],
    [(0x1d589, .replaced [0x64]), (0x1d58a, .replaced [0x65]), (0x1d58b, .replaced [0x66]),
     (0x1d58c, .replaced [0x67]), (0x1d58d, .replaced [0x68]), (0x1d58e, .replaced [0x69]),
     (0x1d58f, .replaced [0x6a]), (0x1d590, .replaced [0x6b]), (0x1d591, .replaced [0x6c]),
     (0x1d592, .replaced [0x6d]), (0x1d593, .replaced [0x6e]), (0x1d594, .replaced [0x6f]),
     (0x1d595, .replaced [0x70]), (0x1d596, .replaced [0x71]), (0x1d597, .replaced [0x72]),
     (0x1d598, .replaced [0x73]), (0x1d599, .replaced [0x74]), (0x1d59a, .replaced [0x75]),
     (0x1d59b, .replaced [0x76]), (0x1d59c, .replaced [0x77]), (0x1d59d, .replaced [0x78]),
     (0x1d59e, .replaced [0x79]), (0x1d59f, .replaced [0x7a]), (0x1d5a0, .replaced [0x61]),
     (0x1d5a1, .replaced [0x62]), (0x1d5a2, .replaced [0x63]), (0x1d5a3, .replaced [0x64]),
     (0x1d5a4, .replaced [0x65]), (0x1d5a5, .replaced [0x66]), (0x1d5a6, .replaced [0x67]),
     (0x1d5a7, .replaced [0x68]), (0x1d5a8, .replaced [0x69]), (0x1d5a9, .replaced [0x6a]),
     (0x1d5aa, .replaced [0x6b]), (0x1d5ab, .replaced [0x6c]), (0x1d5ac, .replaced [0x6d]),
     (0x1d5ad, .replaced [0x6e]), (0x1d5ae, .replaced [0x6f]), (0x1d5af, .replaced [0x70]),
     (0x1d5b0, .replaced [0x71]), (0x1d5b1, .replaced [0x72]), (0x1d5b2, .replaced [0x73]),
     (0x1d5b3, .replaced [0x74]), (0x1d5b4, .replaced [0x75]), (0x1d5b5, .replaced [0x76]),
     (0x1d5b6, .replaced [0x77]), (0x1d5b7, .replaced [0x78]), (0x1d5b8, .replaced [0x79]),
     (0x1d5b9, .replaced [0x7a]), (0x1d5ba, .replaced [0x61]), (0x1d5bb, .replaced [0x62]),
     (0x1d5bc, .replaced [0x63]), (0x1d5bd, .replaced [0x64]), (0x1d5be, .replaced [0x65]),
     (0x1d5bf, .replaced [0x66]), (0x1d5c0, .replaced [0x67]), (0x1d5c1, .replaced [0x68]),
     (0x1d5c2, .replaced [0x69]), (0x1d5c3, .replaced [0x6a]), (0x1d5c4, .replaced [0x6b])],
    [(0x1d5c5, .replaced [0x6c]), (0x1d5c6, .replaced [0x6d]), (0x1d5c7, .replaced [0x6e]),
     (0x1d5c8, .replaced [0x6f]), (0x1d5c9, .replaced [0x70]), (0x1d5ca, .replaced [0x71]),
     (0x1d5cb, .replaced [0x72]), (0x1d5cc, .replaced [0x73]), (0x1d5cd, .replaced [0x74]),
     (0x1d5ce, .replaced [0x75]), (0x1d5cf, .replaced [0x76]), (0x1d5d0, .replaced [0x77]),
     (0x1d5d1, .replaced [0x78]), (0x1d5d2, .replaced [0x79]), (0x1d5d3, .replaced [0x7a]),
     (0x1d5d4, .replaced [0x61]), (0x1d5d5, .replaced [0x62]), (0x1d5d6, .replaced [0x63]),
     (0x1d5d7, .replaced [0x64]), (0x1d5d8, .replaced [0x65]), (0x1d5d9, .replaced [0x66]),
     (0x1d5da, .replaced [0x67]), (0x1d5db, .replaced [0x68]), (0x1d5dc, .replaced [0x69]),
     (0x1d5dd, .replaced [0x6a]), (0x1d5de, .replaced [0x6b]), (0x1d5df, .replaced [0x6c]),
     (0x1d5e0, .replaced [0x6d]), (0x1d5e1, .replaced [0x6e]), (0x1d5e2, .replaced [0x6f]),
     (0x1d5e3, .replaced [0x70]), (0x1d5e4, .replaced [0x71]), (0x1d5e5, .replaced [0x72]),
     (0x1d5e6, .replaced [0x73]), (0x1d5e7, .replaced [0x74]), (0x1d5e8, .replaced [0x75]),
     (0x1d5e9, .replaced [0x76]), (0x1d5ea, .replaced [0x77]), (0x1d5eb, .replaced [0x78]),
     (0x1d5ec, .replaced [0x79]), (0x1d5ed, .replaced [0x7a]), (0x1d5ee, .replaced [0x61]),
     (0x1d5ef, .replaced [0x62]), (0x1d5f0, .replaced [0x63]), (0x1d5f1, .replaced [0x64]),
     (0x1d5f2, .replaced [0x65]), (0x1d5f3, .replaced [0x66]), (0x1d5f4, .replaced [0x67]),
     (0x1d5f5, .replaced [0x68]), (0x1d5f6, .replaced [0x69]), (0x1d5f7, .replaced [0x6a]),
     (0x1d5f8, .replaced [0x6b]), (0x1d5f9, .replaced [0x6c]), (0x1d5fa, .replaced [0x6d]),
     (0x1d5fb, .replaced [0x6e]), (0x1d5fc, .replaced [0x6f]), (0x1d5fd, .replaced [0x70]),
     (0x1d5fe, .replaced [0x71]), (0x1d5ff, .replaced [0x72]), (0x1d600, .replaced [0x73])],
    [(0x1d601, .replaced [0x74]), (0x1d602, .replaced [0x75]), (0x1d603, .replaced [0x76]),
     (0x1d604, .replaced [0x77]), (0x1d605, .replaced [0x78]), (0x1d606, .replaced [0x79]),
     (0x1d607, .replaced [0x7a]), (0x1d608, .replaced [0x61]), (0x1d609, .replaced [0x62]),
     (0x1d60a, .replaced [0x63]), (0x1d60b, .replaced [0x64]), (0x1d60c, .replaced [0x65]),
     (0x1d60d, .replaced [0x66]), (0x1d60e, .replaced [0x67]), (0x1d60f, .replaced [0x68]),
     (0x1d610, .replaced [0x69]), (0x1d611, .replaced [0x6a]), (0x1d612, .replaced [0x6b]),
     (0x1d613, .replaced [0x6c]), (0x1d614, .replaced [0x6d]), (0x1d615, .replaced [0x6e]),
     (0x1d616, .replaced [0x6f]), (0x1d617, .replaced [0x70]), (0x1d618, .replaced [0x71]),
     (0x1d619, .replaced [0x72]), (0x1d61a, .replaced [0x73]), (0x1d61b, .replaced [0x74]),
     (0x1d61c, .replaced [0x75]), (0x1d61d, .replaced [0x76]), (0x1d61e, .replaced [0x77]),
     (0x1d61f, .replaced [0x78]), (0x1d620, .replaced [0x79]), (0x1d621, .replaced [0x7a]),
     (0x1d622, .replaced [0x61]), (0x1d623, .replaced [0x62]), (0x1d624, .replaced [0x63]),
     (0x1d625, .replaced [0x64]), (0x1d626, .replaced [0x65]), (0x1d627, .replaced [0x66]),
     (0x1d628, .replaced [0x67]), (0x1d629, .replaced [0x68]), (0x1d62a, .replaced [0x69]),
     (0x1d62b, .replaced [0x6a]), (0x1d62c, .replaced [0x6b]), (0x1d62d, .replaced [0x6c]),
     (0x1d62e, .replaced [0x6d]), (0x1d62f, .replaced [0x6e]), (0x1d630, .replaced [0x6f]),
     (0x1d631, .replaced [0x70]), (0x1d632, .replaced [0x71]), (0x1d633, .replaced [0x72]),
     (0x1d634, .replaced [0x73]), (0x1d635, .replaced [0x74]), (0x1d636, .replaced [0x75]),
     (0x1d637, .replaced [0x76]), (0x1d638, .replaced [0x77]), (0x1d639, .replaced [0x78]),
     (0x1d63a, .replaced [0x79]), (0x1d63b, .replaced [0x7a]), (0x1d63c, .replaced [0x61])],
    [(0x1d63d, .replaced [0x62]), (0x1d63e, .replaced [0x63]), (0x1d63f, .replaced [0x64]),
     (0x1d640, .replaced [0x65]), (0x1d641, .replaced [0x66]), (0x1d642, .replaced [0x67]),
     (0x1d643, .replaced [0x68]), (0x1d644, .replaced [0x69]), (0x1d645, .replaced [0x6a]),
     (0x1d646, .replaced [0x6b]), (0x1d647, .replaced [0x6c]), (0x1d648, .replaced [0x6d]),
     (0x1d649, .replaced [0x6e]), (0x1d64a, .replaced [0x6f]), (0x1d64b, .replaced [0x70]),
     (0x1d64c, .replaced [0x71]), (0x1d64d, .replaced [0x72]), (0x1d64e, .replaced [0x73]),
     (0x1d64f, .replaced [0x74]), (0x1d650, .replaced [0x75]), (0x1d651, .replaced [0x76]),
     (0x1d652, .replaced [0x77]), (0x1d653, .replaced [0x78]), (0x1d654, .replaced [0x79]),
     (0x1d655, .replaced [0x7a]), (0x1d656, .replaced [0x61]), (0x1d657, .replaced [0x62]),
     (0x1d658, .replaced [0x63]), (0x1d659, .replaced [0x64]), (0x1d65a, .replaced [0x65]),
     (0x1d65b, .replaced [0x66]), (0x1d65c, .replaced [0x67]), (0x1d65d, .replaced [0x68]),
     (0x1d65e, .replaced [0x69]), (0x1d65f, .replaced [0x6a]), (0x1d660, .replaced [0x6b]),
     (0x1d661, .replaced [0x6c]), (0x1d662, .replaced [0x6d]), (0x1d663, .replaced [0x6e]),
     (0x1d664, .replaced [0x6f]), (0x1d665, .replaced [0x70]), (0x1d666, .replaced [0x71]),
     (0x1d667, .replaced [0x72]), (0x1d668, .replaced [0x73]), (0x1d669, .replaced [0x74]),
     (0x1d66a, .replaced [0x75]), (0x1d66b, .replaced [0x76]), (0x1d66c, .replaced [0x77]),
     (0x1d66d, .replaced [0x78]), (0x1d66e, .replaced [0x79]), (0x1d66f, .replaced [0x7a]),
     (0x1d670, .replaced [0x61]), (0x1d671, .replaced [0x62]), (0x1d672, .replaced [0x63]),
     (0x1d673, .replaced [0x64]), (0x1d674, .replaced [0x65]), (0x1d675, .replaced [0x66]),
     (0x1d676, .replaced [0x67]), (0x1d677, .replaced [0x68]), (0x1d678, .replaced [0x69])],
    [(0x1d679, .replaced [0x6a]), (0x1d67a, .replaced [0x6b]), (0x1d67b, .replaced [0x6c]),
     (0x1d67c, .replaced [0x6d]), (0x1d67d, .replaced [0x6e]), (0x1d67e, .replaced [0x6f]),
     (0x1d67f, .replaced [0x70]), (0x1d680, .replaced [0x71]), (0x1d681, .replaced [0x72]),
     (0x1d682, .replaced [0x73]), (0x1d683, .replaced [0x74]), (0x1d684, .replaced [0x75]),
     (0x1d685, .replaced [0x76]), (0x1d686, .replaced [0x77]), (0x1d687, .replaced [0x78]),
     (0x1d688, .replaced [0x79]), (0x1d689, .replaced [0x7a]), (0x1d68a, .replaced [0x61]),
     (0x1d68b, .replaced [0x62]), (0x1d68c, .replaced [0x63]), (0x1d68d, .replaced [0x64]),
     (0x1d68e, .replaced [0x65]), (0x1d68f, .replaced [0x66]), (0x1d690, .replaced [0x67]),
     (0x1d691, .replaced [0x68]), (0x1d692, .replaced [0x69]), (0x1d693, .replaced [0x6a]),
     (0x1d694, .replaced [0x6b]), (0x1d695, .replaced [0x6c]), (0x1d696, .replaced [0x6d]),
     (0x1d697, .replaced [0x6e]), (0x1d698, .replaced [0x6f]), (0x1d699, .replaced [0x70]),
     (0x1d69a, .replaced [0x71]), (0x1d69b, .replaced [0x72]), (0x1d69c, .replaced [0x73]),
     (0x1d69d, .replaced [0x74]), (0x1d69e, .replaced [0x75]), (0x1d69f, .replaced [0x76]),
     (0x1d6a0, .replaced [0x77]), (0x1d6a1, .replaced [0x78]), (0x1d6a2, .replaced [0x79]),
     (0x1d6a3, .replaced [0x7a]), (0x1d6a4, .replaced [0x131]), (0x1d6a5, .replaced [0x237]),
     (0x1d6a6, .refused), (0x1d6a8, .replaced [0x3b1]), (0x1d6a9, .replaced [0x3b2]),
     (0x1d6aa, .replaced [0x3b3]), (0x1d6ab, .replaced [0x3b4]), (0x1d6ac, .replaced [0x3b5]),
     (0x1d6ad, .replaced [0x3b6]), (0x1d6ae, .replaced [0x3b7]), (0x1d6af, .replaced [0x3b8]),
     (0x1d6b0, .replaced [0x3b9]), (0x1d6b1, .replaced [0x3ba]), (0x1d6b2, .replaced [0x3bb]),
     (0x1d6b3, .replaced [0x3bc]), (0x1d6b4, .replaced [0x3bd]), (0x1d6b5, .replaced [0x3be])],
    [(0x1d6b6, .replaced [0x3bf]), (0x1d6b7, .replaced [0x3c0]), (0x1d6b8, .replaced [0x3c1]),
     (0x1d6b9, .replaced [0x3b8]), (0x1d6ba, .replaced [0x3c3]), (0x1d6bb, .replaced [0x3c4]),
     (0x1d6bc, .replaced [0x3c5]), (0x1d6bd, .replaced [0x3c6]), (0x1d6be, .replaced [0x3c7]),
     (0x1d6bf, .replaced [0x3c8]), (0x1d6c0, .replaced [0x3c9]), (0x1d6c1, .replaced [0x2207]),
     (0x1d6c2, .replaced [0x3b1]), (0x1d6c3, .replaced [0x3b2]), (0x1d6c4, .replaced [0x3b3]),
     (0x1d6c5, .replaced [0x3b4]), (0x1d6c6, .replaced [0x3b5]), (0x1d6c7, .replaced [0x3b6]),
     (0x1d6c8, .replaced [0x3b7]), (0x1d6c9, .replaced [0x3b8]), (0x1d6ca, .replaced [0x3b9]),
     (0x1d6cb, .replaced [0x3ba]), (0x1d6cc, .replaced [0x3bb]), (0x1d6cd, .replaced [0x3bc]),
     (0x1d6ce, .replaced [0x3bd]), (0x1d6cf, .replaced [0x3be]), (0x1d6d0, .replaced [0x3bf]),
     (0x1d6d1, .replaced [0x3c0]), (0x1d6d2, .replaced [0x3c1]), (0x1d6d3, .replaced [0x3c3]),
     (0x1d6d5, .replaced [0x3c4]), (0x1d6d6, .replaced [0x3c5]), (0x1d6d7, .replaced [0x3c6]),
     (0x1d6d8, .replaced [0x3c7]), (0x1d6d9, .replaced [0x3c8]), (0x1d6da, .replaced [0x3c9]),
     (0x1d6db, .replaced [0x2202]), (0x1d6dc, .replaced [0x3b5]), (0x1d6dd, .replaced [0x3b8]),
     (0x1d6de, .replaced [0x3ba]), (0x1d6df, .replaced [0x3c6]), (0x1d6e0, .replaced [0x3c1]),
     (0x1d6e1, .replaced [0x3c0]), (0x1d6e2, .replaced [0x3b1]), (0x1d6e3, .replaced [0x3b2]),
     (0x1d6e4, .replaced [0x3b3]), (0x1d6e5, .replaced [0x3b4]), (0x1d6e6, .replaced [0x3b5]),
     (0x1d6e7, .replaced [0x3b6]), (0x1d6e8, .replaced [0x3b7]), (0x1d6e9, .replaced [0x3b8]),
     (0x1d6ea, .replaced [0x3b9]), (0x1d6eb, .replaced [0x3ba]), (0x1d6ec, .replaced [0x3bb]),
     (0x1d6ed, .replaced [0x3bc]), (0x1d6ee, .replaced [0x3bd]), (0x1d6ef, .replaced [0x3be]),
     (0x1d6f0, .replaced [0x3bf]), (0x1d6f1, .replaced [0x3c0]), (0x1d6f2, .replaced [0x3c1])],
    [(0x1d6f3, .replaced [0x3b8]), (0x1d6f4, .replaced [0x3c3]), (0x1d6f5, .replaced [0x3c4]),
     (0x1d6f6, .replaced [0x3c5]), (0x1d6f7, .replaced [0x3c6]), (0x1d6f8, .replaced [0x3c7]),
     (0x1d6f9, .replaced [0x3c8]), (0x1d6fa, .replaced [0x3c9]), (0x1d6fb, .replaced [0x2207]),
     (0x1d6fc, .replaced [0x3b1]), (0x1d6fd, .replaced [0x3b2]), (0x1d6fe, .replaced [0x3b3]),
     (0x1d6ff, .replaced [0x3b4]), (0x1d700, .replaced [0x3b5]), (0x1d701, .replaced [0x3b6]),
     (0x1d702, .replaced [0x3b7]), (0x1d703, .replaced [0x3b8]), (0x1d704, .replaced [0x3b9]),
     (0x1d705, .replaced [0x3ba]), (0x1d706, .replaced [0x3bb]), (0x1d707, .replaced [0x3bc]),
     (0x1d708, .replaced [0x3bd]), (0x1d709, .replaced [0x3be]), (0x1d70a, .replaced [0x3bf]),
     (0x1d70b, .replaced [0x3c0]), (0x1d70c, .replaced [0x3c1]), (0x1d70d, .replaced [0x3c3]),
     (0x1d70f, .replaced [0x3c4]), (0x1d710, .replaced [0x3c5]), (0x1d711, .replaced [0x3c6]),
     (0x1d712, .replaced [0x3c7]), (0x1d713, .replaced [0x3c8]), (0x1d714, .replaced [0x3c9]),
     (0x1d715, .replaced [0x2202]), (0x1d716, .replaced [0x3b5]), (0x1d717, .replaced [0x3b8]),
     (0x1d718, .replaced [0x3ba]), (0x1d719, .replaced [0x3c6]), (0x1d71a, .replaced [0x3c1]),
     (0x1d71b, .replaced [0x3c0]), (0x1d71c, .replaced [0x3b1]), (0x1d71d, .replaced [0x3b2]),
     (0x1d71e, .replaced [0x3b3]), (0x1d71f, .replaced [0x3b4]), (0x1d720, .replaced [0x3b5]),
     (0x1d721, .replaced [0x3b6]), (0x1d722, .replaced [0x3b7]), (0x1d723, .replaced [0x3b8]),
     (0x1d724, .replaced [0x3b9]), (0x1d725, .replaced [0x3ba]), (0x1d726, .replaced [0x3bb]),
     (0x1d727, .replaced [0x3bc]), (0x1d728, .replaced [0x3bd]), (0x1d729, .replaced [0x3be]),
     (0x1d72a, .replaced [0x3bf]), (0x1d72b, .replaced [0x3c0]), (0x1d72c, .replaced [0x3c1]),
     (0x1d72d, .replaced [0x3b8]), (0x1d72e, .replaced [0x3c3]), (0x1d72f, .replaced [0x3c4])],
    [(0x1d730, .replaced [0x3c5]), (0x1d731, .replaced [0x3c6]), (0x1d732, .replaced [0x3c7]),
     (0x1d733, .replaced [0x3c8]), (0x1d734, .replaced [0x3c9]), (0x1d735, .replaced [0x2207]),
     (0x1d736, .replaced [0x3b1]), (0x1d737, .replaced [0x3b2]), (0x1d738, .replaced [0x3b3]),
     (0x1d739, .replaced [0x3b4]), (0x1d73a, .replaced [0x3b5]), (0x1d73b, .replaced [0x3b6]),
     (0x1d73c, .replaced [0x3b7]), (0x1d73d, .replaced [0x3b8]), (0x1d73e, .replaced [0x3b9]),
     (0x1d73f, .replaced [0x3ba]), (0x1d740, .replaced [0x3bb]), (0x1d741, .replaced [0x3bc]),
     (0x1d742, .replaced [0x3bd]), (0x1d743, .replaced [0x3be]), (0x1d744, .replaced [0x3bf]),
     (0x1d745, .replaced [0x3c0]), (0x1d746, .replaced [0x3c1]), (0x1d747, .replaced [0x3c3]),
     (0x1d749, .replaced [0x3c4]), (0x1d74a, .replaced [0x3c5]), (0x1d74b, .replaced [0x3c6]),
     (0x1d74c, .replaced [0x3c7]), (0x1d74d, .replaced [0x3c8]), (0x1d74e, .replaced [0x3c9]),
     (0x1d74f, .replaced [0x2202]), (0x1d750, .replaced [0x3b5]), (0x1d751, .replaced [0x3b8]),
     (0x1d752, .replaced [0x3ba]), (0x1d753, .replaced [0x3c6]), (0x1d754, .replaced [0x3c1]),
     (0x1d755, .replaced [0x3c0]), (0x1d756, .replaced [0x3b1]), (0x1d757, .replaced [0x3b2]),
     (0x1d758, .replaced [0x3b3]), (0x1d759, .replaced [0x3b4]), (0x1d75a, .replaced [0x3b5]),
     (0x1d75b, .replaced [0x3b6]), (0x1d75c, .replaced [0x3b7]), (0x1d75d, .replaced [0x3b8]),
     (0x1d75e, .replaced [0x3b9]), (0x1d75f, .replaced [0x3ba]), (0x1d760, .replaced [0x3bb]),
     (0x1d761, .replaced [0x3bc]), (0x1d762, .replaced [0x3bd]), (0x1d763, .replaced [0x3be]),
     (0x1d764, .replaced [0x3bf]), (0x1d765, .replaced [0x3c0]), (0x1d766, .replaced [0x3c1]),
     (0x1d767, .replaced [0x3b8]), (0x1d768, .replaced [0x3c3]), (0x1d769, .replaced [0x3c4]),
     (0x1d76a, .replaced [0x3c5]), (0x1d76b, .replaced [0x3c6]), (0x1d76c, .replaced [0x3c7])],
    [(0x1d76d, .replaced [0x3c8]), (0x1d76e, .replaced [0x3c9]), (0x1d76f, .replaced [0x2207]),
     (0x1d770, .replaced [0x3b1]), (0x1d771, .replaced [0x3b2]), (0x1d772, .replaced [0x3b3]),
     (0x1d773, .replaced [0x3b4]), (0x1d774, .replaced [0x3b5]), (0x1d775, .replaced [0x3b6]),
     (0x1d776, .replaced [0x3b7]), (0x1d777, .replaced [0x3b8]), (0x1d778, .replaced [0x3b9]),
     (0x1d779, .replaced [0x3ba]), (0x1d77a, .replaced [0x3bb]), (0x1d77b, .replaced [0x3bc]),
     (0x1d77c, .replaced [0x3bd]), (0x1d77d, .replaced [0x3be]), (0x1d77e, .replaced [0x3bf]),
     (0x1d77f, .replaced [0x3c0]), (0x1d780, .replaced [0x3c1]), (0x1d781, .replaced [0x3c3]),
     (0x1d783, .replaced [0x3c4]), (0x1d784, .replaced [0x3c5]), (0x1d785, .replaced [0x3c6]),
     (0x1d786, .replaced [0x3c7]), (0x1d787, .replaced [0x3c8]), (0x1d788, .replaced [0x3c9]),
     (0x1d789, .replaced [0x2202]), (0x1d78a, .replaced [0x3b5]), (0x1d78b, .replaced [0x3b8]),
     (0x1d78c, .replaced [0x3ba]), (0x1d78d, .replaced [0x3c6]), (0x1d78e, .replaced [0x3c1]),
     (0x1d78f, .replaced [0x3c0]), (0x1d790, .replaced [0x3b1]), (0x1d791, .replaced [0x3b2]),
     (0x1d792, .replaced [0x3b3]), (0x1d793, .replaced [0x3b4]), (0x1d794, .replaced [0x3b5]),
     (0x1d795, .replaced [0x3b6]), (0x1d796, .replaced [0x3b7]), (0x1d797, .replaced [0x3b8]),
     (0x1d798, .replaced [0x3b9]), (0x1d799, .replaced [0x3ba]), (0x1d79a, .replaced [0x3bb]),
     (0x1d79b, .replaced [0x3bc]), (0x1d79c, .replaced [0x3bd]), (0x1d79d, .replaced [0x3be]),
     (0x1d79e, .replaced [0x3bf]), (0x1d79f, .replaced [0x3c0]), (0x1d7a0, .replaced [0x3c1]),
     (0x1d7a1, .replaced [0x3b8]), (0x1d7a2, .replaced [0x3c3]), (0x1d7a3, .replaced [0x3c4]),
     (0x1d7a4, .replaced [0x3c5]), (0x1d7a5, .replaced [0x3c6]), (0x1d7a6, .replaced [0x3c7]),
     (0x1d7a7, .replaced [0x3c8]), (0x1d7a8, .replaced [0x3c9]), (0x1d7a9, .replaced [0x2207])],
    [(0x1d7aa, .replaced [0x3b1]), (0x1d7ab, .replaced [0x3b2]), (0x1d7ac, .replaced [0x3b3]),
     (0x1d7ad, .replaced [0x3b4]), (0x1d7ae, .replaced [0x3b5]), (0x1d7af, .replaced [0x3b6]),
     (0x1d7b0, .replaced [0x3b7]), (0x1d7b1, .replaced [0x3b8]), (0x1d7b2, .replaced [0x3b9]),
     (0x1d7b3, .replaced [0x3ba]), (0x1d7b4, .replaced [0x3bb]), (0x1d7b5, .replaced [0x3bc]),
     (0x1d7b6, .replaced [0x3bd]), (0x1d7b7, .replaced [0x3be]), (0x1d7b8, .replaced [0x3bf]),
     (0x1d7b9, .replaced [0x3c0]), (0x1d7ba, .replaced [0x3c1]), (0x1d7bb, .replaced [0x3c3]),
     (0x1d7bd, .replaced [0x3c4]), (0x1d7be, .replaced [0x3c5]), (0x1d7bf, .replaced [0x3c6]),
     (0x1d7c0, .replaced [0x3c7]), (0x1d7c1, .replaced [0x3c8]), (0x1d7c2, .replaced [0x3c9]),
     (0x1d7c3, .replaced [0x2202]), (0x1d7c4, .replaced [0x3b5]), (0x1d7c5, .replaced [0x3b8]),
     (0x1d7c6, .replaced [0x3ba]), (0x1d7c7, .replaced [0x3c6]), (0x1d7c8, .replaced [0x3c1]),
     (0x1d7c9, .replaced [0x3c0]), (0x1d7ca, .replaced [0x3dd]), (0x1d7cc, .refused),
     (0x1d7ce, .replaced [0x30]), (0x1d7cf, .replaced [0x31]), (0x1d7d0, .replaced [0x32]),
     (0x1d7d1, .replaced [0x33]), (0x1d7d2, .replaced [0x34]), (0x1d7d3, .replaced [0x35]),
     (0x1d7d4, .replaced [0x36]), (0x1d7d5, .replaced [0x37]), (0x1d7d6, .replaced [0x38]),
     (0x1d7d7, .replaced [0x39]), (0x1d7d8, .replaced [0x30]), (0x1d7d9, .replaced [0x31]),
     (0x1d7da, .replaced [0x32]), (0x1d7db, .replaced [0x33]), (0x1d7dc, .replaced [0x34]),
     (0x1d7dd, .replaced [0x35]), (0x1d7de, .replaced [0x36]), (0x1d7df, .replaced [0x37]),
     (0x1d7e0, .replaced [0x38]), (0x1d7e1, .replaced [0x39]), (0x1d7e2, .replaced [0x30]),
     (0x1d7e3, .replaced [0x31]), (0x1d7e4, .replaced [0x32]), (0x1d7e5, .replaced [0x33]),
     (0x1d7e6, .replaced [0x34]), (0x1d7e7, .replaced [0x35]), (0x1d7e8, .replaced [0x36])],
    [(0x1d7e9, .replaced [0x37]), (0x1d7ea, .replaced [0x38]), (0x1d7eb, .replaced [0x39]),
     (0x1d7ec, .replaced [0x30]), (0x1d7ed, .replaced [0x31]), (0x1d7ee, .replaced [0x32]),
     (0x1d7ef, .replaced [0x33]), (0x1d7f0, .replaced [0x34]), (0x1d7f1, .replaced [0x35]),
     (0x1d7f2, .replaced [0x36]), (0x1d7f3, .replaced [0x37]), (0x1d7f4, .replaced [0x38]),
     (0x1d7f5, .replaced [0x39]), (0x1d7f6, .replaced [0x30]), (0x1d7f7, .replaced [0x31]),
     (0x1d7f8, .replaced [0x32]), (0x1d7f9, .replaced [0x33]), (0x1d7fa, .replaced [0x34]),
     (0x1d7fb, .replaced [0x35]), (0x1d7fc, .replaced [0x36]), (0x1d7fd, .replaced [0x37]),
     (0x1d7fe, .replaced [0x38]), (0x1d7ff, .replaced [0x39]), (0x1d800, .kept),
     (0x1da8c, .refused), (0x1da9b, .kept), (0x1daa0, .refused), (0x1daa1, .kept),
     (0x1dab0, .refused), (0x1df00, .kept), (0x1df1f, .refused), (0x1df25, .kept),
     (0x1df2b, .refused)]]

set_option maxRecDepth 20000 in
def fatesFrom1E000 : Text.Runs Fate :=
  List.flatten [
    [(0x1e000, .kept), (0x1e007, .refused), (0x1e008, .kept), (0x1e019, .refused),
     (0x1e01b, .kept), (0x1e022, .refused), (0x1e023, .kept), (0x1e025, .refused),
     (0x1e026, .kept), (0x1e02b, .refused), (0x1e030, .replaced [0x430]),
     (0x1e031, .replaced [0x431]), (0x1e032, .replaced [0x432]), (0x1e033, .replaced [0x433]),
     (0x1e034, .replaced [0x434]), (0x1e035, .replaced [0x435]), (0x1e036, .replaced [0x436]),
     (0x1e037, .replaced [0x437]), (0x1e038, .replaced [0x438]), (0x1e039, .replaced [0x43a]),
     (0x1e03a, .replaced [0x43b]), (0x1e03b, .replaced [0x43c]), (0x1e03c, .replaced [0x43e]),
     (0x1e03d, .replaced [0x43f]), (0x1e03e, .replaced [0x440]), (0x1e03f, .replaced [0x441]),
     (0x1e040, .replaced [0x442]), (0x1e041, .replaced [0x443]), (0x1e042, .replaced [0x444]),
     (0x1e043, .replaced [0x445]), (0x1e044, .replaced [0x446]), (0x1e045, .replaced [0x447]),
     (0x1e046, .replaced [0x448]), (0x1e047, .replaced [0x44b]), (0x1e048, .replaced [0x44d]),
     (0x1e049, .replaced [0x44e]), (0x1e04a, .replaced [0xa689]), (0x1e04b, .replaced [0x4d9]),
     (0x1e04c, .replaced [0x456]), (0x1e04d, .replaced [0x458]), (0x1e04e, .replaced [0x4e9]),
     (0x1e04f, .replaced [0x4af]), (0x1e050, .replaced [0x4cf]), (0x1e051, .replaced [0x430]),
     (0x1e052, .replaced [0x431]), (0x1e053, .replaced [0x432]), (0x1e054, .replaced [0x433]),
     (0x1e055, .replaced [0x434]), (0x1e056, .replaced [0x435]), (0x1e057, .replaced [0x436]),
     (0x1e058, .replaced [0x437]), (0x1e059, .replaced [0x438]), (0x1e05a, .replaced [0x43a]),
     (0x1e05b, .replaced [0x43b]), (0x1e05c, .replaced [0x43e]), (0x1e05d, .replaced [0x43f]),
     (0x1e05e, .replaced [0x441]), (0x1e05f, .replaced [0x443]), (0x1e060, .replaced [0x444]),
     (0x1e061, .replaced [0x445])],
    [(0x1e062, .replaced [0x446]), (0x1e063, .replaced [0x447]), (0x1e064, .replaced [0x448]),
     (0x1e065, .replaced [0x44a]), (0x1e066, .replaced [0x44b]), (0x1e067, .replaced [0x491]),
     (0x1e068, .replaced [0x456]), (0x1e069, .replaced [0x455]), (0x1e06a, .replaced [0x45f]),
     (0x1e06b, .replaced [0x4ab]), (0x1e06c, .replaced [0xa651]), (0x1e06d, .replaced [0x4b1]),
     (0x1e06e, .refused), (0x1e08f, .kept), (0x1e090, .refused), (0x1e100, .kept),
     (0x1e12d, .refused), (0x1e130, .kept), (0x1e13e, .refused), (0x1e140, .kept),
     (0x1e14a, .refused), (0x1e14e, .kept), (0x1e150, .refused), (0x1e290, .kept),
     (0x1e2af, .refused), (0x1e2c0, .kept), (0x1e2fa, .refused), (0x1e2ff, .kept),
     (0x1e300, .refused), (0x1e4d0, .kept), (0x1e4fa, .refused), (0x1e7e0, .kept),
     (0x1e7e7, .refused), (0x1e7e8, .kept), (0x1e7ec, .refused), (0x1e7ed, .kept),
     (0x1e7ef, .refused), (0x1e7f0, .kept), (0x1e7ff, .refused), (0x1e800, .kept),
     (0x1e8c5, .refused), (0x1e8c7, .kept), (0x1e8d7, .refused), (0x1e900, .replaced [0x1e922]),
     (0x1e901, .replaced [0x1e923]), (0x1e902, .replaced [0x1e924]),
     (0x1e903, .replaced [0x1e925]), (0x1e904, .replaced [0x1e926]),
     (0x1e905, .replaced [0x1e927]), (0x1e906, .replaced [0x1e928]),
     (0x1e907, .replaced [0x1e929]), (0x1e908, .replaced [0x1e92a]),
     (0x1e909, .replaced [0x1e92b]), (0x1e90a, .replaced [0x1e92c]),
     (0x1e90b, .replaced [0x1e92d]), (0x1e90c, .replaced [0x1e92e]),
     (0x1e90d, .replaced [0x1e92f]), (0x1e90e, .replaced [0x1e930]),
     (0x1e90f, .replaced [0x1e931]), (0x1e910, .replaced [0x1e932])],
    [(0x1e911, .replaced [0x1e933]), (0x1e912, .replaced [0x1e934]),
     (0x1e913, .replaced [0x1e935]), (0x1e914, .replaced [0x1e936]),
     (0x1e915, .replaced [0x1e937]), (0x1e916, .replaced [0x1e938]),
     (0x1e917, .replaced [0x1e939]), (0x1e918, .replaced [0x1e93a]),
     (0x1e919, .replaced [0x1e93b]), (0x1e91a, .replaced [0x1e93c]),
     (0x1e91b, .replaced [0x1e93d]), (0x1e91c, .replaced [0x1e93e]),
     (0x1e91d, .replaced [0x1e93f]), (0x1e91e, .replaced [0x1e940]),
     (0x1e91f, .replaced [0x1e941]), (0x1e920, .replaced [0x1e942]),
     (0x1e921, .replaced [0x1e943]), (0x1e922, .kept), (0x1e94c, .refused), (0x1e950, .kept),
     (0x1e95a, .refused), (0x1e95e, .kept), (0x1e960, .refused), (0x1ec71, .kept),
     (0x1ecb5, .refused), (0x1ed01, .kept), (0x1ed3e, .refused), (0x1ee00, .replaced [0x627]),
     (0x1ee01, .replaced [0x628]), (0x1ee02, .replaced [0x62c]), (0x1ee03, .replaced [0x62f]),
     (0x1ee04, .refused), (0x1ee05, .replaced [0x648]), (0x1ee06, .replaced [0x632]),
     (0x1ee07, .replaced [0x62d]), (0x1ee08, .replaced [0x637]), (0x1ee09, .replaced [0x64a]),
     (0x1ee0a, .replaced [0x643]), (0x1ee0b, .replaced [0x644]), (0x1ee0c, .replaced [0x645]),
     (0x1ee0d, .replaced [0x646]), (0x1ee0e, .replaced [0x633]), (0x1ee0f, .replaced [0x639]),
     (0x1ee10, .replaced [0x641]), (0x1ee11, .replaced [0x635]), (0x1ee12, .replaced [0x642]),
     (0x1ee13, .replaced [0x631]), (0x1ee14, .replaced [0x634]), (0x1ee15, .replaced [0x62a]),
     (0x1ee16, .replaced [0x62b]), (0x1ee17, .replaced [0x62e]), (0x1ee18, .replaced [0x630]),
     (0x1ee19, .replaced [0x636]), (0x1ee1a, .replaced [0x638]), (0x1ee1b, .replaced [0x63a]),
     (0x1ee1c, .replaced [0x66e]), (0x1ee1d, .replaced [0x6ba]), (0x1ee1e, .replaced [0x6a1]),
     (0x1ee1f, .replaced [0x66f]), (0x1ee20, .refused)],
    [(0x1ee21, .replaced [0x628]), (0x1ee22, .replaced [0x62c]), (0x1ee23, .refused),
     (0x1ee24, .replaced [0x647]), (0x1ee25, .refused), (0x1ee27, .replaced [0x62d]),
     (0x1ee28, .refused), (0x1ee29, .replaced [0x64a]), (0x1ee2a, .replaced [0x643]),
     (0x1ee2b, .replaced [0x644]), (0x1ee2c, .replaced [0x645]), (0x1ee2d, .replaced [0x646]),
     (0x1ee2e, .replaced [0x633]), (0x1ee2f, .replaced [0x639]), (0x1ee30, .replaced [0x641]),
     (0x1ee31, .replaced [0x635]), (0x1ee32, .replaced [0x642]), (0x1ee33, .refused),
     (0x1ee34, .replaced [0x634]), (0x1ee35, .replaced [0x62a]), (0x1ee36, .replaced [0x62b]),
     (0x1ee37, .replaced [0x62e]), (0x1ee38, .refused), (0x1ee39, .replaced [0x636]),
     (0x1ee3a, .refused), (0x1ee3b, .replaced [0x63a]), (0x1ee3c, .refused),
     (0x1ee42, .replaced [0x62c]), (0x1ee43, .refused), (0x1ee47, .replaced [0x62d]),
     (0x1ee48, .refused), (0x1ee49, .replaced [0x64a]), (0x1ee4a, .refused),
     (0x1ee4b, .replaced [0x644]), (0x1ee4c, .refused), (0x1ee4d, .replaced [0x646]),
     (0x1ee4e, .replaced [0x633]), (0x1ee4f, .replaced [0x639]), (0x1ee50, .refused),
     (0x1ee51, .replaced [0x635]), (0x1ee52, .replaced [0x642]), (0x1ee53, .refused),
     (0x1ee54, .replaced [0x634]), (0x1ee55, .refused), (0x1ee57, .replaced [0x62e]),
     (0x1ee58, .refused), (0x1ee59, .replaced [0x636]), (0x1ee5a, .refused),
     (0x1ee5b, .replaced [0x63a]), (0x1ee5c, .refused), (0x1ee5d, .replaced [0x6ba]),
     (0x1ee5e, .refused), (0x1ee5f, .replaced [0x66f]), (0x1ee60, .refused),
     (0x1ee61, .replaced [0x628]), (0x1ee62, .replaced [0x62c]), (0x1ee63, .refused),
     (0x1ee64, .replaced [0x647]), (0x1ee65, .refused), (0x1ee67, .replaced [0x62d])],
    [(0x1ee68, .replaced [0x637]), (0x1ee69, .replaced [0x64a]), (0x1ee6a, .replaced [0x643]),
     (0x1ee6b, .refused), (0x1ee6c, .replaced [0x645]), (0x1ee6d, .replaced [0x646]),
     (0x1ee6e, .replaced [0x633]), (0x1ee6f, .replaced [0x639]), (0x1ee70, .replaced [0x641]),
     (0x1ee71, .replaced [0x635]), (0x1ee72, .replaced [0x642]), (0x1ee73, .refused),
     (0x1ee74, .replaced [0x634]), (0x1ee75, .replaced [0x62a]), (0x1ee76, .replaced [0x62b]),
     (0x1ee77, .replaced [0x62e]), (0x1ee78, .refused), (0x1ee79, .replaced [0x636]),
     (0x1ee7a, .replaced [0x638]), (0x1ee7b, .replaced [0x63a]), (0x1ee7c, .replaced [0x66e]),
     (0x1ee7d, .refused), (0x1ee7e, .replaced [0x6a1]), (0x1ee7f, .refused),
     (0x1ee80, .replaced [0x627]), (0x1ee81, .replaced [0x628]), (0x1ee82, .replaced [0x62c]),
     (0x1ee83, .replaced [0x62f]), (0x1ee84, .replaced [0x647]), (0x1ee85, .replaced [0x648]),
     (0x1ee86, .replaced [0x632]), (0x1ee87, .replaced [0x62d]), (0x1ee88, .replaced [0x637]),
     (0x1ee89, .replaced [0x64a]), (0x1ee8a, .refused), (0x1ee8b, .replaced [0x644]),
     (0x1ee8c, .replaced [0x645]), (0x1ee8d, .replaced [0x646]), (0x1ee8e, .replaced [0x633]),
     (0x1ee8f, .replaced [0x639]), (0x1ee90, .replaced [0x641]), (0x1ee91, .replaced [0x635]),
     (0x1ee92, .replaced [0x642]), (0x1ee93, .replaced [0x631]), (0x1ee94, .replaced [0x634]),
     (0x1ee95, .replaced [0x62a]), (0x1ee96, .replaced [0x62b]), (0x1ee97, .replaced [0x62e]),
     (0x1ee98, .replaced [0x630]), (0x1ee99, .replaced [0x636]), (0x1ee9a, .replaced [0x638]),
     (0x1ee9b, .replaced [0x63a]), (0x1ee9c, .refused), (0x1eea1, .replaced [0x628]),
     (0x1eea2, .replaced [0x62c]), (0x1eea3, .replaced [0x62f]), (0x1eea4, .refused),
     (0x1eea5, .replaced [0x648]), (0x1eea6, .replaced [0x632]), (0x1eea7, .replaced [0x62d])],
    [(0x1eea8, .replaced [0x637]), (0x1eea9, .replaced [0x64a]), (0x1eeaa, .refused),
     (0x1eeab, .replaced [0x644]), (0x1eeac, .replaced [0x645]), (0x1eead, .replaced [0x646]),
     (0x1eeae, .replaced [0x633]), (0x1eeaf, .replaced [0x639]), (0x1eeb0, .replaced [0x641]),
     (0x1eeb1, .replaced [0x635]), (0x1eeb2, .replaced [0x642]), (0x1eeb3, .replaced [0x631]),
     (0x1eeb4, .replaced [0x634]), (0x1eeb5, .replaced [0x62a]), (0x1eeb6, .replaced [0x62b]),
     (0x1eeb7, .replaced [0x62e]), (0x1eeb8, .replaced [0x630]), (0x1eeb9, .replaced [0x636]),
     (0x1eeba, .replaced [0x638]), (0x1eebb, .replaced [0x63a]), (0x1eebc, .refused),
     (0x1eef0, .kept), (0x1eef2, .refused), (0x1f000, .kept), (0x1f02c, .refused),
     (0x1f030, .kept), (0x1f094, .refused), (0x1f0a0, .kept), (0x1f0af, .refused),
     (0x1f0b1, .kept), (0x1f0c0, .refused), (0x1f0c1, .kept), (0x1f0d0, .refused),
     (0x1f0d1, .kept), (0x1f0f6, .refused), (0x1f101, .replaced [0x30, 0x2c]),
     (0x1f102, .replaced [0x31, 0x2c]), (0x1f103, .replaced [0x32, 0x2c]),
     (0x1f104, .replaced [0x33, 0x2c]), (0x1f105, .replaced [0x34, 0x2c]),
     (0x1f106, .replaced [0x35, 0x2c]), (0x1f107, .replaced [0x36, 0x2c]),
     (0x1f108, .replaced [0x37, 0x2c]), (0x1f109, .replaced [0x38, 0x2c]),
     (0x1f10a, .replaced [0x39, 0x2c]), (0x1f10b, .kept), (0x1f110, .replaced [0x28, 0x61, 0x29]),
     (0x1f111, .replaced [0x28, 0x62, 0x29]), (0x1f112, .replaced [0x28, 0x63, 0x29]),
     (0x1f113, .replaced [0x28, 0x64, 0x29]), (0x1f114, .replaced [0x28, 0x65, 0x29]),
     (0x1f115, .replaced [0x28, 0x66, 0x29]), (0x1f116, .replaced [0x28, 0x67, 0x29]),
     (0x1f117, .replaced [0x28, 0x68, 0x29]), (0x1f118, .replaced [0x28, 0x69, 0x29]),
     (0x1f119, .replaced [0x28, 0x6a, 0x29]), (0x1f11a, .replaced [0x28, 0x6b, 0x29]),
     (0x1f11b, .replaced [0x28, 0x6c, 0x29]), (0x1f11c, .replaced [0x28, 0x6d, 0x29]),
     (0x1f11d, .replaced [0x28, 0x6e, 0x29])],
    [(0x1f11e, .replaced [0x28, 0x6f, 0x29]), (0x1f11f, .replaced [0x28, 0x70, 0x29]),
     (0x1f120, .replaced [0x28, 0x71, 0x29]), (0x1f121, .replaced [0x28, 0x72, 0x29]),
     (0x1f122, .replaced [0x28, 0x73, 0x29]), (0x1f123, .replaced [0x28, 0x74, 0x29]),
     (0x1f124, .replaced [0x28, 0x75, 0x29]), (0x1f125, .replaced [0x28, 0x76, 0x29]),
     (0x1f126, .replaced [0x28, 0x77, 0x29]), (0x1f127, .replaced [0x28, 0x78, 0x29]),
     (0x1f128, .replaced [0x28, 0x79, 0x29]), (0x1f129, .replaced [0x28, 0x7a, 0x29]),
     (0x1f12a, .replaced [0x3014, 0x73, 0x3015]), (0x1f12b, .replaced [0x63]),
     (0x1f12c, .replaced [0x72]), (0x1f12d, .replaced [0x63, 0x64]),
     (0x1f12e, .replaced [0x77, 0x7a]), (0x1f12f, .kept), (0x1f130, .replaced [0x61]),
     (0x1f131, .replaced [0x62]), (0x1f132, .replaced [0x63]), (0x1f133, .replaced [0x64]),
     (0x1f134, .replaced [0x65]), (0x1f135, .replaced [0x66]), (0x1f136, .replaced [0x67]),
     (0x1f137, .replaced [0x68]), (0x1f138, .replaced [0x69]), (0x1f139, .replaced [0x6a]),
     (0x1f13a, .replaced [0x6b]), (0x1f13b, .replaced [0x6c]), (0x1f13c, .replaced [0x6d]),
     (0x1f13d, .replaced [0x6e]), (0x1f13e, .replaced [0x6f]), (0x1f13f, .replaced [0x70]),
     (0x1f140, .replaced [0x71]), (0x1f141, .replaced [0x72]), (0x1f142, .replaced [0x73]),
     (0x1f143, .replaced [0x74]), (0x1f144, .replaced [0x75]), (0x1f145, .replaced [0x76]),
     (0x1f146, .replaced [0x77]), (0x1f147, .replaced [0x78]), (0x1f148, .replaced [0x79]),
     (0x1f149, .replaced [0x7a]), (0x1f14a, .replaced [0x68, 0x76]),
     (0x1f14b, .replaced [0x6d, 0x76]), (0x1f14c, .replaced [0x73, 0x64]),
     (0x1f14d, .replaced [0x73, 0x73]), (0x1f14e, .replaced [0x70, 0x70, 0x76]),
     (0x1f14f, .replaced [0x77, 0x63]), (0x1f150, .kept), (0x1f16a, .replaced [0x6d, 0x63]),
     (0x1f16b, .replaced [0x6d, 0x64]), (0x1f16c, .replaced [0x6d, 0x72]), (0x1f16d, .kept),
     (0x1f190, .replaced [0x64, 0x6a]), (0x1f191, .kept), (0x1f1ae, .refused), (0x1f1e6, .kept),
     (0x1f200, .replaced [0x307b, 0x304b])],
    [(0x1f201, .replaced [0x30b3, 0x30b3]), (0x1f202, .replaced [0x30b5]), (0x1f203, .refused),
     (0x1f210, .replaced [0x624b]), (0x1f211, .replaced [0x5b57]), (0x1f212, .replaced [0x53cc]),
     (0x1f213, .replaced [0x30c7]), (0x1f214, .replaced [0x4e8c]), (0x1f215, .replaced [0x591a]),
     (0x1f216, .replaced [0x89e3]), (0x1f217, .replaced [0x5929]), (0x1f218, .replaced [0x4ea4]),
     (0x1f219, .replaced [0x6620]), (0x1f21a, .replaced [0x7121]), (0x1f21b, .replaced [0x6599]),
     (0x1f21c, .replaced [0x524d]), (0x1f21d, .replaced [0x5f8c]), (0x1f21e, .replaced [0x518d]),
     (0x1f21f, .replaced [0x65b0]), (0x1f220, .replaced [0x521d]), (0x1f221, .replaced [0x7d42]),
     (0x1f222, .replaced [0x751f]), (0x1f223, .replaced [0x8ca9]), (0x1f224, .replaced [0x58f0]),
     (0x1f225, .replaced [0x5439]), (0x1f226, .replaced [0x6f14]), (0x1f227, .replaced [0x6295]),
     (0x1f228, .replaced [0x6355]), (0x1f229, .replaced [0x4e00]), (0x1f22a, .replaced [0x4e09]),
     (0x1f22b, .replaced [0x904a]), (0x1f22c, .replaced [0x5de6]), (0x1f22d, .replaced [0x4e2d]),
     (0x1f22e, .replaced [0x53f3]), (0x1f22f, .replaced [0x6307]), (0x1f230, .replaced [0x8d70]),
     (0x1f231, .replaced [0x6253]), (0x1f232, .replaced [0x7981]), (0x1f233, .replaced [0x7a7a]),
     (0x1f234, .replaced [0x5408]), (0x1f235, .replaced [0x6e80]), (0x1f236, .replaced [0x6709]),
     (0x1f237, .replaced [0x6708]), (0x1f238, .replaced [0x7533]), (0x1f239, .replaced [0x5272]),
     (0x1f23a, .replaced [0x55b6]), (0x1f23b, .replaced [0x914d]), (0x1f23c, .refused),
     (0x1f240, .replaced [0x3014, 0x672c, 0x3015]), (0x1f241, .replaced [0x3014, 0x4e09, 0x3015]),
     (0x1f242, .replaced [0x3014, 0x4e8c, 0x3015]), (0x1f243, .replaced [0x3014, 0x5b89, 0x3015]),
     (0x1f244, .replaced [0x3014, 0x70b9, 0x3015]), (0x1f245, .replaced [0x3014, 0x6253, 0x3015]),
     (0x1f246, .replaced [0x3014, 0x76d7, 0x3015]), (0x1f247, .replaced [0x3014, 0x52dd, 0x3015]),
     (0x1f248, .replaced [0x3014, 0x6557, 0x3015]), (0x1f249, .refused),
     (0x1f250, .replaced [0x5f97]), (0x1f251, .replaced [0x53ef])],
    [(0x1f252, .refused), (0x1f260, .kept), (0x1f266, .refused), (0x1f300, .kept),
     (0x1f6d8, .refused), (0x1f6dc, .kept), (0x1f6ed, .refused), (0x1f6f0, .kept),
     (0x1f6fd, .refused), (0x1f700, .kept), (0x1f777, .refused), (0x1f77b, .kept),
     (0x1f7da, .refused), (0x1f7e0, .kept), (0x1f7ec, .refused), (0x1f7f0, .kept),
     (0x1f7f1, .refused), (0x1f800, .kept), (0x1f80c, .refused), (0x1f810, .kept),
     (0x1f848, .refused), (0x1f850, .kept), (0x1f85a, .refused), (0x1f860, .kept),
     (0x1f888, .refused), (0x1f890, .kept), (0x1f8ae, .refused), (0x1f8b0, .kept),
     (0x1f8b2, .refused), (0x1f900, .kept), (0x1fa54, .refused), (0x1fa60, .kept),
     (0x1fa6e, .refused), (0x1fa70, .kept), (0x1fa7d, .refused), (0x1fa80, .kept),
     (0x1fa89, .refused), (0x1fa90, .kept), (0x1fabe, .refused), (0x1fabf, .kept),
     (0x1fac6, .refused), (0x1face, .kept), (0x1fadc, .refused), (0x1fae0, .kept),
     (0x1fae9, .refused), (0x1faf0, .kept), (0x1faf9, .refused), (0x1fb00, .kept),
     (0x1fb93, .refused), (0x1fb94, .kept), (0x1fbcb, .refused), (0x1fbf0, .replaced [0x30]),
     (0x1fbf1, .replaced [0x31]), (0x1fbf2, .replaced [0x32]), (0x1fbf3, .replaced [0x33]),
     (0x1fbf4, .replaced [0x34]), (0x1fbf5, .replaced [0x35]), (0x1fbf6, .replaced [0x36]),
     (0x1fbf7, .replaced [0x37]), (0x1fbf8, .replaced [0x38])],
    [(0x1fbf9, .replaced [0x39]), (0x1fbfa, .refused), (0x20000, .kept), (0x2a6e0, .refused),
     (0x2a700, .kept), (0x2b73a, .refused), (0x2b740, .kept), (0x2b81e, .refused),
     (0x2b820, .kept), (0x2cea2, .refused), (0x2ceb0, .kept), (0x2ebe1, .refused),
     (0x2ebf0, .kept), (0x2ee5e, .refused), (0x2f800, .replaced [0x4e3d]),
     (0x2f801, .replaced [0x4e38]), (0x2f802, .replaced [0x4e41]), (0x2f803, .replaced [0x20122]),
     (0x2f804, .replaced [0x4f60]), (0x2f805, .replaced [0x4fae]), (0x2f806, .replaced [0x4fbb]),
     (0x2f807, .replaced [0x5002]), (0x2f808, .replaced [0x507a]), (0x2f809, .replaced [0x5099]),
     (0x2f80a, .replaced [0x50e7]), (0x2f80b, .replaced [0x50cf]), (0x2f80c, .replaced [0x349e]),
     (0x2f80d, .replaced [0x2063a]), (0x2f80e, .replaced [0x514d]), (0x2f80f, .replaced [0x5154]),
     (0x2f810, .replaced [0x5164]), (0x2f811, .replaced [0x5177]), (0x2f812, .replaced [0x2051c]),
     (0x2f813, .replaced [0x34b9]), (0x2f814, .replaced [0x5167]), (0x2f815, .replaced [0x518d]),
     (0x2f816, .replaced [0x2054b]), (0x2f817, .replaced [0x5197]), (0x2f818, .replaced [0x51a4]),
     (0x2f819, .replaced [0x4ecc]), (0x2f81a, .replaced [0x51ac]), (0x2f81b, .replaced [0x51b5]),
     (0x2f81c, .replaced [0x291df]), (0x2f81d, .replaced [0x51f5]), (0x2f81e, .replaced [0x5203]),
     (0x2f81f, .replaced [0x34df]), (0x2f820, .replaced [0x523b]), (0x2f821, .replaced [0x5246]),
     (0x2f822, .replaced [0x5272]), (0x2f823, .replaced [0x5277]), (0x2f824, .replaced [0x3515]),
     (0x2f825, .replaced [0x52c7]), (0x2f826, .replaced [0x52c9]), (0x2f827, .replaced [0x52e4]),
     (0x2f828, .replaced [0x52fa]), (0x2f829, .replaced [0x5305]), (0x2f82a, .replaced [0x5306]),
     (0x2f82b, .replaced [0x5317]), (0x2f82c, .replaced [0x5349]), (0x2f82d, .replaced [0x5351])],
    [(0x2f82e, .replaced [0x535a]), (0x2f82f, .replaced [0x5373]), (0x2f830, .replaced [0x537d]),
     (0x2f831, .replaced [0x537f]), (0x2f834, .replaced [0x20a2c]), (0x2f835, .replaced [0x7070]),
     (0x2f836, .replaced [0x53ca]), (0x2f837, .replaced [0x53df]), (0x2f838, .replaced [0x20b63]),
     (0x2f839, .replaced [0x53eb]), (0x2f83a, .replaced [0x53f1]), (0x2f83b, .replaced [0x5406]),
     (0x2f83c, .replaced [0x549e]), (0x2f83d, .replaced [0x5438]), (0x2f83e, .replaced [0x5448]),
     (0x2f83f, .replaced [0x5468]), (0x2f840, .replaced [0x54a2]), (0x2f841, .replaced [0x54f6]),
     (0x2f842, .replaced [0x5510]), (0x2f843, .replaced [0x5553]), (0x2f844, .replaced [0x5563]),
     (0x2f845, .replaced [0x5584]), (0x2f847, .replaced [0x5599]), (0x2f848, .replaced [0x55ab]),
     (0x2f849, .replaced [0x55b3]), (0x2f84a, .replaced [0x55c2]), (0x2f84b, .replaced [0x5716]),
     (0x2f84c, .replaced [0x5606]), (0x2f84d, .replaced [0x5717]), (0x2f84e, .replaced [0x5651]),
     (0x2f84f, .replaced [0x5674]), (0x2f850, .replaced [0x5207]), (0x2f851, .replaced [0x58ee]),
     (0x2f852, .replaced [0x57ce]), (0x2f853, .replaced [0x57f4]), (0x2f854, .replaced [0x580d]),
     (0x2f855, .replaced [0x578b]), (0x2f856, .replaced [0x5832]), (0x2f857, .replaced [0x5831]),
     (0x2f858, .replaced [0x58ac]), (0x2f859, .replaced [0x214e4]), (0x2f85a, .replaced [0x58f2]),
     (0x2f85b, .replaced [0x58f7]), (0x2f85c, .replaced [0x5906]), (0x2f85d, .replaced [0x591a]),
     (0x2f85e, .replaced [0x5922]), (0x2f85f, .replaced [0x5962]), (0x2f860, .replaced [0x216a8]),
     (0x2f861, .replaced [0x216ea]), (0x2f862, .replaced [0x59ec]), (0x2f863, .replaced [0x5a1b]),
     (0x2f864, .replaced [0x5a27]), (0x2f865, .replaced [0x59d8]), (0x2f866, .replaced [0x5a66]),
     (0x2f867, .replaced [0x36ee]), (0x2f868, .refused), (0x2f869, .replaced [0x5b08]),
     (0x2f86a, .replaced [0x5b3e]), (0x2f86c, .replaced [0x219c8]), (0x2f86d, .replaced [0x5bc3])],
    [(0x2f86e, .replaced [0x5bd8]), (0x2f86f, .replaced [0x5be7]), (0x2f870, .replaced [0x5bf3]),
     (0x2f871, .replaced [0x21b18]), (0x2f872, .replaced [0x5bff]), (0x2f873, .replaced [0x5c06]),
     (0x2f874, .refused), (0x2f875, .replaced [0x5c22]), (0x2f876, .replaced [0x3781]),
     (0x2f877, .replaced [0x5c60]), (0x2f878, .replaced [0x5c6e]), (0x2f879, .replaced [0x5cc0]),
     (0x2f87a, .replaced [0x5c8d]), (0x2f87b, .replaced [0x21de4]), (0x2f87c, .replaced [0x5d43]),
     (0x2f87d, .replaced [0x21de6]), (0x2f87e, .replaced [0x5d6e]), (0x2f87f, .replaced [0x5d6b]),
     (0x2f880, .replaced [0x5d7c]), (0x2f881, .replaced [0x5de1]), (0x2f882, .replaced [0x5de2]),
     (0x2f883, .replaced [0x382f]), (0x2f884, .replaced [0x5dfd]), (0x2f885, .replaced [0x5e28]),
     (0x2f886, .replaced [0x5e3d]), (0x2f887, .replaced [0x5e69]), (0x2f888, .replaced [0x3862]),
     (0x2f889, .replaced [0x22183]), (0x2f88a, .replaced [0x387c]), (0x2f88b, .replaced [0x5eb0]),
     (0x2f88c, .replaced [0x5eb3]), (0x2f88d, .replaced [0x5eb6]), (0x2f88e, .replaced [0x5eca]),
     (0x2f88f, .replaced [0x2a392]), (0x2f890, .replaced [0x5efe]), (0x2f891, .replaced [0x22331]),
     (0x2f893, .replaced [0x8201]), (0x2f894, .replaced [0x5f22]), (0x2f896, .replaced [0x38c7]),
     (0x2f897, .replaced [0x232b8]), (0x2f898, .replaced [0x261da]), (0x2f899, .replaced [0x5f62]),
     (0x2f89a, .replaced [0x5f6b]), (0x2f89b, .replaced [0x38e3]), (0x2f89c, .replaced [0x5f9a]),
     (0x2f89d, .replaced [0x5fcd]), (0x2f89e, .replaced [0x5fd7]), (0x2f89f, .replaced [0x5ff9]),
     (0x2f8a0, .replaced [0x6081]), (0x2f8a1, .replaced [0x393a]), (0x2f8a2, .replaced [0x391c]),
     (0x2f8a3, .replaced [0x6094]), (0x2f8a4, .replaced [0x226d4]), (0x2f8a5, .replaced [0x60c7]),
     (0x2f8a6, .replaced [0x6148]), (0x2f8a7, .replaced [0x614c]), (0x2f8a8, .replaced [0x614e]),
     (0x2f8a9, .replaced [0x614c]), (0x2f8aa, .replaced [0x617a]), (0x2f8ab, .replaced [0x618e])],
    [(0x2f8ac, .replaced [0x61b2]), (0x2f8ad, .replaced [0x61a4]), (0x2f8ae, .replaced [0x61af]),
     (0x2f8af, .replaced [0x61de]), (0x2f8b0, .replaced [0x61f2]), (0x2f8b1, .replaced [0x61f6]),
     (0x2f8b2, .replaced [0x6210]), (0x2f8b3, .replaced [0x621b]), (0x2f8b4, .replaced [0x625d]),
     (0x2f8b5, .replaced [0x62b1]), (0x2f8b6, .replaced [0x62d4]), (0x2f8b7, .replaced [0x6350]),
     (0x2f8b8, .replaced [0x22b0c]), (0x2f8b9, .replaced [0x633d]), (0x2f8ba, .replaced [0x62fc]),
     (0x2f8bb, .replaced [0x6368]), (0x2f8bc, .replaced [0x6383]), (0x2f8bd, .replaced [0x63e4]),
     (0x2f8be, .replaced [0x22bf1]), (0x2f8bf, .replaced [0x6422]), (0x2f8c0, .replaced [0x63c5]),
     (0x2f8c1, .replaced [0x63a9]), (0x2f8c2, .replaced [0x3a2e]), (0x2f8c3, .replaced [0x6469]),
     (0x2f8c4, .replaced [0x647e]), (0x2f8c5, .replaced [0x649d]), (0x2f8c6, .replaced [0x6477]),
     (0x2f8c7, .replaced [0x3a6c]), (0x2f8c8, .replaced [0x654f]), (0x2f8c9, .replaced [0x656c]),
     (0x2f8ca, .replaced [0x2300a]), (0x2f8cb, .replaced [0x65e3]), (0x2f8cc, .replaced [0x66f8]),
     (0x2f8cd, .replaced [0x6649]), (0x2f8ce, .replaced [0x3b19]), (0x2f8cf, .replaced [0x6691]),
     (0x2f8d0, .replaced [0x3b08]), (0x2f8d1, .replaced [0x3ae4]), (0x2f8d2, .replaced [0x5192]),
     (0x2f8d3, .replaced [0x5195]), (0x2f8d4, .replaced [0x6700]), (0x2f8d5, .replaced [0x669c]),
     (0x2f8d6, .replaced [0x80ad]), (0x2f8d7, .replaced [0x43d9]), (0x2f8d8, .replaced [0x6717]),
     (0x2f8d9, .replaced [0x671b]), (0x2f8da, .replaced [0x6721]), (0x2f8db, .replaced [0x675e]),
     (0x2f8dc, .replaced [0x6753]), (0x2f8dd, .replaced [0x233c3]), (0x2f8de, .replaced [0x3b49]),
     (0x2f8df, .replaced [0x67fa]), (0x2f8e0, .replaced [0x6785]), (0x2f8e1, .replaced [0x6852]),
     (0x2f8e2, .replaced [0x6885]), (0x2f8e3, .replaced [0x2346d]), (0x2f8e4, .replaced [0x688e]),
     (0x2f8e5, .replaced [0x681f]), (0x2f8e6, .replaced [0x6914]), (0x2f8e7, .replaced [0x3b9d])],
    [(0x2f8e8, .replaced [0x6942]), (0x2f8e9, .replaced [0x69a3]), (0x2f8ea, .replaced [0x69ea]),
     (0x2f8eb, .replaced [0x6aa8]), (0x2f8ec, .replaced [0x236a3]), (0x2f8ed, .replaced [0x6adb]),
     (0x2f8ee, .replaced [0x3c18]), (0x2f8ef, .replaced [0x6b21]), (0x2f8f0, .replaced [0x238a7]),
     (0x2f8f1, .replaced [0x6b54]), (0x2f8f2, .replaced [0x3c4e]), (0x2f8f3, .replaced [0x6b72]),
     (0x2f8f4, .replaced [0x6b9f]), (0x2f8f5, .replaced [0x6bba]), (0x2f8f6, .replaced [0x6bbb]),
     (0x2f8f7, .replaced [0x23a8d]), (0x2f8f8, .replaced [0x21d0b]),
     (0x2f8f9, .replaced [0x23afa]), (0x2f8fa, .replaced [0x6c4e]), (0x2f8fb, .replaced [0x23cbc]),
     (0x2f8fc, .replaced [0x6cbf]), (0x2f8fd, .replaced [0x6ccd]), (0x2f8fe, .replaced [0x6c67]),
     (0x2f8ff, .replaced [0x6d16]), (0x2f900, .replaced [0x6d3e]), (0x2f901, .replaced [0x6d77]),
     (0x2f902, .replaced [0x6d41]), (0x2f903, .replaced [0x6d69]), (0x2f904, .replaced [0x6d78]),
     (0x2f905, .replaced [0x6d85]), (0x2f906, .replaced [0x23d1e]), (0x2f907, .replaced [0x6d34]),
     (0x2f908, .replaced [0x6e2f]), (0x2f909, .replaced [0x6e6e]), (0x2f90a, .replaced [0x3d33]),
     (0x2f90b, .replaced [0x6ecb]), (0x2f90c, .replaced [0x6ec7]), (0x2f90d, .replaced [0x23ed1]),
     (0x2f90e, .replaced [0x6df9]), (0x2f90f, .replaced [0x6f6e]), (0x2f910, .replaced [0x23f5e]),
     (0x2f911, .replaced [0x23f8e]), (0x2f912, .replaced [0x6fc6]), (0x2f913, .replaced [0x7039]),
     (0x2f914, .replaced [0x701e]), (0x2f915, .replaced [0x701b]), (0x2f916, .replaced [0x3d96]),
     (0x2f917, .replaced [0x704a]), (0x2f918, .replaced [0x707d]), (0x2f919, .replaced [0x7077]),
     (0x2f91a, .replaced [0x70ad]), (0x2f91b, .replaced [0x20525]), (0x2f91c, .replaced [0x7145]),
     (0x2f91d, .replaced [0x24263]), (0x2f91e, .replaced [0x719c]), (0x2f91f, .refused),
     (0x2f920, .replaced [0x7228]), (0x2f921, .replaced [0x7235]), (0x2f922, .replaced [0x7250]),
     (0x2f923, .replaced [0x24608])],
    [(0x2f924, .replaced [0x7280]), (0x2f925, .replaced [0x7295]), (0x2f926, .replaced [0x24735]),
     (0x2f927, .replaced [0x24814]), (0x2f928, .replaced [0x737a]), (0x2f929, .replaced [0x738b]),
     (0x2f92a, .replaced [0x3eac]), (0x2f92b, .replaced [0x73a5]), (0x2f92c, .replaced [0x3eb8]),
     (0x2f92e, .replaced [0x7447]), (0x2f92f, .replaced [0x745c]), (0x2f930, .replaced [0x7471]),
     (0x2f931, .replaced [0x7485]), (0x2f932, .replaced [0x74ca]), (0x2f933, .replaced [0x3f1b]),
     (0x2f934, .replaced [0x7524]), (0x2f935, .replaced [0x24c36]), (0x2f936, .replaced [0x753e]),
     (0x2f937, .replaced [0x24c92]), (0x2f938, .replaced [0x7570]), (0x2f939, .replaced [0x2219f]),
     (0x2f93a, .replaced [0x7610]), (0x2f93b, .replaced [0x24fa1]), (0x2f93c, .replaced [0x24fb8]),
     (0x2f93d, .replaced [0x25044]), (0x2f93e, .replaced [0x3ffc]), (0x2f93f, .replaced [0x4008]),
     (0x2f940, .replaced [0x76f4]), (0x2f941, .replaced [0x250f3]), (0x2f942, .replaced [0x250f2]),
     (0x2f943, .replaced [0x25119]), (0x2f944, .replaced [0x25133]), (0x2f945, .replaced [0x771e]),
     (0x2f946, .replaced [0x771f]), (0x2f948, .replaced [0x774a]), (0x2f949, .replaced [0x4039]),
     (0x2f94a, .replaced [0x778b]), (0x2f94b, .replaced [0x4046]), (0x2f94c, .replaced [0x4096]),
     (0x2f94d, .replaced [0x2541d]), (0x2f94e, .replaced [0x784e]), (0x2f94f, .replaced [0x788c]),
     (0x2f950, .replaced [0x78cc]), (0x2f951, .replaced [0x40e3]), (0x2f952, .replaced [0x25626]),
     (0x2f953, .replaced [0x7956]), (0x2f954, .replaced [0x2569a]), (0x2f955, .replaced [0x256c5]),
     (0x2f956, .replaced [0x798f]), (0x2f957, .replaced [0x79eb]), (0x2f958, .replaced [0x412f]),
     (0x2f959, .replaced [0x7a40]), (0x2f95a, .replaced [0x7a4a]), (0x2f95b, .replaced [0x7a4f]),
     (0x2f95c, .replaced [0x2597c]), (0x2f95d, .replaced [0x25aa7]), (0x2f95f, .refused),
     (0x2f960, .replaced [0x4202]), (0x2f961, .replaced [0x25bab]), (0x2f962, .replaced [0x7bc6])],
    [(0x2f963, .replaced [0x7bc9]), (0x2f964, .replaced [0x4227]), (0x2f965, .replaced [0x25c80]),
     (0x2f966, .replaced [0x7cd2]), (0x2f967, .replaced [0x42a0]), (0x2f968, .replaced [0x7ce8]),
     (0x2f969, .replaced [0x7ce3]), (0x2f96a, .replaced [0x7d00]), (0x2f96b, .replaced [0x25f86]),
     (0x2f96c, .replaced [0x7d63]), (0x2f96d, .replaced [0x4301]), (0x2f96e, .replaced [0x7dc7]),
     (0x2f96f, .replaced [0x7e02]), (0x2f970, .replaced [0x7e45]), (0x2f971, .replaced [0x4334]),
     (0x2f972, .replaced [0x26228]), (0x2f973, .replaced [0x26247]), (0x2f974, .replaced [0x4359]),
     (0x2f975, .replaced [0x262d9]), (0x2f976, .replaced [0x7f7a]), (0x2f977, .replaced [0x2633e]),
     (0x2f978, .replaced [0x7f95]), (0x2f979, .replaced [0x7ffa]), (0x2f97a, .replaced [0x8005]),
     (0x2f97b, .replaced [0x264da]), (0x2f97c, .replaced [0x26523]), (0x2f97d, .replaced [0x8060]),
     (0x2f97e, .replaced [0x265a8]), (0x2f97f, .replaced [0x8070]), (0x2f980, .replaced [0x2335f]),
     (0x2f981, .replaced [0x43d5]), (0x2f982, .replaced [0x80b2]), (0x2f983, .replaced [0x8103]),
     (0x2f984, .replaced [0x440b]), (0x2f985, .replaced [0x813e]), (0x2f986, .replaced [0x5ab5]),
     (0x2f987, .replaced [0x267a7]), (0x2f988, .replaced [0x267b5]),
     (0x2f989, .replaced [0x23393]), (0x2f98a, .replaced [0x2339c]), (0x2f98b, .replaced [0x8201]),
     (0x2f98c, .replaced [0x8204]), (0x2f98d, .replaced [0x8f9e]), (0x2f98e, .replaced [0x446b]),
     (0x2f98f, .replaced [0x8291]), (0x2f990, .replaced [0x828b]), (0x2f991, .replaced [0x829d]),
     (0x2f992, .replaced [0x52b3]), (0x2f993, .replaced [0x82b1]), (0x2f994, .replaced [0x82b3]),
     (0x2f995, .replaced [0x82bd]), (0x2f996, .replaced [0x82e6]), (0x2f997, .replaced [0x26b3c]),
     (0x2f998, .replaced [0x82e5]), (0x2f999, .replaced [0x831d]), (0x2f99a, .replaced [0x8363]),
     (0x2f99b, .replaced [0x83ad]), (0x2f99c, .replaced [0x8323]), (0x2f99d, .replaced [0x83bd]),
     (0x2f99e, .replaced [0x83e7])],
    [(0x2f99f, .replaced [0x8457]), (0x2f9a0, .replaced [0x8353]), (0x2f9a1, .replaced [0x83ca]),
     (0x2f9a2, .replaced [0x83cc]), (0x2f9a3, .replaced [0x83dc]), (0x2f9a4, .replaced [0x26c36]),
     (0x2f9a5, .replaced [0x26d6b]), (0x2f9a6, .replaced [0x26cd5]), (0x2f9a7, .replaced [0x452b]),
     (0x2f9a8, .replaced [0x84f1]), (0x2f9a9, .replaced [0x84f3]), (0x2f9aa, .replaced [0x8516]),
     (0x2f9ab, .replaced [0x273ca]), (0x2f9ac, .replaced [0x8564]), (0x2f9ad, .replaced [0x26f2c]),
     (0x2f9ae, .replaced [0x455d]), (0x2f9af, .replaced [0x4561]), (0x2f9b0, .replaced [0x26fb1]),
     (0x2f9b1, .replaced [0x270d2]), (0x2f9b2, .replaced [0x456b]), (0x2f9b3, .replaced [0x8650]),
     (0x2f9b4, .replaced [0x865c]), (0x2f9b5, .replaced [0x8667]), (0x2f9b6, .replaced [0x8669]),
     (0x2f9b7, .replaced [0x86a9]), (0x2f9b8, .replaced [0x8688]), (0x2f9b9, .replaced [0x870e]),
     (0x2f9ba, .replaced [0x86e2]), (0x2f9bb, .replaced [0x8779]), (0x2f9bc, .replaced [0x8728]),
     (0x2f9bd, .replaced [0x876b]), (0x2f9be, .replaced [0x8786]), (0x2f9bf, .refused),
     (0x2f9c0, .replaced [0x87e1]), (0x2f9c1, .replaced [0x8801]), (0x2f9c2, .replaced [0x45f9]),
     (0x2f9c3, .replaced [0x8860]), (0x2f9c4, .replaced [0x8863]), (0x2f9c5, .replaced [0x27667]),
     (0x2f9c6, .replaced [0x88d7]), (0x2f9c7, .replaced [0x88de]), (0x2f9c8, .replaced [0x4635]),
     (0x2f9c9, .replaced [0x88fa]), (0x2f9ca, .replaced [0x34bb]), (0x2f9cb, .replaced [0x278ae]),
     (0x2f9cc, .replaced [0x27966]), (0x2f9cd, .replaced [0x46be]), (0x2f9ce, .replaced [0x46c7]),
     (0x2f9cf, .replaced [0x8aa0]), (0x2f9d0, .replaced [0x8aed]), (0x2f9d1, .replaced [0x8b8a]),
     (0x2f9d2, .replaced [0x8c55]), (0x2f9d3, .replaced [0x27ca8]), (0x2f9d4, .replaced [0x8cab]),
     (0x2f9d5, .replaced [0x8cc1]), (0x2f9d6, .replaced [0x8d1b]), (0x2f9d7, .replaced [0x8d77]),
     (0x2f9d8, .replaced [0x27f2f]), (0x2f9d9, .replaced [0x20804]), (0x2f9da,
      .replaced [0x8dcb])],
    [(0x2f9db, .replaced [0x8dbc]), (0x2f9dc, .replaced [0x8df0]), (0x2f9dd, .replaced [0x208de]),
     (0x2f9de, .replaced [0x8ed4]), (0x2f9df, .replaced [0x8f38]), (0x2f9e0, .replaced [0x285d2]),
     (0x2f9e1, .replaced [0x285ed]), (0x2f9e2, .replaced [0x9094]), (0x2f9e3, .replaced [0x90f1]),
     (0x2f9e4, .replaced [0x9111]), (0x2f9e5, .replaced [0x2872e]), (0x2f9e6, .replaced [0x911b]),
     (0x2f9e7, .replaced [0x9238]), (0x2f9e8, .replaced [0x92d7]), (0x2f9e9, .replaced [0x92d8]),
     (0x2f9ea, .replaced [0x927c]), (0x2f9eb, .replaced [0x93f9]), (0x2f9ec, .replaced [0x9415]),
     (0x2f9ed, .replaced [0x28bfa]), (0x2f9ee, .replaced [0x958b]), (0x2f9ef, .replaced [0x4995]),
     (0x2f9f0, .replaced [0x95b7]), (0x2f9f1, .replaced [0x28d77]), (0x2f9f2, .replaced [0x49e6]),
     (0x2f9f3, .replaced [0x96c3]), (0x2f9f4, .replaced [0x5db2]), (0x2f9f5, .replaced [0x9723]),
     (0x2f9f6, .replaced [0x29145]), (0x2f9f7, .replaced [0x2921a]), (0x2f9f8, .replaced [0x4a6e]),
     (0x2f9f9, .replaced [0x4a76]), (0x2f9fa, .replaced [0x97e0]), (0x2f9fb, .replaced [0x2940a]),
     (0x2f9fc, .replaced [0x4ab2]), (0x2f9fd, .replaced [0x29496]), (0x2f9fe, .replaced [0x980b]),
     (0x2fa00, .replaced [0x9829]), (0x2fa01, .replaced [0x295b6]), (0x2fa02, .replaced [0x98e2]),
     (0x2fa03, .replaced [0x4b33]), (0x2fa04, .replaced [0x9929]), (0x2fa05, .replaced [0x99a7]),
     (0x2fa06, .replaced [0x99c2]), (0x2fa07, .replaced [0x99fe]), (0x2fa08, .replaced [0x4bce]),
     (0x2fa09, .replaced [0x29b30]), (0x2fa0a, .replaced [0x9b12]), (0x2fa0b, .replaced [0x9c40]),
     (0x2fa0c, .replaced [0x9cfd]), (0x2fa0d, .replaced [0x4cce]), (0x2fa0e, .replaced [0x4ced]),
     (0x2fa0f, .replaced [0x9d67]), (0x2fa10, .replaced [0x2a0ce]), (0x2fa11, .replaced [0x4cf8]),
     (0x2fa12, .replaced [0x2a105]), (0x2fa13, .replaced [0x2a20e]),
     (0x2fa14, .replaced [0x2a291]), (0x2fa15, .replaced [0x9ebb]), (0x2fa16, .replaced [0x4d56]),
     (0x2fa17, .replaced [0x9ef9])],
    [(0x2fa18, .replaced [0x9efe]), (0x2fa19, .replaced [0x9f05]), (0x2fa1a, .replaced [0x9f0f]),
     (0x2fa1b, .replaced [0x9f16]), (0x2fa1c, .replaced [0x9f3b]), (0x2fa1d, .replaced [0x2a600]),
     (0x2fa1e, .refused), (0x30000, .kept), (0x3134b, .refused), (0x31350, .kept),
     (0x323b0, .refused), (0xe0100, .dropped), (0xe01f0, .refused)]]

/-- What becomes of all characters but the ASCII ones. -/
def fateRuns : Text.Runs Fate :=
  fatesFrom0 ++ fatesFrom800 ++ fatesFrom2000 ++ fatesFrom3000 ++ fatesFromF800 ++
    fatesFrom10000 ++ fatesFrom1D000 ++ fatesFrom1E000

def fate (c : Char) : Fate :=
  if 'A' ≤ c && c ≤ 'Z' then .replaced [c.toNat + 32]
  else if c.toNat < 128 then .kept
  else Text.Runs.at .refused fateRuns c.toNat

/-- The characters a domain name stands for, unless one is refused. -/
def mapped? : List Char → Option (List Char)
  | [] => some []
  | c :: cs =>
    match fate c with
    | .kept => (mapped? cs).map (c :: ·)
    | .dropped => mapped? cs
    | .refused => none
    | .replaced codes => (mapped? cs).map (codes.map Char.ofNat ++ ·)

end Estate.Domain
