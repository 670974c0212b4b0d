import Estate.Text.Decomposition

/-!
The places in a domain name where the invisible joiners may stand.
-/

namespace Estate.Domain

/-- On which sides a letter is joined to its neighbours. -/
inductive JoiningType where
  /-- On neither. -/
  | u
  /-- On the left. -/
  | l
  /-- On the right. -/
  | r
  /-- On both. -/
  | d
  /-- On both, without a shape of its own. -/
  | c
  /-- Not at all: letters are joined across it. -/
  | t
deriving DecidableEq

set_option maxRecDepth 20000 in
/-- The joining types of all code points. -/
def joiningRuns : Text.Runs JoiningType :=
  List.flatten [
    [(0x0, .u), (0xad, .t), (0xae, .u), (0x300, .t), (0x370, .u), (0x483, .t), (0x48a, .u),
     (0x591, .t), (0x5be, .u), (0x5bf, .t), (0x5c0, .u), (0x5c1, .t), (0x5c3, .u), (0x5c4, .t),
     (0x5c6, .u), (0x5c7, .t), (0x5c8, .u), (0x610, .t), (0x61b, .u), (0x61c, .t), (0x61d, .u),
     (0x620, .d), (0x621, .u), (0x622, .r), (0x626, .d), (0x627, .r), (0x628, .d), (0x629, .r),
     (0x62a, .d), (0x62f, .r), (0x633, .d), (0x640, .c), (0x641, .d), (0x648, .r), (0x649, .d),
     (0x64b, .t), (0x660, .u), (0x66e, .d), (0x670, .t), (0x671, .r), (0x674, .u), (0x675, .r),
     (0x678, .d), (0x688, .r), (0x69a, .d), (0x6c0, .r), (0x6c1, .d), (0x6c3, .r), (0x6cc, .d),
     (0x6cd, .r), (0x6ce, .d), (0x6cf, .r), (0x6d0, .d), (0x6d2, .r), (0x6d4, .u), (0x6d5, .r),
     (0x6d6, .t), (0x6dd, .u), (0x6df, .t), (0x6e5, .u)],
    [(0x6e7, .t), (0x6e9, .u), (0x6ea, .t), (0x6ee, .r), (0x6f0, .u), (0x6fa, .d), (0x6fd, .u),
     (0x6ff, .d), (0x700, .u), (0x70f, .t), (0x710, .r), (0x711, .t), (0x712, .d), (0x715, .r),
     (0x71a, .d), (0x71e, .r), (0x71f, .d), (0x728, .r), (0x729, .d), (0x72a, .r), (0x72b, .d),
     (0x72c, .r), (0x72d, .d), (0x72f, .r), (0x730, .t), (0x74b, .u), (0x74d, .r), (0x74e, .d),
     (0x759, .r), (0x75c, .d), (0x76b, .r), (0x76d, .d), (0x771, .r), (0x772, .d), (0x773, .r),
     (0x775, .d), (0x778, .r), (0x77a, .d), (0x780, .u), (0x7a6, .t), (0x7b1, .u), (0x7ca, .d),
     (0x7eb, .t), (0x7f4, .u), (0x7fa, .c), (0x7fb, .u), (0x7fd, .t), (0x7fe, .u), (0x816, .t),
     (0x81a, .u), (0x81b, .t), (0x824, .u), (0x825, .t), (0x828, .u), (0x829, .t), (0x82e, .u),
     (0x840, .r), (0x841, .d), (0x846, .r), (0x848, .d)],
    [(0x849, .r), (0x84a, .d), (0x854, .r), (0x855, .d), (0x856, .r), (0x859, .t), (0x85c, .u),
     (0x860, .d), (0x861, .u), (0x862, .d), (0x866, .u), (0x867, .r), (0x868, .d), (0x869, .r),
     (0x86b, .u), (0x870, .r), (0x883, .c), (0x886, .d), (0x887, .u), (0x889, .d), (0x88e, .r),
     (0x88f, .u), (0x898, .t), (0x8a0, .d), (0x8aa, .r), (0x8ad, .u), (0x8ae, .r), (0x8af, .d),
     (0x8b1, .r), (0x8b3, .d), (0x8b9, .r), (0x8ba, .d), (0x8c9, .u), (0x8ca, .t), (0x8e2, .u),
     (0x8e3, .t), (0x903, .u), (0x93a, .t), (0x93b, .u), (0x93c, .t), (0x93d, .u), (0x941, .t),
     (0x949, .u), (0x94d, .t), (0x94e, .u), (0x951, .t), (0x958, .u), (0x962, .t), (0x964, .u),
     (0x981, .t), (0x982, .u), (0x9bc, .t), (0x9bd, .u), (0x9c1, .t), (0x9c5, .u), (0x9cd, .t),
     (0x9ce, .u), (0x9e2, .t), (0x9e4, .u), (0x9fe, .t)],
    [(0x9ff, .u), (0xa01, .t), (0xa03, .u), (0xa3c, .t), (0xa3d, .u), (0xa41, .t), (0xa43, .u),
     (0xa47, .t), (0xa49, .u), (0xa4b, .t), (0xa4e, .u), (0xa51, .t), (0xa52, .u), (0xa70, .t),
     (0xa72, .u), (0xa75, .t), (0xa76, .u), (0xa81, .t), (0xa83, .u), (0xabc, .t), (0xabd, .u),
     (0xac1, .t), (0xac6, .u), (0xac7, .t), (0xac9, .u), (0xacd, .t), (0xace, .u), (0xae2, .t),
     (0xae4, .u), (0xafa, .t), (0xb00, .u), (0xb01, .t), (0xb02, .u), (0xb3c, .t), (0xb3d, .u),
     (0xb3f, .t), (0xb40, .u), (0xb41, .t), (0xb45, .u), (0xb4d, .t), (0xb4e, .u), (0xb55, .t),
     (0xb57, .u), (0xb62, .t), (0xb64, .u), (0xb82, .t), (0xb83, .u), (0xbc0, .t), (0xbc1, .u),
     (0xbcd, .t), (0xbce, .u), (0xc00, .t), (0xc01, .u), (0xc04, .t), (0xc05, .u), (0xc3c, .t),
     (0xc3d, .u), (0xc3e, .t), (0xc41, .u), (0xc46, .t)],
    [(0xc49, .u), (0xc4a, .t), (0xc4e, .u), (0xc55, .t), (0xc57, .u), (0xc62, .t), (0xc64, .u),
     (0xc81, .t), (0xc82, .u), (0xcbc, .t), (0xcbd, .u), (0xcbf, .t), (0xcc0, .u), (0xcc6, .t),
     (0xcc7, .u), (0xccc, .t), (0xcce, .u), (0xce2, .t), (0xce4, .u), (0xd00, .t), (0xd02, .u),
     (0xd3b, .t), (0xd3d, .u), (0xd41, .t), (0xd45, .u), (0xd4d, .t), (0xd4e, .u), (0xd62, .t),
     (0xd64, .u), (0xd81, .t), (0xd82, .u), (0xdca, .t), (0xdcb, .u), (0xdd2, .t), (0xdd5, .u),
     (0xdd6, .t), (0xdd7, .u), (0xe31, .t), (0xe32, .u), (0xe34, .t), (0xe3b, .u), (0xe47, .t),
     (0xe4f, .u), (0xeb1, .t), (0xeb2, .u), (0xeb4, .t), (0xebd, .u), (0xec8, .t), (0xecf, .u),
     (0xf18, .t), (0xf1a, .u), (0xf35, .t), (0xf36, .u), (0xf37, .t), (0xf38, .u), (0xf39, .t),
     (0xf3a, .u), (0xf71, .t), (0xf7f, .u), (0xf80, .t)],
    [(0xf85, .u), (0xf86, .t), (0xf88, .u), (0xf8d, .t), (0xf98, .u), (0xf99, .t), (0xfbd, .u),
     (0xfc6, .t), (0xfc7, .u), (0x102d, .t), (0x1031, .u), (0x1032, .t), (0x1038, .u),
     (0x1039, .t), (0x103b, .u), (0x103d, .t), (0x103f, .u), (0x1058, .t), (0x105a, .u),
     (0x105e, .t), (0x1061, .u), (0x1071, .t), (0x1075, .u), (0x1082, .t), (0x1083, .u),
     (0x1085, .t), (0x1087, .u), (0x108d, .t), (0x108e, .u), (0x109d, .t), (0x109e, .u),
     (0x135d, .t), (0x1360, .u), (0x1712, .t), (0x1715, .u), (0x1732, .t), (0x1734, .u),
     (0x1752, .t), (0x1754, .u), (0x1772, .t), (0x1774, .u), (0x17b4, .t), (0x17b6, .u),
     (0x17b7, .t), (0x17be, .u), (0x17c6, .t), (0x17c7, .u), (0x17c9, .t), (0x17d4, .u),
     (0x17dd, .t), (0x17de, .u), (0x1807, .d), (0x1808, .u), (0x180a, .c), (0x180b, .t),
     (0x180e, .u), (0x180f, .t), (0x1810, .u), (0x1820, .d), (0x1879, .u)],
    [(0x1885, .t), (0x1887, .d), (0x18a9, .t), (0x18aa, .d), (0x18ab, .u), (0x1920, .t),
     (0x1923, .u), (0x1927, .t), (0x1929, .u), (0x1932, .t), (0x1933, .u), (0x1939, .t),
     (0x193c, .u), (0x1a17, .t), (0x1a19, .u), (0x1a1b, .t), (0x1a1c, .u), (0x1a56, .t),
     (0x1a57, .u), (0x1a58, .t), (0x1a5f, .u), (0x1a60, .t), (0x1a61, .u), (0x1a62, .t),
     (0x1a63, .u), (0x1a65, .t), (0x1a6d, .u), (0x1a73, .t), (0x1a7d, .u), (0x1a7f, .t),
     (0x1a80, .u), (0x1ab0, .t), (0x1acf, .u), (0x1b00, .t), (0x1b04, .u), (0x1b34, .t),
     (0x1b35, .u), (0x1b36, .t), (0x1b3b, .u), (0x1b3c, .t), (0x1b3d, .u), (0x1b42, .t),
     (0x1b43, .u), (0x1b6b, .t), (0x1b74, .u), (0x1b80, .t), (0x1b82, .u), (0x1ba2, .t),
     (0x1ba6, .u), (0x1ba8, .t), (0x1baa, .u), (0x1bab, .t), (0x1bae, .u), (0x1be6, .t),
     (0x1be7, .u), (0x1be8, .t), (0x1bea, .u), (0x1bed, .t), (0x1bee, .u), (0x1bef, .t)],
    [(0x1bf2, .u), (0x1c2c, .t), (0x1c34, .u), (0x1c36, .t), (0x1c38, .u), (0x1cd0, .t),
     (0x1cd3, .u), (0x1cd4, .t), (0x1ce1, .u), (0x1ce2, .t), (0x1ce9, .u), (0x1ced, .t),
     (0x1cee, .u), (0x1cf4, .t), (0x1cf5, .u), (0x1cf8, .t), (0x1cfa, .u), (0x1dc0, .t),
     (0x1e00, .u), (0x200b, .t), (0x200c, .u), (0x200d, .c), (0x200e, .t), (0x2010, .u),
     (0x202a, .t), (0x202f, .u), (0x2060, .t), (0x2065, .u), (0x206a, .t), (0x2070, .u),
     (0x20d0, .t), (0x20f1, .u), (0x2cef, .t), (0x2cf2, .u), (0x2d7f, .t), (0x2d80, .u),
     (0x2de0, .t), (0x2e00, .u), (0x302a, .t), (0x302e, .u), (0x3099, .t), (0x309b, .u),
     (0xa66f, .t), (0xa673, .u), (0xa674, .t), (0xa67e, .u), (0xa69e, .t), (0xa6a0, .u),
     (0xa6f0, .t), (0xa6f2, .u), (0xa802, .t), (0xa803, .u), (0xa806, .t), (0xa807, .u),
     (0xa80b, .t), (0xa80c, .u), (0xa825, .t), (0xa827, .u), (0xa82c, .t), (0xa82d, .u)],
    [(0xa840, .d), (0xa872, .l), (0xa873, .u), (0xa8c4, .t), (0xa8c6, .u), (0xa8e0, .t),
     (0xa8f2, .u), (0xa8ff, .t), (0xa900, .u), (0xa926, .t), (0xa92e, .u), (0xa947, .t),
     (0xa952, .u), (0xa980, .t), (0xa983, .u), (0xa9b3, .t), (0xa9b4, .u), (0xa9b6, .t),
     (0xa9ba, .u), (0xa9bc, .t), (0xa9be, .u), (0xa9e5, .t), (0xa9e6, .u), (0xaa29, .t),
     (0xaa2f, .u), (0xaa31, .t), (0xaa33, .u), (0xaa35, .t), (0xaa37, .u), (0xaa43, .t),
     (0xaa44, .u), (0xaa4c, .t), (0xaa4d, .u), (0xaa7c, .t), (0xaa7d, .u), (0xaab0, .t),
     (0xaab1, .u), (0xaab2, .t), (0xaab5, .u), (0xaab7, .t), (0xaab9, .u), (0xaabe, .t),
     (0xaac0, .u), (0xaac1, .t), (0xaac2, .u), (0xaaec, .t), (0xaaee, .u), (0xaaf6, .t),
     (0xaaf7, .u), (0xabe5, .t), (0xabe6, .u), (0xabe8, .t), (0xabe9, .u), (0xabed, .t),
     (0xabee, .u), (0xfb1e, .t), (0xfb1f, .u), (0xfe00, .t), (0xfe10, .u), (0xfe20, .t)],
    [(0xfe30, .u), (0xfeff, .t), (0xff00, .u), (0xfff9, .t), (0xfffc, .u), (0x101fd, .t),
     (0x101fe, .u), (0x102e0, .t), (0x102e1, .u), (0x10376, .t), (0x1037b, .u), (0x10a01, .t),
     (0x10a04, .u), (0x10a05, .t), (0x10a07, .u), (0x10a0c, .t), (0x10a10, .u), (0x10a38, .t),
     (0x10a3b, .u), (0x10a3f, .t), (0x10a40, .u), (0x10ac0, .d), (0x10ac5, .r), (0x10ac6, .u),
     (0x10ac7, .r), (0x10ac8, .u), (0x10ac9, .r), (0x10acb, .u), (0x10acd, .l), (0x10ace, .r),
     (0x10ad3, .d), (0x10ad7, .l), (0x10ad8, .d), (0x10add, .r), (0x10ade, .d), (0x10ae1, .r),
     (0x10ae2, .u), (0x10ae4, .r), (0x10ae5, .t), (0x10ae7, .u), (0x10aeb, .d), (0x10aef, .r),
     (0x10af0, .u), (0x10b80, .d), (0x10b81, .r), (0x10b82, .d), (0x10b83, .r), (0x10b86, .d),
     (0x10b89, .r), (0x10b8a, .d), (0x10b8c, .r), (0x10b8d, .d), (0x10b8e, .r), (0x10b90, .d),
     (0x10b91, .r), (0x10b92, .u), (0x10ba9, .r), (0x10bad, .d), (0x10baf, .u), (0x10d00, .l)],
    [(0x10d01, .d), (0x10d22, .r), (0x10d23, .d), (0x10d24, .t), (0x10d28, .u), (0x10eab, .t),
     (0x10ead, .u), (0x10efd, .t), (0x10f00, .u), (0x10f30, .d), (0x10f33, .r), (0x10f34, .d),
     (0x10f45, .u), (0x10f46, .t), (0x10f51, .d), (0x10f54, .r), (0x10f55, .u), (0x10f70, .d),
     (0x10f74, .r), (0x10f76, .d), (0x10f82, .t), (0x10f86, .u), (0x10fb0, .d), (0x10fb1, .u),
     (0x10fb2, .d), (0x10fb4, .r), (0x10fb7, .u), (0x10fb8, .d), (0x10fb9, .r), (0x10fbb, .d),
     (0x10fbd, .r), (0x10fbe, .d), (0x10fc0, .u), (0x10fc1, .d), (0x10fc2, .r), (0x10fc4, .d),
     (0x10fc5, .u), (0x10fc9, .r), (0x10fca, .d), (0x10fcb, .l), (0x10fcc, .u), (0x11001, .t),
     (0x11002, .u), (0x11038, .t), (0x11047, .u), (0x11070, .t), (0x11071, .u), (0x11073, .t),
     (0x11075, .u), (0x1107f, .t), (0x11082, .u), (0x110b3, .t), (0x110b7, .u), (0x110b9, .t),
     (0x110bb, .u), (0x110c2, .t), (0x110c3, .u), (0x11100, .t), (0x11103, .u), (0x11127, .t)],
    [(0x1112c, .u), (0x1112d, .t), (0x11135, .u), (0x11173, .t), (0x11174, .u), (0x11180, .t),
     (0x11182, .u), (0x111b6, .t), (0x111bf, .u), (0x111c9, .t), (0x111cd, .u), (0x111cf, .t),
     (0x111d0, .u), (0x1122f, .t), (0x11232, .u), (0x11234, .t), (0x11235, .u), (0x11236, .t),
     (0x11238, .u), (0x1123e, .t), (0x1123f, .u), (0x11241, .t), (0x11242, .u), (0x112df, .t),
     (0x112e0, .u), (0x112e3, .t), (0x112eb, .u), (0x11300, .t), (0x11302, .u), (0x1133b, .t),
     (0x1133d, .u), (0x11340, .t), (0x11341, .u), (0x11366, .t), (0x1136d, .u), (0x11370, .t),
     (0x11375, .u), (0x11438, .t), (0x11440, .u), (0x11442, .t), (0x11445, .u), (0x11446, .t),
     (0x11447, .u), (0x1145e, .t), (0x1145f, .u), (0x114b3, .t), (0x114b9, .u), (0x114ba, .t),
     (0x114bb, .u), (0x114bf, .t), (0x114c1, .u), (0x114c2, .t), (0x114c4, .u), (0x115b2, .t),
     (0x115b6, .u), (0x115bc, .t), (0x115be, .u), (0x115bf, .t), (0x115c1, .u), (0x115dc, .t)],
    [(0x115de, .u), (0x11633, .t), (0x1163b, .u), (0x1163d, .t), (0x1163e, .u), (0x1163f, .t),
     (0x11641, .u), (0x116ab, .t), (0x116ac, .u), (0x116ad, .t), (0x116ae, .u), (0x116b0, .t),
     (0x116b6, .u), (0x116b7, .t), (0x116b8, .u), (0x1171d, .t), (0x11720, .u), (0x11722, .t),
     (0x11726, .u), (0x11727, .t), (0x1172c, .u), (0x1182f, .t), (0x11838, .u), (0x11839, .t),
     (0x1183b, .u), (0x1193b, .t), (0x1193d, .u), (0x1193e, .t), (0x1193f, .u), (0x11943, .t),
     (0x11944, .u), (0x119d4, .t), (0x119d8, .u), (0x119da, .t), (0x119dc, .u), (0x119e0, .t),
     (0x119e1, .u), (0x11a01, .t), (0x11a0b, .u), (0x11a33, .t), (0x11a39, .u), (0x11a3b, .t),
     (0x11a3f, .u), (0x11a47, .t), (0x11a48, .u), (0x11a51, .t), (0x11a57, .u), (0x11a59, .t),
     (0x11a5c, .u), (0x11a8a, .t), (0x11a97, .u), (0x11a98, .t), (0x11a9a, .u), (0x11c30, .t),
     (0x11c37, .u), (0x11c38, .t), (0x11c3e, .u), (0x11c3f, .t), (0x11c40, .u), (0x11c92, .t)],
    [(0x11ca8, .u), (0x11caa, .t), (0x11cb1, .u), (0x11cb2, .t), (0x11cb4, .u), (0x11cb5, .t),
     (0x11cb7, .u), (0x11d31, .t), (0x11d37, .u), (0x11d3a, .t), (0x11d3b, .u), (0x11d3c, .t),
     (0x11d3e, .u), (0x11d3f, .t), (0x11d46, .u), (0x11d47, .t), (0x11d48, .u), (0x11d90, .t),
     (0x11d92, .u), (0x11d95, .t), (0x11d96, .u), (0x11d97, .t), (0x11d98, .u), (0x11ef3, .t),
     (0x11ef5, .u), (0x11f00, .t), (0x11f02, .u), (0x11f36, .t), (0x11f3b, .u), (0x11f40, .t),
     (0x11f41, .u), (0x11f42, .t), (0x11f43, .u), (0x13430, .t), (0x13441, .u), (0x13447, .t),
     (0x13456, .u), (0x16af0, .t), (0x16af5, .u), (0x16b30, .t), (0x16b37, .u), (0x16f4f, .t),
     (0x16f50, .u), (0x16f8f, .t), (0x16f93, .u), (0x16fe4, .t), (0x16fe5, .u), (0x1bc9d, .t),
     (0x1bc9f, .u), (0x1bca0, .t), (0x1bca4, .u), (0x1cf00, .t), (0x1cf2e, .u), (0x1cf30, .t),
     (0x1cf47, .u), (0x1d167, .t), (0x1d16a, .u), (0x1d173, .t), (0x1d183, .u), (0x1d185, .t)],
    [(0x1d18c, .u), (0x1d1aa, .t), (0x1d1ae, .u), (0x1d242, .t), (0x1d245, .u), (0x1da00, .t),
     (0x1da37, .u), (0x1da3b, .t), (0x1da6d, .u), (0x1da75, .t), (0x1da76, .u), (0x1da84, .t),
     (0x1da85, .u), (0x1da9b, .t), (0x1daa0, .u), (0x1daa1, .t), (0x1dab0, .u), (0x1e000, .t),
     (0x1e007, .u), (0x1e008, .t), (0x1e019, .u), (0x1e01b, .t), (0x1e022, .u), (0x1e023, .t),
     (0x1e025, .u), (0x1e026, .t), (0x1e02b, .u), (0x1e08f, .t), (0x1e090, .u), (0x1e130, .t),
     (0x1e137, .u), (0x1e2ae, .t), (0x1e2af, .u), (0x1e2ec, .t), (0x1e2f0, .u), (0x1e4ec, .t),
     (0x1e4f0, .u), (0x1e8d0, .t), (0x1e8d7, .u), (0x1e900, .d), (0x1e944, .t), (0x1e94c, .u),
     (0xe0001, .t), (0xe0002, .u), (0xe0020, .t), (0xe0080, .u), (0xe0100, .t), (0xe01f0, .u)]]

def joining (c : Char) : JoiningType := Text.Runs.at .u joiningRuns c.toNat

def isJoiner (c : Char) : Bool := c == '\u200c' || c == '\u200d'

/-- The first character that is not transparent has one of the joining types. -/
def joinsWith (types : List JoiningType) (cs : List Char) : Bool :=
  (cs.find? fun c => joining c != .t).any fun c => types.contains (joining c)

/-- Both joiners may follow a virama; the one that parts letters may also stand between two letters
that would be joined. The first list holds the characters before, the nearest first. -/
def joinersFit (before : List Char) : List Char → Bool
  | [] => true
  | c :: cs =>
    let fits := !isJoiner c || before.head?.any (Text.combiningClass · == 9) ||
      (c == '\u200c' && joinsWith [.l, .d] before && joinsWith [.r, .d] cs)
    fits && joinersFit (c :: before) cs

end Estate.Domain
