import Estate.Text.Table

/-!
Writing direction in domain names. In a name with a character that is written from right to left,
each label must keep to one direction.
-/

namespace Estate.Domain

/-- Classes of characters by their direction. -/
inductive Direction where
  /-- Letters from left to right. -/
  | l
  /-- Letters from right to left. -/
  | r
  /-- Arabic letters. -/
  | al
  /-- Arabic digits. -/
  | an
  /-- European digits. -/
  | en
  /-- Signs between European digits. -/
  | es
  /-- Signs between digits of both kinds. -/
  | cs
  /-- Signs behind European digits. -/
  | et
  /-- Other neutral characters. -/
  | on
  /-- Characters without effect. -/
  | bn
  /-- Marks. -/
  | nsm
  /-- Blanks, and marks of embeddings, which have no place in names. -/
  | other
deriving DecidableEq

set_option maxRecDepth 20000 in
/-- The directions of all code points. -/
def directionRuns : Text.Runs Direction :=
  List.flatten [
    [(0x0, .bn), (0x9, .other), (0xe, .bn), (0x1c, .other), (0x21, .on), (0x23, .et), (0x26, .on),
     (0x2b, .es), (0x2c, .cs), (0x2d, .es), (0x2e, .cs), (0x30, .en), (0x3a, .cs), (0x3b, .on),
     (0x41, .l), (0x5b, .on), (0x61, .l), (0x7b, .on), (0x7f, .bn), (0x85, .other), (0x86, .bn),
     (0xa0, .cs), (0xa1, .on), (0xa2, .et), (0xa6, .on), (0xaa, .l), (0xab, .on), (0xad, .bn),
     (0xae, .on), (0xb0, .et), (0xb2, .en), (0xb4, .on), (0xb5, .l), (0xb6, .on), (0xb9, .en),
     (0xba, .l), (0xbb, .on), (0xc0, .l), (0xd7, .on), (0xd8, .l), (0xf7, .on), (0xf8, .l),
     (0x2b9, .on), (0x2bb, .l), (0x2c2, .on), (0x2d0, .l), (0x2d2, .on), (0x2e0, .l), (0x2e5, .on),
     (0x2ee, .l), (0x2ef, .on), (0x300, .nsm), (0x370, .l), (0x374, .on), (0x376, .l),
     (0x37e, .on), (0x37f, .l), (0x384, .on), (0x386, .l), (0x387, .on)],
    [(0x388, .l), (0x3f6, .on), (0x3f7, .l), (0x483, .nsm), (0x48a, .l), (0x58a, .on), (0x58b, .l),
     (0x58d, .on), (0x58f, .et), (0x590, .r), (0x591, .nsm), (0x5be, .r), (0x5bf, .nsm),
     (0x5c0, .r), (0x5c1, .nsm), (0x5c3, .r), (0x5c4, .nsm), (0x5c6, .r), (0x5c7, .nsm),
     (0x5c8, .r), (0x600, .an), (0x606, .on), (0x608, .al), (0x609, .et), (0x60b, .al),
     (0x60c, .cs), (0x60d, .al), (0x60e, .on), (0x610, .nsm), (0x61b, .al), (0x64b, .nsm),
     (0x660, .an), (0x66a, .et), (0x66b, .an), (0x66d, .al), (0x670, .nsm), (0x671, .al),
     (0x6d6, .nsm), (0x6dd, .an), (0x6de, .on), (0x6df, .nsm), (0x6e5, .al), (0x6e7, .nsm),
     (0x6e9, .on), (0x6ea, .nsm), (0x6ee, .al), (0x6f0, .en), (0x6fa, .al), (0x711, .nsm),
     (0x712, .al), (0x730, .nsm), (0x74b, .al), (0x7a6, .nsm), (0x7b1, .al), (0x7c0, .r),
     (0x7eb, .nsm), (0x7f4, .r), (0x7f6, .on), (0x7fa, .r), (0x7fd, .nsm)],
    [(0x7fe, .r), (0x816, .nsm), (0x81a, .r), (0x81b, .nsm), (0x824, .r), (0x825, .nsm),
     (0x828, .r), (0x829, .nsm), (0x82e, .r), (0x859, .nsm), (0x85c, .r), (0x860, .al),
     (0x890, .an), (0x892, .al), (0x898, .nsm), (0x8a0, .al), (0x8ca, .nsm), (0x8e2, .an),
     (0x8e3, .nsm), (0x903, .l), (0x93a, .nsm), (0x93b, .l), (0x93c, .nsm), (0x93d, .l),
     (0x941, .nsm), (0x949, .l), (0x94d, .nsm), (0x94e, .l), (0x951, .nsm), (0x958, .l),
     (0x962, .nsm), (0x964, .l), (0x981, .nsm), (0x982, .l), (0x9bc, .nsm), (0x9bd, .l),
     (0x9c1, .nsm), (0x9c5, .l), (0x9cd, .nsm), (0x9ce, .l), (0x9e2, .nsm), (0x9e4, .l),
     (0x9f2, .et), (0x9f4, .l), (0x9fb, .et), (0x9fc, .l), (0x9fe, .nsm), (0x9ff, .l),
     (0xa01, .nsm), (0xa03, .l), (0xa3c, .nsm), (0xa3d, .l), (0xa41, .nsm), (0xa43, .l),
     (0xa47, .nsm), (0xa49, .l), (0xa4b, .nsm), (0xa4e, .l), (0xa51, .nsm), (0xa52, .l)],
    [(0xa70, .nsm), (0xa72, .l), (0xa75, .nsm), (0xa76, .l), (0xa81, .nsm), (0xa83, .l),
     (0xabc, .nsm), (0xabd, .l), (0xac1, .nsm), (0xac6, .l), (0xac7, .nsm), (0xac9, .l),
     (0xacd, .nsm), (0xace, .l), (0xae2, .nsm), (0xae4, .l), (0xaf1, .et), (0xaf2, .l),
     (0xafa, .nsm), (0xb00, .l), (0xb01, .nsm), (0xb02, .l), (0xb3c, .nsm), (0xb3d, .l),
     (0xb3f, .nsm), (0xb40, .l), (0xb41, .nsm), (0xb45, .l), (0xb4d, .nsm), (0xb4e, .l),
     (0xb55, .nsm), (0xb57, .l), (0xb62, .nsm), (0xb64, .l), (0xb82, .nsm), (0xb83, .l),
     (0xbc0, .nsm), (0xbc1, .l), (0xbcd, .nsm), (0xbce, .l), (0xbf3, .on), (0xbf9, .et),
     (0xbfa, .on), (0xbfb, .l), (0xc00, .nsm), (0xc01, .l), (0xc04, .nsm), (0xc05, .l),
     (0xc3c, .nsm), (0xc3d, .l), (0xc3e, .nsm), (0xc41, .l), (0xc46, .nsm), (0xc49, .l),
     (0xc4a, .nsm), (0xc4e, .l), (0xc55, .nsm), (0xc57, .l), (0xc62, .nsm), (0xc64, .l)],
    [(0xc78, .on), (0xc7f, .l), (0xc81, .nsm), (0xc82, .l), (0xcbc, .nsm), (0xcbd, .l),
     (0xccc, .nsm), (0xcce, .l), (0xce2, .nsm), (0xce4, .l), (0xd00, .nsm), (0xd02, .l),
     (0xd3b, .nsm), (0xd3d, .l), (0xd41, .nsm), (0xd45, .l), (0xd4d, .nsm), (0xd4e, .l),
     (0xd62, .nsm), (0xd64, .l), (0xd81, .nsm), (0xd82, .l), (0xdca, .nsm), (0xdcb, .l),
     (0xdd2, .nsm), (0xdd5, .l), (0xdd6, .nsm), (0xdd7, .l), (0xe31, .nsm), (0xe32, .l),
     (0xe34, .nsm), (0xe3b, .l), (0xe3f, .et), (0xe40, .l), (0xe47, .nsm), (0xe4f, .l),
     (0xeb1, .nsm), (0xeb2, .l), (0xeb4, .nsm), (0xebd, .l), (0xec8, .nsm), (0xecf, .l),
     (0xf18, .nsm), (0xf1a, .l), (0xf35, .nsm), (0xf36, .l), (0xf37, .nsm), (0xf38, .l),
     (0xf39, .nsm), (0xf3a, .on), (0xf3e, .l), (0xf71, .nsm), (0xf7f, .l), (0xf80, .nsm),
     (0xf85, .l), (0xf86, .nsm), (0xf88, .l), (0xf8d, .nsm), (0xf98, .l), (0xf99, .nsm)],
    [(0xfbd, .l), (0xfc6, .nsm), (0xfc7, .l), (0x102d, .nsm), (0x1031, .l), (0x1032, .nsm),
     (0x1038, .l), (0x1039, .nsm), (0x103b, .l), (0x103d, .nsm), (0x103f, .l), (0x1058, .nsm),
     (0x105a, .l), (0x105e, .nsm), (0x1061, .l), (0x1071, .nsm), (0x1075, .l), (0x1082, .nsm),
     (0x1083, .l), (0x1085, .nsm), (0x1087, .l), (0x108d, .nsm), (0x108e, .l), (0x109d, .nsm),
     (0x109e, .l), (0x135d, .nsm), (0x1360, .l), (0x1390, .on), (0x139a, .l), (0x1400, .on),
     (0x1401, .l), (0x1680, .other), (0x1681, .l), (0x169b, .on), (0x169d, .l), (0x1712, .nsm),
     (0x1715, .l), (0x1732, .nsm), (0x1734, .l), (0x1752, .nsm), (0x1754, .l), (0x1772, .nsm),
     (0x1774, .l), (0x17b4, .nsm), (0x17b6, .l), (0x17b7, .nsm), (0x17be, .l), (0x17c6, .nsm),
     (0x17c7, .l), (0x17c9, .nsm), (0x17d4, .l), (0x17db, .et), (0x17dc, .l), (0x17dd, .nsm),
     (0x17de, .l), (0x17f0, .on), (0x17fa, .l), (0x1800, .on), (0x180b, .nsm), (0x180e, .bn)],
    [(0x180f, .nsm), (0x1810, .l), (0x1885, .nsm), (0x1887, .l), (0x18a9, .nsm), (0x18aa, .l),
     (0x1920, .nsm), (0x1923, .l), (0x1927, .nsm), (0x1929, .l), (0x1932, .nsm), (0x1933, .l),
     (0x1939, .nsm), (0x193c, .l), (0x1940, .on), (0x1941, .l), (0x1944, .on), (0x1946, .l),
     (0x19de, .on), (0x1a00, .l), (0x1a17, .nsm), (0x1a19, .l), (0x1a1b, .nsm), (0x1a1c, .l),
     (0x1a56, .nsm), (0x1a57, .l), (0x1a58, .nsm), (0x1a5f, .l), (0x1a60, .nsm), (0x1a61, .l),
     (0x1a62, .nsm), (0x1a63, .l), (0x1a65, .nsm), (0x1a6d, .l), (0x1a73, .nsm), (0x1a7d, .l),
     (0x1a7f, .nsm), (0x1a80, .l), (0x1ab0, .nsm), (0x1acf, .l), (0x1b00, .nsm), (0x1b04, .l),
     (0x1b34, .nsm), (0x1b35, .l), (0x1b36, .nsm), (0x1b3b, .l), (0x1b3c, .nsm), (0x1b3d, .l),
     (0x1b42, .nsm), (0x1b43, .l), (0x1b6b, .nsm), (0x1b74, .l), (0x1b80, .nsm), (0x1b82, .l),
     (0x1ba2, .nsm), (0x1ba6, .l), (0x1ba8, .nsm), (0x1baa, .l), (0x1bab, .nsm), (0x1bae, .l)],
    [(0x1be6, .nsm), (0x1be7, .l), (0x1be8, .nsm), (0x1bea, .l), (0x1bed, .nsm), (0x1bee, .l),
     (0x1bef, .nsm), (0x1bf2, .l), (0x1c2c, .nsm), (0x1c34, .l), (0x1c36, .nsm), (0x1c38, .l),
     (0x1cd0, .nsm), (0x1cd3, .l), (0x1cd4, .nsm), (0x1ce1, .l), (0x1ce2, .nsm), (0x1ce9, .l),
     (0x1ced, .nsm), (0x1cee, .l), (0x1cf4, .nsm), (0x1cf5, .l), (0x1cf8, .nsm), (0x1cfa, .l),
     (0x1dc0, .nsm), (0x1e00, .l), (0x1fbd, .on), (0x1fbe, .l), (0x1fbf, .on), (0x1fc2, .l),
     (0x1fcd, .on), (0x1fd0, .l), (0x1fdd, .on), (0x1fe0, .l), (0x1fed, .on), (0x1ff0, .l),
     (0x1ffd, .on), (0x1fff, .l), (0x2000, .other), (0x200b, .bn), (0x200e, .l), (0x200f, .r),
     (0x2010, .on), (0x2028, .other), (0x202f, .cs), (0x2030, .et), (0x2035, .on), (0x2044, .cs),
     (0x2045, .on), (0x205f, .other), (0x2060, .bn), (0x2066, .other), (0x206a, .bn),
     (0x2070, .en), (0x2071, .l), (0x2074, .en), (0x207a, .es), (0x207c, .on), (0x207f, .l),
     (0x2080, .en)],
    [(0x208a, .es), (0x208c, .on), (0x208f, .l), (0x20a0, .et), (0x20d0, .nsm), (0x20f1, .l),
     (0x2100, .on), (0x2102, .l), (0x2103, .on), (0x2107, .l), (0x2108, .on), (0x210a, .l),
     (0x2114, .on), (0x2115, .l), (0x2116, .on), (0x2119, .l), (0x211e, .on), (0x2124, .l),
     (0x2125, .on), (0x2126, .l), (0x2127, .on), (0x2128, .l), (0x2129, .on), (0x212a, .l),
     (0x212e, .et), (0x212f, .l), (0x213a, .on), (0x213c, .l), (0x2140, .on), (0x2145, .l),
     (0x214a, .on), (0x214e, .l), (0x2150, .on), (0x2160, .l), (0x2189, .on), (0x218c, .l),
     (0x2190, .on), (0x2212, .es), (0x2213, .et), (0x2214, .on), (0x2336, .l), (0x237b, .on),
     (0x2395, .l), (0x2396, .on), (0x2427, .l), (0x2440, .on), (0x244b, .l), (0x2460, .on),
     (0x2488, .en), (0x249c, .l), (0x24ea, .on), (0x26ac, .l), (0x26ad, .on), (0x2800, .l),
     (0x2900, .on), (0x2b74, .l), (0x2b76, .on), (0x2b96, .l), (0x2b97, .on), (0x2c00, .l)],
    [(0x2ce5, .on), (0x2ceb, .l), (0x2cef, .nsm), (0x2cf2, .l), (0x2cf9, .on), (0x2d00, .l),
     (0x2d7f, .nsm), (0x2d80, .l), (0x2de0, .nsm), (0x2e00, .on), (0x2e5e, .l), (0x2e80, .on),
     (0x2e9a, .l), (0x2e9b, .on), (0x2ef4, .l), (0x2f00, .on), (0x2fd6, .l), (0x2ff0, .on),
     (0x2ffc, .l), (0x3000, .other), (0x3001, .on), (0x3005, .l), (0x3008, .on), (0x3021, .l),
     (0x302a, .nsm), (0x302e, .l), (0x3030, .on), (0x3031, .l), (0x3036, .on), (0x3038, .l),
     (0x303d, .on), (0x3040, .l), (0x3099, .nsm), (0x309b, .on), (0x309d, .l), (0x30a0, .on),
     (0x30a1, .l), (0x30fb, .on), (0x30fc, .l), (0x31c0, .on), (0x31e4, .l), (0x321d, .on),
     (0x321f, .l), (0x3250, .on), (0x3260, .l), (0x327c, .on), (0x327f, .l), (0x32b1, .on),
     (0x32c0, .l), (0x32cc, .on), (0x32d0, .l), (0x3377, .on), (0x337b, .l), (0x33de, .on),
     (0x33e0, .l), (0x33ff, .on), (0x3400, .l), (0x4dc0, .on), (0x4e00, .l), (0xa490, .on)],
    [(0xa4c7, .l), (0xa60d, .on), (0xa610, .l), (0xa66f, .nsm), (0xa673, .on), (0xa674, .nsm),
     (0xa67e, .on), (0xa680, .l), (0xa69e, .nsm), (0xa6a0, .l), (0xa6f0, .nsm), (0xa6f2, .l),
     (0xa700, .on), (0xa722, .l), (0xa788, .on), (0xa789, .l), (0xa802, .nsm), (0xa803, .l),
     (0xa806, .nsm), (0xa807, .l), (0xa80b, .nsm), (0xa80c, .l), (0xa825, .nsm), (0xa827, .l),
     (0xa828, .on), (0xa82c, .nsm), (0xa82d, .l), (0xa838, .et), (0xa83a, .l), (0xa874, .on),
     (0xa878, .l), (0xa8c4, .nsm), (0xa8c6, .l), (0xa8e0, .nsm), (0xa8f2, .l), (0xa8ff, .nsm),
     (0xa900, .l), (0xa926, .nsm), (0xa92e, .l), (0xa947, .nsm), (0xa952, .l), (0xa980, .nsm),
     (0xa983, .l), (0xa9b3, .nsm), (0xa9b4, .l), (0xa9b6, .nsm), (0xa9ba, .l), (0xa9bc, .nsm),
     (0xa9be, .l), (0xa9e5, .nsm), (0xa9e6, .l), (0xaa29, .nsm), (0xaa2f, .l), (0xaa31, .nsm),
     (0xaa33, .l), (0xaa35, .nsm), (0xaa37, .l), (0xaa43, .nsm), (0xaa44, .l), (0xaa4c, .nsm)],
    [(0xaa4d, .l), (0xaa7c, .nsm), (0xaa7d, .l), (0xaab0, .nsm), (0xaab1, .l), (0xaab2, .nsm),
     (0xaab5, .l), (0xaab7, .nsm), (0xaab9, .l), (0xaabe, .nsm), (0xaac0, .l), (0xaac1, .nsm),
     (0xaac2, .l), (0xaaec, .nsm), (0xaaee, .l), (0xaaf6, .nsm), (0xaaf7, .l), (0xab6a, .on),
     (0xab6c, .l), (0xabe5, .nsm), (0xabe6, .l), (0xabe8, .nsm), (0xabe9, .l), (0xabed, .nsm),
     (0xabee, .l), (0xfb1d, .r), (0xfb1e, .nsm), (0xfb1f, .r), (0xfb29, .es), (0xfb2a, .r),
     (0xfb50, .al), (0xfd3e, .on), (0xfd50, .al), (0xfdcf, .on), (0xfdd0, .bn), (0xfdf0, .al),
     (0xfdfd, .on), (0xfe00, .nsm), (0xfe10, .on), (0xfe1a, .l), (0xfe20, .nsm), (0xfe30, .on),
     (0xfe50, .cs), (0xfe51, .on), (0xfe52, .cs), (0xfe53, .l), (0xfe54, .on), (0xfe55, .cs),
     (0xfe56, .on), (0xfe5f, .et), (0xfe60, .on), (0xfe62, .es), (0xfe64, .on), (0xfe67, .l),
     (0xfe68, .on), (0xfe69, .et), (0xfe6b, .on), (0xfe6c, .l), (0xfe70, .al), (0xfeff, .bn)],
    [(0xff00, .l), (0xff01, .on), (0xff03, .et), (0xff06, .on), (0xff0b, .es), (0xff0c, .cs),
     (0xff0d, .es), (0xff0e, .cs), (0xff10, .en), (0xff1a, .cs), (0xff1b, .on), (0xff21, .l),
     (0xff3b, .on), (0xff41, .l), (0xff5b, .on), (0xff66, .l), (0xffe0, .et), (0xffe2, .on),
     (0xffe5, .et), (0xffe7, .l), (0xffe8, .on), (0xffef, .l), (0xfff0, .bn), (0xfff9, .on),
     (0xfffe, .bn), (0x10000, .l), (0x10101, .on), (0x10102, .l), (0x10140, .on), (0x1018d, .l),
     (0x10190, .on), (0x1019d, .l), (0x101a0, .on), (0x101a1, .l), (0x101fd, .nsm), (0x101fe, .l),
     (0x102e0, .nsm), (0x102e1, .en), (0x102fc, .l), (0x10376, .nsm), (0x1037b, .l), (0x10800, .r),
     (0x1091f, .on), (0x10920, .r), (0x10a01, .nsm), (0x10a04, .r), (0x10a05, .nsm), (0x10a07, .r),
     (0x10a0c, .nsm), (0x10a10, .r), (0x10a38, .nsm), (0x10a3b, .r), (0x10a3f, .nsm),
     (0x10a40, .r), (0x10ae5, .nsm), (0x10ae7, .r), (0x10b39, .on), (0x10b40, .r), (0x10d00, .al),
     (0x10d24, .nsm)],
    [(0x10d28, .al), (0x10d30, .an), (0x10d3a, .al), (0x10d40, .r), (0x10e60, .an), (0x10e7f, .r),
     (0x10eab, .nsm), (0x10ead, .r), (0x10ec0, .al), (0x10efd, .nsm), (0x10f00, .r),
     (0x10f30, .al), (0x10f46, .nsm), (0x10f51, .al), (0x10f70, .r), (0x10f82, .nsm),
     (0x10f86, .r), (0x11000, .l), (0x11001, .nsm), (0x11002, .l), (0x11038, .nsm), (0x11047, .l),
     (0x11052, .on), (0x11066, .l), (0x11070, .nsm), (0x11071, .l), (0x11073, .nsm), (0x11075, .l),
     (0x1107f, .nsm), (0x11082, .l), (0x110b3, .nsm), (0x110b7, .l), (0x110b9, .nsm),
     (0x110bb, .l), (0x110c2, .nsm), (0x110c3, .l), (0x11100, .nsm), (0x11103, .l),
     (0x11127, .nsm), (0x1112c, .l), (0x1112d, .nsm), (0x11135, .l), (0x11173, .nsm),
     (0x11174, .l), (0x11180, .nsm), (0x11182, .l), (0x111b6, .nsm), (0x111bf, .l),
     (0x111c9, .nsm), (0x111cd, .l), (0x111cf, .nsm), (0x111d0, .l), (0x1122f, .nsm),
     (0x11232, .l), (0x11234, .nsm), (0x11235, .l), (0x11236, .nsm), (0x11238, .l),
     (0x1123e, .nsm), (0x1123f, .l)],
    [(0x11241, .nsm), (0x11242, .l), (0x112df, .nsm), (0x112e0, .l), (0x112e3, .nsm),
     (0x112eb, .l), (0x11300, .nsm), (0x11302, .l), (0x1133b, .nsm), (0x1133d, .l),
     (0x11340, .nsm), (0x11341, .l), (0x11366, .nsm), (0x1136d, .l), (0x11370, .nsm),
     (0x11375, .l), (0x11438, .nsm), (0x11440, .l), (0x11442, .nsm), (0x11445, .l),
     (0x11446, .nsm), (0x11447, .l), (0x1145e, .nsm), (0x1145f, .l), (0x114b3, .nsm),
     (0x114b9, .l), (0x114ba, .nsm), (0x114bb, .l), (0x114bf, .nsm), (0x114c1, .l),
     (0x114c2, .nsm), (0x114c4, .l), (0x115b2, .nsm), (0x115b6, .l), (0x115bc, .nsm),
     (0x115be, .l), (0x115bf, .nsm), (0x115c1, .l), (0x115dc, .nsm), (0x115de, .l),
     (0x11633, .nsm), (0x1163b, .l), (0x1163d, .nsm), (0x1163e, .l), (0x1163f, .nsm),
     (0x11641, .l), (0x11660, .on), (0x1166d, .l), (0x116ab, .nsm), (0x116ac, .l), (0x116ad, .nsm),
     (0x116ae, .l), (0x116b0, .nsm), (0x116b6, .l), (0x116b7, .nsm), (0x116b8, .l),
     (0x1171d, .nsm), (0x11720, .l), (0x11722, .nsm), (0x11726, .l)],
    [(0x11727, .nsm), (0x1172c, .l), (0x1182f, .nsm), (0x11838, .l), (0x11839, .nsm),
     (0x1183b, .l), (0x1193b, .nsm), (0x1193d, .l), (0x1193e, .nsm), (0x1193f, .l),
     (0x11943, .nsm), (0x11944, .l), (0x119d4, .nsm), (0x119d8, .l), (0x119da, .nsm),
     (0x119dc, .l), (0x119e0, .nsm), (0x119e1, .l), (0x11a01, .nsm), (0x11a07, .l),
     (0x11a09, .nsm), (0x11a0b, .l), (0x11a33, .nsm), (0x11a39, .l), (0x11a3b, .nsm),
     (0x11a3f, .l), (0x11a47, .nsm), (0x11a48, .l), (0x11a51, .nsm), (0x11a57, .l),
     (0x11a59, .nsm), (0x11a5c, .l), (0x11a8a, .nsm), (0x11a97, .l), (0x11a98, .nsm),
     (0x11a9a, .l), (0x11c30, .nsm), (0x11c37, .l), (0x11c38, .nsm), (0x11c3e, .l),
     (0x11c92, .nsm), (0x11ca8, .l), (0x11caa, .nsm), (0x11cb1, .l), (0x11cb2, .nsm),
     (0x11cb4, .l), (0x11cb5, .nsm), (0x11cb7, .l), (0x11d31, .nsm), (0x11d37, .l),
     (0x11d3a, .nsm), (0x11d3b, .l), (0x11d3c, .nsm), (0x11d3e, .l), (0x11d3f, .nsm),
     (0x11d46, .l), (0x11d47, .nsm), (0x11d48, .l), (0x11d90, .nsm), (0x11d92, .l)],
    [(0x11d95, .nsm), (0x11d96, .l), (0x11d97, .nsm), (0x11d98, .l), (0x11ef3, .nsm),
     (0x11ef5, .l), (0x11f00, .nsm), (0x11f02, .l), (0x11f36, .nsm), (0x11f3b, .l),
     (0x11f40, .nsm), (0x11f41, .l), (0x11f42, .nsm), (0x11f43, .l), (0x11fd5, .on),
     (0x11fdd, .et), (0x11fe1, .on), (0x11ff2, .l), (0x13440, .nsm), (0x13441, .l),
     (0x13447, .nsm), (0x13456, .l), (0x16af0, .nsm), (0x16af5, .l), (0x16b30, .nsm),
     (0x16b37, .l), (0x16f4f, .nsm), (0x16f50, .l), (0x16f8f, .nsm), (0x16f93, .l), (0x16fe2, .on),
     (0x16fe3, .l), (0x16fe4, .nsm), (0x16fe5, .l), (0x1bc9d, .nsm), (0x1bc9f, .l), (0x1bca0, .bn),
     (0x1bca4, .l), (0x1cf00, .nsm), (0x1cf2e, .l), (0x1cf30, .nsm), (0x1cf47, .l),
     (0x1d167, .nsm), (0x1d16a, .l), (0x1d173, .bn), (0x1d17b, .nsm), (0x1d183, .l),
     (0x1d185, .nsm), (0x1d18c, .l), (0x1d1aa, .nsm), (0x1d1ae, .l), (0x1d1e9, .on), (0x1d1eb, .l),
     (0x1d200, .on), (0x1d242, .nsm), (0x1d245, .on), (0x1d246, .l), (0x1d300, .on), (0x1d357, .l),
     (0x1d6db, .on)],
    [(0x1d6dc, .l), (0x1d715, .on), (0x1d716, .l), (0x1d74f, .on), (0x1d750, .l), (0x1d789, .on),
     (0x1d78a, .l), (0x1d7c3, .on), (0x1d7c4, .l), (0x1d7ce, .en), (0x1d800, .l), (0x1da00, .nsm),
     (0x1da37, .l), (0x1da3b, .nsm), (0x1da6d, .l), (0x1da75, .nsm), (0x1da76, .l),
     (0x1da84, .nsm), (0x1da85, .l), (0x1da9b, .nsm), (0x1daa0, .l), (0x1daa1, .nsm),
     (0x1dab0, .l), (0x1e000, .nsm), (0x1e007, .l), (0x1e008, .nsm), (0x1e019, .l),
     (0x1e01b, .nsm), (0x1e022, .l), (0x1e023, .nsm), (0x1e025, .l), (0x1e026, .nsm),
     (0x1e02b, .l), (0x1e08f, .nsm), (0x1e090, .l), (0x1e130, .nsm), (0x1e137, .l),
     (0x1e2ae, .nsm), (0x1e2af, .l), (0x1e2ec, .nsm), (0x1e2f0, .l), (0x1e2ff, .et), (0x1e300, .l),
     (0x1e4ec, .nsm), (0x1e4f0, .l), (0x1e800, .r), (0x1e8d0, .nsm), (0x1e8d7, .r),
     (0x1e944, .nsm), (0x1e94b, .r), (0x1ec70, .al), (0x1ecc0, .r), (0x1ed00, .al), (0x1ed50, .r),
     (0x1ee00, .al), (0x1eef0, .on), (0x1eef2, .al), (0x1ef00, .r), (0x1f000, .on), (0x1f02c, .l)],
    [(0x1f030, .on), (0x1f094, .l), (0x1f0a0, .on), (0x1f0af, .l), (0x1f0b1, .on), (0x1f0c0, .l),
     (0x1f0c1, .on), (0x1f0d0, .l), (0x1f0d1, .on), (0x1f0f6, .l), (0x1f100, .en), (0x1f10b, .on),
     (0x1f110, .l), (0x1f12f, .on), (0x1f130, .l), (0x1f16a, .on), (0x1f170, .l), (0x1f1ad, .on),
     (0x1f1ae, .l), (0x1f260, .on), (0x1f266, .l), (0x1f300, .on), (0x1f6d8, .l), (0x1f6dc, .on),
     (0x1f6ed, .l), (0x1f6f0, .on), (0x1f6fd, .l), (0x1f700, .on), (0x1f777, .l), (0x1f77b, .on),
     (0x1f7da, .l), (0x1f7e0, .on), (0x1f7ec, .l), (0x1f7f0, .on), (0x1f7f1, .l), (0x1f800, .on),
     (0x1f80c, .l), (0x1f810, .on), (0x1f848, .l), (0x1f850, .on), (0x1f85a, .l), (0x1f860, .on),
     (0x1f888, .l), (0x1f890, .on), (0x1f8ae, .l), (0x1f8b0, .on), (0x1f8b2, .l), (0x1f900, .on),
     (0x1fa54, .l), (0x1fa60, .on), (0x1fa6e, .l), (0x1fa70, .on), (0x1fa7d, .l), (0x1fa80, .on),
     (0x1fa89, .l), (0x1fa90, .on), (0x1fabe, .l), (0x1fabf, .on), (0x1fac6, .l), (0x1face, .on)],
    [(0x1fadc, .l), (0x1fae0, .on), (0x1fae9, .l), (0x1faf0, .on), (0x1faf9, .l), (0x1fb00, .on),
     (0x1fb93, .l), (0x1fb94, .on), (0x1fbcb, .l), (0x1fbf0, .en), (0x1fbfa, .l), (0x1fffe, .bn),
     (0x20000, .l), (0x2fffe, .bn), (0x30000, .l), (0x3fffe, .bn), (0x40000, .l), (0x4fffe, .bn),
     (0x50000, .l), (0x5fffe, .bn), (0x60000, .l), (0x6fffe, .bn), (0x70000, .l), (0x7fffe, .bn),
     (0x80000, .l), (0x8fffe, .bn), (0x90000, .l), (0x9fffe, .bn), (0xa0000, .l), (0xafffe, .bn),
     (0xb0000, .l), (0xbfffe, .bn), (0xc0000, .l), (0xcfffe, .bn), (0xd0000, .l), (0xdfffe, .bn),
     (0xe0100, .nsm), (0xe01f0, .bn), (0xe1000, .l), (0xefffe, .bn), (0xf0000, .l), (0xffffe, .bn),
     (0x100000, .l), (0x10fffe, .bn)]]

def direction (c : Char) : Direction := Text.Runs.at .other directionRuns c.toNat

def isRightToLeft (c : Char) : Bool := [.r, .al, .an].contains (direction c)

/-- Classes that may stand anywhere in a label of either direction. -/
def neutralDirections : List Direction := [.en, .es, .cs, .et, .on, .bn, .nsm]

/-- The label starts with a letter, keeps to its direction, and ends, marks aside, with a letter or
digit; from right to left it has digits of one kind only. -/
def keepsDirection (label : List Char) : Bool :=
  let classes := label.map direction
  let ending := (classes.reverse.dropWhile (· == .nsm)).head?
  let allIn (allowed : List Direction) : Bool := classes.all allowed.contains
  match classes.head? with
  | none => true
  | some .l => allIn (.l :: neutralDirections) && ending.any [.l, .en].contains
  | some first =>
    (first == .r || first == .al) && allIn ([.r, .al, .an] ++ neutralDirections) &&
      ending.any [.r, .al, .en, .an].contains &&
      !(classes.contains .en && classes.contains .an)

end Estate.Domain
