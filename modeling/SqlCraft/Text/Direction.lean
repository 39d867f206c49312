/-
**Directions of characters in text of mixed direction.**

A character runs from left to right or from right to left by itself, is a number, belongs to the
character before it, takes the direction of the text around it, or separates texts.
-/

import SqlCraft.Text.Mark

namespace SqlCraft.Text

/-- What a character does to the direction of a text. -/
inductive Direction where
  | leftToRight
  | rightToLeft
  | europeanNumber
  | arabicNumber
  /-- A mark, which goes with the character before it. -/
  | nonspacing
  | neutral
  | separator
deriving DecidableEq, Repr

/-- Where runs of characters from right to left start and end; what lies between takes part
nowhere. -/
def rightToLeftChanges : List Nat :=
  [0x5be, 0x600, 0x608, 0x609, 0x60b, 0x60c, 0x60d, 0x60e, 0x61b, 0x660, 0x66d, 0x6dd, 0x6e5,
   0x6e9, 0x6ee, 0x6f0, 0x6fa, 0x7f6, 0x7fa, 0x890, 0x8a0, 0x8e2, 0x200f, 0x2010, 0xfb1d, 0xfb29,
   0xfb2a, 0xfbc3, 0xfbd3, 0xfd3e, 0xfd50, 0xfd90, 0xfd92, 0xfdc8, 0xfdf0, 0xfdfd, 0xfe70, 0xfeff,
   0x10800, 0x1091f, 0x10920, 0x10b39, 0x10b40, 0x10d30, 0x10d40, 0x10d6e, 0x10d6f, 0x10e60,
   0x10e80, 0x10ed0, 0x10f00, 0x11000, 0x1e800, 0x1eef0]

/-- Where runs of digits start and end that are written from left to right in any text. -/
def europeanNumberChanges : List Nat :=
  [0x30, 0x3a, 0xb2, 0xb4, 0xb9, 0xba, 0x6f0, 0x6fa, 0x2070, 0x2071, 0x2074, 0x207a, 0x2080,
   0x208a, 0x2488, 0x249c, 0xff10, 0xff1a, 0x102e1, 0x10300, 0x1d7ce, 0x1d800, 0x1f100, 0x1f10b,
   0x1fbf0, 0x1fbfa]

/-- Where runs of digits start and end that belong to text from right to left. -/
def arabicNumberChanges : List Nat :=
  [0x600, 0x606, 0x660, 0x66a, 0x66b, 0x66d, 0x6dd, 0x6de, 0x890, 0x8a0, 0x8e2, 0x903, 0x10d30,
   0x10d40, 0x10e60, 0x10e80]

/-- Where runs of neutral characters start and end. -/
def neutralChanges : List Nat :=
  [0x0, 0x9, 0xe, 0x1c, 0x21, 0x30, 0x3a, 0x41, 0x5b, 0x61, 0x7b, 0x85, 0x86, 0xaa, 0xab, 0xb2,
   0xb4, 0xb5, 0xb6, 0xb9, 0xbb, 0xc0, 0xd7, 0xd8, 0xf7, 0xf8, 0x2b9, 0x2bb, 0x2c2, 0x2d0, 0x2d2,
   0x2e0, 0x2e5, 0x2ee, 0x2ef, 0x370, 0x374, 0x376, 0x37e, 0x37f, 0x384, 0x386, 0x387, 0x388,
   0x3f6, 0x3f7, 0x58a, 0x5be, 0x606, 0x608, 0x609, 0x60b, 0x60c, 0x60d, 0x60e, 0x61b, 0x66a,
   0x66b, 0x6de, 0x6e5, 0x6e9, 0x6ee, 0x7f6, 0x7fa, 0x9f2, 0x9f4, 0x9fb, 0x9fc, 0xaf1, 0xaf9,
   0xbf3, 0xc01, 0xc78, 0xc7f, 0xe3f, 0xe40, 0xf3a, 0xf3e, 0x1390, 0x13a0, 0x1400, 0x1401, 0x169b,
   0x16a0, 0x17db, 0x17dc, 0x17f0, 0x1810, 0x1940, 0x1946, 0x19de, 0x1a00, 0x1fbd, 0x1fbe, 0x1fbf,
   0x1fc2, 0x1fcd, 0x1fd0, 0x1fdd, 0x1fe0, 0x1fed, 0x1ff2, 0x1ffd, 0x2000, 0x200b, 0x200e, 0x2010,
   0x2028, 0x202f, 0x205f, 0x2060, 0x2066, 0x206a, 0x2070, 0x207a, 0x207f, 0x208a, 0x2090, 0x20a0,
   0x2102, 0x2103, 0x2107, 0x2108, 0x210a, 0x2114, 0x2115, 0x2116, 0x2119, 0x211e, 0x2124, 0x2125,
   0x2126, 0x2127, 0x2128, 0x2129, 0x212a, 0x212e, 0x212f, 0x213a, 0x213c, 0x2140, 0x2145, 0x214a,
   0x214e, 0x2150, 0x2160, 0x2189, 0x2336, 0x237b, 0x2395, 0x2396, 0x2488, 0x24ea, 0x26ac, 0x26ad,
   0x2800, 0x2900, 0x2c00, 0x2ce5, 0x2ceb, 0x2cf9, 0x2d00, 0x2e00, 0x3000, 0x3001, 0x3005, 0x3008,
   0x3021, 0x3030, 0x3031, 0x3036, 0x3038, 0x303d, 0x3041, 0x309b, 0x309d, 0x30a0, 0x30a1, 0x30fb,
   0x30fc, 0x31c0, 0x31f0, 0x321d, 0x3220, 0x3250, 0x3260, 0x327c, 0x327f, 0x32b1, 0x32c0, 0x32cc,
   0x32d0, 0x3377, 0x337b, 0x33de, 0x33e0, 0x33ff, 0x3400, 0x4dc0, 0x4e00, 0xa490, 0xa4d0, 0xa60d,
   0xa610, 0xa673, 0xa680, 0xa700, 0xa722, 0xa788, 0xa789, 0xa828, 0xa830, 0xa838, 0xa840, 0xa874,
   0xa880, 0xab6a, 0xab70, 0xfb29, 0xfb2a, 0xfbc3, 0xfbd3, 0xfd3e, 0xfd50, 0xfd90, 0xfd92, 0xfdc8,
   0xfdf0, 0xfdfd, 0xfe70, 0xfeff, 0xff10, 0xff1a, 0xff21, 0xff3b, 0xff41, 0xff5b, 0xff66, 0xffe0,
   0x10000, 0x10101, 0x10102, 0x10140, 0x1018d, 0x10190, 0x101d0, 0x1091f, 0x10920, 0x10b39,
   0x10b40, 0x10d6e, 0x10d6f, 0x10ed0, 0x10f00, 0x11052, 0x11066, 0x11660, 0x11680, 0x11fd5,
   0x11fff, 0x16fe2, 0x16fe3, 0x1bca0, 0x1ccf0, 0x1ccfa, 0x1cf50, 0x1d173, 0x1d183, 0x1d1e9,
   0x1d2c0, 0x1d300, 0x1d360, 0x1d6db, 0x1d6dc, 0x1d715, 0x1d716, 0x1d74f, 0x1d750, 0x1d789,
   0x1d78a, 0x1d7c3, 0x1d7c4, 0x1e2ff, 0x1e4d0, 0x1eef0, 0x1f100, 0x1f10b, 0x1f110, 0x1f12f,
   0x1f130, 0x1f16a, 0x1f170, 0x1f1ad, 0x1f1e6, 0x1f260, 0x1fbf0, 0x1fbfa, 0x20000, 0xe0001]

/-- Where runs of blanks and separators start and end. -/
def separatorChanges : List Nat :=
  [0x9, 0xe, 0x1c, 0x21, 0x85, 0x86, 0x1680, 0x1681, 0x2000, 0x200b, 0x2028, 0x202f, 0x205f,
   0x2060, 0x2066, 0x206a, 0x3000, 0x3001]

/-- Marks without room of their own that run from left to right all the same. -/
def directedMarks : List Nat := [0xcbf, 0xcc6, 0x11a07, 0x11a08, 0x11c3f]

/-- The direction of a character. -/
def Direction.ofChar (c : Char) : Direction :=
  if isNonspacingMark c then
    if directedMarks.contains c.toNat then .leftToRight else .nonspacing
  else if isWithin rightToLeftChanges c then .rightToLeft
  else if isWithin europeanNumberChanges c then .europeanNumber
  else if isWithin arabicNumberChanges c then .arabicNumber
  else if isWithin neutralChanges c then .neutral
  else if isWithin separatorChanges c then .separator
  else .leftToRight

end SqlCraft.Text
