import Transclusion.Text.LowerCase
/-!
# Characters of domain names

The characters outside ASCII that a domain name can have in its final form.  Capitals and other
characters that stand for a different spelling are not among them; only in Cherokee do the small
letters stand for the capitals.  Code points that Unicode 17 leaves unassigned are among them,
noncharacters are not.
-/

namespace Transclusion.Uri

open Text

def isAscii (text : List Char) : Bool := text.all (·.toNat < 128)

/-- The ranges of characters outside ASCII that a domain name can have, with capitals among them. -/
def domainRanges : Ranges :=
  [(0xA1, 0xA7), (0xA9, 0xA9), (0xAB, 0xAC), (0xAE, 0xAE), (0xB0, 0xB1), (0xB6, 0xB7),
   (0xBB, 0xBB), (0xBF, 0x12F), (0x131, 0x131), (0x135, 0x13E), (0x142, 0x148), (0x14B, 0x17E),
   (0x180, 0x1C3), (0x1CE, 0x1F0), (0x1F5, 0x2AF), (0x2B9, 0x2D7), (0x2DE, 0x2DF), (0x2E5, 0x33F),
   (0x342, 0x342), (0x346, 0x34E), (0x350, 0x373), (0x375, 0x379), (0x37B, 0x37D), (0x380, 0x383),
   (0x38B, 0x3CE), (0x3D7, 0x3EF), (0x3F3, 0x3F3), (0x3F6, 0x586), (0x588, 0x5FF), (0x606, 0x61B),
   (0x61D, 0x674), (0x679, 0x6DC), (0x6DE, 0x70E), (0x710, 0x88F), (0x892, 0x8E1), (0x8E3, 0x957),
   (0x960, 0x9DB), (0x9DE, 0x9DE), (0x9E0, 0xA32), (0xA34, 0xA35), (0xA37, 0xA58), (0xA5C, 0xA5D),
   (0xA5F, 0xB5B), (0xB5E, 0xE32), (0xE34, 0xEB2), (0xEB4, 0xEDB), (0xEDE, 0xF0B), (0xF0D, 0xF42),
   (0xF44, 0xF4C), (0xF4E, 0xF51), (0xF53, 0xF56), (0xF58, 0xF5B), (0xF5D, 0xF68), (0xF6A, 0xF72),
   (0xF74, 0xF74), (0xF7A, 0xF80), (0xF82, 0xF92), (0xF94, 0xF9C), (0xF9E, 0xFA1), (0xFA3, 0xFA6),
   (0xFA8, 0xFAB), (0xFAD, 0xFB8), (0xFBA, 0x10FB), (0x10FD, 0x115E), (0x1161, 0x13F7),
   (0x13FE, 0x167F), (0x1681, 0x17B3), (0x17B6, 0x180A), (0x1810, 0x1C7F), (0x1C8A, 0x1D2B),
   (0x1D2F, 0x1D2F), (0x1D3B, 0x1D3B), (0x1D4E, 0x1D4E), (0x1D6B, 0x1D77), (0x1D79, 0x1D9A),
   (0x1DC0, 0x1E99), (0x1E9C, 0x1F70), (0x1F72, 0x1F72), (0x1F74, 0x1F74), (0x1F76, 0x1F76),
   (0x1F78, 0x1F78), (0x1F7A, 0x1F7A), (0x1F7C, 0x1F7C), (0x1F7E, 0x1F7F), (0x1FB0, 0x1FB1),
   (0x1FB5, 0x1FB6), (0x1FC5, 0x1FC6), (0x1FD0, 0x1FD2), (0x1FD4, 0x1FDC), (0x1FE0, 0x1FE2),
   (0x1FE4, 0x1FE7), (0x1FF0, 0x1FF1), (0x1FF5, 0x1FF6), (0x1FFF, 0x1FFF), (0x200C, 0x200D),
   (0x2010, 0x2010), (0x2012, 0x2016), (0x2018, 0x2023), (0x2027, 0x2027), (0x2030, 0x2032),
   (0x2035, 0x2035), (0x2038, 0x203B), (0x203D, 0x203D), (0x203F, 0x2046), (0x204A, 0x2056),
   (0x2058, 0x205E), (0x2065, 0x2065), (0x2072, 0x2073), (0x208F, 0x208F), (0x209D, 0x20A7),
   (0x20A9, 0x20FF), (0x2104, 0x2104), (0x2108, 0x2108), (0x2114, 0x2114), (0x2117, 0x2118),
   (0x211E, 0x211F), (0x2123, 0x2123), (0x2125, 0x2127), (0x2129, 0x2129), (0x212E, 0x212E),
   (0x213A, 0x213A), (0x2141, 0x2144), (0x214A, 0x214F), (0x2180, 0x2188), (0x218A, 0x222B),
   (0x222E, 0x222E), (0x2231, 0x2328), (0x232B, 0x245F), (0x24EB, 0x2A0B), (0x2A0D, 0x2A73),
   (0x2A77, 0x2ADB), (0x2ADD, 0x2C7B), (0x2C81, 0x2D6E), (0x2D70, 0x2E9E), (0x2EA0, 0x2EF2),
   (0x2EF4, 0x2EFF), (0x2FD6, 0x2FEF), (0x3001, 0x3001), (0x3003, 0x3035), (0x3037, 0x3037),
   (0x303B, 0x309A), (0x309D, 0x309E), (0x30A0, 0x30FE), (0x3100, 0x3130), (0x318F, 0x3191),
   (0x31A0, 0x31EE), (0x31F0, 0x31FF), (0x321F, 0x321F), (0x3248, 0x324F), (0x327F, 0x327F),
   (0x3400, 0xA69B), (0xA69E, 0xA76F), (0xA771, 0xA7F0), (0xA7F6, 0xA7F7), (0xA7FA, 0xAB5B),
   (0xAB60, 0xAB68), (0xAB6A, 0xAB6F), (0xABC0, 0xD7FF), (0xFA0E, 0xFA0F), (0xFA11, 0xFA11),
   (0xFA13, 0xFA14), (0xFA1F, 0xFA1F), (0xFA21, 0xFA21), (0xFA23, 0xFA24), (0xFA27, 0xFA29),
   (0xFA6E, 0xFA6F), (0xFADA, 0xFAFF), (0xFB07, 0xFB12), (0xFB18, 0xFB1C), (0xFB1E, 0xFB1E),
   (0xFB37, 0xFB37), (0xFB3D, 0xFB3D), (0xFB3F, 0xFB3F), (0xFB42, 0xFB42), (0xFB45, 0xFB45),
   (0xFBB2, 0xFBD2), (0xFD3E, 0xFD4F), (0xFD90, 0xFD91), (0xFDC8, 0xFDCF), (0xFDFD, 0xFDFF),
   (0xFE1A, 0xFE2F), (0xFE45, 0xFE46), (0xFE53, 0xFE53), (0xFE67, 0xFE67), (0xFE6C, 0xFE6F),
   (0xFE73, 0xFE73), (0xFE75, 0xFE75), (0xFEFD, 0xFEFE), (0xFF00, 0xFF00), (0xFFBF, 0xFFC1),
   (0xFFC8, 0xFFC9), (0xFFD0, 0xFFD1), (0xFFD8, 0xFFD9), (0xFFDD, 0xFFDF), (0xFFE7, 0xFFE7),
   (0xFFEF, 0xFFF8), (0x10000, 0x10780), (0x10786, 0x10786), (0x107B1, 0x107B1),
   (0x107BB, 0x110BC), (0x110BE, 0x110CC), (0x110CE, 0x1342F), (0x13440, 0x1BC9F),
   (0x1BCA4, 0x1CCD5), (0x1CCFA, 0x1D15D), (0x1D165, 0x1D172), (0x1D17B, 0x1D1BA),
   (0x1D1C1, 0x1D3FF), (0x1D455, 0x1D455), (0x1D49D, 0x1D49D), (0x1D4A0, 0x1D4A1),
   (0x1D4A3, 0x1D4A4), (0x1D4A7, 0x1D4A8), (0x1D4AD, 0x1D4AD), (0x1D4BA, 0x1D4BA),
   (0x1D4BC, 0x1D4BC), (0x1D4C4, 0x1D4C4), (0x1D506, 0x1D506), (0x1D50B, 0x1D50C),
   (0x1D515, 0x1D515), (0x1D51D, 0x1D51D), (0x1D53A, 0x1D53A), (0x1D53F, 0x1D53F),
   (0x1D545, 0x1D545), (0x1D547, 0x1D549), (0x1D551, 0x1D551), (0x1D6A6, 0x1D6A7),
   (0x1D7CC, 0x1D7CD), (0x1D800, 0x1E02F), (0x1E06E, 0x1EDFF), (0x1EE04, 0x1EE04),
   (0x1EE20, 0x1EE20), (0x1EE23, 0x1EE23), (0x1EE25, 0x1EE26), (0x1EE28, 0x1EE28),
   (0x1EE33, 0x1EE33), (0x1EE38, 0x1EE38), (0x1EE3A, 0x1EE3A), (0x1EE3C, 0x1EE41),
   (0x1EE43, 0x1EE46), (0x1EE48, 0x1EE48), (0x1EE4A, 0x1EE4A), (0x1EE4C, 0x1EE4C),
   (0x1EE50, 0x1EE50), (0x1EE53, 0x1EE53), (0x1EE55, 0x1EE56), (0x1EE58, 0x1EE58),
   (0x1EE5A, 0x1EE5A), (0x1EE5C, 0x1EE5C), (0x1EE5E, 0x1EE5E), (0x1EE60, 0x1EE60),
   (0x1EE63, 0x1EE63), (0x1EE65, 0x1EE66), (0x1EE6B, 0x1EE6B), (0x1EE73, 0x1EE73),
   (0x1EE78, 0x1EE78), (0x1EE7D, 0x1EE7D), (0x1EE7F, 0x1EE7F), (0x1EE8A, 0x1EE8A),
   (0x1EE9C, 0x1EEA0), (0x1EEA4, 0x1EEA4), (0x1EEAA, 0x1EEAA), (0x1EEBC, 0x1F0FF),
   (0x1F10B, 0x1F10F), (0x1F12F, 0x1F12F), (0x1F150, 0x1F169), (0x1F16D, 0x1F18F),
   (0x1F191, 0x1F1FF), (0x1F203, 0x1F20F), (0x1F23C, 0x1F23F), (0x1F249, 0x1F24F),
   (0x1F252, 0x1FBEF), (0x1FBFA, 0x1FFFD), (0x20000, 0x2F7FF), (0x2FA1E, 0x2FFFD),
   (0x30000, 0x3FFFD), (0x40000, 0x4FFFD), (0x50000, 0x5FFFD), (0x60000, 0x6FFFD),
   (0x70000, 0x7FFFD), (0x80000, 0x8FFFD), (0x90000, 0x9FFFD), (0xA0000, 0xAFFFD),
   (0xB0000, 0xBFFFD), (0xC0000, 0xCFFFD), (0xD0000, 0xDFFFD), (0xE0000, 0xE0000),
   (0xE0002, 0xE001F), (0xE0080, 0xE00FF), (0xE01F0, 0xEFFFD)]

/-- Whether a character is a capital letter that stands for a small one, as all are but those of
Cherokee. -/
def isReplacedCapital (c : Char) : Bool :=
  lowerChar c ≠ c && !(0x13A0 ≤ c.toNat && c.toNat ≤ 0x13F5)

/-- Whether a character can be part of a domain name; those in ASCII are checked as a host is. -/
def isDomainChar (c : Char) : Bool :=
  c.toNat < 128 || (domainRanges.has c && !isReplacedCapital c)

end Transclusion.Uri
