import Transclusion.Text.Mark
/-!
# Writing directions in domain names

A domain name with letters that are written from right to left must be readable in spite of the
change of direction.  Each of its labels then has one direction, set by its first character: it
has no letters of the other direction, ends in a letter or digit, marks apart, and a label from
right to left has digits of one kind.
-/

namespace Transclusion.Uri

open Text

/-- What a character means for the direction of the text. -/
inductive Direction where
  | leftToRight
  | rightToLeft
  | europeanDigit
  | arabicDigit
  | mark
  | neutral
deriving DecidableEq, Repr

/-- Ranges of the letters that are written from right to left. Here and below, a range can span
characters that no domain name has, and marks. -/
def rightToLeftRanges : Ranges :=
  [(0x590, 0x5FF), (0x608, 0x608), (0x60B, 0x60B), (0x60D, 0x60D), (0x61B, 0x64A), (0x66D, 0x6D5),
   (0x6E5, 0x6E6), (0x6EE, 0x6EF), (0x6FA, 0x7F5), (0x7FA, 0x8C9), (0xFB37, 0xFBC2),
   (0xFE73, 0xFEFE), (0x10800, 0x1091E), (0x10920, 0x10B38), (0x10B40, 0x10D2F),
   (0x10D3A, 0x10D8D), (0x10D90, 0x10E5F), (0x10E7F, 0x10ED0), (0x10ED9, 0x10FFF),
   (0x1E800, 0x1EEEF), (0x1EEF2, 0x1EFFF)]

/-- Ranges of the digits that count as Arabic ones. -/
def arabicDigitRanges : Ranges :=
  [(0x660, 0x669), (0x66B, 0x66C), (0x10D30, 0x10D39), (0x10E60, 0x10E7E)]

/-- Ranges of the digits outside ASCII that count as European ones. -/
def europeanDigitRanges : Ranges :=
  [(0x6F0, 0x6F9), (0x102E1, 0x102FB)]

/-- Ranges of the characters outside ASCII without a direction. -/
def neutralRanges : Ranges :=
  [(0xA1, 0xD7), (0xF7, 0xF7), (0x2B9, 0x2BA), (0x2C2, 0x2CF), (0x2D2, 0x2ED), (0x2EF, 0x2FF),
   (0x375, 0x375), (0x3F6, 0x3F6), (0x58A, 0x58A), (0x58D, 0x58F), (0x606, 0x607), (0x609, 0x60A),
   (0x60C, 0x60C), (0x60E, 0x60F), (0x66A, 0x66A), (0x6DE, 0x6DE), (0x6E9, 0x6E9), (0x7F6, 0x7F9),
   (0x9F2, 0x9F3), (0x9FB, 0x9FB), (0xAF1, 0xAF1), (0xBF3, 0xBFA), (0xC78, 0xC7E), (0xE3F, 0xE3F),
   (0xF3A, 0xF3D), (0x1390, 0x1399), (0x1400, 0x1400), (0x169B, 0x169C), (0x17DB, 0x17DB),
   (0x17F0, 0x17F9), (0x1800, 0x180A), (0x1940, 0x1940), (0x1944, 0x1945), (0x19DE, 0x19FF),
   (0x200C, 0x2065), (0x20A0, 0x20CF), (0x2104, 0x214D), (0x218A, 0x218B), (0x2190, 0x2335),
   (0x237B, 0x2394), (0x2396, 0x2429), (0x2440, 0x244A), (0x24EB, 0x26AB), (0x26AD, 0x27FF),
   (0x2900, 0x2B73), (0x2B76, 0x2BFF), (0x2CE5, 0x2CEA), (0x2CF9, 0x2CFF), (0x2E00, 0x2E5D),
   (0x2E80, 0x2E99), (0x2E9B, 0x2EF2), (0x3001, 0x3004), (0x3008, 0x3020), (0x3030, 0x3030),
   (0x3037, 0x3037), (0x303D, 0x303F), (0x30A0, 0x30A0), (0x30FB, 0x30FB), (0x31C0, 0x31E5),
   (0x4DC0, 0x4DFF), (0xA490, 0xA4C6), (0xA60D, 0xA60F), (0xA673, 0xA67F), (0xA700, 0xA721),
   (0xA788, 0xA788), (0xA828, 0xA82B), (0xA838, 0xA839), (0xA874, 0xA877), (0xAB6A, 0xAB6B),
   (0xFBC3, 0xFDFF), (0xFE45, 0xFE46), (0xFFF0, 0xFFF8), (0x10101, 0x10101), (0x10140, 0x1018C),
   (0x10190, 0x1019C), (0x101A0, 0x101A0), (0x1091F, 0x1091F), (0x10B39, 0x10B3F),
   (0x10D8E, 0x10D8F), (0x10ED1, 0x10ED8), (0x11052, 0x11065), (0x11660, 0x1166C),
   (0x11FD5, 0x11FF1), (0x16FE2, 0x16FE2), (0x1CC00, 0x1CCFC), (0x1CD00, 0x1CEB3),
   (0x1CEBA, 0x1CED0), (0x1CEE0, 0x1CEF0), (0x1D1E9, 0x1D1EA), (0x1D200, 0x1D245),
   (0x1D300, 0x1D356), (0x1E2FF, 0x1E2FF), (0x1EEF0, 0x1EEF1), (0x1F000, 0x1F02B),
   (0x1F030, 0x1F093), (0x1F0A0, 0x1F0AE), (0x1F0B1, 0x1F0BF), (0x1F0C1, 0x1F0CF),
   (0x1F0D1, 0x1F0F5), (0x1F10B, 0x1F12F), (0x1F16D, 0x1F16F), (0x1F1AD, 0x1F1AD),
   (0x1F260, 0x1F265), (0x1F300, 0x1F6D8), (0x1F6DC, 0x1F6EC), (0x1F6F0, 0x1F6FC),
   (0x1F700, 0x1F7D9), (0x1F7E0, 0x1F7EB), (0x1F7F0, 0x1F7F0), (0x1F800, 0x1F80B),
   (0x1F810, 0x1F847), (0x1F850, 0x1F859), (0x1F860, 0x1F887), (0x1F890, 0x1F8AD),
   (0x1F8B0, 0x1F8BB), (0x1F8C0, 0x1F8C1), (0x1F8D0, 0x1F8D8), (0x1F900, 0x1FA57),
   (0x1FA60, 0x1FA6D), (0x1FA70, 0x1FA7C), (0x1FA80, 0x1FA8A), (0x1FA8E, 0x1FAC6),
   (0x1FAC8, 0x1FAC8), (0x1FACD, 0x1FADC), (0x1FADF, 0x1FAEA), (0x1FAEF, 0x1FAF8),
   (0x1FB00, 0x1FB92), (0x1FB94, 0x1FBFA), (0xE0000, 0xE0FFF)]

/-- The direction of a character of a domain name. -/
def direction (c : Char) : Direction :=
  if c.toNat < 128 then
    if c.isAlpha then .leftToRight else if c.isDigit then .europeanDigit else .neutral
  else if isNonspacing c then .mark
  else if rightToLeftRanges.has c then .rightToLeft
  else if arabicDigitRanges.has c then .arabicDigit
  else if europeanDigitRanges.has c then .europeanDigit
  else if neutralRanges.has c then .neutral
  else .leftToRight

/-- Whether a character makes the direction of a name an issue. -/
def turnsDirection (c : Char) : Bool :=
  direction c = .rightToLeft || direction c = .arabicDigit

/-- The direction at the end of a label, marks apart. -/
def lastDirection? (directions : List Direction) : Option Direction :=
  (directions.reverse.dropWhile (· = .mark)).head?

/-- Whether a label has one direction. -/
def hasOneDirection (label : List Char) : Bool :=
  let directions := label.map direction
  match directions with
  | [] => true
  | .leftToRight :: _ =>
    !directions.contains .rightToLeft && !directions.contains .arabicDigit
      && [some .leftToRight, some .europeanDigit].contains (lastDirection? directions)
  | .rightToLeft :: _ =>
    !directions.contains .leftToRight
      && !(directions.contains .europeanDigit && directions.contains .arabicDigit)
      && [some .rightToLeft, some .europeanDigit, some .arabicDigit].contains
        (lastDirection? directions)
  | _ => false

/-- Whether a name has no letters from right to left, or labels with one direction each. -/
def directionsFit (labels : List (List Char)) : Bool :=
  !labels.any (·.any turnsDirection) || labels.all hasOneDirection

end Transclusion.Uri
