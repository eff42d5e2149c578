import Conform.CharSet.Basic

/-! Where texts break into graphemes, words and sentences in other ways than by the general
category. -/

namespace Conform.Unicode.Table

def graphemeControl : CharSet :=
  ⟨#[0x0, 0xA, 0xB, 0xD, 0xE, 0x20, 0x7F, 0xA0, 0xAD, 0xAE, 0x61C, 0x61D, 0x180E, 0x180F, 0x200B,
    0x200C, 0x200E, 0x2010, 0x2028, 0x202F, 0x2060, 0x2070, 0xFEFF, 0xFF00, 0xFFF0, 0xFFFC, 0x13430,
    0x13440, 0x1BCA0, 0x1BCA4, 0x1D173, 0x1D17B, 0xE0000, 0xE0020, 0xE0080, 0xE0100, 0xE01F0,
    0xE1000]⟩

/-- Letters that space like marks. -/
def spacingLetter : CharSet :=
  ⟨#[0xE33, 0xE34, 0xEB3, 0xEB4]⟩

/-- Spacing marks that begin a grapheme. -/
def unspacingMark : CharSet :=
  ⟨#[0x102B, 0x102D, 0x1038, 0x1039, 0x1062, 0x1065, 0x1067, 0x106E, 0x1083, 0x1084, 0x1087, 0x108D,
    0x108F, 0x1090, 0x109A, 0x109D, 0x1A61, 0x1A62, 0x1A63, 0x1A65, 0xAA7B, 0xAA7C, 0xAA7D, 0xAA7E,
    0x11720, 0x11722]⟩

/-- Letters that join the grapheme after them. -/
def prependedLetter : CharSet :=
  ⟨#[0xD4E, 0xD4F, 0x111C2, 0x111C4, 0x113D1, 0x113D2, 0x1193F, 0x11940, 0x11941, 0x11942, 0x11A3A,
    0x11A3B, 0x11A84, 0x11A8A, 0x11D46, 0x11D47, 0x11F02, 0x11F03]⟩

def leadingJamo : CharSet :=
  ⟨#[0x1100, 0x1160, 0xA960, 0xA97D]⟩

def vowelJamo : CharSet :=
  ⟨#[0x1160, 0x11A8, 0xD7B0, 0xD7C7, 0x16D63, 0x16D64, 0x16D67, 0x16D6B]⟩

def trailingJamo : CharSet :=
  ⟨#[0x11A8, 0x1200, 0xD7CB, 0xD7FC]⟩

/-- Characters that words hold like letters. -/
def letterLike : CharSet :=
  ⟨#[0x2C2, 0x2C6, 0x2D2, 0x2D8, 0x2DE, 0x2E0, 0x2E5, 0x2EC, 0x2ED, 0x2EE, 0x2EF, 0x300, 0x55A,
    0x55D, 0x55E, 0x55F, 0x58A, 0x58B, 0x5F3, 0x5F4, 0x70F, 0x710, 0xA708, 0xA717, 0xA720, 0xA722,
    0xA789, 0xA78B, 0xAB5B, 0xAB5C]⟩

/-- Letters of scripts that put no space between words. -/
def unspacedLetter : CharSet :=
  ⟨#[0xE01, 0xE31, 0xE32, 0xE34, 0xE40, 0xE47, 0xE81, 0xE83, 0xE84, 0xE85, 0xE86, 0xE8B, 0xE8C,
    0xEA4, 0xEA5, 0xEA6, 0xEA7, 0xEB1, 0xEB2, 0xEB4, 0xEBD, 0xEBE, 0xEC0, 0xEC5, 0xEC6, 0xEC7,
    0xEDC, 0xEE0, 0x1000, 0x102B, 0x103F, 0x1040, 0x1050, 0x1056, 0x105A, 0x105E, 0x1061, 0x1062,
    0x1065, 0x1067, 0x106E, 0x1071, 0x1075, 0x1082, 0x108E, 0x108F, 0x1780, 0x17B4, 0x17D7, 0x17D8,
    0x17DC, 0x17DD, 0x1950, 0x196E, 0x1970, 0x1975, 0x1980, 0x19AC, 0x19B0, 0x19CA, 0x1A20, 0x1A55,
    0x1AA7, 0x1AA8, 0xA9E0, 0xA9E5, 0xA9E6, 0xA9F0, 0xA9FA, 0xA9FF, 0xAA60, 0xAA77, 0xAA7A, 0xAA7B,
    0xAA7E, 0xAAB0, 0xAAB1, 0xAAB2, 0xAAB5, 0xAAB7, 0xAAB9, 0xAABE, 0xAAC0, 0xAAC1, 0xAAC2, 0xAAC3,
    0xAADB, 0xAADE, 0x11700, 0x1171B, 0x11740, 0x11747]⟩

/-- Signs that words hold like Katakana. -/
def kanaSign : CharSet :=
  ⟨#[0x3031, 0x3036, 0x309B, 0x309D, 0x30A0, 0x30A1, 0x30FC, 0x30FD, 0xFF70, 0xFF71]⟩

def wordFormat : CharSet :=
  ⟨#[0xAD, 0xAE, 0x61C, 0x61D, 0x180E, 0x180F, 0x200E, 0x2010, 0x202A, 0x202F, 0x2060, 0x2065,
    0x2066, 0x2070, 0xFEFF, 0xFF00, 0xFFF9, 0xFFFC, 0x13430, 0x13440, 0x1BCA0, 0x1BCA4, 0x1D173,
    0x1D17B, 0xE0001, 0xE0002]⟩

/-- Signs that numbers hold like digits. -/
def numericSign : CharSet :=
  ⟨#[0x600, 0x606, 0x66B, 0x66C, 0x6DD, 0x6DE, 0x890, 0x892, 0x8E2, 0x8E3, 0x19DA, 0x19DB, 0x110BD,
    0x110BE, 0x110CD, 0x110CE]⟩

def midLetter : CharSet :=
  ⟨#[0x3A, 0x3B, 0xB7, 0xB8, 0x387, 0x388, 0x55F, 0x560, 0x5F4, 0x5F5, 0x2027, 0x2028, 0xFE13,
    0xFE14, 0xFE55, 0xFE56, 0xFF1A, 0xFF1B]⟩

def midNumber : CharSet :=
  ⟨#[0x2C, 0x2D, 0x3B, 0x3C, 0x37E, 0x37F, 0x589, 0x58A, 0x60C, 0x60E, 0x66C, 0x66D, 0x7F8, 0x7F9,
    0x2044, 0x2045, 0xFE50, 0xFE51, 0xFE54, 0xFE55, 0xFF0C, 0xFF0D, 0xFF1B, 0xFF1C]⟩

def midNumberOrLetter : CharSet :=
  ⟨#[0x2E, 0x2F, 0x2018, 0x201A, 0x2024, 0x2025, 0xFE52, 0xFE53, 0xFF07, 0xFF08, 0xFF0E, 0xFF0F]⟩

/-- Characters that end a line and are no line feed or return. -/
def lineEnd : CharSet :=
  ⟨#[0xB, 0xD, 0x85, 0x86, 0x2028, 0x202A]⟩

def wordSpace : CharSet :=
  ⟨#[0x20, 0x21, 0x1680, 0x1681, 0x2000, 0x2007, 0x2008, 0x200B, 0x205F, 0x2060, 0x3000, 0x3001]⟩

def sentenceFormat : CharSet :=
  ⟨#[0xAD, 0xAE, 0x61C, 0x61D, 0x70F, 0x710, 0x180E, 0x180F, 0x200B, 0x200C, 0x200E, 0x2010, 0x202A,
    0x202F, 0x2060, 0x2065, 0x2066, 0x2070, 0xFEFF, 0xFF00, 0xFFF9, 0xFFFC, 0x13430, 0x13440,
    0x1BCA0, 0x1BCA4, 0x1D173, 0x1D17B, 0xE0001, 0xE0002]⟩

def sentenceClose : CharSet :=
  ⟨#[0x22, 0x23, 0x27, 0x2A, 0x5B, 0x5C, 0x5D, 0x5E, 0x7B, 0x7C, 0x7D, 0x7E, 0xAB, 0xAC, 0xBB, 0xBC,
    0xF3A, 0xF3E, 0x169B, 0x169D, 0x2018, 0x2020, 0x2039, 0x203B, 0x2045, 0x2047, 0x207D, 0x207F,
    0x208D, 0x208F, 0x2308, 0x230C, 0x2329, 0x232B, 0x275B, 0x2761, 0x2768, 0x2776, 0x27C5, 0x27C7,
    0x27E6, 0x27F0, 0x2983, 0x2999, 0x29D8, 0x29DC, 0x29FC, 0x29FE, 0x2E00, 0x2E0E, 0x2E1C, 0x2E1E,
    0x2E20, 0x2E2A, 0x2E42, 0x2E43, 0x2E55, 0x2E5D, 0x3008, 0x3012, 0x3014, 0x301C, 0x301D, 0x3020,
    0xFD3E, 0xFD40, 0xFE17, 0xFE19, 0xFE35, 0xFE45, 0xFE47, 0xFE49, 0xFE59, 0xFE5F, 0xFF08, 0xFF0A,
    0xFF3B, 0xFF3C, 0xFF3D, 0xFF3E, 0xFF5B, 0xFF5C, 0xFF5D, 0xFF5E, 0xFF5F, 0xFF61, 0xFF62, 0xFF64,
    0x1F676, 0x1F679]⟩

/-- Full stops, which may also abbreviate. -/
def sentenceStop : CharSet :=
  ⟨#[0x2E, 0x2F, 0x2024, 0x2025, 0xFE52, 0xFE53, 0xFF0E, 0xFF0F]⟩

def sentenceContinue : CharSet :=
  ⟨#[0x2C, 0x2E, 0x3A, 0x3C, 0x37E, 0x37F, 0x55D, 0x55E, 0x60C, 0x60E, 0x7F8, 0x7F9, 0x1802, 0x1803,
    0x1808, 0x1809, 0x2013, 0x2015, 0x3001, 0x3002, 0xFE10, 0xFE12, 0xFE13, 0xFE15, 0xFE31, 0xFE33,
    0xFE50, 0xFE52, 0xFE54, 0xFE56, 0xFE58, 0xFE59, 0xFE63, 0xFE64, 0xFF0C, 0xFF0E, 0xFF1A, 0xFF1C,
    0xFF64, 0xFF65]⟩

/-- Georgian letters that have case and begin no sentence by it. -/
def georgianLetter : CharSet :=
  ⟨#[0x10D0, 0x10FB, 0x10FD, 0x1100, 0x1C90, 0x1CBB, 0x1CBD, 0x1CC0]⟩

end Conform.Unicode.Table
