import Conform.CharSet.Basic

/-! Properties of characters that the general category does not settle. -/

namespace Conform.Unicode.Table

/-- Alphabetic characters that are neither letters nor letter numbers. -/
def otherAlphabetic : CharSet :=
  ⟨#[0x345, 0x346, 0x363, 0x370, 0x5B0, 0x5BE, 0x5BF, 0x5C0, 0x5C1, 0x5C3, 0x5C4, 0x5C6, 0x5C7,
    0x5C8, 0x610, 0x61B, 0x64B, 0x658, 0x659, 0x660, 0x670, 0x671, 0x6D6, 0x6DD, 0x6E1, 0x6E5,
    0x6E7, 0x6E9, 0x6ED, 0x6EE, 0x711, 0x712, 0x730, 0x740, 0x7A6, 0x7B1, 0x816, 0x818, 0x81B,
    0x824, 0x825, 0x828, 0x829, 0x82D, 0x897, 0x898, 0x8D4, 0x8E0, 0x8E3, 0x8EA, 0x8F0, 0x904,
    0x93A, 0x93C, 0x93E, 0x94D, 0x94E, 0x950, 0x955, 0x958, 0x962, 0x964, 0x981, 0x984, 0x9BE,
    0x9C5, 0x9C7, 0x9C9, 0x9CB, 0x9CD, 0x9D7, 0x9D8, 0x9E2, 0x9E4, 0xA01, 0xA04, 0xA3E, 0xA43,
    0xA47, 0xA49, 0xA4B, 0xA4D, 0xA51, 0xA52, 0xA70, 0xA72, 0xA75, 0xA76, 0xA81, 0xA84, 0xABE,
    0xAC6, 0xAC7, 0xACA, 0xACB, 0xACD, 0xAE2, 0xAE4, 0xAFA, 0xAFD, 0xB01, 0xB04, 0xB3E, 0xB45,
    0xB47, 0xB49, 0xB4B, 0xB4D, 0xB56, 0xB58, 0xB62, 0xB64, 0xB82, 0xB83, 0xBBE, 0xBC3, 0xBC6,
    0xBC9, 0xBCA, 0xBCD, 0xBD7, 0xBD8, 0xC00, 0xC05, 0xC3E, 0xC45, 0xC46, 0xC49, 0xC4A, 0xC4D,
    0xC55, 0xC57, 0xC62, 0xC64, 0xC81, 0xC84, 0xCBE, 0xCC5, 0xCC6, 0xCC9, 0xCCA, 0xCCD, 0xCD5,
    0xCD7, 0xCE2, 0xCE4, 0xCF3, 0xCF4, 0xD00, 0xD04, 0xD3E, 0xD45, 0xD46, 0xD49, 0xD4A, 0xD4D,
    0xD57, 0xD58, 0xD62, 0xD64, 0xD81, 0xD84, 0xDCF, 0xDD5, 0xDD6, 0xDD7, 0xDD8, 0xDE0, 0xDF2,
    0xDF4, 0xE31, 0xE32, 0xE34, 0xE3B, 0xE4D, 0xE4E, 0xEB1, 0xEB2, 0xEB4, 0xEBA, 0xEBB, 0xEBD,
    0xECD, 0xECE, 0xF71, 0xF84, 0xF8D, 0xF98, 0xF99, 0xFBD, 0x102B, 0x1037, 0x1038, 0x1039, 0x103B,
    0x103F, 0x1056, 0x105A, 0x105E, 0x1061, 0x1062, 0x1065, 0x1067, 0x106E, 0x1071, 0x1075, 0x1082,
    0x108E, 0x108F, 0x1090, 0x109A, 0x109E, 0x1712, 0x1714, 0x1732, 0x1734, 0x1752, 0x1754, 0x1772,
    0x1774, 0x17B6, 0x17C9, 0x1885, 0x1887, 0x18A9, 0x18AA, 0x1920, 0x192C, 0x1930, 0x1939, 0x1A17,
    0x1A1C, 0x1A55, 0x1A5F, 0x1A61, 0x1A75, 0x1ABF, 0x1AC1, 0x1ACC, 0x1ACF, 0x1B00, 0x1B05, 0x1B35,
    0x1B44, 0x1B80, 0x1B83, 0x1BA1, 0x1BAA, 0x1BAC, 0x1BAE, 0x1BE7, 0x1BF2, 0x1C24, 0x1C37, 0x1DD3,
    0x1DF5, 0x24B6, 0x24EA, 0x2DE0, 0x2E00, 0xA674, 0xA67C, 0xA69E, 0xA6A0, 0xA802, 0xA803, 0xA80B,
    0xA80C, 0xA823, 0xA828, 0xA880, 0xA882, 0xA8B4, 0xA8C4, 0xA8C5, 0xA8C6, 0xA8FF, 0xA900, 0xA926,
    0xA92B, 0xA947, 0xA953, 0xA980, 0xA984, 0xA9B4, 0xA9C0, 0xA9E5, 0xA9E6, 0xAA29, 0xAA37, 0xAA43,
    0xAA44, 0xAA4C, 0xAA4E, 0xAA7B, 0xAA7E, 0xAAB0, 0xAAB1, 0xAAB2, 0xAAB5, 0xAAB7, 0xAAB9, 0xAABE,
    0xAABF, 0xAAEB, 0xAAF0, 0xAAF5, 0xAAF6, 0xABE3, 0xABEB, 0xFB1E, 0xFB1F, 0x10376, 0x1037B,
    0x10A01, 0x10A04, 0x10A05, 0x10A07, 0x10A0C, 0x10A10, 0x10D24, 0x10D28, 0x10D69, 0x10D6A,
    0x10EAB, 0x10EAD, 0x10EFC, 0x10EFD, 0x11000, 0x11003, 0x11038, 0x11046, 0x11073, 0x11075,
    0x11080, 0x11083, 0x110B0, 0x110B9, 0x110C2, 0x110C3, 0x11100, 0x11103, 0x11127, 0x11133,
    0x11145, 0x11147, 0x11180, 0x11183, 0x111B3, 0x111C0, 0x111CE, 0x111D0, 0x1122C, 0x11235,
    0x11237, 0x11238, 0x1123E, 0x1123F, 0x11241, 0x11242, 0x112DF, 0x112E9, 0x11300, 0x11304,
    0x1133E, 0x11345, 0x11347, 0x11349, 0x1134B, 0x1134D, 0x11357, 0x11358, 0x11362, 0x11364,
    0x113B8, 0x113C1, 0x113C2, 0x113C3, 0x113C5, 0x113C6, 0x113C7, 0x113CB, 0x113CC, 0x113CE,
    0x11435, 0x11442, 0x11443, 0x11446, 0x114B0, 0x114C2, 0x115AF, 0x115B6, 0x115B8, 0x115BF,
    0x115DC, 0x115DE, 0x11630, 0x1163F, 0x11640, 0x11641, 0x116AB, 0x116B6, 0x1171D, 0x1172B,
    0x1182C, 0x11839, 0x11930, 0x11936, 0x11937, 0x11939, 0x1193B, 0x1193D, 0x11940, 0x11941,
    0x11942, 0x11943, 0x119D1, 0x119D8, 0x119DA, 0x119E0, 0x119E4, 0x119E5, 0x11A01, 0x11A0B,
    0x11A35, 0x11A3A, 0x11A3B, 0x11A3F, 0x11A51, 0x11A5C, 0x11A8A, 0x11A98, 0x11C2F, 0x11C37,
    0x11C38, 0x11C3F, 0x11C92, 0x11CA8, 0x11CA9, 0x11CB7, 0x11D31, 0x11D37, 0x11D3A, 0x11D3B,
    0x11D3C, 0x11D3E, 0x11D3F, 0x11D42, 0x11D43, 0x11D44, 0x11D47, 0x11D48, 0x11D8A, 0x11D8F,
    0x11D90, 0x11D92, 0x11D93, 0x11D97, 0x11EF3, 0x11EF7, 0x11F00, 0x11F02, 0x11F03, 0x11F04,
    0x11F34, 0x11F3B, 0x11F3E, 0x11F41, 0x1611E, 0x1612F, 0x16F4F, 0x16F50, 0x16F51, 0x16F88,
    0x16F8F, 0x16F93, 0x16FF0, 0x16FF2, 0x1BC9E, 0x1BC9F, 0x1E000, 0x1E007, 0x1E008, 0x1E019,
    0x1E01B, 0x1E022, 0x1E023, 0x1E025, 0x1E026, 0x1E02B, 0x1E08F, 0x1E090, 0x1E947, 0x1E948,
    0x1F130, 0x1F14A, 0x1F150, 0x1F16A, 0x1F170, 0x1F18A]⟩

/-- Mathematical characters that are no mathematical symbols. -/
def otherMath : CharSet :=
  ⟨#[0x5E, 0x5F, 0x3D0, 0x3D3, 0x3D5, 0x3D6, 0x3F0, 0x3F2, 0x3F4, 0x3F6, 0x2016, 0x2017, 0x2032,
    0x2035, 0x2040, 0x2041, 0x2061, 0x2065, 0x207D, 0x207F, 0x208D, 0x208F, 0x20D0, 0x20DD, 0x20E1,
    0x20E2, 0x20E5, 0x20E7, 0x20EB, 0x20F0, 0x2102, 0x2103, 0x2107, 0x2108, 0x210A, 0x2114, 0x2115,
    0x2116, 0x2119, 0x211E, 0x2124, 0x2125, 0x2128, 0x212A, 0x212C, 0x212E, 0x212F, 0x2132, 0x2133,
    0x2139, 0x213C, 0x2140, 0x2145, 0x214A, 0x2195, 0x219A, 0x219C, 0x21A0, 0x21A1, 0x21A3, 0x21A4,
    0x21A6, 0x21A7, 0x21A8, 0x21A9, 0x21AE, 0x21B0, 0x21B2, 0x21B6, 0x21B8, 0x21BC, 0x21CE, 0x21D0,
    0x21D2, 0x21D3, 0x21D4, 0x21D5, 0x21DC, 0x21DD, 0x21DE, 0x21E4, 0x21E6, 0x2308, 0x230C, 0x23B4,
    0x23B6, 0x23B7, 0x23B8, 0x23D0, 0x23D1, 0x23E2, 0x23E3, 0x25A0, 0x25A2, 0x25AE, 0x25B7, 0x25BC,
    0x25C1, 0x25C6, 0x25C8, 0x25CA, 0x25CC, 0x25CF, 0x25D4, 0x25E2, 0x25E3, 0x25E4, 0x25E5, 0x25E7,
    0x25ED, 0x2605, 0x2607, 0x2640, 0x2641, 0x2642, 0x2643, 0x2660, 0x2664, 0x266D, 0x266F, 0x27C5,
    0x27C7, 0x27E6, 0x27F0, 0x2983, 0x2999, 0x29D8, 0x29DC, 0x29FC, 0x29FE, 0xFE61, 0xFE62, 0xFE63,
    0xFE64, 0xFE68, 0xFE69, 0xFF3C, 0xFF3D, 0xFF3E, 0xFF3F, 0x1D400, 0x1D455, 0x1D456, 0x1D49D,
    0x1D49E, 0x1D4A0, 0x1D4A2, 0x1D4A3, 0x1D4A5, 0x1D4A7, 0x1D4A9, 0x1D4AD, 0x1D4AE, 0x1D4BA,
    0x1D4BB, 0x1D4BC, 0x1D4BD, 0x1D4C4, 0x1D4C5, 0x1D506, 0x1D507, 0x1D50B, 0x1D50D, 0x1D515,
    0x1D516, 0x1D51D, 0x1D51E, 0x1D53A, 0x1D53B, 0x1D53F, 0x1D540, 0x1D545, 0x1D546, 0x1D547,
    0x1D54A, 0x1D551, 0x1D552, 0x1D6A6, 0x1D6A8, 0x1D6C1, 0x1D6C2, 0x1D6DB, 0x1D6DC, 0x1D6FB,
    0x1D6FC, 0x1D715, 0x1D716, 0x1D735, 0x1D736, 0x1D74F, 0x1D750, 0x1D76F, 0x1D770, 0x1D789,
    0x1D78A, 0x1D7A9, 0x1D7AA, 0x1D7C3, 0x1D7C4, 0x1D7CC, 0x1D7CE, 0x1D800, 0x1EE00, 0x1EE04,
    0x1EE05, 0x1EE20, 0x1EE21, 0x1EE23, 0x1EE24, 0x1EE25, 0x1EE27, 0x1EE28, 0x1EE29, 0x1EE33,
    0x1EE34, 0x1EE38, 0x1EE39, 0x1EE3A, 0x1EE3B, 0x1EE3C, 0x1EE42, 0x1EE43, 0x1EE47, 0x1EE48,
    0x1EE49, 0x1EE4A, 0x1EE4B, 0x1EE4C, 0x1EE4D, 0x1EE50, 0x1EE51, 0x1EE53, 0x1EE54, 0x1EE55,
    0x1EE57, 0x1EE58, 0x1EE59, 0x1EE5A, 0x1EE5B, 0x1EE5C, 0x1EE5D, 0x1EE5E, 0x1EE5F, 0x1EE60,
    0x1EE61, 0x1EE63, 0x1EE64, 0x1EE65, 0x1EE67, 0x1EE6B, 0x1EE6C, 0x1EE73, 0x1EE74, 0x1EE78,
    0x1EE79, 0x1EE7D, 0x1EE7E, 0x1EE7F, 0x1EE80, 0x1EE8A, 0x1EE8B, 0x1EE9C, 0x1EEA1, 0x1EEA4,
    0x1EEA5, 0x1EEAA, 0x1EEAB, 0x1EEBC]⟩

/-- Characters that extend a grapheme and are neither nonspacing nor enclosing marks. -/
def otherGraphemeExtend : CharSet :=
  ⟨#[0x9BE, 0x9BF, 0x9D7, 0x9D8, 0xB3E, 0xB3F, 0xB57, 0xB58, 0xBBE, 0xBBF, 0xBD7, 0xBD8, 0xCC0,
    0xCC1, 0xCC2, 0xCC3, 0xCC7, 0xCC9, 0xCCA, 0xCCC, 0xCD5, 0xCD7, 0xD3E, 0xD3F, 0xD57, 0xD58,
    0xDCF, 0xDD0, 0xDDF, 0xDE0, 0x1715, 0x1716, 0x1734, 0x1735, 0x1B35, 0x1B36, 0x1B3B, 0x1B3C,
    0x1B3D, 0x1B3E, 0x1B43, 0x1B45, 0x1BAA, 0x1BAB, 0x1BF2, 0x1BF4, 0x200C, 0x200D, 0x302E, 0x3030,
    0xA953, 0xA954, 0xA9C0, 0xA9C1, 0xFF9E, 0xFFA0, 0x111C0, 0x111C1, 0x11235, 0x11236, 0x1133E,
    0x1133F, 0x1134D, 0x1134E, 0x11357, 0x11358, 0x113B8, 0x113B9, 0x113C2, 0x113C3, 0x113C5,
    0x113C6, 0x113C7, 0x113CA, 0x113CF, 0x113D0, 0x114B0, 0x114B1, 0x114BD, 0x114BE, 0x115AF,
    0x115B0, 0x116B6, 0x116B7, 0x11930, 0x11931, 0x1193D, 0x1193E, 0x11F41, 0x11F42, 0x16FF0,
    0x16FF2, 0x1D165, 0x1D167, 0x1D16D, 0x1D173, 0xE0020, 0xE0080]⟩

def otherDefaultIgnorable : CharSet :=
  ⟨#[0x34F, 0x350, 0x115F, 0x1161, 0x17B4, 0x17B6, 0x2065, 0x2066, 0x3164, 0x3165, 0xFFA0, 0xFFA1,
    0xFFF0, 0xFFF9, 0xE0000, 0xE0001, 0xE0002, 0xE0020, 0xE0080, 0xE0100, 0xE01F0, 0xE1000]⟩

def defaultIgnorable : CharSet :=
  ⟨#[0xAD, 0xAE, 0x34F, 0x350, 0x61C, 0x61D, 0x115F, 0x1161, 0x17B4, 0x17B6, 0x180B, 0x1810, 0x200B,
    0x2010, 0x202A, 0x202F, 0x2060, 0x2070, 0x3164, 0x3165, 0xFE00, 0xFE10, 0xFEFF, 0xFF00, 0xFFA0,
    0xFFA1, 0xFFF0, 0xFFF9, 0x1BCA0, 0x1BCA4, 0x1D173, 0x1D17B, 0xE0000, 0xE1000]⟩

def asciiHexDigit : CharSet :=
  ⟨#[0x30, 0x3A, 0x41, 0x47, 0x61, 0x67]⟩

def hexDigit : CharSet :=
  ⟨#[0x30, 0x3A, 0x41, 0x47, 0x61, 0x67, 0xFF10, 0xFF1A, 0xFF21, 0xFF27, 0xFF41, 0xFF47]⟩

def bidiControl : CharSet :=
  ⟨#[0x61C, 0x61D, 0x200E, 0x2010, 0x202A, 0x202F, 0x2066, 0x206A]⟩

def bidiMirrored : CharSet :=
  ⟨#[0x28, 0x2A, 0x3C, 0x3D, 0x3E, 0x3F, 0x5B, 0x5C, 0x5D, 0x5E, 0x7B, 0x7C, 0x7D, 0x7E, 0xAB, 0xAC,
    0xBB, 0xBC, 0xF3A, 0xF3E, 0x169B, 0x169D, 0x2039, 0x203B, 0x2045, 0x2047, 0x207D, 0x207F,
    0x208D, 0x208F, 0x2140, 0x2141, 0x2201, 0x2205, 0x2208, 0x220E, 0x2211, 0x2212, 0x2215, 0x2217,
    0x221A, 0x221E, 0x221F, 0x2223, 0x2224, 0x2225, 0x2226, 0x2227, 0x222B, 0x2234, 0x2239, 0x223A,
    0x223B, 0x224D, 0x2252, 0x2256, 0x225F, 0x2261, 0x2262, 0x2263, 0x2264, 0x226C, 0x226D, 0x228D,
    0x228F, 0x2293, 0x2298, 0x2299, 0x22A2, 0x22A4, 0x22A6, 0x22B9, 0x22BE, 0x22C0, 0x22C9, 0x22CE,
    0x22D0, 0x22D2, 0x22D6, 0x22EE, 0x22F0, 0x2300, 0x2308, 0x230C, 0x2320, 0x2322, 0x2329, 0x232B,
    0x2768, 0x2776, 0x27C0, 0x27C1, 0x27C3, 0x27C7, 0x27C8, 0x27CA, 0x27CB, 0x27CE, 0x27D3, 0x27D7,
    0x27DC, 0x27DF, 0x27E2, 0x27F0, 0x2983, 0x2999, 0x299B, 0x29A1, 0x29A2, 0x29B0, 0x29B8, 0x29B9,
    0x29C0, 0x29C6, 0x29C9, 0x29CA, 0x29CE, 0x29D3, 0x29D4, 0x29D6, 0x29D8, 0x29DD, 0x29E1, 0x29E2,
    0x29E3, 0x29E6, 0x29E8, 0x29EA, 0x29F4, 0x29FA, 0x29FC, 0x29FE, 0x2A0A, 0x2A1D, 0x2A1E, 0x2A22,
    0x2A24, 0x2A25, 0x2A26, 0x2A27, 0x2A29, 0x2A2A, 0x2A2B, 0x2A2F, 0x2A34, 0x2A36, 0x2A3C, 0x2A3F,
    0x2A57, 0x2A59, 0x2A64, 0x2A66, 0x2A6A, 0x2A6E, 0x2A6F, 0x2A71, 0x2A73, 0x2A75, 0x2A79, 0x2AA4,
    0x2AA6, 0x2AAE, 0x2AAF, 0x2AD7, 0x2ADC, 0x2ADD, 0x2ADE, 0x2ADF, 0x2AE2, 0x2AE7, 0x2AEC, 0x2AEF,
    0x2AF3, 0x2AF4, 0x2AF7, 0x2AFC, 0x2AFD, 0x2AFE, 0x2BFE, 0x2BFF, 0x2E02, 0x2E06, 0x2E09, 0x2E0B,
    0x2E0C, 0x2E0E, 0x2E1C, 0x2E1E, 0x2E20, 0x2E2A, 0x2E55, 0x2E5D, 0x3008, 0x3012, 0x3014, 0x301C,
    0xFE59, 0xFE5F, 0xFE64, 0xFE66, 0xFF08, 0xFF0A, 0xFF1C, 0xFF1D, 0xFF1E, 0xFF1F, 0xFF3B, 0xFF3C,
    0xFF3D, 0xFF3E, 0xFF5B, 0xFF5C, 0xFF5D, 0xFF5E, 0xFF5F, 0xFF61, 0xFF62, 0xFF64, 0x1D6DB,
    0x1D6DC, 0x1D715, 0x1D716, 0x1D74F, 0x1D750, 0x1D789, 0x1D78A, 0x1D7C3, 0x1D7C4]⟩

def dash : CharSet :=
  ⟨#[0x2D, 0x2E, 0x58A, 0x58B, 0x5BE, 0x5BF, 0x1400, 0x1401, 0x1806, 0x1807, 0x2010, 0x2016, 0x2053,
    0x2054, 0x207B, 0x207C, 0x208B, 0x208C, 0x2212, 0x2213, 0x2E17, 0x2E18, 0x2E1A, 0x2E1B, 0x2E3A,
    0x2E3C, 0x2E40, 0x2E41, 0x2E5D, 0x2E5E, 0x301C, 0x301D, 0x3030, 0x3031, 0x30A0, 0x30A1, 0xFE31,
    0xFE33, 0xFE58, 0xFE59, 0xFE63, 0xFE64, 0xFF0D, 0xFF0E, 0x10D6E, 0x10D6F, 0x10EAD, 0x10EAE]⟩

def hyphen : CharSet :=
  ⟨#[0x2D, 0x2E, 0xAD, 0xAE, 0x58A, 0x58B, 0x1806, 0x1807, 0x2010, 0x2012, 0x2E17, 0x2E18, 0x30FB,
    0x30FC, 0xFE63, 0xFE64, 0xFF0D, 0xFF0E, 0xFF65, 0xFF66]⟩

def deprecated : CharSet :=
  ⟨#[0x149, 0x14A, 0x673, 0x674, 0xF77, 0xF78, 0xF79, 0xF7A, 0x17A3, 0x17A5, 0x206A, 0x2070, 0x2329,
    0x232B, 0xE0001, 0xE0002]⟩

def diacritic : CharSet :=
  ⟨#[0x5E, 0x5F, 0x60, 0x61, 0xA8, 0xA9, 0xAF, 0xB0, 0xB4, 0xB5, 0xB7, 0xB9, 0x2B0, 0x34F, 0x350,
    0x358, 0x35D, 0x363, 0x374, 0x376, 0x37A, 0x37B, 0x384, 0x386, 0x483, 0x488, 0x559, 0x55A,
    0x591, 0x5A2, 0x5A3, 0x5BE, 0x5BF, 0x5C0, 0x5C1, 0x5C3, 0x5C4, 0x5C5, 0x64B, 0x653, 0x657,
    0x659, 0x6DF, 0x6E1, 0x6E5, 0x6E7, 0x6EA, 0x6ED, 0x730, 0x74B, 0x7A6, 0x7B1, 0x7EB, 0x7F6,
    0x818, 0x81A, 0x898, 0x8A0, 0x8C9, 0x8D3, 0x8E3, 0x8FF, 0x93C, 0x93D, 0x94D, 0x94E, 0x951,
    0x955, 0x971, 0x972, 0x9BC, 0x9BD, 0x9CD, 0x9CE, 0xA3C, 0xA3D, 0xA4D, 0xA4E, 0xABC, 0xABD,
    0xACD, 0xACE, 0xAFD, 0xB00, 0xB3C, 0xB3D, 0xB4D, 0xB4E, 0xB55, 0xB56, 0xBCD, 0xBCE, 0xC3C,
    0xC3D, 0xC4D, 0xC4E, 0xCBC, 0xCBD, 0xCCD, 0xCCE, 0xD3B, 0xD3D, 0xD4D, 0xD4E, 0xDCA, 0xDCB,
    0xE3A, 0xE3B, 0xE47, 0xE4D, 0xE4E, 0xE4F, 0xEBA, 0xEBB, 0xEC8, 0xECD, 0xF18, 0xF1A, 0xF35,
    0xF36, 0xF37, 0xF38, 0xF39, 0xF3A, 0xF3E, 0xF40, 0xF82, 0xF85, 0xF86, 0xF88, 0xFC6, 0xFC7,
    0x1037, 0x1038, 0x1039, 0x103B, 0x1063, 0x1065, 0x1069, 0x106E, 0x1087, 0x108E, 0x108F, 0x1090,
    0x109A, 0x109C, 0x135D, 0x1360, 0x1714, 0x1716, 0x1734, 0x1735, 0x17C9, 0x17D4, 0x17DD, 0x17DE,
    0x1939, 0x193C, 0x1A60, 0x1A61, 0x1A75, 0x1A7D, 0x1A7F, 0x1A80, 0x1AB0, 0x1ABF, 0x1AC1, 0x1ACC,
    0x1B34, 0x1B35, 0x1B44, 0x1B45, 0x1B6B, 0x1B74, 0x1BAA, 0x1BAC, 0x1BE6, 0x1BE7, 0x1BF2, 0x1BF4,
    0x1C36, 0x1C38, 0x1C78, 0x1C7E, 0x1CD0, 0x1CE9, 0x1CED, 0x1CEE, 0x1CF4, 0x1CF5, 0x1CF7, 0x1CFA,
    0x1D2C, 0x1D6B, 0x1DC4, 0x1DD0, 0x1DF5, 0x1E00, 0x1FBD, 0x1FBE, 0x1FBF, 0x1FC2, 0x1FCD, 0x1FD0,
    0x1FDD, 0x1FE0, 0x1FED, 0x1FF0, 0x1FFD, 0x1FFF, 0x2CEF, 0x2CF2, 0x2E2F, 0x2E30, 0x302A, 0x3030,
    0x3099, 0x309D, 0x30FC, 0x30FD, 0xA66F, 0xA670, 0xA67C, 0xA67E, 0xA67F, 0xA680, 0xA69C, 0xA69E,
    0xA6F0, 0xA6F2, 0xA700, 0xA722, 0xA788, 0xA78B, 0xA7F8, 0xA7FA, 0xA806, 0xA807, 0xA82C, 0xA82D,
    0xA8C4, 0xA8C5, 0xA8E0, 0xA8F2, 0xA92B, 0xA92F, 0xA953, 0xA954, 0xA9B3, 0xA9B4, 0xA9C0, 0xA9C1,
    0xA9E5, 0xA9E6, 0xAA7B, 0xAA7E, 0xAABF, 0xAAC3, 0xAAF6, 0xAAF7, 0xAB5B, 0xAB60, 0xAB69, 0xAB6C,
    0xABEC, 0xABEE, 0xFB1E, 0xFB1F, 0xFE20, 0xFE30, 0xFF3E, 0xFF3F, 0xFF40, 0xFF41, 0xFF70, 0xFF71,
    0xFF9E, 0xFFA0, 0xFFE3, 0xFFE4, 0x102E0, 0x102E1, 0x10780, 0x10786, 0x10787, 0x107B1, 0x107B2,
    0x107BB, 0x10A38, 0x10A3B, 0x10A3F, 0x10A40, 0x10AE5, 0x10AE7, 0x10D22, 0x10D28, 0x10D4E,
    0x10D4F, 0x10D69, 0x10D6E, 0x10EFD, 0x10F00, 0x10F46, 0x10F51, 0x10F82, 0x10F86, 0x11046,
    0x11047, 0x11070, 0x11071, 0x110B9, 0x110BB, 0x11133, 0x11135, 0x11173, 0x11174, 0x111C0,
    0x111C1, 0x111CA, 0x111CD, 0x11235, 0x11237, 0x112E9, 0x112EB, 0x1133B, 0x1133D, 0x1134D,
    0x1134E, 0x11366, 0x1136D, 0x11370, 0x11375, 0x113CE, 0x113D1, 0x113D2, 0x113D4, 0x113E1,
    0x113E3, 0x11442, 0x11443, 0x11446, 0x11447, 0x114C2, 0x114C4, 0x115BF, 0x115C1, 0x1163F,
    0x11640, 0x116B6, 0x116B8, 0x1172B, 0x1172C, 0x11839, 0x1183B, 0x1193D, 0x1193F, 0x11943,
    0x11944, 0x119E0, 0x119E1, 0x11A34, 0x11A35, 0x11A47, 0x11A48, 0x11A99, 0x11A9A, 0x11C3F,
    0x11C40, 0x11D42, 0x11D43, 0x11D44, 0x11D46, 0x11D97, 0x11D98, 0x11F41, 0x11F43, 0x11F5A,
    0x11F5B, 0x13447, 0x13456, 0x1612F, 0x16130, 0x16AF0, 0x16AF5, 0x16B30, 0x16B37, 0x16D6B,
    0x16D6D, 0x16F8F, 0x16FA0, 0x16FF0, 0x16FF2, 0x1AFF0, 0x1AFF4, 0x1AFF5, 0x1AFFC, 0x1AFFD,
    0x1AFFF, 0x1CF00, 0x1CF2E, 0x1CF30, 0x1CF47, 0x1D167, 0x1D16A, 0x1D16D, 0x1D173, 0x1D17B,
    0x1D183, 0x1D185, 0x1D18C, 0x1D1AA, 0x1D1AE, 0x1E030, 0x1E06E, 0x1E130, 0x1E137, 0x1E2AE,
    0x1E2AF, 0x1E2EC, 0x1E2F0, 0x1E5EE, 0x1E5F0, 0x1E8D0, 0x1E8D7, 0x1E944, 0x1E947, 0x1E948,
    0x1E94B]⟩

def extender : CharSet :=
  ⟨#[0xB7, 0xB8, 0x2D0, 0x2D2, 0x640, 0x641, 0x7FA, 0x7FB, 0xA71, 0xA72, 0xAFB, 0xAFC, 0xB55, 0xB56,
    0xE46, 0xE47, 0xEC6, 0xEC7, 0x180A, 0x180B, 0x1843, 0x1844, 0x1AA7, 0x1AA8, 0x1C36, 0x1C37,
    0x1C7B, 0x1C7C, 0x3005, 0x3006, 0x3031, 0x3036, 0x309D, 0x309F, 0x30FC, 0x30FF, 0xA015, 0xA016,
    0xA60C, 0xA60D, 0xA9CF, 0xA9D0, 0xA9E6, 0xA9E7, 0xAA70, 0xAA71, 0xAADD, 0xAADE, 0xAAF3, 0xAAF5,
    0xFF70, 0xFF71, 0x10781, 0x10783, 0x10D4E, 0x10D4F, 0x10D6A, 0x10D6B, 0x10D6F, 0x10D70, 0x11237,
    0x11238, 0x1135D, 0x1135E, 0x113D2, 0x113D4, 0x115C6, 0x115C9, 0x11A98, 0x11A99, 0x16B42,
    0x16B44, 0x16FE0, 0x16FE2, 0x16FE3, 0x16FE4, 0x1E13C, 0x1E13E, 0x1E5EF, 0x1E5F0, 0x1E944,
    0x1E947]⟩

def graphemeLink : CharSet :=
  ⟨#[0x94D, 0x94E, 0x9CD, 0x9CE, 0xA4D, 0xA4E, 0xACD, 0xACE, 0xB4D, 0xB4E, 0xBCD, 0xBCE, 0xC4D,
    0xC4E, 0xCCD, 0xCCE, 0xD3B, 0xD3D, 0xD4D, 0xD4E, 0xDCA, 0xDCB, 0xE3A, 0xE3B, 0xEBA, 0xEBB,
    0xF84, 0xF85, 0x1039, 0x103B, 0x1714, 0x1716, 0x1734, 0x1735, 0x17D2, 0x17D3, 0x1A60, 0x1A61,
    0x1B44, 0x1B45, 0x1BAA, 0x1BAC, 0x1BF2, 0x1BF4, 0x2D7F, 0x2D80, 0xA806, 0xA807, 0xA82C, 0xA82D,
    0xA8C4, 0xA8C5, 0xA953, 0xA954, 0xA9C0, 0xA9C1, 0xAAF6, 0xAAF7, 0xABED, 0xABEE, 0x10A3F,
    0x10A40, 0x11046, 0x11047, 0x11070, 0x11071, 0x1107F, 0x11080, 0x110B9, 0x110BA, 0x11133,
    0x11135, 0x111C0, 0x111C1, 0x11235, 0x11236, 0x112EA, 0x112EB, 0x1134D, 0x1134E, 0x113CE,
    0x113D1, 0x11442, 0x11443, 0x114C2, 0x114C3, 0x115BF, 0x115C0, 0x1163F, 0x11640, 0x116B6,
    0x116B7, 0x1172B, 0x1172C, 0x11839, 0x1183A, 0x1193D, 0x1193F, 0x119E0, 0x119E1, 0x11A34,
    0x11A35, 0x11A47, 0x11A48, 0x11A99, 0x11A9A, 0x11C3F, 0x11C40, 0x11D44, 0x11D46, 0x11D97,
    0x11D98, 0x11F41, 0x11F43, 0x1612F, 0x16130]⟩

def joinControl : CharSet :=
  ⟨#[0x200C, 0x200E]⟩

def logicalOrderException : CharSet :=
  ⟨#[0xE40, 0xE45, 0xEC0, 0xEC5, 0x19B5, 0x19B8, 0x19BA, 0x19BB, 0xAAB5, 0xAAB7, 0xAAB9, 0xAABA,
    0xAABB, 0xAABD]⟩

def modifierCombiningMark : CharSet :=
  ⟨#[0x654, 0x656, 0x658, 0x659, 0x6DC, 0x6DD, 0x6E3, 0x6E4, 0x6E7, 0x6E9, 0x8CA, 0x8CC, 0x8CD,
    0x8D0, 0x8D3, 0x8D4, 0x8F3, 0x8F4]⟩

def noncharacter : CharSet :=
  ⟨#[0xFDD0, 0xFDF0, 0xFFFE, 0x10000, 0x1FFFE, 0x20000, 0x2FFFE, 0x30000, 0x3FFFE, 0x40000, 0x4FFFE,
    0x50000, 0x5FFFE, 0x60000, 0x6FFFE, 0x70000, 0x7FFFE, 0x80000, 0x8FFFE, 0x90000, 0x9FFFE,
    0xA0000, 0xAFFFE, 0xB0000, 0xBFFFE, 0xC0000, 0xCFFFE, 0xD0000, 0xDFFFE, 0xE0000, 0xEFFFE,
    0xF0000, 0xFFFFE, 0x100000, 0x10FFFE]⟩

def prependedConcatenationMark : CharSet :=
  ⟨#[0x600, 0x606, 0x6DD, 0x6DE, 0x70F, 0x710, 0x890, 0x892, 0x8E2, 0x8E3, 0x110BD, 0x110BE,
    0x110CD, 0x110CE]⟩

def quotationMark : CharSet :=
  ⟨#[0x22, 0x23, 0x27, 0x28, 0xAB, 0xAC, 0xBB, 0xBC, 0x2018, 0x2020, 0x2039, 0x203B, 0x2E42, 0x2E43,
    0x300C, 0x3010, 0x301D, 0x3020, 0xFE41, 0xFE45, 0xFF02, 0xFF03, 0xFF07, 0xFF08, 0xFF62, 0xFF64]⟩

def sentenceTerminal : CharSet :=
  ⟨#[0x21, 0x22, 0x2E, 0x2F, 0x3F, 0x40, 0x589, 0x58A, 0x61D, 0x620, 0x6D4, 0x6D5, 0x700, 0x703,
    0x7F9, 0x7FA, 0x837, 0x838, 0x839, 0x83A, 0x83D, 0x83F, 0x964, 0x966, 0x104A, 0x104C, 0x1362,
    0x1363, 0x1367, 0x1369, 0x166E, 0x166F, 0x1735, 0x1737, 0x17D4, 0x17D6, 0x1803, 0x1804, 0x1809,
    0x180A, 0x1944, 0x1946, 0x1AA8, 0x1AAC, 0x1B4E, 0x1B50, 0x1B5A, 0x1B5C, 0x1B5E, 0x1B60, 0x1B7D,
    0x1B80, 0x1C3B, 0x1C3D, 0x1C7E, 0x1C80, 0x2024, 0x2025, 0x203C, 0x203E, 0x2047, 0x204A, 0x2CF9,
    0x2CFC, 0x2E2E, 0x2E2F, 0x2E3C, 0x2E3D, 0x2E53, 0x2E55, 0x3002, 0x3003, 0xA4FF, 0xA500, 0xA60E,
    0xA610, 0xA6F3, 0xA6F4, 0xA6F7, 0xA6F8, 0xA876, 0xA878, 0xA8CE, 0xA8D0, 0xA92F, 0xA930, 0xA9C8,
    0xA9CA, 0xAA5D, 0xAA60, 0xAAF0, 0xAAF2, 0xABEB, 0xABEC, 0xFE12, 0xFE13, 0xFE15, 0xFE17, 0xFE52,
    0xFE53, 0xFE56, 0xFE58, 0xFF01, 0xFF02, 0xFF0E, 0xFF0F, 0xFF1F, 0xFF20, 0xFF61, 0xFF62, 0x10A56,
    0x10A58, 0x10F55, 0x10F5A, 0x10F86, 0x10F8A, 0x11047, 0x11049, 0x110BE, 0x110C2, 0x11141,
    0x11144, 0x111C5, 0x111C7, 0x111CD, 0x111CE, 0x111DE, 0x111E0, 0x11238, 0x1123A, 0x1123B,
    0x1123D, 0x112A9, 0x112AA, 0x113D4, 0x113D6, 0x1144B, 0x1144D, 0x115C2, 0x115C4, 0x115C9,
    0x115D8, 0x11641, 0x11643, 0x1173C, 0x1173F, 0x11944, 0x11945, 0x11946, 0x11947, 0x11A42,
    0x11A44, 0x11A9B, 0x11A9D, 0x11C41, 0x11C43, 0x11EF7, 0x11EF9, 0x11F43, 0x11F45, 0x16A6E,
    0x16A70, 0x16AF5, 0x16AF6, 0x16B37, 0x16B39, 0x16B44, 0x16B45, 0x16D6E, 0x16D70, 0x16E98,
    0x16E99, 0x1BC9F, 0x1BCA0, 0x1DA88, 0x1DA89]⟩

def terminalPunctuation : CharSet :=
  ⟨#[0x21, 0x22, 0x2C, 0x2D, 0x2E, 0x2F, 0x3A, 0x3C, 0x3F, 0x40, 0x37E, 0x37F, 0x387, 0x388, 0x589,
    0x58A, 0x5C3, 0x5C4, 0x60C, 0x60D, 0x61B, 0x61C, 0x61D, 0x620, 0x6D4, 0x6D5, 0x700, 0x70B,
    0x70C, 0x70D, 0x7F8, 0x7FA, 0x830, 0x836, 0x837, 0x83F, 0x85E, 0x85F, 0x964, 0x966, 0xE5A,
    0xE5C, 0xF08, 0xF09, 0xF0D, 0xF13, 0x104A, 0x104C, 0x1361, 0x1369, 0x166E, 0x166F, 0x16EB,
    0x16EE, 0x1735, 0x1737, 0x17D4, 0x17D7, 0x17DA, 0x17DB, 0x1802, 0x1806, 0x1808, 0x180A, 0x1944,
    0x1946, 0x1AA8, 0x1AAC, 0x1B4E, 0x1B50, 0x1B5A, 0x1B5C, 0x1B5D, 0x1B60, 0x1B7D, 0x1B80, 0x1C3B,
    0x1C40, 0x1C7E, 0x1C80, 0x2024, 0x2025, 0x203C, 0x203E, 0x2047, 0x204A, 0x2CF9, 0x2CFC, 0x2E2E,
    0x2E2F, 0x2E3C, 0x2E3D, 0x2E41, 0x2E42, 0x2E4C, 0x2E4D, 0x2E4E, 0x2E50, 0x2E53, 0x2E55, 0x3001,
    0x3003, 0xA4FE, 0xA500, 0xA60D, 0xA610, 0xA6F3, 0xA6F8, 0xA876, 0xA878, 0xA8CE, 0xA8D0, 0xA92F,
    0xA930, 0xA9C7, 0xA9CA, 0xAA5D, 0xAA60, 0xAADF, 0xAAE0, 0xAAF0, 0xAAF2, 0xABEB, 0xABEC, 0xFE12,
    0xFE13, 0xFE15, 0xFE17, 0xFE50, 0xFE53, 0xFE54, 0xFE58, 0xFF01, 0xFF02, 0xFF0C, 0xFF0D, 0xFF0E,
    0xFF0F, 0xFF1A, 0xFF1C, 0xFF1F, 0xFF20, 0xFF61, 0xFF62, 0xFF64, 0xFF65, 0x1039F, 0x103A0,
    0x103D0, 0x103D1, 0x10857, 0x10858, 0x1091F, 0x10920, 0x10A56, 0x10A58, 0x10AF0, 0x10AF6,
    0x10B3A, 0x10B40, 0x10B99, 0x10B9D, 0x10F55, 0x10F5A, 0x10F86, 0x10F8A, 0x11047, 0x1104E,
    0x110BE, 0x110C2, 0x11141, 0x11144, 0x111C5, 0x111C7, 0x111CD, 0x111CE, 0x111DE, 0x111E0,
    0x11238, 0x1123D, 0x112A9, 0x112AA, 0x113D4, 0x113D6, 0x1144B, 0x1144E, 0x1145A, 0x1145C,
    0x115C2, 0x115C6, 0x115C9, 0x115D8, 0x11641, 0x11643, 0x1173C, 0x1173F, 0x11944, 0x11945,
    0x11946, 0x11947, 0x11A42, 0x11A44, 0x11A9B, 0x11A9D, 0x11AA1, 0x11AA3, 0x11C41, 0x11C44,
    0x11C71, 0x11C72, 0x11EF7, 0x11EF9, 0x11F43, 0x11F45, 0x12470, 0x12475, 0x16A6E, 0x16A70,
    0x16AF5, 0x16AF6, 0x16B37, 0x16B3A, 0x16B44, 0x16B45, 0x16D6E, 0x16D70, 0x16E97, 0x16E99,
    0x1BC9F, 0x1BCA0, 0x1DA87, 0x1DA8B]⟩

def variationSelector : CharSet :=
  ⟨#[0x180B, 0x180E, 0x180F, 0x1810, 0xFE00, 0xFE10, 0xE0100, 0xE01F0]⟩

def whiteSpace : CharSet :=
  ⟨#[0x9, 0xE, 0x20, 0x21, 0x85, 0x86, 0xA0, 0xA1, 0x1680, 0x1681, 0x2000, 0x200B, 0x2028, 0x202A,
    0x202F, 0x2030, 0x205F, 0x2060, 0x3000, 0x3001]⟩

end Conform.Unicode.Table
