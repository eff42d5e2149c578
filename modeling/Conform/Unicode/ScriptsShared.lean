import Conform.Unicode.Script

/-! What stands for scripts where a character has none of its own. -/

set_option maxRecDepth 8000

namespace Conform.Unicode

def scriptsShared : List Script :=
  [⟨["common", "zyyy"], ⟨#[0x0, 0x41, 0x5B, 0x61, 0x7B, 0xAA, 0xAB, 0xBA, 0xBB, 0xC0, 0xD7, 0xD8,
      0xF7, 0xF8, 0x2B9, 0x2E0, 0x2E5, 0x2EA, 0x2EC, 0x300, 0x374, 0x375, 0x37E, 0x37F, 0x385,
      0x386, 0x387, 0x388, 0x605, 0x606, 0x60C, 0x60D, 0x61B, 0x61C, 0x61F, 0x620, 0x640, 0x641,
      0x6DD, 0x6DE, 0x8E2, 0x8E3, 0x964, 0x966, 0xE3F, 0xE40, 0xFD5, 0xFD9, 0x10FB, 0x10FC, 0x16EB,
      0x16EE, 0x1735, 0x1737, 0x1802, 0x1804, 0x1805, 0x1806, 0x1CD3, 0x1CD4, 0x1CE1, 0x1CE2,
      0x1CE9, 0x1CED, 0x1CEE, 0x1CF4, 0x1CF5, 0x1CF8, 0x1CFA, 0x1CFB, 0x2000, 0x200C, 0x200E,
      0x2065, 0x2066, 0x2071, 0x2074, 0x207F, 0x2080, 0x208F, 0x20A0, 0x20C1, 0x2100, 0x2126,
      0x2127, 0x212A, 0x212C, 0x2132, 0x2133, 0x214E, 0x214F, 0x2160, 0x2189, 0x218C, 0x2190,
      0x242A, 0x2440, 0x244B, 0x2460, 0x2800, 0x2900, 0x2B74, 0x2B76, 0x2B96, 0x2B97, 0x2C00,
      0x2E00, 0x2E5E, 0x2FF0, 0x3005, 0x3006, 0x3007, 0x3008, 0x3021, 0x3030, 0x3038, 0x303C,
      0x3040, 0x309B, 0x309D, 0x30A0, 0x30A1, 0x30FB, 0x30FD, 0x3190, 0x31A0, 0x31C0, 0x31E6,
      0x31EF, 0x31F0, 0x3220, 0x3260, 0x327F, 0x32D0, 0x32FF, 0x3300, 0x3358, 0x3400, 0x4DC0,
      0x4E00, 0xA700, 0xA722, 0xA788, 0xA78B, 0xA830, 0xA83A, 0xA92E, 0xA92F, 0xA9CF, 0xA9D0,
      0xAB5B, 0xAB5C, 0xAB6A, 0xAB6C, 0xFD3E, 0xFD40, 0xFE10, 0xFE1A, 0xFE30, 0xFE53, 0xFE54,
      0xFE67, 0xFE68, 0xFE6C, 0xFEFF, 0xFF00, 0xFF01, 0xFF21, 0xFF3B, 0xFF41, 0xFF5B, 0xFF66,
      0xFF70, 0xFF71, 0xFF9E, 0xFFA0, 0xFFE0, 0xFFE7, 0xFFE8, 0xFFEF, 0xFFF9, 0xFFFE, 0x10100,
      0x10103, 0x10107, 0x10134, 0x10137, 0x10140, 0x10190, 0x1019D, 0x101D0, 0x101FD, 0x102E1,
      0x102FC, 0x1BCA0, 0x1BCA4, 0x1CC00, 0x1CCFA, 0x1CD00, 0x1CEB4, 0x1CF50, 0x1CFC4, 0x1D000,
      0x1D0F6, 0x1D100, 0x1D127, 0x1D129, 0x1D167, 0x1D16A, 0x1D17B, 0x1D183, 0x1D185, 0x1D18C,
      0x1D1AA, 0x1D1AE, 0x1D1EB, 0x1D2C0, 0x1D2D4, 0x1D2E0, 0x1D2F4, 0x1D300, 0x1D357, 0x1D360,
      0x1D379, 0x1D400, 0x1D455, 0x1D456, 0x1D49D, 0x1D49E, 0x1D4A0, 0x1D4A2, 0x1D4A3, 0x1D4A5,
      0x1D4A7, 0x1D4A9, 0x1D4AD, 0x1D4AE, 0x1D4BA, 0x1D4BB, 0x1D4BC, 0x1D4BD, 0x1D4C4, 0x1D4C5,
      0x1D506, 0x1D507, 0x1D50B, 0x1D50D, 0x1D515, 0x1D516, 0x1D51D, 0x1D51E, 0x1D53A, 0x1D53B,
      0x1D53F, 0x1D540, 0x1D545, 0x1D546, 0x1D547, 0x1D54A, 0x1D551, 0x1D552, 0x1D6A6, 0x1D6A8,
      0x1D7CC, 0x1D7CE, 0x1D800, 0x1EC71, 0x1ECB5, 0x1ED01, 0x1ED3E, 0x1F000, 0x1F02C, 0x1F030,
      0x1F094, 0x1F0A0, 0x1F0AF, 0x1F0B1, 0x1F0C0, 0x1F0C1, 0x1F0D0, 0x1F0D1, 0x1F0F6, 0x1F100,
      0x1F1AE, 0x1F1E6, 0x1F200, 0x1F201, 0x1F203, 0x1F210, 0x1F23C, 0x1F240, 0x1F249, 0x1F250,
      0x1F252, 0x1F260, 0x1F266, 0x1F300, 0x1F6D8, 0x1F6DC, 0x1F6ED, 0x1F6F0, 0x1F6FD, 0x1F700,
      0x1F777, 0x1F77B, 0x1F7DA, 0x1F7E0, 0x1F7EC, 0x1F7F0, 0x1F7F1, 0x1F800, 0x1F80C, 0x1F810,
      0x1F848, 0x1F850, 0x1F85A, 0x1F860, 0x1F888, 0x1F890, 0x1F8AE, 0x1F8B0, 0x1F8BC, 0x1F8C0,
      0x1F8C2, 0x1F900, 0x1FA54, 0x1FA60, 0x1FA6E, 0x1FA70, 0x1FA7D, 0x1FA80, 0x1FA8A, 0x1FA8F,
      0x1FAC7, 0x1FACE, 0x1FADD, 0x1FADF, 0x1FAEA, 0x1FAF0, 0x1FAF9, 0x1FB00, 0x1FB93, 0x1FB94,
      0x1FBFA, 0xE0001, 0xE0002, 0xE0020, 0xE0080]⟩, ⟨#[]⟩⟩,
    ⟨["inherited", "zinh", "qaai"], ⟨#[0x300, 0x370, 0x485, 0x487, 0x64B, 0x656, 0x670, 0x671,
      0x951, 0x955, 0x1AB0, 0x1ACF, 0x1CD0, 0x1CD3, 0x1CD4, 0x1CE1, 0x1CE2, 0x1CE9, 0x1CED, 0x1CEE,
      0x1CF4, 0x1CF5, 0x1CF8, 0x1CFA, 0x1DC0, 0x1E00, 0x200C, 0x200E, 0x20D0, 0x20F1, 0x302A,
      0x302E, 0x3099, 0x309B, 0xFE00, 0xFE10, 0xFE20, 0xFE2E, 0x101FD, 0x101FE, 0x102E0, 0x102E1,
      0x1133B, 0x1133C, 0x1CF00, 0x1CF2E, 0x1CF30, 0x1CF47, 0x1D167, 0x1D16A, 0x1D17B, 0x1D183,
      0x1D185, 0x1D18C, 0x1D1AA, 0x1D1AE, 0xE0100, 0xE01F0]⟩, ⟨#[]⟩⟩]

end Conform.Unicode
