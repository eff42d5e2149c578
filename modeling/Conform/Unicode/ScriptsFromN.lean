import Conform.Unicode.Script

/-! The scripts whose names begin with the letters from N on. -/

set_option maxRecDepth 8000

namespace Conform.Unicode

def scriptsFromN : List Script :=
  [⟨["nabataean", "nbat"], ⟨#[0x10880, 0x1089F, 0x108A7, 0x108B0]⟩, ⟨#[]⟩⟩,
    ⟨["nagmundari", "nagm"], ⟨#[0x1E4D0, 0x1E4FA]⟩, ⟨#[]⟩⟩,
    ⟨["nandinagari", "nand"], ⟨#[0x119A0, 0x119A8, 0x119AA, 0x119D8, 0x119DA, 0x119E5]⟩, ⟨#[0x964,
      0x966, 0xCE6, 0xCF0, 0x1CE9, 0x1CEA, 0x1CF2, 0x1CF3, 0x1CFA, 0x1CFB, 0xA830, 0xA836]⟩⟩,
    ⟨["newtailue", "talu"], ⟨#[0x1980, 0x19AC, 0x19B0, 0x19CA, 0x19D0, 0x19DB, 0x19DE, 0x19E0]⟩,
      ⟨#[]⟩⟩,
    ⟨["newa"], ⟨#[0x11400, 0x1145C, 0x1145D, 0x11462]⟩, ⟨#[]⟩⟩,
    ⟨["nkoo", "nko"], ⟨#[0x7C0, 0x7FB, 0x7FD, 0x800]⟩, ⟨#[0x60C, 0x60D, 0x61B, 0x61C, 0x61F, 0x620,
      0xFD3E, 0xFD40]⟩⟩,
    ⟨["nushu", "nshu"], ⟨#[0x16FE1, 0x16FE2, 0x1B170, 0x1B2FC]⟩, ⟨#[]⟩⟩,
    ⟨["nyiakengpuachuehmong", "hmnp"], ⟨#[0x1E100, 0x1E12D, 0x1E130, 0x1E13E, 0x1E140, 0x1E14A,
      0x1E14E, 0x1E150]⟩, ⟨#[]⟩⟩,
    ⟨["ogham", "ogam"], ⟨#[0x1680, 0x169D]⟩, ⟨#[]⟩⟩,
    ⟨["olchiki", "olck"], ⟨#[0x1C50, 0x1C80]⟩, ⟨#[]⟩⟩,
    ⟨["olonal", "onao"], ⟨#[0x1E5D0, 0x1E5FB, 0x1E5FF, 0x1E600]⟩, ⟨#[0x964, 0x966]⟩⟩,
    ⟨["oldhungarian", "hung"], ⟨#[0x10C80, 0x10CB3, 0x10CC0, 0x10CF3, 0x10CFA, 0x10D00]⟩, ⟨#[0x205A,
      0x205B, 0x205D, 0x205E, 0x2E31, 0x2E32, 0x2E41, 0x2E42]⟩⟩,
    ⟨["olditalic", "ital"], ⟨#[0x10300, 0x10324, 0x1032D, 0x10330]⟩, ⟨#[]⟩⟩,
    ⟨["oldnortharabian", "narb"], ⟨#[0x10A80, 0x10AA0]⟩, ⟨#[]⟩⟩,
    ⟨["oldpermic", "perm"], ⟨#[0x10350, 0x1037B]⟩, ⟨#[0xB7, 0xB8, 0x300, 0x301, 0x306, 0x309, 0x313,
      0x314, 0x483, 0x484]⟩⟩,
    ⟨["oldpersian", "xpeo"], ⟨#[0x103A0, 0x103C4, 0x103C8, 0x103D6]⟩, ⟨#[]⟩⟩,
    ⟨["oldsogdian", "sogo"], ⟨#[0x10F00, 0x10F28]⟩, ⟨#[]⟩⟩,
    ⟨["oldsoutharabian", "sarb"], ⟨#[0x10A60, 0x10A80]⟩, ⟨#[]⟩⟩,
    ⟨["oldturkic", "orkh"], ⟨#[0x10C00, 0x10C49]⟩, ⟨#[0x205A, 0x205B, 0x2E30, 0x2E31]⟩⟩,
    ⟨["olduyghur", "ougr"], ⟨#[0x10F70, 0x10F8A]⟩, ⟨#[0x640, 0x641, 0x10AF2, 0x10AF3]⟩⟩,
    ⟨["oriya", "orya"], ⟨#[0xB01, 0xB04, 0xB05, 0xB0D, 0xB0F, 0xB11, 0xB13, 0xB29, 0xB2A, 0xB31,
      0xB32, 0xB34, 0xB35, 0xB3A, 0xB3C, 0xB45, 0xB47, 0xB49, 0xB4B, 0xB4E, 0xB55, 0xB58, 0xB5C,
      0xB5E, 0xB5F, 0xB64, 0xB66, 0xB78]⟩, ⟨#[0x951, 0x953, 0x964, 0x966, 0x1CDA, 0x1CDB, 0x1CF2,
      0x1CF3]⟩⟩,
    ⟨["osage", "osge"], ⟨#[0x104B0, 0x104D4, 0x104D8, 0x104FC]⟩, ⟨#[0x301, 0x302, 0x304, 0x305,
      0x30B, 0x30C, 0x358, 0x359]⟩⟩,
    ⟨["osmanya", "osma"], ⟨#[0x10480, 0x1049E, 0x104A0, 0x104AA]⟩, ⟨#[]⟩⟩,
    ⟨["pahawhhmong", "hmng"], ⟨#[0x16B00, 0x16B46, 0x16B50, 0x16B5A, 0x16B5B, 0x16B62, 0x16B63,
      0x16B78, 0x16B7D, 0x16B90]⟩, ⟨#[]⟩⟩,
    ⟨["palmyrene", "palm"], ⟨#[0x10860, 0x10880]⟩, ⟨#[]⟩⟩,
    ⟨["paucinhau", "pauc"], ⟨#[0x11AC0, 0x11AF9]⟩, ⟨#[]⟩⟩,
    ⟨["phagspa", "phag"], ⟨#[0xA840, 0xA878]⟩, ⟨#[0x1802, 0x1804, 0x1805, 0x1806, 0x202F, 0x2030,
      0x3002, 0x3003]⟩⟩,
    ⟨["phoenician", "phnx"], ⟨#[0x10900, 0x1091C, 0x1091F, 0x10920]⟩, ⟨#[]⟩⟩,
    ⟨["psalterpahlavi", "phlp"], ⟨#[0x10B80, 0x10B92, 0x10B99, 0x10B9D, 0x10BA9, 0x10BB0]⟩,
      ⟨#[0x640, 0x641]⟩⟩,
    ⟨["rejang", "rjng"], ⟨#[0xA930, 0xA954, 0xA95F, 0xA960]⟩, ⟨#[]⟩⟩,
    ⟨["runic", "runr"], ⟨#[0x16A0, 0x16EB, 0x16EE, 0x16F9]⟩, ⟨#[0x16EB, 0x16EE]⟩⟩,
    ⟨["samaritan", "samr"], ⟨#[0x800, 0x82E, 0x830, 0x83F]⟩, ⟨#[0x2E31, 0x2E32]⟩⟩,
    ⟨["saurashtra", "saur"], ⟨#[0xA880, 0xA8C6, 0xA8CE, 0xA8DA]⟩, ⟨#[]⟩⟩,
    ⟨["sharada", "shrd"], ⟨#[0x11180, 0x111E0]⟩, ⟨#[0x951, 0x952, 0x1CD7, 0x1CD8, 0x1CD9, 0x1CDA,
      0x1CDC, 0x1CDE, 0x1CE0, 0x1CE1, 0xA830, 0xA836, 0xA838, 0xA839]⟩⟩,
    ⟨["shavian", "shaw"], ⟨#[0x10450, 0x10480]⟩, ⟨#[0xB7, 0xB8]⟩⟩,
    ⟨["siddham", "sidd"], ⟨#[0x11580, 0x115B6, 0x115B8, 0x115DE]⟩, ⟨#[]⟩⟩,
    ⟨["signwriting", "sgnw"], ⟨#[0x1D800, 0x1DA8C, 0x1DA9B, 0x1DAA0, 0x1DAA1, 0x1DAB0]⟩, ⟨#[]⟩⟩,
    ⟨["sinhala", "sinh"], ⟨#[0xD81, 0xD84, 0xD85, 0xD97, 0xD9A, 0xDB2, 0xDB3, 0xDBC, 0xDBD, 0xDBE,
      0xDC0, 0xDC7, 0xDCA, 0xDCB, 0xDCF, 0xDD5, 0xDD6, 0xDD7, 0xDD8, 0xDE0, 0xDE6, 0xDF0, 0xDF2,
      0xDF5, 0x111E1, 0x111F5]⟩, ⟨#[0x964, 0x966, 0x1CF2, 0x1CF3]⟩⟩,
    ⟨["sogdian", "sogd"], ⟨#[0x10F30, 0x10F5A]⟩, ⟨#[0x640, 0x641]⟩⟩,
    ⟨["sorasompeng", "sora"], ⟨#[0x110D0, 0x110E9, 0x110F0, 0x110FA]⟩, ⟨#[]⟩⟩,
    ⟨["soyombo", "soyo"], ⟨#[0x11A50, 0x11AA3]⟩, ⟨#[]⟩⟩,
    ⟨["sundanese", "sund"], ⟨#[0x1B80, 0x1BC0, 0x1CC0, 0x1CC8]⟩, ⟨#[]⟩⟩,
    ⟨["sunuwar", "sunu"], ⟨#[0x11BC0, 0x11BE2, 0x11BF0, 0x11BFA]⟩, ⟨#[0x300, 0x302, 0x303, 0x304,
      0x30D, 0x30E, 0x310, 0x311, 0x32D, 0x32E, 0x331, 0x332]⟩⟩,
    ⟨["sylotinagri", "sylo"], ⟨#[0xA800, 0xA82D]⟩, ⟨#[0x964, 0x966, 0x9E6, 0x9F0]⟩⟩,
    ⟨["syriac", "syrc"], ⟨#[0x700, 0x70E, 0x70F, 0x74B, 0x74D, 0x750, 0x860, 0x86B]⟩, ⟨#[0x303,
      0x305, 0x307, 0x309, 0x30A, 0x30B, 0x320, 0x321, 0x323, 0x326, 0x32D, 0x32F, 0x330, 0x331,
      0x60C, 0x60D, 0x61B, 0x61D, 0x61F, 0x620, 0x640, 0x641, 0x64B, 0x656, 0x670, 0x671, 0x1DF8,
      0x1DF9, 0x1DFA, 0x1DFB]⟩⟩,
    ⟨["tagalog", "tglg"], ⟨#[0x1700, 0x1716, 0x171F, 0x1720]⟩, ⟨#[0x1735, 0x1737]⟩⟩,
    ⟨["tagbanwa", "tagb"], ⟨#[0x1760, 0x176D, 0x176E, 0x1771, 0x1772, 0x1774]⟩, ⟨#[0x1735,
      0x1737]⟩⟩,
    ⟨["taile", "tale"], ⟨#[0x1950, 0x196E, 0x1970, 0x1975]⟩, ⟨#[0x300, 0x302, 0x307, 0x309, 0x30C,
      0x30D, 0x1040, 0x104A]⟩⟩,
    ⟨["taitham", "lana"], ⟨#[0x1A20, 0x1A5F, 0x1A60, 0x1A7D, 0x1A7F, 0x1A8A, 0x1A90, 0x1A9A, 0x1AA0,
      0x1AAE]⟩, ⟨#[]⟩⟩,
    ⟨["taiviet", "tavt"], ⟨#[0xAA80, 0xAAC3, 0xAADB, 0xAAE0]⟩, ⟨#[]⟩⟩,
    ⟨["takri", "takr"], ⟨#[0x11680, 0x116BA, 0x116C0, 0x116CA]⟩, ⟨#[0x964, 0x966, 0xA830, 0xA83A]⟩⟩,
    ⟨["tamil", "taml"], ⟨#[0xB82, 0xB84, 0xB85, 0xB8B, 0xB8E, 0xB91, 0xB92, 0xB96, 0xB99, 0xB9B,
      0xB9C, 0xB9D, 0xB9E, 0xBA0, 0xBA3, 0xBA5, 0xBA8, 0xBAB, 0xBAE, 0xBBA, 0xBBE, 0xBC3, 0xBC6,
      0xBC9, 0xBCA, 0xBCE, 0xBD0, 0xBD1, 0xBD7, 0xBD8, 0xBE6, 0xBFB, 0x11FC0, 0x11FF2, 0x11FFF,
      0x12000]⟩, ⟨#[0x951, 0x953, 0x964, 0x966, 0x1CDA, 0x1CDB, 0xA8F3, 0xA8F4, 0x11301, 0x11302,
      0x11303, 0x11304, 0x1133B, 0x1133D]⟩⟩,
    ⟨["tangsa", "tnsa"], ⟨#[0x16A70, 0x16ABF, 0x16AC0, 0x16ACA]⟩, ⟨#[]⟩⟩,
    ⟨["tangut", "tang"], ⟨#[0x16FE0, 0x16FE1, 0x17000, 0x187F8, 0x18800, 0x18B00, 0x18D00,
      0x18D09]⟩, ⟨#[0x2FF0, 0x3000, 0x31EF, 0x31F0]⟩⟩,
    ⟨["telugu", "telu"], ⟨#[0xC00, 0xC0D, 0xC0E, 0xC11, 0xC12, 0xC29, 0xC2A, 0xC3A, 0xC3C, 0xC45,
      0xC46, 0xC49, 0xC4A, 0xC4E, 0xC55, 0xC57, 0xC58, 0xC5B, 0xC5D, 0xC5E, 0xC60, 0xC64, 0xC66,
      0xC70, 0xC77, 0xC80]⟩, ⟨#[0x951, 0x953, 0x964, 0x966, 0x1CDA, 0x1CDB, 0x1CF2, 0x1CF3]⟩⟩,
    ⟨["thaana", "thaa"], ⟨#[0x780, 0x7B2]⟩, ⟨#[0x60C, 0x60D, 0x61B, 0x61D, 0x61F, 0x620, 0x660,
      0x66A, 0xFDF2, 0xFDF3, 0xFDFD, 0xFDFE]⟩⟩,
    ⟨["thai"], ⟨#[0xE01, 0xE3B, 0xE40, 0xE5C]⟩, ⟨#[0x2BC, 0x2BD, 0x2D7, 0x2D8, 0x303, 0x304, 0x331,
      0x332]⟩⟩,
    ⟨["tibetan", "tibt"], ⟨#[0xF00, 0xF48, 0xF49, 0xF6D, 0xF71, 0xF98, 0xF99, 0xFBD, 0xFBE, 0xFCD,
      0xFCE, 0xFD5, 0xFD9, 0xFDB]⟩, ⟨#[0x3008, 0x300C]⟩⟩,
    ⟨["tifinagh", "tfng"], ⟨#[0x2D30, 0x2D68, 0x2D6F, 0x2D71, 0x2D7F, 0x2D80]⟩, ⟨#[0x302, 0x303,
      0x304, 0x305, 0x307, 0x308, 0x309, 0x30A]⟩⟩,
    ⟨["tirhuta", "tirh"], ⟨#[0x11480, 0x114C8, 0x114D0, 0x114DA]⟩, ⟨#[0x951, 0x953, 0x964, 0x966,
      0x1CF2, 0x1CF3, 0xA830, 0xA83A]⟩⟩,
    ⟨["todhri", "todr"], ⟨#[0x105C0, 0x105F4]⟩, ⟨#[0x301, 0x302, 0x304, 0x305, 0x307, 0x308, 0x311,
      0x312, 0x313, 0x314, 0x35E, 0x35F]⟩⟩,
    ⟨["toto"], ⟨#[0x1E290, 0x1E2AF]⟩, ⟨#[0x2BC, 0x2BD]⟩⟩,
    ⟨["tulutigalari", "tutg"], ⟨#[0x11380, 0x1138A, 0x1138B, 0x1138C, 0x1138E, 0x1138F, 0x11390,
      0x113B6, 0x113B7, 0x113C1, 0x113C2, 0x113C3, 0x113C5, 0x113C6, 0x113C7, 0x113CB, 0x113CC,
      0x113D6, 0x113D7, 0x113D9, 0x113E1, 0x113E3]⟩, ⟨#[0xCE6, 0xCF0, 0x1CF2, 0x1CF3, 0x1CF4,
      0x1CF5, 0xA830, 0xA836, 0xA8F1, 0xA8F2]⟩⟩,
    ⟨["ugaritic", "ugar"], ⟨#[0x10380, 0x1039E, 0x1039F, 0x103A0]⟩, ⟨#[]⟩⟩,
    ⟨["vaii", "vai"], ⟨#[0xA500, 0xA62C]⟩, ⟨#[]⟩⟩,
    ⟨["vithkuqi", "vith"], ⟨#[0x10570, 0x1057B, 0x1057C, 0x1058B, 0x1058C, 0x10593, 0x10594,
      0x10596, 0x10597, 0x105A2, 0x105A3, 0x105B2, 0x105B3, 0x105BA, 0x105BB, 0x105BD]⟩, ⟨#[]⟩⟩,
    ⟨["wancho", "wcho"], ⟨#[0x1E2C0, 0x1E2FA, 0x1E2FF, 0x1E300]⟩, ⟨#[]⟩⟩,
    ⟨["warangciti", "wara"], ⟨#[0x118A0, 0x118F3, 0x118FF, 0x11900]⟩, ⟨#[]⟩⟩,
    ⟨["yezidi", "yezi"], ⟨#[0x10E80, 0x10EAA, 0x10EAB, 0x10EAE, 0x10EB0, 0x10EB2]⟩, ⟨#[0x60C, 0x60D,
      0x61B, 0x61C, 0x61F, 0x620, 0x660, 0x66A]⟩⟩,
    ⟨["yiii", "yi"], ⟨#[0xA000, 0xA48D, 0xA490, 0xA4C7]⟩, ⟨#[0x3001, 0x3003, 0x3008, 0x3012, 0x3014,
      0x301C, 0x30FB, 0x30FC, 0xFF61, 0xFF66]⟩⟩,
    ⟨["zanabazarsquare", "zanb"], ⟨#[0x11A00, 0x11A48]⟩, ⟨#[]⟩⟩]

end Conform.Unicode
