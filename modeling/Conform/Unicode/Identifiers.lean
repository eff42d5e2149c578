import Conform.CharSet.Basic

/-! What names and patterns in formal languages are made of. -/

namespace Conform.Unicode.Table

def otherIdStart : CharSet :=
  ⟨#[0x1885, 0x1887, 0x2118, 0x2119, 0x212E, 0x212F, 0x309B, 0x309D]⟩

def otherIdContinue : CharSet :=
  ⟨#[0xB7, 0xB8, 0x387, 0x388, 0x1369, 0x1372, 0x19DA, 0x19DB, 0x200C, 0x200E, 0x30FB, 0x30FC,
    0xFF65, 0xFF66]⟩

/-- Starts of names that do not stay so under compatibility normalization. -/
def unstableIdStart : CharSet :=
  ⟨#[0x37A, 0x37B, 0xE33, 0xE34, 0xEB3, 0xEB4, 0x309B, 0x309D, 0xFC5E, 0xFC64, 0xFDFA, 0xFDFC,
    0xFE70, 0xFE71, 0xFE72, 0xFE73, 0xFE74, 0xFE75, 0xFE76, 0xFE77, 0xFE78, 0xFE79, 0xFE7A, 0xFE7B,
    0xFE7C, 0xFE7D, 0xFE7E, 0xFE7F, 0xFF9E, 0xFFA0]⟩

/-- Parts of names that do not stay so under compatibility normalization. -/
def unstableIdContinue : CharSet :=
  ⟨#[0x37A, 0x37B, 0x309B, 0x309D, 0xFC5E, 0xFC64, 0xFDFA, 0xFDFC, 0xFE70, 0xFE71, 0xFE72, 0xFE73,
    0xFE74, 0xFE75, 0xFE76, 0xFE77, 0xFE78, 0xFE79, 0xFE7A, 0xFE7B, 0xFE7C, 0xFE7D, 0xFE7E, 0xFE7F]⟩

def idCompatMathStart : CharSet :=
  ⟨#[0x2202, 0x2203, 0x2207, 0x2208, 0x221E, 0x221F, 0x1D6C1, 0x1D6C2, 0x1D6DB, 0x1D6DC, 0x1D6FB,
    0x1D6FC, 0x1D715, 0x1D716, 0x1D735, 0x1D736, 0x1D74F, 0x1D750, 0x1D76F, 0x1D770, 0x1D789,
    0x1D78A, 0x1D7A9, 0x1D7AA, 0x1D7C3, 0x1D7C4]⟩

def idCompatMathContinue : CharSet :=
  ⟨#[0xB2, 0xB4, 0xB9, 0xBA, 0x2070, 0x2071, 0x2074, 0x207F, 0x2080, 0x208F, 0x2202, 0x2203, 0x2207,
    0x2208, 0x221E, 0x221F, 0x1D6C1, 0x1D6C2, 0x1D6DB, 0x1D6DC, 0x1D6FB, 0x1D6FC, 0x1D715, 0x1D716,
    0x1D735, 0x1D736, 0x1D74F, 0x1D750, 0x1D76F, 0x1D770, 0x1D789, 0x1D78A, 0x1D7A9, 0x1D7AA,
    0x1D7C3, 0x1D7C4]⟩

def patternSyntax : CharSet :=
  ⟨#[0x21, 0x30, 0x3A, 0x41, 0x5B, 0x5F, 0x60, 0x61, 0x7B, 0x7F, 0xA1, 0xA8, 0xA9, 0xAA, 0xAB, 0xAD,
    0xAE, 0xAF, 0xB0, 0xB2, 0xB6, 0xB7, 0xBB, 0xBC, 0xBF, 0xC0, 0xD7, 0xD8, 0xF7, 0xF8, 0x2010,
    0x2028, 0x2030, 0x203F, 0x2041, 0x2054, 0x2055, 0x205F, 0x2190, 0x2460, 0x2500, 0x2776, 0x2794,
    0x2C00, 0x2E00, 0x2E80, 0x3001, 0x3004, 0x3008, 0x3021, 0x3030, 0x3031, 0xFD3E, 0xFD40, 0xFE45,
    0xFE47]⟩

def patternWhiteSpace : CharSet :=
  ⟨#[0x9, 0xE, 0x20, 0x21, 0x85, 0x86, 0x200E, 0x2010, 0x2028, 0x202A]⟩

end Conform.Unicode.Table
