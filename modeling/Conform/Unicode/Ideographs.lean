import Conform.CharSet.Basic

/-! Ideographs and what describes them. -/

namespace Conform.Unicode.Table

def ideographic : CharSet :=
  ⟨#[0x3006, 0x3008, 0x3021, 0x302A, 0x3038, 0x303B, 0x3400, 0x4DC0, 0x4E00, 0xA000, 0xF900, 0xFA6E,
    0xFA70, 0xFADA, 0x16FE4, 0x16FE5, 0x17000, 0x187F8, 0x18800, 0x18CD6, 0x18CFF, 0x18D09, 0x1B170,
    0x1B2FC, 0x20000, 0x2A6E0, 0x2A700, 0x2B73A, 0x2B740, 0x2B81E, 0x2B820, 0x2CEA2, 0x2CEB0,
    0x2EBE1, 0x2EBF0, 0x2EE5E, 0x2F800, 0x2FA1E, 0x30000, 0x3134B, 0x31350, 0x323B0]⟩

def unifiedIdeograph : CharSet :=
  ⟨#[0x3400, 0x4DC0, 0x4E00, 0xA000, 0xFA0E, 0xFA10, 0xFA11, 0xFA12, 0xFA13, 0xFA15, 0xFA1F, 0xFA20,
    0xFA21, 0xFA22, 0xFA23, 0xFA25, 0xFA27, 0xFA2A, 0x20000, 0x2A6E0, 0x2A700, 0x2B73A, 0x2B740,
    0x2B81E, 0x2B820, 0x2CEA2, 0x2CEB0, 0x2EBE1, 0x2EBF0, 0x2EE5E, 0x30000, 0x3134B, 0x31350,
    0x323B0]⟩

def radical : CharSet :=
  ⟨#[0x2E80, 0x2E9A, 0x2E9B, 0x2EF4, 0x2F00, 0x2FD6]⟩

def idsBinaryOperator : CharSet :=
  ⟨#[0x2FF0, 0x2FF2, 0x2FF4, 0x2FFE, 0x31EF, 0x31F0]⟩

def idsTrinaryOperator : CharSet :=
  ⟨#[0x2FF2, 0x2FF4]⟩

def idsUnaryOperator : CharSet :=
  ⟨#[0x2FFE, 0x3000]⟩

end Conform.Unicode.Table
