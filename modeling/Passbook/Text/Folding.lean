import Passbook.Text.Ranges

/-!
Folding: characters that stand for others. A capital letter stands for a small one, a letter or
digit in a special shape for the plain one. Tables tell which characters beyond ASCII are folded at
all, and which of them become ASCII.
-/

set_option autoImplicit false

namespace Passbook.Text

/-- First and last code points of the ranges of folded characters, in turn. -/
def foldedBounds : Array Nat := #[
  0xAA, 0xAA, 0xB2, 0xB3, 0xB5, 0xB5, 0xB9, 0xBA, 0xBC, 0xBE, 0xC0, 0xD6, 0xD8, 0xDE,
    0x100, 0x100, 0x102,
  0x102, 0x104, 0x104, 0x106, 0x106, 0x108, 0x108, 0x10A, 0x10A, 0x10C, 0x10C, 0x10E,
    0x10E, 0x110, 0x110,
  0x112, 0x112, 0x114, 0x114, 0x116, 0x116, 0x118, 0x118, 0x11A, 0x11A, 0x11C, 0x11C,
    0x11E, 0x11E, 0x120,
  0x120, 0x122, 0x122, 0x124, 0x124, 0x126, 0x126, 0x128, 0x128, 0x12A, 0x12A, 0x12C,
    0x12C, 0x12E, 0x12E,
  0x130, 0x130, 0x132, 0x134, 0x136, 0x136, 0x139, 0x139, 0x13B, 0x13B, 0x13D, 0x13D,
    0x13F, 0x141, 0x143,
  0x143, 0x145, 0x145, 0x147, 0x147, 0x149, 0x14A, 0x14C, 0x14C, 0x14E, 0x14E, 0x150,
    0x150, 0x152, 0x152,
  0x154, 0x154, 0x156, 0x156, 0x158, 0x158, 0x15A, 0x15A, 0x15C, 0x15C, 0x15E, 0x15E,
    0x160, 0x160, 0x162,
  0x162, 0x164, 0x164, 0x166, 0x166, 0x168, 0x168, 0x16A, 0x16A, 0x16C, 0x16C, 0x16E,
    0x16E, 0x170, 0x170,
  0x172, 0x172, 0x174, 0x174, 0x176, 0x176, 0x178, 0x179, 0x17B, 0x17B, 0x17D, 0x17D,
    0x17F, 0x17F, 0x181,
  0x182, 0x184, 0x184, 0x186, 0x187, 0x189, 0x18B, 0x18E, 0x191, 0x193, 0x194, 0x196,
    0x198, 0x19C, 0x19D,
  0x19F, 0x1A0, 0x1A2, 0x1A2, 0x1A4, 0x1A4, 0x1A6, 0x1A7, 0x1A9, 0x1A9, 0x1AC, 0x1AC,
    0x1AE, 0x1AF, 0x1B1,
  0x1B3, 0x1B5, 0x1B5, 0x1B7, 0x1B8, 0x1BC, 0x1BC, 0x1C4, 0x1CD, 0x1CF, 0x1CF, 0x1D1,
    0x1D1, 0x1D3, 0x1D3,
  0x1D5, 0x1D5, 0x1D7, 0x1D7, 0x1D9, 0x1D9, 0x1DB, 0x1DB, 0x1DE, 0x1DE, 0x1E0, 0x1E0,
    0x1E2, 0x1E2, 0x1E4,
  0x1E4, 0x1E6, 0x1E6, 0x1E8, 0x1E8, 0x1EA, 0x1EA, 0x1EC, 0x1EC, 0x1EE, 0x1EE, 0x1F1,
    0x1F4, 0x1F6, 0x1F8,
  0x1FA, 0x1FA, 0x1FC, 0x1FC, 0x1FE, 0x1FE, 0x200, 0x200, 0x202, 0x202, 0x204, 0x204,
    0x206, 0x206, 0x208,
  0x208, 0x20A, 0x20A, 0x20C, 0x20C, 0x20E, 0x20E, 0x210, 0x210, 0x212, 0x212, 0x214,
    0x214, 0x216, 0x216,
  0x218, 0x218, 0x21A, 0x21A, 0x21C, 0x21C, 0x21E, 0x21E, 0x220, 0x220, 0x222, 0x222,
    0x224, 0x224, 0x226,
  0x226, 0x228, 0x228, 0x22A, 0x22A, 0x22C, 0x22C, 0x22E, 0x22E, 0x230, 0x230, 0x232,
    0x232, 0x23A, 0x23B,
  0x23D, 0x23E, 0x241, 0x241, 0x243, 0x246, 0x248, 0x248, 0x24A, 0x24A, 0x24C, 0x24C,
    0x24E, 0x24E, 0x2B0,
  0x2B8, 0x2E0, 0x2E4, 0x340, 0x341, 0x343, 0x345, 0x370, 0x370, 0x372, 0x372, 0x374,
    0x374, 0x376, 0x376,
  0x37E, 0x37F, 0x386, 0x38A, 0x38C, 0x38C, 0x38E, 0x38F, 0x391, 0x3A1, 0x3A3, 0x3AB,
    0x3CF, 0x3D6, 0x3D8,
  0x3D8, 0x3DA, 0x3DA, 0x3DC, 0x3DC, 0x3DE, 0x3DE, 0x3E0, 0x3E0, 0x3E2, 0x3E2, 0x3E4,
    0x3E4, 0x3E6, 0x3E6,
  0x3E8, 0x3E8, 0x3EA, 0x3EA, 0x3EC, 0x3EC, 0x3EE, 0x3EE, 0x3F0, 0x3F2, 0x3F4, 0x3F5,
    0x3F7, 0x3F7, 0x3F9,
  0x3FA, 0x3FD, 0x42F, 0x460, 0x460, 0x462, 0x462, 0x464, 0x464, 0x466, 0x466, 0x468,
    0x468, 0x46A, 0x46A,
  0x46C, 0x46C, 0x46E, 0x46E, 0x470, 0x470, 0x472, 0x472, 0x474, 0x474, 0x476, 0x476,
    0x478, 0x478, 0x47A,
  0x47A, 0x47C, 0x47C, 0x47E, 0x47E, 0x480, 0x480, 0x48A, 0x48A, 0x48C, 0x48C, 0x48E,
    0x48E, 0x490, 0x490,
  0x492, 0x492, 0x494, 0x494, 0x496, 0x496, 0x498, 0x498, 0x49A, 0x49A, 0x49C, 0x49C,
    0x49E, 0x49E, 0x4A0,
  0x4A0, 0x4A2, 0x4A2, 0x4A4, 0x4A4, 0x4A6, 0x4A6, 0x4A8, 0x4A8, 0x4AA, 0x4AA, 0x4AC,
    0x4AC, 0x4AE, 0x4AE,
  0x4B0, 0x4B0, 0x4B2, 0x4B2, 0x4B4, 0x4B4, 0x4B6, 0x4B6, 0x4B8, 0x4B8, 0x4BA, 0x4BA,
    0x4BC, 0x4BC, 0x4BE,
  0x4BE, 0x4C0, 0x4C1, 0x4C3, 0x4C3, 0x4C5, 0x4C5, 0x4C7, 0x4C7, 0x4C9, 0x4C9, 0x4CB,
    0x4CB, 0x4CD, 0x4CD,
  0x4D0, 0x4D0, 0x4D2, 0x4D2, 0x4D4, 0x4D4, 0x4D6, 0x4D6, 0x4D8, 0x4D8, 0x4DA, 0x4DA,
    0x4DC, 0x4DC, 0x4DE,
  0x4DE, 0x4E0, 0x4E0, 0x4E2, 0x4E2, 0x4E4, 0x4E4, 0x4E6, 0x4E6, 0x4E8, 0x4E8, 0x4EA,
    0x4EA, 0x4EC, 0x4EC,
  0x4EE, 0x4EE, 0x4F0, 0x4F0, 0x4F2, 0x4F2, 0x4F4, 0x4F4, 0x4F6, 0x4F6, 0x4F8, 0x4F8,
    0x4FA, 0x4FA, 0x4FC,
  0x4FC, 0x4FE, 0x4FE, 0x500, 0x500, 0x502, 0x502, 0x504, 0x504, 0x506, 0x506, 0x508,
    0x508, 0x50A, 0x50A,
  0x50C, 0x50C, 0x50E, 0x50E, 0x510, 0x510, 0x512, 0x512, 0x514, 0x514, 0x516, 0x516,
    0x518, 0x518, 0x51A,
  0x51A, 0x51C, 0x51C, 0x51E, 0x51E, 0x520, 0x520, 0x522, 0x522, 0x524, 0x524, 0x526,
    0x526, 0x528, 0x528,
  0x52A, 0x52A, 0x52C, 0x52C, 0x52E, 0x52E, 0x531, 0x556, 0x587, 0x587, 0x675, 0x678,
    0x958, 0x95F, 0x9DC,
  0x9DD, 0x9DF, 0x9DF, 0xA33, 0xA33, 0xA36, 0xA36, 0xA59, 0xA5B, 0xA5E, 0xA5E, 0xB5C,
    0xB5D, 0xE33, 0xE33,
  0xEB3, 0xEB3, 0xEDC, 0xEDD, 0xF0C, 0xF0C, 0xF43, 0xF43, 0xF4D, 0xF4D, 0xF52, 0xF52,
    0xF57, 0xF57, 0xF5C,
  0xF5C, 0xF69, 0xF69, 0xF73, 0xF73, 0xF75, 0xF79, 0xF81, 0xF81, 0xF93, 0xF93, 0xF9D,
    0xF9D, 0xFA2, 0xFA2,
  0xFA7, 0xFA7, 0xFAC, 0xFAC, 0xFB9, 0xFB9, 0x10A0, 0x10C5, 0x10C7, 0x10C7, 0x10CD,
    0x10CD, 0x10FC, 0x10FC,
  0x13F8, 0x13FD, 0x1C80, 0x1C89, 0x1C90, 0x1CBA, 0x1CBD, 0x1CBF, 0x1D2C, 0x1D2E,
    0x1D30, 0x1D3A, 0x1D3C,
  0x1D4D, 0x1D4F, 0x1D6A, 0x1D78, 0x1D78, 0x1D9B, 0x1DBF, 0x1E00, 0x1E00, 0x1E02,
    0x1E02, 0x1E04, 0x1E04,
  0x1E06, 0x1E06, 0x1E08, 0x1E08, 0x1E0A, 0x1E0A, 0x1E0C, 0x1E0C, 0x1E0E, 0x1E0E,
    0x1E10, 0x1E10, 0x1E12,
  0x1E12, 0x1E14, 0x1E14, 0x1E16, 0x1E16, 0x1E18, 0x1E18, 0x1E1A, 0x1E1A, 0x1E1C,
    0x1E1C, 0x1E1E, 0x1E1E,
  0x1E20, 0x1E20, 0x1E22, 0x1E22, 0x1E24, 0x1E24, 0x1E26, 0x1E26, 0x1E28, 0x1E28,
    0x1E2A, 0x1E2A, 0x1E2C,
  0x1E2C, 0x1E2E, 0x1E2E, 0x1E30, 0x1E30, 0x1E32, 0x1E32, 0x1E34, 0x1E34, 0x1E36,
    0x1E36, 0x1E38, 0x1E38,
  0x1E3A, 0x1E3A, 0x1E3C, 0x1E3C, 0x1E3E, 0x1E3E, 0x1E40, 0x1E40, 0x1E42, 0x1E42,
    0x1E44, 0x1E44, 0x1E46,
  0x1E46, 0x1E48, 0x1E48, 0x1E4A, 0x1E4A, 0x1E4C, 0x1E4C, 0x1E4E, 0x1E4E, 0x1E50,
    0x1E50, 0x1E52, 0x1E52,
  0x1E54, 0x1E54, 0x1E56, 0x1E56, 0x1E58, 0x1E58, 0x1E5A, 0x1E5A, 0x1E5C, 0x1E5C,
    0x1E5E, 0x1E5E, 0x1E60,
  0x1E60, 0x1E62, 0x1E62, 0x1E64, 0x1E64, 0x1E66, 0x1E66, 0x1E68, 0x1E68, 0x1E6A,
    0x1E6A, 0x1E6C, 0x1E6C,
  0x1E6E, 0x1E6E, 0x1E70, 0x1E70, 0x1E72, 0x1E72, 0x1E74, 0x1E74, 0x1E76, 0x1E76,
    0x1E78, 0x1E78, 0x1E7A,
  0x1E7A, 0x1E7C, 0x1E7C, 0x1E7E, 0x1E7E, 0x1E80, 0x1E80, 0x1E82, 0x1E82, 0x1E84,
    0x1E84, 0x1E86, 0x1E86,
  0x1E88, 0x1E88, 0x1E8A, 0x1E8A, 0x1E8C, 0x1E8C, 0x1E8E, 0x1E8E, 0x1E90, 0x1E90,
    0x1E92, 0x1E92, 0x1E94,
  0x1E94, 0x1E9A, 0x1E9B, 0x1E9E, 0x1E9E, 0x1EA0, 0x1EA0, 0x1EA2, 0x1EA2, 0x1EA4,
    0x1EA4, 0x1EA6, 0x1EA6,
  0x1EA8, 0x1EA8, 0x1EAA, 0x1EAA, 0x1EAC, 0x1EAC, 0x1EAE, 0x1EAE, 0x1EB0, 0x1EB0,
    0x1EB2, 0x1EB2, 0x1EB4,
  0x1EB4, 0x1EB6, 0x1EB6, 0x1EB8, 0x1EB8, 0x1EBA, 0x1EBA, 0x1EBC, 0x1EBC, 0x1EBE,
    0x1EBE, 0x1EC0, 0x1EC0,
  0x1EC2, 0x1EC2, 0x1EC4, 0x1EC4, 0x1EC6, 0x1EC6, 0x1EC8, 0x1EC8, 0x1ECA, 0x1ECA,
    0x1ECC, 0x1ECC, 0x1ECE,
  0x1ECE, 0x1ED0, 0x1ED0, 0x1ED2, 0x1ED2, 0x1ED4, 0x1ED4, 0x1ED6, 0x1ED6, 0x1ED8,
    0x1ED8, 0x1EDA, 0x1EDA,
  0x1EDC, 0x1EDC, 0x1EDE, 0x1EDE, 0x1EE0, 0x1EE0, 0x1EE2, 0x1EE2, 0x1EE4, 0x1EE4,
    0x1EE6, 0x1EE6, 0x1EE8,
  0x1EE8, 0x1EEA, 0x1EEA, 0x1EEC, 0x1EEC, 0x1EEE, 0x1EEE, 0x1EF0, 0x1EF0, 0x1EF2,
    0x1EF2, 0x1EF4, 0x1EF4,
  0x1EF6, 0x1EF6, 0x1EF8, 0x1EF8, 0x1EFA, 0x1EFA, 0x1EFC, 0x1EFC, 0x1EFE, 0x1EFE,
    0x1F08, 0x1F0F, 0x1F18,
  0x1F1D, 0x1F28, 0x1F2F, 0x1F38, 0x1F3F, 0x1F48, 0x1F4D, 0x1F59, 0x1F59, 0x1F5B,
    0x1F5B, 0x1F5D, 0x1F5D,
  0x1F5F, 0x1F5F, 0x1F68, 0x1F6F, 0x1F71, 0x1F71, 0x1F73, 0x1F73, 0x1F75, 0x1F75,
    0x1F77, 0x1F77, 0x1F79,
  0x1F79, 0x1F7B, 0x1F7B, 0x1F7D, 0x1F7D, 0x1F80, 0x1FAF, 0x1FB2, 0x1FB4, 0x1FB7,
    0x1FBC, 0x1FBE, 0x1FBE,
  0x1FC2, 0x1FC4, 0x1FC7, 0x1FCC, 0x1FD3, 0x1FD3, 0x1FD8, 0x1FDB, 0x1FE3, 0x1FE3,
    0x1FE8, 0x1FEC, 0x1FEF,
  0x1FEF, 0x1FF2, 0x1FF4, 0x1FF7, 0x1FFC, 0x2011, 0x2011, 0x2033, 0x2034, 0x2036,
    0x2037, 0x203C, 0x203C,
  0x2057, 0x2057, 0x2070, 0x2071, 0x2074, 0x208E, 0x2090, 0x209C, 0x20A8, 0x20A8,
    0x2102, 0x2103, 0x2107,
  0x2107, 0x2109, 0x2113, 0x2115, 0x2116, 0x2119, 0x211D, 0x2120, 0x2122, 0x2124,
    0x2124, 0x2126, 0x2126,
  0x2128, 0x2128, 0x212A, 0x212D, 0x212F, 0x2139, 0x213B, 0x2140, 0x2145, 0x2149,
    0x2150, 0x217F, 0x2183,
  0x2183, 0x2189, 0x2189, 0x222C, 0x222D, 0x222F, 0x2230, 0x2329, 0x232A, 0x2460,
    0x2487, 0x249C, 0x24EA,
  0x2A0C, 0x2A0C, 0x2A75, 0x2A76, 0x2ADC, 0x2ADC, 0x2C00, 0x2C2F, 0x2C60, 0x2C60,
    0x2C62, 0x2C64, 0x2C67,
  0x2C67, 0x2C69, 0x2C69, 0x2C6B, 0x2C6B, 0x2C6D, 0x2C70, 0x2C72, 0x2C72, 0x2C75,
    0x2C75, 0x2C7C, 0x2C80,
  0x2C82, 0x2C82, 0x2C84, 0x2C84, 0x2C86, 0x2C86, 0x2C88, 0x2C88, 0x2C8A, 0x2C8A,
    0x2C8C, 0x2C8C, 0x2C8E,
  0x2C8E, 0x2C90, 0x2C90, 0x2C92, 0x2C92, 0x2C94, 0x2C94, 0x2C96, 0x2C96, 0x2C98,
    0x2C98, 0x2C9A, 0x2C9A,
  0x2C9C, 0x2C9C, 0x2C9E, 0x2C9E, 0x2CA0, 0x2CA0, 0x2CA2, 0x2CA2, 0x2CA4, 0x2CA4,
    0x2CA6, 0x2CA6, 0x2CA8,
  0x2CA8, 0x2CAA, 0x2CAA, 0x2CAC, 0x2CAC, 0x2CAE, 0x2CAE, 0x2CB0, 0x2CB0, 0x2CB2,
    0x2CB2, 0x2CB4, 0x2CB4,
  0x2CB6, 0x2CB6, 0x2CB8, 0x2CB8, 0x2CBA, 0x2CBA, 0x2CBC, 0x2CBC, 0x2CBE, 0x2CBE,
    0x2CC0, 0x2CC0, 0x2CC2,
  0x2CC2, 0x2CC4, 0x2CC4, 0x2CC6, 0x2CC6, 0x2CC8, 0x2CC8, 0x2CCA, 0x2CCA, 0x2CCC,
    0x2CCC, 0x2CCE, 0x2CCE,
  0x2CD0, 0x2CD0, 0x2CD2, 0x2CD2, 0x2CD4, 0x2CD4, 0x2CD6, 0x2CD6, 0x2CD8, 0x2CD8,
    0x2CDA, 0x2CDA, 0x2CDC,
  0x2CDC, 0x2CDE, 0x2CDE, 0x2CE0, 0x2CE0, 0x2CE2, 0x2CE2, 0x2CEB, 0x2CEB, 0x2CED,
    0x2CED, 0x2CF2, 0x2CF2,
  0x2D6F, 0x2D6F, 0x2E9F, 0x2E9F, 0x2EF3, 0x2EF3, 0x2F00, 0x2FD5, 0x3002, 0x3002,
    0x3036, 0x3036, 0x3038,
  0x303A, 0x309F, 0x309F, 0x30FF, 0x30FF, 0x3131, 0x3163, 0x3165, 0x318E, 0x3192,
    0x319F, 0x3200, 0x321E,
  0x3220, 0x3247, 0x3250, 0x327E, 0x3280, 0x33C1, 0x33C3, 0x33C6, 0x33C8, 0x33D7,
    0x33D9, 0x33FF, 0xA640,
  0xA640, 0xA642, 0xA642, 0xA644, 0xA644, 0xA646, 0xA646, 0xA648, 0xA648, 0xA64A,
    0xA64A, 0xA64C, 0xA64C,
  0xA64E, 0xA64E, 0xA650, 0xA650, 0xA652, 0xA652, 0xA654, 0xA654, 0xA656, 0xA656,
    0xA658, 0xA658, 0xA65A,
  0xA65A, 0xA65C, 0xA65C, 0xA65E, 0xA65E, 0xA660, 0xA660, 0xA662, 0xA662, 0xA664,
    0xA664, 0xA666, 0xA666,
  0xA668, 0xA668, 0xA66A, 0xA66A, 0xA66C, 0xA66C, 0xA680, 0xA680, 0xA682, 0xA682,
    0xA684, 0xA684, 0xA686,
  0xA686, 0xA688, 0xA688, 0xA68A, 0xA68A, 0xA68C, 0xA68C, 0xA68E, 0xA68E, 0xA690,
    0xA690, 0xA692, 0xA692,
  0xA694, 0xA694, 0xA696, 0xA696, 0xA698, 0xA698, 0xA69A, 0xA69A, 0xA69C, 0xA69D,
    0xA722, 0xA722, 0xA724,
  0xA724, 0xA726, 0xA726, 0xA728, 0xA728, 0xA72A, 0xA72A, 0xA72C, 0xA72C, 0xA72E,
    0xA72E, 0xA732, 0xA732,
  0xA734, 0xA734, 0xA736, 0xA736, 0xA738, 0xA738, 0xA73A, 0xA73A, 0xA73C, 0xA73C,
    0xA73E, 0xA73E, 0xA740,
  0xA740, 0xA742, 0xA742, 0xA744, 0xA744, 0xA746, 0xA746, 0xA748, 0xA748, 0xA74A,
    0xA74A, 0xA74C, 0xA74C,
  0xA74E, 0xA74E, 0xA750, 0xA750, 0xA752, 0xA752, 0xA754, 0xA754, 0xA756, 0xA756,
    0xA758, 0xA758, 0xA75A,
  0xA75A, 0xA75C, 0xA75C, 0xA75E, 0xA75E, 0xA760, 0xA760, 0xA762, 0xA762, 0xA764,
    0xA764, 0xA766, 0xA766,
  0xA768, 0xA768, 0xA76A, 0xA76A, 0xA76C, 0xA76C, 0xA76E, 0xA76E, 0xA770, 0xA770,
    0xA779, 0xA779, 0xA77B,
  0xA77B, 0xA77D, 0xA77E, 0xA780, 0xA780, 0xA782, 0xA782, 0xA784, 0xA784, 0xA786,
    0xA786, 0xA78B, 0xA78B,
  0xA78D, 0xA78D, 0xA790, 0xA790, 0xA792, 0xA792, 0xA796, 0xA796, 0xA798, 0xA798,
    0xA79A, 0xA79A, 0xA79C,
  0xA79C, 0xA79E, 0xA79E, 0xA7A0, 0xA7A0, 0xA7A2, 0xA7A2, 0xA7A4, 0xA7A4, 0xA7A6,
    0xA7A6, 0xA7A8, 0xA7A8,
  0xA7AA, 0xA7AE, 0xA7B0, 0xA7B4, 0xA7B6, 0xA7B6, 0xA7B8, 0xA7B8, 0xA7BA, 0xA7BA,
    0xA7BC, 0xA7BC, 0xA7BE,
  0xA7BE, 0xA7C0, 0xA7C0, 0xA7C2, 0xA7C2, 0xA7C4, 0xA7C7, 0xA7C9, 0xA7C9, 0xA7CB,
    0xA7CC, 0xA7CE, 0xA7CE,
  0xA7D0, 0xA7D0, 0xA7D2, 0xA7D2, 0xA7D4, 0xA7D4, 0xA7D6, 0xA7D6, 0xA7D8, 0xA7D8,
    0xA7DA, 0xA7DA, 0xA7DC,
  0xA7DC, 0xA7F1, 0xA7F5, 0xA7F8, 0xA7F9, 0xAB5C, 0xAB5F, 0xAB69, 0xAB69, 0xAB70,
    0xABBF, 0xF900, 0xFA0D,
  0xFA10, 0xFA10, 0xFA12, 0xFA12, 0xFA15, 0xFA1E, 0xFA20, 0xFA20, 0xFA22, 0xFA22,
    0xFA25, 0xFA26, 0xFA2A,
  0xFA6D, 0xFA70, 0xFAD9, 0xFB00, 0xFB06, 0xFB13, 0xFB17, 0xFB1D, 0xFB1D, 0xFB1F,
    0xFB36, 0xFB38, 0xFB3C,
  0xFB3E, 0xFB3E, 0xFB40, 0xFB41, 0xFB43, 0xFB44, 0xFB46, 0xFBB1, 0xFBD3, 0xFC5D,
    0xFC64, 0xFD3D, 0xFD50,
  0xFD8F, 0xFD92, 0xFDC7, 0xFDF0, 0xFDF9, 0xFDFC, 0xFDFC, 0xFE10, 0xFE11, 0xFE14,
    0xFE15, 0xFE17, 0xFE18,
  0xFE31, 0xFE44, 0xFE4D, 0xFE51, 0xFE54, 0xFE54, 0xFE57, 0xFE5E, 0xFE60, 0xFE63,
    0xFE66, 0xFE66, 0xFE69,
  0xFE69, 0xFE71, 0xFE71, 0xFE77, 0xFE77, 0xFE79, 0xFE79, 0xFE7B, 0xFE7B, 0xFE7D,
    0xFE7D, 0xFE7F, 0xFEFC,
  0xFF01, 0xFF02, 0xFF04, 0xFF04, 0xFF06, 0xFF0E, 0xFF10, 0xFF19, 0xFF1B, 0xFF1B,
    0xFF1D, 0xFF1D, 0xFF21,
  0xFF3A, 0xFF3F, 0xFF5B, 0xFF5D, 0xFF9F, 0xFFA1, 0xFFBE, 0xFFC2, 0xFFC7, 0xFFCA,
    0xFFCF, 0xFFD2, 0xFFD7,
  0xFFDA, 0xFFDC, 0xFFE0, 0xFFE2, 0xFFE4, 0xFFE6, 0xFFE8, 0xFFEE, 0x10400, 0x10427,
    0x104B0, 0x104D3, 0x10570,
  0x1057A, 0x1057C, 0x1058A, 0x1058C, 0x10592, 0x10594, 0x10595, 0x10781, 0x10785,
    0x10787, 0x107B0, 0x107B2,
  0x107BA, 0x10C80, 0x10CB2, 0x10D50, 0x10D65, 0x118A0, 0x118BF, 0x16E40, 0x16E5F,
    0x16EA0, 0x16EB8, 0x1CCD6,
  0x1CCF9, 0x1D15E, 0x1D164, 0x1D1BB, 0x1D1C0, 0x1D400, 0x1D454, 0x1D456, 0x1D49C,
    0x1D49E, 0x1D49F, 0x1D4A2,
  0x1D4A2, 0x1D4A5, 0x1D4A6, 0x1D4A9, 0x1D4AC, 0x1D4AE, 0x1D4B9, 0x1D4BB, 0x1D4BB,
    0x1D4BD, 0x1D4C3, 0x1D4C5,
  0x1D505, 0x1D507, 0x1D50A, 0x1D50D, 0x1D514, 0x1D516, 0x1D51C, 0x1D51E, 0x1D539,
    0x1D53B, 0x1D53E, 0x1D540,
  0x1D544, 0x1D546, 0x1D546, 0x1D54A, 0x1D550, 0x1D552, 0x1D6A5, 0x1D6A8, 0x1D7CB,
    0x1D7CE, 0x1D7FF, 0x1E030,
  0x1E06D, 0x1E900, 0x1E921, 0x1EE00, 0x1EE03, 0x1EE05, 0x1EE1F, 0x1EE21, 0x1EE22,
    0x1EE24, 0x1EE24, 0x1EE27,
  0x1EE27, 0x1EE29, 0x1EE32, 0x1EE34, 0x1EE37, 0x1EE39, 0x1EE39, 0x1EE3B, 0x1EE3B,
    0x1EE42, 0x1EE42, 0x1EE47,
  0x1EE47, 0x1EE49, 0x1EE49, 0x1EE4B, 0x1EE4B, 0x1EE4D, 0x1EE4F, 0x1EE51, 0x1EE52,
    0x1EE54, 0x1EE54, 0x1EE57,
  0x1EE57, 0x1EE59, 0x1EE59, 0x1EE5B, 0x1EE5B, 0x1EE5D, 0x1EE5D, 0x1EE5F, 0x1EE5F,
    0x1EE61, 0x1EE62, 0x1EE64,
  0x1EE64, 0x1EE67, 0x1EE6A, 0x1EE6C, 0x1EE72, 0x1EE74, 0x1EE77, 0x1EE79, 0x1EE7C,
    0x1EE7E, 0x1EE7E, 0x1EE80,
  0x1EE89, 0x1EE8B, 0x1EE9B, 0x1EEA1, 0x1EEA3, 0x1EEA5, 0x1EEA9, 0x1EEAB, 0x1EEBB,
    0x1F101, 0x1F10A, 0x1F110,
  0x1F12E, 0x1F130, 0x1F14F, 0x1F16A, 0x1F16C, 0x1F190, 0x1F190, 0x1F200, 0x1F202,
    0x1F210, 0x1F23B, 0x1F240,
  0x1F248, 0x1F250, 0x1F251, 0x1FBF0, 0x1FBF9, 0x2F800, 0x2FA1D]

/-- Characters that become one character of ASCII: the first code point of a run, the length of the
run, and what its first character becomes. The others follow in order. -/
def plainRuns : List (Nat × Nat × Char) := [
  (0xAA, 1, 'a'), (0xB2, 2, '2'), (0xB9, 1, '1'), (0xBA, 1, 'o'), (0x17F, 1, 's'), (0x2B0, 1, 'h'),
  (0x2B2, 1, 'j'), (0x2B3, 1, 'r'), (0x2B7, 1, 'w'), (0x2B8, 1, 'y'),
    (0x2E1, 1, 'l'), (0x2E2, 1, 's'),
  (0x2E3, 1, 'x'), (0x37E, 1, '\x3b'), (0x1D2C, 1, 'a'), (0x1D2E, 1, 'b'),
    (0x1D30, 2, 'd'), (0x1D33, 8, 'g'),
  (0x1D3C, 1, 'o'), (0x1D3E, 1, 'p'), (0x1D3F, 1, 'r'), (0x1D40, 2, 't'),
    (0x1D42, 1, 'w'), (0x1D43, 1, 'a'),
  (0x1D47, 1, 'b'), (0x1D48, 2, 'd'), (0x1D4D, 1, 'g'), (0x1D4F, 1, 'k'),
    (0x1D50, 1, 'm'), (0x1D52, 1, 'o'),
  (0x1D56, 1, 'p'), (0x1D57, 2, 't'), (0x1D5B, 1, 'v'), (0x1D62, 1, 'i'),
    (0x1D63, 1, 'r'), (0x1D64, 2, 'u'),
  (0x1D9C, 1, 'c'), (0x1DA0, 1, 'f'), (0x1DBB, 1, 'z'), (0x1FEF, 1, '\x60'), (0x2070, 1, '0'),
  (0x2071, 1, 'i'), (0x2074, 6, '4'), (0x207A, 1, '\x2b'), (0x207C, 1, '\x3d'), (0x207D, 2, '\x28'),
  (0x207F, 1, 'n'), (0x2080, 10, '0'), (0x208A, 1, '\x2b'), (0x208C, 1, '\x3d'),
    (0x208D, 2, '\x28'),
  (0x2090, 1, 'a'), (0x2091, 1, 'e'), (0x2092, 1, 'o'), (0x2093, 1, 'x'),
    (0x2095, 1, 'h'), (0x2096, 4, 'k'),
  (0x209A, 1, 'p'), (0x209B, 2, 's'), (0x2102, 1, 'c'), (0x210A, 2, 'g'),
    (0x210C, 1, 'h'), (0x210D, 1, 'h'),
  (0x210E, 1, 'h'), (0x2110, 1, 'i'), (0x2111, 1, 'i'), (0x2112, 1, 'l'),
    (0x2113, 1, 'l'), (0x2115, 1, 'n'),
  (0x2119, 3, 'p'), (0x211C, 1, 'r'), (0x211D, 1, 'r'), (0x2124, 1, 'z'),
    (0x2128, 1, 'z'), (0x212A, 1, 'k'),
  (0x212C, 2, 'b'), (0x212F, 1, 'e'), (0x2130, 2, 'e'), (0x2133, 1, 'm'),
    (0x2134, 1, 'o'), (0x2139, 1, 'i'),
  (0x2145, 1, 'd'), (0x2146, 2, 'd'), (0x2148, 2, 'i'), (0x2160, 1, 'i'),
    (0x2164, 1, 'v'), (0x2169, 1, 'x'),
  (0x216C, 1, 'l'), (0x216D, 2, 'c'), (0x216F, 1, 'm'), (0x2170, 1, 'i'),
    (0x2174, 1, 'v'), (0x2179, 1, 'x'),
  (0x217C, 1, 'l'), (0x217D, 2, 'c'), (0x217F, 1, 'm'), (0x2460, 9, '1'), (0x24B6, 26, 'a'),
  (0x24D0, 26, 'a'), (0x24EA, 1, '0'), (0x2C7C, 1, 'j'), (0x2C7D, 1, 'v'), (0x3002, 1, '\x2e'),
  (0xA7F1, 1, 's'), (0xA7F2, 1, 'c'), (0xA7F3, 1, 'f'), (0xA7F4, 1, 'q'), (0xFB29, 1, '\x2b'),
  (0xFE10, 1, '\x2c'), (0xFE14, 1, '\x3b'), (0xFE15, 1, '\x21'), (0xFE33, 1, '\x5f'),
    (0xFE34, 1, '\x5f'),
  (0xFE35, 2, '\x28'), (0xFE37, 1, '\x7b'), (0xFE38, 1, '\x7d'), (0xFE4D, 1, '\x5f'),
    (0xFE4E, 1, '\x5f'),
  (0xFE4F, 1, '\x5f'), (0xFE50, 1, '\x2c'), (0xFE54, 1, '\x3b'), (0xFE57, 1, '\x21'),
    (0xFE59, 2, '\x28'),
  (0xFE5B, 1, '\x7b'), (0xFE5C, 1, '\x7d'), (0xFE60, 1, '\x26'), (0xFE61, 2, '\x2a'),
    (0xFE63, 1, '\x2d'),
  (0xFE66, 1, '\x3d'), (0xFE69, 1, '\x24'), (0xFF01, 2, '\x21'), (0xFF04, 1, '\x24'),
    (0xFF06, 9, '\x26'),
  (0xFF10, 10, '0'), (0xFF1B, 1, '\x3b'), (0xFF1D, 1, '\x3d'), (0xFF21, 26, 'a'),
    (0xFF3F, 29, '\x5f'),
  (0xFF5D, 2, '\x7d'), (0xFF61, 1, '\x2e'), (0x107A5, 1, 'q'),
    (0x1CCD6, 26, 'a'), (0x1CCF0, 10, '0'),
  (0x1D400, 26, 'a'), (0x1D41A, 26, 'a'), (0x1D434, 26, 'a'), (0x1D44E, 7, 'a'), (0x1D456, 18, 'i'),
  (0x1D468, 26, 'a'), (0x1D482, 26, 'a'), (0x1D49C, 1, 'a'), (0x1D49E, 2, 'c'), (0x1D4A2, 1, 'g'),
  (0x1D4A5, 2, 'j'), (0x1D4A9, 4, 'n'), (0x1D4AE, 8, 's'), (0x1D4B6, 4, 'a'), (0x1D4BB, 1, 'f'),
  (0x1D4BD, 7, 'h'), (0x1D4C5, 11, 'p'), (0x1D4D0, 26, 'a'), (0x1D4EA, 26, 'a'), (0x1D504, 2, 'a'),
  (0x1D507, 4, 'd'), (0x1D50D, 8, 'j'), (0x1D516, 7, 's'), (0x1D51E, 26, 'a'), (0x1D538, 2, 'a'),
  (0x1D53B, 4, 'd'), (0x1D540, 5, 'i'), (0x1D546, 1, 'o'), (0x1D54A, 7, 's'), (0x1D552, 26, 'a'),
  (0x1D56C, 26, 'a'), (0x1D586, 26, 'a'), (0x1D5A0, 26, 'a'),
    (0x1D5BA, 26, 'a'), (0x1D5D4, 26, 'a'),
  (0x1D5EE, 26, 'a'), (0x1D608, 26, 'a'), (0x1D622, 26, 'a'),
    (0x1D63C, 26, 'a'), (0x1D656, 26, 'a'),
  (0x1D670, 26, 'a'), (0x1D68A, 26, 'a'), (0x1D7CE, 10, '0'),
    (0x1D7D8, 10, '0'), (0x1D7E2, 10, '0'),
  (0x1D7EC, 10, '0'), (0x1D7F6, 10, '0'), (0x1F12B, 1, 'c'), (0x1F12C, 1, 'r'), (0x1F130, 26, 'a'),
  (0x1FBF0, 10, '0')]

def plainTexts : List (Nat × String) := [
  (0xDF, "ss"), (0x132, "ij"), (0x133, "ij"), (0x1C7, "lj"), (0x1C8, "lj"),
    (0x1C9, "lj"), (0x1CA, "nj"),
  (0x1CB, "nj"), (0x1CC, "nj"), (0x1F1, "dz"), (0x1F2, "dz"), (0x1F3, "dz"),
    (0x1E9E, "ss"), (0x203C, "!!"),
  (0x20A8, "rs"), (0x2116, "no"), (0x2120, "sm"), (0x2121, "tel"), (0x2122, "tm"), (0x213B, "fax"),
  (0x2161, "ii"), (0x2162, "iii"), (0x2163, "iv"), (0x2165, "vi"),
    (0x2166, "vii"), (0x2167, "viii"),
  (0x2168, "ix"), (0x216A, "xi"), (0x216B, "xii"), (0x2171, "ii"), (0x2172, "iii"), (0x2173, "iv"),
  (0x2175, "vi"), (0x2176, "vii"), (0x2177, "viii"), (0x2178, "ix"),
    (0x217A, "xi"), (0x217B, "xii"),
  (0x2469, "10"), (0x246A, "11"), (0x246B, "12"), (0x246C, "13"), (0x246D, "14"), (0x246E, "15"),
  (0x246F, "16"), (0x2470, "17"), (0x2471, "18"), (0x2472, "19"), (0x2473, "20"), (0x2474, "(1)"),
  (0x2475, "(2)"), (0x2476, "(3)"), (0x2477, "(4)"), (0x2478, "(5)"),
    (0x2479, "(6)"), (0x247A, "(7)"),
  (0x247B, "(8)"), (0x247C, "(9)"), (0x247D, "(10)"), (0x247E, "(11)"),
    (0x247F, "(12)"), (0x2480, "(13)"),
  (0x2481, "(14)"), (0x2482, "(15)"), (0x2483, "(16)"), (0x2484, "(17)"),
    (0x2485, "(18)"), (0x2486, "(19)"),
  (0x2487, "(20)"), (0x249C, "(a)"), (0x249D, "(b)"), (0x249E, "(c)"),
    (0x249F, "(d)"), (0x24A0, "(e)"),
  (0x24A1, "(f)"), (0x24A2, "(g)"), (0x24A3, "(h)"), (0x24A4, "(i)"),
    (0x24A5, "(j)"), (0x24A6, "(k)"),
  (0x24A7, "(l)"), (0x24A8, "(m)"), (0x24A9, "(n)"), (0x24AA, "(o)"),
    (0x24AB, "(p)"), (0x24AC, "(q)"),
  (0x24AD, "(r)"), (0x24AE, "(s)"), (0x24AF, "(t)"), (0x24B0, "(u)"),
    (0x24B1, "(v)"), (0x24B2, "(w)"),
  (0x24B3, "(x)"), (0x24B4, "(y)"), (0x24B5, "(z)"), (0x2A75, "=="),
    (0x2A76, "==="), (0x3250, "pte"),
  (0x3251, "21"), (0x3252, "22"), (0x3253, "23"), (0x3254, "24"), (0x3255, "25"), (0x3256, "26"),
  (0x3257, "27"), (0x3258, "28"), (0x3259, "29"), (0x325A, "30"), (0x325B, "31"), (0x325C, "32"),
  (0x325D, "33"), (0x325E, "34"), (0x325F, "35"), (0x32B1, "36"), (0x32B2, "37"), (0x32B3, "38"),
  (0x32B4, "39"), (0x32B5, "40"), (0x32B6, "41"), (0x32B7, "42"), (0x32B8, "43"), (0x32B9, "44"),
  (0x32BA, "45"), (0x32BB, "46"), (0x32BC, "47"), (0x32BD, "48"), (0x32BE, "49"), (0x32BF, "50"),
  (0x32CC, "hg"), (0x32CD, "erg"), (0x32CE, "ev"), (0x32CF, "ltd"), (0x3371, "hpa"), (0x3372, "da"),
  (0x3373, "au"), (0x3374, "bar"), (0x3375, "ov"), (0x3376, "pc"), (0x3377, "dm"), (0x3378, "dm2"),
  (0x3379, "dm3"), (0x337A, "iu"), (0x3380, "pa"), (0x3381, "na"), (0x3383, "ma"), (0x3384, "ka"),
  (0x3385, "kb"), (0x3386, "mb"), (0x3387, "gb"), (0x3388, "cal"), (0x3389, "kcal"), (0x338A, "pf"),
  (0x338B, "nf"), (0x338E, "mg"), (0x338F, "kg"), (0x3390, "hz"), (0x3391, "khz"), (0x3392, "mhz"),
  (0x3393, "ghz"), (0x3394, "thz"), (0x3396, "ml"), (0x3397, "dl"), (0x3398, "kl"), (0x3399, "fm"),
  (0x339A, "nm"), (0x339C, "mm"), (0x339D, "cm"), (0x339E, "km"), (0x339F, "mm2"), (0x33A0, "cm2"),
  (0x33A1, "m2"), (0x33A2, "km2"), (0x33A3, "mm3"), (0x33A4, "cm3"),
    (0x33A5, "m3"), (0x33A6, "km3"),
  (0x33A9, "pa"), (0x33AA, "kpa"), (0x33AB, "mpa"), (0x33AC, "gpa"),
    (0x33AD, "rad"), (0x33B0, "ps"),
  (0x33B1, "ns"), (0x33B3, "ms"), (0x33B4, "pv"), (0x33B5, "nv"), (0x33B7, "mv"), (0x33B8, "kv"),
  (0x33B9, "mv"), (0x33BA, "pw"), (0x33BB, "nw"), (0x33BD, "mw"), (0x33BE, "kw"), (0x33BF, "mw"),
  (0x33C3, "bq"), (0x33C4, "cc"), (0x33C5, "cd"), (0x33C8, "db"), (0x33C9, "gy"), (0x33CA, "ha"),
  (0x33CB, "hp"), (0x33CC, "in"), (0x33CD, "kk"), (0x33CE, "km"), (0x33CF, "kt"), (0x33D0, "lm"),
  (0x33D1, "ln"), (0x33D2, "log"), (0x33D3, "lx"), (0x33D4, "mb"), (0x33D5, "mil"), (0x33D6, "mol"),
  (0x33D7, "ph"), (0x33D9, "ppm"), (0x33DA, "pr"), (0x33DB, "sr"), (0x33DC, "sv"), (0x33DD, "wb"),
  (0x33FF, "gal"), (0xFB00, "ff"), (0xFB01, "fi"), (0xFB02, "fl"), (0xFB03, "ffi"), (0xFB04, "ffl"),
  (0xFB05, "st"), (0xFB06, "st"), (0x1F101, "0,"), (0x1F102, "1,"),
    (0x1F103, "2,"), (0x1F104, "3,"),
  (0x1F105, "4,"), (0x1F106, "5,"), (0x1F107, "6,"), (0x1F108, "7,"),
    (0x1F109, "8,"), (0x1F10A, "9,"),
  (0x1F110, "(a)"), (0x1F111, "(b)"), (0x1F112, "(c)"), (0x1F113, "(d)"),
    (0x1F114, "(e)"), (0x1F115, "(f)"),
  (0x1F116, "(g)"), (0x1F117, "(h)"), (0x1F118, "(i)"), (0x1F119, "(j)"),
    (0x1F11A, "(k)"), (0x1F11B, "(l)"),
  (0x1F11C, "(m)"), (0x1F11D, "(n)"), (0x1F11E, "(o)"), (0x1F11F, "(p)"),
    (0x1F120, "(q)"), (0x1F121, "(r)"),
  (0x1F122, "(s)"), (0x1F123, "(t)"), (0x1F124, "(u)"), (0x1F125, "(v)"),
    (0x1F126, "(w)"), (0x1F127, "(x)"),
  (0x1F128, "(y)"), (0x1F129, "(z)"), (0x1F12D, "cd"), (0x1F12E, "wz"),
    (0x1F14A, "hv"), (0x1F14B, "mv"),
  (0x1F14C, "sd"), (0x1F14D, "ss"), (0x1F14E, "ppv"), (0x1F14F, "wc"),
    (0x1F16A, "mc"), (0x1F16B, "md"),
  (0x1F16C, "mr"), (0x1F190, "dj")]

/-- What a character becomes if that is ASCII; the character itself otherwise. -/
def folded (char : Char) : List Char :=
  if char.toNat < 0x80 then [char.toLower]
  else
    match plainRuns.find? fun (first, length, _) =>
      first ≤ char.toNat && char.toNat < first + length with
    | some (first, _, plain) => [Char.ofNat (plain.toNat + (char.toNat - first))]
    | none =>
        match plainTexts.find? fun (code, _) => code == char.toNat with
        | some (_, plain) => plain.toList
        | none => [char]

def isFolded (char : Char) : Bool :=
  if char.toNat < 0x80 then char.isUpper else inRanges foldedBounds char

end Passbook.Text
