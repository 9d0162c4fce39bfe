import Passbook.Text.Ranges

/-!
Pairs of characters that can be written as one, such as a letter and an accent.
-/

set_option autoImplicit false

namespace Passbook.Text

/-- Each pair as one number in increasing order: the code point of the second character times
0x200000, plus that of the first. -/
def composablePairs : Array Nat := #[
  0x60000041, 0x60000045, 0x60000049, 0x6000004E, 0x6000004F, 0x60000055, 0x60000057,
    0x60000059, 0x60000061,
  0x60000065, 0x60000069, 0x6000006E, 0x6000006F, 0x60000075, 0x60000077, 0x60000079,
    0x600000A8, 0x600000C2,
  0x600000CA, 0x600000D4, 0x600000DC, 0x600000E2, 0x600000EA, 0x600000F4, 0x600000FC,
    0x60000102, 0x60000103,
  0x60000112, 0x60000113, 0x6000014C, 0x6000014D, 0x600001A0, 0x600001A1, 0x600001AF,
    0x600001B0, 0x60000391,
  0x60000395, 0x60000397, 0x60000399, 0x6000039F, 0x600003A5, 0x600003A9, 0x600003B1,
    0x600003B5, 0x600003B7,
  0x600003B9, 0x600003BF, 0x600003C5, 0x600003C9, 0x600003CA, 0x600003CB, 0x60000415,
    0x60000418, 0x60000435,
  0x60000438, 0x60001F00, 0x60001F01, 0x60001F08, 0x60001F09, 0x60001F10, 0x60001F11,
    0x60001F18, 0x60001F19,
  0x60001F20, 0x60001F21, 0x60001F28, 0x60001F29, 0x60001F30, 0x60001F31, 0x60001F38,
    0x60001F39, 0x60001F40,
  0x60001F41, 0x60001F48, 0x60001F49, 0x60001F50, 0x60001F51, 0x60001F59, 0x60001F60,
    0x60001F61, 0x60001F68,
  0x60001F69, 0x60001FBF, 0x60001FFE, 0x60200041, 0x60200043, 0x60200045, 0x60200047,
    0x60200049, 0x6020004B,
  0x6020004C, 0x6020004D, 0x6020004E, 0x6020004F, 0x60200050, 0x60200052, 0x60200053,
    0x60200055, 0x60200057,
  0x60200059, 0x6020005A, 0x60200061, 0x60200063, 0x60200065, 0x60200067, 0x60200069,
    0x6020006B, 0x6020006C,
  0x6020006D, 0x6020006E, 0x6020006F, 0x60200070, 0x60200072, 0x60200073, 0x60200075,
    0x60200077, 0x60200079,
  0x6020007A, 0x602000A8, 0x602000C2, 0x602000C5, 0x602000C6, 0x602000C7, 0x602000CA,
    0x602000CF, 0x602000D4,
  0x602000D5, 0x602000D8, 0x602000DC, 0x602000E2, 0x602000E5, 0x602000E6, 0x602000E7,
    0x602000EA, 0x602000EF,
  0x602000F4, 0x602000F5, 0x602000F8, 0x602000FC, 0x60200102, 0x60200103, 0x60200112,
    0x60200113, 0x6020014C,
  0x6020014D, 0x60200168, 0x60200169, 0x602001A0, 0x602001A1, 0x602001AF, 0x602001B0,
    0x60200391, 0x60200395,
  0x60200397, 0x60200399, 0x6020039F, 0x602003A5, 0x602003A9, 0x602003B1, 0x602003B5,
    0x602003B7, 0x602003B9,
  0x602003BF, 0x602003C5, 0x602003C9, 0x602003CA, 0x602003CB, 0x602003D2, 0x60200413,
    0x6020041A, 0x60200433,
  0x6020043A, 0x60201F00, 0x60201F01, 0x60201F08, 0x60201F09, 0x60201F10, 0x60201F11,
    0x60201F18, 0x60201F19,
  0x60201F20, 0x60201F21, 0x60201F28, 0x60201F29, 0x60201F30, 0x60201F31, 0x60201F38,
    0x60201F39, 0x60201F40,
  0x60201F41, 0x60201F48, 0x60201F49, 0x60201F50, 0x60201F51, 0x60201F59, 0x60201F60,
    0x60201F61, 0x60201F68,
  0x60201F69, 0x60201FBF, 0x60201FFE, 0x60400041, 0x60400043, 0x60400045, 0x60400047,
    0x60400048, 0x60400049,
  0x6040004A, 0x6040004F, 0x60400053, 0x60400055, 0x60400057, 0x60400059, 0x6040005A,
    0x60400061, 0x60400063,
  0x60400065, 0x60400067, 0x60400068, 0x60400069, 0x6040006A, 0x6040006F, 0x60400073,
    0x60400075, 0x60400077,
  0x60400079, 0x6040007A, 0x60401EA0, 0x60401EA1, 0x60401EB8, 0x60401EB9, 0x60401ECC,
    0x60401ECD, 0x60600041,
  0x60600045, 0x60600049, 0x6060004E, 0x6060004F, 0x60600055, 0x60600056, 0x60600059,
    0x60600061, 0x60600065,
  0x60600069, 0x6060006E, 0x6060006F, 0x60600075, 0x60600076, 0x60600079, 0x606000C2,
    0x606000CA, 0x606000D4,
  0x606000E2, 0x606000EA, 0x606000F4, 0x60600102, 0x60600103, 0x606001A0, 0x606001A1,
    0x606001AF, 0x606001B0,
  0x60800041, 0x60800045, 0x60800047, 0x60800049, 0x6080004F, 0x60800055, 0x60800059,
    0x60800061, 0x60800065,
  0x60800067, 0x60800069, 0x6080006F, 0x60800075, 0x60800079, 0x608000C4, 0x608000C6,
    0x608000D5, 0x608000D6,
  0x608000DC, 0x608000E4, 0x608000E6, 0x608000F5, 0x608000F6, 0x608000FC, 0x608001EA,
    0x608001EB, 0x60800226,
  0x60800227, 0x6080022E, 0x6080022F, 0x60800391, 0x60800399, 0x608003A5, 0x608003B1,
    0x608003B9, 0x608003C5,
  0x60800418, 0x60800423, 0x60800438, 0x60800443, 0x60801E36, 0x60801E37, 0x60801E5A,
    0x60801E5B, 0x60C00041,
  0x60C00045, 0x60C00047, 0x60C00049, 0x60C0004F, 0x60C00055, 0x60C00061, 0x60C00065,
    0x60C00067, 0x60C00069,
  0x60C0006F, 0x60C00075, 0x60C00228, 0x60C00229, 0x60C00391, 0x60C00399, 0x60C003A5,
    0x60C003B1, 0x60C003B9,
  0x60C003C5, 0x60C00410, 0x60C00415, 0x60C00416, 0x60C00418, 0x60C00423, 0x60C00430,
    0x60C00435, 0x60C00436,
  0x60C00438, 0x60C00443, 0x60C01EA0, 0x60C01EA1, 0x60E00041, 0x60E00042, 0x60E00043,
    0x60E00044, 0x60E00045,
  0x60E00046, 0x60E00047, 0x60E00048, 0x60E00049, 0x60E0004D, 0x60E0004E, 0x60E0004F,
    0x60E00050, 0x60E00052,
  0x60E00053, 0x60E00054, 0x60E00057, 0x60E00058, 0x60E00059, 0x60E0005A, 0x60E00061,
    0x60E00062, 0x60E00063,
  0x60E00064, 0x60E00065, 0x60E00066, 0x60E00067, 0x60E00068, 0x60E0006D, 0x60E0006E,
    0x60E0006F, 0x60E00070,
  0x60E00072, 0x60E00073, 0x60E00074, 0x60E00077, 0x60E00078, 0x60E00079, 0x60E0007A,
    0x60E0015A, 0x60E0015B,
  0x60E00160, 0x60E00161, 0x60E0017F, 0x60E01E62, 0x60E01E63, 0x60E105D2, 0x60E105DA,
    0x61000041, 0x61000045,
  0x61000048, 0x61000049, 0x6100004F, 0x61000055, 0x61000057, 0x61000058, 0x61000059,
    0x61000061, 0x61000065,
  0x61000068, 0x61000069, 0x6100006F, 0x61000074, 0x61000075, 0x61000077, 0x61000078,
    0x61000079, 0x610000D5,
  0x610000F5, 0x6100016A, 0x6100016B, 0x61000399, 0x610003A5, 0x610003B9, 0x610003C5,
    0x610003D2, 0x61000406,
  0x61000410, 0x61000415, 0x61000416, 0x61000417, 0x61000418, 0x6100041E, 0x61000423,
    0x61000427, 0x6100042B,
  0x6100042D, 0x61000430, 0x61000435, 0x61000436, 0x61000437, 0x61000438, 0x6100043E,
    0x61000443, 0x61000447,
  0x6100044B, 0x6100044D, 0x61000456, 0x610004D8, 0x610004D9, 0x610004E8, 0x610004E9,
    0x61200041, 0x61200045,
  0x61200049, 0x6120004F, 0x61200055, 0x61200059, 0x61200061, 0x61200065, 0x61200069,
    0x6120006F, 0x61200075,
  0x61200079, 0x612000C2, 0x612000CA, 0x612000D4, 0x612000E2, 0x612000EA, 0x612000F4,
    0x61200102, 0x61200103,
  0x612001A0, 0x612001A1, 0x612001AF, 0x612001B0, 0x61400041, 0x61400055, 0x61400061,
    0x61400075, 0x61400077,
  0x61400079, 0x6160004F, 0x61600055, 0x6160006F, 0x61600075, 0x61600423, 0x61600443,
    0x61800041, 0x61800043,
  0x61800044, 0x61800045, 0x61800047, 0x61800048, 0x61800049, 0x6180004B, 0x6180004C,
    0x6180004E, 0x6180004F,
  0x61800052, 0x61800053, 0x61800054, 0x61800055, 0x6180005A, 0x61800061, 0x61800063,
    0x61800064, 0x61800065,
  0x61800067, 0x61800068, 0x61800069, 0x6180006A, 0x6180006B, 0x6180006C, 0x6180006E,
    0x6180006F, 0x61800072,
  0x61800073, 0x61800074, 0x61800075, 0x6180007A, 0x618000DC, 0x618000FC, 0x618001B7,
    0x61800292, 0x61E00041,
  0x61E00045, 0x61E00049, 0x61E0004F, 0x61E00052, 0x61E00055, 0x61E00061, 0x61E00065,
    0x61E00069, 0x61E0006F,
  0x61E00072, 0x61E00075, 0x61E00474, 0x61E00475, 0x62200041, 0x62200045, 0x62200049,
    0x6220004F, 0x62200052,
  0x62200055, 0x62200061, 0x62200065, 0x62200069, 0x6220006F, 0x62200072, 0x62200075,
    0x62600391, 0x62600395,
  0x62600397, 0x62600399, 0x6260039F, 0x626003A9, 0x626003B1, 0x626003B5, 0x626003B7,
    0x626003B9, 0x626003BF,
  0x626003C1, 0x626003C5, 0x626003C9, 0x62800391, 0x62800395, 0x62800397, 0x62800399,
    0x6280039F, 0x628003A1,
  0x628003A5, 0x628003A9, 0x628003B1, 0x628003B5, 0x628003B7, 0x628003B9, 0x628003BF,
    0x628003C1, 0x628003C5,
  0x628003C9, 0x6360004F, 0x63600055, 0x6360006F, 0x63600075, 0x64600041, 0x64600042,
    0x64600044, 0x64600045,
  0x64600048, 0x64600049, 0x6460004B, 0x6460004C, 0x6460004D, 0x6460004E, 0x6460004F,
    0x64600052, 0x64600053,
  0x64600054, 0x64600055, 0x64600056, 0x64600057, 0x64600059, 0x6460005A, 0x64600061,
    0x64600062, 0x64600064,
  0x64600065, 0x64600068, 0x64600069, 0x6460006B, 0x6460006C, 0x6460006D, 0x6460006E,
    0x6460006F, 0x64600072,
  0x64600073, 0x64600074, 0x64600075, 0x64600076, 0x64600077, 0x64600079, 0x6460007A,
    0x646001A0, 0x646001A1,
  0x646001AF, 0x646001B0, 0x64800055, 0x64800075, 0x64A00041, 0x64A00061, 0x64C00053,
    0x64C00054, 0x64C00073,
  0x64C00074, 0x64E00043, 0x64E00044, 0x64E00045, 0x64E00047, 0x64E00048, 0x64E0004B,
    0x64E0004C, 0x64E0004E,
  0x64E00052, 0x64E00053, 0x64E00054, 0x64E00063, 0x64E00064, 0x64E00065, 0x64E00067,
    0x64E00068, 0x64E0006B,
  0x64E0006C, 0x64E0006E, 0x64E00072, 0x64E00073, 0x64E00074, 0x65000041, 0x65000045,
    0x65000049, 0x6500004F,
  0x65000055, 0x65000061, 0x65000065, 0x65000069, 0x6500006F, 0x65000075, 0x65A00044,
    0x65A00045, 0x65A0004C,
  0x65A0004E, 0x65A00054, 0x65A00055, 0x65A00064, 0x65A00065, 0x65A0006C, 0x65A0006E,
    0x65A00074, 0x65A00075,
  0x65C00048, 0x65C00068, 0x66000045, 0x66000049, 0x66000055, 0x66000065, 0x66000069,
    0x66000075, 0x66200042,
  0x66200044, 0x6620004B, 0x6620004C, 0x6620004E, 0x66200052, 0x66200054, 0x6620005A,
    0x66200062, 0x66200064,
  0x66200068, 0x6620006B, 0x6620006C, 0x6620006E, 0x66200072, 0x66200074, 0x6620007A,
    0x6700003C, 0x6700003D,
  0x6700003E, 0x67002190, 0x67002192, 0x67002194, 0x670021D0, 0x670021D2, 0x670021D4,
    0x67002203, 0x67002208,
  0x6700220B, 0x67002223, 0x67002225, 0x6700223C, 0x67002243, 0x67002245, 0x67002248,
    0x6700224D, 0x67002261,
  0x67002264, 0x67002265, 0x67002272, 0x67002273, 0x67002276, 0x67002277, 0x6700227A,
    0x6700227B, 0x6700227C,
  0x6700227D, 0x67002282, 0x67002283, 0x67002286, 0x67002287, 0x67002291, 0x67002292,
    0x670022A2, 0x670022A8,
  0x670022A9, 0x670022AB, 0x670022B2, 0x670022B3, 0x670022B4, 0x670022B5, 0x684000A8,
    0x684003B1, 0x684003B7,
  0x684003B9, 0x684003C5, 0x684003C9, 0x684003CA, 0x684003CB, 0x68401F00, 0x68401F01,
    0x68401F08, 0x68401F09,
  0x68401F20, 0x68401F21, 0x68401F28, 0x68401F29, 0x68401F30, 0x68401F31, 0x68401F38,
    0x68401F39, 0x68401F50,
  0x68401F51, 0x68401F59, 0x68401F60, 0x68401F61, 0x68401F68, 0x68401F69, 0x68401FBF,
    0x68401FFE, 0x68A00391,
  0x68A00397, 0x68A003A9, 0x68A003AC, 0x68A003AE, 0x68A003B1, 0x68A003B7, 0x68A003C9,
    0x68A003CE, 0x68A01F00,
  0x68A01F01, 0x68A01F02, 0x68A01F03, 0x68A01F04, 0x68A01F05, 0x68A01F06, 0x68A01F07,
    0x68A01F08, 0x68A01F09,
  0x68A01F0A, 0x68A01F0B, 0x68A01F0C, 0x68A01F0D, 0x68A01F0E, 0x68A01F0F, 0x68A01F20,
    0x68A01F21, 0x68A01F22,
  0x68A01F23, 0x68A01F24, 0x68A01F25, 0x68A01F26, 0x68A01F27, 0x68A01F28, 0x68A01F29,
    0x68A01F2A, 0x68A01F2B,
  0x68A01F2C, 0x68A01F2D, 0x68A01F2E, 0x68A01F2F, 0x68A01F60, 0x68A01F61, 0x68A01F62,
    0x68A01F63, 0x68A01F64,
  0x68A01F65, 0x68A01F66, 0x68A01F67, 0x68A01F68, 0x68A01F69, 0x68A01F6A, 0x68A01F6B,
    0x68A01F6C, 0x68A01F6D,
  0x68A01F6E, 0x68A01F6F, 0x68A01F70, 0x68A01F74, 0x68A01F7C, 0x68A01FB6, 0x68A01FC6,
    0x68A01FF6, 0xCA600627,
  0xCA800627, 0xCA800648, 0xCA80064A, 0xCA8006C1, 0xCA8006D2, 0xCA8006D5, 0xCAA00627, 0x127800928,
  0x127800930, 0x127800933, 0x137C009C7, 0x13AE009C7, 0x167C00B47, 0x16AC00B47,
    0x16AE00B47, 0x177C00BC6,
  0x177C00BC7, 0x17AE00B92, 0x17AE00BC6, 0x18AC00C46, 0x198400CC6, 0x19AA00CBF,
    0x19AA00CC6, 0x19AA00CCA,
  0x19AC00CC6, 0x1A7C00D46, 0x1A7C00D47, 0x1AAE00D46, 0x1B9400DD9, 0x1B9400DDC,
    0x1B9E00DD9, 0x1BBE00DD9,
  0x205C01025, 0x366A01B05, 0x366A01B07, 0x366A01B09, 0x366A01B0B, 0x366A01B0D,
    0x366A01B11, 0x366A01B3A,
  0x366A01B3C, 0x366A01B3E, 0x366A01B3F, 0x366A01B42, 0x613203046, 0x61320304B,
    0x61320304D, 0x61320304F,
  0x613203051, 0x613203053, 0x613203055, 0x613203057, 0x613203059, 0x61320305B,
    0x61320305D, 0x61320305F,
  0x613203061, 0x613203064, 0x613203066, 0x613203068, 0x61320306F, 0x613203072,
    0x613203075, 0x613203078,
  0x61320307B, 0x61320309D, 0x6132030A6, 0x6132030AB, 0x6132030AD, 0x6132030AF,
    0x6132030B1, 0x6132030B3,
  0x6132030B5, 0x6132030B7, 0x6132030B9, 0x6132030BB, 0x6132030BD, 0x6132030BF,
    0x6132030C1, 0x6132030C4,
  0x6132030C6, 0x6132030C8, 0x6132030CF, 0x6132030D2, 0x6132030D5, 0x6132030D8,
    0x6132030DB, 0x6132030EF,
  0x6132030F0, 0x6132030F1, 0x6132030F2, 0x6132030FD, 0x61340306F, 0x613403072,
    0x613403075, 0x613403078,
  0x61340307B, 0x6134030CF, 0x6134030D2, 0x6134030D5, 0x6134030D8, 0x6134030DB,
    0x2217411099, 0x221741109B,
  0x22174110A5, 0x2224E11131, 0x2224E11132, 0x2267C11347, 0x226AE11347, 0x22770113C2, 0x2277611384,
  0x227841138B, 0x22784113C2, 0x2279211382, 0x2279211390, 0x22792113C2, 0x22960114B9, 0x22974114B9,
  0x2297A114B9, 0x22B5E115B8, 0x22B5E115B9, 0x2326011935, 0x2C23C1611E, 0x2C23E1611E, 0x2C23E16121,
  0x2C23E16122, 0x2C23E16129, 0x2C2401611E, 0x2C24016121, 0x2C2521611E, 0x2DACE16D63, 0x2DACE16D67,
  0x2DACE16D69]

/-- Whether two neighbours can be written as one character. Syllables of Hangul follow a rule. -/
def isComposable (first second : Char) : Bool :=
  let first := first.toNat
  let second := second.toNat
  let isSyllableOfTwo := 0xAC00 ≤ first && first ≤ 0xD7A3 && (first - 0xAC00) % 28 == 0
  isListed composablePairs (second * 0x200000 + first) ||
    (0x1100 ≤ first && first ≤ 0x1112 && 0x1161 ≤ second && second ≤ 0x1175) ||
    (isSyllableOfTwo && 0x11A8 ≤ second && second ≤ 0x11C2)

/-- Whether no two neighbours of a text can be written as one character. -/
def isComposed : List Char → Bool
  | first :: second :: rest => !isComposable first second && isComposed (second :: rest)
  | _ => true

end Passbook.Text
