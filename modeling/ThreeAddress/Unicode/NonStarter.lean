/-!
# Non-starter counts

A text is safe to process in a bounded buffer when no run of marks is too long. The counts here say
how many characters at the start and at the end of a character's full compatibility decomposition
attach to what comes before (Unicode 15.0). Hangul syllables are computed.
-/

namespace ThreeAddress.Unicode

/-- Ranges of code points with their leading and trailing counts, in increasing order. Code points
outside the ranges have both counts 0. -/
def nonStarterRanges : List (Nat × Nat × Nat × Nat) :=
  [(0xA8, 0xA8, 0, 1), (0xAF, 0xAF, 0, 1), (0xB4, 0xB4, 0, 1), (0xB8, 0xB8, 0, 1),
  (0xC0, 0xC5, 0, 1), (0xC7, 0xCF, 0, 1), (0xD1, 0xD6, 0, 1), (0xD9, 0xDD, 0, 1),
  (0xE0, 0xE5, 0, 1), (0xE7, 0xEF, 0, 1), (0xF1, 0xF6, 0, 1), (0xF9, 0xFD, 0, 1),
  (0xFF, 0x10F, 0, 1), (0x112, 0x125, 0, 1), (0x128, 0x130, 0, 1), (0x134, 0x137, 0, 1),
  (0x139, 0x13E, 0, 1), (0x143, 0x148, 0, 1), (0x14C, 0x151, 0, 1), (0x154, 0x165, 0, 1),
  (0x168, 0x17E, 0, 1), (0x1A0, 0x1A1, 0, 1), (0x1AF, 0x1B0, 0, 1), (0x1C4, 0x1C6, 0, 1),
  (0x1CD, 0x1D4, 0, 1), (0x1D5, 0x1DC, 0, 2), (0x1DE, 0x1E1, 0, 2), (0x1E2, 0x1E3, 0, 1),
  (0x1E6, 0x1EB, 0, 1), (0x1EC, 0x1ED, 0, 2), (0x1EE, 0x1F0, 0, 1), (0x1F4, 0x1F5, 0, 1),
  (0x1F8, 0x1F9, 0, 1), (0x1FA, 0x1FB, 0, 2), (0x1FC, 0x21B, 0, 1), (0x21E, 0x21F, 0, 1),
  (0x226, 0x229, 0, 1), (0x22A, 0x22D, 0, 2), (0x22E, 0x22F, 0, 1), (0x230, 0x231, 0, 2),
  (0x232, 0x233, 0, 1), (0x2D8, 0x2DD, 0, 1), (0x300, 0x343, 1, 1), (0x344, 0x344, 2, 2),
  (0x345, 0x34E, 1, 1), (0x350, 0x36F, 1, 1), (0x37A, 0x37A, 0, 1), (0x384, 0x384, 0, 1),
  (0x385, 0x385, 0, 2), (0x386, 0x386, 0, 1), (0x388, 0x38A, 0, 1), (0x38C, 0x38C, 0, 1),
  (0x38E, 0x38F, 0, 1), (0x390, 0x390, 0, 2), (0x3AA, 0x3AF, 0, 1), (0x3B0, 0x3B0, 0, 2),
  (0x3CA, 0x3CE, 0, 1), (0x3D3, 0x3D4, 0, 1), (0x400, 0x401, 0, 1), (0x403, 0x403, 0, 1),
  (0x407, 0x407, 0, 1), (0x40C, 0x40E, 0, 1), (0x419, 0x419, 0, 1), (0x439, 0x439, 0, 1),
  (0x450, 0x451, 0, 1), (0x453, 0x453, 0, 1), (0x457, 0x457, 0, 1), (0x45C, 0x45E, 0, 1),
  (0x476, 0x477, 0, 1), (0x483, 0x487, 1, 1), (0x4C1, 0x4C2, 0, 1), (0x4D0, 0x4D3, 0, 1),
  (0x4D6, 0x4D7, 0, 1), (0x4DA, 0x4DF, 0, 1), (0x4E2, 0x4E7, 0, 1), (0x4EA, 0x4F5, 0, 1),
  (0x4F8, 0x4F9, 0, 1), (0x591, 0x5BD, 1, 1), (0x5BF, 0x5BF, 1, 1), (0x5C1, 0x5C2, 1, 1),
  (0x5C4, 0x5C5, 1, 1), (0x5C7, 0x5C7, 1, 1), (0x610, 0x61A, 1, 1), (0x622, 0x626, 0, 1),
  (0x64B, 0x65F, 1, 1), (0x670, 0x670, 1, 1), (0x6C0, 0x6C0, 0, 1), (0x6C2, 0x6C2, 0, 1),
  (0x6D3, 0x6D3, 0, 1), (0x6D6, 0x6DC, 1, 1), (0x6DF, 0x6E4, 1, 1), (0x6E7, 0x6E8, 1, 1),
  (0x6EA, 0x6ED, 1, 1), (0x711, 0x711, 1, 1), (0x730, 0x74A, 1, 1), (0x7EB, 0x7F3, 1, 1),
  (0x7FD, 0x7FD, 1, 1), (0x816, 0x819, 1, 1), (0x81B, 0x823, 1, 1), (0x825, 0x827, 1, 1),
  (0x829, 0x82D, 1, 1), (0x859, 0x85B, 1, 1), (0x898, 0x89F, 1, 1), (0x8CA, 0x8E1, 1, 1),
  (0x8E3, 0x8FF, 1, 1), (0x929, 0x929, 0, 1), (0x931, 0x931, 0, 1), (0x934, 0x934, 0, 1),
  (0x93C, 0x93C, 1, 1), (0x94D, 0x94D, 1, 1), (0x951, 0x954, 1, 1), (0x958, 0x95F, 0, 1),
  (0x9BC, 0x9BC, 1, 1), (0x9BE, 0x9BE, 1, 1), (0x9CB, 0x9CC, 0, 1), (0x9CD, 0x9CD, 1, 1),
  (0x9D7, 0x9D7, 1, 1), (0x9DC, 0x9DD, 0, 1), (0x9DF, 0x9DF, 0, 1), (0x9FE, 0x9FE, 1, 1),
  (0xA33, 0xA33, 0, 1), (0xA36, 0xA36, 0, 1), (0xA3C, 0xA3C, 1, 1), (0xA4D, 0xA4D, 1, 1),
  (0xA59, 0xA5B, 0, 1), (0xA5E, 0xA5E, 0, 1), (0xABC, 0xABC, 1, 1), (0xACD, 0xACD, 1, 1),
  (0xB3C, 0xB3C, 1, 1), (0xB3E, 0xB3E, 1, 1), (0xB48, 0xB48, 0, 1), (0xB4B, 0xB4C, 0, 1),
  (0xB4D, 0xB4D, 1, 1), (0xB56, 0xB57, 1, 1), (0xB5C, 0xB5D, 0, 1), (0xB94, 0xB94, 0, 1),
  (0xBBE, 0xBBE, 1, 1), (0xBCA, 0xBCC, 0, 1), (0xBCD, 0xBCD, 1, 1), (0xBD7, 0xBD7, 1, 1),
  (0xC3C, 0xC3C, 1, 1), (0xC48, 0xC48, 0, 1), (0xC4D, 0xC4D, 1, 1), (0xC55, 0xC56, 1, 1),
  (0xCBC, 0xCBC, 1, 1), (0xCC0, 0xCC0, 0, 1), (0xCC2, 0xCC2, 1, 1), (0xCC7, 0xCC8, 0, 1),
  (0xCCA, 0xCCA, 0, 1), (0xCCB, 0xCCB, 0, 2), (0xCCD, 0xCCD, 1, 1), (0xCD5, 0xCD6, 1, 1),
  (0xD3B, 0xD3C, 1, 1), (0xD3E, 0xD3E, 1, 1), (0xD4A, 0xD4C, 0, 1), (0xD4D, 0xD4D, 1, 1),
  (0xD57, 0xD57, 1, 1), (0xDCA, 0xDCA, 1, 1), (0xDCF, 0xDCF, 1, 1), (0xDDA, 0xDDA, 0, 1),
  (0xDDC, 0xDDC, 0, 1), (0xDDD, 0xDDD, 0, 2), (0xDDE, 0xDDE, 0, 1), (0xDDF, 0xDDF, 1, 1),
  (0xE38, 0xE3A, 1, 1), (0xE48, 0xE4B, 1, 1), (0xEB8, 0xEBA, 1, 1), (0xEC8, 0xECB, 1, 1),
  (0xF18, 0xF19, 1, 1), (0xF35, 0xF35, 1, 1), (0xF37, 0xF37, 1, 1), (0xF39, 0xF39, 1, 1),
  (0xF71, 0xF72, 1, 1), (0xF73, 0xF73, 2, 2), (0xF74, 0xF74, 1, 1), (0xF75, 0xF75, 2, 2),
  (0xF76, 0xF76, 0, 1), (0xF77, 0xF77, 0, 2), (0xF78, 0xF78, 0, 1), (0xF79, 0xF79, 0, 2),
  (0xF7A, 0xF7D, 1, 1), (0xF80, 0xF80, 1, 1), (0xF81, 0xF81, 2, 2), (0xF82, 0xF84, 1, 1),
  (0xF86, 0xF87, 1, 1), (0xFC6, 0xFC6, 1, 1), (0x1026, 0x1026, 0, 1), (0x102E, 0x102E, 1, 1),
  (0x1037, 0x1037, 1, 1), (0x1039, 0x103A, 1, 1), (0x108D, 0x108D, 1, 1), (0x1161, 0x1175, 1, 1),
  (0x11A8, 0x11C2, 1, 1), (0x135D, 0x135F, 1, 1), (0x1714, 0x1715, 1, 1), (0x1734, 0x1734, 1, 1),
  (0x17D2, 0x17D2, 1, 1), (0x17DD, 0x17DD, 1, 1), (0x18A9, 0x18A9, 1, 1), (0x1939, 0x193B, 1, 1),
  (0x1A17, 0x1A18, 1, 1), (0x1A60, 0x1A60, 1, 1), (0x1A75, 0x1A7C, 1, 1), (0x1A7F, 0x1A7F, 1, 1),
  (0x1AB0, 0x1ABD, 1, 1), (0x1ABF, 0x1ACE, 1, 1), (0x1B06, 0x1B06, 0, 1), (0x1B08, 0x1B08, 0, 1),
  (0x1B0A, 0x1B0A, 0, 1), (0x1B0C, 0x1B0C, 0, 1), (0x1B0E, 0x1B0E, 0, 1), (0x1B12, 0x1B12, 0, 1),
  (0x1B34, 0x1B35, 1, 1), (0x1B3B, 0x1B3B, 0, 1), (0x1B3D, 0x1B3D, 0, 1), (0x1B40, 0x1B41, 0, 1),
  (0x1B43, 0x1B43, 0, 1), (0x1B44, 0x1B44, 1, 1), (0x1B6B, 0x1B73, 1, 1), (0x1BAA, 0x1BAB, 1, 1),
  (0x1BE6, 0x1BE6, 1, 1), (0x1BF2, 0x1BF3, 1, 1), (0x1C37, 0x1C37, 1, 1), (0x1CD0, 0x1CD2, 1, 1),
  (0x1CD4, 0x1CE0, 1, 1), (0x1CE2, 0x1CE8, 1, 1), (0x1CED, 0x1CED, 1, 1), (0x1CF4, 0x1CF4, 1, 1),
  (0x1CF8, 0x1CF9, 1, 1), (0x1DC0, 0x1DFF, 1, 1), (0x1E00, 0x1E07, 0, 1), (0x1E08, 0x1E09, 0, 2),
  (0x1E0A, 0x1E13, 0, 1), (0x1E14, 0x1E17, 0, 2), (0x1E18, 0x1E1B, 0, 1), (0x1E1C, 0x1E1D, 0, 2),
  (0x1E1E, 0x1E2D, 0, 1), (0x1E2E, 0x1E2F, 0, 2), (0x1E30, 0x1E37, 0, 1), (0x1E38, 0x1E39, 0, 2),
  (0x1E3A, 0x1E4B, 0, 1), (0x1E4C, 0x1E53, 0, 2), (0x1E54, 0x1E5B, 0, 1), (0x1E5C, 0x1E5D, 0, 2),
  (0x1E5E, 0x1E63, 0, 1), (0x1E64, 0x1E69, 0, 2), (0x1E6A, 0x1E77, 0, 1), (0x1E78, 0x1E7B, 0, 2),
  (0x1E7C, 0x1E99, 0, 1), (0x1E9B, 0x1E9B, 0, 1), (0x1EA0, 0x1EA3, 0, 1), (0x1EA4, 0x1EB7, 0, 2),
  (0x1EB8, 0x1EBD, 0, 1), (0x1EBE, 0x1EC7, 0, 2), (0x1EC8, 0x1ECF, 0, 1), (0x1ED0, 0x1EE3, 0, 2),
  (0x1EE4, 0x1EE7, 0, 1), (0x1EE8, 0x1EF1, 0, 2), (0x1EF2, 0x1EF9, 0, 1), (0x1F00, 0x1F01, 0, 1),
  (0x1F02, 0x1F07, 0, 2), (0x1F08, 0x1F09, 0, 1), (0x1F0A, 0x1F0F, 0, 2), (0x1F10, 0x1F11, 0, 1),
  (0x1F12, 0x1F15, 0, 2), (0x1F18, 0x1F19, 0, 1), (0x1F1A, 0x1F1D, 0, 2), (0x1F20, 0x1F21, 0, 1),
  (0x1F22, 0x1F27, 0, 2), (0x1F28, 0x1F29, 0, 1), (0x1F2A, 0x1F2F, 0, 2), (0x1F30, 0x1F31, 0, 1),
  (0x1F32, 0x1F37, 0, 2), (0x1F38, 0x1F39, 0, 1), (0x1F3A, 0x1F3F, 0, 2), (0x1F40, 0x1F41, 0, 1),
  (0x1F42, 0x1F45, 0, 2), (0x1F48, 0x1F49, 0, 1), (0x1F4A, 0x1F4D, 0, 2), (0x1F50, 0x1F51, 0, 1),
  (0x1F52, 0x1F57, 0, 2), (0x1F59, 0x1F59, 0, 1), (0x1F5B, 0x1F5B, 0, 2), (0x1F5D, 0x1F5D, 0, 2),
  (0x1F5F, 0x1F5F, 0, 2), (0x1F60, 0x1F61, 0, 1), (0x1F62, 0x1F67, 0, 2), (0x1F68, 0x1F69, 0, 1),
  (0x1F6A, 0x1F6F, 0, 2), (0x1F70, 0x1F7D, 0, 1), (0x1F80, 0x1F81, 0, 2), (0x1F82, 0x1F87, 0, 3),
  (0x1F88, 0x1F89, 0, 2), (0x1F8A, 0x1F8F, 0, 3), (0x1F90, 0x1F91, 0, 2), (0x1F92, 0x1F97, 0, 3),
  (0x1F98, 0x1F99, 0, 2), (0x1F9A, 0x1F9F, 0, 3), (0x1FA0, 0x1FA1, 0, 2), (0x1FA2, 0x1FA7, 0, 3),
  (0x1FA8, 0x1FA9, 0, 2), (0x1FAA, 0x1FAF, 0, 3), (0x1FB0, 0x1FB1, 0, 1), (0x1FB2, 0x1FB2, 0, 2),
  (0x1FB3, 0x1FB3, 0, 1), (0x1FB4, 0x1FB4, 0, 2), (0x1FB6, 0x1FB6, 0, 1), (0x1FB7, 0x1FB7, 0, 2),
  (0x1FB8, 0x1FBD, 0, 1), (0x1FBF, 0x1FC0, 0, 1), (0x1FC1, 0x1FC2, 0, 2), (0x1FC3, 0x1FC3, 0, 1),
  (0x1FC4, 0x1FC4, 0, 2), (0x1FC6, 0x1FC6, 0, 1), (0x1FC7, 0x1FC7, 0, 2), (0x1FC8, 0x1FCC, 0, 1),
  (0x1FCD, 0x1FCF, 0, 2), (0x1FD0, 0x1FD1, 0, 1), (0x1FD2, 0x1FD3, 0, 2), (0x1FD6, 0x1FD6, 0, 1),
  (0x1FD7, 0x1FD7, 0, 2), (0x1FD8, 0x1FDB, 0, 1), (0x1FDD, 0x1FDF, 0, 2), (0x1FE0, 0x1FE1, 0, 1),
  (0x1FE2, 0x1FE3, 0, 2), (0x1FE4, 0x1FE6, 0, 1), (0x1FE7, 0x1FE7, 0, 2), (0x1FE8, 0x1FEC, 0, 1),
  (0x1FED, 0x1FEE, 0, 2), (0x1FF2, 0x1FF2, 0, 2), (0x1FF3, 0x1FF3, 0, 1), (0x1FF4, 0x1FF4, 0, 2),
  (0x1FF6, 0x1FF6, 0, 1), (0x1FF7, 0x1FF7, 0, 2), (0x1FF8, 0x1FFE, 0, 1), (0x2017, 0x2017, 0, 1),
  (0x203E, 0x203E, 0, 1), (0x20D0, 0x20DC, 1, 1), (0x20E1, 0x20E1, 1, 1), (0x20E5, 0x20F0, 1, 1),
  (0x212B, 0x212B, 0, 1), (0x219A, 0x219B, 0, 1), (0x21AE, 0x21AE, 0, 1), (0x21CD, 0x21CF, 0, 1),
  (0x2204, 0x2204, 0, 1), (0x2209, 0x2209, 0, 1), (0x220C, 0x220C, 0, 1), (0x2224, 0x2224, 0, 1),
  (0x2226, 0x2226, 0, 1), (0x2241, 0x2241, 0, 1), (0x2244, 0x2244, 0, 1), (0x2247, 0x2247, 0, 1),
  (0x2249, 0x2249, 0, 1), (0x2260, 0x2260, 0, 1), (0x2262, 0x2262, 0, 1), (0x226D, 0x2271, 0, 1),
  (0x2274, 0x2275, 0, 1), (0x2278, 0x2279, 0, 1), (0x2280, 0x2281, 0, 1), (0x2284, 0x2285, 0, 1),
  (0x2288, 0x2289, 0, 1), (0x22AC, 0x22AF, 0, 1), (0x22E0, 0x22E3, 0, 1), (0x22EA, 0x22ED, 0, 1),
  (0x2ADC, 0x2ADC, 0, 1), (0x2CEF, 0x2CF1, 1, 1), (0x2D7F, 0x2D7F, 1, 1), (0x2DE0, 0x2DFF, 1, 1),
  (0x302A, 0x302F, 1, 1), (0x304C, 0x304C, 0, 1), (0x304E, 0x304E, 0, 1), (0x3050, 0x3050, 0, 1),
  (0x3052, 0x3052, 0, 1), (0x3054, 0x3054, 0, 1), (0x3056, 0x3056, 0, 1), (0x3058, 0x3058, 0, 1),
  (0x305A, 0x305A, 0, 1), (0x305C, 0x305C, 0, 1), (0x305E, 0x305E, 0, 1), (0x3060, 0x3060, 0, 1),
  (0x3062, 0x3062, 0, 1), (0x3065, 0x3065, 0, 1), (0x3067, 0x3067, 0, 1), (0x3069, 0x3069, 0, 1),
  (0x3070, 0x3071, 0, 1), (0x3073, 0x3074, 0, 1), (0x3076, 0x3077, 0, 1), (0x3079, 0x307A, 0, 1),
  (0x307C, 0x307D, 0, 1), (0x3094, 0x3094, 0, 1), (0x3099, 0x309A, 1, 1), (0x309B, 0x309C, 0, 1),
  (0x309E, 0x309E, 0, 1), (0x30AC, 0x30AC, 0, 1), (0x30AE, 0x30AE, 0, 1), (0x30B0, 0x30B0, 0, 1),
  (0x30B2, 0x30B2, 0, 1), (0x30B4, 0x30B4, 0, 1), (0x30B6, 0x30B6, 0, 1), (0x30B8, 0x30B8, 0, 1),
  (0x30BA, 0x30BA, 0, 1), (0x30BC, 0x30BC, 0, 1), (0x30BE, 0x30BE, 0, 1), (0x30C0, 0x30C0, 0, 1),
  (0x30C2, 0x30C2, 0, 1), (0x30C5, 0x30C5, 0, 1), (0x30C7, 0x30C7, 0, 1), (0x30C9, 0x30C9, 0, 1),
  (0x30D0, 0x30D1, 0, 1), (0x30D3, 0x30D4, 0, 1), (0x30D6, 0x30D7, 0, 1), (0x30D9, 0x30DA, 0, 1),
  (0x30DC, 0x30DD, 0, 1), (0x30F4, 0x30F4, 0, 1), (0x30F7, 0x30FA, 0, 1), (0x30FE, 0x30FE, 0, 1),
  (0x3133, 0x3133, 1, 1), (0x3135, 0x3136, 1, 1), (0x313A, 0x313F, 1, 1), (0x314F, 0x3163, 1, 1),
  (0x326E, 0x327E, 0, 1), (0x3304, 0x3304, 0, 1), (0x3307, 0x3307, 0, 1), (0x3310, 0x3310, 0, 1),
  (0x331E, 0x331E, 0, 1), (0x3321, 0x3321, 0, 1), (0x3332, 0x3332, 0, 1), (0x333B, 0x333B, 0, 1),
  (0x3340, 0x3340, 0, 1), (0x334B, 0x334B, 0, 1), (0x334E, 0x334E, 0, 1), (0xA66F, 0xA66F, 1, 1),
  (0xA674, 0xA67D, 1, 1), (0xA69E, 0xA69F, 1, 1), (0xA6F0, 0xA6F1, 1, 1), (0xA806, 0xA806, 1, 1),
  (0xA82C, 0xA82C, 1, 1), (0xA8C4, 0xA8C4, 1, 1), (0xA8E0, 0xA8F1, 1, 1), (0xA92B, 0xA92D, 1, 1),
  (0xA953, 0xA953, 1, 1), (0xA9B3, 0xA9B3, 1, 1), (0xA9C0, 0xA9C0, 1, 1), (0xAAB0, 0xAAB0, 1, 1),
  (0xAAB2, 0xAAB4, 1, 1), (0xAAB7, 0xAAB8, 1, 1), (0xAABE, 0xAABF, 1, 1), (0xAAC1, 0xAAC1, 1, 1),
  (0xAAF6, 0xAAF6, 1, 1), (0xABED, 0xABED, 1, 1), (0xFB1D, 0xFB1D, 0, 1), (0xFB1E, 0xFB1E, 1, 1),
  (0xFB1F, 0xFB1F, 0, 1), (0xFB2A, 0xFB2B, 0, 1), (0xFB2C, 0xFB2D, 0, 2), (0xFB2E, 0xFB36, 0, 1),
  (0xFB38, 0xFB3C, 0, 1), (0xFB3E, 0xFB3E, 0, 1), (0xFB40, 0xFB41, 0, 1), (0xFB43, 0xFB44, 0, 1),
  (0xFB46, 0xFB4E, 0, 1), (0xFBA4, 0xFBA5, 0, 1), (0xFBB0, 0xFBB1, 0, 1), (0xFC5B, 0xFC5D, 0, 1),
  (0xFC5E, 0xFC63, 0, 2), (0xFC90, 0xFC90, 0, 1), (0xFCD9, 0xFCD9, 0, 1), (0xFCF2, 0xFCF4, 0, 2),
  (0xFD3C, 0xFD3D, 0, 1), (0xFE20, 0xFE2F, 1, 1), (0xFE49, 0xFE4C, 0, 1), (0xFE70, 0xFE72, 0, 1),
  (0xFE74, 0xFE74, 0, 1), (0xFE76, 0xFE7F, 0, 1), (0xFE81, 0xFE8C, 0, 1), (0xFEF5, 0xFEFA, 0, 1),
  (0xFF9E, 0xFF9F, 1, 1), (0xFFA3, 0xFFA3, 1, 1), (0xFFA5, 0xFFA6, 1, 1), (0xFFAA, 0xFFAF, 1, 1),
  (0xFFC2, 0xFFC7, 1, 1), (0xFFCA, 0xFFCF, 1, 1), (0xFFD2, 0xFFD7, 1, 1), (0xFFDA, 0xFFDC, 1, 1),
  (0xFFE3, 0xFFE3, 0, 1), (0x101FD, 0x101FD, 1, 1), (0x102E0, 0x102E0, 1, 1),
  (0x10376, 0x1037A, 1, 1), (0x10A0D, 0x10A0D, 1, 1), (0x10A0F, 0x10A0F, 1, 1),
  (0x10A38, 0x10A3A, 1, 1), (0x10A3F, 0x10A3F, 1, 1), (0x10AE5, 0x10AE6, 1, 1),
  (0x10D24, 0x10D27, 1, 1), (0x10EAB, 0x10EAC, 1, 1), (0x10EFD, 0x10EFF, 1, 1),
  (0x10F46, 0x10F50, 1, 1), (0x10F82, 0x10F85, 1, 1), (0x11046, 0x11046, 1, 1),
  (0x11070, 0x11070, 1, 1), (0x1107F, 0x1107F, 1, 1), (0x1109A, 0x1109A, 0, 1),
  (0x1109C, 0x1109C, 0, 1), (0x110AB, 0x110AB, 0, 1), (0x110B9, 0x110BA, 1, 1),
  (0x11100, 0x11102, 1, 1), (0x11127, 0x11127, 1, 1), (0x1112E, 0x1112F, 0, 1),
  (0x11133, 0x11134, 1, 1), (0x11173, 0x11173, 1, 1), (0x111C0, 0x111C0, 1, 1),
  (0x111CA, 0x111CA, 1, 1), (0x11235, 0x11236, 1, 1), (0x112E9, 0x112EA, 1, 1),
  (0x1133B, 0x1133C, 1, 1), (0x1133E, 0x1133E, 1, 1), (0x1134B, 0x1134C, 0, 1),
  (0x1134D, 0x1134D, 1, 1), (0x11357, 0x11357, 1, 1), (0x11366, 0x1136C, 1, 1),
  (0x11370, 0x11374, 1, 1), (0x11442, 0x11442, 1, 1), (0x11446, 0x11446, 1, 1),
  (0x1145E, 0x1145E, 1, 1), (0x114B0, 0x114B0, 1, 1), (0x114BA, 0x114BA, 1, 1),
  (0x114BB, 0x114BC, 0, 1), (0x114BD, 0x114BD, 1, 1), (0x114BE, 0x114BE, 0, 1),
  (0x114C2, 0x114C3, 1, 1), (0x115AF, 0x115AF, 1, 1), (0x115BA, 0x115BB, 0, 1),
  (0x115BF, 0x115C0, 1, 1), (0x1163F, 0x1163F, 1, 1), (0x116B6, 0x116B7, 1, 1),
  (0x1172B, 0x1172B, 1, 1), (0x11839, 0x1183A, 1, 1), (0x11930, 0x11930, 1, 1),
  (0x11938, 0x11938, 0, 1), (0x1193D, 0x1193E, 1, 1), (0x11943, 0x11943, 1, 1),
  (0x119E0, 0x119E0, 1, 1), (0x11A34, 0x11A34, 1, 1), (0x11A47, 0x11A47, 1, 1),
  (0x11A99, 0x11A99, 1, 1), (0x11C3F, 0x11C3F, 1, 1), (0x11D42, 0x11D42, 1, 1),
  (0x11D44, 0x11D45, 1, 1), (0x11D97, 0x11D97, 1, 1), (0x11F41, 0x11F42, 1, 1),
  (0x16AF0, 0x16AF4, 1, 1), (0x16B30, 0x16B36, 1, 1), (0x16FF0, 0x16FF1, 1, 1),
  (0x1BC9E, 0x1BC9E, 1, 1), (0x1D15E, 0x1D15F, 0, 1), (0x1D160, 0x1D164, 0, 2),
  (0x1D165, 0x1D169, 1, 1), (0x1D16D, 0x1D172, 1, 1), (0x1D17B, 0x1D182, 1, 1),
  (0x1D185, 0x1D18B, 1, 1), (0x1D1AA, 0x1D1AD, 1, 1), (0x1D1BB, 0x1D1BC, 0, 1),
  (0x1D1BD, 0x1D1C0, 0, 2), (0x1D242, 0x1D244, 1, 1), (0x1E000, 0x1E006, 1, 1),
  (0x1E008, 0x1E018, 1, 1), (0x1E01B, 0x1E021, 1, 1), (0x1E023, 0x1E024, 1, 1),
  (0x1E026, 0x1E02A, 1, 1), (0x1E08F, 0x1E08F, 1, 1), (0x1E130, 0x1E136, 1, 1),
  (0x1E2AE, 0x1E2AE, 1, 1), (0x1E2EC, 0x1E2EF, 1, 1), (0x1E4EC, 0x1E4EF, 1, 1),
  (0x1E8D0, 0x1E8D6, 1, 1), (0x1E944, 0x1E94A, 1, 1), (0x1F213, 0x1F213, 0, 1)]

/-- Gives the numbers of leading and trailing non-starters of a character. -/
def nonStarters (c : Char) : Nat × Nat :=
  let n := c.toNat
  if 0xAC00 ≤ n && n ≤ 0xD7A3 then
    (0, if (n - 0xAC00) % 28 == 0 then 1 else 2)
  else
    match nonStarterRanges.find? fun r => r.1 ≤ n && n ≤ r.2.1 with
    | some r => r.2.2
    | none => (0, 0)

end ThreeAddress.Unicode
