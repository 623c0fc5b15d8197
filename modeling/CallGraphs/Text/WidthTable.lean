/-!
# Display width data

How many terminal cells a character takes where that is not one: none for combining marks, format
characters and controls, two for wide East Asian characters and pictographs. A few narrow symbols
become wide where a selector asks for their pictograph.
-/

namespace CallGraphs.Text

/-- Inclusive ranges of code points with the number of cells each takes, in ascending order. -/
def cellRanges : List (Nat × Nat × Nat) :=
  [(0x0, 0x1F, 0), (0x7F, 0x9F, 0), (0x300, 0x36F, 0), (0x483, 0x489, 0), (0x591, 0x5BD, 0),
   (0x5BF, 0x5BF, 0), (0x5C1, 0x5C2, 0), (0x5C4, 0x5C5, 0), (0x5C7, 0x5C7, 0), (0x610, 0x61A, 0),
   (0x61C, 0x61C, 0), (0x64B, 0x65F, 0), (0x670, 0x670, 0), (0x6D6, 0x6DC, 0), (0x6DF, 0x6E4, 0),
   (0x6E7, 0x6E8, 0), (0x6EA, 0x6ED, 0), (0x711, 0x711, 0), (0x730, 0x74A, 0), (0x7A6, 0x7B0, 0),
   (0x7EB, 0x7F3, 0), (0x7FD, 0x7FD, 0), (0x816, 0x819, 0), (0x81B, 0x823, 0), (0x825, 0x827, 0),
   (0x829, 0x82D, 0), (0x859, 0x85B, 0), (0x897, 0x89F, 0), (0x8CA, 0x8E1, 0), (0x8E3, 0x903, 0),
   (0x93A, 0x93C, 0), (0x93E, 0x94F, 0), (0x951, 0x957, 0), (0x962, 0x963, 0), (0x981, 0x983, 0),
   (0x9BC, 0x9BC, 0), (0x9BE, 0x9C4, 0), (0x9C7, 0x9C8, 0), (0x9CB, 0x9CD, 0), (0x9D7, 0x9D7, 0),
   (0x9E2, 0x9E3, 0), (0x9FE, 0x9FE, 0), (0xA01, 0xA03, 0), (0xA3C, 0xA3C, 0), (0xA3E, 0xA42, 0),
   (0xA47, 0xA48, 0), (0xA4B, 0xA4D, 0), (0xA51, 0xA51, 0), (0xA70, 0xA71, 0), (0xA75, 0xA75, 0),
   (0xA81, 0xA83, 0), (0xABC, 0xABC, 0), (0xABE, 0xAC5, 0), (0xAC7, 0xAC9, 0), (0xACB, 0xACD, 0),
   (0xAE2, 0xAE3, 0), (0xAFA, 0xAFF, 0), (0xB01, 0xB03, 0), (0xB3C, 0xB3C, 0), (0xB3E, 0xB44, 0),
   (0xB47, 0xB48, 0), (0xB4B, 0xB4D, 0), (0xB55, 0xB57, 0), (0xB62, 0xB63, 0), (0xB82, 0xB82, 0),
   (0xBBE, 0xBC2, 0), (0xBC6, 0xBC8, 0), (0xBCA, 0xBCD, 0), (0xBD7, 0xBD7, 0), (0xC00, 0xC04, 0),
   (0xC3C, 0xC3C, 0), (0xC3E, 0xC44, 0), (0xC46, 0xC48, 0), (0xC4A, 0xC4D, 0), (0xC55, 0xC56, 0),
   (0xC62, 0xC63, 0), (0xC81, 0xC83, 0), (0xCBC, 0xCBC, 0), (0xCBE, 0xCC4, 0), (0xCC6, 0xCC8, 0),
   (0xCCA, 0xCCD, 0), (0xCD5, 0xCD6, 0), (0xCE2, 0xCE3, 0), (0xCF3, 0xCF3, 0), (0xD00, 0xD03, 0),
   (0xD3B, 0xD3C, 0), (0xD3E, 0xD44, 0), (0xD46, 0xD48, 0), (0xD4A, 0xD4D, 0), (0xD57, 0xD57, 0),
   (0xD62, 0xD63, 0), (0xD81, 0xD83, 0), (0xDCA, 0xDCA, 0), (0xDCF, 0xDD4, 0), (0xDD6, 0xDD6, 0),
   (0xDD8, 0xDDF, 0), (0xDF2, 0xDF3, 0), (0xE31, 0xE31, 0), (0xE34, 0xE3A, 0), (0xE47, 0xE4E, 0),
   (0xEB1, 0xEB1, 0), (0xEB4, 0xEBC, 0), (0xEC8, 0xECE, 0), (0xF18, 0xF19, 0), (0xF35, 0xF35, 0),
   (0xF37, 0xF37, 0), (0xF39, 0xF39, 0), (0xF3E, 0xF3F, 0), (0xF71, 0xF84, 0), (0xF86, 0xF87, 0),
   (0xF8D, 0xF97, 0), (0xF99, 0xFBC, 0), (0xFC6, 0xFC6, 0), (0x102B, 0x103E, 0),
   (0x1056, 0x1059, 0), (0x105E, 0x1060, 0), (0x1062, 0x1064, 0), (0x1067, 0x106D, 0),
   (0x1071, 0x1074, 0), (0x1082, 0x108D, 0), (0x108F, 0x108F, 0), (0x109A, 0x109D, 0),
   (0x1100, 0x115F, 2), (0x1160, 0x11FF, 0), (0x135D, 0x135F, 0), (0x1712, 0x1715, 0),
   (0x1732, 0x1734, 0), (0x1752, 0x1753, 0), (0x1772, 0x1773, 0), (0x17B4, 0x17D3, 0),
   (0x17DD, 0x17DD, 0), (0x180B, 0x180F, 0), (0x1885, 0x1886, 0), (0x18A9, 0x18A9, 0),
   (0x1920, 0x192B, 0), (0x1930, 0x193B, 0), (0x1A17, 0x1A1B, 0), (0x1A55, 0x1A5E, 0),
   (0x1A60, 0x1A7C, 0), (0x1A7F, 0x1A7F, 0), (0x1AB0, 0x1ADD, 0), (0x1AE0, 0x1AEB, 0),
   (0x1B00, 0x1B04, 0), (0x1B34, 0x1B44, 0), (0x1B6B, 0x1B73, 0), (0x1B80, 0x1B82, 0),
   (0x1BA1, 0x1BAD, 0), (0x1BE6, 0x1BF3, 0), (0x1C24, 0x1C37, 0), (0x1CD0, 0x1CD2, 0),
   (0x1CD4, 0x1CE8, 0), (0x1CED, 0x1CED, 0), (0x1CF4, 0x1CF4, 0), (0x1CF7, 0x1CF9, 0),
   (0x1DC0, 0x1DFF, 0), (0x200B, 0x200F, 0), (0x2028, 0x202E, 0), (0x2060, 0x206F, 0),
   (0x20D0, 0x20F0, 0), (0x231A, 0x231B, 2), (0x2329, 0x232A, 2), (0x23E9, 0x23EC, 2),
   (0x23F0, 0x23F0, 2), (0x23F3, 0x23F3, 2), (0x25FD, 0x25FE, 2), (0x2614, 0x2615, 2),
   (0x2630, 0x2637, 2), (0x2648, 0x2653, 2), (0x267F, 0x267F, 2), (0x268A, 0x268F, 2),
   (0x2693, 0x2693, 2), (0x26A1, 0x26A1, 2), (0x26AA, 0x26AB, 2), (0x26BD, 0x26BE, 2),
   (0x26C4, 0x26C5, 2), (0x26CE, 0x26CE, 2), (0x26D4, 0x26D4, 2), (0x26EA, 0x26EA, 2),
   (0x26F2, 0x26F3, 2), (0x26F5, 0x26F5, 2), (0x26FA, 0x26FA, 2), (0x26FD, 0x26FD, 2),
   (0x2705, 0x2705, 2), (0x270A, 0x270B, 2), (0x2728, 0x2728, 2), (0x274C, 0x274C, 2),
   (0x274E, 0x274E, 2), (0x2753, 0x2755, 2), (0x2757, 0x2757, 2), (0x2795, 0x2797, 2),
   (0x27B0, 0x27B0, 2), (0x27BF, 0x27BF, 2), (0x2B1B, 0x2B1C, 2), (0x2B50, 0x2B50, 2),
   (0x2B55, 0x2B55, 2), (0x2CEF, 0x2CF1, 0), (0x2D7F, 0x2D7F, 0), (0x2DE0, 0x2DFF, 0),
   (0x2E80, 0x2E99, 2), (0x2E9B, 0x2EF3, 2), (0x2F00, 0x2FD5, 2), (0x2FF0, 0x3029, 2),
   (0x302A, 0x302F, 0), (0x3030, 0x303E, 2), (0x3041, 0x3096, 2), (0x3099, 0x309A, 0),
   (0x309B, 0x30FF, 2), (0x3105, 0x312F, 2), (0x3131, 0x3163, 2), (0x3164, 0x3164, 0),
   (0x3165, 0x318E, 2), (0x3190, 0x31E5, 2), (0x31EF, 0x321E, 2), (0x3220, 0x3247, 2),
   (0x3250, 0xA48C, 2), (0xA490, 0xA4C6, 2), (0xA66F, 0xA672, 0), (0xA674, 0xA67D, 0),
   (0xA69E, 0xA69F, 0), (0xA6F0, 0xA6F1, 0), (0xA802, 0xA802, 0), (0xA806, 0xA806, 0),
   (0xA80B, 0xA80B, 0), (0xA823, 0xA827, 0), (0xA82C, 0xA82C, 0), (0xA880, 0xA881, 0),
   (0xA8B4, 0xA8C5, 0), (0xA8E0, 0xA8F1, 0), (0xA8FF, 0xA8FF, 0), (0xA926, 0xA92D, 0),
   (0xA947, 0xA953, 0), (0xA960, 0xA97C, 2), (0xA980, 0xA983, 0), (0xA9B3, 0xA9C0, 0),
   (0xA9E5, 0xA9E5, 0), (0xAA29, 0xAA36, 0), (0xAA43, 0xAA43, 0), (0xAA4C, 0xAA4D, 0),
   (0xAA7B, 0xAA7D, 0), (0xAAB0, 0xAAB0, 0), (0xAAB2, 0xAAB4, 0), (0xAAB7, 0xAAB8, 0),
   (0xAABE, 0xAABF, 0), (0xAAC1, 0xAAC1, 0), (0xAAEB, 0xAAEF, 0), (0xAAF5, 0xAAF6, 0),
   (0xABE3, 0xABEA, 0), (0xABEC, 0xABED, 0), (0xAC00, 0xD7A3, 2), (0xD7B0, 0xD7C6, 0),
   (0xD7CB, 0xD7FB, 0), (0xF900, 0xFAFF, 2), (0xFB1E, 0xFB1E, 0), (0xFE00, 0xFE0F, 0),
   (0xFE10, 0xFE19, 2), (0xFE20, 0xFE2F, 0), (0xFE30, 0xFE52, 2), (0xFE54, 0xFE66, 2),
   (0xFE68, 0xFE6B, 2), (0xFEFF, 0xFEFF, 0), (0xFF01, 0xFF60, 2), (0xFFA0, 0xFFA0, 0),
   (0xFFE0, 0xFFE6, 2), (0xFFF0, 0xFFFB, 0), (0x101FD, 0x101FD, 0), (0x102E0, 0x102E0, 0),
   (0x10376, 0x1037A, 0), (0x10A01, 0x10A03, 0), (0x10A05, 0x10A06, 0), (0x10A0C, 0x10A0F, 0),
   (0x10A38, 0x10A3A, 0), (0x10A3F, 0x10A3F, 0), (0x10AE5, 0x10AE6, 0), (0x10D24, 0x10D27, 0),
   (0x10D69, 0x10D6D, 0), (0x10EAB, 0x10EAC, 0), (0x10EFA, 0x10EFF, 0), (0x10F46, 0x10F50, 0),
   (0x10F82, 0x10F85, 0), (0x11000, 0x11002, 0), (0x11038, 0x11046, 0), (0x11070, 0x11070, 0),
   (0x11073, 0x11074, 0), (0x1107F, 0x11082, 0), (0x110B0, 0x110BA, 0), (0x110C2, 0x110C2, 0),
   (0x11100, 0x11102, 0), (0x11127, 0x11134, 0), (0x11145, 0x11146, 0), (0x11173, 0x11173, 0),
   (0x11180, 0x11182, 0), (0x111B3, 0x111C0, 0), (0x111C9, 0x111CC, 0), (0x111CE, 0x111CF, 0),
   (0x1122C, 0x11237, 0), (0x1123E, 0x1123E, 0), (0x11241, 0x11241, 0), (0x112DF, 0x112EA, 0),
   (0x11300, 0x11303, 0), (0x1133B, 0x1133C, 0), (0x1133E, 0x11344, 0), (0x11347, 0x11348, 0),
   (0x1134B, 0x1134D, 0), (0x11357, 0x11357, 0), (0x11362, 0x11363, 0), (0x11366, 0x1136C, 0),
   (0x11370, 0x11374, 0), (0x113B8, 0x113C0, 0), (0x113C2, 0x113C2, 0), (0x113C5, 0x113C5, 0),
   (0x113C7, 0x113CA, 0), (0x113CC, 0x113D0, 0), (0x113D2, 0x113D2, 0), (0x113E1, 0x113E2, 0),
   (0x11435, 0x11446, 0), (0x1145E, 0x1145E, 0), (0x114B0, 0x114C3, 0), (0x115AF, 0x115B5, 0),
   (0x115B8, 0x115C0, 0), (0x115DC, 0x115DD, 0), (0x11630, 0x11640, 0), (0x116AB, 0x116B7, 0),
   (0x1171D, 0x1172B, 0), (0x1182C, 0x1183A, 0), (0x11930, 0x11935, 0), (0x11937, 0x11938, 0),
   (0x1193B, 0x1193E, 0), (0x11940, 0x11940, 0), (0x11942, 0x11943, 0), (0x119D1, 0x119D7, 0),
   (0x119DA, 0x119E0, 0), (0x119E4, 0x119E4, 0), (0x11A01, 0x11A0A, 0), (0x11A33, 0x11A39, 0),
   (0x11A3B, 0x11A3E, 0), (0x11A47, 0x11A47, 0), (0x11A51, 0x11A5B, 0), (0x11A8A, 0x11A99, 0),
   (0x11B60, 0x11B67, 0), (0x11C2F, 0x11C36, 0), (0x11C38, 0x11C3F, 0), (0x11C92, 0x11CA7, 0),
   (0x11CA9, 0x11CB6, 0), (0x11D31, 0x11D36, 0), (0x11D3A, 0x11D3A, 0), (0x11D3C, 0x11D3D, 0),
   (0x11D3F, 0x11D45, 0), (0x11D47, 0x11D47, 0), (0x11D8A, 0x11D8E, 0), (0x11D90, 0x11D91, 0),
   (0x11D93, 0x11D97, 0), (0x11EF3, 0x11EF6, 0), (0x11F00, 0x11F01, 0), (0x11F03, 0x11F03, 0),
   (0x11F34, 0x11F3A, 0), (0x11F3E, 0x11F42, 0), (0x11F5A, 0x11F5A, 0), (0x13430, 0x13440, 0),
   (0x13447, 0x13455, 0), (0x1611E, 0x1612F, 0), (0x16AF0, 0x16AF4, 0), (0x16B30, 0x16B36, 0),
   (0x16F4F, 0x16F4F, 0), (0x16F51, 0x16F87, 0), (0x16F8F, 0x16F92, 0), (0x16FE0, 0x16FE3, 2),
   (0x16FE4, 0x16FE4, 0), (0x16FF0, 0x16FF1, 0), (0x16FF2, 0x16FF6, 2), (0x17000, 0x18CD5, 2),
   (0x18CFF, 0x18D1E, 2), (0x18D80, 0x18DF2, 2), (0x1AFF0, 0x1AFF3, 2), (0x1AFF5, 0x1AFFB, 2),
   (0x1AFFD, 0x1AFFE, 2), (0x1B000, 0x1B122, 2), (0x1B132, 0x1B132, 2), (0x1B150, 0x1B152, 2),
   (0x1B155, 0x1B155, 2), (0x1B164, 0x1B167, 2), (0x1B170, 0x1B2FB, 2), (0x1BC9D, 0x1BC9E, 0),
   (0x1BCA0, 0x1BCA3, 0), (0x1CF00, 0x1CF2D, 0), (0x1CF30, 0x1CF46, 0), (0x1D165, 0x1D169, 0),
   (0x1D16D, 0x1D182, 0), (0x1D185, 0x1D18B, 0), (0x1D1AA, 0x1D1AD, 0), (0x1D242, 0x1D244, 0),
   (0x1D300, 0x1D356, 2), (0x1D360, 0x1D376, 2), (0x1DA00, 0x1DA36, 0), (0x1DA3B, 0x1DA6C, 0),
   (0x1DA75, 0x1DA75, 0), (0x1DA84, 0x1DA84, 0), (0x1DA9B, 0x1DA9F, 0), (0x1DAA1, 0x1DAAF, 0),
   (0x1E000, 0x1E006, 0), (0x1E008, 0x1E018, 0), (0x1E01B, 0x1E021, 0), (0x1E023, 0x1E024, 0),
   (0x1E026, 0x1E02A, 0), (0x1E08F, 0x1E08F, 0), (0x1E130, 0x1E136, 0), (0x1E2AE, 0x1E2AE, 0),
   (0x1E2EC, 0x1E2EF, 0), (0x1E4EC, 0x1E4EF, 0), (0x1E5EE, 0x1E5EF, 0), (0x1E6E3, 0x1E6E3, 0),
   (0x1E6E6, 0x1E6E6, 0), (0x1E6EE, 0x1E6EF, 0), (0x1E6F5, 0x1E6F5, 0), (0x1E8D0, 0x1E8D6, 0),
   (0x1E944, 0x1E94A, 0), (0x1F004, 0x1F004, 2), (0x1F0CF, 0x1F0CF, 2), (0x1F18E, 0x1F18E, 2),
   (0x1F191, 0x1F19A, 2), (0x1F200, 0x1F202, 2), (0x1F210, 0x1F23B, 2), (0x1F240, 0x1F248, 2),
   (0x1F250, 0x1F251, 2), (0x1F260, 0x1F265, 2), (0x1F300, 0x1F320, 2), (0x1F32D, 0x1F335, 2),
   (0x1F337, 0x1F37C, 2), (0x1F37E, 0x1F393, 2), (0x1F3A0, 0x1F3CA, 2), (0x1F3CF, 0x1F3D3, 2),
   (0x1F3E0, 0x1F3F0, 2), (0x1F3F4, 0x1F3F4, 2), (0x1F3F8, 0x1F3FA, 2), (0x1F3FB, 0x1F3FF, 0),
   (0x1F400, 0x1F43E, 2), (0x1F440, 0x1F440, 2), (0x1F442, 0x1F4FC, 2), (0x1F4FF, 0x1F53D, 2),
   (0x1F54B, 0x1F54E, 2), (0x1F550, 0x1F567, 2), (0x1F57A, 0x1F57A, 2), (0x1F595, 0x1F596, 2),
   (0x1F5A4, 0x1F5A4, 2), (0x1F5FB, 0x1F64F, 2), (0x1F680, 0x1F6C5, 2), (0x1F6CC, 0x1F6CC, 2),
   (0x1F6D0, 0x1F6D2, 2), (0x1F6D5, 0x1F6D8, 2), (0x1F6DC, 0x1F6DF, 2), (0x1F6EB, 0x1F6EC, 2),
   (0x1F6F4, 0x1F6FC, 2), (0x1F7E0, 0x1F7EB, 2), (0x1F7F0, 0x1F7F0, 2), (0x1F90C, 0x1F93A, 2),
   (0x1F93C, 0x1F945, 2), (0x1F947, 0x1F9FF, 2), (0x1FA70, 0x1FA7C, 2), (0x1FA80, 0x1FA8A, 2),
   (0x1FA8E, 0x1FAC6, 2), (0x1FAC8, 0x1FAC8, 2), (0x1FACD, 0x1FADC, 2), (0x1FADF, 0x1FAEA, 2),
   (0x1FAEF, 0x1FAF8, 2), (0x20000, 0x2FFFD, 2), (0x30000, 0x3FFFD, 2), (0xE0000, 0xE0FFF, 0)]

/-- Inclusive ranges of the symbols that take one cell more as pictographs, in ascending order. -/
def pictureRanges : List (Nat × Nat) :=
  [(0x23, 0x23), (0x2A, 0x2A), (0x30, 0x39), (0xA9, 0xA9), (0xAE, 0xAE), (0x203C, 0x203C),
   (0x2049, 0x2049), (0x2122, 0x2122), (0x2139, 0x2139), (0x2194, 0x2199), (0x21A9, 0x21AA),
   (0x2328, 0x2328), (0x23CF, 0x23CF), (0x23ED, 0x23EF), (0x23F1, 0x23F2), (0x23F8, 0x23FA),
   (0x24C2, 0x24C2), (0x25AA, 0x25AB), (0x25B6, 0x25B6), (0x25C0, 0x25C0), (0x25FB, 0x25FC),
   (0x2600, 0x2604), (0x260E, 0x260E), (0x2611, 0x2611), (0x2618, 0x2618), (0x261D, 0x261D),
   (0x2620, 0x2620), (0x2622, 0x2623), (0x2626, 0x2626), (0x262A, 0x262A), (0x262E, 0x262F),
   (0x2638, 0x263A), (0x2640, 0x2640), (0x2642, 0x2642), (0x265F, 0x2660), (0x2663, 0x2663),
   (0x2665, 0x2666), (0x2668, 0x2668), (0x267B, 0x267B), (0x267E, 0x267E), (0x2692, 0x2692),
   (0x2694, 0x2697), (0x2699, 0x2699), (0x269B, 0x269C), (0x26A0, 0x26A0), (0x26A7, 0x26A7),
   (0x26B0, 0x26B1), (0x26C8, 0x26C8), (0x26CF, 0x26CF), (0x26D1, 0x26D1), (0x26D3, 0x26D3),
   (0x26E9, 0x26E9), (0x26F0, 0x26F1), (0x26F4, 0x26F4), (0x26F7, 0x26F9), (0x2702, 0x2702),
   (0x2708, 0x2709), (0x270C, 0x270D), (0x270F, 0x270F), (0x2712, 0x2712), (0x2714, 0x2714),
   (0x2716, 0x2716), (0x271D, 0x271D), (0x2721, 0x2721), (0x2733, 0x2734), (0x2744, 0x2744),
   (0x2747, 0x2747), (0x2763, 0x2764), (0x27A1, 0x27A1), (0x2934, 0x2935), (0x2B05, 0x2B07),
   (0x1F170, 0x1F171), (0x1F17E, 0x1F17F), (0x1F321, 0x1F321), (0x1F324, 0x1F32C),
   (0x1F336, 0x1F336), (0x1F37D, 0x1F37D), (0x1F396, 0x1F397), (0x1F399, 0x1F39B),
   (0x1F39E, 0x1F39F), (0x1F3CB, 0x1F3CE), (0x1F3D4, 0x1F3DF), (0x1F3F3, 0x1F3F3),
   (0x1F3F5, 0x1F3F5), (0x1F3F7, 0x1F3F7), (0x1F43F, 0x1F43F), (0x1F441, 0x1F441),
   (0x1F4FD, 0x1F4FD), (0x1F549, 0x1F54A), (0x1F56F, 0x1F570), (0x1F573, 0x1F579),
   (0x1F587, 0x1F587), (0x1F58A, 0x1F58D), (0x1F590, 0x1F590), (0x1F5A5, 0x1F5A5),
   (0x1F5A8, 0x1F5A8), (0x1F5B1, 0x1F5B2), (0x1F5BC, 0x1F5BC), (0x1F5C2, 0x1F5C4),
   (0x1F5D1, 0x1F5D3), (0x1F5DC, 0x1F5DE), (0x1F5E1, 0x1F5E1), (0x1F5E3, 0x1F5E3),
   (0x1F5E8, 0x1F5E8), (0x1F5EF, 0x1F5EF), (0x1F5F3, 0x1F5F3), (0x1F5FA, 0x1F5FA),
   (0x1F6CB, 0x1F6CB), (0x1F6CD, 0x1F6CF), (0x1F6E0, 0x1F6E5), (0x1F6E9, 0x1F6E9),
   (0x1F6F0, 0x1F6F0), (0x1F6F3, 0x1F6F3)]

end CallGraphs.Text
