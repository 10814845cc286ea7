import QueryDialect.Text.CaseEntry

/-!
# Lower-case forms

The characters whose lower-case form is another text, regardless of their neighbours.
-/
namespace QueryDialect.Text

/-- The full lower-case mapping, in increasing order of code points. -/
def lowerEntries : List CaseEntry := [
  .shift 0x41 0x5A 1 32, .shift 0xC0 0xD6 1 32, .shift 0xD8 0xDE 1 32, .shift 0x100 0x12E 2 1,
  .spell 0x130 [0x69, 0x307], .shift 0x132 0x136 2 1, .shift 0x139 0x147 2 1,
  .shift 0x14A 0x176 2 1, .shift 0x178 0x178 1 (-121), .shift 0x179 0x17D 2 1,
  .shift 0x181 0x181 1 210, .shift 0x182 0x184 2 1, .shift 0x186 0x186 1 206,
  .shift 0x187 0x187 1 1, .shift 0x189 0x18A 1 205, .shift 0x18B 0x18B 1 1,
  .shift 0x18E 0x18E 1 79, .shift 0x18F 0x18F 1 202, .shift 0x190 0x190 1 203,
  .shift 0x191 0x191 1 1, .shift 0x193 0x193 1 205, .shift 0x194 0x194 1 207,
  .shift 0x196 0x196 1 211, .shift 0x197 0x197 1 209, .shift 0x198 0x198 1 1,
  .shift 0x19C 0x19C 1 211, .shift 0x19D 0x19D 1 213, .shift 0x19F 0x19F 1 214,
  .shift 0x1A0 0x1A4 2 1, .shift 0x1A6 0x1A6 1 218, .shift 0x1A7 0x1A7 1 1,
  .shift 0x1A9 0x1A9 1 218, .shift 0x1AC 0x1AC 1 1, .shift 0x1AE 0x1AE 1 218,
  .shift 0x1AF 0x1AF 1 1, .shift 0x1B1 0x1B2 1 217, .shift 0x1B3 0x1B5 2 1,
  .shift 0x1B7 0x1B7 1 219, .shift 0x1B8 0x1B8 1 1, .shift 0x1BC 0x1BC 1 1,
  .shift 0x1C4 0x1C4 1 2, .shift 0x1C5 0x1C5 1 1, .shift 0x1C7 0x1C7 1 2, .shift 0x1C8 0x1C8 1 1,
  .shift 0x1CA 0x1CA 1 2, .shift 0x1CB 0x1DB 2 1, .shift 0x1DE 0x1EE 2 1, .shift 0x1F1 0x1F1 1 2,
  .shift 0x1F2 0x1F4 2 1, .shift 0x1F6 0x1F6 1 (-97), .shift 0x1F7 0x1F7 1 (-56),
  .shift 0x1F8 0x21E 2 1, .shift 0x220 0x220 1 (-130), .shift 0x222 0x232 2 1,
  .shift 0x23A 0x23A 1 10795, .shift 0x23B 0x23B 1 1, .shift 0x23D 0x23D 1 (-163),
  .shift 0x23E 0x23E 1 10792, .shift 0x241 0x241 1 1, .shift 0x243 0x243 1 (-195),
  .shift 0x244 0x244 1 69, .shift 0x245 0x245 1 71, .shift 0x246 0x24E 2 1,
  .shift 0x370 0x372 2 1, .shift 0x376 0x376 1 1, .shift 0x37F 0x37F 1 116,
  .shift 0x386 0x386 1 38, .shift 0x388 0x38A 1 37, .shift 0x38C 0x38C 1 64,
  .shift 0x38E 0x38F 1 63, .shift 0x391 0x3A1 1 32, .shift 0x3A3 0x3AB 1 32,
  .shift 0x3CF 0x3CF 1 8, .shift 0x3D8 0x3EE 2 1, .shift 0x3F4 0x3F4 1 (-60),
  .shift 0x3F7 0x3F7 1 1, .shift 0x3F9 0x3F9 1 (-7), .shift 0x3FA 0x3FA 1 1,
  .shift 0x3FD 0x3FF 1 (-130), .shift 0x400 0x40F 1 80, .shift 0x410 0x42F 1 32,
  .shift 0x460 0x480 2 1, .shift 0x48A 0x4BE 2 1, .shift 0x4C0 0x4C0 1 15,
  .shift 0x4C1 0x4CD 2 1, .shift 0x4D0 0x52E 2 1, .shift 0x531 0x556 1 48,
  .shift 0x10A0 0x10C5 1 7264, .shift 0x10C7 0x10C7 1 7264, .shift 0x10CD 0x10CD 1 7264,
  .shift 0x13A0 0x13EF 1 38864, .shift 0x13F0 0x13F5 1 8, .shift 0x1C89 0x1C89 1 1,
  .shift 0x1C90 0x1CBA 1 (-3008), .shift 0x1CBD 0x1CBF 1 (-3008), .shift 0x1E00 0x1E94 2 1,
  .shift 0x1E9E 0x1E9E 1 (-7615), .shift 0x1EA0 0x1EFE 2 1, .shift 0x1F08 0x1F0F 1 (-8),
  .shift 0x1F18 0x1F1D 1 (-8), .shift 0x1F28 0x1F2F 1 (-8), .shift 0x1F38 0x1F3F 1 (-8),
  .shift 0x1F48 0x1F4D 1 (-8), .shift 0x1F59 0x1F5F 2 (-8), .shift 0x1F68 0x1F6F 1 (-8),
  .shift 0x1F88 0x1F8F 1 (-8), .shift 0x1F98 0x1F9F 1 (-8), .shift 0x1FA8 0x1FAF 1 (-8),
  .shift 0x1FB8 0x1FB9 1 (-8), .shift 0x1FBA 0x1FBB 1 (-74), .shift 0x1FBC 0x1FBC 1 (-9),
  .shift 0x1FC8 0x1FCB 1 (-86), .shift 0x1FCC 0x1FCC 1 (-9), .shift 0x1FD8 0x1FD9 1 (-8),
  .shift 0x1FDA 0x1FDB 1 (-100), .shift 0x1FE8 0x1FE9 1 (-8), .shift 0x1FEA 0x1FEB 1 (-112),
  .shift 0x1FEC 0x1FEC 1 (-7), .shift 0x1FF8 0x1FF9 1 (-128), .shift 0x1FFA 0x1FFB 1 (-126),
  .shift 0x1FFC 0x1FFC 1 (-9), .shift 0x2126 0x2126 1 (-7517), .shift 0x212A 0x212A 1 (-8383),
  .shift 0x212B 0x212B 1 (-8262), .shift 0x2132 0x2132 1 28, .shift 0x2160 0x216F 1 16,
  .shift 0x2183 0x2183 1 1, .shift 0x24B6 0x24CF 1 26, .shift 0x2C00 0x2C2F 1 48,
  .shift 0x2C60 0x2C60 1 1, .shift 0x2C62 0x2C62 1 (-10743), .shift 0x2C63 0x2C63 1 (-3814),
  .shift 0x2C64 0x2C64 1 (-10727), .shift 0x2C67 0x2C6B 2 1, .shift 0x2C6D 0x2C6D 1 (-10780),
  .shift 0x2C6E 0x2C6E 1 (-10749), .shift 0x2C6F 0x2C6F 1 (-10783),
  .shift 0x2C70 0x2C70 1 (-10782), .shift 0x2C72 0x2C72 1 1, .shift 0x2C75 0x2C75 1 1,
  .shift 0x2C7E 0x2C7F 1 (-10815), .shift 0x2C80 0x2CE2 2 1, .shift 0x2CEB 0x2CED 2 1,
  .shift 0x2CF2 0x2CF2 1 1, .shift 0xA640 0xA66C 2 1, .shift 0xA680 0xA69A 2 1,
  .shift 0xA722 0xA72E 2 1, .shift 0xA732 0xA76E 2 1, .shift 0xA779 0xA77B 2 1,
  .shift 0xA77D 0xA77D 1 (-35332), .shift 0xA77E 0xA786 2 1, .shift 0xA78B 0xA78B 1 1,
  .shift 0xA78D 0xA78D 1 (-42280), .shift 0xA790 0xA792 2 1, .shift 0xA796 0xA7A8 2 1,
  .shift 0xA7AA 0xA7AA 1 (-42308), .shift 0xA7AB 0xA7AB 1 (-42319),
  .shift 0xA7AC 0xA7AC 1 (-42315), .shift 0xA7AD 0xA7AD 1 (-42305),
  .shift 0xA7AE 0xA7AE 1 (-42308), .shift 0xA7B0 0xA7B0 1 (-42258),
  .shift 0xA7B1 0xA7B1 1 (-42282), .shift 0xA7B2 0xA7B2 1 (-42261), .shift 0xA7B3 0xA7B3 1 928,
  .shift 0xA7B4 0xA7C2 2 1, .shift 0xA7C4 0xA7C4 1 (-48), .shift 0xA7C5 0xA7C5 1 (-42307),
  .shift 0xA7C6 0xA7C6 1 (-35384), .shift 0xA7C7 0xA7C9 2 1, .shift 0xA7CB 0xA7CB 1 (-42343),
  .shift 0xA7CC 0xA7DA 2 1, .shift 0xA7DC 0xA7DC 1 (-42561), .shift 0xA7F5 0xA7F5 1 1,
  .shift 0xFF21 0xFF3A 1 32, .shift 0x10400 0x10427 1 40, .shift 0x104B0 0x104D3 1 40,
  .shift 0x10570 0x1057A 1 39, .shift 0x1057C 0x1058A 1 39, .shift 0x1058C 0x10592 1 39,
  .shift 0x10594 0x10595 1 39, .shift 0x10C80 0x10CB2 1 64, .shift 0x10D50 0x10D65 1 32,
  .shift 0x118A0 0x118BF 1 32, .shift 0x16E40 0x16E5F 1 32, .shift 0x16EA0 0x16EB8 1 27,
  .shift 0x1E900 0x1E921 1 34]

end QueryDialect.Text
