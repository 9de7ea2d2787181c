import ProtectionLimits.Text.Charset

/-!
Contract: the character sets of one byte of the Windows family.

Owns their upper halves.
-/

set_option autoImplicit false

namespace ProtectionLimits.Text

def cp874Upper : List CodeRun :=
  [⟨1, 0x20ac⟩, ⟨4, 0xfffe⟩, ⟨1, 0x2026⟩, ⟨11, 0xfffe⟩, ⟨2, 0x2018⟩, ⟨2, 0x201c⟩, ⟨1, 0x2022⟩,
    ⟨2, 0x2013⟩, ⟨8, 0xfffe⟩, ⟨1, 0xa0⟩, ⟨58, 0xe01⟩, ⟨4, 0xfffe⟩, ⟨29, 0xe3f⟩, ⟨4, 0xfffe⟩]

def cp1250Upper : List CodeRun :=
  [⟨1, 0x20ac⟩, ⟨1, 0xfffe⟩, ⟨1, 0x201a⟩, ⟨1, 0xfffe⟩, ⟨1, 0x201e⟩, ⟨1, 0x2026⟩, ⟨2, 0x2020⟩,
    ⟨1, 0xfffe⟩, ⟨1, 0x2030⟩, ⟨1, 0x160⟩, ⟨1, 0x2039⟩, ⟨1, 0x15a⟩, ⟨1, 0x164⟩, ⟨1, 0x17d⟩,
    ⟨1, 0x179⟩, ⟨1, 0xfffe⟩, ⟨2, 0x2018⟩, ⟨2, 0x201c⟩, ⟨1, 0x2022⟩, ⟨2, 0x2013⟩, ⟨1, 0xfffe⟩,
    ⟨1, 0x2122⟩, ⟨1, 0x161⟩, ⟨1, 0x203a⟩, ⟨1, 0x15b⟩, ⟨1, 0x165⟩, ⟨1, 0x17e⟩, ⟨1, 0x17a⟩,
    ⟨1, 0xa0⟩, ⟨1, 0x2c7⟩, ⟨1, 0x2d8⟩, ⟨1, 0x141⟩, ⟨1, 0xa4⟩, ⟨1, 0x104⟩, ⟨4, 0xa6⟩, ⟨1, 0x15e⟩,
    ⟨4, 0xab⟩, ⟨1, 0x17b⟩, ⟨2, 0xb0⟩, ⟨1, 0x2db⟩, ⟨1, 0x142⟩, ⟨5, 0xb4⟩, ⟨1, 0x105⟩, ⟨1, 0x15f⟩,
    ⟨1, 0xbb⟩, ⟨1, 0x13d⟩, ⟨1, 0x2dd⟩, ⟨1, 0x13e⟩, ⟨1, 0x17c⟩, ⟨1, 0x154⟩, ⟨2, 0xc1⟩, ⟨1, 0x102⟩,
    ⟨1, 0xc4⟩, ⟨1, 0x139⟩, ⟨1, 0x106⟩, ⟨1, 0xc7⟩, ⟨1, 0x10c⟩, ⟨1, 0xc9⟩, ⟨1, 0x118⟩, ⟨1, 0xcb⟩,
    ⟨1, 0x11a⟩, ⟨2, 0xcd⟩, ⟨1, 0x10e⟩, ⟨1, 0x110⟩, ⟨1, 0x143⟩, ⟨1, 0x147⟩, ⟨2, 0xd3⟩, ⟨1, 0x150⟩,
    ⟨2, 0xd6⟩, ⟨1, 0x158⟩, ⟨1, 0x16e⟩, ⟨1, 0xda⟩, ⟨1, 0x170⟩, ⟨2, 0xdc⟩, ⟨1, 0x162⟩, ⟨1, 0xdf⟩,
    ⟨1, 0x155⟩, ⟨2, 0xe1⟩, ⟨1, 0x103⟩, ⟨1, 0xe4⟩, ⟨1, 0x13a⟩, ⟨1, 0x107⟩, ⟨1, 0xe7⟩, ⟨1, 0x10d⟩,
    ⟨1, 0xe9⟩, ⟨1, 0x119⟩, ⟨1, 0xeb⟩, ⟨1, 0x11b⟩, ⟨2, 0xed⟩, ⟨1, 0x10f⟩, ⟨1, 0x111⟩, ⟨1, 0x144⟩,
    ⟨1, 0x148⟩, ⟨2, 0xf3⟩, ⟨1, 0x151⟩, ⟨2, 0xf6⟩, ⟨1, 0x159⟩, ⟨1, 0x16f⟩, ⟨1, 0xfa⟩, ⟨1, 0x171⟩,
    ⟨2, 0xfc⟩, ⟨1, 0x163⟩, ⟨1, 0x2d9⟩]

def cp1251Upper : List CodeRun :=
  [⟨2, 0x402⟩, ⟨1, 0x201a⟩, ⟨1, 0x453⟩, ⟨1, 0x201e⟩, ⟨1, 0x2026⟩, ⟨2, 0x2020⟩, ⟨1, 0x20ac⟩,
    ⟨1, 0x2030⟩, ⟨1, 0x409⟩, ⟨1, 0x2039⟩, ⟨1, 0x40a⟩, ⟨1, 0x40c⟩, ⟨1, 0x40b⟩, ⟨1, 0x40f⟩,
    ⟨1, 0x452⟩, ⟨2, 0x2018⟩, ⟨2, 0x201c⟩, ⟨1, 0x2022⟩, ⟨2, 0x2013⟩, ⟨1, 0xfffe⟩, ⟨1, 0x2122⟩,
    ⟨1, 0x459⟩, ⟨1, 0x203a⟩, ⟨1, 0x45a⟩, ⟨1, 0x45c⟩, ⟨1, 0x45b⟩, ⟨1, 0x45f⟩, ⟨1, 0xa0⟩, ⟨1, 0x40e⟩,
    ⟨1, 0x45e⟩, ⟨1, 0x408⟩, ⟨1, 0xa4⟩, ⟨1, 0x490⟩, ⟨2, 0xa6⟩, ⟨1, 0x401⟩, ⟨1, 0xa9⟩, ⟨1, 0x404⟩,
    ⟨4, 0xab⟩, ⟨1, 0x407⟩, ⟨2, 0xb0⟩, ⟨1, 0x406⟩, ⟨1, 0x456⟩, ⟨1, 0x491⟩, ⟨3, 0xb5⟩, ⟨1, 0x451⟩,
    ⟨1, 0x2116⟩, ⟨1, 0x454⟩, ⟨1, 0xbb⟩, ⟨1, 0x458⟩, ⟨1, 0x405⟩, ⟨1, 0x455⟩, ⟨1, 0x457⟩,
    ⟨64, 0x410⟩]

def cp1252Upper : List CodeRun :=
  [⟨1, 0x20ac⟩, ⟨1, 0xfffe⟩, ⟨1, 0x201a⟩, ⟨1, 0x192⟩, ⟨1, 0x201e⟩, ⟨1, 0x2026⟩, ⟨2, 0x2020⟩,
    ⟨1, 0x2c6⟩, ⟨1, 0x2030⟩, ⟨1, 0x160⟩, ⟨1, 0x2039⟩, ⟨1, 0x152⟩, ⟨1, 0xfffe⟩, ⟨1, 0x17d⟩,
    ⟨2, 0xfffe⟩, ⟨2, 0x2018⟩, ⟨2, 0x201c⟩, ⟨1, 0x2022⟩, ⟨2, 0x2013⟩, ⟨1, 0x2dc⟩, ⟨1, 0x2122⟩,
    ⟨1, 0x161⟩, ⟨1, 0x203a⟩, ⟨1, 0x153⟩, ⟨1, 0xfffe⟩, ⟨1, 0x17e⟩, ⟨1, 0x178⟩, ⟨96, 0xa0⟩]

def cp1253Upper : List CodeRun :=
  [⟨1, 0x20ac⟩, ⟨1, 0xfffe⟩, ⟨1, 0x201a⟩, ⟨1, 0x192⟩, ⟨1, 0x201e⟩, ⟨1, 0x2026⟩, ⟨2, 0x2020⟩,
    ⟨1, 0xfffe⟩, ⟨1, 0x2030⟩, ⟨1, 0xfffe⟩, ⟨1, 0x2039⟩, ⟨5, 0xfffe⟩, ⟨2, 0x2018⟩, ⟨2, 0x201c⟩,
    ⟨1, 0x2022⟩, ⟨2, 0x2013⟩, ⟨1, 0xfffe⟩, ⟨1, 0x2122⟩, ⟨1, 0xfffe⟩, ⟨1, 0x203a⟩, ⟨4, 0xfffe⟩,
    ⟨1, 0xa0⟩, ⟨2, 0x385⟩, ⟨7, 0xa3⟩, ⟨1, 0xfffe⟩, ⟨4, 0xab⟩, ⟨1, 0x2015⟩, ⟨4, 0xb0⟩, ⟨1, 0x384⟩,
    ⟨3, 0xb5⟩, ⟨3, 0x388⟩, ⟨1, 0xbb⟩, ⟨1, 0x38c⟩, ⟨1, 0xbd⟩, ⟨20, 0x38e⟩, ⟨1, 0xfffe⟩, ⟨44, 0x3a3⟩,
    ⟨1, 0xfffe⟩]

def cp1254Upper : List CodeRun :=
  [⟨1, 0x20ac⟩, ⟨1, 0xfffe⟩, ⟨1, 0x201a⟩, ⟨1, 0x192⟩, ⟨1, 0x201e⟩, ⟨1, 0x2026⟩, ⟨2, 0x2020⟩,
    ⟨1, 0x2c6⟩, ⟨1, 0x2030⟩, ⟨1, 0x160⟩, ⟨1, 0x2039⟩, ⟨1, 0x152⟩, ⟨4, 0xfffe⟩, ⟨2, 0x2018⟩,
    ⟨2, 0x201c⟩, ⟨1, 0x2022⟩, ⟨2, 0x2013⟩, ⟨1, 0x2dc⟩, ⟨1, 0x2122⟩, ⟨1, 0x161⟩, ⟨1, 0x203a⟩,
    ⟨1, 0x153⟩, ⟨2, 0xfffe⟩, ⟨1, 0x178⟩, ⟨48, 0xa0⟩, ⟨1, 0x11e⟩, ⟨12, 0xd1⟩, ⟨1, 0x130⟩,
    ⟨1, 0x15e⟩, ⟨17, 0xdf⟩, ⟨1, 0x11f⟩, ⟨12, 0xf1⟩, ⟨1, 0x131⟩, ⟨1, 0x15f⟩, ⟨1, 0xff⟩]

def cp1255Upper : List CodeRun :=
  [⟨1, 0x20ac⟩, ⟨1, 0xfffe⟩, ⟨1, 0x201a⟩, ⟨1, 0x192⟩, ⟨1, 0x201e⟩, ⟨1, 0x2026⟩, ⟨2, 0x2020⟩,
    ⟨1, 0x2c6⟩, ⟨1, 0x2030⟩, ⟨1, 0xfffe⟩, ⟨1, 0x2039⟩, ⟨5, 0xfffe⟩, ⟨2, 0x2018⟩, ⟨2, 0x201c⟩,
    ⟨1, 0x2022⟩, ⟨2, 0x2013⟩, ⟨1, 0x2dc⟩, ⟨1, 0x2122⟩, ⟨1, 0xfffe⟩, ⟨1, 0x203a⟩, ⟨4, 0xfffe⟩,
    ⟨4, 0xa0⟩, ⟨1, 0x20aa⟩, ⟨5, 0xa5⟩, ⟨1, 0xd7⟩, ⟨15, 0xab⟩, ⟨1, 0xf7⟩, ⟨5, 0xbb⟩, ⟨10, 0x5b0⟩,
    ⟨1, 0xfffe⟩, ⟨9, 0x5bb⟩, ⟨5, 0x5f0⟩, ⟨7, 0xfffe⟩, ⟨27, 0x5d0⟩, ⟨2, 0xfffe⟩, ⟨2, 0x200e⟩,
    ⟨1, 0xfffe⟩]

def cp1256Upper : List CodeRun :=
  [⟨1, 0x20ac⟩, ⟨1, 0x67e⟩, ⟨1, 0x201a⟩, ⟨1, 0x192⟩, ⟨1, 0x201e⟩, ⟨1, 0x2026⟩, ⟨2, 0x2020⟩,
    ⟨1, 0x2c6⟩, ⟨1, 0x2030⟩, ⟨1, 0x679⟩, ⟨1, 0x2039⟩, ⟨1, 0x152⟩, ⟨1, 0x686⟩, ⟨1, 0x698⟩,
    ⟨1, 0x688⟩, ⟨1, 0x6af⟩, ⟨2, 0x2018⟩, ⟨2, 0x201c⟩, ⟨1, 0x2022⟩, ⟨2, 0x2013⟩, ⟨1, 0x6a9⟩,
    ⟨1, 0x2122⟩, ⟨1, 0x691⟩, ⟨1, 0x203a⟩, ⟨1, 0x153⟩, ⟨2, 0x200c⟩, ⟨1, 0x6ba⟩, ⟨1, 0xa0⟩,
    ⟨1, 0x60c⟩, ⟨8, 0xa2⟩, ⟨1, 0x6be⟩, ⟨15, 0xab⟩, ⟨1, 0x61b⟩, ⟨4, 0xbb⟩, ⟨1, 0x61f⟩, ⟨1, 0x6c1⟩,
    ⟨22, 0x621⟩, ⟨1, 0xd7⟩, ⟨4, 0x637⟩, ⟨4, 0x640⟩, ⟨1, 0xe0⟩, ⟨1, 0x644⟩, ⟨1, 0xe2⟩, ⟨4, 0x645⟩,
    ⟨5, 0xe7⟩, ⟨2, 0x649⟩, ⟨2, 0xee⟩, ⟨4, 0x64b⟩, ⟨1, 0xf4⟩, ⟨2, 0x64f⟩, ⟨1, 0xf7⟩, ⟨1, 0x651⟩,
    ⟨1, 0xf9⟩, ⟨1, 0x652⟩, ⟨2, 0xfb⟩, ⟨2, 0x200e⟩, ⟨1, 0x6d2⟩]

def cp1257Upper : List CodeRun :=
  [⟨1, 0x20ac⟩, ⟨1, 0xfffe⟩, ⟨1, 0x201a⟩, ⟨1, 0xfffe⟩, ⟨1, 0x201e⟩, ⟨1, 0x2026⟩, ⟨2, 0x2020⟩,
    ⟨1, 0xfffe⟩, ⟨1, 0x2030⟩, ⟨1, 0xfffe⟩, ⟨1, 0x2039⟩, ⟨1, 0xfffe⟩, ⟨1, 0xa8⟩, ⟨1, 0x2c7⟩,
    ⟨1, 0xb8⟩, ⟨1, 0xfffe⟩, ⟨2, 0x2018⟩, ⟨2, 0x201c⟩, ⟨1, 0x2022⟩, ⟨2, 0x2013⟩, ⟨1, 0xfffe⟩,
    ⟨1, 0x2122⟩, ⟨1, 0xfffe⟩, ⟨1, 0x203a⟩, ⟨1, 0xfffe⟩, ⟨1, 0xaf⟩, ⟨1, 0x2db⟩, ⟨1, 0xfffe⟩,
    ⟨1, 0xa0⟩, ⟨1, 0xfffe⟩, ⟨3, 0xa2⟩, ⟨1, 0xfffe⟩, ⟨2, 0xa6⟩, ⟨1, 0xd8⟩, ⟨1, 0xa9⟩, ⟨1, 0x156⟩,
    ⟨4, 0xab⟩, ⟨1, 0xc6⟩, ⟨8, 0xb0⟩, ⟨1, 0xf8⟩, ⟨1, 0xb9⟩, ⟨1, 0x157⟩, ⟨4, 0xbb⟩, ⟨1, 0xe6⟩,
    ⟨1, 0x104⟩, ⟨1, 0x12e⟩, ⟨1, 0x100⟩, ⟨1, 0x106⟩, ⟨2, 0xc4⟩, ⟨1, 0x118⟩, ⟨1, 0x112⟩, ⟨1, 0x10c⟩,
    ⟨1, 0xc9⟩, ⟨1, 0x179⟩, ⟨1, 0x116⟩, ⟨1, 0x122⟩, ⟨1, 0x136⟩, ⟨1, 0x12a⟩, ⟨1, 0x13b⟩, ⟨1, 0x160⟩,
    ⟨1, 0x143⟩, ⟨1, 0x145⟩, ⟨1, 0xd3⟩, ⟨1, 0x14c⟩, ⟨3, 0xd5⟩, ⟨1, 0x172⟩, ⟨1, 0x141⟩, ⟨1, 0x15a⟩,
    ⟨1, 0x16a⟩, ⟨1, 0xdc⟩, ⟨1, 0x17b⟩, ⟨1, 0x17d⟩, ⟨1, 0xdf⟩, ⟨1, 0x105⟩, ⟨1, 0x12f⟩, ⟨1, 0x101⟩,
    ⟨1, 0x107⟩, ⟨2, 0xe4⟩, ⟨1, 0x119⟩, ⟨1, 0x113⟩, ⟨1, 0x10d⟩, ⟨1, 0xe9⟩, ⟨1, 0x17a⟩, ⟨1, 0x117⟩,
    ⟨1, 0x123⟩, ⟨1, 0x137⟩, ⟨1, 0x12b⟩, ⟨1, 0x13c⟩, ⟨1, 0x161⟩, ⟨1, 0x144⟩, ⟨1, 0x146⟩, ⟨1, 0xf3⟩,
    ⟨1, 0x14d⟩, ⟨3, 0xf5⟩, ⟨1, 0x173⟩, ⟨1, 0x142⟩, ⟨1, 0x15b⟩, ⟨1, 0x16b⟩, ⟨1, 0xfc⟩, ⟨1, 0x17c⟩,
    ⟨1, 0x17e⟩, ⟨1, 0x2d9⟩]

def cp1258Upper : List CodeRun :=
  [⟨1, 0x20ac⟩, ⟨1, 0xfffe⟩, ⟨1, 0x201a⟩, ⟨1, 0x192⟩, ⟨1, 0x201e⟩, ⟨1, 0x2026⟩, ⟨2, 0x2020⟩,
    ⟨1, 0x2c6⟩, ⟨1, 0x2030⟩, ⟨1, 0xfffe⟩, ⟨1, 0x2039⟩, ⟨1, 0x152⟩, ⟨4, 0xfffe⟩, ⟨2, 0x2018⟩,
    ⟨2, 0x201c⟩, ⟨1, 0x2022⟩, ⟨2, 0x2013⟩, ⟨1, 0x2dc⟩, ⟨1, 0x2122⟩, ⟨1, 0xfffe⟩, ⟨1, 0x203a⟩,
    ⟨1, 0x153⟩, ⟨2, 0xfffe⟩, ⟨1, 0x178⟩, ⟨35, 0xa0⟩, ⟨1, 0x102⟩, ⟨8, 0xc4⟩, ⟨1, 0x300⟩, ⟨3, 0xcd⟩,
    ⟨1, 0x110⟩, ⟨1, 0xd1⟩, ⟨1, 0x309⟩, ⟨2, 0xd3⟩, ⟨1, 0x1a0⟩, ⟨7, 0xd6⟩, ⟨1, 0x1af⟩, ⟨1, 0x303⟩,
    ⟨4, 0xdf⟩, ⟨1, 0x103⟩, ⟨8, 0xe4⟩, ⟨1, 0x301⟩, ⟨3, 0xed⟩, ⟨1, 0x111⟩, ⟨1, 0xf1⟩, ⟨1, 0x323⟩,
    ⟨2, 0xf3⟩, ⟨1, 0x1a1⟩, ⟨7, 0xf6⟩, ⟨1, 0x1b0⟩, ⟨1, 0x20ab⟩, ⟨1, 0xff⟩]

end ProtectionLimits.Text
