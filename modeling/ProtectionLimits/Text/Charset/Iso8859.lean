import ProtectionLimits.Text.Charset

/-!
Contract: the character sets of ISO 8859.

Owns their upper halves. The first set is missing: its codes are code points.
-/

set_option autoImplicit false

namespace ProtectionLimits.Text

def iso88592Upper : List CodeRun :=
  [⟨33, 0x80⟩, ⟨1, 0x104⟩, ⟨1, 0x2d8⟩, ⟨1, 0x141⟩, ⟨1, 0xa4⟩, ⟨1, 0x13d⟩, ⟨1, 0x15a⟩, ⟨2, 0xa7⟩,
    ⟨1, 0x160⟩, ⟨1, 0x15e⟩, ⟨1, 0x164⟩, ⟨1, 0x179⟩, ⟨1, 0xad⟩, ⟨1, 0x17d⟩, ⟨1, 0x17b⟩, ⟨1, 0xb0⟩,
    ⟨1, 0x105⟩, ⟨1, 0x2db⟩, ⟨1, 0x142⟩, ⟨1, 0xb4⟩, ⟨1, 0x13e⟩, ⟨1, 0x15b⟩, ⟨1, 0x2c7⟩, ⟨1, 0xb8⟩,
    ⟨1, 0x161⟩, ⟨1, 0x15f⟩, ⟨1, 0x165⟩, ⟨1, 0x17a⟩, ⟨1, 0x2dd⟩, ⟨1, 0x17e⟩, ⟨1, 0x17c⟩, ⟨1, 0x154⟩,
    ⟨2, 0xc1⟩, ⟨1, 0x102⟩, ⟨1, 0xc4⟩, ⟨1, 0x139⟩, ⟨1, 0x106⟩, ⟨1, 0xc7⟩, ⟨1, 0x10c⟩, ⟨1, 0xc9⟩,
    ⟨1, 0x118⟩, ⟨1, 0xcb⟩, ⟨1, 0x11a⟩, ⟨2, 0xcd⟩, ⟨1, 0x10e⟩, ⟨1, 0x110⟩, ⟨1, 0x143⟩, ⟨1, 0x147⟩,
    ⟨2, 0xd3⟩, ⟨1, 0x150⟩, ⟨2, 0xd6⟩, ⟨1, 0x158⟩, ⟨1, 0x16e⟩, ⟨1, 0xda⟩, ⟨1, 0x170⟩, ⟨2, 0xdc⟩,
    ⟨1, 0x162⟩, ⟨1, 0xdf⟩, ⟨1, 0x155⟩, ⟨2, 0xe1⟩, ⟨1, 0x103⟩, ⟨1, 0xe4⟩, ⟨1, 0x13a⟩, ⟨1, 0x107⟩,
    ⟨1, 0xe7⟩, ⟨1, 0x10d⟩, ⟨1, 0xe9⟩, ⟨1, 0x119⟩, ⟨1, 0xeb⟩, ⟨1, 0x11b⟩, ⟨2, 0xed⟩, ⟨1, 0x10f⟩,
    ⟨1, 0x111⟩, ⟨1, 0x144⟩, ⟨1, 0x148⟩, ⟨2, 0xf3⟩, ⟨1, 0x151⟩, ⟨2, 0xf6⟩, ⟨1, 0x159⟩, ⟨1, 0x16f⟩,
    ⟨1, 0xfa⟩, ⟨1, 0x171⟩, ⟨2, 0xfc⟩, ⟨1, 0x163⟩, ⟨1, 0x2d9⟩]

def iso88593Upper : List CodeRun :=
  [⟨33, 0x80⟩, ⟨1, 0x126⟩, ⟨1, 0x2d8⟩, ⟨2, 0xa3⟩, ⟨1, 0xfffe⟩, ⟨1, 0x124⟩, ⟨2, 0xa7⟩, ⟨1, 0x130⟩,
    ⟨1, 0x15e⟩, ⟨1, 0x11e⟩, ⟨1, 0x134⟩, ⟨1, 0xad⟩, ⟨1, 0xfffe⟩, ⟨1, 0x17b⟩, ⟨1, 0xb0⟩, ⟨1, 0x127⟩,
    ⟨4, 0xb2⟩, ⟨1, 0x125⟩, ⟨2, 0xb7⟩, ⟨1, 0x131⟩, ⟨1, 0x15f⟩, ⟨1, 0x11f⟩, ⟨1, 0x135⟩, ⟨1, 0xbd⟩,
    ⟨1, 0xfffe⟩, ⟨1, 0x17c⟩, ⟨3, 0xc0⟩, ⟨1, 0xfffe⟩, ⟨1, 0xc4⟩, ⟨1, 0x10a⟩, ⟨1, 0x108⟩, ⟨9, 0xc7⟩,
    ⟨1, 0xfffe⟩, ⟨4, 0xd1⟩, ⟨1, 0x120⟩, ⟨2, 0xd6⟩, ⟨1, 0x11c⟩, ⟨4, 0xd9⟩, ⟨1, 0x16c⟩, ⟨1, 0x15c⟩,
    ⟨4, 0xdf⟩, ⟨1, 0xfffe⟩, ⟨1, 0xe4⟩, ⟨1, 0x10b⟩, ⟨1, 0x109⟩, ⟨9, 0xe7⟩, ⟨1, 0xfffe⟩, ⟨4, 0xf1⟩,
    ⟨1, 0x121⟩, ⟨2, 0xf6⟩, ⟨1, 0x11d⟩, ⟨4, 0xf9⟩, ⟨1, 0x16d⟩, ⟨1, 0x15d⟩, ⟨1, 0x2d9⟩]

def iso88594Upper : List CodeRun :=
  [⟨33, 0x80⟩, ⟨1, 0x104⟩, ⟨1, 0x138⟩, ⟨1, 0x156⟩, ⟨1, 0xa4⟩, ⟨1, 0x128⟩, ⟨1, 0x13b⟩, ⟨2, 0xa7⟩,
    ⟨1, 0x160⟩, ⟨1, 0x112⟩, ⟨1, 0x122⟩, ⟨1, 0x166⟩, ⟨1, 0xad⟩, ⟨1, 0x17d⟩, ⟨2, 0xaf⟩, ⟨1, 0x105⟩,
    ⟨1, 0x2db⟩, ⟨1, 0x157⟩, ⟨1, 0xb4⟩, ⟨1, 0x129⟩, ⟨1, 0x13c⟩, ⟨1, 0x2c7⟩, ⟨1, 0xb8⟩, ⟨1, 0x161⟩,
    ⟨1, 0x113⟩, ⟨1, 0x123⟩, ⟨1, 0x167⟩, ⟨1, 0x14a⟩, ⟨1, 0x17e⟩, ⟨1, 0x14b⟩, ⟨1, 0x100⟩, ⟨6, 0xc1⟩,
    ⟨1, 0x12e⟩, ⟨1, 0x10c⟩, ⟨1, 0xc9⟩, ⟨1, 0x118⟩, ⟨1, 0xcb⟩, ⟨1, 0x116⟩, ⟨2, 0xcd⟩, ⟨1, 0x12a⟩,
    ⟨1, 0x110⟩, ⟨1, 0x145⟩, ⟨1, 0x14c⟩, ⟨1, 0x136⟩, ⟨5, 0xd4⟩, ⟨1, 0x172⟩, ⟨3, 0xda⟩, ⟨1, 0x168⟩,
    ⟨1, 0x16a⟩, ⟨1, 0xdf⟩, ⟨1, 0x101⟩, ⟨6, 0xe1⟩, ⟨1, 0x12f⟩, ⟨1, 0x10d⟩, ⟨1, 0xe9⟩, ⟨1, 0x119⟩,
    ⟨1, 0xeb⟩, ⟨1, 0x117⟩, ⟨2, 0xed⟩, ⟨1, 0x12b⟩, ⟨1, 0x111⟩, ⟨1, 0x146⟩, ⟨1, 0x14d⟩, ⟨1, 0x137⟩,
    ⟨5, 0xf4⟩, ⟨1, 0x173⟩, ⟨3, 0xfa⟩, ⟨1, 0x169⟩, ⟨1, 0x16b⟩, ⟨1, 0x2d9⟩]

def iso88595Upper : List CodeRun :=
  [⟨33, 0x80⟩, ⟨12, 0x401⟩, ⟨1, 0xad⟩, ⟨66, 0x40e⟩, ⟨1, 0x2116⟩, ⟨12, 0x451⟩, ⟨1, 0xa7⟩,
    ⟨2, 0x45e⟩]

def iso88596Upper : List CodeRun :=
  [⟨33, 0x80⟩, ⟨3, 0xfffe⟩, ⟨1, 0xa4⟩, ⟨7, 0xfffe⟩, ⟨1, 0x60c⟩, ⟨1, 0xad⟩, ⟨13, 0xfffe⟩,
    ⟨1, 0x61b⟩, ⟨3, 0xfffe⟩, ⟨1, 0x61f⟩, ⟨1, 0xfffe⟩, ⟨26, 0x621⟩, ⟨5, 0xfffe⟩, ⟨19, 0x640⟩,
    ⟨13, 0xfffe⟩]

def iso88597Upper : List CodeRun :=
  [⟨33, 0x80⟩, ⟨2, 0x2018⟩, ⟨1, 0xa3⟩, ⟨1, 0x20ac⟩, ⟨1, 0x20af⟩, ⟨4, 0xa6⟩, ⟨1, 0x37a⟩, ⟨3, 0xab⟩,
    ⟨1, 0xfffe⟩, ⟨1, 0x2015⟩, ⟨4, 0xb0⟩, ⟨3, 0x384⟩, ⟨1, 0xb7⟩, ⟨3, 0x388⟩, ⟨1, 0xbb⟩, ⟨1, 0x38c⟩,
    ⟨1, 0xbd⟩, ⟨20, 0x38e⟩, ⟨1, 0xfffe⟩, ⟨44, 0x3a3⟩, ⟨1, 0xfffe⟩]

def iso88598Upper : List CodeRun :=
  [⟨33, 0x80⟩, ⟨1, 0xfffe⟩, ⟨8, 0xa2⟩, ⟨1, 0xd7⟩, ⟨15, 0xab⟩, ⟨1, 0xf7⟩, ⟨4, 0xbb⟩, ⟨32, 0xfffe⟩,
    ⟨1, 0x2017⟩, ⟨27, 0x5d0⟩, ⟨2, 0xfffe⟩, ⟨2, 0x200e⟩, ⟨1, 0xfffe⟩]

def iso88599Upper : List CodeRun :=
  [⟨80, 0x80⟩, ⟨1, 0x11e⟩, ⟨12, 0xd1⟩, ⟨1, 0x130⟩, ⟨1, 0x15e⟩, ⟨17, 0xdf⟩, ⟨1, 0x11f⟩, ⟨12, 0xf1⟩,
    ⟨1, 0x131⟩, ⟨1, 0x15f⟩, ⟨1, 0xff⟩]

def iso885910Upper : List CodeRun :=
  [⟨33, 0x80⟩, ⟨1, 0x104⟩, ⟨1, 0x112⟩, ⟨1, 0x122⟩, ⟨1, 0x12a⟩, ⟨1, 0x128⟩, ⟨1, 0x136⟩, ⟨1, 0xa7⟩,
    ⟨1, 0x13b⟩, ⟨1, 0x110⟩, ⟨1, 0x160⟩, ⟨1, 0x166⟩, ⟨1, 0x17d⟩, ⟨1, 0xad⟩, ⟨1, 0x16a⟩, ⟨1, 0x14a⟩,
    ⟨1, 0xb0⟩, ⟨1, 0x105⟩, ⟨1, 0x113⟩, ⟨1, 0x123⟩, ⟨1, 0x12b⟩, ⟨1, 0x129⟩, ⟨1, 0x137⟩, ⟨1, 0xb7⟩,
    ⟨1, 0x13c⟩, ⟨1, 0x111⟩, ⟨1, 0x161⟩, ⟨1, 0x167⟩, ⟨1, 0x17e⟩, ⟨1, 0x2015⟩, ⟨1, 0x16b⟩,
    ⟨1, 0x14b⟩, ⟨1, 0x100⟩, ⟨6, 0xc1⟩, ⟨1, 0x12e⟩, ⟨1, 0x10c⟩, ⟨1, 0xc9⟩, ⟨1, 0x118⟩, ⟨1, 0xcb⟩,
    ⟨1, 0x116⟩, ⟨4, 0xcd⟩, ⟨1, 0x145⟩, ⟨1, 0x14c⟩, ⟨4, 0xd3⟩, ⟨1, 0x168⟩, ⟨1, 0xd8⟩, ⟨1, 0x172⟩,
    ⟨6, 0xda⟩, ⟨1, 0x101⟩, ⟨6, 0xe1⟩, ⟨1, 0x12f⟩, ⟨1, 0x10d⟩, ⟨1, 0xe9⟩, ⟨1, 0x119⟩, ⟨1, 0xeb⟩,
    ⟨1, 0x117⟩, ⟨4, 0xed⟩, ⟨1, 0x146⟩, ⟨1, 0x14d⟩, ⟨4, 0xf3⟩, ⟨1, 0x169⟩, ⟨1, 0xf8⟩, ⟨1, 0x173⟩,
    ⟨5, 0xfa⟩, ⟨1, 0x138⟩]

def iso885911Upper : List CodeRun :=
  [⟨33, 0x80⟩, ⟨58, 0xe01⟩, ⟨4, 0xfffe⟩, ⟨29, 0xe3f⟩, ⟨4, 0xfffe⟩]

def iso885913Upper : List CodeRun :=
  [⟨33, 0x80⟩, ⟨1, 0x201d⟩, ⟨3, 0xa2⟩, ⟨1, 0x201e⟩, ⟨2, 0xa6⟩, ⟨1, 0xd8⟩, ⟨1, 0xa9⟩, ⟨1, 0x156⟩,
    ⟨4, 0xab⟩, ⟨1, 0xc6⟩, ⟨4, 0xb0⟩, ⟨1, 0x201c⟩, ⟨3, 0xb5⟩, ⟨1, 0xf8⟩, ⟨1, 0xb9⟩, ⟨1, 0x157⟩,
    ⟨4, 0xbb⟩, ⟨1, 0xe6⟩, ⟨1, 0x104⟩, ⟨1, 0x12e⟩, ⟨1, 0x100⟩, ⟨1, 0x106⟩, ⟨2, 0xc4⟩, ⟨1, 0x118⟩,
    ⟨1, 0x112⟩, ⟨1, 0x10c⟩, ⟨1, 0xc9⟩, ⟨1, 0x179⟩, ⟨1, 0x116⟩, ⟨1, 0x122⟩, ⟨1, 0x136⟩, ⟨1, 0x12a⟩,
    ⟨1, 0x13b⟩, ⟨1, 0x160⟩, ⟨1, 0x143⟩, ⟨1, 0x145⟩, ⟨1, 0xd3⟩, ⟨1, 0x14c⟩, ⟨3, 0xd5⟩, ⟨1, 0x172⟩,
    ⟨1, 0x141⟩, ⟨1, 0x15a⟩, ⟨1, 0x16a⟩, ⟨1, 0xdc⟩, ⟨1, 0x17b⟩, ⟨1, 0x17d⟩, ⟨1, 0xdf⟩, ⟨1, 0x105⟩,
    ⟨1, 0x12f⟩, ⟨1, 0x101⟩, ⟨1, 0x107⟩, ⟨2, 0xe4⟩, ⟨1, 0x119⟩, ⟨1, 0x113⟩, ⟨1, 0x10d⟩, ⟨1, 0xe9⟩,
    ⟨1, 0x17a⟩, ⟨1, 0x117⟩, ⟨1, 0x123⟩, ⟨1, 0x137⟩, ⟨1, 0x12b⟩, ⟨1, 0x13c⟩, ⟨1, 0x161⟩, ⟨1, 0x144⟩,
    ⟨1, 0x146⟩, ⟨1, 0xf3⟩, ⟨1, 0x14d⟩, ⟨3, 0xf5⟩, ⟨1, 0x173⟩, ⟨1, 0x142⟩, ⟨1, 0x15b⟩, ⟨1, 0x16b⟩,
    ⟨1, 0xfc⟩, ⟨1, 0x17c⟩, ⟨1, 0x17e⟩, ⟨1, 0x2019⟩]

def iso885914Upper : List CodeRun :=
  [⟨33, 0x80⟩, ⟨2, 0x1e02⟩, ⟨1, 0xa3⟩, ⟨2, 0x10a⟩, ⟨1, 0x1e0a⟩, ⟨1, 0xa7⟩, ⟨1, 0x1e80⟩, ⟨1, 0xa9⟩,
    ⟨1, 0x1e82⟩, ⟨1, 0x1e0b⟩, ⟨1, 0x1ef2⟩, ⟨2, 0xad⟩, ⟨1, 0x178⟩, ⟨2, 0x1e1e⟩, ⟨2, 0x120⟩,
    ⟨2, 0x1e40⟩, ⟨1, 0xb6⟩, ⟨1, 0x1e56⟩, ⟨1, 0x1e81⟩, ⟨1, 0x1e57⟩, ⟨1, 0x1e83⟩, ⟨1, 0x1e60⟩,
    ⟨1, 0x1ef3⟩, ⟨2, 0x1e84⟩, ⟨1, 0x1e61⟩, ⟨16, 0xc0⟩, ⟨1, 0x174⟩, ⟨6, 0xd1⟩, ⟨1, 0x1e6a⟩,
    ⟨6, 0xd8⟩, ⟨1, 0x176⟩, ⟨17, 0xdf⟩, ⟨1, 0x175⟩, ⟨6, 0xf1⟩, ⟨1, 0x1e6b⟩, ⟨6, 0xf8⟩, ⟨1, 0x177⟩,
    ⟨1, 0xff⟩]

def iso885915Upper : List CodeRun :=
  [⟨36, 0x80⟩, ⟨1, 0x20ac⟩, ⟨1, 0xa5⟩, ⟨1, 0x160⟩, ⟨1, 0xa7⟩, ⟨1, 0x161⟩, ⟨11, 0xa9⟩, ⟨1, 0x17d⟩,
    ⟨3, 0xb5⟩, ⟨1, 0x17e⟩, ⟨3, 0xb9⟩, ⟨2, 0x152⟩, ⟨1, 0x178⟩, ⟨65, 0xbf⟩]

def iso885916Upper : List CodeRun :=
  [⟨33, 0x80⟩, ⟨2, 0x104⟩, ⟨1, 0x141⟩, ⟨1, 0x20ac⟩, ⟨1, 0x201e⟩, ⟨1, 0x160⟩, ⟨1, 0xa7⟩, ⟨1, 0x161⟩,
    ⟨1, 0xa9⟩, ⟨1, 0x218⟩, ⟨1, 0xab⟩, ⟨1, 0x179⟩, ⟨1, 0xad⟩, ⟨2, 0x17a⟩, ⟨2, 0xb0⟩, ⟨1, 0x10c⟩,
    ⟨1, 0x142⟩, ⟨1, 0x17d⟩, ⟨1, 0x201d⟩, ⟨2, 0xb6⟩, ⟨1, 0x17e⟩, ⟨1, 0x10d⟩, ⟨1, 0x219⟩, ⟨1, 0xbb⟩,
    ⟨2, 0x152⟩, ⟨1, 0x178⟩, ⟨1, 0x17c⟩, ⟨3, 0xc0⟩, ⟨1, 0x102⟩, ⟨1, 0xc4⟩, ⟨1, 0x106⟩, ⟨10, 0xc6⟩,
    ⟨1, 0x110⟩, ⟨1, 0x143⟩, ⟨3, 0xd2⟩, ⟨1, 0x150⟩, ⟨1, 0xd6⟩, ⟨1, 0x15a⟩, ⟨1, 0x170⟩, ⟨4, 0xd9⟩,
    ⟨1, 0x118⟩, ⟨1, 0x21a⟩, ⟨4, 0xdf⟩, ⟨1, 0x103⟩, ⟨1, 0xe4⟩, ⟨1, 0x107⟩, ⟨10, 0xe6⟩, ⟨1, 0x111⟩,
    ⟨1, 0x144⟩, ⟨3, 0xf2⟩, ⟨1, 0x151⟩, ⟨1, 0xf6⟩, ⟨1, 0x15b⟩, ⟨1, 0x171⟩, ⟨4, 0xf9⟩, ⟨1, 0x119⟩,
    ⟨1, 0x21b⟩, ⟨1, 0xff⟩]

end ProtectionLimits.Text
