import ProtectionLimits.Text.Charset

/-!
Contract: the character sets of one byte of the Macintosh.

Owns their upper halves.
-/

set_option autoImplicit false

namespace ProtectionLimits.Text

def macArabicUpper : List CodeRun :=
  [⟨1, 0xc4⟩, ⟨1, 0xa0⟩, ⟨1, 0xc7⟩, ⟨1, 0xc9⟩, ⟨1, 0xd1⟩, ⟨1, 0xd6⟩, ⟨1, 0xdc⟩, ⟨1, 0xe1⟩,
    ⟨1, 0xe0⟩, ⟨1, 0xe2⟩, ⟨1, 0xe4⟩, ⟨1, 0x6ba⟩, ⟨1, 0xab⟩, ⟨1, 0xe7⟩, ⟨1, 0xe9⟩, ⟨1, 0xe8⟩,
    ⟨2, 0xea⟩, ⟨1, 0xed⟩, ⟨1, 0x2026⟩, ⟨2, 0xee⟩, ⟨1, 0xf1⟩, ⟨1, 0xf3⟩, ⟨1, 0xbb⟩, ⟨1, 0xf4⟩,
    ⟨2, 0xf6⟩, ⟨1, 0xfa⟩, ⟨1, 0xf9⟩, ⟨2, 0xfb⟩, ⟨5, 0x20⟩, ⟨1, 0x66a⟩, ⟨6, 0x26⟩, ⟨1, 0x60c⟩,
    ⟨3, 0x2d⟩, ⟨10, 0x660⟩, ⟨1, 0x3a⟩, ⟨1, 0x61b⟩, ⟨3, 0x3c⟩, ⟨1, 0x61f⟩, ⟨1, 0x274a⟩, ⟨26, 0x621⟩,
    ⟨5, 0x5b⟩, ⟨19, 0x640⟩, ⟨1, 0x67e⟩, ⟨1, 0x679⟩, ⟨1, 0x686⟩, ⟨1, 0x6d5⟩, ⟨1, 0x6a4⟩, ⟨1, 0x6af⟩,
    ⟨1, 0x688⟩, ⟨1, 0x691⟩, ⟨3, 0x7b⟩, ⟨1, 0x698⟩, ⟨1, 0x6d2⟩]

def macCroatianUpper : List CodeRun :=
  [⟨2, 0xc4⟩, ⟨1, 0xc7⟩, ⟨1, 0xc9⟩, ⟨1, 0xd1⟩, ⟨1, 0xd6⟩, ⟨1, 0xdc⟩, ⟨1, 0xe1⟩, ⟨1, 0xe0⟩,
    ⟨1, 0xe2⟩, ⟨1, 0xe4⟩, ⟨1, 0xe3⟩, ⟨1, 0xe5⟩, ⟨1, 0xe7⟩, ⟨1, 0xe9⟩, ⟨1, 0xe8⟩, ⟨2, 0xea⟩,
    ⟨1, 0xed⟩, ⟨1, 0xec⟩, ⟨2, 0xee⟩, ⟨1, 0xf1⟩, ⟨1, 0xf3⟩, ⟨1, 0xf2⟩, ⟨1, 0xf4⟩, ⟨1, 0xf6⟩,
    ⟨1, 0xf5⟩, ⟨1, 0xfa⟩, ⟨1, 0xf9⟩, ⟨2, 0xfb⟩, ⟨1, 0x2020⟩, ⟨1, 0xb0⟩, ⟨2, 0xa2⟩, ⟨1, 0xa7⟩,
    ⟨1, 0x2022⟩, ⟨1, 0xb6⟩, ⟨1, 0xdf⟩, ⟨1, 0xae⟩, ⟨1, 0x160⟩, ⟨1, 0x2122⟩, ⟨1, 0xb4⟩, ⟨1, 0xa8⟩,
    ⟨1, 0x2260⟩, ⟨1, 0x17d⟩, ⟨1, 0xd8⟩, ⟨1, 0x221e⟩, ⟨1, 0xb1⟩, ⟨2, 0x2264⟩, ⟨1, 0x2206⟩,
    ⟨1, 0xb5⟩, ⟨1, 0x2202⟩, ⟨1, 0x2211⟩, ⟨1, 0x220f⟩, ⟨1, 0x161⟩, ⟨1, 0x222b⟩, ⟨1, 0xaa⟩,
    ⟨1, 0xba⟩, ⟨1, 0x3a9⟩, ⟨1, 0x17e⟩, ⟨1, 0xf8⟩, ⟨1, 0xbf⟩, ⟨1, 0xa1⟩, ⟨1, 0xac⟩, ⟨1, 0x221a⟩,
    ⟨1, 0x192⟩, ⟨1, 0x2248⟩, ⟨1, 0x106⟩, ⟨1, 0xab⟩, ⟨1, 0x10c⟩, ⟨1, 0x2026⟩, ⟨1, 0xa0⟩, ⟨1, 0xc0⟩,
    ⟨1, 0xc3⟩, ⟨1, 0xd5⟩, ⟨2, 0x152⟩, ⟨1, 0x110⟩, ⟨1, 0x2014⟩, ⟨2, 0x201c⟩, ⟨2, 0x2018⟩, ⟨1, 0xf7⟩,
    ⟨1, 0x25ca⟩, ⟨1, 0xf8ff⟩, ⟨1, 0xa9⟩, ⟨1, 0x2044⟩, ⟨1, 0x20ac⟩, ⟨2, 0x2039⟩, ⟨1, 0xc6⟩,
    ⟨1, 0xbb⟩, ⟨1, 0x2013⟩, ⟨1, 0xb7⟩, ⟨1, 0x201a⟩, ⟨1, 0x201e⟩, ⟨1, 0x2030⟩, ⟨1, 0xc2⟩,
    ⟨1, 0x107⟩, ⟨1, 0xc1⟩, ⟨1, 0x10d⟩, ⟨1, 0xc8⟩, ⟨3, 0xcd⟩, ⟨1, 0xcc⟩, ⟨2, 0xd3⟩, ⟨1, 0x111⟩,
    ⟨1, 0xd2⟩, ⟨2, 0xda⟩, ⟨1, 0xd9⟩, ⟨1, 0x131⟩, ⟨1, 0x2c6⟩, ⟨1, 0x2dc⟩, ⟨1, 0xaf⟩, ⟨1, 0x3c0⟩,
    ⟨1, 0xcb⟩, ⟨1, 0x2da⟩, ⟨1, 0xb8⟩, ⟨1, 0xca⟩, ⟨1, 0xe6⟩, ⟨1, 0x2c7⟩]

def macCyrillicUpper : List CodeRun :=
  [⟨32, 0x410⟩, ⟨1, 0x2020⟩, ⟨1, 0xb0⟩, ⟨1, 0x490⟩, ⟨1, 0xa3⟩, ⟨1, 0xa7⟩, ⟨1, 0x2022⟩, ⟨1, 0xb6⟩,
    ⟨1, 0x406⟩, ⟨1, 0xae⟩, ⟨1, 0xa9⟩, ⟨1, 0x2122⟩, ⟨1, 0x402⟩, ⟨1, 0x452⟩, ⟨1, 0x2260⟩, ⟨1, 0x403⟩,
    ⟨1, 0x453⟩, ⟨1, 0x221e⟩, ⟨1, 0xb1⟩, ⟨2, 0x2264⟩, ⟨1, 0x456⟩, ⟨1, 0xb5⟩, ⟨1, 0x491⟩, ⟨1, 0x408⟩,
    ⟨1, 0x404⟩, ⟨1, 0x454⟩, ⟨1, 0x407⟩, ⟨1, 0x457⟩, ⟨1, 0x409⟩, ⟨1, 0x459⟩, ⟨1, 0x40a⟩, ⟨1, 0x45a⟩,
    ⟨1, 0x458⟩, ⟨1, 0x405⟩, ⟨1, 0xac⟩, ⟨1, 0x221a⟩, ⟨1, 0x192⟩, ⟨1, 0x2248⟩, ⟨1, 0x2206⟩,
    ⟨1, 0xab⟩, ⟨1, 0xbb⟩, ⟨1, 0x2026⟩, ⟨1, 0xa0⟩, ⟨1, 0x40b⟩, ⟨1, 0x45b⟩, ⟨1, 0x40c⟩, ⟨1, 0x45c⟩,
    ⟨1, 0x455⟩, ⟨2, 0x2013⟩, ⟨2, 0x201c⟩, ⟨2, 0x2018⟩, ⟨1, 0xf7⟩, ⟨1, 0x201e⟩, ⟨1, 0x40e⟩,
    ⟨1, 0x45e⟩, ⟨1, 0x40f⟩, ⟨1, 0x45f⟩, ⟨1, 0x2116⟩, ⟨1, 0x401⟩, ⟨1, 0x451⟩, ⟨1, 0x44f⟩,
    ⟨31, 0x430⟩, ⟨1, 0x20ac⟩]

def macFarsiUpper : List CodeRun :=
  [⟨1, 0xc4⟩, ⟨1, 0xa0⟩, ⟨1, 0xc7⟩, ⟨1, 0xc9⟩, ⟨1, 0xd1⟩, ⟨1, 0xd6⟩, ⟨1, 0xdc⟩, ⟨1, 0xe1⟩,
    ⟨1, 0xe0⟩, ⟨1, 0xe2⟩, ⟨1, 0xe4⟩, ⟨1, 0x6ba⟩, ⟨1, 0xab⟩, ⟨1, 0xe7⟩, ⟨1, 0xe9⟩, ⟨1, 0xe8⟩,
    ⟨2, 0xea⟩, ⟨1, 0xed⟩, ⟨1, 0x2026⟩, ⟨2, 0xee⟩, ⟨1, 0xf1⟩, ⟨1, 0xf3⟩, ⟨1, 0xbb⟩, ⟨1, 0xf4⟩,
    ⟨2, 0xf6⟩, ⟨1, 0xfa⟩, ⟨1, 0xf9⟩, ⟨2, 0xfb⟩, ⟨5, 0x20⟩, ⟨1, 0x66a⟩, ⟨6, 0x26⟩, ⟨1, 0x60c⟩,
    ⟨3, 0x2d⟩, ⟨10, 0x6f0⟩, ⟨1, 0x3a⟩, ⟨1, 0x61b⟩, ⟨3, 0x3c⟩, ⟨1, 0x61f⟩, ⟨1, 0x274a⟩, ⟨26, 0x621⟩,
    ⟨5, 0x5b⟩, ⟨19, 0x640⟩, ⟨1, 0x67e⟩, ⟨1, 0x679⟩, ⟨1, 0x686⟩, ⟨1, 0x6d5⟩, ⟨1, 0x6a4⟩, ⟨1, 0x6af⟩,
    ⟨1, 0x688⟩, ⟨1, 0x691⟩, ⟨3, 0x7b⟩, ⟨1, 0x698⟩, ⟨1, 0x6d2⟩]

def macGreekUpper : List CodeRun :=
  [⟨1, 0xc4⟩, ⟨1, 0xb9⟩, ⟨1, 0xb2⟩, ⟨1, 0xc9⟩, ⟨1, 0xb3⟩, ⟨1, 0xd6⟩, ⟨1, 0xdc⟩, ⟨1, 0x385⟩,
    ⟨1, 0xe0⟩, ⟨1, 0xe2⟩, ⟨1, 0xe4⟩, ⟨1, 0x384⟩, ⟨1, 0xa8⟩, ⟨1, 0xe7⟩, ⟨1, 0xe9⟩, ⟨1, 0xe8⟩,
    ⟨2, 0xea⟩, ⟨1, 0xa3⟩, ⟨1, 0x2122⟩, ⟨2, 0xee⟩, ⟨1, 0x2022⟩, ⟨1, 0xbd⟩, ⟨1, 0x2030⟩, ⟨1, 0xf4⟩,
    ⟨1, 0xf6⟩, ⟨1, 0xa6⟩, ⟨1, 0x20ac⟩, ⟨1, 0xf9⟩, ⟨2, 0xfb⟩, ⟨1, 0x2020⟩, ⟨2, 0x393⟩, ⟨1, 0x398⟩,
    ⟨1, 0x39b⟩, ⟨1, 0x39e⟩, ⟨1, 0x3a0⟩, ⟨1, 0xdf⟩, ⟨1, 0xae⟩, ⟨1, 0xa9⟩, ⟨1, 0x3a3⟩, ⟨1, 0x3aa⟩,
    ⟨1, 0xa7⟩, ⟨1, 0x2260⟩, ⟨1, 0xb0⟩, ⟨1, 0xb7⟩, ⟨1, 0x391⟩, ⟨1, 0xb1⟩, ⟨2, 0x2264⟩, ⟨1, 0xa5⟩,
    ⟨1, 0x392⟩, ⟨3, 0x395⟩, ⟨2, 0x399⟩, ⟨1, 0x39c⟩, ⟨1, 0x3a6⟩, ⟨1, 0x3ab⟩, ⟨2, 0x3a8⟩, ⟨1, 0x3ac⟩,
    ⟨1, 0x39d⟩, ⟨1, 0xac⟩, ⟨1, 0x39f⟩, ⟨1, 0x3a1⟩, ⟨1, 0x2248⟩, ⟨1, 0x3a4⟩, ⟨1, 0xab⟩, ⟨1, 0xbb⟩,
    ⟨1, 0x2026⟩, ⟨1, 0xa0⟩, ⟨1, 0x3a5⟩, ⟨1, 0x3a7⟩, ⟨1, 0x386⟩, ⟨1, 0x388⟩, ⟨1, 0x153⟩,
    ⟨1, 0x2013⟩, ⟨1, 0x2015⟩, ⟨2, 0x201c⟩, ⟨2, 0x2018⟩, ⟨1, 0xf7⟩, ⟨2, 0x389⟩, ⟨1, 0x38c⟩,
    ⟨1, 0x38e⟩, ⟨3, 0x3ad⟩, ⟨1, 0x3cc⟩, ⟨1, 0x38f⟩, ⟨1, 0x3cd⟩, ⟨2, 0x3b1⟩, ⟨1, 0x3c8⟩, ⟨2, 0x3b4⟩,
    ⟨1, 0x3c6⟩, ⟨1, 0x3b3⟩, ⟨1, 0x3b7⟩, ⟨1, 0x3b9⟩, ⟨1, 0x3be⟩, ⟨4, 0x3ba⟩, ⟨2, 0x3bf⟩, ⟨1, 0x3ce⟩,
    ⟨1, 0x3c1⟩, ⟨2, 0x3c3⟩, ⟨1, 0x3b8⟩, ⟨1, 0x3c9⟩, ⟨1, 0x3c2⟩, ⟨1, 0x3c7⟩, ⟨1, 0x3c5⟩, ⟨1, 0x3b6⟩,
    ⟨2, 0x3ca⟩, ⟨1, 0x390⟩, ⟨1, 0x3b0⟩, ⟨1, 0xad⟩]

def macIcelandUpper : List CodeRun :=
  [⟨2, 0xc4⟩, ⟨1, 0xc7⟩, ⟨1, 0xc9⟩, ⟨1, 0xd1⟩, ⟨1, 0xd6⟩, ⟨1, 0xdc⟩, ⟨1, 0xe1⟩, ⟨1, 0xe0⟩,
    ⟨1, 0xe2⟩, ⟨1, 0xe4⟩, ⟨1, 0xe3⟩, ⟨1, 0xe5⟩, ⟨1, 0xe7⟩, ⟨1, 0xe9⟩, ⟨1, 0xe8⟩, ⟨2, 0xea⟩,
    ⟨1, 0xed⟩, ⟨1, 0xec⟩, ⟨2, 0xee⟩, ⟨1, 0xf1⟩, ⟨1, 0xf3⟩, ⟨1, 0xf2⟩, ⟨1, 0xf4⟩, ⟨1, 0xf6⟩,
    ⟨1, 0xf5⟩, ⟨1, 0xfa⟩, ⟨1, 0xf9⟩, ⟨2, 0xfb⟩, ⟨1, 0xdd⟩, ⟨1, 0xb0⟩, ⟨2, 0xa2⟩, ⟨1, 0xa7⟩,
    ⟨1, 0x2022⟩, ⟨1, 0xb6⟩, ⟨1, 0xdf⟩, ⟨1, 0xae⟩, ⟨1, 0xa9⟩, ⟨1, 0x2122⟩, ⟨1, 0xb4⟩, ⟨1, 0xa8⟩,
    ⟨1, 0x2260⟩, ⟨1, 0xc6⟩, ⟨1, 0xd8⟩, ⟨1, 0x221e⟩, ⟨1, 0xb1⟩, ⟨2, 0x2264⟩, ⟨1, 0xa5⟩, ⟨1, 0xb5⟩,
    ⟨1, 0x2202⟩, ⟨1, 0x2211⟩, ⟨1, 0x220f⟩, ⟨1, 0x3c0⟩, ⟨1, 0x222b⟩, ⟨1, 0xaa⟩, ⟨1, 0xba⟩,
    ⟨1, 0x3a9⟩, ⟨1, 0xe6⟩, ⟨1, 0xf8⟩, ⟨1, 0xbf⟩, ⟨1, 0xa1⟩, ⟨1, 0xac⟩, ⟨1, 0x221a⟩, ⟨1, 0x192⟩,
    ⟨1, 0x2248⟩, ⟨1, 0x2206⟩, ⟨1, 0xab⟩, ⟨1, 0xbb⟩, ⟨1, 0x2026⟩, ⟨1, 0xa0⟩, ⟨1, 0xc0⟩, ⟨1, 0xc3⟩,
    ⟨1, 0xd5⟩, ⟨2, 0x152⟩, ⟨2, 0x2013⟩, ⟨2, 0x201c⟩, ⟨2, 0x2018⟩, ⟨1, 0xf7⟩, ⟨1, 0x25ca⟩,
    ⟨1, 0xff⟩, ⟨1, 0x178⟩, ⟨1, 0x2044⟩, ⟨1, 0x20ac⟩, ⟨1, 0xd0⟩, ⟨1, 0xf0⟩, ⟨1, 0xde⟩, ⟨1, 0xfe⟩,
    ⟨1, 0xfd⟩, ⟨1, 0xb7⟩, ⟨1, 0x201a⟩, ⟨1, 0x201e⟩, ⟨1, 0x2030⟩, ⟨1, 0xc2⟩, ⟨1, 0xca⟩, ⟨1, 0xc1⟩,
    ⟨1, 0xcb⟩, ⟨1, 0xc8⟩, ⟨3, 0xcd⟩, ⟨1, 0xcc⟩, ⟨2, 0xd3⟩, ⟨1, 0xf8ff⟩, ⟨1, 0xd2⟩, ⟨2, 0xda⟩,
    ⟨1, 0xd9⟩, ⟨1, 0x131⟩, ⟨1, 0x2c6⟩, ⟨1, 0x2dc⟩, ⟨1, 0xaf⟩, ⟨3, 0x2d8⟩, ⟨1, 0xb8⟩, ⟨1, 0x2dd⟩,
    ⟨1, 0x2db⟩, ⟨1, 0x2c7⟩]

def macLatin2Upper : List CodeRun :=
  [⟨1, 0xc4⟩, ⟨2, 0x100⟩, ⟨1, 0xc9⟩, ⟨1, 0x104⟩, ⟨1, 0xd6⟩, ⟨1, 0xdc⟩, ⟨1, 0xe1⟩, ⟨1, 0x105⟩,
    ⟨1, 0x10c⟩, ⟨1, 0xe4⟩, ⟨1, 0x10d⟩, ⟨2, 0x106⟩, ⟨1, 0xe9⟩, ⟨2, 0x179⟩, ⟨1, 0x10e⟩, ⟨1, 0xed⟩,
    ⟨1, 0x10f⟩, ⟨2, 0x112⟩, ⟨1, 0x116⟩, ⟨1, 0xf3⟩, ⟨1, 0x117⟩, ⟨1, 0xf4⟩, ⟨1, 0xf6⟩, ⟨1, 0xf5⟩,
    ⟨1, 0xfa⟩, ⟨2, 0x11a⟩, ⟨1, 0xfc⟩, ⟨1, 0x2020⟩, ⟨1, 0xb0⟩, ⟨1, 0x118⟩, ⟨1, 0xa3⟩, ⟨1, 0xa7⟩,
    ⟨1, 0x2022⟩, ⟨1, 0xb6⟩, ⟨1, 0xdf⟩, ⟨1, 0xae⟩, ⟨1, 0xa9⟩, ⟨1, 0x2122⟩, ⟨1, 0x119⟩, ⟨1, 0xa8⟩,
    ⟨1, 0x2260⟩, ⟨1, 0x123⟩, ⟨2, 0x12e⟩, ⟨1, 0x12a⟩, ⟨2, 0x2264⟩, ⟨1, 0x12b⟩, ⟨1, 0x136⟩,
    ⟨1, 0x2202⟩, ⟨1, 0x2211⟩, ⟨1, 0x142⟩, ⟨4, 0x13b⟩, ⟨2, 0x139⟩, ⟨2, 0x145⟩, ⟨1, 0x143⟩,
    ⟨1, 0xac⟩, ⟨1, 0x221a⟩, ⟨1, 0x144⟩, ⟨1, 0x147⟩, ⟨1, 0x2206⟩, ⟨1, 0xab⟩, ⟨1, 0xbb⟩, ⟨1, 0x2026⟩,
    ⟨1, 0xa0⟩, ⟨1, 0x148⟩, ⟨1, 0x150⟩, ⟨1, 0xd5⟩, ⟨1, 0x151⟩, ⟨1, 0x14c⟩, ⟨2, 0x2013⟩, ⟨2, 0x201c⟩,
    ⟨2, 0x2018⟩, ⟨1, 0xf7⟩, ⟨1, 0x25ca⟩, ⟨1, 0x14d⟩, ⟨2, 0x154⟩, ⟨1, 0x158⟩, ⟨2, 0x2039⟩,
    ⟨1, 0x159⟩, ⟨2, 0x156⟩, ⟨1, 0x160⟩, ⟨1, 0x201a⟩, ⟨1, 0x201e⟩, ⟨1, 0x161⟩, ⟨2, 0x15a⟩,
    ⟨1, 0xc1⟩, ⟨2, 0x164⟩, ⟨1, 0xcd⟩, ⟨2, 0x17d⟩, ⟨1, 0x16a⟩, ⟨2, 0xd3⟩, ⟨1, 0x16b⟩, ⟨1, 0x16e⟩,
    ⟨1, 0xda⟩, ⟨5, 0x16f⟩, ⟨1, 0xdd⟩, ⟨1, 0xfd⟩, ⟨1, 0x137⟩, ⟨1, 0x17b⟩, ⟨1, 0x141⟩, ⟨1, 0x17c⟩,
    ⟨1, 0x122⟩, ⟨1, 0x2c7⟩]

def macRomanUpper : List CodeRun :=
  [⟨2, 0xc4⟩, ⟨1, 0xc7⟩, ⟨1, 0xc9⟩, ⟨1, 0xd1⟩, ⟨1, 0xd6⟩, ⟨1, 0xdc⟩, ⟨1, 0xe1⟩, ⟨1, 0xe0⟩,
    ⟨1, 0xe2⟩, ⟨1, 0xe4⟩, ⟨1, 0xe3⟩, ⟨1, 0xe5⟩, ⟨1, 0xe7⟩, ⟨1, 0xe9⟩, ⟨1, 0xe8⟩, ⟨2, 0xea⟩,
    ⟨1, 0xed⟩, ⟨1, 0xec⟩, ⟨2, 0xee⟩, ⟨1, 0xf1⟩, ⟨1, 0xf3⟩, ⟨1, 0xf2⟩, ⟨1, 0xf4⟩, ⟨1, 0xf6⟩,
    ⟨1, 0xf5⟩, ⟨1, 0xfa⟩, ⟨1, 0xf9⟩, ⟨2, 0xfb⟩, ⟨1, 0x2020⟩, ⟨1, 0xb0⟩, ⟨2, 0xa2⟩, ⟨1, 0xa7⟩,
    ⟨1, 0x2022⟩, ⟨1, 0xb6⟩, ⟨1, 0xdf⟩, ⟨1, 0xae⟩, ⟨1, 0xa9⟩, ⟨1, 0x2122⟩, ⟨1, 0xb4⟩, ⟨1, 0xa8⟩,
    ⟨1, 0x2260⟩, ⟨1, 0xc6⟩, ⟨1, 0xd8⟩, ⟨1, 0x221e⟩, ⟨1, 0xb1⟩, ⟨2, 0x2264⟩, ⟨1, 0xa5⟩, ⟨1, 0xb5⟩,
    ⟨1, 0x2202⟩, ⟨1, 0x2211⟩, ⟨1, 0x220f⟩, ⟨1, 0x3c0⟩, ⟨1, 0x222b⟩, ⟨1, 0xaa⟩, ⟨1, 0xba⟩,
    ⟨1, 0x3a9⟩, ⟨1, 0xe6⟩, ⟨1, 0xf8⟩, ⟨1, 0xbf⟩, ⟨1, 0xa1⟩, ⟨1, 0xac⟩, ⟨1, 0x221a⟩, ⟨1, 0x192⟩,
    ⟨1, 0x2248⟩, ⟨1, 0x2206⟩, ⟨1, 0xab⟩, ⟨1, 0xbb⟩, ⟨1, 0x2026⟩, ⟨1, 0xa0⟩, ⟨1, 0xc0⟩, ⟨1, 0xc3⟩,
    ⟨1, 0xd5⟩, ⟨2, 0x152⟩, ⟨2, 0x2013⟩, ⟨2, 0x201c⟩, ⟨2, 0x2018⟩, ⟨1, 0xf7⟩, ⟨1, 0x25ca⟩,
    ⟨1, 0xff⟩, ⟨1, 0x178⟩, ⟨1, 0x2044⟩, ⟨1, 0x20ac⟩, ⟨2, 0x2039⟩, ⟨2, 0xfb01⟩, ⟨1, 0x2021⟩,
    ⟨1, 0xb7⟩, ⟨1, 0x201a⟩, ⟨1, 0x201e⟩, ⟨1, 0x2030⟩, ⟨1, 0xc2⟩, ⟨1, 0xca⟩, ⟨1, 0xc1⟩, ⟨1, 0xcb⟩,
    ⟨1, 0xc8⟩, ⟨3, 0xcd⟩, ⟨1, 0xcc⟩, ⟨2, 0xd3⟩, ⟨1, 0xf8ff⟩, ⟨1, 0xd2⟩, ⟨2, 0xda⟩, ⟨1, 0xd9⟩,
    ⟨1, 0x131⟩, ⟨1, 0x2c6⟩, ⟨1, 0x2dc⟩, ⟨1, 0xaf⟩, ⟨3, 0x2d8⟩, ⟨1, 0xb8⟩, ⟨1, 0x2dd⟩, ⟨1, 0x2db⟩,
    ⟨1, 0x2c7⟩]

def macRomanianUpper : List CodeRun :=
  [⟨2, 0xc4⟩, ⟨1, 0xc7⟩, ⟨1, 0xc9⟩, ⟨1, 0xd1⟩, ⟨1, 0xd6⟩, ⟨1, 0xdc⟩, ⟨1, 0xe1⟩, ⟨1, 0xe0⟩,
    ⟨1, 0xe2⟩, ⟨1, 0xe4⟩, ⟨1, 0xe3⟩, ⟨1, 0xe5⟩, ⟨1, 0xe7⟩, ⟨1, 0xe9⟩, ⟨1, 0xe8⟩, ⟨2, 0xea⟩,
    ⟨1, 0xed⟩, ⟨1, 0xec⟩, ⟨2, 0xee⟩, ⟨1, 0xf1⟩, ⟨1, 0xf3⟩, ⟨1, 0xf2⟩, ⟨1, 0xf4⟩, ⟨1, 0xf6⟩,
    ⟨1, 0xf5⟩, ⟨1, 0xfa⟩, ⟨1, 0xf9⟩, ⟨2, 0xfb⟩, ⟨1, 0x2020⟩, ⟨1, 0xb0⟩, ⟨2, 0xa2⟩, ⟨1, 0xa7⟩,
    ⟨1, 0x2022⟩, ⟨1, 0xb6⟩, ⟨1, 0xdf⟩, ⟨1, 0xae⟩, ⟨1, 0xa9⟩, ⟨1, 0x2122⟩, ⟨1, 0xb4⟩, ⟨1, 0xa8⟩,
    ⟨1, 0x2260⟩, ⟨1, 0x102⟩, ⟨1, 0x218⟩, ⟨1, 0x221e⟩, ⟨1, 0xb1⟩, ⟨2, 0x2264⟩, ⟨1, 0xa5⟩, ⟨1, 0xb5⟩,
    ⟨1, 0x2202⟩, ⟨1, 0x2211⟩, ⟨1, 0x220f⟩, ⟨1, 0x3c0⟩, ⟨1, 0x222b⟩, ⟨1, 0xaa⟩, ⟨1, 0xba⟩,
    ⟨1, 0x3a9⟩, ⟨1, 0x103⟩, ⟨1, 0x219⟩, ⟨1, 0xbf⟩, ⟨1, 0xa1⟩, ⟨1, 0xac⟩, ⟨1, 0x221a⟩, ⟨1, 0x192⟩,
    ⟨1, 0x2248⟩, ⟨1, 0x2206⟩, ⟨1, 0xab⟩, ⟨1, 0xbb⟩, ⟨1, 0x2026⟩, ⟨1, 0xa0⟩, ⟨1, 0xc0⟩, ⟨1, 0xc3⟩,
    ⟨1, 0xd5⟩, ⟨2, 0x152⟩, ⟨2, 0x2013⟩, ⟨2, 0x201c⟩, ⟨2, 0x2018⟩, ⟨1, 0xf7⟩, ⟨1, 0x25ca⟩,
    ⟨1, 0xff⟩, ⟨1, 0x178⟩, ⟨1, 0x2044⟩, ⟨1, 0x20ac⟩, ⟨2, 0x2039⟩, ⟨2, 0x21a⟩, ⟨1, 0x2021⟩,
    ⟨1, 0xb7⟩, ⟨1, 0x201a⟩, ⟨1, 0x201e⟩, ⟨1, 0x2030⟩, ⟨1, 0xc2⟩, ⟨1, 0xca⟩, ⟨1, 0xc1⟩, ⟨1, 0xcb⟩,
    ⟨1, 0xc8⟩, ⟨3, 0xcd⟩, ⟨1, 0xcc⟩, ⟨2, 0xd3⟩, ⟨1, 0xf8ff⟩, ⟨1, 0xd2⟩, ⟨2, 0xda⟩, ⟨1, 0xd9⟩,
    ⟨1, 0x131⟩, ⟨1, 0x2c6⟩, ⟨1, 0x2dc⟩, ⟨1, 0xaf⟩, ⟨3, 0x2d8⟩, ⟨1, 0xb8⟩, ⟨1, 0x2dd⟩, ⟨1, 0x2db⟩,
    ⟨1, 0x2c7⟩]

def macTurkishUpper : List CodeRun :=
  [⟨2, 0xc4⟩, ⟨1, 0xc7⟩, ⟨1, 0xc9⟩, ⟨1, 0xd1⟩, ⟨1, 0xd6⟩, ⟨1, 0xdc⟩, ⟨1, 0xe1⟩, ⟨1, 0xe0⟩,
    ⟨1, 0xe2⟩, ⟨1, 0xe4⟩, ⟨1, 0xe3⟩, ⟨1, 0xe5⟩, ⟨1, 0xe7⟩, ⟨1, 0xe9⟩, ⟨1, 0xe8⟩, ⟨2, 0xea⟩,
    ⟨1, 0xed⟩, ⟨1, 0xec⟩, ⟨2, 0xee⟩, ⟨1, 0xf1⟩, ⟨1, 0xf3⟩, ⟨1, 0xf2⟩, ⟨1, 0xf4⟩, ⟨1, 0xf6⟩,
    ⟨1, 0xf5⟩, ⟨1, 0xfa⟩, ⟨1, 0xf9⟩, ⟨2, 0xfb⟩, ⟨1, 0x2020⟩, ⟨1, 0xb0⟩, ⟨2, 0xa2⟩, ⟨1, 0xa7⟩,
    ⟨1, 0x2022⟩, ⟨1, 0xb6⟩, ⟨1, 0xdf⟩, ⟨1, 0xae⟩, ⟨1, 0xa9⟩, ⟨1, 0x2122⟩, ⟨1, 0xb4⟩, ⟨1, 0xa8⟩,
    ⟨1, 0x2260⟩, ⟨1, 0xc6⟩, ⟨1, 0xd8⟩, ⟨1, 0x221e⟩, ⟨1, 0xb1⟩, ⟨2, 0x2264⟩, ⟨1, 0xa5⟩, ⟨1, 0xb5⟩,
    ⟨1, 0x2202⟩, ⟨1, 0x2211⟩, ⟨1, 0x220f⟩, ⟨1, 0x3c0⟩, ⟨1, 0x222b⟩, ⟨1, 0xaa⟩, ⟨1, 0xba⟩,
    ⟨1, 0x3a9⟩, ⟨1, 0xe6⟩, ⟨1, 0xf8⟩, ⟨1, 0xbf⟩, ⟨1, 0xa1⟩, ⟨1, 0xac⟩, ⟨1, 0x221a⟩, ⟨1, 0x192⟩,
    ⟨1, 0x2248⟩, ⟨1, 0x2206⟩, ⟨1, 0xab⟩, ⟨1, 0xbb⟩, ⟨1, 0x2026⟩, ⟨1, 0xa0⟩, ⟨1, 0xc0⟩, ⟨1, 0xc3⟩,
    ⟨1, 0xd5⟩, ⟨2, 0x152⟩, ⟨2, 0x2013⟩, ⟨2, 0x201c⟩, ⟨2, 0x2018⟩, ⟨1, 0xf7⟩, ⟨1, 0x25ca⟩,
    ⟨1, 0xff⟩, ⟨1, 0x178⟩, ⟨2, 0x11e⟩, ⟨2, 0x130⟩, ⟨2, 0x15e⟩, ⟨1, 0x2021⟩, ⟨1, 0xb7⟩, ⟨1, 0x201a⟩,
    ⟨1, 0x201e⟩, ⟨1, 0x2030⟩, ⟨1, 0xc2⟩, ⟨1, 0xca⟩, ⟨1, 0xc1⟩, ⟨1, 0xcb⟩, ⟨1, 0xc8⟩, ⟨3, 0xcd⟩,
    ⟨1, 0xcc⟩, ⟨2, 0xd3⟩, ⟨1, 0xf8ff⟩, ⟨1, 0xd2⟩, ⟨2, 0xda⟩, ⟨1, 0xd9⟩, ⟨1, 0xf8a0⟩, ⟨1, 0x2c6⟩,
    ⟨1, 0x2dc⟩, ⟨1, 0xaf⟩, ⟨3, 0x2d8⟩, ⟨1, 0xb8⟩, ⟨1, 0x2dd⟩, ⟨1, 0x2db⟩, ⟨1, 0x2c7⟩]

end ProtectionLimits.Text
