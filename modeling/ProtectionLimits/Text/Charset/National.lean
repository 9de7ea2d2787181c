import ProtectionLimits.Text.Charset

/-!
Contract: further character sets of one byte.

Owns their upper halves.
-/

set_option autoImplicit false

namespace ProtectionLimits.Text

def hpRoman8Upper : List CodeRun :=
  [⟨33, 0x80⟩, ⟨1, 0xc0⟩, ⟨1, 0xc2⟩, ⟨1, 0xc8⟩, ⟨2, 0xca⟩, ⟨2, 0xce⟩, ⟨1, 0xb4⟩, ⟨1, 0x2cb⟩,
    ⟨1, 0x2c6⟩, ⟨1, 0xa8⟩, ⟨1, 0x2dc⟩, ⟨1, 0xd9⟩, ⟨1, 0xdb⟩, ⟨1, 0x20a4⟩, ⟨1, 0xaf⟩, ⟨1, 0xdd⟩,
    ⟨1, 0xfd⟩, ⟨1, 0xb0⟩, ⟨1, 0xc7⟩, ⟨1, 0xe7⟩, ⟨1, 0xd1⟩, ⟨1, 0xf1⟩, ⟨1, 0xa1⟩, ⟨1, 0xbf⟩,
    ⟨1, 0xa4⟩, ⟨1, 0xa3⟩, ⟨1, 0xa5⟩, ⟨1, 0xa7⟩, ⟨1, 0x192⟩, ⟨1, 0xa2⟩, ⟨1, 0xe2⟩, ⟨1, 0xea⟩,
    ⟨1, 0xf4⟩, ⟨1, 0xfb⟩, ⟨1, 0xe1⟩, ⟨1, 0xe9⟩, ⟨1, 0xf3⟩, ⟨1, 0xfa⟩, ⟨1, 0xe0⟩, ⟨1, 0xe8⟩,
    ⟨1, 0xf2⟩, ⟨1, 0xf9⟩, ⟨1, 0xe4⟩, ⟨1, 0xeb⟩, ⟨1, 0xf6⟩, ⟨1, 0xfc⟩, ⟨1, 0xc5⟩, ⟨1, 0xee⟩,
    ⟨1, 0xd8⟩, ⟨1, 0xc6⟩, ⟨1, 0xe5⟩, ⟨1, 0xed⟩, ⟨1, 0xf8⟩, ⟨1, 0xe6⟩, ⟨1, 0xc4⟩, ⟨1, 0xec⟩,
    ⟨1, 0xd6⟩, ⟨1, 0xdc⟩, ⟨1, 0xc9⟩, ⟨1, 0xef⟩, ⟨1, 0xdf⟩, ⟨1, 0xd4⟩, ⟨1, 0xc1⟩, ⟨1, 0xc3⟩,
    ⟨1, 0xe3⟩, ⟨1, 0xd0⟩, ⟨1, 0xf0⟩, ⟨1, 0xcd⟩, ⟨1, 0xcc⟩, ⟨1, 0xd3⟩, ⟨1, 0xd2⟩, ⟨1, 0xd5⟩,
    ⟨1, 0xf5⟩, ⟨2, 0x160⟩, ⟨1, 0xda⟩, ⟨1, 0x178⟩, ⟨1, 0xff⟩, ⟨1, 0xde⟩, ⟨1, 0xfe⟩, ⟨1, 0xb7⟩,
    ⟨2, 0xb5⟩, ⟨1, 0xbe⟩, ⟨1, 0x2014⟩, ⟨2, 0xbc⟩, ⟨1, 0xaa⟩, ⟨1, 0xba⟩, ⟨1, 0xab⟩, ⟨1, 0x25a0⟩,
    ⟨1, 0xbb⟩, ⟨1, 0xb1⟩, ⟨1, 0xfffe⟩]

/-- The upper half of KOI8-R. -/
def koi8RUpper : List CodeRun :=
  [⟨1, 0x2500⟩, ⟨1, 0x2502⟩, ⟨1, 0x250c⟩, ⟨1, 0x2510⟩, ⟨1, 0x2514⟩, ⟨1, 0x2518⟩, ⟨1, 0x251c⟩,
    ⟨1, 0x2524⟩, ⟨1, 0x252c⟩, ⟨1, 0x2534⟩, ⟨1, 0x253c⟩, ⟨1, 0x2580⟩, ⟨1, 0x2584⟩, ⟨1, 0x2588⟩,
    ⟨1, 0x258c⟩, ⟨4, 0x2590⟩, ⟨1, 0x2320⟩, ⟨1, 0x25a0⟩, ⟨2, 0x2219⟩, ⟨1, 0x2248⟩, ⟨2, 0x2264⟩,
    ⟨1, 0xa0⟩, ⟨1, 0x2321⟩, ⟨1, 0xb0⟩, ⟨1, 0xb2⟩, ⟨1, 0xb7⟩, ⟨1, 0xf7⟩, ⟨3, 0x2550⟩, ⟨1, 0x451⟩,
    ⟨15, 0x2553⟩, ⟨1, 0x401⟩, ⟨11, 0x2562⟩, ⟨1, 0xa9⟩, ⟨1, 0x44e⟩, ⟨2, 0x430⟩, ⟨1, 0x446⟩,
    ⟨2, 0x434⟩, ⟨1, 0x444⟩, ⟨1, 0x433⟩, ⟨1, 0x445⟩, ⟨8, 0x438⟩, ⟨1, 0x44f⟩, ⟨4, 0x440⟩, ⟨1, 0x436⟩,
    ⟨1, 0x432⟩, ⟨1, 0x44c⟩, ⟨1, 0x44b⟩, ⟨1, 0x437⟩, ⟨1, 0x448⟩, ⟨1, 0x44d⟩, ⟨1, 0x449⟩, ⟨1, 0x447⟩,
    ⟨1, 0x44a⟩, ⟨1, 0x42e⟩, ⟨2, 0x410⟩, ⟨1, 0x426⟩, ⟨2, 0x414⟩, ⟨1, 0x424⟩, ⟨1, 0x413⟩, ⟨1, 0x425⟩,
    ⟨8, 0x418⟩, ⟨1, 0x42f⟩, ⟨4, 0x420⟩, ⟨1, 0x416⟩, ⟨1, 0x412⟩, ⟨1, 0x42c⟩, ⟨1, 0x42b⟩, ⟨1, 0x417⟩,
    ⟨1, 0x428⟩, ⟨1, 0x42d⟩, ⟨1, 0x429⟩, ⟨1, 0x427⟩, ⟨1, 0x42a⟩]

/-- The upper half of KOI8-T. -/
def koi8TUpper : List CodeRun :=
  [⟨1, 0x49b⟩, ⟨1, 0x493⟩, ⟨1, 0x201a⟩, ⟨1, 0x492⟩, ⟨1, 0x201e⟩, ⟨1, 0x2026⟩, ⟨2, 0x2020⟩,
    ⟨1, 0xfffe⟩, ⟨1, 0x2030⟩, ⟨1, 0x4b3⟩, ⟨1, 0x2039⟩, ⟨1, 0x4b2⟩, ⟨1, 0x4b7⟩, ⟨1, 0x4b6⟩,
    ⟨1, 0xfffe⟩, ⟨1, 0x49a⟩, ⟨2, 0x2018⟩, ⟨2, 0x201c⟩, ⟨1, 0x2022⟩, ⟨2, 0x2013⟩, ⟨1, 0xfffe⟩,
    ⟨1, 0x2122⟩, ⟨1, 0xfffe⟩, ⟨1, 0x203a⟩, ⟨5, 0xfffe⟩, ⟨1, 0x4ef⟩, ⟨1, 0x4ee⟩, ⟨1, 0x451⟩,
    ⟨1, 0xa4⟩, ⟨1, 0x4e3⟩, ⟨2, 0xa6⟩, ⟨3, 0xfffe⟩, ⟨4, 0xab⟩, ⟨1, 0xfffe⟩, ⟨3, 0xb0⟩, ⟨1, 0x401⟩,
    ⟨1, 0xfffe⟩, ⟨1, 0x4e2⟩, ⟨2, 0xb6⟩, ⟨1, 0xfffe⟩, ⟨1, 0x2116⟩, ⟨1, 0xfffe⟩, ⟨1, 0xbb⟩,
    ⟨3, 0xfffe⟩, ⟨1, 0xa9⟩, ⟨1, 0x44e⟩, ⟨2, 0x430⟩, ⟨1, 0x446⟩, ⟨2, 0x434⟩, ⟨1, 0x444⟩, ⟨1, 0x433⟩,
    ⟨1, 0x445⟩, ⟨8, 0x438⟩, ⟨1, 0x44f⟩, ⟨4, 0x440⟩, ⟨1, 0x436⟩, ⟨1, 0x432⟩, ⟨1, 0x44c⟩, ⟨1, 0x44b⟩,
    ⟨1, 0x437⟩, ⟨1, 0x448⟩, ⟨1, 0x44d⟩, ⟨1, 0x449⟩, ⟨1, 0x447⟩, ⟨1, 0x44a⟩, ⟨1, 0x42e⟩, ⟨2, 0x410⟩,
    ⟨1, 0x426⟩, ⟨2, 0x414⟩, ⟨1, 0x424⟩, ⟨1, 0x413⟩, ⟨1, 0x425⟩, ⟨8, 0x418⟩, ⟨1, 0x42f⟩, ⟨4, 0x420⟩,
    ⟨1, 0x416⟩, ⟨1, 0x412⟩, ⟨1, 0x42c⟩, ⟨1, 0x42b⟩, ⟨1, 0x417⟩, ⟨1, 0x428⟩, ⟨1, 0x42d⟩, ⟨1, 0x429⟩,
    ⟨1, 0x427⟩, ⟨1, 0x42a⟩]

/-- The upper half of KOI8-U. -/
def koi8UUpper : List CodeRun :=
  [⟨1, 0x2500⟩, ⟨1, 0x2502⟩, ⟨1, 0x250c⟩, ⟨1, 0x2510⟩, ⟨1, 0x2514⟩, ⟨1, 0x2518⟩, ⟨1, 0x251c⟩,
    ⟨1, 0x2524⟩, ⟨1, 0x252c⟩, ⟨1, 0x2534⟩, ⟨1, 0x253c⟩, ⟨1, 0x2580⟩, ⟨1, 0x2584⟩, ⟨1, 0x2588⟩,
    ⟨1, 0x258c⟩, ⟨4, 0x2590⟩, ⟨1, 0x2320⟩, ⟨1, 0x25a0⟩, ⟨2, 0x2219⟩, ⟨1, 0x2248⟩, ⟨2, 0x2264⟩,
    ⟨1, 0xa0⟩, ⟨1, 0x2321⟩, ⟨1, 0xb0⟩, ⟨1, 0xb2⟩, ⟨1, 0xb7⟩, ⟨1, 0xf7⟩, ⟨3, 0x2550⟩, ⟨1, 0x451⟩,
    ⟨1, 0x454⟩, ⟨1, 0x2554⟩, ⟨2, 0x456⟩, ⟨5, 0x2557⟩, ⟨1, 0x491⟩, ⟨5, 0x255d⟩, ⟨1, 0x401⟩,
    ⟨1, 0x404⟩, ⟨1, 0x2563⟩, ⟨2, 0x406⟩, ⟨5, 0x2566⟩, ⟨1, 0x490⟩, ⟨1, 0x256c⟩, ⟨1, 0xa9⟩,
    ⟨1, 0x44e⟩, ⟨2, 0x430⟩, ⟨1, 0x446⟩, ⟨2, 0x434⟩, ⟨1, 0x444⟩, ⟨1, 0x433⟩, ⟨1, 0x445⟩, ⟨8, 0x438⟩,
    ⟨1, 0x44f⟩, ⟨4, 0x440⟩, ⟨1, 0x436⟩, ⟨1, 0x432⟩, ⟨1, 0x44c⟩, ⟨1, 0x44b⟩, ⟨1, 0x437⟩, ⟨1, 0x448⟩,
    ⟨1, 0x44d⟩, ⟨1, 0x449⟩, ⟨1, 0x447⟩, ⟨1, 0x44a⟩, ⟨1, 0x42e⟩, ⟨2, 0x410⟩, ⟨1, 0x426⟩, ⟨2, 0x414⟩,
    ⟨1, 0x424⟩, ⟨1, 0x413⟩, ⟨1, 0x425⟩, ⟨8, 0x418⟩, ⟨1, 0x42f⟩, ⟨4, 0x420⟩, ⟨1, 0x416⟩, ⟨1, 0x412⟩,
    ⟨1, 0x42c⟩, ⟨1, 0x42b⟩, ⟨1, 0x417⟩, ⟨1, 0x428⟩, ⟨1, 0x42d⟩, ⟨1, 0x429⟩, ⟨1, 0x427⟩, ⟨1, 0x42a⟩]

def kz1048Upper : List CodeRun :=
  [⟨2, 0x402⟩, ⟨1, 0x201a⟩, ⟨1, 0x453⟩, ⟨1, 0x201e⟩, ⟨1, 0x2026⟩, ⟨2, 0x2020⟩, ⟨1, 0x20ac⟩,
    ⟨1, 0x2030⟩, ⟨1, 0x409⟩, ⟨1, 0x2039⟩, ⟨1, 0x40a⟩, ⟨1, 0x49a⟩, ⟨1, 0x4ba⟩, ⟨1, 0x40f⟩,
    ⟨1, 0x452⟩, ⟨2, 0x2018⟩, ⟨2, 0x201c⟩, ⟨1, 0x2022⟩, ⟨2, 0x2013⟩, ⟨1, 0xfffe⟩, ⟨1, 0x2122⟩,
    ⟨1, 0x459⟩, ⟨1, 0x203a⟩, ⟨1, 0x45a⟩, ⟨1, 0x49b⟩, ⟨1, 0x4bb⟩, ⟨1, 0x45f⟩, ⟨1, 0xa0⟩, ⟨2, 0x4b0⟩,
    ⟨1, 0x4d8⟩, ⟨1, 0xa4⟩, ⟨1, 0x4e8⟩, ⟨2, 0xa6⟩, ⟨1, 0x401⟩, ⟨1, 0xa9⟩, ⟨1, 0x492⟩, ⟨4, 0xab⟩,
    ⟨1, 0x4ae⟩, ⟨2, 0xb0⟩, ⟨1, 0x406⟩, ⟨1, 0x456⟩, ⟨1, 0x4e9⟩, ⟨3, 0xb5⟩, ⟨1, 0x451⟩, ⟨1, 0x2116⟩,
    ⟨1, 0x493⟩, ⟨1, 0xbb⟩, ⟨1, 0x4d9⟩, ⟨2, 0x4a2⟩, ⟨1, 0x4af⟩, ⟨64, 0x410⟩]

/-- The upper half of Palm OS. -/
def palmosUpper : List CodeRun :=
  [⟨1, 0x20ac⟩, ⟨1, 0x81⟩, ⟨1, 0x201a⟩, ⟨1, 0x192⟩, ⟨1, 0x201e⟩, ⟨1, 0x2026⟩, ⟨2, 0x2020⟩,
    ⟨1, 0x2c6⟩, ⟨1, 0x2030⟩, ⟨1, 0x160⟩, ⟨1, 0x2039⟩, ⟨1, 0x152⟩, ⟨1, 0x2666⟩, ⟨1, 0x2663⟩,
    ⟨1, 0x2665⟩, ⟨1, 0x2660⟩, ⟨2, 0x2018⟩, ⟨2, 0x201c⟩, ⟨1, 0x2022⟩, ⟨2, 0x2013⟩, ⟨1, 0x2dc⟩,
    ⟨1, 0x2122⟩, ⟨1, 0x161⟩, ⟨1, 0x9b⟩, ⟨1, 0x153⟩, ⟨2, 0x9d⟩, ⟨1, 0x178⟩, ⟨96, 0xa0⟩]

def ptcp154Upper : List CodeRun :=
  [⟨1, 0x496⟩, ⟨1, 0x492⟩, ⟨1, 0x4ee⟩, ⟨1, 0x493⟩, ⟨1, 0x201e⟩, ⟨1, 0x2026⟩, ⟨1, 0x4b6⟩,
    ⟨1, 0x4ae⟩, ⟨1, 0x4b2⟩, ⟨1, 0x4af⟩, ⟨1, 0x4a0⟩, ⟨1, 0x4e2⟩, ⟨1, 0x4a2⟩, ⟨1, 0x49a⟩, ⟨1, 0x4ba⟩,
    ⟨1, 0x4b8⟩, ⟨1, 0x497⟩, ⟨2, 0x2018⟩, ⟨2, 0x201c⟩, ⟨1, 0x2022⟩, ⟨2, 0x2013⟩, ⟨1, 0x4b3⟩,
    ⟨1, 0x4b7⟩, ⟨1, 0x4a1⟩, ⟨1, 0x4e3⟩, ⟨1, 0x4a3⟩, ⟨1, 0x49b⟩, ⟨1, 0x4bb⟩, ⟨1, 0x4b9⟩, ⟨1, 0xa0⟩,
    ⟨1, 0x40e⟩, ⟨1, 0x45e⟩, ⟨1, 0x408⟩, ⟨1, 0x4e8⟩, ⟨1, 0x498⟩, ⟨1, 0x4b0⟩, ⟨1, 0xa7⟩, ⟨1, 0x401⟩,
    ⟨1, 0xa9⟩, ⟨1, 0x4d8⟩, ⟨2, 0xab⟩, ⟨1, 0x4ef⟩, ⟨1, 0xae⟩, ⟨1, 0x49c⟩, ⟨1, 0xb0⟩, ⟨1, 0x4b1⟩,
    ⟨1, 0x406⟩, ⟨1, 0x456⟩, ⟨1, 0x499⟩, ⟨1, 0x4e9⟩, ⟨2, 0xb6⟩, ⟨1, 0x451⟩, ⟨1, 0x2116⟩, ⟨1, 0x4d9⟩,
    ⟨1, 0xbb⟩, ⟨1, 0x458⟩, ⟨2, 0x4aa⟩, ⟨1, 0x49d⟩, ⟨64, 0x410⟩]

def tis620Upper : List CodeRun :=
  [⟨32, 0x80⟩, ⟨1, 0xfffe⟩, ⟨58, 0xe01⟩, ⟨4, 0xfffe⟩, ⟨29, 0xe3f⟩, ⟨4, 0xfffe⟩]

end ProtectionLimits.Text
