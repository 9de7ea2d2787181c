/-!
Contract: names of characters.

Owns the names of Unicode for the scripts, marks and symbols that texts in European
languages use, some others beside them, and the two kinds of names that follow from
a code point. A name may be written in small letters, unless it follows from a code
point. Characters of further scripts are not known by name.
-/

set_option autoImplicit false

namespace ProtectionLimits.Text

/-- The rest of a name behind what a group of names has in common, with the code
point. -/
abbrev NameEntry := String × Nat

def latinSmallNames : List NameEntry :=
  [("A", 0x61), ("B", 0x62), ("C", 0x63), ("D", 0x64), ("E", 0x65), ("F", 0x66), ("G", 0x67),
    ("H", 0x68), ("I", 0x69), ("J", 0x6a), ("K", 0x6b), ("L", 0x6c), ("M", 0x6d), ("N", 0x6e),
    ("O", 0x6f), ("P", 0x70), ("Q", 0x71), ("R", 0x72), ("S", 0x73), ("T", 0x74), ("U", 0x75),
    ("V", 0x76), ("W", 0x77), ("X", 0x78), ("Y", 0x79), ("Z", 0x7a), ("SHARP S", 0xdf),
    ("A WITH GRAVE", 0xe0), ("A WITH ACUTE", 0xe1), ("A WITH CIRCUMFLEX", 0xe2),
    ("A WITH TILDE", 0xe3), ("A WITH DIAERESIS", 0xe4), ("A WITH RING ABOVE", 0xe5), ("AE", 0xe6),
    ("C WITH CEDILLA", 0xe7), ("E WITH GRAVE", 0xe8), ("E WITH ACUTE", 0xe9),
    ("E WITH CIRCUMFLEX", 0xea), ("E WITH DIAERESIS", 0xeb), ("I WITH GRAVE", 0xec),
    ("I WITH ACUTE", 0xed), ("I WITH CIRCUMFLEX", 0xee), ("I WITH DIAERESIS", 0xef), ("ETH", 0xf0),
    ("N WITH TILDE", 0xf1), ("O WITH GRAVE", 0xf2), ("O WITH ACUTE", 0xf3),
    ("O WITH CIRCUMFLEX", 0xf4), ("O WITH TILDE", 0xf5), ("O WITH DIAERESIS", 0xf6),
    ("O WITH STROKE", 0xf8), ("U WITH GRAVE", 0xf9), ("U WITH ACUTE", 0xfa),
    ("U WITH CIRCUMFLEX", 0xfb), ("U WITH DIAERESIS", 0xfc), ("Y WITH ACUTE", 0xfd),
    ("THORN", 0xfe), ("Y WITH DIAERESIS", 0xff), ("A WITH MACRON", 0x101), ("A WITH BREVE", 0x103),
    ("A WITH OGONEK", 0x105), ("C WITH ACUTE", 0x107), ("C WITH CIRCUMFLEX", 0x109),
    ("C WITH DOT ABOVE", 0x10b), ("C WITH CARON", 0x10d), ("D WITH CARON", 0x10f),
    ("D WITH STROKE", 0x111), ("E WITH MACRON", 0x113), ("E WITH BREVE", 0x115),
    ("E WITH DOT ABOVE", 0x117), ("E WITH OGONEK", 0x119), ("E WITH CARON", 0x11b),
    ("G WITH CIRCUMFLEX", 0x11d), ("G WITH BREVE", 0x11f), ("G WITH DOT ABOVE", 0x121),
    ("G WITH CEDILLA", 0x123), ("H WITH CIRCUMFLEX", 0x125), ("H WITH STROKE", 0x127),
    ("I WITH TILDE", 0x129), ("I WITH MACRON", 0x12b), ("I WITH BREVE", 0x12d),
    ("I WITH OGONEK", 0x12f), ("DOTLESS I", 0x131), ("J WITH CIRCUMFLEX", 0x135),
    ("K WITH CEDILLA", 0x137), ("KRA", 0x138), ("L WITH ACUTE", 0x13a), ("L WITH CEDILLA", 0x13c),
    ("L WITH CARON", 0x13e), ("L WITH MIDDLE DOT", 0x140), ("L WITH STROKE", 0x142),
    ("N WITH ACUTE", 0x144), ("N WITH CEDILLA", 0x146), ("N WITH CARON", 0x148),
    ("N PRECEDED BY APOSTROPHE", 0x149), ("ENG", 0x14b), ("O WITH MACRON", 0x14d),
    ("O WITH BREVE", 0x14f), ("O WITH DOUBLE ACUTE", 0x151), ("R WITH ACUTE", 0x155),
    ("R WITH CEDILLA", 0x157), ("R WITH CARON", 0x159), ("S WITH ACUTE", 0x15b),
    ("S WITH CIRCUMFLEX", 0x15d), ("S WITH CEDILLA", 0x15f), ("S WITH CARON", 0x161),
    ("T WITH CEDILLA", 0x163), ("T WITH CARON", 0x165), ("T WITH STROKE", 0x167),
    ("U WITH TILDE", 0x169), ("U WITH MACRON", 0x16b), ("U WITH BREVE", 0x16d),
    ("U WITH RING ABOVE", 0x16f), ("U WITH DOUBLE ACUTE", 0x171), ("U WITH OGONEK", 0x173),
    ("W WITH CIRCUMFLEX", 0x175), ("Y WITH CIRCUMFLEX", 0x177), ("Z WITH ACUTE", 0x17a),
    ("Z WITH DOT ABOVE", 0x17c), ("Z WITH CARON", 0x17e), ("LONG S", 0x17f),
    ("S WITH COMMA BELOW", 0x219), ("T WITH COMMA BELOW", 0x21b), ("W WITH GRAVE", 0x1e81),
    ("W WITH ACUTE", 0x1e83), ("W WITH DIAERESIS", 0x1e85)]

def latinCapitalNames : List NameEntry :=
  [("A", 0x41), ("B", 0x42), ("C", 0x43), ("D", 0x44), ("E", 0x45), ("F", 0x46), ("G", 0x47),
    ("H", 0x48), ("I", 0x49), ("J", 0x4a), ("K", 0x4b), ("L", 0x4c), ("M", 0x4d), ("N", 0x4e),
    ("O", 0x4f), ("P", 0x50), ("Q", 0x51), ("R", 0x52), ("S", 0x53), ("T", 0x54), ("U", 0x55),
    ("V", 0x56), ("W", 0x57), ("X", 0x58), ("Y", 0x59), ("Z", 0x5a), ("A WITH GRAVE", 0xc0),
    ("A WITH ACUTE", 0xc1), ("A WITH CIRCUMFLEX", 0xc2), ("A WITH TILDE", 0xc3),
    ("A WITH DIAERESIS", 0xc4), ("A WITH RING ABOVE", 0xc5), ("AE", 0xc6),
    ("C WITH CEDILLA", 0xc7), ("E WITH GRAVE", 0xc8), ("E WITH ACUTE", 0xc9),
    ("E WITH CIRCUMFLEX", 0xca), ("E WITH DIAERESIS", 0xcb), ("I WITH GRAVE", 0xcc),
    ("I WITH ACUTE", 0xcd), ("I WITH CIRCUMFLEX", 0xce), ("I WITH DIAERESIS", 0xcf), ("ETH", 0xd0),
    ("N WITH TILDE", 0xd1), ("O WITH GRAVE", 0xd2), ("O WITH ACUTE", 0xd3),
    ("O WITH CIRCUMFLEX", 0xd4), ("O WITH TILDE", 0xd5), ("O WITH DIAERESIS", 0xd6),
    ("O WITH STROKE", 0xd8), ("U WITH GRAVE", 0xd9), ("U WITH ACUTE", 0xda),
    ("U WITH CIRCUMFLEX", 0xdb), ("U WITH DIAERESIS", 0xdc), ("Y WITH ACUTE", 0xdd),
    ("THORN", 0xde), ("A WITH MACRON", 0x100), ("A WITH BREVE", 0x102), ("A WITH OGONEK", 0x104),
    ("C WITH ACUTE", 0x106), ("C WITH CIRCUMFLEX", 0x108), ("C WITH DOT ABOVE", 0x10a),
    ("C WITH CARON", 0x10c), ("D WITH CARON", 0x10e), ("D WITH STROKE", 0x110),
    ("E WITH MACRON", 0x112), ("E WITH BREVE", 0x114), ("E WITH DOT ABOVE", 0x116),
    ("E WITH OGONEK", 0x118), ("E WITH CARON", 0x11a), ("G WITH CIRCUMFLEX", 0x11c),
    ("G WITH BREVE", 0x11e), ("G WITH DOT ABOVE", 0x120), ("G WITH CEDILLA", 0x122),
    ("H WITH CIRCUMFLEX", 0x124), ("H WITH STROKE", 0x126), ("I WITH TILDE", 0x128),
    ("I WITH MACRON", 0x12a), ("I WITH BREVE", 0x12c), ("I WITH OGONEK", 0x12e),
    ("I WITH DOT ABOVE", 0x130), ("J WITH CIRCUMFLEX", 0x134), ("K WITH CEDILLA", 0x136),
    ("L WITH ACUTE", 0x139), ("L WITH CEDILLA", 0x13b), ("L WITH CARON", 0x13d),
    ("L WITH MIDDLE DOT", 0x13f), ("L WITH STROKE", 0x141), ("N WITH ACUTE", 0x143),
    ("N WITH CEDILLA", 0x145), ("N WITH CARON", 0x147), ("ENG", 0x14a), ("O WITH MACRON", 0x14c),
    ("O WITH BREVE", 0x14e), ("O WITH DOUBLE ACUTE", 0x150), ("R WITH ACUTE", 0x154),
    ("R WITH CEDILLA", 0x156), ("R WITH CARON", 0x158), ("S WITH ACUTE", 0x15a),
    ("S WITH CIRCUMFLEX", 0x15c), ("S WITH CEDILLA", 0x15e), ("S WITH CARON", 0x160),
    ("T WITH CEDILLA", 0x162), ("T WITH CARON", 0x164), ("T WITH STROKE", 0x166),
    ("U WITH TILDE", 0x168), ("U WITH MACRON", 0x16a), ("U WITH BREVE", 0x16c),
    ("U WITH RING ABOVE", 0x16e), ("U WITH DOUBLE ACUTE", 0x170), ("U WITH OGONEK", 0x172),
    ("W WITH CIRCUMFLEX", 0x174), ("Y WITH CIRCUMFLEX", 0x176), ("Y WITH DIAERESIS", 0x178),
    ("Z WITH ACUTE", 0x179), ("Z WITH DOT ABOVE", 0x17b), ("Z WITH CARON", 0x17d),
    ("S WITH COMMA BELOW", 0x218), ("T WITH COMMA BELOW", 0x21a), ("W WITH GRAVE", 0x1e80),
    ("W WITH ACUTE", 0x1e82), ("W WITH DIAERESIS", 0x1e84), ("SHARP S", 0x1e9e)]

def greekSmallNames : List NameEntry :=
  [("HETA", 0x371), ("ARCHAIC SAMPI", 0x373), ("PAMPHYLIAN DIGAMMA", 0x377),
    ("IOTA WITH DIALYTIKA AND TONOS", 0x390), ("ALPHA WITH TONOS", 0x3ac),
    ("EPSILON WITH TONOS", 0x3ad), ("ETA WITH TONOS", 0x3ae), ("IOTA WITH TONOS", 0x3af),
    ("UPSILON WITH DIALYTIKA AND TONOS", 0x3b0), ("ALPHA", 0x3b1), ("BETA", 0x3b2),
    ("GAMMA", 0x3b3), ("DELTA", 0x3b4), ("EPSILON", 0x3b5), ("ZETA", 0x3b6), ("ETA", 0x3b7),
    ("THETA", 0x3b8), ("IOTA", 0x3b9), ("KAPPA", 0x3ba), ("LAMDA", 0x3bb), ("MU", 0x3bc),
    ("NU", 0x3bd), ("XI", 0x3be), ("OMICRON", 0x3bf), ("PI", 0x3c0), ("RHO", 0x3c1),
    ("FINAL SIGMA", 0x3c2), ("SIGMA", 0x3c3), ("TAU", 0x3c4), ("UPSILON", 0x3c5), ("PHI", 0x3c6),
    ("CHI", 0x3c7), ("PSI", 0x3c8), ("OMEGA", 0x3c9), ("IOTA WITH DIALYTIKA", 0x3ca),
    ("UPSILON WITH DIALYTIKA", 0x3cb), ("OMICRON WITH TONOS", 0x3cc),
    ("UPSILON WITH TONOS", 0x3cd), ("OMEGA WITH TONOS", 0x3ce), ("ARCHAIC KOPPA", 0x3d9),
    ("STIGMA", 0x3db), ("DIGAMMA", 0x3dd), ("KOPPA", 0x3df), ("SAMPI", 0x3e1), ("SHO", 0x3f8),
    ("SAN", 0x3fb)]

def greekCapitalNames : List NameEntry :=
  [("HETA", 0x370), ("ARCHAIC SAMPI", 0x372), ("PAMPHYLIAN DIGAMMA", 0x376), ("YOT", 0x37f),
    ("ALPHA WITH TONOS", 0x386), ("EPSILON WITH TONOS", 0x388), ("ETA WITH TONOS", 0x389),
    ("IOTA WITH TONOS", 0x38a), ("OMICRON WITH TONOS", 0x38c), ("UPSILON WITH TONOS", 0x38e),
    ("OMEGA WITH TONOS", 0x38f), ("ALPHA", 0x391), ("BETA", 0x392), ("GAMMA", 0x393),
    ("DELTA", 0x394), ("EPSILON", 0x395), ("ZETA", 0x396), ("ETA", 0x397), ("THETA", 0x398),
    ("IOTA", 0x399), ("KAPPA", 0x39a), ("LAMDA", 0x39b), ("MU", 0x39c), ("NU", 0x39d),
    ("XI", 0x39e), ("OMICRON", 0x39f), ("PI", 0x3a0), ("RHO", 0x3a1), ("SIGMA", 0x3a3),
    ("TAU", 0x3a4), ("UPSILON", 0x3a5), ("PHI", 0x3a6), ("CHI", 0x3a7), ("PSI", 0x3a8),
    ("OMEGA", 0x3a9), ("IOTA WITH DIALYTIKA", 0x3aa), ("UPSILON WITH DIALYTIKA", 0x3ab),
    ("SHO", 0x3f7), ("SAN", 0x3fa)]

def cyrillicSmallNames : List NameEntry :=
  [("A", 0x430), ("BE", 0x431), ("VE", 0x432), ("GHE", 0x433), ("DE", 0x434), ("IE", 0x435),
    ("ZHE", 0x436), ("ZE", 0x437), ("I", 0x438), ("SHORT I", 0x439), ("KA", 0x43a), ("EL", 0x43b),
    ("EM", 0x43c), ("EN", 0x43d), ("O", 0x43e), ("PE", 0x43f), ("ER", 0x440), ("ES", 0x441),
    ("TE", 0x442), ("U", 0x443), ("EF", 0x444), ("HA", 0x445), ("TSE", 0x446), ("CHE", 0x447),
    ("SHA", 0x448), ("SHCHA", 0x449), ("HARD SIGN", 0x44a), ("YERU", 0x44b), ("SOFT SIGN", 0x44c),
    ("E", 0x44d), ("YU", 0x44e), ("YA", 0x44f), ("IE WITH GRAVE", 0x450), ("IO", 0x451),
    ("DJE", 0x452), ("GJE", 0x453), ("UKRAINIAN IE", 0x454), ("DZE", 0x455),
    ("BYELORUSSIAN-UKRAINIAN I", 0x456), ("YI", 0x457), ("JE", 0x458), ("LJE", 0x459),
    ("NJE", 0x45a), ("TSHE", 0x45b), ("KJE", 0x45c), ("I WITH GRAVE", 0x45d), ("SHORT U", 0x45e),
    ("DZHE", 0x45f), ("GHE WITH UPTURN", 0x491)]

def cyrillicCapitalNames : List NameEntry :=
  [("IE WITH GRAVE", 0x400), ("IO", 0x401), ("DJE", 0x402), ("GJE", 0x403),
    ("UKRAINIAN IE", 0x404), ("DZE", 0x405), ("BYELORUSSIAN-UKRAINIAN I", 0x406), ("YI", 0x407),
    ("JE", 0x408), ("LJE", 0x409), ("NJE", 0x40a), ("TSHE", 0x40b), ("KJE", 0x40c),
    ("I WITH GRAVE", 0x40d), ("SHORT U", 0x40e), ("DZHE", 0x40f), ("A", 0x410), ("BE", 0x411),
    ("VE", 0x412), ("GHE", 0x413), ("DE", 0x414), ("IE", 0x415), ("ZHE", 0x416), ("ZE", 0x417),
    ("I", 0x418), ("SHORT I", 0x419), ("KA", 0x41a), ("EL", 0x41b), ("EM", 0x41c), ("EN", 0x41d),
    ("O", 0x41e), ("PE", 0x41f), ("ER", 0x420), ("ES", 0x421), ("TE", 0x422), ("U", 0x423),
    ("EF", 0x424), ("HA", 0x425), ("TSE", 0x426), ("CHE", 0x427), ("SHA", 0x428), ("SHCHA", 0x429),
    ("HARD SIGN", 0x42a), ("YERU", 0x42b), ("SOFT SIGN", 0x42c), ("E", 0x42d), ("YU", 0x42e),
    ("YA", 0x42f), ("GHE WITH UPTURN", 0x490)]

def hebrewNames : List NameEntry :=
  [("ALEF", 0x5d0), ("BET", 0x5d1), ("GIMEL", 0x5d2), ("DALET", 0x5d3), ("HE", 0x5d4),
    ("VAV", 0x5d5), ("ZAYIN", 0x5d6), ("HET", 0x5d7), ("TET", 0x5d8), ("YOD", 0x5d9),
    ("FINAL KAF", 0x5da), ("KAF", 0x5db), ("LAMED", 0x5dc), ("FINAL MEM", 0x5dd), ("MEM", 0x5de),
    ("FINAL NUN", 0x5df), ("NUN", 0x5e0), ("SAMEKH", 0x5e1), ("AYIN", 0x5e2), ("FINAL PE", 0x5e3),
    ("PE", 0x5e4), ("FINAL TSADI", 0x5e5), ("TSADI", 0x5e6), ("QOF", 0x5e7), ("RESH", 0x5e8),
    ("SHIN", 0x5e9), ("TAV", 0x5ea)]

def arabicNames : List NameEntry :=
  [("HAMZA", 0x621), ("ALEF WITH MADDA ABOVE", 0x622), ("ALEF WITH HAMZA ABOVE", 0x623),
    ("WAW WITH HAMZA ABOVE", 0x624), ("ALEF WITH HAMZA BELOW", 0x625),
    ("YEH WITH HAMZA ABOVE", 0x626), ("ALEF", 0x627), ("BEH", 0x628), ("TEH MARBUTA", 0x629),
    ("TEH", 0x62a), ("THEH", 0x62b), ("JEEM", 0x62c), ("HAH", 0x62d), ("KHAH", 0x62e),
    ("DAL", 0x62f), ("THAL", 0x630), ("REH", 0x631), ("ZAIN", 0x632), ("SEEN", 0x633),
    ("SHEEN", 0x634), ("SAD", 0x635), ("DAD", 0x636), ("TAH", 0x637), ("ZAH", 0x638),
    ("AIN", 0x639), ("GHAIN", 0x63a), ("KEHEH WITH TWO DOTS ABOVE", 0x63b),
    ("KEHEH WITH THREE DOTS BELOW", 0x63c), ("FARSI YEH WITH INVERTED V", 0x63d),
    ("FARSI YEH WITH TWO DOTS ABOVE", 0x63e), ("FARSI YEH WITH THREE DOTS ABOVE", 0x63f),
    ("FEH", 0x641), ("QAF", 0x642), ("KAF", 0x643), ("LAM", 0x644), ("MEEM", 0x645),
    ("NOON", 0x646), ("HEH", 0x647), ("WAW", 0x648), ("ALEF MAKSURA", 0x649), ("YEH", 0x64a)]

def hiraganaNames : List NameEntry :=
  [("SMALL A", 0x3041), ("A", 0x3042), ("SMALL I", 0x3043), ("I", 0x3044), ("SMALL U", 0x3045),
    ("U", 0x3046), ("SMALL E", 0x3047), ("E", 0x3048), ("SMALL O", 0x3049), ("O", 0x304a),
    ("KA", 0x304b), ("GA", 0x304c), ("KI", 0x304d), ("GI", 0x304e), ("KU", 0x304f), ("GU", 0x3050),
    ("KE", 0x3051), ("GE", 0x3052), ("KO", 0x3053), ("GO", 0x3054), ("SA", 0x3055), ("ZA", 0x3056),
    ("SI", 0x3057), ("ZI", 0x3058), ("SU", 0x3059), ("ZU", 0x305a), ("SE", 0x305b), ("ZE", 0x305c),
    ("SO", 0x305d), ("ZO", 0x305e), ("TA", 0x305f), ("DA", 0x3060), ("TI", 0x3061), ("DI", 0x3062),
    ("SMALL TU", 0x3063), ("TU", 0x3064), ("DU", 0x3065), ("TE", 0x3066), ("DE", 0x3067),
    ("TO", 0x3068), ("DO", 0x3069), ("NA", 0x306a), ("NI", 0x306b), ("NU", 0x306c), ("NE", 0x306d),
    ("NO", 0x306e), ("HA", 0x306f), ("BA", 0x3070), ("PA", 0x3071), ("HI", 0x3072), ("BI", 0x3073),
    ("PI", 0x3074), ("HU", 0x3075), ("BU", 0x3076), ("PU", 0x3077), ("HE", 0x3078), ("BE", 0x3079),
    ("PE", 0x307a), ("HO", 0x307b), ("BO", 0x307c), ("PO", 0x307d), ("MA", 0x307e), ("MI", 0x307f),
    ("MU", 0x3080), ("ME", 0x3081), ("MO", 0x3082), ("SMALL YA", 0x3083), ("YA", 0x3084),
    ("SMALL YU", 0x3085), ("YU", 0x3086), ("SMALL YO", 0x3087), ("YO", 0x3088), ("RA", 0x3089),
    ("RI", 0x308a), ("RU", 0x308b), ("RE", 0x308c), ("RO", 0x308d), ("SMALL WA", 0x308e),
    ("WA", 0x308f), ("WI", 0x3090), ("WE", 0x3091), ("WO", 0x3092), ("N", 0x3093), ("VU", 0x3094),
    ("SMALL KA", 0x3095), ("SMALL KE", 0x3096)]

def katakanaNames : List NameEntry :=
  [("SMALL A", 0x30a1), ("A", 0x30a2), ("SMALL I", 0x30a3), ("I", 0x30a4), ("SMALL U", 0x30a5),
    ("U", 0x30a6), ("SMALL E", 0x30a7), ("E", 0x30a8), ("SMALL O", 0x30a9), ("O", 0x30aa),
    ("KA", 0x30ab), ("GA", 0x30ac), ("KI", 0x30ad), ("GI", 0x30ae), ("KU", 0x30af), ("GU", 0x30b0),
    ("KE", 0x30b1), ("GE", 0x30b2), ("KO", 0x30b3), ("GO", 0x30b4), ("SA", 0x30b5), ("ZA", 0x30b6),
    ("SI", 0x30b7), ("ZI", 0x30b8), ("SU", 0x30b9), ("ZU", 0x30ba), ("SE", 0x30bb), ("ZE", 0x30bc),
    ("SO", 0x30bd), ("ZO", 0x30be), ("TA", 0x30bf), ("DA", 0x30c0), ("TI", 0x30c1), ("DI", 0x30c2),
    ("SMALL TU", 0x30c3), ("TU", 0x30c4), ("DU", 0x30c5), ("TE", 0x30c6), ("DE", 0x30c7),
    ("TO", 0x30c8), ("DO", 0x30c9), ("NA", 0x30ca), ("NI", 0x30cb), ("NU", 0x30cc), ("NE", 0x30cd),
    ("NO", 0x30ce), ("HA", 0x30cf), ("BA", 0x30d0), ("PA", 0x30d1), ("HI", 0x30d2), ("BI", 0x30d3),
    ("PI", 0x30d4), ("HU", 0x30d5), ("BU", 0x30d6), ("PU", 0x30d7), ("HE", 0x30d8), ("BE", 0x30d9),
    ("PE", 0x30da), ("HO", 0x30db), ("BO", 0x30dc), ("PO", 0x30dd), ("MA", 0x30de), ("MI", 0x30df),
    ("MU", 0x30e0), ("ME", 0x30e1), ("MO", 0x30e2), ("SMALL YA", 0x30e3), ("YA", 0x30e4),
    ("SMALL YU", 0x30e5), ("YU", 0x30e6), ("SMALL YO", 0x30e7), ("YO", 0x30e8), ("RA", 0x30e9),
    ("RI", 0x30ea), ("RU", 0x30eb), ("RE", 0x30ec), ("RO", 0x30ed), ("SMALL WA", 0x30ee),
    ("WA", 0x30ef), ("WI", 0x30f0), ("WE", 0x30f1), ("WO", 0x30f2), ("N", 0x30f3), ("VU", 0x30f4),
    ("SMALL KA", 0x30f5), ("SMALL KE", 0x30f6), ("VA", 0x30f7), ("VI", 0x30f8), ("VE", 0x30f9),
    ("VO", 0x30fa)]

def boxNames : List NameEntry :=
  [("LIGHT HORIZONTAL", 0x2500), ("HEAVY HORIZONTAL", 0x2501), ("LIGHT VERTICAL", 0x2502),
    ("HEAVY VERTICAL", 0x2503), ("LIGHT TRIPLE DASH HORIZONTAL", 0x2504),
    ("HEAVY TRIPLE DASH HORIZONTAL", 0x2505), ("LIGHT TRIPLE DASH VERTICAL", 0x2506),
    ("HEAVY TRIPLE DASH VERTICAL", 0x2507), ("LIGHT QUADRUPLE DASH HORIZONTAL", 0x2508),
    ("HEAVY QUADRUPLE DASH HORIZONTAL", 0x2509), ("LIGHT QUADRUPLE DASH VERTICAL", 0x250a),
    ("HEAVY QUADRUPLE DASH VERTICAL", 0x250b), ("LIGHT DOWN AND RIGHT", 0x250c),
    ("DOWN LIGHT AND RIGHT HEAVY", 0x250d), ("DOWN HEAVY AND RIGHT LIGHT", 0x250e),
    ("HEAVY DOWN AND RIGHT", 0x250f), ("LIGHT DOWN AND LEFT", 0x2510),
    ("DOWN LIGHT AND LEFT HEAVY", 0x2511), ("DOWN HEAVY AND LEFT LIGHT", 0x2512),
    ("HEAVY DOWN AND LEFT", 0x2513), ("LIGHT UP AND RIGHT", 0x2514),
    ("UP LIGHT AND RIGHT HEAVY", 0x2515), ("UP HEAVY AND RIGHT LIGHT", 0x2516),
    ("HEAVY UP AND RIGHT", 0x2517), ("LIGHT UP AND LEFT", 0x2518),
    ("UP LIGHT AND LEFT HEAVY", 0x2519), ("UP HEAVY AND LEFT LIGHT", 0x251a),
    ("HEAVY UP AND LEFT", 0x251b), ("LIGHT VERTICAL AND RIGHT", 0x251c),
    ("VERTICAL LIGHT AND RIGHT HEAVY", 0x251d), ("UP HEAVY AND RIGHT DOWN LIGHT", 0x251e),
    ("DOWN HEAVY AND RIGHT UP LIGHT", 0x251f), ("VERTICAL HEAVY AND RIGHT LIGHT", 0x2520),
    ("DOWN LIGHT AND RIGHT UP HEAVY", 0x2521), ("UP LIGHT AND RIGHT DOWN HEAVY", 0x2522),
    ("HEAVY VERTICAL AND RIGHT", 0x2523), ("LIGHT VERTICAL AND LEFT", 0x2524),
    ("VERTICAL LIGHT AND LEFT HEAVY", 0x2525), ("UP HEAVY AND LEFT DOWN LIGHT", 0x2526),
    ("DOWN HEAVY AND LEFT UP LIGHT", 0x2527), ("VERTICAL HEAVY AND LEFT LIGHT", 0x2528),
    ("DOWN LIGHT AND LEFT UP HEAVY", 0x2529), ("UP LIGHT AND LEFT DOWN HEAVY", 0x252a),
    ("HEAVY VERTICAL AND LEFT", 0x252b), ("LIGHT DOWN AND HORIZONTAL", 0x252c),
    ("LEFT HEAVY AND RIGHT DOWN LIGHT", 0x252d), ("RIGHT HEAVY AND LEFT DOWN LIGHT", 0x252e),
    ("DOWN LIGHT AND HORIZONTAL HEAVY", 0x252f), ("DOWN HEAVY AND HORIZONTAL LIGHT", 0x2530),
    ("RIGHT LIGHT AND LEFT DOWN HEAVY", 0x2531), ("LEFT LIGHT AND RIGHT DOWN HEAVY", 0x2532),
    ("HEAVY DOWN AND HORIZONTAL", 0x2533), ("LIGHT UP AND HORIZONTAL", 0x2534),
    ("LEFT HEAVY AND RIGHT UP LIGHT", 0x2535), ("RIGHT HEAVY AND LEFT UP LIGHT", 0x2536),
    ("UP LIGHT AND HORIZONTAL HEAVY", 0x2537), ("UP HEAVY AND HORIZONTAL LIGHT", 0x2538),
    ("RIGHT LIGHT AND LEFT UP HEAVY", 0x2539), ("LEFT LIGHT AND RIGHT UP HEAVY", 0x253a),
    ("HEAVY UP AND HORIZONTAL", 0x253b), ("LIGHT VERTICAL AND HORIZONTAL", 0x253c),
    ("LEFT HEAVY AND RIGHT VERTICAL LIGHT", 0x253d),
    ("RIGHT HEAVY AND LEFT VERTICAL LIGHT", 0x253e),
    ("VERTICAL LIGHT AND HORIZONTAL HEAVY", 0x253f),
    ("UP HEAVY AND DOWN HORIZONTAL LIGHT", 0x2540), ("DOWN HEAVY AND UP HORIZONTAL LIGHT", 0x2541),
    ("VERTICAL HEAVY AND HORIZONTAL LIGHT", 0x2542),
    ("LEFT UP HEAVY AND RIGHT DOWN LIGHT", 0x2543), ("RIGHT UP HEAVY AND LEFT DOWN LIGHT", 0x2544),
    ("LEFT DOWN HEAVY AND RIGHT UP LIGHT", 0x2545), ("RIGHT DOWN HEAVY AND LEFT UP LIGHT", 0x2546),
    ("DOWN LIGHT AND UP HORIZONTAL HEAVY", 0x2547), ("UP LIGHT AND DOWN HORIZONTAL HEAVY", 0x2548),
    ("RIGHT LIGHT AND LEFT VERTICAL HEAVY", 0x2549),
    ("LEFT LIGHT AND RIGHT VERTICAL HEAVY", 0x254a), ("HEAVY VERTICAL AND HORIZONTAL", 0x254b),
    ("LIGHT DOUBLE DASH HORIZONTAL", 0x254c), ("HEAVY DOUBLE DASH HORIZONTAL", 0x254d),
    ("LIGHT DOUBLE DASH VERTICAL", 0x254e), ("HEAVY DOUBLE DASH VERTICAL", 0x254f),
    ("DOUBLE HORIZONTAL", 0x2550), ("DOUBLE VERTICAL", 0x2551),
    ("DOWN SINGLE AND RIGHT DOUBLE", 0x2552), ("DOWN DOUBLE AND RIGHT SINGLE", 0x2553),
    ("DOUBLE DOWN AND RIGHT", 0x2554), ("DOWN SINGLE AND LEFT DOUBLE", 0x2555),
    ("DOWN DOUBLE AND LEFT SINGLE", 0x2556), ("DOUBLE DOWN AND LEFT", 0x2557),
    ("UP SINGLE AND RIGHT DOUBLE", 0x2558), ("UP DOUBLE AND RIGHT SINGLE", 0x2559),
    ("DOUBLE UP AND RIGHT", 0x255a), ("UP SINGLE AND LEFT DOUBLE", 0x255b),
    ("UP DOUBLE AND LEFT SINGLE", 0x255c), ("DOUBLE UP AND LEFT", 0x255d),
    ("VERTICAL SINGLE AND RIGHT DOUBLE", 0x255e), ("VERTICAL DOUBLE AND RIGHT SINGLE", 0x255f),
    ("DOUBLE VERTICAL AND RIGHT", 0x2560), ("VERTICAL SINGLE AND LEFT DOUBLE", 0x2561),
    ("VERTICAL DOUBLE AND LEFT SINGLE", 0x2562), ("DOUBLE VERTICAL AND LEFT", 0x2563),
    ("DOWN SINGLE AND HORIZONTAL DOUBLE", 0x2564), ("DOWN DOUBLE AND HORIZONTAL SINGLE", 0x2565),
    ("DOUBLE DOWN AND HORIZONTAL", 0x2566), ("UP SINGLE AND HORIZONTAL DOUBLE", 0x2567),
    ("UP DOUBLE AND HORIZONTAL SINGLE", 0x2568), ("DOUBLE UP AND HORIZONTAL", 0x2569),
    ("VERTICAL SINGLE AND HORIZONTAL DOUBLE", 0x256a),
    ("VERTICAL DOUBLE AND HORIZONTAL SINGLE", 0x256b), ("DOUBLE VERTICAL AND HORIZONTAL", 0x256c),
    ("LIGHT ARC DOWN AND RIGHT", 0x256d), ("LIGHT ARC DOWN AND LEFT", 0x256e),
    ("LIGHT ARC UP AND LEFT", 0x256f), ("LIGHT ARC UP AND RIGHT", 0x2570),
    ("LIGHT DIAGONAL UPPER RIGHT TO LOWER LEFT", 0x2571),
    ("LIGHT DIAGONAL UPPER LEFT TO LOWER RIGHT", 0x2572), ("LIGHT DIAGONAL CROSS", 0x2573),
    ("LIGHT LEFT", 0x2574), ("LIGHT UP", 0x2575), ("LIGHT RIGHT", 0x2576), ("LIGHT DOWN", 0x2577),
    ("HEAVY LEFT", 0x2578), ("HEAVY UP", 0x2579), ("HEAVY RIGHT", 0x257a), ("HEAVY DOWN", 0x257b),
    ("LIGHT LEFT AND HEAVY RIGHT", 0x257c), ("LIGHT UP AND HEAVY DOWN", 0x257d),
    ("HEAVY LEFT AND LIGHT RIGHT", 0x257e), ("HEAVY UP AND LIGHT DOWN", 0x257f)]

def otherNames : List NameEntry :=
  [("SPACE", 0x20), ("EXCLAMATION MARK", 0x21), ("QUOTATION MARK", 0x22), ("NUMBER SIGN", 0x23),
    ("DOLLAR SIGN", 0x24), ("PERCENT SIGN", 0x25), ("AMPERSAND", 0x26), ("APOSTROPHE", 0x27),
    ("LEFT PARENTHESIS", 0x28), ("RIGHT PARENTHESIS", 0x29), ("ASTERISK", 0x2a),
    ("PLUS SIGN", 0x2b), ("COMMA", 0x2c), ("HYPHEN-MINUS", 0x2d), ("FULL STOP", 0x2e),
    ("SOLIDUS", 0x2f), ("DIGIT ZERO", 0x30), ("DIGIT ONE", 0x31), ("DIGIT TWO", 0x32),
    ("DIGIT THREE", 0x33), ("DIGIT FOUR", 0x34), ("DIGIT FIVE", 0x35), ("DIGIT SIX", 0x36),
    ("DIGIT SEVEN", 0x37), ("DIGIT EIGHT", 0x38), ("DIGIT NINE", 0x39), ("COLON", 0x3a),
    ("SEMICOLON", 0x3b), ("LESS-THAN SIGN", 0x3c), ("EQUALS SIGN", 0x3d),
    ("GREATER-THAN SIGN", 0x3e), ("QUESTION MARK", 0x3f), ("COMMERCIAL AT", 0x40),
    ("LEFT SQUARE BRACKET", 0x5b), ("REVERSE SOLIDUS", 0x5c), ("RIGHT SQUARE BRACKET", 0x5d),
    ("CIRCUMFLEX ACCENT", 0x5e), ("LOW LINE", 0x5f), ("GRAVE ACCENT", 0x60),
    ("LEFT CURLY BRACKET", 0x7b), ("VERTICAL LINE", 0x7c), ("RIGHT CURLY BRACKET", 0x7d),
    ("TILDE", 0x7e), ("NO-BREAK SPACE", 0xa0), ("INVERTED EXCLAMATION MARK", 0xa1),
    ("CENT SIGN", 0xa2), ("POUND SIGN", 0xa3), ("CURRENCY SIGN", 0xa4), ("YEN SIGN", 0xa5),
    ("BROKEN BAR", 0xa6), ("SECTION SIGN", 0xa7), ("DIAERESIS", 0xa8), ("COPYRIGHT SIGN", 0xa9),
    ("FEMININE ORDINAL INDICATOR", 0xaa), ("LEFT-POINTING DOUBLE ANGLE QUOTATION MARK", 0xab),
    ("NOT SIGN", 0xac), ("SOFT HYPHEN", 0xad), ("REGISTERED SIGN", 0xae), ("MACRON", 0xaf),
    ("DEGREE SIGN", 0xb0), ("PLUS-MINUS SIGN", 0xb1), ("SUPERSCRIPT TWO", 0xb2),
    ("SUPERSCRIPT THREE", 0xb3), ("ACUTE ACCENT", 0xb4), ("MICRO SIGN", 0xb5),
    ("PILCROW SIGN", 0xb6), ("MIDDLE DOT", 0xb7), ("CEDILLA", 0xb8), ("SUPERSCRIPT ONE", 0xb9),
    ("MASCULINE ORDINAL INDICATOR", 0xba), ("RIGHT-POINTING DOUBLE ANGLE QUOTATION MARK", 0xbb),
    ("VULGAR FRACTION ONE QUARTER", 0xbc), ("VULGAR FRACTION ONE HALF", 0xbd),
    ("VULGAR FRACTION THREE QUARTERS", 0xbe), ("INVERTED QUESTION MARK", 0xbf),
    ("MULTIPLICATION SIGN", 0xd7), ("DIVISION SIGN", 0xf7), ("LATIN CAPITAL LIGATURE IJ", 0x132),
    ("LATIN SMALL LIGATURE IJ", 0x133), ("LATIN CAPITAL LIGATURE OE", 0x152),
    ("LATIN SMALL LIGATURE OE", 0x153), ("MODIFIER LETTER CIRCUMFLEX ACCENT", 0x2c6),
    ("CARON", 0x2c7), ("MODIFIER LETTER VERTICAL LINE", 0x2c8), ("MODIFIER LETTER MACRON", 0x2c9),
    ("MODIFIER LETTER ACUTE ACCENT", 0x2ca), ("MODIFIER LETTER GRAVE ACCENT", 0x2cb),
    ("MODIFIER LETTER LOW VERTICAL LINE", 0x2cc), ("MODIFIER LETTER LOW MACRON", 0x2cd),
    ("MODIFIER LETTER LOW GRAVE ACCENT", 0x2ce), ("MODIFIER LETTER LOW ACUTE ACCENT", 0x2cf),
    ("MODIFIER LETTER TRIANGULAR COLON", 0x2d0), ("MODIFIER LETTER HALF TRIANGULAR COLON", 0x2d1),
    ("MODIFIER LETTER CENTRED RIGHT HALF RING", 0x2d2),
    ("MODIFIER LETTER CENTRED LEFT HALF RING", 0x2d3), ("MODIFIER LETTER UP TACK", 0x2d4),
    ("MODIFIER LETTER DOWN TACK", 0x2d5), ("MODIFIER LETTER PLUS SIGN", 0x2d6),
    ("MODIFIER LETTER MINUS SIGN", 0x2d7), ("BREVE", 0x2d8), ("DOT ABOVE", 0x2d9),
    ("RING ABOVE", 0x2da), ("OGONEK", 0x2db), ("SMALL TILDE", 0x2dc),
    ("DOUBLE ACUTE ACCENT", 0x2dd), ("COMBINING GRAVE ACCENT", 0x300),
    ("COMBINING ACUTE ACCENT", 0x301), ("COMBINING CIRCUMFLEX ACCENT", 0x302),
    ("COMBINING TILDE", 0x303), ("COMBINING MACRON", 0x304), ("COMBINING OVERLINE", 0x305),
    ("COMBINING BREVE", 0x306), ("COMBINING DOT ABOVE", 0x307), ("COMBINING DIAERESIS", 0x308),
    ("COMBINING HOOK ABOVE", 0x309), ("COMBINING RING ABOVE", 0x30a),
    ("COMBINING DOUBLE ACUTE ACCENT", 0x30b), ("COMBINING CARON", 0x30c),
    ("GREEK NUMERAL SIGN", 0x374), ("GREEK LOWER NUMERAL SIGN", 0x375),
    ("GREEK YPOGEGRAMMENI", 0x37a), ("GREEK SMALL REVERSED LUNATE SIGMA SYMBOL", 0x37b),
    ("GREEK SMALL DOTTED LUNATE SIGMA SYMBOL", 0x37c),
    ("GREEK SMALL REVERSED DOTTED LUNATE SIGMA SYMBOL", 0x37d), ("GREEK QUESTION MARK", 0x37e),
    ("GREEK TONOS", 0x384), ("GREEK DIALYTIKA TONOS", 0x385), ("GREEK ANO TELEIA", 0x387),
    ("GREEK CAPITAL KAI SYMBOL", 0x3cf), ("GREEK BETA SYMBOL", 0x3d0),
    ("GREEK THETA SYMBOL", 0x3d1), ("GREEK UPSILON WITH HOOK SYMBOL", 0x3d2),
    ("GREEK UPSILON WITH ACUTE AND HOOK SYMBOL", 0x3d3),
    ("GREEK UPSILON WITH DIAERESIS AND HOOK SYMBOL", 0x3d4), ("GREEK PHI SYMBOL", 0x3d5),
    ("GREEK PI SYMBOL", 0x3d6), ("GREEK KAI SYMBOL", 0x3d7), ("GREEK LETTER ARCHAIC KOPPA", 0x3d8),
    ("GREEK LETTER STIGMA", 0x3da), ("GREEK LETTER DIGAMMA", 0x3dc), ("GREEK LETTER KOPPA", 0x3de),
    ("GREEK LETTER SAMPI", 0x3e0), ("COPTIC CAPITAL LETTER SHEI", 0x3e2),
    ("COPTIC SMALL LETTER SHEI", 0x3e3), ("COPTIC CAPITAL LETTER FEI", 0x3e4),
    ("COPTIC SMALL LETTER FEI", 0x3e5), ("COPTIC CAPITAL LETTER KHEI", 0x3e6),
    ("COPTIC SMALL LETTER KHEI", 0x3e7), ("COPTIC CAPITAL LETTER HORI", 0x3e8),
    ("COPTIC SMALL LETTER HORI", 0x3e9), ("COPTIC CAPITAL LETTER GANGIA", 0x3ea),
    ("COPTIC SMALL LETTER GANGIA", 0x3eb), ("COPTIC CAPITAL LETTER SHIMA", 0x3ec),
    ("COPTIC SMALL LETTER SHIMA", 0x3ed), ("COPTIC CAPITAL LETTER DEI", 0x3ee),
    ("COPTIC SMALL LETTER DEI", 0x3ef), ("GREEK KAPPA SYMBOL", 0x3f0), ("GREEK RHO SYMBOL", 0x3f1),
    ("GREEK LUNATE SIGMA SYMBOL", 0x3f2), ("GREEK LETTER YOT", 0x3f3),
    ("GREEK CAPITAL THETA SYMBOL", 0x3f4), ("GREEK LUNATE EPSILON SYMBOL", 0x3f5),
    ("GREEK REVERSED LUNATE EPSILON SYMBOL", 0x3f6), ("GREEK CAPITAL LUNATE SIGMA SYMBOL", 0x3f9),
    ("GREEK RHO WITH STROKE SYMBOL", 0x3fc), ("GREEK CAPITAL REVERSED LUNATE SIGMA SYMBOL", 0x3fd),
    ("GREEK CAPITAL DOTTED LUNATE SIGMA SYMBOL", 0x3fe),
    ("GREEK CAPITAL REVERSED DOTTED LUNATE SIGMA SYMBOL", 0x3ff), ("ARABIC TATWEEL", 0x640),
    ("EN QUAD", 0x2000), ("EM QUAD", 0x2001), ("EN SPACE", 0x2002), ("EM SPACE", 0x2003),
    ("THREE-PER-EM SPACE", 0x2004), ("FOUR-PER-EM SPACE", 0x2005), ("SIX-PER-EM SPACE", 0x2006),
    ("FIGURE SPACE", 0x2007), ("PUNCTUATION SPACE", 0x2008), ("THIN SPACE", 0x2009),
    ("HAIR SPACE", 0x200a), ("ZERO WIDTH SPACE", 0x200b), ("ZERO WIDTH NON-JOINER", 0x200c),
    ("ZERO WIDTH JOINER", 0x200d), ("LEFT-TO-RIGHT MARK", 0x200e), ("RIGHT-TO-LEFT MARK", 0x200f),
    ("HYPHEN", 0x2010), ("NON-BREAKING HYPHEN", 0x2011), ("FIGURE DASH", 0x2012),
    ("EN DASH", 0x2013), ("EM DASH", 0x2014), ("HORIZONTAL BAR", 0x2015),
    ("DOUBLE VERTICAL LINE", 0x2016), ("DOUBLE LOW LINE", 0x2017),
    ("LEFT SINGLE QUOTATION MARK", 0x2018), ("RIGHT SINGLE QUOTATION MARK", 0x2019),
    ("SINGLE LOW-9 QUOTATION MARK", 0x201a), ("SINGLE HIGH-REVERSED-9 QUOTATION MARK", 0x201b),
    ("LEFT DOUBLE QUOTATION MARK", 0x201c), ("RIGHT DOUBLE QUOTATION MARK", 0x201d),
    ("DOUBLE LOW-9 QUOTATION MARK", 0x201e), ("DOUBLE HIGH-REVERSED-9 QUOTATION MARK", 0x201f),
    ("DAGGER", 0x2020), ("DOUBLE DAGGER", 0x2021), ("BULLET", 0x2022),
    ("TRIANGULAR BULLET", 0x2023), ("ONE DOT LEADER", 0x2024), ("TWO DOT LEADER", 0x2025),
    ("HORIZONTAL ELLIPSIS", 0x2026), ("HYPHENATION POINT", 0x2027), ("LINE SEPARATOR", 0x2028),
    ("PARAGRAPH SEPARATOR", 0x2029), ("LEFT-TO-RIGHT EMBEDDING", 0x202a),
    ("RIGHT-TO-LEFT EMBEDDING", 0x202b), ("POP DIRECTIONAL FORMATTING", 0x202c),
    ("LEFT-TO-RIGHT OVERRIDE", 0x202d), ("RIGHT-TO-LEFT OVERRIDE", 0x202e),
    ("NARROW NO-BREAK SPACE", 0x202f), ("PER MILLE SIGN", 0x2030),
    ("PER TEN THOUSAND SIGN", 0x2031), ("PRIME", 0x2032), ("DOUBLE PRIME", 0x2033),
    ("TRIPLE PRIME", 0x2034), ("REVERSED PRIME", 0x2035), ("REVERSED DOUBLE PRIME", 0x2036),
    ("REVERSED TRIPLE PRIME", 0x2037), ("CARET", 0x2038),
    ("SINGLE LEFT-POINTING ANGLE QUOTATION MARK", 0x2039),
    ("SINGLE RIGHT-POINTING ANGLE QUOTATION MARK", 0x203a), ("REFERENCE MARK", 0x203b),
    ("DOUBLE EXCLAMATION MARK", 0x203c), ("INTERROBANG", 0x203d), ("OVERLINE", 0x203e),
    ("UNDERTIE", 0x203f), ("CHARACTER TIE", 0x2040), ("CARET INSERTION POINT", 0x2041),
    ("ASTERISM", 0x2042), ("HYPHEN BULLET", 0x2043), ("FRACTION SLASH", 0x2044),
    ("LEFT SQUARE BRACKET WITH QUILL", 0x2045), ("RIGHT SQUARE BRACKET WITH QUILL", 0x2046),
    ("DOUBLE QUESTION MARK", 0x2047), ("QUESTION EXCLAMATION MARK", 0x2048),
    ("EXCLAMATION QUESTION MARK", 0x2049), ("TIRONIAN SIGN ET", 0x204a),
    ("REVERSED PILCROW SIGN", 0x204b), ("BLACK LEFTWARDS BULLET", 0x204c),
    ("BLACK RIGHTWARDS BULLET", 0x204d), ("LOW ASTERISK", 0x204e), ("REVERSED SEMICOLON", 0x204f),
    ("CLOSE UP", 0x2050), ("TWO ASTERISKS ALIGNED VERTICALLY", 0x2051),
    ("COMMERCIAL MINUS SIGN", 0x2052), ("SWUNG DASH", 0x2053), ("INVERTED UNDERTIE", 0x2054),
    ("FLOWER PUNCTUATION MARK", 0x2055), ("THREE DOT PUNCTUATION", 0x2056),
    ("QUADRUPLE PRIME", 0x2057), ("FOUR DOT PUNCTUATION", 0x2058),
    ("FIVE DOT PUNCTUATION", 0x2059), ("TWO DOT PUNCTUATION", 0x205a), ("FOUR DOT MARK", 0x205b),
    ("DOTTED CROSS", 0x205c), ("TRICOLON", 0x205d), ("VERTICAL FOUR DOTS", 0x205e),
    ("MEDIUM MATHEMATICAL SPACE", 0x205f), ("EURO-CURRENCY SIGN", 0x20a0), ("COLON SIGN", 0x20a1),
    ("CRUZEIRO SIGN", 0x20a2), ("FRENCH FRANC SIGN", 0x20a3), ("LIRA SIGN", 0x20a4),
    ("MILL SIGN", 0x20a5), ("NAIRA SIGN", 0x20a6), ("PESETA SIGN", 0x20a7), ("RUPEE SIGN", 0x20a8),
    ("WON SIGN", 0x20a9), ("NEW SHEQEL SIGN", 0x20aa), ("DONG SIGN", 0x20ab),
    ("EURO SIGN", 0x20ac), ("KIP SIGN", 0x20ad), ("TUGRIK SIGN", 0x20ae), ("DRACHMA SIGN", 0x20af),
    ("GERMAN PENNY SIGN", 0x20b0), ("PESO SIGN", 0x20b1), ("GUARANI SIGN", 0x20b2),
    ("AUSTRAL SIGN", 0x20b3), ("HRYVNIA SIGN", 0x20b4), ("CEDI SIGN", 0x20b5),
    ("LIVRE TOURNOIS SIGN", 0x20b6), ("SPESMILO SIGN", 0x20b7), ("TENGE SIGN", 0x20b8),
    ("INDIAN RUPEE SIGN", 0x20b9), ("TURKISH LIRA SIGN", 0x20ba), ("NORDIC MARK SIGN", 0x20bb),
    ("MANAT SIGN", 0x20bc), ("RUBLE SIGN", 0x20bd), ("LARI SIGN", 0x20be),
    ("BITCOIN SIGN", 0x20bf), ("SOM SIGN", 0x20c0), ("ACCOUNT OF", 0x2100),
    ("ADDRESSED TO THE SUBJECT", 0x2101), ("DOUBLE-STRUCK CAPITAL C", 0x2102),
    ("DEGREE CELSIUS", 0x2103), ("CENTRE LINE SYMBOL", 0x2104), ("CARE OF", 0x2105),
    ("CADA UNA", 0x2106), ("EULER CONSTANT", 0x2107), ("SCRUPLE", 0x2108),
    ("DEGREE FAHRENHEIT", 0x2109), ("SCRIPT SMALL G", 0x210a), ("SCRIPT CAPITAL H", 0x210b),
    ("BLACK-LETTER CAPITAL H", 0x210c), ("DOUBLE-STRUCK CAPITAL H", 0x210d),
    ("PLANCK CONSTANT", 0x210e), ("PLANCK CONSTANT OVER TWO PI", 0x210f),
    ("SCRIPT CAPITAL I", 0x2110), ("BLACK-LETTER CAPITAL I", 0x2111), ("SCRIPT CAPITAL L", 0x2112),
    ("SCRIPT SMALL L", 0x2113), ("L B BAR SYMBOL", 0x2114), ("DOUBLE-STRUCK CAPITAL N", 0x2115),
    ("NUMERO SIGN", 0x2116), ("SOUND RECORDING COPYRIGHT", 0x2117), ("SCRIPT CAPITAL P", 0x2118),
    ("DOUBLE-STRUCK CAPITAL P", 0x2119), ("DOUBLE-STRUCK CAPITAL Q", 0x211a),
    ("SCRIPT CAPITAL R", 0x211b), ("BLACK-LETTER CAPITAL R", 0x211c),
    ("DOUBLE-STRUCK CAPITAL R", 0x211d), ("PRESCRIPTION TAKE", 0x211e), ("RESPONSE", 0x211f),
    ("SERVICE MARK", 0x2120), ("TELEPHONE SIGN", 0x2121), ("TRADE MARK SIGN", 0x2122),
    ("VERSICLE", 0x2123), ("DOUBLE-STRUCK CAPITAL Z", 0x2124), ("OUNCE SIGN", 0x2125),
    ("OHM SIGN", 0x2126), ("INVERTED OHM SIGN", 0x2127), ("BLACK-LETTER CAPITAL Z", 0x2128),
    ("TURNED GREEK SMALL LETTER IOTA", 0x2129), ("KELVIN SIGN", 0x212a), ("ANGSTROM SIGN", 0x212b),
    ("SCRIPT CAPITAL B", 0x212c), ("BLACK-LETTER CAPITAL C", 0x212d), ("ESTIMATED SYMBOL", 0x212e),
    ("SCRIPT SMALL E", 0x212f), ("SCRIPT CAPITAL E", 0x2130), ("SCRIPT CAPITAL F", 0x2131),
    ("TURNED CAPITAL F", 0x2132), ("SCRIPT CAPITAL M", 0x2133), ("SCRIPT SMALL O", 0x2134),
    ("ALEF SYMBOL", 0x2135), ("BET SYMBOL", 0x2136), ("GIMEL SYMBOL", 0x2137),
    ("DALET SYMBOL", 0x2138), ("INFORMATION SOURCE", 0x2139), ("ROTATED CAPITAL Q", 0x213a),
    ("FACSIMILE SIGN", 0x213b), ("DOUBLE-STRUCK SMALL PI", 0x213c),
    ("DOUBLE-STRUCK SMALL GAMMA", 0x213d), ("DOUBLE-STRUCK CAPITAL GAMMA", 0x213e),
    ("DOUBLE-STRUCK CAPITAL PI", 0x213f), ("DOUBLE-STRUCK N-ARY SUMMATION", 0x2140),
    ("TURNED SANS-SERIF CAPITAL G", 0x2141), ("TURNED SANS-SERIF CAPITAL L", 0x2142),
    ("REVERSED SANS-SERIF CAPITAL L", 0x2143), ("TURNED SANS-SERIF CAPITAL Y", 0x2144),
    ("DOUBLE-STRUCK ITALIC CAPITAL D", 0x2145), ("DOUBLE-STRUCK ITALIC SMALL D", 0x2146),
    ("DOUBLE-STRUCK ITALIC SMALL E", 0x2147), ("DOUBLE-STRUCK ITALIC SMALL I", 0x2148),
    ("DOUBLE-STRUCK ITALIC SMALL J", 0x2149), ("PROPERTY LINE", 0x214a),
    ("TURNED AMPERSAND", 0x214b), ("PER SIGN", 0x214c), ("AKTIESELSKAB", 0x214d),
    ("TURNED SMALL F", 0x214e), ("SYMBOL FOR SAMARITAN SOURCE", 0x214f),
    ("VULGAR FRACTION ONE SEVENTH", 0x2150), ("VULGAR FRACTION ONE NINTH", 0x2151),
    ("VULGAR FRACTION ONE TENTH", 0x2152), ("VULGAR FRACTION ONE THIRD", 0x2153),
    ("VULGAR FRACTION TWO THIRDS", 0x2154), ("VULGAR FRACTION ONE FIFTH", 0x2155),
    ("VULGAR FRACTION TWO FIFTHS", 0x2156), ("VULGAR FRACTION THREE FIFTHS", 0x2157),
    ("VULGAR FRACTION FOUR FIFTHS", 0x2158), ("VULGAR FRACTION ONE SIXTH", 0x2159),
    ("VULGAR FRACTION FIVE SIXTHS", 0x215a), ("VULGAR FRACTION ONE EIGHTH", 0x215b),
    ("VULGAR FRACTION THREE EIGHTHS", 0x215c), ("VULGAR FRACTION FIVE EIGHTHS", 0x215d),
    ("VULGAR FRACTION SEVEN EIGHTHS", 0x215e), ("FRACTION NUMERATOR ONE", 0x215f),
    ("ROMAN NUMERAL ONE", 0x2160), ("ROMAN NUMERAL TWO", 0x2161), ("ROMAN NUMERAL THREE", 0x2162),
    ("ROMAN NUMERAL FOUR", 0x2163), ("ROMAN NUMERAL FIVE", 0x2164), ("ROMAN NUMERAL SIX", 0x2165),
    ("ROMAN NUMERAL SEVEN", 0x2166), ("ROMAN NUMERAL EIGHT", 0x2167),
    ("ROMAN NUMERAL NINE", 0x2168), ("ROMAN NUMERAL TEN", 0x2169),
    ("ROMAN NUMERAL ELEVEN", 0x216a), ("ROMAN NUMERAL TWELVE", 0x216b),
    ("ROMAN NUMERAL FIFTY", 0x216c), ("ROMAN NUMERAL ONE HUNDRED", 0x216d),
    ("ROMAN NUMERAL FIVE HUNDRED", 0x216e), ("ROMAN NUMERAL ONE THOUSAND", 0x216f),
    ("SMALL ROMAN NUMERAL ONE", 0x2170), ("SMALL ROMAN NUMERAL TWO", 0x2171),
    ("SMALL ROMAN NUMERAL THREE", 0x2172), ("SMALL ROMAN NUMERAL FOUR", 0x2173),
    ("SMALL ROMAN NUMERAL FIVE", 0x2174), ("SMALL ROMAN NUMERAL SIX", 0x2175),
    ("SMALL ROMAN NUMERAL SEVEN", 0x2176), ("SMALL ROMAN NUMERAL EIGHT", 0x2177),
    ("SMALL ROMAN NUMERAL NINE", 0x2178), ("SMALL ROMAN NUMERAL TEN", 0x2179),
    ("SMALL ROMAN NUMERAL ELEVEN", 0x217a), ("SMALL ROMAN NUMERAL TWELVE", 0x217b),
    ("SMALL ROMAN NUMERAL FIFTY", 0x217c), ("SMALL ROMAN NUMERAL ONE HUNDRED", 0x217d),
    ("SMALL ROMAN NUMERAL FIVE HUNDRED", 0x217e), ("SMALL ROMAN NUMERAL ONE THOUSAND", 0x217f),
    ("LEFTWARDS ARROW", 0x2190), ("UPWARDS ARROW", 0x2191), ("RIGHTWARDS ARROW", 0x2192),
    ("DOWNWARDS ARROW", 0x2193), ("LEFT RIGHT ARROW", 0x2194), ("UP DOWN ARROW", 0x2195),
    ("NORTH WEST ARROW", 0x2196), ("NORTH EAST ARROW", 0x2197), ("SOUTH EAST ARROW", 0x2198),
    ("SOUTH WEST ARROW", 0x2199), ("LEFTWARDS ARROW WITH STROKE", 0x219a),
    ("RIGHTWARDS ARROW WITH STROKE", 0x219b), ("LEFTWARDS WAVE ARROW", 0x219c),
    ("RIGHTWARDS WAVE ARROW", 0x219d), ("LEFTWARDS TWO HEADED ARROW", 0x219e),
    ("UPWARDS TWO HEADED ARROW", 0x219f), ("RIGHTWARDS TWO HEADED ARROW", 0x21a0),
    ("DOWNWARDS TWO HEADED ARROW", 0x21a1), ("LEFTWARDS ARROW WITH TAIL", 0x21a2),
    ("RIGHTWARDS ARROW WITH TAIL", 0x21a3), ("LEFTWARDS ARROW FROM BAR", 0x21a4),
    ("UPWARDS ARROW FROM BAR", 0x21a5), ("RIGHTWARDS ARROW FROM BAR", 0x21a6),
    ("DOWNWARDS ARROW FROM BAR", 0x21a7), ("UP DOWN ARROW WITH BASE", 0x21a8),
    ("LEFTWARDS ARROW WITH HOOK", 0x21a9), ("RIGHTWARDS ARROW WITH HOOK", 0x21aa),
    ("LEFTWARDS ARROW WITH LOOP", 0x21ab), ("RIGHTWARDS ARROW WITH LOOP", 0x21ac),
    ("LEFT RIGHT WAVE ARROW", 0x21ad), ("LEFT RIGHT ARROW WITH STROKE", 0x21ae),
    ("DOWNWARDS ZIGZAG ARROW", 0x21af), ("UPWARDS ARROW WITH TIP LEFTWARDS", 0x21b0),
    ("UPWARDS ARROW WITH TIP RIGHTWARDS", 0x21b1), ("DOWNWARDS ARROW WITH TIP LEFTWARDS", 0x21b2),
    ("DOWNWARDS ARROW WITH TIP RIGHTWARDS", 0x21b3),
    ("RIGHTWARDS ARROW WITH CORNER DOWNWARDS", 0x21b4),
    ("DOWNWARDS ARROW WITH CORNER LEFTWARDS", 0x21b5),
    ("ANTICLOCKWISE TOP SEMICIRCLE ARROW", 0x21b6), ("CLOCKWISE TOP SEMICIRCLE ARROW", 0x21b7),
    ("NORTH WEST ARROW TO LONG BAR", 0x21b8),
    ("LEFTWARDS ARROW TO BAR OVER RIGHTWARDS ARROW TO BAR", 0x21b9),
    ("ANTICLOCKWISE OPEN CIRCLE ARROW", 0x21ba), ("CLOCKWISE OPEN CIRCLE ARROW", 0x21bb),
    ("LEFTWARDS HARPOON WITH BARB UPWARDS", 0x21bc),
    ("LEFTWARDS HARPOON WITH BARB DOWNWARDS", 0x21bd),
    ("UPWARDS HARPOON WITH BARB RIGHTWARDS", 0x21be),
    ("UPWARDS HARPOON WITH BARB LEFTWARDS", 0x21bf),
    ("RIGHTWARDS HARPOON WITH BARB UPWARDS", 0x21c0),
    ("RIGHTWARDS HARPOON WITH BARB DOWNWARDS", 0x21c1),
    ("DOWNWARDS HARPOON WITH BARB RIGHTWARDS", 0x21c2),
    ("DOWNWARDS HARPOON WITH BARB LEFTWARDS", 0x21c3),
    ("RIGHTWARDS ARROW OVER LEFTWARDS ARROW", 0x21c4),
    ("UPWARDS ARROW LEFTWARDS OF DOWNWARDS ARROW", 0x21c5),
    ("LEFTWARDS ARROW OVER RIGHTWARDS ARROW", 0x21c6), ("LEFTWARDS PAIRED ARROWS", 0x21c7),
    ("UPWARDS PAIRED ARROWS", 0x21c8), ("RIGHTWARDS PAIRED ARROWS", 0x21c9),
    ("DOWNWARDS PAIRED ARROWS", 0x21ca), ("LEFTWARDS HARPOON OVER RIGHTWARDS HARPOON", 0x21cb),
    ("RIGHTWARDS HARPOON OVER LEFTWARDS HARPOON", 0x21cc),
    ("LEFTWARDS DOUBLE ARROW WITH STROKE", 0x21cd),
    ("LEFT RIGHT DOUBLE ARROW WITH STROKE", 0x21ce),
    ("RIGHTWARDS DOUBLE ARROW WITH STROKE", 0x21cf), ("LEFTWARDS DOUBLE ARROW", 0x21d0),
    ("UPWARDS DOUBLE ARROW", 0x21d1), ("RIGHTWARDS DOUBLE ARROW", 0x21d2),
    ("DOWNWARDS DOUBLE ARROW", 0x21d3), ("LEFT RIGHT DOUBLE ARROW", 0x21d4),
    ("UP DOWN DOUBLE ARROW", 0x21d5), ("FOR ALL", 0x2200), ("COMPLEMENT", 0x2201),
    ("PARTIAL DIFFERENTIAL", 0x2202), ("THERE EXISTS", 0x2203), ("THERE DOES NOT EXIST", 0x2204),
    ("EMPTY SET", 0x2205), ("INCREMENT", 0x2206), ("NABLA", 0x2207), ("ELEMENT OF", 0x2208),
    ("NOT AN ELEMENT OF", 0x2209), ("SMALL ELEMENT OF", 0x220a), ("CONTAINS AS MEMBER", 0x220b),
    ("DOES NOT CONTAIN AS MEMBER", 0x220c), ("SMALL CONTAINS AS MEMBER", 0x220d),
    ("END OF PROOF", 0x220e), ("N-ARY PRODUCT", 0x220f), ("N-ARY COPRODUCT", 0x2210),
    ("N-ARY SUMMATION", 0x2211), ("MINUS SIGN", 0x2212), ("MINUS-OR-PLUS SIGN", 0x2213),
    ("DOT PLUS", 0x2214), ("DIVISION SLASH", 0x2215), ("SET MINUS", 0x2216),
    ("ASTERISK OPERATOR", 0x2217), ("RING OPERATOR", 0x2218), ("BULLET OPERATOR", 0x2219),
    ("SQUARE ROOT", 0x221a), ("CUBE ROOT", 0x221b), ("FOURTH ROOT", 0x221c),
    ("PROPORTIONAL TO", 0x221d), ("INFINITY", 0x221e), ("RIGHT ANGLE", 0x221f), ("ANGLE", 0x2220),
    ("MEASURED ANGLE", 0x2221), ("SPHERICAL ANGLE", 0x2222), ("DIVIDES", 0x2223),
    ("DOES NOT DIVIDE", 0x2224), ("PARALLEL TO", 0x2225), ("NOT PARALLEL TO", 0x2226),
    ("LOGICAL AND", 0x2227), ("LOGICAL OR", 0x2228), ("INTERSECTION", 0x2229), ("UNION", 0x222a),
    ("INTEGRAL", 0x222b), ("DOUBLE INTEGRAL", 0x222c), ("TRIPLE INTEGRAL", 0x222d),
    ("CONTOUR INTEGRAL", 0x222e), ("SURFACE INTEGRAL", 0x222f), ("VOLUME INTEGRAL", 0x2230),
    ("CLOCKWISE INTEGRAL", 0x2231), ("CLOCKWISE CONTOUR INTEGRAL", 0x2232),
    ("ANTICLOCKWISE CONTOUR INTEGRAL", 0x2233), ("THEREFORE", 0x2234), ("BECAUSE", 0x2235),
    ("RATIO", 0x2236), ("PROPORTION", 0x2237), ("DOT MINUS", 0x2238), ("EXCESS", 0x2239),
    ("GEOMETRIC PROPORTION", 0x223a), ("HOMOTHETIC", 0x223b), ("TILDE OPERATOR", 0x223c),
    ("REVERSED TILDE", 0x223d), ("INVERTED LAZY S", 0x223e), ("SINE WAVE", 0x223f),
    ("WREATH PRODUCT", 0x2240), ("NOT TILDE", 0x2241), ("MINUS TILDE", 0x2242),
    ("ASYMPTOTICALLY EQUAL TO", 0x2243), ("NOT ASYMPTOTICALLY EQUAL TO", 0x2244),
    ("APPROXIMATELY EQUAL TO", 0x2245), ("APPROXIMATELY BUT NOT ACTUALLY EQUAL TO", 0x2246),
    ("NEITHER APPROXIMATELY NOR ACTUALLY EQUAL TO", 0x2247), ("ALMOST EQUAL TO", 0x2248),
    ("NOT ALMOST EQUAL TO", 0x2249), ("ALMOST EQUAL OR EQUAL TO", 0x224a),
    ("TRIPLE TILDE", 0x224b), ("ALL EQUAL TO", 0x224c), ("EQUIVALENT TO", 0x224d),
    ("GEOMETRICALLY EQUIVALENT TO", 0x224e), ("DIFFERENCE BETWEEN", 0x224f),
    ("APPROACHES THE LIMIT", 0x2250), ("GEOMETRICALLY EQUAL TO", 0x2251),
    ("APPROXIMATELY EQUAL TO OR THE IMAGE OF", 0x2252),
    ("IMAGE OF OR APPROXIMATELY EQUAL TO", 0x2253), ("COLON EQUALS", 0x2254),
    ("EQUALS COLON", 0x2255), ("RING IN EQUAL TO", 0x2256), ("RING EQUAL TO", 0x2257),
    ("CORRESPONDS TO", 0x2258), ("ESTIMATES", 0x2259), ("EQUIANGULAR TO", 0x225a),
    ("STAR EQUALS", 0x225b), ("DELTA EQUAL TO", 0x225c), ("EQUAL TO BY DEFINITION", 0x225d),
    ("MEASURED BY", 0x225e), ("QUESTIONED EQUAL TO", 0x225f), ("NOT EQUAL TO", 0x2260),
    ("IDENTICAL TO", 0x2261), ("NOT IDENTICAL TO", 0x2262), ("STRICTLY EQUIVALENT TO", 0x2263),
    ("LESS-THAN OR EQUAL TO", 0x2264), ("GREATER-THAN OR EQUAL TO", 0x2265),
    ("LESS-THAN OVER EQUAL TO", 0x2266), ("GREATER-THAN OVER EQUAL TO", 0x2267),
    ("LESS-THAN BUT NOT EQUAL TO", 0x2268), ("GREATER-THAN BUT NOT EQUAL TO", 0x2269),
    ("MUCH LESS-THAN", 0x226a), ("MUCH GREATER-THAN", 0x226b), ("BETWEEN", 0x226c),
    ("NOT EQUIVALENT TO", 0x226d), ("NOT LESS-THAN", 0x226e), ("NOT GREATER-THAN", 0x226f),
    ("NEITHER LESS-THAN NOR EQUAL TO", 0x2270), ("NEITHER GREATER-THAN NOR EQUAL TO", 0x2271),
    ("LESS-THAN OR EQUIVALENT TO", 0x2272), ("GREATER-THAN OR EQUIVALENT TO", 0x2273),
    ("NEITHER LESS-THAN NOR EQUIVALENT TO", 0x2274),
    ("NEITHER GREATER-THAN NOR EQUIVALENT TO", 0x2275), ("LESS-THAN OR GREATER-THAN", 0x2276),
    ("GREATER-THAN OR LESS-THAN", 0x2277), ("NEITHER LESS-THAN NOR GREATER-THAN", 0x2278),
    ("NEITHER GREATER-THAN NOR LESS-THAN", 0x2279), ("PRECEDES", 0x227a), ("SUCCEEDS", 0x227b),
    ("PRECEDES OR EQUAL TO", 0x227c), ("SUCCEEDS OR EQUAL TO", 0x227d),
    ("PRECEDES OR EQUIVALENT TO", 0x227e), ("SUCCEEDS OR EQUIVALENT TO", 0x227f),
    ("DOES NOT PRECEDE", 0x2280), ("DOES NOT SUCCEED", 0x2281), ("SUBSET OF", 0x2282),
    ("SUPERSET OF", 0x2283), ("NOT A SUBSET OF", 0x2284), ("NOT A SUPERSET OF", 0x2285),
    ("SUBSET OF OR EQUAL TO", 0x2286), ("SUPERSET OF OR EQUAL TO", 0x2287),
    ("NEITHER A SUBSET OF NOR EQUAL TO", 0x2288), ("NEITHER A SUPERSET OF NOR EQUAL TO", 0x2289),
    ("SUBSET OF WITH NOT EQUAL TO", 0x228a), ("SUPERSET OF WITH NOT EQUAL TO", 0x228b),
    ("MULTISET", 0x228c), ("MULTISET MULTIPLICATION", 0x228d), ("MULTISET UNION", 0x228e),
    ("SQUARE IMAGE OF", 0x228f), ("SQUARE ORIGINAL OF", 0x2290),
    ("SQUARE IMAGE OF OR EQUAL TO", 0x2291), ("SQUARE ORIGINAL OF OR EQUAL TO", 0x2292),
    ("SQUARE CAP", 0x2293), ("SQUARE CUP", 0x2294), ("CIRCLED PLUS", 0x2295),
    ("CIRCLED MINUS", 0x2296), ("CIRCLED TIMES", 0x2297), ("CIRCLED DIVISION SLASH", 0x2298),
    ("CIRCLED DOT OPERATOR", 0x2299), ("CIRCLED RING OPERATOR", 0x229a),
    ("CIRCLED ASTERISK OPERATOR", 0x229b), ("CIRCLED EQUALS", 0x229c), ("CIRCLED DASH", 0x229d),
    ("SQUARED PLUS", 0x229e), ("SQUARED MINUS", 0x229f), ("SQUARED TIMES", 0x22a0),
    ("SQUARED DOT OPERATOR", 0x22a1), ("RIGHT TACK", 0x22a2), ("LEFT TACK", 0x22a3),
    ("DOWN TACK", 0x22a4), ("UP TACK", 0x22a5), ("DIAMETER SIGN", 0x2300),
    ("ELECTRIC ARROW", 0x2301), ("HOUSE", 0x2302), ("UP ARROWHEAD", 0x2303),
    ("DOWN ARROWHEAD", 0x2304), ("PROJECTIVE", 0x2305), ("PERSPECTIVE", 0x2306),
    ("WAVY LINE", 0x2307), ("LEFT CEILING", 0x2308), ("RIGHT CEILING", 0x2309),
    ("LEFT FLOOR", 0x230a), ("RIGHT FLOOR", 0x230b), ("PLACE OF INTEREST SIGN", 0x2318),
    ("BLACK RIGHT-POINTING DOUBLE TRIANGLE", 0x23e9),
    ("BLACK LEFT-POINTING DOUBLE TRIANGLE", 0x23ea), ("BLACK UP-POINTING DOUBLE TRIANGLE", 0x23eb),
    ("BLACK DOWN-POINTING DOUBLE TRIANGLE", 0x23ec),
    ("BLACK RIGHT-POINTING DOUBLE TRIANGLE WITH VERTICAL BAR", 0x23ed),
    ("BLACK LEFT-POINTING DOUBLE TRIANGLE WITH VERTICAL BAR", 0x23ee),
    ("BLACK RIGHT-POINTING TRIANGLE WITH DOUBLE VERTICAL BAR", 0x23ef), ("ALARM CLOCK", 0x23f0),
    ("STOPWATCH", 0x23f1), ("TIMER CLOCK", 0x23f2), ("HOURGLASS WITH FLOWING SAND", 0x23f3),
    ("UPPER HALF BLOCK", 0x2580), ("LOWER ONE EIGHTH BLOCK", 0x2581),
    ("LOWER ONE QUARTER BLOCK", 0x2582), ("LOWER THREE EIGHTHS BLOCK", 0x2583),
    ("LOWER HALF BLOCK", 0x2584), ("LOWER FIVE EIGHTHS BLOCK", 0x2585),
    ("LOWER THREE QUARTERS BLOCK", 0x2586), ("LOWER SEVEN EIGHTHS BLOCK", 0x2587),
    ("FULL BLOCK", 0x2588), ("LEFT SEVEN EIGHTHS BLOCK", 0x2589),
    ("LEFT THREE QUARTERS BLOCK", 0x258a), ("LEFT FIVE EIGHTHS BLOCK", 0x258b),
    ("LEFT HALF BLOCK", 0x258c), ("LEFT THREE EIGHTHS BLOCK", 0x258d),
    ("LEFT ONE QUARTER BLOCK", 0x258e), ("LEFT ONE EIGHTH BLOCK", 0x258f),
    ("RIGHT HALF BLOCK", 0x2590), ("LIGHT SHADE", 0x2591), ("MEDIUM SHADE", 0x2592),
    ("DARK SHADE", 0x2593), ("UPPER ONE EIGHTH BLOCK", 0x2594), ("RIGHT ONE EIGHTH BLOCK", 0x2595),
    ("QUADRANT LOWER LEFT", 0x2596), ("QUADRANT LOWER RIGHT", 0x2597),
    ("QUADRANT UPPER LEFT", 0x2598),
    ("QUADRANT UPPER LEFT AND LOWER LEFT AND LOWER RIGHT", 0x2599),
    ("QUADRANT UPPER LEFT AND LOWER RIGHT", 0x259a),
    ("QUADRANT UPPER LEFT AND UPPER RIGHT AND LOWER LEFT", 0x259b),
    ("QUADRANT UPPER LEFT AND UPPER RIGHT AND LOWER RIGHT", 0x259c),
    ("QUADRANT UPPER RIGHT", 0x259d), ("QUADRANT UPPER RIGHT AND LOWER LEFT", 0x259e),
    ("QUADRANT UPPER RIGHT AND LOWER LEFT AND LOWER RIGHT", 0x259f), ("BLACK SQUARE", 0x25a0),
    ("WHITE SQUARE", 0x25a1), ("WHITE SQUARE WITH ROUNDED CORNERS", 0x25a2),
    ("WHITE SQUARE CONTAINING BLACK SMALL SQUARE", 0x25a3),
    ("SQUARE WITH HORIZONTAL FILL", 0x25a4), ("SQUARE WITH VERTICAL FILL", 0x25a5),
    ("SQUARE WITH ORTHOGONAL CROSSHATCH FILL", 0x25a6),
    ("SQUARE WITH UPPER LEFT TO LOWER RIGHT FILL", 0x25a7),
    ("SQUARE WITH UPPER RIGHT TO LOWER LEFT FILL", 0x25a8),
    ("SQUARE WITH DIAGONAL CROSSHATCH FILL", 0x25a9), ("BLACK SMALL SQUARE", 0x25aa),
    ("WHITE SMALL SQUARE", 0x25ab), ("BLACK RECTANGLE", 0x25ac), ("WHITE RECTANGLE", 0x25ad),
    ("BLACK VERTICAL RECTANGLE", 0x25ae), ("WHITE VERTICAL RECTANGLE", 0x25af),
    ("BLACK PARALLELOGRAM", 0x25b0), ("WHITE PARALLELOGRAM", 0x25b1),
    ("BLACK UP-POINTING TRIANGLE", 0x25b2), ("WHITE UP-POINTING TRIANGLE", 0x25b3),
    ("BLACK UP-POINTING SMALL TRIANGLE", 0x25b4), ("WHITE UP-POINTING SMALL TRIANGLE", 0x25b5),
    ("BLACK RIGHT-POINTING TRIANGLE", 0x25b6), ("WHITE RIGHT-POINTING TRIANGLE", 0x25b7),
    ("BLACK RIGHT-POINTING SMALL TRIANGLE", 0x25b8),
    ("WHITE RIGHT-POINTING SMALL TRIANGLE", 0x25b9), ("BLACK RIGHT-POINTING POINTER", 0x25ba),
    ("WHITE RIGHT-POINTING POINTER", 0x25bb), ("BLACK DOWN-POINTING TRIANGLE", 0x25bc),
    ("WHITE DOWN-POINTING TRIANGLE", 0x25bd), ("BLACK DOWN-POINTING SMALL TRIANGLE", 0x25be),
    ("WHITE DOWN-POINTING SMALL TRIANGLE", 0x25bf), ("BLACK LEFT-POINTING TRIANGLE", 0x25c0),
    ("WHITE LEFT-POINTING TRIANGLE", 0x25c1), ("BLACK LEFT-POINTING SMALL TRIANGLE", 0x25c2),
    ("WHITE LEFT-POINTING SMALL TRIANGLE", 0x25c3), ("BLACK LEFT-POINTING POINTER", 0x25c4),
    ("WHITE LEFT-POINTING POINTER", 0x25c5), ("BLACK DIAMOND", 0x25c6), ("WHITE DIAMOND", 0x25c7),
    ("WHITE DIAMOND CONTAINING BLACK SMALL DIAMOND", 0x25c8), ("FISHEYE", 0x25c9),
    ("LOZENGE", 0x25ca), ("WHITE CIRCLE", 0x25cb), ("DOTTED CIRCLE", 0x25cc),
    ("CIRCLE WITH VERTICAL FILL", 0x25cd), ("BULLSEYE", 0x25ce), ("BLACK CIRCLE", 0x25cf),
    ("CIRCLE WITH LEFT HALF BLACK", 0x25d0), ("CIRCLE WITH RIGHT HALF BLACK", 0x25d1),
    ("CIRCLE WITH LOWER HALF BLACK", 0x25d2), ("CIRCLE WITH UPPER HALF BLACK", 0x25d3),
    ("CIRCLE WITH UPPER RIGHT QUADRANT BLACK", 0x25d4),
    ("CIRCLE WITH ALL BUT UPPER LEFT QUADRANT BLACK", 0x25d5), ("LEFT HALF BLACK CIRCLE", 0x25d6),
    ("RIGHT HALF BLACK CIRCLE", 0x25d7), ("INVERSE BULLET", 0x25d8),
    ("INVERSE WHITE CIRCLE", 0x25d9), ("UPPER HALF INVERSE WHITE CIRCLE", 0x25da),
    ("LOWER HALF INVERSE WHITE CIRCLE", 0x25db), ("UPPER LEFT QUADRANT CIRCULAR ARC", 0x25dc),
    ("UPPER RIGHT QUADRANT CIRCULAR ARC", 0x25dd), ("LOWER RIGHT QUADRANT CIRCULAR ARC", 0x25de),
    ("LOWER LEFT QUADRANT CIRCULAR ARC", 0x25df), ("UPPER HALF CIRCLE", 0x25e0),
    ("LOWER HALF CIRCLE", 0x25e1), ("BLACK LOWER RIGHT TRIANGLE", 0x25e2),
    ("BLACK LOWER LEFT TRIANGLE", 0x25e3), ("BLACK UPPER LEFT TRIANGLE", 0x25e4),
    ("BLACK UPPER RIGHT TRIANGLE", 0x25e5), ("WHITE BULLET", 0x25e6),
    ("SQUARE WITH LEFT HALF BLACK", 0x25e7), ("SQUARE WITH RIGHT HALF BLACK", 0x25e8),
    ("SQUARE WITH UPPER LEFT DIAGONAL HALF BLACK", 0x25e9),
    ("SQUARE WITH LOWER RIGHT DIAGONAL HALF BLACK", 0x25ea),
    ("WHITE SQUARE WITH VERTICAL BISECTING LINE", 0x25eb),
    ("WHITE UP-POINTING TRIANGLE WITH DOT", 0x25ec),
    ("UP-POINTING TRIANGLE WITH LEFT HALF BLACK", 0x25ed),
    ("UP-POINTING TRIANGLE WITH RIGHT HALF BLACK", 0x25ee), ("LARGE CIRCLE", 0x25ef),
    ("WHITE SQUARE WITH UPPER LEFT QUADRANT", 0x25f0),
    ("WHITE SQUARE WITH LOWER LEFT QUADRANT", 0x25f1),
    ("WHITE SQUARE WITH LOWER RIGHT QUADRANT", 0x25f2),
    ("WHITE SQUARE WITH UPPER RIGHT QUADRANT", 0x25f3),
    ("WHITE CIRCLE WITH UPPER LEFT QUADRANT", 0x25f4),
    ("WHITE CIRCLE WITH LOWER LEFT QUADRANT", 0x25f5),
    ("WHITE CIRCLE WITH LOWER RIGHT QUADRANT", 0x25f6),
    ("WHITE CIRCLE WITH UPPER RIGHT QUADRANT", 0x25f7), ("UPPER LEFT TRIANGLE", 0x25f8),
    ("UPPER RIGHT TRIANGLE", 0x25f9), ("LOWER LEFT TRIANGLE", 0x25fa),
    ("WHITE MEDIUM SQUARE", 0x25fb), ("BLACK MEDIUM SQUARE", 0x25fc),
    ("WHITE MEDIUM SMALL SQUARE", 0x25fd), ("BLACK MEDIUM SMALL SQUARE", 0x25fe),
    ("LOWER RIGHT TRIANGLE", 0x25ff), ("BLACK SUN WITH RAYS", 0x2600), ("CLOUD", 0x2601),
    ("UMBRELLA", 0x2602), ("SNOWMAN", 0x2603), ("COMET", 0x2604), ("BLACK STAR", 0x2605),
    ("WHITE STAR", 0x2606), ("LIGHTNING", 0x2607), ("THUNDERSTORM", 0x2608), ("SUN", 0x2609),
    ("ASCENDING NODE", 0x260a), ("DESCENDING NODE", 0x260b), ("CONJUNCTION", 0x260c),
    ("OPPOSITION", 0x260d), ("BLACK TELEPHONE", 0x260e), ("WHITE TELEPHONE", 0x260f),
    ("BALLOT BOX", 0x2610), ("BALLOT BOX WITH CHECK", 0x2611), ("BALLOT BOX WITH X", 0x2612),
    ("SALTIRE", 0x2613), ("UMBRELLA WITH RAIN DROPS", 0x2614), ("HOT BEVERAGE", 0x2615),
    ("WHITE SHOGI PIECE", 0x2616), ("BLACK SHOGI PIECE", 0x2617), ("SHAMROCK", 0x2618),
    ("REVERSED ROTATED FLORAL HEART BULLET", 0x2619), ("BLACK LEFT POINTING INDEX", 0x261a),
    ("BLACK RIGHT POINTING INDEX", 0x261b), ("WHITE LEFT POINTING INDEX", 0x261c),
    ("WHITE UP POINTING INDEX", 0x261d), ("WHITE RIGHT POINTING INDEX", 0x261e),
    ("WHITE DOWN POINTING INDEX", 0x261f), ("SKULL AND CROSSBONES", 0x2620),
    ("CAUTION SIGN", 0x2621), ("RADIOACTIVE SIGN", 0x2622), ("BIOHAZARD SIGN", 0x2623),
    ("CADUCEUS", 0x2624), ("ANKH", 0x2625), ("ORTHODOX CROSS", 0x2626), ("CHI RHO", 0x2627),
    ("CROSS OF LORRAINE", 0x2628), ("CROSS OF JERUSALEM", 0x2629), ("STAR AND CRESCENT", 0x262a),
    ("FARSI SYMBOL", 0x262b), ("ADI SHAKTI", 0x262c), ("HAMMER AND SICKLE", 0x262d),
    ("PEACE SYMBOL", 0x262e), ("YIN YANG", 0x262f), ("TRIGRAM FOR HEAVEN", 0x2630),
    ("TRIGRAM FOR LAKE", 0x2631), ("TRIGRAM FOR FIRE", 0x2632), ("TRIGRAM FOR THUNDER", 0x2633),
    ("TRIGRAM FOR WIND", 0x2634), ("TRIGRAM FOR WATER", 0x2635), ("TRIGRAM FOR MOUNTAIN", 0x2636),
    ("TRIGRAM FOR EARTH", 0x2637), ("WHEEL OF DHARMA", 0x2638), ("WHITE FROWNING FACE", 0x2639),
    ("WHITE SMILING FACE", 0x263a), ("BLACK SMILING FACE", 0x263b),
    ("WHITE SUN WITH RAYS", 0x263c), ("FIRST QUARTER MOON", 0x263d), ("LAST QUARTER MOON", 0x263e),
    ("MERCURY", 0x263f), ("FEMALE SIGN", 0x2640), ("EARTH", 0x2641), ("MALE SIGN", 0x2642),
    ("JUPITER", 0x2643), ("SATURN", 0x2644), ("URANUS", 0x2645), ("NEPTUNE", 0x2646),
    ("PLUTO", 0x2647), ("ARIES", 0x2648), ("TAURUS", 0x2649), ("GEMINI", 0x264a),
    ("CANCER", 0x264b), ("LEO", 0x264c), ("VIRGO", 0x264d), ("LIBRA", 0x264e),
    ("SCORPIUS", 0x264f), ("SAGITTARIUS", 0x2650), ("CAPRICORN", 0x2651), ("AQUARIUS", 0x2652),
    ("PISCES", 0x2653), ("WHITE CHESS KING", 0x2654), ("WHITE CHESS QUEEN", 0x2655),
    ("WHITE CHESS ROOK", 0x2656), ("WHITE CHESS BISHOP", 0x2657), ("WHITE CHESS KNIGHT", 0x2658),
    ("WHITE CHESS PAWN", 0x2659), ("BLACK CHESS KING", 0x265a), ("BLACK CHESS QUEEN", 0x265b),
    ("BLACK CHESS ROOK", 0x265c), ("BLACK CHESS BISHOP", 0x265d), ("BLACK CHESS KNIGHT", 0x265e),
    ("BLACK CHESS PAWN", 0x265f), ("BLACK SPADE SUIT", 0x2660), ("WHITE HEART SUIT", 0x2661),
    ("WHITE DIAMOND SUIT", 0x2662), ("BLACK CLUB SUIT", 0x2663), ("WHITE SPADE SUIT", 0x2664),
    ("BLACK HEART SUIT", 0x2665), ("BLACK DIAMOND SUIT", 0x2666), ("WHITE CLUB SUIT", 0x2667),
    ("HOT SPRINGS", 0x2668), ("QUARTER NOTE", 0x2669), ("EIGHTH NOTE", 0x266a),
    ("BEAMED EIGHTH NOTES", 0x266b), ("BEAMED SIXTEENTH NOTES", 0x266c),
    ("MUSIC FLAT SIGN", 0x266d), ("MUSIC NATURAL SIGN", 0x266e), ("MUSIC SHARP SIGN", 0x266f),
    ("WEST SYRIAC CROSS", 0x2670), ("EAST SYRIAC CROSS", 0x2671),
    ("UNIVERSAL RECYCLING SYMBOL", 0x2672), ("RECYCLING SYMBOL FOR TYPE-1 PLASTICS", 0x2673),
    ("RECYCLING SYMBOL FOR TYPE-2 PLASTICS", 0x2674),
    ("RECYCLING SYMBOL FOR TYPE-3 PLASTICS", 0x2675),
    ("RECYCLING SYMBOL FOR TYPE-4 PLASTICS", 0x2676),
    ("RECYCLING SYMBOL FOR TYPE-5 PLASTICS", 0x2677),
    ("RECYCLING SYMBOL FOR TYPE-6 PLASTICS", 0x2678),
    ("RECYCLING SYMBOL FOR TYPE-7 PLASTICS", 0x2679),
    ("RECYCLING SYMBOL FOR GENERIC MATERIALS", 0x267a),
    ("BLACK UNIVERSAL RECYCLING SYMBOL", 0x267b), ("RECYCLED PAPER SYMBOL", 0x267c),
    ("PARTIALLY-RECYCLED PAPER SYMBOL", 0x267d), ("PERMANENT PAPER SIGN", 0x267e),
    ("WHEELCHAIR SYMBOL", 0x267f), ("DIE FACE-1", 0x2680), ("DIE FACE-2", 0x2681),
    ("DIE FACE-3", 0x2682), ("DIE FACE-4", 0x2683), ("DIE FACE-5", 0x2684), ("DIE FACE-6", 0x2685),
    ("WHITE CIRCLE WITH DOT RIGHT", 0x2686), ("WHITE CIRCLE WITH TWO DOTS", 0x2687),
    ("BLACK CIRCLE WITH WHITE DOT RIGHT", 0x2688), ("BLACK CIRCLE WITH TWO WHITE DOTS", 0x2689),
    ("MONOGRAM FOR YANG", 0x268a), ("MONOGRAM FOR YIN", 0x268b),
    ("DIGRAM FOR GREATER YANG", 0x268c), ("DIGRAM FOR LESSER YIN", 0x268d),
    ("DIGRAM FOR LESSER YANG", 0x268e), ("DIGRAM FOR GREATER YIN", 0x268f), ("WHITE FLAG", 0x2690),
    ("BLACK FLAG", 0x2691), ("HAMMER AND PICK", 0x2692), ("ANCHOR", 0x2693),
    ("CROSSED SWORDS", 0x2694), ("STAFF OF AESCULAPIUS", 0x2695), ("SCALES", 0x2696),
    ("ALEMBIC", 0x2697), ("FLOWER", 0x2698), ("GEAR", 0x2699), ("STAFF OF HERMES", 0x269a),
    ("ATOM SYMBOL", 0x269b), ("FLEUR-DE-LIS", 0x269c), ("OUTLINED WHITE STAR", 0x269d),
    ("THREE LINES CONVERGING RIGHT", 0x269e), ("THREE LINES CONVERGING LEFT", 0x269f),
    ("WARNING SIGN", 0x26a0), ("HIGH VOLTAGE SIGN", 0x26a1), ("UPPER BLADE SCISSORS", 0x2701),
    ("BLACK SCISSORS", 0x2702), ("LOWER BLADE SCISSORS", 0x2703), ("WHITE SCISSORS", 0x2704),
    ("WHITE HEAVY CHECK MARK", 0x2705), ("TELEPHONE LOCATION SIGN", 0x2706),
    ("TAPE DRIVE", 0x2707), ("AIRPLANE", 0x2708), ("ENVELOPE", 0x2709), ("RAISED FIST", 0x270a),
    ("RAISED HAND", 0x270b), ("VICTORY HAND", 0x270c), ("WRITING HAND", 0x270d),
    ("LOWER RIGHT PENCIL", 0x270e), ("PENCIL", 0x270f), ("UPPER RIGHT PENCIL", 0x2710),
    ("WHITE NIB", 0x2711), ("BLACK NIB", 0x2712), ("CHECK MARK", 0x2713),
    ("HEAVY CHECK MARK", 0x2714), ("MULTIPLICATION X", 0x2715), ("HEAVY MULTIPLICATION X", 0x2716),
    ("BALLOT X", 0x2717), ("HEAVY BALLOT X", 0x2718), ("OUTLINED GREEK CROSS", 0x2719),
    ("HEAVY GREEK CROSS", 0x271a), ("OPEN CENTRE CROSS", 0x271b),
    ("HEAVY OPEN CENTRE CROSS", 0x271c), ("LATIN CROSS", 0x271d),
    ("SHADOWED WHITE LATIN CROSS", 0x271e), ("OUTLINED LATIN CROSS", 0x271f),
    ("MALTESE CROSS", 0x2720), ("STAR OF DAVID", 0x2721),
    ("FOUR TEARDROP-SPOKED ASTERISK", 0x2722), ("FOUR BALLOON-SPOKED ASTERISK", 0x2723),
    ("HEAVY FOUR BALLOON-SPOKED ASTERISK", 0x2724), ("FOUR CLUB-SPOKED ASTERISK", 0x2725),
    ("BLACK FOUR POINTED STAR", 0x2726), ("WHITE FOUR POINTED STAR", 0x2727),
    ("BLACK QUESTION MARK ORNAMENT", 0x2753), ("WHITE QUESTION MARK ORNAMENT", 0x2754),
    ("WHITE EXCLAMATION MARK ORNAMENT", 0x2755), ("BLACK DIAMOND MINUS WHITE X", 0x2756),
    ("HEAVY EXCLAMATION MARK SYMBOL", 0x2757), ("HEAVY BLACK HEART", 0x2764),
    ("IDEOGRAPHIC SPACE", 0x3000), ("IDEOGRAPHIC COMMA", 0x3001),
    ("IDEOGRAPHIC FULL STOP", 0x3002), ("DITTO MARK", 0x3003),
    ("JAPANESE INDUSTRIAL STANDARD SYMBOL", 0x3004), ("IDEOGRAPHIC ITERATION MARK", 0x3005),
    ("IDEOGRAPHIC CLOSING MARK", 0x3006), ("IDEOGRAPHIC NUMBER ZERO", 0x3007),
    ("LEFT ANGLE BRACKET", 0x3008), ("RIGHT ANGLE BRACKET", 0x3009),
    ("LEFT DOUBLE ANGLE BRACKET", 0x300a), ("RIGHT DOUBLE ANGLE BRACKET", 0x300b),
    ("LEFT CORNER BRACKET", 0x300c), ("RIGHT CORNER BRACKET", 0x300d),
    ("LEFT WHITE CORNER BRACKET", 0x300e), ("RIGHT WHITE CORNER BRACKET", 0x300f),
    ("LEFT BLACK LENTICULAR BRACKET", 0x3010), ("RIGHT BLACK LENTICULAR BRACKET", 0x3011),
    ("POSTAL MARK", 0x3012), ("GETA MARK", 0x3013), ("LEFT TORTOISE SHELL BRACKET", 0x3014),
    ("RIGHT TORTOISE SHELL BRACKET", 0x3015), ("LEFT WHITE LENTICULAR BRACKET", 0x3016),
    ("RIGHT WHITE LENTICULAR BRACKET", 0x3017), ("LATIN SMALL LIGATURE FF", 0xfb00),
    ("LATIN SMALL LIGATURE FI", 0xfb01), ("LATIN SMALL LIGATURE FL", 0xfb02),
    ("LATIN SMALL LIGATURE FFI", 0xfb03), ("LATIN SMALL LIGATURE FFL", 0xfb04),
    ("LATIN SMALL LIGATURE LONG S T", 0xfb05), ("LATIN SMALL LIGATURE ST", 0xfb06),
    ("ZERO WIDTH NO-BREAK SPACE", 0xfeff), ("REPLACEMENT CHARACTER", 0xfffd),
    ("GRINNING FACE", 0x1f600), ("GRINNING FACE WITH SMILING EYES", 0x1f601),
    ("FACE WITH TEARS OF JOY", 0x1f602), ("SMILING FACE WITH OPEN MOUTH", 0x1f603),
    ("SMILING FACE WITH OPEN MOUTH AND SMILING EYES", 0x1f604),
    ("SMILING FACE WITH OPEN MOUTH AND COLD SWEAT", 0x1f605),
    ("SMILING FACE WITH OPEN MOUTH AND TIGHTLY-CLOSED EYES", 0x1f606),
    ("SMILING FACE WITH HALO", 0x1f607), ("SMILING FACE WITH HORNS", 0x1f608),
    ("WINKING FACE", 0x1f609), ("SMILING FACE WITH SMILING EYES", 0x1f60a),
    ("FACE SAVOURING DELICIOUS FOOD", 0x1f60b), ("RELIEVED FACE", 0x1f60c),
    ("SMILING FACE WITH HEART-SHAPED EYES", 0x1f60d), ("SMILING FACE WITH SUNGLASSES", 0x1f60e),
    ("SMIRKING FACE", 0x1f60f), ("NEUTRAL FACE", 0x1f610), ("EXPRESSIONLESS FACE", 0x1f611),
    ("UNAMUSED FACE", 0x1f612), ("FACE WITH COLD SWEAT", 0x1f613), ("PENSIVE FACE", 0x1f614),
    ("CONFUSED FACE", 0x1f615), ("CONFOUNDED FACE", 0x1f616), ("KISSING FACE", 0x1f617),
    ("FACE THROWING A KISS", 0x1f618), ("KISSING FACE WITH SMILING EYES", 0x1f619),
    ("KISSING FACE WITH CLOSED EYES", 0x1f61a), ("FACE WITH STUCK-OUT TONGUE", 0x1f61b),
    ("FACE WITH STUCK-OUT TONGUE AND WINKING EYE", 0x1f61c),
    ("FACE WITH STUCK-OUT TONGUE AND TIGHTLY-CLOSED EYES", 0x1f61d),
    ("DISAPPOINTED FACE", 0x1f61e), ("WORRIED FACE", 0x1f61f), ("ANGRY FACE", 0x1f620),
    ("POUTING FACE", 0x1f621), ("CRYING FACE", 0x1f622), ("PERSEVERING FACE", 0x1f623),
    ("FACE WITH LOOK OF TRIUMPH", 0x1f624), ("DISAPPOINTED BUT RELIEVED FACE", 0x1f625),
    ("FROWNING FACE WITH OPEN MOUTH", 0x1f626), ("ANGUISHED FACE", 0x1f627),
    ("FEARFUL FACE", 0x1f628), ("WEARY FACE", 0x1f629), ("SLEEPY FACE", 0x1f62a),
    ("TIRED FACE", 0x1f62b), ("GRIMACING FACE", 0x1f62c), ("LOUDLY CRYING FACE", 0x1f62d),
    ("FACE WITH OPEN MOUTH", 0x1f62e), ("HUSHED FACE", 0x1f62f),
    ("FACE WITH OPEN MOUTH AND COLD SWEAT", 0x1f630), ("FACE SCREAMING IN FEAR", 0x1f631),
    ("ASTONISHED FACE", 0x1f632), ("FLUSHED FACE", 0x1f633), ("SLEEPING FACE", 0x1f634),
    ("DIZZY FACE", 0x1f635), ("FACE WITHOUT MOUTH", 0x1f636), ("FACE WITH MEDICAL MASK", 0x1f637),
    ("GRINNING CAT FACE WITH SMILING EYES", 0x1f638), ("CAT FACE WITH TEARS OF JOY", 0x1f639),
    ("SMILING CAT FACE WITH OPEN MOUTH", 0x1f63a),
    ("SMILING CAT FACE WITH HEART-SHAPED EYES", 0x1f63b), ("CAT FACE WITH WRY SMILE", 0x1f63c),
    ("KISSING CAT FACE WITH CLOSED EYES", 0x1f63d), ("POUTING CAT FACE", 0x1f63e),
    ("CRYING CAT FACE", 0x1f63f), ("WEARY CAT FACE", 0x1f640), ("SLIGHTLY FROWNING FACE", 0x1f641),
    ("SLIGHTLY SMILING FACE", 0x1f642), ("UPSIDE-DOWN FACE", 0x1f643),
    ("FACE WITH ROLLING EYES", 0x1f644), ("FACE WITH NO GOOD GESTURE", 0x1f645),
    ("FACE WITH OK GESTURE", 0x1f646), ("PERSON BOWING DEEPLY", 0x1f647),
    ("SEE-NO-EVIL MONKEY", 0x1f648), ("HEAR-NO-EVIL MONKEY", 0x1f649),
    ("SPEAK-NO-EVIL MONKEY", 0x1f64a), ("HAPPY PERSON RAISING ONE HAND", 0x1f64b),
    ("PERSON RAISING BOTH HANDS IN CELEBRATION", 0x1f64c), ("PERSON FROWNING", 0x1f64d),
    ("PERSON WITH POUTING FACE", 0x1f64e), ("PERSON WITH FOLDED HANDS", 0x1f64f),
    ("ROCKET", 0x1f680), ("PARTY POPPER", 0x1f389), ("SNAKE", 0x1f40d),
    ("THUMBS UP SIGN", 0x1f44d), ("FIRE", 0x1f525), ("PILE OF POO", 0x1f4a9), ("NULL", 0x0),
    ("START OF HEADING", 0x1), ("START OF TEXT", 0x2), ("END OF TEXT", 0x3),
    ("END OF TRANSMISSION", 0x4), ("ENQUIRY", 0x5), ("ACKNOWLEDGE", 0x6), ("ALERT", 0x7),
    ("BEL", 0x7), ("BACKSPACE", 0x8), ("CHARACTER TABULATION", 0x9),
    ("HORIZONTAL TABULATION", 0x9), ("LINE FEED", 0xa), ("NEW LINE", 0xa), ("END OF LINE", 0xa),
    ("LINE TABULATION", 0xb), ("VERTICAL TABULATION", 0xb), ("FORM FEED", 0xc),
    ("CARRIAGE RETURN", 0xd), ("SHIFT OUT", 0xe), ("SHIFT IN", 0xf), ("DATA LINK ESCAPE", 0x10),
    ("DEVICE CONTROL ONE", 0x11), ("DEVICE CONTROL TWO", 0x12), ("DEVICE CONTROL THREE", 0x13),
    ("DEVICE CONTROL FOUR", 0x14), ("NEGATIVE ACKNOWLEDGE", 0x15), ("SYNCHRONOUS IDLE", 0x16),
    ("END OF TRANSMISSION BLOCK", 0x17), ("CANCEL", 0x18), ("END OF MEDIUM", 0x19),
    ("SUBSTITUTE", 0x1a), ("ESCAPE", 0x1b), ("FILE SEPARATOR", 0x1c), ("GROUP SEPARATOR", 0x1d),
    ("RECORD SEPARATOR", 0x1e), ("UNIT SEPARATOR", 0x1f), ("INFORMATION SEPARATOR FOUR", 0x1c),
    ("INFORMATION SEPARATOR THREE", 0x1d), ("INFORMATION SEPARATOR TWO", 0x1e),
    ("INFORMATION SEPARATOR ONE", 0x1f), ("DELETE", 0x7f), ("NEXT LINE", 0x85),
    ("BYTE ORDER MARK", 0xfeff), ("NUL", 0x0), ("SOH", 0x1), ("STX", 0x2), ("ETX", 0x3),
    ("EOT", 0x4), ("ENQ", 0x5), ("ACK", 0x6), ("BS", 0x8), ("HT", 0x9), ("TAB", 0x9), ("LF", 0xa),
    ("NL", 0xa), ("EOL", 0xa), ("VT", 0xb), ("FF", 0xc), ("CR", 0xd), ("SO", 0xe), ("SI", 0xf),
    ("DLE", 0x10), ("DC1", 0x11), ("DC2", 0x12), ("DC3", 0x13), ("DC4", 0x14), ("NAK", 0x15),
    ("SYN", 0x16), ("ETB", 0x17), ("CAN", 0x18), ("EOM", 0x19), ("SUB", 0x1a), ("ESC", 0x1b),
    ("FS", 0x1c), ("GS", 0x1d), ("RS", 0x1e), ("US", 0x1f), ("SP", 0x20), ("DEL", 0x7f),
    ("NEL", 0x85), ("NBSP", 0xa0), ("SHY", 0xad), ("ZWSP", 0x200b), ("ZWNJ", 0x200c),
    ("ZWJ", 0x200d), ("LRM", 0x200e), ("RLM", 0x200f), ("BOM", 0xfeff), ("WJ", 0x2060),
    ("HTJ", 0x89), ("PADDING CHARACTER", 0x80), ("CGJ", 0x34f)]

def nameGroups : List (String × List NameEntry) :=
  [("LATIN SMALL LETTER ", latinSmallNames), ("LATIN CAPITAL LETTER ", latinCapitalNames),
    ("GREEK SMALL LETTER ", greekSmallNames), ("GREEK CAPITAL LETTER ", greekCapitalNames),
    ("CYRILLIC SMALL LETTER ", cyrillicSmallNames),
    ("CYRILLIC CAPITAL LETTER ", cyrillicCapitalNames), ("HEBREW LETTER ", hebrewNames),
    ("ARABIC LETTER ", arabicNames), ("HIRAGANA LETTER ", hiraganaNames),
    ("KATAKANA LETTER ", katakanaNames), ("BOX DRAWINGS ", boxNames), ("", otherNames)]

/-! ### Names that follow from a code point -/

def initialSounds : List String :=
  ["G", "GG", "N", "D", "DD", "R", "M", "B", "BB", "S", "SS", "", "J", "JJ", "C", "K", "T", "P",
    "H"]

def vowelSounds : List String :=
  ["A", "AE", "YA", "YAE", "EO", "E", "YEO", "YE", "O", "WA", "WAE", "OE", "YO", "U", "WEO", "WE",
    "WI", "YU", "EU", "YI", "I"]

/-- The names of the final sounds of syllables, the first of them for none. -/
def finalSounds : List String :=
  ["", "G", "GG", "GS", "N", "NJ", "NH", "D", "L", "LG", "LM", "LB", "LS", "LT", "LP", "LH", "M",
    "B", "BS", "S", "SS", "NG", "J", "C", "K", "T", "P", "H"]

/-- The number of the longest name that a text begins with, and the rest. -/
def longestSound? (sounds : List String) (text : List Char) : Option (Nat × List Char) :=
  (sounds.zipIdx.foldl (fun best sound =>
    if sound.1.toList.isPrefixOf text then
      match best with
      | some (length, _) => if length < sound.1.length then some (sound.1.length, sound.2) else best
      | none => some (sound.1.length, sound.2)
    else best) none).map fun found => (found.2, text.drop found.1)

def syllableOfName? (text : List Char) : Option Char := do
  let (first, rest) ← longestSound? initialSounds text
  let (second, rest) ← longestSound? vowelSounds rest
  let (third, rest) ← longestSound? finalSounds rest
  if rest.isEmpty then some (Char.ofNat (0xac00 + (first * 21 + second) * 28 + third)) else none

/-- The value of an upper case hexadecimal digit. -/
def upperHexDigit? (character : Char) : Option Nat :=
  if character.isDigit then some (character.toNat - 0x30)
  else if 0x41 ≤ character.toNat && character.toNat ≤ 0x46 then some (character.toNat - 0x41 + 10)
  else none

/-- The code points of unified ideographs, by first and last ones. -/
def ideographs : List (Nat × Nat) :=
  [(0x3400, 0x4dbf), (0x4e00, 0x9fff), (0x20000, 0x2a6df), (0x2a700, 0x2b738),
    (0x2b740, 0x2b81d), (0x2b820, 0x2cea1), (0x2ceb0, 0x2ebe0), (0x30000, 0x3134a)]

def ideographOfName? (text : List Char) : Option Char := do
  let digits ← text.mapM upperHexDigit?
  let point := digits.foldl (fun value digit => 16 * value + digit) 0
  if (digits.length == 4 || digits.length == 5)
      && ideographs.any (fun range => range.1 ≤ point && point ≤ range.2) then
    some (Char.ofNat point)
  else none

/-! ### Names -/

def behind? (lead : String) (text : List Char) : Option (List Char) :=
  if lead.toList.isPrefixOf text then some (text.drop lead.toList.length) else none

def listedCharacter? (name : List Char) : Option Char :=
  let name := name.map Char.toUpper
  nameGroups.findSome? fun group => do
    let rest ← behind? group.1 name
    let point ← group.2.lookup (String.ofList rest)
    pure (Char.ofNat point)

def characterOfName? (name : List Char) : Option Char :=
  match behind? "HANGUL SYLLABLE " name, behind? "CJK UNIFIED IDEOGRAPH-" name with
  | some rest, _ => syllableOfName? rest
  | none, some rest => ideographOfName? rest
  | none, none => listedCharacter? name

/-! ### Small facts -/

end ProtectionLimits.Text
