import ProtectionLimits.Text.Charset

/-!
Contract: the character sets of one byte of personal computers.

Owns their upper halves, and the whole of the one set whose lower half is not ASCII.
-/

set_option autoImplicit false

namespace ProtectionLimits.Text

def cp437Upper : List CodeRun :=
  [⟨1, 0xc7⟩, ⟨1, 0xfc⟩, ⟨1, 0xe9⟩, ⟨1, 0xe2⟩, ⟨1, 0xe4⟩, ⟨1, 0xe0⟩, ⟨1, 0xe5⟩, ⟨1, 0xe7⟩,
    ⟨2, 0xea⟩, ⟨1, 0xe8⟩, ⟨1, 0xef⟩, ⟨1, 0xee⟩, ⟨1, 0xec⟩, ⟨2, 0xc4⟩, ⟨1, 0xc9⟩, ⟨1, 0xe6⟩,
    ⟨1, 0xc6⟩, ⟨1, 0xf4⟩, ⟨1, 0xf6⟩, ⟨1, 0xf2⟩, ⟨1, 0xfb⟩, ⟨1, 0xf9⟩, ⟨1, 0xff⟩, ⟨1, 0xd6⟩,
    ⟨1, 0xdc⟩, ⟨2, 0xa2⟩, ⟨1, 0xa5⟩, ⟨1, 0x20a7⟩, ⟨1, 0x192⟩, ⟨1, 0xe1⟩, ⟨1, 0xed⟩, ⟨1, 0xf3⟩,
    ⟨1, 0xfa⟩, ⟨1, 0xf1⟩, ⟨1, 0xd1⟩, ⟨1, 0xaa⟩, ⟨1, 0xba⟩, ⟨1, 0xbf⟩, ⟨1, 0x2310⟩, ⟨1, 0xac⟩,
    ⟨1, 0xbd⟩, ⟨1, 0xbc⟩, ⟨1, 0xa1⟩, ⟨1, 0xab⟩, ⟨1, 0xbb⟩, ⟨3, 0x2591⟩, ⟨1, 0x2502⟩, ⟨1, 0x2524⟩,
    ⟨2, 0x2561⟩, ⟨1, 0x2556⟩, ⟨1, 0x2555⟩, ⟨1, 0x2563⟩, ⟨1, 0x2551⟩, ⟨1, 0x2557⟩, ⟨1, 0x255d⟩,
    ⟨1, 0x255c⟩, ⟨1, 0x255b⟩, ⟨1, 0x2510⟩, ⟨1, 0x2514⟩, ⟨1, 0x2534⟩, ⟨1, 0x252c⟩, ⟨1, 0x251c⟩,
    ⟨1, 0x2500⟩, ⟨1, 0x253c⟩, ⟨2, 0x255e⟩, ⟨1, 0x255a⟩, ⟨1, 0x2554⟩, ⟨1, 0x2569⟩, ⟨1, 0x2566⟩,
    ⟨1, 0x2560⟩, ⟨1, 0x2550⟩, ⟨1, 0x256c⟩, ⟨2, 0x2567⟩, ⟨2, 0x2564⟩, ⟨1, 0x2559⟩, ⟨1, 0x2558⟩,
    ⟨2, 0x2552⟩, ⟨1, 0x256b⟩, ⟨1, 0x256a⟩, ⟨1, 0x2518⟩, ⟨1, 0x250c⟩, ⟨1, 0x2588⟩, ⟨1, 0x2584⟩,
    ⟨1, 0x258c⟩, ⟨1, 0x2590⟩, ⟨1, 0x2580⟩, ⟨1, 0x3b1⟩, ⟨1, 0xdf⟩, ⟨1, 0x393⟩, ⟨1, 0x3c0⟩,
    ⟨1, 0x3a3⟩, ⟨1, 0x3c3⟩, ⟨1, 0xb5⟩, ⟨1, 0x3c4⟩, ⟨1, 0x3a6⟩, ⟨1, 0x398⟩, ⟨1, 0x3a9⟩, ⟨1, 0x3b4⟩,
    ⟨1, 0x221e⟩, ⟨1, 0x3c6⟩, ⟨1, 0x3b5⟩, ⟨1, 0x2229⟩, ⟨1, 0x2261⟩, ⟨1, 0xb1⟩, ⟨1, 0x2265⟩,
    ⟨1, 0x2264⟩, ⟨2, 0x2320⟩, ⟨1, 0xf7⟩, ⟨1, 0x2248⟩, ⟨1, 0xb0⟩, ⟨1, 0x2219⟩, ⟨1, 0xb7⟩,
    ⟨1, 0x221a⟩, ⟨1, 0x207f⟩, ⟨1, 0xb2⟩, ⟨1, 0x25a0⟩, ⟨1, 0xa0⟩]

def cp720Upper : List CodeRun :=
  [⟨2, 0x80⟩, ⟨1, 0xe9⟩, ⟨1, 0xe2⟩, ⟨1, 0x84⟩, ⟨1, 0xe0⟩, ⟨1, 0x86⟩, ⟨1, 0xe7⟩, ⟨2, 0xea⟩,
    ⟨1, 0xe8⟩, ⟨1, 0xef⟩, ⟨1, 0xee⟩, ⟨4, 0x8d⟩, ⟨2, 0x651⟩, ⟨1, 0xf4⟩, ⟨1, 0xa4⟩, ⟨1, 0x640⟩,
    ⟨1, 0xfb⟩, ⟨1, 0xf9⟩, ⟨4, 0x621⟩, ⟨1, 0xa3⟩, ⟨17, 0x625⟩, ⟨1, 0xab⟩, ⟨1, 0xbb⟩, ⟨3, 0x2591⟩,
    ⟨1, 0x2502⟩, ⟨1, 0x2524⟩, ⟨2, 0x2561⟩, ⟨1, 0x2556⟩, ⟨1, 0x2555⟩, ⟨1, 0x2563⟩, ⟨1, 0x2551⟩,
    ⟨1, 0x2557⟩, ⟨1, 0x255d⟩, ⟨1, 0x255c⟩, ⟨1, 0x255b⟩, ⟨1, 0x2510⟩, ⟨1, 0x2514⟩, ⟨1, 0x2534⟩,
    ⟨1, 0x252c⟩, ⟨1, 0x251c⟩, ⟨1, 0x2500⟩, ⟨1, 0x253c⟩, ⟨2, 0x255e⟩, ⟨1, 0x255a⟩, ⟨1, 0x2554⟩,
    ⟨1, 0x2569⟩, ⟨1, 0x2566⟩, ⟨1, 0x2560⟩, ⟨1, 0x2550⟩, ⟨1, 0x256c⟩, ⟨2, 0x2567⟩, ⟨2, 0x2564⟩,
    ⟨1, 0x2559⟩, ⟨1, 0x2558⟩, ⟨2, 0x2552⟩, ⟨1, 0x256b⟩, ⟨1, 0x256a⟩, ⟨1, 0x2518⟩, ⟨1, 0x250c⟩,
    ⟨1, 0x2588⟩, ⟨1, 0x2584⟩, ⟨1, 0x258c⟩, ⟨1, 0x2590⟩, ⟨1, 0x2580⟩, ⟨5, 0x636⟩, ⟨1, 0x641⟩,
    ⟨1, 0xb5⟩, ⟨9, 0x642⟩, ⟨1, 0x2261⟩, ⟨6, 0x64b⟩, ⟨1, 0x2248⟩, ⟨1, 0xb0⟩, ⟨1, 0x2219⟩, ⟨1, 0xb7⟩,
    ⟨1, 0x221a⟩, ⟨1, 0x207f⟩, ⟨1, 0xb2⟩, ⟨1, 0x25a0⟩, ⟨1, 0xa0⟩]

def cp737Upper : List CodeRun :=
  [⟨17, 0x391⟩, ⟨7, 0x3a3⟩, ⟨17, 0x3b1⟩, ⟨1, 0x3c3⟩, ⟨1, 0x3c2⟩, ⟨5, 0x3c4⟩, ⟨3, 0x2591⟩,
    ⟨1, 0x2502⟩, ⟨1, 0x2524⟩, ⟨2, 0x2561⟩, ⟨1, 0x2556⟩, ⟨1, 0x2555⟩, ⟨1, 0x2563⟩, ⟨1, 0x2551⟩,
    ⟨1, 0x2557⟩, ⟨1, 0x255d⟩, ⟨1, 0x255c⟩, ⟨1, 0x255b⟩, ⟨1, 0x2510⟩, ⟨1, 0x2514⟩, ⟨1, 0x2534⟩,
    ⟨1, 0x252c⟩, ⟨1, 0x251c⟩, ⟨1, 0x2500⟩, ⟨1, 0x253c⟩, ⟨2, 0x255e⟩, ⟨1, 0x255a⟩, ⟨1, 0x2554⟩,
    ⟨1, 0x2569⟩, ⟨1, 0x2566⟩, ⟨1, 0x2560⟩, ⟨1, 0x2550⟩, ⟨1, 0x256c⟩, ⟨2, 0x2567⟩, ⟨2, 0x2564⟩,
    ⟨1, 0x2559⟩, ⟨1, 0x2558⟩, ⟨2, 0x2552⟩, ⟨1, 0x256b⟩, ⟨1, 0x256a⟩, ⟨1, 0x2518⟩, ⟨1, 0x250c⟩,
    ⟨1, 0x2588⟩, ⟨1, 0x2584⟩, ⟨1, 0x258c⟩, ⟨1, 0x2590⟩, ⟨1, 0x2580⟩, ⟨1, 0x3c9⟩, ⟨3, 0x3ac⟩,
    ⟨1, 0x3ca⟩, ⟨1, 0x3af⟩, ⟨2, 0x3cc⟩, ⟨1, 0x3cb⟩, ⟨1, 0x3ce⟩, ⟨1, 0x386⟩, ⟨3, 0x388⟩, ⟨1, 0x38c⟩,
    ⟨2, 0x38e⟩, ⟨1, 0xb1⟩, ⟨1, 0x2265⟩, ⟨1, 0x2264⟩, ⟨2, 0x3aa⟩, ⟨1, 0xf7⟩, ⟨1, 0x2248⟩, ⟨1, 0xb0⟩,
    ⟨1, 0x2219⟩, ⟨1, 0xb7⟩, ⟨1, 0x221a⟩, ⟨1, 0x207f⟩, ⟨1, 0xb2⟩, ⟨1, 0x25a0⟩, ⟨1, 0xa0⟩]

def cp775Upper : List CodeRun :=
  [⟨1, 0x106⟩, ⟨1, 0xfc⟩, ⟨1, 0xe9⟩, ⟨1, 0x101⟩, ⟨1, 0xe4⟩, ⟨1, 0x123⟩, ⟨1, 0xe5⟩, ⟨1, 0x107⟩,
    ⟨1, 0x142⟩, ⟨1, 0x113⟩, ⟨2, 0x156⟩, ⟨1, 0x12b⟩, ⟨1, 0x179⟩, ⟨2, 0xc4⟩, ⟨1, 0xc9⟩, ⟨1, 0xe6⟩,
    ⟨1, 0xc6⟩, ⟨1, 0x14d⟩, ⟨1, 0xf6⟩, ⟨1, 0x122⟩, ⟨1, 0xa2⟩, ⟨2, 0x15a⟩, ⟨1, 0xd6⟩, ⟨1, 0xdc⟩,
    ⟨1, 0xf8⟩, ⟨1, 0xa3⟩, ⟨1, 0xd8⟩, ⟨1, 0xd7⟩, ⟨1, 0xa4⟩, ⟨1, 0x100⟩, ⟨1, 0x12a⟩, ⟨1, 0xf3⟩,
    ⟨2, 0x17b⟩, ⟨1, 0x17a⟩, ⟨1, 0x201d⟩, ⟨1, 0xa6⟩, ⟨1, 0xa9⟩, ⟨1, 0xae⟩, ⟨1, 0xac⟩, ⟨1, 0xbd⟩,
    ⟨1, 0xbc⟩, ⟨1, 0x141⟩, ⟨1, 0xab⟩, ⟨1, 0xbb⟩, ⟨3, 0x2591⟩, ⟨1, 0x2502⟩, ⟨1, 0x2524⟩, ⟨1, 0x104⟩,
    ⟨1, 0x10c⟩, ⟨1, 0x118⟩, ⟨1, 0x116⟩, ⟨1, 0x2563⟩, ⟨1, 0x2551⟩, ⟨1, 0x2557⟩, ⟨1, 0x255d⟩,
    ⟨1, 0x12e⟩, ⟨1, 0x160⟩, ⟨1, 0x2510⟩, ⟨1, 0x2514⟩, ⟨1, 0x2534⟩, ⟨1, 0x252c⟩, ⟨1, 0x251c⟩,
    ⟨1, 0x2500⟩, ⟨1, 0x253c⟩, ⟨1, 0x172⟩, ⟨1, 0x16a⟩, ⟨1, 0x255a⟩, ⟨1, 0x2554⟩, ⟨1, 0x2569⟩,
    ⟨1, 0x2566⟩, ⟨1, 0x2560⟩, ⟨1, 0x2550⟩, ⟨1, 0x256c⟩, ⟨1, 0x17d⟩, ⟨1, 0x105⟩, ⟨1, 0x10d⟩,
    ⟨1, 0x119⟩, ⟨1, 0x117⟩, ⟨1, 0x12f⟩, ⟨1, 0x161⟩, ⟨1, 0x173⟩, ⟨1, 0x16b⟩, ⟨1, 0x17e⟩,
    ⟨1, 0x2518⟩, ⟨1, 0x250c⟩, ⟨1, 0x2588⟩, ⟨1, 0x2584⟩, ⟨1, 0x258c⟩, ⟨1, 0x2590⟩, ⟨1, 0x2580⟩,
    ⟨1, 0xd3⟩, ⟨1, 0xdf⟩, ⟨1, 0x14c⟩, ⟨1, 0x143⟩, ⟨1, 0xf5⟩, ⟨1, 0xd5⟩, ⟨1, 0xb5⟩, ⟨1, 0x144⟩,
    ⟨2, 0x136⟩, ⟨2, 0x13b⟩, ⟨1, 0x146⟩, ⟨1, 0x112⟩, ⟨1, 0x145⟩, ⟨1, 0x2019⟩, ⟨1, 0xad⟩, ⟨1, 0xb1⟩,
    ⟨1, 0x201c⟩, ⟨1, 0xbe⟩, ⟨1, 0xb6⟩, ⟨1, 0xa7⟩, ⟨1, 0xf7⟩, ⟨1, 0x201e⟩, ⟨1, 0xb0⟩, ⟨1, 0x2219⟩,
    ⟨1, 0xb7⟩, ⟨1, 0xb9⟩, ⟨1, 0xb3⟩, ⟨1, 0xb2⟩, ⟨1, 0x25a0⟩, ⟨1, 0xa0⟩]

def cp850Upper : List CodeRun :=
  [⟨1, 0xc7⟩, ⟨1, 0xfc⟩, ⟨1, 0xe9⟩, ⟨1, 0xe2⟩, ⟨1, 0xe4⟩, ⟨1, 0xe0⟩, ⟨1, 0xe5⟩, ⟨1, 0xe7⟩,
    ⟨2, 0xea⟩, ⟨1, 0xe8⟩, ⟨1, 0xef⟩, ⟨1, 0xee⟩, ⟨1, 0xec⟩, ⟨2, 0xc4⟩, ⟨1, 0xc9⟩, ⟨1, 0xe6⟩,
    ⟨1, 0xc6⟩, ⟨1, 0xf4⟩, ⟨1, 0xf6⟩, ⟨1, 0xf2⟩, ⟨1, 0xfb⟩, ⟨1, 0xf9⟩, ⟨1, 0xff⟩, ⟨1, 0xd6⟩,
    ⟨1, 0xdc⟩, ⟨1, 0xf8⟩, ⟨1, 0xa3⟩, ⟨1, 0xd8⟩, ⟨1, 0xd7⟩, ⟨1, 0x192⟩, ⟨1, 0xe1⟩, ⟨1, 0xed⟩,
    ⟨1, 0xf3⟩, ⟨1, 0xfa⟩, ⟨1, 0xf1⟩, ⟨1, 0xd1⟩, ⟨1, 0xaa⟩, ⟨1, 0xba⟩, ⟨1, 0xbf⟩, ⟨1, 0xae⟩,
    ⟨1, 0xac⟩, ⟨1, 0xbd⟩, ⟨1, 0xbc⟩, ⟨1, 0xa1⟩, ⟨1, 0xab⟩, ⟨1, 0xbb⟩, ⟨3, 0x2591⟩, ⟨1, 0x2502⟩,
    ⟨1, 0x2524⟩, ⟨2, 0xc1⟩, ⟨1, 0xc0⟩, ⟨1, 0xa9⟩, ⟨1, 0x2563⟩, ⟨1, 0x2551⟩, ⟨1, 0x2557⟩,
    ⟨1, 0x255d⟩, ⟨1, 0xa2⟩, ⟨1, 0xa5⟩, ⟨1, 0x2510⟩, ⟨1, 0x2514⟩, ⟨1, 0x2534⟩, ⟨1, 0x252c⟩,
    ⟨1, 0x251c⟩, ⟨1, 0x2500⟩, ⟨1, 0x253c⟩, ⟨1, 0xe3⟩, ⟨1, 0xc3⟩, ⟨1, 0x255a⟩, ⟨1, 0x2554⟩,
    ⟨1, 0x2569⟩, ⟨1, 0x2566⟩, ⟨1, 0x2560⟩, ⟨1, 0x2550⟩, ⟨1, 0x256c⟩, ⟨1, 0xa4⟩, ⟨1, 0xf0⟩,
    ⟨1, 0xd0⟩, ⟨2, 0xca⟩, ⟨1, 0xc8⟩, ⟨1, 0x131⟩, ⟨3, 0xcd⟩, ⟨1, 0x2518⟩, ⟨1, 0x250c⟩, ⟨1, 0x2588⟩,
    ⟨1, 0x2584⟩, ⟨1, 0xa6⟩, ⟨1, 0xcc⟩, ⟨1, 0x2580⟩, ⟨1, 0xd3⟩, ⟨1, 0xdf⟩, ⟨1, 0xd4⟩, ⟨1, 0xd2⟩,
    ⟨1, 0xf5⟩, ⟨1, 0xd5⟩, ⟨1, 0xb5⟩, ⟨1, 0xfe⟩, ⟨1, 0xde⟩, ⟨2, 0xda⟩, ⟨1, 0xd9⟩, ⟨1, 0xfd⟩,
    ⟨1, 0xdd⟩, ⟨1, 0xaf⟩, ⟨1, 0xb4⟩, ⟨1, 0xad⟩, ⟨1, 0xb1⟩, ⟨1, 0x2017⟩, ⟨1, 0xbe⟩, ⟨1, 0xb6⟩,
    ⟨1, 0xa7⟩, ⟨1, 0xf7⟩, ⟨1, 0xb8⟩, ⟨1, 0xb0⟩, ⟨1, 0xa8⟩, ⟨1, 0xb7⟩, ⟨1, 0xb9⟩, ⟨1, 0xb3⟩,
    ⟨1, 0xb2⟩, ⟨1, 0x25a0⟩, ⟨1, 0xa0⟩]

def cp852Upper : List CodeRun :=
  [⟨1, 0xc7⟩, ⟨1, 0xfc⟩, ⟨1, 0xe9⟩, ⟨1, 0xe2⟩, ⟨1, 0xe4⟩, ⟨1, 0x16f⟩, ⟨1, 0x107⟩, ⟨1, 0xe7⟩,
    ⟨1, 0x142⟩, ⟨1, 0xeb⟩, ⟨2, 0x150⟩, ⟨1, 0xee⟩, ⟨1, 0x179⟩, ⟨1, 0xc4⟩, ⟨1, 0x106⟩, ⟨1, 0xc9⟩,
    ⟨2, 0x139⟩, ⟨1, 0xf4⟩, ⟨1, 0xf6⟩, ⟨2, 0x13d⟩, ⟨2, 0x15a⟩, ⟨1, 0xd6⟩, ⟨1, 0xdc⟩, ⟨2, 0x164⟩,
    ⟨1, 0x141⟩, ⟨1, 0xd7⟩, ⟨1, 0x10d⟩, ⟨1, 0xe1⟩, ⟨1, 0xed⟩, ⟨1, 0xf3⟩, ⟨1, 0xfa⟩, ⟨2, 0x104⟩,
    ⟨2, 0x17d⟩, ⟨2, 0x118⟩, ⟨1, 0xac⟩, ⟨1, 0x17a⟩, ⟨1, 0x10c⟩, ⟨1, 0x15f⟩, ⟨1, 0xab⟩, ⟨1, 0xbb⟩,
    ⟨3, 0x2591⟩, ⟨1, 0x2502⟩, ⟨1, 0x2524⟩, ⟨2, 0xc1⟩, ⟨1, 0x11a⟩, ⟨1, 0x15e⟩, ⟨1, 0x2563⟩,
    ⟨1, 0x2551⟩, ⟨1, 0x2557⟩, ⟨1, 0x255d⟩, ⟨2, 0x17b⟩, ⟨1, 0x2510⟩, ⟨1, 0x2514⟩, ⟨1, 0x2534⟩,
    ⟨1, 0x252c⟩, ⟨1, 0x251c⟩, ⟨1, 0x2500⟩, ⟨1, 0x253c⟩, ⟨2, 0x102⟩, ⟨1, 0x255a⟩, ⟨1, 0x2554⟩,
    ⟨1, 0x2569⟩, ⟨1, 0x2566⟩, ⟨1, 0x2560⟩, ⟨1, 0x2550⟩, ⟨1, 0x256c⟩, ⟨1, 0xa4⟩, ⟨1, 0x111⟩,
    ⟨1, 0x110⟩, ⟨1, 0x10e⟩, ⟨1, 0xcb⟩, ⟨1, 0x10f⟩, ⟨1, 0x147⟩, ⟨2, 0xcd⟩, ⟨1, 0x11b⟩, ⟨1, 0x2518⟩,
    ⟨1, 0x250c⟩, ⟨1, 0x2588⟩, ⟨1, 0x2584⟩, ⟨1, 0x162⟩, ⟨1, 0x16e⟩, ⟨1, 0x2580⟩, ⟨1, 0xd3⟩,
    ⟨1, 0xdf⟩, ⟨1, 0xd4⟩, ⟨2, 0x143⟩, ⟨1, 0x148⟩, ⟨2, 0x160⟩, ⟨1, 0x154⟩, ⟨1, 0xda⟩, ⟨1, 0x155⟩,
    ⟨1, 0x170⟩, ⟨1, 0xfd⟩, ⟨1, 0xdd⟩, ⟨1, 0x163⟩, ⟨1, 0xb4⟩, ⟨1, 0xad⟩, ⟨1, 0x2dd⟩, ⟨1, 0x2db⟩,
    ⟨1, 0x2c7⟩, ⟨1, 0x2d8⟩, ⟨1, 0xa7⟩, ⟨1, 0xf7⟩, ⟨1, 0xb8⟩, ⟨1, 0xb0⟩, ⟨1, 0xa8⟩, ⟨1, 0x2d9⟩,
    ⟨1, 0x171⟩, ⟨2, 0x158⟩, ⟨1, 0x25a0⟩, ⟨1, 0xa0⟩]

def cp855Upper : List CodeRun :=
  [⟨1, 0x452⟩, ⟨1, 0x402⟩, ⟨1, 0x453⟩, ⟨1, 0x403⟩, ⟨1, 0x451⟩, ⟨1, 0x401⟩, ⟨1, 0x454⟩, ⟨1, 0x404⟩,
    ⟨1, 0x455⟩, ⟨1, 0x405⟩, ⟨1, 0x456⟩, ⟨1, 0x406⟩, ⟨1, 0x457⟩, ⟨1, 0x407⟩, ⟨1, 0x458⟩, ⟨1, 0x408⟩,
    ⟨1, 0x459⟩, ⟨1, 0x409⟩, ⟨1, 0x45a⟩, ⟨1, 0x40a⟩, ⟨1, 0x45b⟩, ⟨1, 0x40b⟩, ⟨1, 0x45c⟩, ⟨1, 0x40c⟩,
    ⟨1, 0x45e⟩, ⟨1, 0x40e⟩, ⟨1, 0x45f⟩, ⟨1, 0x40f⟩, ⟨1, 0x44e⟩, ⟨1, 0x42e⟩, ⟨1, 0x44a⟩, ⟨1, 0x42a⟩,
    ⟨1, 0x430⟩, ⟨1, 0x410⟩, ⟨1, 0x431⟩, ⟨1, 0x411⟩, ⟨1, 0x446⟩, ⟨1, 0x426⟩, ⟨1, 0x434⟩, ⟨1, 0x414⟩,
    ⟨1, 0x435⟩, ⟨1, 0x415⟩, ⟨1, 0x444⟩, ⟨1, 0x424⟩, ⟨1, 0x433⟩, ⟨1, 0x413⟩, ⟨1, 0xab⟩, ⟨1, 0xbb⟩,
    ⟨3, 0x2591⟩, ⟨1, 0x2502⟩, ⟨1, 0x2524⟩, ⟨1, 0x445⟩, ⟨1, 0x425⟩, ⟨1, 0x438⟩, ⟨1, 0x418⟩,
    ⟨1, 0x2563⟩, ⟨1, 0x2551⟩, ⟨1, 0x2557⟩, ⟨1, 0x255d⟩, ⟨1, 0x439⟩, ⟨1, 0x419⟩, ⟨1, 0x2510⟩,
    ⟨1, 0x2514⟩, ⟨1, 0x2534⟩, ⟨1, 0x252c⟩, ⟨1, 0x251c⟩, ⟨1, 0x2500⟩, ⟨1, 0x253c⟩, ⟨1, 0x43a⟩,
    ⟨1, 0x41a⟩, ⟨1, 0x255a⟩, ⟨1, 0x2554⟩, ⟨1, 0x2569⟩, ⟨1, 0x2566⟩, ⟨1, 0x2560⟩, ⟨1, 0x2550⟩,
    ⟨1, 0x256c⟩, ⟨1, 0xa4⟩, ⟨1, 0x43b⟩, ⟨1, 0x41b⟩, ⟨1, 0x43c⟩, ⟨1, 0x41c⟩, ⟨1, 0x43d⟩, ⟨1, 0x41d⟩,
    ⟨1, 0x43e⟩, ⟨1, 0x41e⟩, ⟨1, 0x43f⟩, ⟨1, 0x2518⟩, ⟨1, 0x250c⟩, ⟨1, 0x2588⟩, ⟨1, 0x2584⟩,
    ⟨1, 0x41f⟩, ⟨1, 0x44f⟩, ⟨1, 0x2580⟩, ⟨1, 0x42f⟩, ⟨1, 0x440⟩, ⟨1, 0x420⟩, ⟨1, 0x441⟩,
    ⟨1, 0x421⟩, ⟨1, 0x442⟩, ⟨1, 0x422⟩, ⟨1, 0x443⟩, ⟨1, 0x423⟩, ⟨1, 0x436⟩, ⟨1, 0x416⟩, ⟨1, 0x432⟩,
    ⟨1, 0x412⟩, ⟨1, 0x44c⟩, ⟨1, 0x42c⟩, ⟨1, 0x2116⟩, ⟨1, 0xad⟩, ⟨1, 0x44b⟩, ⟨1, 0x42b⟩, ⟨1, 0x437⟩,
    ⟨1, 0x417⟩, ⟨1, 0x448⟩, ⟨1, 0x428⟩, ⟨1, 0x44d⟩, ⟨1, 0x42d⟩, ⟨1, 0x449⟩, ⟨1, 0x429⟩, ⟨1, 0x447⟩,
    ⟨1, 0x427⟩, ⟨1, 0xa7⟩, ⟨1, 0x25a0⟩, ⟨1, 0xa0⟩]

def cp856Upper : List CodeRun :=
  [⟨27, 0x5d0⟩, ⟨1, 0xfffe⟩, ⟨1, 0xa3⟩, ⟨1, 0xfffe⟩, ⟨1, 0xd7⟩, ⟨10, 0xfffe⟩, ⟨1, 0xae⟩, ⟨1, 0xac⟩,
    ⟨1, 0xbd⟩, ⟨1, 0xbc⟩, ⟨1, 0xfffe⟩, ⟨1, 0xab⟩, ⟨1, 0xbb⟩, ⟨3, 0x2591⟩, ⟨1, 0x2502⟩, ⟨1, 0x2524⟩,
    ⟨3, 0xfffe⟩, ⟨1, 0xa9⟩, ⟨1, 0x2563⟩, ⟨1, 0x2551⟩, ⟨1, 0x2557⟩, ⟨1, 0x255d⟩, ⟨1, 0xa2⟩,
    ⟨1, 0xa5⟩, ⟨1, 0x2510⟩, ⟨1, 0x2514⟩, ⟨1, 0x2534⟩, ⟨1, 0x252c⟩, ⟨1, 0x251c⟩, ⟨1, 0x2500⟩,
    ⟨1, 0x253c⟩, ⟨2, 0xfffe⟩, ⟨1, 0x255a⟩, ⟨1, 0x2554⟩, ⟨1, 0x2569⟩, ⟨1, 0x2566⟩, ⟨1, 0x2560⟩,
    ⟨1, 0x2550⟩, ⟨1, 0x256c⟩, ⟨1, 0xa4⟩, ⟨9, 0xfffe⟩, ⟨1, 0x2518⟩, ⟨1, 0x250c⟩, ⟨1, 0x2588⟩,
    ⟨1, 0x2584⟩, ⟨1, 0xa6⟩, ⟨1, 0xfffe⟩, ⟨1, 0x2580⟩, ⟨6, 0xfffe⟩, ⟨1, 0xb5⟩, ⟨7, 0xfffe⟩,
    ⟨1, 0xaf⟩, ⟨1, 0xb4⟩, ⟨1, 0xad⟩, ⟨1, 0xb1⟩, ⟨1, 0x2017⟩, ⟨1, 0xbe⟩, ⟨1, 0xb6⟩, ⟨1, 0xa7⟩,
    ⟨1, 0xf7⟩, ⟨1, 0xb8⟩, ⟨1, 0xb0⟩, ⟨1, 0xa8⟩, ⟨1, 0xb7⟩, ⟨1, 0xb9⟩, ⟨1, 0xb3⟩, ⟨1, 0xb2⟩,
    ⟨1, 0x25a0⟩, ⟨1, 0xa0⟩]

def cp857Upper : List CodeRun :=
  [⟨1, 0xc7⟩, ⟨1, 0xfc⟩, ⟨1, 0xe9⟩, ⟨1, 0xe2⟩, ⟨1, 0xe4⟩, ⟨1, 0xe0⟩, ⟨1, 0xe5⟩, ⟨1, 0xe7⟩,
    ⟨2, 0xea⟩, ⟨1, 0xe8⟩, ⟨1, 0xef⟩, ⟨1, 0xee⟩, ⟨1, 0x131⟩, ⟨2, 0xc4⟩, ⟨1, 0xc9⟩, ⟨1, 0xe6⟩,
    ⟨1, 0xc6⟩, ⟨1, 0xf4⟩, ⟨1, 0xf6⟩, ⟨1, 0xf2⟩, ⟨1, 0xfb⟩, ⟨1, 0xf9⟩, ⟨1, 0x130⟩, ⟨1, 0xd6⟩,
    ⟨1, 0xdc⟩, ⟨1, 0xf8⟩, ⟨1, 0xa3⟩, ⟨1, 0xd8⟩, ⟨2, 0x15e⟩, ⟨1, 0xe1⟩, ⟨1, 0xed⟩, ⟨1, 0xf3⟩,
    ⟨1, 0xfa⟩, ⟨1, 0xf1⟩, ⟨1, 0xd1⟩, ⟨2, 0x11e⟩, ⟨1, 0xbf⟩, ⟨1, 0xae⟩, ⟨1, 0xac⟩, ⟨1, 0xbd⟩,
    ⟨1, 0xbc⟩, ⟨1, 0xa1⟩, ⟨1, 0xab⟩, ⟨1, 0xbb⟩, ⟨3, 0x2591⟩, ⟨1, 0x2502⟩, ⟨1, 0x2524⟩, ⟨2, 0xc1⟩,
    ⟨1, 0xc0⟩, ⟨1, 0xa9⟩, ⟨1, 0x2563⟩, ⟨1, 0x2551⟩, ⟨1, 0x2557⟩, ⟨1, 0x255d⟩, ⟨1, 0xa2⟩, ⟨1, 0xa5⟩,
    ⟨1, 0x2510⟩, ⟨1, 0x2514⟩, ⟨1, 0x2534⟩, ⟨1, 0x252c⟩, ⟨1, 0x251c⟩, ⟨1, 0x2500⟩, ⟨1, 0x253c⟩,
    ⟨1, 0xe3⟩, ⟨1, 0xc3⟩, ⟨1, 0x255a⟩, ⟨1, 0x2554⟩, ⟨1, 0x2569⟩, ⟨1, 0x2566⟩, ⟨1, 0x2560⟩,
    ⟨1, 0x2550⟩, ⟨1, 0x256c⟩, ⟨1, 0xa4⟩, ⟨1, 0xba⟩, ⟨1, 0xaa⟩, ⟨2, 0xca⟩, ⟨1, 0xc8⟩, ⟨1, 0xfffe⟩,
    ⟨3, 0xcd⟩, ⟨1, 0x2518⟩, ⟨1, 0x250c⟩, ⟨1, 0x2588⟩, ⟨1, 0x2584⟩, ⟨1, 0xa6⟩, ⟨1, 0xcc⟩,
    ⟨1, 0x2580⟩, ⟨1, 0xd3⟩, ⟨1, 0xdf⟩, ⟨1, 0xd4⟩, ⟨1, 0xd2⟩, ⟨1, 0xf5⟩, ⟨1, 0xd5⟩, ⟨1, 0xb5⟩,
    ⟨1, 0xfffe⟩, ⟨1, 0xd7⟩, ⟨2, 0xda⟩, ⟨1, 0xd9⟩, ⟨1, 0xec⟩, ⟨1, 0xff⟩, ⟨1, 0xaf⟩, ⟨1, 0xb4⟩,
    ⟨1, 0xad⟩, ⟨1, 0xb1⟩, ⟨1, 0xfffe⟩, ⟨1, 0xbe⟩, ⟨1, 0xb6⟩, ⟨1, 0xa7⟩, ⟨1, 0xf7⟩, ⟨1, 0xb8⟩,
    ⟨1, 0xb0⟩, ⟨1, 0xa8⟩, ⟨1, 0xb7⟩, ⟨1, 0xb9⟩, ⟨1, 0xb3⟩, ⟨1, 0xb2⟩, ⟨1, 0x25a0⟩, ⟨1, 0xa0⟩]

def cp858Upper : List CodeRun :=
  [⟨1, 0xc7⟩, ⟨1, 0xfc⟩, ⟨1, 0xe9⟩, ⟨1, 0xe2⟩, ⟨1, 0xe4⟩, ⟨1, 0xe0⟩, ⟨1, 0xe5⟩, ⟨1, 0xe7⟩,
    ⟨2, 0xea⟩, ⟨1, 0xe8⟩, ⟨1, 0xef⟩, ⟨1, 0xee⟩, ⟨1, 0xec⟩, ⟨2, 0xc4⟩, ⟨1, 0xc9⟩, ⟨1, 0xe6⟩,
    ⟨1, 0xc6⟩, ⟨1, 0xf4⟩, ⟨1, 0xf6⟩, ⟨1, 0xf2⟩, ⟨1, 0xfb⟩, ⟨1, 0xf9⟩, ⟨1, 0xff⟩, ⟨1, 0xd6⟩,
    ⟨1, 0xdc⟩, ⟨1, 0xf8⟩, ⟨1, 0xa3⟩, ⟨1, 0xd8⟩, ⟨1, 0xd7⟩, ⟨1, 0x192⟩, ⟨1, 0xe1⟩, ⟨1, 0xed⟩,
    ⟨1, 0xf3⟩, ⟨1, 0xfa⟩, ⟨1, 0xf1⟩, ⟨1, 0xd1⟩, ⟨1, 0xaa⟩, ⟨1, 0xba⟩, ⟨1, 0xbf⟩, ⟨1, 0xae⟩,
    ⟨1, 0xac⟩, ⟨1, 0xbd⟩, ⟨1, 0xbc⟩, ⟨1, 0xa1⟩, ⟨1, 0xab⟩, ⟨1, 0xbb⟩, ⟨3, 0x2591⟩, ⟨1, 0x2502⟩,
    ⟨1, 0x2524⟩, ⟨2, 0xc1⟩, ⟨1, 0xc0⟩, ⟨1, 0xa9⟩, ⟨1, 0x2563⟩, ⟨1, 0x2551⟩, ⟨1, 0x2557⟩,
    ⟨1, 0x255d⟩, ⟨1, 0xa2⟩, ⟨1, 0xa5⟩, ⟨1, 0x2510⟩, ⟨1, 0x2514⟩, ⟨1, 0x2534⟩, ⟨1, 0x252c⟩,
    ⟨1, 0x251c⟩, ⟨1, 0x2500⟩, ⟨1, 0x253c⟩, ⟨1, 0xe3⟩, ⟨1, 0xc3⟩, ⟨1, 0x255a⟩, ⟨1, 0x2554⟩,
    ⟨1, 0x2569⟩, ⟨1, 0x2566⟩, ⟨1, 0x2560⟩, ⟨1, 0x2550⟩, ⟨1, 0x256c⟩, ⟨1, 0xa4⟩, ⟨1, 0xf0⟩,
    ⟨1, 0xd0⟩, ⟨2, 0xca⟩, ⟨1, 0xc8⟩, ⟨1, 0x20ac⟩, ⟨3, 0xcd⟩, ⟨1, 0x2518⟩, ⟨1, 0x250c⟩, ⟨1, 0x2588⟩,
    ⟨1, 0x2584⟩, ⟨1, 0xa6⟩, ⟨1, 0xcc⟩, ⟨1, 0x2580⟩, ⟨1, 0xd3⟩, ⟨1, 0xdf⟩, ⟨1, 0xd4⟩, ⟨1, 0xd2⟩,
    ⟨1, 0xf5⟩, ⟨1, 0xd5⟩, ⟨1, 0xb5⟩, ⟨1, 0xfe⟩, ⟨1, 0xde⟩, ⟨2, 0xda⟩, ⟨1, 0xd9⟩, ⟨1, 0xfd⟩,
    ⟨1, 0xdd⟩, ⟨1, 0xaf⟩, ⟨1, 0xb4⟩, ⟨1, 0xad⟩, ⟨1, 0xb1⟩, ⟨1, 0x2017⟩, ⟨1, 0xbe⟩, ⟨1, 0xb6⟩,
    ⟨1, 0xa7⟩, ⟨1, 0xf7⟩, ⟨1, 0xb8⟩, ⟨1, 0xb0⟩, ⟨1, 0xa8⟩, ⟨1, 0xb7⟩, ⟨1, 0xb9⟩, ⟨1, 0xb3⟩,
    ⟨1, 0xb2⟩, ⟨1, 0x25a0⟩, ⟨1, 0xa0⟩]

def cp860Upper : List CodeRun :=
  [⟨1, 0xc7⟩, ⟨1, 0xfc⟩, ⟨1, 0xe9⟩, ⟨2, 0xe2⟩, ⟨1, 0xe0⟩, ⟨1, 0xc1⟩, ⟨1, 0xe7⟩, ⟨1, 0xea⟩,
    ⟨1, 0xca⟩, ⟨1, 0xe8⟩, ⟨1, 0xcd⟩, ⟨1, 0xd4⟩, ⟨1, 0xec⟩, ⟨1, 0xc3⟩, ⟨1, 0xc2⟩, ⟨1, 0xc9⟩,
    ⟨1, 0xc0⟩, ⟨1, 0xc8⟩, ⟨2, 0xf4⟩, ⟨1, 0xf2⟩, ⟨1, 0xda⟩, ⟨1, 0xf9⟩, ⟨1, 0xcc⟩, ⟨1, 0xd5⟩,
    ⟨1, 0xdc⟩, ⟨2, 0xa2⟩, ⟨1, 0xd9⟩, ⟨1, 0x20a7⟩, ⟨1, 0xd3⟩, ⟨1, 0xe1⟩, ⟨1, 0xed⟩, ⟨1, 0xf3⟩,
    ⟨1, 0xfa⟩, ⟨1, 0xf1⟩, ⟨1, 0xd1⟩, ⟨1, 0xaa⟩, ⟨1, 0xba⟩, ⟨1, 0xbf⟩, ⟨1, 0xd2⟩, ⟨1, 0xac⟩,
    ⟨1, 0xbd⟩, ⟨1, 0xbc⟩, ⟨1, 0xa1⟩, ⟨1, 0xab⟩, ⟨1, 0xbb⟩, ⟨3, 0x2591⟩, ⟨1, 0x2502⟩, ⟨1, 0x2524⟩,
    ⟨2, 0x2561⟩, ⟨1, 0x2556⟩, ⟨1, 0x2555⟩, ⟨1, 0x2563⟩, ⟨1, 0x2551⟩, ⟨1, 0x2557⟩, ⟨1, 0x255d⟩,
    ⟨1, 0x255c⟩, ⟨1, 0x255b⟩, ⟨1, 0x2510⟩, ⟨1, 0x2514⟩, ⟨1, 0x2534⟩, ⟨1, 0x252c⟩, ⟨1, 0x251c⟩,
    ⟨1, 0x2500⟩, ⟨1, 0x253c⟩, ⟨2, 0x255e⟩, ⟨1, 0x255a⟩, ⟨1, 0x2554⟩, ⟨1, 0x2569⟩, ⟨1, 0x2566⟩,
    ⟨1, 0x2560⟩, ⟨1, 0x2550⟩, ⟨1, 0x256c⟩, ⟨2, 0x2567⟩, ⟨2, 0x2564⟩, ⟨1, 0x2559⟩, ⟨1, 0x2558⟩,
    ⟨2, 0x2552⟩, ⟨1, 0x256b⟩, ⟨1, 0x256a⟩, ⟨1, 0x2518⟩, ⟨1, 0x250c⟩, ⟨1, 0x2588⟩, ⟨1, 0x2584⟩,
    ⟨1, 0x258c⟩, ⟨1, 0x2590⟩, ⟨1, 0x2580⟩, ⟨1, 0x3b1⟩, ⟨1, 0xdf⟩, ⟨1, 0x393⟩, ⟨1, 0x3c0⟩,
    ⟨1, 0x3a3⟩, ⟨1, 0x3c3⟩, ⟨1, 0xb5⟩, ⟨1, 0x3c4⟩, ⟨1, 0x3a6⟩, ⟨1, 0x398⟩, ⟨1, 0x3a9⟩, ⟨1, 0x3b4⟩,
    ⟨1, 0x221e⟩, ⟨1, 0x3c6⟩, ⟨1, 0x3b5⟩, ⟨1, 0x2229⟩, ⟨1, 0x2261⟩, ⟨1, 0xb1⟩, ⟨1, 0x2265⟩,
    ⟨1, 0x2264⟩, ⟨2, 0x2320⟩, ⟨1, 0xf7⟩, ⟨1, 0x2248⟩, ⟨1, 0xb0⟩, ⟨1, 0x2219⟩, ⟨1, 0xb7⟩,
    ⟨1, 0x221a⟩, ⟨1, 0x207f⟩, ⟨1, 0xb2⟩, ⟨1, 0x25a0⟩, ⟨1, 0xa0⟩]

def cp861Upper : List CodeRun :=
  [⟨1, 0xc7⟩, ⟨1, 0xfc⟩, ⟨1, 0xe9⟩, ⟨1, 0xe2⟩, ⟨1, 0xe4⟩, ⟨1, 0xe0⟩, ⟨1, 0xe5⟩, ⟨1, 0xe7⟩,
    ⟨2, 0xea⟩, ⟨1, 0xe8⟩, ⟨1, 0xd0⟩, ⟨1, 0xf0⟩, ⟨1, 0xde⟩, ⟨2, 0xc4⟩, ⟨1, 0xc9⟩, ⟨1, 0xe6⟩,
    ⟨1, 0xc6⟩, ⟨1, 0xf4⟩, ⟨1, 0xf6⟩, ⟨1, 0xfe⟩, ⟨1, 0xfb⟩, ⟨1, 0xdd⟩, ⟨1, 0xfd⟩, ⟨1, 0xd6⟩,
    ⟨1, 0xdc⟩, ⟨1, 0xf8⟩, ⟨1, 0xa3⟩, ⟨1, 0xd8⟩, ⟨1, 0x20a7⟩, ⟨1, 0x192⟩, ⟨1, 0xe1⟩, ⟨1, 0xed⟩,
    ⟨1, 0xf3⟩, ⟨1, 0xfa⟩, ⟨1, 0xc1⟩, ⟨1, 0xcd⟩, ⟨1, 0xd3⟩, ⟨1, 0xda⟩, ⟨1, 0xbf⟩, ⟨1, 0x2310⟩,
    ⟨1, 0xac⟩, ⟨1, 0xbd⟩, ⟨1, 0xbc⟩, ⟨1, 0xa1⟩, ⟨1, 0xab⟩, ⟨1, 0xbb⟩, ⟨3, 0x2591⟩, ⟨1, 0x2502⟩,
    ⟨1, 0x2524⟩, ⟨2, 0x2561⟩, ⟨1, 0x2556⟩, ⟨1, 0x2555⟩, ⟨1, 0x2563⟩, ⟨1, 0x2551⟩, ⟨1, 0x2557⟩,
    ⟨1, 0x255d⟩, ⟨1, 0x255c⟩, ⟨1, 0x255b⟩, ⟨1, 0x2510⟩, ⟨1, 0x2514⟩, ⟨1, 0x2534⟩, ⟨1, 0x252c⟩,
    ⟨1, 0x251c⟩, ⟨1, 0x2500⟩, ⟨1, 0x253c⟩, ⟨2, 0x255e⟩, ⟨1, 0x255a⟩, ⟨1, 0x2554⟩, ⟨1, 0x2569⟩,
    ⟨1, 0x2566⟩, ⟨1, 0x2560⟩, ⟨1, 0x2550⟩, ⟨1, 0x256c⟩, ⟨2, 0x2567⟩, ⟨2, 0x2564⟩, ⟨1, 0x2559⟩,
    ⟨1, 0x2558⟩, ⟨2, 0x2552⟩, ⟨1, 0x256b⟩, ⟨1, 0x256a⟩, ⟨1, 0x2518⟩, ⟨1, 0x250c⟩, ⟨1, 0x2588⟩,
    ⟨1, 0x2584⟩, ⟨1, 0x258c⟩, ⟨1, 0x2590⟩, ⟨1, 0x2580⟩, ⟨1, 0x3b1⟩, ⟨1, 0xdf⟩, ⟨1, 0x393⟩,
    ⟨1, 0x3c0⟩, ⟨1, 0x3a3⟩, ⟨1, 0x3c3⟩, ⟨1, 0xb5⟩, ⟨1, 0x3c4⟩, ⟨1, 0x3a6⟩, ⟨1, 0x398⟩, ⟨1, 0x3a9⟩,
    ⟨1, 0x3b4⟩, ⟨1, 0x221e⟩, ⟨1, 0x3c6⟩, ⟨1, 0x3b5⟩, ⟨1, 0x2229⟩, ⟨1, 0x2261⟩, ⟨1, 0xb1⟩,
    ⟨1, 0x2265⟩, ⟨1, 0x2264⟩, ⟨2, 0x2320⟩, ⟨1, 0xf7⟩, ⟨1, 0x2248⟩, ⟨1, 0xb0⟩, ⟨1, 0x2219⟩,
    ⟨1, 0xb7⟩, ⟨1, 0x221a⟩, ⟨1, 0x207f⟩, ⟨1, 0xb2⟩, ⟨1, 0x25a0⟩, ⟨1, 0xa0⟩]

def cp862Upper : List CodeRun :=
  [⟨27, 0x5d0⟩, ⟨2, 0xa2⟩, ⟨1, 0xa5⟩, ⟨1, 0x20a7⟩, ⟨1, 0x192⟩, ⟨1, 0xe1⟩, ⟨1, 0xed⟩, ⟨1, 0xf3⟩,
    ⟨1, 0xfa⟩, ⟨1, 0xf1⟩, ⟨1, 0xd1⟩, ⟨1, 0xaa⟩, ⟨1, 0xba⟩, ⟨1, 0xbf⟩, ⟨1, 0x2310⟩, ⟨1, 0xac⟩,
    ⟨1, 0xbd⟩, ⟨1, 0xbc⟩, ⟨1, 0xa1⟩, ⟨1, 0xab⟩, ⟨1, 0xbb⟩, ⟨3, 0x2591⟩, ⟨1, 0x2502⟩, ⟨1, 0x2524⟩,
    ⟨2, 0x2561⟩, ⟨1, 0x2556⟩, ⟨1, 0x2555⟩, ⟨1, 0x2563⟩, ⟨1, 0x2551⟩, ⟨1, 0x2557⟩, ⟨1, 0x255d⟩,
    ⟨1, 0x255c⟩, ⟨1, 0x255b⟩, ⟨1, 0x2510⟩, ⟨1, 0x2514⟩, ⟨1, 0x2534⟩, ⟨1, 0x252c⟩, ⟨1, 0x251c⟩,
    ⟨1, 0x2500⟩, ⟨1, 0x253c⟩, ⟨2, 0x255e⟩, ⟨1, 0x255a⟩, ⟨1, 0x2554⟩, ⟨1, 0x2569⟩, ⟨1, 0x2566⟩,
    ⟨1, 0x2560⟩, ⟨1, 0x2550⟩, ⟨1, 0x256c⟩, ⟨2, 0x2567⟩, ⟨2, 0x2564⟩, ⟨1, 0x2559⟩, ⟨1, 0x2558⟩,
    ⟨2, 0x2552⟩, ⟨1, 0x256b⟩, ⟨1, 0x256a⟩, ⟨1, 0x2518⟩, ⟨1, 0x250c⟩, ⟨1, 0x2588⟩, ⟨1, 0x2584⟩,
    ⟨1, 0x258c⟩, ⟨1, 0x2590⟩, ⟨1, 0x2580⟩, ⟨1, 0x3b1⟩, ⟨1, 0xdf⟩, ⟨1, 0x393⟩, ⟨1, 0x3c0⟩,
    ⟨1, 0x3a3⟩, ⟨1, 0x3c3⟩, ⟨1, 0xb5⟩, ⟨1, 0x3c4⟩, ⟨1, 0x3a6⟩, ⟨1, 0x398⟩, ⟨1, 0x3a9⟩, ⟨1, 0x3b4⟩,
    ⟨1, 0x221e⟩, ⟨1, 0x3c6⟩, ⟨1, 0x3b5⟩, ⟨1, 0x2229⟩, ⟨1, 0x2261⟩, ⟨1, 0xb1⟩, ⟨1, 0x2265⟩,
    ⟨1, 0x2264⟩, ⟨2, 0x2320⟩, ⟨1, 0xf7⟩, ⟨1, 0x2248⟩, ⟨1, 0xb0⟩, ⟨1, 0x2219⟩, ⟨1, 0xb7⟩,
    ⟨1, 0x221a⟩, ⟨1, 0x207f⟩, ⟨1, 0xb2⟩, ⟨1, 0x25a0⟩, ⟨1, 0xa0⟩]

def cp863Upper : List CodeRun :=
  [⟨1, 0xc7⟩, ⟨1, 0xfc⟩, ⟨1, 0xe9⟩, ⟨1, 0xe2⟩, ⟨1, 0xc2⟩, ⟨1, 0xe0⟩, ⟨1, 0xb6⟩, ⟨1, 0xe7⟩,
    ⟨2, 0xea⟩, ⟨1, 0xe8⟩, ⟨1, 0xef⟩, ⟨1, 0xee⟩, ⟨1, 0x2017⟩, ⟨1, 0xc0⟩, ⟨1, 0xa7⟩, ⟨1, 0xc9⟩,
    ⟨1, 0xc8⟩, ⟨1, 0xca⟩, ⟨1, 0xf4⟩, ⟨1, 0xcb⟩, ⟨1, 0xcf⟩, ⟨1, 0xfb⟩, ⟨1, 0xf9⟩, ⟨1, 0xa4⟩,
    ⟨1, 0xd4⟩, ⟨1, 0xdc⟩, ⟨2, 0xa2⟩, ⟨1, 0xd9⟩, ⟨1, 0xdb⟩, ⟨1, 0x192⟩, ⟨1, 0xa6⟩, ⟨1, 0xb4⟩,
    ⟨1, 0xf3⟩, ⟨1, 0xfa⟩, ⟨1, 0xa8⟩, ⟨1, 0xb8⟩, ⟨1, 0xb3⟩, ⟨1, 0xaf⟩, ⟨1, 0xce⟩, ⟨1, 0x2310⟩,
    ⟨1, 0xac⟩, ⟨1, 0xbd⟩, ⟨1, 0xbc⟩, ⟨1, 0xbe⟩, ⟨1, 0xab⟩, ⟨1, 0xbb⟩, ⟨3, 0x2591⟩, ⟨1, 0x2502⟩,
    ⟨1, 0x2524⟩, ⟨2, 0x2561⟩, ⟨1, 0x2556⟩, ⟨1, 0x2555⟩, ⟨1, 0x2563⟩, ⟨1, 0x2551⟩, ⟨1, 0x2557⟩,
    ⟨1, 0x255d⟩, ⟨1, 0x255c⟩, ⟨1, 0x255b⟩, ⟨1, 0x2510⟩, ⟨1, 0x2514⟩, ⟨1, 0x2534⟩, ⟨1, 0x252c⟩,
    ⟨1, 0x251c⟩, ⟨1, 0x2500⟩, ⟨1, 0x253c⟩, ⟨2, 0x255e⟩, ⟨1, 0x255a⟩, ⟨1, 0x2554⟩, ⟨1, 0x2569⟩,
    ⟨1, 0x2566⟩, ⟨1, 0x2560⟩, ⟨1, 0x2550⟩, ⟨1, 0x256c⟩, ⟨2, 0x2567⟩, ⟨2, 0x2564⟩, ⟨1, 0x2559⟩,
    ⟨1, 0x2558⟩, ⟨2, 0x2552⟩, ⟨1, 0x256b⟩, ⟨1, 0x256a⟩, ⟨1, 0x2518⟩, ⟨1, 0x250c⟩, ⟨1, 0x2588⟩,
    ⟨1, 0x2584⟩, ⟨1, 0x258c⟩, ⟨1, 0x2590⟩, ⟨1, 0x2580⟩, ⟨1, 0x3b1⟩, ⟨1, 0xdf⟩, ⟨1, 0x393⟩,
    ⟨1, 0x3c0⟩, ⟨1, 0x3a3⟩, ⟨1, 0x3c3⟩, ⟨1, 0xb5⟩, ⟨1, 0x3c4⟩, ⟨1, 0x3a6⟩, ⟨1, 0x398⟩, ⟨1, 0x3a9⟩,
    ⟨1, 0x3b4⟩, ⟨1, 0x221e⟩, ⟨1, 0x3c6⟩, ⟨1, 0x3b5⟩, ⟨1, 0x2229⟩, ⟨1, 0x2261⟩, ⟨1, 0xb1⟩,
    ⟨1, 0x2265⟩, ⟨1, 0x2264⟩, ⟨2, 0x2320⟩, ⟨1, 0xf7⟩, ⟨1, 0x2248⟩, ⟨1, 0xb0⟩, ⟨1, 0x2219⟩,
    ⟨1, 0xb7⟩, ⟨1, 0x221a⟩, ⟨1, 0x207f⟩, ⟨1, 0xb2⟩, ⟨1, 0x25a0⟩, ⟨1, 0xa0⟩]

def cp864Whole : List CodeRun :=
  [⟨37, 0x0⟩, ⟨1, 0x66a⟩, ⟨90, 0x26⟩, ⟨1, 0xb0⟩, ⟨1, 0xb7⟩, ⟨2, 0x2219⟩, ⟨1, 0x2592⟩, ⟨1, 0x2500⟩,
    ⟨1, 0x2502⟩, ⟨1, 0x253c⟩, ⟨1, 0x2524⟩, ⟨1, 0x252c⟩, ⟨1, 0x251c⟩, ⟨1, 0x2534⟩, ⟨1, 0x2510⟩,
    ⟨1, 0x250c⟩, ⟨1, 0x2514⟩, ⟨1, 0x2518⟩, ⟨1, 0x3b2⟩, ⟨1, 0x221e⟩, ⟨1, 0x3c6⟩, ⟨1, 0xb1⟩,
    ⟨1, 0xbd⟩, ⟨1, 0xbc⟩, ⟨1, 0x2248⟩, ⟨1, 0xab⟩, ⟨1, 0xbb⟩, ⟨2, 0xfef7⟩, ⟨2, 0xfffe⟩, ⟨2, 0xfefb⟩,
    ⟨1, 0xfffe⟩, ⟨1, 0xa0⟩, ⟨1, 0xad⟩, ⟨1, 0xfe82⟩, ⟨2, 0xa3⟩, ⟨1, 0xfe84⟩, ⟨2, 0xfffe⟩,
    ⟨2, 0xfe8e⟩, ⟨1, 0xfe95⟩, ⟨1, 0xfe99⟩, ⟨1, 0x60c⟩, ⟨1, 0xfe9d⟩, ⟨1, 0xfea1⟩, ⟨1, 0xfea5⟩,
    ⟨10, 0x660⟩, ⟨1, 0xfed1⟩, ⟨1, 0x61b⟩, ⟨1, 0xfeb1⟩, ⟨1, 0xfeb5⟩, ⟨1, 0xfeb9⟩, ⟨1, 0x61f⟩,
    ⟨1, 0xa2⟩, ⟨2, 0xfe80⟩, ⟨1, 0xfe83⟩, ⟨1, 0xfe85⟩, ⟨1, 0xfeca⟩, ⟨1, 0xfe8b⟩, ⟨1, 0xfe8d⟩,
    ⟨1, 0xfe91⟩, ⟨1, 0xfe93⟩, ⟨1, 0xfe97⟩, ⟨1, 0xfe9b⟩, ⟨1, 0xfe9f⟩, ⟨1, 0xfea3⟩, ⟨1, 0xfea7⟩,
    ⟨1, 0xfea9⟩, ⟨1, 0xfeab⟩, ⟨1, 0xfead⟩, ⟨1, 0xfeaf⟩, ⟨1, 0xfeb3⟩, ⟨1, 0xfeb7⟩, ⟨1, 0xfebb⟩,
    ⟨1, 0xfebf⟩, ⟨1, 0xfec1⟩, ⟨1, 0xfec5⟩, ⟨1, 0xfecb⟩, ⟨1, 0xfecf⟩, ⟨1, 0xa6⟩, ⟨1, 0xac⟩,
    ⟨1, 0xf7⟩, ⟨1, 0xd7⟩, ⟨1, 0xfec9⟩, ⟨1, 0x640⟩, ⟨1, 0xfed3⟩, ⟨1, 0xfed7⟩, ⟨1, 0xfedb⟩,
    ⟨1, 0xfedf⟩, ⟨1, 0xfee3⟩, ⟨1, 0xfee7⟩, ⟨1, 0xfeeb⟩, ⟨1, 0xfeed⟩, ⟨1, 0xfeef⟩, ⟨1, 0xfef3⟩,
    ⟨1, 0xfebd⟩, ⟨1, 0xfecc⟩, ⟨1, 0xfece⟩, ⟨1, 0xfecd⟩, ⟨1, 0xfee1⟩, ⟨1, 0xfe7d⟩, ⟨1, 0x651⟩,
    ⟨1, 0xfee5⟩, ⟨1, 0xfee9⟩, ⟨1, 0xfeec⟩, ⟨1, 0xfef0⟩, ⟨1, 0xfef2⟩, ⟨1, 0xfed0⟩, ⟨1, 0xfed5⟩,
    ⟨2, 0xfef5⟩, ⟨1, 0xfedd⟩, ⟨1, 0xfed9⟩, ⟨1, 0xfef1⟩, ⟨1, 0x25a0⟩, ⟨1, 0xfffe⟩]

def cp865Upper : List CodeRun :=
  [⟨1, 0xc7⟩, ⟨1, 0xfc⟩, ⟨1, 0xe9⟩, ⟨1, 0xe2⟩, ⟨1, 0xe4⟩, ⟨1, 0xe0⟩, ⟨1, 0xe5⟩, ⟨1, 0xe7⟩,
    ⟨2, 0xea⟩, ⟨1, 0xe8⟩, ⟨1, 0xef⟩, ⟨1, 0xee⟩, ⟨1, 0xec⟩, ⟨2, 0xc4⟩, ⟨1, 0xc9⟩, ⟨1, 0xe6⟩,
    ⟨1, 0xc6⟩, ⟨1, 0xf4⟩, ⟨1, 0xf6⟩, ⟨1, 0xf2⟩, ⟨1, 0xfb⟩, ⟨1, 0xf9⟩, ⟨1, 0xff⟩, ⟨1, 0xd6⟩,
    ⟨1, 0xdc⟩, ⟨1, 0xf8⟩, ⟨1, 0xa3⟩, ⟨1, 0xd8⟩, ⟨1, 0x20a7⟩, ⟨1, 0x192⟩, ⟨1, 0xe1⟩, ⟨1, 0xed⟩,
    ⟨1, 0xf3⟩, ⟨1, 0xfa⟩, ⟨1, 0xf1⟩, ⟨1, 0xd1⟩, ⟨1, 0xaa⟩, ⟨1, 0xba⟩, ⟨1, 0xbf⟩, ⟨1, 0x2310⟩,
    ⟨1, 0xac⟩, ⟨1, 0xbd⟩, ⟨1, 0xbc⟩, ⟨1, 0xa1⟩, ⟨1, 0xab⟩, ⟨1, 0xa4⟩, ⟨3, 0x2591⟩, ⟨1, 0x2502⟩,
    ⟨1, 0x2524⟩, ⟨2, 0x2561⟩, ⟨1, 0x2556⟩, ⟨1, 0x2555⟩, ⟨1, 0x2563⟩, ⟨1, 0x2551⟩, ⟨1, 0x2557⟩,
    ⟨1, 0x255d⟩, ⟨1, 0x255c⟩, ⟨1, 0x255b⟩, ⟨1, 0x2510⟩, ⟨1, 0x2514⟩, ⟨1, 0x2534⟩, ⟨1, 0x252c⟩,
    ⟨1, 0x251c⟩, ⟨1, 0x2500⟩, ⟨1, 0x253c⟩, ⟨2, 0x255e⟩, ⟨1, 0x255a⟩, ⟨1, 0x2554⟩, ⟨1, 0x2569⟩,
    ⟨1, 0x2566⟩, ⟨1, 0x2560⟩, ⟨1, 0x2550⟩, ⟨1, 0x256c⟩, ⟨2, 0x2567⟩, ⟨2, 0x2564⟩, ⟨1, 0x2559⟩,
    ⟨1, 0x2558⟩, ⟨2, 0x2552⟩, ⟨1, 0x256b⟩, ⟨1, 0x256a⟩, ⟨1, 0x2518⟩, ⟨1, 0x250c⟩, ⟨1, 0x2588⟩,
    ⟨1, 0x2584⟩, ⟨1, 0x258c⟩, ⟨1, 0x2590⟩, ⟨1, 0x2580⟩, ⟨1, 0x3b1⟩, ⟨1, 0xdf⟩, ⟨1, 0x393⟩,
    ⟨1, 0x3c0⟩, ⟨1, 0x3a3⟩, ⟨1, 0x3c3⟩, ⟨1, 0xb5⟩, ⟨1, 0x3c4⟩, ⟨1, 0x3a6⟩, ⟨1, 0x398⟩, ⟨1, 0x3a9⟩,
    ⟨1, 0x3b4⟩, ⟨1, 0x221e⟩, ⟨1, 0x3c6⟩, ⟨1, 0x3b5⟩, ⟨1, 0x2229⟩, ⟨1, 0x2261⟩, ⟨1, 0xb1⟩,
    ⟨1, 0x2265⟩, ⟨1, 0x2264⟩, ⟨2, 0x2320⟩, ⟨1, 0xf7⟩, ⟨1, 0x2248⟩, ⟨1, 0xb0⟩, ⟨1, 0x2219⟩,
    ⟨1, 0xb7⟩, ⟨1, 0x221a⟩, ⟨1, 0x207f⟩, ⟨1, 0xb2⟩, ⟨1, 0x25a0⟩, ⟨1, 0xa0⟩]

def cp866Upper : List CodeRun :=
  [⟨48, 0x410⟩, ⟨3, 0x2591⟩, ⟨1, 0x2502⟩, ⟨1, 0x2524⟩, ⟨2, 0x2561⟩, ⟨1, 0x2556⟩, ⟨1, 0x2555⟩,
    ⟨1, 0x2563⟩, ⟨1, 0x2551⟩, ⟨1, 0x2557⟩, ⟨1, 0x255d⟩, ⟨1, 0x255c⟩, ⟨1, 0x255b⟩, ⟨1, 0x2510⟩,
    ⟨1, 0x2514⟩, ⟨1, 0x2534⟩, ⟨1, 0x252c⟩, ⟨1, 0x251c⟩, ⟨1, 0x2500⟩, ⟨1, 0x253c⟩, ⟨2, 0x255e⟩,
    ⟨1, 0x255a⟩, ⟨1, 0x2554⟩, ⟨1, 0x2569⟩, ⟨1, 0x2566⟩, ⟨1, 0x2560⟩, ⟨1, 0x2550⟩, ⟨1, 0x256c⟩,
    ⟨2, 0x2567⟩, ⟨2, 0x2564⟩, ⟨1, 0x2559⟩, ⟨1, 0x2558⟩, ⟨2, 0x2552⟩, ⟨1, 0x256b⟩, ⟨1, 0x256a⟩,
    ⟨1, 0x2518⟩, ⟨1, 0x250c⟩, ⟨1, 0x2588⟩, ⟨1, 0x2584⟩, ⟨1, 0x258c⟩, ⟨1, 0x2590⟩, ⟨1, 0x2580⟩,
    ⟨16, 0x440⟩, ⟨1, 0x401⟩, ⟨1, 0x451⟩, ⟨1, 0x404⟩, ⟨1, 0x454⟩, ⟨1, 0x407⟩, ⟨1, 0x457⟩,
    ⟨1, 0x40e⟩, ⟨1, 0x45e⟩, ⟨1, 0xb0⟩, ⟨1, 0x2219⟩, ⟨1, 0xb7⟩, ⟨1, 0x221a⟩, ⟨1, 0x2116⟩, ⟨1, 0xa4⟩,
    ⟨1, 0x25a0⟩, ⟨1, 0xa0⟩]

def cp869Upper : List CodeRun :=
  [⟨6, 0xfffe⟩, ⟨1, 0x386⟩, ⟨1, 0xfffe⟩, ⟨1, 0xb7⟩, ⟨1, 0xac⟩, ⟨1, 0xa6⟩, ⟨2, 0x2018⟩, ⟨1, 0x388⟩,
    ⟨1, 0x2015⟩, ⟨2, 0x389⟩, ⟨1, 0x3aa⟩, ⟨1, 0x38c⟩, ⟨2, 0xfffe⟩, ⟨1, 0x38e⟩, ⟨1, 0x3ab⟩,
    ⟨1, 0xa9⟩, ⟨1, 0x38f⟩, ⟨2, 0xb2⟩, ⟨1, 0x3ac⟩, ⟨1, 0xa3⟩, ⟨3, 0x3ad⟩, ⟨1, 0x3ca⟩, ⟨1, 0x390⟩,
    ⟨2, 0x3cc⟩, ⟨7, 0x391⟩, ⟨1, 0xbd⟩, ⟨2, 0x398⟩, ⟨1, 0xab⟩, ⟨1, 0xbb⟩, ⟨3, 0x2591⟩, ⟨1, 0x2502⟩,
    ⟨1, 0x2524⟩, ⟨4, 0x39a⟩, ⟨1, 0x2563⟩, ⟨1, 0x2551⟩, ⟨1, 0x2557⟩, ⟨1, 0x255d⟩, ⟨2, 0x39e⟩,
    ⟨1, 0x2510⟩, ⟨1, 0x2514⟩, ⟨1, 0x2534⟩, ⟨1, 0x252c⟩, ⟨1, 0x251c⟩, ⟨1, 0x2500⟩, ⟨1, 0x253c⟩,
    ⟨2, 0x3a0⟩, ⟨1, 0x255a⟩, ⟨1, 0x2554⟩, ⟨1, 0x2569⟩, ⟨1, 0x2566⟩, ⟨1, 0x2560⟩, ⟨1, 0x2550⟩,
    ⟨1, 0x256c⟩, ⟨7, 0x3a3⟩, ⟨3, 0x3b1⟩, ⟨1, 0x2518⟩, ⟨1, 0x250c⟩, ⟨1, 0x2588⟩, ⟨1, 0x2584⟩,
    ⟨2, 0x3b4⟩, ⟨1, 0x2580⟩, ⟨12, 0x3b6⟩, ⟨1, 0x3c3⟩, ⟨1, 0x3c2⟩, ⟨1, 0x3c4⟩, ⟨1, 0x384⟩,
    ⟨1, 0xad⟩, ⟨1, 0xb1⟩, ⟨3, 0x3c5⟩, ⟨1, 0xa7⟩, ⟨1, 0x3c8⟩, ⟨1, 0x385⟩, ⟨1, 0xb0⟩, ⟨1, 0xa8⟩,
    ⟨1, 0x3c9⟩, ⟨1, 0x3cb⟩, ⟨1, 0x3b0⟩, ⟨1, 0x3ce⟩, ⟨1, 0x25a0⟩, ⟨1, 0xa0⟩]

def cp1006Upper : List CodeRun :=
  [⟨33, 0x80⟩, ⟨10, 0x6f0⟩, ⟨1, 0x60c⟩, ⟨1, 0x61b⟩, ⟨1, 0xad⟩, ⟨1, 0x61f⟩, ⟨1, 0xfe81⟩,
    ⟨2, 0xfe8d⟩, ⟨2, 0xfe8e⟩, ⟨1, 0xfe91⟩, ⟨1, 0xfb56⟩, ⟨1, 0xfb58⟩, ⟨1, 0xfe93⟩, ⟨1, 0xfe95⟩,
    ⟨1, 0xfe97⟩, ⟨1, 0xfb66⟩, ⟨1, 0xfb68⟩, ⟨1, 0xfe99⟩, ⟨1, 0xfe9b⟩, ⟨1, 0xfe9d⟩, ⟨1, 0xfe9f⟩,
    ⟨1, 0xfb7a⟩, ⟨1, 0xfb7c⟩, ⟨1, 0xfea1⟩, ⟨1, 0xfea3⟩, ⟨1, 0xfea5⟩, ⟨1, 0xfea7⟩, ⟨1, 0xfea9⟩,
    ⟨1, 0xfb84⟩, ⟨1, 0xfeab⟩, ⟨1, 0xfead⟩, ⟨1, 0xfb8c⟩, ⟨1, 0xfeaf⟩, ⟨1, 0xfb8a⟩, ⟨1, 0xfeb1⟩,
    ⟨1, 0xfeb3⟩, ⟨1, 0xfeb5⟩, ⟨1, 0xfeb7⟩, ⟨1, 0xfeb9⟩, ⟨1, 0xfebb⟩, ⟨1, 0xfebd⟩, ⟨1, 0xfebf⟩,
    ⟨1, 0xfec1⟩, ⟨1, 0xfec5⟩, ⟨9, 0xfec9⟩, ⟨1, 0xfed3⟩, ⟨1, 0xfed5⟩, ⟨1, 0xfed7⟩, ⟨1, 0xfed9⟩,
    ⟨1, 0xfedb⟩, ⟨1, 0xfb92⟩, ⟨1, 0xfb94⟩, ⟨1, 0xfedd⟩, ⟨3, 0xfedf⟩, ⟨1, 0xfee3⟩, ⟨1, 0xfb9e⟩,
    ⟨1, 0xfee5⟩, ⟨1, 0xfee7⟩, ⟨1, 0xfe85⟩, ⟨1, 0xfeed⟩, ⟨1, 0xfba6⟩, ⟨3, 0xfba8⟩, ⟨1, 0xfe80⟩,
    ⟨3, 0xfe89⟩, ⟨3, 0xfef1⟩, ⟨1, 0xfbb0⟩, ⟨1, 0xfbae⟩, ⟨2, 0xfe7c⟩]

def cp1125Upper : List CodeRun :=
  [⟨48, 0x410⟩, ⟨3, 0x2591⟩, ⟨1, 0x2502⟩, ⟨1, 0x2524⟩, ⟨2, 0x2561⟩, ⟨1, 0x2556⟩, ⟨1, 0x2555⟩,
    ⟨1, 0x2563⟩, ⟨1, 0x2551⟩, ⟨1, 0x2557⟩, ⟨1, 0x255d⟩, ⟨1, 0x255c⟩, ⟨1, 0x255b⟩, ⟨1, 0x2510⟩,
    ⟨1, 0x2514⟩, ⟨1, 0x2534⟩, ⟨1, 0x252c⟩, ⟨1, 0x251c⟩, ⟨1, 0x2500⟩, ⟨1, 0x253c⟩, ⟨2, 0x255e⟩,
    ⟨1, 0x255a⟩, ⟨1, 0x2554⟩, ⟨1, 0x2569⟩, ⟨1, 0x2566⟩, ⟨1, 0x2560⟩, ⟨1, 0x2550⟩, ⟨1, 0x256c⟩,
    ⟨2, 0x2567⟩, ⟨2, 0x2564⟩, ⟨1, 0x2559⟩, ⟨1, 0x2558⟩, ⟨2, 0x2552⟩, ⟨1, 0x256b⟩, ⟨1, 0x256a⟩,
    ⟨1, 0x2518⟩, ⟨1, 0x250c⟩, ⟨1, 0x2588⟩, ⟨1, 0x2584⟩, ⟨1, 0x258c⟩, ⟨1, 0x2590⟩, ⟨1, 0x2580⟩,
    ⟨16, 0x440⟩, ⟨1, 0x401⟩, ⟨1, 0x451⟩, ⟨2, 0x490⟩, ⟨1, 0x404⟩, ⟨1, 0x454⟩, ⟨1, 0x406⟩,
    ⟨1, 0x456⟩, ⟨1, 0x407⟩, ⟨1, 0x457⟩, ⟨1, 0xb7⟩, ⟨1, 0x221a⟩, ⟨1, 0x2116⟩, ⟨1, 0xa4⟩,
    ⟨1, 0x25a0⟩, ⟨1, 0xa0⟩]

end ProtectionLimits.Text
