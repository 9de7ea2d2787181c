import ProtectionLimits.Text.Charset

/-!
Contract: the character sets of the EBCDIC family.

Owns whole sets, since their lower halves are not ASCII either.
-/

set_option autoImplicit false

namespace ProtectionLimits.Text

def cp037Whole : List CodeRun :=
  [⟨4, 0x0⟩, ⟨1, 0x9c⟩, ⟨1, 0x9⟩, ⟨1, 0x86⟩, ⟨1, 0x7f⟩, ⟨1, 0x97⟩, ⟨2, 0x8d⟩, ⟨9, 0xb⟩, ⟨1, 0x9d⟩,
    ⟨1, 0x85⟩, ⟨1, 0x8⟩, ⟨1, 0x87⟩, ⟨2, 0x18⟩, ⟨1, 0x92⟩, ⟨1, 0x8f⟩, ⟨4, 0x1c⟩, ⟨5, 0x80⟩,
    ⟨1, 0xa⟩, ⟨1, 0x17⟩, ⟨1, 0x1b⟩, ⟨5, 0x88⟩, ⟨3, 0x5⟩, ⟨2, 0x90⟩, ⟨1, 0x16⟩, ⟨4, 0x93⟩, ⟨1, 0x4⟩,
    ⟨4, 0x98⟩, ⟨2, 0x14⟩, ⟨1, 0x9e⟩, ⟨1, 0x1a⟩, ⟨1, 0x20⟩, ⟨1, 0xa0⟩, ⟨1, 0xe2⟩, ⟨1, 0xe4⟩,
    ⟨2, 0xe0⟩, ⟨1, 0xe3⟩, ⟨1, 0xe5⟩, ⟨1, 0xe7⟩, ⟨1, 0xf1⟩, ⟨1, 0xa2⟩, ⟨1, 0x2e⟩, ⟨1, 0x3c⟩,
    ⟨1, 0x28⟩, ⟨1, 0x2b⟩, ⟨1, 0x7c⟩, ⟨1, 0x26⟩, ⟨3, 0xe9⟩, ⟨1, 0xe8⟩, ⟨3, 0xed⟩, ⟨1, 0xec⟩,
    ⟨1, 0xdf⟩, ⟨1, 0x21⟩, ⟨1, 0x24⟩, ⟨1, 0x2a⟩, ⟨1, 0x29⟩, ⟨1, 0x3b⟩, ⟨1, 0xac⟩, ⟨1, 0x2d⟩,
    ⟨1, 0x2f⟩, ⟨1, 0xc2⟩, ⟨1, 0xc4⟩, ⟨2, 0xc0⟩, ⟨1, 0xc3⟩, ⟨1, 0xc5⟩, ⟨1, 0xc7⟩, ⟨1, 0xd1⟩,
    ⟨1, 0xa6⟩, ⟨1, 0x2c⟩, ⟨1, 0x25⟩, ⟨1, 0x5f⟩, ⟨2, 0x3e⟩, ⟨1, 0xf8⟩, ⟨3, 0xc9⟩, ⟨1, 0xc8⟩,
    ⟨3, 0xcd⟩, ⟨1, 0xcc⟩, ⟨1, 0x60⟩, ⟨1, 0x3a⟩, ⟨1, 0x23⟩, ⟨1, 0x40⟩, ⟨1, 0x27⟩, ⟨1, 0x3d⟩,
    ⟨1, 0x22⟩, ⟨1, 0xd8⟩, ⟨9, 0x61⟩, ⟨1, 0xab⟩, ⟨1, 0xbb⟩, ⟨1, 0xf0⟩, ⟨2, 0xfd⟩, ⟨1, 0xb1⟩,
    ⟨1, 0xb0⟩, ⟨9, 0x6a⟩, ⟨1, 0xaa⟩, ⟨1, 0xba⟩, ⟨1, 0xe6⟩, ⟨1, 0xb8⟩, ⟨1, 0xc6⟩, ⟨1, 0xa4⟩,
    ⟨1, 0xb5⟩, ⟨1, 0x7e⟩, ⟨8, 0x73⟩, ⟨1, 0xa1⟩, ⟨1, 0xbf⟩, ⟨1, 0xd0⟩, ⟨2, 0xdd⟩, ⟨1, 0xae⟩,
    ⟨1, 0x5e⟩, ⟨1, 0xa3⟩, ⟨1, 0xa5⟩, ⟨1, 0xb7⟩, ⟨1, 0xa9⟩, ⟨1, 0xa7⟩, ⟨1, 0xb6⟩, ⟨3, 0xbc⟩,
    ⟨1, 0x5b⟩, ⟨1, 0x5d⟩, ⟨1, 0xaf⟩, ⟨1, 0xa8⟩, ⟨1, 0xb4⟩, ⟨1, 0xd7⟩, ⟨1, 0x7b⟩, ⟨9, 0x41⟩,
    ⟨1, 0xad⟩, ⟨1, 0xf4⟩, ⟨1, 0xf6⟩, ⟨2, 0xf2⟩, ⟨1, 0xf5⟩, ⟨1, 0x7d⟩, ⟨9, 0x4a⟩, ⟨1, 0xb9⟩,
    ⟨2, 0xfb⟩, ⟨2, 0xf9⟩, ⟨1, 0xff⟩, ⟨1, 0x5c⟩, ⟨1, 0xf7⟩, ⟨8, 0x53⟩, ⟨1, 0xb2⟩, ⟨1, 0xd4⟩,
    ⟨1, 0xd6⟩, ⟨2, 0xd2⟩, ⟨1, 0xd5⟩, ⟨10, 0x30⟩, ⟨1, 0xb3⟩, ⟨2, 0xdb⟩, ⟨2, 0xd9⟩, ⟨1, 0x9f⟩]

def cp273Whole : List CodeRun :=
  [⟨4, 0x0⟩, ⟨1, 0x9c⟩, ⟨1, 0x9⟩, ⟨1, 0x86⟩, ⟨1, 0x7f⟩, ⟨1, 0x97⟩, ⟨2, 0x8d⟩, ⟨9, 0xb⟩, ⟨1, 0x9d⟩,
    ⟨1, 0x85⟩, ⟨1, 0x8⟩, ⟨1, 0x87⟩, ⟨2, 0x18⟩, ⟨1, 0x92⟩, ⟨1, 0x8f⟩, ⟨4, 0x1c⟩, ⟨5, 0x80⟩,
    ⟨1, 0xa⟩, ⟨1, 0x17⟩, ⟨1, 0x1b⟩, ⟨5, 0x88⟩, ⟨3, 0x5⟩, ⟨2, 0x90⟩, ⟨1, 0x16⟩, ⟨4, 0x93⟩, ⟨1, 0x4⟩,
    ⟨4, 0x98⟩, ⟨2, 0x14⟩, ⟨1, 0x9e⟩, ⟨1, 0x1a⟩, ⟨1, 0x20⟩, ⟨1, 0xa0⟩, ⟨1, 0xe2⟩, ⟨1, 0x7b⟩,
    ⟨2, 0xe0⟩, ⟨1, 0xe3⟩, ⟨1, 0xe5⟩, ⟨1, 0xe7⟩, ⟨1, 0xf1⟩, ⟨1, 0xc4⟩, ⟨1, 0x2e⟩, ⟨1, 0x3c⟩,
    ⟨1, 0x28⟩, ⟨1, 0x2b⟩, ⟨1, 0x21⟩, ⟨1, 0x26⟩, ⟨3, 0xe9⟩, ⟨1, 0xe8⟩, ⟨3, 0xed⟩, ⟨1, 0xec⟩,
    ⟨1, 0x7e⟩, ⟨1, 0xdc⟩, ⟨1, 0x24⟩, ⟨1, 0x2a⟩, ⟨1, 0x29⟩, ⟨1, 0x3b⟩, ⟨1, 0x5e⟩, ⟨1, 0x2d⟩,
    ⟨1, 0x2f⟩, ⟨1, 0xc2⟩, ⟨1, 0x5b⟩, ⟨2, 0xc0⟩, ⟨1, 0xc3⟩, ⟨1, 0xc5⟩, ⟨1, 0xc7⟩, ⟨1, 0xd1⟩,
    ⟨1, 0xf6⟩, ⟨1, 0x2c⟩, ⟨1, 0x25⟩, ⟨1, 0x5f⟩, ⟨2, 0x3e⟩, ⟨1, 0xf8⟩, ⟨3, 0xc9⟩, ⟨1, 0xc8⟩,
    ⟨3, 0xcd⟩, ⟨1, 0xcc⟩, ⟨1, 0x60⟩, ⟨1, 0x3a⟩, ⟨1, 0x23⟩, ⟨1, 0xa7⟩, ⟨1, 0x27⟩, ⟨1, 0x3d⟩,
    ⟨1, 0x22⟩, ⟨1, 0xd8⟩, ⟨9, 0x61⟩, ⟨1, 0xab⟩, ⟨1, 0xbb⟩, ⟨1, 0xf0⟩, ⟨2, 0xfd⟩, ⟨1, 0xb1⟩,
    ⟨1, 0xb0⟩, ⟨9, 0x6a⟩, ⟨1, 0xaa⟩, ⟨1, 0xba⟩, ⟨1, 0xe6⟩, ⟨1, 0xb8⟩, ⟨1, 0xc6⟩, ⟨1, 0xa4⟩,
    ⟨1, 0xb5⟩, ⟨1, 0xdf⟩, ⟨8, 0x73⟩, ⟨1, 0xa1⟩, ⟨1, 0xbf⟩, ⟨1, 0xd0⟩, ⟨2, 0xdd⟩, ⟨1, 0xae⟩,
    ⟨2, 0xa2⟩, ⟨1, 0xa5⟩, ⟨1, 0xb7⟩, ⟨1, 0xa9⟩, ⟨1, 0x40⟩, ⟨1, 0xb6⟩, ⟨3, 0xbc⟩, ⟨1, 0xac⟩,
    ⟨1, 0x7c⟩, ⟨1, 0x203e⟩, ⟨1, 0xa8⟩, ⟨1, 0xb4⟩, ⟨1, 0xd7⟩, ⟨1, 0xe4⟩, ⟨9, 0x41⟩, ⟨1, 0xad⟩,
    ⟨1, 0xf4⟩, ⟨1, 0xa6⟩, ⟨2, 0xf2⟩, ⟨1, 0xf5⟩, ⟨1, 0xfc⟩, ⟨9, 0x4a⟩, ⟨1, 0xb9⟩, ⟨1, 0xfb⟩,
    ⟨1, 0x7d⟩, ⟨2, 0xf9⟩, ⟨1, 0xff⟩, ⟨1, 0xd6⟩, ⟨1, 0xf7⟩, ⟨8, 0x53⟩, ⟨1, 0xb2⟩, ⟨1, 0xd4⟩,
    ⟨1, 0x5c⟩, ⟨2, 0xd2⟩, ⟨1, 0xd5⟩, ⟨10, 0x30⟩, ⟨1, 0xb3⟩, ⟨1, 0xdb⟩, ⟨1, 0x5d⟩, ⟨2, 0xd9⟩,
    ⟨1, 0x9f⟩]

def cp424Whole : List CodeRun :=
  [⟨4, 0x0⟩, ⟨1, 0x9c⟩, ⟨1, 0x9⟩, ⟨1, 0x86⟩, ⟨1, 0x7f⟩, ⟨1, 0x97⟩, ⟨2, 0x8d⟩, ⟨9, 0xb⟩, ⟨1, 0x9d⟩,
    ⟨1, 0x85⟩, ⟨1, 0x8⟩, ⟨1, 0x87⟩, ⟨2, 0x18⟩, ⟨1, 0x92⟩, ⟨1, 0x8f⟩, ⟨4, 0x1c⟩, ⟨5, 0x80⟩,
    ⟨1, 0xa⟩, ⟨1, 0x17⟩, ⟨1, 0x1b⟩, ⟨5, 0x88⟩, ⟨3, 0x5⟩, ⟨2, 0x90⟩, ⟨1, 0x16⟩, ⟨4, 0x93⟩, ⟨1, 0x4⟩,
    ⟨4, 0x98⟩, ⟨2, 0x14⟩, ⟨1, 0x9e⟩, ⟨1, 0x1a⟩, ⟨1, 0x20⟩, ⟨9, 0x5d0⟩, ⟨1, 0xa2⟩, ⟨1, 0x2e⟩,
    ⟨1, 0x3c⟩, ⟨1, 0x28⟩, ⟨1, 0x2b⟩, ⟨1, 0x7c⟩, ⟨1, 0x26⟩, ⟨9, 0x5d9⟩, ⟨1, 0x21⟩, ⟨1, 0x24⟩,
    ⟨1, 0x2a⟩, ⟨1, 0x29⟩, ⟨1, 0x3b⟩, ⟨1, 0xac⟩, ⟨1, 0x2d⟩, ⟨1, 0x2f⟩, ⟨8, 0x5e2⟩, ⟨1, 0xa6⟩,
    ⟨1, 0x2c⟩, ⟨1, 0x25⟩, ⟨1, 0x5f⟩, ⟨2, 0x3e⟩, ⟨1, 0xfffe⟩, ⟨1, 0x5ea⟩, ⟨2, 0xfffe⟩, ⟨1, 0xa0⟩,
    ⟨3, 0xfffe⟩, ⟨1, 0x2017⟩, ⟨1, 0x60⟩, ⟨1, 0x3a⟩, ⟨1, 0x23⟩, ⟨1, 0x40⟩, ⟨1, 0x27⟩, ⟨1, 0x3d⟩,
    ⟨1, 0x22⟩, ⟨1, 0xfffe⟩, ⟨9, 0x61⟩, ⟨1, 0xab⟩, ⟨1, 0xbb⟩, ⟨3, 0xfffe⟩, ⟨1, 0xb1⟩, ⟨1, 0xb0⟩,
    ⟨9, 0x6a⟩, ⟨3, 0xfffe⟩, ⟨1, 0xb8⟩, ⟨1, 0xfffe⟩, ⟨1, 0xa4⟩, ⟨1, 0xb5⟩, ⟨1, 0x7e⟩, ⟨8, 0x73⟩,
    ⟨5, 0xfffe⟩, ⟨1, 0xae⟩, ⟨1, 0x5e⟩, ⟨1, 0xa3⟩, ⟨1, 0xa5⟩, ⟨1, 0xb7⟩, ⟨1, 0xa9⟩, ⟨1, 0xa7⟩,
    ⟨1, 0xb6⟩, ⟨3, 0xbc⟩, ⟨1, 0x5b⟩, ⟨1, 0x5d⟩, ⟨1, 0xaf⟩, ⟨1, 0xa8⟩, ⟨1, 0xb4⟩, ⟨1, 0xd7⟩,
    ⟨1, 0x7b⟩, ⟨9, 0x41⟩, ⟨1, 0xad⟩, ⟨5, 0xfffe⟩, ⟨1, 0x7d⟩, ⟨9, 0x4a⟩, ⟨1, 0xb9⟩, ⟨5, 0xfffe⟩,
    ⟨1, 0x5c⟩, ⟨1, 0xf7⟩, ⟨8, 0x53⟩, ⟨1, 0xb2⟩, ⟨5, 0xfffe⟩, ⟨10, 0x30⟩, ⟨1, 0xb3⟩, ⟨4, 0xfffe⟩,
    ⟨1, 0x9f⟩]

def cp500Whole : List CodeRun :=
  [⟨4, 0x0⟩, ⟨1, 0x9c⟩, ⟨1, 0x9⟩, ⟨1, 0x86⟩, ⟨1, 0x7f⟩, ⟨1, 0x97⟩, ⟨2, 0x8d⟩, ⟨9, 0xb⟩, ⟨1, 0x9d⟩,
    ⟨1, 0x85⟩, ⟨1, 0x8⟩, ⟨1, 0x87⟩, ⟨2, 0x18⟩, ⟨1, 0x92⟩, ⟨1, 0x8f⟩, ⟨4, 0x1c⟩, ⟨5, 0x80⟩,
    ⟨1, 0xa⟩, ⟨1, 0x17⟩, ⟨1, 0x1b⟩, ⟨5, 0x88⟩, ⟨3, 0x5⟩, ⟨2, 0x90⟩, ⟨1, 0x16⟩, ⟨4, 0x93⟩, ⟨1, 0x4⟩,
    ⟨4, 0x98⟩, ⟨2, 0x14⟩, ⟨1, 0x9e⟩, ⟨1, 0x1a⟩, ⟨1, 0x20⟩, ⟨1, 0xa0⟩, ⟨1, 0xe2⟩, ⟨1, 0xe4⟩,
    ⟨2, 0xe0⟩, ⟨1, 0xe3⟩, ⟨1, 0xe5⟩, ⟨1, 0xe7⟩, ⟨1, 0xf1⟩, ⟨1, 0x5b⟩, ⟨1, 0x2e⟩, ⟨1, 0x3c⟩,
    ⟨1, 0x28⟩, ⟨1, 0x2b⟩, ⟨1, 0x21⟩, ⟨1, 0x26⟩, ⟨3, 0xe9⟩, ⟨1, 0xe8⟩, ⟨3, 0xed⟩, ⟨1, 0xec⟩,
    ⟨1, 0xdf⟩, ⟨1, 0x5d⟩, ⟨1, 0x24⟩, ⟨1, 0x2a⟩, ⟨1, 0x29⟩, ⟨1, 0x3b⟩, ⟨1, 0x5e⟩, ⟨1, 0x2d⟩,
    ⟨1, 0x2f⟩, ⟨1, 0xc2⟩, ⟨1, 0xc4⟩, ⟨2, 0xc0⟩, ⟨1, 0xc3⟩, ⟨1, 0xc5⟩, ⟨1, 0xc7⟩, ⟨1, 0xd1⟩,
    ⟨1, 0xa6⟩, ⟨1, 0x2c⟩, ⟨1, 0x25⟩, ⟨1, 0x5f⟩, ⟨2, 0x3e⟩, ⟨1, 0xf8⟩, ⟨3, 0xc9⟩, ⟨1, 0xc8⟩,
    ⟨3, 0xcd⟩, ⟨1, 0xcc⟩, ⟨1, 0x60⟩, ⟨1, 0x3a⟩, ⟨1, 0x23⟩, ⟨1, 0x40⟩, ⟨1, 0x27⟩, ⟨1, 0x3d⟩,
    ⟨1, 0x22⟩, ⟨1, 0xd8⟩, ⟨9, 0x61⟩, ⟨1, 0xab⟩, ⟨1, 0xbb⟩, ⟨1, 0xf0⟩, ⟨2, 0xfd⟩, ⟨1, 0xb1⟩,
    ⟨1, 0xb0⟩, ⟨9, 0x6a⟩, ⟨1, 0xaa⟩, ⟨1, 0xba⟩, ⟨1, 0xe6⟩, ⟨1, 0xb8⟩, ⟨1, 0xc6⟩, ⟨1, 0xa4⟩,
    ⟨1, 0xb5⟩, ⟨1, 0x7e⟩, ⟨8, 0x73⟩, ⟨1, 0xa1⟩, ⟨1, 0xbf⟩, ⟨1, 0xd0⟩, ⟨2, 0xdd⟩, ⟨1, 0xae⟩,
    ⟨2, 0xa2⟩, ⟨1, 0xa5⟩, ⟨1, 0xb7⟩, ⟨1, 0xa9⟩, ⟨1, 0xa7⟩, ⟨1, 0xb6⟩, ⟨3, 0xbc⟩, ⟨1, 0xac⟩,
    ⟨1, 0x7c⟩, ⟨1, 0xaf⟩, ⟨1, 0xa8⟩, ⟨1, 0xb4⟩, ⟨1, 0xd7⟩, ⟨1, 0x7b⟩, ⟨9, 0x41⟩, ⟨1, 0xad⟩,
    ⟨1, 0xf4⟩, ⟨1, 0xf6⟩, ⟨2, 0xf2⟩, ⟨1, 0xf5⟩, ⟨1, 0x7d⟩, ⟨9, 0x4a⟩, ⟨1, 0xb9⟩, ⟨2, 0xfb⟩,
    ⟨2, 0xf9⟩, ⟨1, 0xff⟩, ⟨1, 0x5c⟩, ⟨1, 0xf7⟩, ⟨8, 0x53⟩, ⟨1, 0xb2⟩, ⟨1, 0xd4⟩, ⟨1, 0xd6⟩,
    ⟨2, 0xd2⟩, ⟨1, 0xd5⟩, ⟨10, 0x30⟩, ⟨1, 0xb3⟩, ⟨2, 0xdb⟩, ⟨2, 0xd9⟩, ⟨1, 0x9f⟩]

def cp875Whole : List CodeRun :=
  [⟨4, 0x0⟩, ⟨1, 0x9c⟩, ⟨1, 0x9⟩, ⟨1, 0x86⟩, ⟨1, 0x7f⟩, ⟨1, 0x97⟩, ⟨2, 0x8d⟩, ⟨9, 0xb⟩, ⟨1, 0x9d⟩,
    ⟨1, 0x85⟩, ⟨1, 0x8⟩, ⟨1, 0x87⟩, ⟨2, 0x18⟩, ⟨1, 0x92⟩, ⟨1, 0x8f⟩, ⟨4, 0x1c⟩, ⟨5, 0x80⟩,
    ⟨1, 0xa⟩, ⟨1, 0x17⟩, ⟨1, 0x1b⟩, ⟨5, 0x88⟩, ⟨3, 0x5⟩, ⟨2, 0x90⟩, ⟨1, 0x16⟩, ⟨4, 0x93⟩, ⟨1, 0x4⟩,
    ⟨4, 0x98⟩, ⟨2, 0x14⟩, ⟨1, 0x9e⟩, ⟨1, 0x1a⟩, ⟨1, 0x20⟩, ⟨9, 0x391⟩, ⟨1, 0x5b⟩, ⟨1, 0x2e⟩,
    ⟨1, 0x3c⟩, ⟨1, 0x28⟩, ⟨1, 0x2b⟩, ⟨1, 0x21⟩, ⟨1, 0x26⟩, ⟨8, 0x39a⟩, ⟨1, 0x3a3⟩, ⟨1, 0x5d⟩,
    ⟨1, 0x24⟩, ⟨1, 0x2a⟩, ⟨1, 0x29⟩, ⟨1, 0x3b⟩, ⟨1, 0x5e⟩, ⟨1, 0x2d⟩, ⟨1, 0x2f⟩, ⟨8, 0x3a4⟩,
    ⟨1, 0x7c⟩, ⟨1, 0x2c⟩, ⟨1, 0x25⟩, ⟨1, 0x5f⟩, ⟨2, 0x3e⟩, ⟨1, 0xa8⟩, ⟨1, 0x386⟩, ⟨2, 0x388⟩,
    ⟨1, 0xa0⟩, ⟨1, 0x38a⟩, ⟨1, 0x38c⟩, ⟨2, 0x38e⟩, ⟨1, 0x60⟩, ⟨1, 0x3a⟩, ⟨1, 0x23⟩, ⟨1, 0x40⟩,
    ⟨1, 0x27⟩, ⟨1, 0x3d⟩, ⟨1, 0x22⟩, ⟨1, 0x385⟩, ⟨9, 0x61⟩, ⟨6, 0x3b1⟩, ⟨1, 0xb0⟩, ⟨9, 0x6a⟩,
    ⟨6, 0x3b7⟩, ⟨1, 0xb4⟩, ⟨1, 0x7e⟩, ⟨8, 0x73⟩, ⟨5, 0x3bd⟩, ⟨1, 0x3c3⟩, ⟨1, 0xa3⟩, ⟨3, 0x3ac⟩,
    ⟨1, 0x3ca⟩, ⟨1, 0x3af⟩, ⟨2, 0x3cc⟩, ⟨1, 0x3cb⟩, ⟨1, 0x3ce⟩, ⟨1, 0x3c2⟩, ⟨5, 0x3c4⟩, ⟨1, 0x7b⟩,
    ⟨9, 0x41⟩, ⟨1, 0xad⟩, ⟨1, 0x3c9⟩, ⟨1, 0x390⟩, ⟨1, 0x3b0⟩, ⟨1, 0x2018⟩, ⟨1, 0x2015⟩, ⟨1, 0x7d⟩,
    ⟨9, 0x4a⟩, ⟨1, 0xb1⟩, ⟨1, 0xbd⟩, ⟨1, 0x1a⟩, ⟨1, 0x387⟩, ⟨1, 0x2019⟩, ⟨1, 0xa6⟩, ⟨1, 0x5c⟩,
    ⟨1, 0x1a⟩, ⟨8, 0x53⟩, ⟨1, 0xb2⟩, ⟨1, 0xa7⟩, ⟨1, 0x1a⟩, ⟨1, 0x1a⟩, ⟨2, 0xab⟩, ⟨10, 0x30⟩,
    ⟨1, 0xb3⟩, ⟨1, 0xa9⟩, ⟨1, 0x1a⟩, ⟨1, 0x1a⟩, ⟨1, 0xbb⟩, ⟨1, 0x9f⟩]

def cp1026Whole : List CodeRun :=
  [⟨4, 0x0⟩, ⟨1, 0x9c⟩, ⟨1, 0x9⟩, ⟨1, 0x86⟩, ⟨1, 0x7f⟩, ⟨1, 0x97⟩, ⟨2, 0x8d⟩, ⟨9, 0xb⟩, ⟨1, 0x9d⟩,
    ⟨1, 0x85⟩, ⟨1, 0x8⟩, ⟨1, 0x87⟩, ⟨2, 0x18⟩, ⟨1, 0x92⟩, ⟨1, 0x8f⟩, ⟨4, 0x1c⟩, ⟨5, 0x80⟩,
    ⟨1, 0xa⟩, ⟨1, 0x17⟩, ⟨1, 0x1b⟩, ⟨5, 0x88⟩, ⟨3, 0x5⟩, ⟨2, 0x90⟩, ⟨1, 0x16⟩, ⟨4, 0x93⟩, ⟨1, 0x4⟩,
    ⟨4, 0x98⟩, ⟨2, 0x14⟩, ⟨1, 0x9e⟩, ⟨1, 0x1a⟩, ⟨1, 0x20⟩, ⟨1, 0xa0⟩, ⟨1, 0xe2⟩, ⟨1, 0xe4⟩,
    ⟨2, 0xe0⟩, ⟨1, 0xe3⟩, ⟨1, 0xe5⟩, ⟨1, 0x7b⟩, ⟨1, 0xf1⟩, ⟨1, 0xc7⟩, ⟨1, 0x2e⟩, ⟨1, 0x3c⟩,
    ⟨1, 0x28⟩, ⟨1, 0x2b⟩, ⟨1, 0x21⟩, ⟨1, 0x26⟩, ⟨3, 0xe9⟩, ⟨1, 0xe8⟩, ⟨3, 0xed⟩, ⟨1, 0xec⟩,
    ⟨1, 0xdf⟩, ⟨1, 0x11e⟩, ⟨1, 0x130⟩, ⟨1, 0x2a⟩, ⟨1, 0x29⟩, ⟨1, 0x3b⟩, ⟨1, 0x5e⟩, ⟨1, 0x2d⟩,
    ⟨1, 0x2f⟩, ⟨1, 0xc2⟩, ⟨1, 0xc4⟩, ⟨2, 0xc0⟩, ⟨1, 0xc3⟩, ⟨1, 0xc5⟩, ⟨1, 0x5b⟩, ⟨1, 0xd1⟩,
    ⟨1, 0x15f⟩, ⟨1, 0x2c⟩, ⟨1, 0x25⟩, ⟨1, 0x5f⟩, ⟨2, 0x3e⟩, ⟨1, 0xf8⟩, ⟨3, 0xc9⟩, ⟨1, 0xc8⟩,
    ⟨3, 0xcd⟩, ⟨1, 0xcc⟩, ⟨1, 0x131⟩, ⟨1, 0x3a⟩, ⟨1, 0xd6⟩, ⟨1, 0x15e⟩, ⟨1, 0x27⟩, ⟨1, 0x3d⟩,
    ⟨1, 0xdc⟩, ⟨1, 0xd8⟩, ⟨9, 0x61⟩, ⟨1, 0xab⟩, ⟨1, 0xbb⟩, ⟨1, 0x7d⟩, ⟨1, 0x60⟩, ⟨1, 0xa6⟩,
    ⟨1, 0xb1⟩, ⟨1, 0xb0⟩, ⟨9, 0x6a⟩, ⟨1, 0xaa⟩, ⟨1, 0xba⟩, ⟨1, 0xe6⟩, ⟨1, 0xb8⟩, ⟨1, 0xc6⟩,
    ⟨1, 0xa4⟩, ⟨1, 0xb5⟩, ⟨1, 0xf6⟩, ⟨8, 0x73⟩, ⟨1, 0xa1⟩, ⟨1, 0xbf⟩, ⟨1, 0x5d⟩, ⟨1, 0x24⟩,
    ⟨1, 0x40⟩, ⟨1, 0xae⟩, ⟨2, 0xa2⟩, ⟨1, 0xa5⟩, ⟨1, 0xb7⟩, ⟨1, 0xa9⟩, ⟨1, 0xa7⟩, ⟨1, 0xb6⟩,
    ⟨3, 0xbc⟩, ⟨1, 0xac⟩, ⟨1, 0x7c⟩, ⟨1, 0xaf⟩, ⟨1, 0xa8⟩, ⟨1, 0xb4⟩, ⟨1, 0xd7⟩, ⟨1, 0xe7⟩,
    ⟨9, 0x41⟩, ⟨1, 0xad⟩, ⟨1, 0xf4⟩, ⟨1, 0x7e⟩, ⟨2, 0xf2⟩, ⟨1, 0xf5⟩, ⟨1, 0x11f⟩, ⟨9, 0x4a⟩,
    ⟨1, 0xb9⟩, ⟨1, 0xfb⟩, ⟨1, 0x5c⟩, ⟨2, 0xf9⟩, ⟨1, 0xff⟩, ⟨1, 0xfc⟩, ⟨1, 0xf7⟩, ⟨8, 0x53⟩,
    ⟨1, 0xb2⟩, ⟨1, 0xd4⟩, ⟨1, 0x23⟩, ⟨2, 0xd2⟩, ⟨1, 0xd5⟩, ⟨10, 0x30⟩, ⟨1, 0xb3⟩, ⟨1, 0xdb⟩,
    ⟨1, 0x22⟩, ⟨2, 0xd9⟩, ⟨1, 0x9f⟩]

def cp1140Whole : List CodeRun :=
  [⟨4, 0x0⟩, ⟨1, 0x9c⟩, ⟨1, 0x9⟩, ⟨1, 0x86⟩, ⟨1, 0x7f⟩, ⟨1, 0x97⟩, ⟨2, 0x8d⟩, ⟨9, 0xb⟩, ⟨1, 0x9d⟩,
    ⟨1, 0x85⟩, ⟨1, 0x8⟩, ⟨1, 0x87⟩, ⟨2, 0x18⟩, ⟨1, 0x92⟩, ⟨1, 0x8f⟩, ⟨4, 0x1c⟩, ⟨5, 0x80⟩,
    ⟨1, 0xa⟩, ⟨1, 0x17⟩, ⟨1, 0x1b⟩, ⟨5, 0x88⟩, ⟨3, 0x5⟩, ⟨2, 0x90⟩, ⟨1, 0x16⟩, ⟨4, 0x93⟩, ⟨1, 0x4⟩,
    ⟨4, 0x98⟩, ⟨2, 0x14⟩, ⟨1, 0x9e⟩, ⟨1, 0x1a⟩, ⟨1, 0x20⟩, ⟨1, 0xa0⟩, ⟨1, 0xe2⟩, ⟨1, 0xe4⟩,
    ⟨2, 0xe0⟩, ⟨1, 0xe3⟩, ⟨1, 0xe5⟩, ⟨1, 0xe7⟩, ⟨1, 0xf1⟩, ⟨1, 0xa2⟩, ⟨1, 0x2e⟩, ⟨1, 0x3c⟩,
    ⟨1, 0x28⟩, ⟨1, 0x2b⟩, ⟨1, 0x7c⟩, ⟨1, 0x26⟩, ⟨3, 0xe9⟩, ⟨1, 0xe8⟩, ⟨3, 0xed⟩, ⟨1, 0xec⟩,
    ⟨1, 0xdf⟩, ⟨1, 0x21⟩, ⟨1, 0x24⟩, ⟨1, 0x2a⟩, ⟨1, 0x29⟩, ⟨1, 0x3b⟩, ⟨1, 0xac⟩, ⟨1, 0x2d⟩,
    ⟨1, 0x2f⟩, ⟨1, 0xc2⟩, ⟨1, 0xc4⟩, ⟨2, 0xc0⟩, ⟨1, 0xc3⟩, ⟨1, 0xc5⟩, ⟨1, 0xc7⟩, ⟨1, 0xd1⟩,
    ⟨1, 0xa6⟩, ⟨1, 0x2c⟩, ⟨1, 0x25⟩, ⟨1, 0x5f⟩, ⟨2, 0x3e⟩, ⟨1, 0xf8⟩, ⟨3, 0xc9⟩, ⟨1, 0xc8⟩,
    ⟨3, 0xcd⟩, ⟨1, 0xcc⟩, ⟨1, 0x60⟩, ⟨1, 0x3a⟩, ⟨1, 0x23⟩, ⟨1, 0x40⟩, ⟨1, 0x27⟩, ⟨1, 0x3d⟩,
    ⟨1, 0x22⟩, ⟨1, 0xd8⟩, ⟨9, 0x61⟩, ⟨1, 0xab⟩, ⟨1, 0xbb⟩, ⟨1, 0xf0⟩, ⟨2, 0xfd⟩, ⟨1, 0xb1⟩,
    ⟨1, 0xb0⟩, ⟨9, 0x6a⟩, ⟨1, 0xaa⟩, ⟨1, 0xba⟩, ⟨1, 0xe6⟩, ⟨1, 0xb8⟩, ⟨1, 0xc6⟩, ⟨1, 0x20ac⟩,
    ⟨1, 0xb5⟩, ⟨1, 0x7e⟩, ⟨8, 0x73⟩, ⟨1, 0xa1⟩, ⟨1, 0xbf⟩, ⟨1, 0xd0⟩, ⟨2, 0xdd⟩, ⟨1, 0xae⟩,
    ⟨1, 0x5e⟩, ⟨1, 0xa3⟩, ⟨1, 0xa5⟩, ⟨1, 0xb7⟩, ⟨1, 0xa9⟩, ⟨1, 0xa7⟩, ⟨1, 0xb6⟩, ⟨3, 0xbc⟩,
    ⟨1, 0x5b⟩, ⟨1, 0x5d⟩, ⟨1, 0xaf⟩, ⟨1, 0xa8⟩, ⟨1, 0xb4⟩, ⟨1, 0xd7⟩, ⟨1, 0x7b⟩, ⟨9, 0x41⟩,
    ⟨1, 0xad⟩, ⟨1, 0xf4⟩, ⟨1, 0xf6⟩, ⟨2, 0xf2⟩, ⟨1, 0xf5⟩, ⟨1, 0x7d⟩, ⟨9, 0x4a⟩, ⟨1, 0xb9⟩,
    ⟨2, 0xfb⟩, ⟨2, 0xf9⟩, ⟨1, 0xff⟩, ⟨1, 0x5c⟩, ⟨1, 0xf7⟩, ⟨8, 0x53⟩, ⟨1, 0xb2⟩, ⟨1, 0xd4⟩,
    ⟨1, 0xd6⟩, ⟨2, 0xd2⟩, ⟨1, 0xd5⟩, ⟨10, 0x30⟩, ⟨1, 0xb3⟩, ⟨2, 0xdb⟩, ⟨2, 0xd9⟩, ⟨1, 0x9f⟩]

end ProtectionLimits.Text
