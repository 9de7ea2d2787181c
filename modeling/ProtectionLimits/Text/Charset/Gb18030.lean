import ProtectionLimits.Text.Charset

/-!
Contract: the code points that GB 18030 adds to GBK.

Owns two tables. The first holds blocks of codes of two bytes that stand for code
points in a row. The second numbers the characters below 0x10000 that have no
code of two bytes, as runs of code points.
-/

set_option autoImplicit false

namespace ProtectionLimits.Text

def gb18030Blocks : List CodeBlock :=
  [⟨0xa140, 0xe4c6, 63⟩, ⟨0xa180, 0xe505, 33⟩, ⟨0xa240, 0xe526, 63⟩, ⟨0xa280, 0xe565, 33⟩,
    ⟨0xa2ab, 0xe766, 6⟩, ⟨0xa2e3, 0x20ac, 1⟩, ⟨0xa2e4, 0xe76d, 1⟩, ⟨0xa2ef, 0xe76e, 2⟩,
    ⟨0xa2fd, 0xe770, 2⟩, ⟨0xa340, 0xe586, 63⟩, ⟨0xa380, 0xe5c5, 33⟩, ⟨0xa440, 0xe5e6, 63⟩,
    ⟨0xa480, 0xe625, 33⟩, ⟨0xa4f4, 0xe772, 11⟩, ⟨0xa540, 0xe646, 63⟩, ⟨0xa580, 0xe685, 33⟩,
    ⟨0xa5f7, 0xe77d, 8⟩, ⟨0xa640, 0xe6a6, 63⟩, ⟨0xa680, 0xe6e5, 33⟩, ⟨0xa6b9, 0xe785, 8⟩,
    ⟨0xa6d9, 0xe78d, 7⟩, ⟨0xa6ec, 0xe794, 2⟩, ⟨0xa6f3, 0xe796, 1⟩, ⟨0xa6f6, 0xe797, 9⟩,
    ⟨0xa740, 0xe706, 63⟩, ⟨0xa780, 0xe745, 33⟩, ⟨0xa7c2, 0xe7a0, 15⟩, ⟨0xa7f2, 0xe7af, 13⟩,
    ⟨0xa896, 0xe7bc, 11⟩, ⟨0xa8bc, 0xe7c7, 1⟩, ⟨0xa8bf, 0x01f9, 1⟩, ⟨0xa8c1, 0xe7c9, 4⟩,
    ⟨0xa8ea, 0xe7cd, 21⟩, ⟨0xa958, 0xe7e2, 1⟩, ⟨0xa95b, 0xe7e3, 1⟩, ⟨0xa95d, 0xe7e4, 3⟩,
    ⟨0xa989, 0x303e, 1⟩, ⟨0xa98a, 0x2ff0, 12⟩, ⟨0xa997, 0xe7f4, 13⟩, ⟨0xa9f0, 0xe801, 15⟩,
    ⟨0xaaa1, 0xe000, 94⟩, ⟨0xaba1, 0xe05e, 94⟩, ⟨0xaca1, 0xe0bc, 94⟩, ⟨0xada1, 0xe11a, 94⟩,
    ⟨0xaea1, 0xe178, 94⟩, ⟨0xafa1, 0xe1d6, 94⟩, ⟨0xd7fa, 0xe810, 5⟩, ⟨0xf8a1, 0xe234, 94⟩,
    ⟨0xf9a1, 0xe292, 94⟩, ⟨0xfaa1, 0xe2f0, 94⟩, ⟨0xfba1, 0xe34e, 94⟩, ⟨0xfca1, 0xe3ac, 94⟩,
    ⟨0xfda1, 0xe40a, 94⟩, ⟨0xfe50, 0x2e81, 1⟩, ⟨0xfe51, 0xe816, 3⟩, ⟨0xfe54, 0x2e84, 1⟩,
    ⟨0xfe55, 0x3473, 1⟩, ⟨0xfe56, 0x3447, 1⟩, ⟨0xfe57, 0x2e88, 1⟩, ⟨0xfe58, 0x2e8b, 1⟩,
    ⟨0xfe59, 0xe81e, 1⟩, ⟨0xfe5a, 0x359e, 1⟩, ⟨0xfe5b, 0x361a, 1⟩, ⟨0xfe5c, 0x360e, 1⟩,
    ⟨0xfe5d, 0x2e8c, 1⟩, ⟨0xfe5e, 0x2e97, 1⟩, ⟨0xfe5f, 0x396e, 1⟩, ⟨0xfe60, 0x3918, 1⟩,
    ⟨0xfe61, 0xe826, 1⟩, ⟨0xfe62, 0x39cf, 1⟩, ⟨0xfe63, 0x39df, 1⟩, ⟨0xfe64, 0x3a73, 1⟩,
    ⟨0xfe65, 0x39d0, 1⟩, ⟨0xfe66, 0xe82b, 2⟩, ⟨0xfe68, 0x3b4e, 1⟩, ⟨0xfe69, 0x3c6e, 1⟩,
    ⟨0xfe6a, 0x3ce0, 1⟩, ⟨0xfe6b, 0x2ea7, 1⟩, ⟨0xfe6c, 0xe831, 2⟩, ⟨0xfe6e, 0x2eaa, 1⟩,
    ⟨0xfe6f, 0x4056, 1⟩, ⟨0xfe70, 0x415f, 1⟩, ⟨0xfe71, 0x2eae, 1⟩, ⟨0xfe72, 0x4337, 1⟩,
    ⟨0xfe73, 0x2eb3, 1⟩, ⟨0xfe74, 0x2eb6, 2⟩, ⟨0xfe76, 0xe83b, 1⟩, ⟨0xfe77, 0x43b1, 1⟩,
    ⟨0xfe78, 0x43ac, 1⟩, ⟨0xfe79, 0x2ebb, 1⟩, ⟨0xfe7a, 0x43dd, 1⟩, ⟨0xfe7b, 0x44d6, 1⟩,
    ⟨0xfe7c, 0x4661, 1⟩, ⟨0xfe7d, 0x464c, 1⟩, ⟨0xfe7e, 0xe843, 1⟩, ⟨0xfe80, 0x4723, 1⟩,
    ⟨0xfe81, 0x4729, 1⟩, ⟨0xfe82, 0x477c, 1⟩, ⟨0xfe83, 0x478d, 1⟩, ⟨0xfe84, 0x2eca, 1⟩,
    ⟨0xfe85, 0x4947, 1⟩, ⟨0xfe86, 0x497a, 1⟩, ⟨0xfe87, 0x497d, 1⟩, ⟨0xfe88, 0x4982, 2⟩,
    ⟨0xfe8a, 0x4985, 2⟩, ⟨0xfe8c, 0x499f, 1⟩, ⟨0xfe8d, 0x499b, 1⟩, ⟨0xfe8e, 0x49b7, 1⟩,
    ⟨0xfe8f, 0x49b6, 1⟩, ⟨0xfe90, 0xe854, 2⟩, ⟨0xfe92, 0x4ca3, 1⟩, ⟨0xfe93, 0x4c9f, 3⟩,
    ⟨0xfe96, 0x4c77, 1⟩, ⟨0xfe97, 0x4ca2, 1⟩, ⟨0xfe98, 0x4d13, 7⟩, ⟨0xfe9f, 0x4dae, 1⟩,
    ⟨0xfea0, 0xe864, 1⟩, ⟨0xfea1, 0xe468, 94⟩]

/-- The characters without a code of two bytes, in order. -/
def gb18030Rest : List CodeRun :=
  [⟨36, 0x80⟩, ⟨2, 0xa5⟩, ⟨7, 0xa9⟩, ⟨5, 0xb2⟩, ⟨31, 0xb8⟩, ⟨8, 0xd8⟩, ⟨6, 0xe2⟩, ⟨1, 0xeb⟩,
    ⟨4, 0xee⟩, ⟨3, 0xf4⟩, ⟨1, 0xf8⟩, ⟨1, 0xfb⟩, ⟨4, 0xfd⟩, ⟨17, 0x102⟩, ⟨7, 0x114⟩, ⟨15, 0x11c⟩,
    ⟨24, 0x12c⟩, ⟨3, 0x145⟩, ⟨4, 0x149⟩, ⟨29, 0x14e⟩, ⟨98, 0x16c⟩, ⟨1, 0x1cf⟩, ⟨1, 0x1d1⟩,
    ⟨1, 0x1d3⟩, ⟨1, 0x1d5⟩, ⟨1, 0x1d7⟩, ⟨1, 0x1d9⟩, ⟨1, 0x1db⟩, ⟨28, 0x1dd⟩, ⟨87, 0x1fa⟩,
    ⟨15, 0x252⟩, ⟨101, 0x262⟩, ⟨1, 0x2c8⟩, ⟨13, 0x2cc⟩, ⟨183, 0x2da⟩, ⟨1, 0x3a2⟩, ⟨7, 0x3aa⟩,
    ⟨1, 0x3c2⟩, ⟨55, 0x3ca⟩, ⟨14, 0x402⟩, ⟨1, 0x450⟩, ⟨7102, 0x452⟩, ⟨2, 0x2011⟩, ⟨1, 0x2017⟩,
    ⟨2, 0x201a⟩, ⟨7, 0x201e⟩, ⟨9, 0x2027⟩, ⟨1, 0x2031⟩, ⟨1, 0x2034⟩, ⟨5, 0x2036⟩, ⟨112, 0x203c⟩,
    ⟨86, 0x20ad⟩, ⟨1, 0x2104⟩, ⟨3, 0x2106⟩, ⟨12, 0x210a⟩, ⟨10, 0x2117⟩, ⟨62, 0x2122⟩, ⟨4, 0x216c⟩,
    ⟨22, 0x217a⟩, ⟨2, 0x2194⟩, ⟨110, 0x219a⟩, ⟨6, 0x2209⟩, ⟨1, 0x2210⟩, ⟨3, 0x2212⟩, ⟨4, 0x2216⟩,
    ⟨2, 0x221b⟩, ⟨2, 0x2221⟩, ⟨1, 0x2224⟩, ⟨1, 0x2226⟩, ⟨2, 0x222c⟩, ⟨5, 0x222f⟩, ⟨5, 0x2238⟩,
    ⟨10, 0x223e⟩, ⟨3, 0x2249⟩, ⟨5, 0x224d⟩, ⟨13, 0x2253⟩, ⟨2, 0x2262⟩, ⟨6, 0x2268⟩, ⟨37, 0x2270⟩,
    ⟨3, 0x2296⟩, ⟨11, 0x229a⟩, ⟨25, 0x22a6⟩, ⟨82, 0x22c0⟩, ⟨333, 0x2313⟩, ⟨10, 0x246a⟩,
    ⟨100, 0x249c⟩, ⟨4, 0x254c⟩, ⟨13, 0x2574⟩, ⟨3, 0x2590⟩, ⟨10, 0x2596⟩, ⟨16, 0x25a2⟩, ⟨8, 0x25b4⟩,
    ⟨8, 0x25be⟩, ⟨3, 0x25c8⟩, ⟨2, 0x25cc⟩, ⟨18, 0x25d0⟩, ⟨31, 0x25e6⟩, ⟨2, 0x2607⟩, ⟨54, 0x260a⟩,
    ⟨1, 0x2641⟩, ⟨2110, 0x2643⟩, ⟨2, 0x2e82⟩, ⟨3, 0x2e85⟩, ⟨2, 0x2e89⟩, ⟨10, 0x2e8d⟩, ⟨15, 0x2e98⟩,
    ⟨2, 0x2ea8⟩, ⟨3, 0x2eab⟩, ⟨4, 0x2eaf⟩, ⟨2, 0x2eb4⟩, ⟨3, 0x2eb8⟩, ⟨14, 0x2ebc⟩, ⟨293, 0x2ecb⟩,
    ⟨4, 0x2ffc⟩, ⟨1, 0x3004⟩, ⟨5, 0x3018⟩, ⟨2, 0x301f⟩, ⟨20, 0x302a⟩, ⟨2, 0x303f⟩, ⟨7, 0x3094⟩,
    ⟨2, 0x309f⟩, ⟨5, 0x30f7⟩, ⟨6, 0x30ff⟩, ⟨246, 0x312a⟩, ⟨7, 0x322a⟩, ⟨113, 0x3232⟩,
    ⟨234, 0x32a4⟩, ⟨12, 0x3390⟩, ⟨2, 0x339f⟩, ⟨34, 0x33a2⟩, ⟨9, 0x33c5⟩, ⟨2, 0x33cf⟩, ⟨2, 0x33d3⟩,
    ⟨113, 0x33d6⟩, ⟨43, 0x3448⟩, ⟨298, 0x3474⟩, ⟨111, 0x359f⟩, ⟨11, 0x360f⟩, ⟨765, 0x361b⟩,
    ⟨85, 0x3919⟩, ⟨96, 0x396f⟩, ⟨14, 0x39d1⟩, ⟨147, 0x39e0⟩, ⟨218, 0x3a74⟩, ⟨287, 0x3b4f⟩,
    ⟨113, 0x3c6f⟩, ⟨885, 0x3ce1⟩, ⟨264, 0x4057⟩, ⟨471, 0x4160⟩, ⟨116, 0x4338⟩, ⟨4, 0x43ad⟩,
    ⟨43, 0x43b2⟩, ⟨248, 0x43de⟩, ⟨373, 0x44d7⟩, ⟨20, 0x464d⟩, ⟨193, 0x4662⟩, ⟨5, 0x4724⟩,
    ⟨82, 0x472a⟩, ⟨16, 0x477d⟩, ⟨441, 0x478e⟩, ⟨50, 0x4948⟩, ⟨2, 0x497b⟩, ⟨4, 0x497e⟩, ⟨1, 0x4984⟩,
    ⟨20, 0x4987⟩, ⟨3, 0x499c⟩, ⟨22, 0x49a0⟩, ⟨703, 0x49b8⟩, ⟨39, 0x4c78⟩, ⟨111, 0x4ca4⟩,
    ⟨148, 0x4d1a⟩, ⟨81, 0x4daf⟩, ⟨14426, 0x9fa6⟩, ⟨1, 0xe76c⟩, ⟨1, 0xe7c8⟩, ⟨13, 0xe7e7⟩,
    ⟨1, 0xe815⟩, ⟨5, 0xe819⟩, ⟨7, 0xe81f⟩, ⟨4, 0xe827⟩, ⟨4, 0xe82d⟩, ⟨8, 0xe833⟩, ⟨7, 0xe83c⟩,
    ⟨16, 0xe844⟩, ⟨14, 0xe856⟩, ⟨4295, 0xe865⟩, ⟨76, 0xf92d⟩, ⟨27, 0xf97a⟩, ⟨81, 0xf996⟩,
    ⟨9, 0xf9e8⟩, ⟨26, 0xf9f2⟩, ⟨1, 0xfa10⟩, ⟨1, 0xfa12⟩, ⟨3, 0xfa15⟩, ⟨6, 0xfa19⟩, ⟨1, 0xfa22⟩,
    ⟨2, 0xfa25⟩, ⟨1030, 0xfa2a⟩, ⟨1, 0xfe32⟩, ⟨4, 0xfe45⟩, ⟨1, 0xfe53⟩, ⟨1, 0xfe58⟩, ⟨1, 0xfe67⟩,
    ⟨149, 0xfe6c⟩, ⟨129, 0xff5f⟩, ⟨26, 0xffe6⟩]

end ProtectionLimits.Text
