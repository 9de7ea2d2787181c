import ProtectionLimits.Exhibit.Class

/-!
Contract: the classes of numbers.

Owns what these classes say about themselves and the features that they give to their
members.
-/

set_option autoImplicit false

namespace ProtectionLimits.Class

open Constant

def integers : Class where
  name := "int"
  home := "builtins"
  lineage := ["int", "object"]
  bases := ["object"]
  description :=
    "int([x]) -> integer\nint(x, base=10) -> integer\n\nConvert a number or string to an " ++
      "integer, or return 0 if no arguments\nare given.  If x is a number, return " ++
      "x.__int__().  For floating point\nnumbers, this truncates towards zero.\n\nIf x is " ++
      "not a number or if base is given, then x must be a string,\nbytes, or bytearray " ++
      "instance representing an integer literal in the\ngiven base.  The literal can be " ++
      "preceded by '+' or '-' and be surrounded\nby whitespace.  The base defaults to 10.  " ++
      "Valid bases are 0 and 2-36.\nBase 0 means to interpret the base from the string as " ++
      "an integer literal.\n>>> int('0b100', base=0)\n4"
  measures := ⟨24, 4, 0, 0, 21501184⟩
  methods :=
    [⟨"conjugate", none, "Returns self, the complex conjugate of any int."⟩,
     ⟨"bit_length", some "($self, /)",
      "Number of bits necessary to represent self in binary.\n\n>>> bin(37)\n" ++
        "'0b100101'\n>>> (37).bit_length()\n6"⟩,
     ⟨"bit_count", some "($self, /)",
      "Number of ones in the binary representation of the absolute value of self.\n\n" ++
        "Also known as the population count.\n\n>>> bin(13)\n'0b1101'\n>>> " ++
        "(13).bit_count()\n3"⟩,
     ⟨"to_bytes", some "($self, /, length=1, byteorder='big', *, signed=False)",
      "Return an array of bytes representing an integer.\n\n  length\n    Length of " ++
        "bytes object to use.  An OverflowError is raised if the\n    integer is not " ++
        "representable with the given number of bytes.  Default\n    is length 1.\n  " ++
        "byteorder\n    The byte order used to represent the integer.  If byteorder is " ++
        "'big',\n    the most significant byte is at the beginning of the byte array.  " ++
        "If\n    byteorder is 'little', the most significant byte is at the end of the\n " ++
        "   byte array.  To request the native byte order of the host system, use\n    " ++
        "`sys.byteorder' as the byte order value.  Default is to use 'big'.\n  signed\n  " ++
        "  Determines whether two's complement is used to represent the integer.\n    If " ++
        "signed is False and a negative integer is given, an OverflowError\n    is " ++
        "raised."⟩,
     ⟨"as_integer_ratio", some "($self, /)",
      "Return integer ratio.\n\nReturn a pair of integers, whose ratio is exactly " ++
        "equal to the original int\nand with a positive denominator.\n\n>>> " ++
        "(10).as_integer_ratio()\n(10, 1)\n>>> (-10).as_integer_ratio()\n(-10, 1)\n>>> " ++
        "(0).as_integer_ratio()\n(0, 1)"⟩,
     ⟨"__trunc__", none, "Truncating an Integral returns itself."⟩,
     ⟨"__floor__", none, "Flooring an Integral returns itself."⟩,
     ⟨"__ceil__", none, "Ceiling of an Integral returns itself."⟩,
     ⟨"__round__", some "($self, ndigits=<unrepresentable>, /)",
      "Rounding an Integral returns itself.\n\nRounding with an ndigits argument also " ++
        "returns an integer."⟩,
     ⟨"__getnewargs__", some "($self, /)", ""⟩,
     ⟨"__format__", some "($self, format_spec, /)", ""⟩,
     ⟨"__sizeof__", some "($self, /)", "Returns size in memory, in bytes."⟩]
  data :=
    [⟨"real", none, "the real part of a complex number"⟩,
     ⟨"imag", none, "the imaginary part of a complex number"⟩,
     ⟨"numerator", none, "the numerator of a rational number in lowest terms"⟩,
     ⟨"denominator", none, "the denominator of a rational number in lowest terms"⟩]
  functions :=
    [⟨"__new__", some "($type, *args, **kwargs)",
      "Create and return a new object.  See help(type) for accurate signature."⟩,
     ⟨"from_bytes", some "($type, /, bytes, byteorder='big', *, signed=False)",
      "Return the integer represented by the given array of bytes.\n\n  bytes\n    " ++
        "Holds the array of bytes to convert.  The argument must either\n    support the " ++
        "buffer protocol or be an iterable object producing bytes.\n    Bytes and " ++
        "bytearray are examples of built-in objects that support the\n    buffer " ++
        "protocol.\n  byteorder\n    The byte order used to represent the integer.  If " ++
        "byteorder is 'big',\n    the most significant byte is at the beginning of the " ++
        "byte array.  If\n    byteorder is 'little', the most significant byte is at the " ++
        "end of the\n    byte array.  To request the native byte order of the host " ++
        "system, use\n    `sys.byteorder' as the byte order value.  Default is to use " ++
        "'big'.\n  signed\n    Indicates whether two's complement is used to represent " ++
        "the integer."⟩]
  operators :=
    ["__repr__", "__hash__", "__getattribute__", "__lt__", "__le__", "__eq__", "__ne__",
     "__gt__", "__ge__", "__add__", "__radd__", "__sub__", "__rsub__", "__mul__", "__rmul__",
     "__mod__", "__rmod__", "__divmod__", "__rdivmod__", "__pow__", "__rpow__", "__neg__",
     "__pos__", "__abs__", "__bool__", "__invert__", "__lshift__", "__rlshift__", "__rshift__",
     "__rrshift__", "__and__", "__rand__", "__xor__", "__rxor__", "__or__", "__ror__", "__int__",
     "__float__", "__floordiv__", "__rfloordiv__", "__truediv__", "__rtruediv__", "__index__"]

def truths : Class where
  name := "bool"
  home := "builtins"
  lineage := ["bool", "int", "object"]
  bases := ["int"]
  description :=
    "bool(x) -> bool\n\nReturns True when the argument x is true, False otherwise.\nThe " ++
      "builtins True and False are the only two instances of the class bool.\nThe class " ++
      "bool is a subclass of the class int, and cannot be subclassed."
  measures := ⟨32, 4, 0, 0, 21500160⟩
  functions :=
    [⟨"__new__", some "($type, *args, **kwargs)",
      "Create and return a new object.  See help(type) for accurate signature."⟩]
  operators := ["__repr__", "__and__", "__rand__", "__xor__", "__rxor__", "__or__", "__ror__"]

def numbers : Class where
  name := "float"
  home := "builtins"
  lineage := ["float", "object"]
  bases := ["object"]
  description := "Convert a string or number to a floating point number, if possible."
  signature := some "(x=0, /)"
  measures := ⟨24, 0, 0, 0, 4723968⟩
  methods :=
    [⟨"conjugate", some "($self, /)", "Return self, the complex conjugate of any float."⟩,
     ⟨"__trunc__", some "($self, /)", "Return the Integral closest to x between 0 and x."⟩,
     ⟨"__floor__", some "($self, /)", "Return the floor as an Integral."⟩,
     ⟨"__ceil__", some "($self, /)", "Return the ceiling as an Integral."⟩,
     ⟨"__round__", some "($self, ndigits=None, /)",
      "Return the Integral closest to x, rounding half toward even.\n\nWhen an " ++
        "argument is passed, work like built-in round(x, ndigits)."⟩,
     ⟨"as_integer_ratio", some "($self, /)",
      "Return integer ratio.\n\nReturn a pair of integers, whose ratio is exactly " ++
        "equal to the original float\nand with a positive denominator.\n\nRaise " ++
        "OverflowError on infinities and a ValueError on NaNs.\n\n>>> " ++
        "(10.0).as_integer_ratio()\n(10, 1)\n>>> (0.0).as_integer_ratio()\n(0, 1)\n>>> " ++
        "(-.25).as_integer_ratio()\n(-1, 4)"⟩,
     ⟨"hex", some "($self, /)",
      "Return a hexadecimal representation of a floating-point number.\n\n>>> " ++
        "(-0.1).hex()\n'-0x1.999999999999ap-4'\n>>> 3.14159.hex()\n'0x1.921f9f01b866ep+1'"⟩,
     ⟨"is_integer", some "($self, /)", "Return True if the float is an integer."⟩,
     ⟨"__getnewargs__", some "($self, /)", ""⟩,
     ⟨"__format__", some "($self, format_spec, /)",
      "Formats the float according to format_spec."⟩]
  data :=
    [⟨"real", none, "the real part of a complex number"⟩,
     ⟨"imag", none, "the imaginary part of a complex number"⟩]
  functions :=
    [⟨"__new__", some "($type, *args, **kwargs)",
      "Create and return a new object.  See help(type) for accurate signature."⟩,
     ⟨"fromhex", some "($type, string, /)",
      "Create a floating-point number from a hexadecimal string.\n\n>>> " ++
        "float.fromhex('0x1.ffffp10')\n2047.984375\n>>> float.fromhex('-0x1p-1074')\n" ++
        "-5e-324"⟩,
     ⟨"__getformat__", some "($type, typestr, /)",
      "You probably don't want to use this function.\n\n  typestr\n    Must be " ++
        "'double' or 'float'.\n\nIt exists mainly to be used in Python's test suite.\n\n" ++
        "This function returns whichever of 'unknown', 'IEEE, big-endian' or 'IEEE,\n" ++
        "little-endian' best describes the format of floating point numbers used by the\n" ++
        "C type named by typestr."⟩]
  operators :=
    ["__repr__", "__hash__", "__getattribute__", "__lt__", "__le__", "__eq__", "__ne__",
     "__gt__", "__ge__", "__add__", "__radd__", "__sub__", "__rsub__", "__mul__", "__rmul__",
     "__mod__", "__rmod__", "__divmod__", "__rdivmod__", "__pow__", "__rpow__", "__neg__",
     "__pos__", "__abs__", "__bool__", "__int__", "__float__", "__floordiv__", "__rfloordiv__",
     "__truediv__", "__rtruediv__"]

def allNumbers : List Class :=
  [integers, truths, numbers]

end ProtectionLimits.Class
