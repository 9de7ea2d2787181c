import ProtectionLimits.Exhibit.Class

/-!
Contract: the classes of texts and of bytes.

Owns what these classes say about themselves and the features that they give to their
members.
-/

set_option autoImplicit false

namespace ProtectionLimits.Class

open Constant

def texts : Class where
  name := "str"
  home := "builtins"
  lineage := ["str", "object"]
  bases := ["object"]
  description :=
    "str(object='') -> str\nstr(bytes_or_buffer[, encoding[, errors]]) -> str\n\nCreate " ++
      "a new string object from the given object. If encoding or\nerrors is specified, " ++
      "then the object must expose a data buffer\nthat will be decoded using the given " ++
      "encoding and error handler.\nOtherwise, returns the result of object.__str__() (if " ++
      "defined)\nor repr(object).\nencoding defaults to sys.getdefaultencoding().\nerrors " ++
      "defaults to 'strict'."
  measures := ⟨80, 0, 0, 0, 273159424⟩
  methods :=
    [⟨"encode", some "($self, /, encoding='utf-8', errors='strict')",
      "Encode the string using the codec registered for encoding.\n\n  encoding\n    " ++
        "The encoding in which to encode the string.\n  errors\n    The error handling " ++
        "scheme to use for encoding errors.\n    The default is 'strict' meaning that " ++
        "encoding errors raise a\n    UnicodeEncodeError.  Other possible values are " ++
        "'ignore', 'replace' and\n    'xmlcharrefreplace' as well as any other name " ++
        "registered with\n    codecs.register_error that can handle UnicodeEncodeErrors."⟩,
     ⟨"replace", some "($self, old, new, count=-1, /)",
      "Return a copy with all occurrences of substring old replaced by new.\n\n  " ++
        "count\n    Maximum number of occurrences to replace.\n    -1 (the default " ++
        "value) means replace all occurrences.\n\nIf the optional argument count is " ++
        "given, only the first count occurrences are\nreplaced."⟩,
     ⟨"split", some "($self, /, sep=None, maxsplit=-1)",
      "Return a list of the substrings in the string, using sep as the separator " ++
        "string.\n\n  sep\n    The separator used to split the string.\n\n    When set " ++
        "to None (the default value), will split on any whitespace\n    character " ++
        "(including \\n \\r \\t \\f and spaces) and will discard\n    empty strings from " ++
        "the result.\n  maxsplit\n    Maximum number of splits.\n    -1 (the default " ++
        "value) means no limit.\n\nSplitting starts at the front of the string and works " ++
        "to the end.\n\nNote, str.split() is mainly useful for data that has been " ++
        "intentionally\ndelimited.  With natural text that includes punctuation, " ++
        "consider using\nthe regular expression module."⟩,
     ⟨"rsplit", some "($self, /, sep=None, maxsplit=-1)",
      "Return a list of the substrings in the string, using sep as the separator " ++
        "string.\n\n  sep\n    The separator used to split the string.\n\n    When set " ++
        "to None (the default value), will split on any whitespace\n    character " ++
        "(including \\n \\r \\t \\f and spaces) and will discard\n    empty strings from " ++
        "the result.\n  maxsplit\n    Maximum number of splits.\n    -1 (the default " ++
        "value) means no limit.\n\nSplitting starts at the end of the string and works " ++
        "to the front."⟩,
     ⟨"join", some "($self, iterable, /)",
      "Concatenate any number of strings.\n\nThe string whose method is called is " ++
        "inserted in between each given string.\nThe result is returned as a new " ++
        "string.\n\nExample: '.'.join(['ab', 'pq', 'rs']) -> 'ab.pq.rs'"⟩,
     ⟨"capitalize", some "($self, /)",
      "Return a capitalized version of the string.\n\nMore specifically, make the " ++
        "first character have upper case and the rest lower\ncase."⟩,
     ⟨"casefold", some "($self, /)",
      "Return a version of the string suitable for caseless comparisons."⟩,
     ⟨"title", some "($self, /)",
      "Return a version of the string where each word is titlecased.\n\nMore " ++
        "specifically, words start with uppercased characters and all remaining\ncased " ++
        "characters have lower case."⟩,
     ⟨"center", some "($self, width, fillchar=' ', /)",
      "Return a centered string of length width.\n\nPadding is done using the " ++
        "specified fill character (default is a space)."⟩,
     ⟨"count", none,
      "S.count(sub[, start[, end]]) -> int\n\nReturn the number of non-overlapping " ++
        "occurrences of substring sub in\nstring S[start:end].  Optional arguments start " ++
        "and end are\ninterpreted as in slice notation."⟩,
     ⟨"expandtabs", some "($self, /, tabsize=8)",
      "Return a copy where all tab characters are expanded using spaces.\n\nIf tabsize " ++
        "is not given, a tab size of 8 characters is assumed."⟩,
     ⟨"find", none,
      "S.find(sub[, start[, end]]) -> int\n\nReturn the lowest index in S where " ++
        "substring sub is found,\nsuch that sub is contained within S[start:end].  " ++
        "Optional\narguments start and end are interpreted as in slice notation.\n\n" ++
        "Return -1 on failure."⟩,
     ⟨"partition", some "($self, sep, /)",
      "Partition the string into three parts using the given separator.\n\nThis will " ++
        "search for the separator in the string.  If the separator is found,\nreturns a " ++
        "3-tuple containing the part before the separator, the separator\nitself, and " ++
        "the part after it.\n\nIf the separator is not found, returns a 3-tuple " ++
        "containing the original string\nand two empty strings."⟩,
     ⟨"index", none,
      "S.index(sub[, start[, end]]) -> int\n\nReturn the lowest index in S where " ++
        "substring sub is found,\nsuch that sub is contained within S[start:end].  " ++
        "Optional\narguments start and end are interpreted as in slice notation.\n\n" ++
        "Raises ValueError when the substring is not found."⟩,
     ⟨"ljust", some "($self, width, fillchar=' ', /)",
      "Return a left-justified string of length width.\n\nPadding is done using the " ++
        "specified fill character (default is a space)."⟩,
     ⟨"lower", some "($self, /)", "Return a copy of the string converted to lowercase."⟩,
     ⟨"lstrip", some "($self, chars=None, /)",
      "Return a copy of the string with leading whitespace removed.\n\nIf chars is " ++
        "given and not None, remove characters in chars instead."⟩,
     ⟨"rfind", none,
      "S.rfind(sub[, start[, end]]) -> int\n\nReturn the highest index in S where " ++
        "substring sub is found,\nsuch that sub is contained within S[start:end].  " ++
        "Optional\narguments start and end are interpreted as in slice notation.\n\n" ++
        "Return -1 on failure."⟩,
     ⟨"rindex", none,
      "S.rindex(sub[, start[, end]]) -> int\n\nReturn the highest index in S where " ++
        "substring sub is found,\nsuch that sub is contained within S[start:end].  " ++
        "Optional\narguments start and end are interpreted as in slice notation.\n\n" ++
        "Raises ValueError when the substring is not found."⟩,
     ⟨"rjust", some "($self, width, fillchar=' ', /)",
      "Return a right-justified string of length width.\n\nPadding is done using the " ++
        "specified fill character (default is a space)."⟩,
     ⟨"rstrip", some "($self, chars=None, /)",
      "Return a copy of the string with trailing whitespace removed.\n\nIf chars is " ++
        "given and not None, remove characters in chars instead."⟩,
     ⟨"rpartition", some "($self, sep, /)",
      "Partition the string into three parts using the given separator.\n\nThis will " ++
        "search for the separator in the string, starting at the end. If\nthe separator " ++
        "is found, returns a 3-tuple containing the part before the\nseparator, the " ++
        "separator itself, and the part after it.\n\nIf the separator is not found, " ++
        "returns a 3-tuple containing two empty strings\nand the original string."⟩,
     ⟨"splitlines", some "($self, /, keepends=False)",
      "Return a list of the lines in the string, breaking at line boundaries.\n\nLine " ++
        "breaks are not included in the resulting list unless keepends is given and\n" ++
        "true."⟩,
     ⟨"strip", some "($self, chars=None, /)",
      "Return a copy of the string with leading and trailing whitespace removed.\n\nIf " ++
        "chars is given and not None, remove characters in chars instead."⟩,
     ⟨"swapcase", some "($self, /)",
      "Convert uppercase characters to lowercase and lowercase characters to uppercase."⟩,
     ⟨"translate", some "($self, table, /)",
      "Replace each character in the string using the given translation table.\n\n  " ++
        "table\n    Translation table, which must be a mapping of Unicode ordinals to\n  " ++
        "  Unicode ordinals, strings, or None.\n\nThe table must implement " ++
        "lookup/indexing via __getitem__, for instance a\ndictionary or list.  If this " ++
        "operation raises LookupError, the character is\nleft untouched.  Characters " ++
        "mapped to None are deleted."⟩,
     ⟨"upper", some "($self, /)", "Return a copy of the string converted to uppercase."⟩,
     ⟨"startswith", none,
      "S.startswith(prefix[, start[, end]]) -> bool\n\nReturn True if S starts with " ++
        "the specified prefix, False otherwise.\nWith optional start, test S beginning " ++
        "at that position.\nWith optional end, stop comparing S at that position.\n" ++
        "prefix can also be a tuple of strings to try."⟩,
     ⟨"endswith", none,
      "S.endswith(suffix[, start[, end]]) -> bool\n\nReturn True if S ends with the " ++
        "specified suffix, False otherwise.\nWith optional start, test S beginning at " ++
        "that position.\nWith optional end, stop comparing S at that position.\nsuffix " ++
        "can also be a tuple of strings to try."⟩,
     ⟨"removeprefix", some "($self, prefix, /)",
      "Return a str with the given prefix string removed if present.\n\nIf the string " ++
        "starts with the prefix string, return string[len(prefix):].\nOtherwise, return " ++
        "a copy of the original string."⟩,
     ⟨"removesuffix", some "($self, suffix, /)",
      "Return a str with the given suffix string removed if present.\n\nIf the string " ++
        "ends with the suffix string and that suffix is not empty,\nreturn " ++
        "string[:-len(suffix)]. Otherwise, return a copy of the original\nstring."⟩,
     ⟨"isascii", some "($self, /)",
      "Return True if all characters in the string are ASCII, False otherwise.\n\n" ++
        "ASCII characters have code points in the range U+0000-U+007F.\nEmpty string is " ++
        "ASCII too."⟩,
     ⟨"islower", some "($self, /)",
      "Return True if the string is a lowercase string, False otherwise.\n\nA string " ++
        "is lowercase if all cased characters in the string are lowercase and\nthere is " ++
        "at least one cased character in the string."⟩,
     ⟨"isupper", some "($self, /)",
      "Return True if the string is an uppercase string, False otherwise.\n\nA string " ++
        "is uppercase if all cased characters in the string are uppercase and\nthere is " ++
        "at least one cased character in the string."⟩,
     ⟨"istitle", some "($self, /)",
      "Return True if the string is a title-cased string, False otherwise.\n\nIn a " ++
        "title-cased string, upper- and title-case characters may only\nfollow uncased " ++
        "characters and lowercase characters only cased ones."⟩,
     ⟨"isspace", some "($self, /)",
      "Return True if the string is a whitespace string, False otherwise.\n\nA string " ++
        "is whitespace if all characters in the string are whitespace and there\nis at " ++
        "least one character in the string."⟩,
     ⟨"isdecimal", some "($self, /)",
      "Return True if the string is a decimal string, False otherwise.\n\nA string is " ++
        "a decimal string if all characters in the string are decimal and\nthere is at " ++
        "least one character in the string."⟩,
     ⟨"isdigit", some "($self, /)",
      "Return True if the string is a digit string, False otherwise.\n\nA string is a " ++
        "digit string if all characters in the string are digits and there\nis at least " ++
        "one character in the string."⟩,
     ⟨"isnumeric", some "($self, /)",
      "Return True if the string is a numeric string, False otherwise.\n\nA string is " ++
        "numeric if all characters in the string are numeric and there is at\nleast one " ++
        "character in the string."⟩,
     ⟨"isalpha", some "($self, /)",
      "Return True if the string is an alphabetic string, False otherwise.\n\nA string " ++
        "is alphabetic if all characters in the string are alphabetic and there\nis at " ++
        "least one character in the string."⟩,
     ⟨"isalnum", some "($self, /)",
      "Return True if the string is an alpha-numeric string, False otherwise.\n\nA " ++
        "string is alpha-numeric if all characters in the string are alpha-numeric and\n" ++
        "there is at least one character in the string."⟩,
     ⟨"isidentifier", some "($self, /)",
      "Return True if the string is a valid Python identifier, False otherwise.\n\n" ++
        "Call keyword.iskeyword(s) to test whether string s is a reserved identifier,\n" ++
        "such as \"def\" or \"class\"."⟩,
     ⟨"isprintable", some "($self, /)",
      "Return True if the string is printable, False otherwise.\n\nA string is " ++
        "printable if all of its characters are considered printable in\nrepr() or if it " ++
        "is empty."⟩,
     ⟨"zfill", some "($self, width, /)",
      "Pad a numeric string with zeros on the left, to fill a field of the given " ++
        "width.\n\nThe string is never truncated."⟩,
     ⟨"format", none,
      "S.format(*args, **kwargs) -> str\n\nReturn a formatted version of S, using " ++
        "substitutions from args and kwargs.\nThe substitutions are identified by braces " ++
        "('\x7b' and '\x7d')."⟩,
     ⟨"format_map", none,
      "S.format_map(mapping) -> str\n\nReturn a formatted version of S, using " ++
        "substitutions from mapping.\nThe substitutions are identified by braces ('\x7b' " ++
        "and '\x7d')."⟩,
     ⟨"__format__", some "($self, format_spec, /)",
      "Return a formatted version of the string as described by format_spec."⟩,
     ⟨"__sizeof__", some "($self, /)", "Return the size of the string in memory, in bytes."⟩,
     ⟨"__getnewargs__", none, ""⟩]
  functions :=
    [⟨"__new__", some "($type, *args, **kwargs)",
      "Create and return a new object.  See help(type) for accurate signature."⟩,
     ⟨"maketrans", some "(x, y=<unrepresentable>, z=<unrepresentable>, /)",
      "Return a translation table usable for str.translate().\n\nIf there is only one " ++
        "argument, it must be a dictionary mapping Unicode\nordinals (integers) or " ++
        "characters to Unicode ordinals, strings or None.\nCharacter keys will be then " ++
        "converted to ordinals.\nIf there are two arguments, they must be strings of " ++
        "equal length, and\nin the resulting dictionary, each character in x will be " ++
        "mapped to the\ncharacter at the same position in y. If there is a third " ++
        "argument, it\nmust be a string, whose characters will be mapped to None in the " ++
        "result."⟩]
  operators :=
    ["__repr__", "__hash__", "__str__", "__getattribute__", "__lt__", "__le__", "__eq__",
     "__ne__", "__gt__", "__ge__", "__iter__", "__mod__", "__rmod__", "__len__", "__getitem__",
     "__add__", "__mul__", "__rmul__", "__contains__"]

def byteStrings : Class where
  name := "bytes"
  home := "builtins"
  lineage := ["bytes", "object"]
  bases := ["object"]
  description :=
    "bytes(iterable_of_ints) -> bytes\nbytes(string, encoding[, errors]) -> bytes\n" ++
      "bytes(bytes_or_buffer) -> immutable copy of bytes_or_buffer\nbytes(int) -> bytes " ++
      "object of size given by the parameter initialized with null bytes\nbytes() -> empty " ++
      "bytes object\n\nConstruct an immutable array of bytes from:\n  - an iterable " ++
      "yielding integers in range(256)\n  - a text string encoded using the specified " ++
      "encoding\n  - any object implementing the buffer API.\n  - an integer"
  measures := ⟨33, 1, 0, 0, 138941696⟩
  methods :=
    [⟨"__getnewargs__", none, ""⟩,
     ⟨"__bytes__", some "($self, /)", "Convert this value to exact type bytes."⟩,
     ⟨"capitalize", none,
      "B.capitalize() -> copy of B\n\nReturn a copy of B with only its first character " ++
        "capitalized (ASCII)\nand the rest lower-cased."⟩,
     ⟨"center", some "($self, width, fillchar=b' ', /)",
      "Return a centered string of length width.\n\nPadding is done using the " ++
        "specified fill character."⟩,
     ⟨"count", none,
      "B.count(sub[, start[, end]]) -> int\n\nReturn the number of non-overlapping " ++
        "occurrences of subsection sub in\nbytes B[start:end].  Optional arguments start " ++
        "and end are interpreted\nas in slice notation."⟩,
     ⟨"decode", some "($self, /, encoding='utf-8', errors='strict')",
      "Decode the bytes using the codec registered for encoding.\n\n  encoding\n    " ++
        "The encoding with which to decode the bytes.\n  errors\n    The error handling " ++
        "scheme to use for the handling of decoding errors.\n    The default is 'strict' " ++
        "meaning that decoding errors raise a\n    UnicodeDecodeError. Other possible " ++
        "values are 'ignore' and 'replace'\n    as well as any other name registered " ++
        "with codecs.register_error that\n    can handle UnicodeDecodeErrors."⟩,
     ⟨"endswith", none,
      "B.endswith(suffix[, start[, end]]) -> bool\n\nReturn True if B ends with the " ++
        "specified suffix, False otherwise.\nWith optional start, test B beginning at " ++
        "that position.\nWith optional end, stop comparing B at that position.\nsuffix " ++
        "can also be a tuple of bytes to try."⟩,
     ⟨"expandtabs", some "($self, /, tabsize=8)",
      "Return a copy where all tab characters are expanded using spaces.\n\nIf tabsize " ++
        "is not given, a tab size of 8 characters is assumed."⟩,
     ⟨"find", none,
      "B.find(sub[, start[, end]]) -> int\n\nReturn the lowest index in B where " ++
        "subsection sub is found,\nsuch that sub is contained within B[start,end].  " ++
        "Optional\narguments start and end are interpreted as in slice notation.\n\n" ++
        "Return -1 on failure."⟩,
     ⟨"hex", some "($self, /, sep=<unrepresentable>, bytes_per_sep=1)",
      "Create a string of hexadecimal numbers from a bytes object.\n\n  sep\n    An " ++
        "optional single character or byte to separate hex bytes.\n  bytes_per_sep\n    " ++
        "How many bytes between separators.  Positive values count from the\n    right, " ++
        "negative values count from the left.\n\nExample:\n>>> value = " ++
        "b'\\xb9\\x01\\xef'\n>>> value.hex()\n'b901ef'\n>>> value.hex(':')\n'b9:01:ef'\n" ++
        ">>> value.hex(':', 2)\n'b9:01ef'\n>>> value.hex(':', -2)\n'b901:ef'"⟩,
     ⟨"index", none,
      "B.index(sub[, start[, end]]) -> int\n\nReturn the lowest index in B where " ++
        "subsection sub is found,\nsuch that sub is contained within B[start,end].  " ++
        "Optional\narguments start and end are interpreted as in slice notation.\n\n" ++
        "Raises ValueError when the subsection is not found."⟩,
     ⟨"isalnum", none,
      "B.isalnum() -> bool\n\nReturn True if all characters in B are alphanumeric\nand " ++
        "there is at least one character in B, False otherwise."⟩,
     ⟨"isalpha", none,
      "B.isalpha() -> bool\n\nReturn True if all characters in B are alphabetic\nand " ++
        "there is at least one character in B, False otherwise."⟩,
     ⟨"isascii", none,
      "B.isascii() -> bool\n\nReturn True if B is empty or all characters in B are " ++
        "ASCII,\nFalse otherwise."⟩,
     ⟨"isdigit", none,
      "B.isdigit() -> bool\n\nReturn True if all characters in B are digits\nand there " ++
        "is at least one character in B, False otherwise."⟩,
     ⟨"islower", none,
      "B.islower() -> bool\n\nReturn True if all cased characters in B are lowercase " ++
        "and there is\nat least one cased character in B, False otherwise."⟩,
     ⟨"isspace", none,
      "B.isspace() -> bool\n\nReturn True if all characters in B are whitespace\nand " ++
        "there is at least one character in B, False otherwise."⟩,
     ⟨"istitle", none,
      "B.istitle() -> bool\n\nReturn True if B is a titlecased string and there is at " ++
        "least one\ncharacter in B, i.e. uppercase characters may only follow uncased\n" ++
        "characters and lowercase characters only cased ones. Return False\notherwise."⟩,
     ⟨"isupper", none,
      "B.isupper() -> bool\n\nReturn True if all cased characters in B are uppercase " ++
        "and there is\nat least one cased character in B, False otherwise."⟩,
     ⟨"join", some "($self, iterable_of_bytes, /)",
      "Concatenate any number of bytes objects.\n\nThe bytes whose method is called is " ++
        "inserted in between each pair.\n\nThe result is returned as a new bytes " ++
        "object.\n\nExample: b'.'.join([b'ab', b'pq', b'rs']) -> b'ab.pq.rs'."⟩,
     ⟨"ljust", some "($self, width, fillchar=b' ', /)",
      "Return a left-justified string of length width.\n\nPadding is done using the " ++
        "specified fill character."⟩,
     ⟨"lower", none,
      "B.lower() -> copy of B\n\nReturn a copy of B with all ASCII characters " ++
        "converted to lowercase."⟩,
     ⟨"lstrip", some "($self, bytes=None, /)",
      "Strip leading bytes contained in the argument.\n\nIf the argument is omitted or " ++
        "None, strip leading  ASCII whitespace."⟩,
     ⟨"partition", some "($self, sep, /)",
      "Partition the bytes into three parts using the given separator.\n\nThis will " ++
        "search for the separator sep in the bytes. If the separator is found,\nreturns " ++
        "a 3-tuple containing the part before the separator, the separator\nitself, and " ++
        "the part after it.\n\nIf the separator is not found, returns a 3-tuple " ++
        "containing the original bytes\nobject and two empty bytes objects."⟩,
     ⟨"replace", some "($self, old, new, count=-1, /)",
      "Return a copy with all occurrences of substring old replaced by new.\n\n  " ++
        "count\n    Maximum number of occurrences to replace.\n    -1 (the default " ++
        "value) means replace all occurrences.\n\nIf the optional argument count is " ++
        "given, only the first count occurrences are\nreplaced."⟩,
     ⟨"removeprefix", some "($self, prefix, /)",
      "Return a bytes object with the given prefix string removed if present.\n\nIf " ++
        "the bytes starts with the prefix string, return bytes[len(prefix):].\n" ++
        "Otherwise, return a copy of the original bytes."⟩,
     ⟨"removesuffix", some "($self, suffix, /)",
      "Return a bytes object with the given suffix string removed if present.\n\nIf " ++
        "the bytes ends with the suffix string and that suffix is not empty,\nreturn " ++
        "bytes[:-len(prefix)].  Otherwise, return a copy of the original\nbytes."⟩,
     ⟨"rfind", none,
      "B.rfind(sub[, start[, end]]) -> int\n\nReturn the highest index in B where " ++
        "subsection sub is found,\nsuch that sub is contained within B[start,end].  " ++
        "Optional\narguments start and end are interpreted as in slice notation.\n\n" ++
        "Return -1 on failure."⟩,
     ⟨"rindex", none,
      "B.rindex(sub[, start[, end]]) -> int\n\nReturn the highest index in B where " ++
        "subsection sub is found,\nsuch that sub is contained within B[start,end].  " ++
        "Optional\narguments start and end are interpreted as in slice notation.\n\n" ++
        "Raise ValueError when the subsection is not found."⟩,
     ⟨"rjust", some "($self, width, fillchar=b' ', /)",
      "Return a right-justified string of length width.\n\nPadding is done using the " ++
        "specified fill character."⟩,
     ⟨"rpartition", some "($self, sep, /)",
      "Partition the bytes into three parts using the given separator.\n\nThis will " ++
        "search for the separator sep in the bytes, starting at the end. If\nthe " ++
        "separator is found, returns a 3-tuple containing the part before the\n" ++
        "separator, the separator itself, and the part after it.\n\nIf the separator is " ++
        "not found, returns a 3-tuple containing two empty bytes\nobjects and the " ++
        "original bytes object."⟩,
     ⟨"rsplit", some "($self, /, sep=None, maxsplit=-1)",
      "Return a list of the sections in the bytes, using sep as the delimiter.\n\n  " ++
        "sep\n    The delimiter according which to split the bytes.\n    None (the " ++
        "default value) means split on ASCII whitespace characters\n    (space, tab, " ++
        "return, newline, formfeed, vertical tab).\n  maxsplit\n    Maximum number of " ++
        "splits to do.\n    -1 (the default value) means no limit.\n\nSplitting is done " ++
        "starting at the end of the bytes and working to the front."⟩,
     ⟨"rstrip", some "($self, bytes=None, /)",
      "Strip trailing bytes contained in the argument.\n\nIf the argument is omitted " ++
        "or None, strip trailing ASCII whitespace."⟩,
     ⟨"split", some "($self, /, sep=None, maxsplit=-1)",
      "Return a list of the sections in the bytes, using sep as the delimiter.\n\n  " ++
        "sep\n    The delimiter according which to split the bytes.\n    None (the " ++
        "default value) means split on ASCII whitespace characters\n    (space, tab, " ++
        "return, newline, formfeed, vertical tab).\n  maxsplit\n    Maximum number of " ++
        "splits to do.\n    -1 (the default value) means no limit."⟩,
     ⟨"splitlines", some "($self, /, keepends=False)",
      "Return a list of the lines in the bytes, breaking at line boundaries.\n\nLine " ++
        "breaks are not included in the resulting list unless keepends is given and\n" ++
        "true."⟩,
     ⟨"startswith", none,
      "B.startswith(prefix[, start[, end]]) -> bool\n\nReturn True if B starts with " ++
        "the specified prefix, False otherwise.\nWith optional start, test B beginning " ++
        "at that position.\nWith optional end, stop comparing B at that position.\n" ++
        "prefix can also be a tuple of bytes to try."⟩,
     ⟨"strip", some "($self, bytes=None, /)",
      "Strip leading and trailing bytes contained in the argument.\n\nIf the argument " ++
        "is omitted or None, strip leading and trailing ASCII whitespace."⟩,
     ⟨"swapcase", none,
      "B.swapcase() -> copy of B\n\nReturn a copy of B with uppercase ASCII characters " ++
        "converted\nto lowercase ASCII and vice versa."⟩,
     ⟨"title", none,
      "B.title() -> copy of B\n\nReturn a titlecased version of B, i.e. ASCII words " ++
        "start with uppercase\ncharacters, all remaining cased characters have lowercase."⟩,
     ⟨"translate", some "($self, table, /, delete=b'')",
      "Return a copy with each character mapped by the given translation table.\n\n  " ++
        "table\n    Translation table, which must be a bytes object of length 256.\n\n" ++
        "All characters occurring in the optional argument delete are removed.\nThe " ++
        "remaining characters are mapped through the given translation table."⟩,
     ⟨"upper", none,
      "B.upper() -> copy of B\n\nReturn a copy of B with all ASCII characters " ++
        "converted to uppercase."⟩,
     ⟨"zfill", some "($self, width, /)",
      "Pad a numeric string with zeros on the left, to fill a field of the given " ++
        "width.\n\nThe original string is never truncated."⟩]
  functions :=
    [⟨"__new__", some "($type, *args, **kwargs)",
      "Create and return a new object.  See help(type) for accurate signature."⟩,
     ⟨"fromhex", some "($type, string, /)",
      "Create a bytes object from a string of hexadecimal numbers.\n\nSpaces between " ++
        "two numbers are accepted.\nExample: bytes.fromhex('B9 01EF') -> " ++
        "b'\\\\xb9\\\\x01\\\\xef'."⟩,
     ⟨"maketrans", some "(frm, to, /)",
      "Return a translation table useable for the bytes or bytearray translate " ++
        "method.\n\nThe returned table will be one where each byte in frm is mapped to " ++
        "the byte at\nthe same position in to.\n\nThe bytes objects frm and to must be " ++
        "of the same length."⟩]
  operators :=
    ["__repr__", "__hash__", "__str__", "__getattribute__", "__lt__", "__le__", "__eq__",
     "__ne__", "__gt__", "__ge__", "__iter__", "__mod__", "__rmod__", "__len__", "__getitem__",
     "__add__", "__mul__", "__rmul__", "__contains__"]

def allTexts : List Class :=
  [texts, byteStrings]

end ProtectionLimits.Class
