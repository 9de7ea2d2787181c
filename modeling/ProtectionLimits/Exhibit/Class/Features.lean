import ProtectionLimits.Exhibit.Class

/-!
Contract: the classes of features.

Owns what these classes say about themselves and the features that they give to their
members.
-/

set_option autoImplicit false

namespace ProtectionLimits.Class

open Constant

def methodFeatures : Class where
  name := "method_descriptor"
  home := "builtins"
  lineage := ["method_descriptor", "object"]
  bases := ["object"]
  measures := ⟨56, 0, 0, 0, 678272⟩
  methods :=
    [⟨"__reduce__", none, ""⟩]
  data :=
    [⟨"__doc__", none, ""⟩,
     ⟨"__qualname__", none, ""⟩,
     ⟨"__text_signature__", none, ""⟩]
  members :=
    [⟨"__objclass__", none, ""⟩,
     ⟨"__name__", none, ""⟩]
  operators := ["__repr__", "__call__", "__getattribute__", "__get__"]

def operatorFeatures : Class where
  name := "wrapper_descriptor"
  home := "builtins"
  lineage := ["wrapper_descriptor", "object"]
  bases := ["object"]
  measures := ⟨56, 0, 0, 0, 676224⟩
  methods :=
    [⟨"__reduce__", none, ""⟩]
  data :=
    [⟨"__doc__", none, ""⟩,
     ⟨"__qualname__", none, ""⟩,
     ⟨"__text_signature__", none, ""⟩]
  members :=
    [⟨"__objclass__", none, ""⟩,
     ⟨"__name__", none, ""⟩]
  operators := ["__repr__", "__call__", "__getattribute__", "__get__"]

def datumFeatures : Class where
  name := "getset_descriptor"
  home := "builtins"
  lineage := ["getset_descriptor", "object"]
  bases := ["object"]
  measures := ⟨48, 0, 0, 0, 545152⟩
  data :=
    [⟨"__doc__", none, ""⟩,
     ⟨"__qualname__", none, ""⟩]
  members :=
    [⟨"__objclass__", none, ""⟩,
     ⟨"__name__", none, ""⟩]
  operators := ["__repr__", "__getattribute__", "__get__", "__set__", "__delete__"]

def memberFeatures : Class where
  name := "member_descriptor"
  home := "builtins"
  lineage := ["member_descriptor", "object"]
  bases := ["object"]
  measures := ⟨48, 0, 0, 0, 545152⟩
  methods :=
    [⟨"__reduce__", none, ""⟩]
  data :=
    [⟨"__doc__", none, ""⟩,
     ⟨"__qualname__", none, ""⟩]
  members :=
    [⟨"__objclass__", none, ""⟩,
     ⟨"__name__", none, ""⟩]
  operators := ["__repr__", "__getattribute__", "__get__", "__set__", "__delete__"]

def classMethodFeatures : Class where
  name := "classmethod_descriptor"
  home := "builtins"
  lineage := ["classmethod_descriptor", "object"]
  bases := ["object"]
  measures := ⟨56, 0, 0, 0, 545152⟩
  data :=
    [⟨"__doc__", none, ""⟩,
     ⟨"__qualname__", none, ""⟩,
     ⟨"__text_signature__", none, ""⟩]
  members :=
    [⟨"__objclass__", none, ""⟩,
     ⟨"__name__", none, ""⟩]
  operators := ["__repr__", "__call__", "__getattribute__", "__get__"]

def boundMethods : Class where
  name := "builtin_function_or_method"
  home := "builtins"
  lineage := ["builtin_function_or_method", "object"]
  bases := ["object"]
  measures := ⟨56, 0, 0, 40, 547200⟩
  methods :=
    [⟨"__reduce__", none, ""⟩]
  data :=
    [⟨"__doc__", none, ""⟩,
     ⟨"__name__", none, ""⟩,
     ⟨"__qualname__", none, ""⟩,
     ⟨"__self__", none, ""⟩,
     ⟨"__text_signature__", none, ""⟩]
  operators :=
    ["__repr__", "__hash__", "__call__", "__getattribute__", "__lt__", "__le__", "__eq__",
     "__ne__", "__gt__", "__ge__"]

def boundOperators : Class where
  name := "method-wrapper"
  home := "builtins"
  lineage := ["method-wrapper", "object"]
  bases := ["object"]
  measures := ⟨32, 0, 0, 0, 545152⟩
  methods :=
    [⟨"__reduce__", none, ""⟩]
  data :=
    [⟨"__objclass__", none, ""⟩,
     ⟨"__name__", none, ""⟩,
     ⟨"__qualname__", none, ""⟩,
     ⟨"__doc__", none, ""⟩,
     ⟨"__text_signature__", none, ""⟩]
  members :=
    [⟨"__self__", none, ""⟩]
  operators :=
    ["__repr__", "__hash__", "__call__", "__getattribute__", "__lt__", "__le__", "__eq__",
     "__ne__", "__gt__", "__ge__"]

def plainFunctions : Class where
  name := "function"
  home := "builtins"
  lineage := ["function", "object"]
  bases := ["object"]
  description :=
    "Create a function object.\n\n  code\n    a code object\n  globals\n    the globals " ++
      "dictionary\n  name\n    a string that overrides the name from the code object\n  " ++
      "argdefs\n    a tuple that specifies the default argument values\n  closure\n    a " ++
      "tuple that supplies the bindings for free variables"
  signature := some "(code, globals, name=None, argdefs=None, closure=None)"
  measures := ⟨136, 0, 88, 96, 678144⟩
  data :=
    [⟨"__code__", none, ""⟩,
     ⟨"__defaults__", none, ""⟩,
     ⟨"__kwdefaults__", none, ""⟩,
     ⟨"__annotations__", none, ""⟩,
     ⟨"__dict__", none, ""⟩,
     ⟨"__name__", none, ""⟩,
     ⟨"__qualname__", none, ""⟩]
  members :=
    [⟨"__closure__", none, ""⟩,
     ⟨"__doc__", none, ""⟩,
     ⟨"__globals__", none, ""⟩,
     ⟨"__builtins__", none, ""⟩]
  functions :=
    [⟨"__new__", some "($type, *args, **kwargs)",
      "Create and return a new object.  See help(type) for accurate signature."⟩]
  operators := ["__repr__", "__call__", "__get__"]

def boundFunctions : Class where
  name := "method"
  home := "builtins"
  lineage := ["method", "object"]
  bases := ["object"]
  description := "Create a bound instance method object."
  signature := some "(function, instance, /)"
  measures := ⟨48, 0, 0, 32, 547072⟩
  methods :=
    [⟨"__reduce__", some "($self, /)", ""⟩]
  data :=
    [⟨"__doc__", none, ""⟩]
  members :=
    [⟨"__func__", none, "the function (or other callable) implementing a method"⟩,
     ⟨"__self__", none, "the instance to which a method is bound"⟩]
  functions :=
    [⟨"__new__", some "($type, *args, **kwargs)",
      "Create and return a new object.  See help(type) for accurate signature."⟩]
  operators :=
    ["__repr__", "__hash__", "__call__", "__getattribute__", "__setattr__", "__delattr__",
     "__lt__", "__le__", "__eq__", "__ne__", "__gt__", "__ge__"]

/-- The class of values that are computed when asked for. -/
def properties : Class where
  name := "property"
  home := "builtins"
  lineage := ["property", "object"]
  bases := ["object"]
  description :=
    "Property attribute.\n\n  fget\n    function to be used for getting an attribute " ++
      "value\n  fset\n    function to be used for setting an attribute value\n  fdel\n    " ++
      "function to be used for del'ing an attribute\n  doc\n    docstring\n\nTypical use " ++
      "is to define a managed attribute x:\n\nclass C(object):\n    def getx(self): return " ++
      "self._x\n    def setx(self, value): self._x = value\n    def delx(self): del " ++
      "self._x\n    x = property(getx, setx, delx, \"I'm the 'x' property.\")\n\n" ++
      "Decorators make defining new properties or modifying existing ones easy:\n\nclass " ++
      "C(object):\n    @property\n    def x(self):\n        \"I am the 'x' property.\"\n   " ++
      "     return self._x\n    @x.setter\n    def x(self, value):\n        self._x = " ++
      "value\n    @x.deleter\n    def x(self):\n        del self._x"
  signature := some "(fget=None, fset=None, fdel=None, doc=None)"
  measures := ⟨64, 0, 0, 0, 546048⟩
  methods :=
    [⟨"getter", none, "Descriptor to obtain a copy of the property with a different getter."⟩,
     ⟨"setter", none, "Descriptor to obtain a copy of the property with a different setter."⟩,
     ⟨"deleter", none, "Descriptor to obtain a copy of the property with a different deleter."⟩,
     ⟨"__set_name__", none, "Method to set name of a property."⟩]
  data :=
    [⟨"__isabstractmethod__", none, ""⟩]
  members :=
    [⟨"fget", none, ""⟩,
     ⟨"fset", none, ""⟩,
     ⟨"fdel", none, ""⟩,
     ⟨"__doc__", none, ""⟩]
  functions :=
    [⟨"__new__", some "($type, *args, **kwargs)",
      "Create and return a new object.  See help(type) for accurate signature."⟩]
  operators := ["__getattribute__", "__get__", "__set__", "__delete__", "__init__"]

def classFunctions : Class where
  name := "classmethod"
  home := "builtins"
  lineage := ["classmethod", "object"]
  bases := ["object"]
  description :=
    "classmethod(function) -> method\n\nConvert a function to be a class method.\n\nA " ++
      "class method receives the class as implicit first argument,\njust like an instance " ++
      "method receives the instance.\nTo declare a class method, use this idiom:\n\n  " ++
      "class C:\n      @classmethod\n      def f(cls, arg1, arg2, argN):\n          ...\n\n" ++
      "It can be called either on the class (e.g. C.f()) or on an instance\n(e.g. " ++
      "C().f()).  The instance is ignored except for its class.\nIf a class method is " ++
      "called for a derived class, the derived class\nobject is passed as the implied " ++
      "first argument.\n\nClass methods are different than C++ or Java static methods.\nIf " ++
      "you want those, see the staticmethod builtin."
  measures := ⟨32, 0, 24, 0, 546048⟩
  data :=
    [⟨"__isabstractmethod__", none, ""⟩,
     ⟨"__dict__", none, ""⟩]
  members :=
    [⟨"__func__", none, ""⟩,
     ⟨"__wrapped__", none, ""⟩]
  functions :=
    [⟨"__new__", some "($type, *args, **kwargs)",
      "Create and return a new object.  See help(type) for accurate signature."⟩]
  operators := ["__repr__", "__get__", "__init__"]

def freeFunctions : Class where
  name := "staticmethod"
  home := "builtins"
  lineage := ["staticmethod", "object"]
  bases := ["object"]
  description :=
    "staticmethod(function) -> method\n\nConvert a function to be a static method.\n\nA " ++
      "static method does not receive an implicit first argument.\nTo declare a static " ++
      "method, use this idiom:\n\n     class C:\n         @staticmethod\n         def " ++
      "f(arg1, arg2, argN):\n             ...\n\nIt can be called either on the class " ++
      "(e.g. C.f()) or on an instance\n(e.g. C().f()). Both the class and the instance are " ++
      "ignored, and\nneither is passed implicitly as the first argument to the method.\n\n" ++
      "Static methods in Python are similar to those found in Java or C++.\nFor a more " ++
      "advanced concept, see the classmethod builtin."
  measures := ⟨32, 0, 24, 0, 546048⟩
  data :=
    [⟨"__isabstractmethod__", none, ""⟩,
     ⟨"__dict__", none, ""⟩]
  members :=
    [⟨"__func__", none, ""⟩,
     ⟨"__wrapped__", none, ""⟩]
  functions :=
    [⟨"__new__", some "($type, *args, **kwargs)",
      "Create and return a new object.  See help(type) for accurate signature."⟩]
  operators := ["__repr__", "__call__", "__get__", "__init__"]

def codes : Class where
  name := "code"
  home := "builtins"
  lineage := ["code", "object"]
  bases := ["object"]
  description := "Create a code object.  Not for the faint of heart."
  signature :=
    some
      ("(argcount, posonlyargcount, kwonlyargcount, nlocals, stacksize,\n     flags, " ++
         "codestring, constants, names, varnames, filename, name,\n     qualname, " ++
         "firstlineno, linetable, exceptiontable, freevars=(),\n     cellvars=(), /)")
  measures := ⟨184, 2, 0, 144, 528640⟩
  methods :=
    [⟨"__sizeof__", none, ""⟩,
     ⟨"co_lines", none, ""⟩,
     ⟨"co_positions", none, ""⟩,
     ⟨"replace", some "($self, /, **changes)",
      "Return a copy of the code object with new values for the specified fields."⟩,
     ⟨"_varname_from_oparg", some "($self, /, oparg)",
      "(internal-only) Return the local variable name for the given oparg.\n\nWARNING: " ++
        "this method is for internal use only and may change or go away."⟩]
  data :=
    [⟨"co_lnotab", none, ""⟩,
     ⟨"_co_code_adaptive", none, ""⟩,
     ⟨"co_varnames", none, ""⟩,
     ⟨"co_cellvars", none, ""⟩,
     ⟨"co_freevars", none, ""⟩,
     ⟨"co_code", none, ""⟩]
  members :=
    [⟨"co_argcount", none, ""⟩,
     ⟨"co_posonlyargcount", none, ""⟩,
     ⟨"co_kwonlyargcount", none, ""⟩,
     ⟨"co_stacksize", none, ""⟩,
     ⟨"co_flags", none, ""⟩,
     ⟨"co_nlocals", none, ""⟩,
     ⟨"co_consts", none, ""⟩,
     ⟨"co_names", none, ""⟩,
     ⟨"co_filename", none, ""⟩,
     ⟨"co_name", none, ""⟩,
     ⟨"co_qualname", none, ""⟩,
     ⟨"co_firstlineno", none, ""⟩,
     ⟨"co_linetable", none, ""⟩,
     ⟨"co_exceptiontable", none, ""⟩]
  functions :=
    [⟨"__new__", some "($type, *args, **kwargs)",
      "Create and return a new object.  See help(type) for accurate signature."⟩]
  operators :=
    ["__repr__", "__hash__", "__getattribute__", "__lt__", "__le__", "__eq__", "__ne__",
     "__gt__", "__ge__"]

def cells : Class where
  name := "cell"
  home := "builtins"
  lineage := ["cell", "object"]
  bases := ["object"]
  description :=
    "Create a new cell object.\n\n  contents\n    the contents of the cell. If not " ++
      "specified, the cell will be empty,\n    and \n further attempts to access its " ++
      "cell_contents attribute will\n    raise a ValueError."
  signature := some "([contents])"
  measures := ⟨24, 0, 0, 0, 545024⟩
  data :=
    [⟨"cell_contents", none, ""⟩]
  functions :=
    [⟨"__new__", some "($type, *args, **kwargs)",
      "Create and return a new object.  See help(type) for accurate signature."⟩]
  operators :=
    ["__repr__", "__getattribute__", "__lt__", "__le__", "__eq__", "__ne__", "__gt__", "__ge__"]
  attributes :=
    [("__hash__", .value .absent)]

def allFeatures : List Class :=
  [methodFeatures, operatorFeatures, datumFeatures, memberFeatures, classMethodFeatures,
    boundMethods, boundOperators, plainFunctions, boundFunctions, properties, classFunctions,
    freeFunctions, codes, cells]

end ProtectionLimits.Class
