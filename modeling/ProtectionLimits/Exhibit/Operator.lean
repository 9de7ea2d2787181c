import ProtectionLimits.Exhibit.Class

/-!
Contract: what the operators say about themselves.

Owns the notes of all operators. An operator says the same in every class that has it.
-/

set_option autoImplicit false

namespace ProtectionLimits.Class

def operatorNotes : List Note :=
  [⟨"__abs__", some "($self, /)", "abs(self)"⟩,
   ⟨"__add__", some "($self, value, /)", "Return self+value."⟩,
   ⟨"__and__", some "($self, value, /)", "Return self&value."⟩,
   ⟨"__bool__", some "($self, /)", "True if self else False"⟩,
   ⟨"__call__", some "($self, /, *args, **kwargs)", "Call self as a function."⟩,
   ⟨"__contains__", some "($self, key, /)", "Return key in self."⟩,
   ⟨"__delattr__", some "($self, name, /)", "Implement delattr(self, name)."⟩,
   ⟨"__delete__", some "($self, instance, /)", "Delete an attribute of instance."⟩,
   ⟨"__delitem__", some "($self, key, /)", "Delete self[key]."⟩,
   ⟨"__divmod__", some "($self, value, /)", "Return divmod(self, value)."⟩,
   ⟨"__eq__", some "($self, value, /)", "Return self==value."⟩,
   ⟨"__float__", some "($self, /)", "float(self)"⟩,
   ⟨"__floordiv__", some "($self, value, /)", "Return self//value."⟩,
   ⟨"__ge__", some "($self, value, /)", "Return self>=value."⟩,
   ⟨"__get__", some "($self, instance, owner=None, /)",
    "Return an attribute of instance, which is of type owner."⟩,
   ⟨"__getattribute__", some "($self, name, /)", "Return getattr(self, name)."⟩,
   ⟨"__getitem__", some "($self, key, /)", "Return self[key]."⟩,
   ⟨"__gt__", some "($self, value, /)", "Return self>value."⟩,
   ⟨"__hash__", some "($self, /)", "Return hash(self)."⟩,
   ⟨"__iadd__", some "($self, value, /)", "Implement self+=value."⟩,
   ⟨"__iand__", some "($self, value, /)", "Return self&=value."⟩,
   ⟨"__imul__", some "($self, value, /)", "Implement self*=value."⟩,
   ⟨"__index__", some "($self, /)",
    "Return self converted to an integer, if self is suitable for use as an index " ++
      "into a list."⟩,
   ⟨"__init__", some "($self, /, *args, **kwargs)",
    "Initialize self.  See help(type(self)) for accurate signature."⟩,
   ⟨"__int__", some "($self, /)", "int(self)"⟩,
   ⟨"__invert__", some "($self, /)", "~self"⟩,
   ⟨"__ior__", some "($self, value, /)", "Return self|=value."⟩,
   ⟨"__isub__", some "($self, value, /)", "Return self-=value."⟩,
   ⟨"__iter__", some "($self, /)", "Implement iter(self)."⟩,
   ⟨"__ixor__", some "($self, value, /)", "Return self^=value."⟩,
   ⟨"__le__", some "($self, value, /)", "Return self<=value."⟩,
   ⟨"__len__", some "($self, /)", "Return len(self)."⟩,
   ⟨"__lshift__", some "($self, value, /)", "Return self<<value."⟩,
   ⟨"__lt__", some "($self, value, /)", "Return self<value."⟩,
   ⟨"__mod__", some "($self, value, /)", "Return self%value."⟩,
   ⟨"__mul__", some "($self, value, /)", "Return self*value."⟩,
   ⟨"__ne__", some "($self, value, /)", "Return self!=value."⟩,
   ⟨"__neg__", some "($self, /)", "-self"⟩,
   ⟨"__or__", some "($self, value, /)", "Return self|value."⟩,
   ⟨"__pos__", some "($self, /)", "+self"⟩,
   ⟨"__pow__", some "($self, value, mod=None, /)", "Return pow(self, value, mod)."⟩,
   ⟨"__radd__", some "($self, value, /)", "Return value+self."⟩,
   ⟨"__rand__", some "($self, value, /)", "Return value&self."⟩,
   ⟨"__rdivmod__", some "($self, value, /)", "Return divmod(value, self)."⟩,
   ⟨"__repr__", some "($self, /)", "Return repr(self)."⟩,
   ⟨"__rfloordiv__", some "($self, value, /)", "Return value//self."⟩,
   ⟨"__rlshift__", some "($self, value, /)", "Return value<<self."⟩,
   ⟨"__rmod__", some "($self, value, /)", "Return value%self."⟩,
   ⟨"__rmul__", some "($self, value, /)", "Return value*self."⟩,
   ⟨"__ror__", some "($self, value, /)", "Return value|self."⟩,
   ⟨"__rpow__", some "($self, value, mod=None, /)", "Return pow(value, self, mod)."⟩,
   ⟨"__rrshift__", some "($self, value, /)", "Return value>>self."⟩,
   ⟨"__rshift__", some "($self, value, /)", "Return self>>value."⟩,
   ⟨"__rsub__", some "($self, value, /)", "Return value-self."⟩,
   ⟨"__rtruediv__", some "($self, value, /)", "Return value/self."⟩,
   ⟨"__rxor__", some "($self, value, /)", "Return value^self."⟩,
   ⟨"__set__", some "($self, instance, value, /)", "Set an attribute of instance to value."⟩,
   ⟨"__setattr__", some "($self, name, value, /)", "Implement setattr(self, name, value)."⟩,
   ⟨"__setitem__", some "($self, key, value, /)", "Set self[key] to value."⟩,
   ⟨"__str__", some "($self, /)", "Return str(self)."⟩,
   ⟨"__sub__", some "($self, value, /)", "Return self-value."⟩,
   ⟨"__truediv__", some "($self, value, /)", "Return self/value."⟩,
   ⟨"__xor__", some "($self, value, /)", "Return self^value."⟩]

end ProtectionLimits.Class
