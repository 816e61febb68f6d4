import ContainerClients.Package.Kind

/-!
# Basic kinds

The kinds of the values that modules are made of: texts, numbers, collections, functions, methods,
modules and kinds themselves.

* `basicKinds` — all of them.
-/

namespace ContainerClients

open Slot

namespace BasicKind

/-- The kind `object`. -/
def anything : Kind where
  name := "object"
  line := ["object"]
  bases := []
  described := some 173
  signature := some 2
  annotated := none
  slots :=
    operations
      ["__repr__", "__hash__", "__str__", "__getattribute__", "__setattr__", "__delattr__",
       "__lt__", "__le__", "__eq__", "__ne__", "__gt__", "__ge__", "__init__"] ++
    methods
      [("__reduce_ex__", 18, 20), ("__reduce__", 18, 10), ("__getstate__", 18, 10),
       ("__format__", 25, 23), ("__sizeof__", 35, 10), ("__dir__", 29, 10)] ++
    sharedMethods
      [("__subclasshook__", 308, 0), ("__init_subclass__", 135, 0)] ++
    [maker] ++
    places
      [("__class__", 18)] ++
    [.holding "__doc__" (.text 173)]

/-- The kind `type`. -/
def kind : Kind where
  name := "type"
  line := ["type", "object"]
  bases := ["object"]
  described := some 79
  signature := none
  annotated := none
  slots :=
    operations
      ["__repr__", "__call__", "__getattribute__", "__setattr__", "__delattr__", "__init__",
       "__or__", "__ror__"] ++
    methods
      [("mro", 40, 10), ("__subclasses__", 38, 10), ("__instancecheck__", 34, 20),
       ("__subclasscheck__", 31, 20), ("__dir__", 45, 10), ("__sizeof__", 45, 10)] ++
    sharedMethods
      [("__prepare__", 74, 0)] ++
    [maker] ++
    places
      [("__name__", 0), ("__qualname__", 0), ("__bases__", 0), ("__module__", 0),
       ("__abstractmethods__", 0), ("__dict__", 0), ("__doc__", 0), ("__text_signature__", 0),
       ("__annotations__", 0)] ++
    fields
      [("__basicsize__", 0), ("__itemsize__", 0), ("__flags__", 0), ("__weakrefoffset__", 0),
       ("__base__", 0), ("__dictoffset__", 0), ("__mro__", 0)]

/-- The kind `list`. -/
def list : Kind where
  name := "list"
  line := ["list", "object"]
  bases := ["object"]
  described := some 141
  signature := some 16
  annotated := none
  slots :=
    operations
      ["__repr__", "__getattribute__", "__lt__", "__le__", "__eq__", "__ne__", "__gt__", "__ge__",
       "__iter__", "__init__", "__len__", "__setitem__", "__delitem__", "__add__", "__mul__",
       "__rmul__", "__contains__", "__iadd__", "__imul__"] ++
    methods
      [("__getitem__", 26, 0), ("__reversed__", 40, 10), ("__sizeof__", 48, 10), ("clear", 27, 10),
       ("copy", 34, 10), ("append", 37, 18), ("insert", 27, 25), ("extend", 52, 20),
       ("pop", 109, 20), ("remove", 81, 17), ("index", 76, 44), ("count", 38, 17),
       ("reverse", 19, 10), ("sort", 366, 38)] ++
    sharedMethods
      [("__class_getitem__", 11, 0)] ++
    [maker] ++
    [.holding "__hash__" (.nothing), .holding "__doc__" (.text 141)]

/-- The kind `tuple`. -/
def tuple : Kind where
  name := "tuple"
  line := ["tuple", "object"]
  bases := ["object"]
  described := some 233
  signature := some 16
  annotated := none
  slots :=
    operations
      ["__repr__", "__hash__", "__getattribute__", "__lt__", "__le__", "__eq__", "__ne__", "__gt__",
       "__ge__", "__iter__", "__len__", "__getitem__", "__add__", "__mul__", "__rmul__",
       "__contains__"] ++
    methods
      [("__getnewargs__", 0, 10), ("index", 76, 44), ("count", 38, 17)] ++
    sharedMethods
      [("__class_getitem__", 11, 0)] ++
    [maker] ++
    [.holding "__doc__" (.text 233)]

/-- The kind `dict`. -/
def record : Kind where
  name := "dict"
  line := ["dict", "object"]
  bases := ["object"]
  described := some 370
  signature := none
  annotated := none
  slots :=
    operations
      ["__repr__", "__getattribute__", "__lt__", "__le__", "__eq__", "__ne__", "__gt__", "__ge__",
       "__iter__", "__init__", "__or__", "__ror__", "__ior__", "__len__", "__setitem__",
       "__delitem__"] ++
    methods
      [("__getitem__", 26, 0), ("__contains__", 57, 15), ("__sizeof__", 47, 0), ("get", 67, 29),
       ("setdefault", 136, 29), ("pop", 159, 42), ("popitem", 145, 10), ("keys", 58, 0),
       ("items", 60, 0), ("values", 54, 0), ("update", 285, 0), ("clear", 44, 0), ("copy", 31, 0),
       ("__reversed__", 45, 10)] ++
    sharedMethods
      [("fromkeys", 72, 32), ("__class_getitem__", 11, 0)] ++
    [maker] ++
    [.holding "__hash__" (.nothing), .holding "__doc__" (.text 370)]

/-- The kind `str`. -/
def text : Kind where
  name := "str"
  line := ["str", "object"]
  bases := ["object"]
  described := some 421
  signature := none
  annotated := none
  slots :=
    operations
      ["__repr__", "__hash__", "__str__", "__getattribute__", "__lt__", "__le__", "__eq__",
       "__ne__", "__gt__", "__ge__", "__iter__", "__mod__", "__rmod__", "__len__", "__getitem__",
       "__add__", "__mul__", "__rmul__", "__contains__"] ++
    methods
      [("encode", 454, 45), ("replace", 270, 30), ("split", 632, 33), ("rsplit", 456, 33),
       ("join", 204, 20), ("capitalize", 129, 10), ("casefold", 65, 10), ("title", 172, 10),
       ("center", 115, 31), ("count", 198, 0), ("expandtabs", 130, 21), ("find", 237, 0),
       ("partition", 352, 15), ("index", 267, 0), ("ljust", 121, 31), ("lower", 51, 10),
       ("lstrip", 129, 22), ("rfind", 239, 0), ("rindex", 269, 0), ("rjust", 122, 31),
       ("rstrip", 130, 22), ("rpartition", 372, 15), ("splitlines", 157, 26), ("strip", 142, 22),
       ("swapcase", 80, 10), ("translate", 396, 17), ("upper", 51, 10), ("startswith", 269, 0),
       ("endswith", 265, 0), ("removeprefix", 185, 18), ("removesuffix", 213, 18),
       ("isascii", 161, 10), ("islower", 197, 10), ("isupper", 198, 10), ("istitle", 203, 10),
       ("isspace", 188, 10), ("isdecimal", 188, 10), ("isdigit", 183, 10), ("isnumeric", 179, 10),
       ("isalpha", 189, 10), ("isalnum", 198, 10), ("isidentifier", 176, 10),
       ("isprintable", 158, 10), ("zfill", 112, 17), ("format", 166, 0), ("format_map", 154, 0),
       ("__format__", 69, 23), ("__sizeof__", 50, 10), ("__getnewargs__", 0, 0)] ++
    fixedMethods
      [("maketrans", 533, 48)] ++
    [maker] ++
    [.holding "__doc__" (.text 421)]

/-- The kind `int`. -/
def wholeNumber : Kind where
  name := "int"
  line := ["int", "object"]
  bases := ["object"]
  described := some 605
  signature := none
  annotated := none
  slots :=
    operations
      ["__repr__", "__hash__", "__getattribute__", "__lt__", "__le__", "__eq__", "__ne__", "__gt__",
       "__ge__", "__add__", "__radd__", "__sub__", "__rsub__", "__mul__", "__rmul__", "__mod__",
       "__rmod__", "__divmod__", "__rdivmod__", "__pow__", "__rpow__", "__neg__", "__pos__",
       "__abs__", "__bool__", "__invert__", "__lshift__", "__rlshift__", "__rshift__",
       "__rrshift__", "__and__", "__rand__", "__xor__", "__rxor__", "__or__", "__ror__", "__int__",
       "__float__", "__floordiv__", "__rfloordiv__", "__truediv__", "__rtruediv__", "__index__"] ++
    methods
      [("conjugate", 47, 0), ("bit_length", 101, 10), ("bit_count", 156, 10), ("to_bytes", 769, 54),
       ("as_integer_ratio", 240, 10), ("__trunc__", 38, 0), ("__floor__", 36, 0),
       ("__ceil__", 38, 0), ("__round__", 96, 37), ("__getnewargs__", 0, 10), ("__format__", 0, 23),
       ("__sizeof__", 33, 10)] ++
    sharedMethods
      [("from_bytes", 764, 51)] ++
    [maker] ++
    places
      [("real", 33), ("imag", 38), ("numerator", 50), ("denominator", 52)] ++
    [.holding "__doc__" (.text 605)]

/-- The kind `float`. -/
def realNumber : Kind where
  name := "float"
  line := ["float", "object"]
  bases := ["object"]
  described := some 67
  signature := some 8
  annotated := none
  slots :=
    operations
      ["__repr__", "__hash__", "__getattribute__", "__lt__", "__le__", "__eq__", "__ne__", "__gt__",
       "__ge__", "__add__", "__radd__", "__sub__", "__rsub__", "__mul__", "__rmul__", "__mod__",
       "__rmod__", "__divmod__", "__rdivmod__", "__pow__", "__rpow__", "__neg__", "__pos__",
       "__abs__", "__bool__", "__int__", "__float__", "__floordiv__", "__rfloordiv__",
       "__truediv__", "__rtruediv__"] ++
    methods
      [("conjugate", 48, 10), ("__trunc__", 49, 10), ("__floor__", 32, 10), ("__ceil__", 34, 10),
       ("__round__", 127, 24), ("as_integer_ratio", 307, 10), ("hex", 146, 10),
       ("is_integer", 39, 10), ("__getnewargs__", 0, 10), ("__format__", 43, 23)] ++
    sharedMethods
      [("fromhex", 143, 18), ("__getformat__", 322, 19)] ++
    [maker] ++
    places
      [("real", 33), ("imag", 38)] ++
    [.holding "__doc__" (.text 67)]

/-- The kind `bool`. -/
def truthValue : Kind where
  name := "bool"
  line := ["bool", "int", "object"]
  bases := ["int"]
  described := some 222
  signature := none
  annotated := none
  slots :=
    operations
      ["__repr__", "__and__", "__rand__", "__xor__", "__rxor__", "__or__", "__ror__"] ++
    [maker] ++
    [.holding "__doc__" (.text 222)]

/-- The kind `NoneType`. -/
def nothing : Kind where
  name := "NoneType"
  line := ["NoneType", "object"]
  bases := ["object"]
  described := none
  signature := none
  annotated := none
  slots :=
    operations
      ["__repr__", "__bool__"] ++
    [maker] ++
    [.holding "__doc__" (.nothing)]

/-- The kind `builtin_function_or_method`. -/
def boundMethod : Kind where
  name := "builtin_function_or_method"
  line := ["builtin_function_or_method", "object"]
  bases := ["object"]
  described := none
  signature := none
  annotated := none
  slots :=
    operations
      ["__repr__", "__hash__", "__call__", "__getattribute__", "__lt__", "__le__", "__eq__",
       "__ne__", "__gt__", "__ge__"] ++
    methods
      [("__reduce__", 0, 0)] ++
    places
      [("__doc__", 0), ("__name__", 0), ("__qualname__", 0), ("__self__", 0),
       ("__text_signature__", 0)] ++
    fields
      [("__module__", 0)]

/-- The kind `method-wrapper`. -/
def boundOperation : Kind where
  name := "method-wrapper"
  line := ["method-wrapper", "object"]
  bases := ["object"]
  described := none
  signature := none
  annotated := none
  slots :=
    operations
      ["__repr__", "__hash__", "__call__", "__getattribute__", "__lt__", "__le__", "__eq__",
       "__ne__", "__gt__", "__ge__"] ++
    methods
      [("__reduce__", 0, 0)] ++
    places
      [("__objclass__", 0), ("__name__", 0), ("__qualname__", 0), ("__doc__", 0),
       ("__text_signature__", 0)] ++
    fields
      [("__self__", 0)]

/-- The kind `method_descriptor`. -/
def methodDescriptor : Kind where
  name := "method_descriptor"
  line := ["method_descriptor", "object"]
  bases := ["object"]
  described := none
  signature := none
  annotated := none
  slots :=
    operations
      ["__repr__", "__call__", "__getattribute__", "__get__"] ++
    methods
      [("__reduce__", 0, 0)] ++
    places
      [("__doc__", 0), ("__qualname__", 0), ("__text_signature__", 0)] ++
    fields
      [("__objclass__", 0), ("__name__", 0)]

/-- The kind `wrapper_descriptor`. -/
def operationDescriptor : Kind where
  name := "wrapper_descriptor"
  line := ["wrapper_descriptor", "object"]
  bases := ["object"]
  described := none
  signature := none
  annotated := none
  slots :=
    operations
      ["__repr__", "__call__", "__getattribute__", "__get__"] ++
    methods
      [("__reduce__", 0, 0)] ++
    places
      [("__doc__", 0), ("__qualname__", 0), ("__text_signature__", 0)] ++
    fields
      [("__objclass__", 0), ("__name__", 0)]

/-- The kind `classmethod_descriptor`. -/
def sharedDescriptor : Kind where
  name := "classmethod_descriptor"
  line := ["classmethod_descriptor", "object"]
  bases := ["object"]
  described := none
  signature := none
  annotated := none
  slots :=
    operations
      ["__repr__", "__call__", "__getattribute__", "__get__"] ++
    places
      [("__doc__", 0), ("__qualname__", 0), ("__text_signature__", 0)] ++
    fields
      [("__objclass__", 0), ("__name__", 0)]

/-- The kind `getset_descriptor`. -/
def placeDescriptor : Kind where
  name := "getset_descriptor"
  line := ["getset_descriptor", "object"]
  bases := ["object"]
  described := none
  signature := none
  annotated := none
  slots :=
    operations
      ["__repr__", "__getattribute__", "__get__", "__set__", "__delete__"] ++
    places
      [("__doc__", 0), ("__qualname__", 0)] ++
    fields
      [("__objclass__", 0), ("__name__", 0)]

/-- The kind `member_descriptor`. -/
def fieldDescriptor : Kind where
  name := "member_descriptor"
  line := ["member_descriptor", "object"]
  bases := ["object"]
  described := none
  signature := none
  annotated := none
  slots :=
    operations
      ["__repr__", "__getattribute__", "__get__", "__set__", "__delete__"] ++
    methods
      [("__reduce__", 0, 0)] ++
    places
      [("__doc__", 0), ("__qualname__", 0)] ++
    fields
      [("__objclass__", 0), ("__name__", 0)]

/-- The kind `mappingproxy`. -/
def view : Kind where
  name := "mappingproxy"
  line := ["mappingproxy", "object"]
  bases := ["object"]
  described := none
  signature := none
  annotated := none
  slots :=
    operations
      ["__repr__", "__str__", "__getattribute__", "__lt__", "__le__", "__eq__", "__ne__", "__gt__",
       "__ge__", "__iter__", "__or__", "__ror__", "__ior__", "__len__", "__getitem__",
       "__contains__"] ++
    methods
      [("get", 60, 0), ("keys", 58, 0), ("values", 54, 0), ("items", 60, 0), ("copy", 31, 0),
       ("__reversed__", 36, 0)] ++
    sharedMethods
      [("__class_getitem__", 11, 0)] ++
    [maker] ++
    [.holding "__doc__" (.nothing), .holding "__hash__" (.nothing)]

/-- The kind `function`. -/
def function : Kind where
  name := "function"
  line := ["function", "object"]
  bases := ["object"]
  described := some 286
  signature := some 54
  annotated := none
  slots :=
    operations
      ["__repr__", "__call__", "__get__"] ++
    [maker] ++
    places
      [("__code__", 0), ("__defaults__", 0), ("__kwdefaults__", 0), ("__annotations__", 0),
       ("__dict__", 0), ("__name__", 0), ("__qualname__", 0)] ++
    fields
      [("__closure__", 0), ("__doc__", 0), ("__globals__", 0), ("__module__", 0),
       ("__builtins__", 0)]

/-- The kind `method`. -/
def boundFunction : Kind where
  name := "method"
  line := ["method", "object"]
  bases := ["object"]
  described := some 38
  signature := some 23
  annotated := none
  slots :=
    operations
      ["__repr__", "__hash__", "__call__", "__getattribute__", "__setattr__", "__delattr__",
       "__lt__", "__le__", "__eq__", "__ne__", "__gt__", "__ge__"] ++
    methods
      [("__reduce__", 0, 10)] ++
    [maker] ++
    places
      [("__doc__", 0)] ++
    fields
      [("__func__", 54), ("__self__", 39)]

/-- The kind `code`. -/
def code : Kind where
  name := "code"
  line := ["code", "object"]
  bases := ["object"]
  described := some 50
  signature := some 220
  annotated := none
  slots :=
    operations
      ["__repr__", "__hash__", "__getattribute__", "__lt__", "__le__", "__eq__", "__ne__", "__gt__",
       "__ge__"] ++
    methods
      [("__sizeof__", 0, 0), ("co_lines", 0, 0), ("co_positions", 0, 0), ("replace", 74, 21),
       ("_varname_from_oparg", 141, 17)] ++
    [maker] ++
    places
      [("co_lnotab", 0), ("_co_code_adaptive", 0), ("co_varnames", 0), ("co_cellvars", 0),
       ("co_freevars", 0), ("co_code", 0)] ++
    fields
      [("co_argcount", 0), ("co_posonlyargcount", 0), ("co_kwonlyargcount", 0), ("co_stacksize", 0),
       ("co_flags", 0), ("co_nlocals", 0), ("co_consts", 0), ("co_names", 0), ("co_filename", 0),
       ("co_name", 0), ("co_qualname", 0), ("co_firstlineno", 0), ("co_linetable", 0),
       ("co_exceptiontable", 0)] ++
    [.holding "__doc__" (.text 50)]

/-- The kind `module`. -/
def module : Kind where
  name := "module"
  line := ["module", "object"]
  bases := ["object"]
  described := some 96
  signature := some 16
  annotated := none
  slots :=
    operations
      ["__repr__", "__getattribute__", "__setattr__", "__delattr__", "__init__"] ++
    methods
      [("__dir__", 50, 0)] ++
    [maker] ++
    places
      [("__annotations__", 0)] ++
    fields
      [("__dict__", 0)] ++
    [.holding "__doc__" (.text 96)]

/-- The kind `property`. -/
def property : Kind where
  name := "property"
  line := ["property", "object"]
  bases := ["object"]
  described := some 750
  signature := some 43
  annotated := none
  slots :=
    operations
      ["__getattribute__", "__get__", "__set__", "__delete__", "__init__"] ++
    methods
      [("getter", 68, 0), ("setter", 68, 0), ("deleter", 69, 0), ("__set_name__", 33, 0)] ++
    [maker] ++
    places
      [("__isabstractmethod__", 0)] ++
    fields
      [("fget", 0), ("fset", 0), ("fdel", 0), ("__doc__", 0)]

/-- The kind `BaseException`. -/
def anyFault : Kind where
  name := "BaseException"
  line := ["BaseException", "object"]
  bases := ["object"]
  described := some 36
  signature := none
  annotated := none
  slots :=
    operations
      ["__repr__", "__str__", "__getattribute__", "__setattr__", "__delattr__", "__init__"] ++
    methods
      [("__reduce__", 0, 0), ("__setstate__", 0, 0), ("with_traceback", 81, 0),
       ("add_note", 59, 0)] ++
    [maker] ++
    places
      [("__dict__", 0), ("args", 0), ("__traceback__", 0), ("__context__", 17),
       ("__cause__", 15)] ++
    fields
      [("__suppress_context__", 0)] ++
    [.holding "__doc__" (.text 36)]

/-- The kind `Exception`. -/
def fault : Kind where
  name := "Exception"
  line := ["Exception", "BaseException", "object"]
  bases := ["BaseException"]
  described := some 46
  signature := none
  annotated := none
  slots :=
    operations
      ["__init__"] ++
    [maker] ++
    [.holding "__doc__" (.text 46)]

/-- The kind `ValueError`. -/
def valueFault : Kind where
  name := "ValueError"
  line := ["ValueError", "Exception", "BaseException", "object"]
  bases := ["Exception"]
  described := some 47
  signature := none
  annotated := none
  slots :=
    operations
      ["__init__"] ++
    [maker] ++
    [.holding "__doc__" (.text 47)]

/-- The kind `LookupError`. -/
def lookupFault : Kind where
  name := "LookupError"
  line := ["LookupError", "Exception", "BaseException", "object"]
  bases := ["Exception"]
  described := some 29
  signature := none
  annotated := none
  slots :=
    operations
      ["__init__"] ++
    [maker] ++
    [.holding "__doc__" (.text 29)]

end BasicKind

open BasicKind in
/-- **The basic kinds.** -/
def basicKinds : Kinds :=
  [anything, kind, list, tuple, record, text, wholeNumber,
   realNumber, truthValue, nothing, boundMethod, boundOperation,
   methodDescriptor, operationDescriptor, sharedDescriptor, placeDescriptor,
   fieldDescriptor, view, function, boundFunction, code, module,
   property, anyFault, fault, valueFault, lookupFault]

end ContainerClients
