/-!
# Methods by kind of value

The methods that values have by their kind. Some of them belong to all values; the others are listed here for each
kind. A truth value has the methods of whole numbers.
-/

namespace HMSignature.Methods

/-- The methods of every value, among them all comparisons. -/
def shared : List String :=
  ["__class__", "__delattr__", "__dir__", "__eq__", "__format__", "__ge__", "__getattribute__",
    "__getstate__", "__gt__", "__init__", "__init_subclass__", "__le__", "__lt__", "__ne__", "__new__",
    "__reduce__", "__reduce_ex__", "__repr__", "__setattr__", "__sizeof__", "__str__", "__subclasshook__"]

/-- The further methods of the empty value. -/
def ofNull : List String :=
  ["__bool__", "__hash__"]

/-- The further methods of whole numbers. -/
def ofInt : List String :=
  ["__abs__", "__add__", "__and__", "__bool__", "__ceil__", "__divmod__", "__float__", "__floor__",
    "__floordiv__", "__getnewargs__", "__hash__", "__index__", "__int__", "__invert__", "__lshift__",
    "__mod__", "__mul__", "__neg__", "__or__", "__pos__", "__pow__", "__radd__", "__rand__", "__rdivmod__",
    "__rfloordiv__", "__rlshift__", "__rmod__", "__rmul__", "__ror__", "__round__", "__rpow__",
    "__rrshift__", "__rshift__", "__rsub__", "__rtruediv__", "__rxor__", "__sub__", "__truediv__",
    "__trunc__", "__xor__", "as_integer_ratio", "bit_count", "bit_length", "conjugate", "from_bytes",
    "to_bytes"]

/-- The further methods of floating-point numbers. -/
def ofFloat : List String :=
  ["__abs__", "__add__", "__bool__", "__ceil__", "__divmod__", "__float__", "__floor__", "__floordiv__",
    "__getformat__", "__getnewargs__", "__hash__", "__int__", "__mod__", "__mul__", "__neg__", "__pos__",
    "__pow__", "__radd__", "__rdivmod__", "__rfloordiv__", "__rmod__", "__rmul__", "__round__", "__rpow__",
    "__rsub__", "__rtruediv__", "__sub__", "__truediv__", "__trunc__", "as_integer_ratio", "conjugate",
    "fromhex", "hex", "is_integer"]

/-- The further methods of texts. -/
def ofText : List String :=
  ["__add__", "__contains__", "__getitem__", "__getnewargs__", "__hash__", "__iter__", "__len__", "__mod__",
    "__mul__", "__rmod__", "__rmul__", "capitalize", "casefold", "center", "count", "encode", "endswith",
    "expandtabs", "find", "format", "format_map", "index", "isalnum", "isalpha", "isascii", "isdecimal",
    "isdigit", "isidentifier", "islower", "isnumeric", "isprintable", "isspace", "istitle", "isupper",
    "join", "ljust", "lower", "lstrip", "maketrans", "partition", "removeprefix", "removesuffix", "replace",
    "rfind", "rindex", "rjust", "rpartition", "rsplit", "rstrip", "split", "splitlines", "startswith",
    "strip", "swapcase", "title", "translate", "upper", "zfill"]

/-- The further methods of lists. -/
def ofList : List String :=
  ["__add__", "__class_getitem__", "__contains__", "__delitem__", "__getitem__", "__iadd__", "__imul__",
    "__iter__", "__len__", "__mul__", "__reversed__", "__rmul__", "__setitem__", "append", "clear", "copy",
    "count", "extend", "index", "insert", "pop", "remove", "reverse", "sort"]

/-- The further methods of tuples. -/
def ofTuple : List String :=
  ["__add__", "__class_getitem__", "__contains__", "__getitem__", "__getnewargs__", "__hash__", "__iter__",
    "__len__", "__mul__", "__rmul__", "count", "index"]

/-- The further methods of sets. -/
def ofSet : List String :=
  ["__and__", "__class_getitem__", "__contains__", "__iand__", "__ior__", "__isub__", "__iter__", "__ixor__",
    "__len__", "__or__", "__rand__", "__ror__", "__rsub__", "__rxor__", "__sub__", "__xor__", "add", "clear",
    "copy", "difference", "difference_update", "discard", "intersection", "intersection_update",
    "isdisjoint", "issubset", "issuperset", "pop", "remove", "symmetric_difference",
    "symmetric_difference_update", "union", "update"]

/-- The further methods of dictionaries. -/
def ofDict : List String :=
  ["__class_getitem__", "__contains__", "__delitem__", "__getitem__", "__ior__", "__iter__", "__len__",
    "__or__", "__reversed__", "__ror__", "__setitem__", "clear", "copy", "fromkeys", "get", "items", "keys",
    "pop", "popitem", "setdefault", "update", "values"]

/-- The further methods of days. -/
def ofDate : List String :=
  ["__add__", "__hash__", "__radd__", "__rsub__", "__sub__", "ctime", "fromisocalendar", "fromisoformat",
    "fromordinal", "fromtimestamp", "isocalendar", "isoformat", "isoweekday", "replace", "strftime",
    "timetuple", "today", "toordinal", "weekday"]

/-- The further methods of moments. -/
def ofDatetime : List String :=
  ["__add__", "__hash__", "__radd__", "__rsub__", "__sub__", "astimezone", "combine", "ctime", "date", "dst",
    "fromisocalendar", "fromisoformat", "fromordinal", "fromtimestamp", "isocalendar", "isoformat",
    "isoweekday", "now", "replace", "strftime", "strptime", "time", "timestamp", "timetuple", "timetz",
    "today", "toordinal", "tzname", "utcfromtimestamp", "utcnow", "utcoffset", "utctimetuple", "weekday"]

/-- The further methods of exceptions. -/
def ofException : List String :=
  ["__hash__", "__setstate__", "add_note", "with_traceback"]

/-- The further methods of functions. -/
def ofFunction : List String :=
  ["__call__", "__get__", "__hash__"]

end HMSignature.Methods
