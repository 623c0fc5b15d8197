/-!
# Members by type

The names that values of the host's types answer to beside the fields that hold their data: what
they can do, and what they tell about their type.
-/

namespace CallGraphs.Members

/-- What every value answers to. -/
def common : List String :=
  ["__class__", "__delattr__", "__dir__", "__doc__", "__eq__", "__format__", "__ge__",
   "__getattribute__", "__getstate__", "__gt__", "__hash__", "__init__", "__init_subclass__",
   "__le__", "__lt__", "__ne__", "__new__", "__reduce__", "__reduce_ex__", "__repr__",
   "__setattr__", "__sizeof__", "__str__", "__subclasshook__"]

/-- What objects of classes answer to beside that. -/
def object : List String :=
  ["__dict__", "__module__", "__weakref__"]

/-- What tuples of a class of their own answer to beside that. -/
def objectTuple : List String :=
  ["__dict__", "__module__"]

/-- Text. -/
def text : List String :=
  ["__add__", "__contains__", "__getitem__", "__getnewargs__", "__iter__", "__len__", "__mod__",
   "__mul__", "__rmod__", "__rmul__", "capitalize", "casefold", "center", "count", "encode",
   "endswith", "expandtabs", "find", "format", "format_map", "index", "isalnum", "isalpha",
   "isascii", "isdecimal", "isdigit", "isidentifier", "islower", "isnumeric", "isprintable",
   "isspace", "istitle", "isupper", "join", "ljust", "lower", "lstrip", "maketrans", "partition",
   "removeprefix", "removesuffix", "replace", "rfind", "rindex", "rjust", "rpartition", "rsplit",
   "rstrip", "split", "splitlines", "startswith", "strip", "swapcase", "title", "translate",
   "upper", "zfill"]

/-- Whole numbers and truth values. -/
def number : List String :=
  ["__abs__", "__add__", "__and__", "__bool__", "__ceil__", "__divmod__", "__float__", "__floor__",
   "__floordiv__", "__getnewargs__", "__index__", "__int__", "__invert__", "__lshift__", "__mod__",
   "__mul__", "__neg__", "__or__", "__pos__", "__pow__", "__radd__", "__rand__", "__rdivmod__",
   "__rfloordiv__", "__rlshift__", "__rmod__", "__rmul__", "__ror__", "__round__", "__rpow__",
   "__rrshift__", "__rshift__", "__rsub__", "__rtruediv__", "__rxor__", "__sub__", "__truediv__",
   "__trunc__", "__xor__", "as_integer_ratio", "bit_count", "bit_length", "conjugate",
   "denominator", "from_bytes", "imag", "numerator", "real", "to_bytes"]

/-- Floating point numbers. -/
def real : List String :=
  ["__abs__", "__add__", "__bool__", "__ceil__", "__divmod__", "__float__", "__floor__",
   "__floordiv__", "__getformat__", "__getnewargs__", "__int__", "__mod__", "__mul__", "__neg__",
   "__pos__", "__pow__", "__radd__", "__rdivmod__", "__rfloordiv__", "__rmod__", "__rmul__",
   "__round__", "__rpow__", "__rsub__", "__rtruediv__", "__sub__", "__truediv__", "__trunc__",
   "as_integer_ratio", "conjugate", "fromhex", "hex", "imag", "is_integer", "real"]

/-- Lists. -/
def list : List String :=
  ["__add__", "__class_getitem__", "__contains__", "__delitem__", "__getitem__", "__iadd__",
   "__imul__", "__iter__", "__len__", "__mul__", "__reversed__", "__rmul__", "__setitem__",
   "append", "clear", "copy", "count", "extend", "index", "insert", "pop", "remove", "reverse",
   "sort"]

/-- Tuples. -/
def tuple : List String :=
  ["__add__", "__class_getitem__", "__contains__", "__getitem__", "__getnewargs__", "__iter__",
   "__len__", "__mul__", "__rmul__", "count", "index"]

/-- Dictionaries. -/
def dict : List String :=
  ["__class_getitem__", "__contains__", "__delitem__", "__getitem__", "__ior__", "__iter__",
   "__len__", "__or__", "__reversed__", "__ror__", "__setitem__", "clear", "copy", "fromkeys",
   "get", "items", "keys", "pop", "popitem", "setdefault", "update", "values"]

/-- Call kinds, which are also text. -/
def kind : List String :=
  ["__copy__", "__deepcopy__", "__objclass__", "_generate_next_value_", "_member_map_",
   "_member_names_", "_member_type_", "_missing_", "_new_member_", "_sort_order_",
   "_unhashable_values_", "_use_args_", "_value2member_map_", "_value_repr_"]

/-- The library's records. -/
def record : List String :=
  ["__abstractmethods__", "__annotations__", "__class_getitem__", "__class_vars__", "__copy__",
   "__deepcopy__", "__fields__", "__fields_set__", "__getattr__", "__iter__", "__pretty__",
   "__private_attributes__", "__replace__", "__repr_args__", "__repr_name__", "__repr_recursion__",
   "__repr_str__", "__rich_repr__", "__setstate__", "__signature__", "__slots__", "_abc_impl",
   "_calculate_keys", "_copy_and_set_values", "_get_value", "_iter", "_setattr_handler",
   "construct", "copy", "dict", "from_orm", "json", "model_computed_fields", "model_config",
   "model_construct", "model_copy", "model_dump", "model_dump_json", "model_extra", "model_fields",
   "model_fields_set", "model_json_schema", "model_parametrized_name", "model_post_init",
   "model_rebuild", "model_validate", "model_validate_json", "model_validate_strings", "parse_file",
   "parse_obj", "parse_raw", "schema", "schema_json", "update_forward_refs", "validate"]

/-- Mappings of the host. -/
def mapping : List String :=
  ["__abstractmethods__", "__class_getitem__", "__contains__", "__getitem__", "__iter__", "__len__",
   "__reversed__", "__slots__", "_abc_impl", "get", "items", "keys", "values"]

end CallGraphs.Members
