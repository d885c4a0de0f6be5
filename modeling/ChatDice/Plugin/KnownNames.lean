import ChatDice.Text

/-!
The names that stand for something in every module, whether it binds them or not.
-/

namespace ChatDice.Plugin

/-- The classes that every module knows. -/
def knownClasses : List Text := List.map Text.ofString
  ["ArithmeticError", "AssertionError", "AttributeError", "BaseException", "BaseExceptionGroup",
    "BlockingIOError", "BrokenPipeError", "BufferError", "BytesWarning", "ChildProcessError",
    "ConnectionAbortedError", "ConnectionError", "ConnectionRefusedError", "ConnectionResetError",
    "DeprecationWarning", "EOFError", "EncodingWarning", "Exception", "ExceptionGroup",
    "FileExistsError", "FileNotFoundError", "FloatingPointError", "FutureWarning", "GeneratorExit",
    "ImportError", "ImportWarning", "IndentationError", "IndexError", "InterruptedError",
    "IsADirectoryError", "KeyError", "KeyboardInterrupt", "LookupError", "MemoryError",
    "ModuleNotFoundError", "NameError", "NotADirectoryError", "NotImplementedError", "OSError",
    "OverflowError", "PendingDeprecationWarning", "PermissionError", "ProcessLookupError",
    "RecursionError", "ReferenceError", "ResourceWarning", "RuntimeError", "RuntimeWarning",
    "StopAsyncIteration", "StopIteration", "SyntaxError", "SyntaxWarning", "SystemError",
    "SystemExit", "TabError", "TimeoutError", "TypeError", "UnboundLocalError",
    "UnicodeDecodeError", "UnicodeEncodeError", "UnicodeError", "UnicodeTranslateError",
    "UnicodeWarning", "UserWarning", "ValueError", "Warning", "ZeroDivisionError", "bool",
    "bytearray", "bytes", "classmethod", "complex", "dict", "enumerate", "filter", "float",
    "frozenset", "int", "list", "map", "memoryview", "object", "property", "range", "reversed",
    "set", "slice", "staticmethod", "str", "super", "tuple", "type", "zip"]

/-- Second names of classes. -/
def classAliases : List (Text × Text) := [("EnvironmentError", "OSError"), ("IOError", "OSError")]

/-- The classes that make something empty, and so not true, out of nothing. -/
def emptyMakers : List Text :=
  ["bool", "bytearray", "bytes", "complex", "dict", "float", "frozenset", "int", "list", "set",
    "str", "tuple"]

/-- The names of functions and other objects that are no classes. -/
def knownObjects : List Text := List.map Text.ofString
  ["Ellipsis", "NotImplemented", "__build_class__", "__builtins__", "__cached__", "__debug__",
    "__file__", "__import__", "__loader__", "__spec__", "abs", "aiter", "all", "anext", "any",
    "ascii", "bin", "breakpoint", "callable", "chr", "compile", "copyright", "credits", "delattr",
    "dir", "divmod", "eval", "exec", "exit", "format", "getattr", "globals", "hasattr", "hash",
    "help", "hex", "id", "input", "isinstance", "issubclass", "iter", "len", "license", "locals",
    "max", "min", "next", "oct", "open", "ord", "pow", "print", "quit", "repr", "round", "setattr",
    "sorted", "sum", "vars"]

end ChatDice.Plugin
