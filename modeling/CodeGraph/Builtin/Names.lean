/-!
# Names that languages provide

Functions, methods and receivers that are never defined in an ingested file.
-/

namespace CodeGraph.Builtin

/-- Functions that Python provides. -/
def pythonFunctions : List String :=
  ["print", "len", "str", "int", "float", "bool", "list", "dict", "tuple", "set", "range",
   "enumerate", "zip", "map", "filter", "sum", "max", "min", "abs", "round", "sorted",
   "reversed", "any", "all", "type", "isinstance", "hasattr", "getattr", "setattr", "delattr",
   "dir", "vars", "id", "hash", "repr", "open", "input", "format", "exec", "eval", "compile",
   "globals", "locals", "super", "iter", "next", "callable", "issubclass", "object", "frozenset",
   "bytes", "bytearray", "memoryview", "chr", "ord", "divmod", "pow", "bin", "hex", "oct",
   "staticmethod", "classmethod", "property", "slice", "complex", "ascii", "breakpoint", "help",
   "aiter", "anext", "Exception", "ValueError", "TypeError", "KeyError", "IndexError",
   "RuntimeError", "AttributeError", "NotImplementedError", "OSError", "StopIteration",
   "AssertionError", "ImportError", "FileNotFoundError"]

/-- Methods of the collections, texts, files and loggers of Python. -/
def pythonMethods : List String :=
  ["append", "extend", "insert", "pop", "remove", "clear", "copy", "sort", "reverse", "index",
   "count", "get", "items", "keys", "values", "update", "setdefault", "popitem", "add",
   "discard", "union", "intersection", "difference", "issubset", "issuperset", "join", "split",
   "rsplit", "strip", "lstrip", "rstrip", "replace", "lower", "upper", "startswith", "endswith",
   "find", "rfind", "format", "encode", "decode", "splitlines", "partition", "rpartition",
   "zfill", "isdigit", "isalpha", "isalnum", "isspace", "title", "capitalize", "read", "write",
   "readline", "readlines", "close", "seek", "flush", "debug", "info", "warning", "error",
   "exception", "critical"]

/-- Modules and types that Python provides. -/
def pythonReceivers : List String :=
  ["os", "sys", "json", "re", "math", "logging", "time", "datetime", "random", "itertools",
   "functools", "collections", "subprocess", "shutil", "typing", "pathlib", "hashlib",
   "threading", "asyncio", "copy", "uuid", "tempfile", "str", "dict", "list", "int", "float",
   "bytes", "set", "tuple", "object"]

/-- Functions and constructors that JavaScript provides. -/
def scriptFunctions : List String :=
  ["parseInt", "parseFloat", "isNaN", "isFinite", "setTimeout", "setInterval", "clearTimeout",
   "clearInterval", "setImmediate", "queueMicrotask", "structuredClone", "require", "fetch",
   "alert", "encodeURIComponent", "decodeURIComponent", "encodeURI", "decodeURI", "Number",
   "String", "Boolean", "Array", "Object", "Symbol", "BigInt", "Date", "Error", "TypeError",
   "RangeError", "SyntaxError", "Promise", "Map", "Set", "WeakMap", "WeakSet", "RegExp", "URL",
   "URLSearchParams", "Proxy"]

/-- Entry points of user interface and test frameworks for JavaScript. -/
def frameworkEntryPoints : List String :=
  ["useState", "useEffect", "useContext", "useReducer", "useCallback", "useMemo", "useRef",
   "useLayoutEffect", "useImperativeHandle", "useDebugValue", "useId", "useTransition",
   "useDeferredValue", "createElement", "createContext", "forwardRef", "memo", "describe", "it",
   "test", "expect", "beforeEach", "afterEach", "beforeAll", "afterAll"]

/-- Methods of the collections, texts and page elements of JavaScript. -/
def scriptMethods : List String :=
  ["push", "pop", "shift", "unshift", "slice", "splice", "map", "filter", "reduce",
   "reduceRight", "forEach", "find", "findIndex", "some", "every", "includes", "indexOf",
   "lastIndexOf", "join", "concat", "sort", "reverse", "keys", "values", "entries", "flat",
   "flatMap", "fill", "then", "catch", "finally", "toString", "toFixed", "valueOf", "split",
   "replace", "replaceAll", "trim", "trimStart", "trimEnd", "toLowerCase", "toUpperCase",
   "startsWith", "endsWith", "substring", "substr", "charAt", "charCodeAt", "match", "matchAll",
   "test", "exec", "padStart", "padEnd", "repeat", "get", "set", "has", "delete", "add", "clear",
   "bind", "call", "apply", "hasOwnProperty", "addEventListener", "removeEventListener",
   "querySelector", "querySelectorAll", "getElementById", "preventDefault", "stopPropagation",
   "json", "text"]

/-- Objects that JavaScript provides. -/
def scriptReceivers : List String :=
  ["console", "Math", "JSON", "Object", "Array", "Promise", "Number", "String", "Reflect",
   "Date", "Symbol", "Intl", "window", "document", "process", "Buffer", "navigator",
   "localStorage", "sessionStorage", "module", "exports", "globalThis", "React"]

/-- Constructors of core types of Java. -/
def javaFunctions : List String :=
  ["String", "StringBuilder", "StringBuffer", "Object", "ArrayList", "LinkedList", "HashMap",
   "LinkedHashMap", "TreeMap", "HashSet", "LinkedHashSet", "TreeSet", "Exception",
   "RuntimeException", "IllegalArgumentException", "IllegalStateException",
   "UnsupportedOperationException", "NullPointerException", "Thread", "Integer", "Long",
   "Double", "AtomicInteger", "AtomicLong"]

/-- Methods of the core types of Java. -/
def javaMethods : List String :=
  ["println", "print", "printf", "equals", "hashCode", "toString", "getClass", "length", "size",
   "isEmpty", "get", "put", "add", "addAll", "remove", "contains", "containsKey",
   "containsValue", "stream", "map", "filter", "collect", "forEach", "append", "valueOf",
   "format", "substring", "charAt", "indexOf", "trim", "split", "toLowerCase", "toUpperCase",
   "iterator", "hasNext", "next", "close", "compareTo", "orElse", "orElseThrow", "isPresent",
   "ifPresent", "of", "ofNullable", "keySet", "entrySet", "getKey", "getValue", "debug", "info",
   "warn", "error", "trace"]

/-- Types of Java that are called directly. -/
def javaReceivers : List String :=
  ["System", "Math", "String", "Integer", "Long", "Double", "Boolean", "Arrays", "Collections",
   "Objects", "List", "Map", "Set", "Optional", "Stream", "Collectors", "Thread",
   "LoggerFactory", "Files", "Paths"]

end CodeGraph.Builtin
