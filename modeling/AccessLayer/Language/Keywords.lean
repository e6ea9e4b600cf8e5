import AccessLayer.Language

namespace AccessLayer

namespace Language

/-- Reserved words that become names when a letter marks them as raw. -/
def rawKeywords : List String :=
  ["as", "break", "const", "continue", "else", "enum", "extern", "false", "fn", "for", "if", "impl",
   "in", "let", "loop", "match", "mod", "move", "mut", "pub", "ref", "return", "static", "struct",
   "trait", "true", "type", "unsafe", "use", "where", "while", "async", "await", "dyn", "abstract",
   "become", "box", "do", "final", "gen", "macro", "override", "priv", "try", "typeof", "unsized",
   "virtual", "yield"]

/-- Reserved words that become names when an underscore follows them. -/
def suffixedKeywords : Language → List String
  | rust => ["crate", "self", "Self", "super"]
  | cpp =>
    ["alignas", "alignof", "and", "and_eq", "asm", "auto", "bitand", "bitor", "bool", "break",
     "case", "catch", "char", "char8_t", "char16_t", "char32_t", "class", "co_await", "co_return",
     "co_yield", "compl", "concept", "const", "const_cast", "consteval", "constexpr", "constinit",
     "continue", "decltype", "default", "delete", "do", "double", "dynamic_cast", "else", "enum",
     "explicit", "export", "extern", "false", "float", "for", "friend", "goto", "if", "inline",
     "int", "long", "mutable", "namespace", "new", "noexcept", "not", "not_eq", "nullptr",
     "operator", "or", "or_eq", "private", "protected", "public", "register", "reinterpret_cast",
     "requires", "return", "short", "signed", "sizeof", "static", "static_assert", "static_cast",
     "struct", "switch", "template", "this", "thread_local", "throw", "true", "try", "typedef",
     "typeid", "typename", "union", "unsigned", "using", "virtual", "void", "volatile", "wchar_t",
     "while", "xor", "xor_eq"]
  | python =>
    ["False", "None", "True", "and", "as", "assert", "async", "await", "break", "class",
     "continue", "def", "del", "elif", "else", "except", "finally", "for", "from", "global", "if",
     "import", "in", "is", "lambda", "nonlocal", "not", "or", "pass", "raise", "return", "try",
     "while", "with", "yield"]
  | go => []

end Language

end AccessLayer
