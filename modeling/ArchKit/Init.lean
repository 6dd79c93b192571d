import ArchKit.Deploy

/-! The names that the `init` command derives for a new project. -/

namespace ArchKit.Init

structure ProjectNames where
  package : String
  crateName : String
  moduleName : String
  deriving DecidableEq

def rustKeywords : List String :=
  ["as", "break", "const", "continue", "crate", "else", "enum", "extern", "false", "fn", "for", "if", "impl", "in",
    "let", "loop", "match", "mod", "move", "mut", "pub", "ref", "return", "self", "Self", "static", "struct", "super",
    "trait", "true", "type", "unsafe", "use", "where", "while", "async", "await", "dyn", "abstract", "become", "box",
    "do", "final", "macro", "override", "priv", "typeof", "unsized", "virtual", "yield", "try"]

def isRustKeyword (name : String) : Bool := rustKeywords.contains name

/-- One character of the loop, over the name so far and whether a separator is due. -/
def normalizeStep (state : List Char × Bool) (character : Char) : List Char × Bool :=
  let (normalized, needsSeparator) := state
  if character.isAlphanum then
    ((if needsSeparator && !normalized.isEmpty then normalized ++ ['-'] else normalized) ++ [character.toLower], false)
  else (normalized, true)

def normalizedPackageName (name : String) : String :=
  let normalized := (name.toList.foldl normalizeStep ([], false)).1
  if normalized.isEmpty then "arch-program" else String.ofList normalized

/-- `package.replace('-', "_")`, then a prefix for a leading digit, then one for a keyword. -/
def crateNameOf (package : String) : String :=
  let crateName := String.ofList (package.toList.map fun letter => if letter = '-' then '_' else letter)
  let crateName := if crateName.toList.head?.any Char.isDigit then "arch_" ++ crateName else crateName
  if isRustKeyword crateName then "arch_" ++ crateName else crateName

def ProjectNames.fromPath (path : Path) : Except CliError ProjectNames :=
  match path.fileName?.bind fromUtf8? with
  | none => .error (.invalidPath "program path must end with a valid UTF-8 directory name" path)
  | some rawName =>
    let package := normalizedPackageName rawName
    let crateName := crateNameOf package
    .ok { package, crateName, moduleName := crateName }

/-- The modules that the rendered `src/lib.rs` declares, in their order. -/
def ProjectNames.modules (names : ProjectNames) : List String := ["error", names.moduleName]

end ArchKit.Init
