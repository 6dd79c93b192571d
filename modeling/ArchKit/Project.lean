import ArchKit.Init
import ArchKit.Toolkit

/-! The `init` command: a new project rendered from a directory of templates. What the
template engine makes of a text is a parameter. -/

namespace ArchKit
open Effects

/-- `Path::join`. -/
def Path.join (path relative : Path) : Path :=
  if relative.bytes.head? = some 47 then relative
  else if path.bytes.getLast?.any (· ≠ 47) then ⟨path.bytes ++ 47 :: relative.bytes⟩
  else ⟨path.bytes ++ relative.bytes⟩

/-- `Path::extension`: what follows the last dot of the name, unless that is its first character. -/
def Path.extension? (path : Path) : Option Bytes :=
  path.fileName?.bind fun name =>
    match name.reverse.dropWhile (· ≠ 46) with
    | [] | [_] => none
    | _ :: _ => some (name.reverse.takeWhile (· ≠ 46)).reverse

/-- `Path::with_extension("")` of a path that ends with its file name. -/
def Path.withoutExtension (path : Path) : Path :=
  match path.extension? with
  | none => path
  | some extension => ⟨path.bytes.take (path.bytes.length - (extension.length + 1))⟩

namespace Init

structure TemplateFile where
  path : Path
  contents : Bytes

/-- A directory that is compiled into the program. Paths start at its root. -/
inductive Dir where
  | mk (path : Path) (dirs : List Dir) (files : List TemplateFile)

def Dir.path : Dir → Path
  | .mk path _ _ => path

mutual
/-- The files of a directory, in the order in which they are rendered. -/
def Dir.allFiles : Dir → List TemplateFile
  | .mk _ dirs files => allFilesOf dirs ++ files
termination_by structural directory => directory

def allFilesOf : List Dir → List TemplateFile
  | [] => []
  | directory :: directories => directory.allFiles ++ allFilesOf directories
termination_by structural directories => directories
end

mutual
/-- The directories below a directory. -/
def Dir.allDirs : Dir → List Path
  | .mk _ dirs _ => allDirsOf dirs
termination_by structural directory => directory

def allDirsOf : List Dir → List Path
  | [] => []
  | directory :: directories => directory.path :: (directory.allDirs ++ allDirsOf directories)
termination_by structural directories => directories
end

/-- The variables of a template and their values. -/
abbrev TemplateContext := List (String × String)

structure Environment where
  renderNamedStr : (name source : String) → TemplateContext → Except String String

structure Args where
  path : Path
  programKey : Path

def satelliteVersion : String := "0.34.0"

def ensureDestinationIsAvailable (path : Path) : Tool Unit := do
  match ← Tool.request (.symlinkMetadata path) with
  | .ok () => throw (.cli (.invalidPath "program destination already exists: " path))
  | .error source => if source.kind = .notFound then return () else throw (.initializeProgram path source)

def createDirectory (path : Path) : Tool Unit := do
  match ← Tool.call (.createDirAll path) with
  | .ok () => return ()
  | .error source => throw (.initializeProgram path source)

/-- `Write::write_all`. -/
def writeAll (fail : IoError → CommandError) (file : File) : Bytes → Tool Unit
  | [] => pure ()
  | byte :: rest => do
    match ← Tool.request (.write file (byte :: rest)) with
    | .error source => throw (fail source)
    | .ok 0 => throw (fail ⟨.writeZero, "failed to write whole buffer"⟩)
    | .ok (count + 1) => writeAll fail file (rest.drop count)
termination_by buffer => buffer.length
decreasing_by
  simp only [List.length_drop, List.length_cons]
  omega

def writeNewFile (path : Path) (contents : Bytes) : Tool Unit := do
  match ← Tool.request (.createNew path) with
  | .error source => throw (.initializeProgram path source)
  | .ok file =>
    writeAll (.initializeProgram path) file contents
    match ← Tool.request (.syncAll file) with
    | .error source => throw (.initializeProgram path source)
    | .ok () => return ()

def templateExtension : Bytes := utf8 "j2"

def TemplateFile.isTemplate (file : TemplateFile) : Bool := file.path.extension? = some templateExtension

def TemplateFile.outputRelativePath (file : TemplateFile) : Path :=
  if file.isTemplate then file.path.withoutExtension else file.path

variable (environment : Environment)

/-- What is written for a file. -/
def renderFile (context : TemplateContext) (file : TemplateFile) : Except CommandError Bytes :=
  if file.isTemplate then
    match fromUtf8? file.contents, file.path.toStr with
    | some source, some name =>
      match environment.renderNamedStr name source context with
      | .ok rendered => .ok (utf8 rendered)
      | .error error => .error (.renderProgramTemplate file.path error)
    | _, _ => .error (.invalidProgramTemplate file.path)
  else .ok file.contents

def renderFiles (destination : Path) (context : TemplateContext) : List TemplateFile → Tool Unit
  | [] => pure ()
  | file :: files => do
    let outputPath := destination.join file.outputRelativePath
    let contents ← Fallible.ofExcept (renderFile environment context file)
    writeNewFile outputPath contents
    renderFiles destination context files

mutual
def renderDirectory (destination : Path) (context : TemplateContext) : Dir → Tool Unit
  | .mk _ dirs files => do
    renderDirectories destination context dirs
    renderFiles environment destination context files
termination_by structural directory => directory

/-- The first loop of `render_directory`. -/
def renderDirectories (destination : Path) (context : TemplateContext) : List Dir → Tool Unit
  | [] => pure ()
  | directory :: directories => do
    createDirectory (destination.join directory.path)
    renderDirectory destination context directory
    renderDirectories destination context directories
termination_by structural directories => directories
end

def templateContext (names : ProjectNames) (programIdHex programIdBase58 : String) : TemplateContext :=
  [("package_name", names.package), ("crate_name", names.crateName), ("module_name", names.moduleName),
    ("program_id_hex", programIdHex), ("program_id_base58", programIdBase58), ("satellite_version", satelliteVersion)]

variable (sdk : Sdk) (template : Dir)

def run (args : Args) : Tool Unit := do
  let (_, programId) ← Tool.ofCli (Keys.loadExistingKey sdk args.programKey "program key")
  let names ← Tool.ofExcept (ProjectNames.fromPath args.path)
  ensureDestinationIsAvailable args.path
  createDirectory args.path
  renderDirectory environment args.path (templateContext names (pubkeyHex programId) (toString programId)) template

end Init
end ArchKit
