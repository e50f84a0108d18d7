import SpirvMetal.Command.Arguments
import SpirvMetal.Command.Directory
import SpirvMetal.Command.Reflection
import SpirvMetal.Metal.Compile
import SpirvMetal.Options.Reader
import SpirvMetal.Program.Load

/-!
The commands: compile a binary to a file of Metal source, or describe its entry point.

A command sees files only through `FileAccess`, so what it does is fixed by its arguments and by
what that access answers.
-/

namespace SpirvMetal.Command

inductive Failure
  | file (path : String)
  | compilation (error : Error)
  | config (path : String)
  | version (text : String)
  | truncated (path : String) (length : Nat)

namespace Failure

def message : Failure → String
  | .file path => s!"IO error: {path} cannot be read or written"
  | .compilation error => s!"Compilation error: {error.message}"
  | .config path => s!"Configuration error: {path} holds no valid options"
  | .version text =>
    s!"Configuration error: invalid MSL version '{text}', expected X.Y or X.Y.Z"
  | .truncated path length => s!"{path}: length {length} is not a multiple of 4"

end Failure

/-- Bytes taken four at a time, the lowest first. -/
def wordsOfBytes? : List UInt8 → Option (List Nat)
  | [] => some []
  | a :: b :: c :: d :: rest =>
    let word := a.toNat + 256 * (b.toNat + 256 * (c.toNat + 256 * d.toNat))
    (wordsOfBytes? rest).map (word :: ·)
  | _ => none

def versionPart? (text : String) : Option Nat :=
  let digits := match text.toList with
    | '+' :: rest => rest
    | all => all
  if digits.isEmpty || !digits.all Char.isDigit then none
  else
    let value := digits.foldl (fun value c => value * 10 + (c.toNat - '0'.toNat)) 0
    if value < 4294967296 then some value else none

def versionOfText? (text : String) : Option Nat := do
  match ← (text.splitOn ".").mapM versionPart? with
  | [major, minor] => some (versionNumber major minor 0)
  | [major, minor, patch] => some (versionNumber major minor patch)
  | _ => none

/-- A file name up to its last dot; a dot at the front belongs to the name. -/
def stem (name : List Char) : List Char :=
  match name.reverse.dropWhile (· ≠ '.') with
  | [] | [_] => name
  | _ :: before => before.reverse

def metalPath (path : String) : String :=
  let reversed := path.toList.reverse
  let folder := (reversed.dropWhile (· ≠ '/')).reverse
  let name := (reversed.takeWhile (· ≠ '/')).reverse
  String.ofList (folder ++ stem name) ++ ".metal"

section

variable {m : Type → Type} [Monad m] (files : FileAccess m)

def readProgram (path : String) : ExceptT Failure m Program := do
  let some bytes ← files.read path | throw (.file path)
  let some words := wordsOfBytes? bytes.toList | throw (.truncated path bytes.size)
  match Program.ofWords words with
  | .ok program => return program
  | .error error => throw (.compilation error)

def readOptions (path : String) : ExceptT Failure m Options := do
  let some bytes ← files.read path | throw (.config path)
  let some text := String.fromUTF8? bytes | throw (.config path)
  match Options.ofJson text with
  | .ok options => return options
  | .error _ => throw (.config path)

def requestOptions (request : CompileRequest) : ExceptT Failure m Options := do
  let options ← match request.config with
    | some path => readOptions files path
    | none => pure {}
  let version ← match request.version with
    | some text =>
      let some version := versionOfText? text | throw (.version text)
      pure version
    | none => pure options.version
  return { options with
    version
    platform := request.platform.getD options.platform
    captureOutput := options.captureOutput || request.captureOutput
    swizzleTextures := options.swizzleTextures || request.swizzleTextures
    padFragmentOutput := options.padFragmentOutput || request.padFragmentOutput }

def compile (request : CompileRequest) : ExceptT Failure m Nat := do
  let options ← requestOptions files request
  let program ← readProgram files request.input
  match Emit.compile (Compiler.new program options) with
  | .error error _ => throw (.compilation error)
  | .ok text compiler =>
    let output := request.output.getD (metalPath request.input)
    unless ← files.write output text.toUTF8 do throw (.file output)
    return compiler.passCount

def reflect (input : String) : ExceptT Failure m String := do
  match reflection (← readProgram files input) with
  | .ok text => return text
  | .error error => throw (.compilation error)

inductive Outcome
  | stopped (stop : Stop)
  | failed (failure : Failure)
  | compiled (request : CompileRequest) (passes : Nat)
  | reflected (text : String)

def Outcome.code : Outcome → Nat
  | .stopped .help => 0
  | .stopped .usage => 2
  | .failed _ => 1
  | .compiled _ _ => 0
  | .reflected _ => 0

def run (arguments : List String) : m Outcome := do
  match Request.ofArguments arguments with
  | .error stop => return .stopped stop
  | .ok (.compile request) =>
    match ← (compile files request).run with
    | .ok passes => return .compiled request passes
    | .error failure => return .failed failure
  | .ok (.reflect input) =>
    match ← (reflect files input).run with
    | .ok text => return .reflected text
    | .error failure => return .failed failure

end

end SpirvMetal.Command
