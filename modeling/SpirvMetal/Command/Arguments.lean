import SpirvMetal.Options.Basic

/-!
The arguments of the command line.

They are read from the left. `help` stops the reading where it stands, and so does the first
argument that cannot be right; what is missing is noticed at the end.
-/

namespace SpirvMetal.Command

inductive Parameter
  | output
  | config
  | version
  | platform
  | captureOutput
  | swizzleTextures
  | padFragmentOutput
  | verbose
  | help
deriving DecidableEq

namespace Parameter

def long : Parameter → String
  | .output => "output"
  | .config => "config"
  | .version => "msl-version"
  | .platform => "platform"
  | .captureOutput => "capture-output"
  | .swizzleTextures => "swizzle-texture-samples"
  | .padFragmentOutput => "pad-fragment-output"
  | .verbose => "verbose"
  | .help => "help"

def short? : Parameter → Option Char
  | .output => some 'o'
  | .verbose => some 'v'
  | .help => some 'h'
  | _ => none

def takesValue : Parameter → Bool
  | .output | .config | .version | .platform => true
  | _ => false

def platformOfName? : String → Option Platform
  | "ios" => some .ios
  | "macos" => some .macos
  | _ => none

def accepts (parameter : Parameter) (value : String) : Bool :=
  match parameter with
  | .output | .config => value ≠ ""
  | .platform => (platformOfName? value).isSome
  | _ => true

end Parameter

inductive Stop
  | help
  | usage
deriving DecidableEq

structure Given where
  positional : Option String := none
  values : List (Parameter × String) := []
  flags : List Parameter := []
  pending : Option Parameter := none
  literal : Bool := false

namespace Given

def value? (given : Given) (parameter : Parameter) : Option String := given.values.lookup parameter

def has (given : Given) (parameter : Parameter) : Bool := given.flags.contains parameter

def addValue (given : Given) (parameter : Parameter) (value : String) : Except Stop Given :=
  if (given.value? parameter).isSome || !parameter.accepts value then .error .usage
  else .ok { given with values := (parameter, value) :: given.values, pending := none }

def addFlag (given : Given) (parameter : Parameter) : Except Stop Given :=
  if parameter = .help then .error .help
  else if given.has parameter then .error .usage
  else .ok { given with flags := parameter :: given.flags }

def addPositional (given : Given) (path : String) : Except Stop Given :=
  if given.pending.isSome || given.positional.isSome || path = "" then .error .usage
  else .ok { given with positional := some path }

/-- An argument with two dashes: a name, with a value attached after an equals sign or not. -/
def addLong (allowed : List Parameter) (given : Given) (text : List Char) : Except Stop Given :=
  let name := String.ofList (text.takeWhile (· ≠ '='))
  match allowed.find? (·.long = name), text.dropWhile (· ≠ '=') with
  | none, _ => .error .usage
  | some parameter, [] =>
    if parameter.takesValue then .ok { given with pending := some parameter }
    else given.addFlag parameter
  | some parameter, _ :: value =>
    if parameter.takesValue then given.addValue parameter (String.ofList value)
    else .error .usage

/-- The letters after one dash: flags, and at the end perhaps a parameter with its value attached. -/
def addShort (allowed : List Parameter) : Given → List Char → Except Stop Given
  | given, [] => .ok given
  | given, letter :: rest =>
    match allowed.find? (·.short? = some letter) with
    | none => .error .usage
    | some parameter =>
      if !parameter.takesValue then do addShort allowed (← given.addFlag parameter) rest
      else
        match rest with
        | [] => .ok { given with pending := some parameter }
        | '=' :: value => given.addValue parameter (String.ofList value)
        | value => given.addValue parameter (String.ofList value)

def add (allowed : List Parameter) (given : Given) (argument : String) : Except Stop Given :=
  if given.literal then given.addPositional argument
  else
    match argument.toList, given.pending with
    | '-' :: _ :: _, some _ => .error .usage
    | ['-', '-'], none => .ok { given with literal := true }
    | '-' :: '-' :: text, none => given.addLong allowed text
    | '-' :: letter :: rest, none => addShort allowed given (letter :: rest)
    | _, some parameter => given.addValue parameter argument
    | _, none => given.addPositional argument

end Given

def readGiven (allowed : List Parameter) (arguments : List String) :
    Except Stop (String × Given) := do
  let given ← arguments.foldlM (Given.add allowed) {}
  match given.pending, given.positional with
  | none, some path => return (path, given)
  | _, _ => throw .usage

structure CompileRequest where
  input : String
  output : Option String := none
  config : Option String := none
  version : Option String := none
  platform : Option Platform := none
  captureOutput : Bool := false
  swizzleTextures : Bool := false
  padFragmentOutput : Bool := false
  verbose : Bool := false

inductive Request
  | compile (request : CompileRequest)
  | reflect (input : String)

def compileParameters : List Parameter :=
  [.output, .config, .version, .platform, .captureOutput, .swizzleTextures, .padFragmentOutput,
   .verbose, .help]

def readCompile (arguments : List String) : Except Stop CompileRequest := do
  let (input, given) ← readGiven compileParameters arguments
  return {
    input
    output := given.value? .output
    config := given.value? .config
    version := given.value? .version
    platform := (given.value? .platform).bind Parameter.platformOfName?
    captureOutput := given.has .captureOutput
    swizzleTextures := given.has .swizzleTextures
    padFragmentOutput := given.has .padFragmentOutput
    verbose := given.has .verbose }

def readReflect (arguments : List String) : Except Stop String := do
  return (← readGiven [.help] arguments).1

def commandNames : List String := ["compile", "reflect", "help"]

def readHelp : List String → Stop
  | [] => .help
  | [name] => if commandNames.contains name then .help else .usage
  | _ => .usage

def Request.ofArguments : List String → Except Stop Request
  | "compile" :: rest => .compile <$> readCompile rest
  | "reflect" :: rest => .reflect <$> readReflect rest
  | "help" :: rest => .error (readHelp rest)
  | "--help" :: _ => .error .help
  | argument :: _ =>
    match argument.toList with
    | '-' :: 'h' :: _ => .error .help
    | _ => .error .usage
  | [] => .error .usage

end SpirvMetal.Command
