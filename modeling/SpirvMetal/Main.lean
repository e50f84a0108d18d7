import SpirvMetal.Command.Run

/-!
The command line.
-/

namespace SpirvMetal

def systemFiles : Command.FileAccess IO where
  read path := do
    try
      return some (← IO.FS.readBinFile path)
    catch _ => return none
  write path content := do
    try
      IO.FS.writeBinFile path content
      return true
    catch _ => return false

def usageText : String :=
  "usage: spirv-metal compile FILE [-o FILE] [--config JSON] [--msl-version X.Y]\n" ++
  "                           [--platform ios|macos] [--capture-output]\n" ++
  "                           [--swizzle-texture-samples] [--pad-fragment-output] [-v]\n" ++
  "       spirv-metal reflect FILE\n"

end SpirvMetal

open SpirvMetal in
def main (arguments : List String) : IO UInt32 := do
  let outcome ← Command.run systemFiles arguments
  match outcome with
  | .stopped .help => IO.print usageText
  | .stopped .usage => IO.eprint usageText
  | .failed failure => IO.eprintln s!"error: {failure.message}"
  | .compiled request passes => if request.verbose then IO.eprintln s!"compiled in {passes} passes"
  | .reflected text => IO.print text
  return outcome.code.toUInt32
