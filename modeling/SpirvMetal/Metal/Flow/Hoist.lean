import SpirvMetal.Metal.Flow.Phi
import SpirvMetal.Program.Basic

/-!
Results that are declared at the top of a function because their text is needed outside of the scope
that defines them: phis, values used in other blocks, and values of blocks that end an iteration,
which are listed in several places.
-/

namespace SpirvMetal

open Spirv (Op)

namespace Program

variable (program : Program)

def isForwarded (inst : Instruction) : Bool :=
  match inst.op with
  | .accessChain | .inBoundsAccessChain | .ptrAccessChain | .sampledImage | .image
  | .copyObject => true
  | .load => (inst.words.head?.bind program.typeAt?).any (·.isOpaque)
  | _ => false

def resultOf? (inst : Instruction) : Option Id :=
  match inst.words with
  | type :: result :: _ =>
    if program.typeOf? result = some type && (program.typeAt? type).isSome then some result
    else none
  | _ => none

end Program

namespace Hoist

structure Definition where
  block : Id
  inst : Instruction

variable (program : Program)

def definitions (blocks : List Block) : IdMap Definition :=
  let found := blocks.flatMap fun block => block.instructions.filterMap fun inst =>
    (program.resultOf? inst).map fun result => (result, Definition.mk block.label inst)
  found.foldl (fun map (result, definition) => map.insert result definition) ∅

/-- The values that an instruction needs, and the block that needs each. A phi needs its values at
the end of the blocks that control comes from. -/
def usesOf (block : Block) (inst : Instruction) : Except Fault (List (Id × Id)) := do
  if inst.op = .phi then return (← Phi.ofInstruction inst).sources
  else return inst.references.map (·, block.label)

def uses (blocks : List Block) : Except Fault (List (Id × Id)) := do
  let found ← blocks.mapM fun block => block.instructions.mapM (usesOf block)
  return found.flatten.flatten

def phiResults (blocks : List Block) : List Id :=
  blocks.flatMap fun block => (block.instructions.filter (·.op = .phi)).filterMap program.resultOf?

/-- Results that are needed in another block than their own. The text of a forwarded result is
repeated in the block that needs it, so what it refers to is needed there too. -/
def neededElsewhere (defined : IdMap Definition) :
    (fuel : Nat) → (pending visited : List (Id × Id)) → List Id
  | 0, _, _ => []
  | _, [], _ => []
  | fuel + 1, (id, user) :: pending, visited =>
    match defined.find? id with
    | none => neededElsewhere defined fuel pending visited
    | some definition =>
      if definition.block = user then neededElsewhere defined fuel pending visited
      else if !program.isForwarded definition.inst then
        id :: neededElsewhere defined fuel pending visited
      else if (id, user) ∈ visited then neededElsewhere defined fuel pending visited
      else
        neededElsewhere defined fuel
          (definition.inst.references.map (·, user) ++ pending) ((id, user) :: visited)

/-- Each use is looked at once, and each forwarded result adds what it refers to at most once for
each block that uses something. -/
def fuelFor (defined : IdMap Definition) (uses : List (Id × Id)) : Nat :=
  let references := defined.entries.foldl
    (fun count (_, definition) => count + definition.inst.references.length) 0
  uses.length * (references + 1) + 1

def iterationEnd? (block : Block) : Except Fault (Option Id) :=
  match block.merge?.filter (·.op = .loopMerge) with
  | none => .ok none
  | some merge =>
    match merge.words[1]? with
    | none => .error .aborted
    | some target => .ok (if target = block.label then none else some target)

def iterationEndResults (blocks : List Block) : Except Fault (List Id) := do
  let labels ← blocks.filterMapM iterationEnd?
  let ends := labels.filterMap fun label => blocks.find? (·.label = label)
  return ends.flatMap fun block =>
    (block.body.filter (!program.isForwarded ·)).filterMap program.resultOf?

/-- Whether a result can be declared ahead: arrays cannot be assigned, and void is no value. -/
def isDeclarable (id : Id) : Bool :=
  match program.expressionType id with
  | .ok type => !type.isArray && !type.pointer && type.base ≠ .void
  | .error _ => false

end Hoist

open Hoist in
def Program.hoistedResults (program : Program) (blocks : List Block) : Except Fault (List Id) := do
  let defined := definitions program blocks
  let uses ← uses blocks
  let elsewhere := neededElsewhere program defined (fuelFor defined uses) uses []
  let ends ← iterationEndResults program blocks
  let all := phiResults program blocks ++ elsewhere ++ ends
  return sortBy (· ≤ ·) (all.eraseDups.filter (isDeclarable program))

end SpirvMetal
