import SpirvMetal.Program.BaseType
import SpirvMetal.Spirv.GlslOp
import SpirvMetal.Spirv.Operand

/-!
Why a module cannot be loaded or lowered. Each kind of failure has its causes as constructors, and
one function gives each cause its wording.
-/

namespace SpirvMetal

open Spirv (Op Operand Dim BuiltIn ExecutionModel GlslOp)

inductive RecordKind
  | type | variable | constant | function | undefined | importedSet
deriving DecidableEq

/-- A lookup that expects a kind of record, for reading or for an update. -/
structure Lookup where
  kind : RecordKind
  update : Bool := false

def RecordKind.name : RecordKind → String
  | .type => "type"
  | .variable => "variable"
  | .constant => "constant"
  | .function => "function"
  | .undefined => "undef"
  | .importedSet => "extended instruction set"

def Lookup.name (lookup : Lookup) : String :=
  s!"get_{lookup.kind.name}" ++ if lookup.update then "_mut" else ""

inductive OperandClass
  | id | literal | string

def OperandClass.name : OperandClass → String
  | .id => "id"
  | .literal => "literal"
  | .string => "string"

inductive Flaw
  | unreadable
  | operand (op : Op) (expected : OperandClass) (index : Nat) (found : Option Operand)
  | noResultId (op : Op)
  | noResultType (op : Op)
  | noExecutionModel (found : Option Operand)
  | noExecutionMode (found : Option Operand)
  | modeOfUnknownEntry (function : Id)
  | constantOperand (op : Op) (found : Option Operand)
  | specOpOperand (found : Option Operand)
  | typeBeforeDefinition (id : Id)
  | integerWidth (width : Nat)
  | floatWidth (width : Nat)
  | arrayLengthNotConstant (id : Id)
  | pointerOperand (found : Option Operand)
  | imageDim (found : Option Operand)
  | functionWithoutDefinition
  | blockWithoutLabel (function : Id)
  | noEntryPoint
  | variableOperand (found : Option Operand)
  | noDecoration (op : Op) (found : Option Operand)
  | noArrayStride (struct member : Nat)

namespace Flaw

open Spirv.Operand (describe?)

def message : Flaw → String
  | unreadable => "failed to parse SPIR-V"
  | operand op expected index found =>
    s!"{op.name}: expected {expected.name} operand at {index}, found {describe? found}"
  | noResultId op => s!"{op.name} without result id"
  | noResultType op => s!"{op.name} without result type"
  | noExecutionModel found => s!"OpEntryPoint without execution model: {describe? found}"
  | noExecutionMode found => s!"OpExecutionMode without mode: {describe? found}"
  | modeOfUnknownEntry function => s!"execution mode for unknown entry point {function}"
  | constantOperand op found => s!"{op.name} with operand {describe? found}"
  | specOpOperand found => s!"OpSpecConstantOp with operand {describe? found}"
  | typeBeforeDefinition id => s!"type {id} used before definition"
  | integerWidth width => s!"unsupported integer width {width}"
  | floatWidth width => s!"unsupported float width {width}"
  | arrayLengthNotConstant id => s!"array length {id} is not a constant"
  | pointerOperand found => s!"OpTypePointer with operand {describe? found}"
  | imageDim found => s!"OpTypeImage with dim {describe? found}"
  | functionWithoutDefinition => "function without OpFunction"
  | blockWithoutLabel function => s!"block without label in function {function}"
  | noEntryPoint => "module has no entry point"
  | variableOperand found => s!"OpVariable with operand {describe? found}"
  | noDecoration op found => s!"{op.name} without decoration: {describe? found}"
  | noArrayStride struct member =>
    s!"struct {struct} member {member} does not have ArrayStride set"

end Flaw

inductive Limit
  | recursion (caller callee : Id)
  | drawIndex
  | viewportIndex
  | builtinAttribute (builtin : BuiltIn)
  | builtinType (builtin : BuiltIn)
  | specConstantOp (op : Op)
  | arrayLengthFromFunctionConstant (name : String)
  | packedStruct
  | returnedArray
  | executionModel (model : ExecutionModel)
  | nestedBufferArray
  | unsizedBufferArray
  | branchOutOfNestedLoops
  | breakLoopFromSwitch
  | continueTarget (label : Id)
  | continueTerminator (op : Op)
  | switchWithoutMerge
  | terminator (op : Op)
  | unstructuredBranch (label : Id)
  | interfaceMatrixArray
  | interfaceNestedArray
  | componentOnComposite
  | attributeTypeMismatch
  | opaqueSize
  | opaqueAlignment
  | deepArray
  | constOffsets
  | minLod
  | queryLod
  | imageAtomic
  | compareBias
  | compareLevel
  | compareGradient
  | loadWholeArray (space : String)
  | copyIntoArray (space : String)
  | rowMajor (columns rows : Nat)
  | storeNonSquareRowMajor
  | insertIntoArray
  | arrayLengthQuery
  | instruction (op : Op)
  | extendedSet (id : Id)
  | unknownGlsl (number : Nat)
  | glsl (op : GlslOp)
  | inverse (columns : Nat)
  | compareExchangeWeak
  | atomic (op : Op)
  | textureArrays (ios : Bool)
  | nestedTextureArray
  | unsizedImageArray
  | depthTexture (dim : Dim)
  | texture (dim : Dim)
  | multisampledArray

namespace Limit

def message : Limit → String
  | recursion caller callee =>
    s!"recursive call from function {caller} to {callee} cannot be expressed in MSL"
  | drawIndex => "DrawIndex is not supported in MSL."
  | viewportIndex => "ViewportIndex requires Metal 2.0."
  | builtinAttribute builtin => s!"builtin {builtin.name} has no MSL attribute"
  | builtinType builtin => s!"builtin {builtin.name} has no MSL type"
  | specConstantOp op => s!"Specialization constant operation {op.name} is not supported."
  | arrayLengthFromFunctionConstant name =>
    s!"Array length {name} depends on a function constant, which MSL cannot use as an array size."
  | packedStruct => "Packed struct members are not supported in MSL."
  | returnedArray => "Functions returning arrays are not supported in MSL."
  | executionModel model => s!"Execution model {model.name} is not supported in MSL."
  | nestedBufferArray => "Arrays of arrays of buffers are not supported in MSL."
  | unsizedBufferArray => "Unsized arrays of buffers are not supported in MSL."
  | branchOutOfNestedLoops => "Branching out of nested loops is not supported."
  | breakLoopFromSwitch => "Breaking out of a loop from inside a switch is not supported."
  | continueTarget label => s!"Continue block {label} does not branch to its loop."
  | continueTerminator op => s!"Continue block ending in {op.name} is not supported."
  | switchWithoutMerge => "Switch without a merge block is not supported."
  | terminator op => s!"Terminator {op.name} is not supported."
  | unstructuredBranch label => s!"Unstructured conditional branch in block {label}."
  | interfaceMatrixArray => "MSL cannot emit arrays-of-matrices in input and output variables."
  | interfaceNestedArray => "MSL cannot emit arrays-of-arrays in input and output variables."
  | componentOnComposite => "DecorationComponent on matrices and arrays make little sense."
  | attributeTypeMismatch => "Vertex attribute type mismatch between host and shader"
  | opaqueSize => "Querying size of opaque object."
  | opaqueAlignment => "Querying alignment of opaque object."
  | deepArray => "Cannot support this many dimensions for arrays of arrays."
  | constOffsets => "ConstOffsets image operands are not supported in MSL."
  | minLod => "MinLod image operands are not supported in MSL."
  | queryLod => "Querying the level of detail is not supported in MSL."
  | imageAtomic => "Atomics on images are not supported in MSL."
  | compareBias => "Sample compare with bias is not supported on macOS."
  | compareLevel => "Sample compare with a non-zero level is not supported on macOS."
  | compareGradient => "Sample compare with gradients is not supported on macOS."
  | loadWholeArray space => s!"Loading a whole array from {space} memory is not supported."
  | copyIntoArray space => s!"Copying a whole array into {space} memory is not supported."
  | rowMajor columns rows => s!"Row-major {columns}x{rows} matrices are not supported."
  | storeNonSquareRowMajor => "Storing to a non-square row-major matrix is not supported."
  | insertIntoArray => "Inserting into array values is not supported."
  | arrayLengthQuery => "Runtime array length queries are not supported in MSL."
  | instruction op => s!"Instruction {op.name} is not supported in MSL."
  | extendedSet id => s!"Extended instruction set {id} is not supported."
  | unknownGlsl number => s!"Unknown GLSL.std.450 instruction {number}."
  | glsl op => s!"GLSL.std.450 instruction {op.name} is not supported in MSL."
  | inverse columns => s!"Inverse of a {columns}x{columns} matrix is not supported."
  | compareExchangeWeak => "AtomicCompareExchangeWeak is not supported in MSL."
  | atomic op => s!"Atomic {op.name} is not supported in MSL."
  | textureArrays ios =>
    let version := if ios then "1.2" else "2.0"
    s!"MSL {version} or greater is required for arrays of textures."
  | nestedTextureArray => "Arrays of arrays of textures are not supported in MSL."
  | unsizedImageArray => "Unsized array of images is not supported in MSL."
  | depthTexture dim => s!"{dim.name} depth textures are not supported by Metal"
  | texture dim => s!"{dim.name} textures are not supported by Metal"
  | multisampledArray => "Multisampled array textures are supported from 2.1."

end Limit

inductive Inconsistency
  | wrongKind (id : Id) (found : RecordKind) (lookup : Lookup)
  | noRecord (id : Id) (lookup : Lookup)
  | noType (id : Id)
  | noEntryPoint (id : Id)
  | notScalar (id : Id)
  | noMember (struct member : Nat)
  | samplePosition
  | noLiteral (base : BaseType)
  | specOperand (op : Op) (index : Nat)
  | notIndexable (type : Id)
  | noInterfaceMember (struct member : Nat)
  | builtinForCapture (builtin : BuiltIn)
  | swizzleWithoutAux
  | samplePositionWithoutId
  | resultWithoutType (id : Id)
  | unbalancedConstructs (function : Id)
  | branchToUnknown (label : Id)
  | noTerminator (label : Id)
  | compositeWithoutElement (type : Id)
  | imageOperandMask (mask : Nat)
  | coordinateLayout (dim : Dim)
  | sampledImageOperands
  | imageOperands
  | threeOperands (op : Op)
  | notImage (id : Id)
  | atLeastFour (op : Op)
  | imageWithoutType (id : Id)
  | imageWriteOperands
  | atLeastThree (op : Op)
  | atLeast (op : Op) (expected found : Nat)
  | copyTargetWithoutType (id : Id)
  | chainBaseWithoutType (id : Id)
  | arrayWithoutElement (type : Id)
  | noComponentType (type : Id)
  | chainIntoScalar (type : Id)
  | tooFewArguments (function : Id)
  | aliasesNothing (parameter : Id)
  | compositeWithoutType (id : Id)
  | noElementType (type : Id)
  | noIntegerForm (op : GlslOp)
  | atomicWithoutPointer (op : Op)
  | atomicPointerWithoutType (id : Id)
  | notNumeric (base : BaseType)
  | pointerWithoutPointee (type : Id)
  | arrayTypeWithoutElement
  | imageWithoutInfo

namespace Inconsistency

def message : Inconsistency → String
  | wrongKind id found lookup => s!"id {id} is a {found.name}, expected {lookup.name}"
  | noRecord id lookup => s!"id {id} has no record ({lookup.name})"
  | noType id => s!"id {id} has no type"
  | noEntryPoint id => s!"no entry point {id}"
  | notScalar id => s!"constant {id} is not a scalar"
  | noMember struct member => s!"struct {struct} has no member {member}"
  | samplePosition => "Sample position is retrieved by a function in MSL."
  | noLiteral base => s!"{base.name} has no scalar literal"
  | specOperand op index =>
    s!"specialization constant op {op.name} is missing operand {index}"
  | notIndexable type => s!"type {type} cannot be indexed"
  | noInterfaceMember struct member => s!"interface struct {struct} has no member {member}"
  | builtinForCapture builtin => s!"builtin {builtin.name} missing for output capture"
  | swizzleWithoutAux => "swizzle constant without aux buffer"
  | samplePositionWithoutId => "sample position without a sample id"
  | resultWithoutType id => s!"result {id} has no type"
  | unbalancedConstructs function => s!"unbalanced constructs after function {function}"
  | branchToUnknown label => s!"branch to unknown block {label}"
  | noTerminator label => s!"block {label} has no terminator"
  | compositeWithoutElement type => s!"composite type {type} without element type"
  | imageOperandMask mask =>
    s!"image operand mask 0x{Text.hex mask} promises more operands than present"
  | coordinateLayout dim => s!"{dim.name} images have no coordinate layout"
  | sampledImageOperands => "OpSampledImage expects four operands"
  | imageOperands => "OpImage expects three operands"
  | threeOperands op => s!"{op.name} expects three operands"
  | notImage id => s!"id {id} is not an image"
  | atLeastFour op => s!"{op.name} expects at least four operands"
  | imageWithoutType id => s!"image {id} has no type"
  | imageWriteOperands => "OpImageWrite expects at least three operands"
  | atLeastThree op => s!"{op.name} expects at least three operands"
  | atLeast op expected found =>
    s!"{op.name} expects at least {expected} operands, found {found}"
  | copyTargetWithoutType id => s!"copy target {id} has no type"
  | chainBaseWithoutType id => s!"access chain base {id} has no type"
  | arrayWithoutElement type => s!"array type {type} without element"
  | noComponentType type => s!"type {type} has no component type"
  | chainIntoScalar type => s!"access chain indexes into scalar type {type}"
  | tooFewArguments function => s!"call to {function} passes too few arguments"
  | aliasesNothing parameter => s!"parameter {parameter} aliases nothing"
  | compositeWithoutType id => s!"composite {id} has no type"
  | noElementType type => s!"type {type} has no element type"
  | noIntegerForm op => s!"{op.name} has no integer mapping"
  | atomicWithoutPointer op => s!"{op.name} without pointer operand"
  | atomicPointerWithoutType id => s!"atomic pointer {id} has no type"
  | notNumeric base => s!"{base.name} is not a numeric type"
  | pointerWithoutPointee type => s!"pointer type {type} without pointee"
  | arrayTypeWithoutElement => "array type without element type"
  | imageWithoutInfo => "image type without image info"

end Inconsistency

/-- Why the work on a module ends early; `Cause` is what can go wrong inside of the work itself. -/
inductive Problem (Cause : Type)
  | unsupported (limit : Limit)
  | internal (cause : Cause)
  | invalid (flaw : Flaw)
  /-- The computation itself broke off: an element beyond the end of a list was needed, a remainder
  by zero, or types that contain themselves. -/
  | aborted

abbrev Fault := Problem Inconsistency

/-- What goes wrong inside of a compilation: a step meets an inconsistency, or the passes do not
settle. -/
inductive Breakdown
  | inconsistent (cause : Inconsistency)
  | tooManyPasses (limit : Nat)

abbrev Error := Problem Breakdown

def Breakdown.message : Breakdown → String
  | inconsistent cause => cause.message
  | tooManyPasses limit => s!"Over {limit} compilation loops detected"

namespace Error

def message : Error → String
  | .unsupported limit => s!"Unsupported construct: {limit.message}"
  | .internal cause => s!"Internal invariant violation: {cause.message}"
  | .invalid flaw => s!"Invalid module: {flaw.message}"
  | .aborted => "aborted"

def ofFault : Fault → Error
  | .unsupported limit => .unsupported limit
  | .internal cause => .internal (.inconsistent cause)
  | .invalid flaw => .invalid flaw
  | .aborted => .aborted

end Error

instance : Coe Fault Error := ⟨Error.ofFault⟩

instance : MonadLift (Except Fault) (Except Error) := ⟨Except.mapError Error.ofFault⟩

end SpirvMetal
