import SpirvMetal.Proofs.Repeat.Mirror

/-!
Texts in two states that mirror each other: types, constants, values, places and images.
-/

namespace SpirvMetal

open Program

variable {mask bit : Nat} {words rest : List Nat}

def ImageOperands.ids (operands : ImageOperands) : List Id :=
  operands.bias.toList ++ operands.lod.toList ++
    operands.gradient.toList.flatMap (fun (dx, dy) => [dx, dy]) ++ operands.offset.toList ++
    operands.sample.toList

def Compiler.ImageAccess.ids (access : Compiler.ImageAccess) : List Id :=
  [access.image, access.coordinate] ++ access.extra.toList ++ access.operands.ids

theorem ImageOperands.one_words {found : Option Id} (read : one mask bit words = .ok (found, rest)) :
    found.toList ⊆ words ∧ rest ⊆ words := by
  unfold one at read
  split at read
  · cases read
    simp
  · split at read
    · cases read
      simp
    · cases read

theorem ImageOperands.two_words {found : Option (Id × Id)}
    (read : two mask bit words = .ok (found, rest)) :
    found.toList.flatMap (fun (dx, dy) => [dx, dy]) ⊆ words ∧ rest ⊆ words := by
  unfold two at read
  split at read
  · cases read
    simp
  · split at read
    · cases read
      simp
    · cases read

theorem ImageOperands.ids_ofWords {operands : ImageOperands} (read : ofWords words = .ok operands) :
    operands.ids ⊆ words := by
  cases words with
  | nil =>
    cases read
    simp [ids]
  | cons mask words =>
    simp only [ofWords, Except.bind_ok, Prod.exists] at read
    obtain ⟨bias, afterBias, biasRead, lod, afterLod, lodRead, gradient, afterGradient,
      gradientRead, constOffset, afterConst, constRead, offset, afterOffset, offsetRead, _, _,
      sample, afterSample, sampleRead, _, _, made⟩ := read
    cases made
    obtain ⟨biasIn, within⟩ := one_words biasRead
    obtain ⟨lodIn, within'⟩ := one_words lodRead
    replace within := List.Subset.trans within' within
    obtain ⟨gradientIn, within'⟩ := two_words gradientRead
    have offsets := List.Subset.trans within' within
    obtain ⟨constIn, within'⟩ := one_words constRead
    have later := List.Subset.trans within' offsets
    obtain ⟨offsetIn, within'⟩ := one_words offsetRead
    have last := List.Subset.trans within' later
    obtain ⟨sampleIn, _⟩ := one_words sampleRead
    intro id member
    refine List.mem_cons_of_mem mask ?_
    simp only [ids, List.mem_append] at member
    rcases member with (((member | member) | member) | member) | member
    · exact biasIn member
    · exact (one_words biasRead).2 (lodIn member)
    · exact within (gradientIn member)
    · cases offset with
      | none => exact offsets (constIn member)
      | some found => exact later (offsetIn member)
    · exact last (sampleIn member)

instance StayAll.access {moved : Id → Prop} (op : Spirv.Op) (image coordinate : Id)
    (info : ImageInfo) (extra : Option Id) (operands : ImageOperands) [Stays moved image]
    [Stays moved coordinate] [StayAll moved extra.toList] [StayAll moved operands.ids] :
    StayAll moved (Compiler.ImageAccess.ids { op, image, coordinate, info, extra, operands }) :=
  inferInstanceAs (StayAll moved ([image, coordinate] ++ extra.toList ++ operands.ids))

namespace Compiler.Mirrors

open Spirv (BuiltIn StorageClass Op)

variable {moved : Id → Prop} {c d : Compiler} [mirrors : Mirrors moved c d]

section

variable {id function : Id} {arguments : List Id} {index : Nat} {parameter : Parameter}

include mirrors

@[simp] theorem checkBuiltin (builtin : BuiltIn) :
    d.checkBuiltin builtin = c.checkBuiltin builtin := by
  cases builtin <;> simp [Compiler.checkBuiltin]

@[simp] theorem builtinText (builtin : BuiltIn) (storage : StorageClass) :
    d.builtinText builtin storage = c.builtinText builtin storage := by
  cases inside : c.inEntry with
  | true =>
    -- nothing that the entry point reads has moved
    have stays (id : Id) : Stays moved id := ⟨mirrors.entry inside id⟩
    simp [Compiler.builtinText]
  | false => simp [Compiler.builtinText, inside]

@[simp] theorem builtinAttribute (builtin : BuiltIn) :
    d.builtinAttribute builtin = c.builtinAttribute builtin := by
  simp [Compiler.builtinAttribute]

@[simp] theorem builtinType (builtin : BuiltIn) :
    d.builtinType builtin = c.builtinType builtin := by
  cases builtin <;> simp [Compiler.builtinType]

@[simp] theorem builtinArguments : d.builtinArguments = c.builtinArguments := by
  simp [Compiler.builtinArguments]

@[simp] theorem addressSpace (type : ValueType) : d.addressSpace type = c.addressSpace type := by
  simp [Compiler.addressSpace]

@[simp] theorem accessText (type : ValueType) (image : ImageInfo) (var : Option Id) :
    d.accessText type image var = c.accessText type image var := by
  simp [Compiler.accessText]

@[simp] theorem textureName (image : ImageInfo) (var : Option Id) :
    d.textureName image var = c.textureName image var := by
  simp [Compiler.textureName]

@[simp] theorem opaqueArrayLength (type : ValueType) :
    d.opaqueArrayLength type = c.opaqueArrayLength type := by
  simp [Compiler.opaqueArrayLength]

@[simp] theorem typeNameWithin (fuel : Nat) (id : Id) (var : Option Id) :
    d.typeNameWithin fuel id var = c.typeNameWithin fuel id var := by
  induction fuel generalizing id var with
  | zero => rfl
  | succ fuel ih =>
    have bases : d.baseVariable = c.baseVariable := funext fun var => baseVariable var
    simp only [Compiler.typeNameWithin, getType]
    refine Except.bind_same fun type found => ?_
    have stays : Stays moved type.baseId :=
      mirrors.stays_of_shared (.base (getType_ok.mp found))
    simp [ih, bases]

@[simp] theorem typeNameFor (id : Id) (var : Option Id) :
    d.typeNameFor id var = c.typeNameFor id var := by
  simp [Compiler.typeNameFor]

@[simp] theorem typeName (id : Id) : d.typeName id = c.typeName id := by
  simp [Compiler.typeName]

theorem arraySuffix {type : ValueType} (found : c.program.getType id = .ok type) :
    d.arraySuffix type = c.arraySuffix type := by
  unfold Compiler.arraySuffix
  split
  · rfl
  · refine congrArg String.join (List.map_congr_left fun dimension member => ?_)
    cases dimension with
    | literal count => cases count <;> rfl
    | spec constant =>
      have stays : Stays moved constant := mirrors.stays_of_shared
        (.length (getType_ok.mp found) (List.mem_reverse.mp member))
      simp

@[simp] theorem declaration (type : Id) (name : String) :
    d.declaration type name = c.declaration type name := by
  simp only [Compiler.declaration, pointee]
  refine Except.bind_same fun (data, pointee) pointed => ?_
  have suffix : d.arraySuffix pointee = c.arraySuffix pointee :=
    arraySuffix (getType_of_pointee pointed)
  simp [suffix]

@[simp] theorem isReadOnlyBuffer (var : Id) : d.isReadOnlyBuffer var = c.isReadOnlyBuffer var := by
  simp [Compiler.isReadOnlyBuffer]

@[simp] theorem argumentSpace (var : Id) : d.argumentSpace var = c.argumentSpace var := by
  simp [Compiler.argumentSpace]

@[simp] theorem argumentDeclaration (parameter : Parameter) [Stays moved parameter.id] :
    d.argumentDeclaration parameter = c.argumentDeclaration parameter := by
  simp only [Compiler.argumentDeclaration, getVariable, getType, pointee]
  refine Except.bind_same fun var found => Except.bind_same fun type _ => ?_
  refine Except.bind_same fun shape pointed => ?_
  obtain ⟨data, pointee⟩ := shape
  have named : d.nameOf (var.base.getD parameter.id) = c.nameOf (var.base.getD parameter.id) := by
    cases base : var.base with
    | none => simp
    | some global =>
      have stays : Stays moved global :=
        mirrors.stays_of_shared (.global (getVariable_ok.mp found) base)
      simp
  have suffix : d.arraySuffix pointee = c.arraySuffix pointee :=
    arraySuffix (getType_of_pointee pointed)
  simp [named, suffix]

@[simp] theorem isWorkgroupSize (id : Id) : d.isWorkgroupSize id = c.isWorkgroupSize id := by
  simp [Compiler.isWorkgroupSize]

@[simp] theorem isNamedConstant (id : Id) : d.isNamedConstant id = c.isNamedConstant id := by
  simp [Compiler.isNamedConstant]

@[simp] theorem constantName (id : Id) [Stays moved id] : d.constantName id = c.constantName id :=
    by
  simp [Compiler.constantName]

@[simp] theorem nullText (id : Id) : d.nullText id = c.nullText id := by
  simp [Compiler.nullText]

@[simp] theorem compositeText (id : Id) (type : ValueType) (parts : List String) :
    d.compositeText id type parts = c.compositeText id type parts := by
  simp [Compiler.compositeText]

@[simp] theorem extractPath (path : List Nat) (text : String) (type : ValueType) :
    d.extractPath path text type = c.extractPath path text type := by
  induction path generalizing text type with
  | nil => rfl
  | cons index rest ih => simp [Compiler.extractPath, ih]

@[simp] theorem operationText (reference : Id → Except Fault String) (type : Id) (op : Op)
    (words : List Nat) :
    d.operationText reference type op words = c.operationText reference type op words := by
  simp [Compiler.operationText]

theorem constantName_of_named (named : c.isNamedConstant id = true) :
    d.constantName id = c.constantName id := by
  cases found : c.program.constantAt? id with
  | none => simp [Compiler.isNamedConstant, found] at named
  | some constant =>
    have stays : Stays moved id := mirrors.stays_of_constant found
    simp

@[simp] theorem constantTextWithin (fuel : Nat) (id : Id) :
    d.constantTextWithin fuel id = c.constantTextWithin fuel id := by
  induction fuel generalizing id with
  | zero => rfl
  | succ fuel ih =>
    have reference (id : Id) :
        (if c.isNamedConstant id = true then pure (d.constantName id)
          else c.constantTextWithin fuel id) =
        (if c.isNamedConstant id = true then pure (c.constantName id)
          else c.constantTextWithin fuel id) := by
      split
      · rw [constantName_of_named ‹_›]
      · rfl
    have element (id : Id) :
        (do
          let constant ← c.program.getConstant id
          if constant.specialization = true ∨ c.isWorkgroupSize id = true then
            pure (d.constantName id)
          else c.constantTextWithin fuel id) =
        (do
          let constant ← c.program.getConstant id
          if constant.specialization = true ∨ c.isWorkgroupSize id = true then
            pure (c.constantName id)
          else c.constantTextWithin fuel id) := by
      refine Except.bind_same fun constant found => ?_
      have stays : Stays moved id := mirrors.stays_of_constant (expect_ok.mp found)
      simp
    simp [Compiler.constantTextWithin, ih, reference, element]

@[simp] theorem constantText (id : Id) : d.constantText id = c.constantText id := by
  simp [Compiler.constantText]

@[simp] theorem constantReference (id : Id) : d.constantReference id = c.constantReference id := by
  unfold Compiler.constantReference
  rw [isNamedConstant, constantText]
  split
  · rw [constantName_of_named ‹_›]
  · rfl

@[simp] theorem isFunctionConstant (id : Id) :
    d.isFunctionConstant id = c.isFunctionConstant id := by
  simp [Compiler.isFunctionConstant]

@[simp] theorem reachesFunctionConstant (fuel : Nat) (id : Id) :
    d.reachesFunctionConstant fuel id = c.reachesFunctionConstant fuel id := by
  induction fuel generalizing id with
  | zero => rfl
  | succ fuel ih =>
    have inner : d.reachesFunctionConstant fuel = c.reachesFunctionConstant fuel := funext ih
    simp [Compiler.reachesFunctionConstant, inner]

@[simp] theorem dependsOnFunctionConstant (words : List Nat) :
    d.dependsOnFunctionConstant words = c.dependsOnFunctionConstant words := by
  have reaches (fuel : Nat) : d.reachesFunctionConstant fuel = c.reachesFunctionConstant fuel :=
    funext fun id => reachesFunctionConstant fuel id
  simp [Compiler.dependsOnFunctionConstant, reaches]

@[simp] theorem textOf (id : Id) [Stays moved id] : d.textOf id = c.textOf id := by
  simp [Compiler.textOf]

@[simp] theorem textAs (id : Id) [Stays moved id] (signed : Bool) :
    d.textAs id signed = c.textAs id signed := by
  simp [Compiler.textAs]

theorem textsOf (ids : List Id) [StayAll moved ids] : ids.mapM d.textOf = ids.mapM c.textOf := by
  refine mapM_congr fun id member => ?_
  have stays : Stays moved id := ⟨StayAll.stay id member⟩
  simp

@[simp] theorem callText (name : String) (arguments : List Id) [StayAll moved arguments] :
    d.callText name arguments = c.callText name arguments := by
  simp only [Compiler.callText, textsOf]

@[simp] theorem pointerSpace (pointer : Id) : d.pointerSpace pointer = c.pointerSpace pointer := by
  simp [Compiler.pointerSpace]

@[simp] theorem arraySource (value : Id) : Emit.arraySource d value = Emit.arraySource c value := by
  have tables : d.isTable = c.isTable := funext fun var => isTable var
  simp [Emit.arraySource, tables]

@[simp] theorem samplerText (id : Id) [Stays moved id] : d.samplerText id = c.samplerText id := by
  simp only [Compiler.samplerText, pass_eq, textOf]
  split
  · rename_i image sampler found
    have stays : Stays moved sampler := ⟨(mirrors.pairs id image sampler found).2⟩
    simp
  · rfl

@[simp] theorem swizzleText (id : Id) [Stays moved id] : d.swizzleText id = c.swizzleText id := by
  unfold Compiler.swizzleText
  rw [pass_eq]
  cases found : c.pass.sampledImages.find? id with
  | none => simp
  | some pair =>
    obtain ⟨image, sampler⟩ := pair
    have stays : Stays moved image := ⟨(mirrors.pairs id image sampler found).1⟩
    simp

@[simp] theorem needsSwizzle (type : Id) : d.needsSwizzle type = c.needsSwizzle type := by
  simp [Compiler.needsSwizzle]

@[simp] theorem literalIndex? (index : Id) : d.literalIndex? index = c.literalIndex? index := by
  simp [Compiler.literalIndex?]

@[simp] theorem stepInto (place : Place) (index : Id) [Stays moved index] :
    d.stepInto place index = c.stepInto place index := by
  simp [Compiler.stepInto, Compiler.intoArray, Compiler.intoStruct, Compiler.intoVector]

theorem steps (indices : List Id) [StayAll moved indices] (place : Place) :
    indices.foldlM d.stepInto place = indices.foldlM c.stepInto place := by
  refine foldlM_congr (fun index member place => ?_) place
  have stays : Stays moved index := ⟨StayAll.stay index member⟩
  simp

@[simp] theorem firstStep? (var : Id) (place : Place) (index : Id) [Stays moved index] :
    d.firstStep? var place index = c.firstStep? var place index := by
  simp [Compiler.firstStep?]

@[simp] theorem placeFrom (base : Id) (start : Place) (indices : List Id)
    [all : StayAll moved indices] : d.placeFrom base start indices = c.placeFrom base start indices
      := by
  cases indices with
  | nil => simp [Compiler.placeFrom]
  | cons index rest =>
    have stays : Stays moved index := all.head
    have others : StayAll moved rest := all.tail
    cases isVariable : (c.program.variableAt? base).isSome <;>
      simp only [Compiler.placeFrom, variableAt?, isVariable, firstStep?, steps]

@[simp] theorem place (base : Id) (indices : List Id) (fromPointer : Bool) [Stays moved base]
    [all : StayAll moved indices] :
    d.place base indices fromPointer = c.place base indices fromPointer := by
  cases indices with
  | nil => simp [Compiler.place]
  | cons index rest =>
    have stays : Stays moved index := all.head
    have others : StayAll moved rest := all.tail
    cases fromPointer <;> simp [Compiler.place]

@[simp] theorem literalPath (id : Id) (path : List Nat) :
    d.literalPath id path = c.literalPath id path := by
  induction path generalizing id with
  | nil => simp [Compiler.literalPath]
  | cons index rest ih => simp [Compiler.literalPath, ih]

@[simp] theorem shuffleText (type : Id) (first second : String)
    (sources : List Compiler.ShuffleSource) :
    d.shuffleText type first second sources = c.shuffleText type first second sources := by
  simp [Compiler.shuffleText]

@[simp] theorem integerText (op : Op) (operator : BinaryOperator) (type left right : Id)
    [Stays moved left] [Stays moved right] :
    d.integerText op operator type left right = c.integerText op operator type left right := by
  have operand (id : Id) [Stays moved id] (signed : Option Bool) :
      d.operandText id signed = c.operandText id signed := by
    cases signed <;> simp [Compiler.operandText]
  simp [Compiler.integerText, Compiler.integerForm, Compiler.operandTexts, operand]

@[simp] theorem argumentFor (function : Id) (arguments : List Id) (index : Nat)
    (parameter : Parameter) :
    d.argumentFor function arguments index parameter =
      c.argumentFor function arguments index parameter := by
  simp [Compiler.argumentFor]

theorem stays_of_argumentFor [StayAll moved arguments]
    (found : c.argumentFor function arguments index parameter = .ok (.value id)) :
    Stays moved id := by
  unfold Compiler.argumentFor at found
  split at found
  · split at found
    · rename_i member
      cases found
      exact ⟨StayAll.stay id (List.mem_of_getElem? member)⟩
    · cases found
  · obtain ⟨var, stored, found⟩ := Except.bind_ok.mp found
    split at found
    · rename_i global base
      cases found
      exact mirrors.stays_of_shared (.global (getVariable_ok.mp stored) base)
    · split at found
      · cases found
      · obtain ⟨_, _, found⟩ := Except.bind_ok.mp found
        obtain ⟨_, _, found⟩ := Except.bind_ok.mp found
        cases found

theorem argumentTexts [StayAll moved arguments] {argument : Argument}
    (found : c.argumentFor function arguments index parameter = .ok argument) :
    d.argumentTexts parameter argument = c.argumentTexts parameter argument := by
  cases argument with
  | builtin text => rfl
  | value id =>
    have stays : Stays moved id := stays_of_argumentFor (d := d) found
    simp [Compiler.argumentTexts]

@[simp] theorem imageInfo (image : Id) : d.imageInfo image = c.imageInfo image := by
  simp [Compiler.imageInfo]

@[simp] theorem isDepthTexture (image : Id) (info : ImageInfo) :
    d.isDepthTexture image info = c.isDepthTexture image info := by
  simp [Compiler.isDepthTexture]

@[simp] theorem isZero (id : Id) : d.isZero id = c.isZero id := by
  simp [Compiler.isZero]

@[simp] theorem rounded (coordinate : Id) (expression : String) :
    d.rounded coordinate expression = c.rounded coordinate expression := by
  simp [Compiler.rounded]

@[simp] theorem fetchCoordinate (info : ImageInfo) (coordinate : Id) (text : String)
    (leading : Nat → String) :
    d.fetchCoordinate info coordinate text leading =
      c.fetchCoordinate info coordinate text leading := by
  simp [Compiler.fetchCoordinate]

@[simp] theorem plainCoordinate (info : ImageInfo) (coordinate : Id) (fetch projection : Bool)
    (text : String) (components : Nat) :
    d.plainCoordinate info coordinate fetch projection text components =
      c.plainCoordinate info coordinate fetch projection text components := by
  simp [Compiler.plainCoordinate]

@[simp] theorem coordinateArguments (info : ImageInfo) (coordinate : Id) (fetch projection : Bool)
    [Stays moved coordinate] :
    d.coordinateArguments info coordinate fetch projection =
      c.coordinateArguments info coordinate fetch projection := by
  cases found : c.plan.builtinInputs.find? .fragCoord with
  | none => simp [Compiler.coordinateArguments, found]
  | some var =>
    have stays : Stays moved var := mirrors.stays_of_shared (.position found)
    simp [Compiler.coordinateArguments, found]

@[simp] theorem comparesAtZero (access : ImageAccess) :
    d.comparesAtZero access = c.comparesAtZero access := by
  simp [Compiler.comparesAtZero]

variable (access : ImageAccess) [all : StayAll moved access.ids]

include all

@[simp] theorem referenceArgument : d.referenceArgument access = c.referenceArgument access := by
  have coordinate : Stays moved access.coordinate := all.stays (by simp [ImageAccess.ids])
  cases extra : access.extra with
  | none => simp [Compiler.referenceArgument, extra]
  | some reference =>
    have stays : Stays moved reference := all.stays (by simp [ImageAccess.ids, extra])
    cases compares : access.op.isComparison <;> simp [Compiler.referenceArgument, extra, compares]

@[simp] theorem biasArgument : d.biasArgument access = c.biasArgument access := by
  cases bias : access.operands.bias with
  | none => simp [Compiler.biasArgument, bias]
  | some bias' =>
    have stays : Stays moved bias' :=
      all.stays (by simp [ImageAccess.ids, ImageOperands.ids, bias])
    simp [Compiler.biasArgument, bias]

@[simp] theorem levelArgument : d.levelArgument access = c.levelArgument access := by
  cases lod : access.operands.lod with
  | none => simp [Compiler.levelArgument, lod]
  | some level =>
    have stays : Stays moved level := all.stays (by simp [ImageAccess.ids, ImageOperands.ids, lod])
    simp [Compiler.levelArgument, lod]

@[simp] theorem gradientArgument : d.gradientArgument access = c.gradientArgument access := by
  cases gradient : access.operands.gradient with
  | none => simp [Compiler.gradientArgument, gradient]
  | some pair =>
    obtain ⟨dx, dy⟩ := pair
    have first : Stays moved dx :=
      all.stays (by simp [ImageAccess.ids, ImageOperands.ids, gradient])
    have second : Stays moved dy :=
      all.stays (by simp [ImageAccess.ids, ImageOperands.ids, gradient])
    simp [Compiler.gradientArgument, gradient]

@[simp] theorem offsetArgument : d.offsetArgument access = c.offsetArgument access := by
  cases offset : access.operands.offset with
  | none => simp [Compiler.offsetArgument, offset]
  | some found =>
    have stays : Stays moved found :=
      all.stays (by simp [ImageAccess.ids, ImageOperands.ids, offset])
    simp [Compiler.offsetArgument, offset]

@[simp] theorem accessArguments : d.accessArguments access = c.accessArguments access := by
  have coordinate : Stays moved access.coordinate := all.stays (by simp [ImageAccess.ids])
  cases sample : access.operands.sample with
  | none => simp [Compiler.accessArguments, Compiler.componentArguments, sample]
  | some found =>
    have stays : Stays moved found :=
      all.stays (by simp [ImageAccess.ids, ImageOperands.ids, sample])
    simp [Compiler.accessArguments, Compiler.componentArguments, sample]

@[simp] theorem swizzledGather (type : Id) (image sampler : String) (arguments : List String) :
    d.swizzledGather access type image sampler arguments =
      c.swizzledGather access type image sampler arguments := by
  have stays : Stays moved access.image := all.stays (by simp [ImageAccess.ids])
  have bases : d.baseVariable = c.baseVariable := funext fun var => baseVariable var
  simp only [Compiler.swizzledGather, typeName, backingVariable?, bases, typeNameFor, swizzleText]

@[simp] theorem sampleText : d.sampleText access = c.sampleText access := by
  have stays : Stays moved access.image := all.stays (by simp [ImageAccess.ids])
  simp only [Compiler.sampleText, samplerText, accessArguments, textOf, typeOf?, needsSwizzle,
    swizzledGather, swizzleText]

@[simp] theorem accessResult (type : Id) : d.accessResult access type = c.accessResult access type
    := by
  simp only [Compiler.accessResult, sampleText, isDepthTexture, getType, typeName]

omit all

@[simp] theorem texelText (texel : Id) [Stays moved texel] : d.texelText texel = c.texelText texel
    := by
  simp [Compiler.texelText]

@[simp] theorem sizeText (type image : Id) (level : Option Id) [Stays moved image]
    [levels : StayAll moved level.toList] :
    d.sizeText type image level = c.sizeText type image level := by
  cases level with
  | none => simp [Compiler.sizeText]
  | some lod =>
    have stays : Stays moved lod := levels.stays (by simp)
    simp [Compiler.sizeText]

end

end Compiler.Mirrors

end SpirvMetal
