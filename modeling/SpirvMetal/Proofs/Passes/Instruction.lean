import SpirvMetal.Proofs.Passes.Parallel

/-!
Two passes side by side: instructions, and everything else below the header. Where a result comes
from does not depend on texts, nor does the shape of the place that a chain of indices leads to.
-/

set_option synthInstance.maxSize 2048

namespace SpirvMetal

open List

structure Place.Alike (place place' : Place) : Prop where
  type : place'.type = place.type
  packed : place'.packed = place.packed
  rowMajor : place'.rowMajor = place.rowMajor

theorem Place.Alike.step {place place' : Place} (alike : place.Alike place')
    (step step' : AccessStep) (type : Id) : (place.step step type).Alike (place'.step step' type) :=
  ⟨rfl, alike.packed, alike.rowMajor⟩

/-- Wherever both give a result, the results are related. -/
def Both {ε α β : Type} (relation : α → β → Prop) (first : Except ε α)
    (second : Except ε β) : Prop :=
  ∀ ⦃a b⦄, first = .ok a → second = .ok b → relation a b

namespace Both

variable {ε α α' β β' : Type} {inner : α → α' → Prop} {relation : β → β' → Prop}
  {first : Except ε α} {second : Except ε α'} {next : α → Except ε β} {next' : α' → Except ε β'}

theorem ok {b : β} {b' : β'} (related : relation b b') :
    Both relation (.ok b : Except ε β) (.ok b') := by
  rintro _ _ ⟨⟩ ⟨⟩
  exact related

theorem error {fault : ε} {other : Except ε β'} : Both relation (.error fault) other := by
  rintro _ _ ⟨⟩

theorem bind (begun : Both inner first second)
    (rest : ∀ a a', inner a a' → Both relation (next a) (next' a')) :
    Both relation (first >>= next) (second >>= next') := by
  intro b b' done done'
  obtain ⟨a, found, done⟩ := Except.bind_ok.mp done
  obtain ⟨a', found', done'⟩ := Except.bind_ok.mp done'
  exact rest a a' (begun found found') done done'

theorem left {other : Except ε β'} (rest : ∀ a, Both relation (next a) other) :
    Both relation (first >>= next) other := by
  intro b b' done done'
  obtain ⟨a, -, done⟩ := Except.bind_ok.mp done
  exact rest a done done'

theorem right {other : Except ε β} (rest : ∀ a, Both relation other (next' a)) :
    Both relation other (second >>= next') := by
  intro b b' done done'
  obtain ⟨a, -, done'⟩ := Except.bind_ok.mp done'
  exact rest a done done'

theorem same {second : Except ε α} {next' : α → Except ε β'} (same : second = first)
    (rest : ∀ a, Both relation (next a) (next' a)) :
    Both relation (first >>= next) (second >>= next') := by
  have equal : Both Eq first second := fun _ _ found found' =>
    Except.ok.inj (found.symm.trans (same.symm.trans found'))
  exact bind equal fun a _ known => known ▸ rest a

end Both

namespace Compiler.Agrees

open Both

variable {c d : Compiler} {place place' : Place} {index : Id}
variable {var base : Id} {type : ValueType} {indices : List Id}

theorem intoArray (agrees : c.Agrees d) (alike : place.Alike place') :
    Both Place.Alike (c.intoArray place type index) (d.intoArray place' type index) := by
  unfold Compiler.intoArray
  rw [alike.type]
  refine same rfl fun element => left fun _ => right fun _ => ?_
  refine same (agrees.program.getType_eq element) fun inner => ?_
  rw [alike.packed]
  split
  · exact ok ⟨rfl, rfl, alike.rowMajor⟩
  · exact ok (alike.step ..)

theorem intoStruct (agrees : c.Agrees d) :
    Both Place.Alike (c.intoStruct place type index) (d.intoStruct place' type index) := by
  refine same (agrees.program.constantWord_eq index) fun member => ?_
  have notes := agrees.program.memberDecorations_eq type.baseId member
  dsimp only
  split
  · exact error
  · exact ok ⟨rfl, by simp only [Program.isMemberPacked, notes],
      by simp only [Program.hasMemberDecoration, notes]⟩

theorem intoVector (alike : place.Alike place') :
    Both Place.Alike (c.intoVector place type index) (d.intoVector place' type index) := by
  unfold Compiler.intoVector
  repeat' first
    | exact ok ⟨rfl, alike.packed, rfl⟩
    | exact error
    | refine left fun _ => ?_
    | refine right fun _ => ?_
    | split

theorem stepInto (agrees : c.Agrees d) (alike : place.Alike place') :
    Both Place.Alike (c.stepInto place index) (d.stepInto place' index) := by
  unfold Compiler.stepInto
  rw [alike.type]
  refine same (agrees.program.getType_eq _) fun type => ?_
  split
  · exact agrees.intoArray alike
  split
  · exact agrees.intoStruct
  split
  · exact intoVector alike
  · exact error

theorem steps (agrees : c.Agrees d) (alike : place.Alike place') :
    Both Place.Alike (indices.foldlM c.stepInto place) (indices.foldlM d.stepInto place') := by
  induction indices generalizing place place' with
  | nil => exact ok alike
  | cons index rest ih =>
    rw [foldlM_cons, foldlM_cons]
    exact bind (agrees.stepInto alike) fun _ _ => ih

theorem isBufferArray_eq (agrees : c.Agrees d) (var : Id) :
    d.isBufferArray var = c.isBufferArray var := by
  simp only [isBufferArray, agrees.baseVariable_eq, agrees.program.variableAt?_eq,
    agrees.program.pointee_eq]

theorem firstStep? (agrees : c.Agrees d) (alike : place.Alike place') :
    Both (Option.Rel Place.Alike) (c.firstStep? var place index)
      (d.firstStep? var place' index) := by
  unfold Compiler.firstStep?
  rw [alike.type]
  refine same (agrees.program.getType_eq _) fun type => ?_
  rw [agrees.program.isBuiltinBlock_eq, agrees.isBufferArray_eq]
  split
  · refine same (agrees.program.constantWord_eq index) fun member => ?_
    rw [agrees.program.memberBuiltin?_eq]
    split
    · exact ok .none
    · repeat' first
        | exact ok (.some ⟨rfl, alike.packed, alike.rowMajor⟩)
        | exact error
        | refine left fun _ => ?_
        | refine right fun _ => ?_
        | split
  split
  · refine left fun _ => right fun _ => same rfl fun element => ?_
    exact ok (.some ⟨rfl, alike.packed, alike.rowMajor⟩)
  · exact ok .none

theorem placeFrom (agrees : c.Agrees d) (alike : place.Alike place') :
    Both Place.Alike (c.placeFrom base place indices) (d.placeFrom base place' indices) := by
  unfold Compiler.placeFrom
  rw [agrees.program.variableAt?_eq]
  split
  · refine bind (agrees.firstStep? alike) fun first first' related => ?_
    cases related with
    | none => exact agrees.steps alike
    | some reached => exact agrees.steps reached
  · exact agrees.steps alike

theorem chain (agrees : c.Agrees d) {fromPointer : Bool} :
    Both Place.Alike (c.place base indices fromPointer) (d.place base indices fromPointer) := by
  unfold Compiler.place
  rw [agrees.program.typeOf?_eq]
  split
  · exact error
  refine same (agrees.program.pointee_eq _) fun found => left fun _ => right fun _ => ?_
  have packed : d.pass.packed = c.pass.packed := congrArg Origins.packed agrees.origins
  have rowMajor : d.pass.rowMajor = c.pass.rowMajor := congrArg Origins.rowMajor agrees.origins
  rw [packed, rowMajor]
  split
  · exact left fun _ => right fun _ => agrees.placeFrom ⟨rfl, rfl, rfl⟩
  · exact agrees.placeFrom ⟨rfl, rfl, rfl⟩

end Compiler.Agrees

namespace Emit.Matched

theorem modifyPass {change change' : Pass → Pass}
    (lines : ∀ pass, pass.lines.toList <+: (change pass).lines.toList)
    (lines' : ∀ pass, pass.lines.toList <+: (change' pass).lines.toList)
    (origins : ∀ pass pass', pass'.origins = pass.origins →
      (change' pass').origins = (change pass).origins)
    (stale : ∀ pass, (change' pass).stale = pass.stale) :
    Matched (modifyPass change) (modifyPass change') := by
  intro start c c' d d' a b parallel done done'
  have advances := (Advancing.modifyPass lines).keeps done
  have advances' := (Advancing.modifyPass lines').keeps done'
  obtain rfl := modifyPass_ok.mp done
  obtain rfl := modifyPass_ok.mp done'
  refine parallel.advance advances advances' (origins _ _ parallel.agrees.origins) fun marked => ?_
  exact .inl ((stale _).symm.trans marked)

theorem setBacking (result source : Id) :
    Matched (setBacking result source) (setBacking result source) := by
  unfold Emit.setBacking
  refine get fun c d agrees => ?_
  simp only [agrees.backingVariable?_eq]
  split
  · refine modifyPass (fun _ => prefix_refl _) (fun _ => prefix_refl _) ?_ fun _ => rfl
    intro pass pass' same
    simp only [Pass.origins, Origins.mk.injEq] at same ⊢
    exact ⟨by rw [same.1], same.2⟩
  · exact quiet

theorem forward (result source : Id) (text text' : String) :
    Matched (forward result source text) (forward result source text') := by
  unfold Emit.forward
  refine quietly fun _ _ => bind (setBacking result source) fun _ _ => ?_
  refine modifyPass (fun _ => prefix_refl _) (fun _ => prefix_refl _) ?_ fun _ => rfl
  intro pass pass' same
  simp only [Pass.origins, Origins.mk.injEq] at same
  obtain ⟨backing, sampledImages, rowMajor, packed⟩ := same
  simp only [Pass.origins, inherit, backing, sampledImages, rowMajor, packed]

theorem loadRowMajor (typeId result : Id) (type : ValueType) (source source' : String)
    (packed : Bool) :
    Matched (loadRowMajor typeId result type source packed)
      (loadRowMajor typeId result type source' packed) := by
  unfold Emit.loadRowMajor
  refine ite Iff.rfl ?_ ?_
  · have noted (raw : String) : Quiet (Emit.modifyPass fun pass =>
        { pass with transposed := pass.transposed.insert result raw }) :=
      Quiet.modifyPass (fun _ => prefix_refl _) (fun _ => rfl) (fun _ => rfl) fun _ => rfl
    exact quiet
  · split
    · exact quiet
    · exact bind (requireHelper _) fun _ _ => quiet

section

variable (inst : Instruction)

theorem load : Matched (load inst) (load inst) := by
  unfold Emit.load
  refine quietly fun _ _ => word fun typeId => word fun result => word fun pointer => ?_
  refine getType fun type => quietly fun source source' => ?_
  refine ite Iff.rfl (forward result pointer source source') ?_
  refine bind (setBacking result pointer) fun _ _ => get fun c d agrees => ?_
  have packed : d.pass.packed = c.pass.packed := congrArg Origins.packed agrees.origins
  have rowMajor : d.pass.rowMajor = c.pass.rowMajor := congrArg Origins.rowMajor agrees.origins
  simp only [packed, rowMajor]
  refine ite Iff.rfl quiet (ite Iff.rfl ?_ quiet)
  exact loadRowMajor typeId result type source source' _

theorem accessChain (fromPointer : Bool) :
    Matched (accessChain inst fromPointer) (accessChain inst fromPointer) := by
  unfold Emit.accessChain
  refine quietly fun _ _ => word fun result => word fun base => get fun c d agrees => ?_
  refine lift fun place place' found found' => ?_
  have alike := agrees.chain found found'
  refine quietly fun _ _ => bind (setBacking result base) fun _ _ => ?_
  rw [alike.type]
  refine getType fun type => ?_
  simp only [alike.packed, alike.rowMajor]
  have notePacked : Matched
      (Emit.modifyPass fun pass => { pass with packed := addNew pass.packed result })
      (Emit.modifyPass fun pass => { pass with packed := addNew pass.packed result }) := by
    refine modifyPass (fun _ => prefix_refl _) (fun _ => prefix_refl _) ?_ fun _ => rfl
    intro pass pass' same
    simp only [Pass.origins, Origins.mk.injEq] at same ⊢
    exact ⟨same.1, same.2.1, same.2.2.1, by rw [same.2.2.2]⟩
  have noteRowMajor : Matched
      (Emit.modifyPass fun pass => { pass with rowMajor := addNew pass.rowMajor result })
      (Emit.modifyPass fun pass => { pass with rowMajor := addNew pass.rowMajor result }) := by
    refine modifyPass (fun _ => prefix_refl _) (fun _ => prefix_refl _) ?_ fun _ => rfl
    intro pass pass' same
    simp only [Pass.origins, Origins.mk.injEq] at same ⊢
    exact ⟨same.1, same.2.1, by rw [same.2.2.1], same.2.2.2⟩
  exact ite Iff.rfl (bind notePacked fun _ _ => ite Iff.rfl noteRowMajor quiet)
    (ite Iff.rfl noteRowMajor quiet)

theorem copyObject : Matched (copyObject inst) (copyObject inst) := by
  unfold Emit.copyObject
  refine quietly fun _ _ => word fun source => word fun result => quietly fun text text' => ?_
  exact forward result source text text'

theorem sampledImage : Matched (sampledImage inst) (sampledImage inst) := by
  unfold Emit.sampledImage
  have combine (result image sampler : Id) : Matched
      (Emit.modifyPass fun pass =>
        { pass with sampledImages := pass.sampledImages.insert result (image, sampler) })
      (Emit.modifyPass fun pass =>
        { pass with sampledImages := pass.sampledImages.insert result (image, sampler) }) := by
    refine modifyPass (fun _ => prefix_refl _) (fun _ => prefix_refl _) ?_ fun _ => rfl
    intro pass pass' same
    simp only [Pass.origins, Origins.mk.injEq] at same ⊢
    exact ⟨same.1, by rw [same.2.1], same.2.2⟩
  refine ite Iff.rfl (quietly fun _ _ => ?_) ?_
  all_goals
    refine word fun result => word fun image => word fun sampler => ?_
    refine quietly fun _ _ => quietly fun _ _ => bind (setBacking result image) fun _ _ => ?_
    exact combine result image sampler

theorem imageOf : Matched (imageOf inst) (imageOf inst) := by
  unfold Emit.imageOf
  refine ite Iff.rfl (quietly fun _ _ => ?_) ?_
  all_goals
    refine word fun result => word fun combined => get fun c d agrees => ?_
    have same : d.pass.sampledImages = c.pass.sampledImages :=
      congrArg Origins.sampledImages agrees.origins
    simp only [same]
    exact quietly fun text text' => forward result _ text text'

theorem imageAccess : Matched (imageAccess inst) (imageAccess inst) := by
  unfold Emit.imageAccess
  refine ite Iff.rfl (quietly fun _ _ => ?_) ?_
  all_goals
    refine word fun image => quietly fun _ _ => quietly fun _ _ => quietly fun _ _ => ?_
    exact ite Iff.rfl (bind (noteImageAccess image rfl) fun _ _ => quiet) quiet

theorem imageWrite : Matched (imageWrite inst) (imageWrite inst) := by
  unfold Emit.imageWrite
  refine ite Iff.rfl (quietly fun _ _ => ?_) ?_
  all_goals
    refine word fun image => quietly fun _ _ => quietly fun _ _ => liftSame rfl fun operands => ?_
    refine bind (noteImageAccess image rfl) fun _ _ => ?_
    cases operands.lod <;> dsimp only <;> exact quiet

theorem image : Matched (image inst) (image inst) := by
  unfold Emit.image
  split
  · exact sampledImage inst
  · exact imageOf inst
  · exact imageWrite inst
  all_goals first | exact quiet | exact imageAccess inst

theorem lower : Matched (lower inst) (lower inst) := by
  unfold Emit.lower
  split
  all_goals first
    | exact quiet
    | exact load inst
    | exact accessChain inst _
    | exact copyObject inst
    | exact ite Iff.rfl quiet (ite Iff.rfl (image inst) quiet)

theorem instruction : Matched (instruction inst) (instruction inst) := by
  have noted : Quiet (Emit.modifyPass fun pass => { pass with previousOp := some inst.op }) :=
    Quiet.modifyPass (fun _ => prefix_refl _) (fun _ => rfl) (fun _ => rfl) fun _ => rfl
  exact bind (lower inst) fun _ _ => quiet

end

end Emit.Matched

namespace Compiler.Agrees

variable {c d : Compiler}

section

variable (agrees : c.Agrees d)

include agrees

theorem entry_eq : d.plan.entry = c.plan.entry := by
  simpa [Plan.settled] using congrArg Plan.entry agrees.plan

theorem stageIn_eq : d.plan.stageIn = c.plan.stageIn := by
  simpa [Plan.settled] using congrArg Plan.stageIn agrees.plan

theorem stageOut_eq : d.plan.stageOut = c.plan.stageOut := by
  simpa [Plan.settled] using congrArg Plan.stageOut agrees.plan

theorem callGraph_eq : d.plan.callGraph = c.plan.callGraph := by
  simpa [Plan.settled] using congrArg Plan.callGraph agrees.plan

theorem interfaceStructs_eq : d.plan.interfaceStructs = c.plan.interfaceStructs := by
  simpa [Plan.settled] using congrArg Plan.interfaceStructs agrees.plan

theorem isDeclaredStruct_eq (id : Id) (type : ValueType) :
    d.isDeclaredStruct id type = c.isDeclaredStruct id type := by
  simp only [isDeclaredStruct, agrees.interfaceStructs_eq, agrees.program.isBuiltinBlock_eq,
    agrees.program.decorated id .block rfl, agrees.program.decorated id .bufferBlock rfl]

end

end Compiler.Agrees

namespace Structure

variable {before after : Program}

theorem listWithin_eq (alike : before.Alike after) (blocks : List Block) (fuel : Nat) :
    listWithin after blocks fuel = listWithin before blocks fuel := by
  induction fuel with
  | zero => rfl
  | succ fuel ih =>
    funext task constructs
    cases task with
    | chain label =>
      simp only [listWithin, chain, follow, switch, ih, alike.expressionType_eq]
    | iterationEnd label => simp only [listWithin, ih]

theorem structureBlocks_eq (alike : before.Alike after) (blocks : List Block) (first : Id) :
    structureBlocks after blocks first = structureBlocks before blocks first := by
  rw [structureBlocks, structureBlocks, listWithin_eq alike]

end Structure

namespace Emit.Matched

theorem block (found : Block) : Matched (block found) (block found) :=
  quietly fun _ _ => forM found.body instruction

theorem scope {part part' : Emit Unit} (matched : Matched part part') :
    Matched (scope part) (scope part') :=
  quietly fun _ _ => bind matched fun _ _ => quiet

theorem listing (blocks : List Block) (code : Listing) :
    Matched (listing blocks code) (listing blocks code) := by
  induction code with simp only [Emit.listing]
  | seq first second ih ih' => exact bind ih fun _ _ => ih'
  | block label =>
    cases blocks.find? (·.label = label) with
    | none => exact (quiet : Matched (Pure.pure ()) (Pure.pure ()))
    | some found => exact block found
  | when id expected arm ih => exact quietly fun _ _ => scope ih
  | branch id expected arm other ih ih' =>
    exact quietly fun _ _ => bind (scope ih) fun _ _ => quietly fun _ _ => scope ih'
  | loop body ih => exact quietly fun _ _ => scope ih
  | switch selector arms ih => exact quietly fun _ _ => quietly fun _ _ => scope ih
  | arm literals isDefault body ih =>
    refine quietly fun _ _ => ite Iff.rfl (quietly fun _ _ => ?_) ?_ <;> exact scope ih
  | _ => exact quiet

theorem body (function : Id) : Matched (body function) (body function) := by
  unfold Emit.body
  refine get fun c d agrees => ?_
  refine liftSame (agrees.program.getFunction_eq function) fun found => ?_
  rcases found.blocks with _ | ⟨first, rest⟩
  · exact quiet
  · refine quietly fun _ _ => quietly fun _ _ => quietly fun _ _ => ?_
    rw [Structure.structureBlocks_eq agrees.program]
    exact bind (listing _ _) fun _ _ => quiet

theorem function (id : Id) : Matched (function id) (function id) := by
  unfold Emit.function
  refine quietly fun _ _ => quietly fun _ _ => get fun c d agrees => ?_
  simp only [agrees.entry_eq]
  refine ite Iff.rfl ?_ ?_
  all_goals
    refine quietly fun _ _ => quietly fun _ _ => quietly fun _ _ => quietly fun _ _ => ?_
    refine quietly fun _ _ => quietly fun _ _ => ite Iff.rfl ?_ (bind (body id) fun _ _ => quiet)
    refine quietly fun _ _ => quietly fun _ _ => quietly fun _ _ => quietly fun _ _ => ?_
    exact bind (body id) fun _ _ => quiet

theorem memberTypeName (struct index member : Nat) (type : ValueType) :
    Matched (memberTypeName struct index member type)
      (memberTypeName struct index member type) := by
  unfold Emit.memberTypeName
  refine get fun c d agrees => quietly fun natural natural' => ?_
  simp only [Program.isMemberPacked, agrees.program.memberDecorations_eq]
  refine ite Iff.rfl quiet (liftSame rfl fun form => ?_)
  cases form with
  | matrix => exact bind (discover (Session.adds_typedef _)) fun _ _ => quiet
  | packed => exact quiet
  | widened => exact quiet

theorem structMember (struct index member : Nat) (isInterface : Bool) :
    Matched (structMember struct index member isInterface)
      (structMember struct index member isInterface) := by
  unfold Emit.structMember
  refine get fun c d agrees => liftSame (agrees.program.getType_eq member) fun type => ?_
  exact bind (memberTypeName struct index member type) fun _ _ => quiet

theorem struct (id : Id) : Matched (struct id) (struct id) := by
  unfold Emit.struct
  refine get fun c d agrees => liftSame (agrees.program.getType_eq id) fun type => ?_
  simp only [agrees.interfaceStructs_eq, agrees.program.memberBuiltin?_eq,
    agrees.program.memberDecorations_eq]
  refine quietly fun _ _ => quietly fun _ _ => bind (forM _ fun (member, index) => ?_) fun _ _ =>
    quiet
  refine ite Iff.rfl (ite Iff.rfl (quietly fun _ _ => ?_) ?_) quiet
  all_goals exact structMember id index member _

theorem constantOrStruct (constantsOpen constantsOpen' : Bool) (id : Id) :
    Matched (constantOrStruct constantsOpen id) (constantOrStruct constantsOpen' id) := by
  unfold Emit.constantOrStruct
  refine get fun c d agrees => ?_
  simp only [agrees.program.constantAt?_eq, agrees.program.typeAt?_eq, agrees.isDeclaredStruct_eq]
  split
  · exact quiet
  · have rest : Matched
        (do
          Emit.struct id
          return false)
        (do
          Emit.struct id
          return false) := bind (struct id) fun _ _ => quiet
    refine ite Iff.rfl ?_ quiet
    cases constantsOpen <;> cases constantsOpen'
    · exact rest
    · exact quietlySecond fun _ => rest
    · exact quietlyFirst fun _ => rest
    · exact quietly fun _ _ => rest
  · exact quiet

theorem constantsAndStructs : Matched constantsAndStructs constantsAndStructs := by
  unfold Emit.constantsAndStructs
  refine get fun c d agrees => ?_
  rw [agrees.program.records]
  exact bind (foldlM _ constantOrStruct _ _) fun _ _ => quiet

theorem interfaceStruct (var : Id) : Matched (interfaceStruct var) (interfaceStruct var) := by
  unfold Emit.interfaceStruct
  exact get fun c d agrees => liftSame (agrees.program.dataType_eq var) fun found => struct found.1

theorem contents : Matched contents contents := by
  unfold Emit.contents
  refine bind constantsAndStructs fun _ _ => quietly fun _ _ => get fun c d agrees => ?_
  simp only [agrees.stageIn_eq, agrees.stageOut_eq, agrees.callGraph_eq]
  refine bind (optionForM _ interfaceStruct) fun _ _ => ?_
  refine bind (optionForM _ interfaceStruct) fun _ _ => quietly fun _ _ => ?_
  exact forM _ function

end Emit.Matched

end SpirvMetal
