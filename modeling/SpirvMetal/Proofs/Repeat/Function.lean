import SpirvMetal.Proofs.Flow.Operands
import SpirvMetal.Proofs.Repeat.Instruction

/-!
Functions in states that mirror each other. A function that mentions nothing that has moved is
written the same in both.
-/

set_option synthInstance.maxSize 2048

namespace SpirvMetal

open Spirv (BuiltIn StorageClass)

/-- The ids that the text of a function may name: its parameters and locals, what locals start with,
and the words of its instructions. -/
def Program.mentioned (program : Program) (function : Function) : List Id :=
  function.parameters.map (·.id) ++ function.locals ++
    function.locals.filterMap (fun id => (program.variableAt? id).bind (·.initializer)) ++
    function.instructions.flatMap (·.words)

namespace Compiler.Mirrors

variable {moved : Id → Prop} {c d : Compiler} [mirrors : Mirrors moved c d]

include mirrors

@[simp] theorem returnsOutput : d.returnsOutput = c.returnsOutput := by
  simp [Compiler.returnsOutput]

@[simp] theorem structNameOf (var : Id) : d.structNameOf var = c.structNameOf var := by
  simp [Compiler.structNameOf]

@[simp] theorem localPart (var : Id) (member index : Option Nat) [Stays moved var] :
    d.localPart var member index = c.localPart var member index := by
  simp [Compiler.localPart]

@[simp] theorem interfacePart (var member : Nat) [Stays moved var] :
    d.interfacePart var member = c.interfacePart var member := by
  simp [Compiler.interfacePart]

@[simp] theorem widenedText (text : String) (type : Id) (components : Nat) :
    d.widenedText text type components = c.widenedText text type components := by
  simp [Compiler.widenedText]

@[simp] theorem parameterText (parameter : Parameter) [Stays moved parameter.id] :
    d.parameterText parameter = c.parameterText parameter := by
  simp [Compiler.parameterText]

@[simp] theorem stageQualifier : d.stageQualifier = c.stageQualifier := by
  simp [Compiler.stageQualifier]

@[simp] theorem bufferCount (type : ValueType) : d.bufferCount type = c.bufferCount type := by
  simp [Compiler.bufferCount]

@[simp] theorem activeWith (accepts : StorageClass → Bool) :
    d.activeWith accepts = c.activeWith accepts := by
  simp [Compiler.activeWith]

@[simp] theorem captureInput (builtin : BuiltIn) [∀ id, Stays moved id] :
    d.captureInput builtin = c.captureInput builtin := by
  simp [Compiler.captureInput]

@[simp] theorem matchesBinding (descriptorSet binding : Nat) :
    d.matchesBinding descriptorSet binding = c.matchesBinding descriptorSet binding := by
  funext entry
  simp [Compiler.matchesBinding]

theorem find_binding (descriptorSet binding : Nat) :
    (d.options.resourceBindings.find? (c.matchesBinding descriptorSet binding)).map
        ({ · with used := false }) =
      (c.options.resourceBindings.find? (c.matchesBinding descriptorSet binding)).map
        ({ · with used := false }) := by
  have found (options : Options) :
      options.unmarked.resourceBindings.find? (c.matchesBinding descriptorSet binding) =
        (options.resourceBindings.find? (c.matchesBinding descriptorSet binding)).map
          ({ · with used := false }) := List.find?_map
  rw [← found, ← found, mirrors.options]

theorem functionSignature {id : Id} {function : Function}
    (found : c.program.getFunction id = .ok function)
    [StayAll moved (function.parameters.map (·.id))] :
    d.functionSignature id = c.functionSignature id := by
  have stays : Stays moved id := mirrors.stays_of_function (Program.getFunction_ok.mp found)
  have parameters : function.parameters.mapM d.parameterText =
      function.parameters.mapM c.parameterText := by
    refine mapM_congr fun parameter member => ?_
    have stays : Stays moved parameter.id :=
      StayAll.stays inferInstance (List.mem_map_of_mem member)
    exact parameterText parameter
  unfold Compiler.functionSignature
  rw [getFunction, found]
  simp [parameters, bind, Except.bind]

end Compiler.Mirrors

def Options.marking (options : Options) (wanted : ResourceBinding → Bool) : Options :=
  { options with resourceBindings :=
      Emit.modifyFirst wanted ({ · with used := true }) options.resourceBindings }

theorem Options.unmarked_marking (options : Options) (wanted : ResourceBinding → Bool) :
    (options.marking wanted).unmarked = options.unmarked := by
  have marked (entries : List ResourceBinding) :
      (Emit.modifyFirst wanted ({ · with used := true }) entries).map ({ · with used := false }) =
        entries.map ({ · with used := false }) := by
    induction entries with
    | nil => rfl
    | cons entry rest ih =>
      simp only [Emit.modifyFirst]
      split
      · rfl
      · rw [List.map_cons, ih, List.map_cons]
  simp only [Options.unmarked, Options.marking, marked]

namespace Compiler

variable {moved : Id → Prop} {base c d : Compiler}

theorem Follows.mark (follows : base.Follows c) (wanted : ResourceBinding → Bool) :
    base.Follows { c with options := c.options.marking wanted } :=
  { follows with options := (Options.unmarked_marking ..).trans follows.options }

theorem Mirrors.mark (mirrors : Mirrors moved c d) (wanted : ResourceBinding → Bool) :
    Mirrors moved { c with options := c.options.marking wanted }
      { d with options := d.options.marking wanted } :=
  mirrors.next mirrors.program
    (by rw [Options.unmarked_marking, Options.unmarked_marking, mirrors.options]) mirrors.session
    mirrors.pass mirrors.prepared rfl (fun _ => rfl) (fun _ => rfl) rfl rfl id rfl

end Compiler

namespace Emit

open Compiler (Mirrors)

variable {base : Compiler} {moved : Id → Prop} {id : Id}

namespace Steady

instance takeSlot (kind : SlotKind) (count : Nat) :
    Steady base moved (takeSlot kind count) := by
  refine read fun c => ?_
  dsimp only
  split <;>
    exact andThen (modifyPass)
      inferInstance

instance allocateSlot (var : Id) (kind : SlotKind) :
    Steady base moved (allocateSlot var kind) where
  steady := .mk fun {c d c' index} follows mirrors done => by
    obtain ⟨found, stored, done⟩ := read_bind.mp done
    have begun (d' : Compiler) (rest : _ = EStateM.Result.ok index d') :
        Emit.allocateSlot var kind d = .ok index d' :=
      bind_ok.mpr ⟨d, d, get_ok.mpr ⟨rfl, rfl⟩,
        bind_ok.mpr ⟨found, d, lift_ok.mpr ⟨by simpa using stored, rfl⟩, rest⟩⟩
    simp only [Mirrors.getDecoration] at begun
    generalize (if found.storage = .pushConstant then _ else _ : Nat × Nat) = place at done begun
    obtain ⟨descriptorSet, binding⟩ := place
    dsimp only at done begun
    have same := Mirrors.find_binding (d := d) descriptorSet binding
    simp only [Mirrors.matchesBinding, Mirrors.hasDecoration, Mirrors.dataType,
      Mirrors.elementCount] at begun
    cases listed : c.options.resourceBindings.find? (c.matchesBinding descriptorSet binding) with
    | none =>
      rw [listed, Option.map_none, Option.map_eq_none_iff] at same
      simp only [listed] at done
      simp only [same] at begun
      obtain ⟨d', done', follows, mirrors⟩ := Lockstep.step steady follows mirrors done
      exact ⟨d', begun d' done', follows, mirrors⟩
    | some entry =>
      rw [listed, Option.map_some, Option.map_eq_some_iff] at same
      obtain ⟨entry', listed', alike⟩ := same
      simp only [listed] at done
      simp only [listed'] at begun
      obtain ⟨_, middle, marked, done⟩ := bind_ok.mp done
      simp only [set, MonadStateOf.set, run_set, EStateM.Result.ok.injEq, true_and] at marked
      subst marked
      refine ⟨{ d with options := d.options.marking (c.matchesBinding descriptorSet binding) },
        begun _ (bind_ok.mpr ⟨(), _, rfl, ?_⟩), ?_⟩
      · obtain ⟨_, _, _, _, _, _, _⟩ := entry
        obtain ⟨_, _, _, _, _, _, _⟩ := entry'
        cases alike
        cases kind <;> obtain ⟨rfl, -⟩ := pure_ok.mp done <;> rfl
      · cases kind <;> obtain ⟨-, rfl⟩ := pure_ok.mp done <;>
          exact ⟨follows.mark _, mirrors.mark _⟩

instance slot (var : Id) (kind : SlotKind) : Steady base moved (slot var kind) := by
  refine read fun c => ?_
  split
  · infer_instance
  · refine onward fun index => andThen ?_ inferInstance
    exact modifyPass

instance assign (target value : String) : Steady base moved (assign target value) :=
  statement _

section Entry

variable [∀ id, Stays moved id]

instance copyOut (var : Id) (member index : Option Nat) (block blockMember components : Nat) :
    Steady base moved (copyOut var member index block blockMember components) :=
  read inferInstance

instance fixup (found : Fixup) : Steady base moved (fixup found) := by
  cases found with simp only [Emit.fixup]
  | initializeOutput var =>
    refine read fun c => onward fun found => ?_
    split <;> infer_instance
  | copyInToLocal => exact read inferInstance
  | copyLocalToOut => infer_instance
  | padOutput => infer_instance
  | bindCapturedOutput => exact read inferInstance
  | bindSwizzleConstant var =>
    refine read fun c => ?_
    split
    · infer_instance
    · exact onward fun index => read inferInstance
  | computeSamplePosition var =>
    refine read fun c => ?_
    split <;> infer_instance

instance returnFromEntry (last : Bool) : Steady base moved (returnFromEntry last) := by
  have positions : Steady base moved positionFixups := read inferInstance
  refine read fun c => ?_
  refine onward fun _ => onward fun _ => ?_
  refine onward fun _ => ?_
  split <;> infer_instance

instance bufferArguments (var : Id) (type : ValueType) :
    Steady base moved (bufferArguments var type) :=
  read inferInstance

instance textureArguments (var data : Id) (type : ValueType) :
    Steady base moved (textureArguments var data type) := by
  refine read fun c => onward fun index => ?_
  exact read inferInstance

instance samplerArguments (var data : Id) : Steady base moved (samplerArguments var data) :=
  onward fun index => read inferInstance

instance resourceArguments (var : Id) : Steady base moved (resourceArguments var) := by
  refine read fun c => onward fun found => ?_
  obtain ⟨data, type⟩ := found
  dsimp only
  split <;> infer_instance

instance entryArguments : Steady base moved entryArguments := by
  refine read fun c => ?_
  dsimp only
  split
  all_goals
    repeat refine onward fun _ => ?_
    refine read fun c => onward fun builtins => ?_
    split <;> infer_instance

instance entrySignature : Steady base moved entrySignature := by
  refine read fun c => onward fun qualifier => ?_
  dsimp only
  split
  all_goals
    refine onward fun returned => onward fun arguments => ?_
    exact read inferInstance

instance bufferArray (var : Id) : Steady base moved (bufferArray var) :=
  read inferInstance

instance bufferArrays : Steady base moved bufferArrays := by
  refine get (fun c d _ => ?_) inferInstance
  have arrays : d.isBufferArray = c.isBufferArray := funext fun _ => Mirrors.isBufferArray _
  simp [arrays]

end Entry

theorem block {found : Block} (stay : ∀ inst ∈ found.instructions, StayAll moved inst.words) :
    Steady base moved (block found) := by
  refine onward fun _ => forM_of_mem _ fun inst member => ?_
  have words : StayAll moved inst.words := stay inst (List.mem_of_mem_take member)
  infer_instance

instance scope (part : Emit Unit) [Steady base moved part] : Steady base moved (scope part) := by
  simp only [Emit.scope]
  infer_instance

instance condition (id : Id) (expected : Bool) [Stays moved id] :
    Steady base moved (condition id expected) := by
  simp only [Emit.condition]
  infer_instance

instance returnFrom (value : Option Id) (last : Bool) [operand : StayAll moved value.toList] :
    Steady base moved (returnFrom value last) := by
  cases value with simp only [Emit.returnFrom]
  | none => infer_instance
  | some value =>
    have stays : Stays moved value := operand.head
    infer_instance

theorem returning (value : Option Id) (last : Bool) [StayAll moved value.toList] :
    Steady base moved (do
      if (← MonadState.get).inEntry then Emit.returnFromEntry last
      else Emit.returnFrom value last) := by
  refine look fun c d follows mirrors => ?_
  rw [mirrors.inEntry]
  split
  · rename_i inside
    have all (id : Id) : Stays moved id := ⟨mirrors.entry inside id⟩
    exact steady
  · exact steady

theorem listing {blocks : List Block} {code : Listing}
    (stay : ∀ found ∈ blocks, ∀ inst ∈ found.instructions, StayAll moved inst.words)
    (operands : StayAll moved code.operands) : Steady base moved (listing blocks code) := by
  induction code with
  | skip => exact pure ()
  | seq first second ih ih' =>
    obtain ⟨earlier, later⟩ := operands.split
    exact andThen (ih earlier) fun _ => ih' later
  | block label =>
    simp only [Emit.listing]
    cases stored : blocks.find? (·.label = label) with
    | none => exact pure ()
    | some found => exact block (stay found (List.mem_of_find?_eq_some stored))
  | assign phi value =>
    have stays : Stays moved value := operands.head
    simp only [Emit.listing]
    infer_instance
  | «when» id expected arm ih =>
    have stays : Stays moved id := operands.head
    have inner := ih operands.tail
    simp only [Emit.listing]
    infer_instance
  | branch id expected arm other ih ih' =>
    have stays : Stays moved id := operands.head
    have inner := ih operands.tail.split.1
    have outer := ih' operands.tail.split.2
    simp only [Emit.listing]
    infer_instance
  | loop body ih =>
    have inner := ih operands
    simp only [Emit.listing]
    infer_instance
  | switch selector arms ih =>
    have stays : Stays moved selector := operands.head
    have inner := ih operands.tail
    simp only [Emit.listing]
    infer_instance
  | arm literals isDefault body ih =>
    have inner := ih operands
    simp only [Emit.listing]
    infer_instance
  | leave => exact statement _
  | again => exact statement _
  | ret value last => exact @returning _ _ value last operands
  | discard => exact statement _

instance hoist (id : Id) : Steady base moved (hoist id) := by
  refine read fun c => ?_
  split <;> infer_instance

theorem thenFault {α : Type} (step : Emit α) (fault : Fault) :
    Steady base moved (step >>= fun _ => (liftM (Except.error fault) : Emit Unit)) where
  steady := .mk fun _ _ done => by
    obtain ⟨_, _, _, failed⟩ := bind_ok.mp done
    obtain ⟨impossible, _⟩ := lift_ok.mp failed
    cases impossible

theorem body {function : Function} (found : base.program.getFunction id = .ok function)
    (stay : StayAll moved (function.instructions.flatMap (·.words))) :
    Steady base moved (body id) := by
  refine look fun c d follows mirrors => lifted (by simp) fun function' stored => ?_
  rw [follows.program.getFunction_eq, found] at stored
  cases stored
  have words (block : Block) (member : block ∈ function.blocks) (inst : Instruction)
      (inside : inst ∈ block.instructions) : StayAll moved inst.words :=
    ⟨fun id listed => stay.stay id (List.mem_flatMap.mpr
      ⟨inst, List.mem_flatMap.mpr ⟨block, member, inside⟩, listed⟩)⟩
  generalize function.blocks = blocks at words
  cases blocks with
  | nil => exact steady
  | cons first rest =>
    simp only [Mirrors.hoistedResults, Mirrors.structureBlocks]
    refine (onward fun hoisted => onward fun _ =>
      onward fun _ => ?_ : Steady base moved _).steady
    cases listed : (structureBlocks c.program (first :: rest) first.label).result with
    | error fault => exact thenFault _ fault
    | ok _ =>
      refine andThen (listing words ⟨fun id read => ?_⟩) inferInstance
      obtain ⟨block, member, inst, inside, word⟩ := structureBlocks_operands listed read
      exact (words block member inst inside).stay id word

theorem localVariable [Stays moved id]
    (initial : StayAll moved ((base.program.variableAt? id).bind (·.initializer)).toList) :
    Steady base moved (localVariable id) := by
  refine look fun c d follows mirrors => lifted (by simp) fun var stored => ?_
  refine lifted (by simp) fun (data, type) _ => ?_
  have found : base.program.variableAt? id = some var :=
    (follows.program.variableAt?_eq id).symm.trans (Program.getVariable_ok.mp stored)
  rw [found, Option.bind_some] at initial
  cases start : var.initializer with
  | none => exact @same _ _ _ _ _ (by simp) inferInstance
  | some value =>
    rw [start] at initial
    have stays : Stays moved value := initial.head
    exact @same _ _ _ _ _ (by simp) inferInstance

end Steady

def written (id : Id) : Emit Unit := do
  let c ← get
  let isEntry := decide (id = c.plan.entry)
  statement (← if isEntry then entrySignature else c.functionSignature id)
  beginScope
  (← (← get).program.getFunction id).locals.forM localVariable
  if isEntry then
    bufferArrays
    (← (← get).program.getFunction id).fixupsIn.forM fixup
  body id
  endScope
  statement ""

theorem function_eq (id : Id) :
    function id = (do
      modifyPass ({ · with currentFunction := some id })
      distinguish id
      written id
      modifyPass ({ · with currentFunction := none })) := by
  unfold function written
  simp only [bind_assoc]
  refine bind_congr fun _ => bind_congr fun _ => bind_congr fun c => ?_
  by_cases entry : id = c.plan.entry <;> simp [entry]

theorem Steady.record {β : Type} {function : Function} {next : Function → Emit β}
    (found : base.program.getFunction id = .ok function) (rest : Steady base moved (next function)) :
    Steady base moved (do next (← (← MonadState.get).program.getFunction id)) := by
  refine look fun c d follows mirrors => lifted (by simp) fun function' stored => ?_
  rw [follows.program.getFunction_eq, found] at stored
  cases stored
  exact rest.steady

theorem Steady.written {function : Function} (found : base.program.getFunction id = .ok function)
    (stay : StayAll moved (base.program.mentioned function))
    (entry : id = base.plan.entry → ∀ id, ¬ moved id) : Steady base moved (written id) := by
  simp only [Program.mentioned] at stay
  obtain ⟨outside, words⟩ := stay.split
  obtain ⟨named, initial⟩ := outside.split
  obtain ⟨parameters, locals⟩ := named.split
  have closing := body found words
  have declared : Steady base moved (function.locals.forM Emit.localVariable) := by
    refine forM_of_mem _ fun id member => ?_
    have stays : Stays moved id := locals.stays member
    refine localVariable ⟨fun value read => initial.stay value ?_⟩
    exact List.mem_filterMap.mpr ⟨id, member, Option.mem_toList.mp read⟩
  refine look fun c d follows mirrors => ?_
  simp only [Mirrors.plan_eq, follows.plan]
  by_cases isEntry : id = base.plan.entry
  · have all (id : Id) : Stays moved id := ⟨entry isEntry id⟩
    simp only [isEntry, decide_true, if_true] at found closing ⊢
    refine (onward fun signature => onward fun _ =>
      onward fun _ => record found (andThen declared fun _ =>
        onward fun _ => record found inferInstance) : Steady base moved _).steady
  · simp only [isEntry, decide_false, Bool.false_eq_true, if_false]
    refine lifted ?_ fun signature _ => ?_
    · exact Mirrors.functionSignature ((follows.program.getFunction_eq id).trans found)
    · exact (onward fun _ => onward fun _ =>
        record found (andThen declared inferInstance) : Steady base moved _).steady

end Emit

end SpirvMetal
