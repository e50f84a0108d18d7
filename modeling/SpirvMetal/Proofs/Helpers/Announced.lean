import SpirvMetal.Proofs.Repeat.Scan

/-!
The helpers that the scan announces.
-/

set_option synthInstance.maxSize 2048

namespace SpirvMetal

open Spirv (GlslOp)

def copyHelpers (depth : Nat) : List Helper := if depth = 0 then [] else [.arrayCopy depth]

namespace Program

variable (program : Program)

def resultType? (inst : Instruction) : Option ValueType :=
  (inst.word? 0).bind fun type => (program.getType type).toOption

def announcedExtended (inst : Instruction) : List Helper :=
  match inst.word? 0, inst.word? 2, inst.word? 3 with
  | some type, some imported, some number =>
    if program.importedSetAt? imported = some .glslStd450 then
      match GlslOp.ofCode? number with
      | some .matrixInverse =>
        (program.getType type).toOption.toList.flatMap (Helper.inverse? ·.columns |>.toList)
      | some op => op.helper?.toList
      | none => []
    else []
  | _, _, _ => []

def announced (swizzles : Bool) (inst : Instruction) : List Helper :=
  match inst.op with
  | .fMod => [.mod]
  | .functionCall => (program.resultType? inst).toList.flatMap (copyHelpers ·.dimensions.length)
  | .store =>
    ((inst.word? 1).bind fun value => (program.expressionType value).toOption).toList.flatMap
      (copyHelpers ·.dimensions.length)
  | .load =>
    (program.resultType? inst).toList.flatMap fun type =>
      if type.isOpaque then [] else copyHelpers type.dimensions.length
  | .compositeConstruct =>
    (program.resultType? inst).toList.flatMap fun type => copyHelpers (type.dimensions.length - 1)
  | .imageFetch | .imageRead | .imageWrite =>
    (inst.image?.bind fun image => (program.expressionType image).toOption).toList.flatMap
      (fun type => if type.dim? = some .dimBuffer then [.texelBufferCoords] else []) ++
    if inst.op = .imageFetch && swizzles then [.textureSwizzle] else []
  | .extInst => program.announcedExtended inst
  | op => if op.isSample && swizzles then [.textureSwizzle] else []

def announcedIn (swizzles : Bool) (id : Id) : List Helper :=
  (program.getFunction id).toOption.toList.flatMap fun function =>
    function.instructions.flatMap (program.announced swizzles)

end Program

/-- The helpers behind a step are those from before it, and all that `news` need. -/
def Compiler.Enlists (news : List Helper) (before after : Compiler) : Prop :=
  ∀ helper, helper ∈ after.session.helpers ↔
    helper ∈ before.session.helpers ∨ ∃ new ∈ news, helper ∈ new.closure

namespace Compiler.Enlists

variable {news more : List Helper} {before middle after : Compiler}

theorem of_eq (same : after.session.helpers = before.session.helpers) :
    Enlists [] before after := by
  intro helper
  simp [same]

theorem trans (first : Enlists news before middle) (second : Enlists more middle after) :
    Enlists (news ++ more) before after := by
  intro helper
  rw [second, first, or_assoc, ← exists_or]
  simp only [← or_and_right, List.mem_append]

theorem thenSame (first : Enlists news before middle)
    (same : after.session.helpers = middle.session.helpers) : Enlists news before after := by
  intro helper
  rw [same, first]

end Compiler.Enlists

def Compiler.SameHelpers (before after : Compiler) : Prop :=
  after.session.helpers = before.session.helpers

namespace Emit

open Compiler (Enlists SameHelpers Scans)

variable {c c' : Compiler} {u : Unit}

namespace Unhelped

instance : Std.Refl SameHelpers := ⟨fun _ => rfl⟩

instance : IsTrans Compiler SameHelpers := ⟨fun _ _ _ first second => second.trans first⟩

instance requirePragma (line : String) : Keeps SameHelpers (requirePragma line) where
  keeps done := by
    obtain rfl := modify_ok.mp done
    rfl

instance requireHeader (line : String) : Keeps SameHelpers (requireHeader line) where
  keeps done := by
    obtain rfl := modify_ok.mp done
    rfl

instance modifyPass (change : Pass → Pass) : Keeps SameHelpers (modifyPass change) where
  keeps done := by
    obtain rfl := modifyPass_ok.mp done
    rfl

instance noteWriteThrough (pointer : Id) : Keeps SameHelpers (noteWriteThrough pointer) := by
  simp only [Emit.noteWriteThrough]
  infer_instance

end Unhelped

theorem requireHelper_enlists {helper : Helper} (done : requireHelper helper c = .ok u c') :
    Enlists [helper] c c' := by
  obtain ⟨_, middle, discovered, done⟩ := bind_ok.mp done
  obtain rfl := modify_ok.mp discovered
  have same := (Unhelped.requirePragma _).keeps done
  intro other
  rw [same]
  simp only [Session.addHelper, Session.mem_foldl_insertAscending, List.mem_singleton,
    exists_eq_left]
  exact or_comm

structure Enlisting (c : Compiler) (news : List Helper) (step : Emit Unit) : Prop where
  enlists {c' : Compiler} {u : Unit} : step c = .ok u c' → Enlists news c c'

namespace Enlisting

variable {news more : List Helper}
variable {step : Emit Unit} {next : Unit → Emit Unit}

theorem pure (u : Unit) : Enlisting c [] (pure u) :=
  ⟨fun done => .of_eq ((pure_ok.mp done).2 ▸ rfl)⟩

theorem same (keeps : Keeps SameHelpers step) : Enlisting c [] step :=
  ⟨fun done => .of_eq (keeps.keeps done)⟩

theorem get {next : Compiler → Emit Unit} (rest : Enlisting c news (next c)) :
    Enlisting c news (get >>= next) where
  enlists done := by
    replace done := get_bind.mp done
    exact rest.enlists done

theorem andThen [Keeps Scans step] (first : Enlisting c news step)
    (rest : ∀ middle : Compiler, middle.program = c.program → middle.options = c.options →
      Enlisting middle more (next ())) : Enlisting c (news ++ more) (step >>= next) where
  enlists done := by
    obtain ⟨_, middle, begun, done⟩ := bind_ok.mp done
    have scans : Scans c middle := Keeps.keeps begun
    exact (first.enlists begun).trans
      ((rest middle scans.program scans.options).enlists done)

theorem afterSame [Keeps Scans step] (first : Keeps SameHelpers step)
    (rest : ∀ middle : Compiler, middle.program = c.program → Enlisting middle news (next ())) :
    Enlisting c news (step >>= next) :=
  andThen (same first) fun middle program _ => rest middle program

theorem thenSame (first : Enlisting c news step) (rest : Keeps SameHelpers (next ())) :
    Enlisting c news (step >>= next) where
  enlists done := by
    obtain ⟨_, middle, begun, done⟩ := bind_ok.mp done
    exact (first.enlists begun).thenSame (rest.keeps done)

theorem ite {condition : Prop} [Decidable condition] {accepted rejected : Emit Unit}
    (yes : Enlisting c news accepted) (no : Enlisting c more rejected) :
    Enlisting c (if condition then news else more) (if condition then accepted else rejected) := by
  split <;> assumption

theorem lifted {α : Type} {result : Except Fault α} {next : α → Emit Unit} {news : α → List Helper}
    (each : ∀ a, Enlisting c (news a) (next a)) :
    Enlisting c (result.toOption.toList.flatMap news) (liftM result >>= next) where
  enlists done := by
    obtain ⟨a, rfl, done⟩ := lift_bind.mp done
    simpa [Except.toOption] using (each a).enlists done

end Enlisting

theorem requireHelper_enlisting (helper : Helper) : Enlisting c [helper] (requireHelper helper) :=
  ⟨requireHelper_enlists⟩

theorem requireHelpers_enlisting (found : Option Helper) :
    Enlisting c found.toList (found.forM requireHelper) := by
  cases found with
  | none => exact .pure ()
  | some helper => exact requireHelper_enlisting helper

theorem requireArrayCopy_enlisting (depth : Nat) :
    Enlisting c (copyHelpers depth) (requireArrayCopy depth) := by
  unfold requireArrayCopy copyHelpers
  refine .ite (.pure ()) ?_
  split
  · exact ⟨fun done => (fail_ok done).elim⟩
  · exact requireHelper_enlisting _

theorem scanExtended_enlisting (inst : Instruction) :
    Enlisting c (c.program.announcedExtended inst) (scanExtended inst) := by
  refine .get ?_
  unfold Program.announcedExtended
  rcases inst.word? 0 with _ | type <;> rcases inst.word? 2 with _ | imported <;>
    rcases inst.word? 3 with _ | number
  case some.some.some =>
    refine .ite ?_ (.pure ())
    rcases GlslOp.ofCode? number with _ | op
    · exact .pure ()
    · by_cases inverts : op = .matrixInverse
      · subst inverts
        exact .lifted fun type => requireHelpers_enlisting _
      · simp only
        exact requireHelpers_enlisting _
  all_goals exact .pure ()

theorem resultType_enlisting {inst : Instruction} {next : Option ValueType → Emit Unit}
    {news : ValueType → List Helper} (missing : Enlisting c [] (next none))
    (each : ∀ type, Enlisting c (news type) (next (some type))) :
    Enlisting c ((c.program.resultType? inst).toList.flatMap news) (resultType? inst >>= next) where
  enlists {c' u} done := by
    obtain ⟨found, middle, typing, done⟩ := bind_ok.mp done
    unfold Program.resultType?
    unfold resultType? at typing
    cases named : inst.word? 0 with
    | none =>
      rw [named] at typing
      obtain ⟨rfl, rfl⟩ := pure_ok.mp typing
      exact missing.enlists done
    | some type =>
      rw [named] at typing
      obtain ⟨value, typed, typing⟩ := read_bind.mp typing
      obtain ⟨rfl, rfl⟩ := pure_ok.mp typing
      simpa [typed, Except.toOption] using (each value).enlists done

theorem texelAccess_enlisting {program : Program} (image : Option Id) (swizzled : Bool) :
    Enlisting c
      ((image.bind fun image => (program.expressionType image).toOption).toList.flatMap
        (fun type => if type.dim? = some .dimBuffer then [.texelBufferCoords] else []) ++
        if swizzled then [.textureSwizzle] else [])
      (do
        if let some image := image then
          if (← program.expressionType image).dim? = some .dimBuffer then
            requireHelper .texelBufferCoords
        if swizzled then requireHelper .textureSwizzle) := by
  have swizzling (now : Compiler) : Enlisting now (if swizzled then [.textureSwizzle] else [])
      (if swizzled then requireHelper .textureSwizzle else pure ()) :=
    .ite (requireHelper_enlisting _) (.pure ())
  cases image with
  | none => exact swizzling c
  | some image =>
    refine ⟨fun done => ?_⟩
    obtain ⟨type, typed, done⟩ := lift_bind.mp done
    simp only [Option.bind_some, typed, Except.toOption, Option.toList_some, List.flatMap_cons,
      List.flatMap_nil, List.append_nil]
    split at done
    · rw [if_pos ‹_›]
      exact (Enlisting.andThen (requireHelper_enlisting _) fun middle _ _ =>
        swizzling middle).enlists done
    · rw [if_neg ‹_›]
      exact (swizzling _).enlists done

theorem scanInstruction_enlisting (inst : Instruction) :
    Enlisting c (c.program.announced c.options.swizzleTextures inst) (scanInstruction inst) := by
  unfold Program.announced
  split
  · rename_i op
    simp only [scanInstruction, op]
    exact .get (requireHelper_enlisting _)
  · rename_i op
    simp only [scanInstruction, op]
    refine .get (.afterSame (Unhelped.requirePragma _) fun middle program => program ▸ ?_)
    exact resultType_enlisting (.pure ()) fun type => requireArrayCopy_enlisting _
  · rename_i op
    simp only [scanInstruction, op]
    refine .get ?_
    cases inst.word? 1 with
    | none =>
      refine .same ?_
      dsimp only
      split <;> infer_instance
    | some value =>
      refine .lifted fun type => .thenSame (requireArrayCopy_enlisting _) ?_
      split <;> infer_instance
  · rename_i op
    simp only [scanInstruction, op]
    refine .get (resultType_enlisting (.pure ()) fun type => ?_)
    dsimp only
    cases type.isOpaque
    · exact requireArrayCopy_enlisting _
    · exact .pure ()
  · rename_i op
    simp only [scanInstruction, op]
    exact .get (resultType_enlisting (.pure ()) fun type => requireArrayCopy_enlisting _)
  · rename_i op
    simp only [scanInstruction, op, reduceCtorEq, if_false, decide_true]
    exact .get (texelAccess_enlisting inst.image? _)
  · rename_i op
    simp only [scanInstruction, op, reduceCtorEq, if_false, decide_false]
    exact .get (texelAccess_enlisting inst.image? _)
  · rename_i op
    simp only [scanInstruction, op, reduceCtorEq, if_true, decide_false]
    refine .get (.afterSame (Unhelped.modifyPass _) fun middle program => ?_)
    exact texelAccess_enlisting inst.image? _
  · rename_i op
    simp only [scanInstruction, op]
    exact .get (scanExtended_enlisting inst)
  · simp only [scanInstruction]
    refine .get ?_
    cases inst.op.isSample
    · refine .same ?_
      simp only [Bool.false_eq_true, if_false]
      cases inst.atomicPointer? <;> infer_instance
    · exact .ite (requireHelper_enlisting _) (.pure ())

theorem Enlisting.forM {α : Type} {list : List α} {step : α → Emit Unit} {news : α → List Helper}
    [∀ a, Keeps Scans (step a)]
    (each : ∀ a, ∀ now : Compiler, now.program = c.program → now.options = c.options →
      Enlisting now (news a) (step a)) : Enlisting c (list.flatMap news) (list.forM step) := by
  induction list generalizing c with
  | nil => exact .pure ()
  | cons first rest ih =>
    refine .andThen (each first c rfl rfl) fun middle program options =>
      ih fun a now same kept => ?_
    exact each a now (same.trans program) (kept.trans options)

def scanFunction (id : Id) : Emit Unit := do
  let found ← (← get).program.getFunction id
  found.instructions.forM scanInstruction

instance Scanning.scanFunction (id : Id) : Keeps Scans (scanFunction id) := by
  simp only [Emit.scanFunction]
  infer_instance

theorem scanFunctions_eq : scanFunctions = (do
      let order := (← get).plan.callGraph.order
      if 1 < order.length then requirePragma prototypesPragma
      order.forM scanFunction) := by
  have each (id : Id) : (do
      let found ← (← get).program.getFunction id
      found.instructions.forM scanInstruction
      pure (ForInStep.yield PUnit.unit) : Emit (ForInStep PUnit)) = (do
      scanFunction id
      pure (ForInStep.yield PUnit.unit)) := by
    simp only [scanFunction, bind_assoc]
  simp only [scanFunctions, forIn_eq_forM, each, bind_pure_unit]

theorem scan_enlists (done : scan c = .ok u c') :
    Enlists (c.plan.callGraph.order.flatMap (c.program.announcedIn c.options.swizzleTextures))
      c c' := by
  obtain ⟨middle, scanning, rfl⟩ := scan_ok.mp done
  have functions (now : Compiler) (program : now.program = c.program)
      (options : now.options = c.options) : Enlisting now
        (c.plan.callGraph.order.flatMap (c.program.announcedIn c.options.swizzleTextures))
        (c.plan.callGraph.order.forM scanFunction) := by
    refine .forM fun id later same kept => ?_
    rw [← program, ← options, ← same, ← kept]
    refine .get (.lifted fun found => .forM fun inst now program options => ?_)
    rw [← program, ← options]
    exact scanInstruction_enlisting inst
  have scanned : Enlisting c
      (c.plan.callGraph.order.flatMap (c.program.announcedIn c.options.swizzleTextures))
      scanFunctions := by
    rw [scanFunctions_eq]
    refine .get ?_
    dsimp only
    split
    · exact .andThen (.same (Unhelped.requirePragma _)) functions
    · exact functions c rfl rfl
  refine (scanned.enlists scanning).thenSame ?_
  unfold noted
  split <;> rfl

end Emit

end SpirvMetal
