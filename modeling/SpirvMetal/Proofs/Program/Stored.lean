import Mathlib.Data.List.Perm.Subperm
import SpirvMetal.Program.Load
import SpirvMetal.Proofs.Program.Growth

/-!
What the loader stores, record by record.
-/

namespace SpirvMetal

open List
open scoped List

namespace Spirv

def Instruction.results (inst : Instruction) : List Id := inst.resultId.toList

def Function.results (function : Function) : List Id :=
  function.allInstructions.flatMap (·.results)

def Module.results (m : Module) : List Id := m.allInstructions.flatMap (·.results)

theorem Instruction.results_of_needResultId {inst : Instruction} {id : Id}
    (found : inst.needResultId = .ok id) : inst.results = [id] := by
  unfold needResultId at found
  split at found
  · rename_i named
    cases found
    rw [results, named, Option.toList_some]
  · cases found

theorem Module.lt_leastBound (m : Module) {id : Id} (result : id ∈ m.results) :
    id < m.leastBound := by
  obtain ⟨inst, listed, named⟩ := mem_flatMap.mp result
  have found : id ∈ m.allInstructions.filterMap (·.resultId) :=
    mem_filterMap.mpr ⟨inst, listed, Option.mem_toList.mp named⟩
  unfold leastBound
  cases highest : (m.allInstructions.filterMap (·.resultId)).max? with
  | none =>
    rw [List.max?_eq_none_iff.mp highest] at found
    cases found
  | some top =>
    have le := (List.max?_eq_some_iff.mp highest).2 id found
    exact Nat.lt_succ_of_le le

end Spirv

namespace Program

variable {program before middle after : Program} {inst : Spirv.Instruction} {id : Id}
  {results results' : List Id} {declarations : List Spirv.Instruction}

def Stores (declarations : List Spirv.Instruction) (program : Program) (id : Id)
    (record : Record) : Prop :=
  ∀ type, record = .type type → ∃ inst ∈ declarations, program.declaredType inst id = .ok type

/-- Names and decorations are noted, as the loader does it. They decide nothing about layout. -/
inductive Annotates (before : Program) : Program → Prop
  | same {after : Program} (notes : after.notes = before.notes) : Annotates before after
  | own (id : Id) (change : Decorations → Decorations) :
      Annotates before (before.modifyOwn id change)
  | member (id member : Nat) {change : Decorations → Decorations}
      (kept : ∀ d, (change d).packed = d.packed) :
      Annotates before (before.modifyMember id member change)

/-- Records are stored under the given ids, one after another. -/
inductive Loads (declarations : List Spirv.Instruction) : Program → List Id → Program → Prop
  | refl (program : Program) : Loads declarations program [] program
  | note {before middle after : Program} {ids : List Id} (records : middle.records = before.records)
      (annotates : before.Annotates middle)
      (rest : Loads declarations middle ids after) : Loads declarations before ids after
  | store {before middle after : Program} {id : Id} {record : Record} {ids : List Id}
      (stores : Stores declarations before id record)
      (records : middle.records = (before.set id record).records)
      (notes : middle.notes = before.notes)
      (rest : Loads declarations middle ids after) : Loads declarations before (id :: ids) after

theorem Loads.trans {ids ids' : List Id} (first : Loads declarations before ids middle)
    (second : Loads declarations middle ids' after) :
    Loads declarations before (ids ++ ids') after := by
  induction first with
  | refl program => exact second
  | note records annotates rest ih => exact .note records annotates (ih second)
  | store stores records notes rest ih => exact .store stores records notes (ih second)

/-- Records are stored under some of the given ids, each at most once. -/
def LoadsAt (declarations : List Spirv.Instruction) (before : Program) (results : List Id)
    (after : Program) : Prop :=
  ∃ ids, ids <+~ results ∧ Loads declarations before ids after

namespace LoadsAt

theorem note (results : List Id) (records : after.records = before.records)
    (annotates : before.Annotates after) : LoadsAt declarations before results after :=
  ⟨[], nil_subperm, .note records annotates (.refl after)⟩

theorem store (record : Record) (stores : Stores declarations before id record) :
    LoadsAt declarations before [id] (before.set id record) :=
  ⟨[id], .refl _, .store stores rfl rfl (.refl _)⟩

theorem storePlain (record : Record) (plain : record.asType? = none) :
    LoadsAt declarations before [id] (before.set id record) := by
  refine store record fun type same => ?_
  rw [same] at plain
  cases plain

theorem storeResult (named : inst.needResultId = .ok id) (record : Record)
    (plain : record.asType? = none) :
    LoadsAt declarations before inst.results (before.set id record) := by
  rw [Spirv.Instruction.results_of_needResultId named]
  exact storePlain record plain

theorem trans (first : LoadsAt declarations before results middle)
    (second : LoadsAt declarations middle results' after) :
    LoadsAt declarations before (results ++ results') after := by
  obtain ⟨ids, among, loads⟩ := first
  obtain ⟨ids', among', loads'⟩ := second
  exact ⟨ids ++ ids', among.append among', loads.trans loads'⟩

theorem among (loads : LoadsAt declarations before results after) (some : results <+~ results') :
    LoadsAt declarations before results' after := by
  obtain ⟨ids, among, loads⟩ := loads
  exact ⟨ids, among.trans some, loads⟩

theorem foldlM {α β : Type} (view : β → Program) {resultsOf : α → List Id}
    {step : β → α → Except Fault β} {items : List α} {start stop : β}
    (done : items.foldlM step start = .ok stop)
    (each : ∀ item ∈ items, ∀ before after, step before item = .ok after →
      LoadsAt declarations (view before) (resultsOf item) (view after)) :
    LoadsAt declarations (view start) (items.flatMap resultsOf) (view stop) := by
  induction items generalizing start with
  | nil =>
    cases done
    exact note _ rfl (.same rfl)
  | cons item rest ih =>
    obtain ⟨next, stepped, done⟩ := Except.bind_ok.mp done
    have first := each item mem_cons_self start next stepped
    exact first.trans (ih done fun other member => each other (mem_cons_of_mem _ member))

end LoadsAt

theorem loadImport_loads (loaded : program.loadImport inst = .ok after) :
    LoadsAt declarations program inst.results after := by
  simp only [loadImport, Except.bind_ok] at loaded
  obtain ⟨id, named, name, _, loaded⟩ := loaded
  cases loaded
  exact .storeResult named _ rfl

theorem loadEntryPoint_loads (loaded : program.loadEntryPoint inst = .ok after) :
    LoadsAt declarations program inst.results after := by
  simp only [loadEntryPoint] at loaded
  split at loaded
  · simp only [Except.bind_ok] at loaded
    obtain ⟨id, _, name, _, loaded⟩ := loaded
    cases loaded
    exact .note _ rfl (.same rfl)
  · cases loaded

theorem loadExecutionMode_loads (loaded : program.loadExecutionMode inst = .ok after) :
    LoadsAt declarations program inst.results after := by
  obtain ⟨id, _, loaded⟩ := Except.bind_ok.mp loaded
  split at loaded
  · split at loaded
    · cases loaded
    · cases loaded
      exact .note _ rfl (.same rfl)
  · cases loaded

theorem loadName_loads (loaded : program.loadName inst = .ok after) :
    LoadsAt declarations program inst.results after := by
  simp only [loadName] at loaded
  split at loaded
  · simp only [Except.bind_ok] at loaded
    obtain ⟨id, _, name, _, loaded⟩ := loaded
    cases loaded
    exact .note _ rfl (.own ..)
  · simp only [Except.bind_ok] at loaded
    obtain ⟨id, _, member, _, name, _, loaded⟩ := loaded
    cases loaded
    exact .note _ rfl (.member _ _ fun _ => rfl)
  · cases loaded
    exact .note _ rfl (.same rfl)

theorem loadDecoration_loads (loaded : program.loadDecoration inst = .ok after) :
    LoadsAt declarations program inst.results after := by
  simp only [loadDecoration] at loaded
  split at loaded
  · simp only [Except.bind_ok] at loaded
    obtain ⟨id, _, ⟨decoration, value⟩, _, loaded⟩ := loaded
    cases loaded
    exact .note _ rfl (.own ..)
  · simp only [Except.bind_ok] at loaded
    obtain ⟨id, _, member, _, ⟨decoration, value⟩, _, loaded⟩ := loaded
    cases loaded
    exact .note _ rfl (.member _ _ fun _ => rfl)
  · cases loaded
    exact .note _ rfl (.same rfl)

theorem loadType_loads (declared : inst ∈ declarations)
    (loaded : program.loadType inst = .ok after) :
    LoadsAt declarations program inst.results after := by
  simp only [loadType, Except.bind_ok] at loaded
  obtain ⟨id, named, type, declares, loaded⟩ := loaded
  cases loaded
  rw [Spirv.Instruction.results_of_needResultId named]
  refine (LoadsAt.store (.type type) fun _ same => ?_).trans (.note [] rfl (.same rfl))
  cases same
  exact ⟨inst, declared, declares⟩

theorem loadConstant_loads {value : ConstantValue} {specialization : Bool}
    (loaded : program.loadConstant inst value specialization = .ok after) :
    LoadsAt declarations program inst.results after := by
  simp only [loadConstant, Except.bind_ok] at loaded
  obtain ⟨id, named, type, _, loaded⟩ := loaded
  cases loaded
  exact .storeResult named _ rfl

theorem loadGlobal_loads (declared : inst ∈ declarations)
    (loaded : program.loadGlobal inst = .ok after) :
    LoadsAt declarations program inst.results after := by
  unfold loadGlobal at loaded
  split at loaded
  any_goals first | exact loadType_loads declared loaded | exact loadConstant_loads loaded
  case h_19 | h_20 =>
    dsimp only at loaded
    split at loaded
    · exact loadConstant_loads loaded
    · exact loadConstant_loads loaded
    · cases loaded
  case h_21 | h_22 =>
    obtain ⟨parts, _, loaded⟩ := Except.bind_ok.mp loaded
    exact loadConstant_loads loaded
  case h_24 =>
    split at loaded
    · exact loadConstant_loads loaded
    · cases loaded
  case h_25 | h_26 =>
    simp only [Except.bind_ok] at loaded
    obtain ⟨id, named, _, _, loaded⟩ := loaded
    cases loaded
    exact .storeResult named _ rfl
  case h_27 =>
    cases loaded
    exact .note _ rfl (.same rfl)

theorem loadParameter_loads {state state' : Program × Function}
    (loaded : loadParameter state inst = .ok state') :
    LoadsAt declarations state.1 inst.results state'.1 := by
  simp only [loadParameter, Except.bind_ok] at loaded
  obtain ⟨id, named, type, _, loaded⟩ := loaded
  cases loaded
  exact .storeResult named _ rfl

theorem loadInstruction_loads {state state' : Program × Function × List Instruction}
    (loaded : loadInstruction state inst = .ok state') :
    LoadsAt declarations state.1 inst.results state'.1 := by
  simp only [loadInstruction] at loaded
  split at loaded
  · simp only [Except.bind_ok] at loaded
    obtain ⟨id, named, var, _, loaded⟩ := loaded
    cases loaded
    exact .storeResult named _ rfl
  · cases loaded
    exact .note _ rfl (.same rfl)
  · cases loaded
    exact .note _ rfl (.same rfl)
  · cases loaded
    dsimp only
    split <;> exact .note _ rfl (.same rfl)

theorem loadBlock_loads {state state' : Program × Function} {block : Spirv.Block}
    (loaded : loadBlock id state block = .ok state') :
    LoadsAt declarations state.1 (block.instructions.flatMap (·.results)) state'.1 := by
  unfold loadBlock at loaded
  split at loaded
  · cases loaded
  · obtain ⟨read, reading, loaded⟩ := Except.bind_ok.mp loaded
    cases loaded
    exact LoadsAt.foldlM (fun state : Program × Function × List Instruction => state.1)
      reading fun _ _ _ _ => loadInstruction_loads

theorem loadFunction_loads {source : Spirv.Function}
    (loaded : program.loadFunction source = .ok after) :
    LoadsAt declarations program source.results after := by
  unfold loadFunction at loaded
  split at loaded
  · cases loaded
  · rename_i definition defined
    simp only [Except.bind_ok] at loaded
    obtain ⟨id, named, returnType, _, functionType, _, declared, declaring, ⟨read, function⟩, reading,
      loaded⟩ := loaded
    cases loaded
    have parameters : LoadsAt declarations program
        (source.parameters.flatMap (·.results)) declared.1 :=
      LoadsAt.foldlM Prod.fst declaring fun _ _ _ _ => loadParameter_loads
    have blocks : LoadsAt declarations declared.1
        (source.blocks.flatMap fun block => block.instructions.flatMap (·.results)) read :=
      LoadsAt.foldlM Prod.fst reading fun _ _ _ _ => loadBlock_loads
    have whole : LoadsAt declarations read [id] (read.set id (.function function)) :=
      .storePlain _ rfl
    refine ((parameters.trans blocks).trans whole).among ?_
    -- the function itself comes last here, and first among its instructions
    have labels : (source.blocks.flatMap fun block => block.instructions.flatMap (·.results)) <+~
        source.blocks.flatMap fun block =>
          (block.label.toList ++ block.instructions).flatMap (·.results) := by
      generalize source.blocks = blocks
      induction blocks with
      | nil => exact .refl _
      | cons block rest ih =>
        rw [flatMap_cons, flatMap_cons, flatMap_append]
        exact (sublist_append_right ..).subperm.append ih
    have order : source.results = [id] ++ (source.parameters.flatMap (·.results) ++
        source.blocks.flatMap fun block =>
          (block.label.toList ++ block.instructions).flatMap (·.results)) := by
      rw [Spirv.Function.results, Spirv.Function.allInstructions, defined]
      simp only [Option.toList_some, flatMap_append, flatMap_assoc, flatMap_cons,
        flatMap_nil, append_nil, Spirv.Instruction.results_of_needResultId named,
        append_assoc]
    rw [order]
    refine List.Subperm.trans ?_ perm_append_comm.subperm
    exact ((List.Subperm.refl _).append labels).append (.refl _)

theorem ofModule_loads {m : Spirv.Module} (loaded : ofModule m = .ok program) :
    ∃ defined : Program, LoadsAt m.globals (empty (max (m.bound.getD 0) m.leastBound)) m.results
        defined ∧ (defined.vars.map (·.1)).foldlM markBuiltin defined = .ok program := by
  simp only [ofModule, Except.bind_ok] at loaded
  obtain ⟨imported, importing, entered, entering, moded, moding, named, naming, decorated,
    decorating, declared, declaring, defined, defining, loaded⟩ := loaded
  split at loaded
  · cases loaded
  · refine ⟨defined, ?_, loaded⟩
    have loads : LoadsAt m.globals _ _ imported :=
      LoadsAt.foldlM (fun program => program) importing fun _ _ _ _ => loadImport_loads
    replace loads := loads.trans
      (LoadsAt.foldlM (fun program => program) entering fun _ _ _ _ => loadEntryPoint_loads)
    replace loads := loads.trans
      (LoadsAt.foldlM (fun program => program) moding fun _ _ _ _ => loadExecutionMode_loads)
    replace loads := loads.trans
      (LoadsAt.foldlM (fun program => program) naming fun _ _ _ _ => loadName_loads)
    replace loads := loads.trans
      (LoadsAt.foldlM (fun program => program) decorating fun _ _ _ _ => loadDecoration_loads)
    replace loads := loads.trans
      (LoadsAt.foldlM (fun program => program) declaring fun _ member _ _ => loadGlobal_loads member)
    replace loads := loads.trans
      (LoadsAt.foldlM (fun program => program) defining fun _ _ _ _ => loadFunction_loads)
    refine loads.among (List.Sublist.subperm ?_)
    simp only [Spirv.Module.results, Spirv.Module.allInstructions, flatMap_append,
      flatMap_assoc, append_assoc]
    exact sublist_append_right ..

end Program

end SpirvMetal
