import SpirvMetal.Proofs.Repeat.Pass
import SpirvMetal.Proofs.Threading.Exact

/-!
Compiling again. The later compilation makes one pass, which finds everything discovered.
-/

set_option synthInstance.maxSize 2048

namespace SpirvMetal

open Compiler (Mirrors Settles Trails)

namespace Emit

variable {base c c' d start : Compiler} {moved : Id → Prop} {u : Unit}
variable {left : Nat} {m : Spirv.Module} {program : Program} {options : Options} {ready : Compiler}

def declarations : Emit (List Id) := do
  constantsAndStructs
  moduleConstants
  let plan := (← get).plan
  plan.stageOut.forM interfaceStruct
  plan.stageIn.forM interfaceStruct
  return plan.callGraph.order

theorem contents_eq : contents = (do
    let order ← declarations
    helpers
    order.forM function) := by
  simp only [contents, declarations, bind_assoc, pure_bind]

instance Advancing.declarations : Advancing declarations := by
  simp only [Emit.declarations]
  infer_instance

instance Steady.declarations : Steady base moved declarations := by
  refine Steady.onward fun _ => Steady.onward fun _ => ?_
  exact Steady.get (fun _ _ mirrors => by simp only [Compiler.Mirrors.plan_eq]) inferInstance

theorem declarations_order {order : List Id} (done : declarations c = .ok order c') :
    order = c.plan.callGraph.order := by
  obtain ⟨_, structured, first, done⟩ := bind_ok.mp done
  obtain ⟨_, defined, second, done⟩ := bind_ok.mp done
  replace done := get_bind.mp done
  obtain ⟨_, _, _, done⟩ := bind_ok.mp done
  obtain ⟨_, _, _, done⟩ := bind_ok.mp done
  obtain ⟨rfl, -⟩ := pure_ok.mp done
  rw [settled_callGraph ((advances first).trans (advances second)).plan]

def titled (c : Compiler) : Compiler :=
  { c with pass := { c.pass.write c.session.headerLines with headerWritten := true } }

structure PassSteps (start scanned declared helped stop : Compiler) : Prop where
  scanning : scan start = .ok () scanned
  declaring : declarations (titled scanned) = .ok scanned.plan.callGraph.order declared
  helping : helpers declared = .ok () helped
  writing : scanned.plan.callGraph.order.forM function helped = .ok () stop

theorem pass_steps : pass start = .ok u c' ↔
    ∃ scanned declared helped, PassSteps start scanned declared helped c' := by
  constructor
  · intro done
    obtain ⟨_, scanned, scanning, done⟩ := bind_ok.mp done
    obtain ⟨_, headed, heading, done⟩ := bind_ok.mp done
    rw [header_eq] at heading
    cases heading
    rw [contents_eq] at done
    obtain ⟨order, declared, declaring, done⟩ := bind_ok.mp done
    obtain ⟨_, helped, helping, writing⟩ := bind_ok.mp done
    obtain rfl := declarations_order declaring
    exact ⟨scanned, declared, helped, scanning, declaring, helping, writing⟩
  · rintro ⟨scanned, declared, helped, steps⟩
    refine bind_ok.mpr ⟨(), scanned, steps.scanning, bind_ok.mpr ⟨(), _, header_eq scanned, ?_⟩⟩
    rw [contents_eq]
    exact bind_ok.mpr ⟨_, declared, steps.declaring,
      bind_ok.mpr ⟨(), helped, steps.helping, steps.writing⟩⟩

namespace PassSteps

variable {scanned declared helped : Compiler}

section

variable (steps : PassSteps start scanned declared helped c') (ordered : start.session.Ordered)

include steps ordered

theorem scanned_ordered : scanned.session.Ordered :=
  (Scanning.scan.keeps steps.scanning).ordered ordered

theorem declares : (titled scanned).Follows declared :=
  Steady.declarations.follows steps.declaring rfl (steps.scanned_ordered ordered)

theorem helps : declared.Follows helped := by
  have declares := steps.declares ordered
  exact Steady.helpers.follows steps.helping declares.headerWritten declares.ordered

theorem follows : (titled scanned).Follows helped := by
  have declares := steps.declares ordered
  have helps := steps.helps ordered
  exact ⟨declares.toReaches.trans helps.toReaches,
    fun id => (helps.names id).trans (declares.names id)⟩

theorem helped_reaches : helped.Reaches c' := by
  have follows := steps.follows ordered
  exact (functions_reach steps.writing follows.headerWritten follows.ordered).1

theorem reaches : (titled scanned).Reaches c' :=
  (steps.follows ordered).toReaches.trans (steps.helped_reaches ordered)

theorem order_eq : scanned.plan.callGraph.order = c'.plan.callGraph.order := by
  rw [(steps.reaches ordered).plan]
  rfl

end

theorem rescans (steps : PassSteps (afresh start) scanned declared helped c')
    (ordered : start.session.Ordered) (fresh : c'.pass.stale = false) (count : Nat) :
    scan { c' with pass := {}, passCount := count } =
      .ok () { c' with pass := scanned.pass, passCount := count } := by
  have scans := Scanning.scan.keeps steps.scanning
  have reaches := steps.reaches ordered
  obtain ⟨-, session, -⟩ := reaches.settled fresh
  have options : scanned.options = start.options := scans.options
  have swizzles : c'.options.swizzleTextures = start.options.swizzleTextures := by
    rw [← options]
    exact congrArg (·.swizzleTextures) reaches.options
  exact scan_again steps.scanning rfl (scans.program ▸ reaches.program) swizzles reaches.plan
    session reaches.ordered rfl

/-- Behind the header, a pass that starts from the end of this one differs in names only. -/
theorem mirrors (steps : PassSteps (afresh start) scanned declared helped c')
    (ordered : start.session.Ordered) (fresh : c'.pass.stale = false)
    (settles : Settles c'.plan.callGraph.order start.program c') (count : Nat) :
    Mirrors (fun value => scanned.program.name value ≠ c'.program.name value) (titled scanned)
      (titled { c' with pass := scanned.pass, passCount := count }) := by
  have scans := Scanning.scan.keeps steps.scanning
  have follows := steps.follows ordered
  have reaches := steps.reaches ordered
  obtain ⟨-, session, renamed⟩ := reaches.settled fresh
  obtain ⟨-, changes⟩ := functions_reach steps.writing follows.headerWritten follows.ordered
  exact
    { reaches with
      program := renamed
      session := session
      pass := by simp only [titled, session]
      names := fun value stays => (not_not.mp stays).symm
      shared := fun value shared changed => by
        rcases changes value with same | ⟨⟨id, member, known⟩, _⟩
        · exact changed (by rw [same, follows.names]; rfl)
        · rw [follows.program.localIdsOf_eq, ← reaches.program.localIdsOf_eq] at known
          exact settles.unshared id (steps.order_eq ordered ▸ member) value known
            (scans.program ▸ changed) (shared.congr renamed.records.symm reaches.plan.symm)
      pairs := fun value image sampler stands => by
        have unpaired : scanned.pass.sampledImages = ∅ :=
          congrArg Origins.sampledImages scans.origins
        change scanned.pass.sampledImages.find? value = _ at stands
        rw [unpaired] at stands
        cases stands
      entry := fun inside => by
        have outside : scanned.pass.currentFunction = none := scans.current
        simp [Compiler.inEntry, titled, Pass.write, outside] at inside }

end PassSteps

/-- A pass that starts with everything that an earlier one has found, and with its names. -/
theorem pass_again (done : pass (afresh start) = .ok u c') (ordered : start.session.Ordered)
    (fresh : c'.pass.stale = false)
    (settles : Settles c'.plan.callGraph.order start.program c')
    (entryLast : c'.plan.callGraph.order.Pairwise fun id _ => id ≠ c'.plan.entry) (count : Nat) :
    ∃ d', pass { c' with pass := {}, passCount := count } = .ok u d' ∧ Trails c'.program c' d' := by
  obtain ⟨scanned, declared, helped, steps⟩ := pass_steps.mp done
  let rescanned : Compiler := { c' with pass := scanned.pass, passCount := count }
  have scans := Scanning.scan.keeps steps.scanning
  have follows := steps.follows ordered
  have reaches := steps.reaches ordered
  have order := steps.order_eq ordered
  have kept : scanned.program = start.program := scans.program
  have names (value : Id) : helped.program.name value = start.program.name value := by
    rw [follows.names, ← kept]
    rfl
  have begun : (titled scanned).Follows (titled scanned) :=
    .refl rfl (steps.scanned_ordered ordered)
  obtain ⟨declared', declaring, declares, mirrors⟩ := Steady.declarations.steady.step begun
    (steps.mirrors ordered fresh settles count) steps.declaring
  obtain ⟨helped', helping, _, mirrors⟩ :=
    Steady.helpers.steady.step declares mirrors steps.helping
  have declares' : (titled rescanned).Follows declared' :=
    Steady.declarations.follows declaring rfl reaches.ordered
  have helps' : declared'.Follows helped' :=
    Steady.helpers.follows helping declares'.headerWritten declares'.ordered
  have trails : Trails c'.program helped helped' :=
    { mirrors with
      names := fun value => (helps'.names value).trans (declares'.names value)
      pairs := fun value image sampler stands => by
        obtain ⟨first, second⟩ := mirrors.pairs value image sampler stands
        simp only [names, ← kept]
        exact ⟨first, second⟩ }
  have writing := steps.writing
  rw [order] at writing declaring
  obtain ⟨d', writing, trails⟩ := functions_again writing follows.headerWritten follows.ordered
    fresh trails (settles.congr names) (follows.plan.trans reaches.plan.symm ▸ entryLast)
  exact ⟨d', pass_steps.mpr ⟨rescanned, declared', helped', steps.rescans ordered fresh count,
    declaring, helping, writing⟩, trails⟩

/-- The state that the last of the passes starts from, if at most `left` of them are made. -/
def lastStart : (left : Nat) → Compiler → Compiler
  | 0, c => c
  | left + 1, c =>
    match pass (afresh c) with
    | .ok _ next => if next.pass.stale then lastStart left next else c
    | .error _ _ => c

def compileStart (c : Compiler) : Compiler :=
  match prepare c with
  | .ok _ ready => lastStart maxPasses { ready with prepared := true, passCount := 0 }
  | .error _ failed => failed

/-- The last pass leads to the end, and discovers nothing. -/
structure EndsWith (start stop : Compiler) : Prop where
  ordered : start.session.Ordered
  written : pass (afresh start) = .ok () stop
  fresh : stop.pass.stale = false

theorem pass_keeps (done : pass (afresh c) = .ok u c') (ordered : c.session.Ordered) :
    c'.session.Ordered ∧ c'.prepared = c.prepared ∧ c'.plan.settled = c.plan.settled := by
  obtain ⟨scanned, declared, helped, steps⟩ := pass_steps.mp done
  have reaches := steps.reaches ordered
  refine ⟨reaches.ordered, ?_, (advances done).plan⟩
  exact reaches.prepared.trans (Scanning.scan.keeps steps.scanning).prepared

theorem passes_keep {holds : Compiler → Prop}
    (each : ∀ c c', pass (afresh c) = .ok () c' → c.session.Ordered → holds c → holds c')
    (ran : passes left c = .ok u c') (ordered : c.session.Ordered) (start : holds c) :
    EndsWith (lastStart left c) c' ∧ holds (lastStart left c) ∧ holds c' := by
  induction left generalizing c with
  | zero => cases ran
  | succ left ih =>
    rw [passes_succ] at ran
    rw [lastStart]
    cases passed : pass (afresh c) with
    | error fault failed =>
      rw [passed] at ran
      cases ran
    | ok _ next =>
      have later := each c next passed ordered start
      simp only [passed] at ran ⊢
      split at ran
      · rename_i stale
        rw [if_pos stale]
        exact ih ran (pass_keeps passed ordered).1 later
      · rename_i fresh
        cases ran
        rw [if_neg fresh]
        exact ⟨⟨ordered, passed, by simpa using fresh⟩, start, later⟩

theorem passes_end (ran : passes left c = .ok u c') (ordered : c.session.Ordered) :
    EndsWith (lastStart left c) c' ∧ c'.prepared = c.prepared ∧
      c'.plan.settled = c.plan.settled := by
  have each (d d' : Compiler) (passed : pass (afresh d) = .ok () d') (ordered : d.session.Ordered)
      (same : d.prepared = c.prepared ∧ d.plan.settled = c.plan.settled) :
      d'.prepared = c.prepared ∧ d'.plan.settled = c.plan.settled := by
    obtain ⟨_, prepared, plan⟩ := pass_keeps passed ordered
    exact ⟨prepared.trans same.1, plan.trans same.2⟩
  obtain ⟨ends, _, same⟩ := passes_keep each ran ordered ⟨rfl, rfl⟩
  exact ⟨ends, same⟩

theorem compile_first {text : String} (unprepared : c.prepared = false)
    (compiled : compile c = .ok text c') :
    ∃ ready, prepare c = .ok () ready ∧
      passes maxPasses { ready with prepared := true, passCount := 0 } = .ok () c' ∧
      c'.output = text := by
  obtain ⟨ready, preparing, ran⟩ := (compile_unprepared_ok unprepared).mp compiled
  exact ⟨ready, preparing, printed_ok.mp ran⟩

theorem compile_later (prepared : c.prepared = true)
    (written : pass (afresh { c with passCount := 0 }) = .ok () c')
    (fresh : c'.pass.stale = false) :
    compile c = .ok c'.output c' := by
  have passed : passes maxPasses { c with passCount := 0 } = .ok () c' := by
    rw [maxPasses, passes_succ, written]
    simp [fresh]
  rw [compile_of_prepared prepared]
  exact printed_ok.mpr ⟨passed, rfl⟩

/-- What preparation leaves for the passes: nothing is discovered yet, and the entry point is the
last function. -/
theorem prepare_order (loaded : Program.ofModule m = .ok program)
    (prepared : prepare (Compiler.new program options) = .ok u ready) :
    ready.session = {} ∧ ready.plan.callGraph.order.Nodup ∧
      ready.plan.callGraph.order.getLast? = some ready.plan.entry := by
  have bounded := Program.ofModule_bounded loaded
  obtain ⟨_, surveyed, surveying, prepared⟩ := bind_ok.mp prepared
  obtain ⟨_, threaded, threading, prepared⟩ := bind_ok.mp prepared
  obtain ⟨point, graph, _, called, growth, entry, rfl, session⟩ := survey_ok bounded surveying
  obtain ⟨charts, last, -⟩ := Program.callGraph_ok called
  obtain ⟨_, _, added, _, _, threads, _⟩ :=
    threadGlobals_ok (growth.bounded bounded) charts.nodup threading
  have finish : Compiler.Threads (fun _ => []) threaded ready := Keeps.keeps prepared
  rw [finish.session, threads.session, finish.callGraph, threads.callGraph, finish.entry,
    threads.entry, entry]
  exact ⟨session, charts.nodup, last⟩

theorem prepare_ready (loaded : Program.ofModule m = .ok program)
    (prepared : prepare (Compiler.new program options) = .ok u ready) :
    ready.session = {} ∧ ready.plan.callGraph.order.Pairwise fun id _ => id ≠ ready.plan.entry := by
  obtain ⟨session, nodup, last⟩ := prepare_order loaded prepared
  refine ⟨session, ?_⟩
  obtain ⟨front, split⟩ := List.getLast?_eq_some_iff.mp last
  rw [split, List.nodup_append] at nodup
  rw [split, List.pairwise_append]
  have front_ne (id : Id) (member : id ∈ front) : id ≠ ready.plan.entry :=
    nodup.2.2 id member ready.plan.entry (by simp)
  exact ⟨nodup.1.imp_of_mem fun member _ _ => front_ne _ member, List.pairwise_singleton _ _,
    fun id member _ _ => front_ne id member⟩

/-- The next `count` compilations all give this text. -/
def Recompiles (text : String) : (count : Nat) → Compiler → Prop
  | 0, _ => True
  | count + 1, c => ∃ c', compile c = .ok text c' ∧ Recompiles text count c'

/-- A compilation has ended with names that are settled. -/
structure Repeatable (c : Compiler) : Prop where
  prepared : c.prepared = true
  entryLast : c.plan.callGraph.order.Pairwise fun id _ => id ≠ c.plan.entry
  ended : ∃ start, EndsWith start c ∧ Settles c.plan.callGraph.order start.program c

theorem Repeatable.again (repeatable : Repeatable c) :
    ∃ c', compile c = .ok c.output c' ∧ c'.output = c.output ∧ Repeatable c' := by
  obtain ⟨start, ends, settles⟩ := repeatable.ended
  obtain ⟨c', written, trails⟩ :=
    pass_again ends.written ends.ordered ends.fresh settles repeatable.entryLast 1
  have ordered := (pass_keeps ends.written ends.ordered).1
  have fresh : c'.pass.stale = false := by rw [trails.pass, ends.fresh]
  have output : c'.output = c.output := by rw [Compiler.output, trails.pass, Compiler.output]
  refine ⟨c', output ▸ compile_later repeatable.prepared written fresh, output, ?_, ?_,
    { c with passCount := 0 }, ⟨ordered, written, fresh⟩, ?_⟩
  · rw [trails.prepared, repeatable.prepared]
  · rw [trails.plan]
    exact repeatable.entryLast
  · rw [trails.plan]
    exact
      { distinct := fun id member => by
          rw [Program.localNames_congr trails.program trails.names,
            trails.program.alike.localIdsOf_eq]
          exact settles.distinct id member
        unshared := fun _ _ value _ changed => absurd (trails.names value).symm changed
        unmentioned := List.pairwise_of_forall fun _ _ value _ changed =>
          absurd (trails.names value).symm changed }

theorem Repeatable.recompiles (repeatable : Repeatable c) (count : Nat) :
    Recompiles c.output count c := by
  induction count generalizing c with
  | zero => trivial
  | succ count ih =>
    obtain ⟨c', compiled, output, repeatable⟩ := repeatable.again
    exact ⟨c', compiled, output ▸ ih repeatable⟩

/-- Compiling a loaded module again gives the same text, however often, if the names are settled
after the first compilation. -/
theorem recompile_same_text {m : Spirv.Module} {program : Program} {options : Options}
    {text : String} (loaded : Program.ofModule m = .ok program)
    (compiled : compile (Compiler.new program options) = .ok text c)
    (settles : Settles c.plan.callGraph.order
      (compileStart (Compiler.new program options)).program c) (count : Nat) :
    Recompiles text count c := by
  obtain ⟨ready, preparing, ran, rfl⟩ := compile_first rfl compiled
  obtain ⟨session, entryLast⟩ := prepare_ready loaded preparing
  have ordered : ready.session.Ordered := by
    rw [session]
    exact ⟨.nil, .nil, .nil, .nil⟩
  obtain ⟨ends, prepared, plan⟩ := passes_end ran ordered
  rw [compileStart, preparing] at settles
  rw [← settled_callGraph plan, ← settled_entry plan] at entryLast
  exact Repeatable.recompiles ⟨prepared, entryLast, _, ends, settles⟩ count

end Emit

namespace Compiler

variable {c : Compiler}

/-- A record refers to an id by which it is named, or which is part of its text. -/
def refers (c : Compiler) (id target : Id) : Bool :=
  (c.program.typeAt? id).any (fun type => type.baseId = target || .spec target ∈ type.dimensions) ||
    (c.program.variableAt? id).any (·.base = some target)

def storedIds (c : Compiler) : List Id := c.program.records.items.keys

theorem shared_iff {id : Id} :
    c.Shared id ↔ c.program.variableAt? id = none ∨ id ∈ c.program.constants.map (·.1) ∨
      id ∈ c.program.undefineds.map (·.1) ∨ (∃ other ∈ c.storedIds, c.refers other id = true) ∨
      id ∈ c.plan.lookupTables ∨ c.plan.builtinInputs.find? .fragCoord = some id := by
  have stored {α : Type} {select : Record → Option α} {other : Id} {found : α}
      (looked : (c.program.record? other).bind select = some found) : other ∈ c.storedIds := by
    obtain ⟨record, found, _⟩ := Option.bind_eq_some_iff.mp looked
    exact Assoc.mem_keys found
  constructor
  · intro shared
    cases shared with
    | other found => exact .inl found
    | constant member => exact .inr (.inl (List.mem_map_of_mem member))
    | undefined member => exact .inr (.inr (.inl (List.mem_map_of_mem member)))
    | base found =>
      exact .inr (.inr (.inr (.inl ⟨_, stored found, by simp [refers, found]⟩)))
    | length found member =>
      exact .inr (.inr (.inr (.inl ⟨_, stored found, by simp [refers, found, member]⟩)))
    | global found base =>
      exact .inr (.inr (.inr (.inl ⟨_, stored found, by simp [refers, found, base]⟩)))
    | table member => exact .inr (.inr (.inr (.inr (.inl member))))
    | position found => exact .inr (.inr (.inr (.inr (.inr found))))
  · rintro (found | member | member | ⟨other, -, refers⟩ | member | found)
    · exact .other found
    · obtain ⟨⟨_, _⟩, listed, rfl⟩ := List.mem_map.mp member
      exact .constant listed
    · obtain ⟨⟨_, _⟩, listed, rfl⟩ := List.mem_map.mp member
      exact .undefined listed
    · simp only [Compiler.refers, Bool.or_eq_true, Option.any_eq_true, decide_eq_true_eq] at refers
      rcases refers with ⟨type, found, rfl | member⟩ | ⟨var, found, base⟩
      · exact .base found
      · exact .length found member
      · exact .global found base
    · exact .table member
    · exact .position found

instance : DecidablePred c.Shared := fun _ => decidable_of_iff _ shared_iff.symm

instance (order : List Id) (start : Program) : Decidable (Settles order start c) :=
  decidable_of_iff
    ((∀ id ∈ order, (c.program.localNames (c.program.localIdsOf id)).Nodup) ∧
      (∀ id ∈ order, ∀ value ∈ c.program.localIdsOf id,
        start.name value ≠ c.program.name value → ¬ c.Shared value) ∧
      order.Pairwise fun id later => ∀ value ∈ c.program.mentionedBy id,
        start.name value ≠ c.program.name value → value ∉ c.program.localIdsOf later)
    ⟨fun ⟨distinct, unshared, unmentioned⟩ => ⟨distinct, unshared, unmentioned⟩,
      fun ⟨distinct, unshared, unmentioned⟩ => ⟨distinct, unshared, unmentioned⟩⟩

end Compiler

namespace Emit

/-- A private variable that a function writes to, and two locals of the entry point with one name.
Globals that only belong to one invocation become locals of the entry point, too. -/
def namesakes (privateName : String) : Spirv.Module where
  entryPoints := [.entry .glCompute 20 []]
  names := [name 14 privateName, name 10 "x", name 12 "x", name 22 "touch"]
  globals := [⟨.typeVoid, none, some 2, []⟩, ⟨.typeFloat, none, some 3, [.literal 32]⟩,
    .pointer 4 .function 3,
    ⟨.typeFunction, none, some 5, [.idRef 2]⟩,
    ⟨.constant, some 3, some 6, [.literal 1065353216]⟩, .pointer 7 .privateScope 3,
    .variable 14 7 .privateScope]
  functions := [function 22 23 [⟨.store, none, none, [.idRef 14, .idRef 6]⟩], function 20 21 [
      .variable 10 4 .function, .variable 12 4 .function,
      ⟨.store, none, none, [.idRef 10, .idRef 6]⟩,
      ⟨.store, none, none, [.idRef 12, .idRef 6]⟩,
      ⟨.functionCall, some 2, some 24, [.idRef 22]⟩]]
where
  name (id : Nat) (text : String) : Spirv.Instruction :=
    ⟨.debugName, none, none, [.idRef id, .text text]⟩
  function (id label : Nat) (body : List Spirv.Instruction) : Spirv.Function :=
    .ofBody 2 id 5 label body

theorem recompile_same_text_namesakes :
    ∃ program text c, Program.ofModule (namesakes "y") = .ok program ∧
      compile (Compiler.new program {}) = .ok text c ∧ c.program.name 12 = "x_12" ∧
      ∀ count, Recompiles text count c := by
  have computed : Except.passes (Program.ofModule (namesakes "y")) (fun program =>
      runPasses (compile (Compiler.new program {})) fun _ c => c.program.name 12 = "x_12" ∧
        Settles c.plan.callGraph.order (compileStart (Compiler.new program {})).program c) =
      true := by
    decide +kernel
  obtain ⟨program, loaded, computed⟩ := Except.of_passes computed
  obtain ⟨text, c, compiled, computed⟩ := of_runPasses computed
  obtain ⟨renamed, settles⟩ := of_decide_eq_true computed
  exact ⟨program, text, c, loaded, compiled, renamed, recompile_same_text loaded compiled settles⟩

/-- A private variable becomes a local of the entry point and gets a longer name there. The first
compilation has written the function that uses it before; the second one shows the new name. -/
theorem private_namesake_renamed :
    ∃ program text c text' c', Program.ofModule (namesakes "x") = .ok program ∧
      compile (Compiler.new program {}) = .ok text c ∧ compile c = .ok text' c' ∧
      text ≠ text' := by
  have computed : Except.passes (Program.ofModule (namesakes "x")) (fun program =>
      runPasses (compile (Compiler.new program {})) fun text c =>
        runPasses (compile c) fun text' _ => text ≠ text') = true := by
    decide +kernel
  obtain ⟨program, loaded, computed⟩ := Except.of_passes computed
  obtain ⟨text, c, compiled, computed⟩ := of_runPasses computed
  obtain ⟨text', c', again, computed⟩ := of_runPasses computed
  exact ⟨program, text, c, text', c', loaded, compiled, again, of_decide_eq_true computed⟩

end Emit

end SpirvMetal
