import Mathlib.Data.List.Induction
import SpirvMetal.Proofs.Program.Loaded
import SpirvMetal.Proofs.Threading.CallGraph

/-!
When the call graph of an entry point exists. A visit breaks off only at an id that is no function,
or at a call that closes a cycle.
-/

namespace SpirvMetal

open List

theorem Except.bind_error {ε α β : Type} {result : Except ε α} {next : α → Except ε β}
    {fault : ε} : (result >>= next) = .error fault ↔
      result = .error fault ∨ ∃ a, result = .ok a ∧ next a = .error fault := by
  cases result <;> simp [bind, Except.bind]

/-- The elements of a list, each once and by first occurrence. -/
structure FirstOccurrences {α : Type} [DecidableEq α] (list firsts : List α) : Prop where
  nodup : firsts.Nodup
  mem_iff : ∀ x, x ∈ firsts ↔ x ∈ list
  ordered : firsts.Pairwise fun x y => list.idxOf x < list.idxOf y

theorem foldl_addNew_firsts {α : Type} [DecidableEq α] (list : List α) :
    FirstOccurrences list (list.foldl addNew []) := by
  induction list using List.reverseRecOn with
  | nil => exact ⟨by simp, by simp, by simp⟩
  | append_singleton front last ih =>
    obtain ⟨nodup, mem_iff, ordered⟩ := ih
    rw [foldl_append, foldl_cons, foldl_nil]
    have kept (x : α) (listed : x ∈ front.foldl addNew []) :
        (front ++ [last]).idxOf x = front.idxOf x :=
      idxOf_append_of_mem ((mem_iff x).mp listed)
    have still : (front.foldl addNew []).Pairwise fun x y =>
        (front ++ [last]).idxOf x < (front ++ [last]).idxOf y := by
      refine ordered.imp_of_mem fun {x y} first second before => ?_
      rw [kept x first, kept y second]
      exact before
    by_cases known : last ∈ front.foldl addNew []
    · rw [addNew, if_pos known]
      refine ⟨nodup, fun x => ?_, still⟩
      rw [mem_append, mem_singleton, mem_iff]
      constructor
      · exact .inl
      · rintro (listed | rfl)
        · exact listed
        · exact (mem_iff x).mp known
    · rw [addNew, if_neg known]
      refine ⟨?_, fun x => ?_, ?_⟩
      · apply nodup_append.mpr
        refine ⟨nodup, by simp, fun x listed y here same => ?_⟩
        rw [mem_singleton] at here
        exact known (here ▸ same ▸ listed)
      · rw [mem_append, mem_append, mem_iff]
      · apply pairwise_append.mpr
        refine ⟨still, by simp, fun x listed y here => ?_⟩
        rw [mem_singleton] at here
        subst here
        have absent : y ∉ front := fun member => known ((mem_iff y).mpr member)
        have early : front.idxOf x < front.length :=
          idxOf_lt_length_of_mem ((mem_iff x).mp listed)
        rw [kept x listed, idxOf_append_of_notMem absent]
        omega

namespace Program

variable {program : Program} {entry function callee : Id}
variable {callees path : List Id} {fault : Fault} {fuel : Nat} {graph : CallGraph}

/-- The functions that a function calls, in the order of its code. -/
def callSequence (program : Program) (function : Id) : List Id :=
  match program.functionAt? function with
  | none => []
  | some found =>
    (found.instructions.filter (·.op = .functionCall)).filterMap (·.references.head?)

theorem directCallees_firsts (found : program.directCallees function = .ok callees) :
    FirstOccurrences (program.callSequence function) callees := by
  obtain ⟨stored, getting, found⟩ := Except.bind_ok.mp found
  cases found
  rw [callSequence, getFunction_ok.mp getting]
  exact foldl_addNew_firsts _

theorem directCallees_stored (found : program.directCallees function = .ok callees) :
    (program.functionAt? function).isSome := by
  obtain ⟨stored, getting, _⟩ := Except.bind_ok.mp found
  simp [getFunction_ok.mp getting]

theorem directCallees_error (failed : program.directCallees function = .error fault) :
    program.functionAt? function = none ∧ fault ≠ .aborted := by
  cases reading : program.getFunction function with
  | ok stored =>
    rw [directCallees, reading] at failed
    cases failed
  | error other =>
    rw [directCallees, reading] at failed
    cases failed
    constructor
    · cases stored : program.functionAt? function with
      | none => rfl
      | some found =>
        rw [getFunction_ok.mpr stored] at reading
        cases reading
    · rintro rfl
      simp only [getFunction, expect] at reading
      split at reading
      · cases reading
      · split at reading <;> cases reading

/-- Why a visit of a function, called along a path, may fail. -/
inductive Refuses (program : Program) (path : List Id) (function : Id) : Fault → Prop
  /-- Something that the function reaches is no function. -/
  | missing {fault : Fault} (other : Id) (reaches : program.Reaches function other)
      (absent : program.functionAt? other = none) (cause : fault ≠ .aborted) :
      Refuses program path function fault
  /-- A call leads back into the path, or to where it came from. -/
  | recursion (caller callee : Id) (reaches : program.Reaches function caller)
      (calls : program.Calls caller callee)
      (back : callee ∈ path ∨ program.Reaches function callee ∧ program.Reaches callee caller) :
      Refuses program path function (.unsupported (.recursion caller callee))

theorem Refuses.ofCallee (calls : program.Calls function callee)
    (refuses : Refuses program (function :: path) callee fault) :
    Refuses program path function fault := by
  cases refuses with
  | missing other reaches absent cause => exact .missing other (.head calls reaches) absent cause
  | recursion caller target reaches closing back =>
    refine .recursion caller target (.head calls reaches) closing ?_
    rcases back with along | ⟨onward, back⟩
    · rcases mem_cons.mp along with rfl | along
      · exact .inr ⟨.refl, .head calls reaches⟩
      · exact .inl along
    · exact .inr ⟨.head calls onward, back⟩

/-- The functions of a path are stored and differ, so the records and the fuel that is left bound
its length. -/
structure PathWithin (program : Program) (path : List Id) (fuel : Nat) : Prop where
  nodup : path.Nodup
  stored : ∀ function ∈ path, (program.functionAt? function).isSome
  room : program.depth ≤ path.length + fuel

theorem PathWithin.fuel_pos (within : program.PathWithin path fuel) : fuel ≠ 0 := by
  rintro rfl
  have known : path ⊆ program.records.items.keys := by
    intro function member
    obtain ⟨found, stored⟩ := Option.isSome_iff_exists.mp (within.stored function member)
    exact Assoc.mem_keys (functionAt?_some.mp stored)
  have short : path.length ≤ program.records.items.keys.length :=
    (subperm_of_subset within.nodup known).length_le
  have size : program.records.items.keys.length = program.records.items.size := by
    simp [Assoc.keys, Assoc.size]
  have room := within.room
  unfold depth at room
  omega

theorem PathWithin.extend (within : program.PathWithin path (fuel + 1)) (fresh : function ∉ path)
    (stored : (program.functionAt? function).isSome) :
    program.PathWithin (function :: path) fuel where
  nodup := nodup_cons.mpr ⟨fresh, within.nodup⟩
  stored other member := by
    rcases mem_cons.mp member with rfl | member
    · exact stored
    · exact within.stored other member
  room := by
    have room := within.room
    simp only [length_cons]
    omega

def visitCallee (visit : Id → CallGraph → Except Fault CallGraph) (path : List Id) (function : Id)
    (graph : CallGraph) (callee : Id) : Except Fault CallGraph :=
  if callee = function ∨ callee ∈ path then .error (.unsupported (.recursion function callee))
  else if callee ∈ graph.order then .ok graph
  else visit callee graph

theorem visitCalls_succ (program : Program) (fuel : Nat) (path : List Id) (function : Id)
    (graph : CallGraph) :
    program.visitCalls (fuel + 1) path function graph = (do
      let callees ← program.directCallees function
      let visited ← callees.foldlM
        (visitCallee (program.visitCalls fuel (function :: path)) path function)
        { graph with callees := graph.callees.insert function callees }
      return { visited with order := visited.order ++ [function] }) := rfl

theorem foldlM_visitCallee_refuses {visit : Id → CallGraph → Except Fault CallGraph}
    (visits : ∀ callee ∉ function :: path, ∀ graph, visit callee graph = .error fault →
      Refuses program (function :: path) callee fault)
    (calls : ∀ callee ∈ callees, program.Calls function callee)
    (failed : callees.foldlM (visitCallee visit path function) graph = .error fault) :
    Refuses program path function fault := by
  induction callees generalizing graph with
  | nil => cases failed
  | cons callee rest ih =>
    have here := calls callee (by simp)
    rcases Except.bind_error.mp failed with stopped | ⟨next, _, failed⟩
    · unfold visitCallee at stopped
      by_cases closing : callee = function ∨ callee ∈ path
      · rw [if_pos closing] at stopped
        cases stopped
        refine .recursion function callee .refl here ?_
        rcases closing with rfl | along
        · exact .inr ⟨.refl, .refl⟩
        · exact .inl along
      · rw [if_neg closing] at stopped
        have fresh : callee ∉ function :: path := by simpa using closing
        split at stopped
        · cases stopped
        · exact (visits callee fresh graph stopped).ofCallee here
    · exact ih (fun other member => calls other (by simp [member])) failed

theorem visitCalls_refuses (fresh : function ∉ path) (within : program.PathWithin path fuel)
    (failed : program.visitCalls fuel path function graph = .error fault) :
    Refuses program path function fault := by
  induction fuel generalizing path function graph with
  | zero => exact absurd rfl within.fuel_pos
  | succ fuel ih =>
    rw [visitCalls_succ] at failed
    rcases Except.bind_error.mp failed with stopped | ⟨callees, found, failed⟩
    · obtain ⟨absent, cause⟩ := directCallees_error stopped
      exact .missing function .refl absent cause
    · have within := within.extend fresh (directCallees_stored found)
      rcases Except.bind_error.mp failed with stopped | ⟨visited, _, failed⟩
      · exact foldlM_visitCallee_refuses (fun callee fresh graph stopped => ih fresh within stopped)
          (fun callee member => (directCallees_ok found).mp member) stopped
      · cases failed

theorem visitCalls_fuel {more : Nat} (fresh : function ∉ path)
    (within : program.PathWithin path fuel) (le : fuel ≤ more) :
    program.visitCalls more path function graph = program.visitCalls fuel path function graph := by
  induction fuel generalizing more path function graph with
  | zero => exact absurd rfl within.fuel_pos
  | succ fuel ih =>
    obtain ⟨more, rfl⟩ : ∃ less, more = less + 1 := ⟨more - 1, by omega⟩
    rw [visitCalls_succ, visitCalls_succ]
    cases found : program.directCallees function with
    | error fault => rfl
    | ok callees =>
      have within := within.extend fresh (directCallees_stored found)
      have same : visitCallee (program.visitCalls more (function :: path)) path function =
          visitCallee (program.visitCalls fuel (function :: path)) path function := by
        funext graph callee
        unfold visitCallee
        split
        · rfl
        · rename_i open_
          split
          · rfl
          · exact ih (by simpa using open_) within (by omega)
      rw [same]

/-- The callees of the functions in the order are noted, and of those that are being visited. -/
def Noted (path : List Id) (graph : CallGraph) : Prop :=
  ∀ function, (graph.callees.find? function).isSome ↔ function ∈ graph.order ∨ function ∈ path

theorem visitCalls_noted {graph' : CallGraph} (noted : Noted path graph)
    (done : program.visitCalls fuel path function graph = .ok graph') : Noted path graph' := by
  induction fuel generalizing path function graph graph' with
  | zero => cases done
  | succ fuel ih =>
    rw [visitCalls_succ] at done
    obtain ⟨callees, _, done⟩ := Except.bind_ok.mp done
    obtain ⟨visited, folding, done⟩ := Except.bind_ok.mp done
    cases done
    have started : Noted (function :: path)
        { graph with callees := graph.callees.insert function callees } := by
      intro other
      rw [Assoc.find?_insert]
      by_cases same : other = function
      · simp [same]
      · rw [if_neg same, noted other]
        simp [same]
    have inner : Noted (function :: path) visited := by
      refine foldlM_keeps (fun before callee after held stepped => ?_) started folding
      unfold visitCallee at stepped
      split at stepped
      · cases stepped
      · split at stepped
        · cases stepped
          exact held
        · exact ih held stepped
    intro other
    rw [inner other]
    simp only [mem_append, mem_cons, not_mem_nil, or_false]
    tauto

def CallsItself (program : Program) (function : Id) : Prop :=
  Relation.TransGen program.Calls function function

theorem Charts.not_callsItself (charts : graph.Charts program) (listed : function ∈ graph.order) :
    ¬ program.CallsItself function := by
  have earlier {function other : Id} (calls : Relation.TransGen program.Calls function other)
      (listed : function ∈ graph.order) :
      graph.order.idxOf other < graph.order.idxOf function := by
    have step {function callee : Id} (calls : program.Calls function callee)
        (listed : function ∈ graph.order) :
        graph.order.idxOf callee < graph.order.idxOf function := by
      obtain ⟨before, after, split⟩ := append_of_mem listed
      have ahead := charts.first before function after split callee calls
      have distinct := charts.nodup
      rw [split] at distinct
      have absent : function ∉ before := fun member =>
        (nodup_append.mp distinct).2.2 function member function (by simp) rfl
      rw [split, idxOf_append_of_mem ahead, idxOf_append_of_notMem absent]
      have bound := idxOf_lt_length_of_mem ahead
      omega
    induction calls with
    | single calls => exact step calls listed
    | tail path calls ih =>
      exact Nat.lt_trans (step calls (charts.reaches listed path.to_reflTransGen)) ih
  exact fun cycle => Nat.lt_irrefl _ (earlier cycle listed)

theorem pathWithin_entry (program : Program) : program.PathWithin [] program.depth :=
  ⟨by simp, by simp, by simp⟩

theorem callGraph_refuses (failed : program.callGraph entry = .error fault) :
    Refuses program [] entry fault :=
  visitCalls_refuses (by simp) program.pathWithin_entry failed

/-- Where functions only are reached, the reason for a failure is a cycle that is named. -/
theorem callGraph_recursion
    (stored : ∀ function, program.Reaches entry function → (program.functionAt? function).isSome)
    (failed : program.callGraph entry = .error fault) :
    ∃ caller callee, fault = .unsupported (.recursion caller callee) ∧
      program.Reaches entry caller ∧ program.Calls caller callee ∧
      program.Reaches callee caller := by
  cases callGraph_refuses failed with
  | missing other reached absent _ =>
    have present := stored other reached
    rw [absent] at present
    cases present
  | recursion caller callee reached calls back =>
    rcases back with along | ⟨_, back⟩
    · cases along
    · exact ⟨caller, callee, rfl, reached, calls, back⟩

/-- A call graph exists exactly if the entry point reaches functions only, and none that calls
itself. -/
theorem callGraph_ok_iff :
    (∃ graph, program.callGraph entry = .ok graph) ↔
      (∀ function, program.Reaches entry function → (program.functionAt? function).isSome) ∧
        ∀ function, program.Reaches entry function → ¬ program.CallsItself function := by
  constructor
  · rintro ⟨graph, found⟩
    obtain ⟨charts, _, listed⟩ := callGraph_ok found
    constructor
    · intro function reached
      exact directCallees_stored (charts.noted function ((listed function).mpr reached))
    · intro function reached
      exact Charts.not_callsItself charts ((listed function).mpr reached)
  · rintro ⟨stored, acyclic⟩
    cases found : program.callGraph entry with
    | ok graph => exact ⟨graph, rfl⟩
    | error fault =>
      obtain ⟨caller, callee, _, reached, calls, back⟩ := callGraph_recursion stored found
      exact absurd (.tail' back calls) (acyclic callee (reached.tail calls))

theorem callGraph_unlimited (enough : program.depth ≤ fuel) :
    program.visitCalls fuel [] entry {} = program.callGraph entry :=
  visitCalls_fuel (by simp) program.pathWithin_entry enough

theorem callGraph_not_aborted : program.callGraph entry ≠ .error .aborted := by
  intro failed
  cases callGraph_refuses failed with
  | missing _ _ _ cause => exact cause rfl

theorem callGraph_callees (found : program.callGraph entry = .ok graph) (function : Id) :
    ((graph.callees.find? function).isSome ↔ program.Reaches entry function) ∧
      ∀ callees, graph.callees.find? function = some callees →
        FirstOccurrences (program.callSequence function) callees := by
  obtain ⟨charts, _, listed⟩ := callGraph_ok found
  have start : Noted [] {} := by simp [Noted]
  have noted : (graph.callees.find? function).isSome ↔ function ∈ graph.order := by
    simpa using visitCalls_noted start found function
  refine ⟨noted.trans (listed function), fun callees known => ?_⟩
  have direct := charts.noted function (noted.mp (by simp [known]))
  rw [CallGraph.calleesOf, known] at direct
  exact directCallees_firsts direct

def RefersTo (program : Program) (function id : Id) : Prop :=
  ∃ found inst, program.functionAt? function = some found ∧ inst ∈ found.instructions ∧
    id ∈ inst.references

theorem reachedInstructions_ok (found : program.callGraph entry = .ok graph) :
    ∃ instructions, program.reachedInstructions entry = .ok instructions ∧
      ∀ inst, inst ∈ instructions ↔ ∃ function ∈ graph.order, ∃ stored,
        program.functionAt? function = some stored ∧ inst ∈ stored.instructions := by
  obtain ⟨charts, _, _⟩ := callGraph_ok found
  have stored : ∀ function ∈ graph.order, (program.functionAt? function).isSome :=
    fun function listed => directCallees_stored (charts.noted function listed)
  have read : ∀ {order : List Id}, (∀ function ∈ order, (program.functionAt? function).isSome) →
      ∃ functions, order.mapM program.getFunction = .ok functions ∧
        ∀ inst, inst ∈ functions.flatMap (·.instructions) ↔ ∃ function ∈ order, ∃ stored,
          program.functionAt? function = some stored ∧ inst ∈ stored.instructions := by
    intro order stored
    induction order with
    | nil => exact ⟨[], rfl, by simp⟩
    | cons first rest ih =>
      obtain ⟨found, here⟩ := Option.isSome_iff_exists.mp (stored first (by simp))
      obtain ⟨functions, reading, listed⟩ := ih fun other member => stored other (by simp [member])
      refine ⟨found :: functions, ?_, fun inst => ?_⟩
      · rw [mapM_cons, getFunction_ok.mpr here, reading]
        rfl
      · rw [flatMap_cons, mem_append, listed]
        simp [here]
  obtain ⟨functions, reading, listed⟩ := read stored
  refine ⟨functions.flatMap (·.instructions), ?_, listed⟩
  exact Except.bind_ok.mpr ⟨graph, found, Except.bind_ok.mpr ⟨functions, reading, rfl⟩⟩

theorem activeVariables_ok (found : program.callGraph entry = .ok graph) :
    ∃ vars, program.activeVariables entry = .ok vars ∧ vars.Nodup ∧
      ∀ id, id ∈ vars ↔ (∃ var, program.variableAt? id = some var ∧ var.storage ≠ .function) ∧
        ∃ function ∈ graph.order, program.RefersTo function id := by
  obtain ⟨instructions, reading, listed⟩ := reachedInstructions_ok found
  have firsts := foldl_addNew_firsts
    ((instructions.flatMap (·.references)).filter program.isGlobalVariable)
  refine ⟨_, by rw [activeVariables, reading]; rfl, firsts.nodup, fun id => ?_⟩
  have isGlobal : program.isGlobalVariable id = true ↔
      ∃ var, program.variableAt? id = some var ∧ var.storage ≠ .function := by
    simp [isGlobalVariable, Option.any_eq_true]
  rw [firsts.mem_iff, mem_filter, isGlobal, and_comm]
  refine and_congr_right fun _ => ?_
  simp only [mem_flatMap, listed, RefersTo]
  constructor
  · rintro ⟨inst, ⟨function, member, stored, at_, here⟩, refers⟩
    exact ⟨function, member, stored, inst, at_, here, refers⟩
  · rintro ⟨function, member, stored, inst, at_, here, refers⟩
    exact ⟨inst, ⟨function, member, stored, at_, here⟩, refers⟩

theorem activeVariables_error (failed : program.callGraph entry = .error fault) :
    program.activeVariables entry = .error fault := by
  rw [activeVariables, reachedInstructions, failed]
  rfl

/-- The call graph exists exactly where it should, and lists what the entry point reaches; the
search for it ends, and the variables in use are those that its functions refer to. -/
theorem callGraph_charts_reached (program : Program) (entry : Id) :
    ((∃ graph, program.callGraph entry = .ok graph) ↔
      (∀ function, program.Reaches entry function → (program.functionAt? function).isSome) ∧
        ∀ function, program.Reaches entry function → ¬ program.CallsItself function) ∧
    (∀ graph, program.callGraph entry = .ok graph →
      (graph.order.Nodup ∧ (∀ function, function ∈ graph.order ↔ program.Reaches entry function) ∧
        (∀ before function after, graph.order = before ++ function :: after →
          ∀ callee, program.Calls function callee → callee ∈ before) ∧
        graph.order.getLast? = some entry) ∧
      (∀ function, (graph.callees.find? function).isSome ↔ program.Reaches entry function) ∧
      (∀ function callees, graph.callees.find? function = some callees →
        FirstOccurrences (program.callSequence function) callees) ∧
      ∃ vars, program.activeVariables entry = .ok vars ∧ vars.Nodup ∧
        ∀ id, id ∈ vars ↔ (∃ var, program.variableAt? id = some var ∧ var.storage ≠ .function) ∧
          ∃ function ∈ graph.order, program.RefersTo function id) ∧
    (∀ fault, program.callGraph entry = .error fault →
      program.activeVariables entry = .error fault ∧ fault ≠ .aborted ∧
      ((∀ function, program.Reaches entry function → (program.functionAt? function).isSome) →
        ∃ caller callee, fault = .unsupported (.recursion caller callee) ∧
          program.Reaches entry caller ∧ program.Calls caller callee ∧
          program.Reaches callee caller)) ∧
    ∀ fuel, program.depth ≤ fuel →
      program.visitCalls fuel [] entry {} = program.callGraph entry := by
  refine ⟨callGraph_ok_iff, fun graph found => ?_, fun fault failed => ?_, fun fuel enough => ?_⟩
  · obtain ⟨charts, last, listed⟩ := callGraph_ok found
    exact ⟨⟨charts.nodup, listed, charts.first, last⟩,
      fun function => (callGraph_callees found function).1,
      fun function => (callGraph_callees found function).2, activeVariables_ok found⟩
  · refine ⟨activeVariables_error failed, ?_, fun stored => callGraph_recursion stored failed⟩
    rintro rfl
    exact callGraph_not_aborted failed
  · exact callGraph_unlimited enough

end Program

end SpirvMetal
