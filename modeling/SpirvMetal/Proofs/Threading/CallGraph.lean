import Mathlib.Logic.Relation
import SpirvMetal.Proofs.Program.Growth

/-!
The call graph of an entry point.
-/

namespace SpirvMetal

open List

theorem mem_addNew {α : Type} [DecidableEq α] {a b : α} {list : List α} :
    a ∈ addNew list b ↔ a ∈ list ∨ a = b := by
  unfold addNew
  split <;> grind

theorem mem_foldl_addNew {α : Type} [DecidableEq α] {x : α} {news list : List α} :
    x ∈ news.foldl addNew list ↔ x ∈ news ∨ x ∈ list := by
  induction news generalizing list with
  | nil => simp
  | cons y rest ih =>
    rw [foldl_cons, ih, mem_addNew]
    grind

namespace Program

variable {program : Program} {function callee : Id}

def Calls (program : Program) (function callee : Id) : Prop :=
  ∃ found inst, program.functionAt? function = some found ∧ inst ∈ found.instructions ∧
    inst.op = .functionCall ∧ inst.references.head? = some callee

/-- Calls, one after the other, lead from a function to another; each function reaches itself. -/
abbrev Reaches (program : Program) : Id → Id → Prop := Relation.ReflTransGen program.Calls

theorem directCallees_ok {callees : List Id}
    (found : program.directCallees function = .ok callees) :
    callee ∈ callees ↔ program.Calls function callee := by
  obtain ⟨stored, getting, found⟩ := Except.bind_ok.mp found
  have stored_at := getFunction_ok.mp getting
  cases found
  rw [mem_foldl_addNew]
  simp only [mem_filterMap, mem_filter, decide_eq_true_eq, not_mem_nil, or_false,
    Calls, stored_at, Option.some.injEq]
  grind

end Program

namespace CallGraph

variable {program : Program} {graph : CallGraph}
variable {function : Id}

/-- The order holds every function once, behind all that it calls, and its callees are noted. -/
structure Charts (graph : CallGraph) (program : Program) : Prop where
  nodup : graph.order.Nodup
  noted : ∀ function ∈ graph.order, program.directCallees function = .ok (graph.calleesOf function)
  first : ∀ before function after, graph.order = before ++ function :: after →
    ∀ callee, program.Calls function callee → callee ∈ before

section

variable (charts : graph.Charts program)

include charts

theorem Charts.closed {callee : Id}
    (listed : function ∈ graph.order) (calls : program.Calls function callee) :
    callee ∈ graph.order := by
  obtain ⟨before, after, split⟩ := append_of_mem listed
  rw [split]
  exact mem_append_left _ (charts.first before function after split callee calls)

theorem Charts.reaches {other : Id}
    (listed : function ∈ graph.order) (reaches : program.Reaches function other) :
    other ∈ graph.order := by
  induction reaches with
  | refl => exact listed
  | tail _ calls ih => exact charts.closed ih calls

theorem Charts.append (new : function ∉ graph.order)
    (noted : program.directCallees function = .ok (graph.calleesOf function))
    (called : ∀ callee, program.Calls function callee → callee ∈ graph.order) :
    Charts { graph with order := graph.order ++ [function] } program where
  nodup := by
    rw [nodup_append]
    exact ⟨charts.nodup, by simp, by grind⟩
  noted other member := by
    rcases mem_append.mp member with member | member
    · exact charts.noted other member
    · obtain rfl := mem_singleton.mp member
      exact noted
  first before other after split callee calls := by
    rcases eq_nil_or_concat after with rfl | ⟨rest, last, rfl⟩
    · obtain ⟨rfl, same⟩ := append_inj' split rfl
      obtain rfl := singleton_inj.mp same
      exact called callee calls
    · have split : graph.order ++ [function] = (before ++ other :: rest) ++ [last] := by
        simpa using split
      exact charts.first before other rest (append_inj' split rfl).1 callee calls

theorem Charts.note (new : function ∉ graph.order) (callees : List Id) :
    Charts { graph with callees := graph.callees.insert function callees } program where
  nodup := charts.nodup
  noted other member := by
    have differ : other ≠ function := fun same => new (same ▸ member)
    rw [charts.noted other member]
    simp [calleesOf, Assoc.find?_insert, differ]
  first := charts.first

end

/-- What a visit of a function called along a path adds to a graph. -/
structure Visited (program : Program) (path : List Id) (function : Id) (before after : CallGraph) :
    Prop where
  charts : after.Charts program
  kept : ∀ other ∈ path, after.calleesOf other = before.calleesOf other
  added : ∃ new, after.order = before.order ++ new ∧
    ∀ other ∈ new, other ∉ path ∧ program.Reaches function other

namespace Visited

variable {path : List Id} {function callee : Id} {middle after : CallGraph}

theorem refl (charts : graph.Charts program) : Visited program path function graph graph :=
  ⟨charts, fun _ _ => rfl, [], by simp, by simp⟩

theorem trans (first : Visited program path function graph middle)
    (second : Visited program path function middle after) :
    Visited program path function graph after := by
  obtain ⟨new, listed, fresh⟩ := first.added
  obtain ⟨new', listed', fresh'⟩ := second.added
  refine ⟨second.charts, fun other member => ?_, new ++ new', ?_, fun other member => ?_⟩
  · exact (second.kept other member).trans (first.kept other member)
  · rw [listed', listed, append_assoc]
  rcases mem_append.mp member with member | member
  · exact fresh other member
  · exact fresh' other member

theorem mem (visited : Visited program path function graph after) {other : Id}
    (listed : other ∈ graph.order) : other ∈ after.order := by
  obtain ⟨new, same, _⟩ := visited.added
  rw [same]
  exact mem_append_left new listed

theorem ofCallee (visited : Visited program path callee graph after)
    (calls : program.Calls function callee) : Visited program path function graph after := by
  obtain ⟨new, same, fresh⟩ := visited.added
  exact ⟨visited.charts, visited.kept, new, same, fun other member =>
    ⟨(fresh other member).1, .head calls (fresh other member).2⟩⟩

end Visited

end CallGraph

namespace Program

variable {program : Program}

open CallGraph (Charts Visited)

variable {function : Id} {graph graph' : CallGraph}

theorem foldlM_visited {path callees : List Id} {visit : Id → CallGraph → Except Fault CallGraph}
    (visits : ∀ callee ∉ function :: path, ∀ before after, before.Charts program →
      callee ∉ before.order → visit callee before = .ok after →
        Visited program (function :: path) callee before after ∧ callee ∈ after.order)
    (calls : ∀ callee ∈ callees, program.Calls function callee) (charts : graph.Charts program)
    (done : callees.foldlM
      (fun graph callee =>
        if callee = function ∨ callee ∈ path then
          .error (.unsupported (.recursion function callee))
        else if callee ∈ graph.order then .ok graph
        else visit callee graph) graph = .ok graph') :
    Visited program (function :: path) function graph graph' ∧
      ∀ callee ∈ callees, callee ∈ graph'.order := by
  induction callees generalizing graph with
  | nil =>
    cases done
    exact ⟨.refl charts, by simp⟩
  | cons callee rest ih =>
    obtain ⟨next, stepped, done⟩ := Except.bind_ok.mp done
    have step : Visited program (function :: path) function graph next ∧ callee ∈ next.order := by
      dsimp only at stepped
      split at stepped
      · cases stepped
      · rename_i new
        split at stepped
        · rename_i listed
          cases stepped
          exact ⟨.refl charts, listed⟩
        · rename_i unlisted
          have fresh : callee ∉ function :: path := by simpa using new
          obtain ⟨visited, listed⟩ := visits callee fresh graph next charts unlisted stepped
          exact ⟨visited.ofCallee (calls callee (by simp)), listed⟩
    obtain ⟨visited, listed⟩ :=
      ih (fun other member => calls other (by simp [member])) step.1.charts done
    refine ⟨step.1.trans visited, fun other member => ?_⟩
    rcases mem_cons.mp member with rfl | member
    · exact visited.mem step.2
    · exact listed other member

theorem visitCalls_visited {fuel : Nat} {path : List Id} (fresh : function ∉ path)
    (unlisted : function ∉ graph.order) (charts : graph.Charts program)
    (done : program.visitCalls fuel path function graph = .ok graph') :
    Visited program path function graph graph' ∧ graph'.order.getLast? = some function := by
  induction fuel generalizing path function graph graph' with
  | zero => cases done
  | succ fuel ih =>
    obtain ⟨callees, found, done⟩ := Except.bind_ok.mp done
    obtain ⟨visited, folding, done⟩ := Except.bind_ok.mp done
    cases done
    have noted := charts.note unlisted callees
    obtain ⟨inner, listed⟩ := foldlM_visited
      (fun callee fresh before after charts unlisted run =>
        have ⟨visited, last⟩ := ih fresh unlisted charts run
        ⟨visited, mem_of_getLast? last⟩)
      (fun callee member => (directCallees_ok found).mp member) noted folding
    obtain ⟨new, order, added⟩ := inner.added
    have unvisited : function ∉ visited.order := by
      rw [order, mem_append]
      rintro (member | member)
      · exact unlisted member
      · exact (added function member).1 (by simp)
    have callees_noted : visited.calleesOf function = callees := by
      rw [inner.kept function (by simp)]
      simp [CallGraph.calleesOf, Assoc.find?_insert]
    have appended := inner.charts.append unvisited (by rw [callees_noted, found])
      fun callee calls => listed callee ((directCallees_ok found).mpr calls)
    refine ⟨⟨appended, fun other member => ?_, new ++ [function], ?_, fun other member => ?_⟩, ?_⟩
    · have differ : other ≠ function := fun same => fresh (same ▸ member)
      have kept := inner.kept other (mem_cons_of_mem function member)
      simpa [CallGraph.calleesOf, Assoc.find?_insert, differ] using kept
    · simp [order]
    · rcases mem_append.mp member with member | member
      · obtain ⟨away, reaches⟩ := added other member
        exact ⟨fun along => away (mem_cons_of_mem function along), reaches⟩
      · obtain rfl := mem_singleton.mp member
        exact ⟨fresh, .refl⟩
    · simp

theorem callGraph_ok {entry : Id} (found : program.callGraph entry = .ok graph) :
    graph.Charts program ∧ graph.order.getLast? = some entry ∧
      ∀ function, function ∈ graph.order ↔ program.Reaches entry function := by
  have start : Charts {} program := ⟨by simp, by simp, by simp⟩
  obtain ⟨visited, last⟩ := visitCalls_visited (by simp) (by simp) start found
  refine ⟨visited.charts, last, fun function => ⟨fun listed => ?_, fun reaches => ?_⟩⟩
  · obtain ⟨new, order, added⟩ := visited.added
    rw [order] at listed
    exact (added function (by simpa using listed)).2
  · exact visited.charts.reaches (mem_of_getLast? last) reaches

end Program

end SpirvMetal
