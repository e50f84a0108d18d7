import SpirvMetal.Metal.Globals
import SpirvMetal.Proofs.Threading.CallGraph

/-!
Which variables functions need. One sweep over the order of the call graph finds, for every
function, what it and everything that it reaches refers to.
-/

namespace SpirvMetal

open List
open Spirv (StorageClass)

variable {α : Type} {step : α → Except Fault Bool} {items kept : List α}

theorem mem_filterAuxM_ok {found : List α} (done : items.filterAuxM step found = .ok kept) {x : α} :
    x ∈ kept ↔ x ∈ items ∧ step x = .ok true ∨ x ∈ found := by
  induction items generalizing found with
  | nil =>
    cases done
    simp
  | cons first rest ih =>
    obtain ⟨accepted, tested, done⟩ := Except.bind_ok.mp done
    rw [ih done]
    cases accepted <;> grind

theorem mem_filterM_ok (done : items.filterM step = .ok kept) {x : α} :
    x ∈ kept ↔ x ∈ items ∧ step x = .ok true := by
  obtain ⟨collected, collecting, done⟩ := Except.bind_ok.mp done
  cases done
  simp [mem_filterAuxM_ok collecting]

theorem filterM_sublist (done : items.filterM step = .ok kept) : kept.Sublist items := by
  have collect {items found kept : List α} (done : items.filterAuxM step found = .ok kept) :
      kept.Sublist (items.reverse ++ found) := by
    induction items generalizing found with
    | nil =>
      cases done
      exact .refl _
    | cons first rest ih =>
      obtain ⟨accepted, _, done⟩ := Except.bind_ok.mp done
      rw [reverse_cons, append_assoc, singleton_append]
      refine (ih done).trans (List.Sublist.append_left ?_ rest.reverse)
      cases accepted
      · exact sublist_cons_self first found
      · exact .refl _
  obtain ⟨collected, collecting, done⟩ := Except.bind_ok.mp done
  cases done
  have gathered := (collect collecting).reverse
  rwa [append_nil, reverse_reverse] at gathered

namespace Compiler

variable {c : Compiler}
variable {list threaded : List Id} {id function : Id}

theorem mem_insertId {other : Id} :
    other ∈ insertId list id ↔ other = id ∨ other ∈ list := mem_insertAscending

theorem pairwise_insertId {list : List Nat} {id : Nat} (ascending : list.Pairwise (· < ·)) :
    List.Pairwise (· < ·) (insertId list id : List Nat) := by
  unfold insertId
  induction list with
  | nil => simp [insertAscending]
  | cons first rest ih =>
    obtain ⟨below, later⟩ := pairwise_cons.mp ascending
    simp only [insertAscending, decide_eq_true_eq]
    split
    · exact ascending
    · rename_i differ
      split
      · rename_i before
        refine pairwise_cons.mpr ⟨fun other member => ?_, ascending⟩
        rcases mem_cons.mp member with rfl | member
        · exact before
        · exact Nat.lt_trans before (below other member)
      · rename_i behind
        refine pairwise_cons.mpr ⟨fun other member => ?_, ih later⟩
        rcases mem_insertAscending.mp member with rfl | member
        · exact Nat.lt_of_le_of_ne (Nat.le_of_not_lt behind) (Ne.symm differ)
        · exact below other member

theorem mem_foldl_insertId {news : List Id} :
    id ∈ news.foldl insertId list ↔ id ∈ news ∨ id ∈ list := by
  induction news generalizing list with
  | nil => simp
  | cons first rest ih =>
    rw [foldl_cons, ih, mem_insertId, mem_cons]
    grind

theorem pairwise_foldl_insertId {news list : List Nat} (ascending : list.Pairwise (· < ·)) :
    List.Pairwise (· < ·) (news.foldl insertId list : List Nat) := by
  induction news generalizing list with
  | nil => exact ascending
  | cons first rest ih => exact ih (pairwise_insertId ascending)

/-- Stage variables and resources, and what the entry point holds on behalf of the module. -/
def IsThreaded (c : Compiler) (id : Id) : Prop :=
  (∃ var, (id, var) ∈ c.program.vars ∧ var.storage ∈ [StorageClass.input, .output, .uniform,
    .uniformConstant, .pushConstant, .storageBuffer]) ∨
  ∃ entry var, c.program.functionAt? c.plan.entry = some entry ∧ id ∈ entry.locals ∧
    c.program.variableAt? id = some var ∧ var.storage ≠ .function

/-- A function refers to a variable, or needs the coordinate of the fragment. -/
def Uses (c : Compiler) (function id : Id) : Prop :=
  ∃ found inst, c.program.functionAt? function = some found ∧ inst ∈ found.instructions ∧
    (id ∈ inst.references ∧ c.IsThreaded id ∨
      c.readsSubpass inst = true ∧ c.plan.builtinInputs.find? .fragCoord = some id)

theorem threadedVariables_ok (found : c.threadedVariables = .ok threaded) :
    id ∈ threaded ↔ c.IsThreaded id := by
  simp only [threadedVariables, Except.bind_ok] at found
  obtain ⟨entry, getting, locals, filtering, found⟩ := found
  cases found
  have stored := Program.getFunction_ok.mp getting
  have storages (storage : StorageClass) : storage.isThreaded = true ↔
      storage ∈ [StorageClass.input, .output, .uniform, .uniformConstant, .pushConstant,
        .storageBuffer] := by
    cases storage <;> simp [StorageClass.isThreaded]
  have kept : id ∈ locals ↔ id ∈ entry.locals ∧
      ∃ var, c.program.variableAt? id = some var ∧ var.storage ≠ .function := by
    rw [mem_filterM_ok filtering]
    simp [Except.bind_ok, Program.getVariable_ok, pure, Except.pure]
  simp only [mem_append, kept, mem_map, mem_filter, storages, Prod.exists,
    IsThreaded, stored]
  grind

theorem mem_foldl_uses {instructions : List Instruction} {found : List Id} : id ∈ instructions.foldl
        (fun uses inst =>
          let uses := (inst.references.filter (· ∈ threaded)).foldl insertId uses
          if c.readsSubpass inst then
            (c.plan.builtinInputs.find? .fragCoord).toList.foldl insertId uses
          else uses) found ↔
      (∃ inst ∈ instructions, id ∈ inst.references ∧ id ∈ threaded ∨
        c.readsSubpass inst = true ∧ c.plan.builtinInputs.find? .fragCoord = some id) ∨
      id ∈ found := by
  induction instructions generalizing found with
  | nil => simp
  | cons first rest ih =>
    rw [foldl_cons, ih]
    have referred : id ∈ (first.references.filter (· ∈ threaded)).foldl insertId found ↔
        id ∈ first.references ∧ id ∈ threaded ∨ id ∈ found := by
      simp [mem_foldl_insertId]
    dsimp only
    split
    · rename_i reads
      rw [mem_foldl_insertId, referred, Option.mem_toList]
      grind
    · rename_i plain
      rw [referred]
      grind

theorem mem_directUses {function : Function} : id ∈ c.directUses threaded function ↔
      ∃ inst ∈ function.instructions, id ∈ inst.references ∧ id ∈ threaded ∨
        c.readsSubpass inst = true ∧ c.plan.builtinInputs.find? .fragCoord = some id := by
  unfold directUses
  rw [mem_foldl_uses]
  simp

theorem pairwise_directUses (c : Compiler) (threaded : List Id) (function : Function) :
    List.Pairwise (· < ·) (c.directUses threaded function : List Nat) := by
  unfold directUses
  refine List.foldlRecOn _ _ .nil fun uses ascending inst _ => ?_
  have referred : List.Pairwise (· < ·)
      ((inst.references.filter (· ∈ threaded)).foldl insertId uses : List Nat) :=
    pairwise_foldl_insertId ascending
  dsimp only
  split
  · exact pairwise_foldl_insertId referred
  · exact referred

def Needs (c : Compiler) (function id : Id) : Prop :=
  ∃ other, c.program.Reaches function other ∧ c.Uses other id

theorem needs_iff : c.Needs function id ↔
      c.Uses function id ∨ ∃ callee, c.program.Calls function callee ∧ c.Needs callee id := by
  constructor
  · rintro ⟨other, reaches, uses⟩
    rcases reaches.cases_head with rfl | ⟨callee, calls, reaches⟩
    · exact .inl uses
    · exact .inr ⟨callee, calls, other, reaches, uses⟩
  · rintro (uses | ⟨callee, calls, other, reaches, uses⟩)
    · exact ⟨function, .refl, uses⟩
    · exact ⟨other, .head calls reaches, uses⟩

/-- The list of what a function needs, in ascending order. -/
def Lists (c : Compiler) (known : IdMap (List Id)) (function : Id) : Prop :=
  ∃ ids : List Nat, known.find? function = some ids ∧ ids.Pairwise (· < ·) ∧
    ∀ id, id ∈ ids ↔ c.Needs function id

theorem mem_directUses_iff {found : Function} (candidates : ∀ id, id ∈ threaded ↔ c.IsThreaded id)
    (stored : c.program.functionAt? function = some found) :
    id ∈ c.directUses threaded found ↔ c.Uses function id := by
  rw [mem_directUses]
  constructor
  · rintro ⟨inst, member, uses⟩
    exact ⟨found, inst, stored, member, by rwa [candidates] at uses⟩
  · rintro ⟨_, inst, same, member, uses⟩
    obtain rfl := Option.some.inj (stored.symm.trans same)
    exact ⟨inst, member, by rwa [candidates]⟩

theorem mem_inherited {known : IdMap (List Id)}
    (noted : c.program.directCallees function = .ok (c.plan.callGraph.calleesOf function))
    (listed : ∀ callee, c.program.Calls function callee → c.Lists known callee) :
    id ∈ (c.plan.callGraph.calleesOf function).flatMap
        (fun callee => (known.find? callee).getD []) ↔
      ∃ callee, c.program.Calls function callee ∧ c.Needs callee id := by
  rw [mem_flatMap]
  refine exists_congr fun callee => ?_
  rw [Program.directCallees_ok noted]
  refine and_congr_right fun calls => ?_
  obtain ⟨ids, found, _, members⟩ := listed callee calls
  rw [found]
  exact members id

theorem uses_lists {known result : IdMap (List Id)} {done rest : List Id}
    (candidates : ∀ id, id ∈ threaded ↔ c.IsThreaded id)
    (charts : c.plan.callGraph.Charts c.program) (order : c.plan.callGraph.order = done ++ rest)
    (listed : ∀ function ∈ done, c.Lists known function)
    (swept : c.uses threaded rest known = .ok result) :
    ∀ function ∈ done ++ rest, c.Lists result function := by
  -- `known` lists the functions of `done`, where all callees of the next function are
  induction rest generalizing done known with
  | nil =>
    cases swept
    simpa using listed
  | cons function rest ih =>
    simp only [uses, Except.bind_ok] at swept
    obtain ⟨found, getting, swept⟩ := swept
    have stored := Program.getFunction_ok.mp getting
    have noted := charts.noted function (by simp [order])
    have unlisted : function ∉ done := by
      have nodup := charts.nodup
      rw [order, nodup_append] at nodup
      exact fun member => nodup.2.2 function member function (by simp) rfl
    have called (callee : Id) (calls : c.program.Calls function callee) : c.Lists known callee :=
      listed callee (charts.first done function rest order callee calls)
    rw [append_cons]
    refine ih (by simpa using order) (fun other member => ?_) swept
    rcases mem_append.mp member with member | member
    · have differ : other ≠ function := fun same => unlisted (same ▸ member)
      obtain ⟨ids, recorded, ascending, members⟩ := listed other member
      exact ⟨ids, by rwa [Assoc.find?_insert, if_neg differ], ascending, members⟩
    · obtain rfl := mem_singleton.mp member
      refine ⟨_, by rw [Assoc.find?_insert, if_pos rfl],
        pairwise_foldl_insertId (pairwise_directUses ..), fun id => ?_⟩
      rw [mem_foldl_insertId, mem_inherited noted called, mem_directUses_iff candidates stored,
        or_comm, ← needs_iff]

end Compiler

end SpirvMetal
