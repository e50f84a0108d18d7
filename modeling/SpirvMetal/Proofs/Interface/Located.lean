import Mathlib.Algebra.GroupWithZero.Nat
import SpirvMetal.Proofs.Interface.Aligned

/-!
Locations of the members of a block. Where a member starts and how its parts are numbered is
counted apart; both counts agree, so there are no gaps.
-/

namespace SpirvMetal

open List
open Spirv (StorageClass)

/-- A type whose parts are numbers: a scalar, a vector, a matrix, or an array of scalars or vectors
that is not empty. -/
def Program.Flat (program : Program) (type : ValueType) : Prop :=
  type.dimensions = [] ∧ 1 ≤ type.columns ∨
    type.dimensions.length = 1 ∧ type.columns = 1 ∧ 1 ≤ program.partCount type

theorem Program.Flat.locationCount {program : Program} {type : ValueType}
    (flat : program.Flat type) : program.locationCount type = program.partCount type := by
  unfold Program.locationCount Program.elementCount
  rcases flat with ⟨none, -⟩ | ⟨one, columns, filled⟩
  · simp [none, Program.partCount]
  · obtain ⟨dimension, one⟩ := length_eq_one_iff.mp one
    rw [Program.partCount, one] at filled
    simp [one, columns, Program.partCount, Nat.max_eq_left filled]

namespace Emit

variable {c c' : Compiler} {storage : StorageClass} {var struct index type : Nat}
  {planned : List PlannedMember} {found block : ValueType} {types : List ValueType}

/-- A block with a location whose members carry none, and are no builtins. -/
structure Unnumbered (program : Program) (var struct : Id) (types : List ValueType) : Prop where
  located : program.hasDecoration var .location = true
  members : ∀ index < types.length, program.memberBuiltin? struct index = none ∧
    program.hasMemberDecoration struct index .location = false
  flat : ∀ type ∈ types, program.Flat type

theorem memberLocation_eq (typed : c.program.getType struct = .ok block)
    (members : block.members.mapM c.program.getType = .ok types)
    (unnumbered : Unnumbered c.program var struct types) (index : Nat) :
    c.program.memberLocation var struct index =
      .ok (c.program.getDecoration var .location +
        ((types.take index).map c.program.partCount).sum) := by
  have counts {ids : List Id} {types : List ValueType} (start location : Nat)
      (typed : List.Forall₂ (c.program.getType · = .ok ·) ids types)
      (flat : ∀ type ∈ types, c.program.Flat type)
      (unlocated : ∀ index < types.length,
        c.program.hasMemberDecoration struct (start + index) .location = false) :
      (ids.zipIdx start).foldlM (fun location entry => do
          let start :=
            if c.program.hasMemberDecoration struct entry.2 .location then
              c.program.getMemberDecoration struct entry.2 .location
            else location
          return start + c.program.locationCount (← c.program.getType entry.1)) location =
        (.ok (location + (types.map c.program.partCount).sum) : Except Fault Nat) := by
    induction typed generalizing start location with
    | nil => rfl
    | @cons id found ids types typed _ ih =>
      have here : c.program.hasMemberDecoration struct start .location = false :=
        unlocated 0 (Nat.succ_pos _)
      have rest := ih (start + 1) (location + c.program.partCount found)
        (fun type listed => flat type (mem_cons_of_mem _ listed)) fun index short => by
          have next := unlocated (index + 1) (Nat.succ_lt_succ short)
          rwa [Nat.add_comm index, ← Nat.add_assoc] at next
      rw [zipIdx_cons, foldlM_cons]
      rw [map_cons, sum_cons, ← Nat.add_assoc]
      refine Except.bind_ok.mpr ⟨_, ?_, rest⟩
      simp [typed, here, (flat _ mem_cons_self).locationCount, bind, Except.bind, pure,
        Except.pure]
  rw [Program.memberLocation, typed]
  refine counts 0 _ (forall₂_take index (Except.mapM_ok.mp members))
    (fun type listed => unnumbered.flat type (mem_of_mem_take listed)) fun index short => ?_
  rw [Nat.zero_add]
  rw [length_take] at short
  exact (unnumbered.members index (Nat.lt_of_lt_of_le short (Nat.min_le_right ..))).2

theorem parts_location? {split : Split} {indices : List Nat}
    (kept : ∀ d, (split.decorate d).location? = d.location?)
    (parts : List.Forall₂ (IsPart split) indices planned) :
    planned.map (·.decorations.location?) =
      indices.map fun index => split.location.map (· + index) := by
  induction parts with
  | nil => rfl
  | cons part _ ih =>
    rw [map_cons, map_cons, ih, part.decorations, kept, Decorations.location?_located]

theorem planStructMember_located (plain : c.program.memberBuiltin? struct index = none)
    (located : c.program.hasDecoration var .location = true)
    (unlocated : c.program.hasMemberDecoration struct index .location = false)
    (typed : c.program.getType type = .ok found)
    (done : planStructMember storage var struct index type c = .ok planned c') :
    ∃ first count, c.program.memberLocation var struct index = .ok first ∧
      planned.map (·.decorations.location?) = (List.range' first count).map some ∧
      (if found.isMatrix || found.isArray then partCount found c = .ok count c else count = 1) := by
  have interpolated (d : Decorations) : ((d.inheritInterpolation (c.program.decorations var)
      ).inheritInterpolation (c.program.memberDecorations struct index)).location? =
        d.location? := by
    rw [Decorations.location?_inheritInterpolation, Decorations.location?_inheritInterpolation]
  unfold planStructMember at done
  replace done := get_bind.mp done
  have own : (c.program.decorations var).has .location = true := located
  have memberOwn : (c.program.memberDecorations struct index).has .location = false := unlocated
  simp only [plain, Option.all_none, Bool.not_true, Bool.false_eq_true, if_false, own, memberOwn,
    if_true, Option.isNone_none, Bool.true_and, pure_bind] at done
  replace done := (lift_known typed).mp done
  obtain ⟨first, starts, done⟩ := lift_bind.mp done
  split at done
  · rename_i composite
    obtain ⟨count, _, counting, done⟩ := bind_ok.mp done
    obtain ⟨rfl, -⟩ := partCount_ok counting
    refine ⟨first, count, starts, ?_, by rwa [if_pos composite]⟩
    split at done
    · obtain ⟨_, _, failing, -⟩ := bind_ok.mp done
      exact (fail_ok failing).elim
    · obtain ⟨element, -, done⟩ := lift_bind.mp done
      have parts := (Yields.mapM fun index => planPart_yields storage _ index).of_run done
      rw [parts_location? interpolated parts, List.range'_eq_map_range, map_map]
      rfl
  · rename_i whole
    refine ⟨first, 1, starts, ?_, by rw [if_neg whole]⟩
    obtain ⟨_, _, -, done⟩ := bind_ok.mp done
    obtain ⟨⟨_, d⟩, _, locating, done⟩ := bind_ok.mp done
    obtain ⟨rfl, -⟩ := pure_ok.mp done
    have placed : d.location? = some first :=
      (congrArg _ ((locate_yields ..).of_run locating)).trans (Decorations.location?_located ..)
    simp [interpolated, Decorations.location?_setIf, placed]

theorem planStructMember_count (flat : c.program.Flat found) {count : Nat}
    (counted : if found.isMatrix || found.isArray then partCount found c = .ok count c
      else count = 1) : count = c.program.partCount found := by
  unfold Program.partCount
  split at counted
  · obtain ⟨-, ⟨none, rfl⟩ | ⟨dimension, one, rfl⟩⟩ := partCount_ok counted
    · rw [none]
    · rw [one]
  · rename_i whole
    simp only [ValueType.isMatrix, ValueType.isArray, Bool.or_eq_true, Bool.and_eq_true,
      decide_eq_true_eq, Bool.not_not, Bool.not_eq_true', not_or] at whole
    rcases flat with ⟨none, columns⟩ | ⟨one, -⟩
    · simp only [none, isEmpty_nil, and_true] at whole
      simp only [none, counted]
      omega
    · simp [isEmpty_iff.mp (Bool.eq_true_of_not_eq_false whole.2)] at one

theorem Unnumbered.of_plans (bounded : c.program.Bounded) (plans : c.Plans c')
    (unnumbered : Unnumbered c.program var struct types) :
    Unnumbered c'.program var struct types where
  located := by
    rw [Program.hasDecoration, decorations_planned plans]
    exact unnumbered.located
  members index short := by
    have same : c'.program.memberDecorations struct index =
        c.program.memberDecorations struct index := by
      simp only [Program.memberDecorations, Program.memberDecorations?, Program.notes?, plans.notes]
    rw [Program.memberBuiltin?, Program.hasMemberDecoration, same]
    exact unnumbered.members index short
  flat type listed := by
    simp only [Program.Flat, Program.partCount, (plans.addsTypes bounded).dimensionLength_eq]
    exact unnumbered.flat type listed

theorem flatten_ranges (count : ValueType → Nat) (types : List ValueType) (start base : Nat)
    (first : Nat → Nat)
    (starts : ∀ index, first (start + index) = base + ((types.take index).map count).sum) :
    ((types.zipIdx start).map fun entry => List.range' (first entry.2) (count entry.1)).flatten =
      List.range' base (types.map count).sum := by
  induction types generalizing start base with
  | nil => rfl
  | cons type rest ih =>
    have here : first start = base := starts 0
    have later := ih (start + 1) (base + count type) fun index => by
      have next := starts (index + 1)
      rw [Nat.add_comm index, ← Nat.add_assoc] at next
      simpa [Nat.add_comm 1, Nat.add_assoc] using next
    rw [zipIdx_cons, map_cons, flatten_cons, later, here, map_cons,
      sum_cons, List.range'_append_1]

theorem member_locations {middle : Compiler} {id : Id} (bounded : c.program.Bounded)
    (plans : c.Plans middle)
    (typed : c.program.getType struct = .ok block)
    (members : block.members.mapM c.program.getType = .ok types)
    (unnumbered : Unnumbered c.program var struct types) (short : index < types.length)
    (found : c.program.getType id = .ok types[index])
    (run : planStructMember storage var struct index id middle = .ok planned c') :
    planned.map (·.decorations.location?) =
      (List.range' (c.program.getDecoration var .location +
          ((types.take index).map c.program.partCount).sum)
        (c.program.partCount types[index])).map some := by
  have stored {id : Id} {type : ValueType} (found : c.program.getType id = .ok type) :
      middle.program.getType id = .ok type := by
    have found := Program.getType_ok.mp found
    have below := (bounded.type_below found).1
    exact Program.getType_ok.mpr ((plans.program.typeAt?_eq below).trans found)
  have counts : middle.program.partCount = c.program.partCount := by
    funext type
    simp only [Program.partCount, (plans.addsTypes bounded).dimensionLength_eq]
  have starts : middle.program.getDecoration var .location =
      c.program.getDecoration var .location := by
    rw [Program.getDecoration, decorations_planned plans, Program.getDecoration]
  have unnumbered := unnumbered.of_plans bounded plans
  have still : block.members.mapM middle.program.getType = .ok types :=
    Except.mapM_ok.mpr ((Except.mapM_ok.mp members).imp fun _ _ => stored)
  obtain ⟨plain, unlocated⟩ := unnumbered.members index short
  obtain ⟨first, count, begins, located, counted⟩ :=
    planStructMember_located plain unnumbered.located unlocated (stored found) run
  rw [memberLocation_eq (stored typed) still unnumbered, counts, starts] at begins
  have flat := unnumbered.flat _ (getElem_mem short)
  rw [located, ← Except.ok.inj begins, planStructMember_count flat counted, counts]

/-- The leaves of a block follow one another, from the location of the block on. -/
theorem planned_locations_consecutive {data : Id} {types : List ValueType}
    {stage block : ValueType} (bounded : c.program.Bounded)
    (typed : c.program.dataType var = .ok (data, stage)) (holds : stage.isStruct = true)
    (active : (c.program.builtin? var).all (c.plan.activeBuiltins.isActive · storage) = true)
    (found : c.program.getType stage.baseId = .ok block)
    (members : block.members.mapM c.program.getType = .ok types)
    (unnumbered : Unnumbered c.program var stage.baseId types)
    (done : planVariable storage var c = .ok planned c') :
    planned.map (·.decorations.location?) =
      (List.range' (c.program.getDecoration var .location)
        (types.map c.program.partCount).sum).map some := by
  unfold planVariable at done
  replace done := get_bind.mp done
  replace done := (lift_known typed).mp done
  simp only [active, Bool.not_true, Bool.false_eq_true, if_false, holds, if_true] at done
  replace done := (lift_known found).mp done
  obtain ⟨lists, _, planning, done⟩ := bind_ok.mp done
  obtain ⟨rfl, -⟩ := pure_ok.mp done
  have each : List.Forall₂ (fun entry part => ∃ middle, c.Plans middle ∧ middle.Plans _ ∧
      ∃ after, planStructMember storage var stage.baseId entry.2 entry.1 middle = .ok part after)
      block.members.zipIdx lists :=
    mapM_ok_of_always (fun entry _ {_ _ _} run => ⟨_, run⟩) planning
  have read := Except.mapM_ok.mp members
  have size : types.length = lists.length := by
    rw [← read.length_eq, ← each.length_eq, List.length_zipIdx]
  have ranges : lists.map (·.map (·.decorations.location?)) = types.zipIdx.map fun entry =>
      (List.range' (c.program.getDecoration var .location +
        ((types.take entry.2).map c.program.partCount).sum) (c.program.partCount entry.1)).map
          some := by
    refine List.ext_getElem (by simp [size]) fun index short long => ?_
    rw [List.length_map] at short long
    rw [List.length_zipIdx] at long
    obtain ⟨middle, plans, -, after, run⟩ := each.get (by rwa [each.length_eq]) short
    have listed := read.get (by rwa [read.length_eq]) long
    simp only [List.get_eq_getElem, List.getElem_zipIdx, Nat.zero_add] at run listed
    simpa using member_locations bounded plans found members unnumbered long listed run
  have flat : lists.flatten.map (·.decorations.location?) =
      (lists.map (·.map (·.decorations.location?))).flatten := by
    rw [List.map_flatten]
  rw [flat, ranges, ← flatten_ranges c.program.partCount types 0 _ _ (fun index => by
    rw [Nat.zero_add]), List.map_flatten, List.map_map]
  rfl

/-- A vertex shader that reads a block at location 2, which holds a number, a matrix of two columns
and an array of three. -/
def mixedBlock : Spirv.Module where
  entryPoints := [.entry .vertex 10 [9]]
  annotations := [⟨.decorate, none, none, [.idRef 9, .decoration .location, .literal 2]⟩]
  globals := [⟨.typeFloat, none, some 1, [.literal 32]⟩,
    ⟨.typeVector, none, some 2, [.idRef 1, .literal 2]⟩,
    ⟨.typeMatrix, none, some 3, [.idRef 2, .literal 2]⟩,
    ⟨.typeInt, none, some 4, [.literal 32, .literal 0]⟩,
    ⟨.constant, some 4, some 5, [.literal 3]⟩,
    ⟨.typeArray, none, some 6, [.idRef 1, .idRef 5]⟩,
    ⟨.typeStruct, none, some 7, [.idRef 1, .idRef 3, .idRef 6]⟩, .pointer 8 .input 7,
    .variable 9 8 .input, ⟨.typeVoid, none, some 11, []⟩,
    ⟨.typeFunction, none, some 12, [.idRef 11]⟩]
  functions := [.ofBody 11 10 12 13 [⟨.load, some 7, some 14, [.idRef 9]⟩]]

theorem planned_locations_consecutive_mixedBlock : ∃ program planned c',
    Program.ofModule mixedBlock = .ok program ∧
      planVariable .input 9 (Compiler.new program {}) = .ok planned c' ∧
      planned.map (·.decorations.location?) = [2, 3, 4, 5, 6, 7].map some := by
  have computed : Except.passes (Program.ofModule mixedBlock) (fun program =>
      Except.passes (program.dataType 9) fun typed =>
      Except.passes (program.getType typed.2.baseId) fun block =>
      Except.passes (block.members.mapM program.getType) fun types =>
      runPasses (planVariable .input 9 (Compiler.new program {})) fun _ _ =>
        typed.2.isStruct = true ∧ program.builtin? 9 = none ∧
        program.hasDecoration 9 .location = true ∧
        (∀ index < types.length, program.memberBuiltin? typed.2.baseId index = none ∧
          program.hasMemberDecoration typed.2.baseId index .location = false) ∧
        (∀ type ∈ types, type.dimensions = [] ∧ 1 ≤ type.columns ∨
          type.dimensions.length = 1 ∧ type.columns = 1 ∧ 1 ≤ program.partCount type) ∧
        program.getDecoration 9 .location = 2 ∧
        (types.map program.partCount).sum = 6) = true := by
    decide +kernel
  obtain ⟨program, loaded, computed⟩ := Except.of_passes computed
  obtain ⟨typed, reading, computed⟩ := Except.of_passes computed
  obtain ⟨block, found, computed⟩ := Except.of_passes computed
  obtain ⟨types, members, computed⟩ := Except.of_passes computed
  obtain ⟨planned, c', done, computed⟩ := of_runPasses computed
  obtain ⟨holds, plain, located, each, flat, first, count⟩ := of_decide_eq_true computed
  have active : (program.builtin? 9).all
      ((Compiler.new program {}).plan.activeBuiltins.isActive · .input) = true := by
    rw [plain]
    rfl
  refine ⟨program, planned, c', loaded, done, ?_⟩
  rw [planned_locations_consecutive (Program.ofModule_bounded loaded) reading holds active found
    members ⟨located, each, flat⟩ done]
  have shown : (List.range' (program.getDecoration 9 .location)
      (types.map program.partCount).sum).map some = [2, 3, 4, 5, 6, 7].map some := by
    rw [first, count]
    rfl
  exact shown

end Emit

end SpirvMetal
