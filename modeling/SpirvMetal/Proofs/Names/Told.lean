import Mathlib.Data.List.Induction
import Mathlib.Data.List.Nodup
import SpirvMetal.Proofs.Repeat.Names
import SpirvMetal.Proofs.Store.Texts

/-!
How a function tells the names of its parameters and locals apart. One whose name was taken by an
earlier one gets its id appended.
-/

namespace SpirvMetal

open Program
open List

namespace Program

variable {program after : Program} {seen : List String} {ids : List Id} {id other : Id}

def longerName (program : Program) (id : Id) : String := s!"{program.name id}_{id}"

/-- The names that ids get one after the other, where some names have been seen before. -/
def toldNames (program : Program) (seen : List String) : List Id → List String
  | [] => []
  | id :: rest =>
    let told := if program.name id ∈ seen then program.longerName id else program.name id
    told :: program.toldNames (told :: seen) rest

theorem longerName_injective (same : program.longerName id = program.longerName other) :
    id = other := eq_of_append_number same

theorem toldNames_congr (same : ∀ id ∈ ids, after.name id = program.name id) :
    after.toldNames seen ids = program.toldNames seen ids := by
  induction ids generalizing seen with
  | nil => rfl
  | cons id rest ih =>
    have here := same id (by simp)
    simp only [toldNames, longerName, here, ih fun other listed => same other (by simp [listed])]

theorem toldNames_append (seen : List String) (ids more : List Id) :
    program.toldNames seen (ids ++ more) = program.toldNames seen ids ++
        program.toldNames ((program.toldNames seen ids).reverse ++ seen) more := by
  induction ids generalizing seen with
  | nil => rfl
  | cons id rest ih => simp [toldNames, ih]

theorem toldNames_concat (ids : List Id) (id : Id) :
    program.toldNames [] (ids ++ [id]) = program.toldNames [] ids ++
      [if program.name id ∈ program.toldNames [] ids then program.longerName id
        else program.name id] := by
  rw [toldNames_append]
  simp [toldNames]

theorem mem_toldNames {name : String} (told : name ∈ program.toldNames seen ids) :
    ∃ id ∈ ids, name = program.name id ∨ name = program.longerName id := by
  induction ids generalizing seen with
  | nil => cases told
  | cons id rest ih =>
    rw [toldNames, mem_cons] at told
    rcases told with rfl | told
    · refine ⟨id, by simp, ?_⟩
      split
      · exact .inr rfl
      · exact .inl rfl
    · obtain ⟨other, listed, which⟩ := ih told
      exact ⟨other, by simp [listed], which⟩

theorem name_mem_toldNames (listed : id ∈ ids) :
    program.name id ∈ seen ∨ program.name id ∈ program.toldNames seen ids := by
  induction ids generalizing seen with
  | nil => cases listed
  | cons first rest ih =>
    rw [toldNames]
    rcases mem_cons.mp listed with rfl | listed
    · by_cases taken : program.name id ∈ seen
      · exact .inl taken
      · simp [taken]
    · rcases ih listed with known | told
      · rcases mem_cons.mp known with same | known
        · exact .inr (mem_cons.mpr (.inl same))
        · exact .inl known
      · exact .inr (mem_cons_of_mem _ told)

/-- No id whose name is taken gets the name that an earlier one had. -/
def LengthensApart (program : Program) (ids : List Id) : Prop :=
  ∀ earlier id later, ids = earlier ++ id :: later →
    program.name id ∈ program.toldNames [] earlier →
      program.longerName id ∉ earlier.map program.name

theorem lengthensApart_concat : program.LengthensApart (ids ++ [id]) ↔ program.LengthensApart ids ∧
      (program.name id ∈ program.toldNames [] ids →
        program.longerName id ∉ ids.map program.name) := by
  constructor
  · intro apart
    refine ⟨fun earlier other later split => ?_, apart ids id [] rfl⟩
    exact apart earlier other (later ++ [id]) (by simp [split])
  · rintro ⟨apart, last⟩ earlier other later split
    rcases eq_nil_or_concat later with rfl | ⟨later, final, rfl⟩
    · obtain ⟨rfl, same⟩ := append_inj_left' split rfl, append_inj_right' split rfl
      cases same
      exact last
    · rw [concat_eq_append, ← cons_append, ← append_assoc] at split
      exact apart earlier other later (append_inj_left' split rfl)

theorem longerName_mem_toldNames (new : id ∉ ids) :
    program.longerName id ∈ program.toldNames [] ids ↔
      program.longerName id ∈ ids.map program.name := by
  constructor
  · intro told
    obtain ⟨other, listed, same | same⟩ := mem_toldNames told
    · exact mem_map.mpr ⟨other, listed, same.symm⟩
    · rw [longerName_injective same] at new
      exact absurd listed new
  · intro known
    obtain ⟨other, listed, same⟩ := mem_map.mp known
    rw [← same]
    exact (name_mem_toldNames listed).resolve_left not_mem_nil

theorem toldNames_nodup_iff (distinct : ids.Nodup) :
    (program.toldNames [] ids).Nodup ↔ program.LengthensApart ids := by
  induction ids using List.reverseRecOn with
  | nil => simp [toldNames, LengthensApart]
  | append_singleton ids id ih =>
    rw [nodup_middle, append_nil, nodup_cons] at distinct
    obtain ⟨new, earlier⟩ := distinct
    rw [toldNames_concat, lengthensApart_concat, nodup_middle, append_nil,
      nodup_cons, ih earlier, ← longerName_mem_toldNames new, and_comm]
    refine and_congr_right fun _ => ?_
    by_cases taken : program.name id ∈ program.toldNames [] ids
    · simp [taken]
    · simp [taken]

theorem standIn?_setName (program : Program) (id other : Id) (name : String) :
    (program.setName id name).standIn? other = program.standIn? other := by
  unfold standIn? setName
  rw [decorations_modifyOwn]
  split
  · rename_i same
    rw [same]
  · rfl

theorem usesName_setName {program : Program} {id : Id} {name : String}
    (used : program.usesName id = true) (named : name.isEmpty = false) :
    (program.setName id name).usesName = program.usesName := by
  funext other
  rw [usesName, standIn?_setName, name_setName]
  split
  · rename_i same
    subst same
    simp only [usesName, Bool.not_or, Bool.and_eq_true] at used
    simp [usesName, named, used.1]
  · rfl

theorem longerName_isEmpty (program : Program) (id : Id) :
    (program.longerName id).isEmpty = false := by
  rw [String.isEmpty_eq_false_iff]
  intro empty
  have none := congrArg String.toList empty
  simp [longerName] at none

end Program

namespace Emit

variable {c c' : Compiler} {u : Unit} {seen seen' : List String} {ids : List Id} {id : Id}

theorem tellApart_ok (done : tellApart seen id c = .ok seen' c') :
    (c.program.usesName id = false ∧ seen' = seen ∧ c' = c) ∨
      c.program.usesName id = true ∧ c.program.name id ∉ seen ∧
        seen' = c.program.name id :: seen ∧ c' = c ∨
      c.program.usesName id = true ∧ c.program.name id ∈ seen ∧
        seen' = c.program.longerName id :: seen ∧
        c' = { c with program := c.program.setName id (c.program.longerName id) } := by
  replace done := get_bind.mp done
  dsimp only at done
  split at done
  · rename_i unused
    obtain ⟨rfl, rfl⟩ := pure_ok.mp done
    exact .inl ⟨by rw [Program.usesName, unused, Bool.not_true], rfl, rfl⟩
  · rename_i used
    have used : c.program.usesName id = true := by
      rw [Program.usesName, Bool.eq_false_iff.mpr used, Bool.not_false]
    split at done
    · rename_i taken
      replace done := modify_bind.mp done
      obtain ⟨rfl, rfl⟩ := pure_ok.mp done
      exact .inr (.inr ⟨used, taken, rfl, rfl⟩)
    · rename_i free
      obtain ⟨rfl, rfl⟩ := pure_ok.mp done
      exact .inr (.inl ⟨used, free, rfl, rfl⟩)

theorem tellApart_usesName (done : ids.foldlM tellApart seen c = .ok seen' c') :
    c'.program.usesName = c.program.usesName := by
  induction ids generalizing c seen with
  | nil =>
    obtain ⟨-, rfl⟩ := pure_ok.mp done
    rfl
  | cons id rest ih =>
    rw [foldlM_cons] at done
    obtain ⟨_, middle, first, done⟩ := bind_ok.mp done
    rw [ih done]
    rcases tellApart_ok first with ⟨_, _, rfl⟩ | ⟨_, _, _, rfl⟩ | ⟨used, _, _, rfl⟩
    · rfl
    · rfl
    · exact usesName_setName used (c.program.longerName_isEmpty id)

theorem tellApart_told (done : ids.foldlM tellApart seen c = .ok seen' c')
    (distinct : (ids.filter c.program.usesName).Nodup) :
    (ids.filter c.program.usesName).map c'.program.name =
      c.program.toldNames seen (ids.filter c.program.usesName) := by
  induction ids generalizing c seen with
  | nil => rfl
  | cons id rest ih =>
    rw [foldlM_cons] at done
    obtain ⟨_, middle, first, more⟩ := bind_ok.mp done
    cases used : c.program.usesName id with
    | false =>
      rw [filter_cons_of_neg (by simp [used])] at distinct ⊢
      rcases tellApart_ok first with ⟨_, rfl, rfl⟩ | ⟨names, _⟩ | ⟨names, _⟩
      · exact ih more distinct
      · simp [used] at names
      · simp [used] at names
    | true =>
      rw [filter_cons_of_pos used] at distinct ⊢
      obtain ⟨new, distinct⟩ := nodup_cons.mp distinct
      have fresh : id ∉ rest := fun listed => new (mem_filter.mpr ⟨listed, used⟩)
      -- the rest leaves the name as the first step gave it
      obtain ⟨program, rfl, _, longer⟩ := tellApart_all more fun _ listed => listed
      have kept : program.name id = middle.program.name id :=
        (longer id).resolve_right fun ⟨listed, _⟩ => fresh listed
      rw [map_cons, Program.toldNames]
      rcases tellApart_ok first with ⟨names, _⟩ | ⟨_, free, rfl, rfl⟩ | ⟨_, taken, rfl, rfl⟩
      · simp [used] at names
      · rw [if_neg free, kept, ih more distinct]
      · have same := usesName_setName used (c.program.longerName_isEmpty id)
        have others : ∀ other ∈ rest.filter c.program.usesName,
            (c.program.setName id (c.program.longerName id)).name other = c.program.name other := by
          intro other listed
          rw [name_setName, if_neg]
          rintro rfl
          exact new listed
        have later := ih more (same ▸ distinct)
        rw [same, toldNames_congr others] at later
        rw [if_pos taken, kept, later, name_setName, if_pos rfl]

theorem distinguish_ok {function : Function} (done : distinguish id c = .ok u c')
    (stored : c.program.getFunction id = .ok function) :
    ∃ seen, function.localIds.foldlM tellApart [] c = .ok seen c' := by
  rw [distinguish_eq] at done
  obtain ⟨_, found, done⟩ := read_bind.mp done
  rw [stored] at found
  cases found
  obtain ⟨seen, _, told, done⟩ := bind_ok.mp done
  obtain ⟨-, rfl⟩ := pure_ok.mp done
  exact ⟨seen, told⟩

/-- The parameters and locals that a function tells apart have different names in the end, exactly if
none of them is listed twice and no longer name is that of an earlier one. -/
theorem distinguish_told {function : Function} (done : distinguish id c = .ok u c')
    (stored : c.program.getFunction id = .ok function) :
    c'.program.usesName = c.program.usesName ∧
      (((function.localIds.filter c.program.usesName).map c'.program.name).Nodup ↔
        (function.localIds.filter c.program.usesName).Nodup ∧
          c.program.LengthensApart (function.localIds.filter c.program.usesName)) := by
  obtain ⟨seen, told⟩ := distinguish_ok done stored
  refine ⟨tellApart_usesName told, ?_⟩
  by_cases distinct : (function.localIds.filter c.program.usesName).Nodup
  · rw [tellApart_told told distinct, toldNames_nodup_iff distinct]
    simp [distinct]
  · simp only [distinct, false_and, iff_false]
    exact fun names => distinct (names.of_map _)

end Emit

end SpirvMetal
