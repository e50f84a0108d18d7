import SpirvMetal.Proofs.Calls.Positions
import SpirvMetal.Proofs.Flow.Assigned

/-!
The values that a listing reads: conditions, selectors, operands of phis and results. All of them
are words of the instructions in the blocks.
-/

namespace SpirvMetal

open Block
open List

variable {value : Id}

def Listing.operands : Listing → List Id
  | .seq first second => first.operands ++ second.operands
  | .assign _ value => [value]
  | .when condition _ inner => condition :: inner.operands
  | .branch condition _ inner other => condition :: (inner.operands ++ other.operands)
  | .loop body => body.operands
  | .switch selector arms => selector :: arms.operands
  | .arm _ _ body => body.operands
  | .ret value _ => value.toList
  | .skip | .block _ | .leave | .again | .discard => []

theorem mem_of_pairs {α : Type} {list : List α} {pair : α × α} (member : pair ∈ pairs list) :
    pair.1 ∈ list := by
  fun_induction pairs list with
  | case1 a b rest ih =>
    rcases mem_cons.mp member with rfl | member
    · simp
    · simp [ih member]
  | case2 => cases member

def IsWordOf (blocks : List Block) (word : Nat) : Prop :=
  ∃ block ∈ blocks, ∃ inst ∈ block.instructions, word ∈ inst.words

variable {block : Block} {phis : List Phi} {phi : Phi}

theorem Block.mem_phis (listed : block.phis = .ok phis) (member : phi ∈ phis) :
    ∃ inst ∈ block.instructions, Phi.ofInstruction inst = .ok phi := by
  have read := Except.mapM_ok.mp listed
  obtain ⟨index, inPhis, rfl⟩ := mem_iff_getElem.mp member
  have inBody : index < (block.body.filter (·.op = .phi)).length := by
    rwa [read.length_eq]
  refine ⟨_, ?_, read.get inBody inPhis⟩
  exact mem_of_mem_take (mem_of_mem_filter (get_mem _ ⟨index, inBody⟩))

variable {blocks : List Block}

theorem Phi.isWord (stands : block ∈ blocks) (listed : block.phis = .ok phis) (member : phi ∈ phis)
    {source : Id} (given : value ∈ phi.valuesFrom source) : IsWordOf blocks value := by
  obtain ⟨inst, inside, read⟩ := mem_phis listed member
  refine ⟨block, stands, inst, inside, ?_⟩
  unfold Phi.ofInstruction at read
  split at read
  · rename_i words
    cases read
    obtain ⟨pair, sourced, rfl⟩ := mem_map.mp given
    rw [words]
    simp [mem_of_pairs (mem_of_mem_filter sourced)]
  · cases read

def Ending.reads : Ending → List Id
  | .conditional condition _ _ => [condition]
  | .switch selector _ _ => [selector]
  | .ret value => value.toList
  | .branch _ | .kill | .unreachable => []

theorem Block.ending_isWord {ending : Ending} (stands : block ∈ blocks)
    (ends : block.ending? = some ending) (read : value ∈ ending.reads) : IsWordOf blocks value := by
  obtain ⟨inst, last, ends⟩ := Option.bind_eq_some_iff.mp ends
  refine ⟨block, stands, inst, mem_of_getLast? last, ?_⟩
  split at ends <;> cases ends <;> simp_all [Ending.reads]

namespace Structure

variable {program : Program} {blocks : List Block} {constructs : List Construct}
  {code front back : List Listing}
variable {source target : Id} {edgeMoves : List (Id × Id)}

def ReadsWords (blocks : List Block) (code : List Listing) : Prop :=
  ∀ statement ∈ code, ∀ value ∈ statement.operands, IsWordOf blocks value

theorem readsWords_nil : ReadsWords blocks [] := nofun

variable {statement : Listing}

theorem readsWords_cons (first : ∀ value ∈ statement.operands, IsWordOf blocks value)
    (rest : ReadsWords blocks code) :
    ReadsWords blocks (statement :: code) := forall_mem_cons.mpr ⟨first, rest⟩

theorem readsWords_append : ReadsWords blocks (front ++ back) ↔
    ReadsWords blocks front ∧ ReadsWords blocks back := forall_mem_append

theorem readsWords_parts (listing : Listing) :
    ReadsWords blocks listing.parts ↔ ∀ value ∈ listing.operands, IsWordOf blocks value := by
  induction listing with
  | seq first second ih ih' =>
    rw [Listing.parts, readsWords_append, ih, ih']
    exact forall_mem_append.symm
  | skip => simp [Listing.parts, ReadsWords, Listing.operands]
  | _ => simp [Listing.parts, ReadsWords]

theorem readsWords_assigns (moved : moves blocks source target = .ok edgeMoves) :
    ReadsWords blocks (assigns edgeMoves) := by
  intro statement member value read
  obtain ⟨move, made, rfl⟩ := mem_map.mp member
  obtain ⟨block, found, moved⟩ := Except.bind_ok.mp moved
  obtain ⟨phis, listed, _⟩ := Except.bind_ok.mp moved
  obtain ⟨phi, inPhis, _, given⟩ := (mem_movesFrom moved listed move).mp made
  obtain rfl := mem_singleton.mp read
  exact Phi.isWord (mem_of_findBlock found) listed inPhis given

theorem readsWords_edge (moved : moves blocks source target = .ok edgeMoves)
    (rest : ReadsWords blocks code) : ReadsWords blocks (assigns edgeMoves ++ code) :=
  readsWords_append.mpr ⟨readsWords_assigns moved, rest⟩

theorem readsWords_forks {condition : Id} {accepted rejected : List Listing} {bothMerge : Prop}
    (forks : Forks condition accepted rejected bothMerge statement)
    (decides : IsWordOf blocks condition) (accepts : ReadsWords blocks accepted)
    (rejects : ReadsWords blocks rejected) :
    ∀ value ∈ statement.operands, IsWordOf blocks value := by
  cases forks with
  | both _ acceptedParts rejectedParts =>
    rw [← acceptedParts, readsWords_parts] at accepts
    rw [← rejectedParts, readsWords_parts] at rejects
    exact forall_mem_cons.mpr ⟨decides, forall_mem_append.mpr ⟨accepts, rejects⟩⟩
  | swapped _ rejectedParts acceptedParts =>
    rw [← acceptedParts, readsWords_parts] at accepts
    rw [← rejectedParts, readsWords_parts] at rejects
    exact forall_mem_cons.mpr ⟨decides, forall_mem_append.mpr ⟨rejects, accepts⟩⟩
  | accepted acceptedParts _ =>
    rw [← acceptedParts, readsWords_parts] at accepts
    exact forall_mem_cons.mpr ⟨decides, accepts⟩
  | rejected _ rejectedParts _ =>
    rw [← rejectedParts, readsWords_parts] at rejects
    exact forall_mem_cons.mpr ⟨decides, rejects⟩

theorem readsWords_arms {label merge default : Id} {hasDefault : Bool} {arms : List Arm}
    (spells : List.Forall₂ (SpellsArm blocks label merge default hasDefault) arms code) :
    ReadsWords blocks code := by
  induction spells with
  | nil => exact readsWords_nil
  | cons spelled _ ih =>
    obtain ⟨body, edgeMoves, rfl, moved, parts⟩ := spelled
    refine readsWords_cons ((readsWords_parts body).mp ?_) ih
    rw [parts]
    refine readsWords_edge moved ?_
    split
    · exact readsWords_cons nofun readsWords_nil
    · exact readsWords_nil

def Part.StandsIn (blocks : List Block) : Part → Prop
  | .rest block => block ∈ blocks
  | .way _ | .chain _ | .iterationEnd _ => True

theorem Structured.readsWords {part : Part}
    (structured : Structured program blocks part constructs code)
    (stands : part.StandsIn blocks) : ReadsWords blocks code := by
  induction structured with
  | stop _ => exact readsWords_nil
  | leave _ => exact readsWords_cons nofun readsWords_nil
  | again _ => exact readsWords_cons nofun readsWords_nil
  | iteration _ _ ih => exact ih trivial
  | next _ _ ih => exact ih trivial
  | closing _ _ _ moved _ ih => exact readsWords_cons nofun (readsWords_edge moved (ih trivial))
  | closingEither found ending _ _ acceptedMoved rejectedMoved accepts rejects _ _ ih ih' =>
    refine readsWords_cons nofun (readsWords_cons ?_ readsWords_nil)
    exact readsWords_forks (.both not_false accepts rejects)
      (ending_isWord (mem_of_findBlock found) ending (by simp [Ending.reads]))
      (readsWords_edge acceptedMoved (ih trivial)) (readsWords_edge rejectedMoved (ih' trivial))
  | plain found _ _ ih => exact readsWords_cons nofun (ih (mem_of_findBlock found))
  | @loop _ _ _ _ _ body _ _ found _ spells _ _ ih ih' =>
    refine readsWords_cons ((readsWords_parts body).mp ?_) (ih' trivial)
    rw [spells]
    exact readsWords_cons nofun (ih (mem_of_findBlock found))
  | branch _ moved _ ih => exact readsWords_edge moved (ih trivial)
  | selection ending _ acceptedMoved rejectedMoved forks _ _ _ ih ih' afterIh =>
    refine readsWords_cons (readsWords_forks forks ?_ ?_ ?_) (afterIh trivial)
    · exact ending_isWord stands ending (by simp [Ending.reads])
    · exact readsWords_edge acceptedMoved (ih trivial)
    · exact readsWords_edge rejectedMoved (ih' trivial)
  | onlyTarget _ _ moved _ ih => exact readsWords_edge moved (ih trivial)
  | exits ending _ _ _ _ acceptedMoved rejectedMoved accepts rejects _ _ ih ih' =>
    refine readsWords_cons ?_ readsWords_nil
    exact readsWords_forks (.both not_false accepts rejects)
      (ending_isWord stands ending (by simp [Ending.reads]))
      (readsWords_edge acceptedMoved (ih trivial)) (readsWords_edge rejectedMoved (ih' trivial))
  | exit expected ending _ _ _ _ exitMoved onwardMoved spells _ _ ih ih' =>
    refine readsWords_cons (forall_mem_cons.mpr ⟨?_, (readsWords_parts _).mp ?_⟩)
      (readsWords_edge onwardMoved (ih' trivial))
    · exact ending_isWord stands ending (by simp [Ending.reads])
    · rw [spells]
      exact readsWords_edge exitMoved (ih trivial)
  | switch ending _ _ _ spells _ ih =>
    refine readsWords_cons (forall_mem_cons.mpr ⟨?_, ?_⟩) (ih trivial)
    · exact ending_isWord stands ending (by simp [Ending.reads])
    · exact (readsWords_parts _).mp (readsWords_arms spells)
  | ret ending =>
    exact readsWords_cons (fun value => ending_isWord stands ending) readsWords_nil
  | kill _ => exact readsWords_cons nofun readsWords_nil
  | unreachable _ => exact readsWords_nil

end Structure

theorem structureBlocks_operands {program : Program} {first : Id}
    (listed : (structureBlocks program blocks first).result = .ok ())
    (read : value ∈ (structureBlocks program blocks first).listing.operands) :
    IsWordOf blocks value :=
  (Structure.readsWords_parts _).mp ((structureBlocks_structured listed).readsWords trivial)
    value read

end SpirvMetal
