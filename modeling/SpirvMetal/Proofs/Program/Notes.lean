import SpirvMetal.Proofs.Interface.Aligned

/-!
Names and decorations as a map. What is read under a key is what the last change of that key left;
what a field still holds of an earlier change is not seen.
-/

namespace SpirvMetal

open Spirv (Decoration BuiltIn)

inductive NoteKey
  | name (id : Id)
  | standIn (id : Id)
  | decoration (id : Id) (decoration : Decoration)
  | memberName (id member : Nat)
  | memberStandIn (id member : Nat)
  | memberDecoration (id member : Nat) (decoration : Decoration)
  | packed (id member : Nat)
  deriving DecidableEq

inductive Reading
  | text (text : String)
  | standIn (text : Option String)
  /-- A decoration is read in two places, and that of a builtin in a third one. -/
  | decoration (set : Bool) (value : Nat) (builtin : Option BuiltIn)
  | packed (packed : Bool)

/-- What is read under a key that was never written. -/
def NoteKey.blank : NoteKey → Reading
  | name _ | memberName .. => .text ""
  | standIn _ | memberStandIn .. => .standIn none
  | decoration .. | memberDecoration .. => .decoration false 0 none
  | packed .. => .packed false

inductive NoteChange
  | name (id : Id) (text : String)
  | standIn (id : Id) (text : String)
  | decorate (id : Id) (decoration : Decoration) (value : Nat)
  | undecorate (id : Id) (decoration : Decoration)
  | memberName (id member : Nat) (text : String)
  | memberStandIn (id member : Nat) (text : String)
  | decorateMember (id member : Nat) (decoration : Decoration) (value : Nat)
  | pack (id member : Nat)

namespace NoteChange

def key : NoteChange → NoteKey
  | name id _ => .name id
  | standIn id _ => .standIn id
  | decorate id decoration _ | undecorate id decoration => .decoration id decoration
  | memberName id member _ => .memberName id member
  | memberStandIn id member _ => .memberStandIn id member
  | decorateMember id member decoration _ => .memberDecoration id member decoration
  | pack id member => .packed id member

def reading : NoteChange → Reading
  | name _ text | memberName _ _ text => .text text
  | standIn _ text | memberStandIn _ _ text => .standIn (some text)
  | decorate _ decoration value | decorateMember _ _ decoration value =>
    .decoration true (decoration.shows value)
      (if decoration = .builtIn then BuiltIn.ofCode? value else none)
  | undecorate .. => .decoration false 0 none
  | pack .. => .packed true

end NoteChange

namespace Program

def note (program : Program) : NoteChange → Program
  | .name id text => program.setName id text
  | .standIn id text => program.setStandIn id text
  | .decorate id decoration value => program.setDecoration id decoration value
  | .undecorate id decoration => program.unsetDecoration id decoration
  | .memberName id member text => program.setMemberName id member text
  | .memberStandIn id member text => program.setMemberStandIn id member text
  | .decorateMember id member decoration value =>
    program.setMemberDecoration id member decoration value
  | .pack id member => program.setMemberPacked id member

def read (program : Program) : NoteKey → Reading
  | .name id => .text (program.name id)
  | .standIn id => .standIn (program.standIn? id)
  | .decoration id decoration =>
    .decoration (program.hasDecoration id decoration) (program.getDecoration id decoration)
      (if decoration = .builtIn then program.builtin? id else none)
  | .memberName id member => .text (program.memberName id member)
  | .memberStandIn id member => .standIn (program.memberStandIn? id member)
  | .memberDecoration id member decoration =>
    .decoration (program.hasMemberDecoration id member decoration)
      (program.getMemberDecoration id member decoration)
      (if decoration = .builtIn then program.memberBuiltin? id member else none)
  | .packed id member => .packed (program.isMemberPacked id member)

theorem read_note (program : Program) (change : NoteChange) (key : NoteKey) :
    (program.note change).read key =
      if change.key = key then change.reading else program.read key := by
  cases change <;> cases key <;>
    simp only [note, read, NoteChange.key, NoteChange.reading, name, setName, standIn?, setStandIn,
      hasDecoration, getDecoration, builtin?, setDecoration, unsetDecoration, memberName,
      setMemberName, memberStandIn?, setMemberStandIn, hasMemberDecoration, getMemberDecoration,
      memberBuiltin?, setMemberDecoration, isMemberPacked, setMemberPacked, decorations_modifyOwn,
      decorations_modifyMember, memberDecorations_modifyOwn, memberDecorations_modifyMember,
      reduceCtorEq, if_false]
  -- names, stand-ins and packing leave the decorations alone, which is plain once keys are compared
  all_goals first
    | grind [Decorations.get_set, Decorations.get_unset, Decorations.has_set,
        Decorations.has_unset, Decorations.builtin?_set, Decorations.builtin?_unset]
    | split <;> rename_i same <;> first | rfl | subst same; rfl | obtain ⟨rfl, rfl⟩ := same; rfl

/-- With the first part for a single change, no change touches another key. -/
theorem notes_read_last (program : Program) (changes : List NoteChange) (key : NoteKey)
    (bound : Nat) :
    (changes.foldl note program).read key =
      ((changes.reverse.find? (·.key = key)).map NoteChange.reading).getD (program.read key) ∧
    (empty bound).read key = key.blank := by
  refine ⟨?_, by
    cases key <;> first | rfl | exact congrArg (Reading.decoration false 0) (ite_self none)⟩
  induction changes generalizing program with
  | nil => rfl
  | cons change rest ih =>
    rw [List.foldl_cons, ih, read_note, List.reverse_cons, List.find?_append]
    cases rest.reverse.find? (·.key = key) with
    | some later => rfl
    | none => by_cases same : change.key = key <;> simp [same]

end Program

end SpirvMetal
