import Mathlib.Data.Finset.Card
import SpirvMetal.Proofs.Layout.Declared

/-!
Arrays cannot be sized by constants that the host sets. A length is accepted exactly if the words of
operations do not lead from it to such a constant, nor on for ever.
-/

namespace SpirvMetal

open Relation (ReflTransGen)
open Spirv (Op)

namespace ConstantValue

def words : ConstantValue → List Nat
  | .operation _ words => words
  | _ => []

/-- The words of an operation that are ids. The others are literal indices. -/
def operands : ConstantValue → List Id
  | .operation .compositeExtract words => words.take 1
  | .operation .compositeInsert words => words.take 2
  | .operation .vectorShuffle words => words.take 2
  | value => value.words

def elements : ConstantValue → List Id
  | .composite parts => parts
  | _ => []

theorem operands_subset (value : ConstantValue) : value.operands ⊆ value.words := by
  unfold operands
  split
  · exact List.take_subset ..
  · exact List.take_subset ..
  · exact List.take_subset ..
  · exact List.Subset.refl _

end ConstantValue

namespace Compiler

variable {c c' : Compiler} {id leaf : Id} {fuel : Nat} {part : ConstantValue → List Id}

/-- The value of one specialization constant has another as a part. -/
def Takes (c : Compiler) (part : ConstantValue → List Id) (id other : Id) : Prop :=
  ∃ constant, c.program.constantAt? id = some constant ∧ constant.specialization = true ∧
    other ∈ part constant.value

/-- A specialization constant that is declared as a function constant. -/
def HostSet (c : Compiler) (id : Id) : Prop :=
  c.isFunctionConstant id = true ∧ ∃ constant, c.program.constantAt? id = some constant ∧
    constant.specialization = true ∧ ∀ op words, constant.value ≠ .operation op words

/-- What the value of a specialization constant depends on directly. -/
def DependsOn (c : Compiler) (id other : Id) : Prop :=
  c.Takes ConstantValue.operands id other ∨ c.Takes ConstantValue.elements id other

/-- Chains of words from here come to an end. -/
def Ends (c : Compiler) (id : Id) : Prop :=
  Acc (fun word id => c.Takes ConstantValue.words id word) id

theorem anyM_false {α ε : Type} {test : α → Except ε Bool} {list : List α} :
    list.anyM test = .ok false ↔ ∀ a ∈ list, test a = .ok false := by
  induction list with
  | nil => simp [List.anyM, pure, Except.pure]
  | cons a rest ih =>
    rw [List.forall_mem_cons, ← ih, List.anyM]
    rcases test a with _ | _ | _ <;> simp [bind, Except.bind, pure, Except.pure]

theorem anyM_found {α ε : Type} {test : α → Except ε Bool} {list : List α} {result : Except ε Bool}
    (found : list.anyM test = result) (other : result ≠ .ok false) :
    ∃ a ∈ list, test a = result := by
  induction list with
  | nil => exact absurd found.symm other
  | cons a rest ih =>
    rw [List.anyM] at found
    rcases tested : test a with _ | _ | _ <;>
      simp only [tested, bind, Except.bind, pure, Except.pure] at found
    · exact ⟨a, List.mem_cons_self, tested.trans found⟩
    · obtain ⟨b, member, found⟩ := ih found
      exact ⟨b, List.mem_cons_of_mem a member, found⟩
    · exact ⟨a, List.mem_cons_self, tested.trans found⟩

theorem reaches_false_succ : c.reachesFunctionConstant (fuel + 1) id = .ok false ↔
    ¬ c.HostSet id ∧ ∀ word, c.Takes ConstantValue.words id word →
      c.reachesFunctionConstant fuel word = .ok false := by
  unfold HostSet Takes
  rw [reachesFunctionConstant]
  cases c.program.constantAt? id with
  | none => simp
  | some constant =>
    obtain ⟨type, value, specialization⟩ := constant
    cases specialization <;> cases value <;> simp [ConstantValue.words, anyM_false]

theorem reaches_found {result : Except Fault Bool}
    (reaches : c.reachesFunctionConstant fuel id = result) (other : result ≠ .ok false) :
    result = .error .aborted ∨
      ∃ leaf, ReflTransGen (c.Takes ConstantValue.words) id leaf ∧ c.HostSet leaf := by
  induction fuel generalizing id with
  | zero => exact .inl reaches.symm
  | succ fuel ih =>
    rw [reachesFunctionConstant] at reaches
    split at reaches
    · exact absurd reaches.symm other
    · rename_i constant found
      split at reaches
      · rename_i specialization
        split at reaches
        · rename_i op words value
          obtain ⟨word, member, reaches⟩ := anyM_found reaches other
          refine (ih reaches).imp_right fun ⟨leaf, leads, set⟩ => ⟨leaf, .head ?_ leads, set⟩
          exact ⟨constant, found, specialization, by rwa [value]⟩
        · rename_i plain
          cases set : c.isFunctionConstant id with
          | false => exact absurd (set ▸ reaches).symm other
          | true => exact .inr ⟨id, .refl, set, constant, found, specialization, plain⟩
      · exact absurd reaches.symm other

theorem ends_of_reaches_false (reaches : c.reachesFunctionConstant fuel id = .ok false) :
    c.Ends id ∧ ∀ leaf, ReflTransGen (c.Takes ConstantValue.words) id leaf → ¬ c.HostSet leaf := by
  induction fuel generalizing id with
  | zero => cases reaches
  | succ fuel ih =>
    obtain ⟨unset, words⟩ := reaches_false_succ.mp reaches
    refine ⟨⟨id, fun word takes => (ih (words word takes)).1⟩, fun leaf leads => ?_⟩
    obtain rfl | ⟨word, takes, rest⟩ := leads.cases_head
    · exact unset
    · exact (ih (words word takes)).2 leaf rest

theorem Ends.not_circular (ends : c.Ends id) :
    ¬ Relation.TransGen (c.Takes ConstantValue.words) id id := by
  induction ends with
  | intro id _ ih =>
    intro circle
    obtain ⟨word, takes, rest⟩ := Relation.TransGen.head'_iff.mp circle
    exact ih word takes (.tail' rest takes)

/-- No chain goes through a constant twice, so there is fuel enough for those on the way to it and
all others. -/
theorem reaches_false_of_ends {visited : Finset Id} (ends : c.Ends id)
    (free : ∀ leaf, ReflTransGen (c.Takes ConstantValue.words) id leaf → ¬ c.HostSet leaf)
    (stored : visited ⊆ c.program.records.items.keys.toFinset)
    (earlier : ∀ other ∈ visited, Relation.TransGen (c.Takes ConstantValue.words) other id)
    (enough : c.program.records.items.size < fuel + visited.card) :
    c.reachesFunctionConstant fuel id = .ok false := by
  induction fuel generalizing id visited with
  | zero =>
    have few := (Finset.card_le_card stored).trans (List.toFinset_card_le _)
    simp only [Assoc.keys, List.length_map] at few
    simp only [Assoc.size] at enough
    omega
  | succ fuel ih =>
    refine reaches_false_succ.mpr ⟨free id .refl, fun word takes => ?_⟩
    have new : id ∉ visited := fun member => ends.not_circular (earlier id member)
    have taken := takes
    obtain ⟨_, found, -⟩ := taken
    obtain ⟨record, kept, -⟩ := Option.bind_eq_some_iff.mp found
    refine ih (ends.inv takes) (fun leaf leads => free leaf (.head takes leads))
      (Finset.insert_subset (List.mem_toFinset.mpr (Assoc.mem_keys kept)) stored) ?_ ?_
    · intro other member
      obtain rfl | member := Finset.mem_insert.mp member
      · exact .single takes
      · exact (earlier other member).tail takes
    · rw [Finset.card_insert_of_notMem new]
      omega

theorem depends_false_iff {words : List Nat} : c.dependsOnFunctionConstant words = .ok false ↔
    ∀ word ∈ words, c.Ends word ∧
      ∀ leaf, ReflTransGen (c.Takes ConstantValue.words) word leaf → ¬ c.HostSet leaf := by
  refine anyM_false.trans (forall₂_congr fun word _ => ⟨ends_of_reaches_false, ?_⟩)
  rintro ⟨ends, free⟩
  exact reaches_false_of_ends ends free (Finset.empty_subset _) (by simp) (by simp [Program.depth])

/-- A chain of dependencies either only goes through operands, or leaves them at a composite. -/
theorem operands_or_element (depends : ReflTransGen c.DependsOn id leaf) :
    ReflTransGen (c.Takes ConstantValue.operands) id leaf ∨
      ∃ composite element, ReflTransGen (c.Takes ConstantValue.operands) id composite ∧
        c.Takes ConstantValue.elements composite element ∧
        ReflTransGen c.DependsOn element leaf := by
  induction depends using ReflTransGen.head_induction_on with
  | refl => exact .inl .refl
  | head first rest ih =>
    rcases first with takes | takes
    · rcases ih with leads | ⟨composite, element, leads, found⟩
      · exact .inl (.head takes leads)
      · exact .inr ⟨composite, element, .head takes leads, found⟩
    · exact .inr ⟨_, _, .refl, takes, rest⟩

/-- Two states of one pass, as far as declarations of constants are concerned. -/
structure SameConstants (before after : Compiler) : Prop where
  program : before.program.Alike after.program
  version : after.options.version = before.options.version
  builtins : ∀ id, after.program.builtin? id = before.program.builtin? id

instance : Emit.Always.AllowsFunctions SameConstants where
  refl _ := ⟨.refl _, rfl, fun _ => rfl⟩
  trans _ _ _ first second := ⟨first.1.trans second.1, second.2.trans first.2,
    fun id => (second.3 id).trans (first.3 id)⟩
  text _ := ⟨.refl _, rfl, fun _ => rfl⟩
  lines _ := ⟨.refl _, rfl, fun _ => rfl⟩
  notes _ _ _ := ⟨.refl _, rfl, fun _ => rfl⟩
  discovers _ _ := ⟨.refl _, rfl, fun _ => rfl⟩
  opens restricts := ⟨Program.alike_unsetDecoration _ _ restricts, rfl, fun id => by
    refine Program.view_modifyOwn (·.builtin?) (fun d => ?_) _ _ id
    rw [Decorations.builtin?_unset, if_neg]
    rintro rfl
    cases restricts⟩
  slots _ := ⟨.refl _, rfl, fun _ => rfl⟩
  marks _ := ⟨.refl _, rfl, fun _ => rfl⟩
  renames := ⟨Program.alike_setName .., rfl,
    fun id => Program.view_modifyOwn (·.builtin?) (fun _ => by rfl) _ _ id⟩

theorem SameConstants.reaches_eq (same : c.SameConstants c') :
    c'.reachesFunctionConstant fuel = c.reachesFunctionConstant fuel := by
  have settable (id : Id) : c'.isFunctionConstant id = c.isFunctionConstant id := by
    simp only [isFunctionConstant, Options.supports, same.version, same.program.arrayLengths,
      same.program.decorated id .specId rfl]
  induction fuel with
  | zero => rfl
  | succ fuel ih =>
    funext id
    simp only [reachesFunctionConstant, same.program.constantAt?_eq, settable, ih]

end Compiler

namespace Emit

variable {c c' : Compiler} {id : Id} {constant : Constant} {op : Op} {words : List Nat}

theorem derivedConstant_ok_iff : (∃ after, derivedConstant id constant words c = .ok () after) ↔
    (id ∈ c.program.arrayLengths → c.dependsOnFunctionConstant words = .ok false) ∧
      (∃ declaration, c.declaration constant.type (c.constantName id) = .ok declaration) ∧
      ∃ text, c.constantText id = .ok text := by
  have written : (∃ after, (do
      let declaration ← c.declaration constant.type (c.constantName id)
      statement s!"constant {declaration} = {← c.constantText id};" : Emit Unit) c = .ok () after) ↔
      (∃ declaration, c.declaration constant.type (c.constantName id) = .ok declaration) ∧
        ∃ text, c.constantText id = .ok text := by
    simp only [lift_bind]
    constructor
    · rintro ⟨_, declaration, declares, text, writes, -⟩
      exact ⟨⟨declaration, declares⟩, text, writes⟩
    · rintro ⟨⟨declaration, declares⟩, text, writes⟩
      exact ⟨_, declaration, declares, text, writes, rfl⟩
  rw [← written]
  simp only [derivedConstant, get_bind]
  by_cases length : id ∈ c.program.arrayLengths
  · rcases c.dependsOnFunctionConstant words with _ | _ | _ <;>
      simp [length, bind_ok, lift_ok, fail_ok]
  · simp [length]

theorem derivedConstant_refused (refused : derivedConstant id constant words c =
      .error (.unsupported (.arrayLengthFromFunctionConstant (c.constantName id))) c')
    (declares : ∃ declaration, c.declaration constant.type (c.constantName id) = .ok declaration)
    (writes : ∃ text, c.constantText id = .ok text) :
    id ∈ c.program.arrayLengths ∧ ∃ word ∈ words, ∃ leaf,
      ReflTransGen (c.Takes ConstantValue.words) word leaf ∧ c.HostSet leaf := by
  have disputed : ¬ (id ∈ c.program.arrayLengths →
      c.dependsOnFunctionConstant words = .ok false) := by
    intro free
    obtain ⟨_, done⟩ := derivedConstant_ok_iff.mpr ⟨free, declares, writes⟩
    cases done.symm.trans refused
  obtain ⟨length, depends⟩ := Classical.not_imp.mp disputed
  obtain ⟨word, member, reaches⟩ := Compiler.anyM_found rfl depends
  refine ⟨length, word, member, (Compiler.reaches_found reaches depends).resolve_left ?_⟩
  intro aborted
  simp [derivedConstant, length, Compiler.dependsOnFunctionConstant, aborted, bind, EStateM.bind, get,
    getThe, MonadStateOf.get, run_get, liftM, monadLift, MonadLift.monadLift] at refused

theorem constantOrStruct_undisputed {now next : Bool}
    (run : constantOrStruct now id c = .ok next c')
    (found : c.program.constantAt? id = some constant)
    (specialization : constant.specialization = true)
    (ordinary : c.isWorkgroupSize id = false)
    (value : constant.value = .operation op words) :
    id ∈ c.program.arrayLengths → c.dependsOnFunctionConstant words = .ok false := by
  replace run := get_bind.mp run
  simp only [found, ordinary, specialization, if_true, Bool.false_eq_true, if_false] at run
  obtain ⟨_, declared, declaring, -⟩ := bind_ok.mp run
  obtain ⟨_, stored, declaring⟩ := read_bind.mp declaring
  obtain ⟨_, _, declaring⟩ := lift_bind.mp declaring
  obtain rfl := Option.some.inj (found.symm.trans (Program.expect_ok.mp stored))
  simp only [value] at declaring
  exact (derivedConstant_ok_iff.mp ⟨_, declaring⟩).1

theorem compile_undisputed {text : String} {stop : Compiler} (compiled : compile c = .ok text stop)
    (found : stop.program.constantAt? id = some constant)
    (specialization : constant.specialization = true)
    (ordinary : stop.isWorkgroupSize id = false)
    (value : constant.value = .operation op words) :
    id ∈ stop.program.arrayLengths → stop.dependsOnFunctionConstant words = .ok false := by
  obtain ⟨_, start, -, writes, -⟩ := compile_last compiled
  obtain ⟨_, scanned, -, run⟩ := bind_ok.mp writes.written
  obtain ⟨_, headed, -, run⟩ := bind_ok.mp run
  have all : headed.SameConstants stop := Keeps.keeps run
  obtain ⟨record, stored, -⟩ := Option.bind_eq_some_iff.mp found
  rw [all.program.record?_eq] at stored
  obtain ⟨_, declared, declaring, -⟩ := bind_ok.mp run
  obtain ⟨now, next, before, after, earlier, printing, -⟩ :=
    constantsAndStructs_within Compiler.SameConstants declaring stored
  have same : before.SameConstants stop :=
    ⟨earlier.program.symm.trans all.program, all.version.trans earlier.version.symm,
      fun id => (all.builtins id).trans (earlier.builtins id).symm⟩
  rw [same.program.constantAt?_eq] at found
  simp only [Compiler.isWorkgroupSize, same.builtins] at ordinary
  have depends : stop.dependsOnFunctionConstant words = before.dependsOnFunctionConstant words := by
    simp only [Compiler.dependsOnFunctionConstant, same.reaches_eq, Program.depth,
      same.program.records]
  rw [depends, same.program.arrayLengths]
  exact constantOrStruct_undisputed printing found specialization ordinary value

/-- After a compilation, the first one or a later one, lengths of arrays depend on function constants
only through elements of composites. The size of the workgroup is declared without a look at its
parts, so it is left out. Where its declaration can be written, a length is accepted exactly if
no words of operations, operands or not, lead to a function constant or on for ever, and it is
refused only if they lead to one. -/
theorem array_length_depends_by_element {c : Compiler} {text : String} {stop : Compiler}
    (compiled : compile c = .ok text stop) :
    (∀ id ∈ stop.program.arrayLengths, stop.isWorkgroupSize id = false →
      ∀ leaf, stop.HostSet leaf → ReflTransGen stop.DependsOn id leaf →
        ∃ composite element, ReflTransGen (stop.Takes ConstantValue.operands) id composite ∧
          stop.Takes ConstantValue.elements composite element ∧
          ReflTransGen stop.DependsOn element leaf) ∧
      ∀ c id constant words,
        let reaches word leaf := ReflTransGen (c.Takes ConstantValue.words) word leaf ∧ c.HostSet leaf
        let writable :=
          (∃ declaration, c.declaration constant.type (c.constantName id) = .ok declaration) ∧
          ∃ text, c.constantText id = .ok text
        ((∃ after, derivedConstant id constant words c = .ok () after) ↔
          (id ∈ c.program.arrayLengths → ∀ word ∈ words, c.Ends word ∧ ∀ leaf, ¬ reaches word leaf) ∧
            writable) ∧
        ∀ after, derivedConstant id constant words c =
            .error (.unsupported (.arrayLengthFromFunctionConstant (c.constantName id))) after →
          writable → id ∈ c.program.arrayLengths ∧ ∃ word ∈ words, ∃ leaf, reaches word leaf := by
  refine ⟨fun id length ordinary leaf set depends => ?_, fun c id constant words => ⟨?_, ?_⟩⟩
  · rcases Compiler.operands_or_element depends with leads | through
    · have followed : ReflTransGen (stop.Takes ConstantValue.words) id leaf :=
        leads.lift (fun id => id) fun _ _ ⟨constant, found, specialization, member⟩ =>
          ⟨constant, found, specialization, constant.value.operands_subset member⟩
      obtain rfl | ⟨word, ⟨constant, found, specialization, member⟩, rest⟩ := followed.cases_head
      · simp [Compiler.HostSet, Compiler.isFunctionConstant, length] at set
      · cases value : constant.value with
        | operation op words =>
          rw [value] at member
          have free := compile_undisputed compiled found specialization ordinary value length
          exact absurd set ((Compiler.depends_false_iff.mp free word member).2 leaf rest)
        | _ =>
          rw [value] at member
          cases member
    · exact through
  · rw [derivedConstant_ok_iff, Compiler.depends_false_iff]
    simp only [not_and]
  · rintro after refused ⟨declares, writes⟩
    exact derivedConstant_refused refused declares writes

/-- The length of an array is an element of a composite, and that is a function constant. -/
def sizedByElement : Spirv.Module where
  entryPoints := [.entry .glCompute 20 []]
  annotations := [⟨.decorate, none, none, [.idRef 10, .decoration .specId, .literal 0]⟩]
  globals := [⟨.typeVoid, none, some 2, []⟩, ⟨.typeFunction, none, some 3, [.idRef 2]⟩,
    ⟨.typeInt, none, some 4, [.literal 32, .literal 0]⟩,
    ⟨.typeVector, none, some 5, [.idRef 4, .literal 2]⟩,
    ⟨.specConstant, some 4, some 10, [.literal 3]⟩,
    ⟨.specConstantComposite, some 5, some 6, [.idRef 10, .idRef 10]⟩,
    ⟨.specConstantOp, some 4, some 7, [.specOp .compositeExtract, .idRef 6, .literal 0]⟩,
    ⟨.typeArray, none, some 8, [.idRef 4, .idRef 7]⟩, .pointer 9 .function 8]
  functions := [.ofBody 2 20 3 21 [.variable 12 9 .function]]

theorem sizedByElement_compiles : ∃ program text stop,
    Program.ofModule sizedByElement = .ok program ∧
      compile (Compiler.new program {}) = .ok text stop ∧ 7 ∈ stop.program.arrayLengths ∧
      stop.isWorkgroupSize 7 = false ∧ stop.HostSet 10 ∧
      ReflTransGen stop.DependsOn 7 10 := by
  obtain ⟨program, text, stop, loaded, compiled, length, ordinary, set, leaf, composite, size⟩ :
      ∃ program text stop, Program.ofModule sizedByElement = .ok program ∧
        compile (Compiler.new program {}) = .ok text stop ∧ 7 ∈ stop.program.arrayLengths ∧
        stop.isWorkgroupSize 7 = false ∧ stop.isFunctionConstant 10 = true ∧
        stop.program.constantAt? 10 = some ⟨4, .scalar 3, true⟩ ∧
        stop.program.constantAt? 6 = some ⟨5, .composite [10, 10], true⟩ ∧
        stop.program.constantAt? 7 = some ⟨4, .operation .compositeExtract [6, 0], true⟩ :=
    compiled?_decide (by decide +kernel)
  refine ⟨program, text, stop, loaded, compiled, length, ordinary, ⟨set, _, leaf, rfl, ?_⟩, ?_⟩
  · rintro _ _ ⟨⟩
  · exact .head (.inl ⟨_, size, rfl, List.mem_singleton_self 6⟩)
      (.single (.inr ⟨_, composite, rfl, List.mem_cons_self ..⟩))

theorem array_length_depends_by_element_sizedByElement :
    ∃ program text stop, Program.ofModule sizedByElement = .ok program ∧
      compile (Compiler.new program {}) = .ok text stop ∧ 7 ∈ stop.program.arrayLengths ∧
      ∃ composite element, ReflTransGen (stop.Takes ConstantValue.operands) 7 composite ∧
        stop.Takes ConstantValue.elements composite element ∧
        ReflTransGen stop.DependsOn element 10 := by
  obtain ⟨program, text, stop, loaded, compiled, length, ordinary, set, depends⟩ :=
    sizedByElement_compiles
  exact ⟨program, text, stop, loaded, compiled, length,
    (array_length_depends_by_element compiled).1 7 length ordinary 10 set depends⟩

/-- An array sized by a constant that the host sets is declared all the same. -/
theorem array_sized_by_function_constant :
    ∃ program text stop, Program.ofModule sizedByElement = .ok program ∧
      compile (Compiler.new program {}) = .ok text stop ∧ 7 ∈ stop.program.arrayLengths ∧
      stop.HostSet 10 ∧ ReflTransGen stop.DependsOn 7 10 := by
  obtain ⟨program, text, stop, loaded, compiled, length, -, set, depends⟩ :=
    sizedByElement_compiles
  exact ⟨program, text, stop, loaded, compiled, length, set, depends⟩

end Emit

end SpirvMetal
