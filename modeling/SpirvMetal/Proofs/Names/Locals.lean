import SpirvMetal.Proofs.Calls.Agreement
import SpirvMetal.Proofs.Names.Told
import SpirvMetal.Proofs.Repeat.Recompile

/-!
Identifiers of a function: those of its parameters, of the globals that are threaded through it and
of its locals.
-/

set_option synthInstance.maxSize 8192

namespace SpirvMetal

open List

def Mentions (text name : String) : Prop :=
  ∃ front back, text = front ++ name ++ back

namespace Mentions

variable {text name : String}

theorem last (front name : String) : Mentions (front ++ name) name :=
  ⟨front, "", by rw [String.append_empty]⟩

theorem append (mentions : Mentions text name) (back : String) : Mentions (text ++ back) name := by
  obtain ⟨front, rest, rfl⟩ := mentions
  exact ⟨front, rest ++ back, String.append_assoc ..⟩

theorem prepend (front : String) (mentions : Mentions text name) : Mentions (front ++ text) name := by
  obtain ⟨more, back, rfl⟩ := mentions
  exact ⟨front ++ more, back, by simp only [String.append_assoc]⟩

theorem joined (mentions : Mentions text name) (separator : String) (others : List String) :
    Mentions (separator.intercalate (text :: others)) name := by
  cases others with
  | nil => simpa using mentions
  | cons first rest =>
    rw [String.intercalate_cons_cons]
    exact (mentions.append separator).append _

end Mentions

namespace Program

variable {program : Program} {ids : List Id}

def shown (program : Program) (ids : List Id) : List Id :=
  ids.filter fun id => (program.standIn? id).isNone

theorem shown_append (program : Program) (ids more : List Id) :
    program.shown (ids ++ more) = program.shown ids ++ program.shown more := filter_append ..

theorem shown_perm (program : Program) (ids : List Id) :
    (program.shown ids).Perm
      ((program.shown ids).filter (fun id => (program.name id).isEmpty) ++
        ids.filter program.usesName) := by
  have named : ids.filter program.usesName =
      (program.shown ids).filter fun id => !(program.name id).isEmpty := by
    rw [shown, filter_filter]
    refine congrArg (List.filter · ids) (funext fun id => ?_)
    cases found : program.standIn? id <;> simp [usesName, found]
  rw [named]
  exact (filter_append_perm _ _).symm

theorem plainName_eq_underscore {id : Id} (nameless : (program.name id).isEmpty = true) :
    program.plainName id = s!"_{id}" := by
  simp [plainName, nameless]

theorem plainName_of_usesName {id : Id} (used : program.usesName id = true) :
    program.plainName id = program.name id := by
  simp only [usesName, Bool.not_or, Bool.and_eq_true, Bool.not_eq_true'] at used
  simp [plainName, used.1]

/-- Names of ids are different if those that are used are, and none of them is made from the id of
another one. -/
theorem plainNames_nodup_iff :
    ((program.shown ids).map program.plainName).Nodup ↔
      ((program.shown ids).filter fun id => (program.name id).isEmpty).Nodup ∧
        ((ids.filter program.usesName).map program.name).Nodup ∧
        ∀ id ∈ program.shown ids, (program.name id).isEmpty = true →
          s!"_{id}" ∉ (ids.filter program.usesName).map program.name := by
  have used : (ids.filter program.usesName).map program.plainName =
      (ids.filter program.usesName).map program.name :=
    map_congr_left fun id listed => plainName_of_usesName (mem_filter.mp listed).2
  rw [((program.shown_perm ids).map _).nodup_iff, map_append, nodup_append, used]
  have nameless (id : Id)
      (listed : id ∈ (program.shown ids).filter fun id => (program.name id).isEmpty) :
      program.plainName id = s!"_{id}" := plainName_eq_underscore (mem_filter.mp listed).2
  constructor
  · rintro ⟨first, second, apart⟩
    refine ⟨first.of_map _, second, fun id listed empty known => ?_⟩
    have kept : id ∈ (program.shown ids).filter fun id => (program.name id).isEmpty :=
      mem_filter.mpr ⟨listed, empty⟩
    exact apart _ (mem_map.mpr ⟨id, kept, rfl⟩) _ known (nameless id kept)
  · rintro ⟨first, second, apart⟩
    refine ⟨first.map_on fun id listed other listed' same => ?_, second,
      fun name listed other known same => ?_⟩
    · rw [nameless id listed, nameless other listed'] at same
      have texts := congrArg String.toList same
      simp only [String.toList_append, append_cancel_left_eq] at texts
      exact toString_injective (String.toList_inj.mp texts)
    · obtain ⟨id, kept, rfl⟩ := mem_map.mp listed
      rw [nameless id kept] at same
      obtain ⟨shown, empty⟩ := mem_filter.mp kept
      exact apart id shown empty (same ▸ known)

theorem shown_nodup_iff :
    (program.shown ids).Nodup ↔
      ((program.shown ids).filter fun id => (program.name id).isEmpty).Nodup ∧
        (ids.filter program.usesName).Nodup := by
  rw [(program.shown_perm ids).nodup_iff, nodup_append, and_congr_right_iff]
  refine fun _ => and_iff_left fun id listed other used => ?_
  rintro rfl
  have empty := (mem_filter.mp listed).2
  simp [usesName, empty] at used

end Program

namespace Compiler

variable {c : Compiler}
variable {parameter : Parameter} {text : String}

/-- The identifier of a parameter. One that is threaded through a function shows the name of its
global. -/
def parameterName (c : Compiler) (parameter : Parameter) : String :=
  if parameter.threaded then
    c.nameOf (((c.program.variableAt? parameter.id).bind (·.base)).getD parameter.id)
  else c.nameOf parameter.id

/-- The identifiers of parameters and locals, but for locals that stand for something else. -/
def identifiers (c : Compiler) (function : Function) : List String :=
  function.parameters.map c.parameterName ++
    (function.locals.filter fun id => (c.program.standIn? id).isNone).map c.program.plainName

/-- The identifiers of parameters that show the name of something else. -/
def carriedNames (c : Compiler) (function : Function) : List String :=
  (function.parameters.filter fun parameter =>
    parameter.threaded || (c.program.standIn? parameter.id).isSome).map c.parameterName

theorem identifiers_perm (c : Compiler) (function : Function) :
    (c.identifiers function).Perm
      (c.carriedNames function ++ (c.program.shown function.localIds).map c.program.plainName) := by
  have own : c.program.shown ((function.parameters.filter (!·.threaded)).map (·.id)) =
      (function.parameters.filter fun parameter =>
        !(parameter.threaded || (c.program.standIn? parameter.id).isSome)).map (·.id) := by
    rw [Program.shown, filter_map, filter_filter]
    refine congrArg (List.map _) (congrArg (List.filter · _) (funext fun parameter => ?_))
    cases found : c.program.standIn? parameter.id <;> simp [found]
  have names : (function.parameters.filter fun parameter =>
        !(parameter.threaded || (c.program.standIn? parameter.id).isSome)).map c.parameterName =
      (c.program.shown ((function.parameters.filter (!·.threaded)).map (·.id))).map
        c.program.plainName := by
    rw [own, map_map]
    refine map_congr_left fun parameter listed => ?_
    have test := (mem_filter.mp listed).2
    simp only [Bool.not_or, Bool.and_eq_true, Bool.not_eq_true', Option.isSome_eq_false_iff,
      Option.isNone_iff_eq_none] at test
    simp [parameterName, test.1, nameOf, test.2]
  rw [identifiers, Function.localIds, Program.shown_append, map_append, ← append_assoc,
    ← names, carriedNames, ← map_append]
  exact ((filter_append_perm _ _).map _).symm.append_right _

theorem argumentDeclaration_mentions (spelled : c.argumentDeclaration parameter = .ok text) :
    Mentions text (c.parameterName parameter) := by
  obtain ⟨var, found, spelled⟩ := Except.bind_ok.mp spelled
  have name : (if parameter.threaded then c.nameOf (var.base.getD parameter.id)
      else c.nameOf parameter.id) = c.parameterName parameter := by
    rw [parameterName, Program.getVariable_ok.mp found, Option.bind_some]
  obtain ⟨type, _, spelled⟩ := Except.bind_ok.mp spelled
  obtain ⟨⟨data, pointee⟩, _, spelled⟩ := Except.bind_ok.mp spelled
  dsimp only at spelled
  rw [name] at spelled
  have array (front back : String) :
      Mentions (front ++ " (&" ++ c.parameterName parameter ++ ")" ++ back)
        (c.parameterName parameter) := ((Mentions.last _ _).append ")").append back
  cases builtin : c.program.builtin? parameter.id with
  | some builtin =>
    simp only [builtin] at spelled
    obtain ⟨typed, _, spelled⟩ := Except.bind_ok.mp spelled
    split at spelled <;> cases spelled
    exacts [array _ _, .last _ _, array _ _, .last _ _, .last _ _]
  | none =>
    simp only [builtin] at spelled
    obtain ⟨typed, _, spelled⟩ := Except.bind_ok.mp spelled
    obtain ⟨_, _, spelled⟩ := Except.bind_ok.mp spelled
    split at spelled <;> cases spelled
    exacts [array _ _, .last _ _, array _ _, .last _ _, .last _ _]

theorem parameterText_mentions (spelled : c.parameterText parameter = .ok text) :
    Mentions text (c.parameterName parameter) := by
  rw [parameterText_eq] at spelled
  obtain ⟨part, placed, rfl⟩ := map_ok.mp spelled
  obtain ⟨space, _, placed⟩ := Except.bind_ok.mp placed
  obtain ⟨declaration, declared, placed⟩ := Except.bind_ok.mp placed
  obtain ⟨rest, _, placed⟩ := Except.bind_ok.mp placed
  cases placed
  have mentions := argumentDeclaration_mentions declared
  rw [map_cons]
  apply Mentions.joined
  dsimp only
  split
  · exact mentions
  · exact mentions.prepend _

theorem functionSignature_mentions {id : Id} {function : Function} {line : String}
    (stored : c.program.getFunction id = .ok function)
    (signed : c.functionSignature id = .ok line) :
    ∃ (returned : String) (texts : List String),
      line = applied s!"{returned} {c.program.plainName id}" texts ∧
      List.Forall₂ (fun parameter text => Mentions text (c.parameterName parameter))
        function.parameters texts := by
  obtain ⟨found, stored', signed⟩ := Except.bind_ok.mp signed
  rw [stored] at stored'
  cases stored'
  obtain ⟨type, _, signed⟩ := Except.bind_ok.mp signed
  split at signed
  · cases signed
  · obtain ⟨texts, spelled, signed⟩ := Except.bind_ok.mp signed
    obtain ⟨returned, _, signed⟩ := Except.bind_ok.mp signed
    cases signed
    refine ⟨returned, texts, rfl, ?_⟩
    exact (Except.mapM_ok.mp spelled).imp fun _ _ spelled => parameterText_mentions spelled

structure AddsLines (before after : Compiler) : Prop where
  program : after.program = before.program
  lines : before.pass.lines.toList <+: after.pass.lines.toList

instance : AllowsText AddsLines where
  refl _ := ⟨rfl, prefix_refl _⟩
  trans _ _ _ first second := ⟨second.program.trans first.program, first.lines.trans second.lines⟩
  text adds := ⟨rfl, adds.lines⟩

instance : AllowsSlots AddsLines where
  slots adds := ⟨rfl, adds.lines ▸ prefix_refl _⟩
  marks _ := ⟨rfl, prefix_refl _⟩

end Compiler

namespace Emit

open Compiler (AddsLines)

variable {c c' : Compiler} {u : Unit} {id var data : Id} {type : ValueType} {function : Function}

theorem localVariable_mentions (typed : c.program.dataType var = .ok (data, type))
    (shown : type.isOpaque = false) (done : localVariable var c = .ok u c') :
    ∃ line ∈ c'.pass.lines.toList, Mentions line.text (c.program.plainName var) := by
  obtain ⟨stored, _, done⟩ := read_bind.mp done
  obtain ⟨_, found, done⟩ := lift_bind.mp done
  rw [typed] at found
  cases found
  simp only [shown, Bool.false_eq_true, if_false] at done
  have written {text : String} (mentions : Mentions text (c.program.plainName var))
      (writing : statement text c = .ok u c') :
      ∃ line ∈ c'.pass.lines.toList, Mentions line.text (c.program.plainName var) :=
    ⟨_, statement_written writing, mentions⟩
  split at done
  · obtain ⟨spelled, _, done⟩ := lift_bind.mp done
    exact written ((Mentions.last _ _).append _) done
  · obtain ⟨declaration, declared, done⟩ := lift_bind.mp done
    have mentions : Mentions declaration (c.program.plainName var) := by
      obtain ⟨⟨_, pointee⟩, _, declared⟩ := Except.bind_ok.mp declared
      obtain ⟨spelled, _, declared⟩ := Except.bind_ok.mp declared
      cases declared
      exact (Mentions.last _ _).append _
    split at done
    · exact written ((mentions.prepend _).append _) done
    · cases initial : stored.initializer with
      | none =>
        simp only [initial] at done
        exact written (mentions.append _) done
      | some value =>
        simp only [initial] at done
        split at done
        all_goals
          obtain ⟨text, _, done⟩ := lift_bind.mp done
          exact written (((mentions.append _).append _).append _) done

/-- How the parameters and locals of a function stand in the text. -/
structure PrintsFunction (printing stop : Compiler) (id : Id) (function : Function) : Prop where
  parameters : id ≠ printing.plan.entry → ∃ (returned : String) (texts : List String),
    List.Forall₂ (fun parameter text => Mentions text (printing.parameterName parameter))
      function.parameters texts ∧
    ∃ line ∈ stop.pass.lines.toList,
      line.text = applied s!"{returned} {printing.program.plainName id}" texts
  locals : ∀ var ∈ function.locals, ∀ data type, printing.program.dataType var = .ok (data, type) →
    type.isOpaque = false →
      ∃ line ∈ stop.pass.lines.toList, Mentions line.text (printing.program.plainName var)

def signatureOf (id : Id) : Emit String := do
  let c ← get
  if id = c.plan.entry then entrySignature else c.functionSignature id

def behindLocals (id : Id) (isEntry : Bool) : Emit Unit := do
  if isEntry then
    bufferArrays
    (← (← get).program.getFunction id).fixupsIn.forM fixup
  body id
  endScope
  statement ""

theorem written_eq (id : Id) (c : Compiler) : written id c = (do
    let text ← signatureOf id
    statement text
    beginScope
    (← (← get).program.getFunction id).locals.forM localVariable
    behindLocals id (decide (id = c.plan.entry))) c := by
  have looks {α : Type} (next : Compiler → Emit α) : (get >>= next) c = next c c := rfl
  unfold written signatureOf behindLocals
  rw [bind_assoc, looks, looks]
  by_cases entry : id = c.plan.entry <;> simp [entry]

instance signatureOf_addsLines (id : Id) : Always AddsLines (signatureOf id) := by
  refine Always.onward fun c => ?_
  split <;> infer_instance

instance behindLocals_advances (id : Id) (isEntry : Bool) :
    Advancing (behindLocals id isEntry) := by
  unfold behindLocals
  cases isEntry <;> infer_instance

theorem written_prints (stored : c.program.getFunction id = .ok function)
    (done : written id c = .ok u c') : PrintsFunction c c' id function := by
  rw [written_eq] at done
  obtain ⟨text, signed, signing, done⟩ := bind_ok.mp done
  obtain ⟨_, printed, writing, done⟩ := bind_ok.mp done
  obtain ⟨_, opened, opening, done⟩ := bind_ok.mp done
  obtain ⟨found, found, done⟩ := read_bind.mp done
  obtain ⟨_, declared, declaring, more⟩ := bind_ok.mp done
  have signs : c.AddsLines signed := Keeps.keeps signing
  have writes : signed.AddsLines printed := Keeps.keeps writing
  have opens : printed.AddsLines opened := Keeps.keeps opening
  have declares : opened.AddsLines declared := Keeps.keeps declaring
  have later : declared.Advances c' := advances more
  have same : opened.program = c.program :=
    opens.program.trans (writes.program.trans signs.program)
  rw [same, stored] at found
  cases found
  refine ⟨fun other => ?_, fun var listed data type typed shown => ?_⟩
  · replace signing := get_bind.mp signing
    rw [if_neg other] at signing
    obtain ⟨spelled, rfl⟩ := lift_ok.mp signing
    obtain ⟨returned, texts, rfl, mentions⟩ := Compiler.functionSignature_mentions stored spelled
    have kept := opens.lines.trans (declares.lines.trans later.lines)
    exact ⟨returned, texts, mentions, _, kept.subset (statement_written writing), rfl⟩
  · obtain ⟨before, after, earlier, run, rest⟩ : ∃ before after, opened.AddsLines before ∧
        localVariable var before = .ok () after ∧ after.AddsLines declared :=
      forM_within declaring listed
    have same : before.program = c.program := earlier.program.trans same
    obtain ⟨line, written, mentions⟩ := localVariable_mentions (same ▸ typed) shown run
    exact ⟨line, (rest.lines.trans later.lines).subset written, same ▸ mentions⟩

theorem function_prints (done : Emit.function id c = .ok u c') :
    ∃ entered printing function, c.Advances entered ∧
      entered.program.getFunction id = .ok function ∧ distinguish id entered = .ok () printing ∧
      PrintsFunction printing c' id function := by
  rw [function_eq] at done
  obtain ⟨_, entered, entering, done⟩ := bind_ok.mp done
  obtain ⟨_, printing, telling, done⟩ := bind_ok.mp done
  obtain ⟨_, last, writing, leaving⟩ := bind_ok.mp done
  obtain ⟨function, program, stored, rfl, renamed, _⟩ := distinguish_lengthens telling
  have prints := written_prints ((renamed.alike.getFunction_eq id).trans stored) writing
  obtain rfl := modifyPass_ok.mp leaving
  exact ⟨entered, _, function, advances entering, stored, telling, prints.parameters, prints.locals⟩

/-- What it takes for the identifiers of a function to be different, once its names are told apart. -/
structure TellsApart (entered printing : Compiler) (function : Function) : Prop where
  listed : (printing.program.shown function.localIds).Nodup
  longer : entered.program.LengthensApart (function.localIds.filter entered.program.usesName)
  nameless : ∀ id ∈ printing.program.shown function.localIds,
    (printing.program.name id).isEmpty = true →
      s!"_{id}" ∉ (function.localIds.filter printing.program.usesName).map printing.program.name
  carried : (printing.carriedNames function).Nodup
  foreign : ∀ name ∈ printing.carriedNames function,
    name ∉ (printing.program.shown function.localIds).map printing.program.plainName

theorem identifiers_nodup_iff {entered printing : Compiler}
    (stored : entered.program.getFunction id = .ok function)
    (telling : distinguish id entered = .ok u printing) :
    (printing.identifiers function).Nodup ↔ TellsApart entered printing function := by
  obtain ⟨used, told⟩ := distinguish_told telling stored
  have names : (printing.program.shown function.localIds).Nodup ∧
      entered.program.LengthensApart (function.localIds.filter entered.program.usesName) ↔
        ((printing.program.shown function.localIds).filter
          fun id => (printing.program.name id).isEmpty).Nodup ∧
        ((function.localIds.filter printing.program.usesName).map printing.program.name).Nodup := by
    rw [Program.shown_nodup_iff, used, told, and_assoc]
  rw [(printing.identifiers_perm function).nodup_iff, nodup_append,
    Program.plainNames_nodup_iff]
  constructor
  · rintro ⟨carried, ⟨empty, named, nameless⟩, apart⟩
    obtain ⟨listed, longer⟩ := names.mpr ⟨empty, named⟩
    exact ⟨listed, longer, nameless, carried, fun name known other =>
      apart name known name other rfl⟩
  · rintro ⟨listed, longer, nameless, carried, foreign⟩
    obtain ⟨empty, named⟩ := names.mp ⟨listed, longer⟩
    refine ⟨carried, ⟨empty, named, nameless⟩, fun name known other plain same => ?_⟩
    exact foreign name known (same ▸ plain)

theorem PrintsFunction.mono {printing stop : Compiler} (prints : PrintsFunction printing c id function)
    (later : c.Advances stop) : PrintsFunction printing stop id function where
  parameters other := by
    obtain ⟨returned, texts, mentions, line, listed, text⟩ := prints.parameters other
    exact ⟨returned, texts, mentions, line, later.lines.subset listed, text⟩
  locals var listed data type typed shown := by
    obtain ⟨line, listed, mentions⟩ := prints.locals var listed data type typed shown
    exact ⟨line, later.lines.subset listed, mentions⟩

/-- The names of a function, as they stand in the text, are different exactly if nothing is listed
twice, no longer name is that of an earlier parameter or local, and names that are not told apart are
different from all others. -/
theorem function_names_distinct_iff {text : String} {stop : Compiler}
    (compiled : compile c = .ok text stop) :
    ∃ start, pass start = .ok () stop ∧ stop.output = text ∧
      ∀ id ∈ start.plan.callGraph.order, ∃ entered printing function,
        start.Advances entered ∧ entered.program.getFunction id = .ok function ∧
        distinguish id entered = .ok () printing ∧ PrintsFunction printing stop id function ∧
        ((printing.identifiers function).Nodup ↔ TellsApart entered printing function) := by
  obtain ⟨_, start, _, writes, same⟩ := compile_last compiled
  refine ⟨start, writes.written, same, fun id ordered => ?_⟩
  obtain ⟨before, after, earlier, run, later⟩ := pass_runs_function writes.written ordered
  obtain ⟨entered, printing, function, enters, stored, telling, prints⟩ := function_prints run
  exact ⟨entered, printing, function, earlier.trans enters, stored, telling, prints.mono later,
    identifiers_nodup_iff stored telling⟩

theorem function_names_distinct_namesakes :
    ∃ program text stop start entered printing function,
      Program.ofModule (namesakes "y") = .ok program ∧
      compile (Compiler.new program {}) = .ok text stop ∧ pass start = .ok () stop ∧
      stop.program.localIdsOf 20 = [10, 12, 14] ∧
      [10, 12, 14].map stop.program.name = ["x", "x_12", "y"] ∧
      entered.program.getFunction 20 = .ok function ∧
      distinguish 20 entered = .ok () printing ∧ PrintsFunction printing stop 20 function ∧
      ((printing.identifiers function).Nodup ↔ TellsApart entered printing function) := by
  have computed : (compiled? (namesakes "y") {}).any (fun stop =>
      20 ∈ stop.plan.callGraph.order ∧ stop.program.localIdsOf 20 = [10, 12, 14] ∧
      [10, 12, 14].map stop.program.name = ["x", "x_12", "y"]) = true := by
    decide +kernel
  obtain ⟨program, text, stop, loaded, compiled, ordered, locals,
    names⟩ := compiled?_decide computed
  obtain ⟨start, written, _, each⟩ := function_names_distinct_iff compiled
  have reached : start.Advances stop := advances written
  obtain ⟨entered, printing, function, _, stored, telling, prints, distinct⟩ :=
    each 20 (settled_callGraph reached.plan ▸ ordered)
  exact ⟨program, text, stop, start, entered, printing, function, loaded, compiled, written, locals,
    names, stored, telling, prints, distinct⟩

/-- Three locals, of which the first one is named as the last one will be. -/
def lookalikes : Spirv.Module where
  entryPoints := [.entry .glCompute 20 []]
  names := [
    ⟨.debugName, none, none, [.idRef 14, .text "x_12"]⟩,
    ⟨.debugName, none, none, [.idRef 10, .text "x"]⟩,
    ⟨.debugName, none, none, [.idRef 12, .text "x"]⟩]
  globals := [
    ⟨.typeVoid, none, some 2, []⟩,
    ⟨.typeFloat, none, some 3, [.literal 32]⟩, .pointer 4 .function 3,
    ⟨.typeFunction, none, some 5, [.idRef 2]⟩]
  functions := [.ofBody 2 20 5 21 [.variable 14 4 .function, .variable 10 4 .function,
    .variable 12 4 .function]]

theorem lookalikes_share_name :
    ∃ program text stop function, Program.ofModule lookalikes = .ok program ∧
      compile (Compiler.new program {}) = .ok text stop ∧
      stop.program.getFunction 20 = .ok function ∧ ¬ (stop.identifiers function).Nodup ∧
      (stop.pass.lines.toList.map (·.text)).count "float x_12;" = 2 := by
  have computed : (compiled? lookalikes {}).any (fun stop =>
      ((stop.program.functionAt? 20).any fun function =>
        ¬ (stop.identifiers function).Nodup) ∧
      (stop.pass.lines.toList.map (·.text)).count "float x_12;" = 2) = true := by
    decide +kernel
  obtain ⟨program, text, stop, loaded, compiled, shared, twice⟩ := compiled?_decide computed
  obtain ⟨function, stored, shared⟩ := (Option.any_eq_true _ _).mp shared
  exact ⟨program, text, stop, function, loaded, compiled, Program.getFunction_ok.mpr stored,
    of_decide_eq_true shared, twice⟩

/-- A function with the name that the entry point gets. -/
theorem function_named_as_entry : ∃ program text stop,
      Program.ofModule { namesakes "y" with names := [namesakes.name 22 "main0"] } = .ok program ∧
      compile (Compiler.new program {}) = .ok text stop ∧
      ["void main0(thread float& v_14)", "kernel void main0()"] ⊆
        stop.pass.lines.toList.map (·.text) :=
  compiled?_decide (by decide +kernel)

end Emit

end SpirvMetal
