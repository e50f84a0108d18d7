import SpirvMetal.Proofs.Flow.Preserved
import SpirvMetal.Proofs.Flow.Stack
import SpirvMetal.Proofs.Passes.Text
import SpirvMetal.Proofs.Program.Samples

/-!
Scopes in the code of a function. Each construct of a listing opens its own and closes them, and
whatever is written begins and ends at the same depth.
-/

namespace SpirvMetal

/-- The state is at the same depth again, and no line in between is above it. -/
structure Compiler.Balances (before after : Compiler) : Prop where
  depth : after.pass.depth = before.pass.depth
  lines : ∃ added, after.pass.lines.toList = before.pass.lines.toList ++ added ∧
    ∀ line ∈ added, before.pass.depth ≤ line.depth

namespace Compiler.Balances

variable {before after : Compiler}

theorem of_same (lines : after.pass.lines = before.pass.lines)
    (depth : after.pass.depth = before.pass.depth) : before.Balances after :=
  ⟨depth, [], by simp [lines], by simp⟩

instance : AllowsInstructions Balances where
  refl _ := of_same rfl rfl
  trans _ _ _ first second := by
    obtain ⟨added, lines, deeper⟩ := first.lines
    obtain ⟨added', lines', deeper'⟩ := second.lines
    rw [first.depth] at deeper'
    exact ⟨second.depth.trans first.depth, added ++ added',
      by rw [lines', lines, List.append_assoc], List.forall_mem_append.mpr ⟨deeper, deeper'⟩⟩
  lines adds := ⟨adds.depth, adds.deeper⟩
  notes lines depth _ := of_same lines depth
  discovers _ _ := of_same rfl rfl
  opens _ := of_same rfl rfl

instance : AllowsSlots Balances where
  slots adds := of_same adds.lines adds.depth
  marks _ := of_same rfl rfl

end Compiler.Balances

namespace Emit

open Compiler (Balances)

variable {α : Type} {c c' : Compiler} {u : Unit}

/-- Lines between braces, which are one deeper. -/
def braced (depth : Nat) (inner : List Line) : List Line :=
  ⟨depth, "\x7b"⟩ :: (inner ++ [⟨depth, "\x7d"⟩])

def conditionLine (depth : Nat) (expected : Bool) (text : String) : Line :=
  ⟨depth, if expected then s!"if ({text})" else s!"if (!{text})"⟩

/-- The lines of a listing. Conditions and selectors are any texts, and blocks and returns any lines
that are deep enough. -/
inductive Spells : Listing → Nat → List Line → Prop
  | skip {depth} : Spells .skip depth []
  | seq {first second depth front back} : Spells first depth front → Spells second depth back →
      Spells (.seq first second) depth (front ++ back)
  | block {label depth lines} : (∀ line ∈ lines, depth ≤ line.depth) →
      Spells (.block label) depth lines
  | assign {phi value depth} (text : String) :
      Spells (.assign phi value) depth [⟨depth, s!"{temporary phi} = {text};"⟩]
  | when {id expected arm depth inner} (text : String) : Spells arm (depth + 1) inner →
      Spells (.when id expected arm) depth
        ([conditionLine depth expected text] ++ braced depth inner)
  | branch {id expected arm other depth inner rest} (text : String) :
      Spells arm (depth + 1) inner → Spells other (depth + 1) rest →
      Spells (.branch id expected arm other) depth
        ([conditionLine depth expected text] ++ braced depth inner ++ [⟨depth, "else"⟩] ++
          braced depth rest)
  | loop {body depth inner} : Spells body (depth + 1) inner →
      Spells (.loop body) depth ([⟨depth, "for (;;)"⟩] ++ braced depth inner)
  | switch {selector arms depth inner} (text : String) : Spells arms (depth + 1) inner →
      Spells (.switch selector arms) depth ([⟨depth, s!"switch ({text})"⟩] ++ braced depth inner)
  | arm {literals isDefault body depth inner} : Spells body (depth + 1) inner →
      Spells (.arm literals isDefault body) depth
        (literals.map (fun literal => ⟨depth, s!"case {literal}:"⟩) ++
          (if isDefault then [⟨depth, "default:"⟩] else []) ++ braced depth inner)
  | leave {depth} : Spells .leave depth [⟨depth, "break;"⟩]
  | again {depth} : Spells .again depth [⟨depth, "continue;"⟩]
  | ret {value last depth lines} : (∀ line ∈ lines, depth ≤ line.depth) →
      Spells (.ret value last) depth lines
  | discard {depth} : Spells .discard depth [⟨depth, "discard_fragment();"⟩]

/-- From one state to the other these lines are written, and the depth is the same again. -/
structure Writes (depth : Nat) (lines : List Line) (c c' : Compiler) : Prop where
  start : c.pass.depth = depth
  stop : c'.pass.depth = depth
  lines : c'.pass.lines.toList = c.pass.lines.toList ++ lines

theorem Writes.append {depth : Nat} {first second : List Line} {middle : Compiler}
    (left : Writes depth first c middle) (right : middle.pass.depth = depth →
      Writes depth second middle c') : Writes depth (first ++ second) c c' :=
  have right := right left.stop
  ⟨left.start, right.stop, by rw [right.lines, left.lines, List.append_assoc]⟩

theorem statement_writes {depth : Nat} {text : String} (run : statement text c = .ok u c')
    (start : c.pass.depth = depth) : Writes depth [⟨depth, text⟩] c c' := by
  obtain rfl := modifyPass_ok.mp run
  exact ⟨start, start, by simp [start]⟩

theorem condition_writes {id : Id} {expected : Bool} (run : condition id expected c = .ok u c') :
    ∃ text, Writes c.pass.depth [conditionLine c.pass.depth expected text] c c' := by
  obtain ⟨value, _, run⟩ := text_bind.mp run
  cases expected with
  | true => exact ⟨value, statement_writes run rfl⟩
  | false => exact ⟨enclose value, statement_writes run rfl⟩

theorem labels_write {depth : Nat} {literals : List String}
    (run : literals.forM (fun literal => statement s!"case {literal}:") c = .ok u c')
    (start : c.pass.depth = depth) :
    Writes depth (literals.map fun literal => ⟨depth, s!"case {literal}:"⟩) c c' := by
  induction literals generalizing c with
  | nil =>
    obtain ⟨-, rfl⟩ := pure_ok.mp run
    exact ⟨start, start, by simp⟩
  | cons literal rest ih =>
    obtain ⟨_, middle, first, run⟩ := bind_ok.mp run
    exact (statement_writes first start).append (ih run)

/-- Behind other lines at the same depth a scope is written. -/
theorem Writes.scope {part : Emit Unit} {code : Listing} {depth : Nat} {front : List Line}
    {middle : Compiler} (before : Writes depth front c middle)
    (inside : ∀ {c c' u}, part c = .ok u c' →
      ∃ lines, Spells code c.pass.depth lines ∧ Writes c.pass.depth lines c c')
    (run : scope part middle = .ok u c') :
    ∃ inner, Spells code (depth + 1) inner ∧ Writes depth (front ++ braced depth inner) c c' := by
  obtain ⟨_, opened, begun, run⟩ := bind_ok.mp run
  obtain ⟨_, inner, run, ended⟩ := bind_ok.mp run
  obtain ⟨lines, spells, written⟩ := inside run
  cases begun
  cases ended
  obtain ⟨start, rfl, before⟩ := before
  have deep : inner.pass.depth = middle.pass.depth + 1 := written.stop
  exact ⟨lines, spells, start, Nat.sub_eq_of_eq_add deep,
    by simp [written.lines, before, deep, braced]⟩

instance scope_balances (part : Emit Unit) [keeps : Keeps Balances part] :
    Keeps Balances (scope part) where
  keeps {c c' u} done := by
    obtain ⟨_, opened, begun, done⟩ := bind_ok.mp done
    obtain ⟨_, inner, run, ended⟩ := bind_ok.mp done
    obtain ⟨depth, added, lines, deeper⟩ := keeps.keeps run
    cases begun
    cases ended
    have deep : inner.pass.depth = c.pass.depth + 1 := depth
    refine ⟨Nat.sub_eq_of_eq_add deep, braced c.pass.depth added, ?_, ?_⟩
    · simp [lines, deep, braced]
    · simp only [braced, List.forall_mem_cons, List.forall_mem_append]
      exact ⟨Nat.le_refl _, fun line member => Nat.le_of_succ_le (deeper line member), by simp⟩

instance listing_balances (blocks : List Block) (code : Listing) :
    Keeps Balances (listing blocks code) := by
  induction code <;> simp only [Emit.listing] <;> infer_instance

/-- What is written for a listing are its lines. -/
theorem listing_spells {blocks : List Block} {code : Listing}
    (run : listing blocks code c = .ok u c') :
    ∃ lines, Spells code c.pass.depth lines ∧ Writes c.pass.depth lines c c' := by
  induction code generalizing c c' u with simp only [Emit.listing] at run
  | skip =>
    obtain ⟨-, rfl⟩ := pure_ok.mp run
    exact ⟨[], .skip, rfl, rfl, by simp⟩
  | seq first second firstIh secondIh =>
    obtain ⟨_, middle, firstRun, secondRun⟩ := bind_ok.mp run
    obtain ⟨front, spelled, written⟩ := firstIh firstRun
    obtain ⟨back, spelled', later⟩ := secondIh secondRun
    rw [written.stop] at spelled' later
    exact ⟨_, .seq spelled spelled', written.append fun _ => later⟩
  | block label =>
    obtain ⟨depth, lines, written, deeper⟩ : c.Balances c' := Keeps.keeps run
    exact ⟨lines, .block deeper, rfl, depth, written⟩
  | assign phi value =>
    obtain ⟨text, _, run⟩ := text_bind.mp run
    exact ⟨_, .assign text, statement_writes run rfl⟩
  | «when» id expected arm ih =>
    obtain ⟨_, middle, headRun, run⟩ := bind_ok.mp run
    obtain ⟨text, head⟩ := condition_writes headRun
    obtain ⟨inner, spelled, written⟩ := head.scope ih run
    exact ⟨_, .when text spelled, written⟩
  | branch id expected arm other armIh otherIh =>
    obtain ⟨_, middle, headRun, run⟩ := bind_ok.mp run
    obtain ⟨_, armed, armRun, run⟩ := bind_ok.mp run
    obtain ⟨_, turned, elseRun, otherRun⟩ := bind_ok.mp run
    obtain ⟨text, head⟩ := condition_writes headRun
    obtain ⟨inner, spelled, written⟩ := head.scope armIh armRun
    obtain ⟨rest, spelled', written'⟩ :=
      (written.append (statement_writes elseRun)).scope otherIh otherRun
    exact ⟨_, .branch text spelled spelled', written'⟩
  | loop body ih =>
    obtain ⟨_, middle, headRun, run⟩ := bind_ok.mp run
    obtain ⟨inner, spelled, written⟩ := (statement_writes headRun rfl).scope ih run
    exact ⟨_, .loop spelled, written⟩
  | switch selector arms ih =>
    obtain ⟨text, _, run⟩ := text_bind.mp run
    obtain ⟨_, middle, headRun, run⟩ := bind_ok.mp run
    obtain ⟨inner, spelled, written⟩ := (statement_writes headRun rfl).scope ih run
    exact ⟨_, .switch text spelled, written⟩
  | arm literals isDefault body ih =>
    obtain ⟨_, middle, labelsRun, run⟩ := bind_ok.mp run
    have labels := labels_write labelsRun rfl
    cases isDefault with
    | false =>
      obtain ⟨inner, spelled, written⟩ := labels.scope ih run
      exact ⟨_, .arm spelled, by simpa using written⟩
    | true =>
      obtain ⟨_, named, defaultRun, run⟩ := bind_ok.mp run
      obtain ⟨inner, spelled, written⟩ := (labels.append (statement_writes defaultRun)).scope ih run
      exact ⟨_, .arm spelled, written⟩
  | leave => exact ⟨_, .leave, statement_writes run rfl⟩
  | again => exact ⟨_, .again, statement_writes run rfl⟩
  | ret value last =>
    obtain ⟨depth, lines, written, deeper⟩ : c.Balances c' := Keeps.keeps run
    exact ⟨lines, .ret deeper, rfl, depth, written⟩
  | discard => exact ⟨_, .discard, statement_writes run rfl⟩

instance body_balances (function : Id) : Keeps Balances (body function) := by
  simp only [Emit.body]
  repeat refine .onward fun _ => ?_
  split <;> infer_instance

def writeListed (blocks : List Block) (part : Listed α) : Emit α := do
  listing blocks part.listing
  part.result

open Structure (listWithin arm follow)

/-- A specialization constant whose name ends with a brace, and its value in a local variable. -/
def braceNamed : Spirv.Module where
  entryPoints := [.entry .glCompute 20 []]
  names := [⟨.debugName, none, none, [.idRef 10, .text "n\x7d"]⟩]
  annotations := [⟨.decorate, none, none, [.idRef 10, .decoration .specId, .literal 0]⟩]
  globals := [⟨.typeVoid, none, some 2, []⟩, ⟨.typeFunction, none, some 3, [.idRef 2]⟩,
    ⟨.typeInt, none, some 4, [.literal 32, .literal 0]⟩,
    ⟨.specConstant, some 4, some 10, [.literal 3]⟩,
    .pointer 9 .function 4]
  functions := [.ofBody 2 20 3 21 [.variable 12 9 .function,
    ⟨.store, none, none, [.idRef 12, .idRef 10]⟩]]

end Emit

end SpirvMetal
