import SpirvMetal.Metal.Signature
import SpirvMetal.Proofs.Program.Growth

/-!
Positions in calls and signatures: both are read as lists of positions, each of one kind. The kinds
differ only for a builtin of a block that has the type of an image.
-/

namespace SpirvMetal.Compiler

open List

variable {α β : Type} {parameters : List Parameter} {type callee : Id} {operands : List Id}
  {index : Nat} {argument : Argument}

/-- What stands at a position of an argument or parameter list. -/
inductive PositionKind
  | plain
  | sampler
  | swizzle
  | builtin
deriving DecidableEq

structure Position where
  kind : PositionKind
  text : String

def attached (kind : PositionKind) (condition : Bool) (text : Except Fault String) :
    Except Fault (List Position) :=
  if condition then do return [⟨kind, ← text⟩] else pure []

variable (c : Compiler)

/-- The positions behind an image of a type, or of the type that it points to. -/
def companionPositions (type : Id) (sampler swizzle : Except Fault String) :
    Except Fault (List Position) := do
  let (_, found) ← c.program.pointee type
  let samplers ← attached .sampler (needsSampler found) sampler
  let swizzles ← attached .swizzle (← c.needsSwizzle type) swizzle
  return samplers ++ swizzles

def argumentPositions (parameter : Parameter) : Argument → Except Fault (List Position)
  | .builtin text => .ok [⟨.builtin, text⟩]
  | .value id => do
    let text ← c.textOf id
    let rest ← c.companionPositions parameter.type (c.samplerText id) (c.swizzleText id)
    return ⟨.plain, text⟩ :: rest

def callPositions (callee : Id) (operands : List Id) (parameters : List Parameter) :
    Except Fault (List Position) := do
  let parts ← parameters.zipIdx.mapM fun (parameter, index) => do
    c.argumentPositions parameter (← c.argumentFor callee operands index parameter)
  return parts.flatten

def isBlockBuiltin (parameter : Parameter) : Bool :=
  parameter.threaded && (c.program.variableAt? parameter.id).any (·.base.isNone)

def parameterPositions (parameter : Parameter) : Except Fault (List Position) := do
  let space := (← c.argumentSpace parameter.id).text
  let declaration ← c.argumentDeclaration parameter
  let first := if space.isEmpty then declaration else s!"{space} {declaration}"
  let rest ← c.companionPositions parameter.type
    (do return s!"thread const sampler {← c.samplerText parameter.id}")
    (do return s!"constant uint32_t& {← c.swizzleText parameter.id}")
  return ⟨if c.isBlockBuiltin parameter then .builtin else .plain, first⟩ :: rest

def signaturePositions (parameters : List Parameter) : Except Fault (List Position) := do
  return (← parameters.mapM c.parameterPositions).flatten

variable {c} {parameter : Parameter}

theorem attached_bind (kind : PositionKind) (condition : Bool) (text : Except Fault String)
    (next : List Position → Except Fault α) :
    attached kind condition text >>= next =
      if condition then do next [⟨kind, ← text⟩] else next [] := by
  cases condition with
  | false => rfl
  | true => simp [attached]

theorem argumentTexts_eq (argument : Argument) : c.argumentTexts parameter argument =
      List.map (·.text) <$> c.argumentPositions parameter argument := by
  cases argument with
  | builtin text => rfl
  | value id =>
    simp only [argumentTexts, argumentPositions, companionPositions, map_bind, bind_assoc,
      pure_bind, map_pure]
    simp only [attached_bind]
    rfl

theorem parameterText_eq : c.parameterText parameter =
      (fun part => ", ".intercalate (part.map Position.text)) <$>
        c.parameterPositions parameter := by
  simp only [parameterText, parameterPositions, companionPositions, map_bind, bind_assoc,
    pure_bind, map_pure]
  simp only [attached_bind, pure_bind, bind_assoc]
  rfl

theorem map_ok {result : Except Fault α} {change : α → β} {b : β} :
    change <$> result = .ok b ↔ ∃ a, result = .ok a ∧ change a = b := by
  cases result <;> simp

theorem mapM_map_right {γ : Type} (items : List α) (step : α → Except Fault β) (change : β → γ) :
    items.mapM (fun item => change <$> step item) = List.map change <$> items.mapM step := by
  induction items with
  | nil => rfl
  | cons first rest ih => simp [mapM_cons, ih]

theorem intercalate_flatten {separator : String} {parts : List (List String)}
    (filled : ∀ part ∈ parts, part ≠ []) :
    separator.intercalate (parts.map separator.intercalate) =
      separator.intercalate parts.flatten := by
  have joined (front back : List String) (left : front ≠ []) (right : back ≠ []) :
      separator.intercalate (front ++ back) =
        separator.intercalate front ++ separator ++ separator.intercalate back := by
    induction front with
    | nil => exact absurd rfl left
    | cons first rest ih =>
      cases rest with
      | nil =>
        obtain ⟨next, others, rfl⟩ := exists_cons_of_ne_nil right
        simp [String.intercalate_cons_cons]
      | cons next others =>
        have rest := ih (by simp)
        simp only [cons_append, String.intercalate_cons_cons] at rest ⊢
        rw [rest]
        simp [String.append_assoc]
  induction parts with
  | nil => rfl
  | cons part rest ih =>
    have here := filled part (by simp)
    have later := ih fun part member => filled part (by simp [member])
    cases rest with
    | nil => simp
    | cons next others =>
      have behind : (next :: others).flatten ≠ [] := by
        simp [filled next (by simp)]
      rw [flatten_cons, joined part _ here behind, ← later]
      exact String.intercalate_cons_cons

variable {part positions : List Position}

theorem parameterPositions_ne_nil (found : c.parameterPositions parameter = .ok part) :
    part ≠ [] := by
  simp only [parameterPositions, Except.bind_ok] at found
  obtain ⟨_, _, _, _, _, _, found⟩ := found
  cases found
  simp

theorem parameterTexts_ok {texts : List String}
    (found : parameters.mapM c.parameterText = .ok texts) :
    ∃ positions, c.signaturePositions parameters = .ok positions ∧
      ", ".intercalate texts = ", ".intercalate (positions.map (·.text)) := by
  have spelled : parameters.mapM c.parameterText =
      List.map (fun part => ", ".intercalate (part.map Position.text)) <$>
        parameters.mapM c.parameterPositions := by
    rw [← mapM_map_right]
    exact congrArg (List.mapM · parameters) (funext fun _ => parameterText_eq)
  rw [spelled] at found
  obtain ⟨parts, mapped, rfl⟩ := map_ok.mp found
  refine ⟨parts.flatten, Except.bind_ok.mpr ⟨parts, mapped, rfl⟩, ?_⟩
  have filled : ∀ part ∈ parts.map (List.map Position.text), part ≠ [] := by
    have steps := Except.mapM_ok.mp mapped
    clear mapped found spelled
    induction steps with
    | nil => simp
    | cons here _ ih =>
      rw [map_cons, forall_mem_cons]
      exact ⟨by simpa using parameterPositions_ne_nil here, ih⟩
  rw [map_flatten, ← intercalate_flatten filled, map_map]
  rfl

theorem functionSignature_ok {id : Id} {line : String}
    (signed : c.functionSignature id = .ok line) :
    ∃ found positions returned, c.program.getFunction id = .ok found ∧
      c.signaturePositions found.parameters = .ok positions ∧
      line = applied (returned ++ " " ++ c.program.plainName id) (positions.map (·.text)) := by
  obtain ⟨found, stored, signed⟩ := Except.bind_ok.mp signed
  obtain ⟨type, typed, signed⟩ := Except.bind_ok.mp signed
  split at signed
  · cases signed
  · obtain ⟨texts, spelled, signed⟩ := Except.bind_ok.mp signed
    obtain ⟨returned, _, signed⟩ := Except.bind_ok.mp signed
    obtain ⟨positions, placed, joined⟩ := parameterTexts_ok spelled
    refine ⟨found, positions, returned, stored, placed, ?_⟩
    rw [← Except.ok.inj signed, applied, joined]
    rfl

def companions (c : Compiler) (type : Id) : List PositionKind :=
  match c.program.pointee type with
  | .error _ => []
  | .ok (_, found) =>
    (if needsSampler found then [.sampler] else []) ++
      if c.plan.auxBuffer.isSome && (found.isSampled && found.dim? ≠ some .dimBuffer) then
        [.swizzle]
      else []

def argumentKinds (c : Compiler) (parameter : Parameter) : List PositionKind :=
  if c.isBlockBuiltin parameter then [.builtin] else .plain :: c.companions parameter.type

def parameterKinds (c : Compiler) (parameter : Parameter) : List PositionKind :=
  (if c.isBlockBuiltin parameter then .builtin else .plain) :: c.companions parameter.type

theorem attached_kinds {kind : PositionKind} {condition : Bool} {text : Except Fault String}
    (found : attached kind condition text = .ok part) :
    part.map (·.kind) = if condition then [kind] else [] := by
  cases condition with
  | false =>
    cases found
    rfl
  | true =>
    obtain ⟨spelled, _, found⟩ := Except.bind_ok.mp found
    cases found
    rfl

theorem needsSwizzle_eq {target : Id} {found : ValueType}
    (pointee : c.program.pointee type = .ok (target, found)) :
    c.needsSwizzle type =
      .ok (c.plan.auxBuffer.isSome && (found.isSampled && found.dim? ≠ some .dimBuffer)) := by
  cases aux : c.plan.auxBuffer with
  | none => simp [needsSwizzle, aux, pure, Except.pure]
  | some var => simp [needsSwizzle, aux, pointee, pure, Except.pure, bind, Except.bind]

theorem companionPositions_kinds {sampler swizzle : Except Fault String} {rest : List Position}
    (found : c.companionPositions type sampler swizzle = .ok rest) :
    rest.map (·.kind) = c.companions type := by
  simp only [companionPositions, Except.bind_ok] at found
  obtain ⟨⟨target, found'⟩, pointee, samplers, sampling, swizzles, needed, swizzled, swizzling,
    found⟩ := found
  cases found
  rw [needsSwizzle_eq pointee] at needed
  cases needed
  rw [map_append, attached_kinds sampling, attached_kinds swizzling]
  simp [companions, pointee]

theorem parameterPositions_kinds (found : c.parameterPositions parameter = .ok part) :
    part.map (·.kind) = c.parameterKinds parameter := by
  simp only [parameterPositions, Except.bind_ok] at found
  obtain ⟨space, _, declaration, _, rest, attached, found⟩ := found
  cases found
  simp only [map_cons, companionPositions_kinds attached]
  rfl

theorem argumentFor_kind (found : c.argumentFor callee operands index parameter = .ok argument) :
    (∃ text, argument = .builtin text) ∧ c.isBlockBuiltin parameter = true ∨
      (∃ id, argument = .value id) ∧ c.isBlockBuiltin parameter = false := by
  unfold argumentFor at found
  split at found
  · rename_i own
    have plain : c.isBlockBuiltin parameter = false := by
      simp only [Bool.not_eq_true'] at own
      simp [isBlockBuiltin, own]
    split at found
    · cases found
      exact .inr ⟨⟨_, rfl⟩, plain⟩
    · cases found
  · rename_i threaded
    obtain ⟨var, reading, found⟩ := Except.bind_ok.mp found
    have stored := Program.getVariable_ok.mp reading
    have carries : c.isBlockBuiltin parameter = var.base.isNone := by
      simp only [Bool.not_eq_true', Bool.not_eq_false] at threaded
      simp [isBlockBuiltin, threaded, stored]
    cases base : var.base with
    | some global =>
      simp only [base] at found
      cases found
      exact .inr ⟨⟨_, rfl⟩, by simp [carries, base]⟩
    | none =>
      simp only [base] at found
      split at found
      · cases found
      · obtain ⟨type, _, found⟩ := Except.bind_ok.mp found
        obtain ⟨text, _, found⟩ := Except.bind_ok.mp found
        cases found
        exact .inl ⟨⟨text, rfl⟩, by simp [carries, base]⟩

theorem mapM_kinds {step : α → Except Fault (List Position)} {items : List α}
    {kinds : α → List PositionKind} {parts : List (List Position)}
    (each : ∀ item part, step item = .ok part → part.map (·.kind) = kinds item)
    (done : items.mapM step = .ok parts) : parts.flatten.map (·.kind) = items.flatMap kinds := by
  have steps := Except.mapM_ok.mp done
  clear done
  induction steps with
  | nil => rfl
  | cons here _ ih => rw [flatten_cons, map_append, flatMap_cons, each _ _ here, ih]

theorem callPositions_kinds (found : c.callPositions callee operands parameters = .ok positions) :
    positions.map (·.kind) = parameters.flatMap c.argumentKinds := by
  obtain ⟨parts, done, found⟩ := Except.bind_ok.mp found
  cases found
  have each (item : Parameter × Nat) (part : List Position)
      (found : (c.argumentFor callee operands item.2 item.1 >>= c.argumentPositions item.1) =
        .ok part) : part.map (·.kind) = c.argumentKinds item.1 := by
    obtain ⟨argument, chosen, found⟩ := Except.bind_ok.mp found
    rcases argumentFor_kind chosen with ⟨⟨text, rfl⟩, carries⟩ | ⟨⟨id, rfl⟩, plain⟩
    · cases found
      simp [argumentKinds, carries]
    · simp only [argumentPositions, Except.bind_ok] at found
      obtain ⟨text, _, rest, attached, found⟩ := found
      cases found
      simp [argumentKinds, plain, companionPositions_kinds attached]
  rw [mapM_kinds each done]
  nth_rewrite 2 [← zipIdx_map_fst 0 parameters]
  rw [flatMap_map]

theorem signaturePositions_kinds (found : c.signaturePositions parameters = .ok positions) :
    positions.map (·.kind) = parameters.flatMap c.parameterKinds := by
  obtain ⟨parts, done, found⟩ := Except.bind_ok.mp found
  cases found
  exact mapM_kinds (fun _ _ found => parameterPositions_kinds found) done

/-- A call and a signature agree on the kinds of all positions exactly if no builtin of a block is
followed by anything. -/
theorem kinds_agree_iff (c : Compiler) (parameters : List Parameter) :
    parameters.flatMap c.argumentKinds = parameters.flatMap c.parameterKinds ↔
      ∀ parameter ∈ parameters, c.isBlockBuiltin parameter = true →
        c.companions parameter.type = [] := by
  have shorter (parameter : Parameter) :
      (c.argumentKinds parameter).length ≤ (c.parameterKinds parameter).length := by
    unfold argumentKinds parameterKinds
    split <;> simp
  have shorterAll (parameters : List Parameter) :
      (parameters.flatMap c.argumentKinds).length ≤
        (parameters.flatMap c.parameterKinds).length := by
    induction parameters with
    | nil => simp
    | cons first rest ih =>
      have here := shorter first
      simp only [flatMap_cons, length_append]
      omega
  constructor
  · intro agree
    induction parameters with
    | nil => simp
    | cons first rest ih =>
      -- neither part is shorter, so the lists agree parameter by parameter
      have lengths := congrArg List.length agree
      simp only [flatMap_cons, length_append] at lengths
      have here := shorter first
      have later := shorterAll rest
      have same : (c.argumentKinds first).length = (c.parameterKinds first).length := by omega
      obtain ⟨_, tail⟩ := append_inj agree same
      intro parameter member carries
      rcases mem_cons.mp member with rfl | member
      · simpa [argumentKinds, parameterKinds, carries] using same.symm
      · exact ih tail parameter member carries
  · intro alone
    refine flatMap_congr fun parameter member => ?_
    unfold argumentKinds parameterKinds
    split
    · rename_i carries
      rw [alone parameter member carries]
    · rfl

end SpirvMetal.Compiler
