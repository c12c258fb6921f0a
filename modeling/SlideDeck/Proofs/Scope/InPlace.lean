import SlideDeck.Proofs.Scope.Assignment

/-!
# Changing scopes in place

A method runs on a state and leaves one whether it answers or fails, so what it has written before
it fails is still there. The methods here look whether something can be done, and write then; in
parentheses stand the functions that they model, step by step. Each method comes to the function
that gives a new state or none, so none of them leaves anything half done.

Results:
* `Method.on_ofWriter`: what fails on a part of a state leaves the whole as it was.
* `Scope.declareVariableInPlace_eq`, `Scope.declareMacroInPlace_eq`, `Scope.setTextInPlace_eq`,
  `Attribute.applyInPlace_eq`: the methods on a scope and on its target, one by one.
* `Environment.assignInPlace_eq`: assigning writes to the binding that is found first.
-/

namespace SlideDeck

/-- A method that runs on a state, and leaves one also when it fails. -/
abbrev Method (σ α : Type) : Type := ExceptT CompileError (StateM σ) α

namespace Method

variable {σ τ α β : Type}

/-- Goes over to the new state, if there is one. -/
def ofWriter (f : σ → Except CompileError σ) : Method σ Unit := fun s =>
  match f s with
  | .ok s' => (.ok (), s')
  | .error e => (.error e, s)

/-- Runs on a part of the state, and puts back what is left of that. -/
def on (part : σ → τ) (put : σ → τ → σ) (x : Method τ Unit) : Method σ Unit := fun s =>
  let left := x (part s)
  (left.1, put s left.2)

/-- What fails on a part of a state leaves the whole as it was. -/
theorem on_ofWriter {part : σ → τ} {put : σ → τ → σ} (h : ∀ s, put s (part s) = s)
    (f : τ → Except CompileError τ) :
    on part put (ofWriter f) = ofWriter fun s => (f (part s)).map (put s) := by
  funext s
  simp only [on, ofWriter]
  cases f (part s) with
  | ok t => rfl
  | error e => rw [h]; rfl

/-- To look at the state changes nothing. -/
theorem get_bind (f : σ → Method σ β) (s : σ) : ((get : Method σ σ) >>= f) s = f s s := rfl

/-- To find a value and to write then is to write if there is one. -/
theorem lift_bind_set (x : Except CompileError α) (g : α → σ) :
    ((liftM x : Method σ α) >>= fun a => set (g a)) = ofWriter fun _ => x.map g := by
  funext s
  cases x with
  | ok a => rfl
  | error e => rfl

end Method

/-! ## One scope -/

namespace Scope

/-- Declares a variable (`Scope::declare_variable`). -/
def declareVariableInPlace (name : String) (b : Binding) : Method Scope Unit := do
  if (← get).bindings.has name then
    throw (.variableRedeclared name)
  modify fun s => { s with bindings := s.bindings.insert name b }

/-- Declares a macro (`Scope::declare_macro`). -/
def declareMacroInPlace (name : String) (body : List Statement) : Method Scope Unit := do
  if (← get).macros.has name then
    throw (.macroRedeclared name)
  modify fun s => { s with macros := s.macros.insert name body }

/-- Sets the text of the block that is being built (a text, in `Compiler::process`). -/
def setTextInPlace (text : String) : Method Scope Unit := do
  match (← get).target with
  | .block b => modify fun s => { s with target := .block { b with text := text } }
  | _ => throw .textOutsideBlock

theorem declareVariableInPlace_eq (name : String) (b : Binding) :
    declareVariableInPlace name b = Method.ofWriter (·.declareVariable name b) := by
  funext s
  rw [declareVariableInPlace, Method.get_bind, Method.ofWriter, declareVariable]
  cases s.bindings.has name with
  | true => rfl
  | false => rfl

theorem declareMacroInPlace_eq (name : String) (body : List Statement) :
    declareMacroInPlace name body = Method.ofWriter (·.declareMacro name body) := by
  funext s
  rw [declareMacroInPlace, Method.get_bind, Method.ofWriter, declareMacro]
  cases s.macros.has name with
  | true => rfl
  | false => rfl

theorem setTextInPlace_eq (text : String) :
    setTextInPlace text = Method.ofWriter (·.setText text) := by
  funext s
  rw [setTextInPlace, Method.get_bind, Method.ofWriter, setText]
  cases s.target with
  | block b => rfl
  | file | slide _ => rfl

end Scope

/-! ## The target of a scope -/

namespace Attribute

/-- Sets the attribute of a target (`Attribute::apply`). -/
def applyInPlace (a : Attribute) (v : Constant) : Method Target Unit := do
  match a, ← get with
  | backgroundColor, .slide s =>
    let c ← v.toColor a
    set (Target.slide { s with background := c })
  | fontColor, .block b =>
    let c ← v.toColor a
    set (Target.block { b with style.color := c })
  | justify, .block b =>
    let j ← v.toJustification
    set (Target.block { b with style.justification := j })
  | font, .block b =>
    let f ← v.toFont
    set (Target.block { b with style.font := f })
  | fontSize, .block b =>
    let n ← v.toFontSize
    set (Target.block { b with style.size := n })
  | a, _ => throw (.misplacedAttribute a)

theorem applyInPlace_eq (a : Attribute) (v : Constant) :
    a.applyInPlace v = Method.ofWriter (Target.set a v) := by
  funext t
  rw [applyInPlace, Method.get_bind]
  match a, t with
  | backgroundColor, .slide s => exact congrFun (Method.lift_bind_set (v.toColor _) _) _
  | fontColor, .block b => exact congrFun (Method.lift_bind_set (v.toColor _) _) _
  | justify, .block b => exact congrFun (Method.lift_bind_set v.toJustification _) _
  | font, .block b => exact congrFun (Method.lift_bind_set v.toFont _) _
  | fontSize, .block b => exact congrFun (Method.lift_bind_set v.toFontSize _) _
  | backgroundColor, .file | backgroundColor, .block _ => rfl
  | fontColor, .file | justify, .file | font, .file | fontSize, .file => rfl
  | fontColor, .slide _ | justify, .slide _ | font, .slide _ | fontSize, .slide _ => rfl

end Attribute

/-! ## The chain of scopes -/

/-- Gives a variable another value (the end of `Environment::assign_variable`). -/
def Binding.replaceInPlace (name : String) (v : Constant) : Method Binding Unit := do
  let b ← get
  if !b.isMutable then
    throw (.immutableAssignment name b.line)
  set { b with value := v }

theorem Binding.replaceInPlace_apply (name : String) (v : Constant) (b : Binding) :
    Binding.replaceInPlace name v b =
      if b.isMutable then (.ok (), { b with value := v })
      else (.error (.immutableAssignment name b.line), b) := by
  rw [replaceInPlace, Method.get_bind]
  cases b.isMutable with
  | true => rfl
  | false => rfl

namespace Environment

/-- Lets a method run on the first binding of the name, in its place. -/
def onFirst (name : String) (x : Method Binding Unit) :
    List Scope → Except CompileError Unit × List Scope
  | [] => (.error (.undeclaredAssignment name), [])
  | s :: rest =>
    match s.bindings.get? name with
    | some b =>
      let left := x b
      (left.1, { s with bindings := s.bindings.insert name left.2 } :: rest)
    | none =>
      let left := onFirst name x rest
      (left.1, s :: left.2)

/-- Puts scopes into the place of those of the environment. -/
def putChain (env : Environment) : List Scope → Environment
  | [] => env
  | s :: rest => ⟨s, rest⟩

/-- Runs on the current scope (`Environment::current_mut`). -/
def onCurrent (x : Method Scope Unit) : Method Environment Unit :=
  Method.on current (fun env s => { env with current := s }) x

/-- Runs on the target of the current scope (`Scope::target_mut`). -/
def onTarget (x : Method Target Unit) : Method Environment Unit :=
  onCurrent (Method.on Scope.target (fun s t => { s with target := t }) x)

/-- Gives the nearest variable of the name another value (`Environment::assign_variable`). -/
def assignInPlace (name : String) (v : Constant) : Method Environment Unit :=
  Method.on chain putChain (onFirst name (Binding.replaceInPlace name v))

theorem onCurrent_ofWriter (f : Scope → Except CompileError Scope) :
    onCurrent (Method.ofWriter f) = Method.ofWriter (·.tryCurrent f) :=
  Method.on_ofWriter (fun _ => rfl) f

theorem onTarget_applyInPlace (a : Attribute) (v : Constant) :
    onTarget (a.applyInPlace v) = Method.ofWriter (·.setAttribute a v) := by
  rw [onTarget, Attribute.applyInPlace_eq, Method.on_ofWriter fun _ => rfl, onCurrent_ofWriter]
  rfl

/-- A binding that may not change is put back as it was, and the table of the scope with it. -/
theorem onFirst_replaceInPlace (name : String) (v : Constant) :
    onFirst name (Binding.replaceInPlace name v) = Method.ofWriter (assignOutwards name v) := by
  funext scopes
  induction scopes with
  | nil => rfl
  | cons s rest ih =>
    simp only [onFirst, Method.ofWriter, assignOutwards]
    cases hfound : s.bindings.get? name with
    | some b =>
      simp only [Binding.replaceInPlace_apply]
      by_cases hmutable : b.isMutable
      · rw [if_pos hmutable, if_pos hmutable]
      · rw [if_neg hmutable, if_neg hmutable, Table.insert_eq_self hfound]
    | none =>
      simp only [ih, Method.ofWriter]
      cases assignOutwards name v rest with
      | ok _ => rfl
      | error _ => rfl

theorem assignInPlace_eq (name : String) (v : Constant) :
    assignInPlace name v = Method.ofWriter (·.assign name v) := by
  rw [assignInPlace, onFirst_replaceInPlace, Method.on_ofWriter fun _ => rfl]
  congr
  funext env
  rw [← map_chain_assign]
  cases env.assign name v with
  | ok env' => rfl
  | error e => rfl

end Environment

end SlideDeck
