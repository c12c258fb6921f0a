import SlideDeck.Scope.Basic

/-!
# Environments

An environment is a chain of scopes: the one whose statements are being carried out, and those
around it, the last of which is the scope of the file. Names are looked up from the innermost scope
outwards.

Results:
* `Environment.pop?_push`: closing a scope leaves the environment in which it was opened.
* `Environment.assign_eq_ok_iff`: a variable can be assigned to exactly when the nearest one of the
  name may change.
-/

namespace SlideDeck

/-- The scopes that are open (`Environment`). -/
structure Environment where
  current : Scope
  /-- The scopes around the current one, from the inside to the outside. -/
  outer : List Scope := []
deriving DecidableEq, Repr

namespace Environment

/-- The environment at the start of a file (`Environment::new`). -/
def initial : Environment := { current := { target := .file } }

/-- All scopes, from the inside to the outside (`Environment::chain`). -/
def chain (env : Environment) : List Scope := env.current :: env.outer

/-- The number of scopes inside that of the file (`Environment::depth`). -/
def depth (env : Environment) : Nat := env.outer.length

/-- Opens a scope (`Environment::push_scope`). -/
def push (env : Environment) (s : Scope) : Environment := ⟨s, env.chain⟩

/-- Closes the current scope. That of the file is never closed (`Environment::pop_scope`). -/
def pop? (env : Environment) : Option (Scope × Environment) :=
  match env.outer with
  | [] => none
  | s :: rest => some (env.current, ⟨s, rest⟩)

@[simp] theorem pop?_push (env : Environment) (s : Scope) : (env.push s).pop? = some (s, env) := rfl

@[simp] theorem depth_push (env : Environment) (s : Scope) :
    (env.push s).depth = env.depth + 1 := rfl

/-! ## Looking up -/

/-- The nearest variable of the name (`Environment::get_variable`). -/
def findVariable? (env : Environment) (name : String) : Option Binding :=
  env.chain.findSome? (·.bindings.get? name)

/-- The nearest macro of the name (`Environment::get_macro`). -/
def findMacro? (env : Environment) (name : String) : Option (List Statement) :=
  env.chain.findSome? (·.macros.get? name)

/-- The nearest finished slide of the name (`Environment::get_slide`). -/
def findSlide? (env : Environment) (name : String) : Option Slide :=
  env.chain.findSome? (·.slides.get? name)

/-- The nearest finished block of the name (`Environment::get_block`). -/
def findBlock? (env : Environment) (name : String) : Option Block :=
  env.chain.findSome? (·.blocks.get? name)

/-- The constant that a value stands for (`Compiler::resolve`). -/
def resolve (env : Environment) : Value → Except CompileError Constant
  | .string s => .ok (.string s)
  | .integer n => .ok (.integer n)
  | .color c => .ok (.color c)
  | .reference name =>
    match env.findVariable? name with
    | some b => .ok b.value
    | none => .error (.uninitializedReference name)

/-! ## Changing the current scope -/

/-- Changes the current scope (`Environment::current_mut`). -/
def mapCurrent (env : Environment) (f : Scope → Scope) : Environment :=
  { env with current := f env.current }

/-- Changes the current scope, unless that fails. -/
def tryCurrent (env : Environment) (f : Scope → Except CompileError Scope) :
    Except CompileError Environment :=
  (f env.current).map fun s => { env with current := s }

def declareVariable (env : Environment) (name : String) (b : Binding) :
    Except CompileError Environment :=
  env.tryCurrent (·.declareVariable name b)

def declareMacro (env : Environment) (name : String) (body : List Statement) :
    Except CompileError Environment :=
  env.tryCurrent (·.declareMacro name body)

def setAttribute (env : Environment) (a : Attribute) (v : Constant) :
    Except CompileError Environment :=
  env.tryCurrent (·.setAttribute a v)

def setText (env : Environment) (text : String) : Except CompileError Environment :=
  env.tryCurrent (·.setText text)

/-! ## Assigning -/

/-- Replaces the binding in the first scope that has one of the name. -/
def rebind (name : String) (b : Binding) : List Scope → List Scope
  | [] => []
  | s :: rest =>
    if s.bindings.has name then { s with bindings := s.bindings.insert name b } :: rest
    else s :: rebind name b rest

/-- Replaces the nearest binding of the name. -/
def rebindNearest (env : Environment) (name : String) (b : Binding) : Environment :=
  if env.current.bindings.has name then
    env.mapCurrent fun s => { s with bindings := s.bindings.insert name b }
  else { env with outer := rebind name b env.outer }

/-- Gives the nearest variable of the name another value (`Environment::assign_variable`). -/
def assign (env : Environment) (name : String) (v : Constant) : Except CompileError Environment :=
  match env.findVariable? name with
  | none => .error (.undeclaredAssignment name)
  | some b =>
    if b.isMutable then .ok (env.rebindNearest name { b with value := v })
    else .error (.immutableAssignment name b.line)

theorem chain_rebindNearest (env : Environment) (name : String) (b : Binding) :
    (env.rebindNearest name b).chain = rebind name b env.chain := by
  simp only [rebindNearest, chain, rebind]
  split <;> rfl

theorem assign_eq_ok_iff {env env' : Environment} {name : String} {v : Constant} :
    env.assign name v = .ok env' ↔ ∃ b, env.findVariable? name = some b ∧ b.isMutable = true ∧
      env' = env.rebindNearest name { b with value := v } := by
  unfold assign
  cases hb : env.findVariable? name with
  | none => simp
  | some b =>
    cases hm : b.isMutable
    · simp [hm]
    · simp only [hm, if_true, Except.ok.injEq, Option.some.injEq, exists_eq_left', true_and]
      exact eq_comm

end Environment

end SlideDeck
