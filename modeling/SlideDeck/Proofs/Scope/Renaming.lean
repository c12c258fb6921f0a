import SlideDeck.Proofs.Run.Derivation
import SlideDeck.Proofs.Statement.Renaming

/-!
# Renaming an environment

The four namespaces of a scope are tables of their own, and a table is only asked whether two names
are the same. So looking up, declaring and assigning come to the same in the renamed environment,
under the new names; if one fails, it is for the same reason, which quotes the new name.

Results:
* `CompileError.message_rename`: only the quoted name differs in the message.
* `Table.get?_rename`, `Table.rename_insert`: a table with renamed entries is asked, and extended,
  by the new names.
* `Environment.resolve_rename`, `Environment.macroBody_rename`, `Environment.startSlide_rename`,
  `Environment.startBlock_rename`: what is looked up, where names are renamed.
* `Environment.declareVariable_rename`, `Environment.declareMacro_rename`,
  `Environment.assign_rename`: what is changed, where names are renamed.
-/

namespace SlideDeck

/-! ## Faults -/

namespace CompileError

def rename (ρ : Renaming) : CompileError → CompileError
  | undefinedParentSlide name => undefinedParentSlide (ρ .slides name)
  | undefinedParentBlock name => undefinedParentBlock (ρ .blocks name)
  | variableRedeclared name => variableRedeclared (ρ .bindings name)
  | undeclaredAssignment name => undeclaredAssignment (ρ .bindings name)
  | immutableAssignment name line => immutableAssignment (ρ .bindings name) line
  | uninitializedReference name => uninitializedReference (ρ .bindings name)
  | macroRedeclared name => macroRedeclared (ρ .macros name)
  | undefinedMacro name => undefinedMacro (ρ .macros name)
  | e => e

/-- The name from one of the namespaces that the message quotes. -/
def quoted? : CompileError → Option (Namespace × String)
  | undefinedParentSlide name => some (.slides, name)
  | undefinedParentBlock name => some (.blocks, name)
  | variableRedeclared name | undeclaredAssignment name | immutableAssignment name _
  | uninitializedReference name => some (.bindings, name)
  | macroRedeclared name | undefinedMacro name => some (.macros, name)
  | _ => none

theorem rename_of_quoted?_eq_none (ρ : Renaming) {e : CompileError} (h : e.quoted? = none) :
    e.rename ρ = e := by
  cases e <;> first | rfl | cases h

/-- Only the quoted name differs in the message. -/
theorem message_rename (ρ : Renaming) {e : CompileError} {space : Namespace} {name : String}
    (h : e.quoted? = some (space, name)) :
    ∃ before after, e.message = before ++ name ++ after ∧
      (e.rename ρ).message = before ++ ρ space name ++ after := by
  cases e with
  | undefinedParentSlide | undefinedParentBlock | variableRedeclared | undeclaredAssignment
  | uninitializedReference | macroRedeclared | undefinedMacro =>
    cases h
    exact ⟨_, _, rfl, rfl⟩
  | immutableAssignment name line =>
    cases h
    have hsplit (quoted : String) : (immutableAssignment quoted line).message =
        "cannot assign to immutable binding '" ++ quoted ++
          ("' (declared on line " ++ toString line ++ ")") := by
      show _ ++ _ ++ _ ++ _ ++ _ = _
      simp only [String.append_assoc]
    exact ⟨_, _, hsplit name, hsplit (ρ .bindings name)⟩
  | _ => cases h

@[simp] theorem isRefusal_rename (ρ : Renaming) (e : CompileError) :
    (e.rename ρ).isRefusal = e.isRefusal := by
  cases e <;> rfl

end CompileError

/-! ## Computations that may fail -/

/-- The result of a computation, with the names in it renamed: those of its value as given. -/
def Renaming.result (ρ : Renaming) {α : Type} (f : α → α) :
    Except CompileError α → Except CompileError α
  | .ok a => .ok (f a)
  | .error e => .error (e.rename ρ)

namespace Renaming

variable {α β : Type} (ρ : Renaming) {f : α → α} {f' : β → β}

theorem result_map {g g' : α → β} (h : ∀ a, f' (g a) = g' (f a)) (x : Except CompileError α) :
    (ρ.result f x).map g' = ρ.result f' (x.map g) := by
  cases x with
  | ok a => exact congrArg Except.ok (h a).symm
  | error e => rfl

theorem result_bind {g g' : α → Except CompileError β} (h : ∀ a, g' (f a) = ρ.result f' (g a))
    (x : Except CompileError α) : (ρ.result f x).bind g' = ρ.result f' (x.bind g) := by
  cases x with
  | ok a => exact h a
  | error e => rfl

/-- A computation that renaming does not concern stays as it is when it is carried on so. -/
theorem result_id_map {x : Except CompileError α} (hx : ρ.result id x = x) (g : α → β) :
    ρ.result id (x.map g) = x.map g := by
  conv_rhs => rw [← hx]
  exact (ρ.result_map (fun _ => by rfl) x).symm

end Renaming

/-! ## Tables -/

namespace Table

variable {α : Type} (key : String ↪ String) (f : α → α)

/-- The table with the names and the entries replaced. -/
def rename (t : Table α) : Table α := ⟨t.entries.map (Prod.map key f)⟩

theorem getFrom?_map (name : String) (entries : List (String × α)) :
    getFrom? (key name) (entries.map (Prod.map key f)) = (getFrom? name entries).map f := by
  induction entries with
  | nil => rfl
  | cons entry rest ih =>
    simp only [List.map_cons, Prod.map, getFrom?, key.apply_eq_iff_eq, ih]
    split <;> rfl

theorem insertInto_map (name : String) (a : α) (entries : List (String × α)) :
    insertInto (key name) (f a) (entries.map (Prod.map key f)) =
      (insertInto name a entries).map (Prod.map key f) := by
  induction entries with
  | nil => rfl
  | cons entry rest ih =>
    simp only [List.map_cons, Prod.map, insertInto, key.apply_eq_iff_eq, ih]
    split <;> rfl

theorem get?_rename (t : Table α) (name : String) :
    (t.rename key f).get? (key name) = (t.get? name).map f :=
  getFrom?_map key f name t.entries

theorem has_rename (t : Table α) (name : String) :
    (t.rename key f).has (key name) = t.has name := by
  simp only [has, get?_rename, Option.isSome_map]

theorem rename_insert (t : Table α) (name : String) (a : α) :
    (t.insert name a).rename key f = (t.rename key f).insert (key name) (f a) :=
  congrArg Table.mk (insertInto_map key f name a t.entries).symm

end Table

/-! ## Scopes -/

namespace Scope

/-- The scope with the names renamed, those in the statements of its macros included. -/
def rename (ρ : Renaming) (s : Scope) : Scope where
  target := s.target
  bindings := s.bindings.rename (ρ .bindings) id
  macros := s.macros.rename (ρ .macros) (renameAll ρ)
  slides := s.slides.rename (ρ .slides) id
  blocks := s.blocks.rename (ρ .blocks) id

variable (ρ : Renaming)

theorem rename_insert_bindings (s : Scope) (name : String) (b : Binding) :
    ({ s with bindings := s.bindings.insert name b } : Scope).rename ρ =
      { s.rename ρ with bindings := (s.rename ρ).bindings.insert (ρ .bindings name) b } := by
  simp only [rename, Table.rename_insert, id]

theorem rename_registerSlide (s : Scope) (name : String) (slide : Slide) :
    (s.registerSlide name slide).rename ρ = (s.rename ρ).registerSlide (ρ .slides name) slide := by
  simp only [registerSlide, rename, Table.rename_insert, id]

theorem rename_registerBlock (s : Scope) (name : String) (block : Block) :
    (s.registerBlock name block).rename ρ = (s.rename ρ).registerBlock (ρ .blocks name) block := by
  simp only [registerBlock, rename, Table.rename_insert, id]

theorem rename_appendBlock (s : Scope) (block : Block) :
    (s.appendBlock block).rename ρ = (s.rename ρ).appendBlock block := by
  obtain ⟨target⟩ := s
  cases target <;> rfl

theorem declareVariable_rename (s : Scope) (name : String) (b : Binding) :
    (s.rename ρ).declareVariable (ρ .bindings name) b =
      ρ.result (rename ρ) (s.declareVariable name b) := by
  simp only [declareVariable, rename, Table.has_rename]
  split
  · rfl
  · simp only [Renaming.result, rename, Table.rename_insert, id]

theorem declareMacro_rename (s : Scope) (name : String) (body : List Statement) :
    (s.rename ρ).declareMacro (ρ .macros name) (renameAll ρ body) =
      ρ.result (rename ρ) (s.declareMacro name body) := by
  simp only [declareMacro, rename, Table.has_rename]
  split
  · rfl
  · simp only [Renaming.result, rename, Table.rename_insert]

theorem setText_rename (s : Scope) (text : String) :
    (s.rename ρ).setText text = ρ.result (rename ρ) (s.setText text) := by
  unfold setText
  cases htarget : s.target <;> simp only [rename, htarget] <;> rfl

end Scope

/-! ## Attributes -/

section

variable (ρ : Renaming)

theorem Attribute.result_find (name : String) : ρ.result id (find name) = find name := by
  unfold find
  split <;> rfl

theorem Constant.result_toColor (a : Attribute) (v : Constant) :
    ρ.result id (v.toColor a) = v.toColor a := by
  unfold toColor
  split <;> try split
  all_goals rfl

theorem Constant.result_toJustification (v : Constant) :
    ρ.result id v.toJustification = v.toJustification := by
  unfold toJustification
  split <;> try split
  all_goals rfl

theorem Constant.result_toFont (v : Constant) : ρ.result id v.toFont = v.toFont := by
  cases v <;> rfl

theorem Constant.result_toFontSize (v : Constant) : ρ.result id v.toFontSize = v.toFontSize := by
  cases v <;> rfl

/-- No fault of an attribute quotes a name of a namespace. -/
theorem Target.result_set (a : Attribute) (v : Constant) (t : Target) :
    ρ.result id (t.set a v) = t.set a v := by
  unfold set
  split
  · exact ρ.result_id_map (Constant.result_toColor ρ _ v) _
  · exact ρ.result_id_map (Constant.result_toColor ρ _ v) _
  · exact ρ.result_id_map (Constant.result_toJustification ρ v) _
  · exact ρ.result_id_map (Constant.result_toFont ρ v) _
  · exact ρ.result_id_map (Constant.result_toFontSize ρ v) _
  · rfl

theorem Scope.setAttribute_rename (s : Scope) (a : Attribute) (v : Constant) :
    (s.rename ρ).setAttribute a v = ρ.result (rename ρ) (s.setAttribute a v) := by
  show (s.target.set a v).map _ = _
  conv_lhs => rw [← Target.result_set ρ]
  exact ρ.result_map (fun _ => by rfl) _

end

/-! ## Environments -/

namespace Environment

def rename (ρ : Renaming) (env : Environment) : Environment :=
  ⟨env.current.rename ρ, env.outer.map (Scope.rename ρ)⟩

variable (ρ : Renaming) (env : Environment)

/-- What is found under a name in the tables of its namespace is found under the new name where
names are renamed. -/
theorem findSome?_rename {α : Type} {f : α → α} {space : Namespace} {table : Scope → Table α}
    (htable : ∀ s : Scope, table (s.rename ρ) = (table s).rename (ρ space) f) (name : String) :
    (env.rename ρ).chain.findSome? (fun s => (table s).get? (ρ space name)) =
      (env.chain.findSome? fun s => (table s).get? name).map f := by
  have hchain : (env.rename ρ).chain = env.chain.map (Scope.rename ρ) := rfl
  rw [hchain, List.findSome?_map, List.map_findSome?]
  congr 1
  funext s
  simp only [Function.comp, htable, Table.get?_rename]

theorem findVariable?_rename (name : String) :
    (env.rename ρ).findVariable? (ρ .bindings name) = env.findVariable? name :=
  (findSome?_rename ρ env (fun _ => rfl) name).trans (Option.map_id_apply ..)

theorem findMacro?_rename (name : String) :
    (env.rename ρ).findMacro? (ρ .macros name) = (env.findMacro? name).map (renameAll ρ) :=
  findSome?_rename ρ env (fun _ => rfl) name

theorem findSlide?_rename (name : String) :
    (env.rename ρ).findSlide? (ρ .slides name) = env.findSlide? name :=
  (findSome?_rename ρ env (fun _ => rfl) name).trans (Option.map_id_apply ..)

theorem findBlock?_rename (name : String) :
    (env.rename ρ).findBlock? (ρ .blocks name) = env.findBlock? name :=
  (findSome?_rename ρ env (fun _ => rfl) name).trans (Option.map_id_apply ..)

theorem resolve_rename (v : Value) :
    (env.rename ρ).resolve (v.rename ρ) = ρ.result id (env.resolve v) := by
  cases v with
  | string | integer | color => rfl
  | reference name =>
    simp only [Value.rename, resolve, findVariable?_rename]
    cases env.findVariable? name <;> rfl

theorem macroBody_rename (name : String) :
    (env.rename ρ).macroBody (ρ .macros name) = ρ.result (renameAll ρ) (env.macroBody name) := by
  simp only [macroBody, findMacro?_rename]
  cases env.findMacro? name <;> rfl

theorem startSlide_rename (parent : Option String) :
    (env.rename ρ).startSlide (parent.map (ρ .slides)) = ρ.result id (env.startSlide parent) := by
  have hkind : (env.rename ρ).current.kind = env.current.kind := rfl
  simp only [startSlide, hkind]
  split
  · rfl
  cases parent with
  | none => rfl
  | some name =>
    simp only [Option.map_some, findSlide?_rename]
    cases env.findSlide? name <;> rfl

theorem startBlock_rename (parent : Option String) :
    (env.rename ρ).startBlock (parent.map (ρ .blocks)) = ρ.result id (env.startBlock parent) := by
  have hkind : (env.rename ρ).current.kind = env.current.kind := rfl
  simp only [startBlock, hkind]
  split
  · rfl
  cases parent with
  | none => rfl
  | some name =>
    simp only [Option.map_some, findBlock?_rename]
    cases env.findBlock? name <;> rfl

/-! ### Changes -/

variable {env} in
theorem tryCurrent_rename {f f' : Scope → Except CompileError Scope}
    (h : f' (env.current.rename ρ) = ρ.result (Scope.rename ρ) (f env.current)) :
    (env.rename ρ).tryCurrent f' = ρ.result (rename ρ) (env.tryCurrent f) := by
  show (f' (env.current.rename ρ)).map _ = _
  rw [h]
  exact ρ.result_map (fun _ => by rfl) _

theorem setText_rename (text : String) :
    (env.rename ρ).setText text = ρ.result (rename ρ) (env.setText text) :=
  tryCurrent_rename ρ (env.current.setText_rename ρ text)

theorem setAttribute_rename (a : Attribute) (v : Constant) :
    (env.rename ρ).setAttribute a v = ρ.result (rename ρ) (env.setAttribute a v) :=
  tryCurrent_rename ρ (env.current.setAttribute_rename ρ a v)

theorem declareVariable_rename (name : String) (b : Binding) :
    (env.rename ρ).declareVariable (ρ .bindings name) b =
      ρ.result (rename ρ) (env.declareVariable name b) :=
  tryCurrent_rename ρ (env.current.declareVariable_rename ρ name b)

theorem declareMacro_rename (name : String) (body : List Statement) :
    (env.rename ρ).declareMacro (ρ .macros name) (renameAll ρ body) =
      ρ.result (rename ρ) (env.declareMacro name body) :=
  tryCurrent_rename ρ (env.current.declareMacro_rename ρ name body)

theorem rebind_rename (name : String) (b : Binding) (scopes : List Scope) :
    rebind (ρ .bindings name) b (scopes.map (Scope.rename ρ)) =
      (rebind name b scopes).map (Scope.rename ρ) := by
  induction scopes with
  | nil => rfl
  | cons s scopes ih =>
    have hhas : (s.rename ρ).bindings.has (ρ .bindings name) = s.bindings.has name :=
      Table.has_rename _ _ _ _
    simp only [List.map_cons, rebind, hhas, ih]
    split
    · rw [List.map_cons, Scope.rename_insert_bindings]
    · rfl

theorem rebindNearest_rename (name : String) (b : Binding) :
    (env.rename ρ).rebindNearest (ρ .bindings name) b = (env.rebindNearest name b).rename ρ := by
  have hhas : (env.rename ρ).current.bindings.has (ρ .bindings name) =
    env.current.bindings.has name := Table.has_rename _ _ _ _
  simp only [rebindNearest, hhas]
  split
  · simp only [mapCurrent, rename, Scope.rename_insert_bindings]
  · simp only [rename, rebind_rename]

theorem assign_rename (name : String) (v : Constant) :
    (env.rename ρ).assign (ρ .bindings name) v = ρ.result (rename ρ) (env.assign name v) := by
  simp only [assign, findVariable?_rename]
  cases env.findVariable? name with
  | none => rfl
  | some b =>
    simp only [rebindNearest_rename]
    split <;> rfl

end Environment

end SlideDeck
