import Mathlib.Data.List.Chain
import Mathlib.Data.List.Nodup
import Mathlib.Logic.Relation
import SlideDeck.Proofs.Statement.Preorder

/-!
# Expanding calls

Given the declarations of macros, a call is expanded by putting the expanded body of its macro in
its place. Where the bodies call macros in turn, the calls form chains; the expansion ends because
they do.

Results:
* `Expands.unique`: statements have at most one expansion.
* `exists_expands`: statements whose chains of calls end have an expansion.
* `chainsWithin_length`: without a cycle among the macros, no chain is longer than there are macros.
-/

namespace SlideDeck

/-- A macro as declared. -/
structure MacroDef where
  token : Token
  name : String
  body : List Statement

/-- The statement that declares the macro. -/
def MacroDef.statement (d : MacroDef) : Statement := .compound d.token (.macroDef d.name) d.body

/-- The statements with every call replaced by the expanded body of its macro, at any nesting. -/
inductive Expands (defs : List MacroDef) : List Statement → List Statement → Prop
  | nil : Expands defs [] []
  | command {t : Token} {c : Command} {rest rest' : List Statement} :
      (Statement.command t c).called? = none → Expands defs rest rest' →
      Expands defs (.command t c :: rest) (.command t c :: rest')
  | call {t : Token} {d : MacroDef} {body rest rest' : List Statement} :
      d ∈ defs → Expands defs d.body body → Expands defs rest rest' →
      Expands defs (.command t (.call d.name) :: rest) (body ++ rest')
  | compound {t : Token} {head : Head} {body body' rest rest' : List Statement} :
      Expands defs body body' → Expands defs rest rest' →
      Expands defs (.compound t head body :: rest) (.compound t head body' :: rest')

/-- The macro of the first name calls that of the second one. -/
def Calls (defs : List MacroDef) (caller called : String) : Prop :=
  ∃ d ∈ defs, d.name = caller ∧ called ∈ calls d.body

/-- Every macro that is called is one of those declared. -/
def Declared (defs : List MacroDef) (statements : List Statement) : Prop :=
  ∀ name ∈ calls statements, ∃ d ∈ defs, d.name = name

/-- No chain of calls, each made by the macro of the one before, has more than `bound` links. -/
def ChainsWithin (defs : List MacroDef) (bound : Nat) (statements : List Statement) : Prop :=
  ∀ chain : List String, chain.IsChain (Calls defs) →
    (∀ name ∈ chain.head?, name ∈ calls statements) → chain.length ≤ bound

section

variable {defs : List MacroDef} {statements rest : List Statement}

/-! ## Uniqueness -/

theorem eq_of_name_eq (hnames : (defs.map MacroDef.name).Nodup) {d d' : MacroDef} (hd : d ∈ defs)
    (hd' : d' ∈ defs) (h : d.name = d'.name) : d = d' :=
  List.inj_on_of_nodup_map hnames hd hd' h

/-- Statements have at most one expansion. -/
theorem Expands.unique {a b : List Statement} (hnames : (defs.map MacroDef.name).Nodup)
    (ha : Expands defs statements a) (hb : Expands defs statements b) : a = b := by
  induction ha generalizing b with
  | nil =>
    cases hb
    rfl
  | command hcalled _ ih =>
    cases hb with
    | command _ hrest => rw [ih hrest]
    | call => cases hcalled
  | @call t d body rest rest' hd _ _ ihbody ih =>
    generalize hname : d.name = name at hb
    cases hb with
    | command hcalled => cases hcalled
    | @call _ d' _ _ _ hd' hbody hrest =>
      obtain rfl := eq_of_name_eq hnames hd hd' hname
      rw [ihbody hbody, ih hrest]
  | compound _ _ ihbody ih =>
    cases hb with
    | compound hbody hrest => rw [ihbody hbody, ih hrest]

/-- An expansion calls nothing. -/
theorem Expands.calls_eq_nil {expanded : List Statement} (h : Expands defs statements expanded) :
    calls expanded = [] := by
  induction h with
  | nil => simp
  | command hcalled _ ih => simp [calls_command, hcalled, ih]
  | call _ _ _ ihbody ih => simp [ihbody, ih]
  | compound _ _ ihbody ih => simp [ihbody, ih]

/-- An expansion declares no macro if neither the statements nor the bodies do. -/
theorem Expands.macroFree {expanded : List Statement} (h : Expands defs statements expanded)
    (hbodies : ∀ d ∈ defs, MacroFree d.body) (hfree : MacroFree statements) :
    MacroFree expanded := by
  induction h with
  | nil => exact hfree
  | command _ _ ih => exact macroFree_command.2 (ih hfree.tail)
  | call hd _ _ ihbody ih =>
    exact macroFree_append.2 ⟨ihbody (hbodies _ hd), ih hfree.tail⟩
  | compound _ _ ihbody ih =>
    obtain ⟨hhead, hbody, hrest⟩ := macroFree_compound.1 hfree
    exact macroFree_compound.2 ⟨hhead, ihbody hbody, ih hrest⟩

/-! ## Chains of calls -/

theorem Declared.of_subset (h : Declared defs statements) (hsub : calls rest ⊆ calls statements) :
    Declared defs rest :=
  fun name hname => h name (hsub hname)

theorem ChainsWithin.of_subset {bound : Nat} (h : ChainsWithin defs bound statements)
    (hsub : calls rest ⊆ calls statements) : ChainsWithin defs bound rest :=
  fun chain hchain hhead => h chain hchain fun name hname => hsub (hhead name hname)

/-- Where a macro is called, a link is used up before the chains from its body. -/
theorem ChainsWithin.body {bound : Nat} {d : MacroDef} (h : ChainsWithin defs bound statements)
    (hd : d ∈ defs) (hcall : d.name ∈ calls statements) :
    ∃ bound', bound = bound' + 1 ∧ ChainsWithin defs bound' d.body := by
  obtain _ | bound' := bound
  · have hone := h [d.name] (List.isChain_singleton _) (by simpa using hcall)
    simp at hone
  · refine ⟨bound', rfl, fun chain hchain hhead => ?_⟩
    have hlonger : (d.name :: chain).IsChain (Calls defs) := by
      refine List.isChain_cons.2 ⟨?_, hchain⟩
      exact fun name hname => ⟨d, hd, rfl, hhead name hname⟩
    have hlength := h (d.name :: chain) hlonger (by simpa using hcall)
    simpa using hlength

/-- Statements whose chains of calls end have an expansion. -/
theorem exists_expands {bound : Nat} (hbodies : ∀ d ∈ defs, Declared defs d.body)
    (hdeclared : Declared defs statements) (hchains : ChainsWithin defs bound statements) :
    ∃ expanded, Expands defs statements expanded := by
  induction bound using Nat.strongRecOn generalizing statements with
  | ind bound ihbound =>
  induction statements using Statement.listInduction with
  | nil => exact ⟨[], .nil⟩
  | command t c rest ih =>
    have hsub : calls rest ⊆ calls (.command t c :: rest) := by
      rw [calls_command]
      exact List.subset_append_right _ _
    obtain ⟨rest', hrest⟩ := ih (hdeclared.of_subset hsub) (hchains.of_subset hsub)
    cases hcalled : (Statement.command t c).called? with
    | none => exact ⟨_, .command hcalled hrest⟩
    | some name =>
      have hcall : name ∈ calls (.command t c :: rest) := by simp [calls_command, hcalled]
      obtain ⟨d, hd, rfl⟩ := hdeclared name hcall
      obtain ⟨bound', rfl, hbody⟩ := hchains.body hd hcall
      obtain ⟨body, hbody⟩ := ihbound bound' (Nat.lt_succ_self _) (hbodies d hd) hbody
      obtain ⟨t', heq⟩ := Statement.eq_call_of_called? hcalled
      rw [heq]
      exact ⟨_, .call hd hbody hrest⟩
  | compound t head body rest ihbody ih =>
    have hbody : calls body ⊆ calls (.compound t head body :: rest) := by simp
    have hrest : calls rest ⊆ calls (.compound t head body :: rest) := by simp
    obtain ⟨body', hbody'⟩ := ihbody (hdeclared.of_subset hbody) (hchains.of_subset hbody)
    obtain ⟨rest', hrest'⟩ := ih (hdeclared.of_subset hrest) (hchains.of_subset hrest)
    exact ⟨_, .compound hbody' hrest'⟩

/-- The macros of a chain are declared if its first one is. -/
theorem exists_name_eq_of_mem_chain (hbodies : ∀ d ∈ defs, Declared defs d.body)
    {chain : List String} (hchain : chain.IsChain (Calls defs))
    (hhead : ∀ name ∈ chain.head?, ∃ d ∈ defs, d.name = name) :
    ∀ name ∈ chain, ∃ d ∈ defs, d.name = name := by
  induction chain with
  | nil => simp
  | cons first chain ih =>
    obtain ⟨hfirst, hrest⟩ := List.isChain_cons.1 hchain
    have hnext : ∀ name ∈ chain.head?, ∃ d ∈ defs, d.name = name := by
      intro name hname
      obtain ⟨d, hd, -, hcall⟩ := hfirst name hname
      exact hbodies d hd name hcall
    exact List.forall_mem_cons.2 ⟨hhead first rfl, ih hrest hnext⟩

/-- Without a cycle among the macros, no chain is longer than there are macros. -/
theorem chainsWithin_length (hbodies : ∀ d ∈ defs, Declared defs d.body)
    (hdeclared : Declared defs statements)
    (hacyclic : ∀ name, ¬ Relation.TransGen (Calls defs) name name) :
    ChainsWithin defs defs.length statements := by
  intro chain hchain hhead
  have hnodup : chain.Nodup := by
    have htrans := hchain.imp fun _ _ => Relation.TransGen.single
    refine (List.isChain_iff_pairwise.1 htrans).imp ?_
    rintro a _ hab rfl
    exact hacyclic a hab
  have hsub : chain ⊆ defs.map MacroDef.name := by
    intro name hname
    have hnames := exists_name_eq_of_mem_chain hbodies hchain
      fun name hname => hdeclared name (hhead name hname)
    simpa using hnames name hname
  simpa using hnodup.length_le_of_subset hsub

end

end SlideDeck
