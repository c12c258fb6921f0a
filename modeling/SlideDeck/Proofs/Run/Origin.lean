import SlideDeck.Proofs.Scope.Macros
import SlideDeck.Proofs.Scope.Frame
import SlideDeck.Proofs.Statement.Origin

/-!
# Where the reports of a run stand

A report of a run tells of a statement that failed, and stands at the token that introduced it. That
is a statement of the list, of a body in it, or of a macro; and the statements of a macro stood in
the list too, since nothing else declares macros.

Results:
* `Runs.exists_of_mem_reports`: every report of a run tells of a statement that the run knows of.
* `exists_statement_of_mem_compile_reports`: every report of an outcome tells of a statement.
* `exists_of_mem_compile_reports`: so it stands at the token that introduced one.
-/

namespace SlideDeck

/-- The report tells that one of these statements failed. -/
def Report.TellsOf (r : Report CompileError) (known : List Statement) : Prop :=
  ∃ s ∈ known, ∃ limit room env e, s.effect limit room env = .error e ∧ r = s.token.mark.report e

/-- Every report of a run tells of a statement that stands in the list, or in that of a macro, if
all macros that are known stand there. -/
theorem Runs.exists_of_mem_reports {known : List Statement} {limit room : Nat}
    {statements : List Statement} {m m' : Machine} (h : Runs limit room statements m m')
    (hstatements : preorder statements ⊆ known)
    (hmacros : m.env.KnowsOnly (preorder · ⊆ known)) (hm : ∀ r ∈ m.reports, r.TellsOf known) :
    ∀ r ∈ m'.reports, r.TellsOf known := by
  have hgood (body : List Statement) (hbody : preorder body ⊆ known) :
      DeclaresOnly (preorder · ⊆ known) body :=
    fun _ _ _ hmem => List.Subset.trans (preorder_subset_of_mem hmem) hbody
  have htail {s : Statement} {rest : List Statement} (h : preorder (s :: rest) ⊆ known) :
      preorder rest ⊆ known := List.Subset.trans (preorder_subset_cons s rest) h
  induction h with
  | done => exact hm
  | @fault room s rest m m' e heffect _ ih =>
    refine ih (htail hstatements) hmacros (List.forall_mem_append.2 ⟨hm, ?_⟩)
    exact List.forall_mem_singleton.2
      ⟨s, hstatements (mem_preorder_head s rest), _, _, _, e, heffect, rfl⟩
  | change heffect _ ih =>
    exact ih (htail hstatements)
      (Statement.knowsOnly_of_change hmacros (hgood _ hstatements) heffect) hm
  | @build room s rest body m inner m' name target heffect hbody _ ihbody ih =>
    obtain ⟨t, head, rfl⟩ := Statement.eq_compound_of_build heffect
    have hinside : preorder body ⊆ known :=
      List.Subset.trans (preorder_subset_of_mem (mem_preorder_head _ _)) hstatements
    have hknown := hbody.knowsOnly hgood (hgood _ hinside) (hmacros.push target)
    have hreports := ihbody hinside (hmacros.push target) hm
    exact ih (htail hstatements) (Machine.knowsOnly_close hknown name) (by simpa using hreports)
  | @replay room s rest body m inner m' heffect hbody _ ihbody ih =>
    obtain ⟨-, t, name, -, hfound⟩ := Statement.effect_eq_replay_iff.1 heffect
    have hinside : preorder body ⊆ known := Environment.KnowsOnly.findMacro? hmacros hfound
    have hknown := hbody.knowsOnly hgood (hgood _ hinside) hmacros
    exact ih (htail hstatements) hknown (ihbody hinside hmacros hm)

/-- Every report of an outcome tells of one of the statements that failed. -/
theorem exists_statement_of_mem_compile_reports {config : Config} {statements : List Statement}
    {o : Outcome CompileError Deck} (h : compile config statements = some o)
    {r : Report CompileError} (hr : r ∈ o.reports) : r.TellsOf (preorder statements) := by
  obtain ⟨_, hrun, rfl⟩ := Option.map_eq_some_iff.1 h
  obtain ⟨limit, -, rfl⟩ := Option.map_eq_some_iff.1 hrun
  exact (runs_runWithin limit statements).exists_of_mem_reports (List.Subset.refl _)
    (Environment.knowsOnly_initial _) nofun r hr

/-- Every report of an outcome stands at a token that introduced one of the statements. -/
theorem exists_of_mem_compile_reports {tokens : List Token} {config : Config}
    {statements : List Statement} {o : Outcome CompileError Deck}
    (h : compile config statements = some o) (hstatements : StandAt tokens statements)
    {r : Report CompileError} (hr : r ∈ o.reports) :
    ∃ t ∈ tokens, ∃ e, r = t.mark.report e := by
  obtain ⟨s, hs, -, -, -, e, -, rfl⟩ := exists_statement_of_mem_compile_reports h hr
  exact ⟨s.token, hstatements s hs, e, rfl⟩

end SlideDeck
