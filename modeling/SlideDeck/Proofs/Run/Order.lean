import Mathlib.Data.List.Nodup
import SlideDeck.Proofs.Run.Refusal
import SlideDeck.Proofs.Run.Walk
import SlideDeck.Proofs.Statement.Origin
import SlideDeck.Proofs.Token.Order
import SlideDeck.Reading.Stages

/-!
# The order of reports

Where no macro is called, every statement is carried out at most once, in the order of the source,
and the body of a slide or block that cannot be started is skipped. So the reports are in the order
of the source: there is one for each statement that fails, none for a statement that stands in a
declaration that failed, and their ranges lie one behind the other.

Results:
* `Picks.sublist`, `Picks.not_mem_body`: which statements a run without calls can report.
* `Runs.exists_picks`: it reports such statements, and each of them comes to fail.
* `reports_in_order`: the reports of a source without calls.
-/

namespace SlideDeck

open Relation (ReflTransGen)

/-- The statements of the body, if the statement is a declaration. -/
def Statement.body : Statement → List Statement
  | .command _ _ => []
  | .compound _ _ body => body

theorem preorder_cons (s : Statement) (rest : List Statement) :
    preorder (s :: rest) = s :: (preorder s.body ++ preorder rest) := by
  cases s <;> simp [Statement.body]

theorem preorder_body_subset {s : Statement} {statements : List Statement}
    (h : s ∈ preorder statements) : preorder s.body ⊆ preorder statements := by
  cases s with
  | command t c => simp [Statement.body]
  | compound t head body => exact preorder_subset_of_mem h

theorem nodup_preorder_cons {s : Statement} {rest : List Statement} :
    (preorder (s :: rest)).Nodup ↔ (s ∉ preorder s.body ∧ s ∉ preorder rest) ∧
      (preorder s.body).Nodup ∧ (preorder rest).Nodup ∧
      (preorder s.body).Disjoint (preorder rest) := by
  rw [preorder_cons, List.nodup_cons, List.nodup_append', List.mem_append, not_or]

/-! ## Which statements are reported -/

/-- Some statements of the list and of the bodies in it, with an error each: a statement is picked
and its body skipped, or it is passed over with its body, or its body is gone through before what
follows it. -/
inductive Picks : List Statement → List (Statement × CompileError) → Prop
  | done : Picks [] []
  | fault {s : Statement} {rest : List Statement} {failed : List (Statement × CompileError)}
      {e : CompileError} : Picks rest failed → Picks (s :: rest) ((s, e) :: failed)
  | pass {s : Statement} {rest : List Statement} {failed : List (Statement × CompileError)} :
      Picks rest failed → Picks (s :: rest) failed
  | build {s : Statement} {rest : List Statement} {inner failed : List (Statement × CompileError)} :
      Picks s.body inner → Picks rest failed → Picks (s :: rest) (inner ++ failed)

namespace Picks

variable {statements : List Statement} {failed : List (Statement × CompileError)}

/-- The statements are picked in order. -/
theorem sublist (h : Picks statements failed) :
    (failed.map Prod.fst).Sublist (preorder statements) := by
  induction h with
  | done => exact .slnil
  | @fault s rest failed e _ ih =>
    rw [preorder_cons]
    exact (ih.trans (List.sublist_append_right _ _)).cons_cons s
  | @pass s rest failed _ ih =>
    rw [preorder_cons]
    exact (ih.trans (List.sublist_append_right _ _)).cons s
  | @build s rest inner failed _ _ ihbody ih =>
    rw [preorder_cons, List.map_append]
    exact (ihbody.append ih).cons s

theorem mem_preorder (h : Picks statements failed) {f : Statement × CompileError}
    (hf : f ∈ failed) : f.1 ∈ preorder statements :=
  h.sublist.subset (List.mem_map_of_mem hf)

/-- No statement is picked from the body of one that is picked. -/
theorem not_mem_body (h : Picks statements failed) (hnodup : (preorder statements).Nodup) :
    ∀ f ∈ failed, ∀ g ∈ failed, g.1 ∉ preorder f.1.body := by
  induction h with
  | done => simp
  | @fault s rest failed e hrest ih =>
    obtain ⟨hs, -, hnodup, hdisjoint⟩ := nodup_preorder_cons.1 hnodup
    intro f hf g hg
    rcases List.mem_cons.1 hf with rfl | hf <;> rcases List.mem_cons.1 hg with rfl | hg
    · exact hs.1
    · exact fun hmem => hdisjoint hmem (hrest.mem_preorder hg)
    · exact fun hmem => hs.2 (preorder_body_subset (hrest.mem_preorder hf) hmem)
    · exact ih hnodup f hf g hg
  | pass _ ih => exact ih (nodup_preorder_cons.1 hnodup).2.2.1
  | @build s rest inner failed hbody hrest ihbody ih =>
    obtain ⟨-, hnodup, hnodup', hdisjoint⟩ := nodup_preorder_cons.1 hnodup
    intro f hf g hg
    rcases List.mem_append.1 hf with hf | hf <;> rcases List.mem_append.1 hg with hg | hg
    · exact ihbody hnodup f hf g hg
    · exact fun hmem => hdisjoint (preorder_body_subset (hbody.mem_preorder hf) hmem)
        (hrest.mem_preorder hg)
    · exact fun hmem => hdisjoint (hbody.mem_preorder hg)
        (preorder_body_subset (hrest.mem_preorder hf) hmem)
    · exact ih hnodup' f hf g hg

end Picks

/-! ## Which statements fail -/

/-- On the way from the point on, the statement is carried out and fails with the error. -/
def Point.Fails (limit : Nat) (start : Point) (s : Statement) (e : CompileError) : Prop :=
  ∃ p rest, ReflTransGen (Point.Next limit) start p ∧ p.statements = s :: rest ∧
    (execute (replay limit p.room) s p.machine).result = .error e

theorem execute_eq_error_iff {limit room : Nat} {s : Statement} {m : Machine} {e : CompileError} :
    (execute (replay limit room) s m).result = .error e ↔
      s.effect limit room m.env = .error e := by
  rw [(execute_follows limit room s m).1]
  cases s.effect limit room m.env <;> simp [Except.map]

section

variable {limit : Nat} {p q : Point} {s : Statement} {e : CompileError}

theorem Point.Fails.of_walk (hwalk : ReflTransGen (Point.Next limit) p q)
    (h : q.Fails limit s e) : p.Fails limit s e := by
  obtain ⟨r, rest, hrest, hs, hfails⟩ := h
  exact ⟨r, rest, hwalk.trans hrest, hs, hfails⟩

theorem Point.Fails.of_next (hnext : Point.Next limit p q) (h : q.Fails limit s e) :
    p.Fails limit s e :=
  h.of_walk (.single hnext)

/-- A step reports nothing but a statement that fails there. -/
theorem Point.Next.reports_prefix (h : Point.Next limit p q) :
    p.machine.reports <+: q.machine.reports := by
  cases h with
  | fault _ => exact List.prefix_append _ _
  | change _ => exact List.prefix_rfl
  | enter _ => exact List.prefix_rfl
  | replay _ => exact List.prefix_rfl
  | close => simp
  | replayed => exact List.prefix_rfl

theorem reports_prefix_of_walk (h : ReflTransGen (Point.Next limit) p q) :
    p.machine.reports <+: q.machine.reports := by
  induction h with
  | refl => exact List.prefix_rfl
  | tail _ hnext ih => exact ih.trans hnext.reports_prefix

/-- A statement that fails in the run of a file is reported. -/
theorem Point.Fails.report_mem {statements : List Statement}
    (h : (Point.start limit statements).Fails limit s e) :
    s.token.mark.report e ∈ (runWithin limit statements).1.reports := by
  obtain ⟨⟨_, m, room, pending⟩, rest, hwalk, rfl, hfails⟩ := h
  have hnext : Point.Next limit ⟨s :: rest, m, room, pending⟩
      ⟨rest, m.report s.token e, room, pending⟩ := .fault (execute_eq_error_iff.1 hfails)
  have hprefix := reports_prefix_of_walk (walk_of_walk_start (hwalk.tail hnext))
  exact hprefix.subset (List.mem_append_right _ (List.mem_singleton_self _))

end

/-- A run without calls reports statements that are picked in order, and each of them comes to
fail. -/
theorem Runs.exists_picks {limit room : Nat} {statements : List Statement} {m m' : Machine}
    (h : Runs limit room statements m m') (hcalls : calls statements = []) :
    ∃ failed, Picks statements failed ∧
      m'.reports = m.reports ++ failed.map (fun f => f.1.token.mark.report f.2) ∧
      ∀ pending, ∀ f ∈ failed, Point.Fails limit ⟨statements, m, room, pending⟩ f.1 f.2 := by
  induction h with
  | done => exact ⟨[], .done, by simp, by simp⟩
  | @fault room s rest m m' e heffect hrest ih =>
    obtain ⟨failed, hpicks, hreports, hfails⟩ := ih (called?_of_calls_eq_nil hcalls).2
    refine ⟨(s, e) :: failed, .fault hpicks, by simp [hreports], fun pending => ?_⟩
    refine List.forall_mem_cons.2 ⟨?_, fun f hf => .of_next (.fault heffect) (hfails pending f hf)⟩
    exact ⟨_, rest, .refl, rfl, execute_eq_error_iff.2 heffect⟩
  | change heffect _ ih =>
    obtain ⟨failed, hpicks, hreports, hfails⟩ := ih (called?_of_calls_eq_nil hcalls).2
    exact ⟨failed, .pass hpicks, hreports,
      fun pending f hf => .of_next (.change heffect) (hfails pending f hf)⟩
  | build heffect hbody _ ihbody ih =>
    obtain ⟨t, head, rfl⟩ := Statement.eq_compound_of_build heffect
    rw [calls_compound, List.append_eq_nil_iff] at hcalls
    obtain ⟨inner, hpicks, hreports, hfails⟩ := ihbody hcalls.1
    obtain ⟨failed, hpicks', hreports', hfails'⟩ := ih hcalls.2
    refine ⟨inner ++ failed, .build hpicks hpicks', ?_, fun pending => ?_⟩
    · rw [hreports', Machine.reports_close, hreports, List.map_append, List.append_assoc]
      rfl
    · refine List.forall_mem_append.2 ⟨fun f hf => ?_, fun f hf => ?_⟩
      · exact .of_next (.enter heffect) (hfails _ f hf)
      · exact .of_next (.enter heffect) (.of_walk (hbody.walk _)
          (.of_next .close (hfails' pending f hf)))
  | replay heffect => exact absurd hcalls (calls_ne_nil_of_replay heffect)

/-- What is still to be carried out at the point stands in the list, at some nesting. -/
structure Point.Within (statements : List Statement) (p : Point) : Prop where
  next : preorder p.statements ⊆ preorder statements
  pending : ∀ later ∈ p.pending, ∃ name rest, later = .build name rest ∧
    preorder rest ⊆ preorder statements

/-- Without calls, nothing is carried out but what stands in the list. -/
theorem Point.Within.of_next {limit : Nat} {statements : List Statement} {p q : Point}
    (hcalls : calls statements = []) (h : p.Within statements) (hnext : Point.Next limit p q) :
    q.Within statements := by
  obtain ⟨hnextup, hpending⟩ := h
  cases hnext with
  | fault _ | change _ => exact ⟨fun s hs => hnextup (preorder_subset_cons _ _ hs), hpending⟩
  | @enter s rest body m room pending name target heffect =>
    obtain ⟨t, head, rfl⟩ := Statement.eq_compound_of_build heffect
    have hrest := List.Subset.trans (preorder_subset_cons _ _) hnextup
    refine ⟨preorder_subset_of_mem (hnextup (mem_preorder_head _ _)), ?_⟩
    exact List.forall_mem_cons.2 ⟨⟨name, rest, rfl, hrest⟩, hpending⟩
  | replay heffect =>
    obtain ⟨-, t, name, rfl, -⟩ := Statement.effect_eq_replay_iff.1 heffect
    have hnone := List.filterMap_eq_nil_iff.1 hcalls _ (hnextup (mem_preorder_head _ _))
    cases hnone
  | close =>
    obtain ⟨⟨name, rest, heq, hrest⟩, hpending⟩ := List.forall_mem_cons.1 hpending
    cases heq
    exact ⟨hrest, hpending⟩
  | replayed =>
    obtain ⟨⟨name, rest, heq, -⟩, -⟩ := List.forall_mem_cons.1 hpending
    cases heq

theorem within_of_walk {limit : Nat} {statements : List Statement} {p : Point}
    (hcalls : calls statements = [])
    (h : ReflTransGen (Point.Next limit) (.start limit statements) p) : p.Within statements := by
  induction h with
  | refl => exact ⟨List.Subset.refl _, by simp [Point.start]⟩
  | tail _ hnext ih => exact ih.of_next hcalls hnext

/-- What fails in a run without calls stands in the list. -/
theorem Point.Fails.mem_preorder {limit : Nat} {statements : List Statement} {s : Statement}
    {e : CompileError} (hcalls : calls statements = [])
    (h : (Point.start limit statements).Fails limit s e) : s ∈ preorder statements := by
  obtain ⟨p, rest, hwalk, hs, -⟩ := h
  exact (within_of_walk hcalls hwalk).next (hs ▸ mem_preorder_head s rest)

/-! ## Reports of a source -/

/-- The statements of a source are introduced by tokens that are in order. -/
theorem pairwise_before_preorder {source : String} {statements : List Statement}
    (h : Derives (lex source).value statements) : (preorder statements).Pairwise fun s u =>
      s.token.mark.span.Before u.token.mark.span := by
  have htokens := (pairwise_before_lex source).sublist h.sublist
  rwa [List.pairwise_map] at htokens

/-- Statements that are introduced by tokens in order are told apart by the ranges of these. -/
theorem nodup_spans {statements : List Statement}
    (h : statements.Pairwise fun s u => s.token.mark.span.Before u.token.mark.span) :
    (statements.map (·.token.mark.span)).Nodup := by
  refine List.pairwise_map.2 (h.imp fun hbefore heq => ?_)
  exact absurd hbefore.start_lt (by rw [heq]; exact Nat.lt_irrefl _)

/-- The reports are those of the failed statements, in the order of the source. -/
structure ReportsInOrder (statements : List Statement) (failed : List (Statement × CompileError))
    (reports : List (Report CompileError)) : Prop where
  /-- There is one report for each, at the token that introduced it. -/
  reports_eq : reports = failed.map fun f => f.1.token.mark.report f.2
  /-- They are what comes to be carried out and fails. -/
  mem_iff : ∀ s e, (s, e) ∈ failed ↔ (Point.start 0 statements).Fails 0 s e
  sublist : (failed.map Prod.fst).Sublist (preorder statements)
  /-- Each report starts later than those before it, and not before they end. -/
  before : reports.Pairwise fun r r' => r.span.Before r'.span
  /-- Nothing is reported inside of what failed. -/
  not_mem_body : ∀ f ∈ failed, ∀ g ∈ failed, g.1 ∉ preorder f.1.body

/-- The reports of a source that is read without a fault and calls no macro: one for each statement
that fails, in the order of the source, and none for a statement inside one that fails. -/
theorem reports_in_order (config : Config) {source : String} {tokens : List Token}
    {statements : List Statement} (hlex : (lex source).result = .ok tokens)
    (hparse : (parse tokens).result = .ok statements) (hcalls : calls statements = []) :
    ∃ o failed, compile config statements = some o ∧ readDeck config source = some o.result ∧
      ReportsInOrder statements failed o.reports := by
  obtain ⟨-, rfl⟩ := Outcome.result_eq_ok_iff.1 hlex
  have hcompile := compile_of_calls_eq_nil config 0 hcalls
  have hread : readDeck config source = some (runWithin 0 statements).1.outcome.result := by
    simp [readDeck_eq, hlex, Except.bind, hparse, hcompile]
  obtain ⟨hok, hvalue⟩ := Outcome.result_eq_ok_iff.1 hparse
  have hderives := derives_of_parse (Outcome.isOk_iff.1 hok)
  rw [hvalue] at hderives
  have horder := pairwise_before_preorder hderives
  have hspans := nodup_spans horder
  obtain ⟨failed, hpicks, hreports, hfails⟩ := (runs_runWithin 0 statements).exists_picks hcalls
  have hfailed := horder.sublist hpicks.sublist
  rw [List.pairwise_map] at hfailed
  refine ⟨_, failed, hcompile, hread, hreports, fun s e => ⟨hfails [] (s, e), fun h => ?_⟩,
    hpicks.sublist, ?_, hpicks.not_mem_body hspans.of_map⟩
  · -- Its report is among the reports, and only one statement has the range of that.
    have hmem := h.report_mem
    rw [hreports] at hmem
    obtain ⟨f, hf, heq⟩ := List.mem_map.1 hmem
    have hstatement : f.1 = s := List.inj_on_of_nodup_map hspans (hpicks.mem_preorder hf)
      (h.mem_preorder hcalls) (congrArg Report.span heq)
    have herror : f.2 = e := congrArg Report.cause heq
    exact hstatement ▸ herror ▸ hf
  · show (runWithin 0 statements).1.reports.Pairwise _
    rw [hreports]
    exact List.pairwise_map.2 hfailed

/-- A slide with an unknown parent is reported, but not the block in it that has one as well; then a
slide is reported within, and a block in it. -/
theorem reports_in_order_skipped :
    let source := "slide a : b { block c : d {} }\nslide e { self.font = 1; block f { e = 1; } }"
    ∃ tokens statements, (lex source).result = .ok tokens ∧ (parse tokens).result = .ok statements ∧
      calls statements = [] ∧
      (compile ⟨some 256⟩ statements).map (·.reports) = some [
        ⟨.undefinedParentSlide "b", 1, 's', ⟨0, 5⟩⟩,
        ⟨.misplacedAttribute .font, 2, 's', ⟨41, 45⟩⟩,
        ⟨.undeclaredAssignment "e", 2, 'e', ⟨66, 67⟩⟩] ∧
      ∃ o failed, compile ⟨some 256⟩ statements = some o ∧
        readDeck ⟨some 256⟩ source = some o.result ∧
        ReportsInOrder statements failed o.reports := by
  intro source
  have hlex : (lex source).result = .ok (lex source).value :=
    Outcome.result_eq_ok_iff.2 ⟨by decide +kernel, rfl⟩
  have hparse : (parse (lex source).value).result = .ok (parse (lex source).value).value :=
    Outcome.result_eq_ok_iff.2 ⟨by decide +kernel, rfl⟩
  have hcalls : calls (parse (lex source).value).value = [] := by decide +kernel
  exact ⟨_, _, hlex, hparse, hcalls, by decide +kernel,
    reports_in_order ⟨some 256⟩ hlex hparse hcalls⟩

end SlideDeck
