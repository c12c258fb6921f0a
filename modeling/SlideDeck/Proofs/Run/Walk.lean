import Mathlib.Logic.Relation
import SlideDeck.Proofs.Run.Limit

/-!
# Runs step by step

At a point of a run some statements are to be carried out next, and others are pending: those behind
the declaration whose body was entered, those behind the call of the macro that is being replayed.
Each step carries out one statement, or goes on with what is pending when none is left.

Results:
* `Point.Next.unique`: there is at most one next point, and none after a file is done.
* `Runs.walk`: a run of a list of statements is a sequence of steps.
* `walk_runWithin`, `walk_of_walk_start`: the steps of a file lead to the machine that the whole run
  of it leads to, from every point on the way.
* `walk_runWithin_append`: statements that follow go on from there.
-/

namespace SlideDeck

open Relation (ReflTransGen)

/-- What to go on with when the statements of a body or of a macro are done. -/
inductive Pending where
  /-- The scope of a slide or block is closed, and what was built there is put under its name. -/
  | build (name : String) (rest : List Statement)
  | replay (rest : List Statement)

/-- A point of a run. -/
structure Point where
  /-- The statements to be carried out next. -/
  statements : List Statement
  machine : Machine
  /-- How many more replays may be nested. -/
  room : Nat
  /-- What is pending, from the inside to the outside. -/
  pending : List Pending := []

namespace Point

/-- The point at which a file starts. -/
def start (limit : Nat) (statements : List Statement) : Point :=
  { statements := statements, machine := {}, room := limit }

/-- The second point comes right after the first one. -/
inductive Next (limit : Nat) : Point → Point → Prop
  | fault {s : Statement} {rest : List Statement} {m : Machine} {room : Nat}
      {pending : List Pending} {e : CompileError} : s.effect limit room m.env = .error e →
      Next limit ⟨s :: rest, m, room, pending⟩ ⟨rest, m.report s.token e, room, pending⟩
  | change {s : Statement} {rest : List Statement} {m : Machine} {room : Nat}
      {pending : List Pending} {env : Environment} :
      s.effect limit room m.env = .ok (.change env) →
      Next limit ⟨s :: rest, m, room, pending⟩ ⟨rest, { m with env := env }, room, pending⟩
  | enter {s : Statement} {rest body : List Statement} {m : Machine} {room : Nat}
      {pending : List Pending} {name : String} {target : Target} :
      s.effect limit room m.env = .ok (.build name target body) →
      Next limit ⟨s :: rest, m, room, pending⟩
        ⟨body, m.enter target, room, .build name rest :: pending⟩
  | replay {s : Statement} {rest body : List Statement} {m : Machine} {room : Nat}
      {pending : List Pending} : s.effect limit (room + 1) m.env = .ok (.replay body) →
      Next limit ⟨s :: rest, m, room + 1, pending⟩ ⟨body, m, room, .replay rest :: pending⟩
  | close {rest : List Statement} {m : Machine} {room : Nat} {pending : List Pending}
      {name : String} :
      Next limit ⟨[], m, room, .build name rest :: pending⟩ ⟨rest, m.close name, room, pending⟩
  | replayed {rest : List Statement} {m : Machine} {room : Nat} {pending : List Pending} :
      Next limit ⟨[], m, room, .replay rest :: pending⟩ ⟨rest, m, room + 1, pending⟩

variable {limit : Nat} {p q q' : Point}

/-- There is at most one next point. -/
theorem Next.unique (h : Next limit p q) (h' : Next limit p q') : q = q' := by
  cases h <;> cases h' <;> simp_all

/-- When a file is done there is no next point. -/
theorem not_next_of_done {m : Machine} {room : Nat} : ¬ Next limit ⟨[], m, room, []⟩ q := by
  rintro ⟨⟩

end Point

/-- A run of a list of statements is a sequence of steps, whatever is pending. -/
theorem Runs.walk {limit room : Nat} {statements : List Statement} {m m' : Machine}
    (h : Runs limit room statements m m') (pending : List Pending) :
    ReflTransGen (Point.Next limit) ⟨statements, m, room, pending⟩ ⟨[], m', room, pending⟩ := by
  induction h generalizing pending with
  | done => exact .refl
  | fault h _ ih => exact .head (.fault h) (ih pending)
  | change h _ ih => exact .head (.change h) (ih pending)
  | build h _ _ ihbody ih => exact .head (.enter h) ((ihbody _).trans (.head .close (ih pending)))
  | replay h _ _ ihbody ih =>
    exact .head (.replay h) ((ihbody _).trans (.head .replayed (ih pending)))

/-- The steps of a file lead to the machine that the whole run of it leads to. -/
theorem walk_runWithin (limit : Nat) (statements : List Statement) :
    ReflTransGen (Point.Next limit) (.start limit statements)
      ⟨[], (runWithin limit statements).1, limit, []⟩ :=
  (runs_runWithin limit statements).walk []

/-- The steps of the statements that follow lead on from where those before lead to. -/
theorem walk_runWithin_append (limit : Nat) (before after : List Statement) :
    ReflTransGen (Point.Next limit) ⟨after, (runWithin limit before).1, limit, []⟩
      ⟨[], (runWithin limit (before ++ after)).1, limit, []⟩ := by
  have hrun : (runWithin limit (before ++ after)).1 =
      runFrom limit limit after (runWithin limit before).1 :=
    runFrom_append limit limit before after {}
  rw [hrun]
  exact (runs_runFrom limit limit after (runWithin limit before).1).walk []

/-- From every point of the run of a file, the end of the run is reached. -/
theorem walk_of_walk_start {limit : Nat} {statements : List Statement} {p : Point}
    (h : ReflTransGen (Point.Next limit) (.start limit statements) p) :
    ReflTransGen (Point.Next limit) p ⟨[], (runWithin limit statements).1, limit, []⟩ := by
  have hunique : Relator.RightUnique (Point.Next limit) := fun _ _ _ hq hq' => hq.unique hq'
  rcases ReflTransGen.total_of_right_unique hunique h (walk_runWithin limit statements) with
    hend | hbeyond
  · exact hend
  · rcases ReflTransGen.cases_head hbeyond with rfl | ⟨q, hq, -⟩
    · exact .refl
    · exact absurd hq Point.not_next_of_done

end SlideDeck
