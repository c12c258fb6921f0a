import SlideDeck.Proofs.Run.Walk

/-!
# How deeply replays nest

As many replays are in progress at a point of a run as are pending there, and together with the room
that is left they make up the limit. A call of a known macro is refused where no room is left and
nowhere else. So a run of a file comes to its end whatever macros call: there is no run of endlessly
many steps.

Results:
* `Point.Next.replays_add_room`: a step keeps the sum of the replays in progress and the room.
* `Point.exists_walk_done`, `Point.wellFounded_next`: every run comes to an end.
* `Point.Next.refuse`, `Point.Next.carry`: a call of a known macro, without room and with room.
* `replays_within_limit`: all of these.
-/

namespace SlideDeck

open Relation (ReflTransGen)

def Pending.isReplay : Pending → Bool
  | build _ _ => false
  | replay _ => true

/-- The number of replays in progress. -/
def Point.replays (p : Point) : Nat := p.pending.countP Pending.isReplay

namespace Point

variable {limit : Nat} {p q : Point}

/-! ## Replays in progress -/

/-- A step keeps the sum of the replays in progress and the room for more. -/
theorem Next.replays_add_room (h : Next limit p q) : q.replays + q.room = p.replays + p.room := by
  cases h <;> simp only [replays, List.countP_cons, Pending.isReplay] <;> simp <;> omega

/-- With the room for more, the replays in progress make up the limit. -/
theorem replays_add_room_of_walk {statements : List Statement}
    (h : ReflTransGen (Next limit) (.start limit statements) p) : p.replays + p.room = limit := by
  induction h with
  | refl => exact Nat.zero_add limit
  | tail _ hnext ih => exact hnext.replays_add_room.trans ih

/-! ## Every run comes to an end -/

/-- From every point, whatever is pending, a run comes to its end. -/
theorem exists_walk_done (limit : Nat) (p : Point) :
    ∃ m room, ReflTransGen (Next limit) p ⟨[], m, room, []⟩ := by
  obtain ⟨statements, m, room, pending⟩ := p
  induction pending generalizing statements m room with
  | nil => exact ⟨_, _, (runs_runFrom limit room statements m).walk []⟩
  | cons first pending ih =>
    have hwalk := (runs_runFrom limit room statements m).walk (first :: pending)
    cases first with
    | build name rest =>
      obtain ⟨m', room', hrest⟩ := ih rest ((runFrom limit room statements m).close name) room
      exact ⟨m', room', hwalk.trans (.head .close hrest)⟩
    | replay rest =>
      obtain ⟨m', room', hrest⟩ := ih rest (runFrom limit room statements m) (room + 1)
      exact ⟨m', room', hwalk.trans (.head .replayed hrest)⟩

/-- There is no run of endlessly many steps. -/
theorem wellFounded_next (limit : Nat) : WellFounded fun q p => Next limit p q := by
  constructor
  intro p
  obtain ⟨m, room, hwalk⟩ := exists_walk_done limit p
  -- The steps are determined, so every run from the point is on the way to that end.
  induction hwalk using ReflTransGen.head_induction_on with
  | refl => exact ⟨_, fun q hq => absurd hq not_next_of_done⟩
  | head hstep _ ih => exact ⟨_, fun q hq => hq.unique hstep ▸ ih⟩

/-! ## Calls of known macros -/

section

variable {t : Token} {name : String} {rest body : List Statement}

/-- Without room, the call is reported, and what follows is carried out. -/
theorem Next.refuse (hcall : p.statements = .command t (.call name) :: rest)
    (hfound : p.machine.env.findMacro? name = some body) (hroom : p.room = 0) :
    Next limit p ⟨rest, p.machine.report t (.macroDepthExceeded limit), p.room, p.pending⟩ := by
  obtain ⟨statements, m, room, pending⟩ := p
  cases hcall
  cases hroom
  refine .fault ?_
  simp only [Statement.effect, Command.effect, Environment.macroBody, hfound]
  rfl

/-- With room, the statements of the macro are carried out before what follows. -/
theorem Next.carry (hcall : p.statements = .command t (.call name) :: rest)
    (hfound : p.machine.env.findMacro? name = some body) (hroom : p.room ≠ 0) :
    Next limit p ⟨body, p.machine, p.room - 1, .replay rest :: p.pending⟩ := by
  obtain ⟨statements, m, room, pending⟩ := p
  obtain ⟨room, rfl⟩ := Nat.exists_eq_succ_of_ne_zero hroom
  cases hcall
  exact .replay (Statement.effect_eq_replay_iff.2 ⟨hroom, t, name, rfl, hfound⟩)

end

end Point

section

variable {limit : Nat} {m : Machine} {name : String} {body : List Statement}

theorem execute_call_of_findMacro? (hfound : m.env.findMacro? name = some body) (room : Nat)
    (t : Token) : execute (replay limit room) (.command t (.call name)) m =
      replay limit room name body m := by
  simp only [execute, Action.command, Action.look, Environment.macroBody, hfound, bind, Action.bind]
  rfl

/-- A call of a known macro is refused exactly where there is no room for its replay. -/
theorem execute_call_eq_error_iff (hfound : m.env.findMacro? name = some body) (room : Nat)
    (t : Token) {e : CompileError} :
    (execute (replay limit room) (.command t (.call name)) m).result = .error e ↔
      room = 0 ∧ e = .macroDepthExceeded limit := by
  rw [execute_call_of_findMacro? hfound]
  cases room with
  | zero => simp [replay_zero, Action.fail, eq_comm]
  | succ room => simp [replay_succ]

end

/-- A run of a file comes to its end, at the outcome of the file. At every point on the way the
replays in progress and the room that is left make up the limit. A call of a known macro is refused
exactly where the limit is reached, which adds one report and changes nothing else; elsewhere the
macro is replayed, and it is told inside of how many replays: as many as are in progress. -/
theorem replays_within_limit (limit : UInt64) (statements : List Statement) :
    let n := limit.toNat
    (WellFounded fun q p => Point.Next n p q) ∧
    ∃ m, compile ⟨some limit⟩ statements = some m.outcome ∧
    ∀ p, ReflTransGen (Point.Next n) (.start n statements) p →
      ReflTransGen (Point.Next n) p ⟨[], m, n, []⟩ ∧
      p.replays + p.room = n ∧ p.replays ≤ n ∧
      ∀ t name rest body, p.statements = .command t (.call name) :: rest →
        p.machine.env.findMacro? name = some body →
        let step := execute (replay n p.room) (.command t (.call name)) p.machine
        (step.result = .error (.macroDepthExceeded n) ↔ p.replays = n) ∧
        (p.replays = n → step.machine = p.machine ∧ step.events = [] ∧ p.Next n
          { p with statements := rest, machine := { p.machine with
              reports := p.machine.reports ++ [t.mark.report (.macroDepthExceeded n)] } }) ∧
        (p.replays < n → step.events.head? = some (.macroReplayed name p.replays) ∧
          p.Next n ⟨body, p.machine, p.room - 1, .replay rest :: p.pending⟩) := by
  intro n
  refine ⟨Point.wellFounded_next n, _, compile_bounded limit statements, fun p hp => ?_⟩
  have hsum : p.replays + p.room = n := Point.replays_add_room_of_walk hp
  refine ⟨walk_of_walk_start hp, hsum, by omega, ?_⟩
  intro t name rest body hcall hfound step
  have hstep : step = replay n p.room name body p.machine :=
    execute_call_of_findMacro? hfound p.room t
  refine ⟨?_, fun hreached => ?_, fun hbelow => ?_⟩
  · rw [execute_call_eq_error_iff hfound]
    simp only [and_true]
    omega
  · have hroom : p.room = 0 := by omega
    have hrefuse : step = Action.fail (.macroDepthExceeded n) p.machine := by
      rw [hstep, hroom, replay_zero]
    rw [hrefuse]
    exact ⟨rfl, rfl, .refuse hcall hfound hroom⟩
  · have hroom : p.room ≠ 0 := by omega
    refine ⟨?_, .carry hcall hfound hroom⟩
    obtain ⟨room, hsucc⟩ := Nat.exists_eq_succ_of_ne_zero hroom
    have hdepth : n - (room + 1) = p.replays := by omega
    rw [hstep, hsucc, replay_succ, List.head?_cons, hdepth]

/-- A macro calls itself from within a slide that it declares: the second call is refused. -/
theorem replays_within_limit_recursive :
    let t : Token := ⟨.endOfInput, ⟨1, 'a', ⟨0, 1⟩⟩⟩
    let call := Statement.command t (.call "m")
    let slide := Statement.compound t (.slide "s" none) [call]
    let statements := [.compound t (.macroDef "m") [slide], call]
    (WellFounded fun q p => Point.Next 1 p q) ∧
    compile ⟨some 1⟩ statements = some ⟨⟨[{}]⟩, [t.mark.report (.macroDepthExceeded 1)]⟩ ∧
    ∃ p, ReflTransGen (Point.Next 1) (.start 1 statements) p ∧ p.statements = [call] ∧
      p.pending.length = 2 ∧ p.replays = 1 ∧
      (execute (replay 1 p.room) call p.machine).result = .error (.macroDepthExceeded 1) := by
  intro t call slide statements
  obtain ⟨hends, m, hm, hpoints⟩ := replays_within_limit 1 statements
  have hwalk : ReflTransGen (Point.Next 1) (.start 1 statements) _ :=
    .head (.change rfl) (.head (.replay rfl) (.head (.enter rfl) .refl))
  obtain ⟨-, -, -, hcalls⟩ := hpoints _ hwalk
  obtain ⟨hrefused, -⟩ := hcalls t "m" [] [slide] rfl rfl
  exact ⟨hends, by decide +kernel, _, hwalk, rfl, rfl, rfl, hrefused.2 rfl⟩

end SlideDeck
