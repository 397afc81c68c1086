import CredentialKeeper.Proofs.Manager.Timeline

/-! # A session is a run

A session does each move in one go. Here its operations are taken apart into the moves of
`Interleaving.step`, so that what holds of all runs holds of sessions (`Chronicle.session_run`): a
manager that has started (`Chronicle.start_run`), settles, is stopped, shut down or dropped, and
waits. Time does not pass in any of these but the last, where it passes once the task has settled.
If no wait of the plan is over at once, the moves that a session follows are enough for that
(`Chronicle.move_settle`). -/

namespace CredentialKeeper.Manager

variable {σ α β : Type}

namespace Chronicle
open Interleaving

variable {admits : Discipline σ α β} {x : Chronicle σ α β} {s s' : Session σ α β}
  {calls : List ShutdownCall}

/-- The manager is at a session, with these calls of shutdown, and the task and the start have
nothing left to do. -/
structure Rests (x : Chronicle σ α β) (s : Session σ α β) (calls : List ShutdownCall) : Prop where
  session : x.session = s
  taskAhead : x.manager.taskAhead = []
  startAhead : x.manager.startAhead = []
  shutdowns : x.manager.shutdowns = calls

def Reaches (admits : Discipline σ α β) (x : Chronicle σ α β) (s : Session σ α β)
    (calls : List ShutdownCall) : Prop :=
  ∃ y, Run admits x y ∧ y.Rests s calls

theorem Rests.reaches (H : x.Rests s calls) : x.Reaches admits s calls := ⟨x, .refl, H⟩

theorem Reaches.trans {calls' : List ShutdownCall} (H : x.Reaches admits s calls)
    (h : ∀ {y : Chronicle σ α β}, y.Rests s calls → y.Reaches admits s' calls') :
    x.Reaches admits s' calls' := by
  obtain ⟨y, hxy, hy⟩ := H
  obtain ⟨z, hyz, hz⟩ := h hy
  exact ⟨z, hxy.trans hyz, hz⟩

/-! ## Moves in one go -/

theorem prompt_of_alone (s : Interleaving σ α β) (m : Move) (h : alone s m) : prompt s m := by
  cases h
  trivial

theorem next_perform {e : Effect α} {es : List (Effect α)} (h : x.manager.taskAhead = e :: es) :
    Next alone x (x.performed [e] es) :=
  ⟨.task, rfl, by simp [step, Interleaving.step, taskMove, event?, h]⟩

theorem next_decide {t : Task σ α β} {es : List (Effect α)} (h : x.manager.taskAhead = [])
    (ht : x.session.task.step x.session.plan x.session.now x.session.cells = some (t, es)) :
    Next alone x (x.decided (x.manager.event? .task) t es) :=
  ⟨.task, rfl, by simp [step, Interleaving.step, taskMove, h, ht]⟩

theorem run_taskAhead {es : List (Effect α)} (h : x.manager.taskAhead = es) :
    Run alone x (x.performed es []) := by
  induction es generalizing x with
  | nil =>
    obtain ⟨⟨session, taskAhead, startAhead, shutdowns⟩, log⟩ := x
    cases h
    exact .refl
  | cons e es ih => exact .head (next_perform h) (ih rfl)

/-- The start has let some effects happen, and has the rest ahead. -/
abbrev started (x : Chronicle σ α β) (es rest : List (Effect α)) : Chronicle σ α β :=
  ⟨{ x.manager with session := x.session.perform es, startAhead := rest }, x.log⟩

theorem next_start {e : Effect α} {es : List (Effect α)} (h : x.manager.startAhead = e :: es) :
    Next prompt x (x.started [e] es) :=
  ⟨.start, trivial, by simp [step, Interleaving.step, event?, h]⟩

theorem run_startAhead {es : List (Effect α)} (h : x.manager.startAhead = es) :
    Run prompt x (x.started es []) := by
  induction es generalizing x with
  | nil =>
    obtain ⟨⟨session, taskAhead, startAhead, shutdowns⟩, log⟩ := x
    cases h
    exact .refl
  | cons e es ih => exact .head (next_start h) (ih rfl)

namespace Rests

theorem move {es : List (Effect α)} (H : x.Rests s calls) (h : s.move = some (s', es)) :
    x.Reaches prompt s' calls := by
  obtain rfl := H.session
  obtain ⟨⟨t, es'⟩, ht, heq⟩ := Option.map_eq_some_iff.1 h
  obtain ⟨rfl, rfl⟩ := Prod.mk.inj heq
  have hdecide := next_decide H.taskAhead ht
  exact ⟨_, Run.mono prompt_of_alone (.head hdecide (run_taskAhead rfl)), rfl, rfl, H.startAhead,
    H.shutdowns⟩

theorem settleWith (fuel : Nat) (H : x.Rests s calls) :
    x.Reaches prompt (s.settleWith fuel) calls := by
  induction fuel generalizing x s with
  | zero => exact H.reaches
  | succ fuel ih =>
    rw [Session.settleWith]
    split
    next => exact H.reaches
    next h => exact (H.move h).trans ih

theorem settle (H : x.Rests s calls) : x.Reaches prompt s.settle calls := H.settleWith _

theorem stop (H : x.Rests s calls) : x.Reaches prompt s.stop calls := by
  obtain rfl := H.session
  by_cases howned : x.session.isOwned = true
  · refine ⟨⟨{ x.manager with session := x.session.stop }, x.log⟩, .single ⟨.stop, trivial, ?_⟩,
      rfl, H.taskAhead, H.startAhead, H.shutdowns⟩
    simp [step, Interleaving.step, event?, hasManager, H.startAhead, howned]
  · rw [Session.stop, if_neg howned]
    exact H.reaches

theorem drop (H : x.Rests s []) : x.Reaches prompt s.drop [] := by
  obtain rfl := H.session
  by_cases howned : x.session.isOwned = true
  · refine ⟨⟨{ x.manager with session := x.session.drop }, x.log⟩, .single ⟨.drop, trivial, ?_⟩,
      rfl, H.taskAhead, H.startAhead, H.shutdowns⟩
    simp [step, Interleaving.step, event?, hasManager, H.startAhead, H.shutdowns, howned]
  · rw [Session.drop, if_neg howned]
    exact H.reaches

theorem follow (fuel : Nat) {call : ShutdownCall} (H : x.Rests s (calls ++ [call])) :
    ∃ call', x.Reaches prompt (s.follow fuel call) (calls ++ [call']) := by
  induction fuel generalizing x s call with
  | zero => exact ⟨call, H.reaches⟩
  | succ fuel ih =>
    rw [Session.follow]
    split
    next call' handle es h =>
      obtain rfl := H.session
      have hnext : Next prompt x ⟨{ x.manager with
          session := ({ x.session with hasHandle := handle }).perform es
          shutdowns := calls ++ [call'] }, x.log⟩ := by
        refine ⟨.shutdown calls.length, trivial, ?_⟩
        simp [step, Interleaving.step, shutdownMove, event?, H.shutdowns, Interleaving.exit?,
          H.taskAhead, h]
      obtain ⟨call'', z, hz, hrest⟩ := ih (x := ⟨{ x.manager with
          session := ({ x.session with hasHandle := handle }).perform es
          shutdowns := calls ++ [call'] }, x.log⟩) ⟨rfl, H.taskAhead, H.startAhead, rfl⟩
      exact ⟨call'', z, .head hnext hz, hrest⟩
    next h =>
      split
      next hjoin =>
        obtain ⟨y, hy, hrest⟩ := H.settle
        obtain ⟨call', z, hz, hrest⟩ := ih hrest
        exact ⟨call', z, hy.trans hz, hrest⟩
      next => exact ⟨call, H.reaches⟩

theorem shutdown (H : x.Rests s calls) : x.Reaches prompt s.shutdown calls := by
  obtain rfl := H.session
  by_cases howned : x.session.isOwned = true
  · rw [Session.shutdown, if_pos howned]
    have hcall : Next prompt x
        ⟨{ x.manager with shutdowns := calls ++ [.called] }, x.log⟩ := by
      refine ⟨.callShutdown, trivial, ?_⟩
      simp [step, Interleaving.step, event?, hasManager, H.startAhead, H.shutdowns, howned]
    obtain ⟨call, y, hy, hrest⟩ := follow (x := ⟨{ x.manager with
      shutdowns := calls ++ [.called] }, x.log⟩) 5 ⟨rfl, H.taskAhead, H.startAhead, rfl⟩
    -- whoever called does not stay
    refine ⟨⟨{ y.manager with shutdowns := calls }, y.log⟩, .tail (.head hcall hy)
      ⟨.abandon calls.length, trivial, ?_⟩, hrest.session, hrest.taskAhead, hrest.startAhead, rfl⟩
    simp [step, Interleaving.step, event?, hrest.shutdowns, List.eraseIdx_append_of_length_le]
  · rw [Session.shutdown, if_neg howned]
    exact H.reaches

end Rests

/-! ## The start -/

theorem ofFirst_of_run {p : Plan σ α β} {backoff : β} {limit fuel now : Nat}
    {startup : Startup σ α} {history : List (Nat × Effect α)}
    (h : Started.run p backoff limit fuel now startup history = .ok s) :
    ∃ now source c history, s = .ofFirst p now source backoff c history := by
  induction fuel generalizing now startup history with
  | zero => cases h
  | succ fuel ih =>
    simp only [Started.run] at h
    split at h
    next => cases h; exact ⟨_, _, _, _, rfl⟩
    next => cases h
    next =>
      split at h
      next =>
        split at h
        next => exact ih h
        next => cases h
      next => cases h

/-- A manager that has started is one that was launched. -/
theorem start_run {p : Plan σ α β} {source : σ} {backoff : β} {limit : Nat}
    (h : start p source backoff limit = .ok s) :
    ∃ now source c history, (launched p now source backoff c history).Reaches prompt s [] := by
  obtain ⟨now, source, c, history, rfl⟩ := ofFirst_of_run h
  exact ⟨now, source, c, history, _, run_startAhead rfl, rfl, rfl, rfl, rfl⟩

/-! ## Settling -/

theorem settleWith_frame (fuel : Nat) (s : Session σ α β) :
    (s.settleWith fuel).plan = s.plan ∧ (s.settleWith fuel).now = s.now := by
  induction fuel generalizing s with
  | zero => exact ⟨rfl, rfl⟩
  | succ fuel ih =>
    rw [Session.settleWith]
    split
    next => exact ⟨rfl, rfl⟩
    next h =>
      obtain ⟨_, _, heq⟩ := Option.map_eq_some_iff.1 h
      obtain ⟨rfl, rfl⟩ := Prod.mk.inj heq
      exact ih _

/-- No wait of a plan is over at once. -/
structure Spaced (p : Plan σ α β) : Prop where
  least : 0 < p.settings.minRefreshInterval.nanos
  retries : ∀ {b n wait b'}, p.backoff.next b n = (.retryAfter wait, b') → 0 < wait.nanos

/-- A bound on the moves that a task can make at an instant, if no wait is over at once. -/
def movesLeft (now : Nat) (cells : Cells α) (t : Task σ α β) : Nat :=
  match t.phase with
  | .ended _ => 0
  | .waiting wake => if cells.isCancelled then 1 else if wake ≤ now then 5 else 0
  | .planning => 2
  | .spawned | .renewing _ => 3
  | .awake => 4

theorem lt_tickAfter {now : Nat} {wait : Span} (h : 0 < wait.nanos) : now < tickAfter now wait := by
  have hle := (tickAfter_endsWait now wait).min_le
  unfold thirtyYears at hle
  omega

theorem movesLeft_waiting {now : Nat} {cells : Cells α} {t : Task σ α β} {wait : Span}
    (ht : t.phase = .waiting (tickAfter now wait))
    (h : cells.isCancelled = true ∨ 0 < wait.nanos) : movesLeft now cells t < 2 := by
  rcases h with hc | h
  · simp [movesLeft, ht, hc]
  · have hlt : now < tickAfter now wait := lt_tickAfter h
    simp only [movesLeft, ht, Nat.not_le.2 hlt, if_false]
    split <;> omega

/-- Each move leaves fewer to come, if a wait is not over at once or is cut short by a stop. -/
theorem movesLeft_lt {p : Plan σ α β} {now : Nat} {cells : Cells α}
    (hp : cells.isCancelled = true ∨ Spaced p) {t t' : Task σ α β} {ev : Option (Event α)}
    {effects : List (Effect α)} (M : t.Moves p now cells ev t' effects) :
    movesLeft now cells t' < movesLeft now cells t := by
  cases M with
  | schedule h hf hw hd =>
    rw [show movesLeft now cells t = 2 by simp [movesLeft, h]]
    refine movesLeft_waiting rfl (hp.imp_right fun hp => ?_)
    have hpos := hp.least.trans_le (le_renewalWait p.settings cells.current.expiresAt ‹Moment›)
    rwa [← Task.scheduledDelay_nanos, hd] at hpos
  | retry h hf hb =>
    rw [show movesLeft now cells t = 2 by simp [movesLeft, h]]
    exact movesLeft_waiting rfl (hp.imp_right fun hp => hp.retries hb)
  | cancel hc h =>
    obtain ⟨wake, h⟩ | h | ⟨call, h⟩ := h <;> simp [movesLeft, h, hc]
  | wakeUp h hc hw => simp [movesLeft, h, hc, hw]
  | _ => simp [movesLeft, *]

theorem movesLeft_applyAll {now : Nat} {cells : Cells α} {t : Task σ α β} {es : List (Effect α)}
    (h : .cancelled ∉ es) : movesLeft now (cells.applyAll es) t = movesLeft now cells t := by
  have hc : (cells.applyAll es).isCancelled = true ↔ cells.isCancelled = true := by
    rw [Cells.isCancelled_applyAll]
    simp [h]
  simp only [movesLeft, hc]

theorem move_settleWith {fuel : Nat} (hp : Spaced s.plan)
    (h : movesLeft s.now s.cells s.task ≤ fuel) : (s.settleWith fuel).move = none := by
  induction fuel generalizing s with
  | zero =>
    have hzero : movesLeft s.now s.cells s.task = 0 := Nat.le_zero.1 h
    show s.move = none
    by_contra hmove
    obtain ⟨⟨s', es⟩, hmove⟩ := Option.ne_none_iff_exists'.1 hmove
    obtain ⟨⟨t, es'⟩, ht, -⟩ := Option.map_eq_some_iff.1 hmove
    have hlt := movesLeft_lt (.inr hp) (Task.step_moves ht)
    omega
  | succ fuel ih =>
    rw [Session.settleWith]
    split
    next hmove => exact hmove
    next hmove =>
      obtain ⟨⟨t, es⟩, ht, heq⟩ := Option.map_eq_some_iff.1 hmove
      obtain ⟨rfl, rfl⟩ := Prod.mk.inj heq
      have M := Task.step_moves ht
      have hlt := movesLeft_lt (.inr hp) M
      refine ih hp ?_
      show movesLeft s.now (s.cells.applyAll es) t ≤ fuel
      rw [movesLeft_applyAll M.not_cancelled]
      omega

/-- The moves that a session follows at most are enough. -/
theorem move_settle (hp : Spaced s.plan) : s.settle.move = none := by
  refine move_settleWith hp ?_
  unfold movesLeft Session.movesAtOnce
  split
  next => omega
  next => split <;> [omega; (split <;> omega)]
  all_goals omega

/-! ## Time -/

theorem Rests.tick {nanos : Nat} (H : x.Rests s calls) (had : admits x.manager (.tick nanos)) :
    x.Reaches admits { s with now := s.now + nanos } calls := by
  obtain rfl := H.session
  exact ⟨_, .single ⟨.tick nanos, had, rfl⟩, rfl, H.taskAhead, H.startAhead, H.shutdowns⟩

theorem Reaches.mono {admits' : Discipline σ α β} (hadm : ∀ s m, admits s m → admits' s m)
    (H : x.Reaches admits s calls) : x.Reaches admits' s calls := by
  obtain ⟨y, hy, hrest⟩ := H
  exact ⟨y, Run.mono hadm hy, hrest⟩

/-- A discipline lets time pass for settled sessions of a plan, up to the time at which the task
can move again. -/
def Passes (admits : Discipline σ α β) (p : Plan σ α β) : Prop :=
  ∀ {x : Chronicle σ α β} {s : Session σ α β} {calls : List ShutdownCall} {nanos : Nat},
    x.Rests s.settle calls → s.plan = p →
    (∀ wake, s.settle.task.wake? = some wake → s.now < wake → s.now + nanos ≤ wake) →
    admits x.manager (.tick nanos)

theorem free_passes (p : Plan σ α β) : Passes free p := fun _ _ _ => trivial

theorem prompt_passes {p : Plan σ α β} (hp : Spaced p) : Passes prompt p := by
  intro x s calls nanos H hplan hwake
  have hmove : s.settle.move = none := move_settle (hplan ▸ hp)
  have hnow : s.settle.now = s.now := (settleWith_frame _ s).2
  refine ⟨H.taskAhead, fun k hk => ?_⟩
  rw [show x.manager.session = s.settle from H.session, hnow]
  rw [Session.move, Option.map_eq_none_iff, hnow] at hmove
  obtain ⟨hwaits, hc⟩ | ⟨exit, h⟩ := Task.idle hmove
  · obtain ⟨wake, hw, hlt⟩ : ∃ wake, s.settle.task.wake? = some wake ∧ s.now < wake := by
      obtain ⟨wake, h, hlt⟩ | ⟨call, h, hlt⟩ := hwaits
      · exact ⟨wake, by simp [Task.wake?, h], hlt⟩
      · exact ⟨call.endsAt, by simp [Task.wake?, h], hlt⟩
    exact Task.step_of_wake hw hc (by have := hwake wake hw hlt; omega)
  · simp [Task.step, h]

theorem Rests.waitFor {t : Nat} (hpass : Passes admits s.plan) (H : x.Rests s.settle calls)
    (h : ∀ wake, s.settle.task.wake? = some wake → s.now < wake → t ≤ wake) :
    x.Reaches admits { s.settle with now := Nat.max s.settle.now t } calls := by
  have hnow : s.settle.now = s.now := (settleWith_frame _ s).2
  have htick : admits x.manager (.tick (t - s.settle.now)) := by
    refine hpass H rfl fun wake hw hlt => ?_
    have := h wake hw hlt
    omega
  have hmax : Nat.max s.settle.now t = s.settle.now + (t - s.settle.now) := by
    show max _ _ = _
    omega
  rw [hmax]
  exact H.tick htick

theorem Rests.go {wanted : Session σ α β → Bool} {limit fuel : Nat}
    (hadm : ∀ s m, prompt s m → admits s m) (hpass : Passes admits s.plan)
    (hfuel : limit ≤ s.now + fuel) (H : x.Rests s.settle calls) :
    x.Reaches admits (Session.runUntil.go wanted limit fuel s.settle).2 calls := by
  have hnow : s.settle.now = s.now := (settleWith_frame _ s).2
  induction fuel generalizing x s with
  | zero =>
    unfold Session.runUntil.go
    split
    next => exact H.reaches
    next => exact H.waitFor hpass fun wake _ hlt => by omega
  | succ fuel ih =>
    unfold Session.runUntil.go
    split
    next => exact H.reaches
    next =>
      split
      next fuel' wake hfuel' hw =>
        cases hfuel'
        split
        next hlt =>
          have hwait : x.Reaches admits { s.settle with now := Nat.max s.settle.now wake } calls :=
            H.waitFor hpass fun wake' hw' _ => by rw [hw] at hw'; cases hw'; exact Nat.le_refl _
          rw [show Nat.max s.settle.now wake = wake from Nat.max_eq_right hlt.1.le] at hwait
          have hplan : s.settle.plan = s.plan := (settleWith_frame _ s).1
          refine hwait.trans fun hy => (hy.settle.mono hadm).trans fun hz => ?_
          refine ih (hplan.symm ▸ hpass) ?_ hz (settleWith_frame _ _).2
          show limit ≤ wake + fuel
          omega
        next hlt =>
          refine H.waitFor hpass fun wake' hw' hnow' => ?_
          rw [hw] at hw'
          cases hw'
          omega
      next hnone => exact H.waitFor hpass fun wake hw _ => (hnone _ _ rfl hw).elim

theorem Rests.runUntil {wanted : Session σ α β → Bool} {wait : Nat}
    (hadm : ∀ s m, prompt s m → admits s m) (hpass : Passes admits s.plan) (H : x.Rests s calls) :
    x.Reaches admits (s.runUntil wanted wait).2 calls :=
  (H.settle.mono hadm).trans fun hy => hy.go hadm hpass (Nat.le_refl _)

end Chronicle

/-- What is done with a manager. -/
inductive Use where
  | settle
  | advance (nanos : Nat)
  | stop
  | shutdown
  | drop
  | waitForStop (nanos : Nat)

def Session.use (s : Session σ α β) : Use → Session σ α β
  | .settle => s.settle
  | .advance nanos => s.advance nanos
  | .stop => s.stop
  | .shutdown => s.shutdown
  | .drop => s.drop
  | .waitForStop nanos => (s.stopped nanos).2

namespace Chronicle
open Interleaving

variable {admits : Discipline σ α β} {x : Chronicle σ α β} {s : Session σ α β}

theorem Rests.use (hadm : ∀ s m, prompt s m → admits s m) (hpass : Passes admits s.plan)
    (H : x.Rests s []) (u : Use) : x.Reaches admits (s.use u) [] := by
  cases u with
  | settle => exact H.settle.mono hadm
  | advance nanos => exact H.runUntil hadm hpass
  | stop => exact H.stop.mono hadm
  | shutdown => exact H.shutdown.mono hadm
  | drop => exact H.drop.mono hadm
  | waitForStop nanos => exact H.runUntil hadm hpass

theorem Reaches.uses (hadm : ∀ s m, prompt s m → admits s m) (us : List Use)
    (hx : x.manager.Sound) (hpass : Passes admits x.session.plan) (H : x.Reaches admits s []) :
    x.Reaches admits (us.foldl Session.use s) [] := by
  induction us generalizing s with
  | nil => exact H
  | cons u us ih =>
    obtain ⟨y, hy, hrest⟩ := H
    have hplan : s.plan = x.session.plan := hrest.session ▸ hy.plan_eq hx
    obtain ⟨z, hz, hrest⟩ := hrest.use hadm (hplan ▸ hpass) u
    exact ih ⟨z, hy.trans hz, hrest⟩

/-- **A session is a run.** Whatever is done with a manager that has started, it is in a state that
runs from a launch lead to, and runs under a prompt runtime if no wait is over at once. -/
theorem session_run {p : Plan σ α β} {source : σ} {backoff : β} {limit : Nat}
    (h : start p source backoff limit = .ok s) (us : List Use) :
    ∃ now source' c history,
      (launched p now source' backoff c history).Reaches free (us.foldl Session.use s) [] ∧
      (Spaced p →
        (launched p now source' backoff c history).Reaches prompt (us.foldl Session.use s) []) := by
  obtain ⟨now, source', c, history, H⟩ := start_run h
  have hs := ofFirst_sound p now source' backoff c history
  refine ⟨now, source', c, history, ?_, fun hp => ?_⟩
  · exact (H.mono fun _ _ _ => trivial).uses (fun _ _ _ => trivial) us hs (free_passes p)
  · exact H.uses (fun _ _ hm => hm) us hs (prompt_passes hp)

end Chronicle

end CredentialKeeper.Manager
