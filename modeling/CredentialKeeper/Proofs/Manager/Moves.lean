import CredentialKeeper.Proofs.Manager.Chronicle

/-! # What a move can do

`Task.Moves` lists the moves of a task with their events and effects, and `Task.step_moves` says
that there are no others. `Interleaving.Acts` lists the moves of those who start, stop or drop a
manager. `Chronicle.Advance` puts the moves of all parties together: to an invariant of a run it
matters only whether the task decides on a move, does the next part of one, or is thrown away,
whether others act beside it, or whether time passes. `Chronicle.Run.induct` is the induction over a
run in these terms. -/

namespace CredentialKeeper.Manager

variable {σ α β : Type}

/-! ## The task -/

def closing (name : String) : List (Effect α) := [.markedStopped, .noticed (.managerStopped name)]

/-- The effects of an answer as such, whatever it is. -/
def heard (call : PendingCall α) (said : List Log.Notice) : List (Effect α) :=
  (if call.isDelayed then [.answered] else []) ++ said.map .noticed

/-- The time from the first failure of a streak, if there is one, to now. -/
def elapsedSince (since : Option Nat) (now : Nat) : Span :=
  (since.map (spanBetween · now)).getD .zero

theorem elapsedSince_some (start now : Nat) :
    elapsedSince (some start) now = spanBetween start now := by
  rw [elapsedSince, Option.map_some, Option.getD_some]

/-- A task's move: its event, the task after it, and its effects. -/
inductive Task.Moves (p : Plan σ α β) (now : Nat) (cells : Cells α) (t : Task σ α β) :
    Option (Event α) → Task σ α β → List (Effect α) → Prop
  | begin (h : t.phase = .spawned) : Moves p now cells t none { t with phase := .planning } []
  | schedule {w : Moment} {delay : Span} (h : t.phase = .planning) (hf : t.failures = 0)
      (hw : p.wall now = some w)
      (hd : scheduledDelay p.settings cells.current.expiresAt w = delay) :
      Moves p now cells t none { t with phase := .waiting (tickAfter now delay) }
        [.noticed (.renewalScheduled p.source.name delay t.failures)]
  | timeless (h : t.phase = .planning) (hf : t.failures = 0) (hw : p.wall now = none) :
      Moves p now cells t none { t with phase := .ended (.crashed Moment.noneMessage) }
        (closing p.source.name)
  | retry {wait : Span} {b : β} (h : t.phase = .planning) (hf : t.failures ≠ 0)
      (hb : p.backoff.next t.backoff now = (.retryAfter wait, b)) :
      Moves p now cells t (some (.advised (.retryAfter wait)))
        { t with phase := .waiting (tickAfter now wait), backoff := b }
        [.backoffAsked (.retryAfter wait),
          .noticed (.renewalScheduled p.source.name wait t.failures)]
  | giveUp {b : β} (h : t.phase = .planning) (hf : t.failures ≠ 0)
      (hb : p.backoff.next t.backoff now = (.exhausted, b)) :
      Moves p now cells t (some (.advised .exhausted))
        { t with
            phase := .ended (.gaveUp (.backoffExhausted p.source.name t.failures
              (elapsedSince t.failingSince now)))
            backoff := b }
        ([.backoffAsked .exhausted,
          .noticed (.exhausted p.source.name t.failures (elapsedSince t.failingSince now)
            cells.current.expiresAt),
          .exhaustionCounted,
          .fatalSet (.backoffExhausted p.source.name t.failures
            (elapsedSince t.failingSince now))] ++ closing p.source.name)
  | overflow {b : β} (h : t.phase = .planning) (hf : t.failures ≠ 0)
      (hb : p.backoff.next t.backoff now = (.overflow, b)) :
      Moves p now cells t (some (.advised .overflow))
        { t with phase := .ended (.crashed Backoff.Advice.overflowMessage), backoff := b }
        (closing p.source.name)
  | cancel (hc : cells.isCancelled = true)
      (h : (∃ wake, t.phase = .waiting wake) ∨ t.phase = .awake ∨
        ∃ call, t.phase = .renewing call) :
      Moves p now cells t none { t with phase := .ended .cancelled } (closing p.source.name)
  | wakeUp {wake : Nat} (h : t.phase = .waiting wake) (hc : cells.isCancelled = false)
      (hw : wake ≤ now) :
      Moves p now cells t none { t with phase := .awake } []
  | call {c : Call α} {source : σ} (h : t.phase = .awake) (hc : cells.isCancelled = false)
      (hr : p.source.renew t.source (p.wall now) = (c, source)) :
      Moves p now cells t (some (.called c))
        { t with phase := .renewing (.begin c now p.settings.renewTimeout), source := source }
        [.renewCalled]
  | succeed {call : PendingCall α} {c : Credential α} {said : List Log.Notice}
      (h : t.phase = .renewing call) (hc : cells.isCancelled = false)
      (hs : call.status now = .answered)
      (hr : call.call.reply (p.wall now) = (.outcome (.ok c), said)) :
      Moves p now cells t (some (.ended (.ok c) said))
        { t with
            phase := .planning
            backoff := p.backoff.reset t.backoff
            failures := 0
            failingSince := none }
        (heard call said ++ [.stored c, .backoffReset, .published c, .renewalCounted "success",
          .expiryGauged c.expiresAt.unixSeconds,
          .noticed (.renewed p.source.name c.expiresAt t.failures)])
  | fail {call : PendingCall α} {f : Failure} {said : List Log.Notice}
      (h : t.phase = .renewing call) (hc : cells.isCancelled = false)
      (hs : call.status now = .answered)
      (hr : call.call.reply (p.wall now) = (.outcome (.error f), said)) :
      Moves p now cells t (some (.ended (.error f) said))
        { t with
            phase := .planning
            failures := t.failures + 1
            failingSince := some (t.failingSince.getD now) }
        (heard call said ++ [.renewalCounted f.kind.label,
          .noticed (.renewalFailed p.source.name (t.failures + 1) f)])
  | timeOut {call : PendingCall α} (h : t.phase = .renewing call)
      (hc : cells.isCancelled = false) (hs : call.status now = .timedOut) :
      Moves p now cells t (some (.ended (.error (.timedOut p.settings.renewTimeout)) []))
        { t with
            phase := .planning
            failures := t.failures + 1
            failingSince := some (t.failingSince.getD now) }
        [.renewalCounted (Failure.timedOut p.settings.renewTimeout).kind.label,
          .noticed (.renewalFailed p.source.name (t.failures + 1)
            (.timedOut p.settings.renewTimeout))]
  | crash {call : PendingCall α} {message : String} {said : List Log.Notice}
      (h : t.phase = .renewing call) (hc : cells.isCancelled = false)
      (hs : call.status now = .answered)
      (hr : call.call.reply (p.wall now) = (.crash message, said)) :
      Moves p now cells t (some (.broke message said))
        { t with phase := .ended (.crashed message) } (heard call said ++ closing p.source.name)

namespace Task

variable {p : Plan σ α β} {now : Nat} {cells : Cells α} {t t' : Task σ α β}
  {effects : List (Effect α)}

theorem plan_moves (h : t.phase = .planning) :
    t.Moves p now cells (t.event? p now cells) (t.plan p now cells).1 (t.plan p now cells).2 := by
  by_cases hf : t.failures = 0
  · cases hw : p.wall now with
    | some w =>
      have : t.Moves p now cells _ _ _ := .schedule h hf hw rfl
      simpa [event?, Task.plan, rest, h, hf, hw] using this
    | none =>
      have : t.Moves p now cells _ _ _ := .timeless h hf hw
      simpa [event?, Task.plan, finish, closing, h, hf, hw] using this
  · obtain ⟨⟨advice, b⟩, hb⟩ : ∃ r, p.backoff.next t.backoff now = r := ⟨_, rfl⟩
    cases advice with
    | retryAfter wait =>
      have : t.Moves p now cells _ _ _ := .retry h hf hb
      simpa [event?, Task.plan, rest, h, hf, hb] using this
    | exhausted =>
      have : t.Moves p now cells _ _ _ := .giveUp h hf hb
      simpa [event?, Task.plan, Task.giveUp, finish, closing, elapsedSince, h, hf, hb] using this
    | overflow =>
      have : t.Moves p now cells _ _ _ := .overflow h hf hb
      simpa [event?, Task.plan, finish, closing, h, hf, hb] using this

theorem receive_moves {call : PendingCall α} (h : t.phase = .renewing call)
    (hc : cells.isCancelled = false) (hs : call.status now = .answered) :
    t.Moves p now cells (t.event? p now cells) (t.receive p now call).1
      (t.receive p now call).2 := by
  obtain ⟨⟨reply, said⟩, hr⟩ : ∃ r, call.call.reply (p.wall now) = r := ⟨_, rfl⟩
  cases reply with
  | outcome o =>
    cases o with
    | ok c =>
      have : t.Moves p now cells _ _ _ := .succeed h hc hs hr
      simpa [event?, receive, Task.succeed, heard, h, hc, hs, hr] using this
    | error f =>
      have : t.Moves p now cells _ _ _ := .fail h hc hs hr
      simpa [event?, receive, Task.fail, heard, h, hc, hs, hr] using this
  | crash message =>
    have : t.Moves p now cells _ _ _ := .crash h hc hs hr
    simpa [event?, receive, finish, closing, heard, h, hc, hs, hr] using this

theorem step_moves (H : t.step p now cells = some (t', effects)) :
    t.Moves p now cells (t.event? p now cells) t' effects := by
  unfold step at H
  split at H
  next h =>
    cases H
    simpa [event?, h] using Moves.begin h
  next h =>
    have hm : t.Moves p now cells _ _ _ := plan_moves h
    rwa [Option.some.inj H] at hm
  next wake h =>
    split at H
    next hc =>
      cases H
      have : t.Moves p now cells _ _ _ := .cancel hc (.inl ⟨wake, h⟩)
      simpa [event?, closing, h] using this
    next hc =>
      split at H
      next hw =>
        cases H
        simpa [event?, h] using Moves.wakeUp h (Bool.eq_false_iff.2 hc) hw
      next => cases H
  next h =>
    split at H
    next hc =>
      cases H
      have : t.Moves p now cells _ _ _ := .cancel hc (.inr (.inl h))
      simpa [event?, closing, h, hc] using this
    next hc =>
      cases H
      have hc := Bool.eq_false_iff.2 hc
      simpa [event?, h, hc] using Moves.call h hc rfl
  next call h =>
    split at H
    next hc =>
      cases H
      have : t.Moves p now cells _ _ _ := .cancel hc (.inr (.inr ⟨call, h⟩))
      simpa [event?, closing, h, hc] using this
    next hc =>
      have hc := Bool.eq_false_iff.2 hc
      split at H
      next hs =>
        have hm : t.Moves p now cells _ _ _ := receive_moves h hc hs
        rwa [Option.some.inj H] at hm
      next hs =>
        cases H
        have : t.Moves p now cells _ _ _ := .timeOut h hc hs
        simpa [event?, Task.fail, h, hc, hs] using this
      next => cases H
  next => cases H

end Task

theorem Task.Moves.not_cancelled {p : Plan σ α β} {now : Nat} {cells : Cells α}
    {t t' : Task σ α β} {ev : Option (Event α)} {effects : List (Effect α)}
    (M : t.Moves p now cells ev t' effects) : .cancelled ∉ effects := by
  cases M <;> simp [closing, heard]

/-- What becomes of a task that the runtime throws away: one that has not run leaves no trace. -/
inductive Task.Discards (p : Plan σ α β) (t : Task σ α β) : Task σ α β → List (Effect α) → Prop
  | early (h : t.phase = .spawned) : Discards p t { t with phase := .ended .discarded } []
  | late {exit : Exit} (h : t.phase = .ended exit) : Discards p t t []
  | midway (hs : t.phase ≠ .spawned) (he : ∀ exit, t.phase ≠ .ended exit) :
      Discards p t { t with phase := .ended .discarded } (closing p.source.name)

theorem Task.discard_discards (p : Plan σ α β) (t : Task σ α β) :
    t.Discards p (t.discard p).1 (t.discard p).2 := by
  unfold discard
  split
  next h => exact .early h
  next exit h => exact .late h
  next hs he => exact .midway hs he

/-! ## All parties -/

/-- Who starts, stops or drops a manager does nothing else to it. -/
def Effect.isOutside : Effect α → Bool
  | .markedRunning | .cancelled | .noticed (.managerRunning ..)
  | .noticed (.stopRequested _) | .noticed (.taskCrashed _) => true
  | _ => false

namespace Interleaving

/-- `u` is `s` after others have acted beside the task, with the effects `es`. -/
structure Beside (s u : Interleaving σ α β) (es : List (Effect α)) : Prop where
  outside : ∀ e ∈ es, e.isOutside = true
  plan : u.session.plan = s.session.plan
  now : u.session.now = s.session.now
  task : u.session.task = s.session.task
  taskAhead : u.taskAhead = s.taskAhead
  startAhead : ∀ e ∈ u.startAhead, e ∈ s.startAhead
  cells : u.session.cells = s.session.cells.applyAll es
  history : u.session.history = Session.record s.session.now s.session.history es

def Sound (s : Interleaving σ α β) : Prop := ∀ e ∈ s.startAhead, e.isOutside = true

variable {s u : Interleaving σ α β} {es : List (Effect α)}

theorem Beside.sound (H : s.Beside u es) (hs : s.Sound) : u.Sound :=
  fun e he => hs e (H.startAhead e he)

theorem ofFirst_sound (p : Plan σ α β) (now : Nat) (source : σ) (backoff : β) (c : Credential α)
    (history : List (Nat × Effect α)) : (ofFirst p now source backoff c history).Sound := by
  simp [Sound, ofFirst, Startup.handOver, Effect.isOutside]

theorem stopEffects_outside (name : String) (cells : Cells α) :
    ∀ e ∈ stopEffects name cells, e.isOutside = true := by
  unfold stopEffects
  split <;> simp [Effect.isOutside]

theorem shutdownCall_outside {name : String} {es : List (Effect α)}
    (h : es = [] ∨ es = [.noticed (.taskCrashed name)]) : ∀ e ∈ es, e.isOutside = true := by
  rcases h with rfl | rfl <;> simp [Effect.isOutside]

/-- What everyone but the task, the runtime and the clock can do, with the effects of it. -/
inductive Acts (s : Interleaving σ α β) : Move → Interleaving σ α β → List (Effect α) → Prop
  | handOver {e : Effect α} {rest : List (Effect α)} (h : s.startAhead = e :: rest) :
      Acts s .start { s with session := s.session.perform [e], startAhead := rest } [e]
  | stop (h : s.hasManager = true) :
      Acts s .stop { s with
          session := s.session.perform (stopEffects s.session.plan.source.name s.session.cells) }
        (stopEffects s.session.plan.source.name s.session.cells)
  | drop (h : s.hasManager = true) (hr : ∀ call ∈ s.shutdowns, call = .returned) :
      Acts s .drop { s with session := ({ s.session with isOwned := false }).perform [.cancelled] }
        [.cancelled]
  | call (h : s.hasManager = true) :
      Acts s .callShutdown { s with shutdowns := s.shutdowns ++ [.called] } []
  | ask {i : Nat} (h : s.shutdowns[i]? = some .called) :
      Acts s (.shutdown i) { s with
          session := s.session.perform (stopEffects s.session.plan.source.name s.session.cells)
          shutdowns := s.shutdowns.set i .asked }
        (stopEffects s.session.plan.source.name s.session.cells)
  /-- The caller takes the task's handle, and waits. -/
  | take {i : Nat} (h : s.shutdowns[i]? = some .asked) (hh : s.session.hasHandle = true) :
      Acts s (.shutdown i) { s with
          session := { s.session with hasHandle := false }
          shutdowns := s.shutdowns.set i .joining } []
  /-- The caller finds the task's handle gone, and does not wait. -/
  | miss {i : Nat} (h : s.shutdowns[i]? = some .asked) (hh : s.session.hasHandle = false) :
      Acts s (.shutdown i) { s with shutdowns := s.shutdowns.set i .returned } []
  | join {i : Nat} {exit : Exit} {es : List (Effect α)} (h : s.shutdowns[i]? = some .joining)
      (he : s.exit? = some exit)
      (hes : es = [] ∨ es = [.noticed (.taskCrashed s.session.plan.source.name)]) :
      Acts s (.shutdown i) { s with
          session := s.session.perform es
          shutdowns := s.shutdowns.set i .returned } es
  | abandon {i : Nat} : Acts s (.abandon i) { s with shutdowns := s.shutdowns.eraseIdx i } []

theorem stop_acts (h : s.hasManager = true) :
    s.Acts .stop { s with session := s.session.stop }
      (stopEffects s.session.plan.source.name s.session.cells) := by
  have howned : s.session.isOwned = true := ((Bool.and_eq_true ..).mp h).2
  have hstop := Acts.stop h
  rwa [← show s.session.stop = _ from if_pos howned] at hstop

theorem drop_acts (h : s.hasManager = true) (hr : ∀ call ∈ s.shutdowns, call = .returned) :
    s.Acts .drop { s with session := s.session.drop } [.cancelled] := by
  have howned : s.session.isOwned = true := ((Bool.and_eq_true ..).mp h).2
  have hdrop := Acts.drop h hr
  rwa [← show s.session.drop = _ from if_pos howned] at hdrop

theorem shutdownMove_acts {i : Nat} (h : s.shutdownMove i = some u) :
    ∃ es, s.Acts (.shutdown i) u es := by
  obtain ⟨call, hi, h⟩ := Option.bind_eq_some_iff.1 h
  obtain ⟨⟨call', handle, es⟩, hcall, rfl⟩ := Option.map_eq_some_iff.1 h
  cases call with
  | called =>
    cases hcall
    exact ⟨_, .ask hi⟩
  | asked =>
    cases hh : s.session.hasHandle with
    | true =>
      rw [hh] at hcall
      cases hcall
      exact ⟨_, .take hi hh⟩
    | false =>
      rw [hh] at hcall
      cases hcall
      rw [← hh]
      exact ⟨_, .miss hi hh⟩
  | joining =>
    cases he : s.exit? with
    | none =>
      rw [he] at hcall
      cases hcall
    | some exit =>
      rw [he] at hcall
      cases exit <;> (cases hcall; exact ⟨_, .join hi he (by simp)⟩)
  | returned => cases hcall

/-- Everyone but the task, the runtime and the clock acts as `Acts` says. -/
theorem step_acts {m : Move} (h : s.step m = some u)
    (hm : m ≠ .task ∧ m ≠ .discard ∧ ∀ nanos, m ≠ .tick nanos) : ∃ es, s.Acts m u es := by
  cases m with
  | start =>
    simp only [step] at h
    split at h
    next e rest hahead => cases h; exact ⟨_, .handOver hahead⟩
    next => cases h
  | task => exact absurd rfl hm.1
  | discard => exact absurd rfl hm.2.1
  | tick nanos => exact absurd rfl (hm.2.2 nanos)
  | stop =>
    simp only [step] at h
    split at h
    next howned => cases h; exact ⟨_, stop_acts howned⟩
    next => cases h
  | callShutdown =>
    simp only [step] at h
    split at h
    next howned => cases h; exact ⟨_, .call howned⟩
    next => cases h
  | shutdown i => exact shutdownMove_acts h
  | abandon i => cases h; exact ⟨_, .abandon⟩
  | drop =>
    simp only [step] at h
    split at h
    next hcond =>
      cases h
      obtain ⟨howned, hr⟩ := (Bool.and_eq_true ..).mp hcond
      exact ⟨_, drop_acts howned (by simpa using hr)⟩
    next => cases h

/-- Whoever acts does so beside the task. -/
theorem Acts.beside {m : Move} (hs : s.Sound) (A : s.Acts m u es) : s.Beside u es := by
  cases A with
  | @handOver e rest h =>
    exact ⟨by simpa using hs e (by simp [h]), rfl, rfl, rfl, rfl, by simp +contextual [h], rfl, rfl⟩
  | stop => exact ⟨stopEffects_outside _ _, rfl, rfl, rfl, rfl, fun _ h => h, rfl, rfl⟩
  | ask => exact ⟨stopEffects_outside _ _, rfl, rfl, rfl, rfl, fun _ h => h, rfl, rfl⟩
  | join _ _ hes => exact ⟨shutdownCall_outside hes, rfl, rfl, rfl, rfl, fun _ h => h, rfl, rfl⟩
  | _ => exact ⟨by simp [Effect.isOutside], rfl, rfl, rfl, rfl, fun _ h => h, rfl, rfl⟩

theorem step_beside {m : Move} (hs : s.Sound) (h : s.step m = some u)
    (hm : m ≠ .task ∧ m ≠ .discard ∧ ∀ nanos, m ≠ .tick nanos) : ∃ es, s.Beside u es := by
  obtain ⟨es, A⟩ := step_acts h hm
  exact ⟨es, A.beside hs⟩

end Interleaving

namespace Chronicle

/-- The task is `t` after an event, if there is one, and has some effects ahead. -/
abbrev decided (x : Chronicle σ α β) (ev : Option (Event α)) (t : Task σ α β)
    (effects : List (Effect α)) : Chronicle σ α β :=
  ⟨{ x.manager with session := { x.session with task := t }, taskAhead := effects },
    ev.toList.map (x.session.now, ·) ++ x.log⟩

/-- The task has let some effects happen, and has the rest ahead. -/
abbrev performed (x : Chronicle σ α β) (es rest : List (Effect α)) : Chronicle σ α β :=
  ⟨{ x.manager with session := x.session.perform es, taskAhead := rest }, x.log⟩

abbrev ticked (x : Chronicle σ α β) (nanos : Nat) : Chronicle σ α β :=
  ⟨{ x.manager with session := { x.session with now := x.session.now + nanos } }, x.log⟩

/-- One move as an invariant sees it. -/
inductive Advance (admits : Interleaving.Discipline σ α β) (x : Chronicle σ α β) :
    Chronicle σ α β → Prop
  /-- The task decides on its next move. -/
  | decide {ev : Option (Event α)} {t : Task σ α β} {effects : List (Effect α)}
      (h : x.manager.taskAhead = [])
      (H : x.session.task.Moves x.session.plan x.session.now x.session.cells ev t effects) :
      Advance admits x (x.decided ev t effects)
  /-- The task does the next part of its move. -/
  | perform {e : Effect α} {rest : List (Effect α)} (h : x.manager.taskAhead = e :: rest) :
      Advance admits x (x.performed [e] rest)
  | discard {t : Task σ α β} {effects : List (Effect α)} (had : admits x.manager .discard)
      (h : x.manager.taskAhead = []) (H : x.session.task.Discards x.session.plan t effects) :
      Advance admits x (x.decided none t effects)
  | others {m : Interleaving.Move} {u : Interleaving σ α β} {es : List (Effect α)}
      (H : x.manager.Beside u es) (had : admits x.manager m) (A : x.manager.Acts m u es) :
      Advance admits x ⟨u, x.log⟩
  | tick {nanos : Nat} (had : admits x.manager (.tick nanos)) :
      Advance admits x (x.ticked nanos)

variable {admits : Interleaving.Discipline σ α β} {x y : Chronicle σ α β}

theorem Next.advance (hx : x.manager.Sound) (H : Next admits x y) : Advance admits x y := by
  obtain ⟨m, had, h⟩ := H
  obtain ⟨u, hu, rfl⟩ := Option.map_eq_some_iff.1 h
  cases m with
  | task =>
    simp only [Interleaving.step, Interleaving.taskMove] at hu
    split at hu
    next e rest hahead =>
      cases hu
      have : Advance admits x _ := .perform hahead
      simpa [Interleaving.event?, hahead] using this
    next hahead =>
      obtain ⟨⟨t, effects⟩, ht, rfl⟩ := Option.map_eq_some_iff.1 hu
      have : Advance admits x _ := .decide hahead (Task.step_moves ht)
      simpa [Interleaving.event?, hahead] using this
  | discard =>
    simp only [Interleaving.step] at hu
    split at hu
    next hahead =>
      cases hu
      exact .discard had (List.isEmpty_iff.1 hahead) (Task.discard_discards ..)
    next => cases hu
  | tick nanos =>
    cases hu
    exact .tick had
  | _ =>
    obtain ⟨es, A⟩ := Interleaving.step_acts hu ⟨by simp, by simp, by simp⟩
    exact .others (A.beside hx) had A

/-- Time passes in a tick and at no other move. -/
theorem Advance.now_eq (A : Advance admits x y) :
    y.session.now = x.session.now ∨
      ∃ nanos, admits x.manager (.tick nanos) ∧ y = x.ticked nanos := by
  cases A with
  | tick had => exact .inr ⟨_, had, rfl⟩
  | others H => exact .inl H.now
  | _ => exact .inl rfl

theorem Advance.sound (hx : x.manager.Sound) (H : Advance admits x y) : y.manager.Sound := by
  cases H with
  | others H => exact H.sound hx
  | _ => exact hx

/-- What every admitted move keeps holds at the end of a run. -/
theorem Run.induct {P : Chronicle σ α β → Prop} (H : Run admits x y) (hx : x.manager.Sound)
    (h0 : P x) (hstep : ∀ {y z}, P y → Advance admits y z → P z) : P y := by
  have : y.manager.Sound ∧ P y := by
    induction H with
    | refl => exact ⟨hx, h0⟩
    | tail _ H ih =>
      have A := H.advance ih.1
      exact ⟨A.sound ih.1, hstep ih.2 A⟩
  exact this.2

theorem Run.sound (H : Run admits x y) (hx : x.manager.Sound) : y.manager.Sound :=
  H.induct hx hx fun hy A => A.sound hy

end Chronicle

end CredentialKeeper.Manager
