import CredentialKeeper.Proofs.Manager.Sessions

/-! # Managers that look alike

Two managers look alike if they differ in nothing but their secrets, and of these, in nothing that a
given function shows. What their sources and these sources' memories have to do with one another is
left open: a relation between the memories is given, and sources are alike if at related memories
they answer alike and remember what is related (`Source.Alike`).

Each part of a manager has its `Alike`, and every function of a manager takes alike to alike. So two
managers that look alike go on to look alike whatever is done with them (`Interleaving.Alike.makes`,
`Session.Alike.uses`), and so do two attempts to start them (`start_alike`). -/

namespace CredentialKeeper

variable {σ σ' α β γ : Type}

/-- A credential with what is shown of its secret in place of it. -/
def Credential.map (f : α → γ) (c : Credential α) : Credential γ :=
  ⟨f c.value, c.expiresAt, c.issuedAt⟩

namespace Manager

open Refresh

/-! ## What is shown -/

def Effect.map (f : α → γ) : Effect α → Effect γ
  | .renewCalled => .renewCalled
  | .answered => .answered
  | .backoffAsked advice => .backoffAsked advice
  | .backoffReset => .backoffReset
  | .stored c => .stored (c.map f)
  | .published c => .published (c.map f)
  | .renewalCounted label => .renewalCounted label
  | .expiryGauged seconds => .expiryGauged seconds
  | .exhaustionCounted => .exhaustionCounted
  | .fatalSet e => .fatalSet e
  | .markedRunning => .markedRunning
  | .markedStopped => .markedStopped
  | .cancelled => .cancelled
  | .noticed n => .noticed n

def Cells.map (f : α → γ) (cells : Cells α) : Cells γ where
  current := cells.current.map f
  published := cells.published.map f
  publications := cells.publications
  state := cells.state
  fatal := cells.fatal
  isCancelled := cells.isCancelled

def Effect.mapTimed (f : α → γ) (r : Nat × Effect α) : Nat × Effect γ := (r.1, r.2.map f)

theorem Cells.map_apply (f : α → γ) (cells : Cells α) (e : Effect α) :
    (cells.apply e).map f = (cells.map f).apply (e.map f) := by
  cases e with
  | markedRunning =>
    by_cases h : cells.state = .starting <;> simp [apply, Effect.map, map, h]
  | _ => rfl

theorem Cells.map_applyAll (f : α → γ) (cells : Cells α) (es : List (Effect α)) :
    (cells.applyAll es).map f = (cells.map f).applyAll (es.map (Effect.map f)) := by
  induction es generalizing cells with
  | nil => rfl
  | cons e es ih => exact (ih (cells.apply e)).trans (by rw [map_apply]; rfl)

theorem Session.map_record (f : α → γ) (now : Nat) (history : List (Nat × Effect α))
    (es : List (Effect α)) :
    (record now history es).map (Effect.mapTimed f) =
      record now (history.map (Effect.mapTimed f)) (es.map (Effect.map f)) := by
  simp only [record_eq, List.map_append, List.map_reverse, List.map_map]
  rfl

/-- Effects that look the same. -/
def SameEffects (f : α → γ) (es es' : List (Effect α)) : Prop :=
  es.map (Effect.map f) = es'.map (Effect.map f)

namespace SameEffects

variable {f : α → γ} {es es' fs fs' : List (Effect α)}

theorem append (h : SameEffects f es es') (h' : SameEffects f fs fs') :
    SameEffects f (es ++ fs) (es' ++ fs') := by
  simp only [SameEffects, List.map_append] at *
  rw [h, h']

theorem isEmpty_eq (h : SameEffects f es es') : es.isEmpty = es'.isEmpty := by
  rw [← List.isEmpty_map (f := Effect.map f), h, List.isEmpty_map]

theorem single {e e' : Effect α} (h : e.map f = e'.map f) : SameEffects f [e] [e'] :=
  congrArg (fun e => [e]) h

end SameEffects

/-! ## Sources and plans -/

inductive Reply.Alike (f : α → γ) : Reply α → Reply α → Prop
  | success {c c' : Credential α} (h : c.map f = c'.map f) :
      Alike f (.outcome (.ok c)) (.outcome (.ok c'))
  | failure (e : Failure) : Alike f (.outcome (.error e)) (.outcome (.error e))
  | crash (message : String) : Alike f (.crash message) (.crash message)

/-- Calls that take as long and answer alike, with the same notices. -/
structure Call.Alike (f : α → γ) (call call' : Call α) : Prop where
  latency : call.latency = call'.latency
  reply : ∀ now, (call.reply now).1.Alike f (call'.reply now).1
  said : ∀ now, (call.reply now).2 = (call'.reply now).2

structure Source.Alike (R : σ → σ' → Prop) (f : α → γ) (source : Source σ α)
    (source' : Source σ' α) : Prop where
  name : source.name = source'.name
  call : ∀ {memory memory'}, R memory memory' → ∀ now,
    (source.renew memory now).1.Alike f (source'.renew memory' now).1
  memory : ∀ {memory memory'}, R memory memory' → ∀ now,
    R (source.renew memory now).2 (source'.renew memory' now).2

structure Plan.Alike (R : σ → σ' → Prop) (f : α → γ) (p : Plan σ α β) (p' : Plan σ' α β) :
    Prop where
  source : p.source.Alike R f p'.source
  backoff : p.backoff = p'.backoff
  settings : p.settings = p'.settings
  wall : p.wall = p'.wall

structure PendingCall.Alike (f : α → γ) (pending pending' : PendingCall α) : Prop where
  call : pending.call.Alike f pending'.call
  answerAt : pending.answerAt = pending'.answerAt
  deadline : pending.deadline = pending'.deadline

namespace PendingCall

variable {f : α → γ} {pending pending' : PendingCall α}

theorem begin_alike {call call' : Call α} (H : call.Alike f call') (now : Nat) (limit : Span) :
    (begin call now limit).Alike f (begin call' now limit) :=
  ⟨H, by simp only [begin, H.latency], rfl⟩

theorem Alike.status (H : pending.Alike f pending') (now : Nat) :
    pending.status now = pending'.status now := by
  simp only [PendingCall.status, H.answerAt, H.deadline]

theorem Alike.endsAt (H : pending.Alike f pending') : pending.endsAt = pending'.endsAt := by
  simp only [PendingCall.endsAt, H.answerAt, H.deadline]

theorem Alike.isDelayed (H : pending.Alike f pending') :
    pending.isDelayed = pending'.isDelayed := by
  simp only [PendingCall.isDelayed, H.call.latency]

end PendingCall

variable {R : σ → σ' → Prop} {f : α → γ} {p : Plan σ α β} {p' : Plan σ' α β}

/-! ## Tasks -/

inductive Phase.Alike (f : α → γ) : Phase α → Phase α → Prop
  | spawned : Alike f .spawned .spawned
  | planning : Alike f .planning .planning
  | waiting (wake : Nat) : Alike f (.waiting wake) (.waiting wake)
  | awake : Alike f .awake .awake
  | renewing {call call' : PendingCall α} (h : call.Alike f call') :
      Alike f (.renewing call) (.renewing call')
  | ended (exit : Exit) : Alike f (.ended exit) (.ended exit)

structure Task.Alike (R : σ → σ' → Prop) (f : α → γ) (t : Task σ α β) (t' : Task σ' α β) :
    Prop where
  phase : t.phase.Alike f t'.phase
  source : R t.source t'.source
  backoff : t.backoff = t'.backoff
  failures : t.failures = t'.failures
  failingSince : t.failingSince = t'.failingSince

/-- A move of a task: the task after it, and its effects. -/
def Task.MovedAlike (R : σ → σ' → Prop) (f : α → γ) (r : Task σ α β × List (Effect α))
    (r' : Task σ' α β × List (Effect α)) : Prop :=
  r.1.Alike R f r'.1 ∧ SameEffects f r.2 r'.2

namespace Task

variable {t : Task σ α β} {t' : Task σ' α β} {cells cells' : Cells α} {es es' : List (Effect α)}

theorem Alike.exit? (H : t.Alike R f t') : t.exit? = t'.exit? := by
  obtain ⟨hphase, -⟩ := H
  unfold Task.exit?
  generalize t.phase = phase, t'.phase = phase' at hphase ⊢
  cases hphase <;> rfl

theorem Alike.wake? (H : t.Alike R f t') : t.wake? = t'.wake? := by
  obtain ⟨hphase, -⟩ := H
  unfold Task.wake?
  generalize t.phase = phase, t'.phase = phase' at hphase ⊢
  cases hphase with
  | renewing h => simp only [h.endsAt]
  | _ => rfl

theorem finish_alike (H : t.Alike R f t') (name : String) (exit : Exit)
    (h : SameEffects f es es') : MovedAlike R f (t.finish name exit es) (t'.finish name exit es') :=
  ⟨⟨.ended exit, H.source, H.backoff, H.failures, H.failingSince⟩, h.append rfl⟩

theorem rest_alike (H : t.Alike R f t') (name : String) (now : Nat) (delay : Span)
    (h : SameEffects f es es') :
    MovedAlike R f (t.rest name now delay es) (t'.rest name now delay es') := by
  refine ⟨⟨.waiting _, H.source, H.backoff, H.failures, H.failingSince⟩, h.append ?_⟩
  rw [H.failures]
  rfl

theorem giveUp_alike (H : t.Alike R f t') (hcells : cells.map f = cells'.map f) (name : String)
    (now : Nat) : MovedAlike R f (t.giveUp name now cells) (t'.giveUp name now cells') := by
  have hexpiry : cells.current.expiresAt = cells'.current.expiresAt :=
    congrArg (·.current.expiresAt) hcells
  simp only [giveUp, H.failures, H.failingSince, hexpiry]
  exact finish_alike H _ _ rfl

theorem plan_alike (P : p.Alike R f p') (H : t.Alike R f t') (hcells : cells.map f = cells'.map f)
    (now : Nat) : MovedAlike R f (t.plan p now cells) (t'.plan p' now cells') := by
  have hexpiry : cells.current.expiresAt = cells'.current.expiresAt :=
    congrArg (·.current.expiresAt) hcells
  simp only [plan, P.source.name, P.wall, P.settings, P.backoff, H.failures, H.backoff, hexpiry]
  split
  · split
    · exact rest_alike H _ _ _ rfl
    · exact finish_alike H _ _ rfl
  · have H' (backoff : β) :
        Alike R f { t with backoff := backoff } { t' with backoff := backoff } :=
      ⟨H.phase, H.source, rfl, H.failures, H.failingSince⟩
    split
    · simpa only [H.failures] using rest_alike (H' _) _ _ _ rfl
    · simpa only [H.failures] using giveUp_alike (H' _) hcells _ _
    · simpa only [H.failures] using finish_alike (H' _) _ _ rfl

theorem succeed_alike (P : p.Alike R f p') (H : t.Alike R f t') {c c' : Credential α}
    (hc : c.map f = c'.map f) : MovedAlike R f (t.succeed p c) (t'.succeed p' c') := by
  have hexpiry : c.expiresAt = c'.expiresAt := congrArg (·.expiresAt) hc
  refine ⟨⟨.planning, H.source, by simp only [succeed, P.backoff, H.backoff], rfl, rfl⟩, ?_⟩
  simp only [SameEffects, succeed, List.map_cons, List.map_nil, Effect.map, hc, hexpiry,
    P.source.name, H.failures]

theorem fail_alike (P : p.Alike R f p') (H : t.Alike R f t') (now : Nat) (failure : Failure) :
    MovedAlike R f (t.fail p now failure) (t'.fail p' now failure) := by
  refine ⟨⟨.planning, H.source, H.backoff, ?_, ?_⟩, ?_⟩
  · simp only [fail, H.failures]
  · simp only [fail, H.failingSince]
  · simp only [SameEffects, fail, P.source.name, H.failures]

theorem receive_alike (P : p.Alike R f p') (H : t.Alike R f t') {pending pending' : PendingCall α}
    (C : pending.Alike f pending') (now : Nat) :
    MovedAlike R f (t.receive p now pending) (t'.receive p' now pending') := by
  have hreply := C.call.reply (p.wall now)
  have hsaid := C.call.said (p.wall now)
  rcases hr : pending.call.reply (p.wall now) with ⟨reply, said⟩
  rcases hr' : pending'.call.reply (p.wall now) with ⟨reply', said'⟩
  rw [hr, hr'] at hreply hsaid
  cases hsaid
  simp only [receive, ← P.wall, hr, hr', C.isDelayed]
  cases hreply with
  | success hc =>
    have M := succeed_alike P H hc
    exact ⟨M.1, SameEffects.append rfl M.2⟩
  | failure e =>
    have M := fail_alike P H now e
    exact ⟨M.1, SameEffects.append rfl M.2⟩
  | crash message =>
    rw [P.source.name]
    have M := finish_alike H p'.source.name (.crashed message) (rfl : SameEffects f [] [])
    exact ⟨M.1, SameEffects.append rfl M.2⟩

theorem step_alike (P : p.Alike R f p') (H : t.Alike R f t') (hcells : cells.map f = cells'.map f)
    (now : Nat) :
    Option.Rel (MovedAlike R f) (t.step p now cells) (t'.step p' now cells') := by
  have hc : cells.isCancelled = cells'.isCancelled := congrArg (·.isCancelled) hcells
  have hname := P.source.name
  unfold step
  have hphase := H.phase
  generalize t.phase = phase, t'.phase = phase' at hphase ⊢
  cases hphase with
  | spawned =>
    exact .some ⟨⟨.planning, H.source, H.backoff, H.failures, H.failingSince⟩, rfl⟩
  | planning => exact .some (plan_alike P H hcells now)
  | waiting wake =>
    simp only [hc, hname]
    split_ifs
    · exact .some (finish_alike H _ _ rfl)
    · exact .some ⟨⟨.awake, H.source, H.backoff, H.failures, H.failingSince⟩, rfl⟩
    · exact .none
  | awake =>
    simp only [hc, hname]
    split_ifs
    · exact .some (finish_alike H _ _ rfl)
    · refine .some ⟨⟨.renewing ?_, ?_, H.backoff, H.failures, H.failingSince⟩, rfl⟩
      · rw [P.settings, P.wall]
        exact PendingCall.begin_alike (P.source.call H.source _) _ _
      · rw [P.wall]
        exact P.source.memory H.source _
  | renewing C =>
    simp only [hc, hname, C.status]
    split_ifs
    · exact .some (finish_alike H _ _ rfl)
    · split
      · exact .some (receive_alike P H C now)
      · rw [P.settings]
        exact .some (fail_alike P H now _)
      · exact .none
  | ended exit => exact .none

theorem discard_alike (P : p.Alike R f p') (H : t.Alike R f t') :
    MovedAlike R f (t.discard p) (t'.discard p') := by
  unfold discard
  have hphase := H.phase
  generalize t.phase = phase, t'.phase = phase' at hphase ⊢
  cases hphase with
  | spawned => exact ⟨⟨.ended _, H.source, H.backoff, H.failures, H.failingSince⟩, rfl⟩
  | ended exit => exact ⟨H, rfl⟩
  | _ =>
    simp only [P.source.name]
    exact finish_alike H _ _ rfl

end Task

/-! ## Startups -/

inductive StartupPhase.Alike (f : α → γ) : StartupPhase α → StartupPhase α → Prop
  | calling {pending pending' : PendingCall α} (h : pending.Alike f pending') :
      Alike f (.calling pending) (.calling pending')
  | pausing (wake : Nat) : Alike f (.pausing wake) (.pausing wake)
  | issued {c c' : Credential α} (h : c.map f = c'.map f) : Alike f (.issued c) (.issued c')
  | crashed (message : String) : Alike f (.crashed message) (.crashed message)

structure Startup.Alike (R : σ → σ' → Prop) (f : α → γ) (s : Startup σ α) (s' : Startup σ' α) :
    Prop where
  phase : s.phase.Alike f s'.phase
  source : R s.source s'.source
  attempt : s.attempt = s'.attempt

def Startup.MovedAlike (R : σ → σ' → Prop) (f : α → γ) (r : Startup σ α × List (Effect α))
    (r' : Startup σ' α × List (Effect α)) : Prop :=
  r.1.Alike R f r'.1 ∧ SameEffects f r.2 r'.2

namespace Startup

variable {s : Startup σ α} {s' : Startup σ' α}

theorem Alike.wake? (H : s.Alike R f s') : s.wake? = s'.wake? := by
  obtain ⟨hphase, -⟩ := H
  unfold Startup.wake?
  generalize s.phase = phase, s'.phase = phase' at hphase ⊢
  cases hphase with
  | calling h => simp only [h.endsAt]
  | _ => rfl

theorem call_alike (P : p.Alike R f p') (now : Nat) {source : σ} {source' : σ'}
    (hsource : R source source') (attempt : Nat) :
    MovedAlike R f (call p now source attempt) (call p' now source' attempt) := by
  refine ⟨⟨.calling ?_, ?_, rfl⟩, rfl⟩
  · rw [P.settings, P.wall]
    exact PendingCall.begin_alike (P.source.call hsource _) _ _
  · simp only [call, P.wall]
    exact P.source.memory hsource _

theorem issue_alike (H : s.Alike R f s') {c c' : Credential α} (hc : c.map f = c'.map f) :
    MovedAlike R f (s.issue c) (s'.issue c') := by
  have hexpiry : c.expiresAt = c'.expiresAt := congrArg (·.expiresAt) hc
  refine ⟨⟨.issued hc, H.source, H.attempt⟩, ?_⟩
  rw [issue, issue, hexpiry]
  rfl

theorem fail_alike (P : p.Alike R f p') (H : s.Alike R f s') (now : Nat) (failure : Failure) :
    MovedAlike R f (s.fail p now failure) (s'.fail p' now failure) := by
  refine ⟨⟨?_, H.source, H.attempt⟩, ?_⟩
  · rw [fail, fail, P.settings]
    exact .pausing _
  · rw [fail, fail, P.settings, P.source.name, H.attempt]
    rfl

theorem receive_alike (P : p.Alike R f p') (H : s.Alike R f s') {pending pending' : PendingCall α}
    (C : pending.Alike f pending') (now : Nat) :
    MovedAlike R f (s.receive p now pending) (s'.receive p' now pending') := by
  have hreply := C.call.reply (p.wall now)
  have hsaid := C.call.said (p.wall now)
  rcases hr : pending.call.reply (p.wall now) with ⟨reply, said⟩
  rcases hr' : pending'.call.reply (p.wall now) with ⟨reply', said'⟩
  rw [hr, hr'] at hreply hsaid
  cases hsaid
  simp only [receive, ← P.wall, hr, hr', C.isDelayed]
  cases hreply with
  | success hc =>
    have M := issue_alike H hc
    exact ⟨M.1, SameEffects.append rfl M.2⟩
  | failure e =>
    have M := fail_alike P H now e
    exact ⟨M.1, SameEffects.append rfl M.2⟩
  | crash message => exact ⟨⟨.crashed message, H.source, H.attempt⟩, rfl⟩

theorem step_alike (P : p.Alike R f p') (H : s.Alike R f s') (now : Nat) :
    Option.Rel (MovedAlike R f) (s.step p now) (s'.step p' now) := by
  unfold step
  have hphase := H.phase
  generalize s.phase = phase, s'.phase = phase' at hphase ⊢
  cases hphase with
  | calling C =>
    simp only [C.status]
    split
    · exact .some (receive_alike P H C now)
    · rw [P.settings]
      exact .some (fail_alike P H now _)
    · exact .none
  | pausing wake =>
    simp only [H.attempt]
    split_ifs
    · exact .some (call_alike P now H.source _)
    · exact .none
  | _ => exact .none

end Startup

/-! ## Sessions -/

/-- Histories that look the same. -/
def SameHistory (f : α → γ) (history history' : List (Nat × Effect α)) : Prop :=
  history.map (Effect.mapTimed f) = history'.map (Effect.mapTimed f)

theorem SameHistory.record {history history' : List (Nat × Effect α)} {es es' : List (Effect α)}
    (h : SameHistory f history history') (hes : SameEffects f es es') (now : Nat) :
    SameHistory f (Session.record now history es) (Session.record now history' es') := by
  rw [SameHistory, Session.map_record, Session.map_record, h, hes]

structure Session.Alike (R : σ → σ' → Prop) (f : α → γ) (s : Session σ α β) (s' : Session σ' α β) :
    Prop where
  plan : s.plan.Alike R f s'.plan
  now : s.now = s'.now
  cells : s.cells.map f = s'.cells.map f
  task : s.task.Alike R f s'.task
  history : SameHistory f s.history s'.history
  isOwned : s.isOwned = s'.isOwned
  hasHandle : s.hasHandle = s'.hasHandle
  seen : s.seen = s'.seen

theorem stopEffects_congr {cells cells' : Cells α} (h : cells.map f = cells'.map f)
    (name : String) : (stopEffects name cells : List (Effect α)) = stopEffects name cells' := by
  have hc : cells.isCancelled = cells'.isCancelled := congrArg (·.isCancelled) h
  rw [stopEffects, stopEffects, hc]

theorem ShutdownCall.step_congr {cells cells' : Cells α} (h : cells.map f = cells'.map f)
    (name : String) (handle : Bool) (exit : Option Exit) (call : ShutdownCall) :
    call.step name cells handle exit = call.step name cells' handle exit := by
  cases call with
  | called => rw [step, step, stopEffects_congr h]
  | _ => rfl

namespace Session

variable {s : Session σ α β} {s' : Session σ' α β}

theorem spawned_alike (P : p.Alike R f p') (now : Nat) {source : σ} {source' : σ'}
    (hsource : R source source') (backoff : β) {c c' : Credential α} (hc : c.map f = c'.map f)
    {history history' : List (Nat × Effect α)} (hh : SameHistory f history history') :
    (spawned p now source backoff c history).Alike R f
      (spawned p' now source' backoff c' history') where
  plan := P
  now := rfl
  cells := by simp only [spawned, Cells.ofFirst, Cells.map, hc]
  task := ⟨.spawned, hsource, rfl, rfl, rfl⟩
  history := hh
  isOwned := rfl
  hasHandle := rfl
  seen := rfl

namespace Alike

theorem perform {es es' : List (Effect α)} (H : s.Alike R f s') (h : SameEffects f es es') :
    (s.perform es).Alike R f (s'.perform es') where
  plan := H.plan
  now := H.now
  cells := by
    show (s.cells.applyAll es).map f = (s'.cells.applyAll es').map f
    rw [Cells.map_applyAll, Cells.map_applyAll, H.cells, h]
  task := H.task
  history := by
    show SameHistory f (record s.now s.history es) (record s'.now s'.history es')
    rw [← H.now]
    exact H.history.record h _
  isOwned := H.isOwned
  hasHandle := H.hasHandle
  seen := H.seen

theorem state (H : s.Alike R f s') : s.cells.state = s'.cells.state :=
  congrArg (·.state) H.cells

theorem atTime (H : s.Alike R f s') (now : Nat) :
    Session.Alike R f { s with now := now } { s' with now := now } :=
  ⟨H.plan, rfl, H.cells, H.task, H.history, H.isOwned, H.hasHandle, H.seen⟩

theorem withHandle (H : s.Alike R f s') (hasHandle : Bool) :
    Session.Alike R f { s with hasHandle := hasHandle } { s' with hasHandle := hasHandle } :=
  ⟨H.plan, H.now, H.cells, H.task, H.history, H.isOwned, rfl, H.seen⟩

theorem withTask {t : Task σ α β} {t' : Task σ' α β} (H : s.Alike R f s') (T : t.Alike R f t') :
    Session.Alike R f { s with task := t } { s' with task := t' } :=
  ⟨H.plan, H.now, H.cells, T, H.history, H.isOwned, H.hasHandle, H.seen⟩

theorem stopEffects (H : s.Alike R f s') :
    SameEffects f (Manager.stopEffects s.plan.source.name s.cells)
      (Manager.stopEffects s'.plan.source.name s'.cells) := by
  rw [SameEffects, stopEffects_congr H.cells, H.plan.source.name]

theorem step (H : s.Alike R f s') :
    Option.Rel (Task.MovedAlike R f) (s.task.step s.plan s.now s.cells)
      (s'.task.step s'.plan s'.now s'.cells) := by
  rw [← H.now]
  exact Task.step_alike H.plan H.task H.cells s.now

theorem stop (H : s.Alike R f s') : s.stop.Alike R f s'.stop := by
  unfold Session.stop
  rw [H.isOwned]
  split
  · exact H.perform H.stopEffects
  · exact H

theorem drop (H : s.Alike R f s') : s.drop.Alike R f s'.drop := by
  unfold Session.drop
  rw [H.isOwned]
  split
  · have H' : Session.Alike R f { s with isOwned := false } { s' with isOwned := false } :=
      ⟨H.plan, H.now, H.cells, H.task, H.history, rfl, H.hasHandle, H.seen⟩
    exact H'.perform rfl
  · exact H

theorem move (H : s.Alike R f s') :
    Option.Rel (fun r r' => r.1.Alike R f r'.1) s.move s'.move := by
  have hstep := H.step
  unfold Session.move
  generalize s.task.step s.plan s.now s.cells = r, s'.task.step s'.plan s'.now s'.cells = r'
    at hstep ⊢
  cases hstep with
  | none => exact .none
  | some M => exact .some ((H.withTask M.1).perform M.2)

theorem settleWith (fuel : Nat) (H : s.Alike R f s') :
    (s.settleWith fuel).Alike R f (s'.settleWith fuel) := by
  induction fuel generalizing s s' with
  | zero => exact H
  | succ fuel ih =>
    have hmove := H.move
    unfold Session.settleWith
    generalize s.move = r, s'.move = r' at hmove ⊢
    cases hmove with
    | none => exact H
    | some H => exact ih H

theorem settle (H : s.Alike R f s') : s.settle.Alike R f s'.settle := H.settleWith _

theorem go {wanted : Session σ α β → Bool} {wanted' : Session σ' α β → Bool}
    (hwanted : ∀ {s s'}, s.Alike R f s' → wanted s = wanted' s') (limit fuel : Nat)
    (H : s.Alike R f s') :
    (runUntil.go wanted limit fuel s).1 = (runUntil.go wanted' limit fuel s').1 ∧
      (runUntil.go wanted limit fuel s).2.Alike R f (runUntil.go wanted' limit fuel s').2 := by
  induction fuel generalizing s s' with
  | zero =>
    unfold runUntil.go
    rw [hwanted H, H.now]
    split
    · exact ⟨rfl, H⟩
    · exact ⟨rfl, H.atTime _⟩
  | succ fuel ih =>
    unfold runUntil.go
    rw [hwanted H, H.task.wake?, H.now]
    split
    · exact ⟨rfl, H⟩
    · split
      next hfuel _ =>
        cases hfuel
        split
        · exact ih (H.atTime _).settle
        · exact ⟨rfl, H.atTime _⟩
      · exact ⟨rfl, H.atTime _⟩

theorem runUntil {wanted : Session σ α β → Bool} {wanted' : Session σ' α β → Bool}
    (hwanted : ∀ {s s'}, s.Alike R f s' → wanted s = wanted' s') (wait : Nat)
    (H : s.Alike R f s') :
    (s.runUntil wanted wait).1 = (s'.runUntil wanted' wait).1 ∧
      (s.runUntil wanted wait).2.Alike R f (s'.runUntil wanted' wait).2 := by
  unfold Session.runUntil
  rw [H.now]
  exact go hwanted _ _ H.settle

theorem follow (fuel : Nat) (call : ShutdownCall) (H : s.Alike R f s') :
    (s.follow fuel call).Alike R f (s'.follow fuel call) := by
  induction fuel generalizing call s s' with
  | zero => exact H
  | succ fuel ih =>
    unfold Session.follow
    rw [H.plan.source.name, H.hasHandle, H.task.exit?, ShutdownCall.step_congr H.cells]
    split
    · exact ih _ ((H.withHandle _).perform rfl)
    · split
      · exact ih _ H.settle
      · exact H

theorem use (H : s.Alike R f s') (u : Use) : (s.use u).Alike R f (s'.use u) := by
  cases u with
  | settle => exact H.settle
  | advance nanos =>
    simp only [Session.use, Session.advance]
    exact (H.runUntil (fun _ => rfl) _).2
  | stop => exact H.stop
  | shutdown =>
    simp only [Session.use, Session.shutdown, H.isOwned]
    split
    · exact H.follow 5 .called
    · exact H
  | drop => exact H.drop
  | waitForStop nanos =>
    simp only [Session.use, Session.stopped]
    exact (H.runUntil (fun H => by rw [H.state]) _).2

theorem uses (H : s.Alike R f s') (us : List Use) :
    (us.foldl Session.use s).Alike R f (us.foldl Session.use s') := by
  induction us generalizing s s' with
  | nil => exact H
  | cons u us ih => exact ih (H.use u)

end Alike

end Session

/-! ## Starting -/

/-- Starts of two plans that came to the same: with a manager, if with any. -/
inductive Started.Alike (R : σ → σ' → Prop) (f : α → γ) (p : Plan σ α β) (p' : Plan σ' α β)
    (backoff : β) : Started σ α β → Started σ' α β → Prop
  | refused (error : RefreshError) {history history' : List (Nat × Effect α)}
      (h : SameHistory f history history') :
      Alike R f p p' backoff (.refused error history) (.refused error history')
  | crashed (message : String) {history history' : List (Nat × Effect α)}
      (h : SameHistory f history history') :
      Alike R f p p' backoff (.crashed message history) (.crashed message history')
  | timedOut (now : Nat) {history history' : List (Nat × Effect α)}
      (h : SameHistory f history history') :
      Alike R f p p' backoff (.timedOut now history) (.timedOut now history')
  | ok (now : Nat) {source : σ} {source' : σ'} (hsource : R source source') {c c' : Credential α}
      (hc : c.map f = c'.map f) {history history' : List (Nat × Effect α)}
      (h : SameHistory f history history') :
      Alike R f p p' backoff (.ok (.ofFirst p now source backoff c history))
        (.ok (.ofFirst p' now source' backoff c' history'))

theorem Startup.handOver_congr (name : String) {c c' : Credential α} (hc : c.map f = c'.map f) :
    (handOver name c : List (Effect α)) = handOver name c' := by
  have hexpiry : c.expiresAt = c'.expiresAt := congrArg (·.expiresAt) hc
  rw [handOver, handOver, hexpiry]

theorem Session.ofFirst_alike (P : p.Alike R f p') (now : Nat) {source : σ} {source' : σ'}
    (hsource : R source source') (backoff : β) {c c' : Credential α} (hc : c.map f = c'.map f)
    {history history' : List (Nat × Effect α)} (h : SameHistory f history history') :
    (ofFirst p now source backoff c history).Alike R f
      (ofFirst p' now source' backoff c' history') := by
  refine (spawned_alike P now hsource backoff hc h).perform ?_
  rw [P.source.name, Startup.handOver_congr _ hc]
  rfl

namespace Started

theorem settle_alike (P : p.Alike R f p') (now fuel : Nat) {s : Startup σ α} {s' : Startup σ' α}
    (H : s.Alike R f s') {history history' : List (Nat × Effect α)}
    (h : SameHistory f history history') :
    (settle p now fuel s history).1.Alike R f (settle p' now fuel s' history').1 ∧
      SameHistory f (settle p now fuel s history).2 (settle p' now fuel s' history').2 := by
  induction fuel generalizing s s' history history' with
  | zero => exact ⟨H, h⟩
  | succ fuel ih =>
    have hstep := Startup.step_alike P H now
    unfold settle
    generalize s.step p now = r, s'.step p' now = r' at hstep ⊢
    cases hstep with
    | none => exact ⟨H, h⟩
    | some M => exact ih M.1 (h.record M.2 now)

theorem run_alike (P : p.Alike R f p') (backoff : β) (limit fuel now : Nat) {s : Startup σ α}
    {s' : Startup σ' α} (H : s.Alike R f s') {history history' : List (Nat × Effect α)}
    (h : SameHistory f history history') :
    Alike R f p p' backoff (run p backoff limit fuel now s history)
      (run p' backoff limit fuel now s' history') := by
  induction fuel generalizing now s s' history history' with
  | zero => exact .timedOut _ h
  | succ fuel ih =>
    obtain ⟨H, h⟩ := settle_alike P now 3 H h
    unfold run
    generalize settle p now 3 s history = r, settle p' now 3 s' history' = r' at H h ⊢
    obtain ⟨⟨phase, source, attempt⟩, history⟩ := r
    obtain ⟨⟨phase', source', attempt'⟩, history'⟩ := r'
    have hphase : phase.Alike f phase' := H.phase
    have hwake := H.wake?
    cases hphase with
    | issued hc => exact .ok now H.source hc h
    | crashed message => exact .crashed message h
    | _ =>
      simp only [hwake]
      split
      · split_ifs
        · exact ih _ H h
        · exact .timedOut _ h
      · exact .timedOut _ h

end Started

/-- Starts from alike come to alike ends. -/
theorem start_alike (P : p.Alike R f p') {source : σ} {source' : σ'} (hsource : R source source')
    (backoff : β) (limit : Nat) :
    Started.Alike R f p p' backoff (start p source backoff limit)
      (start p' source' backoff limit) := by
  have M := Startup.call_alike P 0 hsource 0
  refine Started.run_alike P backoff limit _ 0 M.1 (SameHistory.record rfl ?_ 0)
  rw [SameEffects, List.map_cons, List.map_cons, P.source.name]
  exact congrArg _ M.2

theorem startUnless_alike (P : p.Alike R f p') {source : σ} {source' : σ'}
    (hsource : R source source') (refusal? : Settings → Bool → Option RefreshError)
    (hasRuntime : Bool) (backoff : β) (limit : Nat) :
    Started.Alike R f p p' backoff (startUnless refusal? hasRuntime p source backoff limit)
      (startUnless refusal? hasRuntime p' source' backoff limit) := by
  unfold startUnless
  rw [P.settings]
  split
  · exact .refused _ rfl
  · exact start_alike P hsource backoff limit

/-! ## Managers among threads -/

structure Interleaving.Alike (R : σ → σ' → Prop) (f : α → γ) (s : Interleaving σ α β)
    (s' : Interleaving σ' α β) : Prop where
  session : s.session.Alike R f s'.session
  taskAhead : SameEffects f s.taskAhead s'.taskAhead
  startAhead : SameEffects f s.startAhead s'.startAhead
  shutdowns : s.shutdowns = s'.shutdowns

namespace Interleaving

variable {s : Interleaving σ α β} {s' : Interleaving σ' α β}

/-- The moves one after the other, if all of them can be made. -/
def makes (s : Interleaving σ α β) (ms : List Move) : Option (Interleaving σ α β) :=
  ms.foldlM step s

theorem ofFirst_alike (P : p.Alike R f p') (now : Nat) {source : σ} {source' : σ'}
    (hsource : R source source') (backoff : β) {c c' : Credential α} (hc : c.map f = c'.map f)
    {history history' : List (Nat × Effect α)} (h : SameHistory f history history') :
    (ofFirst p now source backoff c history).Alike R f
      (ofFirst p' now source' backoff c' history') where
  session := Session.spawned_alike P now hsource backoff hc h
  taskAhead := rfl
  startAhead := by
    simp only [ofFirst, P.source.name, Startup.handOver_congr _ hc]
    rfl
  shutdowns := rfl

namespace Alike

theorem hasManager (H : s.Alike R f s') : s.hasManager = s'.hasManager := by
  rw [Interleaving.hasManager, Interleaving.hasManager, H.startAhead.isEmpty_eq,
    H.session.isOwned]

theorem exit? (H : s.Alike R f s') : s.exit? = s'.exit? := by
  rw [Interleaving.exit?, Interleaving.exit?, H.taskAhead.isEmpty_eq, H.session.task.exit?]

theorem taskMove (H : s.Alike R f s') : Option.Rel (Alike R f) s.taskMove s'.taskMove := by
  have hahead := H.taskAhead
  have hstep := H.session.step
  unfold Interleaving.taskMove
  rcases hes : s.taskAhead with _ | ⟨e, rest⟩ <;>
    rcases hes' : s'.taskAhead with _ | ⟨e', rest'⟩ <;> rw [hes, hes'] at hahead
  · generalize s.session.task.step s.session.plan s.session.now s.session.cells = r,
      s'.session.task.step s'.session.plan s'.session.now s'.session.cells = r' at hstep ⊢
    cases hstep with
    | none => exact .none
    | some M => exact .some ⟨H.session.withTask M.1, M.2, H.startAhead, H.shutdowns⟩
  · cases hahead
  · cases hahead
  · obtain ⟨he, hrest⟩ := List.cons.inj hahead
    exact .some ⟨H.session.perform (.single he), hrest, H.startAhead, H.shutdowns⟩

theorem start (H : s.Alike R f s') : Option.Rel (Alike R f) (s.step .start) (s'.step .start) := by
  have hahead := H.startAhead
  unfold Interleaving.step
  rcases hes : s.startAhead with _ | ⟨e, rest⟩ <;>
    rcases hes' : s'.startAhead with _ | ⟨e', rest'⟩ <;> rw [hes, hes'] at hahead
  · exact .none
  · cases hahead
  · cases hahead
  · obtain ⟨he, hrest⟩ := List.cons.inj hahead
    exact .some ⟨H.session.perform (.single he), H.taskAhead, hrest, H.shutdowns⟩

theorem shutdownMove (H : s.Alike R f s') (i : Nat) :
    Option.Rel (Alike R f) (s.shutdownMove i) (s'.shutdownMove i) := by
  unfold Interleaving.shutdownMove
  rw [H.shutdowns, H.exit?, H.session.hasHandle, H.session.plan.source.name]
  cases s'.shutdowns[i]? with
  | none => exact .none
  | some call =>
    simp only [Option.bind_some, ShutdownCall.step_congr H.session.cells]
    cases call.step s'.session.plan.source.name s'.session.cells s'.session.hasHandle s'.exit? with
    | none => exact .none
    | some r =>
      exact .some ⟨(H.session.withHandle _).perform rfl, H.taskAhead, H.startAhead, rfl⟩

/-- Whatever move is made, it can be made in both or in neither, and leads to alike. -/
theorem step (H : s.Alike R f s') (m : Move) :
    Option.Rel (Alike R f) (s.step m) (s'.step m) := by
  cases m with
  | start => exact H.start
  | task => exact H.taskMove
  | discard =>
    have M := Task.discard_alike H.session.plan H.session.task
    simp only [Interleaving.step, H.taskAhead.isEmpty_eq]
    split_ifs
    · exact .some ⟨H.session.withTask M.1, M.2, H.startAhead, H.shutdowns⟩
    · exact .none
  | tick nanos =>
    refine .some ⟨?_, H.taskAhead, H.startAhead, H.shutdowns⟩
    rw [H.session.now]
    exact H.session.atTime _
  | stop =>
    simp only [Interleaving.step, H.hasManager]
    split_ifs
    · exact .some ⟨H.session.stop, H.taskAhead, H.startAhead, H.shutdowns⟩
    · exact .none
  | callShutdown =>
    simp only [Interleaving.step, H.hasManager, H.shutdowns]
    split_ifs
    · exact .some ⟨H.session, H.taskAhead, H.startAhead, rfl⟩
    · exact .none
  | shutdown i => exact H.shutdownMove i
  | abandon i =>
    refine .some ⟨H.session, H.taskAhead, H.startAhead, ?_⟩
    rw [H.shutdowns]
  | drop =>
    simp only [Interleaving.step, H.hasManager, H.shutdowns]
    split_ifs
    · exact .some ⟨H.session.drop, H.taskAhead, H.startAhead, rfl⟩
    · exact .none

theorem makes (H : s.Alike R f s') (ms : List Move) :
    Option.Rel (Alike R f) (s.makes ms) (s'.makes ms) := by
  induction ms generalizing s s' with
  | nil => exact .some H
  | cons m ms ih =>
    have hstep := H.step m
    simp only [Interleaving.makes, List.foldlM_cons]
    generalize s.step m = r, s'.step m = r' at hstep ⊢
    cases hstep with
    | none => exact .none
    | some H => exact ih H

end Alike

end Interleaving

end Manager

end CredentialKeeper
