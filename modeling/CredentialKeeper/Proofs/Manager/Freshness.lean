import CredentialKeeper.Proofs.Manager.Timeline

/-! # No reader sees an expired credential while renewals keep up

A cycle of renewal goes from the call that a schedule brings to the next success, over all failures
and retries in between; `Chronicle.cycles` are the times that cycles have taken. The first call of a
cycle is made no more than a millisecond after the lookahead has been reached
(`CallDue.before_expiry`), so a cycle that is shorter than the lookahead, less that millisecond,
ends before the expiry. Until it has stored a credential the task still shows readers the one
before, but only at the instant of the success itself (`Chronicle.Held`). -/

namespace CredentialKeeper.Manager

variable {σ α β : Type}

/-! ## Cycles -/

/-- The instant of the first call since the last success. -/
def cycleStart? : List (Nat × Event α) → Option Nat
  | [] => none
  | (t, .called _) :: log => (cycleStart? log).or (some t)
  | (_, .ended (.ok _) _) :: _ => none
  | _ :: log => cycleStart? log

/-- The nanoseconds that the cycles have taken that ended with a success. -/
def finishedCycles : List (Nat × Event α) → List Nat
  | [] => []
  | (t, .ended (.ok _) _) :: log => ((cycleStart? log).map (t - ·)).toList ++ finishedCycles log
  | _ :: log => finishedCycles log

def lastSuccess? (log : List (Nat × Event α)) : Option (Credential α) :=
  log.findSome? fun r => r.2.success?

theorem success?_eq_some {e : Event α} {c : Credential α} (h : e.success? = some c) :
    ∃ said, e = .ended (.ok c) said := by
  cases e with
  | ended o said =>
    cases o with
    | ok c' => cases h; exact ⟨said, rfl⟩
    | error f => cases h
  | _ => cases h

theorem lastSuccess?_eq_some {log : List (Nat × Event α)} {c : Credential α}
    (h : lastSuccess? log = some c) :
    ∃ later t said earlier, log = later ++ (t, .ended (.ok c) said) :: earlier ∧
      ∀ r ∈ later, r.2.success? = none := by
  obtain ⟨later, ⟨t, e⟩, earlier, hlog, he, hlater⟩ := List.findSome?_eq_some_iff.1 h
  obtain ⟨said, rfl⟩ := success?_eq_some he
  exact ⟨later, t, said, earlier, hlog, hlater⟩

theorem cycleStart?_cons {t : Nat} {e : Event α} {log : List (Nat × Event α)} {u : Nat}
    (he : e.success? = none) (h : cycleStart? log = some u) :
    cycleStart? ((t, e) :: log) = some u := by
  cases e with
  | ended o said =>
    cases o with
    | ok c => cases he
    | error f => exact h
  | called call => rw [cycleStart?, h, Option.some_or]
  | _ => exact h

/-- Unless the success is the last event, a call has been made when it was due. -/
theorem Timeline.cycleStart?_eq {p : Plan σ α β} {t₀ : Nat} {c₀ c : Credential α}
    {source₀ source : σ} {backoff₀ backoff : β} {t : Nat} {said : List Log.Notice}
    {later earlier : List (Nat × Event α)}
    (H : Timeline p t₀ c₀ source₀ backoff₀ source backoff
      (later ++ (t, .ended (.ok c) said) :: earlier))
    (hne : later ≠ []) (hlater : ∀ r ∈ later, r.2.success? = none) :
    ∃ u, cycleStart? (later ++ (t, .ended (.ok c) said) :: earlier) = some u ∧
      CallDue p ((t, .ended (.ok c) said) :: earlier) u := by
  induction later generalizing source backoff with
  | nil => exact absurd rfl hne
  | cons e later ih =>
    have he := hlater e (.head _)
    cases later with
    | nil =>
      cases H with
      | call _ hu => exact ⟨_, rfl, hu⟩
    | cons e' later =>
      obtain ⟨_, _, H⟩ := H.tail (by simp)
      obtain ⟨u, hu, hdue⟩ := ih H (by simp) fun r hr => hlater r (.tail _ hr)
      exact ⟨u, cycleStart?_cons he hu, hdue⟩

/-- Since the last success there has been nothing, or a cycle that began when its first call was
due. -/
theorem Timeline.lastSuccess?_due {p : Plan σ α β} {t₀ : Nat} {c₀ c : Credential α}
    {source₀ source : σ} {backoff₀ backoff : β} {log : List (Nat × Event α)}
    (H : Timeline p t₀ c₀ source₀ backoff₀ source backoff log) (h : lastSuccess? log = some c) :
    ∃ t said earlier, (t, .ended (.ok c) said) ∈ log ∧
      (log = (t, .ended (.ok c) said) :: earlier ∨
        ∃ u, cycleStart? log = some u ∧ CallDue p ((t, .ended (.ok c) said) :: earlier) u) := by
  obtain ⟨later, t, said, earlier, rfl, hlater⟩ := lastSuccess?_eq_some h
  refine ⟨t, said, earlier, by simp, ?_⟩
  by_cases hne : later = []
  · exact .inl (by rw [hne]; rfl)
  · exact .inr (H.cycleStart?_eq hne hlater)

/-! ## The wall clock -/

theorem wallFrom_nanos {s w : Moment} {t : Nat} (h : wallFrom s t = some w) :
    w.nanos = s.nanos + t := by
  unfold wallFrom Moment.ofNanos? at h
  split at h
  next => cases h; rfl
  next => cases h

/-- A clock that shows a time now has always shown one. -/
theorem wallFrom_isSome {s w : Moment} {t now : Nat} (h : wallFrom s now = some w) (hle : t ≤ now) :
    ∃ w', wallFrom s t = some w' := by
  have hnanos := wallFrom_nanos h
  have hlast := w.le_last
  have hfirst := s.ge_first
  refine ⟨⟨s.nanos + t, by omega, by omega⟩, dif_pos ⟨?_, ?_⟩⟩
  · show (-8334601228800 * 1000000000 : Int) ≤ _
    omega
  · show _ ≤ (8210266876799 * 1000000000 + 999999999 : Int)
    omega

/-- The first call after a success comes no later than a millisecond after the lookahead has been
reached. The wait is one that the clock can count, as it leads to a moment. -/
theorem CallDue.before_expiry {p : Plan σ α β} {s : Moment} (hwall : p.wall = wallFrom s)
    {t u : Nat} {c : Credential α} {said : List Log.Notice} {log : List (Nat × Event α)}
    (h : CallDue p ((t, .ended (.ok c) said) :: log) u)
    (hlife : ∀ w ∈ p.wall t, w.nanos + p.settings.lookahead.nanos +
      p.settings.minRefreshInterval.nanos ≤ c.expiresAt.nanos) :
    s.nanos + u + p.settings.lookahead.nanos < c.expiresAt.nanos + 1000000 := by
  cases h with
  | @onSchedule _ _ _ _ w _ hw hu =>
    have hle := renewalWait_le (hlife w hw)
    have hnanos := wallFrom_nanos (hwall ▸ hw)
    have hreach : clockReaches t (renewalWait p.settings c.expiresAt w) := by
      have hexpiry := c.expiresAt.le_last
      have hlast := w.le_last
      have hfirst := s.ge_first
      have hw' := w.ge_first
      unfold clockReaches nanosPerSecond
      omega
    have hlt := hu.lt_add hreach
    omega

/-! ## What readers see -/

namespace Chronicle
open Interleaving

variable {p : Plan σ α β} {s : Moment} {R : Nat} {x y : Chronicle σ α β}

/-- The nanoseconds that the cycles of a run have taken, one in progress included. A cycle that the
task has given up goes on, as no success ends it. -/
def cycles (x : Chronicle σ α β) : List Nat :=
  ((cycleStart? x.log).map (x.session.now - ·)).toList ++ finishedCycles x.log

def successes (x : Chronicle σ α β) : List (Nat × Credential α) :=
  x.log.filterMap fun r => r.2.success?.map (r.1, ·)

theorem mem_successes {t : Nat} {c : Credential α} {said : List Log.Notice}
    (h : (t, .ended (.ok c) said) ∈ x.log) : (t, c) ∈ x.successes :=
  List.mem_filterMap.2 ⟨_, h, rfl⟩

theorem getLast?_credentials (x : Chronicle σ α β) :
    x.credentials.getLast? = lastSuccess? x.log := by
  rw [credentials, List.filterMap_reverse, List.getLast?_reverse, List.head?_filterMap,
    List.findSome?_map]
  rfl

/-- Readers see the last credential, or the one before it while the task has yet to store the
credential that it has got at this instant. -/
structure Held (x : Chronicle σ α β) : Prop where
  writesAhead : x.manager.taskAhead.filterMap Effect.write? = [] ∨
    ∃ c said log, x.log = (x.session.now, .ended (.ok c) said) :: log ∧
      x.manager.taskAhead.filterMap Effect.write? <:+ Write.pair c
  current : lastSuccess? x.log = some x.session.cells.current ∨
    ∃ c said log, x.log = (x.session.now, .ended (.ok c) said) :: log ∧
      lastSuccess? log = some x.session.cells.current

theorem Held.decide {ev : Option (Event α)} {t : Task σ α β} {effects : List (Effect α)}
    (hcur : lastSuccess? x.log = some x.session.cells.current)
    (M : x.session.task.Moves x.session.plan x.session.now x.session.cells ev t effects) :
    (x.decided ev t effects).Held := by
  have hwrites := (writes_reports x.session.plan).moves M
  cases ev with
  | none => exact ⟨.inl hwrites, .inl hcur⟩
  | some e =>
    cases hc : e.success? with
    | none =>
      refine ⟨.inl (hwrites.trans (by simp [Event.writes, hc])), .inl ?_⟩
      show lastSuccess? ((x.session.now, e) :: x.log) = _
      rw [lastSuccess?, List.findSome?_cons, hc]
      exact hcur
    | some c =>
      obtain ⟨said, rfl⟩ := success?_eq_some hc
      refine ⟨.inr ⟨c, said, x.log, rfl, ?_⟩, .inr ⟨c, said, x.log, rfl, hcur⟩⟩
      rw [hwrites]
      exact List.suffix_rfl

theorem Held.perform {e : Effect α} {rest : List (Effect α)} (H : x.Held)
    (h : x.manager.taskAhead = e :: rest) :
    (x.performed [e] rest).Held := by
  have hwrites := H.writesAhead
  have hcur : (x.session.perform [e]).cells.current = e.stored?.getD x.session.cells.current :=
    Cells.current_apply ..
  rw [h, List.filterMap_cons] at hwrites
  cases hw : e.write? with
  | none =>
    rw [hw] at hwrites
    have hcur : (x.session.perform [e]).cells.current = x.session.cells.current := by
      rw [hcur, Effect.stored?, hw]; rfl
    exact ⟨hwrites, hcur ▸ H.current⟩
  | some w =>
    rw [hw] at hwrites
    obtain ⟨c, said, log, hlog, hsuf⟩ := hwrites.resolve_left (by simp)
    refine ⟨.inr ⟨c, said, log, hlog, (List.suffix_cons ..).trans hsuf⟩, ?_⟩
    rcases List.suffix_cons_iff.1 hsuf with hstore | hsuf
    · -- the credential of the log's last event is stored
      obtain ⟨rfl, -⟩ := List.cons.inj hstore
      rw [hcur, Effect.stored?, hw]
      show lastSuccess? x.log = some c ∨ _
      rw [hlog]
      exact .inl rfl
    · have hnone : w.stored? = none := by
        rcases List.suffix_cons_iff.1 hsuf with hpublish | hsuf
        · obtain ⟨rfl, -⟩ := List.cons.inj hpublish
          rfl
        · simp at hsuf
      have hcur : (x.session.perform [e]).cells.current = x.session.cells.current := by
        rw [hcur, Effect.stored?, hw, Option.bind_some, hnone]
        rfl
      exact hcur ▸ H.current

theorem Run.held {c : Credential α} (H : Run prompt x y) (N : x.Begins c) (hx : x.Held) :
    y.Held := by
  induction H with
  | refl => exact hx
  | @tail y z H N' ih =>
    have H : Run prompt x y := H
    cases N'.advance (H.sound N.sound) with
    | decide h M =>
      refine .decide ?_ M
      rw [← getLast?_credentials]
      exact N.getLast?_credentials H (.inr h)
    | perform h => exact ih.perform h
    | discard had => exact had.elim
    | others O =>
      obtain ⟨hwrites, hcurrent⟩ := ih
      refine ⟨?_, ?_⟩
      · rw [O.taskAhead, O.now]; exact hwrites
      · rw [O.now, O.current_eq.1]; exact hcurrent
    | tick had =>
      obtain ⟨hquiet, -⟩ := had
      refine ⟨.inl (by rw [hquiet]; rfl), .inl ?_⟩
      show lastSuccess? y.log = some y.session.cells.current
      rw [← getLast?_credentials]
      exact N.getLast?_credentials H (.inr hquiet)

theorem Run.le_now {admits : Discipline σ α β} (H : Run admits x y) (hx : x.manager.Sound)
    (h : ∀ r ∈ x.log, r.1 ≤ x.session.now) : ∀ r ∈ y.log, r.1 ≤ y.session.now := by
  refine H.induct (P := fun y => ∀ r ∈ y.log, r.1 ≤ y.session.now) hx h ?_
  intro y z ih A
  cases A with
  | decide _ _ =>
    intro r hr
    rcases List.mem_append.1 hr with hr | hr
    · obtain ⟨_, _, rfl⟩ := List.mem_map.1 hr
      exact Nat.le_refl _
    · exact ih r hr
  | perform => exact ih
  | discard => exact ih
  | others O => exact O.now ▸ ih
  | tick => exact fun r hr => Nat.le_add_right_of_le (ih r hr)

theorem before_expiry_of_cycle (hwall : p.wall = wallFrom s)
    (hlook : R + 1000000 ≤ p.settings.lookahead.nanos) {t u now : Nat} {c : Credential α}
    {said : List Log.Notice} {log : List (Nat × Event α)}
    (hdue : CallDue p ((t, .ended (.ok c) said) :: log) u)
    (hlife : ∀ w ∈ p.wall t, w.nanos + p.settings.lookahead.nanos +
      p.settings.minRefreshInterval.nanos ≤ c.expiresAt.nanos)
    (hcycle : now - u ≤ R) : ∀ w ∈ p.wall now, w < c.expiresAt := by
  intro w hw
  have hbefore := hdue.before_expiry hwall hlife
  have hnanos := wallFrom_nanos (hwall ▸ hw)
  rw [Moment.lt_def]
  omega

theorem Paced.call_due {t₀ : Nat} {c₀ c : Credential α} {source₀ : σ} {backoff₀ : β} {t : Nat}
    {said : List Log.Notice} {log : List (Nat × Event α)}
    (P : x.Paced p t₀ c₀ source₀ backoff₀) (hc : x.session.cells.isCancelled = false)
    (hlog : x.log = (t, .ended (.ok c) said) :: log) (hnow : p.wall x.session.now ≠ none)
    (ht : p.wall t ≠ none) :
    ∃ u, CallDue p ((t, .ended (.ok c) said) :: log) u ∧ x.session.now ≤ u := by
  obtain ⟨hover, hrun⟩ := P.due hc
  rw [hlog] at hover hrun
  by_cases hend : ∃ exit, x.session.task.phase = .ended exit
  · cases hover hend with
    | timeless h => exact absurd h ht
  · obtain ⟨u, hdue, hle⟩ := (hrun (not_exists.1 hend)).resolve_left hnow
    cases hdue with
    | call hdue => exact ⟨u, hdue, hle⟩

/-- **No reader sees an expired credential while renewals keep up.** Let every credential last for
the lookahead and the least interval at least when it comes, and let no cycle take longer than `R`
nanoseconds, a millisecond less than the lookahead. Then, under a prompt runtime and until a stop is
requested, the wall clock is always before the expiry of the current credential. -/
theorem current_is_fresh {now : Nat} {source : σ} {backoff : β} {c : Credential α}
    {history : List (Nat × Effect α)} {start : Chronicle σ α β}
    (hstart : start = launched p now source backoff c history) (hwall : p.wall = wallFrom s)
    (hx : Run prompt start x) (hlook : R + 1000000 ≤ p.settings.lookahead.nanos)
    (hlife : ∀ r ∈ x.successes, ∀ w ∈ p.wall r.1, w.nanos + p.settings.lookahead.nanos +
      p.settings.minRefreshInterval.nanos ≤ r.2.expiresAt.nanos)
    (hcycles : ∀ d ∈ x.cycles, d ≤ R)
    (hc : x.session.cells.isCancelled = false) :
    ∀ w ∈ p.wall x.session.now, w < x.session.cells.current.expiresAt := by
  have N : start.Begins c := hstart ▸ launched_begins p now source backoff c history
  have B : start.Books p := hstart ▸ launched_books p now source backoff c history
  have P : x.Paced p now c source backoff :=
    hx.paced N B (hstart ▸ launched_paced p now source backoff c history)
  have H : x.Held := hx.held N (hstart ▸ ⟨.inl rfl, .inl rfl⟩)
  have hle : ∀ r ∈ x.log, r.1 ≤ x.session.now :=
    hx.le_now N.sound (hstart ▸ by simp [launched, ofFirst, Session.spawned])
  have T := P.timeline
  intro w hw
  rcases H.current with hlast | ⟨c', said', log, hlog, hlast⟩
  · obtain ⟨t, said, earlier, hmem, hlog | ⟨u, hu, hdue⟩⟩ := T.lastSuccess?_due hlast
    · -- the source has not been called since
      obtain ⟨w', hw'⟩ := wallFrom_isSome (hwall ▸ hw) (hle _ hmem)
      obtain ⟨u, hdue, hnow⟩ := P.call_due hc hlog (by simp [Option.mem_def.1 hw])
        (by simp [hwall, hw'])
      exact before_expiry_of_cycle hwall hlook hdue (hlife _ (mem_successes hmem)) (by omega) w hw
    · have hcycle := hcycles (x.session.now - u) (by simp [cycles, hu])
      exact before_expiry_of_cycle hwall hlook hdue (hlife _ (mem_successes hmem)) hcycle w hw
  · -- the last cycle has just ended, and its credential is not stored yet
    rw [hlog] at T
    obtain ⟨source', backoff', T'⟩ := T.tail (by rintro rfl; cases hlast)
    obtain ⟨t, said, earlier, hmem, rfl | ⟨u, hu, hdue⟩⟩ := T'.lastSuccess?_due hlast
    · -- a success does not follow on another
      generalize x.session.task.backoff = backoff' at T
      cases T
    · have hmem : (t, .ended (.ok x.session.cells.current) said) ∈ x.log := hlog ▸ .tail _ hmem
      have hcycle := hcycles (x.session.now - u) (by simp [cycles, hlog, finishedCycles, hu])
      exact before_expiry_of_cycle hwall hlook hdue (hlife _ (mem_successes hmem)) hcycle w hw

def lasting : Chronicle (List (Line Nat)) Nat Backoff.Schedule :=
  sample .standard ⟨400000000000, by decide, by decide⟩
    ⟨.after (millis 250), .issue 8 (.forMillis 400000)⟩ []

/-- The task has got its first credential and not stored it. -/
def arriving : Chronicle (List (Line Nat)) Nat Backoff.Schedule :=
  lasting.after isPrompt
    (List.replicate 3 .task ++ [.tick (millis 100000)] ++ List.replicate 3 .task ++
      [.tick (millis 250), .task])
    (by decide +kernel)

/-- Even then readers see a credential that has not expired. -/
theorem fresh_at_arrival :
    arriving.cycles = [millis 250] ∧ arriving.session.cells.current.value = 7 ∧
      ∀ w ∈ wallFrom .epoch arriving.session.now,
        w < arriving.session.cells.current.expiresAt := by
  have hx : Run prompt lasting arriving := run_after prompt_of_isPrompt _
  have hstart : lasting = launched _ _ _ _ _ _ := rfl
  have hcycles : arriving.cycles = [millis 250] := by decide +kernel
  refine ⟨hcycles, by decide +kernel, ?_⟩
  have hlook : millis 250 + 1000000 ≤ Refresh.Settings.standard.lookahead.nanos := by decide
  refine current_is_fresh hstart rfl hx hlook (by decide +kernel) ?_ (by decide +kernel)
  simp [hcycles]

end Chronicle

end CredentialKeeper.Manager
