import CredentialKeeper.Proofs.Manager.Cancellation

/-! # Waiting for a manager to stop

A call of shutdown asks the task to stop and then waits for its end, if it finds the task's handle.
There is one handle (`Interleaving.holders`), so one caller at most waits, and when it returns the
task has ended and the manager is stopped. Any other call returns at once, ended or not. As long as
nobody gives up waiting there is someone who holds the handle until the task has ended
(`Chronicle.Attended`), so the last to return finds the manager stopped. If the one who waits gives
up, nobody waits any more. -/

namespace CredentialKeeper.Manager

variable {σ α β : Type}

namespace Interleaving

/-- The runtime moves a task before it throws it away, and nobody who waits for it gives up. -/
def awaited : Discipline σ α β := fun s m =>
  kept s m ∧ ∀ i, m = .abandon i → s.shutdowns[i]? ≠ some .joining

def isAwaited : Move → Bool
  | .discard | .abandon _ => false
  | _ => true

theorem awaited_of_isAwaited (s : Interleaving σ α β) (m : Move) (h : isAwaited m = true) :
    awaited s m := by
  refine ⟨?_, ?_⟩
  · rintro rfl
    cases h
  · rintro i rfl
    cases h

/-- The number of those who hold the task's handle: the manager, or a caller who waits. -/
def holders (s : Interleaving σ α β) : Nat :=
  s.session.hasHandle.toNat + s.shutdowns.count .joining

theorem count_joining_set {calls : List ShutdownCall} {i : Nat} {call : ShutdownCall}
    (h : calls[i]? = some call) (call' : ShutdownCall) :
    (calls.set i call').count .joining + (if call = .joining then 1 else 0) =
      calls.count .joining + if call' = .joining then 1 else 0 := by
  obtain ⟨hi, rfl⟩ := List.getElem?_eq_some_iff.1 h
  have hle : (if calls[i] = .joining then 1 else 0) ≤ calls.count .joining := by
    split
    next hjoin => exact List.count_pos_iff.2 (hjoin ▸ List.getElem_mem hi)
    next => exact Nat.zero_le _
  simp only [List.count_set hi, beq_iff_eq]
  omega

theorem count_joining_eraseIdx {calls : List ShutdownCall} {i : Nat}
    (h : calls[i]? ≠ some .joining) :
    (calls.eraseIdx i).count .joining = calls.count .joining := by
  induction calls generalizing i with
  | nil => rfl
  | cons call calls ih =>
    cases i with
    | zero =>
      have hne : call ≠ .joining := by simpa using h
      simp [hne]
    | succ i =>
      rw [List.eraseIdx_cons_succ, List.count_cons, List.count_cons, ih (by simpa using h)]

/-- The handle passes from the manager to a caller, and is lost only if it is given up. -/
theorem Acts.holders {s u : Interleaving σ α β} {m : Move} {es : List (Effect α)}
    (A : s.Acts m u es) :
    u.holders ≤ s.holders ∧ (u.holders = s.holders ∨ s.exit?.isSome ∨
      ∃ i, m = .abandon i ∧ s.shutdowns[i]? = some .joining) := by
  cases A with
  | handOver | stop | drop => exact ⟨Nat.le_refl _, .inl rfl⟩
  | call =>
    have heq : (s.shutdowns ++ [ShutdownCall.called]).count .joining =
        s.shutdowns.count .joining := by simp
    exact ⟨(congrArg (_ + ·) heq).le, .inl (congrArg (_ + ·) heq)⟩
  | ask h =>
    have heq := count_joining_set h .asked
    exact ⟨(congrArg (_ + ·) heq).le, .inl (congrArg (_ + ·) heq)⟩
  | miss h =>
    have heq := count_joining_set h .returned
    exact ⟨(congrArg (_ + ·) heq).le, .inl (congrArg (_ + ·) heq)⟩
  | take h hh =>
    have heq := count_joining_set h .joining
    simp only [reduceCtorEq, if_false, if_true, Nat.add_zero] at heq
    simp only [Interleaving.holders, hh, heq, Bool.toNat_false, Bool.toNat_true]
    omega
  | join h he =>
    have heq := count_joining_set h .returned
    simp only [reduceCtorEq, if_false, if_true, Nat.add_zero] at heq
    refine ⟨Nat.add_le_add_left ?_ _, .inr (.inl (by rw [he]; rfl))⟩
    show List.count .joining (s.shutdowns.set _ .returned) ≤ _
    omega
  | @abandon i =>
    refine ⟨Nat.add_le_add_left ((List.eraseIdx_sublist ..).count_le _) _, ?_⟩
    by_cases h : s.shutdowns[i]? = some .joining
    · exact .inr (.inr ⟨i, rfl, h⟩)
    · exact .inl (congrArg (_ + ·) (count_joining_eraseIdx h))

/-- Who waits for a task that has ended can return. -/
theorem shutdownMove_isSome {s : Interleaving σ α β} {i : Nat} {exit : Exit}
    (h : s.shutdowns[i]? = some .joining) (he : s.exit? = some exit) :
    (s.shutdownMove i).isSome := by
  cases exit <;> simp [shutdownMove, h, he, ShutdownCall.step]

end Interleaving

namespace Chronicle
open Interleaving

variable {admits : Discipline σ α β} {p : Plan σ α β} {x y : Chronicle σ α β}

/-! ## The end of the task -/

/-- The task has ended and done all of its last move, and the manager is stopped. -/
structure Gone (x : Chronicle σ α β) : Prop where
  ended : ∃ exit, x.session.task.phase = .ended exit
  taskAhead : x.manager.taskAhead = []
  stopped : x.session.cells.state = .stopped

theorem Gone.advance (G : x.Gone) (A : Advance admits x y) : y.Gone := by
  obtain ⟨⟨exit, hexit⟩, hquiet, hstop⟩ := G
  cases A with
  | decide _ M => exact absurd hexit (M.not_ended exit)
  | perform h =>
    rw [hquiet] at h
    cases h
  | discard _ _ D =>
    cases D with
    | early hs => rw [hexit] at hs; cases hs
    | late => exact ⟨⟨exit, hexit⟩, rfl, hstop⟩
    | midway _ he => exact absurd hexit (he exit)
  | others O =>
    refine ⟨⟨exit, O.task ▸ hexit⟩, O.taskAhead.trans hquiet, ?_⟩
    rw [O.cells]
    exact (Cells.state_applyAll ..).2 (.inl hstop)
  | tick => exact ⟨⟨exit, hexit⟩, hquiet, hstop⟩

theorem Leaves.gone (L : x.Leaves) (hend : ∃ exit, x.session.task.phase = .ended exit)
    (hquiet : x.manager.taskAhead = []) : x.Gone :=
  ⟨hend, hquiet, (L.after hend).resolve_left (by simp [hquiet])⟩

theorem Leaves.gone_of_exit (L : x.Leaves) (h : x.manager.exit?.isSome) : x.Gone := by
  obtain ⟨exit, hexit⟩ := Option.isSome_iff_exists.1 h
  unfold Interleaving.exit? at hexit
  split at hexit
  next hquiet => exact L.gone ⟨exit, Task.exit?_eq_some.1 hexit⟩ (List.isEmpty_iff.1 hquiet)
  next => cases hexit

theorem Gone.exit? (G : x.Gone) : ∃ exit, x.manager.exit? = some exit := by
  obtain ⟨exit, hexit⟩ := G.ended
  exact ⟨exit, by simp [Interleaving.exit?, G.taskAhead, Task.exit?, hexit]⟩

/-! ## The handle -/

/-- The handle is in one hand at most, and not in the manager's once a call has returned. Who has
come to look for it has asked the task to stop. -/
structure Queued (x : Chronicle σ α β) : Prop where
  one : x.manager.holders ≤ 1
  returned : .returned ∈ x.manager.shutdowns → x.session.hasHandle = false
  asked : ∀ call ∈ x.manager.shutdowns, call ≠ .called → x.session.cells.isCancelled = true

theorem Queued.others {m : Move} {u : Interleaving σ α β} {es : List (Effect α)} (Q : x.Queued)
    (O : x.manager.Beside u es) (A : x.manager.Acts m u es) : Queued ⟨u, x.log⟩ := by
  obtain ⟨hone, hreturned, hasked⟩ := Q
  have hkeeps : x.session.cells.isCancelled = true → u.session.cells.isCancelled = true := by
    intro hc
    rw [O.cells]
    exact (Cells.isCancelled_applyAll ..).2 (.inl hc)
  -- a call that has moved on had asked before it did
  have hset : ∀ {i : Nat} {call : ShutdownCall} (call' : ShutdownCall),
      x.manager.shutdowns[i]? = some call → call ≠ .called →
      ∀ c ∈ x.manager.shutdowns.set i call', c ≠ .called → u.session.cells.isCancelled = true := by
    intro i call call' hi hne c hc hcalled
    rcases List.mem_or_eq_of_mem_set hc with hc | -
    · exact hkeeps (hasked c hc hcalled)
    · exact hkeeps (hasked call (List.mem_of_getElem? hi) hne)
  refine ⟨A.holders.1.trans hone, ?_, ?_⟩
  · cases A with
    | handOver | stop | drop => exact hreturned
    | call => exact fun h => hreturned (by simpa using h)
    | ask => exact fun h => hreturned ((List.mem_or_eq_of_mem_set h).resolve_right (by simp))
    | take => exact fun _ => rfl
    | miss _ hh => exact fun _ => hh
    | join h =>
      intro _
      have hpos := List.count_pos_iff.2 (List.mem_of_getElem? h)
      refine Bool.toNat_eq_zero.1 (Nat.le_zero.1 ?_)
      unfold holders at hone
      show x.manager.session.hasHandle.toNat ≤ 0
      omega
    | abandon => exact fun h => hreturned (List.mem_of_mem_eraseIdx h)
  · cases A with
    | handOver | stop | drop => exact fun c hc hne => hkeeps (hasked c hc hne)
    | call =>
      intro c hc hne
      exact hkeeps (hasked c ((List.mem_append.1 hc).resolve_right (by simpa using hne)) hne)
    | ask =>
      intro c hc hne
      show (x.session.cells.applyAll (stopEffects _ x.session.cells)).isCancelled = true
      rw [cells_of_stopEffects]
    | take h => exact hset _ h (by simp)
    | miss h => exact hset _ h (by simp)
    | join h => exact hset _ h (by simp)
    | abandon => exact fun c hc hne => hkeeps (hasked c (List.mem_of_mem_eraseIdx hc) hne)

theorem Run.queued (H : Run admits x y) (hx : x.manager.Sound) (Q : x.Queued) : y.Queued := by
  refine H.induct hx Q fun Q A => ?_
  cases A with
  | perform => exact ⟨Q.one, Q.returned, fun c hc hne =>
      (Cells.isCancelled_apply ..).2 (.inl (Q.asked c hc hne))⟩
  | others O _ A => exact Q.others O A
  | _ => exact ⟨Q.one, Q.returned, Q.asked⟩

/-- Someone holds the handle, or it is of no more use. -/
def Attended (x : Chronicle σ α β) : Prop := 0 < x.manager.holders ∨ x.Gone

theorem Run.attended (H : Run awaited x y) (hx : x.manager.Sound) (B : x.Books p) (L : x.Leaves)
    (h : x.Attended) : y.Attended := by
  induction H with
  | refl => exact h
  | @tail y z H N ih =>
    have H : Run awaited x y := H
    have L := H.leaves (fun _ _ hm => hm.1) hx B L
    have A := N.advance (H.sound hx)
    rcases ih with hpos | G
    · cases A with
      | others O had A' =>
        rcases A'.holders.2 with heq | hexit | ⟨i, rfl, hjoin⟩
        · exact .inl (heq ▸ hpos)
        · exact .inr ((L.gone_of_exit hexit).advance (.others O had A'))
        · exact absurd hjoin (had.2 i rfl)
      | _ => exact .inl hpos
    · exact .inr (G.advance A)

theorem Run.shutdowns_eq (H : Run alone x y) (hx : x.manager.Sound) :
    y.manager.shutdowns = x.manager.shutdowns := by
  refine H.induct (P := fun y => y.manager.shutdowns = x.manager.shutdowns) hx rfl
    fun {y z} ih A => ?_
  cases A with
  | others _ had A => cases had; cases A
  | _ => exact ih

/-! ## Who waits -/

theorem step_joining {i : Nat} (hx : x.manager.Sound) (L : x.Leaves)
    (hi : x.manager.shutdowns[i]? = some .joining) (h : x.step (.shutdown i) = some y) :
    y.Gone := by
  have N : Next free x y := ⟨.shutdown i, trivial, h⟩
  obtain ⟨u, hu, rfl⟩ := Option.map_eq_some_iff.1 h
  obtain ⟨es, A⟩ := shutdownMove_acts hu
  have hexit : x.manager.exit?.isSome := by
    cases A with
    | ask hi' | take hi' | miss hi' =>
      rw [hi] at hi'
      cases hi'
    | join _ he => rw [he]; rfl
  exact (L.gone_of_exit hexit).advance (N.advance hx)

/-- Who waits does not wait for ever: the task has been asked to stop, and ends at the next poll. -/
theorem exists_return {i : Nat} (hx : x.manager.Sound) (B : x.Books p) (L : x.Leaves)
    (hc : x.session.cells.isCancelled = true) (hi : x.manager.shutdowns[i]? = some .joining) :
    ∃ y z, Run alone x y ∧ y.step (.shutdown i) = some z ∧ z.Gone := by
  obtain ⟨y, hy⟩ := exists_poll hc
  obtain ⟨hend, hquiet⟩ := hy.ended hx hc
  have L := hy.1.leaves kept_of_alone hx B L
  have hi : y.manager.shutdowns[i]? = some .joining := by rw [hy.1.shutdowns_eq hx, hi]
  obtain ⟨exit, hexit⟩ := (L.gone hend hquiet).exit?
  obtain ⟨u, hu⟩ := Option.isSome_iff_exists.1 (shutdownMove_isSome hi hexit)
  have hz : y.step (.shutdown i) = some ⟨u, y.log⟩ := congrArg (Option.map _) hu
  exact ⟨y, _, hy.1, hz, step_joining (hy.1.sound hx) L hi hz⟩

/-- **Who waits for a manager to stop returns after its task.** Let `x` be any state of any run in
which the runtime does not throw the task away unmoved. One caller at most waits, it has asked the
task to stop, it can return once the task has been polled, and when it returns the task has ended
and the manager is stopped. If nobody who waited has given up, then a call that has returned did so
after the task, or there is still someone who waits. -/
theorem shutdown_joins_for_who_waits {now : Nat} {source : σ} {backoff : β} {c : Credential α}
    {history : List (Nat × Effect α)} {start : Chronicle σ α β}
    (hstart : start = launched p now source backoff c history) (hx : Run kept start x) :
    (x.manager.shutdowns.count .joining ≤ 1 ∧
      ∀ call ∈ x.manager.shutdowns, call ≠ .called → x.session.cells.isCancelled = true) ∧
    (∀ i, x.manager.shutdowns[i]? = some .joining →
      (∀ y, x.step (.shutdown i) = some y → y.Gone) ∧
        ∃ y z, Run alone x y ∧ y.step (.shutdown i) = some z ∧ z.Gone) ∧
    (Run awaited start x → .returned ∈ x.manager.shutdowns →
      .joining ∈ x.manager.shutdowns ∨ x.Gone) := by
  have N : start.Begins c := hstart ▸ launched_begins p now source backoff c history
  have B0 : start.Books p := hstart ▸ launched_books p now source backoff c history
  have L0 : start.Leaves := hstart ▸ launched_leaves p now source backoff c history
  have Q0 : start.Queued := by
    rw [hstart]
    exact ⟨by simp [launched, ofFirst, Session.spawned, holders], by simp [launched, ofFirst],
      by simp [launched, ofFirst]⟩
  have hxs := hx.sound N.sound
  have B := hx.books N.sound B0
  have L := hx.leaves (fun _ _ h => h) N.sound B0 L0
  have Q := hx.queued N.sound Q0
  refine ⟨⟨(Nat.le_add_left ..).trans Q.one, Q.asked⟩, fun i hi => ⟨fun y hy => ?_, ?_⟩,
    fun ha hret => ?_⟩
  · exact step_joining hxs L hi hy
  · exact exists_return hxs B L (Q.asked _ (List.mem_of_getElem? hi) (by simp)) hi
  · have hpos : start.Attended := by
      rw [hstart]
      exact .inl (by simp [launched, ofFirst, Session.spawned, holders])
    rcases ha.attended N.sound B0 L0 hpos with hpos | hgone
    · have hhandle := Q.returned hret
      rw [holders, hhandle, Bool.toNat_false, Nat.zero_add] at hpos
      exact .inl (List.count_pos_iff.1 hpos)
    · exact .inr hgone

/-- A manager that waits, and is asked to shut down twice. -/
def crowded : Chronicle (List (Line Nat)) Nat Backoff.Schedule :=
  failing.after isPrompt [.start, .start, .task, .task, .task, .callShutdown, .callShutdown,
    .shutdown 0, .shutdown 0, .shutdown 1, .shutdown 1] (by decide +kernel)

/-- The same, but the one who waits for it gives up before the other comes. -/
def deserted : Chronicle (List (Line Nat)) Nat Backoff.Schedule :=
  failing.after isPrompt [.start, .start, .task, .task, .task, .callShutdown,
    .shutdown 0, .shutdown 0, .abandon 0, .callShutdown, .shutdown 0, .shutdown 0]
    (by decide +kernel)

/-- Both times a call has returned, and the task has not ended. -/
theorem shutdown_returns_before_exit :
    (Run prompt failing crowded ∧ crowded.manager.shutdowns = [.joining, .returned] ∧
      crowded.manager.exit? = none ∧ crowded.session.cells.state = .running) ∧
    (Run prompt failing deserted ∧ deserted.manager.shutdowns = [.returned] ∧
      deserted.manager.exit? = none ∧ deserted.session.cells.state = .running) :=
  ⟨⟨run_after prompt_of_isPrompt _, by decide +kernel⟩,
    ⟨run_after prompt_of_isPrompt _, by decide +kernel⟩⟩

/-- The first caller returns as well, after the task. -/
def emptied : Chronicle (List (Line Nat)) Nat Backoff.Schedule :=
  failing.after (fun _ m => isAwaited m)
    [.start, .start, .task, .task, .task, .callShutdown, .callShutdown, .shutdown 0,
      .shutdown 0, .shutdown 1, .shutdown 1, .task, .task, .task, .shutdown 0] (by decide +kernel)

theorem shutdown_joins_in_the_end :
    emptied.manager.shutdowns = [.returned, .returned] ∧ emptied.Gone := by
  have hx : Run awaited failing emptied := run_after awaited_of_isAwaited _
  have hstart : failing = launched _ _ _ _ _ _ := rfl
  obtain ⟨-, -, hjoins⟩ := shutdown_joins_for_who_waits hstart (Run.mono (fun _ _ h => h.1) hx)
  have hcalls : emptied.manager.shutdowns = [.returned, .returned] := by decide +kernel
  rw [hcalls] at hjoins
  exact ⟨hcalls, (hjoins hx (by simp)).resolve_left (by simp)⟩

end Chronicle

end CredentialKeeper.Manager
