import CredentialKeeper.Proofs.Manager.Moves

/-! # Effects against events

Histories and logs only grow, and the cells are what the effects have made of them
(`Chronicle.Run.cells_eq`). A kind of effect that belongs to events (`Reports`) happens in a run
just as the events say, whoever acts in between: what the task has done and what it has yet to do
are together the effects of the events in their order (`Reports.effectsTo_append`). -/

namespace CredentialKeeper.Manager

variable {σ α β γ : Type} {admits : Interleaving.Discipline σ α β} {x y z : Chronicle σ α β}

theorem Session.record_eq (now : Nat) (history : List (Nat × Effect α)) (es : List (Effect α)) :
    Session.record now history es = (es.map (now, ·)).reverse ++ history := by
  unfold record
  induction es generalizing history with
  | nil => rfl
  | cons e es ih => simp [ih]

theorem Cells.applyAll_append (cells : Cells α) (es es' : List (Effect α)) :
    cells.applyAll (es ++ es') = (cells.applyAll es).applyAll es' := List.foldl_append

namespace Chronicle

theorem effectsTo_eq {done : List (Nat × Effect α)}
    (h : y.session.history = done ++ x.session.history) :
    effectsTo x y = (done.map Prod.snd).reverse := by
  simp [effectsTo, h]

theorem eventsTo_eq {new : List (Nat × Event α)} (h : y.log = new ++ x.log) :
    eventsTo x y = (new.map Prod.snd).reverse := by
  simp [eventsTo, h]

/-- The effects of one move. -/
theorem effectsTo_step {es : List (Effect α)}
    (h : y.session.history = (es.map (x.session.now, ·)).reverse ++ x.session.history) :
    effectsTo x y = es := by
  rw [effectsTo_eq h]
  simp [Function.comp_def]

/-- The event of one move. -/
theorem eventsTo_step {ev : Option (Event α)}
    (h : y.log = ev.toList.map (x.session.now, ·) ++ x.log) : eventsTo x y = ev.toList := by
  rw [eventsTo_eq h]
  cases ev <;> rfl

theorem effectsTo_self (x : Chronicle σ α β) : effectsTo x x = [] := by simp [effectsTo]

theorem eventsTo_self (x : Chronicle σ α β) : eventsTo x x = [] := by simp [eventsTo]

/-- What one move adds to the history and to the log, and what it does to the cells. -/
theorem Advance.adds (A : Advance admits x y) :
    y.session.plan = x.session.plan ∧ ∃ (es : List (Effect α)) (ev : Option (Event α)),
      y.session.history = (es.map (x.session.now, ·)).reverse ++ x.session.history ∧
      y.session.cells = x.session.cells.applyAll es ∧
      y.log = ev.toList.map (x.session.now, ·) ++ x.log := by
  cases A with
  | decide h H => exact ⟨rfl, [], _, rfl, rfl, rfl⟩
  | @perform e _ h => exact ⟨rfl, [e], none, rfl, rfl, rfl⟩
  | discard had h H => exact ⟨rfl, [], none, rfl, rfl, rfl⟩
  | @others _ _ es H =>
    exact ⟨H.plan, es, none, H.history.trans (Session.record_eq ..), H.cells, rfl⟩
  | tick had => exact ⟨rfl, [], none, rfl, rfl, rfl⟩

/-- From `x` to `y` the history and the log have only grown, and the cells are what the effects have
made of them. -/
structure Grows (x y : Chronicle σ α β) : Prop where
  plan : y.session.plan = x.session.plan
  history : ∃ done, y.session.history = done ++ x.session.history
  log : ∃ new, y.log = new ++ x.log
  cells : y.session.cells = x.session.cells.applyAll (effectsTo x y)

namespace Grows

theorem refl (x : Chronicle σ α β) : Grows x x :=
  ⟨rfl, ⟨[], rfl⟩, ⟨[], rfl⟩, by rw [effectsTo_self]; rfl⟩

theorem effectsTo_trans (H : Grows x y) (H' : Grows y z) :
    effectsTo x z = effectsTo x y ++ effectsTo y z := by
  obtain ⟨done, hh⟩ := H.history
  obtain ⟨done', hh'⟩ := H'.history
  have hxz : z.session.history = (done' ++ done) ++ x.session.history := by
    rw [hh', hh, List.append_assoc]
  rw [effectsTo_eq hh, effectsTo_eq hh', effectsTo_eq hxz]
  simp

theorem eventsTo_trans (H : Grows x y) (H' : Grows y z) :
    eventsTo x z = eventsTo x y ++ eventsTo y z := by
  obtain ⟨new, hl⟩ := H.log
  obtain ⟨new', hl'⟩ := H'.log
  have hxz : z.log = (new' ++ new) ++ x.log := by rw [hl', hl, List.append_assoc]
  rw [eventsTo_eq hl, eventsTo_eq hl', eventsTo_eq hxz]
  simp

theorem trans (H : Grows x y) (H' : Grows y z) : Grows x z where
  plan := H'.plan.trans H.plan
  history := by
    obtain ⟨done, hh⟩ := H.history
    obtain ⟨done', hh'⟩ := H'.history
    exact ⟨done' ++ done, by rw [hh', hh, List.append_assoc]⟩
  log := by
    obtain ⟨new, hl⟩ := H.log
    obtain ⟨new', hl'⟩ := H'.log
    exact ⟨new' ++ new, by rw [hl', hl, List.append_assoc]⟩
  cells := by rw [H'.cells, H.cells, H.effectsTo_trans H', Cells.applyAll_append]

end Grows

theorem Advance.grows (A : Advance admits x y) : Grows x y := by
  obtain ⟨hplan, es, ev, hh, hc, hl⟩ := A.adds
  exact ⟨hplan, ⟨_, hh⟩, ⟨_, hl⟩, by rw [hc, effectsTo_step hh]⟩

theorem Run.grows (H : Run admits x y) (hx : x.manager.Sound) : Grows x y :=
  H.induct hx (.refl x) fun G A => G.trans A.grows

theorem Run.plan_eq (H : Run admits x y) (hx : x.manager.Sound) :
    y.session.plan = x.session.plan := (H.grows hx).plan

theorem Run.cells_eq (H : Run admits x y) (hx : x.manager.Sound) :
    y.session.cells = x.session.cells.applyAll (effectsTo x y) := (H.grows hx).cells

theorem Run.effectsTo_trans (H : Run admits x y) (H' : Run admits y z) (hx : x.manager.Sound) :
    effectsTo x z = effectsTo x y ++ effectsTo y z :=
  (H.grows hx).effectsTo_trans (H'.grows (H.sound hx))

theorem Run.eventsTo_trans (H : Run admits x y) (H' : Run admits y z) (hx : x.manager.Sound) :
    eventsTo x z = eventsTo x y ++ eventsTo y z :=
  (H.grows hx).eventsTo_trans (H'.grows (H.sound hx))

end Chronicle

/-! ## Effects of events -/

theorem heard_filterMap (f : Effect α → Option γ) (call : PendingCall α)
    (said : List Log.Notice) :
    (heard call said).filterMap f =
      (if call.isDelayed then (f .answered).toList else []) ++
        said.filterMap fun n => f (.noticed n) := by
  have h : [Effect.answered].filterMap f = (f .answered).toList := by
    cases hf : f .answered <;> simp [hf]
  unfold heard
  rw [List.filterMap_append, List.filterMap_map]
  split
  · rw [h]; rfl
  · rfl

/-- The effects that `f` picks come with the events of a task, each event with those that `g` gives
for it, and with nothing else. -/
structure Reports (p : Plan σ α β) (f : Effect α → Option γ) (g : Event α → List γ) : Prop where
  outside : ∀ e, e.isOutside = true → f e = none
  closing : (closing p.source.name).filterMap f = []
  moves : ∀ {now cells t ev t' effects}, Task.Moves p now cells t ev t' effects →
    effects.filterMap f = ev.toList.flatMap g

namespace Reports
open Chronicle

variable {p : Plan σ α β} {f : Effect α → Option γ} {g : Event α → List γ}

theorem filterMap_outside (R : Reports p f g) {es : List (Effect α)}
    (h : ∀ e ∈ es, e.isOutside = true) : es.filterMap f = [] :=
  List.filterMap_eq_nil_iff.2 fun e he => R.outside e (h e he)

/-- One move adds the effects of its event, if it has one, to what is done or yet to do. -/
theorem advance (R : Reports p f g) (hp : x.session.plan = p) (A : Advance admits x y) :
    (effectsTo x y ++ y.manager.taskAhead).filterMap f =
      x.manager.taskAhead.filterMap f ++ (eventsTo x y).flatMap g := by
  subst hp
  obtain ⟨es, ev, hh, hl, h⟩ : ∃ (es : List (Effect α)) (ev : Option (Event α)),
      y.session.history = (es.map (x.session.now, ·)).reverse ++ x.session.history ∧
      y.log = ev.toList.map (x.session.now, ·) ++ x.log ∧
      (es ++ y.manager.taskAhead).filterMap f =
        x.manager.taskAhead.filterMap f ++ ev.toList.flatMap g := by
    cases A with
    | @decide ev _ _ h H => exact ⟨[], ev, rfl, rfl, by simpa [h] using R.moves H⟩
    | @perform e _ h => exact ⟨[e], none, rfl, rfl, by simp [h]⟩
    | discard had h H =>
      refine ⟨[], none, rfl, rfl, ?_⟩
      cases H with
      | midway => simpa [h] using R.closing
      | _ => simp [h]
    | @others _ _ es H =>
      refine ⟨es, none, H.history.trans (Session.record_eq ..), rfl, ?_⟩
      simp [H.taskAhead, R.filterMap_outside H.outside]
    | tick had => exact ⟨[], none, rfl, rfl, by simp⟩
  rw [effectsTo_step hh, eventsTo_step hl]
  exact h

/-- What the task has done in a run and what it has yet to do are the effects of its events. -/
theorem effectsTo_append (R : Reports p f g) (hp : x.session.plan = p) (hx : x.manager.Sound)
    (H : Run admits x y) :
    (effectsTo x y ++ y.manager.taskAhead).filterMap f =
      x.manager.taskAhead.filterMap f ++ (eventsTo x y).flatMap g := by
  induction H with
  | refl => simp [effectsTo_self, eventsTo_self]
  | @tail y z H N ih =>
    have H : Run admits x y := H
    have A := N.advance (H.sound hx)
    have hstep := R.advance ((H.plan_eq hx).trans hp) A
    rw [H.effectsTo_trans (.single N) hx, H.eventsTo_trans (.single N) hx]
    simp only [List.filterMap_append, List.flatMap_append] at ih hstep ⊢
    rw [List.append_assoc, hstep, ← List.append_assoc, ih, List.append_assoc]

/-- What the task has yet to do is the rest of the effects of one event, if of any. -/
theorem ahead_suffix (R : Reports p f g) (hp : x.session.plan = p) (hx : x.manager.Sound)
    (hquiet : x.manager.taskAhead = []) (H : Run admits x y) :
    ∃ ev : Option (Event α), y.manager.taskAhead.filterMap f <:+ ev.toList.flatMap g := by
  refine (H.induct (P := fun y => y.session.plan = p ∧
    ∃ ev : Option (Event α), y.manager.taskAhead.filterMap f <:+ ev.toList.flatMap g)
    hx ⟨hp, none, by simp [hquiet]⟩ fun h A => ?_).2
  obtain ⟨hp, ev, hev⟩ := h
  refine ⟨A.grows.plan.trans hp, ?_⟩
  subst hp
  cases A with
  | @decide ev _ _ _ M => exact ⟨ev, R.moves M ▸ List.suffix_refl _⟩
  | @perform e _ h => exact ⟨ev, ((h ▸ List.suffix_cons e _).filterMap f).trans hev⟩
  | discard _ h D =>
    cases D with
    | early => exact ⟨none, List.suffix_refl _⟩
    | late => exact ⟨none, by simp⟩
    | midway => exact ⟨none, by simp [R.closing]⟩
  | others O => exact ⟨ev, O.taskAhead ▸ hev⟩
  | tick => exact ⟨ev, hev⟩

end Reports

end CredentialKeeper.Manager
