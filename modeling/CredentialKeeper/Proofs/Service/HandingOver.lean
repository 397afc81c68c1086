import CredentialKeeper.Proofs.Manager.Publication
import CredentialKeeper.Proofs.Service.Ending

/-! # What a start hands over

The managers are started one after the other, and each start returns with a manager that is live
(`Session.IsLive`): it runs, and its credential has not expired. Nobody looks at the first manager
again while the second one starts, however long that takes. So what the service's own start hands
over is live only in the manager that was started last; the other one was live once
(`StartedLive`), and holds a credential that had not expired when it was issued
(`Session.IsHandedOver`). -/

namespace CredentialKeeper

open Manager

variable {σ α β : Type}

/-! ## Honest sources -/

namespace Manager

/-- What the call issues has not expired when it is issued. -/
def Call.Honest (call : Call α) : Prop :=
  ∀ wall c said, call.reply wall = (.outcome (.ok c), said) →
    ∃ w ∈ wall, c.isExpired w = false

def Source.Honest (source : Source σ α) : Prop :=
  ∀ memory wall, (source.renew memory wall).1.Honest

/-- A call that a move begins is a call of the source. -/
theorem Task.Moves.calling {p : Plan σ α β} {now : Nat} {cells : Cells α} {t t' : Task σ α β}
    {ev : Option (Event α)} {es : List (Effect α)} (M : t.Moves p now cells ev t' es)
    {call : PendingCall α} (h : t'.phase = .renewing call) :
    call.call = (p.source.renew t.source (p.wall now)).1 := by
  cases M with
  | call _ _ hr =>
    cases h
    exact (congrArg Prod.fst hr).symm
  | _ => cases h

/-- A move keeps the credential or puts the answer of a call in its place. -/
theorem Task.Moves.current {p : Plan σ α β} {now : Nat} {cells : Cells α} {t t' : Task σ α β}
    {ev : Option (Event α)} {es : List (Effect α)} (M : t.Moves p now cells ev t' es) :
    (cells.applyAll es).current = cells.current ∨
      ∃ call c said, t.phase = .renewing call ∧
        call.call.reply (p.wall now) = (.outcome (.ok c), said) ∧
        (cells.applyAll es).current = c := by
  rw [Cells.current_applyAll]
  cases M with
  | succeed h _ _ hr =>
    refine .inr ⟨_, _, _, h, hr, ?_⟩
    simp [heard_filterMap, List.filterMap_cons, Effect.stored?, Effect.write?, Write.stored?]
  | _ =>
    refine .inl ?_
    simp [closing, heard_filterMap, List.filterMap_cons, Effect.stored?, Effect.write?]

end Manager

/-! ## A manager that is handed over -/

namespace Manager.Session

/-- The manager runs, and its credential has not expired. -/
structure IsLive (m : Session σ α β) (now : Nat) : Prop where
  clock : m.now = now
  running : m.cells.state = .running
  unexpired : ∃ w ∈ m.plan.wall now, m.cells.current.isExpired w = false

/-- The manager's credential had not expired when it was issued. -/
def IsIssued (m : Session σ α β) : Prop :=
  ∃ a ≤ m.now, ∃ w ∈ m.plan.wall a, m.cells.current.isExpired w = false

/-- The manager runs or its task has ended of its own accord, and its credential had not expired
when it was issued. -/
structure IsHandedOver (m : Session σ α β) (now : Nat) : Prop where
  clock : m.now = now
  running : m.cells.state = .running ∨
    m.cells.state = .stopped ∧ ∃ exit, m.task.phase = .ended exit ∧ exit.isOwn = true
  issued : m.IsIssued

/-- The manager's source is honest, and so is all that the manager has from it. -/
structure Sincere (m : Session σ α β) : Prop where
  source : m.plan.source.Honest
  calling : ∀ call, m.task.phase = .renewing call → call.call.Honest
  issued : m.IsIssued

variable {m m' : Session σ α β}

theorem Sincere.works {ev : Option (Event α)} {t : Task σ α β} {es : List (Effect α)}
    (S : m.Sincere) (M : m.task.Moves m.plan m.now m.cells ev t es) :
    (({ m with task := t }).perform es).Sincere := by
  refine ⟨S.source, fun call h => ?_, ?_⟩
  · rw [M.calling h]
    exact S.source _ _
  · obtain hkept | ⟨call, c, said, hphase, hreply, hc⟩ := M.current
    · obtain ⟨a, ha, w, hw, hunexpired⟩ := S.issued
      exact ⟨a, ha, w, hw, (congrArg (·.isExpired w) hkept).trans hunexpired⟩
    · obtain ⟨w, hw, hunexpired⟩ := S.calling call hphase _ _ _ hreply
      exact ⟨m.now, Nat.le_refl _, w, hw, (congrArg (·.isExpired w) hc).trans hunexpired⟩

theorem Sincere.waits {n : Nat} (S : m.Sincere) (h : m.now ≤ n) :
    ({ m with now := n } : Session σ α β).Sincere := by
  obtain ⟨a, ha, w, hw, hunexpired⟩ := S.issued
  exact ⟨S.source, S.calling, a, ha.trans h, w, hw, hunexpired⟩

/-- The manager of a credential that has just been issued is live. -/
theorem ofFirst_live {p : Plan σ α β} {now : Nat} {c : Credential α} {w : Moment} (source : σ)
    (backoff : β) (history : List (Nat × Effect α)) (hw : w ∈ p.wall now)
    (hc : c.isExpired w = false) : (ofFirst p now source backoff c history).IsLive now :=
  ⟨rfl, rfl, w, hw, hc⟩

theorem ofFirst_sincere {p : Plan σ α β} {now : Nat} {c : Credential α} {w : Moment} (source : σ)
    (backoff : β) (history : List (Nat × Effect α)) (hp : p.source.Honest)
    (hw : w ∈ p.wall now) (hc : c.isExpired w = false) :
    (ofFirst p now source backoff c history).Sincere := by
  have hphase : (ofFirst p now source backoff c history).task.phase = .spawned := rfl
  exact ⟨hp, by simp [hphase], now, Nat.le_refl _, w, hw, hc⟩

theorem Sincere.isHandedOver {now : Nat} (S : m.Sincere) (U : Service.Untouched m) (I : m.InStep)
    (h : m.now = now) : m.IsHandedOver now := by
  refine ⟨h, ?_, S.issued⟩
  cases hstate : m.cells.state with
  | starting => exact absurd hstate I.started
  | running => exact .inl rfl
  | stopped =>
    obtain ⟨exit, hexit⟩ := I.stopped.1 hstate
    exact .inr ⟨rfl, exit, hexit, U.own exit hexit⟩

end Manager.Session

/-! ## A gateway on its way up -/

namespace Service

/-- What the gateway's source issues has not expired when it is issued. -/
def Post.Honest (post : Post σ α β) : Prop :=
  ∀ now opening, post.prepare now = .ok opening → opening.plan.source.Honest

namespace Station

variable {st st' : Station σ α β} {now now' : Nat} {isMain : Prop}

/-- The gateway has such a manager. -/
def Holds (P : Session σ α β → Prop) (st : Station σ α β) : Prop := ∃ m, st = .manned m ∧ P m

def Sincere (now : Nat) : Station σ α β → Prop
  | .vacant => True
  | .idle post => post.Honest
  | .starting opening startup _ =>
    opening.plan.source.Honest ∧ ∀ call, startup.phase = .calling call → call.call.Honest
  | .manned m => m.now = now ∧ m.Sincere

@[simp] theorem isUp_setNow (st : Station σ α β) (n : Nat) : (st.setNow n).isUp = st.isUp := by
  cases st <;> rfl

@[simp] theorem isUp_change (st : Station σ α β) (f : σ → σ) : (st.change f).isUp = st.isUp := by
  cases st <;> rfl

theorem Raises.sincere (H : st.Raises now st') (S : st.Sincere now) :
    st'.Sincere now ∧ (st'.isUp = true → st'.Holds (·.IsLive now)) := by
  cases H with
  | @begins post opening startup history h hb =>
    have hsource := S now opening h
    refine ⟨⟨hsource, fun call hphase => ?_⟩, by simp [isUp]⟩
    subst hb
    cases hphase
    exact hsource _ _
  | @asks opening startup startup' history effects h =>
    obtain ⟨hsource, hcalling⟩ := S
    refine ⟨⟨hsource, fun call hphase => ?_⟩, by simp [isUp]⟩
    obtain ⟨ev, M⟩ := Startup.step_moves h
    cases M with
    | call _ _ hr =>
      cases hphase
      have hcall := hsource startup.source (opening.plan.wall now)
      rwa [hr] at hcall
    | _ => cases hphase
  | @hires opening startup startup' c history effects h hc =>
    obtain ⟨hsource, hcalling⟩ := S
    obtain ⟨w, hw, hunexpired⟩ :
        ∃ w ∈ opening.plan.wall now, c.isExpired w = false := by
      obtain ⟨ev, M⟩ := Startup.step_moves h
      cases M with
      | issue hphase _ hr =>
        cases hc
        exact hcalling _ hphase _ _ _ hr
      | _ => cases hc
    exact ⟨⟨rfl, Session.ofFirst_sincere _ _ _ hsource hw hunexpired⟩,
      fun _ => ⟨_, rfl, Session.ofFirst_live _ _ _ hw hunexpired⟩⟩

/-- What a move of a service that is on its way up does to a gateway while the clock goes from `now`
to `now'`. Only the service itself starts managers. -/
inductive Climbs (isMain : Prop) (now : Nat) : Nat → Station σ α β → Station σ α β → Prop
  | same (st : Station σ α β) : Climbs isMain now now st st
  | raises {st st' : Station σ α β} (hmain : isMain) (H : st.Raises now st') :
      Climbs isMain now now st st'
  | works {st st' : Station σ α β} (H : st.Works st') : Climbs isMain now now st st'
  | waits (nanos : Nat) (st : Station σ α β) :
      Climbs isMain now (now + nanos) st (st.setNow (now + nanos))
  | changes (f : σ → σ) (st : Station σ α β) : Climbs isMain now now st (st.change f)

theorem Climbs.sincere (H : st.Climbs isMain now now' st') (S : st.Sincere now) :
    st'.Sincere now' := by
  cases H with
  | same => exact S
  | raises _ H => exact (H.sincere S).1
  | works H =>
    cases H with
    | mk M => exact ⟨S.1, S.2.works M⟩
  | waits nanos =>
    cases st with
    | manned m => exact ⟨rfl, S.2.waits (S.1.le.trans (Nat.le_add_right ..))⟩
    | _ => exact S
  | changes =>
    cases st with
    | manned m => exact ⟨S.1, S.2.source, S.2.calling, S.2.issued⟩
    | _ => exact S

/-- A gateway comes up with a manager that is live. -/
theorem Climbs.live (H : st.Climbs isMain now now' st') (S : st.Sincere now)
    (hdown : st.isUp = false) (hup : st'.isUp = true) : isMain ∧ st'.Holds (·.IsLive now') := by
  cases H with
  | raises hmain H => exact ⟨hmain, (H.sincere S).2 hup⟩
  | works H =>
    cases H
    cases hdown
  | same => exact absurd hup (by simp [hdown])
  | waits => exact absurd hup (by simp [hdown])
  | changes => exact absurd hup (by simp [hdown])

theorem Climbs.of_vacant (H : vacant.Climbs isMain now now' st) : st = .vacant := by
  cases H with
  | raises _ H | works H => cases H
  | _ => rfl

theorem Sincere.isHandedOver {st : Station σ α β} {now : Nat} (S : st.Sincere now)
    (hup : st.isUp = true) (hne : st ≠ .vacant) (U : st.Each Untouched)
    (I : st.Each Session.InStep) : st.Holds (·.IsHandedOver now) := by
  cases st with
  | vacant => exact absurd rfl hne
  | manned m => exact ⟨m, rfl, S.2.isHandedOver U I S.1⟩
  | _ => cases hup

theorem stationOf_down {ρ : Type} (post : ρ → Post σ α β) (settings : Option ρ)
    (h : (stationOf post settings).isUp = true) : stationOf post settings = .vacant := by
  cases settings with
  | none => rfl
  | some => cases h

theorem sincere_stationOf {ρ : Type} {post : ρ → Post σ α β} {settings : Option ρ}
    (h : ∀ r ∈ settings, (post r).Honest) (now : Nat) :
    (stationOf post settings).Sincere now := by
  cases settings with
  | none => trivial
  | some r => exact h r rfl

end Station

/-! ## The service on its way up -/

variable {σ₁ α₁ β₁ σ₂ α₂ β₂ : Type} {start s t : Service σ₁ α₁ β₁ σ₂ α₂ β₂} {l : Label σ₁ σ₂}

namespace Moves

/-- A service that is on its way up has been so all the time. -/
theorem of_opening (M : s.Moves l t) (h : t.stage = .opening) : s.stage = .opening := by
  cases M with
  | raiseFirst hs | raiseSecond hs => exact hs
  | worksFirst | worksSecond | ticks | interrupted | changes => exact h
  | _ => cases h

theorem first_climbs (M : s.Moves l t) (h : t.stage = .opening) :
    s.first.Climbs (l = .main) s.now t.now t.first := by
  cases M with
  | raiseFirst _ H => exact .raises rfl H
  | raiseSecond | worksSecond | interrupted => exact .same _
  | worksFirst H => exact .works H
  | ticks nanos => exact .waits nanos _
  | changes f => exact .changes f _
  | _ => cases h

theorem second_climbs (M : s.Moves l t) (h : t.stage = .opening) :
    s.second.Climbs (l = .main) s.now t.now t.second := by
  cases M with
  | raiseSecond _ _ H => exact .raises rfl H
  | raiseFirst | worksFirst | interrupted => exact .same _
  | worksSecond H => exact .works H
  | ticks nanos => exact .waits nanos _
  | changes _ g => exact .changes g _
  | _ => cases h

theorem of_up (M : s.Moves l t) (hs : s.stage = .opening) (h : t.stage = .up) :
    s.first.isUp = true ∧ s.second.isUp = true ∧ t = { s with stage := .up } := by
  cases M with
  | rises _ hfirst hsecond => exact ⟨hfirst, hsecond, rfl⟩
  | raiseFirst | raiseSecond | worksFirst | worksSecond | ticks | interrupted | changes =>
    cases hs.symm.trans h
  | _ => cases h

end Moves

/-- The gateway's manager was live when its own start returned. -/
def StartedLive (start : Service σ₁ α₁ β₁ σ₂ α₂ β₂)
    (gateway : Service σ₁ α₁ β₁ σ₂ α₂ β₂ → Station σ α β) (s : Service σ₁ α₁ β₁ σ₂ α₂ β₂) :
    Prop :=
  ∃ r u notices, Run start r ∧ (gateway r).isUp = false ∧ r.step .main = some (u, notices) ∧
    (gateway u).Holds (·.IsLive u.now) ∧ Run u s

section
variable {gateway : Service σ₁ α₁ β₁ σ₂ α₂ β₂ → Station σ α β}
  (hclimbs : ∀ {s t : Service σ₁ α₁ β₁ σ₂ α₂ β₂} {l : Label σ₁ σ₂}, s.Moves l t →
    t.stage = .opening → (gateway s).Climbs (l = .main) s.now t.now (gateway t))
include hclimbs

theorem Run.sincere (R : Run start s) (S : (gateway start).Sincere start.now)
    (h : s.stage = .opening) : (gateway s).Sincere s.now := by
  refine R.induct (P := fun s => s.stage = .opening → (gateway s).Sincere s.now) (fun _ => S)
    (fun {u v l} ih M hv => ?_) h
  exact (hclimbs M hv).sincere (ih (M.of_opening hv))

/-- By induction on the run, with the move that brings the gateway up as the case that matters. -/
theorem Run.startedLive (R : Run start s) (S : (gateway start).Sincere start.now)
    (hdown : (gateway start).isUp = true → gateway start = .vacant) (h : s.stage = .opening)
    (hup : (gateway s).isUp = true) : gateway s = .vacant ∨ StartedLive start gateway s := by
  induction R with
  | refl => exact .inl (hdown hup)
  | @tail t u R N ih =>
    obtain ⟨l, notices, hstep⟩ := id N
    have M := step_moves hstep
    have ht := M.of_opening h
    cases hupt : (gateway t).isUp with
    | true =>
      obtain hvacant | ⟨r, v, said, hr, hdown, hv, hlive, hrun⟩ := ih ht hupt
      · exact .inl (Station.Climbs.of_vacant (hvacant ▸ hclimbs M h))
      · exact .inr ⟨r, v, said, hr, hdown, hv, hlive, hrun.tail N⟩
    | false =>
      obtain ⟨rfl, hlive⟩ := (hclimbs M h).live (Run.sincere hclimbs R S ht) hupt hup
      exact .inr ⟨t, u, notices, R, hupt, hstep, hlive, .refl⟩

theorem Run.handsOver (R : Run start s) (S : (gateway start).Sincere start.now)
    (hdown : (gateway start).isUp = true → gateway start = .vacant) (h : s.stage = .opening)
    (hup : (gateway s).isUp = true) (hne : gateway s ≠ .vacant)
    (U : (gateway s).Each Untouched) (I : (gateway s).Each Session.InStep) :
    (gateway s).Holds (·.IsHandedOver s.now) ∧ StartedLive start gateway s :=
  ⟨(Run.sincere hclimbs R S h).isHandedOver hup hne U I,
    (Run.startedLive hclimbs R S hdown h hup).resolve_left hne⟩

/-- A move of the service itself that brings the gateway up leaves it with a live manager. -/
theorem Run.live {r : Service σ₁ α₁ β₁ σ₂ α₂ β₂} {notices : List Log.Notice} (R : Run start r)
    (S : (gateway start).Sincere start.now) (hstep : r.step .main = some (s, notices))
    (h : s.stage = .opening) (hdown : (gateway r).isUp = false) (hup : (gateway s).isUp = true) :
    (gateway s).Holds (·.IsLive s.now) := by
  have M := step_moves hstep
  exact ((hclimbs M h).live (Run.sincere hclimbs R S (M.of_opening h)) hdown hup).2

end

/-! ## Played gateways -/

theorem issued_unexpired {α : Type} {secret : α} {ms : Int} {now : Moment} {c : Credential α}
    (hms : 0 < ms) (h : Speech.issued secret (.forMillis ms) now = .outcome (.ok c)) :
    c.isExpired now = false := by
  simp only [Speech.issued, Moment.ofNanos?] at h
  split at h
  next expiresAt hexpires =>
    cases h
    obtain ⟨_, heq⟩ := Option.dite_none_right_eq_some.1 hexpires
    cases heq
    simp only [Credential.isExpired, decide_eq_false_iff_not, Moment.le_def]
    omega
  next => cases h

/-- What the script issues lasts for some time. -/
def Lasts {α : Type} (line : Nat → Line α) : Prop :=
  ∀ n secret lifetime, (line n).speech = .issue secret lifetime →
    ∃ ms > 0, lifetime = .forMillis ms

theorem played_honest {α : Type} {name : String} {line : Nat → Line α} (h : Lasts line) :
    (played name line).Honest := by
  intro n wall wall' c said hreply
  have hreply : (line n).speech.reply wall' = .outcome (.ok c) := (Prod.mk.inj hreply).1
  cases hspeech : (line n).speech with
  | issue secret lifetime =>
    obtain ⟨ms, hms, rfl⟩ := h n secret lifetime hspeech
    rw [hspeech] at hreply
    cases wall' with
    | none => cases hreply
    | some w => exact ⟨w, rfl, issued_unexpired hms hreply⟩
  | _ =>
    rw [hspeech] at hreply
    cases hreply

theorem playedPost_honest {name : String} {settings : Refresh.Settings} {line : Nat → Line Nat}
    (h : Lasts line) : (playedPost name settings line).Honest := by
  intro now opening hopening
  cases hopening
  exact played_honest h

/-- Both gateways are up. -/
def isReady (s : Service σ₁ α₁ β₁ σ₂ α₂ β₂) : Bool := s.first.isUp && s.second.isUp

theorem step_of_isReady (hs : s.stage = .opening) (h : s.isReady = true) :
    s.step .main = some ({ s with stage := .up }, []) := by
  obtain ⟨hfirst, hsecond⟩ := Bool.and_eq_true_iff.1 h
  simp [step, hs, openMove, hfirst, hsecond]

theorem exists_up {P : Nat → Session σ₁ α₁ β₁ → Prop} (R : Run start s) (hs : s.stage = .opening)
    (h : s.isReady = true) (hP : s.first.Holds (P s.now)) :
    ∃ t notices, Run start s ∧ s.stage = .opening ∧ s.step .main = some (t, notices) ∧
      t.stage = .up ∧ t.first.Holds (P t.now) :=
  ⟨_, _, R, hs, step_of_isReady hs h, rfl, hP⟩

theorem Station.holds_of_any {st : Station σ α β} {P : Session σ α β → Prop} [DecidablePred P]
    (h : st.session?.any (fun m => decide (P m)) = true) : st.Holds P := by
  cases st with
  | manned m => exact ⟨m, rfl, of_decide_eq_true h⟩
  | _ => cases h

/-! ## What the start hands over -/

/-- **A start hands over managers that were live when they were started, and the last one is live.**
This holds of all runs of a start whose sources issue nothing that has expired by then. Once the
start returns, each gateway that is served has a manager. It runs, or its task has ended of its own
accord since; its credential had not expired when it was issued; and when its own start returned, it
ran and its credential had not expired. That is still so for the manager whose start has returned
last, if nothing has come in between. -/
theorem start_hands_over {ρ₁ ρ₂ : Type} {post₁ : ρ₁ → Post σ₁ α₁ β₁} {post₂ : ρ₂ → Post σ₂ α₂ β₂}
    {apns : Option ρ₁} {fcm : Option ρ₂} {notices : List Log.Notice}
    (hstart : start = before (stationOf post₁ apns) (stationOf post₂ fcm))
    (honest₁ : ∀ r ∈ apns, (post₁ r).Honest) (honest₂ : ∀ r ∈ fcm, (post₂ r).Honest)
    (R : Run start s) (hs : s.stage = .opening) (h : s.step .main = some (t, notices))
    (ht : t.stage = .up) :
    (apns.isSome → t.first.Holds (·.IsHandedOver t.now) ∧ StartedLive start Service.first s) ∧
    (fcm.isSome → t.second.Holds (·.IsHandedOver t.now) ∧ StartedLive start Service.second s) ∧
    ∀ r said, Run start r → r.step .main = some (s, said) →
      (r.first.isUp = false → t.first.Holds (·.IsLive t.now)) ∧
      (r.second.isUp = false → t.second.Holds (·.IsLive t.now)) := by
  obtain ⟨hup₁, hup₂, rfl⟩ := (step_moves h).of_up hs ht
  obtain ⟨-, U₁, U₂⟩ := (hstart ▸ before_rising .. : start.Rising).of_opening R hs
  obtain ⟨I₁, I₂⟩ := (hstart ▸ before_inStep .. : start.InStep).run R
  have S₁ : start.first.Sincere start.now := hstart ▸ Station.sincere_stationOf honest₁ _
  have S₂ : start.second.Sincere start.now := hstart ▸ Station.sincere_stationOf honest₂ _
  have down₁ : start.first.isUp = true → start.first = .vacant :=
    hstart ▸ Station.stationOf_down _ _
  have down₂ : start.second.isUp = true → start.second = .vacant :=
    hstart ▸ Station.stationOf_down _ _
  have hvacant₁ : s.first = .vacant ↔ apns = none :=
    R.vacant_iff.1.trans (hstart ▸ stationOf_vacant ..)
  have hvacant₂ : s.second = .vacant ↔ fcm = none :=
    R.vacant_iff.2.trans (hstart ▸ stationOf_vacant ..)
  refine ⟨fun hsome => ?_, fun hsome => ?_,
    fun r said hr hstep => ⟨fun hdown => ?_, fun hdown => ?_⟩⟩
  · have hne : s.first ≠ .vacant := fun hv => by simp [hvacant₁.1 hv] at hsome
    exact R.handsOver Moves.first_climbs S₁ down₁ hs hup₁ hne U₁ I₁
  · have hne : s.second ≠ .vacant := fun hv => by simp [hvacant₂.1 hv] at hsome
    exact R.handsOver Moves.second_climbs S₂ down₂ hs hup₂ hne U₂ I₂
  · show s.first.Holds (·.IsLive s.now)
    exact hr.live Moves.first_climbs S₁ hstep hs hdown hup₁
  · show s.second.Holds (·.IsLive s.now)
    exact hr.live Moves.second_climbs S₂ hstep hs hdown hup₂

/-- The second gateway does not answer before the fourth call. -/
def lateLine (n : Nat) : Line Nat :=
  if n < 3 then ⟨.never, .fail ⟨.timeout, "mute"⟩⟩ else ⟨.atOnce, .issue 8 (.forMillis 3600000)⟩

def latePost : Post Nat Nat Waits := playedPost "late" .forAccessTokens lateLine

theorem solePost_honest {lasts : Int} (h : 0 < lasts) (most : Option Nat) :
    (solePost lasts most).Honest := by
  refine playedPost_honest fun n secret lifetime hspeech => ?_
  unfold soleLine at hspeech
  split at hspeech
  next =>
    cases hspeech
    exact ⟨lasts, h, rfl⟩
  next => cases hspeech

theorem latePost_honest : latePost.Honest := by
  refine playedPost_honest fun n secret lifetime hspeech => ?_
  unfold lateLine at hspeech
  split at hspeech
  next => cases hspeech
  next =>
    cases hspeech
    exact ⟨3600000, by decide, rfl⟩

abbrev unequal (lasts : Int) (most : Option Nat) : Service Nat Nat Waits Nat Nat Waits :=
  before (stationOf id (some (solePost lasts most))) (stationOf id (some latePost))

/-- The start of both gateways just before it returns. -/
def ready (lasts : Int) (most : Option Nat) : Service Nat Nat Waits Nat Nat Waits :=
  (run ⟨millis 100000, false⟩ isReady 60 (unequal lasts most) []).1

theorem ready_run (lasts : Int) (most : Option Nat) : Run (unequal lasts most) (ready lasts most) :=
  run_run ..

/-- The second gateway's answer is there, and its manager is about to be started. -/
def answered : Service Nat Nat Waits Nat Nat Waits :=
  (run ⟨millis 100000, false⟩ isReady 47 (unequal 3600000 none) []).1

theorem late_manager_live : ∃ s t said notices, answered.step .main = some (s, said) ∧
    s.step .main = some (t, notices) ∧ t.stage = .up ∧ t.first.Holds (·.IsHandedOver t.now) ∧
    StartedLive (unequal 3600000 none) Service.first s ∧ t.second.Holds (·.IsLive t.now) := by
  have hmain : (answered.step .main).map (fun r => (r.1.stage, r.1.isReady)) =
      some (.opening, true) := by decide +kernel
  obtain ⟨⟨s, said⟩, hs, heq⟩ := Option.map_eq_some_iff.1 hmain
  obtain ⟨hopening, hready⟩ := Prod.mk.inj heq
  have R : Run (unequal 3600000 none) answered := run_run ..
  have hup := step_of_isReady hopening hready
  obtain ⟨hfirst, -, hlast⟩ := start_hands_over rfl
    (fun r hr => Option.mem_some.1 hr ▸ solePost_honest (by decide) none)
    (fun r hr => Option.mem_some.1 hr ▸ latePost_honest) (R.tail ⟨_, _, hs⟩) hopening hup rfl
  obtain ⟨hholds, hstarted⟩ := hfirst rfl
  have hdown : answered.second.isUp = false := by decide +kernel
  exact ⟨s, _, said, [], hs, hup, rfl, hholds, hstarted, (hlast _ _ R hs).2 hdown⟩

/-- What a start hands over may have expired, and a manager may have stopped: the second gateway
answers after 96 seconds, and by then the first one's only credential has expired, or its manager
has given up. -/
theorem handed_over_expired_or_stopped :
    (∀ lasts > 0, ∀ most, (solePost lasts most).Honest) ∧ latePost.Honest ∧
    (∃ s t notices, Run (unequal 90000 none) s ∧ s.stage = .opening ∧
      s.step .main = some (t, notices) ∧ t.stage = .up ∧
      t.first.Holds fun m => m.now = t.now ∧ m.cells.state = .running ∧
        ∃ w ∈ m.plan.wall t.now, m.cells.current.isExpired w = true) ∧
    ∃ s t notices, Run (unequal 3600000 (some 1)) s ∧ s.stage = .opening ∧
      s.step .main = some (t, notices) ∧ t.stage = .up ∧
      t.first.Holds fun m => m.now = t.now ∧ m.cells.state = .stopped ∧
        ∃ w ∈ m.plan.wall t.now, m.cells.current.isExpired w = false := by
  refine ⟨fun lasts h most => solePost_honest h most, latePost_honest,
    ⟨ready 90000 none, exists_up (P := fun now m => m.now = now ∧ m.cells.state = .running ∧
      ∃ w ∈ m.plan.wall now, m.cells.current.isExpired w = true) (ready_run ..) ?_ ?_ ?_⟩,
    ⟨ready 3600000 (some 1), exists_up (P := fun now m => m.now = now ∧ m.cells.state = .stopped ∧
      ∃ w ∈ m.plan.wall now, m.cells.current.isExpired w = false) (ready_run ..) ?_ ?_ ?_⟩⟩
  · decide +kernel
  · decide +kernel
  · exact Station.holds_of_any (by decide +kernel)
  · decide +kernel
  · decide +kernel
  · exact Station.holds_of_any (by decide +kernel)

end Service

end CredentialKeeper
