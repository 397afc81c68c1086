import CredentialKeeper.Proofs.Manager.Courses
import Mathlib.Data.List.Induction

/-! # Publication is ordered, lossless and whole

The credentials of a run are numbered in the order in which the task receives them, from the one
that start obtained (`Chronicle.credentials`). The task writes each of them to two cells, first to
the one for readers and then to the one for subscribers. At any point of any run the writes done and
those to come are all these writes in their order (`Chronicle.Begins.writes_eq`), so the cells hold
credentials of the run whose numbers differ by one at most (`Chronicle.Numbered`).

Where a task breaks off, the cells keep what they have (`Chronicle.Unwritten`). The strategy is
reset between the two writes (`Chronicle.Begins.betweenWrites_of_resetting`), so one that breaks off
there leaves the last credential stored and unpublished. -/

namespace CredentialKeeper.Manager

variable {σ α β : Type}

/-! ## Writes -/

/-- A write to the cell that readers look at or to the one that subscribers look at. -/
inductive Write (α : Type) where
  | store (c : Credential α)
  | publish (c : Credential α)

namespace Write

def stored? : Write α → Option (Credential α)
  | store c => some c
  | publish _ => none

def published? : Write α → Option (Credential α)
  | store _ => none
  | publish c => some c

def pair (c : Credential α) : List (Write α) := [store c, publish c]

/-- A prefix of the writes of some credentials stores so many of them and publishes as many, or one
fewer. -/
theorem prefix_pairs {cs : List (Credential α)} {ws : List (Write α)}
    (h : ws <+: cs.flatMap pair) :
    ∃ n m, ws.filterMap stored? = cs.take n ∧ ws.filterMap published? = cs.take m ∧
      m ≤ n ∧ n ≤ m + 1 ∧ n ≤ cs.length := by
  induction cs generalizing ws with
  | nil =>
    have : ws = [] := List.prefix_nil.1 h
    exact ⟨0, 0, by simp [this], by simp [this], by simp⟩
  | cons c cs ih =>
    match ws with
    | [] => exact ⟨0, 0, by simp⟩
    | [w] =>
      obtain ⟨rfl, -⟩ := List.cons_prefix_cons.1 h
      exact ⟨1, 0, by simp [stored?], by simp [published?], by simp⟩
    | w :: w' :: ws =>
      have hws : w :: w' :: ws <+: store c :: publish c :: cs.flatMap pair := h
      rw [List.cons_prefix_cons, List.cons_prefix_cons] at hws
      obtain ⟨rfl, rfl, hws⟩ := hws
      obtain ⟨n, m, hn, hm, h1, h2, h3⟩ := ih hws
      refine ⟨n + 1, m + 1, ?_, ?_, by omega, by omega, by simpa using h3⟩
      · simpa [List.filterMap_cons, stored?] using hn
      · simpa [List.filterMap_cons, published?] using hm

theorem filterMap_stored_pairs (cs : List (Credential α)) :
    (cs.flatMap pair).filterMap stored? = cs := by
  induction cs with
  | nil => rfl
  | cons c cs ih => simpa [pair, List.filterMap_cons, stored?] using ih

theorem filterMap_published_pairs (cs : List (Credential α)) :
    (cs.flatMap pair).filterMap published? = cs := by
  induction cs with
  | nil => rfl
  | cons c cs ih => simpa [pair, List.filterMap_cons, published?] using ih

end Write

namespace Effect

def write? : Effect α → Option (Write α)
  | .stored c => some (.store c)
  | .published c => some (.publish c)
  | _ => none

def stored? (e : Effect α) : Option (Credential α) := e.write?.bind Write.stored?

def published? (e : Effect α) : Option (Credential α) := e.write?.bind Write.published?

theorem filterMap_stored_eq_nil {es : List (Effect α)} (h : es.filterMap write? = []) :
    es.filterMap stored? = [] := List.filterMap_filterMap.symm.trans (by rw [h]; rfl)

theorem filterMap_published_eq_nil {es : List (Effect α)} (h : es.filterMap write? = []) :
    es.filterMap published? = [] := List.filterMap_filterMap.symm.trans (by rw [h]; rfl)

end Effect

def Event.writes (e : Event α) : List (Write α) := e.success?.toList.flatMap Write.pair

/-- The writes, and as `none` the reset of the strategy. -/
def Effect.turn? : Effect α → Option (Option (Write α))
  | .backoffReset => some none
  | e => e.write?.map some

theorem Effect.stored?_eq (e : Effect α) : e.stored? = e.turn?.bind (·.bind Write.stored?) := by
  cases e <;> rfl

theorem Effect.published?_eq (e : Effect α) :
    e.published? = e.turn?.bind (·.bind Write.published?) := by
  cases e <;> rfl

def Event.turns (e : Event α) : List (Option (Write α)) :=
  e.success?.toList.flatMap fun c => [some (.store c), none, some (.publish c)]

theorem writes_reports (p : Plan σ α β) : Reports p Effect.write? Event.writes where
  outside e h := by
    cases e with
    | stored c => cases h
    | published c => cases h
    | _ => rfl
  closing := rfl
  moves H := by
    cases H <;>
      simp [closing, heard_filterMap, List.filterMap_cons, Effect.write?, Event.writes,
        Event.success?, Write.pair]

theorem turns_reports (p : Plan σ α β) : Reports p Effect.turn? Event.turns where
  outside e h := by
    cases e with
    | stored c => cases h
    | published c => cases h
    | backoffReset => cases h
    | _ => rfl
  closing := rfl
  moves H := by
    cases H <;>
      simp [closing, heard_filterMap, List.filterMap_cons, Effect.turn?, Effect.write?,
        Event.turns, Event.success?]

/-! ## The cells after some effects -/

namespace Cells

theorem applyAll_concat (cells : Cells α) (es : List (Effect α)) (e : Effect α) :
    cells.applyAll (es ++ [e]) = (cells.applyAll es).apply e := applyAll_append ..

theorem current_apply (cells : Cells α) (e : Effect α) :
    (cells.apply e).current = e.stored?.getD cells.current := by
  cases e with
  | markedRunning => simp only [apply]; split <;> rfl
  | _ => rfl

theorem published_apply (cells : Cells α) (e : Effect α) :
    (cells.apply e).published = e.published?.getD cells.published := by
  cases e with
  | markedRunning => simp only [apply]; split <;> rfl
  | _ => rfl

theorem publications_apply (cells : Cells α) (e : Effect α) :
    (cells.apply e).publications = cells.publications + e.published?.toList.length := by
  cases e with
  | markedRunning => simp only [apply]; split <;> rfl
  | _ => rfl

theorem current_applyAll (cells : Cells α) (es : List (Effect α)) :
    (cells.applyAll es).current = (es.filterMap Effect.stored?).getLast?.getD cells.current := by
  induction es using List.reverseRecOn with
  | nil => rfl
  | append_singleton es e ih =>
    rw [applyAll_concat, current_apply, ih, List.filterMap_append, List.filterMap_cons]
    cases e.stored? <;> simp

theorem published_applyAll (cells : Cells α) (es : List (Effect α)) :
    (cells.applyAll es).published =
      (es.filterMap Effect.published?).getLast?.getD cells.published := by
  induction es using List.reverseRecOn with
  | nil => rfl
  | append_singleton es e ih =>
    rw [applyAll_concat, published_apply, ih, List.filterMap_append, List.filterMap_cons]
    cases e.published? <;> simp

theorem publications_applyAll (cells : Cells α) (es : List (Effect α)) :
    (cells.applyAll es).publications =
      cells.publications + (es.filterMap Effect.published?).length := by
  induction es using List.reverseRecOn with
  | nil => rfl
  | append_singleton es e ih =>
    rw [applyAll_concat, publications_apply, ih, List.filterMap_append, List.filterMap_cons]
    cases e.published? <;> simp [Nat.add_assoc]

end Cells

theorem Interleaving.Beside.current_eq {s u : Interleaving σ α β} {es : List (Effect α)}
    (O : s.Beside u es) : u.session.cells.current = s.session.cells.current ∧
      u.session.cells.published = s.session.cells.published := by
  have hwrites : es.filterMap Effect.write? = [] :=
    (writes_reports s.session.plan).filterMap_outside O.outside
  rw [O.cells, Cells.current_applyAll, Cells.published_applyAll,
    Effect.filterMap_stored_eq_nil hwrites, Effect.filterMap_published_eq_nil hwrites]
  exact ⟨rfl, rfl⟩

/-! ## The credentials of a run -/

namespace Chronicle
open Interleaving

variable {admits : Discipline σ α β} {x y : Chronicle σ α β}

/-- The credentials of a run in the order in which they came, the one of the start first. -/
def credentials (x : Chronicle σ α β) : List (Credential α) :=
  (x.log.map Prod.snd).reverse.filterMap Event.success?

theorem credentials_decided (x : Chronicle σ α β) (ev : Option (Event α)) (t : Task σ α β)
    (es : List (Effect α)) :
    (x.decided ev t es).credentials = x.credentials ++ (ev.bind Event.success?).toList := by
  rw [credentials, List.map_append, List.reverse_append, List.filterMap_append, ← credentials]
  cases ev with
  | none => rfl
  | some e =>
    cases h : e.success? with
    | none => simp [h]
    | some c => simp [h]

/-- The task waits, renews or has ended, or it has done all of its last move. -/
def Settled (x : Chronicle σ α β) : Prop :=
  x.session.task.phase ≠ .planning ∨ x.manager.taskAhead = []

def storesTo (x y : Chronicle σ α β) : Nat := ((effectsTo x y).filterMap Effect.stored?).length

theorem Grows.credentials_eq (H : Grows x y) :
    y.credentials = x.credentials ++ (eventsTo x y).filterMap Event.success? := by
  obtain ⟨new, hl⟩ := H.log
  rw [eventsTo_eq hl]
  simp [credentials, hl]

theorem flatMap_writes (evs : List (Event α)) :
    evs.flatMap Event.writes = (evs.filterMap Event.success?).flatMap Write.pair := by
  induction evs with
  | nil => rfl
  | cons e evs ih =>
    rw [List.flatMap_cons, ih, List.filterMap_cons, Event.writes]
    cases e.success? <;> simp

/-- The credential with the number `n` is the last of those up to it. -/
theorem getElem?_cons_of_take {c : Credential α} {cs : List (Credential α)} {n : Nat}
    (h : n ≤ cs.length) : (c :: cs)[n]? = some ((cs.take n).getLast?.getD c) := by
  cases n with
  | zero => rfl
  | succ n =>
    have h : n < cs.length := h
    simp [List.getLast?_take, h]

/-- The writes from `start` to `x` in terms of the credentials that the run has brought. -/
structure Numbered (start x : Chronicle σ α β) : Prop where
  stored : (effectsTo start x).filterMap Effect.stored? =
    x.credentials.tail.take (storesTo start x)
  published : (effectsTo start x).filterMap Effect.published? =
    x.credentials.tail.take x.session.cells.publications
  publications_le : x.session.cells.publications ≤ storesTo start x
  storesTo_le : storesTo start x ≤ x.session.cells.publications + 1
  storesTo_lt : storesTo start x < x.credentials.length
  /-- A task with no write ahead has published all credentials. -/
  settled : x.manager.taskAhead.filterMap Effect.write? = [] →
    x.credentials.length = x.session.cells.publications + 1

/-- A chronicle that begins with one credential in both cells and nothing to do. -/
structure Begins (start : Chronicle σ α β) (c : Credential α) : Prop where
  sound : start.manager.Sound
  taskAhead : start.manager.taskAhead = []
  credentials : start.credentials = [c]
  current : start.session.cells.current = c
  published : start.session.cells.published = c
  publications : start.session.cells.publications = 0

theorem launched_begins (p : Plan σ α β) (now : Nat) (source : σ) (backoff : β) (c : Credential α)
    (history : List (Nat × Effect α)) : (launched p now source backoff c history).Begins c :=
  ⟨ofFirst_sound p now source backoff c history, rfl, rfl, rfl, rfl, rfl⟩

namespace Begins

variable {start : Chronicle σ α β} {c : Credential α}

/-- The writes that a run has done and those that its task has yet to do are those of its
credentials. -/
theorem writes_eq (B : start.Begins c) (H : Run admits start x) :
    x.credentials = c :: x.credentials.tail ∧
      (effectsTo start x).filterMap Effect.write? ++
        x.manager.taskAhead.filterMap Effect.write? = x.credentials.tail.flatMap Write.pair := by
  have hc := (H.grows B.sound).credentials_eq
  have hw := (writes_reports start.session.plan).effectsTo_append rfl B.sound H
  rw [flatMap_writes, B.taskAhead, List.filterMap_append] at hw
  rw [B.credentials] at hc
  rw [hc]
  exact ⟨rfl, hw⟩

theorem numbered (B : start.Begins c) (H : Run admits start x) : Numbered start x := by
  obtain ⟨hc, hw⟩ := B.writes_eq H
  obtain ⟨n, m, hn, hm, h1, h2, h3⟩ := Write.prefix_pairs ⟨_, hw⟩
  rw [List.filterMap_filterMap] at hn hm
  have hn : (effectsTo start x).filterMap Effect.stored? = x.credentials.tail.take n := hn
  have hm : (effectsTo start x).filterMap Effect.published? = x.credentials.tail.take m := hm
  have hn' : storesTo start x = n := by
    rw [storesTo, hn, List.length_take_of_le h3]
  have hm' : x.session.cells.publications = m := by
    rw [H.cells_eq B.sound, Cells.publications_applyAll, B.publications, hm,
      List.length_take_of_le (Nat.le_trans h1 h3), Nat.zero_add]
  have hlen : x.credentials.length = x.credentials.tail.length + 1 := by rw [hc]; simp
  refine ⟨hn' ▸ hn, hm' ▸ hm, by omega, by omega, by omega, fun h => ?_⟩
  -- nothing is ahead, so the writes done are all of them
  rw [h, List.append_nil] at hw
  have hall := congrArg (List.filterMap Write.published?) hw
  rw [Write.filterMap_published_pairs, List.filterMap_filterMap] at hall
  have hall : (effectsTo start x).filterMap Effect.published? = x.credentials.tail := hall
  have : (x.credentials.tail.take m).length = x.credentials.tail.length := by rw [← hm, hall]
  rw [List.length_take] at this
  omega

theorem current_eq (B : start.Begins c) (H : Run admits start x) :
    x.credentials[storesTo start x]? = some x.session.cells.current := by
  have N := B.numbered H
  obtain ⟨hc, -⟩ := B.writes_eq H
  have hlt := N.storesTo_lt
  rw [H.cells_eq B.sound, Cells.current_applyAll, N.stored, B.current, hc]
  rw [hc] at hlt
  exact getElem?_cons_of_take (Nat.le_of_lt_succ hlt)

theorem published_eq (B : start.Begins c) (H : Run admits start x) :
    x.credentials[x.session.cells.publications]? = some x.session.cells.published := by
  have N := B.numbered H
  obtain ⟨hc, -⟩ := B.writes_eq H
  have hlt := Nat.lt_of_le_of_lt N.publications_le N.storesTo_lt
  have hp : x.session.cells.published =
      (x.credentials.tail.take x.session.cells.publications).getLast?.getD c := by
    rw [← N.published, ← B.published, ← Cells.published_applyAll, ← H.cells_eq B.sound]
  rw [hp, hc]
  rw [hc] at hlt
  exact getElem?_cons_of_take (Nat.le_of_lt_succ hlt)

/-- What a settled task has yet to do writes no credential. -/
theorem writesAhead_eq_nil (B : start.Begins c) (H : Run admits start x) (h : x.Settled) :
    x.manager.taskAhead.filterMap Effect.write? = [] := by
  refine h.elim ?_ fun h => by rw [h]; rfl
  refine H.induct (P := fun x => x.session.task.phase ≠ .planning →
    x.manager.taskAhead.filterMap Effect.write? = []) B.sound (fun _ => by rw [B.taskAhead]; rfl) ?_
  intro y z ih A hz
  have R := writes_reports y.session.plan
  cases A with
  | decide _ M =>
    -- only a credential has writes, and a task that has one is about to plan
    refine (R.moves M).trans ?_
    cases M with
    | succeed => exact absurd rfl hz
    | _ => rfl
  | perform h =>
    have := ih hz
    rw [h, List.filterMap_eq_nil_iff] at this
    exact List.filterMap_eq_nil_iff.2 fun e he => this e (.tail _ he)
  | discard _ _ D =>
    cases D with
    | midway => exact R.closing
    | _ => rfl
  | others O =>
    rw [O.taskAhead]
    exact ih (O.task ▸ hz)
  | tick => exact ih hz

end Begins

/-! ## Readers and subscribers -/

theorem Grows.storesTo_trans {start : Chronicle σ α β} (hx : Grows start x) (hy : Grows x y) :
    storesTo start y = storesTo start x + storesTo x y := by
  simp [storesTo, hx.effectsTo_trans hy]

theorem Grows.publications_eq (H : Grows x y) :
    y.session.cells.publications =
      x.session.cells.publications + ((effectsTo x y).filterMap Effect.published?).length := by
  rw [H.cells, Cells.publications_applyAll]

theorem mem_filterMap_published {es : List (Effect α)} {c : Credential α} :
    c ∈ es.filterMap Effect.published? ↔ .published c ∈ es := by
  rw [List.mem_filterMap]
  constructor
  · rintro ⟨e, he, h⟩
    cases e with
    | published c' => cases h; exact he
    | _ => cases h
  · exact fun h => ⟨_, h, rfl⟩

theorem mem_filterMap_stored {es : List (Effect α)} {c : Credential α} :
    c ∈ es.filterMap Effect.stored? ↔ .stored c ∈ es := by
  rw [List.mem_filterMap]
  constructor
  · rintro ⟨e, he, h⟩
    cases e with
    | stored c' => cases h; exact he
    | _ => cases h
  · exact fun h => ⟨_, h, rfl⟩

/-- A receiver that has marked all publications by `x` as seen is changed at `y` just if there was
one in between. -/
theorem Grows.hasChanged_iff (H : Grows x y) :
    { y.session with seen := x.session.subscribe.seen }.hasChanged = true ↔
      ∃ c, .published c ∈ effectsTo x y := by
  have h := H.publications_eq
  have hmem : (∃ c, Effect.published c ∈ effectsTo x y) ↔
      0 < ((effectsTo x y).filterMap Effect.published?).length := by
    simp only [← mem_filterMap_published, List.length_pos_iff_exists_mem]
  have hdec : { y.session with seen := x.session.subscribe.seen }.hasChanged = true ↔
      x.session.cells.publications < y.session.cells.publications := decide_eq_true_iff
  rw [hmem, hdec]
  omega

namespace Begins

variable {start : Chronicle σ α β} {c : Credential α}

theorem getLast?_credentials (B : start.Begins c) (H : Run admits start x) (h : x.Settled) :
    x.credentials.getLast? = some x.session.cells.current := by
  have N := B.numbered H
  have hset := N.settled (B.writesAhead_eq_nil H h)
  have h1 := N.publications_le
  have h3 := N.storesTo_lt
  rw [List.getLast?_eq_getElem?, show x.credentials.length - 1 = storesTo start x by omega]
  exact B.current_eq H

/-- No number is left for another credential until the next success. -/
theorem eq_of_settled (B : start.Begins c) (hx : Run admits start x) (hy : Run admits x y)
    (h : x.Settled) (hc : y.credentials = x.credentials) :
    y.session.cells.current = x.session.cells.current ∧
      y.session.cells.published = x.session.cells.published := by
  have N := B.numbered hx
  have N' := B.numbered (hx.trans hy)
  have hset := N.settled (B.writesAhead_eq_nil hx h)
  have G := hy.grows (hx.sound B.sound)
  have hmono := (hx.grows B.sound).storesTo_trans G
  have hpubs := G.publications_eq
  have h1 := N.publications_le
  have h1' := N'.publications_le
  have h3 := N.storesTo_lt
  have h3' := N'.storesTo_lt
  rw [hc] at h3'
  have hcur := B.current_eq (hx.trans hy)
  have hpub := B.published_eq (hx.trans hy)
  rw [hc, show storesTo start y = storesTo start x by omega, B.current_eq hx] at hcur
  rw [hc, show y.session.cells.publications = x.session.cells.publications by omega,
    B.published_eq hx] at hpub
  exact ⟨(Option.some.inj hcur).symm, (Option.some.inj hpub).symm⟩

end Begins

/-- Nobody but the task writes to the cells of readers and subscribers. -/
theorem step_others {m : Move} (hx : x.manager.Sound) (hm : m ≠ .task) (h : x.step m = some y) :
    y.session.cells.current = x.session.cells.current ∧
      y.session.cells.published = x.session.cells.published := by
  obtain ⟨u, hu, rfl⟩ := Option.map_eq_some_iff.1 h
  cases m with
  | task => exact absurd rfl hm
  | discard =>
    simp only [Interleaving.step] at hu
    split at hu
    next => cases hu; exact ⟨rfl, rfl⟩
    next => cases hu
  | tick nanos => cases hu; exact ⟨rfl, rfl⟩
  | _ =>
    obtain ⟨_, O⟩ := step_beside hx hu ⟨by simp, by simp, by simp⟩
    exact O.current_eq

/-! ## Where a task breaks off -/

/-- The task has a credential that it has not published yet. -/
def Owes (x : Chronicle σ α β) : Prop := ∃ c, .published c ∈ x.manager.taskAhead

/-- The task has stored a credential and not published it yet. -/
def BetweenWrites (x : Chronicle σ α β) : Prop :=
  x.Owes ∧ ∀ c, .stored c ∉ x.manager.taskAhead

/-- The strategy is reset next. -/
def Resetting (x : Chronicle σ α β) : Prop := ∃ rest, x.manager.taskAhead = .backoffReset :: rest

theorem owes_iff : x.Owes ↔ 0 < (x.manager.taskAhead.filterMap Effect.published?).length := by
  simp only [Owes, ← mem_filterMap_published, List.length_pos_iff_exists_mem]

theorem not_stored_iff : (∀ c, .stored c ∉ x.manager.taskAhead) ↔
    (x.manager.taskAhead.filterMap Effect.stored?).length = 0 := by
  simp only [← mem_filterMap_stored, List.length_eq_zero_iff, List.eq_nil_iff_forall_not_mem]

namespace Begins

variable {start : Chronicle σ α β} {c : Credential α}

/-- The credentials that the task has yet to store are those that it has received and not stored. -/
theorem storesTo_add (B : start.Begins c) (H : Run admits start x) :
    storesTo start x + (x.manager.taskAhead.filterMap Effect.stored?).length =
      x.credentials.tail.length := by
  have h := congrArg (List.filterMap Write.stored?) (B.writes_eq H).2
  rw [List.filterMap_append, List.filterMap_filterMap, List.filterMap_filterMap,
    Write.filterMap_stored_pairs] at h
  rw [← h, List.length_append]
  rfl

theorem publications_add (B : start.Begins c) (H : Run admits start x) :
    x.session.cells.publications + (x.manager.taskAhead.filterMap Effect.published?).length =
      x.credentials.tail.length := by
  have h := congrArg (List.filterMap Write.published?) (B.writes_eq H).2
  rw [List.filterMap_append, List.filterMap_filterMap, List.filterMap_filterMap,
    Write.filterMap_published_pairs] at h
  rw [← h, List.length_append, (H.grows B.sound).publications_eq, B.publications, Nat.zero_add]
  rfl

theorem publishedAhead_le (B : start.Begins c) (H : Run admits start x) :
    (x.manager.taskAhead.filterMap Effect.published?).length ≤ 1 := by
  obtain ⟨ev, h⟩ := (writes_reports start.session.plan).ahead_suffix rfl B.sound B.taskAhead H
  have h := (h.filterMap Write.published?).length_le
  rw [List.filterMap_filterMap] at h
  refine Nat.le_trans h ?_
  cases ev with
  | none => simp
  | some e =>
    cases he : e.success? <;>
      simp [Event.writes, he, Write.pair, List.filterMap_cons, Write.published?]

/-- Between the two writes of a credential the task has stored one more than it has published. -/
theorem betweenWrites_iff (B : start.Begins c) (H : Run admits start x) :
    x.BetweenWrites ↔ storesTo start x = x.session.cells.publications + 1 := by
  have h1 := B.storesTo_add H
  have h2 := B.publications_add H
  have h3 := B.publishedAhead_le H
  rw [BetweenWrites, owes_iff, not_stored_iff]
  omega

/-- The strategy is reset between the two writes. -/
theorem betweenWrites_of_resetting (B : start.Begins c) (H : Run admits start x)
    (h : x.Resetting) : x.BetweenWrites := by
  obtain ⟨rest, hrest⟩ := h
  obtain ⟨ev, hev⟩ := (turns_reports start.session.plan).ahead_suffix rfl B.sound B.taskAhead H
  have hreset : x.manager.taskAhead.filterMap Effect.turn? =
      none :: rest.filterMap Effect.turn? := by
    rw [hrest, List.filterMap_cons]
    rfl
  obtain ⟨c', hturns⟩ : ∃ c',
      x.manager.taskAhead.filterMap Effect.turn? = [none, some (.publish c')] := by
    rw [hreset] at hev ⊢
    cases ev with
    | none => simp at hev
    | some e =>
      cases he : e.success? with
      | none => simp [Event.turns, he] at hev
      | some c' => exact ⟨c', by simpa [Event.turns, he, List.suffix_cons_iff] using hev⟩
  rw [BetweenWrites, owes_iff, not_stored_iff]
  simp only [funext Effect.stored?_eq, funext Effect.published?_eq, ← List.filterMap_filterMap,
    hturns]
  simp [List.filterMap_cons, Write.published?, Write.stored?]

end Begins

/-! ## What stays when nothing is written -/

/-- From `x` to `y` the task has received no credential and written none. -/
structure Unwritten (x y : Chronicle σ α β) : Prop where
  grows : Grows x y
  credentials : y.credentials = x.credentials
  writes : (effectsTo x y).filterMap Effect.write? = []

namespace Unwritten

theorem refl (x : Chronicle σ α β) : Unwritten x x := ⟨.refl x, rfl, by simp [effectsTo_self]⟩

theorem stored_eq_nil (U : Unwritten x y) : (effectsTo x y).filterMap Effect.stored? = [] :=
  Effect.filterMap_stored_eq_nil U.writes

theorem published_eq_nil (U : Unwritten x y) : (effectsTo x y).filterMap Effect.published? = [] :=
  Effect.filterMap_published_eq_nil U.writes

theorem current_eq (U : Unwritten x y) : y.session.cells.current = x.session.cells.current := by
  rw [U.grows.cells, Cells.current_applyAll, U.stored_eq_nil]
  rfl

theorem published_eq (U : Unwritten x y) :
    y.session.cells.published = x.session.cells.published := by
  rw [U.grows.cells, Cells.published_applyAll, U.published_eq_nil]
  rfl

theorem publications_eq (U : Unwritten x y) :
    y.session.cells.publications = x.session.cells.publications := by
  rw [U.grows.publications_eq, U.published_eq_nil]
  rfl

theorem storesTo_eq {start : Chronicle σ α β} (U : Unwritten x y) (G : Grows start x) :
    storesTo start y = storesTo start x := by
  simp [storesTo, G.effectsTo_trans U.grows, U.stored_eq_nil]

theorem filterMap_published {start : Chronicle σ α β} (U : Unwritten x y) (G : Grows start x) :
    (effectsTo start y).filterMap Effect.published? =
      (effectsTo start x).filterMap Effect.published? := by
  rw [G.effectsTo_trans U.grows, List.filterMap_append, U.published_eq_nil, List.append_nil]

end Unwritten

/-- Nothing is written once the task has broken off. -/
theorem Run.unwritten_of_broken {message : String} (H : Run free (x.broken message) y)
    (hx : x.manager.Sound) : Unwritten x y where
  grows := (grows_broken x message).trans (H.grows hx)
  credentials := by
    rw [credentials, (H.of_ended hx ⟨_, rfl⟩).1]
    simp [credentials, broken, Event.success?]
  writes := by
    have R := writes_reports x.session.plan
    refine List.filterMap_eq_nil_iff.2 fun e he => ?_
    rcases (H.of_ended hx ⟨_, rfl⟩).2 e he with hout | hclose
    · exact R.outside e hout
    · exact List.filterMap_eq_nil_iff.1 R.closing e hclose

/-- What is there at the end of a course was there at the end of a run. -/
theorem Course.exists_unwritten (H : Course x y) (hx : x.manager.Sound) :
    ∃ u, Run free x u ∧ Unwritten u y := by
  rcases H.run_or_broke hx with H | ⟨u, message, hu, -, -, huy⟩
  · exact ⟨y, H, .refl y⟩
  · exact ⟨u, hu, huy.unwritten_of_broken (hu.sound hx)⟩

namespace Begins

variable {start : Chronicle σ α β} {c : Credential α}

theorem storesTo_of_settled (B : start.Begins c) (H : Course start x) (h : x.Settled)
    (hb : ¬BreaksOff BetweenWrites start x) :
    storesTo start x = x.session.cells.publications := by
  rcases H.run_or_broke B.sound with H | ⟨u, message, hu, hloop, -, hux⟩
  · have N := B.numbered H
    have hset := N.settled (B.writesAhead_eq_nil H h)
    have h1 := N.publications_le
    have h3 := N.storesTo_lt
    omega
  · have U := hux.unwritten_of_broken (hu.sound B.sound)
    have hne := mt (B.betweenWrites_iff hu).2 fun h => hb ⟨u, message, hu, hloop, h, hux⟩
    have N := B.numbered hu
    have h1 := N.publications_le
    have h2 := N.storesTo_le
    rw [U.storesTo_eq (hu.grows B.sound), U.publications_eq]
    omega

theorem storesTo_of_breaksOff (B : start.Begins c) (H : BreaksOff BetweenWrites start x) :
    storesTo start x = x.session.cells.publications + 1 ∧
      ∃ message, x.session.task.phase = .ended (.crashed message) := by
  obtain ⟨u, message, hu, -, hbetween, hux⟩ := H
  have U := hux.unwritten_of_broken (hu.sound B.sound)
  have L := hux.lingers (hu.sound B.sound) ⟨_, rfl⟩
  rw [U.storesTo_eq (hu.grows B.sound), U.publications_eq]
  exact ⟨(B.betweenWrites_iff hu).1 hbetween, message, congrArg Task.phase L.task⟩

theorem published_of_settled (B : start.Begins c) (H : Course start x) (h : x.Settled)
    (hb : ¬BreaksOff Owes start x) :
    (effectsTo start x).filterMap Effect.published? = x.credentials.tail := by
  rcases H.run_or_broke B.sound with H | ⟨u, message, hu, hloop, -, hux⟩
  · have N := B.numbered H
    have hset := N.settled (B.writesAhead_eq_nil H h)
    rw [N.published, List.take_of_length_le (by rw [List.length_tail]; omega)]
  · have U := hux.unwritten_of_broken (hu.sound B.sound)
    have hnone := mt owes_iff.2 fun h => hb ⟨u, message, hu, hloop, h, hux⟩
    have hadd := B.publications_add hu
    rw [U.filterMap_published (hu.grows B.sound), U.credentials, (B.numbered hu).published,
      List.take_of_length_le (by omega)]

theorem published_of_breaksOff (B : start.Begins c) (H : BreaksOff Owes start x) :
    (effectsTo start x).filterMap Effect.published? = x.credentials.tail.dropLast := by
  obtain ⟨u, message, hu, -, howes, hux⟩ := H
  have U := hux.unwritten_of_broken (hu.sound B.sound)
  have hpos := owes_iff.1 howes
  have hadd := B.publications_add hu
  have hle := B.publishedAhead_le hu
  rw [U.filterMap_published (hu.grows B.sound), U.credentials, (B.numbered hu).published,
    List.dropLast_eq_take]
  congr 1
  omega

/-- A task that has broken off resets nothing any more. -/
theorem course_betweenWrites (B : start.Begins c) (H : Course start x) (h : x.Resetting) :
    x.BetweenWrites := by
  rcases H.run_or_broke B.sound with H | ⟨u, message, hu, -, -, hux⟩
  · exact B.betweenWrites_of_resetting H h
  · obtain ⟨rest, hrest⟩ := h
    have L := hux.lingers (hu.sound B.sound) ⟨_, rfl⟩
    have hmem := L.ahead .backoffReset (by simp [hrest])
    simp [broken, closing] at hmem

end Begins

/-- No number is left for another credential until the next success, wherever the task breaks
off. -/
theorem Begins.course_eq_of_settled {start : Chronicle σ α β} {c : Credential α}
    (B : start.Begins c) (hx : Course start x) (hy : Course x y) (h : x.Settled)
    (hc : y.credentials = x.credentials) :
    y.session.cells.current = x.session.cells.current ∧
      y.session.cells.published = x.session.cells.published := by
  rcases hx.run_or_broke B.sound with hx | ⟨u, message, hu, -, -, hux⟩
  · obtain ⟨v, hv, V⟩ := hy.exists_unwritten (hx.sound B.sound)
    obtain ⟨hcur, hpub⟩ := B.eq_of_settled hx hv h (V.credentials.symm.trans hc)
    exact ⟨V.current_eq.trans hcur, V.published_eq.trans hpub⟩
  · have hus := hu.sound B.sound
    have L := hux.lingers hus ⟨_, rfl⟩
    have hy : Run free x y :=
      hy.run_of_ended (hx.sound B.sound) ⟨_, congrArg Task.phase L.task⟩
    have U := hux.unwritten_of_broken hus
    have huy : Run free (u.broken message) y := hux.trans hy
    have V := huy.unwritten_of_broken hus
    exact ⟨V.current_eq.trans U.current_eq.symm, V.published_eq.trans U.published_eq.symm⟩

/-- **Publication is ordered and whole, and loses nothing but where the task breaks off.** Let `x`
be any state of any course, and `y` a later one. The current credential at `x` is the one with the
number of the stores by then, the published one has the number of the publications; they differ by
one at most, and not at all while the task is settled, unless it has broken off between the two
writes, where the strategy is reset. Then it has ended, and they differ for good. What neither
brings a success nor belongs to the task's own writes leaves both as they are, for readers the
numbers never fall, a reader is never behind what a subscriber has seen, and each success of the
task is published once, in its turn, unless it is the last one and the task breaks off before it is
published. -/
theorem publication_ordered_and_whole {p : Plan σ α β} {now : Nat} {source : σ} {backoff : β}
    {c : Credential α} {history : List (Nat × Effect α)} {start : Chronicle σ α β}
    (hstart : start = launched p now source backoff c history)
    (hx : Course start x) (hy : Course x y) :
    -- whole, and the one in step with the other
    (x.credentials[storesTo start x]? = some x.session.cells.current ∧
      x.credentials[x.session.cells.publications]? = some x.session.cells.published ∧
      x.session.cells.publications ≤ storesTo start x ∧
      storesTo start x ≤ x.session.cells.publications + 1 ∧
      (x.Settled → ¬BreaksOff BetweenWrites start x →
        storesTo start x = x.session.cells.publications) ∧
      (BreaksOff BetweenWrites start x →
        storesTo start x = x.session.cells.publications + 1 ∧
          ∃ message, x.session.task.phase = .ended (.crashed message)) ∧
      (x.Resetting → x.BetweenWrites)) ∧
    -- nothing but a success changes them
    ((x.Settled → y.credentials = x.credentials →
        y.session.cells.current = x.session.cells.current ∧
        y.session.cells.published = x.session.cells.published) ∧
      ∀ m z, m ≠ .task → x.step m = some z →
        z.session.cells.current = x.session.cells.current ∧
        z.session.cells.published = x.session.cells.published) ∧
    -- what one reader sees, and a subscriber who then reads
    (x.credentials <+: y.credentials ∧ storesTo start x ≤ storesTo start y ∧
      x.session.cells.publications ≤ storesTo start y) ∧
    -- each success is published once
    ((effectsTo start x).filterMap Effect.published? =
        x.credentials.tail.take x.session.cells.publications ∧
      (x.Settled → ¬BreaksOff Owes start x →
        (effectsTo start x).filterMap Effect.published? = x.credentials.tail) ∧
      (BreaksOff Owes start x →
        (effectsTo start x).filterMap Effect.published? = x.credentials.tail.dropLast) ∧
      ({ y.session with seen := x.session.subscribe.seen }.hasChanged = true ↔
        ∃ c, .published c ∈ effectsTo x y)) := by
  have B : start.Begins c := hstart ▸ launched_begins p now source backoff c history
  have hxs := hx.sound B.sound
  have hmono := (hx.grows B.sound).storesTo_trans (hy.grows hxs)
  obtain ⟨u, hu, U⟩ := hx.exists_unwritten B.sound
  have G := hu.grows B.sound
  have N := B.numbered hu
  have hn : storesTo start x = storesTo start u := U.storesTo_eq G
  have hm : x.session.cells.publications = u.session.cells.publications := U.publications_eq
  have h1 := N.publications_le
  have h2 := N.storesTo_le
  refine ⟨⟨?current, ?published, by omega, by omega, B.storesTo_of_settled hx,
      B.storesTo_of_breaksOff, B.course_betweenWrites hx⟩,
    ⟨B.course_eq_of_settled hx hy, fun m z hm hz => step_others hxs hm hz⟩,
    ⟨⟨_, (hy.grows hxs).credentials_eq.symm⟩, by omega, by omega⟩,
    ?publishes, B.published_of_settled hx, B.published_of_breaksOff, (hy.grows hxs).hasChanged_iff⟩
  case current =>
    rw [U.credentials, hn, U.current_eq]
    exact B.current_eq hu
  case published =>
    rw [U.credentials, hm, U.published_eq]
    exact B.published_eq hu
  case publishes =>
    rw [U.filterMap_published G, U.credentials, hm]
    exact N.published

def renewing : Chronicle (List (Line Nat)) Nat Backoff.Schedule :=
  sample .standard .epoch ⟨.atOnce, .issue 8 (.forMillis 10000)⟩ []

/-- The task has stored its first credential, and resets its strategy next. -/
def stored : Chronicle (List (Line Nat)) Nat Backoff.Schedule :=
  renewing.after (fun _ _ => true)
    [.task, .task, .task, .tick (millis 1000), .task, .task, .task, .task, .task]
    (by decide +kernel)

theorem run_stored : Run free renewing stored := run_after (fun _ _ _ => trivial) _

/-- Between the two writes of a renewal a reader is one credential ahead of the subscribers, who are
told of it next. -/
theorem publication_between_writes :
    (storesTo renewing stored = 1 ∧ stored.session.cells.publications = 0 ∧
      stored.credentials[1]? = some stored.session.cells.current ∧
      stored.credentials[0]? = some stored.session.cells.published) ∧
    ∃ y, Course stored y ∧ ∃ c, .published c ∈ effectsTo stored y := by
  have hx : Course renewing stored := .of_run run_stored
  let y := stored.after (fun _ _ => true) [.task, .task] (by decide +kernel)
  have hy : Course stored y := .of_run (run_after (fun _ _ _ => trivial) _)
  have hstart : renewing = launched _ _ _ _ _ _ := rfl
  obtain ⟨⟨hcur, hpub, -⟩, -, -, -, -, -, hseen⟩ := publication_ordered_and_whole hstart hx hy
  have hn : storesTo renewing stored = 1 := by decide +kernel
  have hm : stored.session.cells.publications = 0 := by decide +kernel
  rw [hn] at hcur
  rw [hm] at hpub
  exact ⟨⟨hn, hm, hcur, hpub⟩, y, hy, hseen.1 (by decide +kernel)⟩

/-- The strategy breaks off in its reset. The task has ended, and the credential that it has stored
is not published, then or later. -/
theorem reset_leaves_unpublished :
    (stored.Resetting ∧ Course renewing (stored.broken "lost") ∧
      ∀ y, Course (stored.broken "lost") y → (∃ exit, y.session.task.phase = .ended exit) ∧
        storesTo renewing y = 1 ∧ y.session.cells.publications = 0) ∧
    ¬∀ x, Course renewing x → (∃ exit, x.session.task.phase = .ended exit) →
      storesTo renewing x = x.session.cells.publications := by
  have hs : renewing.manager.Sound := ofFirst_sound _ _ _ _ _ _
  have hplanning : stored.session.task.phase = .planning := rfl
  have hloop : stored.InLoop := ⟨by simp [hplanning], by simp [hplanning]⟩
  have hcourse : Course renewing (stored.broken "lost") :=
    (Course.of_run run_stored).tail (.breakOff "lost" hloop)
  have hlost : ∀ y, Course (stored.broken "lost") y →
      (∃ exit, y.session.task.phase = .ended exit) ∧ storesTo renewing y = 1 ∧
        y.session.cells.publications = 0 := by
    intro y hy
    have hy : Run free (stored.broken "lost") y := hy.run_of_ended (hcourse.sound hs) ⟨_, rfl⟩
    have U := hy.unwritten_of_broken (run_stored.sound hs)
    have L := hy.lingers (hcourse.sound hs) ⟨_, rfl⟩
    rw [U.storesTo_eq (run_stored.grows hs), U.publications_eq]
    exact ⟨⟨_, congrArg Task.phase L.task⟩, by decide +kernel, by decide +kernel⟩
  refine ⟨⟨⟨_, rfl⟩, hcourse, hlost⟩, fun h => ?_⟩
  obtain ⟨hend, hn, hm⟩ := hlost _ .refl
  have hsame := h _ hcourse hend
  rw [hn, hm] at hsame
  cases hsame

end Chronicle

end CredentialKeeper.Manager
