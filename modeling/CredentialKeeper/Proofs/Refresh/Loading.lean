import CredentialKeeper.Proofs.CheckedSettings
import CredentialKeeper.Refresh.Environment
import Mathlib.Data.List.Forall2

/-! # What variables make of refresh settings

The eleven variables are told here by what they stand for (`Variable`), each with a type of its own
(`Variable.isValue`). A variable that is set and not blank is malformed if its text is no value of
that type, and the first malformed one is what `Settings.load` reports. If none is malformed, the
settings are the base with one field for each variable replaced (`overridden`), and they are loaded
if they pass their check. -/

namespace CredentialKeeper

/-- The text of a variable without the blanks around it, none if it is unset or blank. -/
def Environment.setting? (env : Environment) (key : String) : Option String :=
  ((env.text? key).map Text.trim).filter (· ≠ "")

theorem Binary64.ne_nan_of_le {a b : Binary64} (h : a.le b = true) (negative : Bool) :
    b ≠ .nan negative := by
  rintro rfl
  have hnone : (Binary64.nan negative).rank? = none := rfl
  rw [Binary64.le, hnone] at h
  cases hrank : a.rank? <;> rw [hrank] at h <;> cases h

namespace Refresh

/-- The variables of refresh settings, in the order in which they are read. -/
inductive Variable where
  | lookahead
  | refreshInterval
  | minRefreshInterval
  | startupRetryDelay
  | renewTimeout
  | backoffInitial
  | backoffMultiplier
  | backoffMax
  | backoffRandomization
  | backoffMaxElapsed
  | backoffMaxAttempts
deriving DecidableEq

namespace Variable

def all : List Variable :=
  [lookahead, refreshInterval, minRefreshInterval, startupRetryDelay, renewTimeout, backoffInitial,
    backoffMultiplier, backoffMax, backoffRandomization, backoffMaxElapsed, backoffMaxAttempts]

def name : Variable → String
  | lookahead => "LOOKAHEAD_SECS"
  | refreshInterval => "REFRESH_INTERVAL_SECS"
  | minRefreshInterval => "MIN_REFRESH_INTERVAL_MS"
  | startupRetryDelay => "STARTUP_RETRY_DELAY_MS"
  | renewTimeout => "RENEW_TIMEOUT_SECS"
  | backoffInitial => "BACKOFF_INITIAL_MS"
  | backoffMultiplier => "BACKOFF_MULTIPLIER"
  | backoffMax => "BACKOFF_MAX_MS"
  | backoffRandomization => "BACKOFF_RANDOMIZATION"
  | backoffMaxElapsed => "BACKOFF_MAX_ELAPSED_SECS"
  | backoffMaxAttempts => "BACKOFF_MAX_ATTEMPTS"

def key (stem : String) (v : Variable) : String := stem ++ "_" ++ v.name

/-- The text writes a value of the variable's type: a binary64 number, or a natural number of 32 or
of 64 bits. -/
def isValue (v : Variable) (text : String) : Bool :=
  match v with
  | backoffMultiplier | backoffRandomization => (Binary64.parse? text).isSome
  | backoffMaxAttempts => (parseNat? 4294967295 text).isSome
  | _ => (parseUInt64? text).isSome

theorem mem_all (v : Variable) : v ∈ all := by cases v <;> decide

end Variable

section
variable (env : Environment) (stem : String) (v : Variable)

/-- The variable is set to something that is neither blank nor a value. -/
def Malformed (raw : String) : Prop :=
  env.text? (v.key stem) = some raw ∧ Text.trim raw ≠ "" ∧ ¬v.isValue (Text.trim raw)

/-- The variable is malformed and none that is read before it is. -/
def FirstMalformed (raw : String) : Prop :=
  Malformed env stem v raw ∧ ∃ before after, Variable.all = before ++ v :: after ∧
    ∀ u ∈ before, ∀ raw', ¬Malformed env stem u raw'

def whole? : Option UInt64 := (env.setting? (v.key stem)).bind parseUInt64?

def seconds? : Option Span := (whole? env stem v).map .ofSeconds

def millis? : Option Span := (whole? env stem v).map .ofMillis

def number? : Option Binary64 := (env.setting? (v.key stem)).bind Binary64.parse?

def count? : Option Nat := (env.setting? (v.key stem)).bind (parseNat? 4294967295)

/-- The base with the fields of those variables replaced that are set and not blank. -/
def overridden (base : Settings) : Settings where
  lookahead := (seconds? env stem .lookahead).getD base.lookahead
  refreshInterval := (seconds? env stem .refreshInterval).or base.refreshInterval
  minRefreshInterval := (millis? env stem .minRefreshInterval).getD base.minRefreshInterval
  startupRetryDelay := (millis? env stem .startupRetryDelay).getD base.startupRetryDelay
  renewTimeout := (seconds? env stem .renewTimeout).getD base.renewTimeout
  backoff :=
    { initialInterval := (millis? env stem .backoffInitial).getD base.backoff.initialInterval
      multiplier := (number? env stem .backoffMultiplier).getD base.backoff.multiplier
      maxInterval := (millis? env stem .backoffMax).getD base.backoff.maxInterval
      randomizationFactor :=
        (number? env stem .backoffRandomization).getD base.backoff.randomizationFactor
      -- zero turns a limit off
      maxElapsedTime :=
        match seconds? env stem .backoffMaxElapsed with
        | some limit => if limit.isZero then none else some limit
        | none => base.backoff.maxElapsedTime
      maxAttempts :=
        match count? env stem .backoffMaxAttempts with
        | some limit => if limit = 0 then none else some limit
        | none => base.backoff.maxAttempts }

end

/-! ## One variable -/

variable {env env' : Environment} {stem : String} {base : Settings}

theorem setting?_eq_some {key text : String} :
    env.setting? key = some text ↔ ∃ raw, env.text? key = some raw ∧ Text.trim raw = text ∧
      text ≠ "" := by
  simp only [Environment.setting?, Option.filter_eq_some_iff, Option.map_eq_some_iff,
    decide_eq_true_eq]
  constructor
  · rintro ⟨⟨raw, hraw, rfl⟩, hne⟩
    exact ⟨raw, hraw, rfl, hne⟩
  · rintro ⟨raw, hraw, rfl, hne⟩
    exact ⟨⟨raw, hraw, rfl⟩, hne⟩

theorem setting?_eq_none {key : String} :
    env.setting? key = none ↔ ∀ raw, env.text? key = some raw → Text.trim raw = "" := by
  rw [Option.eq_none_iff_forall_ne_some]
  constructor
  · intro h raw hraw
    by_contra hne
    exact h _ (setting?_eq_some.2 ⟨raw, hraw, rfl, hne⟩)
  · intro h text htext
    obtain ⟨raw, hraw, rfl, hne⟩ := setting?_eq_some.1 htext
    exact hne (h raw hraw)

/-- The settings after one variable that is not malformed. -/
def step (env : Environment) (stem : String) (s : Settings) (entry : String × Change) : Settings :=
  ((env.setting? (stem ++ "_" ++ entry.1)).bind entry.2).elim s (· s)

theorem readSetting_of_malformed {change : Change} {key raw : String}
    (htext : env.text? key = some raw) (hne : Text.trim raw ≠ "")
    (hnone : change (Text.trim raw) = none) :
    readSetting change env key = .error (.invalidValue key raw) := by
  simp only [readSetting, htext, if_neg hne, hnone]

theorem readSetting_of_wellFormed {change : Change} {key : String}
    (h : ∀ text, env.setting? key = some text → (change text).isSome) :
    readSetting change env key = .ok ((env.setting? key).bind change) := by
  unfold readSetting
  cases hs : env.setting? key with
  | none =>
    have hblank := setting?_eq_none.1 hs
    split
    next => rfl
    next raw hraw => rw [if_pos (hblank raw hraw)]; rfl
  | some text =>
    obtain ⟨f, hf⟩ := Option.isSome_iff_exists.1 (h text hs)
    obtain ⟨raw, hraw, rfl, hne⟩ := setting?_eq_some.1 hs
    simp only [hraw, if_neg hne, hf, Option.bind_some]

/-! ## All variables -/

/-- A variable is read by an entry of the table that has its name and admits its values. -/
def ReadBy (v : Variable) (entry : String × Change) : Prop :=
  entry.1 = v.name ∧ ∀ text, (entry.2 text).isSome = v.isValue text

theorem changes_readBy : List.Forall₂ ReadBy Variable.all changes := by
  have hwhole : ∀ {v : Variable} {name : String} (unit : UInt64 → Settings → Settings),
      name = v.name → (∀ text, v.isValue text = (parseUInt64? text).isSome) →
      ReadBy v (name, fun text => (parseUInt64? text).map unit) :=
    fun _ hname hvalue => ⟨hname, fun text => by rw [Option.isSome_map, hvalue]⟩
  have hnumber : ∀ {v : Variable} {name : String} (unit : Binary64 → Settings → Settings),
      name = v.name → (∀ text, v.isValue text = (Binary64.parse? text).isSome) →
      ReadBy v (name, fun text => (Binary64.parse? text).map unit) :=
    fun _ hname hvalue => ⟨hname, fun text => by rw [Option.isSome_map, hvalue]⟩
  refine .cons (hwhole _ rfl fun _ => rfl) <| .cons (hwhole _ rfl fun _ => rfl) <|
    .cons (hwhole _ rfl fun _ => rfl) <| .cons (hwhole _ rfl fun _ => rfl) <|
    .cons (hwhole _ rfl fun _ => rfl) <| .cons (hwhole _ rfl fun _ => rfl) <|
    .cons (hnumber _ rfl fun _ => rfl) <| .cons (hwhole _ rfl fun _ => rfl) <|
    .cons (hnumber _ rfl fun _ => rfl) <| .cons (hwhole _ rfl fun _ => rfl) <|
    .cons ⟨rfl, fun text => ?_⟩ .nil
  simp [Variable.isValue]

/-- An entry of the table reads a variable that is not malformed. -/
theorem ReadBy.readSetting_eq {v : Variable} {entry : String × Change} (R : ReadBy v entry)
    (h : ∀ raw, ¬Malformed env stem v raw) :
    readSetting entry.2 env (stem ++ "_" ++ entry.1) =
      .ok ((env.setting? (stem ++ "_" ++ entry.1)).bind entry.2) := by
  refine readSetting_of_wellFormed fun text htext => ?_
  obtain ⟨raw, hraw, rfl, hne⟩ := setting?_eq_some.1 htext
  rw [R.2]
  by_contra hvalue
  rw [R.1] at hraw
  exact h raw ⟨hraw, hne, hvalue⟩

theorem override_of_wellFormed {vs : List Variable} {entries : List (String × Change)}
    (R : List.Forall₂ ReadBy vs entries) (h : ∀ v ∈ vs, ∀ raw, ¬Malformed env stem v raw) :
    override env stem base entries = .ok (entries.foldl (step env stem) base) := by
  induction R generalizing base with
  | nil => rfl
  | @cons v entry vs entries hv R ih =>
    have hread := hv.readSetting_eq (h v (.head _))
    have ih {base : Settings} : override env stem base entries = .ok _ :=
      ih fun u hu => h u (.tail _ hu)
    rw [override, hread, List.foldl_cons, ← ih, step]
    cases (env.setting? (stem ++ "_" ++ entry.1)).bind entry.2 <;> rfl

theorem override_of_malformed {vs before after : List Variable} {entries : List (String × Change)}
    {v : Variable} {raw : String} (R : List.Forall₂ ReadBy vs entries)
    (hvs : vs = before ++ v :: after) (hbefore : ∀ u ∈ before, ∀ raw, ¬Malformed env stem u raw)
    (hv : Malformed env stem v raw) :
    override env stem base entries = .error (.invalidValue (v.key stem) raw) := by
  induction R generalizing base before with
  | nil => simp at hvs
  | @cons u entry vs entries hu R ih =>
    cases before with
    | nil =>
      obtain ⟨rfl, -⟩ := List.cons.inj hvs
      obtain ⟨htext, hne, hvalue⟩ := hv
      have hnone : entry.2 (Text.trim raw) = none := by
        rwa [← hu.2, Option.not_isSome_iff_eq_none] at hvalue
      rw [Variable.key, ← hu.1] at htext
      rw [override, readSetting_of_malformed htext hne hnone, Variable.key, ← hu.1]
    | cons _ before =>
      obtain ⟨rfl, htail⟩ := List.cons.inj hvs
      have hread := hu.readSetting_eq (hbefore u (.head _))
      have ih {base : Settings} : override env stem base entries = _ :=
        ih htail fun u hu => hbefore u (.tail _ hu)
      rw [override, hread]
      cases (env.setting? (stem ++ "_" ++ entry.1)).bind entry.2 <;> exact ih

/-- To change a field or to leave it is to give it a value, new or old. -/
theorem foldl_step_cons {α γ : Type} {name : String} {entries : List (String × Change)}
    (parse? : String → Option α) (value : α → γ) (set : γ → Settings → Settings)
    (get : Settings → γ) (hget : ∀ s, set (get s) s = s) :
    ((name, fun text => (parse? text).map fun a => set (value a)) :: entries).foldl
        (step env stem) base =
      entries.foldl (step env stem)
        (set (((env.setting? (stem ++ "_" ++ name)).bind parse?).elim (get base) value) base) := by
  rw [List.foldl_cons]
  congr 1
  simp only [step]
  cases env.setting? (stem ++ "_" ++ name) with
  | none => exact (hget base).symm
  | some text =>
    cases hparse : parse? text with
    | none => simpa [hparse] using (hget base).symm
    | some a => simp [hparse]

theorem limitOf_ofSeconds (n : UInt64) :
    limitOf n (Span.ofSeconds n) =
      if (Span.ofSeconds n).isZero then none else some (Span.ofSeconds n) := by
  have hzero : (Span.ofSeconds n).isZero = true ↔ n = 0 := by
    rw [Span.isZero_iff, Span.ofSeconds, Nat.mul_eq_zero, ← UInt64.toNat_inj]
    simp [nanosPerSecond]
  simp only [limitOf, hzero]

theorem foldl_changes (env : Environment) (stem : String) (base : Settings) :
    changes.foldl (step env stem) base = overridden env stem base := by
  refine (foldl_step_cons parseUInt64? .ofSeconds (fun d s => { s with lookahead := d })
    (·.lookahead) fun _ => rfl).trans ?_
  refine (foldl_step_cons parseUInt64? (some ∘ .ofSeconds)
    (fun d s => { s with refreshInterval := d }) (·.refreshInterval) fun _ => rfl).trans ?_
  refine (foldl_step_cons parseUInt64? .ofMillis (fun d s => { s with minRefreshInterval := d })
    (·.minRefreshInterval) fun _ => rfl).trans ?_
  refine (foldl_step_cons parseUInt64? .ofMillis (fun d s => { s with startupRetryDelay := d })
    (·.startupRetryDelay) fun _ => rfl).trans ?_
  refine (foldl_step_cons parseUInt64? .ofSeconds (fun d s => { s with renewTimeout := d })
    (·.renewTimeout) fun _ => rfl).trans ?_
  refine (foldl_step_cons parseUInt64? .ofMillis
    (fun d s => { s with backoff := { s.backoff with initialInterval := d } })
    (·.backoff.initialInterval) fun _ => rfl).trans ?_
  refine (foldl_step_cons Binary64.parse? id
    (fun x s => { s with backoff := { s.backoff with multiplier := x } })
    (·.backoff.multiplier) fun _ => rfl).trans ?_
  refine (foldl_step_cons parseUInt64? .ofMillis
    (fun d s => { s with backoff := { s.backoff with maxInterval := d } })
    (·.backoff.maxInterval) fun _ => rfl).trans ?_
  refine (foldl_step_cons Binary64.parse? id
    (fun x s => { s with backoff := { s.backoff with randomizationFactor := x } })
    (·.backoff.randomizationFactor) fun _ => rfl).trans ?_
  refine (foldl_step_cons parseUInt64? (fun n => limitOf n (.ofSeconds n))
    (fun limit s => { s with backoff := { s.backoff with maxElapsedTime := limit } })
    (·.backoff.maxElapsedTime) fun _ => rfl).trans ?_
  refine (foldl_step_cons (parseNat? 4294967295) (fun n => if n = 0 then none else some n)
    (fun limit s => { s with backoff := { s.backoff with maxAttempts := limit } })
    (·.backoff.maxAttempts) fun _ => rfl).trans ?_
  have helim : ∀ {α β : Type} (o : Option α) (b : β) (f : α → β), o.elim b f = (o.map f).getD b :=
    fun o b f => by cases o <;> rfl
  simp only [List.foldl_nil, overridden, seconds?, millis?, number?, count?, whole?, Variable.key,
    Variable.name, helim, Option.map_id, id_eq]
  congr
  next => cases (env.setting? _).bind parseUInt64? <;> rfl
  next =>
    cases (env.setting? _).bind parseUInt64? with
    | none => rfl
    | some n => exact limitOf_ofSeconds n
  next => cases (env.setting? _).bind (parseNat? _) <;> rfl

/-! ## Loading -/

theorem exists_malformed {v : Variable} :
    (∃ raw, Malformed env stem v raw) ↔
      ∃ text, env.setting? (v.key stem) = some text ∧ ¬v.isValue text := by
  constructor
  · rintro ⟨raw, htext, hne, hvalue⟩
    exact ⟨_, setting?_eq_some.2 ⟨raw, htext, rfl, hne⟩, hvalue⟩
  · rintro ⟨_, hset, hvalue⟩
    obtain ⟨raw, htext, rfl, hne⟩ := setting?_eq_some.1 hset
    exact ⟨raw, htext, hne, hvalue⟩

theorem exists_firstMalformed {u : Variable} {raw : String} (h : Malformed env stem u raw) :
    ∃ v raw, FirstMalformed env stem v raw := by
  classical
  let p (v : Variable) : Bool := decide (∃ raw, Malformed env stem v raw)
  have hany : (Variable.all.find? p).isSome :=
    List.find?_isSome.2 ⟨u, u.mem_all, decide_eq_true ⟨raw, h⟩⟩
  obtain ⟨v, hv⟩ := Option.isSome_iff_exists.1 hany
  obtain ⟨hp, before, after, hall, hbefore⟩ := List.find?_eq_some_iff_append.1 hv
  obtain ⟨raw, hraw⟩ := of_decide_eq_true hp
  refine ⟨v, raw, hraw, before, after, hall, fun u hu raw' hm => ?_⟩
  simpa [p] using mt (decide_eq_true (p := ∃ raw, Malformed env stem u raw))
    (by simpa [p] using hbefore u hu) ⟨raw', hm⟩

theorem load_of_firstMalformed {v : Variable} {raw : String}
    (h : FirstMalformed env stem v raw) (base : Settings) :
    Settings.load env stem base = .error (.invalidValue (v.key stem) raw) := by
  obtain ⟨hv, before, after, hall, hbefore⟩ := h
  rw [Settings.load, override_of_malformed changes_readBy hall hbefore hv]

theorem load_of_wellFormed (h : ∀ v raw, ¬Malformed env stem v raw) (base : Settings) :
    Settings.load env stem base =
      (overridden env stem base).check.map fun _ => overridden env stem base := by
  rw [Settings.load, override_of_wellFormed changes_readBy fun v _ => h v, foldl_changes]
  cases hcheck : (overridden env stem base).check <;> simp only [hcheck] <;> rfl

theorem load_eq_ok_iff {s : Settings} :
    Settings.load env stem base = .ok s ↔ (∀ v raw, ¬Malformed env stem v raw) ∧
      s = overridden env stem base ∧ s.check = .ok () := by
  constructor
  · intro hload
    have hwell : ∀ v raw, ¬Malformed env stem v raw := by
      intro u raw' hu
      obtain ⟨v, raw, hv⟩ := exists_firstMalformed hu
      rw [load_of_firstMalformed hv] at hload
      cases hload
    rw [load_of_wellFormed hwell] at hload
    cases hcheck : (overridden env stem base).check with
    | ok _ =>
      rw [hcheck] at hload
      cases hload
      exact ⟨hwell, rfl, hcheck⟩
    | error e => rw [hcheck] at hload; cases hload
  · rintro ⟨hwell, rfl, hcheck⟩
    rw [load_of_wellFormed hwell, hcheck]
    rfl

theorem override_congr {vs : List Variable} {entries : List (String × Change)}
    (R : List.Forall₂ ReadBy vs entries)
    (h : ∀ v : Variable, env.text? (v.key stem) = env'.text? (v.key stem)) :
    override env stem base entries = override env' stem base entries := by
  induction R generalizing base with
  | nil => rfl
  | @cons v entry vs entries hv R ih =>
    have htext := h v
    rw [Variable.key, ← hv.1] at htext
    simp only [override, readSetting, htext, ih]

/-- Only the eleven variables are read. -/
theorem load_congr (h : ∀ v : Variable, env.text? (v.key stem) = env'.text? (v.key stem))
    (base : Settings) : Settings.load env stem base = Settings.load env' stem base := by
  simp only [Settings.load, override_congr changes_readBy h]

theorem overridden_congr
    (h : ∀ v : Variable, env.setting? (v.key stem) = env'.setting? (v.key stem)) :
    overridden env stem base = overridden env' stem base := by
  simp only [overridden, seconds?, millis?, number?, count?, whole?, h]

theorem load_ok_congr
    (h : ∀ v : Variable, env.setting? (v.key stem) = env'.setting? (v.key stem)) {s : Settings} :
    Settings.load env stem base = .ok s ↔ Settings.load env' stem base = .ok s := by
  have hwell : (∀ v raw, ¬Malformed env stem v raw) ↔ ∀ v raw, ¬Malformed env' stem v raw := by
    simp only [← not_exists, exists_malformed, h]
  rw [load_eq_ok_iff, load_eq_ok_iff, hwell, overridden_congr h]

/-- A base that no variable changes is loaded if it passes its check. -/
theorem load_of_unset (h : ∀ v : Variable, env.setting? (v.key stem) = none) (base : Settings) :
    Settings.load env stem base = base.check.map fun _ => base := by
  have hwell : ∀ v raw, ¬Malformed env stem v raw := by
    intro v raw hraw
    obtain ⟨text, htext, -⟩ := exists_malformed.1 ⟨raw, hraw⟩
    rw [h v] at htext
    cases htext
  have hbase : overridden env stem base = base := by
    simp [overridden, seconds?, millis?, number?, count?, whole?, h]
  rw [load_of_wellFormed hwell, hbase]

/-- What passes its check has no zero interval and no undefined number in it, and its first wait
is not above its greatest. -/
theorem Settings.sound_of_check {s : Settings} (h : s.check = .ok ()) :
    0 < s.startupRetryDelay.nanos ∧ 0 < s.minRefreshInterval.nanos ∧ 0 < s.renewTimeout.nanos ∧
      (∀ i, s.refreshInterval = some i → 0 < i.nanos) ∧ 0 < s.backoff.initialInterval.nanos ∧
      (∀ negative, s.backoff.multiplier ≠ .nan negative) ∧
      (∀ negative, s.backoff.randomizationFactor ≠ .nan negative) ∧
      s.backoff.initialInterval ≤ s.backoff.maxInterval := by
  obtain ⟨hdelay, hmin, htimeout, hinterval, hbackoff⟩ := Settings.check_eq_ok.1 h
  obtain ⟨hinitial, hmultiplier, hfactor, hmax⟩ := Backoff.Settings.check_eq_ok.1 hbackoff
  exact ⟨hdelay, hmin, htimeout, hinterval, hinitial, Binary64.ne_nan_of_le hmultiplier,
    Binary64.ne_nan_of_le (Bool.and_eq_true_iff.1 hfactor).1, hmax⟩

/-- **Loading refresh settings.** A malformed variable is reported, the first in the order of
reading and with its text as it was set. If no variable is malformed, the settings are the base with
the fields of those variables replaced that are set and not blank, if these pass their check, else
the check's error is reported. So all that is loaded passes its check, nothing but the eleven
variables is read, blanks around a text change nothing about the settings loaded, and if all eleven
are unset or blank, the settings are the base. -/
theorem load_follows_variables (env : Environment) (stem : String) (base : Settings) :
    (∀ u raw', Malformed env stem u raw' → ∃ v raw, FirstMalformed env stem v raw ∧
      Settings.load env stem base = .error (.invalidValue (v.key stem) raw)) ∧
    ((∀ u raw', ¬Malformed env stem u raw') →
      (∀ s, Settings.load env stem base = .ok s ↔
        s = overridden env stem base ∧ (overridden env stem base).check = .ok ()) ∧
      ∀ e, Settings.load env stem base = .error e ↔ (overridden env stem base).check = .error e) ∧
    (∀ s, Settings.load env stem base = .ok s → s.check = .ok () ∧
      0 < s.startupRetryDelay.nanos ∧ 0 < s.minRefreshInterval.nanos ∧ 0 < s.renewTimeout.nanos ∧
      (∀ i, s.refreshInterval = some i → 0 < i.nanos) ∧ 0 < s.backoff.initialInterval.nanos ∧
      (∀ negative, s.backoff.multiplier ≠ .nan negative) ∧
      (∀ negative, s.backoff.randomizationFactor ≠ .nan negative) ∧
      s.backoff.initialInterval ≤ s.backoff.maxInterval) ∧
    (∀ env' : Environment, (∀ v : Variable, env'.text? (v.key stem) = env.text? (v.key stem)) →
      Settings.load env' stem base = Settings.load env stem base) ∧
    (∀ env' : Environment,
      (∀ v : Variable, env'.setting? (v.key stem) = env.setting? (v.key stem)) →
      ∀ s, Settings.load env' stem base = .ok s ↔ Settings.load env stem base = .ok s) ∧
    ((∀ v : Variable, env.setting? (v.key stem) = none) →
      Settings.load env stem base = base.check.map fun _ => base) := by
  refine ⟨fun u raw' hu => ?reported, fun hwell => ?replaced, fun s hs => ?checked,
    fun env' h => load_congr h base, fun env' h s => load_ok_congr h, fun h => load_of_unset h base⟩
  case reported =>
    obtain ⟨v, raw, hv⟩ := exists_firstMalformed hu
    exact ⟨v, raw, hv, load_of_firstMalformed hv base⟩
  case replaced =>
    rw [load_of_wellFormed hwell]
    cases (overridden env stem base).check with
    | ok _ => simp [Except.map, eq_comm]
    | error e => simp [Except.map]
  case checked =>
    have hcheck := (load_eq_ok_iff.1 hs).2.2
    exact ⟨hcheck, Settings.sound_of_check hcheck⟩

/-- A text with blanks around it, a limit turned off, and a blank text. -/
def spacedVariables : Environment := ⟨[("KEEPER_LOOKAHEAD_SECS", " 60 ".toUTF8),
  ("KEEPER_BACKOFF_MAX_ELAPSED_SECS", "0".toUTF8), ("KEEPER_BACKOFF_MAX_MS", "\t".toUTF8)]⟩

/-- Two malformed texts, that of the later variable first. -/
def wordyVariables : Environment := ⟨[("KEEPER_BACKOFF_MULTIPLIER", "twice".toUTF8),
  ("KEEPER_RENEW_TIMEOUT_SECS", "5s ".toUTF8)]⟩

theorem load_spaced_and_wordy :
    (Settings.load spacedVariables "KEEPER" .standard = .ok
      { Settings.standard with
        lookahead := .ofSeconds 60
        backoff := { Settings.standard.backoff with maxElapsedTime := none } }) ∧
    ∃ v raw, FirstMalformed wordyVariables "KEEPER" v raw ∧
      Settings.load wordyVariables "KEEPER" .standard =
        .error (.invalidValue (v.key "KEEPER") raw) := by
  have hwell : ∀ v raw, ¬Malformed spacedVariables "KEEPER" v raw := by
    intro v raw hraw
    obtain ⟨text, htext, hvalue⟩ := exists_malformed.1 ⟨raw, hraw⟩
    have hall : (spacedVariables.setting? (v.key "KEEPER")).all v.isValue = true := by
      cases v <;> decide +kernel
    rw [htext] at hall
    exact hvalue hall
  have hwordy : Malformed wordyVariables "KEEPER" .renewTimeout "5s " := by
    refine ⟨?_, ?_, ?_⟩ <;> decide +kernel
  refine ⟨?_, (load_follows_variables wordyVariables "KEEPER" .standard).1 _ _ hwordy⟩
  refine ((load_follows_variables spacedVariables "KEEPER" .standard).2.1 hwell).1 _ |>.2 ⟨?_, ?_⟩
  all_goals decide +kernel

end Refresh

end CredentialKeeper
