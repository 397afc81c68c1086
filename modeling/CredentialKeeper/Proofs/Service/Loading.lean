import CredentialKeeper.Proofs.Manager.Opening
import CredentialKeeper.Proofs.Refresh.Loading
import CredentialKeeper.Proofs.X509.Dates
import CredentialKeeper.Service.Gateways

/-! # What variables make of the service's settings

When each part of the settings is loaded and what it then holds. What is loaded is fit for use: the
source of certificates accepts its settings and no manager refuses its own. The two gateways' parts
are apart: the variables of one have no influence on the other. -/

namespace CredentialKeeper

/-! ## The certificate's settings -/

namespace Apns

variable {env env' : Environment}

theorem Settings.check_eq_ok {s : Settings} :
    s.check = .ok () ↔ Text.trim s.certificatePath ≠ "" ∧ Text.trim s.privateKeyPath ≠ "" ∧
      Text.trim s.bundleId ≠ "" := by
  simp only [check, isBlank, decide_eq_true_eq]
  split_ifs with hcertificate hkey hbundle
  · exact ⟨nofun, fun h => absurd hcertificate h.1⟩
  · exact ⟨nofun, fun h => absurd hkey h.2.1⟩
  · exact ⟨nofun, fun h => absurd hbundle h.2.2⟩
  · exact ⟨fun _ => ⟨hcertificate, hkey, hbundle⟩, fun _ => rfl⟩

theorem newSource_eq_ok {s : Settings} :
    newSource s = .ok (certificateSource s) ↔ s.check = .ok () := by
  unfold newSource
  cases s.check with
  | ok _ => simp
  | error e => simp

theorem Settings.required_eq_ok {key text : String} :
    required env key = .ok text ↔ env.text? key = some text := by
  unfold required
  cases env.text? key <;> simp

theorem Settings.loadProduction_eq_ok {b : Bool} :
    loadProduction env = .ok b ↔ (env.text? "APNS_PRODUCTION" = none ∧ b = false) ∨
      (env.text? "APNS_PRODUCTION" = some "false" ∧ b = false) ∨
      (env.text? "APNS_PRODUCTION" = some "true" ∧ b = true) := by
  unfold loadProduction parseBool?
  cases env.text? "APNS_PRODUCTION" with
  | none => simp [eq_comm]
  | some raw =>
    by_cases htrue : raw = "true"
    · subst htrue
      simp [eq_comm]
    by_cases hfalse : raw = "false"
    · subst hfalse
      simp [eq_comm]
    simp [htrue, hfalse]

/-- The certificate's settings are those in the variables, if they are all there and not blank and
the gateway is one of the two. -/
theorem Settings.load_eq_ok {s : Settings} :
    load env = .ok s ↔ loadProduction env = .ok s.isProduction ∧
      env.text? "APNS_CERTIFICATE_PATH" = some s.certificatePath ∧
      env.text? "APNS_PRIVATE_KEY_PATH" = some s.privateKeyPath ∧
      env.text? "APNS_BUNDLE_ID" = some s.bundleId ∧ s.expiryWarning = standardWarning ∧
      s.check = .ok () := by
  simp only [← required_eq_ok, load, bind_eq_ok_iff, pure, Except.pure, Except.ok.injEq]
  constructor
  · rintro ⟨_, hproduction, _, hcertificate, _, hkey, _, hbundle, _, hcheck, rfl⟩
    exact ⟨hproduction, hcertificate, hkey, hbundle, rfl, hcheck⟩
  · obtain ⟨certificatePath, privateKeyPath, bundleId, isProduction, _⟩ := s
    rintro ⟨hproduction, hcertificate, hkey, hbundle, rfl, hcheck⟩
    exact ⟨_, hproduction, _, hcertificate, _, hkey, _, hbundle, _, hcheck, rfl⟩

end Apns

/-- Two environments differ in nothing but variables whose names begin with the stem. -/
def Environment.AgreeBeyond (stem : String) (env env' : Environment) : Prop :=
  ∀ key : String, ¬stem.toList <+: key.toList → env.text? key = env'.text? key

namespace Service

open Manager

variable {env env' : Environment}

/-! ## The parts -/

theorem LogFormat.load_eq_ok {format : LogFormat} :
    LogFormat.load env = .ok format ↔
      (env.text? "LOG_FORMAT" = none ∧ format = .text) ∨
      (env.text? "LOG_FORMAT" = some "text" ∧ format = .text) ∨
      (env.text? "LOG_FORMAT" = some "json" ∧ format = .json) := by
  unfold LogFormat.load
  cases env.text? "LOG_FORMAT" with
  | none => simp [eq_comm]
  | some raw =>
    by_cases htext : raw = "text"
    · subst htext
      simp [eq_comm]
    by_cases hjson : raw = "json"
    · subst hjson
      simp [eq_comm]
    simp [htext, hjson]

theorem ApnsSettings.load_eq_some {a : ApnsSettings} :
    ApnsSettings.load env = .ok (some a) ↔ Apns.Settings.load env = .ok a.gateway ∧
      Refresh.Settings.forCertificates.load env "APNS_REFRESH" = .ok a.refresh := by
  obtain ⟨gateway, refresh⟩ := a
  unfold ApnsSettings.load
  split
  next hpath =>
    refine ⟨nofun, fun h => ?_⟩
    rw [(Apns.Settings.load_eq_ok.1 h.1).2.1] at hpath
    cases hpath
  next =>
    cases Apns.Settings.load env with
    | error e => simp
    | ok gateway' =>
      cases Refresh.Settings.forCertificates.load env "APNS_REFRESH" <;> simp

theorem ApnsSettings.load_eq_none :
    ApnsSettings.load env = .ok none ↔ env.text? "APNS_CERTIFICATE_PATH" = none := by
  unfold ApnsSettings.load
  split
  next hpath => simp [hpath]
  next hpath =>
    cases Apns.Settings.load env with
    | error e => simp [hpath]
    | ok gateway =>
      cases Refresh.Settings.forCertificates.load env "APNS_REFRESH" <;> simp [hpath]

theorem FcmSettings.load_eq_some {f : FcmSettings} :
    FcmSettings.load env = .ok (some f) ↔
      env.text? "FCM_SERVICE_ACCOUNT_PATH" = some f.accountPath ∧
      env.text? "FCM_SCOPE" = f.scope ∧
      Refresh.Settings.forAccessTokens.load env "FCM_REFRESH" = .ok f.refresh := by
  obtain ⟨accountPath, scope, refresh⟩ := f
  unfold FcmSettings.load
  split
  next hpath => simp [hpath]
  next accountPath' hpath =>
    cases Refresh.Settings.forAccessTokens.load env "FCM_REFRESH" <;> simp [hpath]

theorem FcmSettings.load_eq_none :
    FcmSettings.load env = .ok none ↔ env.text? "FCM_SERVICE_ACCOUNT_PATH" = none := by
  unfold FcmSettings.load
  split
  next hpath => simp [hpath]
  next hpath =>
    cases Refresh.Settings.forAccessTokens.load env "FCM_REFRESH" <;> simp [hpath]

/-- The settings are those of the parts, one of which at least is there. -/
theorem Settings.load_eq_ok {s : Settings} :
    Settings.load env = .ok s ↔ LogFormat.load env = .ok s.logFormat ∧
      ApnsSettings.load env = .ok s.apns ∧ FcmSettings.load env = .ok s.fcm ∧
      s.surroundings = (env.text? "APP_ENV").getD "development" ∧
      (s.apns.isSome ∨ s.fcm.isSome) := by
  obtain ⟨surroundings, logFormat, apns, fcm⟩ := s
  unfold Settings.load
  cases LogFormat.load env with
  | error e => simp
  | ok logFormat' =>
  cases ApnsSettings.load env with
  | error e => simp
  | ok apns' =>
  cases FcmSettings.load env with
  | error e => simp
  | ok fcm' =>
  have hany (a : Option ApnsSettings) (f : Option FcmSettings) :
      (a.isSome ∨ f.isSome) ↔ ¬(a.isNone && f.isNone) = true := by
    cases a <;> cases f <;> simp
  simp only [hany]
  split
  next hnone =>
    refine ⟨nofun, ?_⟩
    rintro ⟨-, happ, hfcm, -, hsome⟩
    cases happ
    cases hfcm
    exact absurd hnone hsome
  next hsome =>
    constructor
    · intro h
      cases h
      exact ⟨rfl, rfl, rfl, rfl, hsome⟩
    · rintro ⟨hformat, happ, hfcm, rfl, -⟩
      cases hformat
      cases happ
      cases hfcm
      rfl

/-! ## When the settings are loaded -/

/-- What the gateway of certificates needs besides a certificate's path. -/
structure ApnsReady (env : Environment) (certificatePath : String) : Prop where
  certificate : Text.trim certificatePath ≠ ""
  key : ∃ path, env.text? "APNS_PRIVATE_KEY_PATH" = some path ∧ Text.trim path ≠ ""
  bundle : ∃ bundleId, env.text? "APNS_BUNDLE_ID" = some bundleId ∧ Text.trim bundleId ≠ ""
  production : env.text? "APNS_PRODUCTION" = none ∨ env.text? "APNS_PRODUCTION" = some "false" ∨
    env.text? "APNS_PRODUCTION" = some "true"
  refresh : ∃ refresh, Refresh.Settings.forCertificates.load env "APNS_REFRESH" = .ok refresh

theorem exists_apns_load {certificatePath : String}
    (hpath : env.text? "APNS_CERTIFICATE_PATH" = some certificatePath) :
    (∃ apns, ApnsSettings.load env = .ok apns) ↔ ApnsReady env certificatePath := by
  constructor
  · rintro ⟨apns, hload⟩
    cases apns with
    | none => rw [ApnsSettings.load_eq_none.1 hload] at hpath; cases hpath
    | some a =>
      obtain ⟨hgateway, hrefresh⟩ := ApnsSettings.load_eq_some.1 hload
      obtain ⟨hproduction, hcertificate, hkey, hbundle, -, hcheck⟩ :=
        Apns.Settings.load_eq_ok.1 hgateway
      obtain ⟨hblank, hblankKey, hblankBundle⟩ := Apns.Settings.check_eq_ok.1 hcheck
      cases hcertificate.symm.trans hpath
      refine ⟨hblank, ⟨_, hkey, hblankKey⟩, ⟨_, hbundle, hblankBundle⟩, ?_, ⟨_, hrefresh⟩⟩
      exact (Apns.Settings.loadProduction_eq_ok.1 hproduction).imp (·.1) (·.imp (·.1) (·.1))
  · rintro ⟨hblank, ⟨key, hkey, hblankKey⟩, ⟨bundleId, hbundle, hblankBundle⟩, hproduction,
      refresh, hrefresh⟩
    have hloads : ∃ isProduction, Apns.Settings.loadProduction env = .ok isProduction := by
      simp only [Apns.Settings.loadProduction_eq_ok]
      rcases hproduction with h | h | h
      · exact ⟨false, .inl ⟨h, rfl⟩⟩
      · exact ⟨false, .inr (.inl ⟨h, rfl⟩)⟩
      · exact ⟨true, .inr (.inr ⟨h, rfl⟩)⟩
    obtain ⟨isProduction, hloads⟩ := hloads
    let gateway : Apns.Settings :=
      ⟨certificatePath, key, bundleId, isProduction, Apns.Settings.standardWarning⟩
    have hcheck : gateway.check = .ok () :=
      Apns.Settings.check_eq_ok.2 ⟨hblank, hblankKey, hblankBundle⟩
    exact ⟨some ⟨gateway, refresh⟩, ApnsSettings.load_eq_some.2
      ⟨Apns.Settings.load_eq_ok.2 ⟨hloads, hpath, hkey, hbundle, rfl, hcheck⟩, hrefresh⟩⟩

theorem exists_fcm_load {accountPath : String}
    (hpath : env.text? "FCM_SERVICE_ACCOUNT_PATH" = some accountPath) :
    (∃ fcm, FcmSettings.load env = .ok fcm) ↔
      ∃ refresh, Refresh.Settings.forAccessTokens.load env "FCM_REFRESH" = .ok refresh := by
  constructor
  · rintro ⟨fcm, hload⟩
    cases fcm with
    | none => rw [FcmSettings.load_eq_none.1 hload] at hpath; cases hpath
    | some f => exact ⟨_, (FcmSettings.load_eq_some.1 hload).2.2⟩
  · rintro ⟨refresh, hrefresh⟩
    exact ⟨some ⟨accountPath, env.text? "FCM_SCOPE", refresh⟩,
      FcmSettings.load_eq_some.2 ⟨hpath, rfl, hrefresh⟩⟩

theorem isSome_apns {apns : Option ApnsSettings} (h : ApnsSettings.load env = .ok apns) :
    apns.isSome ↔ (env.text? "APNS_CERTIFICATE_PATH").isSome := by
  cases apns with
  | none => simp [ApnsSettings.load_eq_none.1 h]
  | some a =>
    have hgateway := (ApnsSettings.load_eq_some.1 h).1
    simp [(Apns.Settings.load_eq_ok.1 hgateway).2.1]

theorem isSome_fcm {fcm : Option FcmSettings} (h : FcmSettings.load env = .ok fcm) :
    fcm.isSome ↔ (env.text? "FCM_SERVICE_ACCOUNT_PATH").isSome := by
  cases fcm with
  | none => simp [FcmSettings.load_eq_none.1 h]
  | some f => simp [(FcmSettings.load_eq_some.1 h).1]

theorem exists_load :
    (∃ s, Settings.load env = .ok s) ↔
      (env.text? "LOG_FORMAT" = none ∨ env.text? "LOG_FORMAT" = some "text" ∨
        env.text? "LOG_FORMAT" = some "json") ∧
      ((env.text? "APNS_CERTIFICATE_PATH").isSome ∨
        (env.text? "FCM_SERVICE_ACCOUNT_PATH").isSome) ∧
      (∀ path, env.text? "APNS_CERTIFICATE_PATH" = some path → ApnsReady env path) ∧
      (∀ path, env.text? "FCM_SERVICE_ACCOUNT_PATH" = some path →
        ∃ refresh, Refresh.Settings.forAccessTokens.load env "FCM_REFRESH" = .ok refresh) := by
  constructor
  · rintro ⟨s, hs⟩
    obtain ⟨hformat, happ, hfcm, -, hsome⟩ := Settings.load_eq_ok.1 hs
    refine ⟨?_, hsome.imp (isSome_apns happ).1 (isSome_fcm hfcm).1,
      fun path hpath => (exists_apns_load hpath).1 ⟨_, happ⟩,
      fun path hpath => (exists_fcm_load hpath).1 ⟨_, hfcm⟩⟩
    exact (LogFormat.load_eq_ok.1 hformat).imp (·.1) (·.imp (·.1) (·.1))
  · rintro ⟨hformat, hset, hready, hrefresh⟩
    have hformats : ∃ format, LogFormat.load env = .ok format := by
      simp only [LogFormat.load_eq_ok]
      rcases hformat with h | h | h
      · exact ⟨.text, .inl ⟨h, rfl⟩⟩
      · exact ⟨.text, .inr (.inl ⟨h, rfl⟩)⟩
      · exact ⟨.json, .inr (.inr ⟨h, rfl⟩)⟩
    have happs : ∃ apns, ApnsSettings.load env = .ok apns := by
      cases hpath : env.text? "APNS_CERTIFICATE_PATH" with
      | none => exact ⟨none, ApnsSettings.load_eq_none.2 hpath⟩
      | some path => exact (exists_apns_load hpath).2 (hready path hpath)
    have hfcms : ∃ fcm, FcmSettings.load env = .ok fcm := by
      cases hpath : env.text? "FCM_SERVICE_ACCOUNT_PATH" with
      | none => exact ⟨none, FcmSettings.load_eq_none.2 hpath⟩
      | some path => exact (exists_fcm_load hpath).2 (hrefresh path hpath)
    obtain ⟨format, hformat⟩ := hformats
    obtain ⟨apns, happ⟩ := happs
    obtain ⟨fcm, hfcm⟩ := hfcms
    exact ⟨⟨_, format, apns, fcm⟩, Settings.load_eq_ok.2 ⟨hformat, happ, hfcm, rfl,
      hset.imp (isSome_apns happ).2 (isSome_fcm hfcm).2⟩⟩

/-! ## What is loaded is fit for use -/

theorem refresh_check {base refresh : Refresh.Settings} {stem : String}
    (h : base.load env stem = .ok refresh) : refresh.check = .ok () :=
  (Refresh.load_eq_ok_iff.1 h).2.2

/-- A manager prepared in a post starts. -/
def Post.Starts {σ α β : Type} (post : Post σ α β) : Prop :=
  ∀ now opening, post.prepare now = .ok opening →
    ∃ station notices, Station.begin post now opening = .station station notices

/-- Settings are good for starting any manager and for its backoff. -/
structure Startable (refresh : Refresh.Settings) : Prop where
  check : refresh.check = .ok ()
  backoff : Backoff.Exponential.new refresh.backoff = .ok (.fresh refresh.backoff)
  starts : ∀ (σ α : Type) (hasRuntime : Bool) (source : Source σ α) (wall : Nat → Option Moment)
    (memory : σ) (draws : List Binary64) (limit : Nat) (e : Refresh.SettingsError)
    (history : List (Nat × Effect α)),
    startExponential hasRuntime source refresh wall memory draws limit ≠
      .refused (.invalidConfig e) history

theorem startable_of_check {refresh : Refresh.Settings} (h : refresh.check = .ok ()) :
    Startable refresh := by
  refine ⟨h, ?_, fun σ α hasRuntime source wall memory draws limit e history he => ?_⟩
  · rw [Backoff.Exponential.new, (Refresh.Settings.check_eq_ok.1 h).2.2.2.2]
  · exact (startExponentialRefusal?_refuses.invalidConfig_iff hasRuntime).1 ⟨e, history, he⟩ h

theorem begin_eq_station {σ α β : Type} (post : Post σ α β) (now : Nat) (opening : Opening σ α β)
    (h : opening.plan.settings.check = .ok ()) :
    ∃ station notices, Station.begin post now opening = .station station notices := by
  have hnone : startExponentialRefusal? opening.plan.settings true = none :=
    startExponentialRefusal?_refuses.of_ok h true
  rw [Station.begin, hnone]
  exact ⟨_, _, rfl⟩

theorem certificatePost_prepare {σ : Type} (w : Surroundings σ) {a : ApnsSettings}
    (h : a.gateway.check = .ok ()) (now : Nat) :
    (certificatePost w a).prepare now =
      .ok (openingOf w (Apns.certificateSource a.gateway) (w.files now) a.refresh) := by
  simp only [certificatePost, Apns.newSource_eq_ok.2 h]

theorem certificatePost_starts {σ : Type} (w : Surroundings σ) {a : ApnsSettings}
    (h : a.gateway.check = .ok ()) (hrefresh : a.refresh.check = .ok ()) :
    (certificatePost w a).Starts := by
  intro now opening hopening
  rw [certificatePost_prepare w h] at hopening
  cases hopening
  exact begin_eq_station _ _ _ hrefresh

theorem tokenPost_starts {σ : Type} (w : Surroundings σ) {f : FcmSettings}
    (hrefresh : f.refresh.check = .ok ()) : (tokenPost w f).Starts := by
  intro now opening hopening
  simp only [tokenPost] at hopening
  split at hopening
  next => cases hopening
  next =>
    cases hopening
    exact begin_eq_station _ _ _ hrefresh

/-! ## The gateways' parts are apart -/

theorem ApnsSettings.load_congr (h : env.AgreeBeyond "FCM_" env') :
    ApnsSettings.load env = ApnsSettings.load env' := by
  have hkeys (v : Refresh.Variable) :
      env.text? (v.key "APNS_REFRESH") = env'.text? (v.key "APNS_REFRESH") :=
    h _ (by cases v <;> decide +kernel)
  have hrefresh := Refresh.load_congr hkeys .forCertificates
  simp only [load, Apns.Settings.load, Apns.Settings.loadProduction, Apns.Settings.required,
    hrefresh, h "APNS_CERTIFICATE_PATH" (by decide), h "APNS_PRIVATE_KEY_PATH" (by decide),
    h "APNS_BUNDLE_ID" (by decide), h "APNS_PRODUCTION" (by decide)]

theorem FcmSettings.load_congr (h : env.AgreeBeyond "APNS_" env') :
    FcmSettings.load env = FcmSettings.load env' := by
  have hkeys (v : Refresh.Variable) :
      env.text? (v.key "FCM_REFRESH") = env'.text? (v.key "FCM_REFRESH") :=
    h _ (by cases v <;> decide +kernel)
  have hrefresh := Refresh.load_congr hkeys .forAccessTokens
  simp only [load, hrefresh, h "FCM_SERVICE_ACCOUNT_PATH" (by decide), h "FCM_SCOPE" (by decide)]

/-- **Loading the settings of the service.** They are loaded if and only if the log's format is one
of two or left open, a gateway is named by its path, and every gateway that is named finds what it
needs. The parts are then there for the gateways that are named, and hold what their own variables
say over their own base. All that is loaded is fit for use: the source of certificates accepts its
settings, and no manager or backoff refuses its own. The variables of one gateway have no influence
on the part of the other and on the rest. -/
theorem load_complete_and_isolated (env : Environment) :
    ((∃ s, Settings.load env = .ok s) ↔
      (env.text? "LOG_FORMAT" = none ∨ env.text? "LOG_FORMAT" = some "text" ∨
        env.text? "LOG_FORMAT" = some "json") ∧
      ((env.text? "APNS_CERTIFICATE_PATH").isSome ∨
        (env.text? "FCM_SERVICE_ACCOUNT_PATH").isSome) ∧
      (∀ path, env.text? "APNS_CERTIFICATE_PATH" = some path → ApnsReady env path) ∧
      (∀ path, env.text? "FCM_SERVICE_ACCOUNT_PATH" = some path →
        ∃ refresh, Refresh.Settings.forAccessTokens.load env "FCM_REFRESH" = .ok refresh)) ∧
    (∀ s, Settings.load env = .ok s →
      (s.apns.isSome ↔ (env.text? "APNS_CERTIFICATE_PATH").isSome) ∧
      (s.fcm.isSome ↔ (env.text? "FCM_SERVICE_ACCOUNT_PATH").isSome) ∧
      (∀ a, s.apns = some a → Apns.Settings.load env = .ok a.gateway ∧
        Refresh.Settings.forCertificates.load env "APNS_REFRESH" = .ok a.refresh ∧
        Apns.newSource a.gateway = .ok (Apns.certificateSource a.gateway) ∧
        Startable a.refresh ∧
        ∀ (σ : Type) (w : Surroundings σ), (certificatePost w a).Starts ∧
          ∀ now, ∃ opening, (certificatePost w a).prepare now = .ok opening) ∧
      (∀ f, s.fcm = some f → env.text? "FCM_SERVICE_ACCOUNT_PATH" = some f.accountPath ∧
        env.text? "FCM_SCOPE" = f.scope ∧
        Refresh.Settings.forAccessTokens.load env "FCM_REFRESH" = .ok f.refresh ∧
        Startable f.refresh ∧ ∀ (σ : Type) (w : Surroundings σ), (tokenPost w f).Starts)) ∧
    ∀ env' s s', Settings.load env = .ok s → Settings.load env' = .ok s' →
      (env.AgreeBeyond "APNS_" env' → s.fcm = s'.fcm ∧ s.surroundings = s'.surroundings ∧
        s.logFormat = s'.logFormat) ∧
      (env.AgreeBeyond "FCM_" env' → s.apns = s'.apns ∧ s.surroundings = s'.surroundings ∧
        s.logFormat = s'.logFormat) := by
  refine ⟨exists_load, fun s hs => ?held, fun env' s s' hs hs' => ?apart⟩
  case held =>
    obtain ⟨-, happ, hfcm, -, -⟩ := Settings.load_eq_ok.1 hs
    refine ⟨isSome_apns happ, isSome_fcm hfcm, fun a ha => ?_, fun f hf => ?_⟩
    · obtain ⟨hgateway, hrefresh⟩ := ApnsSettings.load_eq_some.1 (ha ▸ happ)
      have hcheck := (Apns.Settings.load_eq_ok.1 hgateway).2.2.2.2.2
      exact ⟨hgateway, hrefresh, Apns.newSource_eq_ok.2 hcheck,
        startable_of_check (refresh_check hrefresh), fun σ w =>
          ⟨certificatePost_starts w hcheck (refresh_check hrefresh),
            fun now => ⟨_, certificatePost_prepare w hcheck now⟩⟩⟩
    · obtain ⟨hpath, hscope, hrefresh⟩ := FcmSettings.load_eq_some.1 (hf ▸ hfcm)
      exact ⟨hpath, hscope, hrefresh, startable_of_check (refresh_check hrefresh),
        fun σ w => tokenPost_starts w (refresh_check hrefresh)⟩
  case apart =>
    obtain ⟨hformat, happ, hfcm, hsurroundings, -⟩ := Settings.load_eq_ok.1 hs
    obtain ⟨hformat', happ', hfcm', hsurroundings', -⟩ := Settings.load_eq_ok.1 hs'
    have hrest (h : env.text? "LOG_FORMAT" = env'.text? "LOG_FORMAT" ∧
        env.text? "APP_ENV" = env'.text? "APP_ENV") :
        s.surroundings = s'.surroundings ∧ s.logFormat = s'.logFormat := by
      rw [LogFormat.load, h.1] at hformat
      exact ⟨by rw [hsurroundings, hsurroundings', h.2],
        Except.ok.inj (hformat.symm.trans hformat')⟩
    refine ⟨fun h => ⟨?_, hrest ⟨h _ (by decide), h _ (by decide)⟩⟩,
      fun h => ⟨?_, hrest ⟨h _ (by decide), h _ (by decide)⟩⟩⟩
    · rw [FcmSettings.load_congr h] at hfcm
      exact Except.ok.inj (hfcm.symm.trans hfcm')
    · rw [ApnsSettings.load_congr h] at happ
      exact Except.ok.inj (happ.symm.trans happ')

/-- Both gateways, that of certificates in use or on trial. -/
def bothGateways (isProduction : Bool) : Environment :=
  ⟨[("APNS_CERTIFICATE_PATH", "push.pem".toUTF8), ("APNS_PRIVATE_KEY_PATH", "push.key".toUTF8),
    ("APNS_BUNDLE_ID", "app.keeper".toUTF8), ("APNS_PRODUCTION", (toString isProduction).toUTF8),
    ("FCM_SERVICE_ACCOUNT_PATH", "account.json".toUTF8),
    ("FCM_REFRESH_LOOKAHEAD_SECS", "60".toUTF8)]⟩

def bothSettings (isProduction : Bool) : Settings where
  surroundings := "development"
  logFormat := .text
  apns := some ⟨⟨"push.pem", "push.key", "app.keeper", isProduction, Apns.Settings.standardWarning⟩,
    .forCertificates⟩
  fcm := some ⟨"account.json", none,
    { Refresh.Settings.forAccessTokens with lookahead := .ofSeconds 60 }⟩

theorem load_bothGateways (isProduction : Bool) :
    Settings.load (bothGateways isProduction) = .ok (bothSettings isProduction) := by
  cases isProduction <;> decide +kernel

theorem bothGateways_agreeBeyond :
    (bothGateways false).AgreeBeyond "APNS_" (bothGateways true) := by
  intro key hkey
  have hne : (key == "APNS_PRODUCTION") = false :=
    beq_false_of_ne fun h => hkey (h ▸ by decide)
  simp only [Environment.text?, Environment.bytes?, bothGateways, List.lookup_cons, hne]

theorem tokens_apart_from_production :
    (bothGateways false).AgreeBeyond "APNS_" (bothGateways true) ∧
      (bothSettings false).fcm = (bothSettings true).fcm ∧
      (bothSettings false).apns ≠ (bothSettings true).apns ∧
      ∀ a, (bothSettings true).apns = some a → Startable a.refresh :=
  ⟨bothGateways_agreeBeyond,
    (((load_complete_and_isolated (bothGateways false)).2.2 _ _ _ (load_bothGateways false)
      (load_bothGateways true)).1 bothGateways_agreeBeyond).1,
    by decide +kernel,
    fun a ha => (((load_complete_and_isolated (bothGateways true)).2.1 _
      (load_bothGateways true)).2.2.1 a ha).2.2.2.1⟩

end Service

end CredentialKeeper
