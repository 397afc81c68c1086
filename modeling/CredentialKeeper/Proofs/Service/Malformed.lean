import CredentialKeeper.Proofs.Apns.Acceptance
import CredentialKeeper.Proofs.Service.Loading

/-! # Malformed variables of the service

A variable that is read and set, but to none of what it may be set to, is malformed
(`Service.Malformed`). What it is set to is any bytes. If they are a text, the settings are not
loaded and the first such variable in the order of reading is reported. Bytes that are no text are
not told from a variable that is unset (`Settings.load_without`), so a malformed variable of this
kind falls back to the default. -/

namespace CredentialKeeper

namespace Environment

variable (env : Environment)

/-- The environment with a variable unset. -/
def without (key : String) : Environment := ⟨env.entries.filter fun entry => key != entry.1⟩

variable {env}

theorem text?_eq_some {key text : String} :
    env.text? key = some text ↔ env.bytes? key = some text.toUTF8 := by
  simp only [text?, Option.bind_eq_some_iff, Text.fromUTF8?_eq_some, exists_eq_right]

theorem bytes?_without_self (key : String) : (env.without key).bytes? key = none := by
  rw [bytes?, List.lookup_eq_none_iff]
  intro entry hentry
  simpa using (List.mem_filter.1 hentry).2

theorem bytes?_without_of_ne {key other : String} (hne : other ≠ key) :
    (env.without key).bytes? other = env.bytes? other := by
  obtain ⟨entries⟩ := env
  simp only [bytes?, without]
  induction entries with
  | nil => rfl
  | cons entry entries ih =>
    obtain ⟨name, raw⟩ := entry
    by_cases hname : key = name
    · subst hname
      rw [List.filter_cons_of_neg (by simp), ih, List.lookup_cons, beq_false_of_ne hne]
    · rw [List.filter_cons_of_pos (by simpa using hname), List.lookup_cons, List.lookup_cons, ih]

/-- To unset a variable that reads as if it were not set changes nothing that is read. -/
theorem text?_without {key : String} (hnone : env.text? key = none) (other : String) :
    (env.without key).text? other = env.text? other := by
  by_cases hother : other = key
  · subst hother
    rw [hnone, text?, bytes?_without_self, Option.bind_none]
  · rw [text?, text?, bytes?_without_of_ne hother]

end Environment

/-- The bytes are a text that is blank or, without the blanks around it, a value of the variable's
type. -/
def Refresh.Variable.Admits (v : Refresh.Variable) (raw : ByteArray) : Prop :=
  ∃ text : String, raw = text.toUTF8 ∧ (Text.trim text = "" ∨ v.isValue (Text.trim text))

theorem Refresh.malformed_of_not_admits {env : Environment} {stem text : String} {v : Variable}
    (hset : env.bytes? (v.key stem) = some text.toUTF8) (hbad : ¬v.Admits text.toUTF8) :
    Malformed env stem v text := by
  refine ⟨Environment.text?_eq_some.2 hset, fun hblank => ?_, fun hvalue => ?_⟩
  · exact hbad ⟨text, rfl, .inl hblank⟩
  · exact hbad ⟨text, rfl, .inr hvalue⟩

namespace Service

/-- The variables with a type of their own. The others hold any text. -/
inductive Variable where
  | logFormat
  | production
  | certificates (v : Refresh.Variable)
  | tokens (v : Refresh.Variable)

namespace Variable

def key : Variable → String
  | logFormat => "LOG_FORMAT"
  | production => "APNS_PRODUCTION"
  | certificates v => v.key "APNS_REFRESH"
  | tokens v => v.key "FCM_REFRESH"

/-- A gateway's variables are read if the gateway is served. -/
def IsRead (env : Environment) : Variable → Prop
  | logFormat => True
  | production | certificates _ => (env.text? "APNS_CERTIFICATE_PATH").isSome
  | tokens _ => (env.text? "FCM_SERVICE_ACCOUNT_PATH").isSome

/-- What the variable may be set to. -/
def Admits : Variable → ByteArray → Prop
  | logFormat, raw => raw = "text".toUTF8 ∨ raw = "json".toUTF8
  | production, raw => raw = "true".toUTF8 ∨ raw = "false".toUTF8
  | certificates v, raw | tokens v, raw => v.Admits raw

end Variable

/-- The variable is read and set, but not to what it may be set to. -/
structure Malformed (env : Environment) (v : Variable) (raw : ByteArray) : Prop where
  isRead : v.IsRead env
  isSet : env.bytes? v.key = some raw
  notAdmitted : ¬v.Admits raw

variable {env env' : Environment} {text : String}

/-! ## Malformed texts, in the order of reading -/

theorem LogFormat.load_of_malformed (h : Malformed env .logFormat text.toUTF8) :
    LogFormat.load env = .error (.logFormat text) := by
  have htext : env.text? "LOG_FORMAT" = some text := Environment.text?_eq_some.2 h.isSet
  have hne : text ≠ "text" ∧ text ≠ "json" := by
    constructor
    · rintro rfl
      exact h.notAdmitted (.inl rfl)
    · rintro rfl
      exact h.notAdmitted (.inr rfl)
  simp only [LogFormat.load, htext, if_neg hne.1, if_neg hne.2]

def productionFault (text : String) : Apns.Error :=
  .settings ("APNS_PRODUCTION must be true or false, got " ++ Text.quote text)

theorem gateway_load_of_malformed (h : Malformed env .production text.toUTF8) :
    Apns.Settings.load env = .error (productionFault text) := by
  have htext : env.text? "APNS_PRODUCTION" = some text := Environment.text?_eq_some.2 h.isSet
  have hnone : parseBool? text = none := by
    unfold parseBool?
    split_ifs with htrue hfalse
    · exact absurd (.inl (congrArg _ htrue)) h.notAdmitted
    · exact absurd (.inr (congrArg _ hfalse)) h.notAdmitted
    · rfl
  have hproduction : Apns.Settings.loadProduction env = .error (productionFault text) := by
    simp only [Apns.Settings.loadProduction, htext, hnone, productionFault]
  rw [Apns.Settings.load, hproduction]
  rfl

theorem ApnsSettings.load_of_gateway_error {e : Apns.Error}
    (hread : (env.text? "APNS_CERTIFICATE_PATH").isSome)
    (hload : Apns.Settings.load env = .error e) : ApnsSettings.load env = .error (.apns e) := by
  obtain ⟨path, hpath⟩ := Option.isSome_iff_exists.1 hread
  simp only [ApnsSettings.load, hpath, hload]

theorem ApnsSettings.load_of_refresh_error {gateway : Apns.Settings} {e : Refresh.SettingsError}
    (hgateway : Apns.Settings.load env = .ok gateway)
    (hload : Refresh.Settings.forCertificates.load env "APNS_REFRESH" = .error e) :
    ApnsSettings.load env = .error (.apnsRefresh e) := by
  have hpath := (Apns.Settings.load_eq_ok.1 hgateway).2.1
  simp only [ApnsSettings.load, hpath, hgateway, hload]

theorem FcmSettings.load_of_refresh_error {e : Refresh.SettingsError}
    (hread : (env.text? "FCM_SERVICE_ACCOUNT_PATH").isSome)
    (hload : Refresh.Settings.forAccessTokens.load env "FCM_REFRESH" = .error e) :
    FcmSettings.load env = .error (.fcmRefresh e) := by
  obtain ⟨path, hpath⟩ := Option.isSome_iff_exists.1 hread
  simp only [FcmSettings.load, hpath, hload]

/-- A malformed text among the refresh settings is reported, or one that is read before it. -/
theorem exists_refresh_error {v : Refresh.Variable} {stem : String} (base : Refresh.Settings)
    (hset : env.bytes? (v.key stem) = some text.toUTF8) (hbad : ¬v.Admits text.toUTF8) :
    ∃ u raw, Refresh.FirstMalformed env stem u raw ∧
      base.load env stem = .error (.invalidValue (u.key stem) raw) := by
  obtain ⟨u, raw, hu⟩ :=
    Refresh.exists_firstMalformed (Refresh.malformed_of_not_admits hset hbad)
  exact ⟨u, raw, hu, Refresh.load_of_firstMalformed hu base⟩

namespace Settings

variable {format : LogFormat} {apns : Option ApnsSettings} {e : SettingsError}

theorem load_of_format_error (h : LogFormat.load env = .error e) :
    Settings.load env = .error e := by
  rw [Settings.load, h]

theorem load_of_apns_error (hformat : LogFormat.load env = .ok format)
    (h : ApnsSettings.load env = .error e) : Settings.load env = .error e := by
  rw [Settings.load, hformat]
  simp only [h]

theorem load_of_fcm_error (hformat : LogFormat.load env = .ok format)
    (happ : ApnsSettings.load env = .ok apns) (h : FcmSettings.load env = .error e) :
    Settings.load env = .error e := by
  rw [Settings.load, hformat]
  simp only [happ, h]

/-- Settings are loaded only if every part is. -/
theorem exists_error (h : (∃ e, LogFormat.load env = .error e) ∨
    (∃ e, ApnsSettings.load env = .error e) ∨ ∃ e, FcmSettings.load env = .error e) :
    ∃ e, Settings.load env = .error e := by
  cases hload : Settings.load env with
  | error e => exact ⟨e, rfl⟩
  | ok s =>
    obtain ⟨hformat, happ, hfcm, -⟩ := Settings.load_eq_ok.1 hload
    rcases h with ⟨e, h⟩ | ⟨e, h⟩ | ⟨e, h⟩
    · cases h.symm.trans hformat
    · cases h.symm.trans happ
    · cases h.symm.trans hfcm

/-- Nothing is read but texts. -/
theorem load_congr (h : ∀ key, env.text? key = env'.text? key) :
    Settings.load env = Settings.load env' := by
  have hformat : LogFormat.load env = LogFormat.load env' := by
    simp only [LogFormat.load, h]
  have happ : ApnsSettings.load env = ApnsSettings.load env' :=
    ApnsSettings.load_congr fun key _ => h key
  have hfcm : FcmSettings.load env = FcmSettings.load env' :=
    FcmSettings.load_congr fun key _ => h key
  simp only [Settings.load, hformat, happ, hfcm, h]

theorem load_without {key : String} (hnone : env.text? key = none) :
    Settings.load (env.without key) = Settings.load env :=
  load_congr (Environment.text?_without hnone)

end Settings

theorem exists_error_of_malformed {v : Variable} (h : Malformed env v text.toUTF8) :
    ∃ e, Settings.load env = .error e := by
  apply Settings.exists_error
  cases v with
  | logFormat => exact .inl ⟨_, LogFormat.load_of_malformed h⟩
  | production =>
    exact .inr (.inl ⟨_, ApnsSettings.load_of_gateway_error h.isRead (gateway_load_of_malformed h)⟩)
  | certificates v =>
    obtain ⟨_, _, -, hload⟩ :=
      exists_refresh_error Refresh.Settings.forCertificates h.isSet h.notAdmitted
    cases hgateway : Apns.Settings.load env with
    | error e => exact .inr (.inl ⟨_, ApnsSettings.load_of_gateway_error h.isRead hgateway⟩)
    | ok gateway => exact .inr (.inl ⟨_, ApnsSettings.load_of_refresh_error hgateway hload⟩)
  | tokens v =>
    obtain ⟨_, _, -, hload⟩ :=
      exists_refresh_error Refresh.Settings.forAccessTokens h.isSet h.notAdmitted
    exact .inr (.inr ⟨_, FcmSettings.load_of_refresh_error h.isRead hload⟩)

/-- **Malformed texts are reported.** If a variable is malformed and its bytes are a text, the
settings are not loaded. The report names the variable and shows its text: the log's format first,
then, if that is read, the choice of the APNs gateway, then the first malformed one of the refresh
settings of each gateway that is served. Bytes that are no text are read as if the variable were
not set. -/
theorem malformed_text_reported (env : Environment) :
    (∀ v text, Malformed env v (String.toUTF8 text) → ∃ e, Settings.load env = .error e) ∧
    (∀ text, Malformed env .logFormat (String.toUTF8 text) →
      Settings.load env = .error (.logFormat text)) ∧
    (∀ format, LogFormat.load env = .ok format →
      (∀ text, Malformed env .production (String.toUTF8 text) →
        Settings.load env = .error (.apns (productionFault text))) ∧
      (∀ gateway v text, Apns.Settings.load env = .ok gateway →
        Malformed env (.certificates v) (String.toUTF8 text) →
        ∃ u raw, Refresh.FirstMalformed env "APNS_REFRESH" u raw ∧
          Settings.load env =
            .error (.apnsRefresh (.invalidValue (Variable.certificates u).key raw))) ∧
      ∀ apns v text, ApnsSettings.load env = .ok apns →
        Malformed env (.tokens v) (String.toUTF8 text) →
        ∃ u raw, Refresh.FirstMalformed env "FCM_REFRESH" u raw ∧
          Settings.load env = .error (.fcmRefresh (.invalidValue (Variable.tokens u).key raw))) ∧
    ∀ key, env.text? key = none → Settings.load (env.without key) = Settings.load env := by
  refine ⟨fun v text h => exists_error_of_malformed h,
    fun text h => Settings.load_of_format_error (LogFormat.load_of_malformed h),
    fun format hformat => ⟨fun text h => ?production,
      fun gateway v text hgateway h => ?certificates, fun apns v text happ h => ?tokens⟩,
    fun key hnone => Settings.load_without hnone⟩
  case production =>
    exact Settings.load_of_apns_error hformat
      (ApnsSettings.load_of_gateway_error h.isRead (gateway_load_of_malformed h))
  case certificates =>
    obtain ⟨u, raw, hu, hload⟩ :=
      exists_refresh_error Refresh.Settings.forCertificates h.isSet h.notAdmitted
    exact ⟨u, raw, hu, Settings.load_of_apns_error hformat
      (ApnsSettings.load_of_refresh_error hgateway hload)⟩
  case tokens =>
    obtain ⟨u, raw, hu, hload⟩ :=
      exists_refresh_error Refresh.Settings.forAccessTokens h.isSet h.notAdmitted
    exact ⟨u, raw, hu, Settings.load_of_fcm_error hformat happ
      (FcmSettings.load_of_refresh_error h.isRead hload)⟩

def certificateVariables (production lookahead : ByteArray) : Environment :=
  ⟨[("APNS_CERTIFICATE_PATH", "push.pem".toUTF8), ("APNS_PRIVATE_KEY_PATH", "push.key".toUTF8),
    ("APNS_BUNDLE_ID", "app.keeper".toUTF8), ("APNS_PRODUCTION", production),
    ("APNS_REFRESH_LOOKAHEAD_SECS", lookahead)]⟩

theorem certificateVariables_read (production lookahead : ByteArray) :
    ((certificateVariables production lookahead).text? "APNS_CERTIFICATE_PATH").isSome := by
  rw [Environment.text?_eq_some.2 (rfl : Environment.bytes? _ _ = some "push.pem".toUTF8)]
  rfl

theorem malformed_production {production lookahead : ByteArray}
    (hbad : ¬Variable.production.Admits production) :
    Malformed (certificateVariables production lookahead) .production production :=
  ⟨certificateVariables_read production lookahead, rfl, hbad⟩

theorem misspelt_production_reported :
    Malformed (certificateVariables "True".toUTF8 "60".toUTF8) .production "True".toUTF8 ∧
      Settings.load (certificateVariables "True".toUTF8 "60".toUTF8) =
        .error (.apns (productionFault "True")) := by
  have hbad : Malformed (certificateVariables "True".toUTF8 "60".toUTF8) .production
      "True".toUTF8 :=
    malformed_production (not_or.2 ⟨by decide +kernel, by decide +kernel⟩)
  have hformat : LogFormat.load (certificateVariables "True".toUTF8 "60".toUTF8) = .ok .text := by
    decide +kernel
  exact ⟨hbad, ((malformed_text_reported _).2.2.1 _ hformat).1 _ hbad⟩

/-- The word `true` with a stray byte behind it, and the number 60 with one. -/
def garbledVariables : Environment :=
  certificateVariables ⟨#[116, 114, 117, 101, 255]⟩ ⟨#[54, 48, 255]⟩

/-- The service is set up for the gateway on trial and with the standard month of lookahead. -/
theorem garbled_falls_back :
    (Malformed garbledVariables .production ⟨#[116, 114, 117, 101, 255]⟩ ∧
      Malformed garbledVariables (.certificates .lookahead) ⟨#[54, 48, 255]⟩) ∧
    Settings.load garbledVariables = .ok ⟨"development", .text,
      some ⟨⟨"push.pem", "push.key", "app.keeper", false, Apns.Settings.standardWarning⟩,
        .forCertificates⟩, none⟩ ∧
    ¬∀ env v raw, Malformed env v raw → ∃ e, Settings.load env = .error e := by
  have hproduction : Malformed garbledVariables .production ⟨#[116, 114, 117, 101, 255]⟩ :=
    malformed_production (not_or.2 ⟨by decide +kernel, by decide +kernel⟩)
  have hlookahead : Malformed garbledVariables (.certificates .lookahead) ⟨#[54, 48, 255]⟩ := by
    refine ⟨certificateVariables_read _ _, rfl, ?_⟩
    rintro ⟨text, htext, -⟩
    have hnone : String.fromUTF8? ⟨#[54, 48, 255]⟩ = none := by decide +kernel
    rw [Text.fromUTF8?_eq_some.2 htext] at hnone
    cases hnone
  have hload : Settings.load garbledVariables = .ok ⟨"development", .text,
      some ⟨⟨"push.pem", "push.key", "app.keeper", false, Apns.Settings.standardWarning⟩,
        .forCertificates⟩, none⟩ := by
    decide +kernel
  refine ⟨⟨hproduction, hlookahead⟩, hload, fun h => ?_⟩
  obtain ⟨e, he⟩ := h _ _ _ hproduction
  cases hload.symm.trans he

end Service

end CredentialKeeper
