import CredentialKeeper.Fcm.TokenSource
import CredentialKeeper.Proofs.Apns.Rotation
import CredentialKeeper.Proofs.Manager.Likeness
import Mathlib.Logic.Function.Basic

/-! # Secrets stay inside

All that can be seen of a manager from outside is its `Surface`: the events it logs, its metrics,
its state, the error it ended with, and the texts in which it, its handles and its credentials show
themselves. A secret that shows nothing but its `f` to a developer is hidden (`Hides`): managers
that look alike up to `f` have one surface, through the start, every move and every exit. Tokens and
identities are such secrets, and their sources look alike if what they receive does. -/

namespace CredentialKeeper

variable {σ σ' α β γ : Type}

namespace Manager

/-! ## The surface -/

def Effect.event? : Effect α → Option Log.Event
  | .noticed n => some n.event
  | _ => none

def Effect.credential? : Effect α → Option (Credential α)
  | .stored c | .published c => some c
  | _ => none

/-- The events of a history with their instants, the first first. -/
def loggedIn (history : List (Nat × Effect α)) : List (Nat × Log.Event) :=
  history.reverse.filterMap fun r => r.2.event?.map (r.1, ·)

def countedIn (history : List (Nat × Effect α)) : Metrics :=
  .ofEffects (history.reverse.map Prod.snd)

structure Surface where
  now : Nat
  events : List (Nat × Log.Event)
  metrics : Metrics
  state : State
  fatal : Option Refresh.RefreshError
  manager : String
  handle : String
  /-- The credential in use, the published one, and all that have been stored or published. -/
  credentials : List String

def Surface.of (record : α → String) (name : String) (now : Nat) (cells : Cells α)
    (history : List (Nat × Effect α)) : Surface where
  now
  events := loggedIn history
  metrics := countedIn history
  state := cells.state
  fatal := cells.fatal
  manager := managerRecord name cells
  handle := handleRecord name cells
  credentials := (cells.current :: cells.published ::
    history.reverse.filterMap fun r => r.2.credential?).map (Credential.record record)

def Session.surface (record : α → String) (s : Session σ α β) : Surface :=
  .of record s.plan.source.name s.now s.cells s.history

/-- What can be seen of an attempt to start a manager. -/
inductive Outset where
  | refused (error : Refresh.RefreshError) (events : List (Nat × Log.Event)) (metrics : Metrics)
  | crashed (message : String) (events : List (Nat × Log.Event)) (metrics : Metrics)
  | timedOut (now : Nat) (events : List (Nat × Log.Event)) (metrics : Metrics)
  | ok (surface : Surface)

/-- What can be seen once a manager that has started has been used. -/
def Started.surface (record : α → String) (us : List Use) : Started σ α β → Outset
  | .refused error history => .refused error (loggedIn history) (countedIn history)
  | .crashed message history => .crashed message (loggedIn history) (countedIn history)
  | .timedOut now history => .timedOut now (loggedIn history) (countedIn history)
  | .ok session => .ok ((us.foldl Session.use session).surface record)

/-! ## It shows no more than what is shown -/

theorem Effect.event?_map (f : α → γ) (e : Effect α) : (e.map f).event? = e.event? := by
  cases e <;> rfl

theorem Effect.credential?_map (f : α → γ) (e : Effect α) :
    (e.map f).credential? = e.credential?.map (Credential.map f) := by
  cases e <;> rfl

theorem Metrics.apply_map (f : α → γ) (m : Metrics) (e : Effect α) :
    m.apply (e.map f) = m.apply e := by
  cases e <;> rfl

theorem loggedIn_map (f : α → γ) (history : List (Nat × Effect α)) :
    loggedIn (history.map (Effect.mapTimed f)) = loggedIn history := by
  simp only [loggedIn, ← List.map_reverse, List.filterMap_map]
  refine List.filterMap_congr fun r _ => ?_
  simp only [Function.comp_apply, Effect.mapTimed, Effect.event?_map]

theorem countedIn_map (f : α → γ) (history : List (Nat × Effect α)) :
    countedIn (history.map (Effect.mapTimed f)) = countedIn history := by
  simp only [countedIn, Metrics.ofEffects, ← List.map_reverse, List.map_map, List.foldl_map,
    Function.comp_apply, Effect.mapTimed, Metrics.apply_map]

theorem Surface.of_map (record : γ → String) (f : α → γ) (name : String) (now : Nat)
    (cells : Cells α) (history : List (Nat × Effect α)) :
    Surface.of record name now (cells.map f) (history.map (Effect.mapTimed f)) =
      Surface.of (record ∘ f) name now cells history := by
  have hissued : (history.map (Effect.mapTimed f)).reverse.filterMap (fun r => r.2.credential?) =
      (history.reverse.filterMap fun r => r.2.credential?).map (Credential.map f) := by
    rw [← List.map_reverse, List.filterMap_map, List.map_filterMap]
    refine List.filterMap_congr fun r _ => ?_
    simp only [Function.comp_apply, Effect.mapTimed, Effect.credential?_map]
  simp only [Surface.of, loggedIn_map, countedIn_map, hissued, List.map_cons, List.map_map]
  rfl

section
variable {R : σ → σ' → Prop} {f : α → γ} {record : α → String}

theorem SameHistory.loggedIn_eq {history history' : List (Nat × Effect α)}
    (h : SameHistory f history history') : loggedIn history = loggedIn history' := by
  rw [← loggedIn_map f, h, loggedIn_map]

theorem SameHistory.countedIn_eq {history history' : List (Nat × Effect α)}
    (h : SameHistory f history history') : countedIn history = countedIn history' := by
  rw [← countedIn_map f, h, countedIn_map]

theorem Session.Alike.surface_eq (hrecord : record.FactorsThrough f) {s : Session σ α β}
    {s' : Session σ' α β} (H : s.Alike R f s') : s.surface record = s'.surface record := by
  obtain ⟨show', rfl⟩ := (Function.factorsThrough_iff record).1 hrecord
  rw [surface, surface, ← Surface.of_map, ← Surface.of_map, H.plan.source.name, H.now, H.cells,
    H.history]

theorem Started.Alike.surface_eq (hrecord : record.FactorsThrough f) {p : Plan σ α β}
    {p' : Plan σ' α β} (P : p.Alike R f p') {backoff : β} {s : Started σ α β}
    {s' : Started σ' α β} (H : Started.Alike R f p p' backoff s s') (us : List Use) :
    s.surface record us = s'.surface record us := by
  cases H with
  | refused error h => simp only [Started.surface, h.loggedIn_eq, h.countedIn_eq]
  | crashed message h => simp only [Started.surface, h.loggedIn_eq, h.countedIn_eq]
  | timedOut now h => simp only [Started.surface, h.loggedIn_eq, h.countedIn_eq]
  | ok now hsource hc h =>
    have H := (Session.ofFirst_alike P now hsource backoff hc h).uses us
    exact congrArg _ (H.surface_eq hrecord)

theorem Interleaving.Alike.surface_eq (hrecord : record.FactorsThrough f)
    {s : Interleaving σ α β} {s' : Interleaving σ' α β} (H : s.Alike R f s') (ms : List Move) :
    (s.makes ms).map (·.session.surface record) = (s'.makes ms).map (·.session.surface record) := by
  have hmakes := H.makes ms
  generalize s.makes ms = r, s'.makes ms = r' at hmakes ⊢
  cases hmakes with
  | none => rfl
  | some H => exact congrArg _ (H.session.surface_eq hrecord)

/-- Two managers with one configuration and one clock, whose sources are alike up to `f`, cannot be
told apart. Their starts come to the same, whatever is done with the managers then, and if one
starts the other one does, and any moves of all parties that follow show the same. -/
def Hides (f : α → γ) (record : α → String) : Prop :=
  ∀ {σ σ' β : Type} (R : σ → σ' → Prop) (source : Source σ α) (source' : Source σ' α),
    source.Alike R f source' → ∀ memory memory', R memory memory' →
    ∀ (strategy : Backoff.Strategy β) (backoff : β) (settings : Refresh.Settings)
      (wall : Nat → Option Moment) (limit : Nat),
    (∀ refusal? hasRuntime us,
      (startUnless refusal? hasRuntime ⟨source, strategy, settings, wall⟩ memory backoff
        limit).surface record us =
      (startUnless refusal? hasRuntime ⟨source', strategy, settings, wall⟩ memory' backoff
        limit).surface record us) ∧
    ∀ now m c history,
      start ⟨source, strategy, settings, wall⟩ memory backoff limit =
        .ok (.ofFirst ⟨source, strategy, settings, wall⟩ now m backoff c history) →
      ∃ m' c' history',
        start ⟨source', strategy, settings, wall⟩ memory' backoff limit =
          .ok (.ofFirst ⟨source', strategy, settings, wall⟩ now m' backoff c' history') ∧
        ∀ ms,
          ((Interleaving.ofFirst ⟨source, strategy, settings, wall⟩ now m backoff c
            history).makes ms).map (·.session.surface record) =
          ((Interleaving.ofFirst ⟨source', strategy, settings, wall⟩ now m' backoff c'
            history').makes ms).map (·.session.surface record)

theorem hides_of_factorsThrough (hrecord : record.FactorsThrough f) : Hides f record := by
  intro σ σ' β R source source' S memory memory' hmemory strategy backoff settings wall limit
  have P : Plan.Alike R f ⟨source, strategy, settings, wall⟩ ⟨source', strategy, settings, wall⟩ :=
    ⟨S, rfl, rfl, rfl⟩
  constructor
  · intro refusal? hasRuntime us
    exact (startUnless_alike P hmemory refusal? hasRuntime backoff limit).surface_eq hrecord P us
  · intro now m c history hstart
    have H := start_alike P hmemory backoff limit
    rw [hstart] at H
    generalize hs : Session.ofFirst _ now m backoff c history = s at H
    generalize hs' : start _ memory' backoff limit = s' at H ⊢
    cases H with
    | ok now' hm hc h =>
      obtain ⟨rfl, rfl, rfl, rfl⟩ := Session.ofFirst_inj hs
      refine ⟨_, _, _, rfl, fun ms => ?_⟩
      exact (Interleaving.ofFirst_alike P _ hm backoff hc h).surface_eq hrecord ms

end

end Manager

/-! ## Tokens -/

namespace Fcm
open Manager

/-- Replies that are the same, or that both bring a token of the same type for the same time. -/
inductive TokenReply.Alike : TokenReply → TokenReply → Prop
  | same (reply : TokenReply) : Alike reply reply
  | tokens {status status' : Nat} {body body' : String} {r r' : TokenResponse}
      (hstatus : isSuccess status) (hstatus' : isSuccess status')
      (hread : TokenResponse.recordType.read body = .ok r)
      (hread' : TokenResponse.recordType.read body' = .ok r')
      (hlifetime : r.expiresIn = r'.expiresIn) (htype : r.tokenType = r'.tokenType)
      (hne : r.accessToken ≠ "") (hne' : r'.accessToken ≠ "") :
      Alike (.answered status body) (.answered status' body')

/-- Fetches that differ in nothing but the token. -/
structure Fetched.Alike (x x' : Fetched) : Prop where
  requests : x.requests = x'.requests
  notices : x.notices = x'.notices
  result : x.result.map (Credential.map AccessToken.tokenType) =
    x'.result.map (Credential.map AccessToken.tokenType)

/-- What can be seen of a fetch: its requests, its events, and the error or how the credential shows
itself. -/
def Fetched.surface (x : Fetched) : List TokenRequest × List Log.Event × Except Error String :=
  (x.requests, x.notices.map Log.Notice.event, x.result.map (Credential.record AccessToken.record))

theorem AccessToken.record_factorsThrough : AccessToken.record.FactorsThrough tokenType := by
  intro t t' h
  rw [record, record, h]

theorem TokenResponse.credential_alike {r r' : TokenResponse}
    (hlifetime : r.expiresIn = r'.expiresIn) (htype : r.tokenType = r'.tokenType)
    (hne : r.accessToken ≠ "") (hne' : r'.accessToken ≠ "") (now : Moment) :
    (r.credential now).map (Credential.map AccessToken.tokenType) =
      (r'.credential now).map (Credential.map AccessToken.tokenType) := by
  have hfull : ¬r.accessToken.isEmpty = true := mt String.isEmpty_iff.1 hne
  have hfull' : ¬r'.accessToken.isEmpty = true := mt String.isEmpty_iff.1 hne'
  simp only [credential, if_neg hfull, if_neg hfull', hlifetime]
  split
  · rfl
  · split
    · rfl
    · simp only [Except.map, Credential.map, htype]

theorem TokenSource.receive_alike (s : TokenSource) (request : TokenRequest)
    {reply reply' : TokenReply} (h : reply.Alike reply') (now : Moment) :
    (s.receive request reply now).Alike (s.receive request reply' now) := by
  cases h with
  | same => exact ⟨rfl, rfl, rfl⟩
  | @tokens status status' body body' r r' hstatus hstatus' hread hread' hlifetime htype hne hne' =>
    have hcredential := TokenResponse.credential_alike hlifetime htype hne hne' now
    unfold receive TokenRequest.answer
    cases request.url with
    | error e => exact ⟨rfl, rfl, rfl⟩
    | ok url =>
      simp only [readAnswer, if_pos hstatus, if_pos hstatus', TokenResponse.read, hread, hread']
      cases hc : r.credential now with
      | error e =>
        cases hc' : r'.credential now with
        | error e' =>
          rw [hc, hc'] at hcredential
          cases hcredential
          exact ⟨rfl, rfl, rfl⟩
        | ok c' => rw [hc, hc'] at hcredential; cases hcredential
      | ok c =>
        cases hc' : r'.credential now with
        | error e' => rw [hc, hc'] at hcredential; cases hcredential
        | ok c' =>
          rw [hc, hc'] at hcredential
          have hshown : Credential.map AccessToken.tokenType c = c'.map AccessToken.tokenType :=
            Except.ok.inj hcredential
          exact ⟨rfl, by simp only [hlifetime], congrArg Except.ok hshown⟩

theorem Fetched.Alike.surface_eq {x x' : Fetched} (H : x.Alike x') : x.surface = x'.surface := by
  obtain ⟨show', hshow⟩ := (Function.factorsThrough_iff _).1 AccessToken.record_factorsThrough
  have hrecord : Credential.record AccessToken.record =
      Credential.record show' ∘ Credential.map AccessToken.tokenType := by
    rw [hshow]
    rfl
  have hresult (r : Except Error (Credential AccessToken)) :
      r.map (Credential.record AccessToken.record) =
        (r.map (Credential.map AccessToken.tokenType)).map (Credential.record show') := by
    rw [hrecord]
    cases r <;> rfl
  rw [surface, surface, H.requests, H.notices, hresult, H.result, ← hresult]

theorem Fetched.Alike.reply {x x' : Fetched} (H : x.Alike x') :
    x.reply.1.Alike AccessToken.tokenType x'.reply.1 ∧ x.reply.2 = x'.reply.2 := by
  obtain ⟨requests, result, notices⟩ := x
  obtain ⟨requests', result', notices'⟩ := x'
  obtain ⟨-, rfl, hresult⟩ := H
  cases result with
  | error e =>
    cases result' with
    | error e' =>
      cases hresult
      exact ⟨.failure _, rfl⟩
    | ok c' => cases hresult
  | ok c =>
    cases result' with
    | error e' => cases hresult
    | ok c' => exact ⟨.success (Except.ok.inj hresult), rfl⟩

namespace TokenSource

theorem fetch?_alike (s : TokenSource) {endpoint endpoint' : TokenRequest → TokenReply}
    (h : ∀ request, (endpoint request).Alike (endpoint' request)) (now : Moment) :
    Option.Rel Fetched.Alike (s.fetch? endpoint now) (s.fetch? endpoint' now) := by
  unfold fetch?
  cases s.request? now with
  | none => exact .none
  | some request =>
    cases request with
    | error e => exact .some ⟨rfl, rfl, rfl⟩
    | ok request => exact .some (s.receive_alike request (h request) now)

/-- Endpoints that take as long and reply alike. -/
structure Asking.Alike (R : σ → σ' → Prop) (ask : Asking σ) (ask' : Asking σ') : Prop where
  latency : ∀ {memory memory'}, R memory memory' → ∀ request,
    (ask memory request).1.1 = (ask' memory' request).1.1
  reply : ∀ {memory memory'}, R memory memory' → ∀ request,
    (ask memory request).1.2.Alike (ask' memory' request).1.2
  memory : ∀ {memory memory'}, R memory memory' → ∀ request,
    R (ask memory request).2 (ask' memory' request).2

theorem source_alike (s : TokenSource) {R : σ → σ' → Prop} {ask : Asking σ} {ask' : Asking σ'}
    (A : Asking.Alike R ask ask') :
    (s.source ask).Alike R AccessToken.tokenType (s.source ask') := by
  refine ⟨rfl, fun {memory memory'} hmemory now => ?_, fun {memory memory'} hmemory now => ?_⟩
  · cases now with
    | none => exact ⟨rfl, fun _ => .crash _, fun _ => rfl⟩
    | some now =>
      simp only [source]
      cases s.request? now with
      | none => exact ⟨rfl, fun _ => .crash _, fun _ => rfl⟩
      | some request =>
        cases request with
        | error e => exact ⟨rfl, fun _ => .failure _, fun _ => rfl⟩
        | ok request =>
          have H := (s.receive_alike request (A.reply hmemory request) now).reply
          exact ⟨A.latency hmemory request, fun _ => H.1, fun _ => H.2⟩
  · cases now with
    | none => exact hmemory
    | some now =>
      simp only [source]
      cases s.request? now with
      | none => exact hmemory
      | some request =>
        cases request with
        | error e => exact hmemory
        | ok request => exact A.memory hmemory request

end TokenSource

end Fcm

/-! ## Identities -/

namespace Apns
open Manager

theorem Identity.record_factorsThrough : Identity.record.FactorsThrough info := by
  intro i i' h
  rw [record, record, h]

/-- Reads that bring the same error, or identities of the same content. -/
def Reads.Alike (s : Settings) (r r' : Reads) : Prop :=
  (readIdentity s (Files.asText r.certificate) (Files.asText r.key)).map Identity.info =
    (readIdentity s (Files.asText r'.certificate) (Files.asText r'.key)).map Identity.info

theorem issue_alike (s : Settings) {i i' : Identity} (h : i.info = i'.info) (now : Moment) :
    (Reply.outcome (issue s i now).1).Alike Identity.info (.outcome (issue s i' now).1) ∧
      (issue s i now).2 = (issue s i' now).2 := by
  have hvalid : i.checkValidity now = i'.checkValidity now := by
    rw [Identity.checkValidity, Identity.checkValidity, h]
  have hnotice : notice s i now = notice s i' now := by rw [notice, notice, h]
  simp only [issue, hvalid, hnotice]
  cases i'.checkValidity now with
  | error f => exact ⟨.failure f, rfl⟩
  | ok _ => exact ⟨.success (by simp only [Credential.map, h]), rfl⟩

theorem answer_alike {s : Settings} {r r' : Reads} (h : r.Alike s r') (now : Option Moment) :
    (answer s r now).1.Alike Identity.info (answer s r' now).1 ∧
      (answer s r now).2 = (answer s r' now).2 := by
  unfold Reads.Alike at h
  rcases hr : readIdentity s (Files.asText r.certificate) (Files.asText r.key) with f | i <;>
    rcases hr' : readIdentity s (Files.asText r'.certificate) (Files.asText r'.key) with f' | i' <;>
    rw [hr, hr'] at h
  · cases h
    cases now with
    | none =>
      simp only [answer, answerTo, hr, hr']
      exact ⟨.failure f, trivial⟩
    | some now =>
      simp only [answer, answerTo, renewal, hr, hr']
      exact ⟨.failure f, trivial⟩
  · cases h
  · cases h
  · cases now with
    | none =>
      simp only [answer, answerTo, hr, hr']
      exact ⟨.crash _, trivial⟩
    | some now =>
      simp only [answer, answerTo, renewal, hr, hr']
      exact issue_alike s (Except.ok.inj h) now

/-- The source of identities is alike whatever two sequences of files it reads, if each two files
in their turn are alike. -/
theorem rotating_alike (s : Settings) {history history' : Nat → Reads}
    (h : ∀ n, (history n).Alike s (history' n)) (latency : Nat → Latency) :
    (rotating s history latency).Alike Eq Identity.info (rotating s history' latency) := by
  refine ⟨rfl, ?_, ?_⟩
  · rintro n _ rfl now
    exact ⟨rfl, fun now => (answer_alike (h n) now).1, fun now => (answer_alike (h n) now).2⟩
  · rintro n _ rfl now
    rfl

theorem certificateSource_alike (s : Settings) :
    (certificateSource s).Alike (fun files files' => (Reads.of s files).Alike s (.of s files'))
      Identity.info (certificateSource s) := by
  refine ⟨rfl, ?_, fun h _ => h⟩
  intro files files' h now
  simp only [certificateSource, reply_eq]
  exact ⟨rfl, fun now => (answer_alike h now).1, fun now => (answer_alike h now).2⟩

end Apns

namespace Service
open Manager Fcm Apns

/-- **Secrets stay inside.** Access tokens hide all but their type, and identities all but what the
certificate says. Their sources look alike as long as the endpoint's replies do, or what is read
from the files; and a fetch shows nothing of the token either. -/
theorem secrets_never_surface :
    Hides AccessToken.tokenType AccessToken.record ∧
    Hides Identity.info Identity.record ∧
    (∀ (s : TokenSource) (σ σ' : Type) (R : σ → σ' → Prop) (ask : TokenSource.Asking σ)
      (ask' : TokenSource.Asking σ'), TokenSource.Asking.Alike R ask ask' →
      (s.source ask).Alike R AccessToken.tokenType (s.source ask')) ∧
    (∀ s : Apns.Settings, (certificateSource s).Alike
      (fun files files' => (Reads.of s files).Alike s (.of s files')) Identity.info
      (certificateSource s)) ∧
    (∀ (s : Apns.Settings) (history history' : Nat → Reads) (latency : Nat → Latency),
      (∀ n, (history n).Alike s (history' n)) →
      (rotating s history latency).Alike Eq Identity.info (rotating s history' latency)) ∧
    ∀ (s : TokenSource) (endpoint endpoint' : TokenRequest → TokenReply) (now : Moment),
      (∀ request, (endpoint request).Alike (endpoint' request)) →
      (s.fetch? endpoint now).map Fetched.surface =
        (s.fetch? endpoint' now).map Fetched.surface := by
  refine ⟨hides_of_factorsThrough AccessToken.record_factorsThrough,
    hides_of_factorsThrough Identity.record_factorsThrough,
    fun s σ σ' R ask ask' A => s.source_alike A, certificateSource_alike,
    fun s history history' latency h => rotating_alike s h latency,
    fun s endpoint endpoint' now h => ?_⟩
  have H := s.fetch?_alike h now
  generalize s.fetch? endpoint now = x, s.fetch? endpoint' now = x' at H ⊢
  cases H with
  | none => rfl
  | some H => exact congrArg some H.surface_eq

/-- A token for an hour, whenever it is asked for. -/
def tokenScript (secret : String) : Source (List (Line AccessToken)) AccessToken :=
  scripted "tokens" ⟨.atOnce, .issue ⟨secret, "Bearer"⟩ (.forMillis 3600000)⟩

theorem tokenScript_alike (secret secret' : String) :
    (tokenScript secret).Alike (fun lines lines' => lines = [] ∧ lines' = [])
      AccessToken.tokenType (tokenScript secret') := by
  refine ⟨rfl, ?_, ?_⟩
  · rintro _ _ ⟨rfl, rfl⟩ now
    refine ⟨rfl, fun now => ?_, fun now => rfl⟩
    cases now with
    | none => exact .crash _
    | some now =>
      simp only [tokenScript, scripted, List.headD_nil, Speech.reply, Speech.issued]
      split
      · exact .success rfl
      · exact .crash _
  · rintro _ _ ⟨rfl, rfl⟩ now
    exact ⟨rfl, rfl⟩

/-- The token that it has in use once it has started. -/
def secret? : Started σ AccessToken β → Option String
  | .ok s => some s.cells.current.value.secret
  | _ => none

def tokenStart (secret : String) : Started (List (Line AccessToken)) AccessToken Backoff.Schedule :=
  startUnless startRefusal? true
    ⟨tokenScript secret, Backoff.Schedule.strategy, .standard, wallFrom .epoch⟩ [] (.ofList []) 0

def tokenBody (secret : String) : String :=
  "\x7b\"access_token\":\"" ++ secret ++ "\",\"expires_in\":3600\x7d"

theorem tokenBodies_alike :
    (TokenReply.answered 200 (tokenBody "first")).Alike (.answered 201 (tokenBody "second")) :=
  have hread : TokenResponse.recordType.read (tokenBody "first") =
      .ok ⟨"first", 3600, "Bearer"⟩ := by decide +kernel
  have hread' : TokenResponse.recordType.read (tokenBody "second") =
      .ok ⟨"second", 3600, "Bearer"⟩ := by decide +kernel
  .tokens rfl rfl hread hread' rfl rfl (by decide) (by decide)

/-- Managers of two tokens, and two answers that bring them. -/
theorem two_tokens_look_alike :
    ((tokenStart "first").surface AccessToken.record [.advance (millis 1000), .stop, .settle] =
        (tokenStart "second").surface AccessToken.record [.advance (millis 1000), .stop, .settle] ∧
      secret? (tokenStart "first") = some "first" ∧
      secret? (tokenStart "second") = some "second") ∧
    ∀ (s : TokenSource) (now : Moment),
      (s.fetch? (fun _ => .answered 200 (tokenBody "first")) now).map Fetched.surface =
        (s.fetch? (fun _ => .answered 201 (tokenBody "second")) now).map Fetched.surface := by
  obtain ⟨htokens, -, -, -, -, hfetch⟩ := secrets_never_surface
  obtain ⟨hsurface, -⟩ := htokens _ _ _ (tokenScript_alike "first" "second") [] [] ⟨rfl, rfl⟩
    Backoff.Schedule.strategy (.ofList []) .standard (wallFrom .epoch) 0
  exact ⟨⟨hsurface startRefusal? true _, by decide +kernel, by decide +kernel⟩,
    fun s now => hfetch s _ _ now fun _ => tokenBodies_alike⟩

end Service

end CredentialKeeper
