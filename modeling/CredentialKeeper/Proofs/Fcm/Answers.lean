import CredentialKeeper.Proofs.Fcm.Signing
import CredentialKeeper.Proofs.Json.Records
import CredentialKeeper.Proofs.Text.Excerpt
import CredentialKeeper.Proofs.X509.Dates

/-! # What comes of asking for a token

A fetch yields a credential if and only if the answer was read to its end, has a status of success
and holds a response with a token, a lifetime of a second at least and an expiry that is a moment.
What else can happen is told apart by the kind of the failed renewal: no answer, an answer that
refuses or a request that could not be signed, and an answer that cannot be used. -/

namespace CredentialKeeper

open Json (Enclosed Member Element Integer TextValue valuesOf)

namespace Fcm

/-! ## Responses -/

namespace TokenResponse

/-- The members of an object make a response: the token and the lifetime once each, the type of the
token at most once. Other members do not matter, and the order does not either. -/
structure OfMembers (ms : List (String × List Char)) (r : TokenResponse) : Prop where
  accessToken : ∃ v, valuesOf ms "access_token" = [v] ∧ TextValue v r.accessToken
  expiresIn : ∃ v, valuesOf ms "expires_in" = [v] ∧ Integer v r.expiresIn
  tokenType : (valuesOf ms "token_type" = [] ∧ r.tokenType = "Bearer") ∨
    ∃ v, valuesOf ms "token_type" = [v] ∧ TextValue v r.tokenType

/-- A sequence may hold a response as well, with or without the type of the token. -/
inductive OfElements : List (List Char) → TokenResponse → Prop
  | short {v w : List Char} {token : String} {n : Int} (hv : TextValue v token)
      (hw : Integer w n) : OfElements [v, w] ⟨token, n, "Bearer"⟩
  | full {v w x : List Char} {token type : String} {n : Int} (hv : TextValue v token)
      (hw : Integer w n) (hx : TextValue x type) : OfElements [v, w, x] ⟨token, n, type⟩

/-- A text is the response in JSON. -/
def WrittenAs (r : TokenResponse) (text : String) : Prop :=
  (∃ ms, Enclosed Member .object text.toList ms ∧ OfMembers ms r) ∨
    ∃ es, Enclosed Element .list text.toList es ∧ OfElements es r

theorem recordType_regular : recordType.Regular := by
  intro f hf
  simp only [recordType, List.mem_cons, List.not_mem_nil, or_false] at hf
  rcases hf with rfl | rfl | rfl
  · exact Json.Field.reading_reads Json.reads_string ..
  · exact Json.Field.reading_reads Json.reads_int ..
  · exact Json.Field.reading_reads Json.reads_string ..

theorem recordType_separate : recordType.Separate := by
  refine .cons ?_ (.cons ?_ (.cons nofun .nil))
  all_goals
    intro f hf
    simp only [List.mem_cons, List.not_mem_nil, or_false] at hf
  · rcases hf with rfl | rfl
    · exact Json.Field.reading_apart Json.reads_string Json.reads_int (by decide) fun _ _ _ => rfl
    · exact Json.Field.reading_apart Json.reads_string Json.reads_string (by decide)
        fun _ _ _ => rfl
  · subst hf
    exact Json.Field.reading_apart Json.reads_int Json.reads_string (by decide) fun _ _ _ => rfl

theorem ofMembers_iff {ms : List (String × List Char)} {r : TokenResponse} :
    recordType.OfMembers ms r ↔ OfMembers ms r := by
  constructor
  · rintro ⟨puts, hputs, rfl⟩
    simp only [recordType, List.forall₂_cons_left_iff, List.forall₂_nil_left_iff] at hputs
    obtain ⟨p, _, hp, ⟨q, _, hq, ⟨x, _, hx, rfl, rfl⟩, rfl⟩, rfl⟩ := hputs
    obtain ⟨v, token, hv, htoken, rfl⟩ := (Json.Field.required_settled_iff Json.reads_string).1 hp
    obtain ⟨w, n, hw, hn, rfl⟩ := (Json.Field.required_settled_iff Json.reads_int).1 hq
    rcases (Json.Field.optional_settled_iff Json.reads_string).1 hx with
      ⟨hnone, rfl⟩ | ⟨u, type, hu, htype, rfl⟩
    · exact ⟨⟨v, hv, htoken⟩, ⟨w, hw, hn⟩, .inl ⟨hnone, rfl⟩⟩
    · exact ⟨⟨v, hv, htoken⟩, ⟨w, hw, hn⟩, .inr ⟨u, hu, htype⟩⟩
  · rintro ⟨⟨v, hv, htoken⟩, ⟨w, hw, hn⟩, htype⟩
    obtain ⟨token, n, type⟩ := r
    rcases htype with ⟨hnone, rfl⟩ | ⟨u, hu, htype⟩
    · refine ⟨[fun r => { r with accessToken := token }, fun r => { r with expiresIn := n }, id],
        .cons ((Json.Field.required_settled_iff Json.reads_string).2 ?_)
          (.cons ((Json.Field.required_settled_iff Json.reads_int).2 ?_)
            (.cons ((Json.Field.optional_settled_iff Json.reads_string).2 (.inl ?_)) .nil)), rfl⟩
      · exact ⟨v, token, hv, htoken, rfl⟩
      · exact ⟨w, n, hw, hn, rfl⟩
      · exact ⟨hnone, rfl⟩
    · refine ⟨[fun r => { r with accessToken := token }, fun r => { r with expiresIn := n },
          fun r => { r with tokenType := type }],
        .cons ((Json.Field.required_settled_iff Json.reads_string).2 ?_)
          (.cons ((Json.Field.required_settled_iff Json.reads_int).2 ?_)
            (.cons ((Json.Field.optional_settled_iff Json.reads_string).2 (.inr ?_)) .nil)), rfl⟩
      · exact ⟨v, token, hv, htoken, rfl⟩
      · exact ⟨w, n, hw, hn, rfl⟩
      · exact ⟨u, type, hu, htype, rfl⟩

theorem ofElements_iff {es : List (List Char)} {r : TokenResponse} :
    recordType.OfElements es r ↔ OfElements es r := by
  constructor
  · intro h
    simp only [Json.RecordType.OfElements, recordType] at h
    cases h with
    | done hopt => exact absurd (hopt _ List.mem_cons_self) (by decide)
    | field hv h =>
      obtain ⟨token, htoken, rfl⟩ := (Json.Field.reading_means_iff Json.reads_string).1 hv
      cases h with
      | done hopt => exact absurd (hopt _ List.mem_cons_self) (by decide)
      | field hw h =>
        obtain ⟨n, hn, rfl⟩ := (Json.Field.reading_means_iff Json.reads_int).1 hw
        cases h with
        | done => exact .short htoken hn
        | field hx h =>
          obtain ⟨type, htype, rfl⟩ := (Json.Field.reading_means_iff Json.reads_string).1 hx
          cases h with
          | done => exact .full htoken hn htype
  · intro h
    cases h with
    | short hv hw =>
      refine .field ((Json.Field.reading_means_iff Json.reads_string).2 ⟨_, hv, rfl⟩)
        (.field ((Json.Field.reading_means_iff Json.reads_int).2 ⟨_, hw, rfl⟩) (.done ?_))
      intro f hf
      rw [List.mem_singleton.1 hf]
      rfl
    | full hv hw hx =>
      exact .field ((Json.Field.reading_means_iff Json.reads_string).2 ⟨_, hv, rfl⟩)
        (.field ((Json.Field.reading_means_iff Json.reads_int).2 ⟨_, hw, rfl⟩)
          (.field ((Json.Field.reading_means_iff Json.reads_string).2 ⟨_, hx, rfl⟩) (.done nofun)))

theorem read_eq_ok_iff {text : String} {r : TokenResponse} :
    recordType.read text = .ok r ↔ r.WrittenAs text := by
  rw [Json.RecordType.read_eq_ok_iff recordType_regular recordType_separate, WrittenAs]
  simp only [ofMembers_iff, ofElements_iff]

example : (⟨"t", 60, "Bearer"⟩ : TokenResponse).WrittenAs
    " \x7b\"expires_in\": 60, \"other\": [1, \x7b\x7d], \"access_token\": \"\\u0074\"\x7d" :=
  read_eq_ok_iff.1 (by decide +kernel)

end TokenResponse

/-- A response in an answer to a request of a given time is worth a credential. The lifetime counts
from the time of the request, and the expiry must be a moment. -/
def Grants (body : String) (requestedAt : Moment) (c : Credential AccessToken) : Prop :=
  ∃ r : TokenResponse, ∃ expiresAt : Moment, r.WrittenAs body ∧ r.accessToken ≠ "" ∧
    1 ≤ r.expiresIn ∧ expiresAt.nanos = requestedAt.nanos + r.expiresIn * nanosPerSecond ∧
    c = ⟨⟨r.accessToken, r.tokenType⟩, expiresAt, requestedAt⟩

theorem TokenResponse.credential_eq_ok_iff {r : TokenResponse} {requestedAt : Moment}
    {c : Credential AccessToken} :
    r.credential requestedAt = .ok c ↔
      r.accessToken ≠ "" ∧ 1 ≤ r.expiresIn ∧ ∃ expiresAt : Moment,
        expiresAt.nanos = requestedAt.nanos + r.expiresIn * nanosPerSecond ∧
        c = ⟨⟨r.accessToken, r.tokenType⟩, expiresAt, requestedAt⟩ := by
  unfold credential
  constructor
  · intro h
    split at h
    · cases h
    · rename_i htoken
      split at h
      · cases h
      · rename_i hlifetime
        split at h
        · cases h
        · rename_i expiresAt hexpiry
          cases h
          exact ⟨by simpa using htoken, by omega, expiresAt,
            Moment.ofNanos?_eq_some_iff.1 hexpiry, rfl⟩
  · rintro ⟨htoken, hlifetime, expiresAt, hexpiry, rfl⟩
    rw [if_neg (by simpa using htoken), if_neg (by omega)]
    simp only [Moment.ofNanos?_eq_some_iff.2 hexpiry]

theorem TokenResponse.read_grants {body : String} {requestedAt : Moment}
    {c : Credential AccessToken} :
    (∃ r, TokenResponse.read body requestedAt = .ok (r, c)) ↔ Grants body requestedAt c := by
  unfold TokenResponse.read
  constructor
  · rintro ⟨r, h⟩
    split at h
    · cases h
    · rename_i hread
      split at h
      · cases h
      · rename_i hcredential
        cases h
        obtain ⟨htoken, hlifetime, expiresAt, hexpiry, rfl⟩ := credential_eq_ok_iff.1 hcredential
        exact ⟨r, expiresAt, read_eq_ok_iff.1 hread, htoken, hlifetime, hexpiry, rfl⟩
  · rintro ⟨r, expiresAt, hwritten, htoken, hlifetime, hexpiry, rfl⟩
    refine ⟨r, ?_⟩
    simp only [read_eq_ok_iff.2 hwritten,
      credential_eq_ok_iff.2 ⟨htoken, hlifetime, expiresAt, hexpiry, rfl⟩]

/-! ## How far a fetch gets -/

namespace TokenSource

variable (s : TokenSource) (endpoint : TokenRequest → TokenReply) (now : Moment)

def SigningFailed : Prop := ∃ fault, s.signed? now = some (.error fault)

/-- A request was made, whether it can get anywhere or not. -/
def Made (request : TokenRequest) : Prop :=
  ∃ text, s.signed? now = some (.ok text) ∧ request = .ofAssertion s.account.tokenUri text

/-- The request was sent: its address is one of a server that takes requests. -/
def Sent (request : TokenRequest) : Prop := s.Made now request ∧ ∃ url, request.url = .ok url

/-- The request was made for nothing: there is no sending it to its address. -/
def Unsendable (fault : TransportFault) : Prop :=
  ∃ request, s.Made now request ∧ request.url = .error fault

/-- The answer to the request was read to its end. -/
def Answered (status : Nat) (body : String) : Prop :=
  ∃ request, s.Sent now request ∧ endpoint request = .answered status body

/-- What a fetch comes to, by how far it got. -/
inductive Course : Except Error (Credential AccessToken) → Prop
  | unsigned {reason : String} (h : s.SigningFailed now) : Course (.error (.jwtEncode reason))
  | unsendable {fault : TransportFault} (h : s.Unsendable now fault) :
      Course (.error (.token fault.message))
  | unanswered {request : TokenRequest} {reason : String} (h : s.Sent now request)
      (hnone : ∀ status body, ¬s.Answered endpoint now status body) :
      Course (.error (.token reason))
  | refused {status : Nat} {body : String} (h : s.Answered endpoint now status body)
      (hstatus : ¬(200 ≤ status ∧ status < 300)) :
      Course (.error (.requestFailed status (Text.excerpt body 512)))
  | unusable {status : Nat} {body reason : String} (h : s.Answered endpoint now status body)
      (hstatus : 200 ≤ status ∧ status < 300) (hnone : ∀ c, ¬Grants body now c) :
      Course (.error (.tokenParse reason))
  | granted {status : Nat} {body : String} {c : Credential AccessToken}
      (h : s.Answered endpoint now status body) (hstatus : 200 ≤ status ∧ status < 300)
      (hc : Grants body now c) : Course (.ok c)

variable {s endpoint now}

/-- A request is signed or it is not, and there is one request. -/
theorem Made.unique {request request' : TokenRequest} (h : s.Made now request)
    (h' : s.Made now request') : request = request' := by
  obtain ⟨text, hsigned, rfl⟩ := h
  obtain ⟨text', hsigned', rfl⟩ := h'
  cases hsigned.symm.trans hsigned'
  rfl

theorem Answered.unique {status status' : Nat} {body body' : String}
    (h : s.Answered endpoint now status body) (h' : s.Answered endpoint now status' body') :
    status = status' ∧ body = body' := by
  obtain ⟨request, ⟨hmade, -⟩, hreply⟩ := h
  obtain ⟨request', ⟨hmade', -⟩, hreply'⟩ := h'
  obtain rfl := hmade.unique hmade'
  cases hreply.symm.trans hreply'
  exact ⟨rfl, rfl⟩

theorem readAnswer_course {status : Nat} {body : String}
    (h : s.Answered endpoint now status body) :
    s.Course endpoint now ((readAnswer status body now).map Prod.snd) := by
  unfold readAnswer isSuccess
  by_cases hstatus : 200 ≤ status ∧ status < 300
  · rw [if_pos (decide_eq_true hstatus)]
    cases hread : TokenResponse.read body now with
    | error fault =>
      refine .unusable h hstatus fun c hc => ?_
      obtain ⟨r, hr⟩ := TokenResponse.read_grants.2 hc
      cases hread.symm.trans hr
    | ok p => exact .granted h hstatus (TokenResponse.read_grants.1 ⟨p.1, hread⟩)
  · rw [if_neg (by simpa using hstatus)]
    exact .refused h hstatus

theorem receive_course {request : TokenRequest} (h : s.Made now request) :
    s.Course endpoint now (s.receive request (endpoint request) now).result := by
  unfold receive TokenRequest.answer
  cases hurl : request.url with
  | error fault => exact .unsendable ⟨request, h, hurl⟩
  | ok url =>
    have hsent : s.Sent now request := ⟨h, url, hurl⟩
    have hanswer : ∀ status body, s.Answered endpoint now status body →
        endpoint request = .answered status body := by
      rintro status body ⟨request', ⟨hmade, -⟩, hreply⟩
      obtain rfl := h.unique hmade
      exact hreply
    cases hreply : endpoint request with
    | unsent => exact .unanswered hsent fun _ _ ha => nomatch hreply.symm.trans (hanswer _ _ ha)
    | unread => exact .unanswered hsent fun _ _ ha => nomatch hreply.symm.trans (hanswer _ _ ha)
    | answered status body =>
      have hcourse := readAnswer_course (s := s) ⟨request, hsent, hreply⟩
      cases hresult : readAnswer status body now with
      | error e =>
        rw [hresult] at hcourse
        simp only [hresult]
        exact hcourse
      | ok p =>
        rw [hresult] at hcourse
        simp only [hresult]
        exact hcourse

theorem fetch?_course (endpoint : TokenRequest → TokenReply)
    (hnow : now.nanos + 3600 * nanosPerSecond ≤ Moment.last.nanos) :
    ∃ fetched, s.fetch? endpoint now = some fetched ∧ s.Course endpoint now fetched.result := by
  obtain ⟨signing, hsigned⟩ := s.exists_signing hnow
  rw [fetch?, request?_eq_signed?, hsigned]
  cases signing with
  | error fault => exact ⟨_, rfl, .unsigned ⟨fault, hsigned⟩⟩
  | ok text => exact ⟨_, rfl, receive_course ⟨text, hsigned, rfl⟩⟩

namespace Course

variable {e : Error}

end Course

/-- What the endpoint replies to the next request. -/
def reply {σ : Type} (ask : Asking σ) (memory : σ) : TokenRequest → TokenReply :=
  fun request => (ask memory request).1.2

end TokenSource

end Fcm

end CredentialKeeper
