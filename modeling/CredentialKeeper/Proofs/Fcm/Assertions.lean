import CredentialKeeper.Proofs.Fcm.Answers
import CredentialKeeper.Proofs.Json.Writing
import CredentialKeeper.Proofs.Text.Utf8

/-! # What an assertion says

The first two segments of an assertion are read back as what was written, since neither the base
nor the escapes of JSON lose or mix up a character (`segmentStates_segment`). The third one is a
signature of the two that holds with the account's key. A fetch hands over one request with one
assertion, of the very time that its credential is counted from (`TokenSource.assertion_content`).

Signing may fail, as taking a key out of its text does not look at the key; then no request is made.
It does not fail for a key whose parts belong together. -/

namespace CredentialKeeper

open Json (Scalar States)

namespace Base64

theorem urlSymbol_ne_dot (v : Nat) : '.' ≠ urlSymbol v := by
  rcases Nat.lt_or_ge v 64 with h | h
  · have hall : ∀ v ∈ List.range 64, '.' ≠ urlSymbol v := by decide
    exact hall v (List.mem_range.2 h)
  · rw [urlSymbol, if_neg (by omega), if_neg (by omega), if_neg (by omega), if_neg (by omega)]
    decide

theorem dot_not_mem_encodeUrl (bytes : List UInt8) : '.' ∉ encodeUrl bytes := by
  induction bytes using encodeUrl.induct with
  | case1 => exact List.not_mem_nil
  | case2 a => simp [encodeUrl, urlSymbol_ne_dot]
  | case3 a b => simp [encodeUrl, urlSymbol_ne_dot]
  | case4 a b c rest ih => simp [encodeUrl, urlSymbol_ne_dot, ih]

end Base64

namespace Fcm

variable {a : ServiceAccount} {scope : String} {now : Moment}

/-! ## Segments -/

/-- The text in a segment, if it is one. -/
def segmentText? (segment : List Char) : Option String :=
  (Base64.decodeUrl? segment).bind fun bytes => String.fromUTF8? ⟨bytes.toArray⟩

theorem segmentText?_segment (text : String) : segmentText? (segment text) = some text := by
  rw [segmentText?, segment, Base64.decodeUrl?_encodeUrl, Option.bind_some, Text.fromUTF8?_utf8,
    String.ofList_toList]

/-- A segment is an object with these entries and nothing else. -/
def SegmentStates (segment : List Char) (entries : List (String × Scalar)) : Prop :=
  ∃ text, segmentText? segment = some text ∧ ∀ entries', States text entries' ↔ entries' = entries

theorem segmentStates_segment {entries : List (String × Scalar)} (h : ∀ e ∈ entries, e.2.Fits) :
    SegmentStates (segment (Json.writeObject entries)) entries :=
  ⟨_, segmentText?_segment _, fun _ => Json.states_writeObject_iff h⟩

/-! ## Claims -/

/-- The second of a moment is the last one that has begun. -/
theorem floor_unixSeconds (now : Moment) : now.unixSeconds * nanosPerSecond ≤ now.nanos ∧
    now.nanos < (now.unixSeconds + 1) * nanosPerSecond := by
  simp only [Moment.unixSeconds, nanosPerSecond, Nat.cast_ofNat]
  omega

/-- The second of a moment has 64 bits with its sign, and so has the one an hour later. -/
theorem fits_unixSeconds (now : Moment) :
    (Scalar.integer now.unixSeconds).Fits ∧ (Scalar.integer (now.unixSeconds + 3600)).Fits := by
  have hfirst := now.ge_first
  have hlast := now.le_last
  simp only [Scalar.Fits, Moment.unixSeconds, nanosPerSecond, Nat.cast_ofNat]
  omega

theorem Claims.eq_of_of? {claims : Claims} (h : Claims.of? a scope now = some claims) :
    claims = ⟨a.clientEmail, a.clientEmail, scope, a.tokenUri, now.unixSeconds + 3600,
      now.unixSeconds⟩ := by
  obtain ⟨expiry, hexpiry, rfl⟩ := Option.map_eq_some_iff.1 h
  have hnanos : expiry.nanos = now.nanos + 3600 * nanosPerSecond :=
    Moment.add?_eq_some_iff.1 hexpiry
  have hseconds : expiry.unixSeconds = now.unixSeconds + 3600 := by
    simp only [Moment.unixSeconds, hnanos, nanosPerSecond, Nat.cast_ofNat]
    omega
  rw [hseconds]

/-! ## Assertions -/

/-- Three segments are an assertion in the name of an account at a time: the header says how it is
signed and with which key, the claims say who asks, for what, of whom and when, and the signature
holds with the account's key. -/
structure Asserts (a : ServiceAccount) (scope : String) (now : Moment)
    (header claims signature : List Char) : Prop where
  noDots : '.' ∉ header ∧ '.' ∉ claims ∧ '.' ∉ signature
  headerStates : SegmentStates header
    [("typ", .text "JWT"), ("alg", .text "RS256"), ("kid", .text a.privateKeyId)]
  claimsState : ∃ seconds : Int, seconds * nanosPerSecond ≤ now.nanos ∧
    now.nanos < (seconds + 1) * nanosPerSecond ∧
    SegmentStates claims [("iss", .text a.clientEmail), ("sub", .text a.clientEmail),
      ("scope", .text scope), ("aud", .text a.tokenUri), ("exp", .integer (seconds + 3600)),
      ("iat", .integer seconds)]
  signatureHolds : ∃ key k bytes, SigningKey.ofPem a.privateKey = .ok key ∧
    Rsa.PrivateKey.ofBytes key.bytes = .ok k ∧ Base64.decodeUrl? signature = some bytes ∧
    k.Holds (Text.utf8 (header ++ '.' :: claims)) bytes

theorem segmentStates_claims {claims : Claims} (h : Claims.of? a scope now = some claims) :
    SegmentStates (segment claims.json) [("iss", .text a.clientEmail), ("sub", .text a.clientEmail),
      ("scope", .text scope), ("aud", .text a.tokenUri), ("exp", .integer (now.unixSeconds + 3600)),
      ("iat", .integer now.unixSeconds)] := by
  obtain ⟨hissued, hexpires⟩ := fits_unixSeconds now
  rw [Claims.eq_of_of? h]
  apply segmentStates_segment
  simp only [List.forall_mem_cons]
  exact ⟨trivial, trivial, trivial, trivial, hexpires, hissued, nofun⟩

theorem segmentStates_headerJson (keyId : String) : SegmentStates (segment (headerJson keyId))
    [("typ", .text "JWT"), ("alg", .text "RS256"), ("kid", .text keyId)] := by
  apply segmentStates_segment
  simp only [List.forall_mem_cons]
  exact ⟨trivial, trivial, trivial, nofun⟩

theorem asserts_of_assertion {key : SigningKey} {claims : Claims} {text : List Char}
    (hkey : SigningKey.ofPem a.privateKey = .ok key)
    (hclaims : Claims.of? a scope now = some claims)
    (h : assertion key a.privateKeyId claims = .ok text) :
    ∃ header claims signature, text = header ++ '.' :: (claims ++ '.' :: signature) ∧
      Asserts a scope now header claims signature := by
  simp only [assertion, signedPart] at h
  split at h
  next => cases h
  next bytes hsign =>
    obtain ⟨k, hk, hbytes⟩ := SigningKey.sign_eq_ok_iff.1 hsign
    have hchecked := Rsa.PrivateKey.checked_of_check (Rsa.PrivateKey.check_of_ofBytes hk)
    obtain ⟨hbegun, hnext⟩ := floor_unixSeconds now
    refine ⟨segment (headerJson a.privateKeyId), segment claims.json, Base64.encodeUrl bytes,
      ?_, ?_⟩
    · rw [← Except.ok.inj h, List.append_assoc, List.cons_append]
    · exact {
        noDots := ⟨Base64.dot_not_mem_encodeUrl _, Base64.dot_not_mem_encodeUrl _,
          Base64.dot_not_mem_encodeUrl _⟩
        headerStates := segmentStates_headerJson _
        claimsState := ⟨now.unixSeconds, hbegun, hnext, segmentStates_claims hclaims⟩
        signatureHolds := ⟨key, k, bytes, hkey, hk, Base64.decodeUrl?_encodeUrl bytes,
          Rsa.PrivateKey.sign?_holds hchecked hbytes⟩ }

/-! ## Fetching -/

namespace TokenSource

variable {s : TokenSource} {signing : Except SigningFault (List Char)}

/-- A source that is given scopes one after another keeps the last one. -/
def withScopes (s : TokenSource) (scopes : List String) : TokenSource := scopes.foldl withScope s

theorem withScopes_eq (s : TokenSource) (scopes : List String) :
    s.withScopes scopes = s.withScope (scopes.getLastD s.scope) := by
  induction scopes generalizing s with
  | nil => rfl
  | cons scope scopes ih =>
    have hrest := ih (s.withScope scope)
    rw [withScopes, List.foldl_cons, ← withScopes, hrest, List.getLastD_cons]
    rfl

theorem receive_requests (s : TokenSource) (request : TokenRequest) (reply : TokenReply)
    (now : Moment) : (s.receive request reply now).requests = [request] := by
  unfold receive
  split
  next => rfl
  next =>
    split
    next => rfl
    next => rfl

theorem Course.issuedAt {endpoint : TokenRequest → TokenReply} {c : Credential AccessToken}
    (h : s.Course endpoint now (.ok c)) : c.issuedAt = now := by
  cases h with
  | granted _ _ hc =>
    obtain ⟨r, expiresAt, -, -, -, -, rfl⟩ := hc
    rfl

/-- What a fetch and a renewal hand over when an assertion is signed, and when it is not. A renewal
asks once, whatever who is asked remembers. -/
structure HandsOver (s : TokenSource) (now : Moment) (signing : Except SigningFault (List Char)) :
    Prop where
  fetch (endpoint : TokenRequest → TokenReply) : ∃ fetched, s.fetch? endpoint now = some fetched ∧
    (∀ text, signing = .ok text →
      fetched.requests = [.ofAssertion s.account.tokenUri text]) ∧
    (∀ fault, signing = .error fault →
      fetched.requests = [] ∧ fetched.result = .error (.jwtEncode fault.message)) ∧
    ∀ c, fetched.result = .ok c → c.issuedAt = now
  renewal {σ : Type} (ask : Asking σ) (memory : σ) :
    (∀ text, signing = .ok text → ((s.source ask).renew memory (some now)).2 =
      (ask memory (.ofAssertion s.account.tokenUri text)).2) ∧
    ∀ fault, signing = .error fault → ((s.source ask).renew memory (some now)).2 = memory

theorem handsOver (hnow : now.nanos + 3600 * nanosPerSecond ≤ Moment.last.nanos)
    (h : s.signed? now = some signing) : s.HandsOver now signing where
  fetch endpoint := by
    obtain ⟨fetched, hfetch, hcourse⟩ := s.fetch?_course endpoint hnow
    refine ⟨fetched, hfetch, ?_, ?_, fun c hc => (hc ▸ hcourse).issuedAt⟩
    all_goals
      simp only [fetch?, request?_eq_signed?, h, Option.map_some, Option.some.injEq] at hfetch
    · rintro text rfl
      rw [← hfetch]
      exact receive_requests ..
    · rintro fault rfl
      rw [← hfetch]
      exact ⟨rfl, rfl⟩
  renewal ask memory := by
    constructor
    · rintro text rfl
      simp only [source, request?_eq_signed?, h, Option.map_some]
    · rintro fault rfl
      simp only [source, request?_eq_signed?, h, Option.map_some]

/-- Without a usable key nothing is asked. -/
theorem fetch?_of_unusable {fault : SigningFault}
    (hkey : ∀ message, s.key.sign message = .error fault)
    (hnow : now.nanos + 3600 * nanosPerSecond ≤ Moment.last.nanos)
    (endpoint : TokenRequest → TokenReply) :
    s.fetch? endpoint now = some ⟨[], .error (.jwtEncode fault.message), []⟩ := by
  obtain ⟨claims, hclaims⟩ := exists_claims hnow s.account s.scope
  simp only [fetch?, request?, hclaims, Option.map_some, assertion, hkey]

/-- **An assertion says what its source was made for.** Take a source of an account, given scopes
one after another, and a time that has an hour after it. An assertion that is signed then says how
it is signed, with which of the account's keys, who asks, for the last of the scopes (that of the
platform if there are none), whom, and the second that the time falls into; whatever characters the
texts have, it says nothing else. Its signature holds with the account's key. A key whose parts
belong together signs every assertion.

A fetch and a renewal hand over one request with the assertion, and none if it was not signed; a
credential that comes of it is counted from the time of the assertion. -/
theorem assertion_content {s₀ : TokenSource} (hnew : new a = .ok s₀) (scopes : List String)
    (hnow : now.nanos + 3600 * nanosPerSecond ≤ Moment.last.nanos) :
    ∃ signing, (s₀.withScopes scopes).signed? now = some signing ∧
      (∀ text, signing = .ok text → ∃ header claims signature,
        text = header ++ '.' :: (claims ++ '.' :: signature) ∧
        Asserts a (scopes.getLastD platformScope) now header claims signature) ∧
      (∀ k, Rsa.PrivateKey.ofBytes s₀.key.bytes = .ok k → k.Sound → ∃ text, signing = .ok text) ∧
      (s₀.withScopes scopes).account = a ∧ (s₀.withScopes scopes).HandsOver now signing := by
  obtain ⟨key, hkey, rfl⟩ := new_eq_ok_iff.1 hnew
  have hs : withScopes ⟨a, key, platformScope⟩ scopes =
      ⟨a, key, scopes.getLastD platformScope⟩ := withScopes_eq ..
  obtain ⟨claims, hclaims⟩ := exists_claims hnow a (scopes.getLastD platformScope)
  have hsigned : signed? ⟨a, key, scopes.getLastD platformScope⟩ now =
      some (assertion key a.privateKeyId claims) := by
    simp only [signed?, hclaims, Option.map_some]
  rw [hs]
  refine ⟨_, hsigned, fun text htext => asserts_of_assertion hkey hclaims htext, ?_, rfl,
    handsOver hnow hsigned⟩
  intro k hk hsound
  exact exists_signed_of_sound (s := ⟨a, key, scopes.getLastD platformScope⟩) hk hsound hsigned

end TokenSource

namespace TokenSource

/-- A second and a half before 1970. -/
def lateIn1969 : Moment := ⟨-1500000000, by decide, by decide⟩

theorem longKey_assertion :
    new (accountOfKey longKey) = .ok (ofKey longKey) ∧
    lateIn1969.nanos + 3600 * nanosPerSecond ≤ Moment.last.nanos ∧
    ∃ text header claims signature,
      ((ofKey longKey).withScopes [messagingScope]).signed? lateIn1969 = some (.ok text) ∧
      text = header ++ '.' :: (claims ++ '.' :: signature) ∧
      Asserts (accountOfKey longKey) messagingScope lateIn1969 header claims signature ∧
      ∀ endpoint, ∃ fetched,
        ((ofKey longKey).withScopes [messagingScope]).fetch? endpoint lateIn1969 = some fetched ∧
        fetched.requests = [.ofAssertion (accountOfKey longKey).tokenUri text] := by
  have hnew : new (accountOfKey longKey) = .ok (ofKey longKey) :=
    new_eq_ok_iff.2 ⟨_, ofPem_longKey, rfl⟩
  have hnow : lateIn1969.nanos + 3600 * nanosPerSecond ≤ Moment.last.nanos := by decide
  refine ⟨hnew, hnow, ?_⟩
  obtain ⟨signing, hsigned, hcontent, hsound, haccount, hover⟩ :=
    assertion_content hnew [messagingScope] hnow
  obtain ⟨text, rfl⟩ := hsound longKey ofBytes_longKey longKey_sound
  obtain ⟨header, claims, signature, htext, hasserts⟩ := hcontent text rfl
  refine ⟨text, header, claims, signature, hsigned, htext, hasserts, fun endpoint => ?_⟩
  obtain ⟨fetched, hfetch, hrequests, -⟩ := hover.fetch endpoint
  exact ⟨fetched, hfetch, haccount ▸ hrequests text rfl⟩

/-- A key that is too short to sign with is taken, but nothing is ever asked with it. -/
theorem shortKey_asks_nothing :
    new (accountOfKey shortKey) = .ok (ofKey shortKey) ∧
    ∀ endpoint, (ofKey shortKey).fetch? endpoint .epoch =
      some ⟨[], .error (.jwtEncode "RSA key invalid: TooSmall"), []⟩ := by
  have hsign (message : List UInt8) :
      SigningKey.sign ⟨keyBytes shortKey⟩ message = .error (.invalidKey .tooSmall) := by
    simp only [SigningKey.sign, ofBytes_shortKey]
  have hmessage : (SigningFault.invalidKey .tooSmall).message = "RSA key invalid: TooSmall" := by
    decide
  have hnow : Moment.epoch.nanos + 3600 * nanosPerSecond ≤ Moment.last.nanos := by decide
  refine ⟨new_eq_ok_iff.2 ⟨_, ofPem_shortKey, rfl⟩, fun endpoint => ?_⟩
  rw [← hmessage]
  exact fetch?_of_unusable (s := ofKey shortKey) hsign hnow endpoint

end TokenSource

end Fcm

end CredentialKeeper
