import CredentialKeeper.Apns.CertificateSource
import CredentialKeeper.Proofs.Text.Utf8
import CredentialKeeper.Proofs.X509.Dates

/-! # Which files make an identity

`Accepted` says what two files must hold for an identity to come of them, in terms of their blocks,
the certificate and the key. The source answers with the identity if that holds at the time
(`answer_of_accepted`), and otherwise with a failure whose kind tells whether there were two texts
at all (`answer_of_not_accepted`). Nothing is assumed of how the two files come together: they may
be of different rotations. -/

namespace CredentialKeeper

/-! ## Texts -/

namespace Files

/-- The bytes of a file as a text. -/
def asText : Except ReadError ByteArray → Except ReadError String
  | .error e => .error e
  | .ok bytes =>
    match String.fromUTF8? bytes with
    | some text => .ok text
    | none => .error .notText

theorem readText_eq (files : Files) (path : String) :
    files.readText path = asText (files.read path) := by
  unfold readText
  cases files.read path with
  | error e => rfl
  | ok bytes => rfl

theorem asText_eq_ok {contents : Except ReadError ByteArray} {text : String} :
    asText contents = .ok text ↔ contents = .ok text.toUTF8 := by
  unfold asText
  split
  next => exact ⟨nofun, nofun⟩
  next bytes =>
    rw [Except.ok.injEq, ← Text.fromUTF8?_eq_some]
    split
    next text' h => rw [h, Except.ok.injEq, Option.some.injEq]
    next h => exact ⟨nofun, fun h' => nomatch h.symm.trans h'⟩

end Files

/-! ## Blocks -/

namespace Pem

/-- The first of some blocks with a tag of a kind. -/
def IsFirst (kind : String → Prop) (b : Block) (blocks : List Block) : Prop :=
  ∃ before after, blocks = before ++ b :: after ∧ kind b.tag ∧ ∀ b' ∈ before, ¬kind b'.tag

theorem find?_eq_some_iff (kind : String → Prop) {p : Block → Bool}
    (hp : ∀ b, p b = true ↔ kind b.tag) {b : Block} {blocks : List Block} :
    blocks.find? p = some b ↔ IsFirst kind b blocks := by
  have hnot (b : Block) : (!p b) = true ↔ ¬kind b.tag := by
    rw [Bool.not_eq_true', ← hp b, Bool.not_eq_true]
  simp only [List.find?_eq_some_iff_append, IsFirst, hp, hnot]
  constructor
  · rintro ⟨hb, before, after, h, hbefore⟩
    exact ⟨before, after, h, hb, hbefore⟩
  · rintro ⟨before, after, h, hb, hbefore⟩
    exact ⟨hb, before, after, h, hbefore⟩

theorem rawBlock?_nil : rawBlock? [] = none := rfl

theorem readAll_cons {b : RawBlock} {rest : List RawBlock} {blocks : List Block} :
    readAll (b :: rest) = .ok blocks ↔
      ∃ block others, b.read = .ok block ∧ readAll rest = .ok others ∧
        blocks = block :: others := by
  rw [readAll]
  cases b.read with
  | error e => simp
  | ok block =>
    cases readAll rest with
    | error e => simp
    | ok others => simp [eq_comm]

/-- Where all blocks can be read, the first of them is what is read if one alone is asked for. -/
theorem head?_eq_some_iff {text : String} {blocks : List Block} {b : Block}
    (h : Pem.blocks text = .ok blocks) : blocks.head? = some b ↔ firstBlock text = .ok b := by
  unfold Pem.blocks at h
  unfold firstBlock
  cases hraw : rawBlock? text.toList with
  | none =>
    have hnone : rawBlocks text.length text.toList = [] := by
      cases text.length with
      | zero => rfl
      | succ n => rw [rawBlocks, hraw]
    rw [hnone] at h
    cases h
    exact ⟨nofun, nofun⟩
  | some parts =>
    obtain ⟨raw, rest⟩ := parts
    obtain ⟨n, hn⟩ : ∃ n, text.length = n + 1 := by
      refine Nat.exists_eq_succ_of_ne_zero fun hzero => ?_
      rw [← String.length_toList, List.length_eq_zero_iff] at hzero
      rw [hzero, rawBlock?_nil] at hraw
      cases hraw
    rw [hn, rawBlocks, hraw] at h
    obtain ⟨block, others, hblock, -, rfl⟩ := readAll_cons.1 h
    simp [hblock]

end Pem

namespace Apns

/-! ## The certificate -/

namespace CertificateInfo

/-- What is known of a certificate. -/
structure Describes (info : CertificateInfo) (c : X509.Certificate) : Prop where
  subject : info.subject = c.subject.text
  serial : info.serial = c.serialText
  notBefore : info.notBefore.nanos = c.notBefore * nanosPerSecond
  notAfter : info.notAfter.nanos = c.notAfter * nanosPerSecond
  publicKey : info.publicKey = c.publicKey

/-- The first certificate of a text, all of whose blocks are in order. -/
def IsOf (info : CertificateInfo) (text : String) : Prop :=
  ∃ blocks leaf certificate, Pem.blocks text = .ok blocks ∧
    Pem.IsFirst (· = "CERTIFICATE") leaf blocks ∧
    X509.Certificate.ofBytes leaf.contents = .ok certificate ∧ info.Describes certificate

theorem momentOf_eq_ok {seconds : Int} {m : Moment} (h : Timestamp.IsDated seconds) :
    momentOf seconds = .ok m ↔ m.nanos = seconds * nanosPerSecond := by
  obtain ⟨m', hm', hnanos⟩ := h.moment
  rw [momentOf, hm', Except.ok.injEq, ← hnanos, eq_comm, Moment.ext_iff]

/-- The dates of a certificate are moments, so every certificate that can be read tells its info. -/
theorem ofBytes_eq_ok {bytes : List UInt8} {info : CertificateInfo} :
    ofBytes bytes = .ok info ↔
      ∃ c, X509.Certificate.ofBytes bytes = .ok c ∧ info.Describes c := by
  unfold ofBytes
  cases hc : X509.Certificate.ofBytes bytes with
  | error e => simp
  | ok c =>
    obtain ⟨hbefore, hafter⟩ := X509.Certificate.isDated_of_ofBytes hc
    simp only [bind_eq_ok_iff, momentOf_eq_ok hbefore, momentOf_eq_ok hafter, Except.ok.injEq,
      exists_eq_left']
    constructor
    · rintro ⟨notBefore, hnotBefore, notAfter, hnotAfter, h⟩
      cases h
      exact ⟨rfl, rfl, hnotBefore, hnotAfter, rfl⟩
    · obtain ⟨subject, serial, notBefore, notAfter, publicKey⟩ := info
      rintro ⟨rfl, rfl, hnotBefore, hnotAfter, rfl⟩
      exact ⟨notBefore, hnotBefore, notAfter, hnotAfter, rfl⟩

theorem ofPem_eq_ok {text : String} {info : CertificateInfo} :
    ofPem text = .ok info ↔ info.IsOf text := by
  have hfirst (blocks : List Pem.Block) (leaf : Pem.Block) :
      blocks.find? (·.tag = "CERTIFICATE") = some leaf ↔
        Pem.IsFirst (· = "CERTIFICATE") leaf blocks :=
    Pem.find?_eq_some_iff (· = "CERTIFICATE") fun _ => decide_eq_true_iff
  constructor
  · intro h
    unfold ofPem at h
    split at h
    next => cases h
    next blocks hblocks =>
      split at h
      next => cases h
      next leaf hleaf =>
        obtain ⟨c, hc, hinfo⟩ := ofBytes_eq_ok.1 h
        exact ⟨blocks, leaf, c, hblocks, (hfirst blocks leaf).1 hleaf, hc, hinfo⟩
  · rintro ⟨blocks, leaf, c, hblocks, hleaf, hc, hinfo⟩
    rw [← hfirst] at hleaf
    simp only [ofPem, hblocks, hleaf]
    exact ofBytes_eq_ok.2 ⟨c, hc, hinfo⟩

end CertificateInfo

/-! ## The key -/

/-- The text has blocks in order, among them one of a private key, the first of which is not
encrypted, and the first block of all is a key with this public half. -/
def HoldsKey (text : String) (publicKey : List UInt8) : Prop :=
  ∃ blocks block first, Pem.blocks text = .ok blocks ∧
    Pem.IsFirst (fun tag => "PRIVATE KEY".toList <:+ tag.toList) block blocks ∧
    block.tag ≠ "ENCRYPTED PRIVATE KEY" ∧
    Pem.firstBlock text = .ok first ∧ KeyPair.publicKeyOf? first.contents = some publicKey

theorem publicKeyOfPem_eq_ok {text : String} {key : List UInt8} :
    publicKeyOfPem text = .ok key ↔ HoldsKey text key := by
  have hfirst (blocks : List Pem.Block) (block : Pem.Block) :
      blocks.find? (isPrivateKeyTag ·.tag) = some block ↔
        Pem.IsFirst (fun tag => "PRIVATE KEY".toList <:+ tag.toList) block blocks :=
    Pem.find?_eq_some_iff _ fun _ => List.isSuffixOf_iff_suffix
  constructor
  · intro h
    unfold publicKeyOfPem at h
    split at h
    next => cases h
    next blocks hblocks =>
      split at h
      next => cases h
      next block hblock =>
        split at h
        next => cases h
        next htag =>
          split at h
          next key' hkey =>
            cases h
            obtain ⟨first, hhead, hkey⟩ := Option.bind_eq_some_iff.1 hkey
            exact ⟨blocks, block, first, hblocks, (hfirst blocks block).1 hblock, htag,
              (Pem.head?_eq_some_iff hblocks).1 hhead, hkey⟩
          next => cases h
  · rintro ⟨blocks, block, first, hblocks, hblock, htag, hhead, hkey⟩
    rw [← hfirst] at hblock
    rw [← Pem.head?_eq_some_iff hblocks] at hhead
    simp only [publicKeyOfPem, hblocks, hblock, if_neg htag, hhead, Option.bind_some, hkey]

theorem checkPrivateKey_eq_ok {text : String} {leaf : CertificateInfo} :
    checkPrivateKey text leaf = .ok () ↔ HoldsKey text leaf.publicKey := by
  rw [← publicKeyOfPem_eq_ok, checkPrivateKey]
  cases publicKeyOfPem text with
  | error e => simp
  | ok key => simp

/-! ## The identity -/

theorem identify_eq_ok {certificatePem keyPem : String} {i : Identity} :
    identify certificatePem keyPem = .ok i ↔
      i.certificatePem = certificatePem ∧ i.keyPem = keyPem ∧ i.info.IsOf certificatePem ∧
        HoldsKey keyPem i.info.publicKey := by
  constructor
  · intro h
    unfold identify at h
    split at h
    next => cases h
    next info hinfo =>
      split at h
      next => cases h
      next hkey =>
        cases h
        exact ⟨rfl, rfl, CertificateInfo.ofPem_eq_ok.1 hinfo, checkPrivateKey_eq_ok.1 hkey⟩
  · obtain ⟨_, _, info⟩ := i
    rintro ⟨rfl, rfl, hinfo, hkey⟩
    rw [identify, CertificateInfo.ofPem_eq_ok.2 hinfo]
    simp only [checkPrivateKey_eq_ok.2 hkey]

theorem kind_of_identify {certificatePem keyPem : String} {f : Failure}
    (h : identify certificatePem keyPem = .error f) : f.kind = .rejected := by
  unfold identify at h
  split at h
  next =>
    cases h
    rfl
  next =>
    split at h
    next =>
      cases h
      rfl
    next => cases h

/-- What two successive reads give, each the bytes of a file or the reason why there are none. -/
structure Reads where
  certificate : Except ReadError ByteArray
  key : Except ReadError ByteArray

namespace Reads

def of (s : Settings) (files : Files) : Reads :=
  ⟨files.read s.certificatePath, files.read s.privateKeyPath⟩

/-- One of the files could not be read as a text. -/
def Failed (r : Reads) : Prop :=
  (∀ text : String, r.certificate ≠ .ok text.toUTF8) ∨ ∀ text : String, r.key ≠ .ok text.toUTF8

theorem not_failed {r : Reads} {certificatePem keyPem : String}
    (hcertificate : r.certificate = .ok certificatePem.toUTF8) (hkey : r.key = .ok keyPem.toUTF8) :
    ¬r.Failed := by
  rintro (hfailed | hfailed)
  · exact hfailed _ hcertificate
  · exact hfailed _ hkey

/-- The files are texts, the one a certificate and the other its key. -/
structure Holds (r : Reads) (i : Identity) : Prop where
  certificate : r.certificate = .ok i.certificatePem.toUTF8
  key : r.key = .ok i.keyPem.toUTF8
  info : i.info.IsOf i.certificatePem
  holdsKey : HoldsKey i.keyPem i.info.publicKey

/-- What the files hold is an identity at a time. -/
structure Accepted (r : Reads) (now : Moment) (i : Identity) : Prop extends r.Holds i where
  begun : i.info.notBefore ≤ now
  notOver : now < i.info.notAfter

end Reads

variable {s : Settings} {r : Reads} {i : Identity} {now : Moment}

theorem readFile_eq_ok {path text : String} {contents : Except ReadError ByteArray} :
    readFile path (Files.asText contents) = .ok text ↔ contents = .ok text.toUTF8 := by
  rw [← Files.asText_eq_ok]
  unfold readFile
  cases Files.asText contents with
  | error e => simp
  | ok text' => simp

theorem kind_of_readFile {path : String} {answer : Except ReadError String} {f : Failure}
    (h : readFile path answer = .error f) : f.kind = .io := by
  unfold readFile at h
  split at h
  next => cases h
  next =>
    cases h
    rfl

theorem readIdentity_eq_ok :
    readIdentity s (Files.asText r.certificate) (Files.asText r.key) = .ok i ↔ r.Holds i := by
  constructor
  · intro h
    unfold readIdentity at h
    split at h
    next => cases h
    next certificatePem hcertificate =>
      split at h
      next => cases h
      next keyPem hkey =>
        obtain ⟨rfl, rfl, hinfo, hholds⟩ := identify_eq_ok.1 h
        exact ⟨readFile_eq_ok.1 hcertificate, readFile_eq_ok.1 hkey, hinfo, hholds⟩
  · rintro ⟨hcertificate, hkey, hinfo, hholds⟩
    simp only [readIdentity, readFile_eq_ok.2 hcertificate, readFile_eq_ok.2 hkey]
    exact identify_eq_ok.2 ⟨rfl, rfl, hinfo, hholds⟩

/-- Where there is no identity, there are no two texts to read, or what they say is rejected. -/
theorem kind_of_readIdentity {f : Failure}
    (h : readIdentity s (Files.asText r.certificate) (Files.asText r.key) = .error f) :
    r.Failed ∧ f.kind = .io ∨ ¬r.Failed ∧ f.kind = .rejected := by
  unfold readIdentity at h
  split at h
  next f' hcertificate =>
    cases h
    refine .inl ⟨.inl fun text htext => ?_, kind_of_readFile hcertificate⟩
    rw [readFile_eq_ok.2 htext] at hcertificate
    cases hcertificate
  next certificatePem hcertificate =>
    split at h
    next f' hkey =>
      cases h
      refine .inl ⟨.inr fun text htext => ?_, kind_of_readFile hkey⟩
      rw [readFile_eq_ok.2 htext] at hkey
      cases hkey
    next keyPem hkey =>
      have htexts := Reads.not_failed (readFile_eq_ok.1 hcertificate) (readFile_eq_ok.1 hkey)
      exact .inr ⟨htexts, kind_of_identify h⟩

/-! ## The answer -/

theorem notice_eq (s : Settings) (i : Identity) (now : Moment) :
    notice s i now =
      if i.info.notAfter.nanos ≤ now.nanos + s.expiryWarning.nanos then
        .certificateExpiring (sourceName s) i.info.subject i.info.notAfter
      else .certificateLoaded (sourceName s) i.info.subject i.info.notAfter := by
  simp only [notice, CertificateInfo.willExpireWithin, isDue_iff]

theorem checkValidity_eq_ok :
    i.checkValidity now = .ok () ↔ i.info.notBefore ≤ now ∧ now < i.info.notAfter := by
  unfold Identity.checkValidity CertificateInfo.isExpired CertificateInfo.isNotYetValid
  simp only [decide_eq_true_eq, Moment.le_def, Moment.lt_def]
  split
  next h => exact ⟨nofun, fun h' => by omega⟩
  next h =>
    split
    next h' => exact ⟨nofun, fun h' => by omega⟩
    next h' => exact ⟨fun _ => by omega, fun _ => rfl⟩

theorem kind_of_checkValidity {f : Failure} (h : i.checkValidity now = .error f) :
    f.kind = .rejected := by
  unfold Identity.checkValidity at h
  split at h
  next =>
    cases h
    rfl
  next =>
    split at h
    next =>
      cases h
      rfl
    next => cases h

/-- The answer of the source to two texts, or to what it has in their place. -/
def answerTo (s : Settings) (certificate key : Except ReadError String) :
    Option Moment → Manager.Reply Identity × List Log.Notice
  | some now => (.outcome (renewal s certificate key now).1, (renewal s certificate key now).2)
  | none =>
    match readIdentity s certificate key with
    | .error f => (.outcome (.error f), [])
    | .ok _ => (.crash Moment.noneMessage, [])

def answer (s : Settings) (r : Reads) : Option Moment → Manager.Reply Identity × List Log.Notice :=
  answerTo s (Files.asText r.certificate) (Files.asText r.key)

theorem reply_eq (s : Settings) (files : Files) : reply s files = answer s (.of s files) :=
  calc reply s files
      = answerTo s (files.readText s.certificatePath) (files.readText s.privateKeyPath) := by
        funext wall
        cases wall with
        | none => rfl
        | some now => rfl
    _ = answer s (.of s files) :=
        congr (congrArg _ (Files.readText_eq ..)) (Files.readText_eq ..)

theorem answer_of_accepted (h : r.Accepted now i) :
    answer s r (some now) =
      (.outcome (.ok ⟨i, i.info.notAfter, now⟩), [notice s i now]) := by
  simp only [answer, answerTo, renewal, readIdentity_eq_ok.2 h.toHolds, issue,
    checkValidity_eq_ok.2 ⟨h.begun, h.notOver⟩]

theorem answer_of_not_accepted (h : ∀ i, ¬r.Accepted now i) :
    ∃ f, answer s r (some now) = (.outcome (.error f), []) ∧
      (r.Failed ∧ f.kind = .io ∨ ¬r.Failed ∧ f.kind = .rejected) := by
  cases hread : readIdentity s (Files.asText r.certificate) (Files.asText r.key) with
  | error f =>
    exact ⟨f, by simp only [answer, answerTo, renewal, hread], kind_of_readIdentity hread⟩
  | ok i =>
    have hholds := readIdentity_eq_ok.1 hread
    cases hvalid : i.checkValidity now with
    | error f =>
      have htexts := Reads.not_failed hholds.certificate hholds.key
      exact ⟨f, by simp only [answer, answerTo, renewal, hread, issue, hvalid],
        .inr ⟨htexts, kind_of_checkValidity hvalid⟩⟩
    | ok _ =>
      obtain ⟨hbegun, hnotOver⟩ := checkValidity_eq_ok.1 hvalid
      exact absurd ⟨hholds, hbegun, hnotOver⟩ (h i)

/-- Nothing but an accepted identity is ever issued. -/
theorem accepted_of_answer {wall : Option Moment} {c : Credential Identity}
    {said : List Log.Notice} (h : answer s r wall = (.outcome (.ok c), said)) :
    wall = some c.issuedAt ∧ r.Accepted c.issuedAt c.value ∧
      c.expiresAt = c.value.info.notAfter := by
  cases wall with
  | none =>
    rw [answer, answerTo] at h
    split at h <;> cases h
  | some now =>
    by_cases hex : ∃ i, r.Accepted now i
    · obtain ⟨i, hi⟩ := hex
      rw [answer_of_accepted hi] at h
      cases h
      exact ⟨rfl, hi, rfl⟩
    · obtain ⟨f, hf, -⟩ := answer_of_not_accepted (s := s) (not_exists.1 hex)
      rw [hf] at h
      cases h

end Apns

end CredentialKeeper
