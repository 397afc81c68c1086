import CredentialKeeper.Fcm.ServiceAccount
import CredentialKeeper.Proofs.Json.TextRecords

/-! # Service accounts in JSON

An account is a record of texts, so what is written of it is read as the account again, whatever
characters are in it (`ServiceAccount.json_round_trip`). -/

namespace CredentialKeeper.Fcm.ServiceAccount

open Json (TextField TextValue valuesOf)

variable {a : ServiceAccount} {text : String}

/-- The fields of an account with their places. -/
def textFields : List (TextField ServiceAccount) := [
  ⟨"project_id", true, projectId, fun s a => { a with projectId := s }⟩,
  ⟨"private_key_id", true, privateKeyId, fun s a => { a with privateKeyId := s }⟩,
  ⟨"private_key", true, privateKey, fun s a => { a with privateKey := s }⟩,
  ⟨"client_email", true, clientEmail, fun s a => { a with clientEmail := s }⟩,
  ⟨"client_id", false, clientId, fun s a => { a with clientId := s }⟩,
  ⟨"auth_uri", false, authUri, fun s a => { a with authUri := s }⟩,
  ⟨"token_uri", false, tokenUri, fun s a => { a with tokenUri := s }⟩]

theorem recordType_texts : recordType.Texts textFields where
  fields := rfl
  names := by decide
  get_put {f g} hf hg s a := by
    simp only [textFields, List.mem_cons, List.not_mem_nil, or_false] at hf hg
    rcases hf with rfl | rfl | rfl | rfl | rfl | rfl | rfl <;>
      rcases hg with rfl | rfl | rfl | rfl | rfl | rfl | rfl <;> rfl
  ext {a a'} h := by
    simp only [textFields, List.forall_mem_cons] at h
    obtain ⟨h₁, h₂, h₃, h₄, h₅, h₆, h₇, -⟩ := h
    cases a
    cases a'
    exact (mk.injEq ..).mpr ⟨h₁, h₂, h₃, h₄, h₅, h₆, h₇⟩

theorem read_json (a : ServiceAccount) : recordType.read a.json = .ok a :=
  recordType_texts.read_writeObject a

/-- An account that has been read must have an address and a key. -/
theorem ofJson_of_read (h : recordType.read text = .ok a) : ofJson text =
    if a.clientEmail = "" then .error .emptyClientEmail
    else if a.privateKey = "" then .error .emptyPrivateKey else .ok a := by
  simp only [ofJson, h, String.isEmpty_iff]

theorem ofJson_eq_ok_iff : ofJson text = .ok a ↔
    recordType.read text = .ok a ∧ a.clientEmail ≠ "" ∧ a.privateKey ≠ "" := by
  constructor
  · intro h
    cases hread : recordType.read text with
    | error e =>
      simp only [ofJson, hread] at h
      cases h
    | ok a' =>
      rw [ofJson_of_read hread] at h
      split at h
      next => cases h
      next hemail =>
        split at h
        next => cases h
        next hkey =>
          cases h
          exact ⟨rfl, hemail, hkey⟩
  · rintro ⟨hread, hemail, hkey⟩
    rw [ofJson_of_read hread, if_neg hemail, if_neg hkey]

/-- What a text has under a name that need not be there, or else what an account has without it. -/
theorem get_of_absent {ms : List (String × List Char)} {f : TextField ServiceAccount}
    (h : ∃ word, f.Given ms word ∧ f.get a = word.getD (f.get recordType.blank))
    (hnone : valuesOf ms f.name = []) : f.get a = f.get recordType.blank := by
  obtain ⟨_ | s, hgiven, hget⟩ := h
  · exact hget
  · obtain ⟨v, hv, -⟩ := hgiven
    rw [hnone] at hv
    cases hv

/-- **An account is what is written of it.** What is written of an account is read as the very
account, whatever characters are in its texts, if and only if it has an address and a key; else the
first of the two that is empty is reported, the address before the key.

An account that is read off some text has an address and a key. Each of its texts is what the text
lists under its name, an object and a sequence alike; a client and an authorization address that are
not there are empty, and without a token address it is the common one. Written and read again, it is
the same account. -/
theorem json_round_trip :
    (∀ a : ServiceAccount,
      (ofJson a.json = .ok a ↔ a.clientEmail ≠ "" ∧ a.privateKey ≠ "") ∧
      (a.clientEmail = "" →
        (ofJson a.json).mapError AccountFault.error = .error (.keyFile "client_email is empty")) ∧
      (a.clientEmail ≠ "" → a.privateKey = "" →
        (ofJson a.json).mapError AccountFault.error = .error (.keyFile "private_key is empty"))) ∧
    ∀ text a, ofJson text = .ok a →
      a.clientEmail ≠ "" ∧ a.privateKey ≠ "" ∧ ofJson a.json = .ok a ∧
      ∃ ms, recordType.Lists text ms ∧ (∀ ms', recordType.Lists text ms' → ms' = ms) ∧
        (∀ f ∈ textFields, (∃ v, valuesOf ms f.name = [v] ∧ TextValue v (f.get a)) ∨
          f.isRequired = false ∧ valuesOf ms f.name = []) ∧
        (valuesOf ms "client_id" = [] → a.clientId = "") ∧
        (valuesOf ms "auth_uri" = [] → a.authUri = "") ∧
        (valuesOf ms "token_uri" = [] → a.tokenUri = defaultTokenUri) := by
  refine ⟨fun a => ⟨?_, ?_, ?_⟩, ?_⟩
  · rw [ofJson_eq_ok_iff, and_iff_right a.read_json]
  · intro hemail
    rw [ofJson_of_read a.read_json, if_pos hemail]
    rfl
  · intro hemail hkey
    rw [ofJson_of_read a.read_json, if_neg hemail, if_pos hkey]
    rfl
  · intro text a h
    obtain ⟨hread, hemail, hkey⟩ := ofJson_eq_ok_iff.1 h
    obtain ⟨ms, hms, hfields⟩ := recordType_texts.read_eq_ok_iff.1 hread
    have hall := hfields
    simp only [textFields, List.forall_mem_cons] at hall
    obtain ⟨-, -, -, -, hclient, hauth, htoken, -⟩ := hall
    refine ⟨hemail, hkey, ofJson_eq_ok_iff.2 ⟨a.read_json, hemail, hkey⟩, ms, hms,
      fun ms' hms' => hms'.unique hms, ?_, ?_, ?_, ?_⟩
    · intro f hf
      obtain ⟨_ | s, hgiven, hget⟩ := hfields f hf
      · exact .inr hgiven
      · exact .inl (hget ▸ hgiven)
    · exact get_of_absent hclient
    · exact get_of_absent hauth
    · exact get_of_absent htoken

/-- An account without the fields that need not be there, with a line break and a character outside
the first plane. -/
def bareText : String :=
  "\x7b\"private_key_id\": \"\", \"private_key\": \"k\\n\", " ++
    "\"client_email\": \"a@\\ud83d\\ude00\", \"project_id\": \"p\"\x7d"

def bare : ServiceAccount := ⟨"p", "", "k\n", "a@😀", "", "", defaultTokenUri⟩

theorem bare_round_trip :
    ofJson bareText = .ok bare ∧ ofJson bare.json = .ok bare ∧
      ∃ ms, recordType.Lists bareText ms := by
  have hread : ofJson bareText = .ok bare := by decide +kernel
  obtain ⟨-, -, hagain, ms, hms, -⟩ := json_round_trip.2 bareText bare hread
  exact ⟨hread, hagain, ms, hms⟩

end CredentialKeeper.Fcm.ServiceAccount
