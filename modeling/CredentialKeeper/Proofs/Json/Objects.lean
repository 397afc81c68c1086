import CredentialKeeper.Proofs.Json.Members
import Mathlib.Data.List.Basic
import Mathlib.Data.List.Forall2
import Mathlib.Data.List.Pairwise
import Mathlib.Logic.Function.Conjugate

/-! # Records as objects

How the members of an object fill a record: each field takes the one value under its name, or keeps
that of the blank record if it need not be there (`RecordType.OfMembers`). This says nothing of the
order of the members, nor of those whose names are not known. The reader goes by their order; as the
fields of a record do not touch each other (`RecordType.Separate`), it comes to the same. -/

namespace CredentialKeeper.Json

variable {ρ : Type} {t : RecordType ρ}

/-- A value means what the field makes of the record by it. -/
def Field.Means (f : Field ρ) (v : List Char) (put : ρ → ρ) : Prop :=
  Written .value v ∧ f.read v = .ok (put, [])

/-- A field with a reader means what the reader means. -/
theorem Field.reading_means_iff {α : Type} {read : List Char → Reading α}
    {Means : List Char → α → Prop} (h : Reads read Means) {name : String} {isRequired : Bool}
    {put : α → ρ → ρ} {v : List Char} {p : ρ → ρ} :
    (Field.reading read name isRequired put).Means v p ↔ ∃ a, Means v a ∧ p = put a := by
  constructor
  · rintro ⟨hw, hread⟩
    simp only [Field.reading] at hread
    split at hread
    · cases hread
    · rename_i a r hvalue
      cases hread
      exact ⟨a, h.means_iff.2 ⟨hw, hvalue⟩, rfl⟩
  · rintro ⟨a, ha, rfl⟩
    obtain ⟨hw, hvalue⟩ := h.means_iff.1 ha
    exact ⟨hw, by simp only [Field.reading, hvalue]⟩

theorem Field.reading_reads {α : Type} {read : List Char → Reading α}
    {Means : List Char → α → Prop} (h : Reads read Means) (name : String) (isRequired : Bool)
    (put : α → ρ → ρ) :
    Reads (Field.reading read name isRequired put).read
      (Field.reading read name isRequired put).Means where
  value hv := hv.1
  sound {cs r p} hread := by
    simp only [Field.reading] at hread
    split at hread
    · cases hread
    · rename_i a r' hvalue
      cases hread
      obtain ⟨b, v, hb, hv, happend⟩ := h.sound hvalue
      exact ⟨b, v, hb, (Field.reading_means_iff h).2 ⟨a, hv, rfl⟩, happend⟩
  complete {b v r p} hb hv hr := by
    obtain ⟨a, ha, rfl⟩ := (Field.reading_means_iff h).1 hv
    simp only [Field.reading, h.complete hb ha hr]

/-- How the reader goes on after a member. -/
inductive RecordType.Enters (t : RecordType ρ) :
    List String × ρ → String × List Char → List String × ρ → Prop
  | known {f : Field ρ} {key : String} {v : List Char} {put : ρ → ρ} {seen : List String}
      {record : ρ} (hf : t.fields.find? (·.name = key) = some f) (hseen : key ∉ seen)
      (hv : f.Means v put) : t.Enters (seen, record) (key, v) (key :: seen, put record)
  | unknown {key : String} {v : List Char} {seen : List String} {record : ρ}
      (hf : t.fields.find? (·.name = key) = none) : t.Enters (seen, record) (key, v) (seen, record)

inductive RecordType.Fills (t : RecordType ρ) :
    List String × ρ → List (String × List Char) → List String × ρ → Prop
  | nil {s : List String × ρ} : t.Fills s [] s
  | cons {s s' s'' : List String × ρ} {m : String × List Char} {ms : List (String × List Char)} :
      t.Enters s m s' → t.Fills s' ms s'' → t.Fills s (m :: ms) s''

/-- Every field has a reader of values. -/
def RecordType.Regular (t : RecordType ρ) : Prop := ∀ f ∈ t.fields, Reads f.read f.Means

variable {cs r w v b : List Char} {s s' : List String × ρ} {ms : List (String × List Char)}

/-! ## What the reader of an object takes -/

theorem skipColon_eq_ok_iff : skipColon cs = .ok r ↔ ∃ b, Blanks b ∧ cs = b ++ ':' :: r := by
  constructor
  · intro h
    obtain ⟨b, hb, hcs⟩ := exists_blanks cs
    unfold skipColon at h
    split at h
    · cases h
    · rename_i s hs
      cases h
      exact ⟨b, hb, hs ▸ hcs⟩
    · cases h
  · rintro ⟨b, hb, rfl⟩
    have hskip : skipBlanks (b ++ ':' :: r) = ':' :: r := skipBlanks_append_cons hb (by decide) r
    rw [skipColon, hskip]
    rfl

theorem closeObject_eq_ok_iff :
    closeObject cs = .ok r ↔ ∃ b, Blanks b ∧ cs = b ++ Frame.object.close :: r := by
  constructor
  · intro h
    obtain ⟨b, hb, hcs⟩ := exists_blanks cs
    unfold closeObject at h
    split at h
    · cases h
    · rename_i s hs
      cases h
      exact ⟨b, hb, hs ▸ hcs⟩
    · cases h
    · cases h
  · rintro ⟨b, hb, rfl⟩
    rw [closeObject, skipBlanks_append_cons hb Frame.object.isBlank_close]
    rfl

/-- The next key begins after its quote; the end of an object is left where it is. -/
theorem nextKey_sound {isFirst more : Bool} (h : nextKey isFirst cs = .ok (more, r)) :
    ∃ b, Blanks b ∧ ((more = false ∧ ∃ s, r = Frame.object.close :: s ∧ cs = b ++ r) ∨
      (more = true ∧ ((isFirst = true ∧ cs = b ++ '"' :: r) ∨
        (isFirst = false ∧ ∃ a, Blanks a ∧ cs = b ++ ',' :: (a ++ '"' :: r))))) := by
  obtain ⟨b, hb, hcs⟩ := exists_blanks cs
  refine ⟨b, hb, ?_⟩
  unfold nextKey at h
  split at h
  · cases h
  · rename_i s hs
    cases h
    exact .inl ⟨rfl, s, rfl, hs ▸ hcs⟩
  · rename_i s hs
    split at h
    · cases h
    · rename_i hfirst
      obtain ⟨a, ha, hs'⟩ := exists_blanks s
      split at h
      · cases h
      · rename_i u hu
        cases h
        refine .inr ⟨rfl, .inr ⟨Bool.eq_false_iff.2 hfirst, a, ha, ?_⟩⟩
        rw [hcs, hs, ← hu, ← hs']
      · cases h
      · cases h
  · rename_i c s _ _ hs
    split at h
    · cases h
    · rename_i hfirst
      split at h
      · rename_i hc
        cases h
        refine .inr ⟨rfl, .inl ⟨by simpa using hfirst, ?_⟩⟩
        rw [hcs, hs, hc]
      · cases h

theorem readEntry_sound (ht : t.Regular) {key : String} {seen : List String} {record : ρ}
    (h : t.readEntry key seen record cs = .ok (s, r)) :
    ∃ b d v, Blanks b ∧ Blanks d ∧ Written .value v ∧ cs = b ++ ':' :: (d ++ (v ++ r)) ∧
      t.Enters (seen, record) (key, v) s := by
  unfold RecordType.readEntry at h
  split at h
  · rename_i f hf
    split at h
    · cases h
    · rename_i hseen
      split at h
      · cases h
      · rename_i u hu
        obtain ⟨b, hb, rfl⟩ := skipColon_eq_ok_iff.1 hu
        split at h
        · cases h
        · rename_i put r' hread
          cases h
          obtain ⟨d, v, hd, hv, rfl⟩ := (ht f (List.mem_of_find?_eq_some hf)).sound hread
          exact ⟨b, d, v, hb, hd, hv.1, rfl, .known hf hseen hv⟩
  · rename_i hf
    split at h
    · cases h
    · rename_i u hu
      obtain ⟨b, hb, rfl⟩ := skipColon_eq_ok_iff.1 hu
      split at h
      · cases h
      · rename_i r' hskip
        cases h
        obtain ⟨d, v, hd, hv, rfl⟩ := skipValue_sound hskip
        exact ⟨b, d, v, hb, hd, hv, rfl, .unknown hf⟩

theorem readEntry_complete (ht : t.Regular) {d : List Char} {m : String × List Char}
    (hb : Blanks b) (hd : Blanks d) (hv : Written .value m.2) (hm : t.Enters s m s')
    (hr : EndsNumber r) :
    t.readEntry m.1 s.1 s.2 (b ++ ':' :: (d ++ (m.2 ++ r))) = .ok (s', r) := by
  have hcolon : skipColon (b ++ ':' :: (d ++ (m.2 ++ r))) = .ok (d ++ (m.2 ++ r)) :=
    skipColon_eq_ok_iff.2 ⟨b, hb, rfl⟩
  cases hm with
  | @known f key v put seen record hf hseen hmeans =>
    have hread : f.read (d ++ (v ++ r)) = .ok (put, r) :=
      (ht f (List.mem_of_find?_eq_some hf)).complete hd hmeans hr
    simp only [RecordType.readEntry, hf, if_neg hseen, hcolon, hread]
  | unknown hf =>
    have hskip := skipValue_complete hd hv hr
    simp only [RecordType.readEntry, hf, hcolon, hskip]

/-- A key and its value, after the quote that the key begins with. -/
theorem readKey_sound (ht : t.Regular) {text : List Char} {seen : List String} {record : ρ}
    (htext : readText cs = .ok (text, w))
    (h : t.readEntry (String.ofList text) seen record w = .ok (s, r)) :
    ∃ u m, (∀ a, Blanks a → Member (a ++ '"' :: u) m) ∧ cs = u ++ r ∧ r.length < cs.length ∧
      t.Enters (seen, record) m s := by
  obtain ⟨k, hk, rfl⟩ := readText_eq_ok_iff.1 htext
  obtain ⟨b, d, v, hb, hd, hv, rfl, hm⟩ := readEntry_sound ht h
  refine ⟨k ++ '"' :: (b ++ ':' :: (d ++ v)), _, fun a ha => .mk ha hk hb hd hv, by simp, ?_, hm⟩
  simp only [List.length_append, List.length_cons]
  omega

/-- One move of the reader: it is at the end, or it takes a member. -/
theorem readEntries_succ_sound (ht : t.Regular) {moves : Nat} {isFirst : Bool}
    {seen : List String} {record : ρ}
    (h : t.readEntries (moves + 1) isFirst seen record cs = .ok (s, r)) :
    (∃ b u, Blanks b ∧ r = Frame.object.close :: u ∧ cs = b ++ r ∧ s = (seen, record)) ∨
      ∃ w m s' x, Member w m ∧ t.Enters (seen, record) m s' ∧ x.length < cs.length ∧
        ((isFirst = true ∧ cs = w ++ x) ∨
          (isFirst = false ∧ ∃ b, Blanks b ∧ cs = b ++ ',' :: (w ++ x))) ∧
        t.readEntries moves false s'.1 s'.2 x = .ok (s, r) := by
  unfold RecordType.readEntries at h
  split at h
  · cases h
  · rename_i hnext
    cases h
    obtain ⟨b, hb, ⟨-, u, rfl, rfl⟩ | ⟨hmore, -⟩⟩ := nextKey_sound hnext
    · exact .inl ⟨b, u, hb, rfl, rfl, rfl⟩
    · cases hmore
  · rename_i k hnext
    split at h
    · cases h
    · rename_i htext
      split at h
      · cases h
      · rename_i s' r' hentry
        obtain ⟨u, m, hm, rfl, hlen, henters⟩ := readKey_sound ht htext hentry
        obtain ⟨b, hb, ⟨hmore, -⟩ | ⟨-, ⟨hfirst, rfl⟩ | ⟨hfirst, a, ha, rfl⟩⟩⟩ :=
          nextKey_sound hnext
        · cases hmore
        all_goals
          refine .inr ⟨_, m, _, r', hm _ ‹_›, henters, ?_, ?_, h⟩
          · simp only [List.length_append, List.length_cons] at hlen ⊢
            omega
        · exact .inl ⟨hfirst, by simp⟩
        · exact .inr ⟨hfirst, b, hb, by simp⟩

theorem readEntries_rest_sound (ht : t.Regular) {moves : Nat} {seen : List String} {record : ρ}
    (hmoves : cs.length < moves)
    (h : t.readEntries moves false seen record cs = .ok (s, r)) :
    ∃ ws u ms, Rest Member Frame.object.close ws ms ∧ r = Frame.object.close :: u ∧
      cs = ws ++ u ∧ t.Fills (seen, record) ms s := by
  induction moves generalizing cs seen record with
  | zero => exact absurd hmoves (Nat.not_lt_zero _)
  | succ moves ih =>
    obtain ⟨b, u, hb, rfl, rfl, rfl⟩ |
      ⟨w, m, s', x, hm, henters, hlen, ⟨hfirst, -⟩ | ⟨-, b, hb, rfl⟩, hrest⟩ :=
      readEntries_succ_sound ht h
    · exact ⟨_, u, [], .close hb, rfl, by simp, .nil⟩
    · cases hfirst
    · obtain ⟨ws, u, ms, hws, rfl, rfl, hfills⟩ := ih (by omega) hrest
      exact ⟨_, u, m :: ms, .comma hb hm hws, rfl, by simp, .cons henters hfills⟩

theorem readEntries_sound (ht : t.Regular) {moves : Nat} {seen : List String} {record : ρ}
    (hmoves : cs.length < moves)
    (h : t.readEntries moves true seen record cs = .ok (s, r)) :
    ∃ ws u ms, Body Member Frame.object.close ws ms ∧ r = Frame.object.close :: u ∧
      cs = ws ++ u ∧ t.Fills (seen, record) ms s := by
  obtain ⟨moves, rfl⟩ : ∃ m, moves = m + 1 := ⟨moves - 1, by omega⟩
  obtain ⟨b, u, hb, rfl, rfl, rfl⟩ |
    ⟨w, m, s', x, hm, henters, hlen, ⟨-, rfl⟩ | ⟨hfirst, -⟩, hrest⟩ :=
    readEntries_succ_sound ht h
  · exact ⟨_, u, [], .empty hb, rfl, by simp, .nil⟩
  · obtain ⟨ws, u, ms, hws, rfl, rfl, hfills⟩ := readEntries_rest_sound ht (by omega) hrest
    exact ⟨_, u, m :: ms, .parts hm hws, rfl, by simp, .cons henters hfills⟩
  · cases hfirst

theorem nextKey_close (isFirst : Bool) (hb : Blanks b) :
    nextKey isFirst (b ++ Frame.object.close :: r) = .ok (false, Frame.object.close :: r) := by
  rw [nextKey, skipBlanks_append_cons hb Frame.object.isBlank_close]
  rfl

theorem nextKey_first (hb : Blanks b) : nextKey true (b ++ '"' :: r) = .ok (true, r) := by
  have hskip : skipBlanks (b ++ '"' :: r) = '"' :: r := skipBlanks_append_cons hb (by decide) r
  rw [nextKey, hskip]
  rfl

theorem nextKey_comma {a : List Char} (hb : Blanks b) (ha : Blanks a) :
    nextKey false (b ++ ',' :: (a ++ '"' :: r)) = .ok (true, r) := by
  have hcomma : skipBlanks (b ++ ',' :: (a ++ '"' :: r)) = ',' :: (a ++ '"' :: r) :=
    skipBlanks_append_cons hb (by decide) _
  have hquote : skipBlanks (a ++ '"' :: r) = '"' :: r := skipBlanks_append_cons ha (by decide) r
  simp only [nextKey, hcomma, hquote, Bool.false_eq_true, if_false]

theorem Rest.ends {α : Type} {Part : List Char → α → Prop} {frame : Frame} {ps : List α}
    (h : Rest Part frame.close w ps) (r : List Char) : Ends (w ++ r) := by
  cases h with
  | close hb =>
    rw [List.append_assoc]
    exact .append hb (frame.ends_close r)
  | comma hb =>
    rw [List.append_assoc]
    exact .append hb (ends_comma _)

/-- A member and what comes after it, from behind the quote of its key. -/
theorem readKey_complete (ht : t.Regular) {m : String × List Char} (hw : Member w m)
    (hm : t.Enters s m s') (hr : EndsNumber r) :
    ∃ a u text left, Blanks a ∧ w = a ++ '"' :: u ∧ readText (u ++ r) = .ok (text, left) ∧
      t.readEntry (String.ofList text) s.1 s.2 left = .ok (s', r) := by
  cases hw with
  | @mk a k b d v key ha hk hb hd hv =>
    refine ⟨a, _, key, b ++ ':' :: (d ++ (v ++ r)), ha, rfl, ?_, ?_⟩
    · simpa using readText_spelled hk (b ++ ':' :: (d ++ (v ++ r)))
    · exact readEntry_complete ht hb hd hv hm hr

theorem readEntries_rest_complete (ht : t.Regular) (hw : Rest Member Frame.object.close w ms)
    (hm : t.Fills s ms s') {moves : Nat} (hmoves : (w ++ r).length < moves) :
    t.readEntries moves false s.1 s.2 (w ++ r) = .ok (s', Frame.object.close :: r) := by
  induction hw generalizing s moves with
  | close hb =>
    obtain ⟨moves, rfl⟩ : ∃ m, moves = m + 1 := ⟨moves - 1, by omega⟩
    cases hm
    rw [List.append_assoc, List.cons_append, List.nil_append, RecordType.readEntries,
      nextKey_close false hb]
  | @comma b w ws m ms hb hpart hrest ih =>
    obtain ⟨moves, rfl⟩ : ∃ m, moves = m + 1 := ⟨moves - 1, by omega⟩
    cases hm with
    | cons henters hfills =>
      obtain ⟨a, u, text, left, ha, rfl, htext, hentry⟩ :=
        readKey_complete ht hpart henters (hrest.ends r).endsNumber
      simp only [List.length_append, List.length_cons] at hmoves
      have hlen : (ws ++ r).length < moves := by
        simp only [List.length_append]
        omega
      have hstep := ih hfills hlen
      simp only [List.append_assoc, List.cons_append] at htext hstep ⊢
      rw [RecordType.readEntries, nextKey_comma hb ha]
      simp only [htext, hentry, hstep]

theorem readEntries_complete (ht : t.Regular) (hw : Body Member Frame.object.close w ms)
    (hm : t.Fills s ms s') {moves : Nat} (hmoves : (w ++ r).length < moves) :
    t.readEntries moves true s.1 s.2 (w ++ r) = .ok (s', Frame.object.close :: r) := by
  obtain ⟨moves, rfl⟩ : ∃ m, moves = m + 1 := ⟨moves - 1, by omega⟩
  cases hw with
  | empty hb =>
    cases hm
    rw [List.append_assoc, List.cons_append, List.nil_append, RecordType.readEntries,
      nextKey_close true hb]
  | @parts w ws m ms hpart hrest =>
    cases hm with
    | cons henters hfills =>
      obtain ⟨a, u, text, left, ha, rfl, htext, hentry⟩ :=
        readKey_complete ht hpart henters (hrest.ends r).endsNumber
      simp only [List.length_append, List.length_cons] at hmoves
      have hlen : (ws ++ r).length < moves := by
        simp only [List.length_append]
        omega
      have hstep := readEntries_rest_complete ht hrest hfills hlen
      simp only [List.append_assoc, List.cons_append] at htext hstep ⊢
      rw [RecordType.readEntries, nextKey_first ha]
      simp only [htext, hentry, hstep]

/-! ## What the members make of a record -/

/-- The values under a key, in their order. -/
def valuesOf (ms : List (String × List Char)) (key : String) : List (List Char) :=
  (ms.filter (·.1 = key)).map Prod.snd

theorem valuesOf_cons_self (key : String) (v : List Char) (ms : List (String × List Char)) :
    valuesOf ((key, v) :: ms) key = v :: valuesOf ms key := by
  simp [valuesOf]

theorem valuesOf_cons_of_ne {key name : String} (h : key ≠ name) (v : List Char)
    (ms : List (String × List Char)) : valuesOf ((key, v) :: ms) name = valuesOf ms name := by
  simp [valuesOf, h]

/-- What the values under its name come to for a field: there is one, or none and nothing
changes. -/
inductive Field.Given (f : Field ρ) : List (List Char) → (ρ → ρ) → Prop
  | absent : f.Given [] id
  | value {v : List Char} {put : ρ → ρ} (h : f.Means v put) : f.Given [v] put

theorem Field.Given.of_ne_nil {f : Field ρ} {vs : List (List Char)} {p : ρ → ρ} (h : f.Given vs p)
    (hne : vs ≠ []) : ∃ v, vs = [v] ∧ f.Means v p := by
  cases h with
  | absent => exact absurd rfl hne
  | value hv => exact ⟨_, rfl, hv⟩

/-- The fields that must be there have a value. -/
def Field.Settled (f : Field ρ) (ms : List (String × List Char)) (p : ρ → ρ) : Prop :=
  f.Given (valuesOf ms f.name) p ∧ (f.isRequired = true → valuesOf ms f.name ≠ [])

def RecordType.OfMembers (t : RecordType ρ) (ms : List (String × List Char)) (record : ρ) : Prop :=
  ∃ puts, List.Forall₂ (fun f p => f.Settled ms p) t.fields puts ∧
    record = puts.foldl (fun record p => p record) t.blank

section
variable {α : Type} {read : List Char → Reading α} {Means : List Char → α → Prop}
  {name : String} {put : α → ρ → ρ} {p : ρ → ρ}

theorem Field.required_settled_iff (h : Reads read Means) :
    (Field.reading read name true put).Settled ms p ↔
      ∃ v a, valuesOf ms name = [v] ∧ Means v a ∧ p = put a := by
  constructor
  · rintro ⟨hgiven, hneed⟩
    obtain ⟨v, hv, hmeans⟩ := hgiven.of_ne_nil (hneed rfl)
    obtain ⟨a, ha, rfl⟩ := (reading_means_iff h).1 hmeans
    exact ⟨v, a, hv, ha, rfl⟩
  · rintro ⟨v, a, hv, ha, rfl⟩
    have hv : valuesOf ms (Field.reading read name true put).name = [v] := hv
    refine ⟨hv ▸ .value ((reading_means_iff h).2 ⟨a, ha, rfl⟩), fun _ => ?_⟩
    exact hv ▸ List.cons_ne_nil v []

theorem Field.optional_settled_iff (h : Reads read Means) :
    (Field.reading read name false put).Settled ms p ↔
      (valuesOf ms name = [] ∧ p = id) ∨
        ∃ v a, valuesOf ms name = [v] ∧ Means v a ∧ p = put a := by
  constructor
  · rintro ⟨hgiven, -⟩
    rw [show (Field.reading read name false put).name = name from rfl] at hgiven
    generalize valuesOf ms name = vs at hgiven
    cases hgiven with
    | absent => exact .inl ⟨rfl, rfl⟩
    | value hmeans =>
      obtain ⟨a, ha, rfl⟩ := (reading_means_iff h).1 hmeans
      exact .inr ⟨_, a, rfl, ha, rfl⟩
  · intro h'
    refine ⟨?_, nofun⟩
    rw [show (Field.reading read name false put).name = name from rfl]
    rcases h' with ⟨hv, rfl⟩ | ⟨v, a, hv, ha, rfl⟩
    · exact hv ▸ .absent
    · exact hv ▸ .value ((reading_means_iff h).2 ⟨a, ha, rfl⟩)

end

/-- Two fields of different names, of which neither changes what the other one has put. -/
def Field.Apart (f g : Field ρ) : Prop :=
  f.name ≠ g.name ∧ ∀ v w p q, f.Means v p → g.Means w q → Function.Commute p q

instance : Std.Symm (@Field.Apart ρ) where
  symm _ _ h := ⟨h.1.symm, fun v w p q hp hq => (h.2 w v q p hq hp).symm⟩

theorem Field.reading_apart {α β : Type} {read : List Char → Reading α}
    {read' : List Char → Reading β} {Means : List Char → α → Prop} {Means' : List Char → β → Prop}
    (h : Reads read Means) (h' : Reads read' Means') {name name' : String}
    {isRequired isRequired' : Bool} {put : α → ρ → ρ} {put' : β → ρ → ρ} (hname : name ≠ name')
    (hput : ∀ a b, Function.Commute (put a) (put' b)) :
    (Field.reading read name isRequired put).Apart
      (Field.reading read' name' isRequired' put') := by
  refine ⟨hname, fun v w p q hp hq => ?_⟩
  obtain ⟨a, -, rfl⟩ := (reading_means_iff h).1 hp
  obtain ⟨b, -, rfl⟩ := (reading_means_iff h').1 hq
  exact hput a b

def RecordType.Separate (t : RecordType ρ) : Prop := t.fields.Pairwise Field.Apart

/-- One field may as well go first. -/
theorem foldl_update {fields : List (Field ρ)} {put : String → ρ → ρ} {p : ρ → ρ} {key : String}
    (hkey : key ∈ fields.map Field.name) (hnames : (fields.map Field.name).Nodup)
    (hput : put key = id)
    (hcomm : ∀ g ∈ fields, g.name ≠ key → Function.Commute p (put g.name)) (record : ρ) :
    fields.foldl (fun record f => Function.update put key p f.name record) record =
      fields.foldl (fun record f => put f.name record) (p record) := by
  induction fields generalizing record with
  | nil => cases hkey
  | cons g fields ih =>
    rw [List.map_cons, List.nodup_cons] at hnames
    rw [List.foldl_cons, List.foldl_cons]
    by_cases hg : g.name = key
    · rw [hg, Function.update_self, hput, id_eq]
      refine List.foldl_ext _ _ _ fun record f hf => ?_
      have hne : f.name ≠ key := by
        rintro rfl
        exact hnames.1 (hg ▸ List.mem_map_of_mem hf)
      rw [Function.update_of_ne hne]
    · have hmem : key ∈ fields.map Field.name := by
        rcases List.mem_cons.1 hkey with h | h
        · exact absurd h.symm hg
        · exact h
      rw [Function.update_of_ne hg, ih hmem hnames.2
        (fun f hf => hcomm f (List.mem_cons_of_mem _ hf)), hcomm g List.mem_cons_self hg]

theorem RecordType.Separate.nodup (h : t.Separate) : (t.fields.map Field.name).Nodup := by
  rw [List.Nodup, List.pairwise_map]
  exact h.imp fun h => h.1

theorem RecordType.Separate.commute (h : t.Separate) {f g : Field ρ} (hf : f ∈ t.fields)
    (hg : g ∈ t.fields) (hne : g.name ≠ f.name) {p q : ρ → ρ} (hp : f.Means v p)
    {vs : List (List Char)} (hq : g.Given vs q) : Function.Commute p q := by
  cases hq with
  | absent => exact Function.Semiconj.id_right
  | value hq =>
    have hfg : f ≠ g := by
      rintro rfl
      exact hne rfl
    exact (h.forall hf hg hfg).2 _ _ _ _ hp hq

theorem RecordType.Separate.eq_of_name (h : t.Separate) {f g : Field ρ} (hf : f ∈ t.fields)
    (hg : g ∈ t.fields) (hname : f.name = g.name) : f = g := by
  by_contra hne
  exact (h.forall hf hg hne).1 hname

theorem find?_name_eq_some {f : Field ρ} {key : String}
    (h : t.fields.find? (·.name = key) = some f) : f ∈ t.fields ∧ f.name = key :=
  ⟨List.mem_of_find?_eq_some h, by simpa using List.find?_some h⟩

theorem ne_of_find?_name_eq_none {f : Field ρ} {key : String}
    (h : t.fields.find? (·.name = key) = none) (hf : f ∈ t.fields) : key ≠ f.name := by
  have hne := List.find?_eq_none.1 h f hf
  rintro rfl
  exact hne (by simp)

/-- A member of a known name puts its value in, whatever the others do after it. -/
theorem foldl_known (hsep : t.Separate) {f : Field ρ} {key : String} {put : String → ρ → ρ}
    {p : ρ → ρ} (hf : t.fields.find? (·.name = key) = some f) (hp : f.Means v p)
    (hput : put key = id)
    (hgiven : ∀ g ∈ t.fields, ∃ vs, g.Given vs (put g.name)) (record : ρ) :
    t.fields.foldl (fun record g => Function.update put key p g.name record) record =
      t.fields.foldl (fun record g => put g.name record) (p record) := by
  obtain ⟨hmem, rfl⟩ := find?_name_eq_some hf
  refine foldl_update (List.mem_map_of_mem hmem) hsep.nodup hput ?_ record
  intro g hg hne
  obtain ⟨vs, hvs⟩ := hgiven g hg
  exact hsep.commute hmem hg hne hp hvs

theorem RecordType.Fills.given (hsep : t.Separate) (h : t.Fills s ms s') :
    ∃ put : String → ρ → ρ,
      (∀ f ∈ t.fields, f.Given (valuesOf ms f.name) (put f.name) ∧
        (f.name ∈ s.1 → valuesOf ms f.name = [])) ∧
      s'.2 = t.fields.foldl (fun record f => put f.name record) s.2 := by
  induction h with
  | @nil s =>
    refine ⟨fun _ => id, fun f _ => ⟨.absent, fun _ => rfl⟩, ?_⟩
    simp
  | @cons s s₁ s' m ms henters hfills ih =>
    obtain ⟨put, hput, hrecord⟩ := ih
    cases henters with
    | @known f key v p seen record hf hseen hv =>
      obtain ⟨hmem, rfl⟩ := find?_name_eq_some hf
      have hnone : valuesOf ms f.name = [] := (hput f hmem).2 List.mem_cons_self
      have hid : put f.name = id := by
        have hgiven := (hput f hmem).1
        rw [hnone] at hgiven
        generalize put f.name = q at hgiven
        cases hgiven
        rfl
      refine ⟨Function.update put f.name p, ?_, ?_⟩
      · intro g hg
        by_cases hne : g.name = f.name
        · rw [hne, Function.update_self, valuesOf_cons_self, hnone]
          obtain rfl : g = f := hsep.eq_of_name hg hmem hne
          exact ⟨.value hv, fun h => absurd h hseen⟩
        · rw [Function.update_of_ne hne, valuesOf_cons_of_ne (Ne.symm hne)]
          exact ⟨(hput g hg).1, fun h => (hput g hg).2 (List.mem_cons_of_mem _ h)⟩
      · rw [hrecord, foldl_known hsep hf hv hid fun g hg => ⟨_, (hput g hg).1⟩]
    | @unknown key v seen record hf =>
      refine ⟨put, ?_, hrecord⟩
      intro g hg
      rw [valuesOf_cons_of_ne (ne_of_find?_name_eq_none hf hg)]
      exact hput g hg

theorem RecordType.exists_fills (hsep : t.Separate) {put : String → ρ → ρ} {seen : List String}
    (hput : ∀ f ∈ t.fields, f.Given (valuesOf ms f.name) (put f.name) ∧
      (f.name ∈ seen → valuesOf ms f.name = [])) (record : ρ) :
    ∃ seen', t.Fills (seen, record) ms
      (seen', t.fields.foldl (fun record f => put f.name record) record) := by
  induction ms generalizing put seen record with
  | nil =>
    have hid : t.fields.foldl (fun record f => put f.name record) record = record := by
      refine Eq.trans (List.foldl_ext _ (fun record _ => record) _ fun record f hf => ?_) (by simp)
      have hgiven := (hput f hf).1
      generalize put f.name = q at hgiven
      cases hgiven
      rfl
    exact ⟨seen, hid.symm ▸ .nil⟩
  | cons m ms ih =>
    obtain ⟨key, v⟩ := m
    cases hf : t.fields.find? (·.name = key) with
    | none =>
      have hothers : ∀ g ∈ t.fields, g.Given (valuesOf ms g.name) (put g.name) ∧
          (g.name ∈ seen → valuesOf ms g.name = []) := by
        intro g hg
        have hg' := hput g hg
        rwa [valuesOf_cons_of_ne (ne_of_find?_name_eq_none hf hg)] at hg'
      obtain ⟨seen', hfills⟩ := ih hothers record
      exact ⟨seen', .cons (.unknown hf) hfills⟩
    | some f =>
      obtain ⟨hmem, rfl⟩ := find?_name_eq_some hf
      obtain ⟨hgiven, hseen⟩ := hput f hmem
      rw [valuesOf_cons_self] at hgiven hseen
      have hnotin : f.name ∉ seen := fun h => List.cons_ne_nil _ _ (hseen h)
      generalize hvs : v :: valuesOf ms f.name = vs at hgiven
      generalize hp : put f.name = p at hgiven
      cases hgiven with
      | absent => cases hvs
      | @value v' p hv =>
        obtain ⟨rfl, hnone⟩ := List.cons.inj hvs
        have hothers : ∀ g ∈ t.fields,
            g.Given (valuesOf ms g.name) (Function.update put f.name id g.name) ∧
              (g.name ∈ f.name :: seen → valuesOf ms g.name = []) := by
          intro g hg
          by_cases hne : g.name = f.name
          · rw [hne, hnone, Function.update_self]
            exact ⟨.absent, fun _ => rfl⟩
          · have hg' := hput g hg
            rw [valuesOf_cons_of_ne (Ne.symm hne)] at hg'
            rw [Function.update_of_ne hne]
            exact ⟨hg'.1, fun h => hg'.2 ((List.mem_cons.1 h).resolve_left hne)⟩
        obtain ⟨seen', hfills⟩ := ih hothers (p record)
        have hfold := foldl_known hsep hf hv (Function.update_self f.name id put)
          (fun g hg => ⟨_, (hothers g hg).1⟩) record
        have hself : Function.update (Function.update put f.name id) f.name p = put := by
          rw [Function.update_idem, ← hp, Function.update_eq_self]
        rw [hself] at hfold
        rw [hfold]
        exact ⟨seen', .cons (.known hf hnotin hv) hfills⟩

/-- The keys of known fields that have come are remembered. -/
theorem RecordType.Fills.mem_seen (h : t.Fills s ms s') {f : Field ρ} (hf : f ∈ t.fields) :
    f.name ∈ s'.1 ↔ f.name ∈ s.1 ∨ valuesOf ms f.name ≠ [] := by
  induction h with
  | nil => simp [valuesOf]
  | @cons s s₁ s' m ms henters hfills ih =>
    rw [ih]
    cases henters with
    | @known g key v p seen record hg hseen hv =>
      by_cases hne : key = f.name
      · subst hne
        simp [valuesOf_cons_self]
      · rw [valuesOf_cons_of_ne hne, List.mem_cons, or_iff_right (Ne.symm hne)]
    | unknown hg => rw [valuesOf_cons_of_ne (ne_of_find?_name_eq_none hg hf)]

theorem find?_missing_eq_none_iff {seen : List String} :
    (t.fields.find? fun f => f.isRequired && !seen.contains f.name) = none ↔
      ∀ f ∈ t.fields, f.isRequired = true → f.name ∈ seen := by
  simp [List.find?_eq_none]

/-- What is put into the fields, by their names. -/
theorem exists_put {fields : List (Field ρ)} {puts : List (ρ → ρ)}
    {R : Field ρ → (ρ → ρ) → Prop} (h : List.Forall₂ R fields puts)
    (hnames : (fields.map Field.name).Nodup) :
    ∃ put : String → ρ → ρ, puts = fields.map (fun f => put f.name) ∧
      ∀ f ∈ fields, R f (put f.name) := by
  induction h with
  | nil => exact ⟨fun _ => id, rfl, nofun⟩
  | @cons f p fields puts hp _ ih =>
    rw [List.map_cons, List.nodup_cons] at hnames
    obtain ⟨put, hputs, hR⟩ := ih hnames.2
    have hother : ∀ g ∈ fields, Function.update put f.name p g.name = put g.name := by
      intro g hg
      refine Function.update_of_ne ?_ _ _
      intro h
      exact hnames.1 (h ▸ List.mem_map_of_mem hg)
    refine ⟨Function.update put f.name p, ?_, ?_⟩
    · rw [List.map_cons, Function.update_self, hputs, List.map_congr_left hother]
    · intro g hg
      rcases List.mem_cons.1 hg with rfl | hg
      · rwa [Function.update_self]
      · rw [hother g hg]
        exact hR g hg

theorem readObject_sound (ht : t.Regular) (hsep : t.Separate) {record : ρ}
    (h : t.readObject cs = .ok (record, r)) :
    ∃ ws u ms, Body Member Frame.object.close ws ms ∧ r = Frame.object.close :: u ∧
      cs = ws ++ u ∧ t.OfMembers ms record := by
  unfold RecordType.readObject at h
  split at h
  · cases h
  · rename_i hentries
    obtain ⟨ws, u, ms, hws, rfl, rfl, hfills⟩ := readEntries_sound ht (Nat.lt_succ_self _) hentries
    split at h
    · cases h
    · rename_i hmissing
      cases h
      obtain ⟨put, hput, hrecord⟩ := hfills.given hsep
      refine ⟨ws, u, ms, hws, rfl, rfl, t.fields.map fun f => put f.name, ?_, ?_⟩
      · rw [List.forall₂_map_right_iff, List.forall₂_same]
        refine fun f hf => ⟨(hput f hf).1, fun hreq => ?_⟩
        have hmem := find?_missing_eq_none_iff.1 hmissing f hf hreq
        exact ((hfills.mem_seen hf).1 hmem).resolve_left List.not_mem_nil
      · rw [List.foldl_map]
        exact hrecord

theorem readObject_complete (ht : t.Regular) (hsep : t.Separate) {record : ρ}
    (hw : Body Member Frame.object.close w ms) (h : t.OfMembers ms record) :
    t.readObject (w ++ r) = .ok (record, Frame.object.close :: r) := by
  obtain ⟨puts, hputs, rfl⟩ := h
  obtain ⟨put, rfl, hput⟩ := exists_put hputs hsep.nodup
  have hgiven : ∀ f ∈ t.fields, f.Given (valuesOf ms f.name) (put f.name) ∧
      (f.name ∈ ([] : List String) → valuesOf ms f.name = []) :=
    fun f hf => ⟨(hput f hf).1, nofun⟩
  obtain ⟨seen, hfills⟩ := RecordType.exists_fills hsep hgiven t.blank
  have hentries := readEntries_complete ht hw hfills (r := r) (Nat.lt_succ_self (w ++ r).length)
  have hmissing : (t.fields.find? fun f => f.isRequired && !seen.contains f.name) = none := by
    rw [find?_missing_eq_none_iff]
    intro f hf hreq
    exact (hfills.mem_seen hf).2 (.inr ((hput f hf).2 hreq))
  simp only [RecordType.readObject, hentries, hmissing, List.foldl_map]

end CredentialKeeper.Json
