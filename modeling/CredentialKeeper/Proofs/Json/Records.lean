import CredentialKeeper.Proofs.Json.Objects

/-! # Texts of records

A record is read off a text if and only if the text is an object whose members make the record, or a
sequence whose elements do, field by field (`RecordType.read_eq_ok_iff`). -/

namespace CredentialKeeper.Json

variable {ρ : Type} {t : RecordType ρ} {cs r u w v b : List Char} {record record' : ρ}
  {fields : List (Field ρ)} {es : List (List Char)}

/-- The elements of a sequence go into the fields in their order; fields that need not be there may
be left over. -/
inductive FillsInOrder : List (Field ρ) → ρ → List (List Char) → ρ → Prop
  | done {fields : List (Field ρ)} {record : ρ} (h : ∀ f ∈ fields, f.isRequired = false) :
      FillsInOrder fields record [] record
  | field {f : Field ρ} {fields : List (Field ρ)} {record record' : ρ} {v : List Char}
      {es : List (List Char)} {put : ρ → ρ} (hv : f.Means v put) :
      FillsInOrder fields (put record) es record' →
      FillsInOrder (f :: fields) record (v :: es) record'

/-- A field that need not be there is left over when there are no elements. -/
theorem FillsInOrder.absent {f : Field ρ} (h : FillsInOrder fields record [] record')
    (hopt : f.isRequired = false) : FillsInOrder (f :: fields) record [] record' := by
  cases h with
  | done hrest =>
    refine .done fun g hg => ?_
    rcases List.mem_cons.1 hg with rfl | hg
    · exact hopt
    · exact hrest g hg

def RecordType.OfElements (t : RecordType ρ) (es : List (List Char)) (record : ρ) : Prop :=
  FillsInOrder t.fields t.blank es record

/-! ## What the reader of a sequence takes -/

theorem closeSequence_eq_ok_iff :
    closeSequence cs = .ok r ↔ ∃ b, Blanks b ∧ cs = b ++ Frame.list.close :: r := by
  constructor
  · intro h
    obtain ⟨b, hb, hcs⟩ := exists_blanks cs
    unfold closeSequence at h
    split at h
    · cases h
    · rename_i s hs
      cases h
      exact ⟨b, hb, hs ▸ hcs⟩
    · split at h <;> cases h
    · cases h
  · rintro ⟨b, hb, rfl⟩
    rw [closeSequence, skipBlanks_append_cons hb Frame.list.isBlank_close]
    rfl

theorem nextElement_sound {isFirst more : Bool}
    (h : RecordType.nextElement isFirst cs = .ok (more, r)) :
    ∃ b, Blanks b ∧ ((more = false ∧ ∃ s, r = Frame.list.close :: s ∧ cs = b ++ r) ∨
      (more = true ∧ ((isFirst = true ∧ cs = b ++ r) ∨
        (isFirst = false ∧ ∃ a, Blanks a ∧ cs = b ++ ',' :: (a ++ r))))) := by
  obtain ⟨b, hb, hcs⟩ := exists_blanks cs
  refine ⟨b, hb, ?_⟩
  unfold RecordType.nextElement at h
  split at h
  · cases h
  · rename_i s hs
    cases h
    exact .inl ⟨rfl, s, rfl, hs ▸ hcs⟩
  · rename_i c s _ hs
    split at h
    · rename_i hfirst
      cases h
      exact .inr ⟨rfl, .inl ⟨hfirst, hs ▸ hcs⟩⟩
    · rename_i hfirst
      split at h
      · rename_i hc
        obtain ⟨a, ha, hs'⟩ := exists_blanks s
        split at h
        · cases h
        · cases h
        · cases h
          refine .inr ⟨rfl, .inr ⟨Bool.eq_false_iff.2 hfirst, a, ha, ?_⟩⟩
          rw [hcs, hs, hc, ← hs']
      · cases h

theorem nextElement_close (isFirst : Bool) (hb : Blanks b) :
    RecordType.nextElement isFirst (b ++ Frame.list.close :: r) =
      .ok (false, Frame.list.close :: r) := by
  rw [RecordType.nextElement, skipBlanks_append_cons hb Frame.list.isBlank_close]
  rfl

theorem nextElement_first (hb : Blanks b) (hv : Written .value v) :
    RecordType.nextElement true (b ++ (v ++ r)) = .ok (true, v ++ r) := by
  have hskip := hv.skipBlanks_append hb r
  obtain ⟨c, v, rfl, hc⟩ := hv.begins
  rw [RecordType.nextElement, hskip, List.cons_append]
  split
  · simp_all
  · rename_i hclose
    exact absurd (List.cons.inj hclose).1 hc.2.2.1
  · rename_i heq
    rw [if_pos rfl, heq]

theorem nextElement_comma {a : List Char} (hb : Blanks b) (ha : Blanks a)
    (hv : Written .value v) :
    RecordType.nextElement false (b ++ ',' :: (a ++ (v ++ r))) = .ok (true, v ++ r) := by
  have hcomma : skipBlanks (b ++ ',' :: (a ++ (v ++ r))) = ',' :: (a ++ (v ++ r)) :=
    skipBlanks_append_cons hb (by decide) _
  have hskip := hv.skipBlanks_append ha r
  obtain ⟨c, v, rfl, hc⟩ := hv.begins
  rw [RecordType.nextElement, hcomma]
  split
  · simp_all
  · rename_i hclose
    exact absurd (List.cons.inj hclose).1 (by decide)
  · rename_i heq
    obtain ⟨rfl, rfl⟩ := List.cons.inj heq
    rw [if_neg Bool.false_ne_true, if_pos rfl, hskip, List.cons_append]
    split
    · simp_all
    · rename_i hclose
      exact absurd (List.cons.inj hclose).1 hc.2.2.1
    · rfl

/-- Nothing but the end begins with the closing character. -/
theorem Rest.of_close {α : Type} {Part : List Char → α → Prop} {frame : Frame} {ps : List α}
    (h : Rest Part frame.close w ps) (hw : frame.close :: r = w ++ u) : ps = [] ∧ r = u := by
  have hblank : ∀ {b s : List Char}, Blanks b → frame.close :: r = b ++ s → b = [] := by
    intro b s hb hbs
    cases b with
    | nil => rfl
    | cons c b =>
      obtain ⟨rfl, -⟩ := List.cons.inj hbs
      have hc := hb _ List.mem_cons_self
      rw [frame.isBlank_close] at hc
      cases hc
  cases h with
  | close hb =>
    rw [List.append_assoc] at hw
    obtain rfl := hblank hb hw
    exact ⟨rfl, (List.cons.inj hw).2⟩
  | comma hb =>
    rw [List.append_assoc] at hw
    obtain rfl := hblank hb hw
    exact absurd (List.cons.inj hw).1 frame.close_ne_comma

/-- One field of the reader: the sequence is at its end, or an element goes into the field. -/
theorem readElements_cons_sound {f : Field ρ} (hf : Reads f.read f.Means) {index : Nat}
    (h : t.readElements index record cs (f :: fields) = .ok (record', r)) :
    (f.isRequired = false ∧ ∃ b s, Blanks b ∧ cs = b ++ Frame.list.close :: s ∧
        t.readElements (index + 1) record (Frame.list.close :: s) fields = .ok (record', r)) ∨
      ∃ w v put x, Element w v ∧ f.Means v put ∧
        ((index = 0 ∧ cs = w ++ x) ∨ (index ≠ 0 ∧ ∃ b, Blanks b ∧ cs = b ++ ',' :: (w ++ x))) ∧
        t.readElements (index + 1) (put record) x fields = .ok (record', r) := by
  unfold RecordType.readElements at h
  split at h
  · cases h
  · rename_i hnext
    split at h
    · cases h
    · rename_i hreq
      obtain ⟨b, hb, ⟨-, s, rfl, rfl⟩ | ⟨hmore, -⟩⟩ := nextElement_sound hnext
      · exact .inl ⟨Bool.eq_false_iff.2 hreq, b, s, hb, rfl, h⟩
      · cases hmore
  · rename_i hnext
    split at h
    · cases h
    · rename_i put s hread
      obtain ⟨d, v, hd, hv, rfl⟩ := hf.sound hread
      obtain ⟨b, hb, ⟨hmore, -⟩ | ⟨-, ⟨hfirst, rfl⟩ | ⟨hfirst, a, ha, rfl⟩⟩⟩ :=
        nextElement_sound hnext
      · cases hmore
      · exact .inr ⟨_, v, put, s, .mk (hb.append hd) hv.1, hv,
          .inl ⟨of_decide_eq_true hfirst, by simp⟩, h⟩
      · exact .inr ⟨_, v, put, s, .mk (ha.append hd) hv.1, hv,
          .inr ⟨of_decide_eq_false hfirst, b, hb, by simp⟩, h⟩

theorem readElements_rest_sound (hfields : ∀ f ∈ fields, Reads f.read f.Means) {index : Nat}
    (h : t.readElements (index + 1) record cs fields = .ok (record', r))
    (hclose : closeSequence r = .ok u) :
    ∃ ws es, Rest Element Frame.list.close ws es ∧ cs = ws ++ u ∧
      FillsInOrder fields record es record' := by
  induction fields generalizing index record cs with
  | nil =>
    cases h
    obtain ⟨b, hb, rfl⟩ := closeSequence_eq_ok_iff.1 hclose
    exact ⟨_, [], .close hb, by simp, .done nofun⟩
  | cons f fields ih =>
    have hrest := fun g hg => hfields g (List.mem_cons_of_mem f hg)
    obtain ⟨hopt, b, s, hb, rfl, hend⟩ |
      ⟨w, v, put, x, hw, hv, ⟨hfirst, -⟩ | ⟨-, b, hb, rfl⟩, hnext⟩ :=
      readElements_cons_sound (hfields f List.mem_cons_self) h
    · obtain ⟨ws, es, hws, happend, hfills⟩ := ih hrest hend
      obtain ⟨rfl, rfl⟩ := hws.of_close happend
      exact ⟨_, [], .close hb, by simp, hfills.absent hopt⟩
    · cases hfirst
    · obtain ⟨ws, es, hws, rfl, hfills⟩ := ih hrest hnext
      exact ⟨_, v :: es, .comma hb hw hws, by simp, .field hv hfills⟩

theorem readElements_sound (ht : t.Regular)
    (h : t.readElements 0 t.blank cs t.fields = .ok (record, r))
    (hclose : closeSequence r = .ok u) :
    ∃ ws es, Body Element Frame.list.close ws es ∧ cs = ws ++ u ∧ t.OfElements es record := by
  have hfields : ∀ f ∈ t.fields, Reads f.read f.Means := ht
  unfold RecordType.OfElements
  generalize t.fields = fields at h hfields
  cases fields with
  | nil =>
    cases h
    obtain ⟨b, hb, rfl⟩ := closeSequence_eq_ok_iff.1 hclose
    exact ⟨_, [], .empty hb, by simp, .done nofun⟩
  | cons f fields =>
    have hrest := fun g hg => hfields g (List.mem_cons_of_mem f hg)
    obtain ⟨hopt, b, s, hb, rfl, hend⟩ |
      ⟨w, v, put, x, hw, hv, ⟨-, rfl⟩ | ⟨hfirst, -⟩, hnext⟩ :=
      readElements_cons_sound (hfields f List.mem_cons_self) h
    · obtain ⟨ws, es, hws, happend, hfills⟩ := readElements_rest_sound hrest hend hclose
      obtain ⟨rfl, rfl⟩ := hws.of_close happend
      exact ⟨_, [], .empty hb, by simp, hfills.absent hopt⟩
    · obtain ⟨ws, es, hws, rfl, hfills⟩ := readElements_rest_sound hrest hnext hclose
      exact ⟨_, v :: es, .parts hw hws, by simp, .field hv hfills⟩
    · exact absurd rfl hfirst

/-- Where a sequence ends, the fields that are left over stay as they are. -/
theorem readElements_absent (hopt : ∀ f ∈ fields, f.isRequired = false) (hb : Blanks b)
    (index : Nat) :
    ∃ r, t.readElements index record (b ++ Frame.list.close :: u) fields = .ok (record, r) ∧
      closeSequence r = .ok u := by
  induction fields generalizing index b with
  | nil => exact ⟨_, rfl, closeSequence_eq_ok_iff.2 ⟨b, hb, rfl⟩⟩
  | cons f fields ih =>
    obtain ⟨r, hread, hclose⟩ :=
      ih (b := []) (fun g hg => hopt g (List.mem_cons_of_mem f hg)) nofun (index + 1)
    refine ⟨r, ?_, hclose⟩
    rw [RecordType.readElements, nextElement_close _ hb, ← hread]
    simp only [hopt f List.mem_cons_self, Bool.false_eq_true, if_false, List.nil_append]

theorem readElements_rest_complete (hfields : ∀ f ∈ fields, Reads f.read f.Means)
    (hw : Rest Element Frame.list.close w es) (h : FillsInOrder fields record es record')
    (index : Nat) :
    ∃ r, t.readElements (index + 1) record (w ++ u) fields = .ok (record', r) ∧
      closeSequence r = .ok u := by
  induction h generalizing w index with
  | done hopt =>
    cases hw with
    | close hb => simpa using readElements_absent hopt hb (index + 1)
  | @field f fields record record' v es put hv _ ih =>
    cases hw with
    | @comma b w ws _ _ hb hpart hrest =>
      obtain ⟨ha, hvalue⟩ := hpart
      rename_i a
      obtain ⟨r, hread, hclose⟩ :=
        ih (fun g hg => hfields g (List.mem_cons_of_mem f hg)) hrest (index + 1)
      have hnext := nextElement_comma (r := ws ++ u) hb ha hvalue
      have hfield : f.read ([] ++ (v ++ (ws ++ u))) = .ok (put, ws ++ u) :=
        (hfields f List.mem_cons_self).complete nofun hv (hrest.ends u).endsNumber
      refine ⟨r, ?_, hclose⟩
      simp only [List.append_assoc, List.cons_append, List.nil_append] at hfield ⊢
      rw [RecordType.readElements, show decide (index + 1 = 0) = false by simp, hnext]
      simp only [hfield, hread]

theorem readElements_complete (ht : t.Regular) (hw : Body Element Frame.list.close w es)
    (h : t.OfElements es record) :
    ∃ r, t.readElements 0 t.blank (w ++ u) t.fields = .ok (record, r) ∧
      closeSequence r = .ok u := by
  have hfields : ∀ f ∈ t.fields, Reads f.read f.Means := ht
  unfold RecordType.OfElements at h
  generalize t.fields = fields at h hfields ⊢
  cases h with
  | done hopt =>
    cases hw with
    | empty hb => simpa using readElements_absent hopt hb 0
  | @field f fields record record' v es put hv hfills =>
    cases hw with
    | @parts w ws _ _ hpart hrest =>
      obtain ⟨ha, hvalue⟩ := hpart
      rename_i a
      obtain ⟨r, hread, hclose⟩ := readElements_rest_complete (t := t) (u := u)
        (fun g hg => hfields g (List.mem_cons_of_mem f hg)) hrest hfills 0
      have hnext := nextElement_first (r := ws ++ u) ha hvalue
      have hfield : f.read ([] ++ (v ++ (ws ++ u))) = .ok (put, ws ++ u) :=
        (hfields f List.mem_cons_self).complete nofun hv (hrest.ends u).endsNumber
      refine ⟨r, ?_, hclose⟩
      simp only [List.append_assoc, List.nil_append] at hfield ⊢
      rw [RecordType.readElements, show decide (0 = 0) = true from rfl, hnext]
      simp only [hfield, hread]

/-! ## What a text is -/

theorem finish_eq_ok_iff {close : List Char → Except Stop (List Char)}
    {x : Except Refusal (ρ × List Char)} :
    finish close x = .ok (record, r) ↔ ∃ s, x = .ok (record, s) ∧ close s = .ok r := by
  constructor
  · intro h
    unfold finish at h
    split at h
    · split at h
      · cases h
      · rename_i hclose
        cases h
        exact ⟨_, rfl, hclose⟩
    · cases h
    · split at h <;> cases h
  · rintro ⟨s, rfl, hclose⟩
    simp only [finish, hclose]

/-- A record is an object or a sequence, whichever it likes. -/
theorem readValue_eq_ok_iff (ht : t.Regular) (hsep : t.Separate) :
    t.readValue cs = .ok (record, r) ↔
      ∃ a w, Blanks a ∧
        ((∃ ms, Body Member Frame.object.close w ms ∧ t.OfMembers ms record ∧
            cs = a ++ Frame.object.opening :: (w ++ r)) ∨
          ∃ es, Body Element Frame.list.close w es ∧ t.OfElements es record ∧
            cs = a ++ Frame.list.opening :: (w ++ r)) := by
  constructor
  · intro h
    obtain ⟨a, ha, hcs⟩ := exists_blanks cs
    unfold RecordType.readValue at h
    split at h
    · cases h
    · rename_i s hs
      obtain ⟨x, hread, hclose⟩ := finish_eq_ok_iff.1 h
      obtain ⟨w, u, ms, hw, rfl, rfl, hrecord⟩ := readObject_sound ht hsep hread
      have hend : closeObject (Frame.object.close :: u) = .ok u :=
        closeObject_eq_ok_iff.2 ⟨[], nofun, rfl⟩
      obtain rfl : u = r := Except.ok.inj (hend.symm.trans hclose)
      exact ⟨a, w, ha, .inl ⟨ms, hw, hrecord, hs ▸ hcs⟩⟩
    · rename_i s hs
      obtain ⟨x, hread, hclose⟩ := finish_eq_ok_iff.1 h
      obtain ⟨w, es, hw, rfl, hrecord⟩ := readElements_sound ht hread hclose
      exact ⟨a, w, ha, .inr ⟨es, hw, hrecord, hs ▸ hcs⟩⟩
    · exact absurd h (refuse_ne_ok _ _ _)
  · rintro ⟨a, w, ha, ⟨ms, hw, hrecord, rfl⟩ | ⟨es, hw, hrecord, rfl⟩⟩
    · rw [RecordType.readValue, skipBlanks_append_cons ha Frame.object.opening_begins.1]
      have hclose : closeObject (Frame.object.close :: r) = .ok r :=
        closeObject_eq_ok_iff.2 ⟨[], nofun, rfl⟩
      exact finish_eq_ok_iff.2 ⟨_, readObject_complete ht hsep hw hrecord, hclose⟩
    · rw [RecordType.readValue, skipBlanks_append_cons ha Frame.list.opening_begins.1]
      exact finish_eq_ok_iff.2 (readElements_complete ht hw hrecord)

theorem RecordType.read_eq_ok_iff (ht : t.Regular) (hsep : t.Separate) {text : String} :
    t.read text = .ok record ↔
      (∃ ms, Enclosed Member .object text.toList ms ∧ t.OfMembers ms record) ∨
        ∃ es, Enclosed Element .list text.toList es ∧ t.OfElements es record := by
  have hread : t.read text = .ok record ↔
      ∃ b, Blanks b ∧ t.readValue text.toList = .ok (record, b) := by
    unfold RecordType.read
    constructor
    · intro h
      split at h
      · cases h
      · rename_i hvalue
        split at h
        · rename_i hend
          cases h
          exact ⟨_, skipBlanks_eq_nil_iff.1 hend, hvalue⟩
        · cases h
    · rintro ⟨b, hb, hvalue⟩
      simp only [hvalue, skipBlanks_eq_nil_iff.2 hb]
  rw [hread]
  constructor
  · rintro ⟨b, hb, hvalue⟩
    obtain ⟨a, w, ha, ⟨ms, hw, hrecord, hcs⟩ | ⟨es, hw, hrecord, hcs⟩⟩ :=
      (readValue_eq_ok_iff ht hsep).1 hvalue
    · exact .inl ⟨ms, hcs ▸ .mk ha hb hw, hrecord⟩
    · exact .inr ⟨es, hcs ▸ .mk ha hb hw, hrecord⟩
  · rintro (⟨ms, htext, hrecord⟩ | ⟨es, htext, hrecord⟩)
    · generalize text.toList = cs at htext
      obtain ⟨ha, hb, hw⟩ := htext
      exact ⟨_, hb, (readValue_eq_ok_iff ht hsep).2 ⟨_, _, ha, .inl ⟨ms, hw, hrecord, rfl⟩⟩⟩
    · generalize text.toList = cs at htext
      obtain ⟨ha, hb, hw⟩ := htext
      exact ⟨_, hb, (readValue_eq_ok_iff ht hsep).2 ⟨_, _, ha, .inr ⟨es, hw, hrecord, rfl⟩⟩⟩

end CredentialKeeper.Json
