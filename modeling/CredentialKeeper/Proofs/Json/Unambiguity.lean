import CredentialKeeper.Proofs.Json.Objects

/-! # One reading only

A text is an object of one list of members at most, and a sequence of one list of elements
(`Enclosed.unique`), and never both (`Enclosed.not_object_and_list`). For the end of a value is
found by skipping it, and that of a key by reading it. -/

namespace CredentialKeeper.Json

variable {α : Type} {Part : List Char → α → Prop} {frame : Frame}
  {b b' cs r r' u u' v v' w w' : List Char}

/-- A value has one meaning for a reader. -/
theorem Reads.unique {read : List Char → Reading α} {Means : List Char → α → Prop} {a a' : α}
    (h : Reads read Means) (ha : Means v a) (ha' : Means v a') : a = a' := by
  have hread := (h.means_iff.1 ha).2
  rw [(h.means_iff.1 ha').2] at hread
  cases hread
  rfl

theorem Written.eq_of_append (hb : Blanks b) (hb' : Blanks b') (hv : Written .value v)
    (hv' : Written .value v') (hr : Ends r) (hr' : Ends r')
    (h : b ++ (v ++ r) = b' ++ (v' ++ r')) : v = v' ∧ r = r' := by
  have hskip := skipValue_complete hb hv hr.endsNumber
  rw [h, skipValue_complete hb' hv' hr'.endsNumber] at hskip
  obtain rfl : r' = r := Except.ok.inj hskip
  have hvalue := hv.skipBlanks_append hb r'
  rw [h, hv'.skipBlanks_append hb' r'] at hvalue
  exact ⟨(List.append_cancel_right hvalue).symm, rfl⟩

/-- Past blanks there is the same character on both sides. -/
theorem cons_eq_of_blanks {c c' : Char} (hb : Blanks b) (hb' : Blanks b') (hc : isBlank c = false)
    (hc' : isBlank c' = false) (h : b ++ c :: r = b' ++ c' :: r') : c = c' ∧ r = r' := by
  have hskip := skipBlanks_append_cons hb hc r
  rw [h, skipBlanks_append_cons hb' hc' r'] at hskip
  obtain ⟨rfl, rfl⟩ := List.cons.inj hskip
  exact ⟨rfl, rfl⟩

theorem Spelled.eq_of_append {k k' text text' : List Char} (hk : Spelled k text)
    (hk' : Spelled k' text') (h : k ++ '"' :: r = k' ++ '"' :: r') : text = text' ∧ r = r' := by
  have hread := readText_spelled hk r
  rw [h, readText_spelled hk' r'] at hread
  obtain ⟨rfl, rfl⟩ := Prod.mk.inj (Except.ok.inj hread)
  exact ⟨rfl, rfl⟩

/-- Parts that begin like a value, and of which two that begin the same text are the same. -/
structure Distinct (Part : List Char → α → Prop) : Prop where
  begins {w : List Char} {p : α} : Part w p → ∃ a c v, Blanks a ∧ w = a ++ c :: v ∧ Begins c
  unique {w w' r r' : List Char} {p p' : α} : Part w p → Part w' p' → Ends r → Ends r' →
    w ++ r = w' ++ r' → p = p' ∧ r = r'

theorem element_distinct : Distinct Element where
  begins h := by
    obtain ⟨ha, hv⟩ := h
    obtain ⟨c, v, rfl, hc⟩ := hv.begins
    exact ⟨_, c, v, ha, rfl, hc⟩
  unique h h' hr hr' happend := by
    obtain ⟨ha, hv⟩ := h
    obtain ⟨ha', hv'⟩ := h'
    rw [List.append_assoc, List.append_assoc] at happend
    exact hv.eq_of_append ha ha' hv' hr hr' happend

theorem member_distinct : Distinct Member where
  begins h := by
    obtain ⟨ha, -, -, -, -⟩ := h
    exact ⟨_, '"', _, ha, rfl, by decide⟩
  unique h h' hr hr' happend := by
    obtain ⟨ha, hk, hb, hd, hv⟩ := h
    obtain ⟨ha', hk', hb', hd', hv'⟩ := h'
    simp only [List.append_assoc, List.cons_append] at happend
    obtain ⟨-, hkey⟩ := cons_eq_of_blanks ha ha' (by decide) (by decide) happend
    obtain ⟨rfl, hcolon⟩ := hk.eq_of_append hk' hkey
    obtain ⟨-, hvalue⟩ := cons_eq_of_blanks hb hb' (by decide) (by decide) hcolon
    obtain ⟨rfl, rfl⟩ := hv.eq_of_append hd hd' hv' hr hr' hvalue
    exact ⟨rfl, rfl⟩

theorem Rest.unique (hpart : Distinct Part) {ps ps' : List α} (h : Rest Part frame.close w ps)
    (h' : Rest Part frame.close w' ps') (happend : w ++ u = w' ++ u') : ps = ps' ∧ u = u' := by
  induction h generalizing w' ps' with
  | close hb =>
    cases h' with
    | close hb' =>
      rw [List.append_assoc, List.append_assoc] at happend
      exact ⟨rfl, (cons_eq_of_blanks hb hb' frame.isBlank_close frame.isBlank_close happend).2⟩
    | comma hb' =>
      rw [List.append_assoc, List.append_assoc] at happend
      exact absurd (cons_eq_of_blanks hb hb' frame.isBlank_close (by decide) happend).1
        frame.close_ne_comma
  | comma hb hp hrest ih =>
    cases h' with
    | close hb' =>
      rw [List.append_assoc, List.append_assoc] at happend
      exact absurd (cons_eq_of_blanks hb hb' (by decide) frame.isBlank_close happend).1.symm
        frame.close_ne_comma
    | comma hb' hp' hrest' =>
      simp only [List.append_assoc, List.cons_append] at happend
      obtain ⟨-, hnext⟩ := cons_eq_of_blanks hb hb' (by decide) (by decide) happend
      obtain ⟨rfl, hmore⟩ := hpart.unique hp hp' (hrest.ends u) (hrest'.ends u') hnext
      obtain ⟨rfl, rfl⟩ := ih hrest' hmore
      exact ⟨rfl, rfl⟩

/-- What has parts does not begin with its end. -/
theorem Distinct.ne_close (hpart : Distinct Part) {p : α} (hp : Part w p) (hb : Blanks b)
    (h : b ++ frame.close :: r = w ++ u) : False := by
  obtain ⟨a, c, v, ha, rfl, hc⟩ := hpart.begins hp
  rw [List.append_assoc, List.cons_append] at h
  exact hc.ne_close frame (cons_eq_of_blanks hb ha frame.isBlank_close hc.1 h).1.symm

theorem Body.unique (hpart : Distinct Part) {ps ps' : List α} (h : Body Part frame.close w ps)
    (h' : Body Part frame.close w' ps') (happend : w ++ u = w' ++ u') : ps = ps' := by
  cases h with
  | empty hb =>
    cases h' with
    | empty => rfl
    | parts hp' =>
      rw [List.append_assoc, List.append_assoc] at happend
      exact (hpart.ne_close hp' hb happend).elim
  | parts hp hrest =>
    cases h' with
    | empty hb' =>
      rw [List.append_assoc, List.append_assoc] at happend
      exact (hpart.ne_close hp hb' happend.symm).elim
    | parts hp' hrest' =>
      rw [List.append_assoc, List.append_assoc] at happend
      obtain ⟨rfl, hmore⟩ := hpart.unique hp hp' (hrest.ends u) (hrest'.ends u') happend
      obtain ⟨rfl, -⟩ := hrest.unique hpart hrest' hmore
      rfl

/-- A text has one list of parts. -/
theorem Enclosed.unique (hpart : Distinct Part) {ps ps' : List α} (h : Enclosed Part frame cs ps)
    (h' : Enclosed Part frame cs ps') : ps = ps' := by
  obtain ⟨ha, -, hbody⟩ := h
  generalize hcs : _ ++ frame.opening :: (_ ++ _) = cs at h'
  obtain ⟨ha', -, hbody'⟩ := h'
  have hblank := frame.opening_begins.1
  exact hbody.unique hpart hbody' (cons_eq_of_blanks ha ha' hblank hblank hcs).2

/-- A text is not both an object and a sequence. -/
theorem Enclosed.not_object_and_list {ms : List (String × List Char)} {es : List (List Char)}
    (h : Enclosed Member .object cs ms) : ¬Enclosed Element .list cs es := by
  intro h'
  obtain ⟨ha, -, -⟩ := h
  generalize hcs : _ ++ Frame.object.opening :: (_ ++ _) = cs at h'
  obtain ⟨ha', -, -⟩ := h'
  exact absurd (cons_eq_of_blanks ha ha' (by decide) (by decide) hcs).1 (by decide)

end CredentialKeeper.Json
