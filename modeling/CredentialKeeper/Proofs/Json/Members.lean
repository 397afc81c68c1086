import CredentialKeeper.Proofs.Json.Values

/-! # Objects and sequences as their parts

`Enclosed Part frame text ps` says that a text is an open value of a frame with the parts `ps` and
nothing else, up to blanks. A part of an object is a key with what is written as its value, a part
of a sequence only the latter. A reader of values is described by what its values mean (`Reads`), so
that a record can be described field by field. -/

namespace CredentialKeeper.Json

inductive Member : List Char → String × List Char → Prop
  | mk {a k b d v : List Char} {key : List Char} (ha : Blanks a) (hk : Spelled k key)
      (hb : Blanks b) (hd : Blanks d) (hv : Written .value v) :
      Member (a ++ '"' :: (k ++ '"' :: (b ++ ':' :: (d ++ v)))) (String.ofList key, v)

inductive Element : List Char → List Char → Prop
  | mk {a v : List Char} (ha : Blanks a) (hv : Written .value v) : Element (a ++ v) v

section
variable {α : Type} (Part : List Char → α → Prop) (close : Char)

/-- What comes after a part: the end, or a comma and more parts. -/
inductive Rest : List Char → List α → Prop
  | close {b : List Char} (hb : Blanks b) : Rest (b ++ [close]) []
  | comma {b w ws : List Char} {p : α} {ps : List α} (hb : Blanks b) :
      Part w p → Rest ws ps → Rest (b ++ ',' :: (w ++ ws)) (p :: ps)

inductive Body : List Char → List α → Prop
  | empty {b : List Char} (hb : Blanks b) : Body (b ++ [close]) []
  | parts {w ws : List Char} {p : α} {ps : List α} :
      Part w p → Rest Part close ws ps → Body (w ++ ws) (p :: ps)

end

inductive Enclosed {α : Type} (Part : List Char → α → Prop) (frame : Frame) :
    List Char → List α → Prop
  | mk {a w b : List Char} {ps : List α} (ha : Blanks a) (hb : Blanks b) :
      Body Part frame.close w ps → Enclosed Part frame (a ++ frame.opening :: (w ++ b)) ps

variable {α : Type} {cs r v w b : List Char}

/-! ## Readers of values -/

/-- A reader reads the values that mean something, after blanks, and no other ones. -/
structure Reads (read : List Char → Reading α) (Means : List Char → α → Prop) : Prop where
  value {v : List Char} {a : α} : Means v a → Written .value v
  sound {cs r : List Char} {a : α} : read cs = .ok (a, r) →
    ∃ b v, Blanks b ∧ Means v a ∧ cs = b ++ (v ++ r)
  complete {b v r : List Char} {a : α} : Blanks b → Means v a → EndsNumber r →
    read (b ++ (v ++ r)) = .ok (a, r)

theorem Written.skipBlanks_append (hb : Blanks b) (hv : Written .value v) (r : List Char) :
    skipBlanks (b ++ (v ++ r)) = v ++ r := by
  obtain ⟨c, v, rfl, hc⟩ := hv.begins
  exact skipBlanks_append_cons hb hc.1 _

theorem Reads.means_iff {read : List Char → Reading α} {Means : List Char → α → Prop} {a : α}
    (h : Reads read Means) : Means v a ↔ Written .value v ∧ read v = .ok (a, []) := by
  constructor
  · intro hv
    have hread : read ([] ++ (v ++ [])) = .ok (a, []) := h.complete nofun hv nofun
    rw [List.nil_append, List.append_nil] at hread
    exact ⟨h.value hv, hread⟩
  · rintro ⟨hw, hread⟩
    obtain ⟨b, u, hb, hu, happend⟩ := h.sound hread
    obtain ⟨c, v', rfl, hc⟩ := hw.begins
    cases b with
    | nil =>
      rw [List.nil_append, List.append_nil] at happend
      exact happend ▸ hu
    | cons d b =>
      -- A value does not begin with a blank.
      obtain ⟨rfl, -⟩ := List.cons.inj happend
      exact absurd (hb c List.mem_cons_self) (by rw [hc.1]; exact Bool.false_ne_true)

inductive TextValue : List Char → String → Prop
  | mk {w : List Char} {s : String} (h : Spelled w s.toList) : TextValue ('"' :: (w ++ ['"'])) s

theorem reads_string : Reads readString TextValue where
  value h := by
    obtain ⟨h⟩ := h
    exact .simple (.text h.rawText)
  sound {cs r s} h := by
    obtain ⟨b, hb, hcs⟩ := exists_blanks cs
    unfold readString at h
    split at h
    · cases h
    · rename_i t ht
      split at h
      · cases h
      · rename_i text r' hread
        cases h
        obtain ⟨w, hw, rfl⟩ := readText_eq_ok_iff.1 hread
        refine ⟨b, _, hb, ⟨(String.toList_ofList (l := text)).symm ▸ hw⟩, ?_⟩
        rw [hcs, ht]
        simp
    · exact absurd h (refuse_ne_ok _ _ _)
  complete {b v r s} hb hv _ := by
    obtain ⟨hw⟩ := hv
    rename_i w
    have hskip : skipBlanks (b ++ '"' :: (w ++ '"' :: r)) = '"' :: (w ++ '"' :: r) :=
      skipBlanks_append_cons hb (by decide) _
    simp only [List.cons_append, List.append_assoc, List.nil_append, readString, hskip,
      readText_spelled hw, String.ofList_toList]

theorem Integer.written {n : Int} (h : Integer v n) : Written .value v := by
  have hnumeral : ∀ {w : List Char}, WholeDigits w → Numeral w := by
    intro w hw
    simpa using Numeral.parts hw .none .none
  cases h with
  | natural h _ => exact .simple (.number (hnumeral h))
  | negative h _ _ => exact .simple (.negative (hnumeral h))

theorem reads_int : Reads readInt Integer where
  value := Integer.written
  sound {cs r n} h := by
    obtain ⟨b, hb, hcs⟩ := exists_blanks cs
    obtain ⟨v, hv, happend⟩ := readInt_sound h
    exact ⟨b, v, hb, hv, happend ▸ hcs⟩
  complete {b v r n} hb hv hr := by
    exact readInt_complete (hv.written.skipBlanks_append hb r) hv hr

end CredentialKeeper.Json
