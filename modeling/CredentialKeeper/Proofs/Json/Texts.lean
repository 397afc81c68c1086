import CredentialKeeper.Json.Text

/-! # How texts are written

`Spelled w cs` says, without a reader, that between quotes `w` stands for the characters `cs`; a
`RawText` has the form of a text, but its escapes need not stand for characters. A text is read if
and only if it is spelled (`readText_eq_ok_iff`), and skipped if and only if it is raw
(`skipText_eq_ok_iff`). -/

namespace CredentialKeeper.Json

/-- Four hexadecimal digits and their number. -/
inductive Hex : List Char → Nat → Prop
  | digits {a b c d : Char} {i j k l : Nat} (ha : hexValue? a = some i) (hb : hexValue? b = some j)
      (hc : hexValue? c = some k) (hd : hexValue? d = some l) :
      Hex [a, b, c, d] (((i * 16 + j) * 16 + k) * 16 + l)

/-- What stands for a character after a backslash. A character outside the first plane is a pair of
surrogates. -/
inductive Escape : List Char → Char → Prop
  | short {c e : Char} (h : shortEscape? c = some e) : Escape [c] e
  | unit {w : List Char} {u : Nat} (h : Hex w u) (hu : ¬(0xd800 ≤ u ∧ u ≤ 0xdfff)) :
      Escape ('u' :: w) (Char.ofNat u)
  | pair {w w' : List Char} {u v : Nat} (h : Hex w u) (hu : 0xd800 ≤ u ∧ u ≤ 0xdbff)
      (h' : Hex w' v) (hv : 0xdc00 ≤ v ∧ v ≤ 0xdfff) :
      Escape ('u' :: (w ++ '\\' :: 'u' :: w'))
        (Char.ofNat (0x10000 + (u - 0xd800) * 0x400 + (v - 0xdc00)))

inductive Spells : List Char → Char → Prop
  | plain {c : Char} (hq : c ≠ '"') (hb : c ≠ '\\') (hc : isControl c = false) : Spells [c] c
  | escape {w : List Char} {c : Char} (h : Escape w c) : Spells ('\\' :: w) c

inductive Spelled : List Char → List Char → Prop
  | nil : Spelled [] []
  | cons {w ws : List Char} {c : Char} {cs : List Char} :
      Spells w c → Spelled ws cs → Spelled (w ++ ws) (c :: cs)

inductive RawText : List Char → Prop
  | nil : RawText []
  | plain {c : Char} {w : List Char} (hq : c ≠ '"') (hb : c ≠ '\\') (hc : isControl c = false) :
      RawText w → RawText (c :: w)
  | short {c : Char} {w : List Char} (h : (shortEscape? c).isSome) :
      RawText w → RawText ('\\' :: c :: w)
  | hex {d w : List Char} {n : Nat} (h : Hex d n) : RawText w → RawText ('\\' :: 'u' :: (d ++ w))

variable {cs r w : List Char} {c : Char} {n : Nat}

theorem readHex_eq_ok_iff : readHex cs = .ok (n, r) ↔ ∃ w, Hex w n ∧ cs = w ++ r := by
  constructor
  · intro h
    unfold readHex at h
    split at h
    · split at h
      · cases h
        exact ⟨_, .digits ‹_› ‹_› ‹_› ‹_›, rfl⟩
      · cases h
    · split at h <;> cases h
  · rintro ⟨w, ⟨ha, hb, hc, hd⟩, rfl⟩
    simp only [readHex, List.cons_append, List.nil_append, ha, hb, hc, hd]

theorem readSecond_eq_ok_iff {u : Nat} : readSecond u cs = .ok (c, r) ↔
    ∃ w v, Hex w v ∧ (0xdc00 ≤ v ∧ v ≤ 0xdfff) ∧ cs = '\\' :: 'u' :: (w ++ r) ∧
      c = Char.ofNat (0x10000 + (u - 0xd800) * 0x400 + (v - 0xdc00)) := by
  constructor
  · intro h
    unfold readSecond at h
    split at h
    · cases h
    · split at h
      · cases h
      · split at h
        · cases h
        · rename_i v r' hr
          obtain ⟨w, hw, rfl⟩ := readHex_eq_ok_iff.1 hr
          split at h
          · rename_i hv
            injection h with h
            injection h with hc hr
            exact ⟨w, v, hw, hv, by rw [hr], hc.symm⟩
          · cases h
      · cases h
    · cases h
  · rintro ⟨w, v, hw, hv, rfl, hc⟩
    have hread : readHex (w ++ r) = .ok (v, r) := readHex_eq_ok_iff.2 ⟨w, hw, rfl⟩
    simp only [readSecond, hread, if_pos hv, hc]

theorem readEscape_eq_ok_iff : readEscape cs = .ok (c, r) ↔ ∃ w, Escape w c ∧ cs = w ++ r := by
  constructor
  · intro h
    unfold readEscape at h
    split at h
    · cases h
    · split at h
      · cases h
        exact ⟨_, .short ‹_›, rfl⟩
      · split at h
        · subst_vars
          split at h
          · cases h
          · rename_i u r' hr
            obtain ⟨w, hw, rfl⟩ := readHex_eq_ok_iff.1 hr
            unfold readUnit at h
            split at h
            · cases h
            · split at h
              · rename_i hu
                obtain ⟨w', v, hw', hv, rfl, hc⟩ := readSecond_eq_ok_iff.1 h
                rw [hc]
                exact ⟨_, .pair hw hu hw' hv, by simp⟩
              · injection h with h
                injection h with hc hr
                have hnot : ¬(0xd800 ≤ u ∧ u ≤ 0xdfff) := by omega
                rw [← hc, hr]
                exact ⟨_, .unit hw hnot, rfl⟩
        · cases h
  · rintro ⟨w, hw, rfl⟩
    have hu : shortEscape? 'u' = none := rfl
    cases hw with
    | short h => simp only [readEscape, List.cons_append, List.nil_append, h]
    | @unit w u h hnot =>
      have hread : readHex (w ++ r) = .ok (u, r) := readHex_eq_ok_iff.2 ⟨w, h, rfl⟩
      simp only [readEscape, List.cons_append, hu, if_true, hread, readUnit]
      rw [if_neg (by omega), if_neg (by omega)]
    | @pair w w' u v h hfirst h' hsecond =>
      have hread : readHex (w ++ '\\' :: 'u' :: (w' ++ r)) = .ok (u, '\\' :: 'u' :: (w' ++ r)) :=
        readHex_eq_ok_iff.2 ⟨w, h, rfl⟩
      simp only [readEscape, List.cons_append, List.append_assoc, hu, if_true, hread, readUnit]
      rw [if_neg (by omega), if_pos hfirst]
      exact readSecond_eq_ok_iff.2 ⟨w', v, h', hsecond, rfl, rfl⟩

theorem readChar_eq_none_iff : readChar cs = .ok (none, r) ↔ cs = '"' :: r := by
  constructor
  · intro h
    unfold readChar at h
    split at h
    · cases h
    · split at h
      · subst_vars
        cases h
        rfl
      · split at h
        · split at h <;> cases h
        · split at h <;> cases h
  · rintro rfl
    rfl

theorem readChar_eq_some_iff :
    readChar cs = .ok (some c, r) ↔ ∃ w, Spells w c ∧ cs = w ++ r := by
  constructor
  · intro h
    unfold readChar at h
    split at h
    · cases h
    · split at h
      · cases h
      · split at h
        · subst_vars
          split at h
          · cases h
          · rename_i hr
            cases h
            obtain ⟨w, hw, rfl⟩ := readEscape_eq_ok_iff.1 hr
            exact ⟨_, .escape hw, rfl⟩
        · split at h
          · cases h
          · cases h
            exact ⟨_, .plain ‹_› ‹_› (Bool.eq_false_iff.2 ‹_›), rfl⟩
  · rintro ⟨w, hw, rfl⟩
    cases hw with
    | plain hq hb hc =>
      simp only [readChar, List.cons_append, List.nil_append, if_neg hq, if_neg hb, hc,
        Bool.false_eq_true, if_false]
    | escape h =>
      simp only [readChar, List.cons_append, if_true, readEscape_eq_ok_iff.2 ⟨_, h, rfl⟩,
        show ('\\' : Char) ≠ '"' by decide, if_false]

theorem readText_spelled {w text : List Char} (h : Spelled w text) (r : List Char) :
    readText (w ++ '"' :: r) = .ok (text, r) := by
  induction h with
  | nil =>
    have hend : readChar ('"' :: r) = .ok (none, r) := readChar_eq_none_iff.2 rfl
    rw [List.nil_append, readText]
    split
    · simp_all
    · simp_all
    · simp_all
  | @cons w ws c cs hw _ ih =>
    have hread : readChar (w ++ ws ++ '"' :: r) = .ok (some c, ws ++ '"' :: r) :=
      readChar_eq_some_iff.2 ⟨w, hw, List.append_assoc ..⟩
    rw [readText]
    split
    · simp_all
    · simp_all
    · simp_all

theorem readText_eq_ok_iff {text : List Char} :
    readText cs = .ok (text, r) ↔ ∃ w, Spelled w text ∧ cs = w ++ '"' :: r := by
  constructor
  · intro h
    fun_induction readText cs generalizing text r with
    | case1 => cases h
    | case2 cs r' hread =>
      cases h
      exact ⟨[], .nil, readChar_eq_none_iff.1 hread⟩
    | case3 => cases h
    | case4 cs c r' hread text' r'' hrest ih =>
      cases h
      obtain ⟨w, hw, rfl⟩ := readChar_eq_some_iff.1 hread
      obtain ⟨ws, hws, rfl⟩ := ih hrest
      exact ⟨w ++ ws, .cons hw hws, (List.append_assoc ..).symm⟩
  · rintro ⟨w, hw, rfl⟩
    exact readText_spelled hw r

theorem skipEscape_eq_ok_iff : skipEscape cs = .ok r ↔
    (∃ c, (shortEscape? c).isSome ∧ cs = c :: r) ∨ ∃ d n, Hex d n ∧ cs = 'u' :: (d ++ r) := by
  constructor
  · intro h
    unfold skipEscape at h
    split at h
    · cases h
    · split at h
      · cases h
        exact .inl ⟨_, ‹_›, rfl⟩
      · split at h
        · subst_vars
          split at h
          · cases h
          · rename_i hr
            cases h
            obtain ⟨d, hd, rfl⟩ := readHex_eq_ok_iff.1 hr
            exact .inr ⟨d, _, hd, rfl⟩
        · cases h
  · rintro (⟨c, hc, rfl⟩ | ⟨d, n, hd, rfl⟩)
    · simp only [skipEscape, if_pos hc]
    · have hu : (shortEscape? 'u').isSome = false := rfl
      have hread : readHex (d ++ r) = .ok (n, r) := readHex_eq_ok_iff.2 ⟨d, hd, rfl⟩
      simp only [skipEscape, hu, Bool.false_eq_true, if_false, if_true, hread]

theorem skipText_rawText (h : RawText w) (r : List Char) : skipText (w ++ '"' :: r) = .ok r := by
  induction h with
  | nil => rw [List.nil_append, skipText, if_pos rfl]
  | plain hq hb hc _ ih =>
    rw [List.cons_append, skipText, if_neg hq, if_neg hb, if_neg (Bool.eq_false_iff.1 hc), ih]
  | @short c w hc _ ih =>
    have hskip : skipEscape (c :: (w ++ '"' :: r)) = .ok (w ++ '"' :: r) :=
      skipEscape_eq_ok_iff.2 (.inl ⟨c, hc, rfl⟩)
    rw [List.cons_append, List.cons_append, skipText, if_neg (by decide), if_pos rfl]
    split
    · simp_all
    · simp_all
  | @hex d w n hd _ ih =>
    have hskip : skipEscape ('u' :: (d ++ w ++ '"' :: r)) = .ok (w ++ '"' :: r) :=
      skipEscape_eq_ok_iff.2 (.inr ⟨d, n, hd, by rw [List.append_assoc]⟩)
    rw [List.cons_append, List.cons_append, skipText, if_neg (by decide), if_pos rfl]
    split
    · simp_all
    · simp_all

theorem skipText_eq_ok_iff : skipText cs = .ok r ↔ ∃ w, RawText w ∧ cs = w ++ '"' :: r := by
  constructor
  · intro h
    fun_induction skipText cs with
    | case1 => cases h
    | case2 =>
      cases h
      exact ⟨[], .nil, rfl⟩
    | case3 => cases h
    | case4 s r' hskip _ ih =>
      obtain ⟨w, hw, rfl⟩ := ih h
      rcases skipEscape_eq_ok_iff.1 hskip with ⟨c, hc, rfl⟩ | ⟨d, n, hd, rfl⟩
      · exact ⟨_, .short hc hw, rfl⟩
      · exact ⟨_, .hex hd hw, by simp⟩
    | case5 => cases h
    | case6 c _ hq hb hc ih =>
      obtain ⟨w, hw, rfl⟩ := ih h
      exact ⟨_, .plain hq hb (Bool.eq_false_iff.2 hc) hw, rfl⟩
  · rintro ⟨w, hw, rfl⟩
    exact skipText_rawText hw r

/-- A text that can be read can be skipped. -/
theorem Spelled.rawText {text : List Char} (h : Spelled w text) : RawText w := by
  induction h with
  | nil => exact .nil
  | cons hw _ ih =>
    cases hw with
    | plain hq hb hc => exact .plain hq hb hc ih
    | escape h =>
      cases h with
      | short h => exact .short (Option.isSome_of_eq_some h) ih
      | unit h _ => exact .hex h ih
      | pair h _ h' _ => simpa using RawText.hex h (.hex h' ih)

end CredentialKeeper.Json
