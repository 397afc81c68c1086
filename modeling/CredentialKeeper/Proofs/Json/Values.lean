import CredentialKeeper.Proofs.Json.Numbers
import CredentialKeeper.Proofs.Json.Texts
import Mathlib.Data.List.TakeWhile

/-! # How values are written

The grammar of values, without a reader: `Written .value w` for a value, `Written (.parts frame) w`
for the parts of one that is open, up to its end. The reader that skips a value keeps the open ones
on a stack and counts its moves; it takes just the values of the grammar (`skipValue_sound`,
`skipValue_complete`), and its moves suffice, as two of them take a character. -/

namespace CredentialKeeper.Json

def Blanks (w : List Char) : Prop := ∀ c ∈ w, isBlank c = true

/-- Here a value may end: a blank, a comma or a closing bracket is next, or nothing. -/
def Ends (r : List Char) : Prop :=
  ∀ c ∈ r.head?, isBlank c = true ∨ c = ',' ∨ c = ']' ∨ c = '\x7d'

/-- A value without parts. -/
inductive Simple : List Char → Prop
  | word {w : List Char} (h : w ∈ ["null".toList, "true".toList, "false".toList]) : Simple w
  | number {w : List Char} (h : Numeral w) : Simple w
  | negative {w : List Char} (h : Numeral w) : Simple ('-' :: w)
  | text {w : List Char} (h : RawText w) : Simple ('"' :: (w ++ ['"']))

def Frame.opening : Frame → Char
  | list => '['
  | object => '\x7b'

/-- What stands before the value of a part: nothing in a list, a key and a colon in an object. -/
inductive Label : Frame → List Char → Prop
  | element : Label .list []
  | key {k b : List Char} (h : RawText k) (hb : Blanks b) :
      Label .object ('"' :: (k ++ '"' :: (b ++ [':'])))

inductive Form where
  | value
  | parts (frame : Frame)

inductive Written : Form → List Char → Prop
  | simple {w : List Char} (h : Simple w) : Written .value w
  | empty (frame : Frame) {b : List Char} (hb : Blanks b) :
      Written .value (frame.opening :: (b ++ [frame.close]))
  | filled (frame : Frame) {w : List Char} :
      Written (.parts frame) w → Written .value (frame.opening :: w)
  | last {frame : Frame} {a l b v d : List Char} (ha : Blanks a) (hl : Label frame l)
      (hb : Blanks b) (hd : Blanks d) : Written .value v →
      Written (.parts frame) (a ++ (l ++ (b ++ (v ++ (d ++ [frame.close])))))
  | more {frame : Frame} {a l b v d w : List Char} (ha : Blanks a) (hl : Label frame l)
      (hb : Blanks b) (hd : Blanks d) : Written .value v → Written (.parts frame) w →
      Written (.parts frame) (a ++ (l ++ (b ++ (v ++ (d ++ ',' :: w)))))

variable {cs r w b : List Char} {c : Char}

/-! ## Blanks and ends -/

theorem exists_blanks (cs : List Char) : ∃ b, Blanks b ∧ cs = b ++ skipBlanks cs := by
  refine ⟨cs.takeWhile isBlank, ?_, List.takeWhile_append_dropWhile.symm⟩
  exact List.all_eq_true.1 List.all_takeWhile

theorem skipBlanks_append (hb : Blanks b) (r : List Char) : skipBlanks (b ++ r) = skipBlanks r :=
  List.dropWhile_append_of_pos hb

theorem skipBlanks_cons (h : isBlank c = false) (r : List Char) : skipBlanks (c :: r) = c :: r :=
  List.dropWhile_cons_of_neg (by simp [h])

theorem skipBlanks_append_cons (hb : Blanks b) (h : isBlank c = false) (r : List Char) :
    skipBlanks (b ++ c :: r) = c :: r := by
  rw [skipBlanks_append hb, skipBlanks_cons h]

theorem skipBlanks_eq_nil_iff : skipBlanks cs = [] ↔ Blanks cs := by
  rw [skipBlanks, List.dropWhile_eq_nil_iff]
  rfl

theorem skipBlanks_skipBlanks (cs : List Char) : skipBlanks (skipBlanks cs) = skipBlanks cs := by
  obtain ⟨b, hb, hcs⟩ := exists_blanks cs
  rw [← skipBlanks_append hb (skipBlanks cs), ← hcs]

theorem Ends.append (hb : Blanks b) (hr : Ends r) : Ends (b ++ r) := by
  cases b with
  | nil => exact hr
  | cons c b =>
    intro d hd
    cases hd
    exact .inl (hb c List.mem_cons_self)

theorem ends_comma (r : List Char) : Ends (',' :: r) := by
  intro c hc
  cases hc
  exact .inr (.inl rfl)

theorem Frame.ends_close (frame : Frame) (r : List Char) : Ends (frame.close :: r) := by
  intro c hc
  cases hc
  cases frame with
  | list => exact .inr (.inr (.inl rfl))
  | object => exact .inr (.inr (.inr rfl))

theorem Ends.endsNumber (h : Ends r) : EndsNumber r := by
  intro c hc
  rcases h c hc with h | rfl | rfl | rfl
  · simp only [isBlank, Bool.or_eq_true, decide_eq_true_eq] at h
    rcases h with ((rfl | rfl) | rfl) | rfl <;> decide
  all_goals decide

/-! ## Values without parts -/

theorem expectWord_eq_ok_iff {ws : List Char} : expectWord ws cs = .ok r ↔ cs = ws ++ r := by
  induction ws generalizing cs with
  | nil =>
    simp only [expectWord, Except.ok.injEq, List.nil_append]
  | cons v ws ih =>
    cases cs with
    | nil => simp [expectWord, stop]
    | cons c cs =>
      rw [expectWord]
      split
      · rename_i h
        rw [ih, h, List.cons_append, List.cons.injEq]
        simp
      · rename_i h
        simp [stopAt, h]

/-- What a value can begin with. -/
def Begins (c : Char) : Prop :=
  isBlank c = false ∧ c ≠ ',' ∧ c ≠ ']' ∧ c ≠ '\x7d'

instance : DecidablePred Begins := fun _ => inferInstanceAs (Decidable (_ ∧ _))

theorem begins_of_isDigit (h : c.isDigit = true) : Begins c := by
  refine ⟨?_, ?_, ?_, ?_⟩
  · by_contra hc
    simp only [isBlank, Bool.not_eq_false, Bool.or_eq_true, decide_eq_true_eq] at hc
    rcases hc with ((rfl | rfl) | rfl) | rfl <;> cases h
  all_goals
    rintro rfl
    cases h

theorem Numeral.head (h : Numeral w) : ∃ c v, w = c :: v ∧ c.isDigit = true := by
  obtain ⟨hd, -, -⟩ := h
  obtain ⟨c, v, rfl, hc, -⟩ := hd.head
  exact ⟨c, _, rfl, hc⟩

theorem Simple.begins (h : Simple w) : ∃ c v, w = c :: v ∧ Begins c := by
  cases h with
  | word h =>
    simp only [List.mem_cons, List.not_mem_nil, or_false] at h
    rcases h with rfl | rfl | rfl
    · exact ⟨'n', "ull".toList, by decide, by decide⟩
    · exact ⟨'t', "rue".toList, by decide, by decide⟩
    · exact ⟨'f', "alse".toList, by decide, by decide⟩
  | number h =>
    obtain ⟨c, v, rfl, hc⟩ := h.head
    exact ⟨c, v, rfl, begins_of_isDigit hc⟩
  | negative => exact ⟨'-', _, rfl, by decide⟩
  | text => exact ⟨'"', _, rfl, by decide⟩

theorem skipScalar_sound (h : skipScalar cs = .ok r) : ∃ w, Simple w ∧ cs = w ++ r := by
  unfold skipScalar at h
  split at h
  · cases h
  · split at h
    · rw [expectWord_eq_ok_iff.1 h]
      exact ⟨"null".toList, .word (by simp), rfl⟩
    · rw [expectWord_eq_ok_iff.1 h]
      exact ⟨"true".toList, .word (by simp), rfl⟩
    · rw [expectWord_eq_ok_iff.1 h]
      exact ⟨"false".toList, .word (by simp), rfl⟩
    · obtain ⟨w, hw, rfl⟩ := skipUnsigned_sound h
      exact ⟨_, .negative hw, rfl⟩
    · obtain ⟨w, hw, rfl⟩ := skipText_eq_ok_iff.1 h
      exact ⟨_, .text hw, by simp⟩
    · split at h
      · obtain ⟨w, hw, happend⟩ := skipUnsigned_sound h
        exact ⟨w, .number hw, happend⟩
      · cases h

theorem skipScalar_complete (hw : Simple w) (hr : EndsNumber r) : skipScalar (w ++ r) = .ok r := by
  cases hw with
  | word h =>
    simp only [List.mem_cons, List.not_mem_nil, or_false] at h
    rcases h with rfl | rfl | rfl <;> exact expectWord_eq_ok_iff.2 rfl
  | number h =>
    have hskip := skipUnsigned_complete h hr
    obtain ⟨c, v, rfl, hc⟩ := h.head
    rw [List.cons_append] at hskip ⊢
    unfold skipScalar
    split
    · simp_all
    · split
      all_goals simp_all
  | negative h => exact skipUnsigned_complete h hr
  | @text w h =>
    have hskip := skipText_rawText h r
    simpa [skipScalar] using hskip

/-! ## What one move does -/

variable {r' : List Char} {moves : Nat} {frame : Frame} {open' outer : List Frame}

theorem Frame.opening_begins (frame : Frame) : Begins frame.opening := by
  cases frame <;> decide

theorem Frame.isBlank_close (frame : Frame) : isBlank frame.close = false := by
  cases frame <;> rfl

theorem Frame.close_ne_comma (frame : Frame) : frame.close ≠ ',' := by
  cases frame <;> decide

theorem skipKey_sound (h : skipKey cs = .ok r) :
    ∃ a k, Blanks a ∧ Label .object k ∧ cs = a ++ (k ++ r) := by
  obtain ⟨a, ha, hcs⟩ := exists_blanks cs
  unfold skipKey at h
  split at h
  · cases h
  · rename_i s hs
    split at h
    · cases h
    · rename_i t ht
      obtain ⟨k, hk, rfl⟩ := skipText_eq_ok_iff.1 ht
      obtain ⟨b, hb, hcolon⟩ := exists_blanks t
      split at h
      · cases h
      · rename_i hs'
        cases h
        rw [hs'] at hcolon
        refine ⟨a, _, ha, .key hk hb, ?_⟩
        rw [hcs, hs, hcolon]
        simp
      · cases h
  · cases h

theorem skipKey_complete {a k : List Char} (ha : Blanks a) (hk : Label .object k) :
    skipKey (a ++ (k ++ r)) = .ok r := by
  cases hk with
  | @key k b hk hb =>
    have hskip : skipText (k ++ '"' :: (b ++ ':' :: r)) = .ok (b ++ ':' :: r) :=
      skipText_rawText hk _
    have hquote : skipBlanks (a ++ '"' :: (k ++ '"' :: (b ++ ':' :: r))) =
        '"' :: (k ++ '"' :: (b ++ ':' :: r)) :=
      skipBlanks_append_cons ha (by decide) _
    have hcolon : skipBlanks (b ++ ':' :: r) = ':' :: r := skipBlanks_append_cons hb (by decide) r
    simp only [skipKey, List.cons_append, List.append_assoc, List.nil_append, hquote, hskip,
      hcolon]

theorem skipParts_value_sound (h : skipParts (moves + 1) .value open' cs = .ok r) :
    ∃ b, Blanks b ∧
      ((∃ frame s, cs = b ++ Frame.opening frame :: s ∧
          skipParts moves .firstPart (frame :: open') s = .ok r) ∨
        ∃ w s, Simple w ∧ cs = b ++ (w ++ s) ∧ skipParts moves .separator open' s = .ok r) := by
  obtain ⟨b, hb, hcs⟩ := exists_blanks cs
  refine ⟨b, hb, ?_⟩
  unfold skipParts at h
  split at h
  · rename_i s hs
    exact .inl ⟨.list, s, hs ▸ hcs, h⟩
  · rename_i s hs
    exact .inl ⟨.object, s, hs ▸ hcs, h⟩
  · split at h
    · cases h
    · rename_i s hs
      obtain ⟨w, hw, happend⟩ := skipScalar_sound hs
      exact .inr ⟨w, s, hw, happend ▸ hcs, h⟩

theorem skipParts_key_sound (h : skipParts (moves + 1) .key open' cs = .ok r) :
    ∃ a k s, Blanks a ∧ Label .object k ∧ cs = a ++ (k ++ s) ∧
      skipParts moves .value open' s = .ok r := by
  unfold skipParts at h
  split at h
  · cases h
  · rename_i s hs
    obtain ⟨a, k, ha, hk, hcs⟩ := skipKey_sound hs
    exact ⟨a, k, s, ha, hk, hcs, h⟩

/-- Before a part blanks make no difference. -/
theorem skipParts_skipBlanks (frame : Frame) (cs : List Char) :
    skipParts (moves + 1) frame.part open' (skipBlanks cs) =
      skipParts (moves + 1) frame.part open' cs := by
  cases frame with
  | list => simp only [Frame.part, skipParts, skipBlanks_skipBlanks]
  | object => simp only [Frame.part, skipParts, skipKey, skipBlanks_skipBlanks]

theorem skipParts_firstPart_sound
    (h : skipParts (moves + 2) .firstPart (frame :: outer) cs = .ok r) :
    (∃ b s, Blanks b ∧ cs = b ++ frame.close :: s ∧
        skipParts (moves + 1) .separator outer s = .ok r) ∨
      skipParts (moves + 1) frame.part (frame :: outer) cs = .ok r := by
  obtain ⟨b, hb, hcs⟩ := exists_blanks cs
  unfold skipParts at h
  split at h
  · cases h
  · rename_i c s hs
    split at h
    · rename_i hc
      exact .inl ⟨b, s, hb, hc ▸ hs ▸ hcs, h⟩
    · rw [← hs, skipParts_skipBlanks] at h
      exact .inr h

theorem skipParts_separator_sound
    (h : skipParts (moves + 1) .separator (frame :: outer) cs = .ok r) :
    ∃ b s, Blanks b ∧
      ((cs = b ++ ',' :: s ∧ skipParts moves frame.part (frame :: outer) s = .ok r) ∨
        (cs = b ++ frame.close :: s ∧ skipParts moves .separator outer s = .ok r)) := by
  obtain ⟨b, hb, hcs⟩ := exists_blanks cs
  unfold skipParts at h
  split at h
  · cases h
  · rename_i c s hs
    split at h
    · rename_i hc
      exact ⟨b, s, hb, .inl ⟨hc ▸ hs ▸ hcs, h⟩⟩
    · split at h
      · rename_i hc
        exact ⟨b, s, hb, .inr ⟨hc ▸ hs ▸ hcs, h⟩⟩
      · cases h

/-! ## What a run takes -/

/-- A run that takes a word and then goes on with what was open around it, with moves enough. -/
def Takes (form : Form) (cs : List Char) (moves : Nat) (outer : List Frame)
    (r : List Char) : Prop :=
  ∃ b w s left, Blanks b ∧ Written form w ∧ cs = b ++ (w ++ s) ∧ left < moves ∧
    2 * s.length < left ∧ skipParts left .separator outer s = .ok r

theorem Blanks.append {a b : List Char} (ha : Blanks a) (hb : Blanks b) : Blanks (a ++ b) := by
  intro c hc
  rcases List.mem_append.1 hc with hc | hc
  · exact ha c hc
  · exact hb c hc

theorem Written.blanks_append (hb : Blanks b) (h : Written (.parts frame) w) :
    Written (.parts frame) (b ++ w) := by
  cases h with
  | last ha hl hb' hd hv => simpa using Written.last (hb.append ha) hl hb' hd hv
  | more ha hl hb' hd hv hw => simpa using Written.more (hb.append ha) hl hb' hd hv hw

/-- After the value of a part there are more parts or the end. -/
theorem takes_parts_of_value {a l s : List Char} {m : Nat}
    (ih : ∀ k < moves, ∀ s, 2 * s.length < k →
      skipParts k frame.part (frame :: outer) s = .ok r → Takes (.parts frame) s k outer r)
    (ha : Blanks a) (hl : Label frame l) (hm : m ≤ moves)
    (h : Takes .value s m (frame :: outer) r) :
    Takes (.parts frame) (a ++ (l ++ s)) moves outer r := by
  obtain ⟨b, v, t, left, hb, hv, rfl, hleft, hlen, hrun⟩ := h
  obtain ⟨left, rfl⟩ : ∃ k, left = k + 1 := ⟨left - 1, by omega⟩
  obtain ⟨d, t, hd, ⟨rfl, hnext⟩ | ⟨rfl, hnext⟩⟩ := skipParts_separator_sound hrun
  all_goals rw [List.length_append, List.length_cons] at hlen
  · obtain ⟨b', w, u, k, hb', hw, rfl, hk, hlen', hend⟩ := ih left (by omega) t (by omega) hnext
    have hw := hw.blanks_append hb'
    exact ⟨[], _, u, k, nofun, .more ha hl hb hd hv hw, by simp, by omega, hlen', hend⟩
  · exact ⟨[], _, t, left, nofun, .last ha hl hb hd hv, by simp, by omega, by omega, hnext⟩

/-- By induction on the moves; the parts of a value have fewer than the value. -/
theorem skipParts_takes (moves : Nat) :
    (∀ open' cs, 2 * cs.length < moves → skipParts moves .value open' cs = .ok r →
      Takes .value cs moves open' r) ∧
    ∀ frame outer cs, 2 * cs.length < moves →
      skipParts moves (Frame.part frame) (frame :: outer) cs = .ok r →
      Takes (.parts frame) cs moves outer r := by
  induction moves using Nat.strong_induction_on with
  | _ moves ih =>
    have hvalue : ∀ open' cs, 2 * cs.length < moves → skipParts moves .value open' cs = .ok r →
        Takes .value cs moves open' r := by
      intro open' cs hlen h
      obtain ⟨k, rfl⟩ : ∃ k, moves = k + 1 := ⟨moves - 1, by omega⟩
      obtain ⟨b, hb, ⟨frame, s, rfl, hnext⟩ | ⟨w, s, hw, rfl, hnext⟩⟩ := skipParts_value_sound h
      · rw [List.length_append, List.length_cons] at hlen
        obtain ⟨k, rfl⟩ : ∃ m, k = m + 2 := ⟨k - 2, by omega⟩
        rcases skipParts_firstPart_sound hnext with ⟨b', t, hb', rfl, hend⟩ | hparts
        · rw [List.length_append, List.length_cons] at hlen
          exact ⟨b, _, t, k + 1, hb, .empty frame hb', by simp, by omega, by omega, hend⟩
        · obtain ⟨b', w, t, left, hb', hw, rfl, hleft, hlen', hend⟩ :=
            (ih (k + 1) (by omega)).2 frame open' s (by omega) hparts
          exact ⟨b, _, t, left, hb, .filled frame (hw.blanks_append hb'), by simp, by omega, hlen',
            hend⟩
      · obtain ⟨c, v, rfl, -⟩ := hw.begins
        simp only [List.length_append, List.length_cons] at hlen
        exact ⟨b, _, s, k, hb, .simple hw, rfl, by omega, by omega, hnext⟩
    refine ⟨hvalue, ?_⟩
    intro frame outer cs hlen h
    have ih' : ∀ k < moves, ∀ s, 2 * s.length < k →
        skipParts k frame.part (frame :: outer) s = .ok r → Takes (.parts frame) s k outer r :=
      fun k hk s => (ih k hk).2 frame outer s
    cases frame with
    | list =>
      exact takes_parts_of_value (a := []) ih' nofun .element (Nat.le_refl _) (hvalue _ _ hlen h)
    | object =>
      obtain ⟨k, rfl⟩ : ∃ k, moves = k + 1 := ⟨moves - 1, by omega⟩
      obtain ⟨a, l, s, ha, hl, rfl, hnext⟩ := skipParts_key_sound h
      have hkey : 1 ≤ l.length := by
        cases hl
        exact Nat.le_add_left ..
      simp only [List.length_append] at hlen
      exact takes_parts_of_value ih' ha hl (Nat.le_succ k)
        ((ih k (by omega)).1 _ s (by omega) hnext)

theorem skipValue_sound (h : skipValue cs = .ok r) :
    ∃ b w, Blanks b ∧ Written .value w ∧ cs = b ++ (w ++ r) := by
  obtain ⟨b, w, s, left, hb, hw, rfl, -, hlen, hend⟩ :=
    (skipParts_takes _).1 [] cs (by omega) h
  obtain ⟨left, rfl⟩ : ∃ k, left = k + 1 := ⟨left - 1, by omega⟩
  cases hend
  exact ⟨b, w, hb, hw, rfl⟩

/-! ## What a run passes -/

theorem Begins.ne_close (h : Begins c) (frame : Frame) : c ≠ frame.close := by
  cases frame with
  | list => exact h.2.2.1
  | object => exact h.2.2.2

theorem Written.begins (h : Written .value w) : ∃ c v, w = c :: v ∧ Begins c := by
  cases h with
  | simple h => exact h.begins
  | empty frame => exact ⟨_, _, rfl, frame.opening_begins⟩
  | filled frame => exact ⟨_, _, rfl, frame.opening_begins⟩

/-- The parts of a value do not begin with its end. -/
theorem Written.parts_begins (h : Written (.parts frame) w) :
    ∃ a c v, Blanks a ∧ w = a ++ c :: v ∧ Begins c := by
  have hpart : ∀ {a l b v : List Char} (s : List Char), Blanks a → Label frame l → Blanks b →
      Written .value v →
      ∃ a' c v', Blanks a' ∧ a ++ (l ++ (b ++ (v ++ s))) = a' ++ c :: v' ∧ Begins c := by
    intro a l b v s ha hl hb hv
    cases hl with
    | element =>
      obtain ⟨c, v, rfl, hc⟩ := hv.begins
      exact ⟨a ++ b, c, v ++ s, ha.append hb, by simp, hc⟩
    | key => exact ⟨a, '"', _, ha, rfl, by decide⟩
  cases h with
  | last ha hl hb hd hv => exact hpart _ ha hl hb hv
  | more ha hl hb hd hv hw => exact hpart _ ha hl hb hv

theorem skipParts_value_opening (hb : Blanks b) :
    skipParts (moves + 1) .value open' (b ++ frame.opening :: r) =
      skipParts moves .firstPart (frame :: open') r := by
  have hskip := skipBlanks_append_cons hb frame.opening_begins.1 r
  rw [skipParts, hskip]
  cases frame <;> rfl

theorem skipParts_value_simple (hb : Blanks b) (hw : Simple w) (hr : EndsNumber r) :
    skipParts (moves + 1) .value open' (b ++ (w ++ r)) = skipParts moves .separator open' r := by
  have hscalar := skipScalar_complete hw hr
  obtain ⟨c, v, rfl, hbegins⟩ := hw.begins
  rw [List.cons_append] at hscalar ⊢
  have hskip := skipBlanks_append_cons hb hbegins.1 (v ++ r)
  rw [skipParts, hskip]
  split
  · rename_i hc
    obtain ⟨rfl, -⟩ := List.cons.inj hc
    cases hscalar
  · rename_i hc
    obtain ⟨rfl, -⟩ := List.cons.inj hc
    cases hscalar
  · rw [hscalar]

theorem skipParts_firstPart_close (hb : Blanks b) :
    skipParts (moves + 1) .firstPart (frame :: outer) (b ++ frame.close :: r) =
      skipParts moves .separator outer r := by
  simp only [skipParts, skipBlanks_append_cons hb frame.isBlank_close, if_true]

theorem skipParts_firstPart_part (h : skipBlanks cs = c :: r) (hc : c ≠ frame.close) :
    skipParts (moves + 2) .firstPart (frame :: outer) cs =
      skipParts (moves + 1) frame.part (frame :: outer) cs := by
  rw [← skipParts_skipBlanks frame cs, h]
  simp only [skipParts, h, if_neg hc]

theorem skipParts_separator_comma (hb : Blanks b) :
    skipParts (moves + 1) .separator (frame :: outer) (b ++ ',' :: r) =
      skipParts moves frame.part (frame :: outer) r := by
  have hskip : skipBlanks (b ++ ',' :: r) = ',' :: r := skipBlanks_append_cons hb (by decide) r
  simp only [skipParts, hskip, if_true]

theorem skipParts_separator_close (hb : Blanks b) :
    skipParts (moves + 1) .separator (frame :: outer) (b ++ frame.close :: r) =
      skipParts moves .separator outer r := by
  simp only [skipParts, skipBlanks_append_cons hb frame.isBlank_close, frame.close_ne_comma,
    if_true, if_false]

/-- Some moves lead past a word, at most two for each of its characters. -/
def Passes (expected : Expected) (open' : List Frame) (w : List Char) (outer : List Frame) : Prop :=
  ∀ r moves, EndsNumber r → 2 * w.length ≤ moves → ∃ left, moves ≤ left + 2 * w.length ∧
    skipParts moves expected open' (w ++ r) = skipParts left .separator outer r

/-- The label of a part leads to its value. -/
theorem passes_label {a l v : List Char} (ha : Blanks a) (hl : Label frame l)
    (hv : ∀ b, Blanks b → Passes .value open' (b ++ v) open') (hb : Blanks b) :
    Passes frame.part open' (a ++ (l ++ (b ++ v))) open' := by
  cases hl with
  | element =>
    have hpass := hv (a ++ b) (ha.append hb)
    rwa [List.append_assoc] at hpass
  | @key k d hk hd =>
    intro r moves hr hlen
    obtain ⟨moves, rfl⟩ : ∃ m, moves = m + 1 := ⟨moves - 1, by simp at hlen; omega⟩
    simp only [List.length_append, List.length_cons] at hlen
    obtain ⟨left, hleft, hrun⟩ :=
      hv b hb r moves hr (by rw [List.length_append]; omega)
    refine ⟨left, by simp only [List.length_append, List.length_cons] at hleft ⊢; omega, ?_⟩
    rw [← hrun, List.append_assoc, List.append_assoc, Frame.part, skipParts,
      skipKey_complete ha (.key hk hd)]

/-- Wherever a word of a form stands, some moves lead past it. -/
def Form.Passed : Form → List Char → Prop
  | value, w => ∀ open' b, Blanks b → Passes .value open' (b ++ w) open'
  | parts frame, w => ∀ outer, Passes frame.part (frame :: outer) w outer

theorem Written.passed {form : Form} (h : Written form w) : form.Passed w := by
  induction h with
  | simple hw =>
    intro open' b hb r moves hr hlen
    obtain ⟨c, v, rfl, -⟩ := hw.begins
    simp only [List.length_append, List.length_cons] at hlen
    obtain ⟨moves, rfl⟩ : ∃ m, moves = m + 1 := ⟨moves - 1, by omega⟩
    refine ⟨moves, by simp; omega, ?_⟩
    rw [List.append_assoc, skipParts_value_simple hb hw hr]
  | empty frame hd =>
    intro open' b hb r moves hr hlen
    simp only [List.length_append, List.length_cons] at hlen
    obtain ⟨moves, rfl⟩ : ∃ m, moves = m + 2 := ⟨moves - 2, by omega⟩
    refine ⟨moves, by simp; omega, ?_⟩
    rw [List.append_assoc, List.cons_append, skipParts_value_opening hb, List.append_assoc,
      List.cons_append, List.nil_append, skipParts_firstPart_close hd]
  | @filled frame w hw ih =>
    intro open' b hb r moves hr hlen
    simp only [List.length_append, List.length_cons] at hlen
    obtain ⟨moves, rfl⟩ : ∃ m, moves = m + 2 := ⟨moves - 2, by omega⟩
    obtain ⟨left, hleft, hrun⟩ := ih open' r (moves) hr (by omega)
    refine ⟨left, by simp; omega, ?_⟩
    obtain ⟨a, c, v, ha, rfl, hc⟩ := hw.parts_begins
    have hfirst : skipBlanks (a ++ c :: v ++ r) = c :: (v ++ r) := by
      rw [List.append_assoc, List.cons_append, skipBlanks_append_cons ha hc.1]
    have hlong : 1 ≤ (a ++ c :: v).length := by rw [List.length_append, List.length_cons]; omega
    obtain ⟨moves, rfl⟩ : ∃ m, moves = m + 1 := ⟨moves - 1, by omega⟩
    rw [List.append_assoc, List.cons_append, skipParts_value_opening hb,
      skipParts_firstPart_part hfirst (hc.ne_close frame), hrun]
  | @last frame a l b v d ha hl hb hd hv ih =>
    intro outer r moves hr hlen
    have hends : EndsNumber (d ++ frame.close :: r) :=
      (Ends.append hd (frame.ends_close r)).endsNumber
    simp only [List.length_append, List.length_cons, List.length_nil] at hlen
    obtain ⟨left, hleft, hrun⟩ := passes_label ha hl (ih (frame :: outer)) hb _ moves hends
      (by simp only [List.length_append]; omega)
    simp only [List.length_append] at hleft
    obtain ⟨left, rfl⟩ : ∃ m, left = m + 1 := ⟨left - 1, by omega⟩
    rw [skipParts_separator_close hd] at hrun
    refine ⟨left, by simp only [List.length_append, List.length_cons]; omega, ?_⟩
    rw [← hrun]
    simp only [List.append_assoc, List.cons_append, List.nil_append]
  | @more frame a l b v d w ha hl hb hd hv hw ihv ihw =>
    intro outer r moves hr hlen
    have hends : EndsNumber (d ++ ',' :: (w ++ r)) := (Ends.append hd (ends_comma _)).endsNumber
    simp only [List.length_append, List.length_cons] at hlen
    obtain ⟨m, hm, hlabel⟩ := passes_label ha hl (ihv (frame :: outer)) hb _ moves hends
      (by simp only [List.length_append]; omega)
    simp only [List.length_append] at hm
    obtain ⟨m, rfl⟩ : ∃ k, m = k + 1 := ⟨m - 1, by omega⟩
    rw [skipParts_separator_comma hd] at hlabel
    obtain ⟨left, hleft, hrun⟩ := ihw outer r m hr (by omega)
    refine ⟨left, by simp only [List.length_append, List.length_cons]; omega, ?_⟩
    rw [← hrun, ← hlabel]
    simp only [List.append_assoc, List.cons_append]

theorem skipValue_complete (hb : Blanks b) (hw : Written .value w) (hr : EndsNumber r) :
    skipValue (b ++ (w ++ r)) = .ok r := by
  obtain ⟨left, hleft, hrun⟩ := hw.passed [] b hb r (2 * (b ++ (w ++ r)).length + 3) hr
    (by simp only [List.length_append]; omega)
  rw [List.append_assoc] at hrun
  rw [skipValue, hrun]
  cases left <;> rfl

end CredentialKeeper.Json
