import CredentialKeeper.Json.Record

/-! # How numbers are written

A `Numeral` is a number without its sign: whole digits, of which the first is no zero unless it is
alone, and perhaps a fraction and an exponent. An `Integer` is whole and fits 64 bits; minus zero is
none. The readers take numerals and integers and nothing else, as far as what follows does not go on
with the number (`EndsNumber`). -/

namespace CredentialKeeper.Json

structure WholeDigits (w : List Char) : Prop where
  digits : isDigits w = true
  noLeadingZero : w.head? = some '0' → w = ['0']

inductive Fraction : List Char → Prop
  | none : Fraction []
  | digits {w : List Char} (h : isDigits w = true) : Fraction ('.' :: w)

inductive Exponent : List Char → Prop
  | none : Exponent []
  | digits {e : Char} {sign w : List Char} (he : e = 'e' ∨ e = 'E')
      (hsign : sign ∈ [[], ['+'], ['-']]) (h : isDigits w = true) : Exponent (e :: (sign ++ w))

inductive Numeral : List Char → Prop
  | parts {d f e : List Char} : WholeDigits d → Fraction f → Exponent e → Numeral (d ++ (f ++ e))

inductive Integer : List Char → Int → Prop
  | natural {w : List Char} (h : WholeDigits w) (hmost : digitsValue w ≤ 9223372036854775807) :
      Integer w (digitsValue w)
  | negative {w : List Char} (h : WholeDigits w) (hzero : digitsValue w ≠ 0)
      (hmost : digitsValue w ≤ 9223372036854775808) : Integer ('-' :: w) (-digitsValue w)

/-- A number does not go on here. -/
def EndsNumber (r : List Char) : Prop :=
  ∀ c ∈ r.head?, c.isDigit = false ∧ c ≠ '.' ∧ c ≠ 'e' ∧ c ≠ 'E'

variable {cs r w : List Char} {c : Char}

/-! ## Runs of digits -/

theorem isDigits_iff : isDigits w = true ↔ w ≠ [] ∧ ∀ c ∈ w, c.isDigit = true := by
  simp only [isDigits, Bool.and_eq_true, Bool.not_eq_true', List.isEmpty_eq_false_iff,
    List.all_eq_true]

theorem isDigits_takeWhile (h : c.isDigit = true) :
    isDigits ((c :: r).takeWhile Char.isDigit) = true := by
  rw [isDigits, List.all_takeWhile, List.takeWhile_cons_of_pos h]
  rfl

theorem dropWhile_isDigit (hw : ∀ c ∈ w, c.isDigit = true)
    (hr : ∀ c ∈ r.head?, c.isDigit = false) : (w ++ r).dropWhile Char.isDigit = r := by
  rw [List.dropWhile_append_of_pos hw]
  cases r with
  | nil => rfl
  | cons c r => exact List.dropWhile_cons_of_neg (by simp [hr c rfl])

theorem WholeDigits.head (h : WholeDigits w) :
    ∃ c v, w = c :: v ∧ c.isDigit = true ∧ (c = '0' → v = []) := by
  obtain ⟨hne, hall⟩ := isDigits_iff.1 h.digits
  obtain ⟨c, v, rfl⟩ := List.exists_cons_of_ne_nil hne
  refine ⟨c, v, rfl, hall c List.mem_cons_self, ?_⟩
  rintro rfl
  exact (List.cons.inj (h.noLeadingZero rfl)).2

/-- The readers look at two characters for a zero that may not lead. -/
theorem wholeDigits_takeWhile (h : c.isDigit = true)
    (hzero : ¬(c = '0' && (r.head?).any Char.isDigit) = true) :
    WholeDigits ((c :: r).takeWhile Char.isDigit) where
  digits := isDigits_takeWhile h
  noLeadingZero hhead := by
    rw [List.takeWhile_cons_of_pos h] at hhead ⊢
    obtain rfl : c = '0' := Option.some.inj hhead
    cases r with
    | nil => rfl
    | cons d r => simp_all

theorem WholeDigits.no_zero_leads (h : WholeDigits (c :: w))
    (hr : ∀ c ∈ r.head?, c.isDigit = false) :
    ¬(c = '0' && ((w ++ r).head?).any Char.isDigit) = true := by
  intro hlead
  simp only [Bool.and_eq_true, decide_eq_true_eq] at hlead
  obtain ⟨rfl, hany⟩ := hlead
  obtain rfl : w = [] := (List.cons.inj (h.noLeadingZero rfl)).2
  cases r with
  | nil => cases hany
  | cons d r => simp_all

/-! ## Numerals -/

/-- The digits of an exponent, after its sign. -/
theorem exponentDigits_sound (h : (match cs with
    | [] => stop .invalidNumber []
    | c :: r => if c.isDigit then .ok (r.dropWhile Char.isDigit) else stopAt .invalidNumber cs) =
      .ok r) : ∃ w, isDigits w = true ∧ cs = w ++ r := by
  split at h
  · cases h
  · split at h
    · rename_i c r hc
      cases h
      refine ⟨_, isDigits_takeWhile (r := r) hc, ?_⟩
      rw [List.takeWhile_cons_of_pos hc, List.cons_append, List.takeWhile_append_dropWhile]
    · cases h

theorem skipExponent_sound (h : skipExponent cs = .ok r) :
    ∃ sign w, sign ∈ [[], ['+'], ['-']] ∧ isDigits w = true ∧ cs = sign ++ (w ++ r) := by
  unfold skipExponent at h
  split at h
  all_goals
    obtain ⟨w, hw, rfl⟩ := exponentDigits_sound h
  · exact ⟨['+'], w, by simp, hw, rfl⟩
  · exact ⟨['-'], w, by simp, hw, rfl⟩
  · exact ⟨[], w, by simp, hw, rfl⟩

theorem skipExponent_complete {sign : List Char} (hsign : sign ∈ [[], ['+'], ['-']])
    (hw : isDigits w = true) (hr : ∀ c ∈ r.head?, c.isDigit = false) :
    skipExponent (sign ++ (w ++ r)) = .ok r := by
  obtain ⟨hne, hall⟩ := isDigits_iff.1 hw
  obtain ⟨c, v, rfl⟩ := List.exists_cons_of_ne_nil hne
  have hc := hall c List.mem_cons_self
  have hv : (v ++ r).dropWhile Char.isDigit = r :=
    dropWhile_isDigit (fun d hd => hall d (List.mem_cons_of_mem _ hd)) hr
  have hplus : c ≠ '+' := by rintro rfl; cases hc
  have hminus : c ≠ '-' := by rintro rfl; cases hc
  simp only [List.mem_cons, List.not_mem_nil, or_false] at hsign
  rcases hsign with rfl | rfl | rfl
  · unfold skipExponent
    split
    all_goals simp_all
  · simp only [skipExponent, List.cons_append, List.nil_append, if_pos hc, hv]
  · simp only [skipExponent, List.cons_append, List.nil_append, if_pos hc, hv]

/-- After other digits of a number there may be an exponent. -/
theorem exponent_sound (h : (match cs with
    | 'e' :: r | 'E' :: r => skipExponent r
    | r => .ok r) = .ok r) : ∃ e, Exponent e ∧ cs = e ++ r := by
  split at h
  · obtain ⟨sign, w, hsign, hw, rfl⟩ := skipExponent_sound h
    exact ⟨_, .digits (.inl rfl) hsign hw, by simp⟩
  · obtain ⟨sign, w, hsign, hw, rfl⟩ := skipExponent_sound h
    exact ⟨_, .digits (.inr rfl) hsign hw, by simp⟩
  · cases h
    exact ⟨[], .none, rfl⟩

theorem exponent_complete {e : List Char} (he : Exponent e) (hr : EndsNumber r) :
    (match e ++ r with
    | 'e' :: r | 'E' :: r => skipExponent r
    | r => .ok r) = .ok r := by
  have hdigit : ∀ c ∈ r.head?, c.isDigit = false := fun c hc => (hr c hc).1
  cases he with
  | none =>
    rw [List.nil_append]
    split
    · exact absurd rfl (hr 'e' rfl).2.2.1
    · exact absurd rfl (hr 'E' rfl).2.2.2
    · rfl
  | digits hmark hsign hw =>
    rcases hmark with rfl | rfl
    · simpa using skipExponent_complete hsign hw hdigit
    · simpa using skipExponent_complete hsign hw hdigit

/-- Digits from the first on, and what is left after them. -/
theorem exists_digits (h : c.isDigit = true) :
    ∃ w, isDigits w = true ∧ c :: r = w ++ (c :: r).dropWhile Char.isDigit ∧
      w = (c :: r).takeWhile Char.isDigit :=
  ⟨_, isDigits_takeWhile h, List.takeWhile_append_dropWhile.symm, rfl⟩

theorem skipUnsigned_sound (h : skipUnsigned cs = .ok r) : ∃ w, Numeral w ∧ cs = w ++ r := by
  unfold skipUnsigned at h
  split at h
  · cases h
  · split at h
    · cases h
    · split at h
      · cases h
      · rename_i c rest hc hzero
        have hc : c.isDigit = true := by simpa using hc
        have hd := wholeDigits_takeWhile hc hzero
        obtain ⟨d, -, happend, rfl⟩ := exists_digits (r := rest) hc
        rw [happend]
        split at h
        · rename_i f hf
          rw [hf]
          split at h
          · rename_i hfirst
            cases f with
            | nil => cases hfirst
            | cons c f =>
              obtain ⟨w, hw, happend, -⟩ := exists_digits (r := f) hfirst
              obtain ⟨e, he, hrest⟩ := exponent_sound h
              rw [happend, hrest]
              exact ⟨_, .parts hd (.digits hw) he, by simp⟩
          · cases h
        · rename_i he
          obtain ⟨sign, w, hsign, hw, rfl⟩ := skipExponent_sound h
          rw [he]
          exact ⟨_, .parts hd .none (.digits (.inl rfl) hsign hw), by simp⟩
        · rename_i he
          obtain ⟨sign, w, hsign, hw, rfl⟩ := skipExponent_sound h
          rw [he]
          exact ⟨_, .parts hd .none (.digits (.inr rfl) hsign hw), by simp⟩
        · cases h
          exact ⟨_, .parts hd .none .none, by simp⟩

theorem skipUnsigned_complete (hw : Numeral w) (hr : EndsNumber r) :
    skipUnsigned (w ++ r) = .ok r := by
  obtain ⟨hd, hf, he⟩ := hw
  rename_i d f e
  have hexponent := exponent_complete he hr
  -- What follows the whole digits begins with no digit, and what follows the fraction neither.
  have hexp : ∀ c ∈ (e ++ r).head?, c.isDigit = false := by
    cases he with
    | none => exact fun c hc => (hr c hc).1
    | digits hmark _ _ => rcases hmark with rfl | rfl <;> simp
  have hrest : ∀ c ∈ (f ++ (e ++ r)).head?, c.isDigit = false := by
    cases hf with
    | none => exact hexp
    | digits _ => simp
  have hdrop : (d ++ (f ++ (e ++ r))).dropWhile Char.isDigit = f ++ (e ++ r) :=
    dropWhile_isDigit (isDigits_iff.1 hd.digits).2 hrest
  obtain ⟨c, v, rfl, hc, -⟩ := hd.head
  have hlead := hd.no_zero_leads hrest
  rw [List.append_assoc, List.append_assoc, List.cons_append, skipUnsigned,
    if_neg (by simp [hc]), if_neg hlead, ← List.cons_append, hdrop]
  cases hf with
  | none =>
    cases he with
    | none =>
      simp only [List.nil_append]
      split
      · exact absurd rfl (hr '.' rfl).2.1
      · exact absurd rfl (hr 'e' rfl).2.2.1
      · exact absurd rfl (hr 'E' rfl).2.2.2
      · rfl
    | digits hmark _ _ => rcases hmark with rfl | rfl <;> exact hexponent
  | @digits w hw =>
    obtain ⟨hne, hall⟩ := isDigits_iff.1 hw
    have hfirst : ((w ++ (e ++ r)).head?).any Char.isDigit = true := by
      obtain ⟨c, v, rfl⟩ := List.exists_cons_of_ne_nil hne
      simp [hall c List.mem_cons_self]
    simp only [List.cons_append]
    rw [if_pos hfirst, dropWhile_isDigit hall hexp]
    exact hexponent

/-! ## Integers -/

/-- The number that digits make after the digits of another one. -/
def digitsAfter (n : Nat) (w : List Char) : Nat :=
  w.foldl (fun n c => 10 * n + (c.toNat - 48)) n

theorem digitsAfter_cons (n : Nat) (c : Char) (w : List Char) :
    digitsAfter n (c :: w) = digitsAfter (10 * n + (c.toNat - 48)) w := by
  rw [digitsAfter, List.foldl_cons, digitsAfter]

theorem le_digitsAfter (n : Nat) (w : List Char) : n ≤ digitsAfter n w := by
  induction w generalizing n with
  | nil => exact Nat.le_refl n
  | cons c w ih =>
    have hstep := ih (10 * n + (c.toNat - 48))
    rw [digitsAfter_cons]
    omega

theorem takeDigits_sound (cs : List Char) (n : Nat) : ∃ w, cs = w ++ (takeDigits n cs).2.2 ∧
    (∀ c ∈ w, c.isDigit = true) ∧ (takeDigits n cs).1 = digitsAfter n w := by
  induction cs generalizing n with
  | nil => exact ⟨[], rfl, by simp, rfl⟩
  | cons c cs ih =>
    unfold takeDigits
    dsimp only
    split
    · rename_i h
      simp only [Bool.and_eq_true, decide_eq_true_eq] at h
      obtain ⟨w, hcs, hall, hvalue⟩ := ih (10 * n + (c.toNat - 48))
      refine ⟨c :: w, congrArg _ hcs, ?_, digitsAfter_cons n c w ▸ hvalue⟩
      intro d hd
      rcases List.mem_cons.1 hd with rfl | hd
      · exact h.1
      · exact hall d hd
    · exact ⟨[], rfl, by simp, rfl⟩

theorem takeDigits_complete {n : Nat} (hw : ∀ c ∈ w, c.isDigit = true)
    (hle : digitsAfter n w ≤ mostDigits) (hr : ∀ c ∈ r.head?, c.isDigit = false) :
    takeDigits n (w ++ r) = (digitsAfter n w, w.length, r) := by
  induction w generalizing n with
  | nil =>
    cases r with
    | nil => rfl
    | cons c r => simp [takeDigits, hr c rfl, digitsAfter]
  | cons c w ih =>
    rw [digitsAfter_cons] at hle
    have hnext : 10 * n + (c.toNat - 48) ≤ mostDigits := Nat.le_trans (le_digitsAfter ..) hle
    have hc := hw c List.mem_cons_self
    have hrest := ih (fun d hd => hw d (List.mem_cons_of_mem _ hd)) hle
    rw [List.cons_append, takeDigits]
    simp only [hc, hnext, decide_true, Bool.and_self, if_true, hrest, digitsAfter_cons,
      List.length_cons]

theorem finishReal_real {isNegative : Bool} {digits : Nat} {exponent : Int} {x : Number}
    (h : finishReal isNegative digits exponent cs = .ok (x, r)) : ∃ y, x = .real y := by
  unfold finishReal at h
  split at h
  · cases h
  · cases h
    exact ⟨_, rfl⟩

theorem readExponent_real {isNegative : Bool} {digits : Nat} {start : Int} {x : Number}
    (h : readExponent isNegative digits start cs = .ok (x, r)) : ∃ y, x = .real y := by
  unfold readExponent at h
  split at h
  split at h
  · cases h
  · split at h
    · split at h
      · exact finishReal_real h
      · split at h
        · cases h
        · cases h
          exact ⟨_, rfl⟩
    · cases h

theorem readTail_real {isNegative : Bool} {digits : Nat} {exponent : Int} {x : Number}
    (h : readTail isNegative digits exponent cs = .ok (x, r)) : ∃ y, x = .real y := by
  unfold readTail at h
  split at h
  · exact readExponent_real h
  · exact readExponent_real h
  · exact finishReal_real h

theorem readFraction_real {isNegative : Bool} {digits : Nat} {exponent : Int} {x : Number}
    (h : readFraction isNegative digits exponent cs = .ok (x, r)) : ∃ y, x = .real y := by
  unfold readFraction at h
  dsimp only at h
  split at h
  · exact readTail_real h
  · split at h
    · split at h <;> cases h
    · exact readTail_real h

/-- A number that is not real is written with whole digits alone. -/
theorem readUnsigned_sound {isNegative : Bool} {x : Number}
    (h : readUnsigned isNegative cs = .ok (x, r)) (hx : ∀ y, x ≠ .real y) :
    ∃ w, WholeDigits w ∧ cs = w ++ r ∧ x = wholeNumber isNegative (digitsValue w) := by
  have hreal : ¬∃ y, x = .real y := fun ⟨y, hy⟩ => hx y hy
  unfold readUnsigned at h
  split at h
  · cases h
  · split at h
    · cases h
    · split at h
      · cases h
      · rename_i c rest hc hzero
        obtain ⟨w, happend, hall, hvalue⟩ := takeDigits_sound (c :: rest) 0
        generalize takeDigits 0 (c :: rest) = t at h happend hvalue
        obtain ⟨n, count, left⟩ := t
        dsimp only at h happend hvalue
        split at h
        · exact absurd (readFraction_real h) hreal
        · exact absurd (readExponent_real h) hreal
        · exact absurd (readExponent_real h) hreal
        · split at h
          · rename_i hdropped
            injection h with h
            injection h with hx hr
            subst hr
            have hwhole := wholeDigits_takeWhile (by simpa using hc) hzero
            rw [happend, List.takeWhile_append_of_pos hall, List.eq_nil_of_length_eq_zero hdropped,
              List.append_nil] at hwhole
            exact ⟨w, hwhole, happend, hx ▸ hvalue ▸ rfl⟩
          · split at h
            · exact absurd (readFraction_real h) hreal
            · exact absurd (readTail_real h) hreal

theorem readUnsigned_complete {isNegative : Bool} (hw : WholeDigits w)
    (hle : digitsValue w ≤ mostDigits) (hr : EndsNumber r) :
    readUnsigned isNegative (w ++ r) = .ok (wholeNumber isNegative (digitsValue w), r) := by
  have hdigit : ∀ c ∈ r.head?, c.isDigit = false := fun c hc => (hr c hc).1
  have htake : takeDigits 0 (w ++ r) = (digitsValue w, w.length, r) :=
    takeDigits_complete (isDigits_iff.1 hw.digits).2 hle hdigit
  obtain ⟨c, v, rfl, hc, -⟩ := hw.head
  rw [List.cons_append] at htake ⊢
  rw [readUnsigned, if_neg (by simp [hc]), if_neg (hw.no_zero_leads hdigit), htake]
  dsimp only
  split
  · simp_all [EndsNumber]
  · simp_all [EndsNumber]
  · simp_all [EndsNumber]
  · cases r with
    | nil => rfl
    | cons d r => rw [List.takeWhile_cons_of_neg (by simp [hdigit d rfl])]; rfl

theorem wholeNumber_eq_natural_iff {isNegative : Bool} {n k : Nat} :
    wholeNumber isNegative n = .natural k ↔ isNegative = false ∧ n = k := by
  cases isNegative with
  | false => simp [wholeNumber]
  | true =>
    simp only [wholeNumber, Bool.not_true, Bool.false_eq_true, if_false, reduceCtorEq, false_and,
      iff_false]
    split <;> simp

theorem wholeNumber_eq_negative_iff {isNegative : Bool} {n : Nat} {k : Int} :
    wholeNumber isNegative n = .negative k ↔
      isNegative = true ∧ n ≠ 0 ∧ n ≤ 9223372036854775808 ∧ -(n : Int) = k := by
  cases isNegative with
  | false => simp [wholeNumber]
  | true =>
    simp only [wholeNumber, Bool.not_true, Bool.false_eq_true, if_false, true_and]
    split
    · simp_all
      omega
    · simp_all

/-- A sign may stand before a number that is not real. -/
theorem readNumber_sound {x : Number} (h : readNumber cs = .ok (x, r)) (hx : ∀ y, x ≠ .real y) :
    ∃ w, WholeDigits w ∧ ((cs = w ++ r ∧ x = wholeNumber false (digitsValue w)) ∨
      (cs = '-' :: (w ++ r) ∧ x = wholeNumber true (digitsValue w))) := by
  unfold readNumber at h
  split at h
  · obtain ⟨w, hw, rfl, hval⟩ := readUnsigned_sound h hx
    exact ⟨w, hw, .inr ⟨rfl, hval⟩⟩
  · obtain ⟨w, hw, rfl, hval⟩ := readUnsigned_sound h hx
    exact ⟨w, hw, .inl ⟨rfl, hval⟩⟩

theorem refuse_ne_ok {α : Type} (wanted : String) (cs : List Char) (a : α) :
    refuse wanted cs ≠ .ok a := by
  unfold refuse
  split <;> exact nofun

theorem readInt_sound {n : Int} (h : readInt cs = .ok (n, r)) :
    ∃ w, Integer w n ∧ skipBlanks cs = w ++ r := by
  unfold readInt at h
  split at h
  · cases h
  · rename_i c rest hcs
    rw [hcs]
    split at h
    · split at h
      · cases h
      · rename_i k r' hread
        split at h
        · rename_i hle
          cases h
          obtain ⟨w, hw, ⟨happend, hval⟩ | ⟨happend, hval⟩⟩ :=
            readNumber_sound hread (fun _ => Number.noConfusion)
          · obtain ⟨-, rfl⟩ := wholeNumber_eq_natural_iff.1 hval.symm
            exact ⟨w, .natural hw hle, happend⟩
          · cases (wholeNumber_eq_natural_iff.1 hval.symm).1
        · cases h
      · rename_i hread
        cases h
        obtain ⟨w, hw, ⟨happend, hval⟩ | ⟨happend, hval⟩⟩ :=
          readNumber_sound hread (fun _ => Number.noConfusion)
        · cases (wholeNumber_eq_negative_iff.1 hval.symm).1
        · obtain ⟨-, hzero, hmost, rfl⟩ := wholeNumber_eq_negative_iff.1 hval.symm
          exact ⟨_, .negative hw hzero hmost, happend⟩
      · cases h
    · exact absurd h (refuse_ne_ok _ _ _)

theorem readInt_complete {n : Int} (hcs : skipBlanks cs = w ++ r) (hw : Integer w n)
    (hr : EndsNumber r) : readInt cs = .ok (n, r) := by
  unfold readInt
  rw [hcs]
  cases hw with
  | natural hw hmost =>
    have hread : readUnsigned false (w ++ r) = .ok (.natural (digitsValue w), r) :=
      readUnsigned_complete hw (Nat.le_trans hmost (by decide)) hr
    obtain ⟨c, v, rfl, hc, -⟩ := hw.head
    have hsign : c ≠ '-' := by rintro rfl; cases hc
    have hnumber : readNumber (c :: (v ++ r)) = .ok (.natural (digitsValue (c :: v)), r) := by
      rw [readNumber]
      · exact hread
      · rintro r' hr'
        exact hsign (List.cons.inj hr').1
    simp only [List.cons_append, hc, Bool.or_true, if_true, hnumber, if_pos hmost]
  | @negative w hw hzero hmost =>
    have hnumber : readNumber ('-' :: (w ++ r)) = .ok (.negative (-digitsValue w), r) := by
      have hval := wholeNumber_eq_negative_iff.2 ⟨rfl, hzero, hmost, rfl⟩
      rw [readNumber, readUnsigned_complete hw (Nat.le_trans hmost (by decide)) hr, hval]
    simp only [List.cons_append, decide_true, Bool.true_or, if_true, hnumber]

end CredentialKeeper.Json
