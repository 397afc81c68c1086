import CredentialKeeper.Proofs.Json.Unambiguity

/-! # What is written

The writer of objects writes what the grammar calls an object, with the entries as its members
(`enclosed_writeObject`). A text is spelled by its escapes whatever characters it has
(`textValue_writeText`), and a whole number by its digits (`integer_toString`). So an object states
its entries and nothing else (`states_writeObject_iff`). -/

namespace CredentialKeeper.Json

variable {n : Nat} {v : List Char}

/-! ## Texts -/

/-- The controls, read back one by one. -/
theorem readChar_writeChar_control (h : n < 32) :
    readChar (writeChar (Char.ofNat n)) = .ok (some (Char.ofNat n), []) := by
  have hall : ∀ n ∈ List.range 32,
      readChar (writeChar (Char.ofNat n)) = .ok (some (Char.ofNat n), []) := by decide +kernel
  exact hall n (List.mem_range.2 h)

theorem spells_writeChar (c : Char) : Spells (writeChar c) c := by
  by_cases hc : isControl c = true
  · have hread := readChar_writeChar_control (of_decide_eq_true hc)
    rw [Char.ofNat_toNat] at hread
    obtain ⟨w, hw, happend⟩ := readChar_eq_some_iff.1 hread
    rw [List.append_nil] at happend
    exact happend ▸ hw
  · unfold writeChar
    split
    · exact .escape (.short rfl)
    · exact .escape (.short rfl)
    all_goals try exact absurd (by decide) hc
    rename_i hquote hslash _ _ _ _ _
    rw [if_neg hc]
    exact .plain (fun h => hquote h) (fun h => hslash h) (Bool.eq_false_iff.2 hc)

theorem spelled_flatMap (cs : List Char) : Spelled (cs.flatMap writeChar) cs := by
  induction cs with
  | nil => exact .nil
  | cons c cs ih =>
    rw [List.flatMap_cons]
    exact .cons (spells_writeChar c) ih

theorem textValue_writeText (s : String) : TextValue (writeText s) s := ⟨spelled_flatMap s.toList⟩

/-! ## Whole numbers -/

theorem digitsValue_toDigits (n : Nat) : digitsValue (Nat.toDigits 10 n) = n :=
  Nat.ofDigitChars_ten_toDigits

/-- The first digit of a number is no zero, unless the number is zero. -/
theorem head?_toDigits (h : 0 < n) : (Nat.toDigits 10 n).head? ≠ some '0' := by
  induction n using Nat.strong_induction_on with
  | _ n ih =>
    rcases Nat.lt_or_ge n 10 with hlt | hge
    · rw [Nat.toDigits_of_lt_base hlt, List.head?_cons]
      intro hzero
      have hdigits : ∀ n ∈ List.range 10, Nat.digitChar n = '0' → n = 0 := by decide
      have := hdigits n (List.mem_range.2 hlt) (Option.some.inj hzero)
      omega
    · have hfirst := ih (n / 10) (by omega) (by omega)
      obtain ⟨c, cs, hcs⟩ :=
        List.exists_cons_of_ne_nil (Nat.toDigits_ne_nil (b := 10) (n := n / 10))
      rw [Nat.toDigits_of_base_le (by decide) hge, hcs, List.cons_append]
      rwa [hcs] at hfirst

theorem wholeDigits_toDigits (n : Nat) : WholeDigits (Nat.toDigits 10 n) where
  digits := isDigits_iff.2 ⟨Nat.toDigits_ne_nil, fun _ hc =>
    Nat.isDigit_of_mem_toDigits (by decide) (by decide) hc⟩
  noLeadingZero h := by
    rcases Nat.eq_zero_or_pos n with rfl | hpos
    · rfl
    · exact absurd h (head?_toDigits hpos)

/-- A whole number of 64 bits with a sign is written as one. -/
theorem integer_toString {n : Int} (hlow : -9223372036854775808 ≤ n)
    (hhigh : n ≤ 9223372036854775807) : Integer (toString n).toList n := by
  cases n with
  | ofNat n =>
    have hwrite : (toString (Int.ofNat n)).toList = Nat.toDigits 10 n := Nat.toList_repr
    have hvalue := digitsValue_toDigits n
    rw [Int.ofNat_eq_natCast] at hhigh
    rw [hwrite, show Int.ofNat n = (digitsValue (Nat.toDigits 10 n) : Int) by rw [hvalue]; rfl]
    exact .natural (wholeDigits_toDigits n) (by omega)
  | negSucc n =>
    have hwrite : (toString (Int.negSucc n)).toList = '-' :: Nat.toDigits 10 (n + 1) := by
      rw [← Nat.toList_repr]
      exact String.toList_append
    have hvalue := digitsValue_toDigits (n + 1)
    rw [hwrite, show Int.negSucc n = -(digitsValue (Nat.toDigits 10 (n + 1)) : Int) by
      rw [hvalue]; rfl]
    exact .negative (wholeDigits_toDigits (n + 1)) (by omega) (by omega)

/-! ## Objects -/

theorem member_writeEntry {key : String} {value : Scalar} (h : Written .value value.write) :
    Member (writeEntry (key, value)) (key, value.write) := by
  have hmember : Member ([] ++ '"' :: (key.toList.flatMap writeChar ++ '"' ::
      ([] ++ ':' :: ([] ++ value.write)))) (String.ofList key.toList, value.write) :=
    .mk nofun (spelled_flatMap _) nofun nofun h
  rw [String.ofList_toList] at hmember
  have happend : writeEntry (key, value) = [] ++ '"' :: (key.toList.flatMap writeChar ++ '"' ::
      ([] ++ ':' :: ([] ++ value.write))) := by
    simp [writeEntry, writeText]
  exact happend ▸ hmember

/-- The entries of an object, with the value of each as it is written. -/
def entryValues (entries : List (String × Scalar)) : List (String × List Char) :=
  entries.map fun e => (e.1, e.2.write)

theorem rest_writeEntries {entries : List (String × Scalar)}
    (h : ∀ e ∈ entries, Written .value e.2.write) :
    Rest Member Frame.object.close
      (entries.flatMap (fun e => ',' :: writeEntry e) ++ [Frame.object.close])
      (entryValues entries) := by
  induction entries with
  | nil => exact .close nofun
  | cons e entries ih =>
    have hrest := ih fun e' he' => h e' (List.mem_cons_of_mem _ he')
    have hentry : Member (writeEntry e) (e.1, e.2.write) :=
      member_writeEntry (h e List.mem_cons_self)
    have hcomma := Rest.comma (b := []) nofun hentry hrest
    simpa [entryValues] using hcomma

theorem intercalate_cons {α : Type} (sep x : List α) (xs : List (List α)) :
    sep.intercalate (x :: xs) = x ++ xs.flatMap (sep ++ ·) := by
  induction xs generalizing x with
  | nil => simp
  | cons y ys ih =>
    rw [List.intercalate_cons_cons, ih, List.flatMap_cons, List.append_assoc, List.append_assoc]

/-- An object is written with its entries as its members, and nothing else. -/
theorem enclosed_writeObject {entries : List (String × Scalar)}
    (h : ∀ e ∈ entries, Written .value e.2.write) :
    Enclosed Member .object (writeObject entries).toList (entryValues entries) := by
  rw [writeObject, String.toList_ofList]
  cases entries with
  | nil => exact .mk (a := []) (b := []) nofun nofun (.empty (b := []) nofun)
  | cons e entries =>
    have hbody : Body Member Frame.object.close _ (entryValues (e :: entries)) :=
      .parts (member_writeEntry (h e List.mem_cons_self))
        (rest_writeEntries fun e' he' => h e' (List.mem_cons_of_mem _ he'))
    have hobject : Enclosed Member .object _ (entryValues (e :: entries)) :=
      .mk (a := []) (b := []) nofun nofun hbody
    rw [List.map_cons, intercalate_cons, List.flatMap_map]
    simpa [Frame.opening, Frame.close] using hobject

/-! ## What an object states -/

namespace Scalar

variable {x y : Scalar}

/-- What is written is a text or a whole number. -/
def Means : Scalar → List Char → Prop
  | text s, v => TextValue v s
  | integer n, v => Integer v n

/-- A whole number is read back if it has 64 bits with its sign. -/
def Fits : Scalar → Prop
  | text _ => True
  | integer n => -9223372036854775808 ≤ n ∧ n ≤ 9223372036854775807

theorem means_write (h : x.Fits) : x.Means x.write := by
  cases x with
  | text s => exact textValue_writeText s
  | integer n => exact integer_toString h.1 h.2

theorem Means.written (h : x.Means v) : Written .value v := by
  cases x with
  | text s => exact reads_string.value h
  | integer n => exact h.written

theorem not_text_and_integer {s : String} {n : Int} (hs : TextValue v s) (hn : Integer v n) :
    False := by
  obtain ⟨-⟩ := hs
  generalize hv : '"' :: _ = v at hn
  cases hn with
  | natural h =>
    obtain ⟨c, w, rfl, hdigit, -⟩ := h.head
    obtain ⟨rfl, -⟩ := List.cons.inj hv
    exact absurd hdigit (by decide)
  | negative => exact absurd (List.cons.inj hv).1 (by decide)

theorem Means.unique (h : x.Means v) (h' : y.Means v) : x = y := by
  cases x with
  | text s =>
    cases y with
    | text s' => rw [reads_string.unique h h']
    | integer n' => exact (not_text_and_integer h h').elim
  | integer n =>
    cases y with
    | text s' => exact (not_text_and_integer h' h).elim
    | integer n' => rw [reads_int.unique h h']

end Scalar

/-- A text is an object that has these entries in their order and no other ones. -/
def States (text : String) (entries : List (String × Scalar)) : Prop :=
  ∃ ms, Enclosed Member .object text.toList ms ∧
    List.Forall₂ (fun m e => m.1 = e.1 ∧ e.2.Means m.2) ms entries

theorem States.unique {text : String} {entries entries' : List (String × Scalar)}
    (h : States text entries) (h' : States text entries') : entries = entries' := by
  obtain ⟨ms, hms, hentries⟩ := h
  obtain ⟨ms', hms', hentries'⟩ := h'
  obtain rfl := hms.unique member_distinct hms'
  clear hms hms'
  induction hentries generalizing entries' with
  | nil =>
    cases hentries'
    rfl
  | cons he _ ih =>
    cases hentries' with
    | cons he' hrest' =>
      have hname := he.1.symm.trans he'.1
      rw [Prod.ext hname (he.2.unique he'.2), ih hrest']

theorem states_writeObject {entries : List (String × Scalar)} (h : ∀ e ∈ entries, e.2.Fits) :
    States (writeObject entries) entries := by
  refine ⟨_, enclosed_writeObject fun e he => (Scalar.means_write (h e he)).written, ?_⟩
  rw [entryValues, List.forall₂_map_left_iff]
  exact List.forall₂_same.2 fun e he => ⟨rfl, Scalar.means_write (h e he)⟩

/-- **An object says what was written and nothing else**, whatever characters its texts have. -/
theorem states_writeObject_iff {entries entries' : List (String × Scalar)}
    (h : ∀ e ∈ entries, e.2.Fits) : States (writeObject entries) entries' ↔ entries' = entries := by
  constructor
  · exact fun h' => h'.unique (states_writeObject h)
  · rintro rfl
    exact states_writeObject h

end CredentialKeeper.Json
