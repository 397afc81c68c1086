import CredentialKeeper.Proofs.Text.Excerpt
import CredentialKeeper.Proofs.Text.Utf8

/-! # Cutting a text at a boundary

The boundaries in the bytes of a text are the ends of its starts (`isBoundary_utf8_iff`): of the
bytes of a character only the first one is no continuation. There is always one to go back to, and
the last one that fits is the end of the characters that fit (`boundaryUpTo?_utf8`), so an excerpt
is found in the bytes as well (`cutBack?_eq`). It keeps the longest start that fits. -/

namespace CredentialKeeper.Text

variable {cs kept rest : List Char} {bytes : List UInt8} {n : Nat}

/-! ## Boundaries -/

theorem isContinuation_ofNat (h : n < 256) :
    isContinuation (UInt8.ofNat n) = true ↔ 128 ≤ n ∧ n < 192 := by
  have hn : (UInt8.ofNat n).toNat = n := by
    rw [UInt8.toNat_ofNat']
    omega
  simp [isContinuation, hn]

/-- Of the bytes of a character the first one alone is no continuation. -/
theorem exists_utf8EncodeChar (c : Char) : ∃ b bs, String.utf8EncodeChar c = b :: bs ∧
    isContinuation b = false ∧ ∀ b' ∈ bs, isContinuation b' = true := by
  have hfirst (n : Nat) (h : n < 128 ∨ 192 ≤ n ∧ n < 256) :
      isContinuation (UInt8.ofNat n) = false := by
    rw [← Bool.not_eq_true, isContinuation_ofNat (by omega)]
    omega
  have hlater (n : Nat) : isContinuation (UInt8.ofNat (n % 64 + 128)) = true :=
    (isContinuation_ofNat (by omega)).2 (by omega)
  unfold String.utf8EncodeChar
  extract_lets v
  -- one to four bytes
  split
  · exact ⟨_, _, rfl, hfirst _ (by omega), nofun⟩
  · split
    · refine ⟨_, _, rfl, hfirst _ (by omega), ?_⟩
      exact List.forall_mem_singleton.2 (hlater _)
    · split
      · refine ⟨_, _, rfl, hfirst _ (by omega), ?_⟩
        exact List.forall_mem_cons.2 ⟨hlater _, List.forall_mem_singleton.2 (hlater _)⟩
      · refine ⟨_, _, rfl, hfirst _ (by omega), ?_⟩
        exact List.forall_mem_cons.2 ⟨hlater _,
          List.forall_mem_cons.2 ⟨hlater _, List.forall_mem_singleton.2 (hlater _)⟩⟩

/-- After some bytes comes a character or the end, so there is a boundary. -/
theorem isBoundary_append (before : List UInt8) (cs : List Char) :
    isBoundary (before ++ utf8 cs) before.length = true := by
  have hnext : (before ++ utf8 cs)[before.length]? = (utf8 cs)[0]? := by
    rw [List.getElem?_append_right (Nat.le_refl _), Nat.sub_self]
  rw [isBoundary, hnext, Bool.or_eq_true]
  right
  cases cs with
  | nil => simp
  | cons c cs =>
    obtain ⟨b, bs, hc, hb, -⟩ := exists_utf8EncodeChar c
    rw [utf8_cons, hc]
    simp [hb]

/-- There is no boundary within a character. -/
theorem isBoundary_within {c : Char} (hpos : 0 < n) (h : n < c.utf8Size) :
    isBoundary (utf8 (c :: cs)) n = false := by
  obtain ⟨b, bs, hc, -, hbs⟩ := exists_utf8EncodeChar c
  have hlen : n < (String.utf8EncodeChar c).length := by rwa [String.length_utf8EncodeChar]
  obtain ⟨m, rfl⟩ : ∃ m, n = m + 1 := ⟨n - 1, by omega⟩
  rw [hc, List.length_cons, Nat.add_lt_add_iff_right] at hlen
  have hnext : (utf8 (c :: cs))[m + 1]? = some bs[m] := by
    rw [utf8_cons, hc, List.cons_append, List.getElem?_cons_succ, List.getElem?_append_left hlen,
      List.getElem?_eq_getElem hlen]
  simp [isBoundary, hnext, hbs _ (List.getElem_mem hlen)]

/-- A boundary past a character is one of what comes after it. -/
theorem isBoundary_past {c : Char} (hn : c.utf8Size ≤ n)
    (h : isBoundary (utf8 (c :: cs)) n = true) : isBoundary (utf8 cs) (n - c.utf8Size) = true := by
  have hlen : (String.utf8EncodeChar c).length = c.utf8Size := String.length_utf8EncodeChar c
  have hnext : (utf8 (c :: cs))[n]? = (utf8 cs)[n - c.utf8Size]? := by
    rw [utf8_cons, List.getElem?_append_right (hlen ▸ hn), hlen]
  rw [isBoundary, hnext, utf8_cons, List.length_append, hlen] at h
  rw [isBoundary, Bool.or_eq_true]
  have hpos : 0 < c.utf8Size := c.utf8Size_pos
  rw [Bool.or_eq_true, decide_eq_true_eq] at h
  rcases h with h | h
  · omega
  · right
    cases hb : (utf8 cs)[n - c.utf8Size]? with
    | some b => simpa [hb] using h
    | none =>
      rw [hb] at h
      simp only [decide_eq_true_eq] at h ⊢
      omega

theorem isBoundary_utf8_iff : isBoundary (utf8 cs) n = true ↔
    ∃ kept rest, cs = kept ++ rest ∧ String.utf8Len kept = n := by
  constructor
  · intro h
    induction cs generalizing n with
    | nil =>
      rw [utf8_nil] at h
      have hzero : n = 0 := by simpa [isBoundary] using h
      exact ⟨[], [], rfl, hzero.symm⟩
    | cons c cs ih =>
      rcases Nat.eq_zero_or_pos n with rfl | hpos
      · exact ⟨[], c :: cs, rfl, rfl⟩
      rcases Nat.lt_or_ge n c.utf8Size with hlt | hge
      · rw [isBoundary_within hpos hlt] at h
        cases h
      · obtain ⟨kept, rest, rfl, hkept⟩ := ih (isBoundary_past hge h)
        refine ⟨c :: kept, rest, rfl, ?_⟩
        rw [String.utf8Len_cons, hkept]
        omega
  · rintro ⟨kept, rest, rfl, rfl⟩
    rw [utf8_append, ← length_utf8]
    exact isBoundary_append _ rest

/-! ## The last boundary that fits -/

theorem boundaryUpTo?_eq_some {k : Nat} (hk : isBoundary bytes k = true) (hle : k ≤ n)
    (hlast : ∀ j, k < j → j ≤ n → isBoundary bytes j = false) :
    boundaryUpTo? bytes n = some k := by
  induction n with
  | zero =>
    obtain rfl : k = 0 := Nat.le_zero.1 hle
    rw [boundaryUpTo?, if_pos hk]
  | succ n ih =>
    rw [boundaryUpTo?]
    rcases Nat.lt_or_eq_of_le hle with hlt | rfl
    · rw [if_neg (by rw [hlast (n + 1) hlt (Nat.le_refl _)]; exact Bool.false_ne_true)]
      exact ih (Nat.le_of_lt_succ hlt) fun j hj hjn => hlast j hj (Nat.le_succ_of_le hjn)
    · rw [if_pos hk]

/-- No start that fits is longer than the characters that fit. -/
theorem prefix_fitting {room : Nat} (hpre : kept <+: cs) (hkept : String.utf8Len kept ≤ room) :
    kept <+: fitting room cs := by
  induction cs generalizing kept room with
  | nil =>
    rw [List.prefix_nil.1 hpre]
    exact List.nil_prefix
  | cons c cs ih =>
    cases kept with
    | nil => exact List.nil_prefix
    | cons d kept =>
      obtain ⟨rfl, htail⟩ := List.cons_prefix_cons.1 hpre
      rw [String.utf8Len_cons] at hkept
      rw [fitting, if_pos (by omega)]
      exact List.cons_prefix_cons.2 ⟨rfl, ih htail (by omega)⟩

theorem fitting_isPrefixOf (room : Nat) (cs : List Char) : fitting room cs <+: cs := by
  induction cs generalizing room with
  | nil => exact List.prefix_refl _
  | cons c cs ih =>
    rw [fitting]
    split
    · exact List.cons_prefix_cons.2 ⟨rfl, ih _⟩
    · exact List.nil_prefix

theorem boundaryUpTo?_utf8 (room : Nat) (cs : List Char) :
    boundaryUpTo? (utf8 cs) room = some (String.utf8Len (fitting room cs)) := by
  obtain ⟨rest, hrest⟩ := fitting_isPrefixOf room cs
  apply boundaryUpTo?_eq_some
  · exact isBoundary_utf8_iff.2 ⟨_, rest, hrest.symm, rfl⟩
  · exact (fitting_spec room cs).1
  · intro j hj hroom
    rw [← Bool.not_eq_true]
    intro h
    obtain ⟨kept, rest, hcs, rfl⟩ := isBoundary_utf8_iff.1 h
    have hpre : kept <+: fitting room cs := prefix_fitting ⟨rest, hcs.symm⟩ hroom
    exact absurd (String.utf8Len_le_of_prefix hpre) (Nat.not_le.2 hj)

theorem before?_eq_some {text : String} (h : kept <+: text.toList) :
    before? text (String.utf8Len kept) = some (String.ofList kept) := by
  obtain ⟨rest, hrest⟩ := h
  have hboundary : isBoundary (utf8 text.toList) (String.utf8Len kept) = true :=
    isBoundary_utf8_iff.2 ⟨kept, rest, hrest.symm, rfl⟩
  have htake : (utf8 text.toList).take (String.utf8Len kept) = utf8 kept := by
    rw [← hrest, utf8_append, ← length_utf8, List.take_left]
  simp only [before?, if_pos hboundary, htake, fromUTF8?_utf8]

/-- Going back in the bytes comes to the same cut as counting the characters. -/
theorem cutBack?_eq (text : String) (room : Nat) :
    cutBack? text room = some (excerpt text room) := by
  unfold cutBack? excerpt
  split
  · rfl
  · rw [boundaryUpTo?_utf8]
    simp only [before?_eq_some (fitting_isPrefixOf room text.toList), Option.map_some]

/-! ## What an excerpt is -/

/-- The longest start of a text that fits into so many bytes. -/
structure IsLongestStart (text : String) (room : Nat) (kept : String) : Prop where
  start : ∃ rest, text = kept ++ rest
  fits : kept.utf8ByteSize ≤ room
  longest : ∀ kept' rest', text = kept' ++ rest' → kept'.utf8ByteSize ≤ room →
    ∃ more, kept = kept' ++ more

theorem fitting_isLongestStart (text : String) (room : Nat) :
    IsLongestStart text room (String.ofList (fitting room text.toList)) where
  start := by
    obtain ⟨rest, hrest⟩ := fitting_isPrefixOf room text.toList
    refine ⟨String.ofList rest, ?_⟩
    rw [← String.ofList_append, hrest, String.ofList_toList]
  fits := by
    rw [String.utf8ByteSize_ofList]
    exact (fitting_spec room text.toList).1
  longest := by
    intro kept' rest' htext hfits
    have hpre : kept'.toList <+: text.toList := ⟨rest'.toList, by rw [htext, String.toList_append]⟩
    rw [← String.utf8Len_toList] at hfits
    obtain ⟨more, hmore⟩ := prefix_fitting hpre hfits
    refine ⟨String.ofList more, ?_⟩
    rw [← hmore, String.ofList_append, String.ofList_toList]

theorem IsLongestStart.unique {text kept kept' : String} {room : Nat}
    (h : IsLongestStart text room kept) (h' : IsLongestStart text room kept') : kept = kept' := by
  obtain ⟨rest, hrest⟩ := h.start
  obtain ⟨rest', hrest'⟩ := h'.start
  obtain ⟨more, hmore⟩ := h.longest kept' rest' hrest' h'.fits
  obtain ⟨more', hmore'⟩ := h'.longest kept rest hrest h.fits
  have hpre : kept.toList <+: kept'.toList :=
    ⟨more'.toList, by rw [← String.toList_append, ← hmore']⟩
  have hpre' : kept'.toList <+: kept.toList :=
    ⟨more.toList, by rw [← String.toList_append, ← hmore]⟩
  exact String.toList_inj.1 (hpre.eq_of_length_le hpre'.length_le)

/-- The next character would have been one too many, and has four bytes at most. -/
theorem room_lt_fitting {text : String} {room : Nat} (h : room < text.utf8ByteSize) :
    room < String.utf8Len (fitting room text.toList) + 4 := by
  rcases (fitting_spec room text.toList).2 with hall | ⟨c, dropped, -, hmost⟩
  · rw [String.utf8Len_toList] at hall
    omega
  · have hc : c.utf8Size ≤ 4 := c.utf8Size_le_four
    omega

theorem excerpt_of_lt {text : String} {room : Nat} (h : room < text.utf8ByteSize) :
    excerpt text room = String.ofList (fitting room text.toList) ++ "..." :=
  if_neg (Nat.not_le.2 h)

/-- **An excerpt keeps the longest start that fits.** The search for the cut in the bytes comes to
an end within the text, and the cut is a boundary. A text that fits is its own excerpt. What is kept
of a longer one is the longest start of whole characters that fits, with three dots after it; at
most three bytes are left over. So a text equals its excerpt if it fits, or if three dots are all
that is not kept of it. -/
theorem excerpt_keeps_longest_start (text : String) (room : Nat) :
    cutBack? text room = some (excerpt text room) ∧
    (text.utf8ByteSize ≤ room → excerpt text room = text) ∧
    (room < text.utf8ByteSize → ∃ kept, IsLongestStart text room kept ∧
      excerpt text room = kept ++ "..." ∧ room < kept.utf8ByteSize + 4) ∧
    (excerpt text room = text ↔ text.utf8ByteSize ≤ room ∨
      ∃ kept, IsLongestStart text room kept ∧ text = kept ++ "...") ∧
    (excerpt text room).utf8ByteSize ≤ room + 3 := by
  have hlongest := fitting_isLongestStart text room
  refine ⟨cutBack?_eq text room, fun h => if_pos h, ?_, ?_, ?_⟩
  · intro h
    refine ⟨_, hlongest, excerpt_of_lt h, ?_⟩
    rw [String.utf8ByteSize_ofList]
    exact room_lt_fitting h
  · rcases Nat.lt_or_ge room text.utf8ByteSize with h | h
    · rw [excerpt_of_lt h, or_iff_right (Nat.not_le.2 h)]
      constructor
      · intro htext
        exact ⟨_, hlongest, htext.symm⟩
      · rintro ⟨kept, hkept, htext⟩
        rw [hlongest.unique hkept, ← htext]
    · exact ⟨fun _ => .inl h, fun _ => if_pos h⟩
  · rcases Nat.lt_or_ge room text.utf8ByteSize with h | h
    · rw [excerpt_of_lt h, String.utf8ByteSize_append]
      exact Nat.add_le_add_right hlongest.fits _
    · rw [show excerpt text room = text from if_pos h]
      omega

theorem excerpt_append_dots (kept : String) :
    excerpt (kept ++ "...") kept.utf8ByteSize = kept ++ "..." := by
  have hpre : kept.toList <+: fitting kept.utf8ByteSize (kept ++ "...").toList := by
    apply prefix_fitting
    · exact ⟨"...".toList, String.toList_append.symm⟩
    · rw [String.utf8Len_toList]
  obtain ⟨more, hmore⟩ := hpre
  have hfits := (fitting_spec kept.utf8ByteSize (kept ++ "...").toList).1
  rw [← hmore, String.utf8Len_append, String.utf8Len_toList] at hfits
  have hnone : more = [] := String.utf8Len_eq_zero.1 (by omega)
  have hlong : kept.utf8ByteSize < (kept ++ "...").utf8ByteSize := by
    rw [String.utf8ByteSize_append]
    exact Nat.lt_add_of_pos_right (by decide)
  rw [excerpt_of_lt hlong, ← hmore, hnone, List.append_nil, String.ofList_toList]

/-- As many letters as may be kept of a refusal. -/
def letters : String := String.ofList (List.replicate 512 'a')

/-- A text that does not fit may still be its own excerpt. -/
theorem letters_and_dots_own_excerpt :
    excerpt (letters ++ "...") 512 = letters ++ "..." ∧ 512 < (letters ++ "...").utf8ByteSize := by
  have hsize : letters.utf8ByteSize = 512 := by decide +kernel
  have hown := excerpt_append_dots letters
  rw [hsize] at hown
  refine ⟨hown, ?_⟩
  rw [String.utf8ByteSize_append, hsize]
  exact Nat.lt_add_of_pos_right (by decide)

end CredentialKeeper.Text
