import CredentialKeeper.Proofs.Json.Records
import CredentialKeeper.Proofs.Json.Writing

/-! # Records of texts

A sequence holds the record that an object would hold with the elements under the names of the
fields, in order (`RecordType.ofElements_iff`). So what a text says of a record is told by its
members alone, of which there is one list (`RecordType.Lists.unique`).

A record whose fields are all texts is then told field by field: each has the text that is written
for it, or that of the blank record if there is none and none is needed
(`RecordType.Texts.ofMembers_iff`). -/

namespace CredentialKeeper.Json

variable {ρ : Type} {t : RecordType ρ} {record record' : ρ} {ms : List (String × List Char)}
  {es : List (List Char)} {text : String}

/-! ## Values by their names -/

theorem valuesOf_of_not_mem {key : String} (h : key ∉ ms.map Prod.fst) : valuesOf ms key = [] := by
  rw [valuesOf, List.filter_eq_nil_iff.2, List.map_nil]
  intro m hm hkey
  exact h (of_decide_eq_true hkey ▸ List.mem_map_of_mem hm)

/-- Among members of different names a member has the only value of its name. -/
theorem valuesOf_of_mem {key : String} {v : List Char} (hnames : (ms.map Prod.fst).Nodup)
    (h : (key, v) ∈ ms) : valuesOf ms key = [v] := by
  induction ms with
  | nil => cases h
  | cons m ms ih =>
    obtain ⟨name, w⟩ := m
    rw [List.map_cons, List.nodup_cons] at hnames
    rcases List.mem_cons.1 h with heq | hmem
    · cases heq
      rw [valuesOf_cons_self, valuesOf_of_not_mem hnames.1]
    · have hne : name ≠ key := by
        rintro rfl
        exact hnames.1 (List.mem_map.2 ⟨_, hmem, rfl⟩)
      rw [valuesOf_cons_of_ne hne, ih hnames.2 hmem]

/-! ## Sequences as objects -/

section
variable {f : Field ρ} {fields : List (Field ρ)} {p : ρ → ρ} {puts : List (ρ → ρ)}

theorem Field.settled_congr {ms' : List (String × List Char)}
    (h : valuesOf ms f.name = valuesOf ms' f.name) : f.Settled ms p ↔ f.Settled ms' p := by
  rw [Settled, Settled, h]

theorem Field.settled_nil_iff : f.Settled [] p ↔ f.isRequired = false ∧ p = id := by
  have hnone : valuesOf [] f.name = [] := rfl
  constructor
  · rintro ⟨hgiven, hneed⟩
    rw [hnone] at hgiven
    cases hgiven
    exact ⟨Bool.eq_false_iff.2 fun hreq => hneed hreq hnone, rfl⟩
  · rintro ⟨hopt, rfl⟩
    exact ⟨hnone ▸ .absent, fun hreq => by rw [hopt] at hreq; cases hreq⟩

theorem valuesOf_zip_of_not_mem {names : List String} {name : String} (h : name ∉ names)
    (es : List (List Char)) : valuesOf (names.zip es) name = [] := by
  refine valuesOf_of_not_mem fun hmem => h ?_
  obtain ⟨m, hm, rfl⟩ := List.mem_map.1 hmem
  exact (List.of_mem_zip hm).1

/-- The first element is the value of the first field, and no other one has it. -/
theorem Field.settled_zip_cons_iff {names : List String} (h : f.name ∉ names) (v : List Char) :
    f.Settled ((f.name :: names).zip (v :: es)) p ↔ f.Means v p := by
  have hvalue : valuesOf ((f.name :: names).zip (v :: es)) f.name = [v] := by
    rw [List.zip_cons_cons, valuesOf_cons_self, valuesOf_zip_of_not_mem h]
  rw [Settled, hvalue]
  constructor
  · rintro ⟨hgiven, -⟩
    cases hgiven with
    | value hv => exact hv
  · exact fun hv => ⟨.value hv, fun _ => List.cons_ne_nil v []⟩

/-- The other fields do not see the first element. -/
theorem forall₂_settled_zip_cons_iff {name : String} {names : List String}
    (h : name ∉ fields.map Field.name) (v : List Char) :
    List.Forall₂ (fun f p => f.Settled ((name :: names).zip (v :: es)) p) fields puts ↔
      List.Forall₂ (fun f p => f.Settled (names.zip es) p) fields puts := by
  induction fields generalizing puts with
  | nil => simp only [List.forall₂_nil_left_iff]
  | cons f fields ih =>
    obtain ⟨hne, hrest⟩ := not_or.1 fun hmem => h (List.mem_cons.2 hmem)
    have hsame :
        valuesOf ((name :: names).zip (v :: es)) f.name = valuesOf (names.zip es) f.name := by
      rw [List.zip_cons_cons, valuesOf_cons_of_ne hne]
    simp only [List.forall₂_cons_left_iff, ih hrest, Field.settled_congr hsame]

theorem fillsInOrder_nil_iff : FillsInOrder fields record [] record' ↔
    ∃ puts, List.Forall₂ (fun f p => f.Settled [] p) fields puts ∧
      record' = puts.foldl (fun record p => p record) record := by
  constructor
  · rintro ⟨hopt⟩
    refine ⟨fields.map fun _ => id, ?_, ?_⟩
    · rw [List.forall₂_map_right_iff, List.forall₂_same]
      exact fun f hf => Field.settled_nil_iff.2 ⟨hopt f hf, rfl⟩
    · clear hopt
      induction fields with
      | nil => rfl
      | cons f fields ih => exact ih
  · rintro ⟨puts, hputs, rfl⟩
    induction hputs with
    | nil => exact .done nofun
    | cons hp _ ih =>
      obtain ⟨hopt, rfl⟩ := Field.settled_nil_iff.1 hp
      exact ih.absent hopt

/-- By induction on the fields; the names are different, so that each element has its own field. -/
theorem fillsInOrder_iff (hnames : (fields.map Field.name).Nodup) :
    FillsInOrder fields record es record' ↔ es.length ≤ fields.length ∧
      ∃ puts, List.Forall₂ (fun f p => f.Settled ((fields.map Field.name).zip es) p) fields puts ∧
        record' = puts.foldl (fun record p => p record) record := by
  induction fields generalizing es record with
  | nil =>
    cases es with
    | nil => rw [fillsInOrder_nil_iff, List.zip_nil_right]; simp
    | cons v es =>
      constructor
      · intro h
        cases h
      · rintro ⟨hlength, -⟩
        cases hlength
  | cons f fields ih =>
    rw [List.map_cons, List.nodup_cons] at hnames
    cases es with
    | nil => rw [fillsInOrder_nil_iff, List.zip_nil_right]; simp
    | cons v es =>
      have hfield : FillsInOrder (f :: fields) record (v :: es) record' ↔
          ∃ put, f.Means v put ∧ FillsInOrder fields (put record) es record' := by
        constructor
        · rintro (_ | ⟨hv, h⟩)
          exact ⟨_, hv, h⟩
        · rintro ⟨put, hv, h⟩
          exact .field hv h
      rw [hfield, List.map_cons]
      simp only [List.forall₂_cons_left_iff, Field.settled_zip_cons_iff hnames.1,
        forall₂_settled_zip_cons_iff hnames.1, ih hnames.2, List.length_cons,
        Nat.add_le_add_iff_right]
      constructor
      · rintro ⟨put, hv, hlength, puts, hputs, hrecord⟩
        exact ⟨hlength, put :: puts, ⟨put, puts, hv, hputs, rfl⟩, hrecord⟩
      · rintro ⟨hlength, _, ⟨put, puts, hv, hputs, rfl⟩, hrecord⟩
        exact ⟨put, hv, hlength, puts, hputs, hrecord⟩

end

/-- The elements of a sequence under the names of the fields, in order. -/
def RecordType.named (t : RecordType ρ) (es : List (List Char)) : List (String × List Char) :=
  (t.fields.map Field.name).zip es

theorem RecordType.ofElements_iff (hsep : t.Separate) :
    t.OfElements es record ↔ es.length ≤ t.fields.length ∧ t.OfMembers (t.named es) record :=
  fillsInOrder_iff hsep.nodup

/-- A text lists the members of an object, or elements that have the names of fields. -/
def RecordType.Lists (t : RecordType ρ) (text : String) (ms : List (String × List Char)) : Prop :=
  Enclosed Member .object text.toList ms ∨
    ∃ es, Enclosed Element .list text.toList es ∧ es.length ≤ t.fields.length ∧ ms = t.named es

theorem RecordType.Lists.unique {ms' : List (String × List Char)} (h : t.Lists text ms)
    (h' : t.Lists text ms') : ms = ms' := by
  rcases h with h | ⟨es, h, -, rfl⟩ <;> rcases h' with h' | ⟨es', h', -, rfl⟩
  · exact h.unique member_distinct h'
  · exact absurd h' h.not_object_and_list
  · exact absurd h h'.not_object_and_list
  · rw [h.unique element_distinct h']

theorem RecordType.read_iff_lists (ht : t.Regular) (hsep : t.Separate) :
    t.read text = .ok record ↔ ∃ ms, t.Lists text ms ∧ t.OfMembers ms record := by
  rw [read_eq_ok_iff ht hsep]
  constructor
  · rintro (⟨ms, htext, hms⟩ | ⟨es, htext, hes⟩)
    · exact ⟨ms, .inl htext, hms⟩
    · obtain ⟨hlength, hms⟩ := (ofElements_iff hsep).1 hes
      exact ⟨_, .inr ⟨es, htext, hlength, rfl⟩, hms⟩
  · rintro ⟨ms, htext | ⟨es, htext, hlength, rfl⟩, hms⟩
    · exact .inl ⟨ms, htext, hms⟩
    · exact .inr ⟨es, htext, (ofElements_iff hsep).2 ⟨hlength, hms⟩⟩

/-! ## Fields of text -/

/-- A field that holds a text, with its place in the record. -/
structure TextField (ρ : Type) where
  name : String
  isRequired : Bool
  get : ρ → String
  put : String → ρ → ρ

namespace TextField

variable {f : TextField ρ} {p : ρ → ρ} {word : Option String}

def field (f : TextField ρ) : Field ρ := .reading readString f.name f.isRequired f.put

/-- The text that members have for a field, which may be wanting if none is needed. -/
def Given (f : TextField ρ) (ms : List (String × List Char)) : Option String → Prop
  | none => f.isRequired = false ∧ valuesOf ms f.name = []
  | some s => ∃ v, valuesOf ms f.name = [v] ∧ TextValue v s

def putOption (f : TextField ρ) : Option String → ρ → ρ
  | none => id
  | some s => f.put s

theorem settled_iff :
    f.field.Settled ms p ↔ ∃ word, f.Given ms word ∧ p = f.putOption word := by
  obtain ⟨name, isRequired, get, put⟩ := f
  cases isRequired with
  | true =>
    rw [field, Field.required_settled_iff reads_string]
    constructor
    · rintro ⟨v, s, hv, hs, rfl⟩
      exact ⟨some s, ⟨v, hv, hs⟩, rfl⟩
    · rintro ⟨_ | s, hgiven, rfl⟩
      · cases hgiven.1
      · obtain ⟨v, hv, hs⟩ := hgiven
        exact ⟨v, s, hv, hs, rfl⟩
  | false =>
    rw [field, Field.optional_settled_iff reads_string]
    constructor
    · rintro (⟨hnone, rfl⟩ | ⟨v, s, hv, hs, rfl⟩)
      · exact ⟨none, ⟨rfl, hnone⟩, rfl⟩
      · exact ⟨some s, ⟨v, hv, hs⟩, rfl⟩
    · rintro ⟨_ | s, hgiven, rfl⟩
      · exact .inl ⟨hgiven.2, rfl⟩
      · obtain ⟨v, hv, hs⟩ := hgiven
        exact .inr ⟨v, s, hv, hs, rfl⟩

end TextField

/-- A record of texts: the fields have names and places of their own, and there is nothing else in
the record. -/
structure RecordType.Texts (t : RecordType ρ) (fs : List (TextField ρ)) : Prop where
  fields : t.fields = fs.map TextField.field
  names : (fs.map TextField.name).Nodup
  get_put {f g : TextField ρ} (hf : f ∈ fs) (hg : g ∈ fs) (s : String) (record : ρ) :
    f.get (g.put s record) = if f.name = g.name then s else f.get record
  ext {record record' : ρ} (h : ∀ f ∈ fs, f.get record = f.get record') : record = record'

namespace RecordType.Texts

variable {fs : List (TextField ρ)} {f g : TextField ρ}

theorem regular (T : t.Texts fs) : t.Regular := by
  intro f hf
  rw [T.fields] at hf
  obtain ⟨g, -, rfl⟩ := List.mem_map.1 hf
  exact Field.reading_reads reads_string ..

theorem put_commute (T : t.Texts fs) (hf : f ∈ fs) (hg : g ∈ fs) (hne : f.name ≠ g.name)
    (s s' : String) : Function.Commute (f.put s) (g.put s') := by
  refine fun record => T.ext fun h hh => ?_
  rw [T.get_put hh hf, T.get_put hh hg, T.get_put hh hg, T.get_put hh hf]
  split
  next hname => rw [if_neg fun heq => hne (hname.symm.trans heq)]
  next => rfl

theorem separate (T : t.Texts fs) : t.Separate := by
  have hnames := List.pairwise_map.1 T.names
  rw [Separate, T.fields, List.pairwise_map]
  refine hnames.imp_of_mem ?_
  intro f g hf hg hne
  exact Field.reading_apart reads_string reads_string hne fun s s' => T.put_commute hf hg hne s s'

theorem get_putOption (T : t.Texts fs) (hf : f ∈ fs) (hg : g ∈ fs) (word : Option String)
    (record : ρ) :
    f.get (g.putOption word record) = if f.name = g.name then word.getD (f.get record)
      else f.get record := by
  cases word with
  | none => exact (ite_self _).symm
  | some s => exact T.get_put hf hg s record

/-- What the fields of some names hold after texts have been put into others. -/
theorem get_foldl_of_ne (T : t.Texts fs) {words : List (TextField ρ × Option String)} (hf : f ∈ fs)
    (hwords : ∀ w ∈ words, w.1 ∈ fs ∧ f.name ≠ w.1.name) (record : ρ) :
    f.get (words.foldl (fun record w => w.1.putOption w.2 record) record) = f.get record := by
  induction words generalizing record with
  | nil => rfl
  | cons w words ih =>
    obtain ⟨hw, hne⟩ := hwords w List.mem_cons_self
    rw [List.foldl_cons, ih fun w' hw' => hwords w' (List.mem_cons_of_mem _ hw'),
      T.get_putOption hf hw, if_neg hne]

/-- What a field holds after texts have been put into some fields, and into it once. -/
theorem get_foldl (T : t.Texts fs) {words : List (TextField ρ × Option String)}
    (hwords : ∀ w ∈ words, w.1 ∈ fs) (hnames : (words.map (·.1.name)).Nodup)
    {w : TextField ρ × Option String} (hw : w ∈ words) (record : ρ) :
    w.1.get (words.foldl (fun record w => w.1.putOption w.2 record) record) =
      w.2.getD (w.1.get record) := by
  induction words generalizing record with
  | nil => cases hw
  | cons u words ih =>
    rw [List.map_cons, List.nodup_cons] at hnames
    have hrest := fun w' hw' => hwords w' (List.mem_cons_of_mem u hw')
    rw [List.foldl_cons]
    rcases List.mem_cons.1 hw with rfl | hmem
    · have hne : ∀ u ∈ words, u.1 ∈ fs ∧ w.1.name ≠ u.1.name := by
        intro u hu
        refine ⟨hrest u hu, ?_⟩
        intro heq
        exact hnames.1 (heq ▸ List.mem_map_of_mem hu)
      have hself := hwords w List.mem_cons_self
      rw [T.get_foldl_of_ne hself hne, T.get_putOption hself hself, if_pos rfl]
    · have hne : w.1.name ≠ u.1.name := fun heq => hnames.1 (heq ▸ List.mem_map_of_mem hmem)
      rw [ih hrest hnames.2 hmem,
        T.get_putOption (hrest w hmem) (hwords u List.mem_cons_self), if_neg hne]

theorem forall₂_settled_iff {puts : List (ρ → ρ)} :
    List.Forall₂ (fun f p => f.Settled ms p) (fs.map TextField.field) puts ↔
      ∃ words : List (TextField ρ × Option String), words.map Prod.fst = fs ∧
        (∀ w ∈ words, w.1.Given ms w.2) ∧ puts = words.map fun w => w.1.putOption w.2 := by
  rw [List.forall₂_map_left_iff]
  simp only [TextField.settled_iff]
  constructor
  · intro h
    induction h with
    | nil => exact ⟨[], rfl, nofun, rfl⟩
    | @cons f p fs puts hp _ ih =>
      obtain ⟨word, hword, rfl⟩ := hp
      obtain ⟨words, rfl, hwords, rfl⟩ := ih
      exact ⟨(f, word) :: words, rfl, List.forall_mem_cons.2 ⟨hword, hwords⟩, rfl⟩
  · rintro ⟨words, rfl, hwords, rfl⟩
    rw [List.forall₂_map_left_iff, List.forall₂_map_right_iff, List.forall₂_same]
    exact fun w hw => ⟨w.2, hwords w hw, rfl⟩

/-- Members make a record of texts field by field. -/
theorem ofMembers_iff (T : t.Texts fs) : t.OfMembers ms record ↔
    ∀ f ∈ fs, ∃ word, f.Given ms word ∧ f.get record = word.getD (f.get t.blank) := by
  rw [OfMembers, T.fields]
  simp only [forall₂_settled_iff]
  constructor
  · rintro ⟨_, ⟨words, rfl, hgiven, rfl⟩, rfl⟩ f hf
    obtain ⟨w, hw, rfl⟩ := List.mem_map.1 hf
    refine ⟨w.2, hgiven w hw, ?_⟩
    have hnames := T.names
    rw [List.map_map] at hnames
    rw [List.foldl_map]
    exact T.get_foldl (fun w hw => List.mem_map_of_mem hw) hnames hw t.blank
  · intro h
    choose! word hgiven hget using h
    refine ⟨_, ⟨fs.map fun f => (f, word f), ?_, ?_, rfl⟩, ?_⟩
    · rw [List.map_map]
      exact List.map_id fs
    · exact List.forall_mem_map.2 hgiven
    · refine T.ext fun f hf => ?_
      have hnames : ((fs.map fun f => (f, word f)).map (·.1.name)).Nodup := by
        rw [List.map_map]
        exact T.names
      have hself := T.get_foldl (List.forall_mem_map.2 fun f hf => hf) hnames
        (List.mem_map_of_mem hf) t.blank
      rw [hget f hf, List.foldl_map]
      exact hself.symm

/-- A text is read as a record of texts just if it lists members that make the record. -/
theorem read_eq_ok_iff (T : t.Texts fs) : t.read text = .ok record ↔ ∃ ms, t.Lists text ms ∧
    ∀ f ∈ fs, ∃ word, f.Given ms word ∧ f.get record = word.getD (f.get t.blank) := by
  rw [read_iff_lists T.regular T.separate]
  simp only [T.ofMembers_iff]

/-- What is written of a record of texts is read as the record. -/
theorem read_writeObject (T : t.Texts fs) (record : ρ) :
    t.read (writeObject (fs.map fun f => (f.name, .text (f.get record)))) = .ok record := by
  have hwritten : ∀ e ∈ fs.map fun f => (f.name, Scalar.text (f.get record)),
      Written .value e.2.write :=
    List.forall_mem_map.2 fun f _ => reads_string.value (textValue_writeText (f.get record))
  refine T.read_eq_ok_iff.2 ⟨_, .inl (enclosed_writeObject hwritten), ?_⟩
  intro f hf
  refine ⟨some (f.get record), ⟨writeText (f.get record), ?_, textValue_writeText _⟩, rfl⟩
  refine valuesOf_of_mem ?_ ?_
  · rw [entryValues, List.map_map, List.map_map]
    exact T.names
  · rw [entryValues, List.map_map]
    exact List.mem_map_of_mem hf

end RecordType.Texts

end CredentialKeeper.Json
