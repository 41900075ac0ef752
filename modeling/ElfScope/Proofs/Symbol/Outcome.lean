import ElfScope.Proofs.Symbol

/-!
# What becomes of the symbols

`Extraction` lists the outcomes that reading the symbols of a file can have, each with the condition
under which it is the one: why they have no place in the file (`Misplaced`), the first entry whose
name cannot be read, or all entries (`EntryReads`). Every condition rules out the ones in front of
it, so the relation also settles which of several defects is reported. Reading decides by it alone
(`value_read_eq_iff`).
-/

namespace ElfScope

/-! ## Traversals that may fail -/

section Traversal

variable {ε α : Type} {outcomes : List (Except ε α)}

/-- An error in front of all outcomes is the one that counts. -/
theorem mapM_id_error_cons (error : ε) (outcomes : List (Except ε α)) :
    (Except.error error :: outcomes).mapM id = .error error := by
  rw [List.mapM_cons]
  rfl

/-- A value in front of all outcomes is the first of the values. -/
theorem mapM_id_ok_cons (value : α) (outcomes : List (Except ε α)) :
    (Except.ok value :: outcomes).mapM id = (outcomes.mapM id).map (value :: ·) := by
  rw [List.mapM_cons]
  cases outcomes.mapM id <;> rfl

/-- A traversal succeeds where every step does. -/
theorem mapM_id_eq_ok_iff {values : List α} :
    outcomes.mapM id = .ok values ↔ outcomes = values.map .ok := by
  constructor
  · intro h
    induction outcomes generalizing values with
    | nil =>
      cases h
      rfl
    | cons outcome rest ih =>
      cases outcome with
      | error error =>
        rw [mapM_id_error_cons] at h
        cases h
      | ok value =>
        rw [mapM_id_ok_cons] at h
        cases hrest : rest.mapM id with
        | error error =>
          rw [hrest] at h
          cases h
        | ok others =>
          rw [hrest] at h
          cases h
          rw [List.map_cons, ih hrest]
  · rintro rfl
    induction values with
    | nil => rfl
    | cons value rest ih =>
      rw [List.map_cons, mapM_id_ok_cons, ih]
      rfl

/-- A traversal fails with the first step that does. -/
theorem mapM_id_eq_error_iff {error : ε} :
    outcomes.mapM id = .error error ↔
      ∃ position : Nat, outcomes[position]? = some (Except.error error) ∧
        ∀ earlier, earlier < position → ∃ value, outcomes[earlier]? = some (Except.ok value) := by
  -- Along the outcomes: an error at the head is the first one, a value moves it back by one.
  constructor
  · intro h
    induction outcomes with
    | nil => cases h
    | cons outcome rest ih =>
      cases outcome with
      | error first =>
        rw [mapM_id_error_cons] at h
        cases h
        exact ⟨0, rfl, fun earlier hlt => absurd hlt (Nat.not_lt_zero earlier)⟩
      | ok value =>
        rw [mapM_id_ok_cons] at h
        have hrest : rest.mapM id = .error error := by
          cases hrest : rest.mapM id with
          | error other =>
            rw [hrest] at h
            cases h
            rfl
          | ok others =>
            rw [hrest] at h
            cases h
        obtain ⟨position, herror, hbefore⟩ := ih hrest
        refine ⟨position + 1, herror, fun earlier hlt => ?_⟩
        cases earlier with
        | zero => exact ⟨value, rfl⟩
        | succ earlier => exact hbefore earlier (by omega)
  · rintro ⟨position, herror, hbefore⟩
    induction outcomes generalizing position with
    | nil => cases herror
    | cons outcome rest ih =>
      cases position with
      | zero =>
        cases herror
        exact mapM_id_error_cons error rest
      | succ position =>
        obtain ⟨value, hvalue⟩ := hbefore 0 (Nat.succ_pos position)
        cases hvalue
        have hrest : rest.mapM id = .error error :=
          ih position herror fun earlier hlt => hbefore (earlier + 1) (by omega)
        rw [mapM_id_ok_cons, hrest]
        rfl

/-- A traversal of changed values is the changed traversal. -/
theorem mapM_id_map {β : Type} (f : α → β) (outcomes : List (Except ε α)) :
    (outcomes.map (Except.map f)).mapM id = (outcomes.mapM id).map (List.map f) := by
  induction outcomes with
  | nil => rfl
  | cons outcome rest ih =>
    cases outcome with
    | error error =>
      rw [List.map_cons, Except.map, mapM_id_error_cons, mapM_id_error_cons]
      rfl
    | ok value =>
      rw [List.map_cons, Except.map, mapM_id_ok_cons, mapM_id_ok_cons, ih]
      cases rest.mapM id <;> rfl

end Traversal

/-! ## One entry -/

namespace SymbolTable

variable {data : Bytes} {order : ByteOrder} {mode : LabelMode} {sections : List SectionHeader}
  {table : Nat} {holder strings : SectionHeader} {index : Nat}

/-- Where the name of entry `index` starts in the strings. -/
def nameOffset (data : Bytes) (order : ByteOrder) (holder : SectionHeader) (index : Nat) : UInt32 :=
  .ofNat (order.numberAt (entryBytes data holder index) 4 0)

/-- What reading entry `index` of the symbol table `holder` gives, with the names in `strings`.

The name starts at the declared end of the strings or behind it (`nameOutOfRange`). Or it starts
inside the strings, and no zero byte follows up to their declared end (`unterminatedName`). Or it
ends in front of the first zero byte, and the numbers are those of the entry (`named`). -/
inductive EntryReads (data : Bytes) (order : ByteOrder) (mode : LabelMode)
    (holder strings : SectionHeader) (index : Nat) : Except SymbolError Symbol → Prop where
  | nameOutOfRange
      (hstart : strings.size.toNat ≤ (nameOffset data order holder index).toNat) :
      EntryReads data order mode holder strings index
        (.error (.nameOutOfRange index (nameOffset data order holder index)))
  | unterminatedName
      (hstart : (nameOffset data order holder index).toNat < strings.size.toNat)
      (hnone : ∀ position, (nameOffset data order holder index).toNat ≤ position →
        (strings.body data)[position]? ≠ some 0) :
      EntryReads data order mode holder strings index
        (.error (.unterminatedName index (nameOffset data order holder index)))
  | named {stop : Nat}
      (hstop : (strings.body data).EndsAt (nameOffset data order holder index).toNat stop) :
      EntryReads data order mode holder strings index
        (.ok (Symbol.ofBytes order mode index
          (Utf8.decodeLossy
            ((strings.body data).extract (nameOffset data order holder index).toNat stop))
          (entryBytes data holder index)))

/-- An entry of a table inside the file is read in one way. -/
theorem entryReads_decode (hholder : holder.Fits data.size) (hstrings : strings.Fits data.size)
    (hindex : index < holder.size.toNat / 24) :
    EntryReads data order mode holder strings index
      (Symbol.decode order (.ofBytes (strings.body data)) mode index
        (entryBytes data holder index)) := by
  have hsize : 24 ≤ (entryBytes data holder index).size :=
    Nat.le_of_eq (size_entryBytes hholder hindex).symm
  have hbody : (strings.body data).size = strings.size.toNat := strings.size_body hstrings
  rw [Symbol.decode_eq_map hsize, StringTable.text]
  change EntryReads data order mode holder strings index
    (((((StringTable.ofBytes (strings.body data)).get (nameOffset data order holder index)).map
      Utf8.decodeLossy).mapError (Symbol.nameError index (nameOffset data order holder index))).map
        fun name => Symbol.ofBytes order mode index name (entryBytes data holder index))
  obtain ⟨hstart, hget⟩ | ⟨hstart, hnone, hget⟩ | ⟨stop, hstop, hget⟩ :=
    StringTable.get_cases (strings.body data) (nameOffset data order holder index)
  · rw [hget]
    exact .nameOutOfRange (by omega)
  · rw [hget]
    exact .unterminatedName (by omega) hnone
  · rw [hget]
    exact .named hstop

/-- An entry is read in one of the ways only. -/
theorem EntryReads.unique (hstrings : strings.Fits data.size)
    {outcome other : Except SymbolError Symbol}
    (h : EntryReads data order mode holder strings index outcome)
    (hother : EntryReads data order mode holder strings index other) : outcome = other := by
  have hbody : (strings.body data).size = strings.size.toNat := strings.size_body hstrings
  -- A string that ends, ends inside the strings.
  have hin {offset stop : Nat} (hstop : (strings.body data).EndsAt offset stop) :
      offset < strings.size.toNat := by
    have hlt : stop < (strings.body data).size := (Array.getElem?_eq_some_iff.1 hstop.zero).1
    have hle := hstop.le
    omega
  cases h with
  | nameOutOfRange hstart =>
    cases hother with
    | nameOutOfRange => rfl
    | unterminatedName hin => omega
    | named hstop =>
      have hlt := hin hstop
      omega
  | unterminatedName hstart hnone =>
    cases hother with
    | nameOutOfRange => omega
    | unterminatedName => rfl
    | named hstop => exact absurd hstop.zero (hnone _ hstop.le)
  | named hstop =>
    cases hother with
    | nameOutOfRange =>
      have hlt := hin hstop
      omega
    | unterminatedName _ hnone => exact absurd hstop.zero (hnone _ hstop.le)
    | named hother => rw [hstop.unique hother]

/-- What reading an entry gives is settled by its bytes and the strings. -/
theorem decode_eq_iff_entryReads (hholder : holder.Fits data.size)
    (hstrings : strings.Fits data.size) (hindex : index < holder.size.toNat / 24)
    {outcome : Except SymbolError Symbol} :
    Symbol.decode order (.ofBytes (strings.body data)) mode index (entryBytes data holder index)
      = outcome ↔ EntryReads data order mode holder strings index outcome := by
  constructor
  · rintro rfl
    exact entryReads_decode hholder hstrings hindex
  · intro h
    exact (entryReads_decode hholder hstrings hindex).unique hstrings h

/-! ## Entry after entry -/

/-- Entries are read one after the other, up to the first that cannot be read. -/
theorem value_readEntries {names : StringTable} (entries : List Bytes) (first : Nat) :
    (readEntries order names mode first entries).value
      = (entries.mapIdx fun position entry =>
          Symbol.decode order names mode (first + position) entry).mapM id := by
  induction entries generalizing first with
  | nil => rfl
  | cons entry rest ih =>
    -- The rest is numbered from the next position on.
    have hrest := ih (first + 1)
    simp only [Nat.add_assoc, Nat.add_comm 1] at hrest
    rw [List.mapIdx_cons, readEntries, Nat.add_zero]
    cases Symbol.decode order names mode first entry with
    | error error => rw [mapM_id_error_cons, Traced.value_pure]
    | ok symbol =>
      rw [mapM_id_ok_cons, Traced.value_bind, Traced.value_map, hrest]

/-- What reading the entries of the symbol table `holder` gives, one by one. -/
def outcomes (data : Bytes) (order : ByteOrder) (mode : LabelMode)
    (holder strings : SectionHeader) : List (Except SymbolError Symbol) :=
  (List.range (holder.size.toNat / 24)).map fun index =>
    Symbol.decode order (.ofBytes (strings.body data)) mode index (entryBytes data holder index)

/-- There are as many outcomes as entries in the table. -/
@[simp]
theorem length_outcomes :
    (outcomes data order mode holder strings).length = holder.size.toNat / 24 := by
  simp [outcomes]

/-- The outcomes are what reading the records of the table gives. -/
theorem mapIdx_decode_records :
    (Bytes.records 24 (holder.size.toNat / 24) (holder.body data)).mapIdx (fun position entry =>
        Symbol.decode order (.ofBytes (strings.body data)) mode (0 + position) entry)
      = outcomes data order mode holder strings := by
  rw [records_body, outcomes]
  apply List.ext_getElem?
  intro index
  by_cases hlt : index < holder.size.toNat / 24 <;> simp [hlt]

/-- The entries of a symbol table inside the file are read in the order of the table. -/
theorem value_read_of_placed (h : Placed data.size sections table holder strings) :
    (read data order sections mode).value = (outcomes data order mode holder strings).mapM id := by
  rw [value_read, locate_eq_ok_iff.2 ⟨table, holder, strings, h, rfl⟩]
  simp only [source, Symbol.recordSize]
  rw [value_readEntries, mapIdx_decode_records]

/-- The outcome at an index is that of the entry there. -/
theorem getElem?_outcomes_iff (h : Placed data.size sections table holder strings)
    {outcome : Except SymbolError Symbol} :
    (outcomes data order mode holder strings)[index]? = some outcome
      ↔ index < holder.size.toNat / 24 ∧
          EntryReads data order mode holder strings index outcome := by
  by_cases hlt : index < holder.size.toNat / 24
  · rw [← decode_eq_iff_entryReads h.holder_fits h.strings_fits hlt]
    simp [outcomes, hlt]
  · simp [outcomes, hlt]

/-- The symbols are all entries of the table, if all of them can be read. -/
theorem value_read_eq_ok_iff (h : Placed data.size sections table holder strings)
    {found : List Symbol} :
    (read data order sections mode).value = .ok found ↔
      found.length = holder.size.toNat / 24 ∧ ∀ index symbol, found[index]? = some symbol →
        EntryReads data order mode holder strings index (.ok symbol) := by
  rw [value_read_of_placed h, mapM_id_eq_ok_iff]
  constructor
  · intro houtcomes
    refine ⟨by simpa using (congrArg List.length houtcomes).symm, fun index symbol hsymbol => ?_⟩
    refine ((getElem?_outcomes_iff h).1 ?_).2
    rw [houtcomes]
    simp [hsymbol]
  · rintro ⟨hlength, hentries⟩
    apply List.ext_getElem?
    intro index
    by_cases hlt : index < found.length
    · have hsymbol : found[index]? = some found[index] := List.getElem?_eq_getElem hlt
      rw [(getElem?_outcomes_iff h).2 ⟨hlength ▸ hlt, hentries index _ hsymbol⟩]
      simp [hsymbol]
    · rw [List.getElem?_eq_none (by simpa [hlength] using hlt),
        List.getElem?_eq_none (by simpa using hlt)]

/-- Reading fails with the first entry that cannot be read. -/
theorem value_read_eq_error_iff (h : Placed data.size sections table holder strings)
    {error : SymbolError} :
    (read data order sections mode).value = .error error ↔
      ∃ index, index < holder.size.toNat / 24 ∧
        (∀ earlier, earlier < index →
          ∃ symbol, EntryReads data order mode holder strings earlier (.ok symbol)) ∧
        EntryReads data order mode holder strings index (.error error) := by
  rw [value_read_of_placed h, mapM_id_eq_error_iff]
  simp only [getElem?_outcomes_iff h]
  constructor
  · rintro ⟨index, ⟨hlt, hentry⟩, hbefore⟩
    refine ⟨index, hlt, fun earlier hearlier => ?_, hentry⟩
    obtain ⟨symbol, -, hsymbol⟩ := hbefore earlier hearlier
    exact ⟨symbol, hsymbol⟩
  · rintro ⟨index, hlt, hbefore, hentry⟩
    refine ⟨index, ⟨hlt, hentry⟩, fun earlier hearlier => ?_⟩
    obtain ⟨symbol, hsymbol⟩ := hbefore earlier hearlier
    exact ⟨symbol, Nat.lt_trans hearlier hlt, hsymbol⟩

/-- Symbols that have a place are not reported to leave the file. -/
theorem value_read_ne_range (h : Placed data.size sections table holder strings)
    (error : RangeError) : (read data order sections mode).value ≠ .error (.range error) := by
  intro hread
  obtain ⟨index, -, -, hentry⟩ := (value_read_eq_error_iff h).1 hread
  cases hentry

/-- What becomes of the symbols of a file, in the order in which the defects are met. They have no
place in the file (`misplaced`). Or they have one, and the entry at `index` is the first whose name
cannot be read (`unnamed`). Or they have one, and these are all entries of the table (`symbols`). -/
inductive Extraction (data : Bytes) (order : ByteOrder) (sections : List SectionHeader)
    (mode : LabelMode) : Except SymbolError (List Symbol) → Prop where
  | misplaced {error : SymbolError} (hmisplaced : Misplaced data.size sections error) :
      Extraction data order sections mode (.error error)
  | unnamed {table : Nat} {holder strings : SectionHeader} {index : Nat} {error : SymbolError}
      (hplaced : Placed data.size sections table holder strings)
      (hindex : index < holder.size.toNat / 24)
      (hbefore : ∀ earlier, earlier < index →
        ∃ symbol, EntryReads data order mode holder strings earlier (.ok symbol))
      (hentry : EntryReads data order mode holder strings index (.error error)) :
      Extraction data order sections mode (.error error)
  | symbols {table : Nat} {holder strings : SectionHeader} {found : List Symbol}
      (hplaced : Placed data.size sections table holder strings)
      (hlength : found.length = holder.size.toNat / 24)
      (hentries : ∀ index symbol, found[index]? = some symbol →
        EntryReads data order mode holder strings index (.ok symbol)) :
      Extraction data order sections mode (.ok found)

/-- The symbols of a file come out in the one way that `Extraction` allows. -/
theorem value_read_eq_iff {outcome : Except SymbolError (List Symbol)} :
    (read data order sections mode).value = outcome
      ↔ Extraction data order sections mode outcome := by
  constructor
  · intro houtcome
    cases hplace : place data.size sections with
    | error error =>
      rw [value_read, locate_eq_map, hplace] at houtcome
      cases houtcome
      exact .misplaced (place_eq_error_iff.1 hplace)
    | ok found =>
      obtain ⟨table, holder, strings⟩ := found
      have hplaced := place_eq_ok_iff.1 hplace
      cases outcome with
      | error error =>
        obtain ⟨index, hindex, hbefore, hentry⟩ := (value_read_eq_error_iff hplaced).1 houtcome
        exact .unnamed hplaced hindex hbefore hentry
      | ok found =>
        obtain ⟨hlength, hentries⟩ := (value_read_eq_ok_iff hplaced).1 houtcome
        exact .symbols hplaced hlength hentries
  · intro h
    cases h with
    | misplaced hmisplaced =>
      rw [value_read, locate_eq_map, place_eq_error_iff.2 hmisplaced]
      rfl
    | unnamed hplaced hindex hbefore hentry =>
      exact (value_read_eq_error_iff hplaced).2 ⟨_, hindex, hbefore, hentry⟩
    | symbols hplaced hlength hentries =>
      exact (value_read_eq_ok_iff hplaced).2 ⟨hlength, hentries⟩

/-- A range that is reported is the one of the first symbol table or of the section it links to. -/
theorem value_read_range {error : RangeError}
    (h : (read data order sections mode).value = .error (.range error)) :
    ∃ table holder, IsFirst sections table holder ∧
      (error = ⟨holder.offset, holder.size, data.size⟩ ∨
        ∃ strings, linked? sections holder.link = some strings ∧
          error = ⟨strings.offset, strings.size, data.size⟩) := by
  cases value_read_eq_iff.1 h with
  | misplaced hmisplaced =>
    obtain ⟨table, holder, strings, hfirst, hlinked, -, hholder | hstrings⟩ :=
      place_eq_range (place_eq_error_iff.2 hmisplaced)
    · exact ⟨table, holder, hfirst, .inl hholder⟩
    · exact ⟨table, holder, hfirst, .inr ⟨strings, hlinked, hstrings⟩⟩
  | unnamed _ _ _ hentry => cases hentry

/-- A symbol table is read back as it was written, if all names in it can be resolved. -/
theorem value_read_of_holds {symbols : List Symbol}
    (hplaced : Placed data.size sections table holder strings)
    (hsize : holder.size.toNat = 24 * symbols.length)
    (hentries : ∀ index symbol, symbols[index]? = some symbol →
      data.Holds (holder.offset.toNat + 24 * index) (symbol.encode order))
    (hnames : ∀ symbol ∈ symbols,
      (strings.body data).Names symbol.nameOffset.toNat symbol.name) :
    (read data order sections mode).value = .ok (symbols.mapIdx (Symbol.shown mode)) := by
  have hcount : holder.size.toNat / 24 = symbols.length := by omega
  rw [value_read_of_placed hplaced, mapM_id_eq_ok_iff, outcomes, hcount]
  apply List.ext_getElem?
  intro index
  by_cases hlt : index < symbols.length
  · have hsymbol : symbols[index]? = some symbols[index] := List.getElem?_eq_getElem hlt
    have hentry : entryBytes data holder index = symbols[index].encode order :=
      (hentries index _ hsymbol).part_eq (Symbol.size_encode order _)
    have hdecode : Symbol.decode order (.ofBytes (strings.body data)) mode index
        (entryBytes data holder index) = .ok (symbols[index].shown mode index) := by
      rw [hentry]
      exact Symbol.decode_of_holds (Bytes.holds_zero_self _)
        (StringTable.text_eq_ok (hnames _ (List.getElem_mem hlt)))
    simp [hlt, hdecode]
  · simp [hlt]

/-- A table of one entry is read as the symbol of this entry. -/
theorem value_read_of_holds_one {symbol : Symbol}
    (hplaced : Placed data.size sections table holder strings) (hsize : holder.size.toNat = 24)
    (hentry : data.Holds holder.offset.toNat (symbol.encode order))
    (hname : (strings.body data).Names symbol.nameOffset.toNat symbol.name) :
    (read data order sections mode).value = .ok [symbol.shown mode 0] := by
  have hread : (read data order sections mode).value
      = .ok ([symbol].mapIdx (Symbol.shown mode)) := by
    refine value_read_of_holds hplaced hsize ?_ ?_
    · intro index found hfound
      obtain ⟨hlt, rfl⟩ := List.getElem?_eq_some_iff.1 hfound
      match index, hlt with
      | 0, _ => exact hentry
    · intro found hmem
      obtain rfl := List.mem_singleton.1 hmem
      exact hname
  exact hread

/-- The symbols that are read are numbered in the order of the table. -/
theorem Extraction.index_eq {found : List Symbol} {symbol : Symbol}
    (h : Extraction data order sections mode (.ok found)) (hsymbol : found[index]? = some symbol) :
    symbol.index = index := by
  cases h with
  | symbols hplaced hlength hentries =>
    cases hentries index symbol hsymbol
    rfl

/-- The symbols that are read take no more room than the file has. -/
theorem Extraction.length_le {found : List Symbol}
    (h : Extraction data order sections mode (.ok found)) : 24 * found.length ≤ data.size := by
  cases h with
  | @symbols table holder strings _ hplaced hlength hentries =>
    have hfits : holder.offset.toNat + holder.size.toNat ≤ data.size := hplaced.holder_fits
    omega

/-- Reading the symbols of a file decides between the outcomes of `Extraction`, and the symbols it
reads are numbered in the order of the table and lie inside the file. -/
theorem read_decides (data : Bytes) (order : ByteOrder) (sections : List SectionHeader)
    (mode : LabelMode) :
    (∀ outcome, (read data order sections mode).value = outcome ↔
      Extraction data order sections mode outcome) ∧
    ∀ found, (read data order sections mode).value = .ok found →
      (∀ (index : Nat) (symbol : Symbol), found[index]? = some symbol → symbol.index = index) ∧
        24 * found.length ≤ data.size := by
  refine ⟨fun outcome => value_read_eq_iff, fun found hfound => ?_⟩
  have h : Extraction data order sections mode (.ok found) := value_read_eq_iff.1 hfound
  exact ⟨fun index symbol => h.index_eq, h.length_le⟩

end SymbolTable

/-! ## A name that ends behind the strings -/

namespace SymbolTable.Unended

/-- One entry, whose name starts at offset 1, and behind it the strings: a zero byte, a letter, and
one more zero byte. -/
def image : Bytes :=
  #[1, 0, 0, 0, 0, 0, 0, 0, 0, 0, 0, 0, 0, 0, 0, 0, 0, 0, 0, 0, 0, 0, 0, 0, 0, 0x61, 0]

/-- The symbol table. -/
def holder : SectionHeader where
  nameOffset := 0
  name := none
  kind := 2
  flags := 0
  address := 0
  offset := 0
  size := 24
  link := 1
  info := 0
  alignment := 0
  entrySize := 0

/-- The strings, which are declared to end in front of the last zero byte. -/
def strings : SectionHeader :=
  { holder with kind := 3, offset := 24, size := 2, link := 0 }

/-- The symbols of the sample have a place in the file. -/
theorem placed : Placed image.size [holder, strings] 0 holder strings where
  first := ⟨rfl, rfl, fun index _ hlt => absurd hlt (Nat.not_lt_zero index)⟩
  linked := rfl
  aligned := rfl
  holder_fits := by decide
  strings_fits := by decide

/-- The name of the symbol of the sample starts at the second byte of the strings. -/
theorem nameOffset_eq : nameOffset image .little holder 0 = 1 := by decide

/-- The strings of the sample hold a name without an end. -/
theorem body_eq : strings.body image = #[0, 0x61] := by decide

end SymbolTable.Unended

namespace SymbolTable

/-- A zero byte behind the declared end of the strings ends no name. -/
theorem read_unended : Unended.image[26]? = some 0 ∧
    (read Unended.image .little [Unended.holder, Unended.strings] .full).value
      = .error (.unterminatedName 0 1) := by
  refine ⟨by decide, ?_⟩
  have hentry : EntryReads Unended.image .little .full Unended.holder Unended.strings 0
      (.error (.unterminatedName 0 1)) := by
    rw [← Unended.nameOffset_eq]
    refine .unterminatedName (by decide) fun position hle => ?_
    rw [Unended.nameOffset_eq] at hle
    rw [Unended.body_eq]
    match position, hle with
    | 1, _ => decide
    | position + 2, _ => simp
  refine ((read_decides _ _ _ _).1 _).2 (.unnamed Unended.placed (by decide) ?_ hentry)
  exact fun earlier hlt => absurd hlt (Nat.not_lt_zero earlier)

end SymbolTable

end ElfScope
