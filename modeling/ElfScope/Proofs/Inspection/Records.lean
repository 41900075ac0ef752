import ElfScope.Proofs.Inspection
import ElfScope.Proofs.Symbol.Outcome
import ElfScope.Proofs.Text.Quoted

/-!
# What is recorded about an inspection

Every stage of an inspection records what it meets, and falls silent where it fails. `Recorded` says
for each outcome what stands in the record, in which order, and the record of an inspection is the
only one that its outcome admits (`inspect_recorded`). A name of a section is recorded between
quotes, which different names never share (`Record.sectionHeader_eq_iff`).
-/

namespace ElfScope

/-! ## Records -/

/-- An event as it is recorded: how important it is, what it says, and the names of its fields with
what they show. -/
structure Record where
  level : Level
  message : String
  fields : List (String × String)

/-- The record of an event. -/
def Event.record (event : Event) : Record :=
  ⟨event.level, event.message, event.fields⟩

namespace Record

/-- A header is accepted. -/
def parsedHeader (header : FileHeader) : Record where
  level := .debug
  message := "parsed ELF header"
  fields := [("e_type", Text.decimal header.objectType.toNat),
    ("e_machine", Text.decimal header.machine.toNat),
    ("e_shoff", Text.decimal header.sectionOffset.toNat),
    ("e_shnum", Text.decimal header.sectionCount.toNat),
    ("big_endian", if header.order = .big then "true" else "false")]

/-- The record that there is no table of sections. -/
def noSectionHeaders : Record where
  level := .debug
  message := "no section headers"
  fields := []

/-- The record that the table of sections is read. -/
def parsingSections (header : FileHeader) : Record where
  level := .debug
  message := "parsing section headers"
  fields := [("offset", Text.decimal header.sectionOffset.toNat),
    ("count", Text.decimal header.sectionCount.toNat),
    ("entry_size", Text.decimal header.sectionEntrySize.toNat)]

/-- The header names no section of the table for the names. -/
def noNameTable (header : FileHeader) : Record where
  level := .debug
  message := "no usable section name table"
  fields := [("e_shstrndx", Text.decimal header.nameSection.toNat)]

/-- The section it names leaves the file. -/
def nameTableOutOfBounds (header : FileHeader) : Record where
  level := .debug
  message := "section name table out of bounds"
  fields := [("e_shstrndx", Text.decimal header.nameSection.toNat)]

/-- A section stands at `index` of the table. -/
def sectionHeader (index : Nat) (entry : SectionHeader) : Record where
  level := .trace
  message := "section header"
  fields := [("index", Text.decimal index), ("sh_type", Text.decimal entry.kind.toNat),
    ("name", match entry.name with
      | none => "None"
      | some name => "Some(" ++ Text.quoted name ++ ")")]

/-- The symbols of the table `holder` are read. -/
def extractingSymbols (table : Nat) (holder : SectionHeader) : Record where
  level := .debug
  message := "extracting symbols"
  fields := [("section", Text.decimal table), ("strtab", Text.decimal holder.link.toNat),
    ("count", Text.decimal (holder.size.toNat / 24))]

/-- A symbol stands at `index` of the table. -/
def symbol (index : Nat) (symbol : Symbol) : Record where
  level := .trace
  message := "symbol"
  fields := [("index", Text.decimal index), ("name", symbol.name),
    ("value", Text.decimal symbol.value.toNat)]

/-- The record that there are no symbols, for a reason that may be fatal. -/
def extractionFailed (error : SymbolError) : Record where
  level := .debug
  message := "symbol extraction failed"
  fields := [("error", error.message),
    ("fatal", match error with
      | .noSymbolTable => "false"
      | _ => "true")]

/-- Different names of sections, missing ones among them, are shown differently. -/
theorem nameText_injective : Function.Injective Event.nameText := by
  intro first second h
  cases first with
  | none =>
    cases second with
    | none => rfl
    | some name => exact absurd (congrArg (·.toList.head?) h) (by simp [Event.nameText])
  | some name =>
    cases second with
    | none => exact absurd (congrArg (·.toList.head?) h) (by simp [Event.nameText])
    | some other =>
      have hquoted := (String.append_right_inj _).1 ((String.append_left_inj _).1 h)
      rw [Text.quoted_injective hquoted]

/-- The record of a section settles its place in the table, its kind and its name. -/
theorem sectionHeader_eq_iff {index other : Nat} {first second : SectionHeader} :
    sectionHeader index first = sectionHeader other second ↔
      index = other ∧ first.kind = second.kind ∧ first.name = second.name := by
  have hname (entry : SectionHeader) : (match entry.name with
      | none => "None"
      | some name => "Some(" ++ Text.quoted name ++ ")") = Event.nameText entry.name := by
    cases entry.name <;> rfl
  simp only [sectionHeader, hname, mk.injEq, List.cons.injEq, Prod.mk.injEq, true_and,
    and_true, Text.decimal_injective.eq_iff, UInt32.toNat_inj, nameText_injective.eq_iff]

end Record

/-- The event of an accepted header is recorded as the record of this header. -/
theorem Event.record_parsedHeader (header : FileHeader) :
    (Event.parsedHeader header).record = .parsedHeader header := by
  rw [Event.record, Record.parsedHeader]
  cases horder : header.order <;> simp [Event.level, Event.message, Event.fields, horder] <;> rfl

/-- The failure of an extraction is recorded with it, as fatal unless there is no symbol table. -/
theorem SymbolTable.map_record_reportSymbols_error (error : SymbolError) :
    (reportSymbols (.error error)).emitted.map Event.record = [.extractionFailed error] := by
  cases error <;> rfl

/-! ## The record of each stage -/

/-- What is recorded about the names of the sections of a file of `size` bytes. The header names no
section, or one behind the table (`unusable`), or a section that leaves the file (`outside`). If it
names one inside the file, nothing is recorded (`inside`). -/
inductive SectionTable.NamesRecorded (size : Nat) (header : FileHeader)
    (sections : List SectionHeader) : List Record → Prop where
  | unusable
      (hindex : header.nameSection.toNat = 0 ∨ sections.length ≤ header.nameSection.toNat) :
      NamesRecorded size header sections [.noNameTable header]
  | outside {holder : SectionHeader} (hindex : header.nameSection.toNat ≠ 0)
      (hholder : sections[header.nameSection.toNat]? = some holder)
      (houtside : size < holder.offset.toNat + holder.size.toNat) :
      NamesRecorded size header sections [.nameTableOutOfBounds header]
  | inside {holder : SectionHeader} (hindex : header.nameSection.toNat ≠ 0)
      (hholder : sections[header.nameSection.toNat]? = some holder)
      (hfits : holder.offset.toNat + holder.size.toNat ≤ size) :
      NamesRecorded size header sections []

/-- What is recorded about the sections of a file of `size` bytes, once they are read: the header
declares none (`empty`), or it declares some, and behind what concerns their names each one is
recorded (`table`). -/
inductive SectionTable.Recorded (size : Nat) (header : FileHeader)
    (sections : List SectionHeader) : List Record → Prop where
  | empty (hcount : header.sectionCount = 0) :
      Recorded size header sections [.noSectionHeaders]
  | table {names : List Record} (hcount : header.sectionCount ≠ 0)
      (hnames : NamesRecorded size header sections names) :
      Recorded size header sections
        (.parsingSections header :: names ++ sections.mapIdx .sectionHeader)

/-- What is recorded about the symbols of a file, along with what becomes of them. They have no
place in the file (`misplaced`). Or the names of the entries in front of the one at `before.length`
can be read, and its own name cannot (`unnamed`). Or all entries of the table can be read
(`symbols`). -/
inductive SymbolTable.Recorded (data : Bytes) (order : ByteOrder) (sections : List SectionHeader)
    (mode : LabelMode) : Except SymbolError (List Symbol) → List Record → Prop where
  | misplaced {error : SymbolError} (hmisplaced : Misplaced data.size sections error) :
      Recorded data order sections mode (.error error) [.extractionFailed error]
  | unnamed {table : Nat} {holder strings : SectionHeader} {before : List Symbol}
      {error : SymbolError} (hplaced : Placed data.size sections table holder strings)
      (hbefore : ∀ index symbol, before[index]? = some symbol →
        EntryReads data order mode holder strings index (.ok symbol))
      (hindex : before.length < holder.size.toNat / 24)
      (hentry : EntryReads data order mode holder strings before.length (.error error)) :
      Recorded data order sections mode (.error error)
        (.extractingSymbols table holder :: before.mapIdx .symbol ++ [.extractionFailed error])
  | symbols {table : Nat} {holder strings : SectionHeader} {found : List Symbol}
      (hplaced : Placed data.size sections table holder strings)
      (hlength : found.length = holder.size.toNat / 24)
      (hentries : ∀ index symbol, found[index]? = some symbol →
        EntryReads data order mode holder strings index (.ok symbol)) :
      Recorded data order sections mode (.ok found)
        (.extractingSymbols table holder :: found.mapIdx .symbol)

/-- What is recorded about an inspection, along with its outcome. Nothing is recorded about a file
whose header is refused (`header`), and only the header where the table of sections is (`sections`).
Otherwise the header is followed by the sections, and these by the symbols (`inspected`). -/
inductive Recorded (data : Bytes) (mode : LabelMode) :
    Except InspectError Inspection → List Record → Prop where
  | header {error : HeaderError} (hheader : FileHeader.decode data = .error error) :
      Recorded data mode (.error (.header error)) []
  | sections {header : FileHeader} {error : SectionError}
      (hheader : FileHeader.decode data = .ok header) :
      Recorded data mode (.error (.sections error)) [.parsedHeader header]
  | inspected {inspection : Inspection} {sections symbols : List Record}
      (hheader : FileHeader.decode data = .ok inspection.header)
      (hsections : SectionTable.Recorded data.size inspection.header inspection.sections sections)
      (hsymbols : SymbolTable.Recorded data inspection.header.order inspection.sections mode
        inspection.symbols symbols) :
      Recorded data mode (.ok inspection)
        (.parsedHeader inspection.header :: sections ++ symbols)

/-! ## The sections -/

namespace SectionTable

variable {data : Bytes} {header : FileHeader} {sections : List SectionHeader}

/-- Sections are recorded one after the other. -/
theorem map_record_reports (first : Nat) (sections : List SectionHeader) :
    (reports first sections).map Event.record
      = sections.mapIdx fun position entry => .sectionHeader (first + position) entry := by
  induction sections generalizing first with
  | nil => rfl
  | cons entry rest ih =>
    have hentry : (Event.sectionHeader first entry.kind entry.name).record
        = .sectionHeader first entry := by
      rw [Event.record, Record.sectionHeader]
      cases entry.name <;> rfl
    -- The rest is numbered from the next position on.
    have hrest := ih (first + 1)
    simp only [Nat.add_assoc, Nat.add_comm 1] at hrest
    rw [reports, List.map_cons, hentry, hrest, List.mapIdx_cons]
    rfl

/-- Names of sections play no part in finding the one that holds them. -/
theorem namesRecorded_resolveNames {others : List SectionHeader}
    (h : others.map SectionHeader.unnamed = sections.map SectionHeader.unnamed) :
    NamesRecorded data.size header others
      ((resolveNames data header sections).emitted.map Event.record) := by
  have hlength : others.length = sections.length := by
    simpa using congrArg List.length h
  rw [resolveNames, nameSource_eq]
  cases hholder : nameHolder? header sections with
  | none =>
    have hindex := nameHolder?_eq_none_iff.1 hholder
    exact .unusable (by rwa [hlength])
  | some holder =>
    obtain ⟨hindex, hget⟩ := nameHolder?_eq_some_iff.1 hholder
    obtain ⟨other, hother, hunnamed⟩ : ∃ other,
        others[header.nameSection.toNat]? = some other ∧ other.unnamed = holder.unnamed := by
      have hgets := congrArg (·[header.nameSection.toNat]?) h
      simpa [hget] using hgets
    have hfits : other.Fits data.size ↔ holder.Fits data.size := by
      change other.unnamed.Fits data.size ↔ holder.unnamed.Fits data.size
      rw [hunnamed]
    by_cases hin : holder.Fits data.size
    · simp only [if_pos hin]
      exact .inside hindex hother (hfits.2 hin)
    · simp only [if_neg hin]
      exact .outside hindex hother (Nat.lt_of_not_le (mt hfits.1 hin))

/-- The events of a table follow from its count, its stride and its bound, as its value does. -/
theorem emitted_read (data : Bytes) (header : FileHeader) :
    (read data header).emitted =
      if header.sectionCount = 0 then [.noSectionHeaders]
      else if header.sectionEntrySize.toNat < 64 then []
      else if header.sectionOffset.toNat
          + header.sectionCount.toNat * header.sectionEntrySize.toNat ≤ data.size then
        .parsingSections header.sectionOffset header.sectionCount header.sectionEntrySize
          :: (resolveNames data header (entries data header)).emitted
          ++ reports 0 (named data header (entries data header))
      else [] := by
  unfold read
  by_cases hcount : header.sectionCount = 0
  · rw [if_pos hcount, if_pos hcount]
    rfl
  rw [if_neg hcount, if_neg hcount, SectionHeader.recordSize]
  by_cases hsize : header.sectionEntrySize.toNat < 64
  · rw [if_pos hsize, if_pos hsize]
    rfl
  rw [if_neg hsize, if_neg hsize]
  by_cases hbound : header.sectionOffset.toNat
      + header.sectionCount.toNat * header.sectionEntrySize.toNat ≤ data.size
  · rw [if_pos hbound, slice_eq_ok hbound]
    simp [mapM_decode_records (Nat.le_of_not_lt hsize) hbound, value_resolveNames]
  · rw [if_neg hbound, slice, Bytes.slice_eq_error (by rw [toNat_tableSize]; omega)]
    rfl

/-- What is recorded about a table that is read. -/
theorem recorded_read (h : (read data header).value = .ok sections) :
    Recorded data.size header sections ((read data header).emitted.map Event.record) := by
  rw [value_read] at h
  rw [emitted_read]
  split at h
  case isTrue hcount =>
    rw [if_pos hcount]
    exact .empty hcount
  split at h
  case isTrue => cases h
  case isFalse hcount hsize =>
    split at h
    case isFalse => cases h
    case isTrue hbound =>
      cases h
      rw [if_neg hcount, if_neg hsize, if_pos hbound, List.map_append, List.map_cons,
        map_record_reports]
      simp only [Nat.zero_add]
      exact .table hcount (namesRecorded_resolveNames (map_unnamed_named data header _))

/-- Nothing is recorded about a table that is refused. -/
theorem emitted_read_of_error {error : SectionError}
    (h : (read data header).value = .error error) : (read data header).emitted = [] := by
  rw [value_read] at h
  rw [emitted_read]
  split at h
  case isTrue => cases h
  case isFalse hcount =>
    rw [if_neg hcount]
    split at h
    case isTrue hsize => rw [if_pos hsize]
    case isFalse hsize =>
      rw [if_neg hsize]
      split at h
      case isTrue => cases h
      case isFalse hbound => rw [if_neg hbound]

/-- At most one thing is recorded about the names of sections. -/
theorem NamesRecorded.unique {size : Nat} {records others : List Record}
    (h : NamesRecorded size header sections records)
    (hother : NamesRecorded size header sections others) : records = others := by
  cases h with
  | unusable hindex =>
    cases hother with
    | unusable => rfl
    | outside hne hholder | inside hne hholder =>
      obtain ⟨hlt, -⟩ := List.getElem?_eq_some_iff.1 hholder
      omega
  | outside hne hholder houtside =>
    cases hother with
    | unusable =>
      obtain ⟨hlt, -⟩ := List.getElem?_eq_some_iff.1 hholder
      omega
    | outside => rfl
    | inside _ hother hfits =>
      cases hholder.symm.trans hother
      omega
  | inside hne hholder hfits =>
    cases hother with
    | unusable =>
      obtain ⟨hlt, -⟩ := List.getElem?_eq_some_iff.1 hholder
      omega
    | outside _ hother houtside =>
      cases hholder.symm.trans hother
      omega
    | inside => rfl

/-- At most one thing is recorded about sections. -/
theorem Recorded.unique {size : Nat} {records others : List Record}
    (h : Recorded size header sections records) (hother : Recorded size header sections others) :
    records = others := by
  cases h with
  | empty hcount =>
    cases hother with
    | empty => rfl
    | table hne => exact absurd hcount hne
  | table hne hnames =>
    cases hother with
    | empty hcount => exact absurd hcount hne
    | table _ hothers => rw [hnames.unique hothers]

end SectionTable

/-! ## The symbols -/

section Traversal

variable {ε α : Type}

/-- The values in front of the first error. -/
def leading : List (Except ε α) → List α
  | .ok value :: rest => value :: leading rest
  | _ => []

/-- All values are in front of the first error if there is no error. -/
theorem leading_map_ok (values : List α) :
    leading (values.map (Except.ok : α → Except ε α)) = values := by
  induction values with
  | nil => rfl
  | cons value rest ih => rw [List.map_cons, leading, ih]

/-- Leading values stand where they stood. -/
theorem getElem?_of_getElem?_leading {outcomes : List (Except ε α)} {index : Nat} {value : α}
    (h : (leading outcomes)[index]? = some value) : outcomes[index]? = some (.ok value) := by
  induction outcomes generalizing index with
  | nil => cases h
  | cons outcome rest ih =>
    cases outcome with
    | error error => cases h
    | ok first =>
      cases index with
      | zero =>
        cases h
        rfl
      | succ index => exact ih h

/-- The values in front of the first error end where it is. -/
theorem length_leading {outcomes : List (Except ε α)} {position : Nat} {error : ε}
    (herror : outcomes[position]? = some (Except.error error))
    (hbefore : ∀ earlier, earlier < position → ∃ value, outcomes[earlier]? = some (.ok value)) :
    (leading outcomes).length = position := by
  induction outcomes generalizing position with
  | nil => cases herror
  | cons outcome rest ih =>
    cases position with
    | zero =>
      cases herror
      rfl
    | succ position =>
      obtain ⟨value, hvalue⟩ := hbefore 0 (Nat.succ_pos position)
      cases hvalue
      rw [leading, List.length_cons,
        ih herror fun earlier hlt => hbefore (earlier + 1) (by omega)]

end Traversal

namespace SymbolTable

variable {data : Bytes} {order : ByteOrder} {mode : LabelMode} {sections : List SectionHeader}
  {table : Nat} {holder strings : SectionHeader}

/-- Every entry that is read in front of the first failure is recorded. -/
theorem map_record_readEntries {names : StringTable} (entries : List Bytes) (first : Nat) :
    (readEntries order names mode first entries).emitted.map Event.record
      = (leading (entries.mapIdx fun position entry =>
          Symbol.decode order names mode (first + position) entry)).mapIdx
            fun position symbol => .symbol (first + position) symbol := by
  induction entries generalizing first with
  | nil => rfl
  | cons entry rest ih =>
    -- The rest is numbered from the next position on.
    have hrest := ih (first + 1)
    simp only [Nat.add_assoc, Nat.add_comm 1] at hrest
    rw [List.mapIdx_cons, readEntries, Nat.add_zero]
    cases Symbol.decode order names mode first entry with
    | error error => rfl
    | ok symbol =>
      rw [leading, List.mapIdx_cons, Traced.emitted_bind, Traced.emitted_emit, Traced.emitted_map,
        List.singleton_append, List.map_cons, hrest]
      rfl

/-- Reading a symbol table inside the file is recorded, and so is every entry up to a failure. -/
theorem map_record_read (h : Placed data.size sections table holder strings) :
    (read data order sections mode).emitted.map Event.record
      = .extractingSymbols table holder
          :: (leading (outcomes data order mode holder strings)).mapIdx .symbol := by
  rw [read, locate_eq_ok_iff.2 ⟨table, holder, strings, h, rfl⟩]
  simp only [source, Symbol.recordSize, Traced.emitted_bind, Traced.emitted_emit,
    List.singleton_append, List.map_cons]
  rw [map_record_readEntries, mapIdx_decode_records]
  simp only [Nat.zero_add]
  rfl

/-- What is recorded about the symbols, and at the end about their failure. -/
theorem recorded_read : Recorded data order sections mode (read data order sections mode).value
    (((read data order sections mode).emitted
      ++ (reportSymbols (read data order sections mode).value).emitted).map Event.record) := by
  cases hplace : place data.size sections with
  | error error =>
    have hread : read data order sections mode = ⟨[], .error error⟩ := by
      rw [read, locate_eq_map, hplace]
      rfl
    rw [hread, List.nil_append, map_record_reportSymbols_error]
    exact .misplaced (place_eq_error_iff.1 hplace)
  | ok found =>
    obtain ⟨table, holder, strings⟩ := found
    have hplaced := place_eq_ok_iff.1 hplace
    rw [List.map_append, map_record_read hplaced]
    cases hvalue : (read data order sections mode).value with
    | ok found =>
      obtain ⟨hlength, hentries⟩ := (value_read_eq_ok_iff hplaced).1 hvalue
      rw [value_read_of_placed hplaced, mapM_id_eq_ok_iff] at hvalue
      rw [hvalue, leading_map_ok]
      simpa [reportSymbols] using .symbols hplaced hlength hentries
    | error error =>
      rw [value_read_of_placed hplaced, mapM_id_eq_error_iff] at hvalue
      obtain ⟨position, herror, hbefore⟩ := hvalue
      have hlength : (leading (outcomes data order mode holder strings)).length = position :=
        length_leading herror hbefore
      obtain ⟨hindex, hentry⟩ := (getElem?_outcomes_iff hplaced).1 herror
      rw [map_record_reportSymbols_error]
      refine .unnamed hplaced (fun index symbol hsymbol => ?_) (hlength ▸ hindex)
        (hlength ▸ hentry)
      exact ((getElem?_outcomes_iff hplaced).1 (getElem?_of_getElem?_leading hsymbol)).2

/-- The table, its strings and what they are read from are settled by the sections. -/
theorem Placed.unique {size other : Nat} {otherHolder otherStrings : SectionHeader}
    (h : Placed size sections table holder strings)
    (hother : Placed size sections other otherHolder otherStrings) :
    table = other ∧ holder = otherHolder ∧ strings = otherStrings := by
  have hplace := (place_eq_ok_iff.2 h).symm.trans (place_eq_ok_iff.2 hother)
  cases hplace
  exact ⟨rfl, rfl, rfl⟩

/-- Symbols that have no place in a file have none. -/
theorem Misplaced.not_placed {size : Nat} {error : SymbolError}
    (h : Misplaced size sections error) : ¬ Placed size sections table holder strings := by
  intro hplaced
  cases (place_eq_error_iff.2 h).symm.trans (place_eq_ok_iff.2 hplaced)

/-- No more symbols stand in front of an entry that cannot be read than it has predecessors. -/
theorem length_le_of_entryReads (hstrings : strings.Fits data.size) {before : List Symbol}
    {index : Nat} {error : SymbolError}
    (hbefore : ∀ index symbol, before[index]? = some symbol →
      EntryReads data order mode holder strings index (.ok symbol))
    (hentry : EntryReads data order mode holder strings index (.error error)) :
    before.length ≤ index := by
  apply Nat.le_of_not_lt
  intro hlt
  have hsymbol := hbefore index before[index] (List.getElem?_eq_getElem hlt)
  cases hsymbol.unique hstrings hentry

/-- Symbols of the same entries are the same. -/
theorem eq_of_entryReads (hstrings : strings.Fits data.size) {first second : List Symbol}
    (hlength : first.length = second.length)
    (hfirst : ∀ index symbol, first[index]? = some symbol →
      EntryReads data order mode holder strings index (.ok symbol))
    (hsecond : ∀ index symbol, second[index]? = some symbol →
      EntryReads data order mode holder strings index (.ok symbol)) : first = second := by
  apply List.ext_getElem hlength
  intro index hin hother
  have hentry := hfirst index first[index] (List.getElem?_eq_getElem hin)
  have hsame := hsecond index second[index] (List.getElem?_eq_getElem hother)
  exact Except.ok.inj (hentry.unique hstrings hsame)

/-- At most one thing is recorded about symbols with the same outcome. -/
theorem Recorded.unique {outcome : Except SymbolError (List Symbol)} {records others : List Record}
    (h : Recorded data order sections mode outcome records)
    (hother : Recorded data order sections mode outcome others) : records = others := by
  cases h with
  | misplaced hmisplaced =>
    cases hother with
    | misplaced => rfl
    | unnamed hplaced => exact absurd hplaced hmisplaced.not_placed
  | unnamed hplaced hbefore hindex hentry =>
    cases hother with
    | misplaced hmisplaced => exact absurd hplaced hmisplaced.not_placed
    | unnamed hplacedOther hbeforeOther hindexOther hentryOther =>
      obtain ⟨rfl, rfl, rfl⟩ := hplaced.unique hplacedOther
      have hle := length_le_of_entryReads hplaced.strings_fits hbefore hentryOther
      have hge := length_le_of_entryReads hplaced.strings_fits hbeforeOther hentry
      rw [eq_of_entryReads hplaced.strings_fits (Nat.le_antisymm hle hge) hbefore hbeforeOther]
  | symbols hplaced =>
    cases hother with
    | symbols hplacedOther =>
      obtain ⟨rfl, rfl, rfl⟩ := hplaced.unique hplacedOther
      rfl

end SymbolTable

/-! ## The whole inspection -/

/-- At most one thing is recorded about an inspection with the same outcome. -/
theorem Recorded.unique {data : Bytes} {mode : LabelMode}
    {outcome : Except InspectError Inspection} {records others : List Record}
    (h : Recorded data mode outcome records) (hother : Recorded data mode outcome others) :
    records = others := by
  cases h with
  | header => cases hother with
    | header => rfl
  | sections hheader => cases hother with
    | sections hsame =>
      cases hheader.symm.trans hsame
      rfl
  | inspected hheader hsections hsymbols => cases hother with
    | inspected _ hothers hsymbolOthers =>
      rw [hsections.unique hothers, hsymbols.unique hsymbolOthers]

/-- What is recorded about an inspection goes with its outcome. -/
theorem recorded_inspect (data : Bytes) (mode : LabelMode) :
    Recorded data mode (inspect data mode).value
      ((inspect data mode).emitted.map Event.record) := by
  rw [inspect]
  cases hheader : FileHeader.decode data with
  | error error => exact .header hheader
  | ok header =>
    dsimp only [Traced.value_bind, Traced.emitted_bind]
    cases hsections : (SectionTable.read data header).value with
    | error error =>
      have hrecorded : Recorded data mode (.error (.sections error)) [.parsedHeader header] :=
        .sections hheader
      rw [← Event.record_parsedHeader] at hrecorded
      simpa [SectionTable.emitted_read_of_error hsections] using hrecorded
    | ok sections =>
      have hrecorded : Recorded data mode
          (.ok ⟨header, sections, (SymbolTable.read data header.order sections mode).value⟩) _ :=
        .inspected hheader (SectionTable.recorded_read hsections) SymbolTable.recorded_read
      rw [← Event.record_parsedHeader] at hrecorded
      simpa using hrecorded

/-- The record of an inspection is the one that its outcome admits, and no other; and of each
section the record settles the place, the kind and the name. -/
theorem inspect_recorded (data : Bytes) (mode : LabelMode) :
    (∀ records, Recorded data mode (inspect data mode).value records
      ↔ (inspect data mode).emitted.map Event.record = records) ∧
    ∀ index other first second,
      Record.sectionHeader index first = Record.sectionHeader other second ↔
        index = other ∧ first.kind = second.kind ∧ first.name = second.name := by
  refine ⟨fun records => ⟨(recorded_inspect data mode).unique, ?_⟩, ?_⟩
  · intro hrecords
    subst hrecords
    exact recorded_inspect data mode
  · intro index other first second
    exact Record.sectionHeader_eq_iff

end ElfScope
