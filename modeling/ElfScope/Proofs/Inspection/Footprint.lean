import ElfScope.Proofs.Inspection.RoundTrip

/-!
# The bytes that an inspection reads

`Footprint data` are the bytes that the sections and symbols of a file are made of: the
identification, the numbers of the header that describe the section header table, the entries of
the table, and the contents of three sections, all found through the bytes that are read before.
A file that agrees with another one there has the same sections and symbols, or is refused for the
same reason (`inspect_congr`).
-/

namespace ElfScope

section Reading

variable {data other : Bytes} {header otherHeader : FileHeader} {sections : List SectionHeader}

/-- The header and the section header table of a file are accepted: both are read. -/
structure Accepts (data : Bytes) (header : FileHeader) (sections : List SectionHeader) :
    Prop where
  decode_eq : FileHeader.decode data = .ok header
  read_eq : (SectionTable.read data header).value = .ok sections

/-- The contents of the section include the byte at `index`. -/
def SectionHeader.Covers (header : SectionHeader) (index : Nat) : Prop :=
  header.offset.toNat ≤ index ∧ index < header.offset.toNat + header.size.toNat

/-- The bytes that sections and symbols are made of.

Of the header these are the magic number, the class and the encoding (`identification`), the place
where the table starts (`tableOffset`), and its stride, its length and the section with the names
(`tableShape`). Of the table these are the first 64 bytes of each entry (`entry`). Then there are
the contents of the section with the names of the sections (`sectionName`), of the symbol table
(`symbol`) and of the section with the names of the symbols (`symbolName`). -/
inductive Footprint (data : Bytes) : Nat → Prop where
  | identification {index : Nat} (hlt : index < 6) : Footprint data index
  | tableOffset {index : Nat} (hle : 40 ≤ index) (hlt : index < 48) : Footprint data index
  | tableShape {index : Nat} (hle : 58 ≤ index) (hlt : index < 64) : Footprint data index
  | entry {header : FileHeader} {sections : List SectionHeader} {position index : Nat}
      (haccepts : Accepts data header sections) (hposition : position < sections.length)
      (hle : header.sectionOffset.toNat + position * header.sectionEntrySize.toNat ≤ index)
      (hlt : index
        < header.sectionOffset.toNat + position * header.sectionEntrySize.toNat + 64) :
      Footprint data index
  | sectionName {header : FileHeader} {sections : List SectionHeader} {holder : SectionHeader}
      {index : Nat} (haccepts : Accepts data header sections)
      (hholder : SectionTable.nameHolder? header sections = some holder)
      (hfits : holder.Fits data.size) (hcovers : holder.Covers index) : Footprint data index
  | symbol {header : FileHeader} {sections : List SectionHeader} {table index : Nat}
      {holder strings : SectionHeader} (haccepts : Accepts data header sections)
      (hplaced : SymbolTable.Placed data.size sections table holder strings)
      (hcovers : holder.Covers index) : Footprint data index
  | symbolName {header : FileHeader} {sections : List SectionHeader} {table index : Nat}
      {holder strings : SectionHeader} (haccepts : Accepts data header sections)
      (hplaced : SymbolTable.Placed data.size sections table holder strings)
      (hcovers : strings.Covers index) : Footprint data index

/-! ## The header -/

namespace FileHeader

/-- What a header says about the section header table: the order of its numbers, where it starts
(`offset`), the size and the number of its entries, and which of them is the section with the names
(`names`). -/
structure Table where
  order : ByteOrder
  offset : UInt64
  entrySize : UInt16
  count : UInt16
  names : UInt16

/-- The section header table that the header describes. -/
def table (header : FileHeader) : Table :=
  ⟨header.order, header.sectionOffset, header.sectionEntrySize, header.sectionCount,
    header.nameSection⟩

/-- Files of one size with the same first four bytes fall short for the same reason. -/
theorem shortfall_congr (hsize : other.size = data.size)
    (hident : other.part 0 6 = data.part 0 6) : shortfall other = shortfall data := by
  have hfirst : other.first? 4 = data.first? 4 := by
    by_cases h : 4 ≤ data.size
    · have hpart : other.part 0 4 = data.part 0 4 := by
        have hzero : Bytes.part (other.part 0 6) 0 4 = Bytes.part (data.part 0 6) 0 4 := by
          rw [hident]
        rwa [Bytes.part_part (by omega), Bytes.part_part (by omega)] at hzero
      rw [Bytes.first?, Bytes.first?, dif_pos h, dif_pos (by omega)]
      exact congrArg some (Vector.toArray_inj.1 hpart)
    · rw [Bytes.first?, Bytes.first?, dif_neg h, dif_neg (by omega)]
  rw [shortfall, shortfall, hfirst, hsize]

/-- Acceptance and the place of the table depend on twenty bytes only. -/
theorem decode_congr (hsize : other.size = data.size) (hident : other.part 0 6 = data.part 0 6)
    (hoffset : other.part 40 8 = data.part 40 8) (hshape : other.part 58 6 = data.part 58 6) :
    (∃ error, decode other = .error error ∧ decode data = .error error)
      ∨ ∃ otherHeader header, decode other = .ok otherHeader ∧ decode data = .ok header ∧
        otherHeader.table = header.table := by
  by_cases h : data.size < 64
  · rw [decode_of_lt h, decode_of_lt (by omega), shortfall_congr hsize hident]
    exact .inl ⟨_, rfl, rfl⟩
  · have hdata : 64 ≤ data.size := by omega
    have hother : 64 ≤ other.size := by omega
    rw [decode_eq_map hdata, decode_eq_map hother,
      Identification.check_ofBytes_congr (by omega) (by omega) hident]
    cases (Identification.ofBytes data (by omega)).check with
    | error error => exact .inl ⟨error, rfl, rfl⟩
    | ok order =>
      refine .inr ⟨_, _, rfl, rfl, ?_⟩
      simp (disch := omega) only [table, ofBytes, ByteOrder.numberAt_congr hoffset,
        ByteOrder.numberAt_congr hshape]

end FileHeader

/-! ## The table -/

namespace SectionTable

/-- The entries depend on their own bytes and on the place of the table. -/
theorem entries_congr (htable : otherHeader.table = header.table)
    (hentry : ∀ position, position < header.sectionCount.toNat →
      other.part (header.sectionOffset.toNat + position * header.sectionEntrySize.toNat) 64
        = data.part (header.sectionOffset.toNat + position * header.sectionEntrySize.toNat) 64) :
    entries other otherHeader = entries data header := by
  simp only [FileHeader.table, FileHeader.Table.mk.injEq] at htable
  obtain ⟨horder, hoffset, hstride, hcount, -⟩ := htable
  rw [entries, entries, horder, hoffset, hstride, hcount]
  refine List.map_congr_left fun position hposition => ?_
  exact SectionHeader.ofBytes_congr (hentry position (List.mem_range.1 hposition))

/-- The names depend on the contents of the section with the names, if it lies inside the file. -/
theorem named_congr (hsize : other.size = data.size)
    (htable : otherHeader.table = header.table)
    (hbody : ∀ holder, nameHolder? header sections = some holder → holder.Fits data.size →
      holder.body other = holder.body data) :
    named other otherHeader sections = named data header sections := by
  have hholder : nameHolder? otherHeader sections = nameHolder? header sections := by
    rw [nameHolder?, nameHolder?, show otherHeader.nameSection = header.nameSection from
      congrArg FileHeader.Table.names htable]
  rw [named, named, hholder, hsize]
  cases hfound : nameHolder? header sections with
  | none => rfl
  | some holder =>
    by_cases hfits : holder.Fits data.size
    · simp only [if_pos hfits, hbody holder hfound hfits]
    · simp only [if_neg hfits]

/-- A table inside the file depends on its entries and on the section with the names. Any other
one has the same defect in all files of one size. -/
theorem value_read_congr (hsize : other.size = data.size)
    (htable : otherHeader.table = header.table)
    (hentry : ∀ sections position, (read data header).value = .ok sections →
      position < sections.length →
      other.part (header.sectionOffset.toNat + position * header.sectionEntrySize.toNat) 64
        = data.part (header.sectionOffset.toNat + position * header.sectionEntrySize.toNat) 64)
    (hbody : ∀ sections holder, (read data header).value = .ok sections →
      nameHolder? header sections = some holder → holder.Fits data.size →
      holder.body other = holder.body data) :
    (read other otherHeader).value = (read data header).value := by
  have hoffset : otherHeader.sectionOffset = header.sectionOffset :=
    congrArg FileHeader.Table.offset htable
  have hstride : otherHeader.sectionEntrySize = header.sectionEntrySize :=
    congrArg FileHeader.Table.entrySize htable
  have hcount : otherHeader.sectionCount = header.sectionCount :=
    congrArg FileHeader.Table.count htable
  rw [value_read other, hoffset, hstride, hcount, hsize]
  by_cases hzero : header.sectionCount = 0
  · rw [value_read, if_pos hzero, if_pos hzero]
  by_cases hnarrow : header.sectionEntrySize.toNat < 64
  · rw [value_read, if_neg hzero, if_neg hzero, if_pos hnarrow, if_pos hnarrow]
  by_cases hbound : header.sectionOffset.toNat
      + header.sectionCount.toNat * header.sectionEntrySize.toNat ≤ data.size
  · have hread : (read data header).value = .ok (named data header (entries data header)) := by
      rw [value_read, if_neg hzero, if_neg hnarrow, if_pos hbound]
    have hentries : entries other otherHeader = entries data header :=
      entries_congr htable fun position hlt => hentry _ position hread (by simpa using hlt)
    rw [if_neg hzero, if_neg hnarrow, if_pos hbound, hread, hentries]
    refine congrArg _ (named_congr hsize htable fun holder hholder hfits => ?_)
    -- The sections that are read have names, which the contents of the holder do not depend on.
    rw [← map_unnamed_entries, ← map_unnamed_named data header, nameHolder?_map_unnamed] at hholder
    obtain ⟨nameHolder, hfound, rfl⟩ := Option.map_eq_some_iff.1 hholder
    exact hbody _ nameHolder hread hfound hfits
  · rw [value_read, if_neg hzero, if_neg hzero, if_neg hnarrow, if_neg hnarrow, if_neg hbound,
      if_neg hbound]

end SectionTable

/-! ## The whole inspection -/

/-- What is known about the sections and the symbols of a file. -/
def Inspection.listing (inspection : Inspection) :
    List SectionHeader × Except SymbolError (List Symbol) :=
  (inspection.sections, inspection.symbols)

/-- Files of one size that agree on the footprint of one of them have the same sections and
symbols, or are refused for the same reason. -/
theorem inspect_congr (mode : LabelMode) (hsize : other.size = data.size)
    (hagree : ∀ index, Footprint data index → other[index]? = data[index]?) :
    (inspect other mode).value.map Inspection.listing
      = (inspect data mode).value.map Inspection.listing := by
  have hident : other.part 0 6 = data.part 0 6 :=
    Bytes.part_congr fun index _ hlt => hagree index (.identification (by omega))
  have hoffset : other.part 40 8 = data.part 40 8 :=
    Bytes.part_congr fun index hle hlt => hagree index (.tableOffset hle hlt)
  have hshape : other.part 58 6 = data.part 58 6 :=
    Bytes.part_congr fun index hle hlt => hagree index (.tableShape hle hlt)
  rw [value_inspect, value_inspect]
  -- The stages are compared in order, since what is read first decides where to read next.
  obtain ⟨error, hother, hdata⟩ | ⟨otherHeader, header, hother, hdata, htable⟩ :=
    FileHeader.decode_congr hsize hident hoffset hshape
  · rw [hother, hdata]
  have hread : (SectionTable.read other otherHeader).value
      = (SectionTable.read data header).value := by
    refine SectionTable.value_read_congr hsize htable ?_ ?_
    · intro sections position hsections hlt
      exact Bytes.part_congr fun index hle hindex =>
        hagree index (.entry ⟨hdata, hsections⟩ hlt hle hindex)
    · intro sections holder hsections hholder hfits
      exact Bytes.part_congr fun index hle hindex =>
        hagree index (.sectionName ⟨hdata, hsections⟩ hholder hfits ⟨hle, hindex⟩)
  rw [hother, hdata]
  simp only [hread]
  cases hsections : (SectionTable.read data header).value with
  | error error => rfl
  | ok sections =>
    have haccepts : Accepts data header sections := ⟨hdata, hsections⟩
    have horder : otherHeader.order = header.order := congrArg FileHeader.Table.order htable
    have hlocate : SymbolTable.locate other sections = SymbolTable.locate data sections := by
      refine SymbolTable.locate_congr hsize fun table holder strings hplaced => ⟨?_, ?_⟩
      · exact Bytes.part_congr fun index hle hindex =>
          hagree index (.symbol haccepts hplaced ⟨hle, hindex⟩)
      · exact Bytes.part_congr fun index hle hindex =>
          hagree index (.symbolName haccepts hplaced ⟨hle, hindex⟩)
    simp only [Except.map, Inspection.listing, SymbolTable.value_read, hlocate, horder]

end Reading

/-! ## A file with bytes that play no part -/

namespace Sample

/-- The image with another version and another byte between two entries. -/
def altered : Bytes :=
  (image.setIfInBounds 20 0x55).setIfInBounds 165 0

/-- The sample is accepted with its own header and sections. -/
theorem accepts {found : FileHeader} {entries : List SectionHeader}
    (h : Accepts image found entries) :
    found = header ∧ entries.map SectionHeader.unnamed = sections := by
  obtain ⟨hdecode, hread⟩ := h
  have hfound : header = found := Except.ok.inj (encodes.decode_eq.symm.trans hdecode)
  subst found
  have hentries := Except.ok.inj (encodes.value_read.symm.trans hread)
  refine ⟨rfl, ?_⟩
  rw [← hentries, SectionTable.map_unnamed_named]
  rfl

/-- The names of the sections come from the last section. -/
theorem unnamed_nameHolder {entries : List SectionHeader} {holder : SectionHeader}
    (hentries : entries.map SectionHeader.unnamed = sections)
    (h : SectionTable.nameHolder? header entries = some holder) :
    holder.unnamed = sections[2] := by
  have hfound := SectionTable.nameHolder?_map_unnamed header entries
  rw [hentries, h] at hfound
  exact (Option.some.inj hfound).symm

/-- The symbols come from the second section, and their names from the last one. -/
theorem unnamed_placed {entries : List SectionHeader} {table : Nat}
    {holder strings : SectionHeader} (hentries : entries.map SectionHeader.unnamed = sections)
    (h : SymbolTable.Placed image.size entries table holder strings) :
    holder.unnamed = sections[1] ∧ strings.unnamed = sections[2] := by
  have hplace := SymbolTable.place_map_unnamed image.size entries
  rw [SymbolTable.place_eq_ok_iff.2 h, hentries, size_image] at hplace
  have hsections : SymbolTable.place 313 sections = .ok (1, sections[1], sections[2]) := rfl
  rw [hsections] at hplace
  simp only [Except.map, Except.ok.injEq, Prod.mk.injEq] at hplace
  exact ⟨hplace.2.1.symm, hplace.2.2.symm⟩

/-- The bytes that are altered lie outside the footprint. -/
theorem footprint_ne {index : Nat} (h : Footprint image index) : index ≠ 20 ∧ index ≠ 165 := by
  have hcovers {entry : SectionHeader} (start length : UInt64) (hcovers : entry.Covers index)
      (hoffset : entry.offset = start) (hsize : entry.size = length) :
      start.toNat ≤ index ∧ index < start.toNat + length.toNat := by
    rwa [SectionHeader.Covers, hoffset, hsize] at hcovers
  cases h with
  | identification hlt => omega
  | tableOffset hle hlt => omega
  | tableShape hle hlt => omega
  | entry haccepts hposition hle hlt =>
    obtain ⟨rfl, -⟩ := accepts haccepts
    rw [show header.sectionOffset.toNat = 97 from rfl,
      show header.sectionEntrySize.toNat = 72 from rfl] at hle hlt
    omega
  | sectionName haccepts hholder hfits hindex =>
    obtain ⟨rfl, hentries⟩ := accepts haccepts
    have hunnamed := unnamed_nameHolder hentries hholder
    have hrange := hcovers 88 9 hindex
      (congrArg SectionHeader.offset hunnamed) (congrArg SectionHeader.size hunnamed)
    simp at hrange
    omega
  | symbol haccepts hplaced hindex =>
    obtain ⟨rfl, hentries⟩ := accepts haccepts
    have hunnamed := (unnamed_placed hentries hplaced).1
    have hrange := hcovers 64 24 hindex
      (congrArg SectionHeader.offset hunnamed) (congrArg SectionHeader.size hunnamed)
    simp at hrange
    omega
  | symbolName haccepts hplaced hindex =>
    obtain ⟨rfl, hentries⟩ := accepts haccepts
    have hunnamed := (unnamed_placed hentries hplaced).2
    have hrange := hcovers 88 9 hindex
      (congrArg SectionHeader.offset hunnamed) (congrArg SectionHeader.size hunnamed)
    simp at hrange
    omega

end Sample

/-- The altered image has the sections and symbols of the sample. -/
theorem inspect_altered : Sample.altered.size = Sample.image.size ∧
    Sample.altered ≠ Sample.image ∧
    (inspect Sample.altered .compat).value.map Inspection.listing
      = (inspect Sample.image .compat).value.map Inspection.listing := by
  have hsize : Sample.altered.size = Sample.image.size := by
    simp [Sample.altered]
  have hne : Sample.altered ≠ Sample.image := by
    intro heq
    have hbyte : Sample.altered[20]? = Sample.image[20]? := by rw [heq]
    rw [Sample.altered, Array.getElem?_setIfInBounds_ne (by decide),
      Array.getElem?_setIfInBounds_self_of_lt (by rw [Sample.size_image]; decide)] at hbyte
    have hheader := Bytes.getElem?_part Sample.image 0 64 20
    rw [Sample.holds.1.part_eq (FileHeader.size_encode _), if_pos (by decide), ← hbyte] at hheader
    exact absurd hheader (by decide +kernel)
  refine ⟨hsize, hne, inspect_congr .compat hsize fun index hindex => ?_⟩
  obtain ⟨hversion, hgap⟩ := Sample.footprint_ne hindex
  rw [Sample.altered, Array.getElem?_setIfInBounds_ne hgap.symm,
    Array.getElem?_setIfInBounds_ne hversion.symm]

end ElfScope
