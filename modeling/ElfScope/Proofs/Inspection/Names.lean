import ElfScope.Proofs.Inspection.RoundTrip

/-!
# Names of sections and names of symbols

Sections and symbols are named by offsets into string tables, and both kinds of names are looked up
in the same way. A string table answers by its bytes alone (`StringTable.LooksUp`). A section goes
without a name where there is none, and a symbol with the same offset into the same strings fails
exactly then; otherwise both bear the same name (`NamedAlike`).
-/

namespace ElfScope

/-! ## One offset -/

/-- What a string table answers at an offset.

A string is found where it stands in front of a zero byte, and without one in it (`found_iff`). The
offset is out of range at the end of the table and behind it (`outOfRange_iff`). The string does not
end where the table holds no zero byte any more (`unterminated_iff`), and then no string behind it
ends (`unterminated_behind`). An offset inside a string names its tail (`tail`). -/
structure StringTable.LooksUp (table : StringTable) (offset : UInt32) : Prop where
  found_iff (content : Bytes) : table.get offset = .ok content ↔
    table.bytes.Holds offset.toNat content ∧
      table.bytes[offset.toNat + content.size]? = some 0 ∧ 0 ∉ content
  outOfRange_iff : table.get offset = .error .outOfRange ↔ table.bytes.size ≤ offset.toNat
  unterminated_iff : table.get offset = .error .unterminated ↔
    offset.toNat < table.bytes.size ∧
      ∀ position, offset.toNat ≤ position → table.bytes[position]? ≠ some 0
  unterminated_behind {later : UInt32} (h : table.get offset = .error .unterminated)
    (hle : offset.toNat ≤ later.toNat) (hlater : later.toNat < table.bytes.size) :
    table.get later = .error .unterminated
  tail {content : Bytes} {later : UInt32} {skipped : Nat} (h : table.get offset = .ok content)
    (hlater : later.toNat = offset.toNat + skipped) (hskipped : skipped ≤ content.size) :
    table.get later = .ok (content.extract skipped)

/-- The bytes of a table make all of it. -/
theorem StringTable.ofBytes_bytes (table : StringTable) : ofBytes table.bytes = table := by
  obtain ⟨bytes, extent, hextent⟩ := table
  rw [ofBytes, StringTable.mk.injEq]
  exact ⟨rfl, hextent.symm⟩

/-- A string table looks strings up at every offset. -/
theorem StringTable.looksUp (table : StringTable) (offset : UInt32) : table.LooksUp offset := by
  rw [← table.ofBytes_bytes]
  exact {
    found_iff := fun content => get_eq_ok_iff
    outOfRange_iff := get_eq_outOfRange_iff
    unterminated_iff := get_eq_unterminated_iff
    unterminated_behind := get_unterminated_behind
    tail := get_tail }

/-- `name` is the name of a section whose header has `offset` into `strings`, and symbols with the
same offset into the same strings are named alike: such a symbol is decoded where there is a name,
and bears this name (`symbol_iff`). The name holds no zero character, and its bytes are the ones
that are stored for it, if these are well-formed (`stored`). -/
structure NamedAlike (strings : Bytes) (offset : UInt32) (name : Option String) : Prop where
  symbol_iff {order : ByteOrder} {entry : Bytes} (hsize : 24 ≤ entry.size)
    (hoffset : entry.Holds 0 (order.encode 4 offset.toNat)) (mode : LabelMode) (index : Nat)
    (text : String) : name = some text ↔
      ∃ symbol, Symbol.decode order (.ofBytes strings) mode index entry = .ok symbol ∧
        symbol.name = text
  stored {text : String} (h : name = some text) :
    ∃ content, (StringTable.ofBytes strings).get offset = .ok content ∧
      '\x00' ∉ text.toList ∧
      (ByteArray.IsValidUTF8 ⟨content⟩ → Utf8.encode text = content)

/-! ## Both ways to a name -/

variable {data strings : Bytes} {header : FileHeader} {sections : List SectionHeader}
  {holder entry : SectionHeader} {offset : UInt32} {index : Nat}

/-- A section is named by its own offset into the strings of the section with the names. -/
theorem SectionTable.name_resolveNames (hindex : header.nameSection.toNat ≠ 0)
    (hholder : sections[header.nameSection.toNat]? = some holder)
    (hstrings : holder.contents data = .ok strings) (hentry : sections[index]? = some entry) :
    ((resolveNames data header sections).value[index]?).bind SectionHeader.name
      = ((StringTable.ofBytes strings).text entry.nameOffset).toOption := by
  have hfits : holder.Fits data.size := (Bytes.slice_eq_ok_iff.1 hstrings).1
  obtain rfl : strings = holder.body data := (Bytes.slice_eq_ok_iff.1 hstrings).2
  rw [value_resolveNames, named, nameHolder?_eq_some_iff.2 ⟨hindex, hholder⟩]
  dsimp only
  rw [if_pos hfits, List.getElem?_map, hentry]
  rfl

/-- A symbol is given the string at the offset of its name, and is not decoded without one. -/
theorem Symbol.exists_decode_iff {order : ByteOrder} {record : Bytes} (hsize : 24 ≤ record.size)
    (hoffset : record.Holds 0 (order.encode 4 offset.toNat)) (mode : LabelMode) (text : String) :
    (∃ symbol, decode order (.ofBytes strings) mode index record = .ok symbol ∧
        symbol.name = text)
      ↔ (StringTable.ofBytes strings).text offset = .ok text := by
  rw [decode_eq_map hsize, ByteOrder.u32_of_holds hoffset]
  cases (StringTable.ofBytes strings).text offset with
  | error error =>
    constructor
    · rintro ⟨symbol, hsymbol, -⟩
      cases hsymbol
    · intro htext
      cases htext
  | ok name =>
    constructor
    · rintro ⟨symbol, hsymbol, rfl⟩
      obtain rfl := Except.ok.inj hsymbol
      rfl
    · intro htext
      exact ⟨_, rfl, Except.ok.inj htext⟩

/-- An outcome has a value as an option exactly if it succeeds with it. -/
theorem toOption_eq_some_iff {ε α : Type} {outcome : Except ε α} {value : α} :
    outcome.toOption = some value ↔ outcome = .ok value := by
  cases outcome <;> simp [Except.toOption]

/-- A name holds no zero character, and well-formed bytes are the bytes of their name. -/
theorem StringTable.stored_of_text {text : String}
    (h : (ofBytes strings).text offset = .ok text) :
    ∃ content, (ofBytes strings).get offset = .ok content ∧ '\x00' ∉ text.toList ∧
      (ByteArray.IsValidUTF8 ⟨content⟩ → Utf8.encode text = content) := by
  rw [StringTable.text] at h
  cases hget : (ofBytes strings).get offset with
  | error error =>
    rw [hget] at h
    cases h
  | ok content =>
    rw [hget] at h
    obtain rfl := Except.ok.inj h
    obtain ⟨-, -, hzero⟩ := get_eq_ok_iff.1 hget
    exact ⟨content, rfl, Utf8.zero_not_mem_decodeLossy hzero, Utf8.encode_decodeLossy⟩

/-- Every table answers by its bytes at every offset. And where the section with the names can be
read, each section is named like a symbol with its offset into the same strings would be. -/
theorem names_agree :
    (∀ (table : StringTable) (offset : UInt32), table.LooksUp offset) ∧
      ∀ (data strings : Bytes) (header : FileHeader) (sections : List SectionHeader)
        (holder : SectionHeader), header.nameSection.toNat ≠ 0 →
        sections[header.nameSection.toNat]? = some holder → holder.contents data = .ok strings →
        ∀ (index : Nat) (entry : SectionHeader), sections[index]? = some entry →
          NamedAlike strings entry.nameOffset
            (((SectionTable.resolveNames data header sections).value[index]?).bind
              SectionHeader.name) := by
  refine ⟨StringTable.looksUp, ?_⟩
  intro data strings header sections holder hindex hholder hstrings index entry hentry
  rw [SectionTable.name_resolveNames hindex hholder hstrings hentry]
  constructor
  · intro order record hsize hoffset mode position text
    rw [toOption_eq_some_iff, Symbol.exists_decode_iff hsize hoffset]
  · intro text htext
    exact StringTable.stored_of_text (toOption_eq_some_iff.1 htext)

/-- A symbol that bears the name of the third section of the sample. -/
def Sample.namesake : Bytes :=
  ByteOrder.big.encode 4 5 ++ Array.replicate 20 0

/-- The name is the tail of another one, and section and symbol share it. -/
theorem names_agree_sample : Sample.strings.contents Sample.image = .ok Sample.names ∧
    ((SectionTable.resolveNames Sample.image Sample.header Sample.sections).value[2]?).bind
      SectionHeader.name = some "ße" ∧
    ∃ symbol, Symbol.decode .big (.ofBytes Sample.names) .full 7 Sample.namesake = .ok symbol ∧
      symbol.name = "ße" := by
  have hstrings : Sample.strings.contents Sample.image = .ok Sample.names := by
    rw [SectionHeader.contents_eq_ok Sample.placed.strings_fits, Sample.body_strings]
  have hname : ((SectionTable.resolveNames Sample.image Sample.header
      Sample.sections).value[2]?).bind SectionHeader.name = some "ße" := by
    rw [SectionTable.name_resolveNames (by decide) rfl hstrings rfl]
    decide
  have hagree := names_agree.2 Sample.image Sample.names Sample.header Sample.sections
    Sample.strings (by decide) rfl hstrings 2 Sample.strings rfl
  have hsize : 24 ≤ Sample.namesake.size := by decide
  have hoffset : Sample.namesake.Holds 0 (ByteOrder.big.encode 4 Sample.strings.nameOffset.toNat) :=
    (Bytes.holds_append.1 (Bytes.holds_zero_self Sample.namesake)).1
  exact ⟨hstrings, hname, (hagree.symbol_iff hsize hoffset .full 7 "ße").1 hname⟩

end ElfScope
