import ElfScope.FileHeader
import ElfScope.Proofs.Number

/-!
# Reading the file header

A file shorter than a header is refused by its shortfall (`decode_of_lt`). Any other is checked by
its identification alone, and its header is then made of the numbers at their places
(`decode_eq_map`). A file that starts with the bytes of a header gives that header back
(`decode_of_holds`).
-/

namespace ElfScope

variable {data : Bytes}

/-- The defect shows in the bytes that are there, whatever comes behind them. -/
def HeaderError.IsFinal : HeaderError → Prop
  | .badMagic _ | .unsupportedClass _ | .unsupportedEncoding _ => True
  | .truncated _ | .range _ => False

/-! ## The identification -/

namespace Identification

/-- The identification at the start of a file that is long enough. -/
def ofBytes (data : Bytes) (h : 16 ≤ data.size) : Identification :=
  ⟨⟨data.part 0 16, Bytes.size_part (by omega)⟩⟩

/-- The byte order that an acceptable identification declares; otherwise its first defect. -/
def check (ident : Identification) : Except HeaderError ByteOrder :=
  if ident.magic ≠ ElfScope.magic then .error (.badMagic ident.magic)
  else if ident.fileClass ≠ 2 then .error (.unsupportedClass ident.fileClass)
  else
    match ByteOrder.ofEncoding? ident.encoding with
    | none => .error (.unsupportedEncoding ident.encoding)
    | some order => .ok order

/-- What follows an accepted identification comes behind all its checks. -/
theorem map_check {α : Type} (ident : Identification) (f : ByteOrder → α) :
    ident.check.map f =
      if ident.magic ≠ ElfScope.magic then .error (.badMagic ident.magic)
      else if ident.fileClass ≠ 2 then .error (.unsupportedClass ident.fileClass)
      else
        match ByteOrder.ofEncoding? ident.encoding with
        | none => .error (.unsupportedEncoding ident.encoding)
        | some order => .ok (f order) := by
  rw [check]
  split
  case isTrue => rfl
  split
  case isTrue => rfl
  cases ByteOrder.ofEncoding? ident.encoding <;> rfl

/-- Each byte of the identification is a byte of the file. -/
theorem getElem_ofBytes (h : 16 ≤ data.size) {index : Nat} (hlt : index < 16) :
    (ofBytes data h).bytes[index] = data[index] := by
  simp [ofBytes, Bytes.part]

/-- The magic number is the first four bytes of the file. -/
theorem magic_ofBytes (h : 16 ≤ data.size) :
    data.first? 4 = some (ofBytes data h).magic := by
  rw [Bytes.first?, dif_pos (by omega)]
  congr 1
  ext index hindex
  obtain rfl | rfl | rfl | rfl : index = 0 ∨ index = 1 ∨ index = 2 ∨ index = 3 := by omega
  all_goals simp [magic, getElem_ofBytes]

/-- Files that share their first six bytes pass or fail the check alike. -/
theorem check_ofBytes_congr {other : Bytes} (h : 16 ≤ data.size) (hother : 16 ≤ other.size)
    (hagree : other.part 0 6 = data.part 0 6) :
    (ofBytes other hother).check = (ofBytes data h).check := by
  have hbyte : ∀ index (hlt : index < 6),
      (ofBytes other hother).bytes[index] = (ofBytes data h).bytes[index] := by
    intro index hlt
    have hget := congrArg (·[index]?) hagree
    simpa [Bytes.getElem?_part, hlt, getElem_ofBytes, show index < data.size by omega,
      show index < other.size by omega] using hget
  have hmagic : (ofBytes other hother).magic = (ofBytes data h).magic := by
    simp only [magic, hbyte 0 (by omega), hbyte 1 (by omega), hbyte 2 (by omega),
      hbyte 3 (by omega)]
  have hclass : (ofBytes other hother).fileClass = (ofBytes data h).fileClass :=
    hbyte 4 (by omega)
  have hencoding : (ofBytes other hother).encoding = (ofBytes data h).encoding :=
    hbyte 5 (by omega)
  rw [check, check, hmagic, hclass, hencoding]

end Identification

namespace FileHeader

/-- The header whose numbers stand in the first 64 bytes of a file. -/
def ofBytes (ident : Identification) (order : ByteOrder) (data : Bytes) : FileHeader where
  ident := ident
  order := order
  objectType := .ofNat (order.numberAt data 2 16)
  machine := .ofNat (order.numberAt data 2 18)
  version := .ofNat (order.numberAt data 4 20)
  entry := .ofNat (order.numberAt data 8 24)
  programOffset := .ofNat (order.numberAt data 8 32)
  sectionOffset := .ofNat (order.numberAt data 8 40)
  flags := .ofNat (order.numberAt data 4 48)
  headerSize := .ofNat (order.numberAt data 2 52)
  programEntrySize := .ofNat (order.numberAt data 2 54)
  programCount := .ofNat (order.numberAt data 2 56)
  sectionEntrySize := .ofNat (order.numberAt data 2 58)
  sectionCount := .ofNat (order.numberAt data 2 60)
  nameSection := .ofNat (order.numberAt data 2 62)

/-- No field of a block of 64 bytes lies outside of it. -/
theorem decodeFields_eq_ofBytes {ident : Identification} {order : ByteOrder} {block : Bytes}
    (h : 64 ≤ block.size) : decodeFields ident order block = .ok (ofBytes ident order block) := by
  simp (disch := simp; omega) only [decodeFields, FieldReader.u16_eq, FieldReader.u32_eq,
    FieldReader.u64_eq]
  rfl

/-- The numbers of a header come from the first 64 bytes. -/
theorem ofBytes_part {ident : Identification} {order : ByteOrder} :
    ofBytes ident order (data.part 0 64) = ofBytes ident order data := by
  simp (disch := omega) only [ofBytes, ByteOrder.numberAt_part, Nat.zero_add]

/-! ## Acceptance -/

/-- A file that is shorter than a header is refused. -/
theorem decode_of_lt (h : data.size < 64) : decode data = .error (shortfall data) := by
  have hfirst : data.first? FileHeader.size = none := dif_neg (by simp [FileHeader.size]; omega)
  rw [decode, hfirst]

/-- A file that has a header is long enough for it. -/
theorem size_le_of_decode {header : FileHeader} (h : decode data = .ok header) :
    64 ≤ data.size := by
  refine Nat.le_of_not_lt fun hlt => ?_
  rw [decode_of_lt hlt] at h
  cases h

/-- The first 64 bytes of a file are accepted by their identification alone. -/
theorem decode_of_first? {block : Vector UInt8 FileHeader.size}
    (h : data.first? FileHeader.size = some block) :
    decode data = (Identification.check ⟨block.extract 0 16⟩).map
      fun order => ofBytes ⟨block.extract 0 16⟩ order block.toArray := by
  have hsize : 64 ≤ block.toArray.size := by simp [FileHeader.size]
  rw [decode, h, Identification.map_check]
  simp only [decodeFields_eq_ofBytes hsize]
  rfl

/-- A file of 64 bytes or more is accepted by its identification alone. -/
theorem decode_eq_map (h : 64 ≤ data.size) :
    decode data = (Identification.ofBytes data (by omega)).check.map
      fun order => ofBytes (.ofBytes data (by omega)) order data := by
  obtain ⟨block, hfirst, hblock⟩ :
      ∃ block, data.first? FileHeader.size = some block ∧ block.toArray = data.part 0 64 :=
    ⟨_, dif_pos h, rfl⟩
  have hident : (⟨block.extract 0 16⟩ : Identification) = .ofBytes data (by omega) := by
    refine congrArg Identification.mk (Vector.toArray_inj.1 ?_)
    show Bytes.part block.toArray 0 16 = data.part 0 16
    rw [hblock, Bytes.part_part (by omega)]
  rw [decode_of_first? hfirst, hident]
  simp only [hblock, ofBytes_part]

/-- A file that starts with four other bytes than the magic number is refused for that, whatever
its length. -/
theorem decode_of_badMagic {found : Vector UInt8 4} (h : data.first? 4 = some found)
    (hfound : found ≠ magic) : decode data = .error (.badMagic found) := by
  by_cases hsize : 64 ≤ data.size
  · rw [Identification.magic_ofBytes (by omega), Option.some.injEq] at h
    subst found
    rw [decode_eq_map hsize, Identification.check, if_pos hfound]
    rfl
  · rw [decode_of_lt (by omega), shortfall, h]
    exact congrArg _ (if_neg hfound)

/-- A header that is there in full is refused for a final defect. -/
theorem isFinal_of_decode {error : HeaderError} (hsize : 64 ≤ data.size)
    (h : decode data = .error error) : error.IsFinal := by
  rw [decode_eq_map hsize, Identification.map_check] at h
  split at h
  case isTrue => cases h; trivial
  split at h
  case isTrue => cases h; trivial
  split at h
  case h_1 => cases h; trivial
  case h_2 => cases h

/-- A shortfall is a wrong magic number in sight, or the length. -/
theorem shortfall_cases (data : Bytes) :
    (∃ found, data.first? 4 = some found ∧ found ≠ magic ∧ shortfall data = .badMagic found)
      ∨ shortfall data = .truncated data.size := by
  cases hfirst : data.first? 4 with
  | none =>
    rw [shortfall, hfirst]
    exact .inr rfl
  | some found =>
    by_cases hfound : found = magic
    · refine .inr ?_
      rw [shortfall, hfirst]
      exact if_pos hfound
    · refine .inl ⟨found, rfl, hfound, ?_⟩
      rw [shortfall, hfirst]
      exact if_neg hfound

/-- A header that is read is in the byte order that its identification declares. -/
theorem check_of_decode {header : FileHeader} (h : decode data = .ok header) :
    header.ident.check = .ok header.order := by
  have hsize : 64 ≤ data.size := size_le_of_decode h
  rw [decode_eq_map hsize] at h
  cases hcheck : (Identification.ofBytes data (by omega)).check with
  | error error =>
    rw [hcheck] at h
    cases h
  | ok order =>
    rw [hcheck] at h
    cases h
    exact hcheck

/-- No header is refused for a field. -/
theorem decode_ne_range (error : RangeError) : decode data ≠ .error (.range error) := by
  intro h
  by_cases hsize : 64 ≤ data.size
  · exact isFinal_of_decode hsize h
  · rw [decode_of_lt (by omega)] at h
    obtain ⟨found, -, -, hshort⟩ | hshort := shortfall_cases data
    · cases hshort.symm.trans (Except.error.inj h)
    · cases hshort.symm.trans (Except.error.inj h)

/-! ## Round trip -/

/-- An encoded header has 64 bytes. -/
@[simp]
theorem size_encode (header : FileHeader) : header.encode.size = 64 := by
  simp [encode]

/-- The numbers of a header are read back as they were written. -/
theorem ofBytes_of_holds {header : FileHeader} (h : data.Holds 0 header.encode) :
    ofBytes header.ident header.order data = header := by
  simp only [encode, Bytes.holds_append, Array.size_append, ByteOrder.size_encode,
    Vector.size_toArray, Nat.reduceAdd, Nat.zero_add] at h
  obtain ⟨⟨⟨⟨⟨⟨⟨⟨⟨⟨⟨⟨⟨-, h16⟩, h18⟩, h20⟩, h24⟩, h32⟩, h40⟩, h48⟩, h52⟩, h54⟩, h56⟩, h58⟩, h60⟩,
    h62⟩ := h
  simp only [ofBytes, ByteOrder.u16_of_holds h16, ByteOrder.u16_of_holds h18,
    ByteOrder.u32_of_holds h20, ByteOrder.u64_of_holds h24, ByteOrder.u64_of_holds h32,
    ByteOrder.u64_of_holds h40, ByteOrder.u32_of_holds h48, ByteOrder.u16_of_holds h52,
    ByteOrder.u16_of_holds h54, ByteOrder.u16_of_holds h56, ByteOrder.u16_of_holds h58,
    ByteOrder.u16_of_holds h60, ByteOrder.u16_of_holds h62]

/-- The numbers in the first 64 bytes are written back as they stand there. -/
theorem holds_encode_ofBytes {ident : Identification} (order : ByteOrder) (h : 64 ≤ data.size)
    (hident : data.Holds 0 ident.bytes.toArray) :
    data.Holds 0 (ofBytes ident order data).encode := by
  simp only [encode, Bytes.holds_append, Array.size_append, ByteOrder.size_encode,
    Vector.size_toArray, Nat.reduceAdd, Nat.zero_add]
  refine ⟨⟨⟨⟨⟨⟨⟨⟨⟨⟨⟨⟨⟨hident, ?_⟩, ?_⟩, ?_⟩, ?_⟩, ?_⟩, ?_⟩, ?_⟩, ?_⟩, ?_⟩, ?_⟩, ?_⟩, ?_⟩, ?_⟩
  case refine_3 | refine_7 => exact ByteOrder.holds_u32 (by omega)
  case refine_4 | refine_5 | refine_6 => exact ByteOrder.holds_u64 (by omega)
  all_goals exact ByteOrder.holds_u16 (by omega)

/-- The first 64 bytes of a file are those of the header that is read from them. -/
theorem holds_encode_of_decode {header : FileHeader} (h : decode data = .ok header) :
    data.Holds 0 header.encode := by
  have hsize : 64 ≤ data.size := size_le_of_decode h
  rw [decode_eq_map hsize] at h
  cases hcheck : (Identification.ofBytes data (by omega)).check with
  | error error =>
    rw [hcheck] at h
    cases h
  | ok order =>
    rw [hcheck] at h
    cases h
    exact holds_encode_ofBytes order hsize (Bytes.holds_part (by omega))

/-- The identification of a file is the one of a header that it starts with. -/
theorem ofBytes_eq_ident {header : FileHeader} (h : data.Holds 0 header.encode)
    (hsize : 16 ≤ data.size) : Identification.ofBytes data hsize = header.ident := by
  have hfront : data.Holds 0 header.ident.bytes.toArray := by
    simp only [encode, Bytes.holds_append] at h
    exact h.1.1.1.1.1.1.1.1.1.1.1.1.1
  have hbytes : data.part 0 16 = header.ident.bytes.toArray := hfront.part_eq (by simp)
  simp [Identification.ofBytes, hbytes]

/-- A file that starts with the bytes of an acceptable header has that header. -/
theorem decode_of_holds {header : FileHeader} (h : data.Holds 0 header.encode)
    (hcheck : header.ident.check = .ok header.order) : decode data = .ok header := by
  have hsize : 64 ≤ data.size := by simpa using h.1
  rw [decode_eq_map hsize, ofBytes_eq_ident h (by omega), hcheck]
  exact congrArg _ (ofBytes_of_holds h)

end FileHeader

end ElfScope
