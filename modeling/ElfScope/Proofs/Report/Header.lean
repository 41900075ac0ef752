import ElfScope.Proofs.Inspection.RoundTrip
import ElfScope.Proofs.Report

/-!
# The header report, read back

The report has a line for the identification and a line for each number, and each of them settles
what it shows (`headerLines_inj`). No line holds a newline, so the text settles the lines, and
the header report identifies the first 64 bytes of a file (`headerReport_eq_iff`).
-/

namespace ElfScope.Report

open Text (decimal hexLiteral hexByte hexBytes_inj decimal_injective hexLiteral_injective)

/-! ## The identification -/

/-- The line with the identification bytes determines them. -/
theorem magicLine_injective : Function.Injective magicLine := by
  intro first second h
  have hlength : first.bytes.toList.length = second.bytes.toList.length := by
    rw [Vector.length_toList, Vector.length_toList]
  have hbytes := hexBytes_inj hlength ((String.append_right_inj _).1 h)
  cases first
  cases second
  exact congrArg Identification.mk (Vector.toList_inj.1 hbytes)

/-! ## The numbers -/

/-- No two numbers without a name have the same label. -/
theorem unknown_injective : Function.Injective unknown := fun _ _ h =>
  hexLiteral_injective ((String.append_right_inj _).1 ((String.append_left_inj _).1 h))

/-- An object type has a name, which does not look like a number without one, or is shown as a
number without a name. -/
theorem objectTypeName_cases (type : UInt16) :
    (type.toNat < 5 ∧ (objectTypeName type).toList.head? ≠ some '<') ∨
      objectTypeName type = unknown type.toNat := by
  unfold objectTypeName
  split
  case h_6 => exact .inr rfl
  all_goals exact .inl (by decide)

/-- The label of a number without a name starts with a bracket. -/
theorem head?_unknown (number : Nat) : (unknown number).toList.head? = some '<' := by
  simp [unknown]

/-- Different object types are shown differently. -/
theorem objectTypeName_injective : Function.Injective objectTypeName := by
  have hnames : ∀ first < 5, ∀ second < 5,
      objectTypeName (.ofNat first) = objectTypeName (.ofNat second) → first = second := by
    decide
  intro first second h
  rcases objectTypeName_cases first with ⟨hfirst, hhead⟩ | hfirst <;>
    rcases objectTypeName_cases second with ⟨hsecond, hother⟩ | hsecond
  · exact UInt16.toNat_inj.1 (hnames _ hfirst _ hsecond (by simpa using h))
  · rw [h, hsecond] at hhead
    exact absurd (head?_unknown _) hhead
  · rw [← h, hfirst] at hother
    exact absurd (head?_unknown _) hother
  · rw [hfirst, hsecond] at h
    exact UInt16.toNat_inj.1 (unknown_injective h)

/-- The line of a field determines its value. -/
theorem fieldLine_inj {label first second : String}
    (h : fieldLine label first = fieldLine label second) : first = second :=
  (String.append_right_inj _).1 h

/-- No two numbers of bytes have the same phrase. -/
theorem byteCount_injective : Function.Injective byteCount := fun _ _ h =>
  UInt16.toNat_inj.1 (decimal_injective ((String.append_left_inj _).1 h))

/-- No two positions in the file have the same phrase. -/
theorem filePosition_injective : Function.Injective filePosition := fun _ _ h =>
  UInt64.toNat_inj.1 (hexLiteral_injective ((String.append_left_inj _).1 h))

/-! ## The lines -/

/-- The lines settle all of a header but its byte order. -/
theorem headerLines_inj {first second : FileHeader} (horder : first.order = second.order)
    (h : headerLines first = headerLines second) : first = second := by
  simp only [headerLines, List.cons.injEq, and_true] at h
  obtain ⟨-, hident, -, -, -, -, -, htype, hmachine, hversion, hentry, hprograms, hsections, hflags,
    hsize, hprogramSize, hprogramCount, hsectionSize, hsectionCount, hnames⟩ := h
  rw [FileHeader.mk.injEq]
  refine ⟨magicLine_injective hident, horder, objectTypeName_injective (fieldLine_inj htype),
    UInt16.toNat_inj.1 (hexLiteral_injective (fieldLine_inj hmachine)),
    UInt32.toNat_inj.1 (hexLiteral_injective (fieldLine_inj hversion)),
    UInt64.toNat_inj.1 (hexLiteral_injective (fieldLine_inj hentry)),
    filePosition_injective (fieldLine_inj hprograms),
    filePosition_injective (fieldLine_inj hsections),
    UInt32.toNat_inj.1 (hexLiteral_injective (fieldLine_inj hflags)),
    byteCount_injective (fieldLine_inj hsize),
    byteCount_injective (fieldLine_inj hprogramSize),
    UInt16.toNat_inj.1 (decimal_injective (fieldLine_inj hprogramCount)),
    byteCount_injective (fieldLine_inj hsectionSize),
    UInt16.toNat_inj.1 (decimal_injective (fieldLine_inj hsectionCount)),
    UInt16.toNat_inj.1 (decimal_injective (fieldLine_inj hnames))⟩

section Newlines

/-- The label of a number without a name has no newlines. -/
@[simp]
theorem newlines_unknown (number : Nat) : newlines (unknown number) = 0 := by
  have hopen : newlines "<unknown: " = 0 := rfl
  have hclose : newlines ">" = 0 := rfl
  simp [unknown, hopen, hclose]

/-- The name of a class has no newlines. -/
@[simp]
theorem newlines_className (fileClass : UInt8) : newlines (className fileClass) = 0 := by
  unfold className
  split
  case h_3 => exact newlines_unknown _
  all_goals rfl

/-- The name of an encoding has no newlines. -/
@[simp]
theorem newlines_encodingName (encoding : UInt8) : newlines (encodingName encoding) = 0 := by
  unfold encodingName
  split
  case h_3 => exact newlines_unknown _
  all_goals rfl

/-- The name of a version has no newlines. -/
@[simp]
theorem newlines_versionName (version : UInt8) : newlines (versionName version) = 0 := by
  unfold versionName
  split
  case isTrue => rfl
  case isFalse => exact newlines_decimal _

/-- The name of an operating system has no newlines. -/
@[simp]
theorem newlines_osabiName (osabi : UInt8) : newlines (osabiName osabi) = 0 := by
  unfold osabiName
  split
  case h_13 => exact newlines_unknown _
  all_goals rfl

/-- The name of an object type has no newlines. -/
@[simp]
theorem newlines_objectTypeName (type : UInt16) : newlines (objectTypeName type) = 0 := by
  unfold objectTypeName
  split
  case h_6 => exact newlines_unknown _
  all_goals rfl

/-- A number of bytes has no newlines. -/
@[simp]
theorem newlines_byteCount (number : UInt16) : newlines (byteCount number) = 0 := by
  have hunit : newlines " (bytes)" = 0 := rfl
  simp [byteCount, hunit]

/-- A position in the file has no newlines. -/
@[simp]
theorem newlines_filePosition (number : UInt64) : newlines (filePosition number) = 0 := by
  have hunit : newlines " (bytes into file)" = 0 := rfl
  simp [filePosition, hunit]

/-- The line with the identification bytes has no newlines. -/
@[simp]
theorem newlines_magicLine (ident : Identification) : newlines (magicLine ident) = 0 := by
  have hlabel : newlines "  Magic:  " = 0 := rfl
  have hblank : newlines " " = 0 := rfl
  rw [magicLine, newlines_append, hlabel, Nat.zero_add]
  refine newlines_join fun text hmem => ?_
  obtain ⟨byte, -, rfl⟩ := List.mem_map.1 hmem
  rw [newlines_append, hblank, newlines_hexByte]

/-- The newlines of a field are those of its label and of its value. -/
@[simp]
theorem newlines_fieldLine (label value : String) :
    newlines (fieldLine label value) = newlines label + newlines value := by
  have hmargin : newlines "  " = 0 := rfl
  have hcolon : newlines ":" = 0 := rfl
  simp [fieldLine, hmargin, hcolon]

/-- No line of the report holds a newline. -/
theorem newline_not_mem_headerLines (header : FileHeader) :
    ∀ line ∈ headerLines header, '\n' ∉ line.toList := by
  intro line hmem
  rw [← newlines_eq_zero_iff]
  revert line
  simp only [headerLines, List.forall_mem_cons, newlines_fieldLine, newlines_magicLine,
    newlines_className, newlines_encodingName, newlines_versionName, newlines_osabiName,
    newlines_objectTypeName, newlines_byteCount, newlines_filePosition, newlines_decimal,
    newlines_hexLiteral, Nat.add_zero]
  decide

end Newlines

/-- A header is reported in twenty lines. -/
theorem length_headerLines (header : FileHeader) : (headerLines header).length = 20 := rfl

/-! ## The whole report -/

/-- The header report has twenty lines, and it is the same for two files exactly if they start with
the same 64 bytes. -/
theorem headerReport_eq_iff {data other : Bytes} {header otherHeader : FileHeader}
    (h : FileHeader.decode data = .ok header)
    (hother : FileHeader.decode other = .ok otherHeader) :
    (text (headerLines header) = text (headerLines otherHeader) ↔
      data.part 0 64 = other.part 0 64) ∧
    newlines (text (headerLines header)) = 20 ∧
    linesOf (text (headerLines header)) = headerLines header ++ [""] := by
  have hholds := FileHeader.holds_encode_of_decode h
  have hotherHolds := FileHeader.holds_encode_of_decode hother
  refine ⟨⟨fun htext => ?_, fun hbytes => ?_⟩, ?_, ?_⟩
  · have hlines := text_inj (newline_not_mem_headerLines header)
      (newline_not_mem_headerLines otherHeader) htext
    -- The identification is shown, and it declares the byte order, which is not.
    have hident : header.ident = otherHeader.ident :=
      magicLine_injective (List.cons.inj (List.cons.inj hlines).2).1
    have hcheck := FileHeader.check_of_decode h
    rw [hident, FileHeader.check_of_decode hother, Except.ok.injEq] at hcheck
    have hsame : header = otherHeader := headerLines_inj hcheck.symm hlines
    rw [hholds.part_eq header.size_encode, hotherHolds.part_eq otherHeader.size_encode, hsame]
  · -- The file starts with the bytes of the other header, and so that one is read from it.
    have hreads : data.Holds 0 otherHeader.encode := by
      rw [← hotherHolds.part_eq otherHeader.size_encode, ← hbytes]
      exact Bytes.holds_part (FileHeader.size_le_of_decode h)
    have hdecode := FileHeader.decode_of_holds hreads (FileHeader.check_of_decode hother)
    rw [h, Except.ok.injEq] at hdecode
    rw [hdecode]
  · rw [newlines_text_of_not_mem (newline_not_mem_headerLines header), length_headerLines]
  · exact linesOf_text (newline_not_mem_headerLines header)

/-- The header of the sample with all its numbers in the other byte order. -/
def littleHeader : FileHeader :=
  { Sample.header with
    ident := ⟨#v[0x7f, 0x45, 0x4c, 0x46, 2, 1, 1, 0, 0, 0, 0, 0, 0, 0, 0, 0]⟩
    order := .little }

/-- Headers with the same numbers in either byte order have different reports. -/
theorem headerReport_little :
    FileHeader.decode Sample.header.encode = .ok Sample.header ∧
    FileHeader.decode littleHeader.encode = .ok littleHeader ∧
    text (headerLines Sample.header) ≠ text (headerLines littleHeader) ∧
    newlines (text (headerLines littleHeader)) = 20 := by
  have hbig : FileHeader.decode Sample.header.encode = .ok Sample.header :=
    FileHeader.decode_of_holds (Bytes.holds_zero_self _) rfl
  have hlittle : FileHeader.decode littleHeader.encode = .ok littleHeader :=
    FileHeader.decode_of_holds (Bytes.holds_zero_self _) rfl
  refine ⟨hbig, hlittle, mt (headerReport_eq_iff hbig hlittle).1.1 ?_,
    (headerReport_eq_iff hlittle hbig).2.1⟩
  decide

end ElfScope.Report
