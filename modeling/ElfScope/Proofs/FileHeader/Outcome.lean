import ElfScope.Proofs.FileHeader

/-!
# What becomes of the file header

`FileHeader.Reads` lists the outcomes that reading the header of a file can have, each with what the
bytes of the file say where it is the one. Every condition rules out the ones in front of it, so the
relation also settles which of several defects is reported. Reading decides by it alone, and the
bytes behind the first 64 have no part in a header that is read (`decode_decides`).
-/

namespace ElfScope

variable {data : Bytes}

namespace ByteOrder

/-- The encoding byte 1 declares the little order, 2 the big one, and no other byte an order. -/
theorem ofEncoding?_eq_some_iff {encoding : UInt8} {order : ByteOrder} :
    ofEncoding? encoding = some order ↔
      encoding = 1 ∧ order = .little ∨ encoding = 2 ∧ order = .big := by
  unfold ofEncoding?
  split
  case isTrue hlittle =>
    subst hlittle
    simp [eq_comm]
  split
  case isTrue hlittle hbig =>
    subst hbig
    simp [eq_comm]
  case isFalse hlittle hbig => simp [hlittle, hbig]

/-- No order is declared by an encoding byte other than 1 and 2. -/
theorem ofEncoding?_eq_none_iff {encoding : UInt8} :
    ofEncoding? encoding = none ↔ encoding ≠ 1 ∧ encoding ≠ 2 := by
  unfold ofEncoding?
  split
  case isTrue hlittle => simp [hlittle]
  split
  case isTrue hlittle hbig => simp [hbig]
  case isFalse hlittle hbig => simp [hlittle, hbig]

end ByteOrder

namespace Identification

/-- The class is the fifth byte of the file. -/
theorem fileClass_ofBytes (h : 16 ≤ data.size) :
    data[4]? = some (ofBytes data h).fileClass := by
  rw [Array.getElem?_eq_getElem (by omega)]
  exact congrArg some (getElem_ofBytes h (by omega)).symm

/-- The encoding is the sixth byte of the file. -/
theorem encoding_ofBytes (h : 16 ≤ data.size) :
    data[5]? = some (ofBytes data h).encoding := by
  rw [Array.getElem?_eq_getElem (by omega)]
  exact congrArg some (getElem_ofBytes h (by omega)).symm

/-- A file that starts with the magic number shows it in its identification. -/
theorem magic_eq_of_holds (h : 16 ≤ data.size) (hmagic : data.Holds 0 ElfScope.magic.toArray) :
    (ofBytes data h).magic = ElfScope.magic := by
  have hfirst := Bytes.first?_eq_some_iff.2 hmagic
  rw [magic_ofBytes h] at hfirst
  exact Option.some.inj hfirst

end Identification

namespace FileHeader

/-- What reading the header of a file gives, in the order in which the defects are met.

The file starts with four other bytes than the magic number, and may have any length (`badMagic`).
Or no four other bytes are in sight, and the file is shorter than a header (`truncated`). Or the
magic number and all of the header are there, and the class is not the 64-bit one
(`unsupportedClass`). Or it is, and the encoding declares no byte order (`unsupportedEncoding`). Or
the encoding declares the byte order of the header, and the file starts with its bytes
(`accepted`). -/
inductive Reads (data : Bytes) : Except HeaderError FileHeader → Prop where
  | badMagic {found : Vector UInt8 4} (hfound : data.Holds 0 found.toArray)
      (hmagic : found ≠ #v[0x7f, 0x45, 0x4c, 0x46]) : Reads data (.error (.badMagic found))
  | truncated
      (hmagic : ∀ found : Vector UInt8 4, data.Holds 0 found.toArray →
        found = #v[0x7f, 0x45, 0x4c, 0x46])
      (hsize : data.size < 64) : Reads data (.error (.truncated data.size))
  | unsupportedClass {found : UInt8} (hmagic : data.Holds 0 #[0x7f, 0x45, 0x4c, 0x46])
      (hsize : 64 ≤ data.size) (hfound : data[4]? = some found) (hclass : found ≠ 2) :
      Reads data (.error (.unsupportedClass found))
  | unsupportedEncoding {found : UInt8} (hmagic : data.Holds 0 #[0x7f, 0x45, 0x4c, 0x46])
      (hsize : 64 ≤ data.size) (hclass : data[4]? = some 2) (hfound : data[5]? = some found)
      (hlittle : found ≠ 1) (hbig : found ≠ 2) :
      Reads data (.error (.unsupportedEncoding found))
  | accepted {header : FileHeader} (hmagic : data.Holds 0 #[0x7f, 0x45, 0x4c, 0x46])
      (hclass : data[4]? = some 2)
      (horder : data[5]? = some 1 ∧ header.order = .little
        ∨ data[5]? = some 2 ∧ header.order = .big)
      (hbytes : data.Holds 0 header.encode) : Reads data (.ok header)

/-- Without four other bytes in sight, a shortfall is the length. -/
theorem shortfall_eq_truncated
    (hmagic : ∀ found : Vector UInt8 4, data.Holds 0 found.toArray → found = magic) :
    shortfall data = .truncated data.size := by
  obtain ⟨found, hfirst, hne, -⟩ | hshortfall := shortfall_cases data
  · exact absurd (hmagic found (Bytes.first?_eq_some_iff.1 hfirst)) hne
  · exact hshortfall

/-- A file with the magic number and all of a header is decided by its class and its encoding. -/
theorem decode_of_magic {fileClass encoding : UInt8} (hmagic : data.Holds 0 magic.toArray)
    (hsize : 64 ≤ data.size) (hclass : data[4]? = some fileClass)
    (hencoding : data[5]? = some encoding) :
    decode data =
      if fileClass ≠ 2 then .error (.unsupportedClass fileClass)
      else
        (ByteOrder.ofEncoding? encoding).elim (.error (.unsupportedEncoding encoding))
          fun order =>
            .ok (ofBytes (.ofBytes data (Nat.le_trans (by decide) hsize)) order data) := by
  rw [Identification.fileClass_ofBytes (by omega), Option.some.injEq] at hclass
  rw [Identification.encoding_ofBytes (by omega), Option.some.injEq] at hencoding
  rw [decode_eq_map hsize, Identification.map_check, hclass, hencoding,
    if_neg (not_not_intro (Identification.magic_eq_of_holds (by omega) hmagic))]
  cases ByteOrder.ofEncoding? encoding <;> rfl

/-- The header of a file is read in one of these ways. -/
theorem reads_decode (data : Bytes) : Reads data (decode data) := by
  by_cases hmagic : ∀ found : Vector UInt8 4, data.Holds 0 found.toArray → found = magic
  case neg =>
    -- The magic number is looked at first in a short file and in a long one.
    obtain ⟨found, hfound, hne⟩ : ∃ found : Vector UInt8 4,
        data.Holds 0 found.toArray ∧ found ≠ magic := by
      simpa using hmagic
    rw [decode_of_badMagic (Bytes.first?_eq_some_iff.2 hfound) hne]
    exact .badMagic hfound hne
  by_cases hsize : 64 ≤ data.size
  case neg =>
    rw [decode_of_lt (by omega), shortfall_eq_truncated hmagic]
    exact .truncated hmagic (by omega)
  have hholds : data.Holds 0 magic.toArray := by
    have hfirst := Bytes.first?_eq_some_iff.1 (@Identification.magic_ofBytes data (by omega))
    rwa [hmagic _ hfirst] at hfirst
  have hclass : data[4]? = some data[4] := Array.getElem?_eq_getElem (by omega)
  have hencoding : data[5]? = some data[5] := Array.getElem?_eq_getElem (by omega)
  rw [decode_of_magic hholds hsize hclass hencoding]
  split
  case isTrue hne => exact .unsupportedClass hholds hsize hclass hne
  case isFalse heq =>
    rw [Decidable.not_not.1 heq] at hclass
    cases horder : ByteOrder.ofEncoding? data[5] with
    | none =>
      obtain ⟨hlittle, hbig⟩ := ByteOrder.ofEncoding?_eq_none_iff.1 horder
      exact .unsupportedEncoding hholds hsize hclass hencoding hlittle hbig
    | some order =>
      refine .accepted hholds hclass ?_
        (holds_encode_ofBytes order hsize (Bytes.holds_part (by omega)))
      obtain ⟨hlittle, rfl⟩ | ⟨hbig, rfl⟩ := ByteOrder.ofEncoding?_eq_some_iff.1 horder
      · exact .inl ⟨hlittle ▸ hencoding, rfl⟩
      · exact .inr ⟨hbig ▸ hencoding, rfl⟩

/-- The header of a file is read in one of the ways only. -/
theorem Reads.decode_eq {outcome : Except HeaderError FileHeader} (h : Reads data outcome) :
    decode data = outcome := by
  cases h with
  | badMagic hfound hmagic => exact decode_of_badMagic (Bytes.first?_eq_some_iff.2 hfound) hmagic
  | truncated hmagic hsize => rw [decode_of_lt hsize, shortfall_eq_truncated hmagic]
  | unsupportedClass hmagic hsize hfound hclass =>
    rw [decode_of_magic hmagic hsize hfound (Identification.encoding_ofBytes (by omega)),
      if_pos hclass]
  | unsupportedEncoding hmagic hsize hclass hfound hlittle hbig =>
    rw [decode_of_magic hmagic hsize hclass hfound, if_neg (not_not_intro rfl),
      ByteOrder.ofEncoding?_eq_none_iff.2 ⟨hlittle, hbig⟩, Option.elim_none]
  | @accepted header hmagic hclass horder hbytes =>
    have hsize : 64 ≤ data.size := by simpa using hbytes.1
    obtain ⟨encoding, hfound, hdeclared⟩ : ∃ encoding, data[5]? = some encoding ∧
        ByteOrder.ofEncoding? encoding = some header.order := by
      obtain ⟨hfound, horder⟩ | ⟨hfound, horder⟩ := horder
      · exact ⟨1, hfound, horder ▸ rfl⟩
      · exact ⟨2, hfound, horder ▸ rfl⟩
    rw [decode_of_magic hmagic hsize hclass hfound, if_neg (not_not_intro rfl), hdeclared,
      Option.elim_some, ofBytes_eq_ident hbytes (by omega), ofBytes_of_holds hbytes]

/-- The header of a file is read in the one way that `Reads` allows. No field of it is out of reach,
and a header that is read depends on the first 64 bytes only. -/
theorem decode_decides (data : Bytes) :
    (∀ outcome, decode data = outcome ↔ Reads data outcome) ∧
      (∀ error, decode data ≠ .error (.range error)) ∧
      ∀ header, decode data = .ok header →
        ∀ other : Bytes, other.part 0 64 = data.part 0 64 → decode other = .ok header := by
  refine ⟨fun outcome => ?_, decode_ne_range, fun header hheader other hpart => ?_⟩
  · constructor
    · rintro rfl
      exact reads_decode data
    · exact Reads.decode_eq
  · have hsize : header.encode.size = 64 := size_encode header
    have hother : other.Holds 0 header.encode :=
      (holds_encode_of_decode hheader).of_part_eq (by omega) (by rwa [hsize])
    exact decode_of_holds hother (check_of_decode hheader)

/-- A header of a file without sections. -/
def solitary : FileHeader where
  ident := ⟨#v[0x7f, 0x45, 0x4c, 0x46, 2, 1, 1, 3, 0, 0, 0, 0, 0, 0, 0, 0xff]⟩
  order := .little
  objectType := 2
  machine := 62
  version := 1
  entry := 0x0102030405060708
  programOffset := 64
  sectionOffset := 0
  flags := 0x80000001
  headerSize := 64
  programEntrySize := 56
  programCount := 1
  sectionEntrySize := 0
  sectionCount := 0
  nameSection := 0xffff

/-- The solitary header is read alike from a file that ends behind it and from one that goes on. -/
theorem decode_lengthened : decode solitary.encode = .ok solitary ∧
    (solitary.encode ++ #[0, 0xff]).part 0 64 = solitary.encode.part 0 64 ∧
    decode (solitary.encode ++ #[0, 0xff]) = .ok solitary := by
  have hread : decode solitary.encode = .ok solitary :=
    decode_of_holds (Bytes.holds_zero_self _) rfl
  have hpart : (solitary.encode ++ #[0, 0xff]).part 0 64 = solitary.encode.part 0 64 :=
    Bytes.part_append (by simp)
  exact ⟨hread, hpart, (decode_decides solitary.encode).2.2 solitary hread _ hpart⟩

end FileHeader

end ElfScope
