import ElfScope.Proofs.Report
import ElfScope.Proofs.Sink
import ElfScope.Report.Writing

/-!
# What is left of a report in a full sink

A report that is written piece by piece is written like its whole text at once (`putHeader_eq`,
`putSections_eq`, `putSymbols_eq`): one piece behind another one is written like their concatenation
(`put_seq`), and this holds of every column, every line and every row. So a sink with a limit has
the first bytes of the text, and the writing succeeds if and only if these are all of them
(`reports_cut`).
-/

namespace ElfScope.Report

/-! ## One piece behind another one -/

/-- To put a text into a sink is to write all its bytes. -/
theorem put_apply (text : String) (sink : Sink) :
    put text sink = sink.writeAll (Utf8.encode text) := rfl

/-- What is behind a piece is written if the piece is. -/
theorem bind_apply (first : Writing) (next : Unit → Writing) (sink : Sink) :
    (first >>= next) sink =
      match first sink with
      | (.ok (), rest) => next () rest
      | (.error error, rest) => (.error error, rest) := by
  change (match first sink with | (outcome, rest) => (ExceptT.bindCont next outcome) rest) = _
  obtain ⟨_ | _, rest⟩ := first sink <;> rfl

/-- Two pieces are written like their concatenation. -/
theorem put_seq (first second : String) : (do put first; put second) = put (first ++ second) := by
  funext sink
  rw [bind_apply, put_apply, put_apply, Utf8.encode_append, Sink.writeAll_append]
  rfl

/-- The pieces of a loop are written like their concatenation. -/
theorem forM_put {α : Type} (piece : α → String) (items : List α) :
    (forM items fun item => put (piece item)) = put (String.join (items.map piece)) := by
  induction items with
  | nil => rfl
  | cons item rest ih => rw [List.forM_cons, ih, put_seq, List.map_cons, String.join_cons]

/-! ## Columns -/

/-- The characters that fill a column are written like their concatenation. -/
theorem putFill_eq (fill : Char) (count : Nat) :
    putFill fill count = put (String.ofList (List.replicate count fill)) := by
  induction count with
  | zero => rfl
  | succ count ih =>
    rw [putFill, ih, put_seq, ← String.ofList_append, List.singleton_append, List.replicate_succ]

/-- To put padding and a text is to put the text padded on the left. -/
theorem putLeft_eq (fill : Char) (width : Nat) (text : String) :
    putLeft fill width text = put (Text.padLeft fill width text) := by
  rw [putLeft, putFill_eq, put_seq, Text.padLeft]

/-- To put a text and padding is to put the text padded on the right. -/
theorem putRight_eq (width : Nat) (text : String) :
    putRight width text = put (Text.padRight width text) := by
  rw [putRight, putFill_eq, put_seq, Text.padRight]

/-- To put the pieces of a hexadecimal literal is to put the literal. -/
theorem putLiteral_eq (number : Nat) : putLiteral number = put (Text.hexLiteral number) := by
  rw [putLiteral, put_seq, Text.hexLiteral]

/-! ## Lines and rows -/

/-- To put the pieces of a line is to put the line. -/
theorem putLine_eq (line : String) : putLine line = put (endLine line) := by
  rw [putLine, put_seq, endLine]

/-- To put the identification bytes one by one is to put their line. -/
theorem putMagic_eq (ident : Identification) :
    putMagic ident = put (endLine (magicLine ident)) := by
  unfold putMagic endLine magicLine Text.hexByte Text.hexColumn
  simp only [putLeft_eq, put_seq, forM_put, String.append_assoc]

/-- To put the pieces of a field is to put its line. -/
theorem putField_eq (label value : String) :
    putField label (put value) = put (endLine (fieldLine label value)) := by
  unfold putField endLine fieldLine
  simp only [putRight_eq, put_seq, String.append_assoc]

/-- To put the pieces of a number of bytes is to put its phrase. -/
theorem putByteCount_eq (number : UInt16) : putByteCount number = put (byteCount number) := by
  rw [putByteCount, put_seq, byteCount]

/-- To put the pieces of a position is to put its phrase. -/
theorem putPosition_eq (number : UInt64) : putPosition number = put (filePosition number) := by
  rw [putPosition, putLiteral_eq, put_seq, filePosition]

/-- To put the cells of a section one by one is to put its row. -/
theorem putSectionRow_eq (index : Nat) (entry : SectionHeader) :
    putSectionRow index entry = put (endLine (sectionRow index entry)) := by
  unfold putSectionRow endLine sectionRow Text.hexColumn
  simp only [putLeft_eq, putRight_eq, put_seq, String.append_assoc]

/-- To put the cells of a symbol one by one is to put its row. -/
theorem putSymbolRow_eq (symbol : Symbol) :
    putSymbolRow symbol = put (endLine (symbolRow symbol)) := by
  unfold putSymbolRow endLine symbolRow Text.hexColumn
  simp only [putLeft_eq, putRight_eq, put_seq, String.append_assoc]

/-! ## Reports -/

/-- The header report is written like its text. -/
theorem putHeader_eq (header : FileHeader) :
    putHeader header = put (text (headerLines header)) := by
  unfold putHeader headerLines
  simp only [putLine_eq, putMagic_eq, putLiteral_eq, putByteCount_eq, putPosition_eq, putField_eq,
    put_seq, text_cons, text_nil, String.append_empty]

/-- The section report is written like its text, row by row. -/
theorem putSections_eq (sections : List SectionHeader) :
    putSections sections = put (text (sectionLines sections)) := by
  have hrows : text (sectionRows 0 sections) = String.join
      (sections.zipIdx.map fun numbered => endLine (sectionRow numbered.2 numbered.1)) := by
    rw [text, sectionRows_eq, List.mapIdx_eq_zipIdx_map, List.map_map]
    simp only [Nat.zero_add]
    rfl
  unfold putSections sectionLines
  simp only [putLine_eq, putSectionRow_eq, forM_put, put_seq, text_cons, hrows]

/-- The symbol report is written like its text, row by row. -/
theorem putSymbols_eq (symbols : List Symbol) :
    putSymbols symbols = put (text (symbolLines symbols)) := by
  have hrow : putSymbolRow = fun symbol => put (endLine (symbolRow symbol)) :=
    funext putSymbolRow_eq
  have hrows : text (symbols.map symbolRow)
      = String.join (symbols.map fun symbol => endLine (symbolRow symbol)) := by
    rw [text, List.map_map]
    rfl
  unfold putSymbols symbolLines
  simp only [putLine_eq, hrow, forM_put, put_seq, text_cons, hrows]

/-! ## Sinks with a limit -/

/-- A writing of a text that stops where a sink has no room left.

A sink without a limit gets the text, and the writing succeeds (`whole`). A sink with a limit gets
the bytes of the text up to it, or all of them (`written`), and the writing succeeds if and only if
these are all (`ok_iff`). None of this depends on the pieces into which the text is divided
(`divided`). -/
structure Cut (writing : Writing) (text : String) : Prop where
  whole : writing (.empty none) = (.ok (), ⟨none, Utf8.encode text, 0⟩)
  written (limit : Nat) : (writing (.empty (some limit))).2.written
    = (Utf8.encode text).extract 0 (min limit (Utf8.encode text).size)
  ok_iff (limit : Nat) : (writing (.empty (some limit))).1 = .ok ()
    ↔ (Utf8.encode text).size ≤ limit
  divided {pieces : List String} (h : String.join pieces = text) (sink : Sink) :
    Sink.writeTexts pieces sink = writing sink

/-- A text that is put stops where the sink has no room left. -/
theorem cut_put (text : String) : Cut (put text) text where
  whole := by rw [put_apply, Sink.empty, Sink.writeAll_unlimited, Array.empty_append]
  written := by
    intro limit
    rw [put_apply, Sink.empty, Sink.writeAll_limited, Array.empty_append]
    dsimp only
    obtain hle | hle := Nat.le_total limit (Utf8.encode text).size
    · rw [Nat.min_eq_left hle]
    · rw [Nat.min_eq_right hle, Array.extract_eq_self_of_le hle, Array.extract_size]
  ok_iff := by
    intro limit
    rw [put_apply, Sink.empty, Sink.writeAll_limited]
    dsimp only
    split
    case isTrue hle => exact iff_of_true rfl hle
    case isFalse hlt => exact iff_of_false nofun hlt
  divided := by
    rintro pieces rfl sink
    exact Sink.writeTexts_eq pieces sink

/-- The reports of all headers, of all lists of sections and of all lists of symbols are written in
this way, so none is taken for complete that is not. -/
theorem reports_cut :
    (∀ header : FileHeader, Cut (putHeader header) (text (headerLines header))) ∧
      (∀ sections : List SectionHeader, Cut (putSections sections) (text (sectionLines sections))) ∧
      ∀ symbols : List Symbol, Cut (putSymbols symbols) (text (symbolLines symbols)) := by
  refine ⟨fun header => ?_, fun sections => ?_, fun symbols => ?_⟩
  · rw [putHeader_eq]
    exact cut_put _
  · rw [putSections_eq]
    exact cut_put _
  · rw [putSymbols_eq]
    exact cut_put _

end ElfScope.Report
