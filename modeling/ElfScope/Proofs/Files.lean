import ElfScope.Files
import ElfScope.Proofs.Utf8.WellFormed

/-!
# Files as text

What a path leads to is read as a text exactly if it is a file with the bytes of that text
(`Files.text_eq_ok_iff`).
-/

namespace ElfScope

variable {text : String}

/-- What a name stands for has a text exactly if it is a file with the bytes of the text. -/
theorem Entry.text_eq_ok_iff {entry : Entry} :
    entry.text = .ok text ↔ entry = .file (Utf8.encode text) := by
  cases entry with
  | directory => simp [Entry.text]
  | file contents =>
    rw [Entry.file.injEq, ← Utf8.decode_eq_some_iff, Entry.text]
    cases Utf8.decode contents <;> simp

/-- What a name stands for cannot be read as a text if it is anything but a file with the bytes of
one. -/
theorem Entry.exists_text_eq_error_iff {entry : Entry} :
    (∃ fault, entry.text = .error fault) ↔ ∀ text, entry ≠ .file (Utf8.encode text) := by
  simp only [ne_eq, ← Entry.text_eq_ok_iff]
  cases entry.text <;> simp

/-- A path has a text exactly if it leads to a file with the bytes of the text. -/
theorem Files.text_eq_ok_iff {files : Files} {path : String} :
    files.text path = .ok text ↔ files.entry path = .ok (.file (Utf8.encode text)) := by
  rw [Files.text]
  cases files.entry path with
  | error fault => simp [bind, Except.bind]
  | ok entry =>
    rw [Except.ok.injEq, ← Entry.text_eq_ok_iff]
    rfl

end ElfScope
