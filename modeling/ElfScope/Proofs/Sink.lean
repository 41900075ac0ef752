import ElfScope.Sink

/-!
# What a sink accepts

A sink accepts the first of the bytes that are written, as far as it has room, and writing succeeds
if these are all of them (`writeAll_unlimited`, `writeAll_limited`). So it makes no difference into
which pieces a text is divided (`writeAll_append`, `writeTexts_eq`).
-/

namespace ElfScope.Sink

variable {bytes : Bytes} {sink : Sink}

/-! ## One offer -/

/-- Without a limit, everything is accepted. -/
theorem write_unlimited (bytes written : Bytes) (flushes : Nat) :
    write ⟨none, written, flushes⟩ bytes = (bytes.size, ⟨none, written ++ bytes, flushes⟩) := rfl

/-- With a limit, the bytes up to it are accepted. -/
theorem write_limited (bytes written : Bytes) (room flushes : Nat) :
    write ⟨some room, written, flushes⟩ bytes =
      (min room bytes.size,
        ⟨some (room - bytes.size), written ++ bytes.extract 0 room, flushes⟩) := by
  have hsize : (bytes.extract 0 room).size = min room bytes.size := by
    rw [Array.size_extract, Nat.sub_zero]
  have hroom : room - min room bytes.size = room - bytes.size := by omega
  simp only [write, hsize, hroom]

/-! ## What is left -/

/-- Where nothing is left, nothing more happens. -/
theorem offer_empty (rounds : Nat) (sink : Sink) : offer rounds #[] sink = (.ok (), sink) := by
  cases rounds <;> rfl

/-- An offer of which a part is accepted leaves the rest to the next one. -/
theorem offer_succ {count rounds : Nat} {next : Sink}
    (hwrite : sink.write bytes = (count + 1, next)) (hne : bytes.size ≠ 0) :
    offer (rounds + 1) bytes sink = offer rounds (bytes.extract (count + 1)) next := by
  have hempty : ¬ bytes.isEmpty := by simpa [Array.isEmpty] using hne
  rw [offer, if_neg hempty, hwrite]
  rfl

/-- A full sink accepts nothing. -/
theorem offer_full (rounds : Nat) (written : Bytes) (flushes : Nat) (hne : bytes.size ≠ 0) :
    offer rounds bytes ⟨some 0, written, flushes⟩ = (.error .full, ⟨some 0, written, flushes⟩) := by
  have hempty : ¬ bytes.isEmpty := by simpa [Array.isEmpty] using hne
  cases rounds with
  | zero => rw [offer, if_neg hempty]
  | succ rounds =>
    rw [offer, if_neg hempty, write_limited]
    simp

/-- A sink without a limit accepts everything. -/
theorem writeAll_unlimited (bytes written : Bytes) (flushes : Nat) :
    writeAll bytes ⟨none, written, flushes⟩ = (.ok (), ⟨none, written ++ bytes, flushes⟩) := by
  rw [writeAll]
  cases hsize : bytes.size with
  | zero =>
    obtain rfl := Array.size_eq_zero_iff.1 hsize
    rw [offer_empty, Array.append_empty]
  | succ rounds =>
    have hrest : bytes.extract (rounds + 1) = #[] := by simp [hsize]
    rw [offer_succ (by rw [write_unlimited, hsize]) (by omega), hrest, offer_empty]

/-- A sink with a limit accepts the bytes up to it, and succeeds if these are all. -/
theorem writeAll_limited (bytes written : Bytes) (room flushes : Nat) :
    writeAll bytes ⟨some room, written, flushes⟩ =
      (if bytes.size ≤ room then .ok () else .error .full,
        ⟨some (room - bytes.size), written ++ bytes.extract 0 room, flushes⟩) := by
  rw [writeAll]
  cases hsize : bytes.size with
  | zero =>
    obtain rfl := Array.size_eq_zero_iff.1 hsize
    rw [offer_empty]
    simp
  | succ rounds =>
    cases room with
    | zero =>
      rw [offer_full _ _ _ (by omega)]
      simp
    | succ room =>
      -- The first offer takes the smaller of the two, and the second one nothing.
      obtain ⟨count, hcount⟩ : ∃ count, min (room + 1) (rounds + 1) = count + 1 :=
        ⟨min room rounds, by omega⟩
      rw [offer_succ (by rw [write_limited, hsize, hcount]) (by omega)]
      by_cases hle : rounds + 1 ≤ room + 1
      · have hrest : bytes.extract (count + 1) = #[] := by simp [hsize]; omega
        rw [hrest, offer_empty, if_pos hle]
      · have hrest : (bytes.extract (count + 1)).size ≠ 0 := by simp [hsize]; omega
        rw [show room + 1 - (rounds + 1) = 0 by omega, offer_full _ _ _ hrest, if_neg hle]

/-! ## Pieces -/

/-- Nothing behind a piece that is not accepted whole is written. -/
theorem writeAll_append (first second : Bytes) (sink : Sink) :
    writeAll (first ++ second) sink =
      match writeAll first sink with
      | (.ok (), next) => writeAll second next
      | (.error error, next) => (.error error, next) := by
  obtain ⟨room, written, flushes⟩ := sink
  cases room with
  | none => simp only [writeAll_unlimited, Array.append_assoc]
  | some room =>
    rw [writeAll_limited, writeAll_limited, Array.extract_append, Array.size_append, Nat.zero_sub]
    by_cases hfirst : first.size ≤ room
    case pos =>
      have hfits : first.size + second.size ≤ room ↔ second.size ≤ room - first.size := by omega
      simp only [if_pos hfirst, writeAll_limited, Array.extract_eq_self_of_le hfirst, hfits,
        Nat.sub_sub, Array.append_assoc]
    case neg =>
      -- The limit is inside the first piece, so nothing of the second is reached.
      have hrest : room - first.size = 0 := by omega
      have hroom : room - (first.size + second.size) = 0 := by omega
      have hfits : ¬ first.size + second.size ≤ room := by omega
      simp only [if_neg hfirst, if_neg hfits, hrest, hroom, Array.extract_zero,
        Array.append_empty]

/-- A text may be divided into any pieces. -/
theorem writeTexts_eq (texts : List String) (sink : Sink) :
    writeTexts texts sink = writeAll (Utf8.encode (String.join texts)) sink := by
  induction texts generalizing sink with
  | nil => rfl
  | cons text rest ih =>
    rw [writeTexts, String.join_cons, Utf8.encode_append, writeAll_append]
    rcases writeAll (Utf8.encode text) sink with ⟨_ | _, next⟩
    · rfl
    · exact ih next

end ElfScope.Sink
