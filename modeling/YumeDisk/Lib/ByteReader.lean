import YumeDisk.Lib.Bytes

/-!
# Byte streams that come in pieces

A reader gets a byte stream in reads: each returns at least one byte and at most what was asked for,
and after the last there is the end of the stream.  The reads are given as the list of pieces that
the stream comes in.

* `Whole`: no piece is empty.
* `readFull n`: reads until there are `n` bytes (`io.ReadFull`, `Read::read_exact`).
* `readFull_flatten`: what is read depends on the bytes alone, not on how they are cut.
* `readTimes`: a reading that is repeated.
-/

namespace YumeDisk.Lib

/-- No read returns nothing. -/
def Whole (reads : List Bytes) : Prop := ∀ piece ∈ reads, piece ≠ []

/-- The next `n` bytes and the reads that are left; `none` at the end of the stream. -/
def readFull : Nat → List Bytes → Option (Bytes × List Bytes)
  | 0, reads => some ([], reads)
  | _ + 1, [] => none
  | n + 1, piece :: reads =>
    if piece.length ≤ n + 1 then
      (readFull (n + 1 - piece.length) reads).map fun (bytes, reads) => (piece ++ bytes, reads)
    else
      some (piece.take (n + 1), piece.drop (n + 1) :: reads)

/-- **The cut does not matter**: the bytes that come first, if there are as many. -/
theorem readFull_flatten : ∀ (reads : List Bytes) (n : Nat), Whole reads →
    if n ≤ reads.flatten.length then
      ∃ rest, readFull n reads = some (reads.flatten.take n, rest) ∧ Whole rest ∧
        rest.flatten = reads.flatten.drop n
    else readFull n reads = none
  | reads, 0, h => by
    rw [if_pos (Nat.zero_le _)]
    exact ⟨reads, by rw [readFull, List.take_zero], h, rfl⟩
  | [], n + 1, _ => by
    rw [if_neg (by simp)]
    rfl
  | piece :: reads, n + 1, h => by
    obtain ⟨hpiece, hreads⟩ := List.forall_mem_cons.mp h
    rw [List.flatten_cons, List.length_append]
    by_cases hfits : piece.length ≤ n + 1
    · rw [readFull, if_pos hfits]
      have ih := readFull_flatten reads (n + 1 - piece.length) hreads
      by_cases hlen : n + 1 ≤ piece.length + reads.flatten.length
      · rw [if_pos (by omega)] at ih
        rw [if_pos hlen]
        obtain ⟨rest, hread, hwhole, hrest⟩ := ih
        refine ⟨rest, ?_, hwhole, ?_⟩
        · rw [hread, Option.map_some, List.take_append, List.take_of_length_le hfits]
        · rw [hrest, List.drop_append, List.drop_of_length_le hfits, List.nil_append]
      · rw [if_neg (by omega)] at ih
        rw [if_neg hlen, ih, Option.map_none]
    · rw [readFull, if_neg hfits, if_pos (by omega)]
      have hle : n + 1 ≤ piece.length := by omega
      refine ⟨piece.drop (n + 1) :: reads, ?_, ?_, ?_⟩
      · rw [List.take_append_of_le_length hle]
      · refine List.forall_mem_cons.mpr ⟨fun hnil => ?_, hreads⟩
        have := congrArg List.length hnil
        rw [List.length_drop, List.length_nil] at this
        omega
      · rw [List.flatten_cons, List.drop_append_of_le_length hle]

theorem readFull_append {reads : List Bytes} (h : Whole reads) {bytes more : Bytes}
    (hflatten : reads.flatten = bytes ++ more) :
    ∃ rest, readFull bytes.length reads = some (bytes, rest) ∧ Whole rest ∧ rest.flatten = more := by
  have hread := readFull_flatten reads bytes.length h
  rw [hflatten, if_pos (by simp)] at hread
  obtain ⟨rest, hread, hwhole, hrest⟩ := hread
  rw [List.take_left] at hread
  rw [List.drop_left] at hrest
  exact ⟨rest, hread, hwhole, hrest⟩

theorem readFull_none {reads : List Bytes} (h : Whole reads) {n : Nat}
    (hshort : reads.flatten.length < n) : readFull n reads = none := by
  have hread := readFull_flatten reads n h
  rwa [if_neg (by omega)] at hread

/-- Nothing is left of a stream that has no bytes. -/
theorem eq_nil_of_flatten_nil {reads : List Bytes} (h : Whole reads) (hnil : reads.flatten = []) :
    reads = [] := by
  cases reads with
  | nil => rfl
  | cons piece reads =>
    rw [List.flatten_cons, List.append_eq_nil_iff] at hnil
    exact absurd hnil.1 (h piece List.mem_cons_self)

/-! ## A reading that is repeated -/

section Repeat

variable {ε α : Type} (read : List Bytes → Except ε (α × List Bytes))

/-- What `n` readings return, one after the other. -/
def readTimes : Nat → List Bytes → Except ε (List α × List Bytes)
  | 0, reads => .ok ([], reads)
  | n + 1, reads => do
    let (x, reads) ← read reads
    let (xs, reads) ← readTimes n reads
    .ok (x :: xs, reads)

variable {read}

/-- **Encoded values read back**, however the stream is cut: one after the other, and then comes
what follows them. -/
theorem readTimes_encoded {encode : α → Bytes} {valid : α → Prop}
    (hread : ∀ x reads more, valid x → Whole reads → reads.flatten = encode x ++ more →
      ∃ rest, read reads = .ok (x, rest) ∧ Whole rest ∧ rest.flatten = more) :
    ∀ (xs : List α) {reads : List Bytes} {more : Bytes}, (∀ x ∈ xs, valid x) → Whole reads →
      reads.flatten = xs.flatMap encode ++ more →
      ∃ rest, readTimes read xs.length reads = .ok (xs, rest) ∧ Whole rest ∧ rest.flatten = more
  | [], reads, more, _, h, hflatten => ⟨reads, rfl, h, hflatten⟩
  | x :: xs, reads, more, hvalid, h, hflatten => by
    obtain ⟨hx, hxs⟩ := List.forall_mem_cons.mp hvalid
    rw [List.flatMap_cons, List.append_assoc] at hflatten
    obtain ⟨rest, hfirst, hwhole, hrest⟩ := hread x reads _ hx h hflatten
    obtain ⟨last, hothers, hlast, hmore⟩ := readTimes_encoded hread xs hxs hwhole hrest
    refine ⟨last, ?_, hlast, hmore⟩
    simp only [List.length_cons, readTimes, hfirst, bind, Except.bind, hothers]

end Repeat

end YumeDisk.Lib
