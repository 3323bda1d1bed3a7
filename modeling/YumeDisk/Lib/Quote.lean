import YumeDisk.Lib.Text

/-!
# Quoted texts

Go's `%q`: a text between double quotes, with escapes for what does not print.  `table` says which
characters from `U+0100` on print.

* `quote`: the quoted text, any byte string.
* `Piece`: what a quoted text has between its quotes: a character that stands for itself, or an
  escape.
* `quoteChars_pieces`: **a quoted text is a quote, pieces, and a quote.**
* `Piece.no_newline`: it is on one line.
-/

namespace YumeDisk.Lib

/-- `strconv.IsPrint`. -/
def isPrint (table : Char → Bool) (c : Char) : Bool :=
  if c.toNat ≤ 0xFF then
    if 0x20 ≤ c.toNat ∧ c.toNat < 0x7F then true
    else if 0xA1 ≤ c.toNat then c.toNat ≠ 0xAD
    else false
  else table c

/-- `n` in lower-case hexadecimal, with that many digits. -/
def hex : Nat → Nat → List Char
  | 0, _ => []
  | digits + 1, n => hex digits (n / 16) ++ [Nat.digitChar (n % 16)]

/-- The letter of a control character's own escape. -/
def controlLetter (c : Char) : Option Char :=
  match c.toNat with
  | 7 => some 'a'
  | 8 => some 'b'
  | 9 => some 't'
  | 10 => some 'n'
  | 11 => some 'v'
  | 12 => some 'f'
  | 13 => some 'r'
  | _ => none

/-- `strconv.appendEscapedRune` with the double quote. -/
def appendEscapedRune (table : Char → Bool) (c : Char) : List Char :=
  if c = '"' ∨ c = '\\' then ['\\', c]
  else if isPrint table c then [c]
  else
    match controlLetter c with
    | some letter => ['\\', letter]
    | none =>
      if c.toNat < 0x20 ∨ c.toNat = 0x7F then '\\' :: 'x' :: hex 2 c.toNat
      else if c.toNat < 0x10000 then '\\' :: 'u' :: hex 4 c.toNat
      else '\\' :: 'U' :: hex 8 c.toNat

def quoteRune (table : Char → Bool) (r : Rune) : List Char :=
  match r.char with
  | some c => appendEscapedRune table c
  | none => '\\' :: 'x' :: hex 2 (r.raw.headD 0).toNat

/-- The characters of a quoted text. -/
def quoteChars (table : Char → Bool) (s : Bytes) : List Char :=
  '"' :: ((runes s).flatMap (quoteRune table) ++ ['"'])

/-- `strconv.Quote`. -/
def quote (table : Char → Bool) (s : Bytes) : Bytes := utf8 (quoteChars table s)

/-! ## What a quoted text looks like -/

/-- A character that neither ends a quoted text nor starts an escape, nor ends the line. -/
def Plain (c : Char) : Prop := c ≠ '"' ∧ c ≠ '\\' ∧ c ≠ '\n'

instance : DecidablePred Plain := fun _ => inferInstanceAs (Decidable (_ ∧ _))

inductive Piece : List Char → Prop where
  | plain {c : Char} : Plain c → Piece [c]
  | escape {c : Char} {cs : List Char} : c ≠ '\n' → (∀ d ∈ cs, Plain d) → Piece ('\\' :: c :: cs)

theorem Piece.no_newline {p : List Char} (h : Piece p) : '\n' ∉ p := by
  cases h with
  | plain hc =>
    rw [List.mem_singleton]
    exact Ne.symm hc.2.2
  | escape hc hcs =>
    rw [List.mem_cons, List.mem_cons, not_or, not_or]
    exact ⟨by decide, Ne.symm hc, fun hmem => (hcs _ hmem).2.2 rfl⟩

theorem digitChar_plain {n : Nat} (h : n < 16) : Plain (Nat.digitChar n) := by
  have hall : ∀ k < 16, Plain (Nat.digitChar k) := by decide
  exact hall n h

theorem hex_plain (digits n : Nat) : ∀ c ∈ hex digits n, Plain c := by
  induction digits generalizing n with
  | zero => nofun
  | succ digits ih =>
    intro c hc
    rw [hex, List.mem_append, List.mem_singleton] at hc
    rcases hc with hc | rfl
    · exact ih _ c hc
    · exact digitChar_plain (Nat.mod_lt n (by decide))

theorem controlLetter_ne_newline {c d : Char} (h : controlLetter c = some d) : d ≠ '\n' := by
  rintro rfl
  unfold controlLetter at h
  split at h <;> revert h <;> decide

theorem isPrint_newline (table : Char → Bool) : isPrint table '\n' = false := rfl

theorem appendEscapedRune_piece (table : Char → Bool) (c : Char) :
    Piece (appendEscapedRune table c) := by
  rw [appendEscapedRune]
  by_cases hquote : c = '"' ∨ c = '\\'
  · rw [if_pos hquote]
    refine .escape ?_ nofun
    rintro rfl
    revert hquote
    decide
  rw [if_neg hquote]
  by_cases hprint : isPrint table c
  · rw [if_pos hprint]
    rw [not_or] at hquote
    refine .plain ⟨hquote.1, hquote.2, ?_⟩
    rintro rfl
    rw [isPrint_newline] at hprint
    cases hprint
  rw [if_neg hprint]
  cases hletter : controlLetter c with
  | some letter => exact .escape (controlLetter_ne_newline hletter) nofun
  | none =>
    dsimp only
    split_ifs
    · exact .escape (by decide) (hex_plain _ _)
    · exact .escape (by decide) (hex_plain _ _)
    · exact .escape (by decide) (hex_plain _ _)

theorem quoteRune_piece (table : Char → Bool) (r : Rune) : Piece (quoteRune table r) := by
  unfold quoteRune
  cases r.char with
  | some c => exact appendEscapedRune_piece table c
  | none => exact .escape (by decide) (hex_plain _ _)

/-- **A quoted text is a quote, pieces, and a quote.** -/
theorem quoteChars_pieces (table : Char → Bool) (s : Bytes) :
    ∃ pieces : List (List Char), (∀ p ∈ pieces, Piece p) ∧
      quoteChars table s = '"' :: (pieces.flatten ++ ['"']) := by
  refine ⟨(runes s).map (quoteRune table), ?_, by rw [quoteChars, List.flatMap_def]⟩
  intro p hp
  obtain ⟨r, -, rfl⟩ := List.mem_map.1 hp
  exact quoteRune_piece table r

theorem newline_not_mem_quoteChars (table : Char → Bool) (s : Bytes) :
    '\n' ∉ quoteChars table s := by
  obtain ⟨pieces, hpieces, heq⟩ := quoteChars_pieces table s
  rw [heq, List.mem_cons, List.mem_append, List.mem_singleton, List.mem_flatten]
  rintro (h | ⟨p, hp, hmem⟩ | h)
  · revert h
    decide
  · exact (hpieces p hp).no_newline hmem
  · revert h
    decide

end YumeDisk.Lib
