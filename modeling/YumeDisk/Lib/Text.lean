import Mathlib.Data.List.DropRight
import YumeDisk.Lib.Bytes

/-!
# Texts as byte strings

A text is a byte string, mostly in UTF-8.  What starts no encoding is read as one byte that stands
for no character.

* `runes`: a text read rune by rune.  `runes_utf8`: the runes of an encoding are its characters.
* `trimSpace`, `cut`, `lines`: a text without the white space around it, split at a byte, and split
  at the line ends.
-/

namespace YumeDisk.Lib

/-! ## Encoding -/

def utf8 (cs : List Char) : Bytes := cs.flatMap String.utf8EncodeChar

/-- A literal. -/
def text (s : String) : Bytes := utf8 s.toList

@[simp] theorem utf8_nil : utf8 [] = [] := rfl

@[simp] theorem utf8_cons (c : Char) (cs : List Char) :
    utf8 (c :: cs) = String.utf8EncodeChar c ++ utf8 cs := rfl

@[simp] theorem utf8_append (cs ds : List Char) : utf8 (cs ++ ds) = utf8 cs ++ utf8 ds :=
  List.flatMap_append

theorem utf8EncodeChar_ne_nil (c : Char) : String.utf8EncodeChar c ≠ [] := by
  have hpos : 0 < (String.utf8EncodeChar c).length := by
    rw [String.length_utf8EncodeChar]
    exact Char.utf8Size_pos c
  exact List.ne_nil_of_length_pos hpos

/-- An ASCII byte is in the encoding of its own character only. -/
theorem eq_of_mem_utf8EncodeChar {c : Char} {b : UInt8} (h : b ∈ String.utf8EncodeChar c)
    (hb : b.toNat < 128) : c.toNat = b.toNat := by
  rw [String.utf8EncodeChar] at h
  have hnat : c.toNat = c.val.toNat := rfl
  split_ifs at h with h₁ h₂ h₃ <;>
    simp only [List.mem_cons, List.not_mem_nil, or_false] at h
  · subst h
    rw [UInt8.toNat_ofNat']
    omega
  all_goals
    exfalso
    rcases h with rfl | rfl | rfl | rfl <;> simp only [UInt8.toNat_ofNat'] at hb <;> omega

theorem mem_utf8 {cs : List Char} {c : Char} (hc : c.toNat < 128)
    (h : UInt8.ofNat c.toNat ∈ utf8 cs) : c ∈ cs := by
  obtain ⟨d, hd, hmem⟩ := List.mem_flatMap.1 h
  have heq : d.toNat = c.toNat := by
    have hval : (UInt8.ofNat c.toNat).toNat = c.toNat := by
      rw [UInt8.toNat_ofNat']
      omega
    rw [eq_of_mem_utf8EncodeChar hmem (by omega), hval]
  have hdc : d = c := Char.ext (UInt32.toNat_inj.1 heq)
  rwa [← hdc]

/-! ## Runes -/

/-- A rune of a text with the bytes it takes; no character is `utf8.RuneError` of width one. -/
structure Rune where
  char : Option Char
  raw : Bytes
deriving DecidableEq, Repr

/-- A rune that is encoded rightly. -/
def Rune.of (c : Char) : Rune := ⟨some c, String.utf8EncodeChar c⟩

/-- `utf8.DecodeRuneInString` of a text that is not empty. -/
def decodeRune (b : Bytes) : Rune :=
  match b.toByteArray.utf8DecodeChar? 0 with
  | some c => Rune.of c
  | none => ⟨none, b.take 1⟩

/-- The runes of a text whose first `skip` bytes are already read. -/
def runesFrom : Nat → Bytes → List Rune
  | _, [] => []
  | skip + 1, _ :: bs => runesFrom skip bs
  | 0, b :: bs =>
    let r := decodeRune (b :: bs)
    r :: runesFrom (r.raw.length - 1) bs

/-- `for _, r := range b`. -/
def runes (b : Bytes) : List Rune := runesFrom 0 b

theorem decodeRune_utf8EncodeChar (c : Char) (rest : Bytes) :
    decodeRune (String.utf8EncodeChar c ++ rest) = Rune.of c := by
  rw [decodeRune, List.toByteArray_append, ByteArray.utf8DecodeChar?_utf8EncodeChar_append]

theorem runesFrom_length (xs ys : Bytes) : runesFrom xs.length (xs ++ ys) = runesFrom 0 ys := by
  induction xs with
  | nil => rfl
  | cons x xs ih => exact ih

/-- **The runes of an encoding are its characters.** -/
theorem runes_utf8 (cs : List Char) : runes (utf8 cs) = cs.map Rune.of := by
  induction cs with
  | nil => rfl
  | cons c cs ih =>
    have hdecode := decodeRune_utf8EncodeChar c (utf8 cs)
    rw [utf8_cons, List.map_cons, ← ih, runes]
    obtain ⟨b, bs, hbs⟩ := List.exists_cons_of_ne_nil (utf8EncodeChar_ne_nil c)
    rw [hbs, List.cons_append] at hdecode ⊢
    rw [runesFrom, hdecode]
    have hlen : (Rune.of c).raw.length - 1 = bs.length := by
      rw [Rune.of, hbs]
      rfl
    rw [hlen, runesFrom_length]
    rfl

/-! ## White space -/

/-- `unicode.IsSpace`. -/
def isSpace (c : Char) : Bool :=
  [9, 10, 11, 12, 13, 32, 0x85, 0xA0, 0x1680, 0x2028, 0x2029, 0x202F, 0x205F, 0x3000].contains
      c.toNat || (0x2000 ≤ c.toNat && c.toNat ≤ 0x200A)

def Rune.isSpace (r : Rune) : Bool := r.char.any Lib.isSpace

/-- `strings.TrimSpace`. -/
def trimSpace (b : Bytes) : Bytes :=
  (((runes b).dropWhile Rune.isSpace).rdropWhile Rune.isSpace).flatMap Rune.raw

theorem flatMap_raw_of (cs : List Char) : (cs.map Rune.of).flatMap Rune.raw = utf8 cs := by
  rw [List.flatMap_map]
  rfl

theorem trimSpace_utf8 (cs : List Char) :
    trimSpace (utf8 cs) = utf8 ((cs.dropWhile isSpace).rdropWhile isSpace) := by
  have hspace : Rune.isSpace ∘ Rune.of = isSpace := rfl
  rw [trimSpace, runes_utf8, List.dropWhile_map, hspace, List.rdropWhile, ← List.map_reverse,
    List.dropWhile_map, hspace, ← List.map_reverse, flatMap_raw_of]
  rfl

/-- A text with no white space at either end stays. -/
theorem trimSpace_eq {c d : Char} {cs : List Char} (hc : isSpace c = false)
    (hd : isSpace d = false) : trimSpace (utf8 (c :: (cs ++ [d]))) = utf8 (c :: (cs ++ [d])) := by
  rw [trimSpace_utf8, List.dropWhile_cons_of_neg (by simp [hc]), ← List.cons_append,
    List.rdropWhile_concat_neg _ _ _ (by simp [hd])]

/-! ## Parts of a text -/

/-- `strings.Cut` at a separator of one byte. -/
def cut (sep : UInt8) (b : Bytes) : Option (Bytes × Bytes) :=
  if sep ∈ b then some (b.takeWhile (· ≠ sep), (b.dropWhile (· ≠ sep)).tail) else none

theorem cut_append {sep : UInt8} {xs : Bytes} (h : sep ∉ xs) (ys : Bytes) :
    cut sep (xs ++ sep :: ys) = some (xs, ys) := by
  have hall : ∀ x ∈ xs, decide (x ≠ sep) = true := by
    intro x hx
    simp only [decide_eq_true_eq]
    rintro rfl
    exact h hx
  rw [cut, if_pos (by simp), List.takeWhile_append_of_pos hall, List.dropWhile_append_of_pos hall]
  simp

/-- The lines of a text without their line ends; what follows the last one is a line if it is not
empty. -/
def lines : Bytes → List Bytes
  | [] => []
  | b :: bs =>
    if b = 10 then [] :: lines bs
    else
      match lines bs with
      | [] => [[b]]
      | l :: ls => (b :: l) :: ls

theorem lines_append {xs : Bytes} (h : 10 ∉ xs) (ys : Bytes) :
    lines (xs ++ 10 :: ys) = xs :: lines ys := by
  induction xs with
  | nil => rw [List.nil_append, lines, if_pos rfl]
  | cons x xs ih =>
    rw [List.mem_cons, not_or] at h
    rw [List.cons_append, lines, if_neg (Ne.symm h.1), ih h.2]

end YumeDisk.Lib
