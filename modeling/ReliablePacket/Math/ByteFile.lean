/-
# Files addressed by byte offset

A file is a size and a byte at every offset. Reading returns what there is
between an offset and the end of the file, so it may return fewer bytes than
asked for. Writing at an offset past the end leaves a gap of zero bytes.

A file built from a list of positioned writes holds a given content wherever
some write covers the offset, provided every write agrees with that content. The
order of the writes does not matter then.
-/
import Mathlib.Data.List.GetD
import Mathlib.Order.Basic
import Mathlib.Order.MinMax
import Mathlib.Tactic.Common

set_option autoImplicit false

/-- A regular file. Bytes at or past `size` are not part of it. -/
structure ByteFile where
  size : ℕ
  byte : ℕ → UInt8

namespace ByteFile

variable {f : ByteFile} {offset count i : ℕ} {data : List UInt8} {content : ℕ → UInt8}

/-- The file with no byte in it. -/
def empty : ByteFile := ⟨0, fun _ => 0⟩

/-- Up to `count` bytes from `offset` on, fewer at the end of the file. -/
def read (f : ByteFile) (offset count : ℕ) : List UInt8 :=
  (List.range (min count (f.size - offset))).map fun i => f.byte (offset + i)

/-- Overwrite `data.length` bytes from `offset` on, growing the file when needed. -/
def write (f : ByteFile) (offset : ℕ) (data : List UInt8) : ByteFile where
  size := if data = [] then f.size else max f.size (offset + data.length)
  byte i := if offset ≤ i ∧ i < offset + data.length then data.getD (i - offset) 0 else f.byte i

@[simp] theorem length_read (f : ByteFile) (offset count : ℕ) :
    (f.read offset count).length = min count (f.size - offset) := by
  simp [read]

theorem length_read_le (f : ByteFile) (offset count : ℕ) :
    (f.read offset count).length ≤ count := by
  rw [length_read]
  exact Nat.min_le_left _ _

/-- A read is full exactly when the requested range lies inside the file. -/
theorem length_read_eq_iff (hcount : 0 < count) :
    (f.read offset count).length = count ↔ offset + count ≤ f.size := by
  rw [length_read]
  omega

theorem getD_read (hi : i < (f.read offset count).length) :
    (f.read offset count).getD i 0 = f.byte (offset + i) := by
  rw [List.getD_eq_getElem _ _ hi]
  simp [read]

/-! ## Files as lists of writes -/

/-- The file that a list of positioned writes leaves, the latest write first. -/
def ofWrites : List (ℕ × List UInt8) → ByteFile
  | [] => empty
  | w :: ws => (ofWrites ws).write w.1 w.2

/-- Offset `i` lies in the range that `w` writes. -/
def Covers (w : ℕ × List UInt8) (i : ℕ) : Prop := w.1 ≤ i ∧ i < w.1 + w.2.length

/-- Every byte `w` writes is the byte of `content` at that place. -/
def Agrees (content : ℕ → UInt8) (w : ℕ × List UInt8) : Prop :=
  ∀ i < w.2.length, w.2.getD i 0 = content (w.1 + i)

theorem byte_write_of_covers (h : Covers (offset, data) i)
    (hagrees : Agrees content (offset, data)) : (f.write offset data).byte i = content i := by
  obtain ⟨hle, hlt⟩ := h
  have hindex : data.getD (i - offset) 0 = content (offset + (i - offset)) :=
    hagrees (i - offset) (by simp only at *; omega)
  calc (f.write offset data).byte i = data.getD (i - offset) 0 := if_pos ⟨hle, hlt⟩
    _ = content (offset + (i - offset)) := hindex
    _ = content i := by rw [Nat.add_sub_of_le hle]

theorem byte_write_of_not_covers (h : ¬ Covers (offset, data) i) :
    (f.write offset data).byte i = f.byte i :=
  if_neg h

/-- Writes that agree with a content leave that content wherever one of them
reaches. -/
theorem byte_ofWrites {ws : List (ℕ × List UInt8)} (hagrees : ∀ w ∈ ws, Agrees content w)
    (hcovers : ∃ w ∈ ws, Covers w i) : (ofWrites ws).byte i = content i := by
  induction ws with
  | nil => obtain ⟨w, hw, -⟩ := hcovers; cases hw
  | cons w ws ih =>
    -- the latest write decides where it reaches, the earlier ones elsewhere
    by_cases hw : Covers w i
    · exact byte_write_of_covers hw (hagrees w List.mem_cons_self)
    · rw [ofWrites, byte_write_of_not_covers hw]
      obtain ⟨w', hmem, hw'⟩ := hcovers
      rcases List.mem_cons.mp hmem with rfl | hmem
      · exact absurd hw' hw
      · exact ih (fun w hw => hagrees w (List.mem_cons_of_mem _ hw)) ⟨w', hmem, hw'⟩

theorem lt_size_write_iff :
    i < (f.write offset data).size ↔ i < f.size ∨ data ≠ [] ∧ i < offset + data.length := by
  by_cases hdata : data = []
  · simp [write, hdata]
  · simp [write, hdata]

/-- An offset is inside the file when some non-empty write ends behind it. -/
theorem lt_size_ofWrites_iff {ws : List (ℕ × List UInt8)} :
    i < (ofWrites ws).size ↔ ∃ w ∈ ws, w.2 ≠ [] ∧ i < w.1 + w.2.length := by
  induction ws with
  | nil => simp [ofWrites, empty]
  | cons w ws ih =>
    rw [ofWrites, lt_size_write_iff, ih]
    simp only [List.mem_cons, exists_eq_or_imp]
    exact or_comm

/-- Where no write reaches there is a gap of zero bytes. -/
theorem byte_ofWrites_of_not_covers {ws : List (ℕ × List UInt8)}
    (hgap : ∀ w ∈ ws, ¬ Covers w i) : (ofWrites ws).byte i = 0 := by
  induction ws with
  | nil => rfl
  | cons w ws ih =>
    rw [ofWrites, byte_write_of_not_covers (hgap w List.mem_cons_self)]
    exact ih fun w hw => hgap w (List.mem_cons_of_mem _ hw)

/-- Writes that agree with one content leave a file that depends neither on their order
nor on repetitions, even where they overlap. -/
theorem ofWrites_congr {ws ws' : List (ℕ × List UInt8)} (hagrees : ∀ w ∈ ws, Agrees content w)
    (hsame : ∀ w, w ∈ ws' ↔ w ∈ ws) : ofWrites ws' = ofWrites ws := by
  have hagrees' : ∀ w ∈ ws', Agrees content w := fun w hw => hagrees w ((hsame w).mp hw)
  have hsize : (ofWrites ws').size = (ofWrites ws).size := by
    refine eq_of_forall_lt_iff fun i => ?_
    rw [lt_size_ofWrites_iff, lt_size_ofWrites_iff]
    exact exists_congr fun w => and_congr_left fun _ => hsame w
  have hbyte : (ofWrites ws').byte = (ofWrites ws).byte := by
    funext i
    by_cases hcovers : ∃ w ∈ ws, Covers w i
    · obtain ⟨w, hw, hreach⟩ := hcovers
      rw [byte_ofWrites hagrees ⟨w, hw, hreach⟩,
        byte_ofWrites hagrees' ⟨w, (hsame w).mpr hw, hreach⟩]
    · have hgap : ∀ w ∈ ws, ¬ Covers w i := fun w hw hreach => hcovers ⟨w, hw, hreach⟩
      rw [byte_ofWrites_of_not_covers hgap,
        byte_ofWrites_of_not_covers fun w hw => hgap w ((hsame w).mp hw)]
  calc ofWrites ws' = ⟨(ofWrites ws').size, (ofWrites ws').byte⟩ := rfl
    _ = ⟨(ofWrites ws).size, (ofWrites ws).byte⟩ := by rw [hsize, hbyte]

end ByteFile
