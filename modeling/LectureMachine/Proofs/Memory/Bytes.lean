import Mathlib.Algebra.BigOperators.Intervals
import Mathlib.Algebra.BigOperators.Ring.Finset
import Mathlib.Data.BitVec
import LectureMachine.Memory

/-!
# The bytes of a memory

A memory is looked at byte by byte, through `Memory.byte`, and not through its pages. Here it is
said what a store does to every byte, and what the bytes say about the value at an address.
-/

namespace LectureMachine

/-! ### Big-endian numbers -/

namespace BigEndian

lemma getElem?_bytes (n : Nat) {width i : Nat} (h : i < width) :
    (bytes n width)[i]? = some (BitVec.ofNat 8 (n / 256 ^ (width - 1 - i))) := by
  induction width generalizing n with
  | zero => omega
  | succ width ih =>
    rw [bytes]
    by_cases hi : i < width
    · rw [List.getElem?_append_left (by simpa using hi), ih (n / 256) hi, Nat.div_div_eq_div_mul,
        ← Nat.pow_succ']
      congr 4
      omega
    · obtain rfl : i = width := by omega
      simp

lemma value_append_singleton (bs : List Byte) (b : Byte) :
    value (bs ++ [b]) = value bs * 256 + b.toNat := by
  simp [value]

lemma value_lt (bs : List Byte) : value bs < 256 ^ bs.length := by
  induction bs using List.reverseRecOn with
  | nil => simp [value]
  | append_singleton bs b ih =>
    have := b.isLt
    rw [value_append_singleton, List.length_append, List.length_singleton, Nat.pow_succ]
    omega

/-- Of a number that is taken apart, the low bytes are left. -/
lemma value_bytes (n width : Nat) : value (bytes n width) = n % 256 ^ width := by
  induction width generalizing n with
  | zero => simp [bytes, value, Nat.mod_one]
  | succ width ih =>
    have hbyte : (BitVec.ofNat 8 n).toNat = n % 256 := BitVec.toNat_ofNat n 8
    rw [bytes, value_append_singleton, ih, hbyte, Nat.pow_succ', Nat.mod_mul]
    omega

/-- The number as a sum: a byte counts 256 times as much as the one after it. -/
lemma value_map_range (f : Nat → Byte) (width : Nat) :
    value ((List.range width).map f)
      = ∑ i ∈ Finset.range width, (f i).toNat * 256 ^ (width - 1 - i) := by
  induction width with
  | zero => rfl
  | succ width ih =>
    rw [List.range_succ, List.map_append, List.map_singleton, value_append_singleton, ih,
      Finset.sum_range_succ, Finset.sum_mul]
    congr 1
    · refine Finset.sum_congr rfl fun i hi => ?_
      have : width + 1 - 1 - i = (width - 1 - i) + 1 := by
        have := Finset.mem_range.mp hi
        omega
      rw [this, Nat.pow_succ, Nat.mul_assoc]
    · simp

end BigEndian

/-! ### Pages -/

namespace Page

lemma getD_eq_getElem (page : Page) {i : Nat} (h : i < Page.size) : page.getD i 0 = page[i] := by
  simp [Vector.getD, h]

lemma getD_blank {i : Nat} (h : i < Page.size) : blank.getD i 0 = 0 := by
  rw [getD_eq_getElem _ h]
  exact Vector.getElem_replicate h

lemma getD_setIfInBounds (page : Page) (offset : Nat) (b : Byte) {i : Nat} (h : i < Page.size) :
    (page.setIfInBounds offset b).getD i 0 = if offset = i then b else page.getD i 0 := by
  rw [getD_eq_getElem _ h, getD_eq_getElem _ h, Vector.getElem_setIfInBounds h]

/-- The bytes that are stored lie one after the other; the others stay. -/
lemma getD_store (page : Page) (offset : Nat) (bytes : List Byte) {i : Nat} (h : i < Page.size) :
    (page.store offset bytes).getD i 0 =
      if offset ≤ i then (bytes[i - offset]?).getD (page.getD i 0) else page.getD i 0 := by
  induction bytes generalizing page offset with
  | nil => simp [store]
  | cons b bs ih =>
    rw [store, ih, getD_setIfInBounds page offset b h]
    rcases Nat.lt_trichotomy offset i with hlt | rfl | hgt
    · have : i - offset = (i - (offset + 1)) + 1 := by omega
      rw [if_pos (by omega), if_neg (by omega), if_pos (by omega), this, List.getElem?_cons_succ]
    · simp
    · rw [if_neg (by omega), if_neg (by omega), if_neg (by omega)]

lemma fetch_blank {offset width : Nat} (h : offset + width ≤ Page.size) :
    blank.fetch offset width = 0 := by
  rw [fetch, BigEndian.value_map_range]
  refine Finset.sum_eq_zero fun i hi => ?_
  have hi := Finset.mem_range.mp hi
  rw [getD_blank (by omega)]
  simp

end Page

/-! ### Memories -/

namespace Memory

@[simp] lemma byte_empty (address : Word) : byte {} address = 0 := by
  simp [byte]

/-- The byte at an address is the one at its place on its page. -/
lemma byte_eq (m : Memory) (address : Word) :
    m.byte address
      = (m.pages[address.toNat / Page.size]?.getD Page.blank).getD
          (address.toNat % Page.size) 0 := by
  have h : address.toNat % Page.size < Page.size := Nat.mod_lt _ (by decide)
  rw [byte]
  cases m.pages[address.toNat / Page.size]? with
  | none => exact (Page.getD_blank h).symm
  | some page => rfl

/-- A store changes the bytes from the address `base` on, as long as it stays on the page. -/
lemma byte_store (m : Memory) (base : Nat) (bytes : List Byte)
    (h : base % Page.size + bytes.length ≤ Page.size) (address : Word) :
    (m.store (base / Page.size) (base % Page.size) bytes).byte address =
      if base ≤ address.toNat then (bytes[address.toNat - base]?).getD (m.byte address)
      else m.byte address := by
  have hmod : address.toNat % Page.size < Page.size := Nat.mod_lt _ (by decide)
  rw [byte_eq, byte_eq, store, Std.HashMap.getElem?_alter]
  by_cases hpage : base / Page.size = address.toNat / Page.size
  · rw [if_pos (by simpa using hpage), Option.getD_some, Page.getD_store _ _ _ hmod, hpage]
    have hle : base % Page.size ≤ address.toNat % Page.size ↔ base ≤ address.toNat := by
      simp only [Page.size] at hpage ⊢
      omega
    by_cases hbase : base ≤ address.toNat
    · have : address.toNat % Page.size - base % Page.size = address.toNat - base := by
        simp only [Page.size] at hpage ⊢
        omega
      rw [if_pos (hle.mpr hbase), if_pos hbase, this]
    · rw [if_neg (mt hle.mp hbase), if_neg hbase]
  · rw [if_neg (by simpa using hpage)]
    by_cases hbase : base ≤ address.toNat
    · have : bytes.length ≤ address.toNat - base := by
        simp only [Page.size] at h hpage
        omega
      rw [if_pos hbase, List.getElem?_eq_none this, Option.getD_none]
    · rw [if_neg hbase]

/-- The value at an address is the number that the bytes from there on denote. -/
lemma fetch_eq_sum (m : Memory) (address : Word) {width : Nat}
    (h : address.toNat % Page.size + width ≤ Page.size) :
    (m.pages[address.toNat / Page.size]?.getD Page.blank).fetch (address.toNat % Page.size) width
      = ∑ i ∈ Finset.range width,
          (m.byte (address + BitVec.ofNat 64 i)).toNat * 256 ^ (width - 1 - i) := by
  rw [Page.fetch, BigEndian.value_map_range]
  refine Finset.sum_congr rfl fun i hi => ?_
  have hi := Finset.mem_range.mp hi
  have haddress : (address + BitVec.ofNat 64 i).toNat = address.toNat + i := by
    have := address.isLt
    simp only [Page.size] at h
    rw [BitVec.toNat_add, BitVec.toNat_ofNat]
    omega
  have hpage : (address.toNat + i) / Page.size = address.toNat / Page.size := by
    simp only [Page.size] at h ⊢
    omega
  have hoffset : (address.toNat + i) % Page.size = address.toNat % Page.size + i := by
    simp only [Page.size] at h ⊢
    omega
  rw [byte_eq, haddress, hpage, hoffset]

end Memory

end LectureMachine
