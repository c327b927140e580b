import LectureMachine.Image.Binary
import LectureMachine.Proofs.Memory.Flat

/-!
# Binary images in memory

The bytes of a binary image are the bytes of the memory that it is loaded into.
-/

namespace LectureMachine

/-- Bytes are found again in the number that they denote. -/
lemma BigEndian.bytes_value (bs : List Byte) : bytes (value bs) bs.length = bs := by
  induction bs using List.reverseRecOn with
  | nil => rfl
  | append_singleton bs b ih =>
    have hb := b.isLt
    have hrest : (value bs * 256 + b.toNat) / 256 = value bs := by omega
    have hlow : BitVec.ofNat 8 (value bs * 256 + b.toNat) = b := by
      apply BitVec.eq_of_toNat_eq
      rw [BitVec.toNat_ofNat]
      omega
    rw [value_append_singleton, List.length_append, List.length_singleton, bytes, hrest, ih, hlow]

namespace BinaryImage

/-- The bytes of a word of four bytes. -/
lemma bytes_word (a b c d : Byte) :
    BigEndian.bytes (BitVec.ofNat 32 (BigEndian.value [a, b, c, d])).toNat 4 = [a, b, c, d] := by
  have hlt : BigEndian.value [a, b, c, d] < 2 ^ 32 :=
    (BigEndian.value_lt [a, b, c, d]).trans_eq (by simp)
  rw [BitVec.toNat_ofNat, Nat.mod_eq_of_lt hlt]
  exact BigEndian.bytes_value [a, b, c, d]

/-- Of whole words nothing is left that is too short for a word. -/
lemma eq_nil_of_short {bs : List Byte} (h : 4 ∣ bs.length)
    (hshort : ∀ a b c d rest, bs = a :: b :: c :: d :: rest → False) : bs = [] := by
  match bs, hshort with
  | [], _ => rfl
  | [_], _ | [_, _], _ | [_, _, _], _ => simp at h
  | a :: b :: c :: d :: rest, hshort => exact (hshort a b c d rest rfl).elim

/-- Every byte is in its word, at its place. -/
lemma exists_word {bs : List Byte} (h : 4 ∣ bs.length) {j : Nat} {b : Byte} (hj : bs[j]? = some b) :
    ∃ word, (words bs)[j / 4]? = some word ∧
      (BigEndian.bytes word.toNat 4)[j % 4]? = some b := by
  fun_induction words bs generalizing j with
  | case1 a b' c d rest ih =>
    by_cases hlt : j < 4
    · have hquot : j / 4 = 0 := by omega
      have hfour : ([a, b', c, d] ++ rest)[j]? = [a, b', c, d][j]? :=
        List.getElem?_append_left hlt
      refine ⟨_, by rw [hquot]; rfl, ?_⟩
      rw [bytes_word, Nat.mod_eq_of_lt hlt, ← hfour]
      exact hj
    · obtain ⟨k, rfl⟩ := Nat.exists_eq_add_of_le' (not_lt.mp hlt)
      have hquot : (k + 4) / 4 = k / 4 + 1 := by omega
      obtain ⟨word, hword, hbyte⟩ := ih (by simpa using h) hj
      exact ⟨word, by rwa [hquot], by rwa [Nat.add_mod_right]⟩
  | case2 bs hshort =>
    obtain rfl := eq_nil_of_short h hshort
    cases hj

/-- Bytes that are loaded after some words lie in memory after these words. -/
theorem byte_storeProgram_words {code : List InstructionWord} {data : List Byte}
    (h : 4 ∣ data.length) {j : Nat} {b : Byte} (hj : data[j]? = some b)
    (hfit : 4 * code.length + j < 2 ^ 64) (m : Memory) :
    (m.storeProgram 0 (code ++ words data)).byte (BitVec.ofNat 64 (4 * code.length + j)) = b := by
  obtain ⟨word, hword, hbyte⟩ := exists_word h hj
  have haddress : (BitVec.ofNat 64 (4 * code.length + j)).toNat = 4 * code.length + j := by
    rw [BitVec.toNat_ofNat, Nat.mod_eq_of_lt hfit]
  have hindex : (4 * code.length + j) / 4 - 0 = code.length + j / 4 := by omega
  have hplace : (4 * code.length + j) % 4 = j % 4 := by omega
  rw [BigEndian.getElem?_bytes _ (Nat.mod_lt j (by decide))] at hbyte
  rw [Memory.byte_storeProgram, haddress, if_pos (by omega), hindex, hplace,
    List.getElem?_append_right (Nat.le_add_right _ _), Nat.add_sub_cancel_left, hword]
  exact Option.some.inj hbyte

end BinaryImage

end LectureMachine
