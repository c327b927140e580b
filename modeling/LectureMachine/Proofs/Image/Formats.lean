import LectureMachine.Proofs.Image.Spelling

/-!
# One image in three places

The bytes of a binary image, the digits of a text image and the memory into which either is loaded
all have the most significant byte of a word first. So the bytes of an image are found again in its
words, its text is read as these words, and in memory every byte lies at its own place.
-/

namespace LectureMachine

open TextImage (Spells exists_spells)

variable {bytes : List Byte}

namespace BinaryImage

/-- The bytes of some words, one word after the other. -/
def encode (ws : List InstructionWord) : List Byte :=
  ws.flatMap fun w => BigEndian.bytes w.toNat 4

lemma encode_cons (w : InstructionWord) (ws : List InstructionWord) :
    encode (w :: ws) = BigEndian.bytes w.toNat 4 ++ encode ws := List.flatMap_cons

/-- The bytes of whole words are found again. -/
lemma encode_words (h : 4 ∣ bytes.length) : encode (words bytes) = bytes := by
  fun_induction words bytes with
  | case1 a b c d rest ih =>
    rw [encode_cons, bytes_word, ih (by simpa using h)]
    rfl
  | case2 bytes hshort =>
    obtain rfl := eq_nil_of_short h hshort
    rfl

/-- A word is made again of its bytes. -/
lemma words_append_bytes (w : InstructionWord) (bytes : List Byte) :
    words (BigEndian.bytes w.toNat 4 ++ bytes) = w :: words bytes := by
  have hvalue := BigEndian.value_bytes w.toNat 4
  have hlength := BigEndian.length_bytes w.toNat 4
  have hw : w.toNat % 256 ^ 4 = w.toNat := Nat.mod_eq_of_lt w.isLt
  generalize BigEndian.bytes w.toNat 4 = four at *
  match four, hlength with
  | [a, b, c, d], _ =>
    change BitVec.ofNat 32 (BigEndian.value [a, b, c, d]) :: words bytes = _
    rw [hvalue, hw, BitVec.ofNat_toNat, BitVec.setWidth_eq]

lemma words_encode (ws : List InstructionWord) : words (encode ws) = ws := by
  induction ws with
  | nil => rfl
  | cons w ws ih => rw [encode_cons, words_append_bytes, ih]

lemma length_encode (ws : List InstructionWord) : (encode ws).length = 4 * ws.length := by
  induction ws with
  | nil => rfl
  | cons w ws ih =>
    rw [encode_cons, List.length_append, BigEndian.length_bytes, ih, List.length_cons]
    omega

lemma parse_of_dvd (h : 4 ∣ bytes.length) : parse bytes = .ok (words bytes) :=
  if_pos (Nat.mod_eq_zero_of_dvd h)

lemma parse_of_not_dvd (h : ¬ 4 ∣ bytes.length) :
    parse bytes = .error (.truncatedWord bytes.length) :=
  if_neg fun hmod => h (Nat.dvd_of_mod_eq_zero hmod)

/-! ### In memory -/

/-- The memory that has nothing but the words of an image in it. -/
def memory (ws : List InstructionWord) : Memory := (Memory.loadProgram ws {}).state

/-- Every byte of an image is in its place, and all other bytes are zero. -/
lemma byte_memory_words (h : 4 ∣ bytes.length) (a : Word) :
    (memory (words bytes)).byte a = bytes[a.toNat]?.getD 0 := by
  cases hb : bytes[a.toNat]? with
  | some b =>
    have hfit : 4 * ([] : List InstructionWord).length + a.toNat < 2 ^ 64 := by
      simpa using a.isLt
    have hbyte := byte_storeProgram_words h hb hfit {}
    rwa [List.length_nil, Nat.mul_zero, Nat.zero_add, BitVec.ofNat_toNat, BitVec.setWidth_eq]
      at hbyte
  | none =>
    have hlength := congrArg List.length (encode_words h)
    rw [length_encode] at hlength
    have hbeyond : (words bytes)[a.toNat / 4 - 0]? = none := by
      rw [List.getElem?_eq_none_iff] at hb ⊢
      omega
    change (({} : Memory).storeProgram 0 (words bytes)).byte a = 0
    rw [Memory.byte_storeProgram, if_pos (by omega), hbeyond]
    exact Memory.byte_empty a

/-- The number that is read at an address is that of the bytes from there on. -/
lemma value_memory_words (h : 4 ∣ bytes.length) {a : Word} {width : Nat}
    (hallowed : FlatMemory.refusal? a width = none) :
    FlatMemory.value (memory (words bytes)).byte a width =
      BigEndian.value ((List.range width).map fun i => bytes[a.toNat + i]?.getD 0) := by
  have hpage := FlatMemory.le_of_refusal?_eq_none hallowed
  have ha := a.isLt
  rw [FlatMemory.value, BigEndian.value_map_range]
  refine Finset.sum_congr rfl fun i hi => ?_
  have hi := Finset.mem_range.mp hi
  have haddress : (a + BitVec.ofNat 64 i).toNat = a.toNat + i := by
    simp only [Page.size] at hpage
    rw [BitVec.toNat_add, BitVec.toNat_ofNat]
    omega
  rw [byte_memory_words h, haddress]

lemma peek_memory_words (h : 4 ∣ bytes.length) (a : Word) (width : Nat) :
    (memory (words bytes)).peek a width =
      (Memory.locate a width).map fun _ =>
        BitVec.ofNat 64
          (BigEndian.value ((List.range width).map fun i => bytes[a.toNat + i]?.getD 0)) := by
  rw [Memory.peek_eq, Memory.locate_eq]
  cases hallowed : FlatMemory.refusal? a width with
  | some f => rfl
  | none =>
    simp only [value_memory_words h hallowed]
    rfl

/-- Single bytes can be read at every address. -/
lemma peek_memory_words_one (h : 4 ∣ bytes.length) (a : Word) :
    (memory (words bytes)).peek a 1 = .ok ((bytes[a.toNat]?.getD 0).setWidth 64) := by
  have hallowed : FlatMemory.refusal? a 1 = none := by
    rw [FlatMemory.refusal?, if_neg (by decide), if_neg (by simp), if_neg (by omega)]
  rw [peek_memory_words h, Memory.locate_eq, hallowed]
  simp [BigEndian.value, Except.map]

/-- The formats of an image, and the memory that it is loaded into, agree on the order of the bytes.
Bytes are words just if their number is a multiple of four, and these words have the same bytes
again; all words are those of their bytes. Every text that writes down the bytes, and there is one,
is read as the same words. In memory every byte lies at its own place, with zeros behind the last
one, and a value that is read is the number of the bytes from its address on. -/
theorem formats_agree (bytes : List Byte) :
    ((∃ ws, parse bytes = .ok ws) ↔ 4 ∣ bytes.length) ∧
      (¬ 4 ∣ bytes.length → parse bytes = .error (.truncatedWord bytes.length)) ∧
      (∀ ws, parse (encode ws) = .ok ws) ∧
      ∀ ws, parse bytes = .ok ws →
        encode ws = bytes ∧
          (∀ source, Spells source.toList bytes → TextImage.parse source = .ok ws) ∧
          (∃ source : String, Spells source.toList bytes) ∧
          ∀ a, (memory ws).peek a 1 = .ok ((bytes[a.toNat]?.getD 0).setWidth 64) ∧
            ∀ width, (memory ws).peek a width =
              (Memory.locate a width).map fun _ =>
                BitVec.ofNat 64
                  (BigEndian.value
                    ((List.range width).map fun i => bytes[a.toNat + i]?.getD 0)) := by
  have hiff : (∃ ws, parse bytes = .ok ws) ↔ 4 ∣ bytes.length := by
    refine ⟨fun ⟨ws, hws⟩ => ?_, fun h => ⟨_, parse_of_dvd h⟩⟩
    by_contra h
    rw [parse_of_not_dvd h] at hws
    cases hws
  refine ⟨hiff, parse_of_not_dvd, fun ws => ?_, fun ws hws => ?_⟩
  · rw [parse_of_dvd ⟨_, length_encode ws⟩, words_encode]
  · have h := hiff.mp ⟨ws, hws⟩
    rw [parse_of_dvd h] at hws
    obtain rfl := Except.ok.inj hws
    exact ⟨encode_words h, fun source => Spells.parse, exists_spells h, fun a =>
      ⟨peek_memory_words_one h a, peek_memory_words h a⟩⟩

end BinaryImage

end LectureMachine
