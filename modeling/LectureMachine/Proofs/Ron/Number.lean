import LectureMachine.Proofs.Instruction.Operands
import LectureMachine.Proofs.Ron.Name

/-!
# Spellings of a number

A number is spelled with digits of one of four bases, which a mark names unless the base is ten.
There may be a plus sign before it, and underscores between the digits. A number that fits into a
word is read back from any of its spellings, and it is written in one of them.
-/

namespace LectureMachine.Ron

open TextImage (IsDigit hexDigit?_eq_some_iff value?_eq_some_iff_of_base exists_related)

variable {n base : Nat} {c : Char} {s t digits : List Char}

/-! ### Spellings -/

/-- Digits of a base, perhaps with underscores after the first of them. -/
structure DigitsSpelling (base n : Nat) (digits : List Char) : Prop where
  nonempty : digits ≠ []
  begins : digits.head? ≠ some '_'
  isDigit : ∃ values, List.Forall₂ IsDigit (digits.filter (· != '_')) values ∧
    (∀ v ∈ values, v < base) ∧ n = Nat.ofDigits base values.reverse

/-- How a number is spelled without a sign. -/
inductive UnsignedSpelling (n : Nat) : List Char → Prop
  | decimal {digits : List Char} (h : DigitsSpelling 10 n digits) : UnsignedSpelling n digits
  | binary {digits : List Char} (h : DigitsSpelling 2 n digits) :
      UnsignedSpelling n ('0' :: 'b' :: digits)
  | octal {digits : List Char} (h : DigitsSpelling 8 n digits) :
      UnsignedSpelling n ('0' :: 'o' :: digits)
  | hexadecimal {digits : List Char} (h : DigitsSpelling 16 n digits) :
      UnsignedSpelling n ('0' :: 'x' :: digits)

/-- How a number is spelled. -/
inductive NumberSpelling (n : Nat) : List Char → Prop
  | bare {t : List Char} (h : UnsignedSpelling n t) : NumberSpelling n t
  | plus {t : List Char} (h : UnsignedSpelling n t) : NumberSpelling n ('+' :: t)

/-! ### Digits -/

namespace DigitsSpelling

lemma value?_filter (h : DigitsSpelling base n digits) :
    Numeral.value? base (digits.filter (· != '_')) = some n :=
  value?_eq_some_iff_of_base.mpr h.isDigit

lemma digitsValue?_eq (h : DigitsSpelling base n digits) : digitsValue? base digits = some n := by
  obtain _ | ⟨d, ds⟩ := digits
  · exact (h.nonempty rfl).elim
  · have hd : d ≠ '_' := fun hd => h.begins (congrArg some hd)
    rw [digitsValue?, h.value?_filter] <;> simp [hd]

lemma exists_lt (h : DigitsSpelling base n digits) (hc : c ∈ digits) (hne : c ≠ '_') :
    ∃ v < base, Numeral.hexDigit? c = some v := by
  obtain ⟨values, hvalues, hbase, -⟩ := h.isDigit
  obtain ⟨v, hv, hdigit⟩ := exists_related hvalues (List.mem_filter.mpr ⟨hc, bne_iff_ne.mpr hne⟩)
  exact ⟨v, hbase v hv, hexDigit?_eq_some_iff.mpr hdigit⟩

lemma isIntegerChar (h : DigitsSpelling base n digits) : ∀ c ∈ digits, isIntegerChar c = true := by
  intro c hc
  by_cases hne : c = '_'
  · subst hne
    rfl
  · obtain ⟨v, -, hv⟩ := h.exists_lt hc hne
    simp [Ron.isIntegerChar, hv]

/-- The digits of base ten are no letters. -/
lemma isDigit_of_base_ten (h : DigitsSpelling 10 n digits) (hc : c ∈ digits) (hne : c ≠ '_') :
    c.isDigit = true := by
  obtain ⟨v, hv, hdigit⟩ := h.exists_lt hc hne
  rw [Numeral.hexDigit?] at hdigit
  split_ifs at hdigit with h09
  · simpa [Char.isDigit, Char.le_def] using h09
  all_goals
    have := Option.some.inj hdigit
    omega

end DigitsSpelling

/-! ### Reading an integer -/

lemma splitSign_of_head?_ne (hplus : s.head? ≠ some '+') (hminus : s.head? ≠ some '-') :
    splitSign s = (1, s) := by
  rw [splitSign] <;> rintro _ rfl <;> contradiction

lemma readByteChar_of_head?_ne (h : s.head? ≠ some 'b') : readByteChar s = none := by
  rw [readByteChar] <;> intros <;> subst_vars <;> contradiction

/-- The names of types begin with one of two letters. -/
lemma splitType_eq_none (hi : s.head? ≠ some 'i') (hu : s.head? ≠ some 'u') :
    splitType s = none := by
  rw [splitType, List.findSome?_eq_none_iff]
  intro type _
  rw [Option.map_eq_none_iff, IntegerType.text]
  split_ifs
  · exact dropWord_of_head?_ne hi _
  · exact dropWord_of_head?_ne hu _

lemma splitBase_of_tail (h : ∀ d ∈ s.head?, d ∉ ['b', 'o', 'x']) :
    splitBase (c :: s) = (10, c :: s) := by
  obtain _ | ⟨d, s⟩ := s
  · rw [splitBase] <;> simp
  · have hd := h d rfl
    rw [splitBase] <;> simp_all

/-- Behind the first digit of a number without a mark comes no letter that could be part of one. -/
lemma DigitsSpelling.splitBase_append (h : DigitsSpelling 10 n digits) (hs : Delimited s) :
    splitBase (digits ++ s) = (10, digits ++ s) := by
  obtain _ | ⟨d, ds⟩ := digits
  · exact (h.nonempty rfl).elim
  · refine splitBase_of_tail fun c hc => ?_
    obtain _ | ⟨c', ds⟩ := ds
    · have hno : ∀ c ∈ delimiters, c ∉ ['b', 'o', 'x'] :=
        List.forall_iff_forall_mem.mp (by decide)
      exact hno c (hs c hc)
    · obtain rfl : c' = c := Option.some.inj hc
      have hdigit : c' = '_' ∨ c'.isDigit = true :=
        or_iff_not_imp_left.mpr (h.isDigit_of_base_ten (by simp))
      have hno : ∀ c ∈ ['b', 'o', 'x'], ¬ (c = '_' ∨ c.isDigit = true) :=
        List.forall_iff_forall_mem.mp (by decide)
      exact fun hmem => hno c' hmem hdigit

namespace UnsignedSpelling

/-- A number begins with a decimal digit, in whatever base it is. -/
lemma exists_isDigit (h : UnsignedSpelling n t) : ∃ d ds, t = d :: ds ∧ d.isDigit = true := by
  cases h with
  | decimal h =>
    obtain _ | ⟨d, ds⟩ := t
    · exact (h.nonempty rfl).elim
    · exact ⟨d, ds, rfl, h.isDigit_of_base_ten List.mem_cons_self fun hd => h.begins (hd ▸ rfl)⟩
  | binary | octal | hexadecimal => exact ⟨'0', _, rfl, rfl⟩

lemma exists_digitsSpelling (h : UnsignedSpelling n t) (hs : Delimited s) :
    ∃ base digits, DigitsSpelling base n digits ∧ splitBase (t ++ s) = (base, digits ++ s) := by
  cases h with
  | decimal h => exact ⟨10, t, h, h.splitBase_append hs⟩
  | binary h => exact ⟨2, _, h, rfl⟩
  | octal h => exact ⟨8, _, h, rfl⟩
  | hexadecimal h => exact ⟨16, _, h, rfl⟩

/-- The digits end before a delimiter or before the letter of the base. -/
lemma splitType_dropWhile (h : UnsignedSpelling n t) (hs : Delimited s) :
    splitType ((t ++ s).dropWhile isIntegerChar) = none := by
  have hend : splitType s = none :=
    splitType_eq_none (fun h => absurd (hs _ h) (by decide)) (fun h => absurd (hs _ h) (by decide))
  cases h with
  | decimal h => rwa [hs.dropWhile_append isIntegerChar_of_mem_delimiters h.isIntegerChar]
  | binary h =>
    have hmark : ∀ c ∈ ['0', 'b'], isIntegerChar c = true :=
      List.forall_iff_forall_mem.mp (by decide)
    have hall := List.forall_mem_append.mpr ⟨hmark, h.isIntegerChar⟩
    exact (congrArg splitType (hs.dropWhile_append isIntegerChar_of_mem_delimiters hall)).trans hend
  | octal h => exact splitType_eq_none (fun h => by cases h) (fun h => by cases h)
  | hexadecimal h => exact splitType_eq_none (fun h => by cases h) (fun h => by cases h)

lemma length_takeWhile_le (h : UnsignedSpelling n t) (hs : Delimited s) :
    ((t ++ s).takeWhile isFloatChar).length ≤ ((t ++ s).takeWhile isIntegerChar).length := by
  cases h with
  | decimal h =>
    have hfloat : ∀ c ∈ t, isFloatChar c = true := by
      intro c hc
      by_cases hne : c = '_'
      · subst hne
        rfl
      · simp [isFloatChar, h.isDigit_of_base_ten hc hne]
    rw [hs.takeWhile_append isFloatChar_of_mem_delimiters hfloat,
      hs.takeWhile_append isIntegerChar_of_mem_delimiters h.isIntegerChar]
  | binary h => simp [isFloatChar, isIntegerChar, List.takeWhile, Numeral.hexDigit?]
  | octal h => simp [isFloatChar, isIntegerChar, List.takeWhile, Numeral.hexDigit?]
  | hexadecimal h => simp [isFloatChar, isIntegerChar, List.takeWhile, Numeral.hexDigit?]

end UnsignedSpelling

/-- The characters that a number begins with. -/
def numberHeads : List Char := ['+', '0', '1', '2', '3', '4', '5', '6', '7', '8', '9']

lemma mem_numberHeads_of_isDigit (h : c.isDigit = true) : c ∈ numberHeads := by
  have hcode : c.toNat ∈ numberHeads.map Char.toNat := by
    rw [Char.isDigit, Bool.and_eq_true, decide_eq_true_iff, decide_eq_true_iff] at h
    have h09 : 48 ≤ c.toNat ∧ c.toNat ≤ 57 := h
    simp only [numberHeads, List.map_cons, List.map_nil, Char.reduceToNat, List.mem_cons,
      List.not_mem_nil]
    omega
  obtain ⟨d, hd, heq⟩ := List.mem_map.mp hcode
  rwa [← Char.toNat_inj.mp heq]

namespace NumberSpelling

lemma exists_mem_numberHeads (h : NumberSpelling n t) :
    ∃ d ds, t = d :: ds ∧ d ∈ numberHeads := by
  cases h with
  | plus h => exact ⟨'+', _, rfl, by decide⟩
  | bare h =>
    obtain ⟨d, ds, rfl, hd⟩ := h.exists_isDigit
    exact ⟨d, ds, rfl, mem_numberHeads_of_isDigit hd⟩

lemma exists_splitSign (h : NumberSpelling n t) (s : List Char) :
    ∃ t', UnsignedSpelling n t' ∧ splitSign (t ++ s) = (1, t' ++ s) := by
  cases h with
  | plus h => exact ⟨_, h, rfl⟩
  | bare h =>
    obtain ⟨d, ds, rfl, hd⟩ := h.exists_isDigit
    refine ⟨_, h, splitSign_of_head?_ne ?_ ?_⟩ <;> rintro ⟨⟩ <;> cases hd

lemma integer?_eq (h : DigitsSpelling base n digits) (hn : (n : Int) ≤ IntegerType.word.greatest) :
    IntegerType.word.integer? 1 base digits = some (n : Int) := by
  have hleast : IntegerType.word.least ≤ n := Int.natCast_nonneg n
  rw [IntegerType.integer?, h.digitsValue?_eq]
  simp only [one_mul]
  exact if_pos ⟨hleast, hn⟩

lemma readInteger_append (h : NumberSpelling n t) (hn : (n : Int) ≤ IntegerType.word.greatest)
    (hs : Delimited s) : readInteger (t ++ s) = some ((none, (n : Int)), s) := by
  obtain ⟨t', ht', hsign⟩ := h.exists_splitSign s
  obtain ⟨base, digits, hdigits, hbase⟩ := ht'.exists_digitsSpelling hs
  have hinteger := integer?_eq hdigits hn
  simp only [readInteger, hsign, ht'.splitType_dropWhile hs, hbase]
  rw [hs.takeWhile_append isIntegerChar_of_mem_delimiters hdigits.isIntegerChar,
    hs.dropWhile_append isIntegerChar_of_mem_delimiters hdigits.isIntegerChar]
  exact congrArg (Option.map _) hinteger

/-- A number that fits into a word is read back. -/
lemma readNumber_append (h : NumberSpelling n t) (hn : (n : Int) ≤ IntegerType.word.greatest)
    (hs : Delimited s) : readNumber (t ++ s) = some (.integer none n, s) := by
  obtain ⟨t', ht', hsign⟩ := h.exists_splitSign s
  have hfloat : looksLikeFloat (t ++ s) = false := by
    rw [looksLikeFloat, hsign]
    exact decide_eq_false (ht'.length_takeWhile_le hs).not_gt
  have hbyte : readByteChar (t ++ s) = none := by
    obtain ⟨d, ds, rfl, hd⟩ := h.exists_mem_numberHeads
    refine readByteChar_of_head?_ne ?_
    rintro ⟨⟩
    exact absurd hd (by decide)
  simp only [readNumber, hfloat, hbyte, h.readInteger_append hn hs]
  rfl

end NumberSpelling

/-- A number is written in one of its spellings. -/
lemma numberSpelling_toDigits (n : Nat) : NumberSpelling n (Nat.toDigits 10 n) := by
  have hdigit : ∀ c ∈ Nat.toDigits 10 n, (c != '_') = true := by
    intro c hc
    have := Nat.isDigit_of_mem_toDigits (by decide) (by decide) hc
    rw [bne_iff_ne]
    rintro rfl
    cases this
  refine .bare (.decimal ⟨Nat.toDigits_ne_nil, fun h => ?_, ?_⟩)
  · simpa using hdigit _ (List.mem_of_mem_head? h)
  · rw [List.filter_eq_self.mpr hdigit]
    exact value?_eq_some_iff_of_base.mp (Numeral.value?_toDigits (by decide) (by decide) n)

end LectureMachine.Ron
