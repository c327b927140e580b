import LectureMachine.Proofs.Image.Binary
import LectureMachine.Proofs.Image.Grammar

/-!
# Bytes written as text

The bytes of an image can be written as a text in many ways: with digits of either case, with `0x`
or without it, with any blanks between the words and with comments at the ends of lines. All these
texts are read as the words of the bytes.
-/

namespace LectureMachine.TextImage

open Text

variable {text line token digits pre : List Char} {bytes bs : List Byte} {c : Char}

/-! ### Spellings -/

/-- A character that begins a comment. -/
def IsCommentSign (c : Char) : Prop := c = '#' ∨ c = ';'

/-- Two hexadecimal digits for every byte. -/
inductive Digits : List Char → List Byte → Prop
  | nil : Digits [] []
  | cons {high low : Char} {b : Byte} {digits : List Char} {bs : List Byte}
    (hhigh : IsDigit high (b.toNat / 16)) (hlow : IsDigit low (b.toNat % 16))
    (h : Digits digits bs) : Digits (high :: low :: digits) (b :: bs)

/-- The text writes down the bytes, four at a time as a word of eight digits. A word is followed by
a blank or a comment, or it is the last one. A comment goes on to the end of its line. -/
inductive Spells : List Char → List Byte → Prop
  | nil : Spells [] []
  | blank {c : Char} {text : List Char} {bytes : List Byte} (hc : isBlank c = true)
    (h : Spells text bytes) : Spells (c :: text) bytes
  | comment {c : Char} {remark text : List Char} {bytes : List Byte} (hc : IsCommentSign c)
    (hremark : '\n' ∉ remark) (hend : ∀ next ∈ text.head?, next = '\n')
    (h : Spells text bytes) :
    Spells (c :: remark ++ text) bytes
  | word {radix digits text : List Char} {bs bytes : List Byte} (hradix : radix ∈ radixes)
    (hdigits : Digits digits bs) (hlength : bs.length = 4)
    (hend : ∀ next ∈ text.head?, isBlank next = true ∨ IsCommentSign next)
    (h : Spells text bytes) :
    Spells (radix ++ digits ++ text) (bs ++ bytes)

/-! ### Digits -/

lemma Digits.length (h : Digits digits bs) : digits.length = 2 * bs.length := by
  induction h with
  | nil => rfl
  | cons _ _ _ ih =>
    simp only [List.length_cons, ih]
    omega

/-- The digits denote the same number as the bytes. -/
lemma Digits.exists_values (h : Digits digits bs) :
    ∃ values, List.Forall₂ IsDigit digits values ∧ ∀ start,
      values.foldl (fun n d => n * 16 + d) start =
        bs.foldl (fun n b => n * 256 + b.toNat) start := by
  induction h with
  | nil => exact ⟨[], .nil, fun _ => rfl⟩
  | @cons high low b digits bs hhigh hlow _ ih =>
    obtain ⟨values, hvalues, hfold⟩ := ih
    refine ⟨b.toNat / 16 :: b.toNat % 16 :: values, .cons hhigh (.cons hlow hvalues), ?_⟩
    intro start
    have hbyte : (start * 16 + b.toNat / 16) * 16 + b.toNat % 16 = start * 256 + b.toNat := by
      omega
    rw [List.foldl_cons, List.foldl_cons, List.foldl_cons, hbyte, hfold]

/-- The digits of four bytes are a documented token for the word of these bytes. -/
lemma Digits.documented (h : Digits digits bs) (hlength : bs.length = 4) {radix : List Char}
    (hradix : radix ∈ radixes) :
    Documented (radix ++ digits) (BitVec.ofNat 32 (BigEndian.value bs)) := by
  obtain ⟨values, hvalues, hfold⟩ := h.exists_values
  have hdigits : digits.length = 8 := by
    rw [h.length, hlength]
  have hlt : BigEndian.value bs < 2 ^ 32 := by
    have hlt := BigEndian.value_lt bs
    rwa [hlength] at hlt
  refine ⟨radix, digits, values, rfl, hradix, ?_, hdigits.le, hvalues, ?_⟩
  · rintro rfl
    cases hdigits
  · rw [BitVec.toNat_ofNat, Nat.mod_eq_of_lt hlt, ← foldl_eq_ofDigits, hfold]
    rfl

/-! ### Words and lines -/

/-- A character that is part of a word if it stands in one. -/
def IsPlain (c : Char) : Prop := isBlank c = false ∧ ¬ IsCommentSign c

lemma isPlain_of_between {low high : Char} (hc : low ≤ c ∧ c ≤ high)
    (h : ('0' ≤ low ∧ high ≤ '9') ∨ ('A' ≤ low ∧ high ≤ 'x')) : IsPlain c := by
  have hle (a b : Char) : a ≤ b ↔ a.toNat ≤ b.toNat := Iff.rfl
  simp only [hle, Char.reduceToNat] at hc h
  constructor
  · simp only [isBlank, Bool.or_eq_false_iff, Bool.and_eq_false_iff, decide_eq_false_iff_not,
      beq_eq_false_iff_ne]
    omega
  · rintro (rfl | rfl) <;> simp only [Char.reduceToNat] at hc <;> omega

lemma IsDigit.isPlain {d : Nat} (h : IsDigit c d) : IsPlain c := by
  have hdigit := hexDigit?_eq_some_iff.mpr h
  rw [Numeral.hexDigit?] at hdigit
  split_ifs at hdigit with h₁ h₂ h₃
  · exact isPlain_of_between h₁ (by decide)
  · exact isPlain_of_between h₂ (by decide)
  · exact isPlain_of_between h₃ (by decide)

/-- All of a word is plain. -/
lemma Documented.isPlain {word : InstructionWord} (h : Documented text word) (hc : c ∈ text) :
    IsPlain c := by
  obtain ⟨radix, digits, values, rfl, hradix, -, -, hvalues, -⟩ := h
  rcases List.mem_append.mp hc with hc | hc
  · have hradixes : ∀ radix ∈ radixes, radix ⊆ ['0', 'x', 'X'] := by decide
    have hmem := hradixes radix hradix hc
    simp only [List.mem_cons, List.not_mem_nil, or_false] at hmem
    rcases hmem with rfl | rfl | rfl <;> exact ⟨by decide, by simp [IsCommentSign]⟩
  · obtain ⟨d, -, hd⟩ := exists_related hvalues hc
    exact hd.isPlain

lemma code_cons_of_isCommentSign (hc : IsCommentSign c) (line : List Char) :
    code (c :: line) = [] := by
  rcases hc with rfl | rfl <;> rfl

lemma code_append (hpre : ∀ c ∈ pre, ¬ IsCommentSign c) (line : List Char) :
    code (pre ++ line) = pre ++ code line := by
  refine List.takeWhile_append_of_pos fun c hc => ?_
  have hsign := hpre c hc
  simpa [IsCommentSign] using hsign

/-- The code of a line begins with what the line begins with, unless this is a comment. -/
lemma head?_code : ∀ c ∈ (code line).head?, c ∈ line.head? ∧ ¬ IsCommentSign c := by
  cases line with
  | nil => nofun
  | cons c line =>
    by_cases hc : IsCommentSign c
    · rw [code_cons_of_isCommentSign hc]
      nofun
    · have hcode : code ([c] ++ line) = [c] ++ code line := code_append (by simpa using hc) line
      rw [List.singleton_append, List.singleton_append] at hcode
      rw [hcode]
      rintro _ ⟨⟩
      exact ⟨rfl, hc⟩

/-! ### Reading a text line by line -/

/-- The tokens of a text, in order. -/
def texts (text : List Char) : List (List Char) := (tokens text).map Prod.snd

lemma texts_of_free (h : ∀ c ∈ line, (c == '\n') = false) : texts line = words (code line) := by
  rw [texts, tokens_of_free h, map_snd_lineTokens]

lemma texts_append (h : ∀ c ∈ line, (c == '\n') = false) (rest : List Char) :
    texts (line ++ '\n' :: rest) = words (code line) ++ texts rest := by
  rw [← texts_of_free h, texts, tokens_append h, List.map_append, List.map_map, texts,
    tokens_of_free h]
  rfl

/-- The first line of a text. -/
def firstLine (text : List Char) : List Char := text.takeWhile fun c => !(c == '\n')

/-- What stands before a text in the same line concerns the first line of the text. -/
lemma texts_append_of_free {front : List (List Char)} (hpre : ∀ c ∈ pre, (c == '\n') = false)
    (h : words (code (pre ++ firstLine text)) = front ++ words (code (firstLine text))) :
    texts (pre ++ text) = front ++ texts text := by
  induction text using run_induction (p := (· == '\n')) with
  | last line hfree =>
    rw [firstLine, takeWhile_of_free hfree] at h
    rw [texts_of_free hfree, ← h, texts_of_free]
    intro c hc
    exact (List.mem_append.mp hc).elim (hpre c) (hfree c)
  | more line sep rest hfree hsep _ =>
    obtain rfl : sep = '\n' := by simpa using hsep
    rw [firstLine, takeWhile_of_free_append hfree hsep] at h
    rw [texts_append hfree, ← List.append_assoc, ← List.append_assoc, ← h, texts_append]
    intro c hc
    exact (List.mem_append.mp hc).elim (hpre c) (hfree c)

/-- The first line begins with what the text begins with, unless this ends the line. -/
lemma head?_firstLine : ∀ c ∈ (firstLine text).head?, c ∈ text.head? ∧ c ≠ '\n' := by
  cases text with
  | nil => nofun
  | cons c text =>
    by_cases hc : c = '\n'
    · rw [firstLine, List.takeWhile_cons_of_neg (by simp [hc])]
      nofun
    · rw [firstLine, List.takeWhile_cons_of_pos (by simp [hc])]
      rintro _ ⟨⟩
      exact ⟨rfl, hc⟩

/-- What ends a word ends it in the code of its line. -/
lemma isBlank_head?_code_firstLine
    (hend : ∀ c ∈ text.head?, isBlank c = true ∨ IsCommentSign c) :
    ∀ c ∈ (code (firstLine text)).head?, isBlank c = true := by
  intro c hc
  obtain ⟨hline, hsign⟩ := head?_code c hc
  exact (hend c (head?_firstLine c hline).1).resolve_right hsign

lemma texts_cons_of_blank (hc : isBlank c = true) (text : List Char) :
    texts (c :: text) = texts text := by
  by_cases hline : c = '\n'
  · have htexts : texts ([] ++ '\n' :: text) = words (code []) ++ texts text :=
      texts_append (by simp) text
    rw [hline]
    exact htexts
  · have hsign : ¬ IsCommentSign c := by
      rintro (rfl | rfl) <;> cases hc
    have htexts : texts ([c] ++ text) = [] ++ texts text := by
      refine texts_append_of_free (by simpa using hline) ?_
      rw [code_append (by simpa using hsign), words_eq_pieces, List.singleton_append,
        pieces_cons hc]
      rfl
    exact htexts

lemma texts_comment {remark : List Char} (hc : IsCommentSign c) (hremark : '\n' ∉ remark)
    (hend : ∀ next ∈ text.head?, next = '\n') : texts (c :: remark ++ text) = texts text := by
  have hempty : firstLine text = [] := by
    cases hfirst : firstLine text with
    | nil => rfl
    | cons next line =>
      obtain ⟨htext, hne⟩ := head?_firstLine next (by rw [hfirst]; rfl)
      exact absurd (hend next htext) hne
  have htexts : texts (c :: remark ++ text) = [] ++ texts text := by
    refine texts_append_of_free ?_ ?_
    · intro c' hc'
      rcases List.mem_cons.mp hc' with rfl | hc'
      · rcases hc with rfl | rfl <;> rfl
      · exact beq_false_of_ne fun heq => hremark (heq ▸ hc')
    · rw [hempty, List.append_nil, code_cons_of_isCommentSign hc]
      rfl
  exact htexts

lemma texts_word (hne : token ≠ []) (hplain : ∀ c ∈ token, IsPlain c)
    (hend : ∀ next ∈ text.head?, isBlank next = true ∨ IsCommentSign next) :
    texts (token ++ text) = token :: texts text := by
  have htexts : texts (token ++ text) = [token] ++ texts text := by
    refine texts_append_of_free ?_ ?_
    · intro c hc
      refine beq_false_of_ne ?_
      rintro rfl
      cases (hplain _ hc).1
    · rw [code_append fun c hc => (hplain c hc).2, words_eq_pieces]
      exact pieces_append hne (fun c hc => (hplain c hc).1) (isBlank_head?_code_firstLine hend)
  exact htexts

/-- The tokens of a text that writes down some bytes are documented tokens for their words. -/
theorem Spells.documented (h : Spells text bytes) :
    List.Forall₂ Documented (texts text) (BinaryImage.words bytes) := by
  induction h with
  | nil => exact .nil
  | blank hc _ ih => rwa [texts_cons_of_blank hc]
  | comment hc hremark hend _ ih => rwa [texts_comment hc hremark hend]
  | @word radix digits text bs bytes hradix hdigits hlength hend _ ih =>
    have hword := hdigits.documented hlength hradix
    have hne : radix ++ digits ≠ [] := by
      intro hnil
      have hdigits := hdigits.length
      rw [(List.append_eq_nil_iff.mp hnil).2, hlength] at hdigits
      cases hdigits
    rw [texts_word hne (fun c hc => hword.isPlain hc) hend]
    match bs, hlength with
    | [a, b, c, d], _ => exact .cons hword ih

/-- A text that writes down some bytes is read as their words. -/
theorem Spells.parse {source : String} (h : Spells source.toList bytes) :
    parse source = .ok (BinaryImage.words bytes) := by
  rw [parse_eq, mapM_eq_ok_iff]
  simp only [readToken_eq_ok_iff]
  exact (List.forall₂_map_left_iff.mp h.documented).imp fun _ _ => .inl

/-! ### Writing a text -/

lemma isDigit_digitChar {d : Nat} (h : d < 16) : IsDigit (Nat.digitChar d) d :=
  ⟨h, by interval_cases d <;> rfl⟩

lemma exists_digits (bs : List Byte) : ∃ digits, Digits digits bs := by
  induction bs with
  | nil => exact ⟨[], .nil⟩
  | cons b bs ih =>
    obtain ⟨digits, hdigits⟩ := ih
    have hb := b.isLt
    have hhigh := isDigit_digitChar (d := b.toNat / 16) (by omega)
    have hlow := isDigit_digitChar (d := b.toNat % 16) (by omega)
    exact ⟨_, .cons hhigh hlow hdigits⟩

/-- The bytes of whole words can be written down. -/
theorem exists_spells (h : 4 ∣ bytes.length) : ∃ source : String, Spells source.toList bytes := by
  suffices htext : ∃ text, Spells text bytes by
    obtain ⟨text, htext⟩ := htext
    exact ⟨String.ofList text, by rwa [String.toList_ofList]⟩
  fun_induction BinaryImage.words bytes with
  | case1 a b c d rest ih =>
    obtain ⟨text, htext⟩ := ih (by simpa using h)
    obtain ⟨digits, hdigits⟩ := exists_digits [a, b, c, d]
    have hline : Spells ('\n' :: text) rest := .blank (by decide) htext
    have hend : ∀ c ∈ ('\n' :: text).head?, isBlank c = true ∨ IsCommentSign c := by
      rintro _ ⟨⟩
      exact .inl (by decide)
    have hradix : [] ∈ radixes := by decide
    exact ⟨_, .word hradix hdigits rfl hend hline⟩
  | case2 bytes hshort =>
    obtain rfl := BinaryImage.eq_nil_of_short h hshort
    exact ⟨[], .nil⟩

end LectureMachine.TextImage
