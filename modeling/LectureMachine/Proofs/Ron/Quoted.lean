import LectureMachine.Proofs.Instruction.Operands
import LectureMachine.Ron.Quoted

/-!
# Spellings of a text

A character of a quoted text is spelled as itself or with an escape, and a text that holds no
closing mark can be spelled as a raw text. Every spelling is read back, and when a text is written,
each of its characters is spelled in one of these ways.
-/

namespace LectureMachine.Ron

open TextImage (IsDigit hexDigit?_eq_some_iff value?_eq_some_iff exists_related)

variable {c : Char} {cs t digits : List Char}

/-! ### Characters -/

/-- The letters that stand for characters behind a backslash. -/
def letterEscapes : List (Char × Char) :=
  [('\'', '\''), ('"', '"'), ('\\', '\\'), ('n', '\n'), ('r', '\r'), ('t', '\t'), ('0', '\x00')]

/-- How a character is spelled in a quoted text. -/
inductive CharSpelling : Char → List Char → Prop
  | plain {c : Char} (hquote : c ≠ '"') (hbackslash : c ≠ '\\') : CharSpelling c [c]
  | letter {l c : Char} (h : (l, c) ∈ letterEscapes) : CharSpelling c ['\\', l]
  | number {c : Char} {digits : List Char} {values : List Nat} (hne : digits ≠ [])
      (hlength : digits.length ≤ 6) (hvalues : List.Forall₂ IsDigit digits values)
      (hc : c.toNat = Nat.ofDigits 16 values.reverse) :
      CharSpelling c ('\\' :: 'u' :: '\x7b' :: digits ++ ['\x7d'])

lemma readNumberEscape_append {values : List Nat} (hne : digits ≠ []) (hlength : digits.length ≤ 6)
    (hvalues : List.Forall₂ IsDigit digits values) (hc : c.toNat = Nat.ofDigits 16 values.reverse)
    (s : List Char) : readNumberEscape (digits ++ '\x7d' :: s) = some (c, s) := by
  have hdigits : ∀ d ∈ digits, (d != '\x7d') = true := by
    intro d hd
    obtain ⟨value, -, hvalue⟩ := exists_related hvalues hd
    have hsome := hexDigit?_eq_some_iff.mpr hvalue
    rw [bne_iff_ne]
    rintro rfl
    cases hsome
  have hvalue : Numeral.value? 16 digits = some c.toNat :=
    value?_eq_some_iff.mpr ⟨values, hvalues, hc⟩
  have htake : (digits ++ '\x7d' :: s).takeWhile (· != '\x7d') = digits := by
    rw [List.takeWhile_append_of_pos hdigits]
    simp
  have hdrop : (digits ++ '\x7d' :: s).dropWhile (· != '\x7d') = '\x7d' :: s := by
    rw [List.dropWhile_append_of_pos hdigits]
    simp
  have hvalid : c.toNat.isValidChar := c.valid
  simp [readNumberEscape, htake, hdrop, hne, hlength, hvalue, hvalid]

lemma readQuoted_escape {s' s : List Char} (h : readEscape .text s' = some (c, s))
    (hlength : s.length ≤ s'.length) :
    readQuoted .text ('\\' :: s') = (readQuoted .text s).map fun (cs, s) => (c :: cs, s) := by
  rw [readQuoted, h]
  exact if_pos (Nat.lt_succ_of_le hlength)

lemma CharSpelling.readQuoted_append (h : CharSpelling c t) (s : List Char) :
    readQuoted .text (t ++ s) = (readQuoted .text s).map fun (cs, s) => (c :: cs, s) := by
  cases h with
  | plain hquote hbackslash => rw [List.singleton_append, readQuoted] <;> simp_all
  | @letter l _ h =>
    have hread : ∀ p ∈ letterEscapes, readEscape .text (p.1 :: s) = some (p.2, s) := by
      simp [letterEscapes, readEscape]
    exact readQuoted_escape (hread _ h) (by simp)
  | @number _ digits _ hne hlength hvalues hc =>
    have hread : readEscape .text ('u' :: '\x7b' :: (digits ++ '\x7d' :: s)) = some (c, s) :=
      readNumberEscape_append hne hlength hvalues hc s
    simpa using readQuoted_escape hread (by simp; omega)

/-- The number of a character has at most six digits. -/
lemma charSpelling_numberEscape (c : Char) : CharSpelling c (numberEscape c) := by
  obtain ⟨values, hvalues, hc⟩ :=
    value?_eq_some_iff.mp (Numeral.value?_toDigits (by decide) (le_refl 16) c.toNat)
  have hlt : c.toNat < 16 ^ 6 := by
    have hvalid : c.toNat.isValidChar := c.valid
    rw [Nat.isValidChar] at hvalid
    omega
  have hlength := (Nat.length_toDigits_le_iff (by decide) (by decide)).mpr hlt
  exact .number Nat.toDigits_ne_nil hlength hvalues hc

/-- A character is written in one of its spellings. -/
lemma charSpelling_escape (c : Char) : CharSpelling c (escape c) := by
  unfold escape
  split
  case h_8 hbackslash _ hquote =>
    split_ifs
    · exact .plain hquote hbackslash
    · exact charSpelling_numberEscape c
  all_goals exact .letter (by decide)

/-! ### Texts -/

/-- How a text is spelled. A raw text has any number of number signs around it, and no quotation
mark with that many of them behind it is in the text. -/
inductive TextSpelling : List Char → List Char → Prop
  | quoted {cs : List Char} {ts : List (List Char)} (h : List.Forall₂ CharSpelling cs ts) :
      TextSpelling cs ('"' :: ts.flatten ++ ['"'])
  | raw {cs : List Char} {signs : Nat} (h : ¬ '"' :: List.replicate signs '#' <:+: cs) :
      TextSpelling cs
        ('r' :: List.replicate signs '#' ++ '"' :: cs ++ '"' :: List.replicate signs '#')

lemma readQuoted_flatten {ts : List (List Char)} (h : List.Forall₂ CharSpelling cs ts)
    (s : List Char) : readQuoted .text (ts.flatten ++ '"' :: s) = .ok (cs, s) := by
  induction h with
  | nil => simp [readQuoted]
  | cons hc _ ih => rw [List.flatten_cons, List.append_assoc, hc.readQuoted_append, ih]; rfl

/-- The closing mark does not begin earlier. A quotation mark that it holds is its first character,
and what comes after a raw text begins with one. -/
lemma not_prefix_append {signs : Nat} (h : ¬ '"' :: List.replicate signs '#' <:+: cs)
    (hne : cs ≠ []) (s : List Char) : ¬ '"' :: List.replicate signs '#' <+: cs ++ '"' :: s := by
  intro hprefix
  rcases le_or_gt ('"' :: List.replicate signs '#').length cs.length with hle | hlt
  · exact h (List.prefix_of_prefix_length_le hprefix (List.prefix_append cs _) hle).isInfix
  · have hget := hprefix.getElem hlt
    rw [List.getElem_append_right (le_refl _)] at hget
    obtain ⟨k, hk⟩ := Nat.exists_eq_succ_of_ne_zero (List.length_pos_iff.mpr hne).ne'
    simp [hk] at hget

lemma readUntil_append {signs : Nat} (h : ¬ '"' :: List.replicate signs '#' <:+: cs)
    (s : List Char) :
    readUntil ('"' :: List.replicate signs '#') (cs ++ '"' :: (List.replicate signs '#' ++ s)) =
      some (cs, s) := by
  induction cs with
  | nil => simp [readUntil, List.isPrefixOf_iff_prefix]
  | cons c cs ih =>
    have hnot := not_prefix_append h (List.cons_ne_nil c cs) (List.replicate signs '#' ++ s)
    rw [List.infix_cons_iff, not_or] at h
    rw [List.cons_append] at hnot ⊢
    rw [readUntil, if_neg (mt List.isPrefixOf_iff_prefix.mp hnot), ih h.2]
    rfl

lemma TextSpelling.readText_append (h : TextSpelling cs t) (s : List Char) :
    readText (t ++ s) = .ok (cs, s) := by
  cases h with
  | quoted h => simpa [readText] using readQuoted_flatten h s
  | @raw signs h =>
    have hsigns : ∀ c ∈ List.replicate signs '#', (c == '#') = true := by simp
    have hraw := readUntil_append h s
    simp [readText, readRaw, List.takeWhile_append_of_pos hsigns,
      List.dropWhile_append_of_pos hsigns, hraw]

/-- A text is written in one of its spellings. -/
lemma textSpelling_quote (cs : List Char) : TextSpelling cs (quote cs) := by
  rw [quote, List.flatMap]
  exact .quoted (List.forall₂_map_right_iff.mpr
    (List.forall₂_same.mpr fun c _ => charSpelling_escape c))

end LectureMachine.Ron
