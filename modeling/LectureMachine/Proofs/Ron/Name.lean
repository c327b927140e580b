import LectureMachine.Proofs.Ron.Space

/-!
# Spellings of names and words

A name is spelled as it is. It ends where a delimiter follows, so a word is found in a text only if
it is the whole name that stands there.
-/

namespace LectureMachine.Ron

open Text (isNameStart isNameContinue)

variable {c : Char} {s text word : List Char} {v : Value}

/-- A text that can be a name. -/
structure IsName (text : List Char) : Prop where
  begins : ∃ c ∈ text.head?, isNameStart c = true
  continues : ∀ c ∈ text, isNameContinue c = true

instance (text : List Char) : Decidable (IsName text) :=
  decidable_of_iff (text.head?.any isNameStart = true ∧ text.all isNameContinue = true)
    ⟨fun h => ⟨(Option.any_eq_true _ _).mp h.1, List.all_eq_true.mp h.2⟩,
      fun h => ⟨(Option.any_eq_true _ _).mpr h.begins, List.all_eq_true.mpr h.continues⟩⟩

lemma isNameContinue_of_mem_delimiters (hc : c ∈ delimiters) : isNameContinue c = false := by
  have h := isRawNameChar_of_mem_delimiters c hc
  simp only [isRawNameChar, Bool.or_eq_false_iff] at h
  exact h.2

lemma not_mem_delimiters_of_isNameStart (h : isNameStart c = true) : c ∉ delimiters := by
  intro hc
  rw [isNameStart_of_mem_delimiters c hc] at h
  cases h

lemma any_head?_eq_false_iff {p : Char → Bool} :
    s.head?.any p = false ↔ ∀ c ∈ s.head?, p c = false := by
  cases s <;> simp

/-! ### Words -/

lemma dropWord_of_head?_ne (h : s.head? ≠ some c) (word : List Char) :
    dropWord (c :: word) s = none := by
  obtain _ | ⟨d, s⟩ := s
  · rfl
  · have hne : c ≠ d := fun heq => h (congrArg some heq.symm)
    simp [dropWord, hne]

/-- A word is found where it is the whole name. -/
lemma dropWord_append (hword : ∀ c ∈ word, isNameContinue c = true)
    (htext : ∀ c ∈ text, isNameContinue c = true) (hs : Delimited s) :
    dropWord word (text ++ s) = if word = text then some s else none := by
  have hhead : ∀ c ∈ s.head?, isNameContinue c = false := fun c hc =>
    isNameContinue_of_mem_delimiters (hs c hc)
  split_ifs with heq
  · subst heq
    simp [dropWord, List.isPrefixOf_iff_prefix, any_head?_eq_false_iff.mpr hhead]
  · rw [dropWord, if_neg]
    intro h
    rw [Bool.and_eq_true, List.isPrefixOf_iff_prefix, Bool.not_eq_true'] at h
    obtain ⟨⟨rest, hrest⟩, hend⟩ := h
    rw [← hrest, List.drop_left, any_head?_eq_false_iff] at hend
    have htake := congrArg (List.takeWhile isNameContinue) hrest
    rw [takeWhile_append_of_head? hword hend, takeWhile_append_of_head? htext hhead] at htake
    exact heq htake

/-- The words that a reader looks for before it looks for a name. -/
def reserved : List (List Char) :=
  "Some".toList :: words.map (·.1) ++
    ["inf", "NaN"].flatMap fun name => ["", "f32", "f64"].map fun type => (name ++ type).toList

lemma isNameContinue_of_mem_reserved :
    ∀ word ∈ reserved, ∀ c ∈ word, isNameContinue c = true := by
  have hall : ∀ word ∈ reserved, word.all isNameContinue = true := by decide +kernel
  exact fun word hword => List.all_eq_true.mp (hall word hword)

lemma dropWord_eq_none_of_not_mem (htext : ∀ c ∈ text, isNameContinue c = true)
    (hno : text ∉ reserved) (hs : Delimited s) :
    ∀ word ∈ reserved, dropWord word (text ++ s) = none := by
  intro word hword
  rw [dropWord_append (isNameContinue_of_mem_reserved word hword) htext hs, if_neg]
  rintro rfl
  exact hno hword

lemma dropWord_eq_none_of_head? (h : ∀ c ∈ s.head?, c ∉ ['S', 't', 'f', 'N', 'i']) :
    ∀ word ∈ reserved, dropWord word s = none := by
  intro word hword
  have hheads : ∀ word ∈ reserved, word.head? ∈ ['S', 't', 'f', 'N', 'i'].map some := by decide
  obtain ⟨c, hmem, hc⟩ := List.mem_map.mp (hheads word hword)
  obtain ⟨word, rfl⟩ := List.head?_eq_some_iff.mp hc.symm
  exact dropWord_of_head?_ne (fun hs => h c hs hmem) word

lemma readWord_eq_none (h : ∀ word ∈ reserved, dropWord word s = none) : readWord s = none := by
  have hnumbers : readNotFinite s = none := by
    rw [readNotFinite, List.findSome?_eq_none_iff]
    intro name hname
    rw [List.findSome?_eq_none_iff]
    intro type htype
    refine Option.map_eq_none_iff.mpr (h _ (List.mem_append_right _ ?_))
    exact List.mem_flatMap.mpr ⟨name, hname, List.mem_map_of_mem htype⟩
  rw [readWord]
  split
  case h_1 found hfound =>
    obtain ⟨p, hp, hdrop⟩ := List.exists_of_findSome?_eq_some hfound
    have hnone := h p.1 (by simp [reserved, List.mem_map.mpr ⟨p, hp, rfl⟩])
    simp [hnone] at hdrop
  case h_2 => rw [hnumbers, Option.map_none]

lemma readWord_append (hmem : (word, v) ∈ words) (hs : Delimited s) :
    readWord (word ++ s) = some (v, s) := by
  have hname : ∀ p ∈ words, ∀ c ∈ p.1, isNameContinue c = true := fun p hp =>
    isNameContinue_of_mem_reserved p.1 (by simp [reserved, List.mem_map.mpr ⟨p, hp, rfl⟩])
  have hdrop {w : List Char} {v' : Value} (hw : (w, v') ∈ words) :
      dropWord w (word ++ s) = if w = word then some s else none :=
    dropWord_append (hname _ hw) (hname _ hmem) hs
  have htrue := hdrop (w := "true".toList) (.head _)
  have hfalse := hdrop (w := "false".toList) (.tail _ (.head _))
  have hnone := hdrop (w := "None".toList) (.tail _ (.tail _ (.head _)))
  simp only [readWord, words, List.findSome?_cons, htrue, hfalse, hnone]
  simp only [words, List.mem_cons, Prod.mk.injEq, List.not_mem_nil, or_false] at hmem
  obtain ⟨rfl, rfl⟩ | ⟨rfl, rfl⟩ | ⟨rfl, rfl⟩ := hmem <;> rfl

/-! ### Names -/

lemma readName_eq_none {c : Char} (hc : isNameStart c = false) (s : List Char) :
    readName (c :: s) = none := by
  simp [readName, hc]

lemma readName_eq_none_of_beginsQuotation (h : beginsQuotation (c :: s) = true) :
    readName (c :: s) = none := by
  simp [readName, h]

/-- A mark that is no delimiter does not follow a name. -/
lemma append_ne_of_mark {mark : Char} {rest : List Char} (hname : IsName text) (hs : Delimited s)
    (hword : ∀ c ∈ word, isNameContinue c = true) (hmark : isNameContinue mark = false)
    (hno : mark ∉ delimiters) : text ++ s ≠ word ++ mark :: rest := by
  intro heq
  have htake := congrArg (List.takeWhile isNameContinue) heq
  rw [hs.takeWhile_append (fun _ => isNameContinue_of_mem_delimiters) hname.continues,
    takeWhile_append_of_head? hword (by simpa using hmark)] at htake
  subst htake
  obtain rfl := List.append_cancel_left heq
  exact hno (delimited_cons.mp hs)

lemma beginsQuotation_append (h : IsName text) (hs : Delimited s) :
    beginsQuotation (text ++ s) = false := by
  have hb : ∀ c ∈ ['b'], isNameContinue c = true :=
    List.forall_iff_forall_mem.mp (by decide +kernel)
  have hr : ∀ c ∈ ['r'], isNameContinue c = true :=
    List.forall_iff_forall_mem.mp (by decide +kernel)
  have hbr : ∀ c ∈ ['b', 'r'], isNameContinue c = true :=
    List.forall_iff_forall_mem.mp (by decide +kernel)
  have hmarks : ∀ c ∈ ['"', '\'', '#'], isNameContinue c = false :=
    List.forall_iff_forall_mem.mp (by decide +kernel)
  unfold beginsQuotation
  split
  case h_1 heq | h_2 heq =>
    exact (append_ne_of_mark h hs hb (hmarks _ (by simp)) (by decide) heq).elim
  case h_3 heq | h_4 heq =>
    exact (append_ne_of_mark h hs hbr (hmarks _ (by simp)) (by decide) heq).elim
  case h_5 heq | h_6 heq | h_7 heq =>
    exact (append_ne_of_mark h hs hr (hmarks _ (by simp)) (by decide) heq).elim
  case h_8 => rfl

lemma readPlainName_append (h : IsName text) (hs : Delimited s) :
    readPlainName (text ++ s) = some (⟨text, false⟩, s) := by
  have hno : ∀ c ∈ delimiters, isNameContinue c = false := fun _ => isNameContinue_of_mem_delimiters
  rw [readPlainName, hs.takeWhile_append hno h.continues, hs.dropWhile_append hno h.continues]
  cases s with
  | nil => rfl
  | cons c s => exact if_neg (by simp [isRawNameChar_of_mem_delimiters c (delimited_cons.mp hs)])

/-- A name is read up to the delimiter behind it. -/
lemma readName_append (h : IsName text) (hs : Delimited s) :
    readName (text ++ s) = some (⟨text, false⟩, s) := by
  have hplain := readPlainName_append h hs
  have hquotation := beginsQuotation_append h hs
  obtain ⟨c, hc, hstart⟩ := h.begins
  obtain ⟨cs, rfl⟩ := List.head?_eq_some_iff.mp hc
  rw [List.cons_append] at hplain hquotation ⊢
  simp only [readName, hstart, hquotation, Bool.not_true, Bool.or_false, Bool.false_eq_true,
    if_false]
  split
  case h_1 heq =>
    have hr : ∀ c ∈ ['r'], isNameContinue c = true :=
      List.forall_iff_forall_mem.mp (by decide +kernel)
    exact (append_ne_of_mark h hs hr (by decide +kernel) (by decide) heq).elim
  case h_2 => exact hplain

end LectureMachine.Ron
