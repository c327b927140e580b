import LectureMachine.Proofs.Ron.Value

/-!
# Spellings of a document

A document holds one value. Before it there may be attributes, which ask for extensions, and behind
it there may be white space, whose last comment need not end.
-/

namespace LectureMachine.Ron

variable {g s t : List Char} {names : List Name} {e e' : Extensions}

/-! ### Attributes -/

inductive NameSpelling : Name → List Char → Prop
  | mk {t : List Char} (h : IsName t) : NameSpelling ⟨t, false⟩ t

/-- How an attribute is spelled that names extensions. -/
inductive AttributeSpelling (names : List Name) : List Char → Prop
  | mk {g₁ g₂ g₃ g₄ g₅ t : List Char} (hg₁ : Gap g₁) (hg₂ : Gap g₂) (hg₃ : Gap g₃) (hg₄ : Gap g₄)
      (hg₅ : Gap g₅) (hne : names ≠ []) (h : ItemsSpelling NameSpelling names t) :
      AttributeSpelling names
        ('#' :: (g₁ ++ '!' :: (g₂ ++ '[' :: (g₃ ++ ("enable".toList ++ (g₄ ++
          '(' :: (t ++ ')' :: (g₅ ++ [']']))))))))

/-- How attributes are spelled that add to the extensions. -/
inductive AttributesSpelling : Extensions → Extensions → List Char → Prop
  | none {e : Extensions} {g : List Char} (hg : Gap g) : AttributesSpelling e e g
  | more {e e' e'' : Extensions} {g t rest : List Char} {names : List Name} (hg : Gap g)
      (h : AttributeSpelling names t) (hadd : names.foldlM Extensions.add? e = some e')
      (hrest : AttributesSpelling e' e'' rest) : AttributesSpelling e e'' (g ++ (t ++ rest))

lemma reads_name : Reads readName NameSpelling where
  begins := by
    rintro _ _ ⟨h⟩
    exact h.begins_self
  append := by
    rintro _ _ _ ⟨h⟩ hs
    exact readName_append h hs

lemma AttributeSpelling.readAttribute_append (h : AttributeSpelling names t) (s : List Char) :
    readAttribute (t ++ s) = some (names, s) := by
  obtain @⟨g₁, g₂, g₃, g₄, g₅, t, hg₁, hg₂, hg₃, hg₄, hg₅, hne, h⟩ := h
  obtain ⟨g, hg, hitems⟩ := h.exists_readItems reads_name (g₅ ++ ']' :: s)
  have hsign (s : List Char) : readMark '#' ('#' :: s) = some s :=
    Gap.nil.readMark_append (by decide) s
  have hbang := hg₁.readMark_append (by decide : IsSolid '!')
  have hopen := hg₂.readMark_append (by decide : IsSolid '[')
  have hskip := hg₃.skipSpace_append_of_begins (t := "enable".toList) ⟨'e', rfl, by decide⟩
  have hlist := hg₄.readMark_append (by decide : IsSolid '(')
  have hclose := hg.readMark_append (by decide : IsSolid ')')
  have hend := hg₅.readMark_append (by decide : IsSolid ']') s
  have hdrop (s : List Char) :
      readAttribute.dropMark "enable".toList ("enable".toList ++ s) = some s := by
    simp [readAttribute.dropMark]
  simp only [List.cons_append, List.append_assoc, List.nil_append, readAttribute, readList, hsign,
    hbang, hopen, hskip, hdrop, hlist, hitems, hclose, Option.bind_eq_bind, Option.bind_some]
  simp [hne, hend]

/-- The attributes are read up to the value. -/
lemma AttributesSpelling.readAttributes_append (h : AttributesSpelling e e' t) (hs : Begins s) :
    readAttributes e (t ++ s) = some (e', s) := by
  obtain ⟨c, cs, rfl, hc, hno⟩ := hs.exists_cons
  induction h with
  | none hg =>
    rw [List.mem_pair, not_or] at hno
    rw [readAttributes, hg.skipSpace_append_cons hc]
    simp [hno.2]
  | @more e e' e'' g t rest names hg h hadd _ ih =>
    have hread := h.readAttribute_append (rest ++ c :: cs)
    obtain ⟨ds, rfl⟩ : ∃ ds, t = '#' :: ds := by
      obtain ⟨_, _, _, _, _, _, _⟩ := h
      exact ⟨_, rfl⟩
    have hlength : (rest ++ c :: cs).length < (g ++ '#' :: (ds ++ (rest ++ c :: cs))).length := by
      simp
      omega
    rw [List.append_assoc, List.append_assoc, List.cons_append] at *
    rw [readAttributes, hg.skipSpace_append_cons (by decide)]
    simp only [hread, hadd, if_pos hlength, ih]

/-! ### Documents -/

/-- The white space at the end of a document. -/
inductive EndSpelling : List Char → Prop
  | gap {g : List Char} (hg : Gap g) : EndSpelling g
  | line {g body : List Char} (hg : Gap g) (hbody : '\n' ∉ body) :
      EndSpelling (g ++ '/' :: '/' :: body)

/-- How a document is spelled that holds the value and asks for the extensions. -/
inductive DocumentSpelling : Document → List Char → Prop
  | mk {e : Extensions} {v : Value} {head t tail : List Char}
      (hhead : AttributesSpelling {} e head) (he : e.unwrapVariantNewtypes = false)
      (h : ValueSpelling maxDepth v t) (htail : EndSpelling tail) :
      DocumentSpelling ⟨e, v⟩ (head ++ (t ++ tail))

lemma EndSpelling.skipSpace_eq (h : EndSpelling t) : skipSpace t = some [] := by
  cases h with
  | gap hg =>
    have hskip := hg.skipSpace_append []
    rwa [List.append_nil] at hskip
  | @line g body hg hbody =>
    rw [hg.skipSpace_append]
    exact skipFrom_line_eq hbody

lemma EndSpelling.delimited (h : EndSpelling t) : Delimited t := by
  cases h with
  | gap hg =>
    have hend := hg.delimited_append delimited_nil
    rwa [List.append_nil] at hend
  | line hg hbody => exact hg.delimited_append (delimited_cons.mpr (by decide))

/-- A document is read back from every one of its spellings. -/
theorem readDocument_eq {d : Document} (h : DocumentSpelling d t) : readDocument t = some d := by
  obtain @⟨e, v, head, t, tail, hhead, he, hv, htail⟩ := h
  have hreads := reads_value he maxDepth
  have hextensions := hhead.readAttributes_append ((hreads.begins hv).append tail)
  simp [readDocument, hextensions, hreads.append hv htail.delimited, htail.skipSpace_eq]

end LectureMachine.Ron
