import LectureMachine.Proofs.Ron.Name
import LectureMachine.Proofs.Ron.Number
import LectureMachine.Proofs.Ron.Quoted

/-!
# Spellings of a value

A value can be spelled in many ways: there is a choice of escapes, of bases and of the white space
between the parts. Here this is said for truth values, numbers, texts, optional values and
structures with named parts, which stand in each other down to a given number of levels. Whatever
the choice, the value is read back.
-/

namespace LectureMachine.Ron

variable {α : Type} {g s t : List Char} {v : Value} {e : Extensions} {inner? : Option Inner}

/-! ### Readers and what they read -/

/-- Something that stands behind a gap and is neither a closing parenthesis nor an attribute. -/
def Begins (t : List Char) : Prop := ∃ c ∈ t.head?, IsSolid c ∧ c ∉ [')', '#']

/-- The reader reads all that is spelled in this way, up to a delimiter. -/
structure Reads (reader : Reader α) (Spelled : α → List Char → Prop) : Prop where
  begins : ∀ {a t}, Spelled a t → Begins t
  append : ∀ {a t s}, Spelled a t → Delimited s → reader (t ++ s) = some (a, s)

lemma Begins.exists_cons (h : Begins t) : ∃ c cs, t = c :: cs ∧ IsSolid c ∧ c ∉ [')', '#'] := by
  obtain ⟨c, hc, h⟩ := h
  obtain ⟨cs, rfl⟩ := List.head?_eq_some_iff.mp hc
  exact ⟨c, cs, rfl, h⟩

lemma Begins.append (h : Begins t) (s : List Char) : Begins (t ++ s) := by
  obtain ⟨c, cs, rfl, hc⟩ := h.exists_cons
  exact ⟨c, rfl, hc⟩

lemma Gap.skipSpace_append_of_begins (hg : Gap g) (ht : Begins t) (s : List Char) :
    skipSpace (g ++ (t ++ s)) = some (t ++ s) := by
  obtain ⟨c, cs, rfl, hc, -⟩ := ht.exists_cons
  exact hg.skipSpace_append_cons hc (cs ++ s)

lemma IsName.begins_self (h : IsName t) : Begins t := by
  obtain ⟨c, hc, hstart⟩ := h.begins
  have hno := not_mem_delimiters_of_isNameStart hstart
  have hsolid : IsSolid c := by
    refine ⟨?_, fun hslash => hno (hslash ▸ by decide)⟩
    exact Bool.eq_false_of_not_eq_true (mt mem_delimiters_of_isSpace hno)
  have hsign : Text.isNameStart '#' = false := by decide +kernel
  refine ⟨c, hc, hsolid, ?_⟩
  rw [List.mem_pair]
  rintro (rfl | rfl)
  · exact hno (by decide)
  · rw [hsign] at hstart
    cases hstart

/-- How items are spelled one after the other, with commas between them and perhaps one after the
last, and with gaps around all of them. -/
inductive ItemsSpelling (Spelled : α → List Char → Prop) : List α → List Char → Prop
  | none {g : List Char} (hg : Gap g) : ItemsSpelling Spelled [] g
  | one {a : α} {g t g' : List Char} (hg : Gap g) (ha : Spelled a t) (hg' : Gap g') :
      ItemsSpelling Spelled [a] (g ++ t ++ g')
  | more {a : α} {items : List α} {g t g' rest : List Char} (hg : Gap g) (ha : Spelled a t)
      (hg' : Gap g') (h : ItemsSpelling Spelled items rest) :
      ItemsSpelling Spelled (a :: items) (g ++ t ++ g' ++ ',' :: rest)

section Items

variable {reader : Reader α} {Spelled : α → List Char → Prop} {a : α} {rest : List Char}

lemma Reads.readItems_of_comma (hreads : Reads reader Spelled) (hg : Gap g) (ha : Spelled a t)
    (hs : Delimited s) (hcomma : readMark ',' s = some rest)
    (hlength : rest.length < (g ++ (t ++ s)).length) :
    readItems reader ')' (g ++ (t ++ s)) =
      (readItems reader ')' rest).map fun (items, rest) => (a :: items, rest) := by
  have hread := hreads.append ha hs
  rw [readItems, hg.skipSpace_append_of_begins (hreads.begins ha)]
  obtain ⟨c, cs, rfl, -, hno⟩ := (hreads.begins ha).exists_cons
  rw [List.mem_pair, not_or] at hno
  rw [List.cons_append] at hread hlength ⊢
  simp only [if_neg hno.1, hread, hcomma, if_pos hlength]

lemma Reads.readItems_of_close (hreads : Reads reader Spelled) (hg : Gap g) (ha : Spelled a t)
    (hs : Delimited s) (hno : readMark ',' s = none) (hclose : readMark ')' s = some rest) :
    readItems reader ')' (g ++ (t ++ s)) = some ([a], s) := by
  have hread := hreads.append ha hs
  rw [readItems, hg.skipSpace_append_of_begins (hreads.begins ha)]
  obtain ⟨c, cs, rfl, -, hc⟩ := (hreads.begins ha).exists_cons
  rw [List.mem_pair, not_or] at hc
  rw [List.cons_append] at hread ⊢
  simp [hc.1, hread, hno, hclose]

/-- Items are read up to the closing parenthesis, which a gap may precede. -/
lemma ItemsSpelling.exists_readItems (hreads : Reads reader Spelled) {items : List α}
    (h : ItemsSpelling Spelled items t) (s : List Char) :
    ∃ g, Gap g ∧ readItems reader ')' (t ++ ')' :: s) = some (items, g ++ ')' :: s) := by
  have hclose : Delimited (')' :: s) := delimited_cons.mpr (by decide)
  induction h with
  | none hg =>
    refine ⟨[], .nil, ?_⟩
    rw [readItems, hg.skipSpace_append_cons (by decide)]
    rfl
  | @one a g t g' hg ha hg' =>
    refine ⟨g', hg', ?_⟩
    rw [List.append_assoc, List.append_assoc]
    exact hreads.readItems_of_close hg ha (hg'.delimited_append hclose)
      (hg'.readMark_append_of_ne (by decide) (by decide) s) (hg'.readMark_append (by decide) s)
  | @more a items g t g' rest hg ha hg' _ ih =>
    obtain ⟨g'', hg'', hrest⟩ := ih
    have hcomma : Delimited (',' :: (rest ++ ')' :: s)) := delimited_cons.mpr (by decide)
    refine ⟨g'', hg'', ?_⟩
    rw [List.append_assoc, List.append_assoc, List.append_assoc, List.cons_append,
      hreads.readItems_of_comma hg ha (hg'.delimited_append hcomma)
        (hg'.readMark_append (by decide) _) (by simp; omega), hrest]
    rfl

end Items

/-! ### Scalars -/

/-- How a value without parts is spelled. -/
inductive ScalarSpelling : Value → List Char → Prop
  | true : ScalarSpelling (.bool true) "true".toList
  | false : ScalarSpelling (.bool false) "false".toList
  | absent : ScalarSpelling .absent "None".toList
  | number {n : Nat} {t : List Char} (h : NumberSpelling n t)
      (hn : (n : Int) ≤ IntegerType.word.greatest) : ScalarSpelling (.integer none n) t
  | text {cs t : List Char} (h : TextSpelling cs t) : ScalarSpelling (.text cs) t

lemma ScalarSpelling.begins (h : ScalarSpelling v t) : Begins t := by
  cases h with
  | true | false | absent => exact ⟨_, rfl, by decide⟩
  | number h =>
    obtain ⟨d, ds, rfl, hd⟩ := h.exists_mem_numberHeads
    have hheads : ∀ d ∈ numberHeads, IsSolid d ∧ d ∉ [')', '#'] :=
      List.forall_iff_forall_mem.mp (by decide)
    exact ⟨d, rfl, hheads d hd⟩
  | text h =>
    cases h with
    | quoted | raw => exact ⟨_, rfl, by decide⟩

/-- Unless a value begins with a bracket, words are looked for first. -/
lemma readWhole_of_word {c : Char} {found : Value × List Char} (hc : c ∉ ['(', '[', '\x7b'])
    (hsome : dropWord "Some".toList (c :: s) = none) (hword : readWord (c :: s) = some found) :
    readWhole e inner? (c :: s) = some found := by
  simp only [List.mem_cons, List.not_mem_nil, or_false, not_or] at hc
  rw [readWhole, hsome, hword] <;> simp [hc]

lemma readWhole_of_some {c : Char} {inner : Inner} {rest : List Char}
    (hc : c ∉ ['(', '[', '\x7b']) (hsome : dropWord "Some".toList (c :: s) = some rest) :
    readWhole e (some inner) (c :: s) = inner.readPresent e rest := by
  simp only [List.mem_cons, List.not_mem_nil, or_false, not_or] at hc
  rw [readWhole, hsome] <;> simp [hc]

lemma readWhole_of_name {c : Char} {name : Name} {rest : List Char} (hc : c ∉ ['(', '[', '\x7b'])
    (hno : ∀ word ∈ reserved, dropWord word (c :: s) = none)
    (hname : readName (c :: s) = some (name, rest)) :
    readWhole e inner? (c :: s) = readNamed inner? name rest := by
  simp only [List.mem_cons, List.not_mem_nil, or_false, not_or] at hc
  rw [readWhole, hno "Some".toList (.head _), readWord_eq_none hno, hname] <;> simp [hc]

lemma readWhole_word {word : List Char} (hmem : (word, v) ∈ words) (hs : Delimited s) :
    readWhole e inner? (word ++ s) = some (v, s) := by
  have hread := readWord_append hmem hs
  have hheads : ∀ p ∈ words, p.1.head? ∈ ['t', 'f', 'N'].map some := by decide
  obtain ⟨c, hc, hhead⟩ := List.mem_map.mp (hheads _ hmem)
  obtain ⟨cs, rfl⟩ := List.head?_eq_some_iff.mp hhead.symm
  have hno : ∀ c ∈ ['t', 'f', 'N'], c ∉ ['(', '[', '\x7b'] ∧ c ≠ 'S' :=
    List.forall_iff_forall_mem.mp (by decide)
  obtain ⟨hbracket, hsome⟩ := hno c hc
  have hdrop : dropWord "Some".toList (c :: cs ++ s) = none :=
    dropWord_of_head?_ne (c := 'S') (by simpa using hsome) _
  rw [List.cons_append] at hread hdrop ⊢
  exact readWhole_of_word hbracket hdrop hread

/-- A quotation or a number is neither a word nor a name. -/
lemma readWhole_literal {c : Char} (hc : c ∉ ['(', '[', '\x7b', 'S', 't', 'f', 'N', 'i'])
    (hname : readName (c :: s) = none) : readWhole e inner? (c :: s) = readLiteral (c :: s) := by
  have hno : ∀ word ∈ reserved, dropWord word (c :: s) = none :=
    dropWord_eq_none_of_head? fun d hd hmem =>
      hc (List.mem_append_right ['(', '[', '\x7b'] (Option.some.inj hd ▸ hmem))
  simp only [List.mem_cons, List.not_mem_nil, or_false, not_or] at hc
  rw [readWhole, hno "Some".toList (.head _), readWord_eq_none hno, hname] <;> simp [hc]

lemma readLiteral_of_head {c : Char} (hc : c ∉ ['"', 'r', 'b', '\'']) (s : List Char) :
    readLiteral (c :: s) = readNumber (c :: s) := by
  simp only [List.mem_cons, List.not_mem_nil, or_false, not_or] at hc
  have htext : readText (c :: s) = .error .malformed := by rw [readText] <;> simp [hc]
  have hbytes : readBytes (c :: s) = .error .malformed := by rw [readBytes] <;> simp [hc]
  have hchar : readChar (c :: s) = none := by rw [readChar] <;> simp [hc]
  simp only [readLiteral, htext, hbytes, hchar]

lemma TextSpelling.readWhole_append {cs : List Char} (h : TextSpelling cs t) (s : List Char) :
    readWhole e inner? (t ++ s) = some (.text cs, s) := by
  have hread : readLiteral (t ++ s) = some (.text cs, s) := by
    rw [readLiteral, h.readText_append s]
  rw [← hread]
  cases h with
  | quoted h =>
    exact readWhole_literal (by decide) (readName_eq_none (by decide +kernel) _)
  | @raw signs h =>
    refine readWhole_literal (by decide) (readName_eq_none_of_beginsQuotation ?_)
    rcases signs with _ | _ | signs <;> rfl

lemma NumberSpelling.readWhole_append {n : Nat} (h : NumberSpelling n t)
    (hn : (n : Int) ≤ IntegerType.word.greatest) (hs : Delimited s) :
    readWhole e inner? (t ++ s) = some (.integer none n, s) := by
  rw [← h.readNumber_append hn hs]
  obtain ⟨d, ds, rfl, hd⟩ := h.exists_mem_numberHeads
  have hname : ∀ d ∈ numberHeads, Text.isNameStart d = false :=
    List.forall_iff_forall_mem.mp (by decide +kernel)
  have hheads : ∀ d ∈ numberHeads, d ∉ ['(', '[', '\x7b', 'S', 't', 'f', 'N', 'i'] ∧
    d ∉ ['"', 'r', 'b', '\''] := List.forall_iff_forall_mem.mp (by decide)
  rw [List.cons_append, readWhole_literal (hheads d hd).1 (readName_eq_none (hname d hd) _),
    readLiteral_of_head (hheads d hd).2]

lemma reads_scalar : Reads (readWhole e inner?) ScalarSpelling where
  begins h := h.begins
  append {v t s} h hs := by
    cases h with
    | true => exact readWhole_word (.head _) hs
    | false => exact readWhole_word (.tail _ (.head _)) hs
    | absent => exact readWhole_word (.tail _ (.tail _ (.head _))) hs
    | number h hn => exact h.readWhole_append hn hs
    | text h => exact h.readWhole_append s

/-! ### Structures -/

/-- How a field is spelled whose value is spelled as the parts are. -/
inductive FieldSpelling (Part : Value → List Char → Prop) : Name × Value → List Char → Prop
  | mk {name g g' t : List Char} {v : Value} (hname : IsName name) (hg : Gap g) (hg' : Gap g')
      (h : Part v t) : FieldSpelling Part (⟨name, false⟩, v) (name ++ g ++ ':' :: (g' ++ t))

/-- A structure with the given fields. If there are none, nothing says that its parts have names. -/
def Value.struct (name : Option Name) : List (Name × Value) → Value
  | [] => .tuple name []
  | fields => .record name fields

lemma reads_field {reader : Reader Value} {Part : Value → List Char → Prop}
    (h : Reads reader Part) : Reads (readPair readName reader) (FieldSpelling Part) where
  begins := by
    rintro _ _ ⟨hname, hg, hg', hv⟩
    obtain ⟨c, hc, hsolid⟩ := hname.begins_self
    obtain ⟨cs, rfl⟩ := List.head?_eq_some_iff.mp hc
    exact ⟨c, rfl, hsolid⟩
  append := by
    rintro _ _ s ⟨hname, hg, hg', hv⟩ hs
    rw [readPair, List.append_assoc, List.append_assoc, List.cons_append, List.append_assoc,
      readName_append hname (hg.delimited_append (delimited_colon _))]
    simp [hg.readMark_append, (by decide : IsSolid ':'),
      hg'.skipSpace_append_of_begins (h.begins hv), h.append hv hs]

namespace Inner

variable {inner : Inner} {Part : Value → List Char → Prop} {fields : List (Name × Value)}

lemma beginsField_append {field : Name × Value} (hg : Gap g) (h : FieldSpelling Part field t)
    (s : List Char) : beginsField (g ++ (t ++ s)) = true := by
  obtain ⟨hname, hg', -, -⟩ := h
  rw [beginsField, List.append_assoc, List.append_assoc,
    hg.skipSpace_append_of_begins hname.begins_self, Option.bind_some, List.cons_append,
    readName_append hname (hg'.delimited_append (delimited_colon _))]
  simp only [hg'.readMark_append (by decide : IsSolid ':')]
  rfl

lemma beginsField_close (hg : Gap g) (s : List Char) : beginsField (g ++ ')' :: s) = false := by
  rw [beginsField, hg.skipSpace_append_cons (by decide), Option.bind_some,
    readName_eq_none (by decide +kernel)]

/-- The parts of a structure are read with the parenthesis that closes it. -/
lemma readStructure_append (hpart : Reads inner.part Part) (name : Option Name)
    (h : ItemsSpelling (FieldSpelling Part) fields t) (s : List Char) :
    inner.readStructure name (t ++ ')' :: s) = some (.struct name fields, s) := by
  obtain ⟨g, hg, hitems⟩ := h.exists_readItems (reads_field hpart) s
  have hmark : readMark ')' (g ++ ')' :: s) = some s := hg.readMark_append (by decide) s
  cases h with
  | none hg' =>
    obtain ⟨g, hg, hitems⟩ := (ItemsSpelling.none hg').exists_readItems hpart s
    have hmark : readMark ')' (g ++ ')' :: s) = some s := hg.readMark_append (by decide) s
    simp [readStructure, beginsField_close hg', readParts, hitems, hmark, Value.struct]
  | one hg' hfield _ =>
    have hbegins := beginsField_append hg' hfield
    simp only [List.append_assoc] at hitems hbegins ⊢
    simp [readStructure, hbegins, readFields, hitems, hmark, Value.struct]
  | more hg' hfield _ _ =>
    have hbegins := beginsField_append hg' hfield
    simp only [List.append_assoc, List.cons_append] at hitems hbegins ⊢
    simp [readStructure, hbegins, readFields, hitems, hmark, Value.struct]

end Inner

/-! ### Values inside each other -/

/-- How the content of an optional value and the parts of a structure are spelled. -/
structure Forms where
  content : Value → List Char → Prop
  part : Value → List Char → Prop

/-- How the name of a structure is spelled, up to the parenthesis. -/
inductive HeadSpelling : Option Name → List Char → Prop
  | unnamed : HeadSpelling none []
  | named {name g : List Char} (hname : IsName name) (hno : name ∉ reserved) (hg : Gap g) :
      HeadSpelling (some ⟨name, false⟩) (name ++ g)

/-- How a value is spelled if it is known how that is spelled which stands in it. -/
inductive LayerSpelling : Option Forms → Value → List Char → Prop
  | scalar {forms? : Option Forms} {v : Value} {t : List Char} (h : ScalarSpelling v t) :
      LayerSpelling forms? v t
  | present {forms : Forms} {v : Value} {g t : List Char} (hg : Gap g)
      (h : ItemsSpelling forms.content [v] t) :
      LayerSpelling (some forms) (.present v) ("Some".toList ++ g ++ '(' :: (t ++ [')']))
  | struct {forms : Forms} {name : Option Name} {fields : List (Name × Value)}
      {head t : List Char} (hhead : HeadSpelling name head)
      (h : ItemsSpelling (FieldSpelling forms.part) fields t) :
      LayerSpelling (some forms) (.struct name fields) (head ++ '(' :: (t ++ [')']))

lemma LayerSpelling.begins {forms? : Option Forms} (h : LayerSpelling forms? v t) : Begins t := by
  cases h with
  | scalar h => exact h.begins
  | present => exact ⟨'S', rfl, by decide⟩
  | struct hhead _ =>
    cases hhead with
    | unnamed => exact ⟨'(', rfl, by decide⟩
    | named hname _ _ =>
      obtain ⟨c, cs, rfl, hc⟩ := hname.begins_self.exists_cons
      exact ⟨c, rfl, hc⟩

variable {inner : Inner} {forms : Forms}

/-- The content of an optional value is read with the parenthesis behind it. -/
lemma Inner.readPresent_append
    (hcontent : Reads (inner.content e.unwrapVariantNewtypes) forms.content) (hg : Gap g)
    (h : ItemsSpelling forms.content [v] t) (s : List Char) :
    inner.readPresent e (g ++ '(' :: (t ++ ')' :: s)) = some (.present v, s) := by
  have hclose (s : List Char) : Delimited (')' :: s) := delimited_cons.mpr (by decide)
  have hcomma (s : List Char) : Delimited (',' :: s) := delimited_cons.mpr (by decide)
  rw [Inner.readPresent, hg.skipSpace_append_cons (by decide)]
  cases h with
  | one hg hv hg' =>
    have hread := hcontent.append hv (hg'.delimited_append (hclose s))
    have hskip := hg.skipSpace_append_of_begins (hcontent.begins hv)
    have hne : ')' ≠ ',' := by decide
    have hno := hg'.readMark_append_of_ne (by decide) hne s
    have hmark := hg'.readMark_append (by decide : IsSolid ')') s
    simp [hskip, hread, hno, hmark]
  | more hg hv hg' h =>
    cases h with
    | none hg'' =>
      have hread (s : List Char) := hcontent.append hv (hg'.delimited_append (hcomma s))
      have hskip := hg.skipSpace_append_of_begins (hcontent.begins hv)
      have hmark := hg'.readMark_append (by decide : IsSolid ',')
      have hend := hg''.readMark_append (by decide : IsSolid ')') s
      simp [hskip, hread, hmark, hend]

/-- An opening parenthesis begins a structure, even if it is closed at once. -/
lemma readWhole_open (s : List Char) :
    readWhole e (some inner) ('(' :: s) = inner.readStructure none s := by
  by_cases h : ∃ rest, s = ')' :: rest
  · obtain ⟨rest, rfl⟩ := h
    have hskip : skipSpace (')' :: rest) = some (')' :: rest) :=
      IsSolid.skipSpace_cons (by decide) rest
    have hitems : readItems inner.part ')' (')' :: rest) = some ([], ')' :: rest) := by
      rw [readItems, hskip]
      rfl
    have hmark : readMark ')' (')' :: rest) = some rest :=
      Gap.nil.readMark_append (by decide) rest
    have hbegins : Inner.beginsField (')' :: rest) = false := Inner.beginsField_close .nil rest
    simp [readWhole, Inner.readStructure, Inner.readParts, hbegins, hitems, hmark]
  · rw [readWhole]
    · rfl
    · exact fun rest hs => h ⟨rest, hs⟩

lemma readWhole_some (hs : Delimited s) :
    readWhole e (some inner) ("Some".toList ++ s) = inner.readPresent e s := by
  have hname := isNameContinue_of_mem_reserved "Some".toList (.head _)
  have hsome := dropWord_append hname hname hs
  rw [if_pos rfl] at hsome
  change dropWord _ ('S' :: (['o', 'm', 'e'] ++ s)) = _ at hsome
  change readWhole _ _ ('S' :: (['o', 'm', 'e'] ++ s)) = _
  exact readWhole_of_some (by decide) hsome

lemma readWhole_named {name : List Char} (hname : IsName name) (hno : name ∉ reserved) (hg : Gap g)
    (s : List Char) :
    readWhole e (some inner) (name ++ (g ++ '(' :: s)) =
      inner.readStructure (some ⟨name, false⟩) s := by
  have hs : Delimited (g ++ '(' :: s) := hg.delimited_append (delimited_cons.mpr (by decide))
  have hread := readName_append hname hs
  have hwords := dropWord_eq_none_of_not_mem hname.continues hno hs
  obtain ⟨c, hc, hstart⟩ := hname.begins
  obtain ⟨cs, rfl⟩ := List.head?_eq_some_iff.mp hc
  have hbrackets : ∀ c ∈ ['(', '[', '\x7b'], Text.isNameStart c = false :=
    List.forall_iff_forall_mem.mp (by decide +kernel)
  rw [List.cons_append] at hread hwords ⊢
  rw [readWhole_of_name _ hwords hread]
  · simp [readNamed, hg.skipSpace_append_cons (by decide : IsSolid '(')]
  · intro hmem
    rw [hbrackets c hmem] at hstart
    cases hstart

lemma reads_layer_none : Reads (readWhole e none) (LayerSpelling none) where
  begins h := h.begins
  append := by
    rintro _ _ _ ⟨h⟩ hs
    exact reads_scalar.append h hs

/-- A value is read if that is read which stands in it. -/
lemma reads_layer (hcontent : Reads (inner.content e.unwrapVariantNewtypes) forms.content)
    (hpart : Reads inner.part forms.part) :
    Reads (readWhole e (some inner)) (LayerSpelling (some forms)) where
  begins h := h.begins
  append {v t s} h hs := by
    cases h with
    | scalar h => exact reads_scalar.append h hs
    | @present _ v g t hg h =>
      have hopen : Delimited (g ++ '(' :: (t ++ ')' :: s)) :=
        hg.delimited_append (delimited_cons.mpr (by decide))
      simpa using (readWhole_some hopen).trans (Inner.readPresent_append hcontent hg h s)
    | @struct _ name fields head t hhead h =>
      have hread (name : Option Name) := Inner.readStructure_append hpart name h s
      cases hhead with
      | unnamed => simpa [readWhole_open] using hread none
      | named hname hno hg => simpa [readWhole_named hname hno hg] using hread (some _)

/-- How a value is spelled that may stand on the given number of levels, in a document that does not
ask for anything else. -/
def ValueSpelling : Nat → Value → List Char → Prop
  | 0 => LayerSpelling none
  | 1 => LayerSpelling (some ⟨ValueSpelling 0, fun _ _ => False⟩)
  | n + 2 => LayerSpelling (some ⟨ValueSpelling (n + 1), ValueSpelling n⟩)

lemma ScalarSpelling.valueSpelling (h : ScalarSpelling v t) : ∀ n, ValueSpelling n v t
  | 0 | 1 | _ + 2 => .scalar h

lemma valueSpelling_present {n : Nat} (hg : Gap g)
    (h : ItemsSpelling (ValueSpelling (n + 1)) [v] t) :
    ValueSpelling (n + 2) (.present v) ("Some".toList ++ g ++ '(' :: (t ++ [')'])) := by
  rw [ValueSpelling]
  exact .present hg h

lemma valueSpelling_struct {n : Nat} {name : Option Name} {fields : List (Name × Value)}
    {head : List Char} (hhead : HeadSpelling name head)
    (h : ItemsSpelling (FieldSpelling (ValueSpelling n)) fields t) :
    ValueSpelling (n + 2) (.struct name fields) (head ++ '(' :: (t ++ [')'])) := by
  rw [ValueSpelling]
  exact .struct hhead h

/-- A value is read back from every one of its spellings. -/
theorem reads_value (he : e.unwrapVariantNewtypes = false) :
    ∀ n, Reads (readValue e n false) (ValueSpelling n)
  | 0 => reads_layer_none
  | 1 => by
    have hcontent := reads_value he 0
    rw [← he] at hcontent
    exact reads_layer hcontent ⟨nofun, nofun⟩
  | n + 2 => by
    have hcontent := reads_value he (n + 1)
    rw [← he] at hcontent
    exact reads_layer hcontent (reads_value he n)

end LectureMachine.Ron
