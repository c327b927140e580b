import Mathlib.Data.List.Forall2
import Mathlib.Data.Nat.Digits.Defs
import Mathlib.Tactic.IntervalCases
import LectureMachine.Image.Text

/-!
# Numerals of a text image

A token of a text image is documented as one to eight hexadecimal digits, which `0x` or `0X` may
precede. The reader also takes a plus sign before the digits, counted as one of the eight. These are
all the tokens that it takes, and it gives each its value.
-/

namespace LectureMachine.TextImage

variable {token sign digits : List Char} {values : List Nat} {n : Nat} {word : InstructionWord}

/-! ### Digits -/

/-- A hexadecimal digit of either case with its value. -/
def IsDigit (c : Char) (d : Nat) : Prop := d < 16 ∧ c.toLower = Nat.digitChar d

lemma toNat_toLower (c : Char) :
    c.toLower.toNat = if 'A' ≤ c ∧ c ≤ 'Z' then c.toNat + 32 else c.toNat := by
  change Char.toNat (if h : 'A' ≤ c ∧ c ≤ 'Z' then _ else _) = _
  split_ifs with h
  · have hle : c.toNat ≤ 90 := h.2
    change (c.val + 32).toNat = _
    rw [UInt32.toNat_add]
    change (c.toNat + 32) % 2 ^ 32 = _
    omega
  · rfl

lemma toNat_digitChar {d : Nat} (h : d < 16) :
    (Nat.digitChar d).toNat = if d < 10 then d + 48 else d + 87 := by
  interval_cases d <;> rfl

lemma hexDigit?_eq_some_iff {c : Char} {d : Nat} :
    Numeral.hexDigit? c = some d ↔ IsDigit c d := by
  have hdigit : IsDigit c d ↔ d < 16 ∧ c.toLower.toNat = (Nat.digitChar d).toNat :=
    and_congr_right fun _ => Char.toNat_inj.symm
  have hle (a b : Char) : a ≤ b ↔ a.toNat ≤ b.toNat := Iff.rfl
  rw [hdigit, toNat_toLower, Numeral.hexDigit?]
  simp only [hle, Char.reduceToNat]
  constructor
  · intro h
    split_ifs at h
    all_goals
      obtain rfl := Option.some.inj h
      refine ⟨by omega, ?_⟩
      rw [toNat_digitChar (by omega)]
      split_ifs <;> omega
  · rintro ⟨hd, h⟩
    rw [toNat_digitChar hd] at h
    split_ifs at h ⊢ <;> first | omega | exact congrArg some (by omega)

lemma foldlM_eq_some_iff {base start : Nat} :
    digits.foldlM (fun n c =>
        match Numeral.hexDigit? c with
        | some d => if d < base then some (n * base + d) else none
        | none => none) start = some n ↔
      ∃ values, List.Forall₂ IsDigit digits values ∧ (∀ d ∈ values, d < base) ∧
        n = values.foldl (fun n d => n * base + d) start := by
  induction digits generalizing start with
  | nil => simp [eq_comm]
  | cons c digits ih =>
    rw [List.foldlM_cons]
    simp only [List.forall₂_cons_left_iff]
    cases hc : Numeral.hexDigit? c with
    | none =>
      refine iff_of_false nofun ?_
      rintro ⟨values, ⟨d, ds, hd, -, -⟩, -⟩
      rw [hexDigit?_eq_some_iff.mpr hd] at hc
      cases hc
    | some d =>
      have hd := hexDigit?_eq_some_iff.mp hc
      dsimp only
      split_ifs with hlt
      · rw [Option.bind_eq_bind, Option.bind_some, ih]
        constructor
        · rintro ⟨values, hvalues, hbase, rfl⟩
          exact ⟨d :: values, ⟨d, values, hd, hvalues, rfl⟩, List.forall_mem_cons.mpr ⟨hlt, hbase⟩,
            rfl⟩
        · rintro ⟨_, ⟨d', values, hd', hvalues, rfl⟩, hbase, rfl⟩
          obtain rfl : d = d' := Option.some.inj (hc.symm.trans (hexDigit?_eq_some_iff.mpr hd'))
          exact ⟨values, hvalues, (List.forall_mem_cons.mp hbase).2, rfl⟩
      · refine iff_of_false nofun ?_
        rintro ⟨_, ⟨d', values, hd', -, rfl⟩, hbase, -⟩
        obtain rfl : d = d' := Option.some.inj (hc.symm.trans (hexDigit?_eq_some_iff.mpr hd'))
        exact hlt (List.forall_mem_cons.mp hbase).1

/-- Digits are read from left to right. -/
lemma foldl_eq_ofDigits (base : Nat) (values : List Nat) :
    values.foldl (fun n d => n * base + d) 0 = Nat.ofDigits base values.reverse := by
  rw [Nat.ofDigits_eq_foldr, List.foldr_reverse]
  simp [Nat.add_comm, Nat.mul_comm]

lemma value?_eq_some_iff_of_base {base : Nat} :
    Numeral.value? base digits = some n ↔
      ∃ values, List.Forall₂ IsDigit digits values ∧ (∀ d ∈ values, d < base) ∧
        n = Nat.ofDigits base values.reverse := by
  simp only [← foldl_eq_ofDigits]
  exact foldlM_eq_some_iff

lemma lt_of_forall₂_isDigit (h : List.Forall₂ IsDigit digits values) : ∀ d ∈ values, d < 16 := by
  induction h with
  | nil => nofun
  | cons hd _ ih => exact List.forall_mem_cons.mpr ⟨hd.1, ih⟩

lemma value?_eq_some_iff :
    Numeral.value? 16 digits = some n ↔
      ∃ values, List.Forall₂ IsDigit digits values ∧ n = Nat.ofDigits 16 values.reverse := by
  rw [value?_eq_some_iff_of_base]
  constructor
  · rintro ⟨values, hvalues, -, rfl⟩
    exact ⟨values, hvalues, rfl⟩
  · rintro ⟨values, hvalues, rfl⟩
    exact ⟨values, hvalues, lt_of_forall₂_isDigit hvalues, rfl⟩

/-- What is related to a list has an element for each of its elements. -/
lemma exists_related {α β : Type} {r : α → β → Prop} {xs : List α} {ys : List β} {x : α}
    (h : List.Forall₂ r xs ys) (hx : x ∈ xs) : ∃ y ∈ ys, r x y := by
  induction h with
  | nil => cases hx
  | cons hxy _ ih =>
    rcases List.mem_cons.mp hx with rfl | hx
    · exact ⟨_, List.mem_cons_self, hxy⟩
    · obtain ⟨y, hy, hr⟩ := ih hx
      exact ⟨y, List.mem_cons_of_mem _ hy, hr⟩

/-- Eight digits fit into a word. -/
lemma ofDigits_lt (h : List.Forall₂ IsDigit digits values)
    (hlength : digits.length ≤ 8) : Nat.ofDigits 16 values.reverse < 2 ^ 32 := by
  have hlt : ∀ d ∈ values.reverse, d < 16 := by
    intro d hd
    obtain ⟨c, -, hc⟩ := exists_related (r := flip IsDigit) h.flip (List.mem_reverse.mp hd)
    exact hc.1
  have hvalues : values.reverse.length ≤ 8 := by
    rwa [List.length_reverse, ← h.length_eq]
  calc Nat.ofDigits 16 values.reverse
    _ < 16 ^ values.reverse.length := Nat.ofDigits_lt_base_pow_length (by decide) hlt
    _ ≤ 16 ^ 8 := Nat.pow_le_pow_right (by decide) hvalues

/-! ### Tokens -/

/-- What may stand before a numeral. -/
def radixes : List (List Char) := [[], ['0', 'x'], ['0', 'X']]

/-- The token denotes the word: its numeral has the given sign and then at least one digit, and both
together are at most eight characters. -/
def Denotes (sign token : List Char) (word : InstructionWord) : Prop :=
  ∃ radix digits values, token = radix ++ (sign ++ digits) ∧ radix ∈ radixes ∧ digits ≠ [] ∧
    (sign ++ digits).length ≤ 8 ∧ List.Forall₂ IsDigit digits values ∧
    word.toNat = Nat.ofDigits 16 values.reverse

/-- The token is as documented. -/
def Documented : List Char → InstructionWord → Prop := Denotes []

/-- The token has a plus sign. -/
def Signed : List Char → InstructionWord → Prop := Denotes ['+']

/-- The token is one that the reader takes. -/
def Accepted (token : List Char) (word : InstructionWord) : Prop :=
  Documented token word ∨ Signed token word

lemma append_dropRadix (token : List Char) :
    ∃ radix ∈ radixes, token = radix ++ dropRadix token := by
  fun_cases dropRadix token with
  | case1 digits => exact ⟨['0', 'x'], by simp [radixes], rfl⟩
  | case2 digits => exact ⟨['0', 'X'], by simp [radixes], rfl⟩
  | case3 => exact ⟨[], by simp [radixes], rfl⟩

lemma append_dropPlus (numeral : List Char) :
    numeral = dropPlus numeral ∨ numeral = ['+'] ++ dropPlus numeral := by
  fun_cases dropPlus numeral with
  | case1 digits => exact .inr rfl
  | case2 => exact .inl rfl

/-- There is nothing to drop from digits and from a sign before them. -/
lemma dropRadix_append {radix : List Char} (hradix : radix ∈ radixes)
    (hsign : sign = [] ∨ sign = ['+']) (h : List.Forall₂ IsDigit digits values) :
    dropRadix (radix ++ (sign ++ digits)) = sign ++ digits := by
  have hnumeral : dropRadix (sign ++ digits) = sign ++ digits := by
    rcases hsign with rfl | rfl
    · rw [List.nil_append]
      fun_cases dropRadix digits with
      | case1 digits =>
        obtain ⟨d, -, hd⟩ := exists_related h (List.mem_cons_of_mem _ List.mem_cons_self)
        cases hexDigit?_eq_some_iff.mpr hd
      | case2 digits =>
        obtain ⟨d, -, hd⟩ := exists_related h (List.mem_cons_of_mem _ List.mem_cons_self)
        cases hexDigit?_eq_some_iff.mpr hd
      | case3 => rfl
    · rfl
  simp only [radixes, List.mem_cons, List.not_mem_nil, or_false] at hradix
  rcases hradix with rfl | rfl | rfl
  · exact hnumeral
  · rfl
  · rfl

lemma dropPlus_append (hsign : sign = [] ∨ sign = ['+'])
    (h : List.Forall₂ IsDigit digits values) : dropPlus (sign ++ digits) = digits := by
  rcases hsign with rfl | rfl
  · rw [List.nil_append]
    fun_cases dropPlus digits with
    | case1 digits =>
      obtain ⟨d, -, hd⟩ := exists_related h List.mem_cons_self
      cases hexDigit?_eq_some_iff.mpr hd
    | case2 => rfl
  · rfl

lemma parseWord?_eq_some :
    parseWord? token = some word ↔
      (dropRadix token).length ≤ 8 ∧ dropPlus (dropRadix token) ≠ [] ∧
        ∃ values, List.Forall₂ IsDigit (dropPlus (dropRadix token)) values ∧
          BitVec.ofNat 32 (Nat.ofDigits 16 values.reverse) = word := by
  rw [parseWord?]
  split_ifs with h
  · simp only [Option.map_eq_some_iff, value?_eq_some_iff]
    constructor
    · rintro ⟨_, ⟨values, hvalues, rfl⟩, rfl⟩
      exact ⟨h.1, h.2, values, hvalues, rfl⟩
    · rintro ⟨-, -, values, hvalues, rfl⟩
      exact ⟨_, ⟨values, hvalues, rfl⟩, rfl⟩
  · exact iff_of_false nofun fun h' => h ⟨h'.1, h'.2.1⟩

lemma Denotes.parseWord? (hsign : sign = [] ∨ sign = ['+']) (h : Denotes sign token word) :
    parseWord? token = some word := by
  obtain ⟨radix, digits, values, rfl, hradix, hne, hlength, hvalues, hword⟩ := h
  rw [parseWord?_eq_some, dropRadix_append hradix hsign hvalues, dropPlus_append hsign hvalues]
  refine ⟨hlength, hne, values, hvalues, ?_⟩
  rw [← hword, BitVec.ofNat_toNat, BitVec.setWidth_eq]

lemma denotes_of_dropRadix (h : TextImage.parseWord? token = some word)
    (hsign : dropRadix token = sign ++ dropPlus (dropRadix token)) : Denotes sign token word := by
  obtain ⟨hlength, hne, values, hvalues, rfl⟩ := parseWord?_eq_some.mp h
  obtain ⟨radix, hradix, htoken⟩ := append_dropRadix token
  have hdigits : (dropPlus (dropRadix token)).length ≤ 8 := by
    rw [hsign, List.length_append] at hlength
    omega
  refine ⟨radix, _, values, ?_, hradix, hne, ?_, hvalues, ?_⟩
  · rwa [← hsign]
  · rwa [← hsign]
  · rw [BitVec.toNat_ofNat, Nat.mod_eq_of_lt (ofDigits_lt hvalues hdigits)]

/-- The tokens that are accepted are the documented ones and those with a sign. -/
theorem parseWord?_eq_some_iff : parseWord? token = some word ↔ Accepted token word := by
  constructor
  · intro h
    rcases append_dropPlus (dropRadix token) with hsign | hsign
    · exact .inl (denotes_of_dropRadix h hsign)
    · exact .inr (denotes_of_dropRadix h hsign)
  · rintro (h | h)
    · exact h.parseWord? (.inl rfl)
    · exact h.parseWord? (.inr rfl)

/-- A token denotes one word. -/
lemma Accepted.unique {other : InstructionWord} (h : Accepted token word)
    (h' : Accepted token other) : word = other := by
  rw [← parseWord?_eq_some_iff] at h h'
  exact Option.some.inj (h.symm.trans h')

lemma Documented.plus_notMem (h : Documented token word) : '+' ∉ token := by
  obtain ⟨radix, digits, values, rfl, hradix, -, -, hvalues, -⟩ := h
  have hradixes : ∀ radix ∈ radixes, '+' ∉ radix := by decide
  intro hmem
  rcases List.mem_append.mp hmem with hmem | hmem
  · exact hradixes radix hradix hmem
  · obtain ⟨d, -, hd⟩ := exists_related hvalues hmem
    cases hexDigit?_eq_some_iff.mpr hd

/-- No token is both. -/
lemma Signed.not_documented {other : InstructionWord} (h : Signed token word) :
    ¬ Documented token other := by
  obtain ⟨radix, digits, values, rfl, -, -, -, -, -⟩ := h
  intro hdocumented
  exact hdocumented.plus_notMem (List.mem_append_right _ List.mem_cons_self)

end LectureMachine.TextImage
