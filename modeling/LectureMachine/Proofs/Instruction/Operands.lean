import Std.Data.String.ToInt
import LectureMachine.Proofs.Image.Numerals
import LectureMachine.Proofs.Text.Runs
import LectureMachine.Instruction.Assembly

/-!
# Operands in assembly text

The text of an instruction is made of the mnemonic, of the operands and of punctuation. Without the
punctuation the mnemonic and the operands are left, one by one, and each is of a kind of its own: a
register, a number, or the arrow that tells where a value goes. So the operands can be read off the
text, and with them the operand bytes that the instruction has a use for.
-/

namespace LectureMachine

open TextImage (IsDigit hexDigit?_eq_some_iff value?_eq_some_iff exists_related)

/-! ### Numerals -/

namespace Numeral

lemma hexDigit?_toUpper_digitChar {d : Nat} (h : d < 16) :
    hexDigit? (Nat.digitChar d).toUpper = some d := by
  interval_cases d <;> rfl

lemma value?_append_singleton {base n d : Nat} {digits : List Char} {c : Char}
    (hn : value? base digits = some n) (hc : hexDigit? c = some d) (hd : d < base) :
    value? base (digits ++ [c]) = some (n * base + d) := by
  rw [value?] at hn ⊢
  simp [List.foldlM_append, hn, hc, hd]

/-- A numeral has the value of which it is the numeral, whichever way its digits are written. -/
lemma value?_map_toDigits {base : Nat} (hbase : 1 < base) {f : Char → Char}
    (hf : ∀ d < base, hexDigit? (f (Nat.digitChar d)) = some d) (n : Nat) :
    value? base ((Nat.toDigits base n).map f) = some n := by
  induction n using Nat.strong_induction_on with
  | _ n ih =>
    rw [Nat.toDigits_eq_if hbase]
    split_ifs with hlt
    · have hnil : value? base [] = some 0 := rfl
      have hone := value?_append_singleton hnil (hf n hlt) hlt
      rwa [Nat.zero_mul, Nat.zero_add] at hone
    · have hmod : n % base < base := Nat.mod_lt n (by omega)
      have hdiv := ih (n / base) (Nat.div_lt_self (by omega) hbase)
      rw [List.map_append, List.map_singleton, value?_append_singleton hdiv (hf _ hmod) hmod,
        Nat.div_add_mod']

lemma value?_hexDigits (n : Nat) : value? 16 (hexDigits n) = some n :=
  value?_map_toDigits (by decide) (fun _ => hexDigit?_toUpper_digitChar) n

lemma hexDigit?_digitChar {d : Nat} (h : d < 16) : hexDigit? (Nat.digitChar d) = some d := by
  interval_cases d <;> rfl

lemma value?_toDigits {base : Nat} (hbase : 1 < base) (hle : base ≤ 16) (n : Nat) :
    value? base (Nat.toDigits base n) = some n := by
  have h := value?_map_toDigits (f := id) hbase
    (fun d hd => hexDigit?_digitChar (hd.trans_le hle)) n
  rwa [List.map_id] at h

lemma hexDigits_injective : Function.Injective hexDigits := by
  intro n m h
  have hvalue := value?_hexDigits n
  rw [h, value?_hexDigits m] at hvalue
  exact (Option.some.inj hvalue).symm

lemma exists_isDigit {n : Nat} {c : Char} (h : c ∈ hexDigits n) : ∃ d, IsDigit c d := by
  obtain ⟨values, hvalues, -⟩ := value?_eq_some_iff.mp (value?_hexDigits n)
  obtain ⟨d, -, hd⟩ := exists_related hvalues h
  exact ⟨d, hd⟩

end Numeral

/-! ### Parts of a text -/

/-- What a text is made of besides the mnemonic and the punctuation. -/
inductive Part
  | register (r : Register)
  | number (n : Int)
  /-- The shaft of an arrow. -/
  | arrow

namespace Part

/-- What a part is, whatever its value. -/
inductive Kind
  | register
  | number
  | arrow
  deriving DecidableEq

/-- The kind of a part. -/
def kind : Part → Kind
  | .register _ => .register
  | .number _ => .number
  | .arrow => .arrow

/-- A part as it is written. -/
def text : Part → String
  | .register r => r.name
  | .number n => s!"{n}"
  | .arrow => "-"

lemma toList_text_register (r : Register) :
    (register r).text.toList = '%' :: '0' :: 'x' :: Numeral.hexDigits r.val := by
  change ("%0x" ++ String.ofList (Numeral.hexDigits r.val)).toList = _
  rw [String.toList_append]
  exact congrArg ("%0x".toList ++ ·) String.toList_ofList

lemma mem_text_number {n : Int} {c : Char} (h : c ∈ (number n).text.toList) :
    c = '-' ∨ c.isDigit = true := by
  cases n with
  | ofNat n =>
    right
    change c ∈ n.repr.toList at h
    rw [Nat.toList_repr] at h
    exact Nat.isDigit_of_mem_toDigits (by decide) (by decide) h
  | negSucc n =>
    change c ∈ ("-" ++ (n + 1).repr).toList at h
    rw [String.toList_append, Nat.toList_repr] at h
    rcases List.mem_append.mp h with h | h
    · exact .inl (List.mem_singleton.mp h)
    · exact .inr (Nat.isDigit_of_mem_toDigits (by decide) (by decide) h)

lemma text_register_ne_number (r : Register) (n : Int) : (register r).text ≠ (number n).text := by
  intro h
  have hmem : '%' ∈ (number n).text.toList := by
    rw [← h, toList_text_register]
    exact List.mem_cons_self
  rcases mem_text_number hmem with h | h <;> cases h

lemma text_register_ne_arrow (r : Register) : (register r).text ≠ arrow.text := by
  intro h
  have hlist := congrArg String.toList h
  rw [toList_text_register] at hlist
  cases hlist

lemma text_number_ne_arrow (n : Int) : (number n).text ≠ arrow.text := by
  intro h
  have hlist : n.repr.toList = ['-'] := congrArg String.toList h
  cases n with
  | ofNat n =>
    have hmem : '-' ∈ Nat.toDigits 10 n := by
      rw [← Nat.toList_repr]
      exact hlist ▸ List.mem_singleton_self _
    cases Nat.isDigit_of_mem_toDigits (by decide) (by decide) hmem
  | negSucc n =>
    change ("-" ++ (n + 1).repr).toList = ['-'] at hlist
    rw [String.toList_append, Nat.toList_repr] at hlist
    exact Nat.toDigits_ne_nil (List.append_cancel_left hlist)

/-- A part can be read off its text. -/
lemma text_injective : Function.Injective text := by
  intro a b h
  match a, b with
  | .register r, .register r' =>
    have hlist := congrArg String.toList h
    rw [toList_text_register, toList_text_register] at hlist
    simp only [List.cons.injEq, true_and] at hlist
    exact congrArg register (Fin.ext (Numeral.hexDigits_injective hlist))
  | .number n, .number n' => exact congrArg number (Int.repr_inj.mp h)
  | .arrow, .arrow => rfl
  | .register r, .number n => exact absurd h (text_register_ne_number r n)
  | .number n, .register r => exact absurd h.symm (text_register_ne_number r n)
  | .register r, .arrow => exact absurd h (text_register_ne_arrow r)
  | .arrow, .register r => exact absurd h.symm (text_register_ne_arrow r)
  | .number n, .arrow => exact absurd h (text_number_ne_arrow n)
  | .arrow, .number n => exact absurd h.symm (text_number_ne_arrow n)

end Part

/-! ### Punctuation -/

/-- The characters that separate the parts of a text. -/
def punctuation : List Char := [',', '\t', ' ', '(', ')', 'M', '+', '>']

/-- The character separates parts. -/
def isPunctuation (c : Char) : Bool := punctuation.contains c

/-- There is no punctuation inside of a part. -/
lemma Part.isPunctuation_of_mem {part : Part} {c : Char} (h : c ∈ part.text.toList) :
    isPunctuation c = false := by
  cases part with
  | register r =>
    rw [toList_text_register] at h
    simp only [List.mem_cons] at h
    rcases h with rfl | rfl | rfl | h
    · rfl
    · rfl
    · rfl
    · obtain ⟨d, hd⟩ := Numeral.exists_isDigit h
      refine Text.contains_eq_false (q := fun c => (Numeral.hexDigit? c).isSome) (by decide) ?_
      rw [hexDigit?_eq_some_iff.mpr hd]
      rfl
  | number n =>
    rcases mem_text_number h with rfl | hdigit
    · rfl
    · exact Text.contains_eq_false (by decide) hdigit
  | arrow =>
    obtain rfl := List.mem_singleton.mp h
    rfl

lemma Part.text_ne_nil (part : Part) : part.text.toList ≠ [] := by
  cases part with
  | register r =>
    rw [toList_text_register]
    nofun
  | number n =>
    cases n with
    | ofNat n =>
      change n.repr.toList ≠ []
      rw [Nat.toList_repr]
      exact Nat.toDigits_ne_nil
    | negSucc n =>
      change ("-" ++ (n + 1).repr).toList ≠ []
      rw [String.toList_append]
      nofun
  | arrow => nofun

/-! ### The parts of a line -/

namespace OperandFormat

/-- The operands of a field as they are written: what stands before each part, and the part. -/
def layout (format : OperandFormat) (field : OperandField) : List (String × Part) :=
  let x := Part.register field.rx
  let y := Part.register field.ry
  let z := Part.register field.rz
  match format with
  | .none => []
  | .reg => [("\t", x)]
  | .byte => [("\t", .number field.ux.toNat)]
  | .regReg => [("\t", x), (",\t", y)]
  | .regRegReg => [("\t", x), (",\t", y), (",\t", z)]
  | .byteRegReg => [("\t", .number field.ux.toNat), (",\t", y), (",\t", z)]
  | .signedByteRegReg => [("\t", .number field.sx.toInt), (",\t", y), (",\t", z)]
  | .pairReg => [("\t", .number field.uxy.toNat), (",\t", z)]
  | .signedPairReg => [("\t", .number field.sxy.toInt), (",\t", z)]
  | .offset => [("\t", .number field.sxyz.toInt)]
  | .fetchScaled => [("\tM(", x), (" + ", y), (") ", .arrow), (">\t", z)]
  | .fetchDisplaced => [("\tM(", .number field.sx.toInt), (" + ", y), (") ", .arrow), (">\t", z)]
  | .storeScaled => [("\t", x), (" ", .arrow), (">\tM(", y), (" + ", z)]
  | .storeDisplaced => [("\t", x), (" ", .arrow), (">\tM(", .number field.sy.toInt), (" + ", z)]

/-- What is written after the last part. -/
def closing : OperandFormat → String
  | .storeScaled | .storeDisplaced => ")"
  | _ => ""

/-- The parts of the operands of a field, in the order in which they are written. -/
def parts (format : OperandFormat) (field : OperandField) : List Part :=
  (format.layout field).map Prod.snd

lemma toList_repr_natCast (n : Nat) : (n : Int).repr.toList = Nat.toDigits 10 n :=
  Nat.toList_repr

/-- A line is what its layout says. -/
lemma toList_line (format : OperandFormat) (mnemonic : String) (field : OperandField) :
    (format.line mnemonic field).toList =
      mnemonic.toList ++ (((format.layout field).flatMap fun x => x.1.toList ++ x.2.text.toList) ++
        format.closing.toList) := by
  cases format <;>
    simp [line, render, layout, closing, Part.text, ToString.toString, toList_repr_natCast]

/-- The text is punctuation, and there is some. -/
def IsSeparator (text : String) : Prop :=
  text.toList ≠ [] ∧ ∀ c ∈ text.toList, isPunctuation c = true

lemma isSeparator_of_mem_layout {format : OperandFormat} {field : OperandField}
    {x : String × Part} (h : x ∈ format.layout field) : IsSeparator x.1 := by
  have hseps : ∀ text ∈ (format.layout field).map Prod.fst, IsSeparator text := by
    cases format <;> simp [layout, IsSeparator, isPunctuation, punctuation]
  exact hseps _ (List.mem_map_of_mem h)

lemma isPunctuation_of_mem_closing {format : OperandFormat} {c : Char}
    (h : c ∈ format.closing.toList) : isPunctuation c = true := by
  revert c
  cases format <;> simp [closing, isPunctuation, punctuation]

section Layout

variable {xs : List (String × Part)} (hseps : ∀ x ∈ xs, IsSeparator x.1) {last : List Char}
  (hlast : ∀ c ∈ last, isPunctuation c = true)

include hseps hlast

/-- What is written after a part begins with punctuation. -/
lemma isPunctuation_head? :
    ∀ c ∈ ((xs.flatMap fun x => x.1.toList ++ x.2.text.toList) ++ last).head?,
      isPunctuation c = true := by
  intro c hc
  cases xs with
  | nil => exact hlast c (List.mem_of_mem_head? hc)
  | cons x xs =>
    obtain ⟨hne, hsep⟩ := hseps x List.mem_cons_self
    rw [List.flatMap_cons, List.append_assoc, List.append_assoc, List.head?_append_of_ne_nil _ hne]
      at hc
    exact hsep c (List.mem_of_mem_head? hc)

/-- If what stands between the parts is punctuation then splitting leaves the parts. -/
lemma pieces_layout :
    Text.pieces isPunctuation ((xs.flatMap fun x => x.1.toList ++ x.2.text.toList) ++ last) =
      xs.map fun x => x.2.text.toList := by
  induction xs with
  | nil =>
    have hnone := Text.pieces_append_of_separators hlast []
    rwa [List.append_nil] at hnone
  | cons x xs ih =>
    obtain ⟨hsep, hseps⟩ := List.forall_mem_cons.mp hseps
    rw [List.flatMap_cons, List.append_assoc, List.append_assoc,
      Text.pieces_append_of_separators hsep.2,
      Text.pieces_append x.2.text_ne_nil (fun c => Part.isPunctuation_of_mem)
        (isPunctuation_head? hseps hlast), ih hseps]
    rfl

end Layout

/-- The mnemonic and the parts of a line are found by splitting it. -/
lemma pieces_line {mnemonic : String} (hne : mnemonic.toList ≠ [])
    (hplain : ∀ c ∈ mnemonic.toList, isPunctuation c = false) (format : OperandFormat)
    (field : OperandField) :
    Text.pieces isPunctuation (format.line mnemonic field).toList =
      mnemonic.toList :: (format.parts field).map (·.text.toList) := by
  have hseps : ∀ x ∈ format.layout field, IsSeparator x.1 := fun x => isSeparator_of_mem_layout
  have hlast : ∀ c ∈ format.closing.toList, isPunctuation c = true :=
    fun c => isPunctuation_of_mem_closing
  rw [toList_line, Text.pieces_append hne hplain (isPunctuation_head? hseps hlast),
    pieces_layout hseps hlast, parts, List.map_map]
  rfl

end OperandFormat

end LectureMachine
