import LectureMachine.Trace
import LectureMachine.Proofs.Instruction.Operands

/-!
# Traced accesses

Each access to a register or to memory is logged in one line. If its message is split at the blanks
and brackets then the numbers and the arrow are left. A number can be read off its numeral, also
where it is filled up with zeros, and the arrow tells reading from writing. So the accesses can be
read off the messages, down to the last bit of every value.
-/

namespace LectureMachine

open TextImage (hexDigit?_eq_some_iff value?_eq_some_iff exists_related)

/-! ### Numerals -/

namespace Numeral

/-- Zeros in front do not count. -/
lemma value?_replicate_append {base : Nat} (hbase : 0 < base) (k : Nat) (digits : List Char) :
    value? base (List.replicate k '0' ++ digits) = value? base digits := by
  induction k with
  | zero => rfl
  | succ k ih =>
    have hzero : hexDigit? '0' = some 0 := rfl
    rw [value?] at ih ⊢
    simpa [List.replicate_succ, hzero, hbase] using ih

lemma value?_hexPadded (digits n : Nat) : value? 16 (hexPadded digits n).toList = some n := by
  rw [hexPadded, String.toList_ofList, value?_replicate_append (by decide), value?_hexDigits]

lemma hexPadded_injective (digits : Nat) : Function.Injective (hexPadded digits) := by
  intro n m h
  have hvalue := value?_hexPadded digits n
  rw [h, value?_hexPadded digits m] at hvalue
  exact (Option.some.inj hvalue).symm

lemma hex_eq_hexPadded (n : Nat) : hex n = hexPadded 0 n := by
  simp [hex, hexPadded]

end Numeral

/-! ### The parts of a message -/

namespace TraceLine

/-- The characters at which a message is split. -/
def marks : List Char := [' ', ';', '[', ']']

/-- The character separates the parts of a message. -/
def isMark (c : Char) : Bool := marks.contains c

/-- The text can be a part of a message. -/
def IsPart (text : List Char) : Prop := text ≠ [] ∧ ∀ c ∈ text, isMark c = false

instance (text : List Char) : Decidable (IsPart text) :=
  decidable_of_iff (text ≠ [] ∧ text.any isMark = false)
    (and_congr_right fun _ => by simp [List.any_eq_false])

/-- The arrows for reading and for writing. -/
def arrows : List String := ["->", "<-"]

/-- A hexadecimal number as it stands in a message, filled up to at least `digits` digits. -/
def numeral (sign : String) (digits n : Nat) : List Char :=
  sign.toList ++ (Numeral.hexPadded digits n).toList

lemma isPart_arrow {arrow : String} (h : arrow ∈ arrows) : IsPart arrow.toList := by
  revert arrow
  decide

lemma isPart_numeral {sign : String} (hsign : IsPart sign.toList) (digits n : Nat) :
    IsPart (numeral sign digits n) := by
  refine ⟨List.append_ne_nil_of_left_ne_nil hsign.1 _, fun c hc => ?_⟩
  rcases List.mem_append.mp hc with hc | hc
  · exact hsign.2 c hc
  · obtain ⟨values, hvalues, -⟩ := value?_eq_some_iff.mp (Numeral.value?_hexPadded digits n)
    obtain ⟨d, -, hd⟩ := exists_related hvalues hc
    refine Text.contains_eq_false (q := fun c => (Numeral.hexDigit? c).isSome) (by decide) ?_
    rw [hexDigit?_eq_some_iff.mpr hd]
    rfl

lemma isPart_repr (n : Nat) : IsPart n.repr.toList := by
  rw [Nat.toList_repr]
  refine ⟨Nat.toDigits_ne_nil, fun c hc => ?_⟩
  exact Text.contains_eq_false (by decide) (Nat.isDigit_of_mem_toDigits (by decide) (by decide) hc)

lemma numeral_injective (sign : String) (digits : Nat) :
    Function.Injective (numeral sign digits) := by
  intro n m h
  exact Numeral.hexPadded_injective digits (String.toList_inj.mp (List.append_cancel_left h))

lemma pieces_append_mark {part : List Char} (h : IsPart part) {mark : Char}
    (hmark : isMark mark = true) (text : List Char) :
    Text.pieces isMark (part ++ mark :: text) = part :: Text.pieces isMark text := by
  have hend : ∀ c ∈ (mark :: text).head?, isMark c = true := by simpa using hmark
  rw [Text.pieces_append h.1 h.2 hend, Text.pieces_cons hmark]

lemma pieces_of_isPart {part : List Char} (h : IsPart part) :
    Text.pieces isMark part = [part] := by
  rw [Text.pieces, List.splitOnP_eq_singleton h.2]
  simp [h.1]

variable {level level' : TraceLevel} {arrow arrow' : String}

lemma pieces_ofRegister (level : TraceLevel) (harrow : arrow ∈ arrows) (r : Register) (v : Word) :
    Text.pieces isMark (ofRegister level r arrow v).message.toList =
      [numeral "%0x" 0 r.val, arrow.toList, numeral "0x" 16 v.toNat] := by
  have hmessage : (ofRegister level r arrow v).message.toList =
      numeral "%0x" 0 r.val ++ ' ' :: (arrow.toList ++ ' ' :: numeral "0x" 16 v.toNat) := by
    simp [ofRegister, Register.name, numeral, Numeral.hex_eq_hexPadded, ToString.toString]
  rw [hmessage, pieces_append_mark (isPart_numeral (by decide) 0 _) (by decide),
    pieces_append_mark (isPart_arrow harrow) (by decide),
    pieces_of_isPart (isPart_numeral (by decide) 16 _)]

lemma pieces_ofPlace (level : TraceLevel) (harrow : arrow ∈ arrows) (address : Word) (width : Nat)
    (v : Word) :
    Text.pieces isMark (ofPlace level address width arrow v).message.toList =
      [['M'], numeral "0x" 0 address.toNat, width.repr.toList, arrow.toList,
        numeral "0x" 0 v.toNat] := by
  have hmessage : (ofPlace level address width arrow v).message.toList =
      ['M'] ++ '[' :: (numeral "0x" 0 address.toNat ++ ';' :: ' ' :: (width.repr.toList ++
        ']' :: ' ' :: (arrow.toList ++ ' ' :: numeral "0x" 0 v.toNat))) := by
    simp [ofPlace, numeral, Numeral.hex_eq_hexPadded, ToString.toString]
  rw [hmessage, pieces_append_mark (by decide) (by decide),
    pieces_append_mark (isPart_numeral (by decide) 0 _) (by decide), Text.pieces_cons (by decide),
    pieces_append_mark (isPart_repr width) (by decide), Text.pieces_cons (by decide),
    pieces_append_mark (isPart_arrow harrow) (by decide),
    pieces_of_isPart (isPart_numeral (by decide) 0 _)]

/-- The register, the arrow and the value can be read off a message. -/
lemma ofRegister_inj (harrow : arrow ∈ arrows) (harrow' : arrow' ∈ arrows) {r r' : Register}
    {v v' : Word}
    (h : (ofRegister level r arrow v).message = (ofRegister level' r' arrow' v').message) :
    r = r' ∧ arrow = arrow' ∧ v = v' := by
  have hpieces := pieces_ofRegister level harrow r v
  rw [h, pieces_ofRegister level' harrow'] at hpieces
  simp only [List.cons.injEq, and_true] at hpieces
  obtain ⟨hregister, hsame, hvalue⟩ := hpieces
  exact ⟨Fin.ext (numeral_injective _ _ hregister.symm), String.toList_inj.mp hsame.symm,
    BitVec.eq_of_toNat_eq (numeral_injective _ _ hvalue.symm)⟩

/-- The address, the width, the arrow and the value can be read off a message. -/
lemma ofPlace_inj (harrow : arrow ∈ arrows) (harrow' : arrow' ∈ arrows) {address address' : Word}
    {width width' : Nat} {v v' : Word}
    (h : (ofPlace level address width arrow v).message =
      (ofPlace level' address' width' arrow' v').message) :
    address = address' ∧ width = width' ∧ arrow = arrow' ∧ v = v' := by
  have hpieces := pieces_ofPlace level harrow address width v
  rw [h, pieces_ofPlace level' harrow'] at hpieces
  simp only [List.cons.injEq, and_true, true_and] at hpieces
  obtain ⟨haddress, hwidth, hsame, hvalue⟩ := hpieces
  exact ⟨BitVec.eq_of_toNat_eq (numeral_injective _ _ haddress.symm),
    Nat.repr_inj.mp (String.toList_inj.mp hwidth.symm), String.toList_inj.mp hsame.symm,
    BitVec.eq_of_toNat_eq (numeral_injective _ _ hvalue.symm)⟩

end TraceLine

/-! ### Accesses -/

/-- A register is read or written. -/
def RegisterEvent.IsAccess : RegisterEvent → Prop
  | .read .. | .write .. => True
  | .reset => False

/-- A place in memory is read or written. -/
def MemoryEvent.IsAccess : MemoryEvent → Prop
  | .read .. | .write .. => True
  | .load _ | .reset => False

open TraceLine (ofRegister_inj ofPlace_inj)

lemma RegisterEvent.IsAccess.exists_message {e : RegisterEvent} (h : e.IsAccess) :
    ∃ text, e.trace.map (·.message) = [text] := by
  cases e with
  | read r v | write r v => exact ⟨_, rfl⟩
  | reset => exact h.elim

lemma MemoryEvent.IsAccess.exists_message {e : MemoryEvent} (h : e.IsAccess) :
    ∃ text, e.trace.map (·.message) = [text] := by
  cases e with
  | read address width v | write address width v => exact ⟨_, rfl⟩
  | load program | reset => exact h.elim

/-- An access can be read off the message of its line. -/
lemma RegisterEvent.eq_of_message_eq {e e' : RegisterEvent} (he : e.IsAccess) (he' : e'.IsAccess)
    (h : e.trace.map (·.message) = e'.trace.map (·.message)) : e = e' := by
  match e, e' with
  | .read r v, .read r' v' =>
    obtain ⟨rfl, -, rfl⟩ := ofRegister_inj (by decide) (by decide) (List.singleton_inj.mp h)
    rfl
  | .write r v, .write r' v' =>
    obtain ⟨rfl, -, rfl⟩ := ofRegister_inj (by decide) (by decide) (List.singleton_inj.mp h)
    rfl
  | .read r v, .write r' v' =>
    obtain ⟨-, harrow, -⟩ := ofRegister_inj (by decide) (by decide) (List.singleton_inj.mp h)
    exact absurd harrow (by decide)
  | .write r v, .read r' v' =>
    obtain ⟨-, harrow, -⟩ := ofRegister_inj (by decide) (by decide) (List.singleton_inj.mp h)
    exact absurd harrow (by decide)
  | .reset, _ => exact he.elim
  | _, .reset => exact he'.elim

/-- An access can be read off the message of its line. -/
lemma MemoryEvent.eq_of_message_eq {e e' : MemoryEvent} (he : e.IsAccess) (he' : e'.IsAccess)
    (h : e.trace.map (·.message) = e'.trace.map (·.message)) : e = e' := by
  match e, e' with
  | .read address width v, .read address' width' v' =>
    obtain ⟨rfl, rfl, -, rfl⟩ := ofPlace_inj (by decide) (by decide) (List.singleton_inj.mp h)
    rfl
  | .write address width v, .write address' width' v' =>
    obtain ⟨rfl, rfl, -, rfl⟩ := ofPlace_inj (by decide) (by decide) (List.singleton_inj.mp h)
    rfl
  | .read address width v, .write address' width' v' =>
    obtain ⟨-, -, harrow, -⟩ := ofPlace_inj (by decide) (by decide) (List.singleton_inj.mp h)
    exact absurd harrow (by decide)
  | .write address width v, .read address' width' v' =>
    obtain ⟨-, -, harrow, -⟩ := ofPlace_inj (by decide) (by decide) (List.singleton_inj.mp h)
    exact absurd harrow (by decide)
  | .load _, _ => exact he.elim
  | .reset, _ => exact he.elim
  | _, .load _ => exact he'.elim
  | _, .reset => exact he'.elim

/-! ### Sequences of accesses -/

/-- If each thing is told in one line, and can be read off it, then a sequence of things can be read
off the lines. -/
lemma eq_of_flatMap_eq {α β : Type} {P : α → Prop} {f : α → List β}
    (hone : ∀ a, P a → ∃ b, f a = [b]) (hinj : ∀ a a', P a → P a' → f a = f a' → a = a')
    {as as' : List α} (has : ∀ a ∈ as, P a) (has' : ∀ a ∈ as', P a)
    (h : as.flatMap f = as'.flatMap f) : as = as' := by
  induction as generalizing as' with
  | nil =>
    cases as' with
    | nil => rfl
    | cons a' as' =>
      obtain ⟨b, hb⟩ := hone a' (has' a' List.mem_cons_self)
      rw [List.flatMap_cons, hb] at h
      cases h
  | cons a as ih =>
    obtain ⟨ha, has⟩ := List.forall_mem_cons.mp has
    obtain ⟨b, hb⟩ := hone a ha
    cases as' with
    | nil =>
      rw [List.flatMap_cons, hb] at h
      cases h
    | cons a' as' =>
      obtain ⟨ha', has'⟩ := List.forall_mem_cons.mp has'
      obtain ⟨b', hb'⟩ := hone a' ha'
      rw [List.flatMap_cons, List.flatMap_cons, hb, hb'] at h
      obtain ⟨rfl, hrest⟩ := List.cons.inj h
      rw [hinj a a' ha ha' (hb.trans hb'.symm), ih has has' hrest]

namespace TraceLine

/-- The trace loses nothing of the accesses to registers, and nothing of those to memory: sequences
of accesses for which the same messages are logged, one after the other, are the same. The levels of
the lines are not needed to tell reading from writing. -/
theorem accesses_eq_of_messages_eq :
    (∀ es es' : List RegisterEvent, (∀ e ∈ es, e.IsAccess) → (∀ e ∈ es', e.IsAccess) →
      (es.flatMap RegisterEvent.trace).map (·.message) =
        (es'.flatMap RegisterEvent.trace).map (·.message) → es = es') ∧
    ∀ es es' : List MemoryEvent, (∀ e ∈ es, e.IsAccess) → (∀ e ∈ es', e.IsAccess) →
      (es.flatMap MemoryEvent.trace).map (·.message) =
        (es'.flatMap MemoryEvent.trace).map (·.message) → es = es' := by
  constructor
  · intro es es' hes hes' h
    rw [List.map_flatMap, List.map_flatMap] at h
    exact eq_of_flatMap_eq (fun e => RegisterEvent.IsAccess.exists_message)
      (fun e e' => RegisterEvent.eq_of_message_eq) hes hes' h
  · intro es es' hes hes' h
    rw [List.map_flatMap, List.map_flatMap] at h
    exact eq_of_flatMap_eq (fun e => MemoryEvent.IsAccess.exists_message)
      (fun e e' => MemoryEvent.eq_of_message_eq) hes hes' h

/-- A negative number is logged like the word that stands for it, and it is that word. -/
theorem accesses_eq_of_messages_eq_negative :
    let registers : List RegisterEvent := [.read 0 0, .write 255 (-32)]
    let registers' : List RegisterEvent := [.read 0 0, .write 255 0xFFFFFFFFFFFFFFE0]
    let memory : List MemoryEvent := [.write (-8) 8 (-1), .read 0 1 255]
    let memory' : List MemoryEvent :=
      [.write 0xFFFFFFFFFFFFFFF8 8 0xFFFFFFFFFFFFFFFF, .read 0 1 255]
    ((registers.flatMap RegisterEvent.trace).map (·.message) =
        (registers'.flatMap RegisterEvent.trace).map (·.message) ∧ registers = registers') ∧
      (memory.flatMap MemoryEvent.trace).map (·.message) =
        (memory'.flatMap MemoryEvent.trace).map (·.message) ∧ memory = memory' := by
  intro registers registers' memory memory'
  obtain ⟨hregisters, hmemory⟩ := accesses_eq_of_messages_eq
  exact ⟨⟨rfl, hregisters _ _ (by simp [registers, RegisterEvent.IsAccess])
      (by simp [registers', RegisterEvent.IsAccess]) rfl⟩,
    rfl, hmemory _ _ (by simp [memory, MemoryEvent.IsAccess])
      (by simp [memory', MemoryEvent.IsAccess]) rfl⟩

end TraceLine

end LectureMachine
