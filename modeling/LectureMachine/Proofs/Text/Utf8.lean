import Mathlib.Tactic.SplitIfs
import LectureMachine.Text.Utf8

/-!
# Cutting UTF-8

A byte below 128 is a character of its own, wherever it stands. So a text may be cut before and
after such a byte, and whether it is well formed can be told from the parts.
-/

namespace LectureMachine.Utf8

/-- The bytes are well-formed text. -/
def IsText (bytes : List Byte) : Prop := (decode? bytes).isSome = true

instance (bytes : List Byte) : Decidable (IsText bytes) :=
  inferInstanceAs (Decidable ((decode? bytes).isSome = true))

lemma isSome_mapM_id {α : Type} (cs : List (Option α)) :
    (cs.mapM id).isSome = true ↔ ∀ c ∈ cs, c.isSome = true := by
  induction cs with
  | nil => simp
  | cons c cs ih =>
    rw [List.forall_mem_cons, ← ih, List.mapM_cons]
    cases c with
    | none => simp
    | some c => cases cs.mapM id <;> simp

lemma isText_iff {bytes : List Byte} :
    IsText bytes ↔ ∀ c ∈ characters bytes, c.isSome = true :=
  isSome_mapM_id _

@[simp] lemma isText_nil : IsText [] := by
  rw [isText_iff, characters]
  exact fun c hc => absurd hc List.not_mem_nil

/-! ### Bytes below 128 -/

/-- The byte after the first one is at least 128. -/
lemma low_of_lead? {b : Byte} {lead : Lead} (h : lead? b = some lead) : 0x80 ≤ lead.low := by
  rw [lead?] at h
  split_ifs at h
  all_goals
    obtain rfl := Option.some.inj h
    simp

lemma lead?_of_lt {b : Byte} (h : b.toNat < 0x80) :
    lead? b = some ⟨0, b.toNat, 0x80, 0xBF⟩ := by
  rw [lead?, if_pos h]

/-- No character goes on over a byte below 128. -/
lemma continuation_append {b : Byte} (h : b.toNat < 0x80) {following bits low high : Nat}
    (hlow : 0x80 ≤ low) (bytes rest : List Byte) :
    continuation following bits low high (bytes ++ b :: rest) =
      ((continuation following bits low high bytes).1,
        (continuation following bits low high bytes).2 ++ b :: rest) := by
  fun_induction continuation following bits low high bytes with
  | case1 => rw [continuation]
  | case2 =>
    rw [List.nil_append, continuation, if_neg (by omega)]
  | case3 bits low high following c bytes hc ih =>
    rw [List.cons_append, continuation, if_pos hc, ih (by decide)]
  | case4 bits low high following c bytes hc =>
    rw [List.cons_append, continuation, if_neg hc]

/-- A byte below 128 is a character of its own. -/
lemma characters_append {b : Byte} (h : b.toNat < 0x80) (bytes rest : List Byte) :
    characters (bytes ++ b :: rest) =
      characters bytes ++ some (Char.ofNat b.toNat) :: characters rest := by
  fun_induction characters bytes with
  | case1 =>
    rw [List.nil_append, characters, lead?_of_lt h]
    rfl
  | case2 c bytes hlead ih =>
    rw [List.cons_append, characters, hlead, ih]
    rfl
  | case3 c bytes lead hlead tail _ ih =>
    rw [List.cons_append, characters, hlead]
    simp only [continuation_append h (low_of_lead? hlead)]
    rw [ih]
    rfl

/-- A text can be cut at a byte below 128. -/
lemma isText_append_cons {b : Byte} (h : b.toNat < 0x80) {bytes rest : List Byte} :
    IsText (bytes ++ b :: rest) ↔ IsText bytes ∧ IsText rest := by
  rw [isText_iff, isText_iff, isText_iff, characters_append h, List.forall_mem_append,
    List.forall_mem_cons]
  simp

end LectureMachine.Utf8
