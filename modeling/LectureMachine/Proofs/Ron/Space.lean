import Mathlib.Data.List.Basic
import Mathlib.Data.List.TakeWhile
import LectureMachine.Ron.Reader

/-!
# Gaps between the parts of a document

Between two parts of a document there may be blanks, comments that go to the end of their line, and
comments in marks, which may hold others. A reader passes over all of this. Where a name or a number
ends, either such a gap begins or a mark follows that can be in none of them.
-/

namespace LectureMachine.Ron

variable {c mark : Char} {g s : List Char}

/-! ### Gaps -/

/-- The rest of a comment that `depth` others are around, up to the end of the outermost of them. -/
inductive CommentRest : Nat → List Char → Prop
  | close : CommentRest 0 ['*', '/']
  | leave {depth : Nat} {t : List Char} (h : CommentRest depth t) :
      CommentRest (depth + 1) ('*' :: '/' :: t)
  | enter {depth : Nat} {t : List Char} (h : CommentRest (depth + 1) t) :
      CommentRest depth ('/' :: '*' :: t)
  | other {depth : Nat} {c : Char} {t : List Char} (henter : c = '/' → t.head? ≠ some '*')
      (hleave : c = '*' → t.head? ≠ some '/') (h : CommentRest depth t) : CommentRest depth (c :: t)

/-- Blanks and comments. -/
inductive Gap : List Char → Prop
  | nil : Gap []
  | blank {c : Char} {t : List Char} (hc : isSpace c = true) (h : Gap t) : Gap (c :: t)
  | line {body t : List Char} (hbody : '\n' ∉ body) (h : Gap t) :
      Gap ('/' :: '/' :: (body ++ '\n' :: t))
  | block {body t : List Char} (hbody : CommentRest 0 body) (h : Gap t) :
      Gap ('/' :: '*' :: (body ++ t))

lemma CommentRest.skipFrom_append {depth : Nat} {body : List Char} (h : CommentRest depth body)
    (s : List Char) : skipFrom (.blockComment depth) (body ++ s) = skipFrom .blanks s := by
  induction h with
  | close => rfl
  | leave _ ih => simpa [skipFrom] using ih
  | enter _ ih => simpa [skipFrom] using ih
  | @other depth c t henter hleave h ih =>
    rw [List.cons_append, ← ih]
    have hne : t ≠ [] := by rintro rfl; cases h
    cases t with
    | nil => exact (hne rfl).elim
    | cons d t => cases depth <;> rw [List.cons_append, skipFrom] <;> simp_all

lemma skipFrom_line {body : List Char} (h : '\n' ∉ body) (s : List Char) :
    skipFrom .lineComment (body ++ '\n' :: s) = skipFrom .blanks s := by
  induction body with
  | nil => rfl
  | cons c body ih =>
    rw [List.mem_cons, not_or] at h
    rw [List.cons_append, skipFrom, ih h.2]
    exact fun hc => h.1 hc.symm

/-- A comment that goes to the end of the text. -/
lemma skipFrom_line_eq {body : List Char} (h : '\n' ∉ body) :
    skipFrom .lineComment body = some [] := by
  induction body with
  | nil => rfl
  | cons c body ih =>
    rw [List.mem_cons, not_or] at h
    rw [skipFrom, ih h.2]
    exact fun hc => h.1 hc.symm

lemma skipSpace_blank (h : isSpace c = true) (s : List Char) :
    skipSpace (c :: s) = skipSpace s := by
  have hslash : c ≠ '/' := by
    rintro rfl
    cases h
  rw [skipSpace, skipFrom, if_pos h] <;> simp [hslash]

lemma Gap.skipSpace_append (h : Gap g) (s : List Char) : skipSpace (g ++ s) = skipSpace s := by
  induction h with
  | nil => rfl
  | blank hc _ ih => rw [List.cons_append, skipSpace_blank hc, ih]
  | line hbody _ ih =>
    rw [← ih, List.cons_append, List.cons_append, List.append_assoc]
    exact skipFrom_line hbody _
  | block hbody _ ih =>
    rw [← ih, List.cons_append, List.cons_append, List.append_assoc]
    exact hbody.skipFrom_append _

/-! ### What stands behind a gap -/

/-- A gap ends before the character. -/
def IsSolid (c : Char) : Prop := isSpace c = false ∧ c ≠ '/'

instance (c : Char) : Decidable (IsSolid c) := inferInstanceAs (Decidable (_ ∧ _))

lemma IsSolid.skipSpace_cons (h : IsSolid c) (s : List Char) :
    skipSpace (c :: s) = some (c :: s) := by
  rw [skipSpace, skipFrom] <;> simp [h.1, h.2]

lemma Gap.skipSpace_append_cons (hg : Gap g) (hc : IsSolid c) (s : List Char) :
    skipSpace (g ++ c :: s) = some (c :: s) := by
  rw [hg.skipSpace_append, hc.skipSpace_cons]

lemma Gap.readMark_append (hg : Gap g) (hmark : IsSolid mark) (s : List Char) :
    readMark mark (g ++ mark :: s) = some s := by
  rw [readMark, hg.skipSpace_append_cons hmark]
  exact if_pos rfl

lemma Gap.readMark_append_of_ne (hg : Gap g) (hc : IsSolid c) (hne : c ≠ mark) (s : List Char) :
    readMark mark (g ++ c :: s) = none := by
  rw [readMark, hg.skipSpace_append_cons hc]
  exact if_neg hne

/-! ### Where names and numbers end -/

/-- The characters that a gap begins with, and the marks that may follow a name or a value. -/
def delimiters : List Char :=
  ['\t', '\n', '\x0b', '\x0c', '\r', ' ', '\u0085', '\u200e', '\u200f', '\u2028', '\u2029', '/',
    '(', ')', ':', ',']

/-- The text is empty or begins with a delimiter. -/
def Delimited (s : List Char) : Prop := ∀ c ∈ s.head?, c ∈ delimiters

@[simp] lemma delimited_nil : Delimited [] := nofun

@[simp] lemma delimited_cons : Delimited (c :: s) ↔ c ∈ delimiters := by
  simp [Delimited]

lemma delimited_colon (s : List Char) : Delimited (':' :: s) := delimited_cons.mpr (by decide)

lemma mem_delimiters_of_isSpace (h : isSpace c = true) : c ∈ delimiters := by
  have hcode : c.toNat ∈ delimiters.map Char.toNat := by
    simp only [isSpace, Bool.or_eq_true, Bool.and_eq_true, decide_eq_true_eq, beq_iff_eq] at h
    simp only [delimiters, List.map_cons, List.map_nil, Char.reduceToNat, List.mem_cons,
      List.not_mem_nil]
    omega
  obtain ⟨d, hd, heq⟩ := List.mem_map.mp hcode
  rwa [← Char.toNat_inj.mp heq]

lemma Gap.delimited_append (hg : Gap g) (hs : Delimited s) : Delimited (g ++ s) := by
  cases hg with
  | nil => exact hs
  | blank hc _ => exact delimited_cons.mpr (mem_delimiters_of_isSpace hc)
  | line | block => exact delimited_cons.mpr (by decide)

lemma takeWhile_append_of_head? {p : Char → Bool} {t : List Char} (ht : ∀ c ∈ t, p c = true)
    (hs : ∀ c ∈ s.head?, p c = false) : (t ++ s).takeWhile p = t := by
  rw [List.takeWhile_append_of_pos ht]
  cases s with
  | nil => exact List.append_nil t
  | cons c s => rw [List.takeWhile_cons_of_neg (by simp [hs c rfl]), List.append_nil]

lemma Delimited.takeWhile_append {p : Char → Bool} {t : List Char} (hs : Delimited s)
    (hp : ∀ c ∈ delimiters, p c = false) (ht : ∀ c ∈ t, p c = true) :
    (t ++ s).takeWhile p = t :=
  takeWhile_append_of_head? ht fun c hc => hp c (hs c hc)

lemma Delimited.dropWhile_append {p : Char → Bool} {t : List Char} (hs : Delimited s)
    (hp : ∀ c ∈ delimiters, p c = false) (ht : ∀ c ∈ t, p c = true) :
    (t ++ s).dropWhile p = s := by
  have htake := List.takeWhile_append_dropWhile (p := p) (l := t ++ s)
  rw [hs.takeWhile_append hp ht] at htake
  exact List.append_cancel_left htake

lemma isRawNameChar_of_mem_delimiters : ∀ c ∈ delimiters, isRawNameChar c = false :=
  List.forall_iff_forall_mem.mp (by decide +kernel)

lemma isNameStart_of_mem_delimiters : ∀ c ∈ delimiters, Text.isNameStart c = false :=
  List.forall_iff_forall_mem.mp (by decide +kernel)

lemma isIntegerChar_of_mem_delimiters : ∀ c ∈ delimiters, isIntegerChar c = false :=
  List.forall_iff_forall_mem.mp (by decide +kernel)

lemma isFloatChar_of_mem_delimiters : ∀ c ∈ delimiters, isFloatChar c = false :=
  List.forall_iff_forall_mem.mp (by decide +kernel)

end LectureMachine.Ron
