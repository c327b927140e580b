import Mathlib.Data.List.TakeWhile
import Mathlib.Order.Basic
import LectureMachine.Text.Blank

/-!
# Runs

A run is a part of a text without separators that is as long as it can be. Splitting a text at its
separators gives all its runs in order. There is one more of them than there are separators, and a
run may be empty.
-/

namespace LectureMachine.Text

variable {p : Char → Bool} {text run : List Char} {i k : Nat}

/-- The run at position `i`: it begins the text or follows a separator, and it reaches to the next
separator or to the end. -/
structure IsRunAt (p : Char → Bool) (text : List Char) (i : Nat) (run : List Char) : Prop where
  begins : i = 0 ∨ ∃ sep, text[i - 1]? = some sep ∧ p sep = true
  reaches : run = (text.drop i).takeWhile fun c => !p c

/-! ### Positions -/

/-- A piece of a text, further on. -/
def shift (k : Nat) (piece : Nat × List Char) : Nat × List Char := (piece.1 + k, piece.2)

/-- Where the pieces of a text stand that single separators separate. -/
def placed : List (List Char) → List (Nat × List Char)
  | [] => []
  | piece :: pieces => (0, piece) :: (placed pieces).map (shift (piece.length + 1))

lemma map_shift_zero (pieces : List (Nat × List Char)) : pieces.map (shift 0) = pieces :=
  List.map_id pieces

lemma map_shift_shift (j : Nat) (pieces : List (Nat × List Char)) :
    (pieces.map (shift j)).map (shift k) = pieces.map (shift (j + k)) := by
  rw [List.map_map]
  exact List.map_congr_left fun _ _ => Prod.ext (Nat.add_assoc _ _ _) rfl

lemma mem_map_shift {pieces : List (Nat × List Char)} :
    (i, run) ∈ pieces.map (shift k) ↔ ∃ j, i = j + k ∧ (j, run) ∈ pieces := by
  rw [List.mem_map]
  constructor
  · rintro ⟨⟨j, piece⟩, hmem, heq⟩
    obtain ⟨rfl, rfl⟩ := Prod.mk.inj heq
    exact ⟨j, rfl, hmem⟩
  · rintro ⟨j, rfl, hmem⟩
    exact ⟨(j, run), hmem, rfl⟩

/-- The pieces are in order and do not overlap. -/
lemma placed_pairwise (pieces : List (List Char)) :
    (placed pieces).Pairwise fun x y => x.1 + x.2.length < y.1 := by
  induction pieces with
  | nil => exact .nil
  | cons piece pieces ih =>
    refine List.pairwise_cons.mpr ⟨fun ⟨i, run⟩ hmem => ?_, List.pairwise_map.mpr (ih.imp ?_)⟩
    · obtain ⟨j, rfl, -⟩ := mem_map_shift.mp hmem
      change 0 + piece.length < j + (piece.length + 1)
      omega
    · intro x y h
      change x.1 + (piece.length + 1) + x.2.length < y.1 + (piece.length + 1)
      omega

@[simp] lemma map_snd_placed (pieces : List (List Char)) :
    (placed pieces).map Prod.snd = pieces := by
  induction pieces with
  | nil => rfl
  | cons piece pieces ih =>
    rw [placed, List.map_cons, List.map_map]
    exact congrArg (piece :: ·) ih

/-! ### Splitting -/

/-- A fact about texts is shown by taking off the first run. -/
lemma run_induction {P : List Char → Prop}
    (last : ∀ run, (∀ c ∈ run, p c = false) → P run)
    (more : ∀ run sep rest, (∀ c ∈ run, p c = false) → p sep = true → P rest →
      P (run ++ sep :: rest)) (text : List Char) : P text := by
  induction h : text.length using Nat.strong_induction_on generalizing text with
  | _ n ih =>
    have hrun : ∀ c ∈ text.takeWhile fun c => !p c, p c = false := fun c hc => by
      simpa using List.mem_takeWhile_imp hc
    have htext := List.takeWhile_append_dropWhile (p := fun c => !p c) (l := text)
    cases hrest : text.dropWhile fun c => !p c with
    | nil =>
      rw [hrest, List.append_nil] at htext
      rw [← htext]
      exact last _ hrun
    | cons sep rest =>
      have hsep : p sep = true := by
        have hhead := List.head_dropWhile_not (l := text) (fun c => !p c) (by simp [hrest])
        simpa [hrest] using hhead
      rw [hrest] at htext
      have hlength := congrArg List.length htext
      rw [List.length_append, List.length_cons] at hlength
      rw [← htext]
      exact more _ sep rest hrun hsep (ih rest.length (by omega) rest rfl)

lemma takeWhile_of_free (h : ∀ c ∈ text, p c = false) : (text.takeWhile fun c => !p c) = text :=
  List.takeWhile_eq_self_iff.mpr fun c hc => by simp [h c hc]

lemma takeWhile_of_free_append {sep : Char} (h : ∀ c ∈ text, p c = false) (hsep : p sep = true)
    (rest : List Char) : ((text ++ sep :: rest).takeWhile fun c => !p c) = text := by
  rw [List.takeWhile_append_of_pos (fun c hc => by simp [h c hc]),
    List.takeWhile_cons_of_neg (by simp [hsep]), List.append_nil]

/-- A text without separators is its only run. -/
lemma isRunAt_of_free (h : ∀ c ∈ text, p c = false) :
    IsRunAt p text i run ↔ i = 0 ∧ run = text := by
  constructor
  · rintro ⟨rfl | ⟨sep, hget, hsep⟩, hreaches⟩
    · rw [hreaches, List.drop_zero, takeWhile_of_free h]
      exact ⟨rfl, rfl⟩
    · rw [h sep (List.mem_of_getElem? hget)] at hsep
      cases hsep
  · rintro ⟨rfl, rfl⟩
    exact ⟨.inl rfl, (takeWhile_of_free h).symm⟩

/-- The runs of a text are its first run and those behind the separator that ends it. -/
lemma isRunAt_append {first rest : List Char} {sep : Char} (h : ∀ c ∈ first, p c = false)
    (hsep : p sep = true) :
    IsRunAt p (first ++ sep :: rest) i run ↔
      (i = 0 ∧ run = first) ∨ ∃ j, i = j + (first.length + 1) ∧ IsRunAt p rest j run := by
  have hdrop (j : Nat) : (first ++ sep :: rest).drop (first.length + (j + 1)) = rest.drop j := by
    rw [List.drop_length_add_append, List.drop_succ_cons]
  have hget (j : Nat) : (first ++ sep :: rest)[first.length + j]? = (sep :: rest)[j]? := by
    rw [List.getElem?_append_right (Nat.le_add_right _ _), Nat.add_sub_cancel_left]
  constructor
  · rintro ⟨hbegins, hreaches⟩
    cases i with
    | zero =>
      rw [List.drop_zero, takeWhile_of_free_append h hsep] at hreaches
      exact .inl ⟨rfl, hreaches⟩
    | succ i =>
      obtain ⟨sep', hsome, hsep'⟩ := hbegins.resolve_left i.succ_ne_zero
      rw [Nat.add_sub_cancel] at hsome
      have hpast : first.length ≤ i := by
        by_contra hin
        rw [List.getElem?_append_left (by omega)] at hsome
        rw [h sep' (List.mem_of_getElem? hsome)] at hsep'
        cases hsep'
      obtain ⟨j, rfl⟩ := Nat.exists_eq_add_of_le hpast
      rw [hget] at hsome
      rw [Nat.add_assoc, hdrop] at hreaches
      refine .inr ⟨j, by omega, ?_, hreaches⟩
      cases j with
      | zero => exact .inl rfl
      | succ j => exact .inr ⟨sep', hsome, hsep'⟩
  · rintro (⟨rfl, rfl⟩ | ⟨j, rfl, hbegins, hreaches⟩)
    · exact ⟨.inl rfl, (takeWhile_of_free_append h hsep rest).symm⟩
    · rw [show j + (first.length + 1) = first.length + (j + 1) by omega]
      refine ⟨.inr ?_, by rw [hdrop, hreaches]⟩
      rw [← Nat.add_assoc, Nat.add_sub_cancel, hget]
      cases j with
      | zero => exact ⟨sep, rfl, hsep⟩
      | succ j => exact hbegins.resolve_left j.succ_ne_zero

/-- Splitting gives all runs. -/
theorem mem_placed_splitOnP :
    (i, run) ∈ placed (text.splitOnP p) ↔ IsRunAt p text i run := by
  induction text using run_induction (p := p) generalizing i run with
  | last first hfree =>
    rw [List.splitOnP_eq_singleton hfree, isRunAt_of_free hfree]
    simp [placed]
  | more first sep rest hfree hsep ih =>
    rw [List.splitOnP_append_cons_of_forall_mem hfree sep hsep, isRunAt_append hfree hsep, placed,
      List.mem_cons, mem_map_shift, Prod.mk.injEq]
    simp only [ih]

/-- A run is inside the text. -/
lemma IsRunAt.le_length (h : IsRunAt p text i run) : i + run.length ≤ text.length := by
  have hlength : run.length ≤ text.length - i := by
    rw [h.reaches, ← List.length_drop]
    exact (List.takeWhile_prefix _).length_le
  rcases h.begins with rfl | ⟨sep, hget, -⟩
  · omega
  · have := (List.getElem?_eq_some_iff.mp hget).1
    omega

/-! ### Pieces -/

/-- What all separators lack, no separator has. -/
lemma contains_eq_false {seps : List Char} {q : Char → Bool} (hq : seps.any q = false) {c : Char}
    (h : q c = true) : seps.contains c = false := by
  by_contra hsep
  have hmem := List.contains_iff_mem.mp (Bool.of_not_eq_false hsep)
  exact List.any_eq_false.mp hq c hmem h

/-- The runs of a text that are not empty, in order. -/
def pieces (p : Char → Bool) (text : List Char) : List (List Char) :=
  (text.splitOnP p).filter (!·.isEmpty)

lemma pieces_cons {sep : Char} (hsep : p sep = true) (text : List Char) :
    pieces p (sep :: text) = pieces p text := by
  rw [pieces, pieces, List.splitOnP_cons_eq_if_modifyHead, if_pos hsep]
  rfl

lemma pieces_append_of_separators {seps : List Char} (hseps : ∀ sep ∈ seps, p sep = true)
    (text : List Char) : pieces p (seps ++ text) = pieces p text := by
  induction seps with
  | nil => rfl
  | cons sep seps ih =>
    obtain ⟨hsep, hseps⟩ := List.forall_mem_cons.mp hseps
    rw [List.cons_append, pieces_cons hsep, ih hseps]

/-- What is free of separators, up to a separator or to the end, is a piece. -/
lemma pieces_append (hne : run ≠ []) (hrun : ∀ c ∈ run, p c = false)
    (hend : ∀ c ∈ text.head?, p c = true) : pieces p (run ++ text) = run :: pieces p text := by
  cases text with
  | nil =>
    rw [List.append_nil, pieces, List.splitOnP_eq_singleton hrun]
    simp [pieces, hne]
  | cons c text =>
    have hc := hend c rfl
    rw [pieces_cons hc, pieces, List.splitOnP_append_cons_of_forall_mem hrun c hc, pieces]
    simp [hne]

/-- The words of a text are its pieces between blanks. -/
lemma words_eq_pieces (text : List Char) : words text = pieces isBlank text := rfl

end LectureMachine.Text
