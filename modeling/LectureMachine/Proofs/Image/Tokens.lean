import LectureMachine.Image.Text
import LectureMachine.Proofs.Text.Runs

/-!
# Tokens of a text image

A token is a run of the code of a line that is not empty. To read an image is to read its tokens in
order, and each is read by itself: only a complaint about it depends on where it stands.
-/

namespace LectureMachine.TextImage

open Text

variable {text line token : List Char} {i : Nat}

/-- The token at position `i` of a text. -/
def IsTokenAt (text : List Char) (i : Nat) (token : List Char) : Prop :=
  ∃ start line column, IsRunAt (· == '\n') text start line ∧
    IsRunAt isBlank (code line) column token ∧ token ≠ [] ∧ i = column + start

/-- The number of the line in which a position is, counted from 1. -/
def lineNumber (text : List Char) (i : Nat) : Nat := 1 + (text.take i).count '\n'

/-- The tokens of a line with their positions, in order. -/
def lineTokens (line : List Char) : List (Nat × List Char) :=
  (placed ((code line).splitOnP isBlank)).filter fun piece => !piece.2.isEmpty

/-- The tokens of a text with their positions, in order. -/
def tokens (text : List Char) : List (Nat × List Char) :=
  (placed (text.splitOn '\n')).flatMap fun line => (lineTokens line.2).map (shift line.1)

/-- The value of a token in a line with the given number. -/
def readToken (number : Nat) (token : List Char) : Except ImageError InstructionWord :=
  match parseWord? token with
  | some word => .ok word
  | none => .error (.invalidWord number (String.ofList token))

/-! ### Where they stand -/

lemma mem_lineTokens :
    (i, token) ∈ lineTokens line ↔ IsRunAt isBlank (code line) i token ∧ token ≠ [] := by
  rw [lineTokens, List.mem_filter, mem_placed_splitOnP]
  simp

lemma mem_tokens : (i, token) ∈ tokens text ↔ IsTokenAt text i token := by
  rw [tokens, List.mem_flatMap]
  constructor
  · rintro ⟨⟨start, line⟩, hline, hmem⟩
    obtain ⟨column, rfl, htoken⟩ := mem_map_shift.mp hmem
    obtain ⟨hrun, hne⟩ := mem_lineTokens.mp htoken
    exact ⟨start, line, column, mem_placed_splitOnP.mp hline, hrun, hne, rfl⟩
  · rintro ⟨start, line, column, hline, hrun, hne, rfl⟩
    exact ⟨(start, line), mem_placed_splitOnP.mpr hline,
      mem_map_shift.mpr ⟨column, rfl, mem_lineTokens.mpr ⟨hrun, hne⟩⟩⟩

lemma column_le_length (h : (i, token) ∈ lineTokens line) : i ≤ line.length := by
  have hcode : (code line).length ≤ line.length := (List.takeWhile_prefix _).length_le
  have hrun := (mem_lineTokens.mp h).1.le_length
  omega

/-- The tokens are in order. -/
lemma tokens_pairwise (text : List Char) : (tokens text).Pairwise fun x y => x.1 < y.1 := by
  refine List.pairwise_flatMap.mpr ⟨fun ⟨start, line⟩ _ => ?_, ?_⟩
  · refine List.pairwise_map.mpr (((placed_pairwise _).filter _).imp fun {x y} h => ?_)
    change x.1 + start < y.1 + start
    omega
  · refine (placed_pairwise _).imp fun {x y} h => ?_
    rintro ⟨i, token⟩ hmem ⟨i', token'⟩ hmem'
    obtain ⟨column, rfl, htoken⟩ := mem_map_shift.mp hmem
    obtain ⟨column', rfl, -⟩ := mem_map_shift.mp hmem'
    have hcolumn := column_le_length htoken
    change column + x.1 < column' + y.1
    omega

/-! ### Reading them -/

lemma map_snd_lineTokens (line : List Char) :
    (lineTokens line).map Prod.snd = words (code line) := by
  rw [words, ← map_snd_placed ((code line).splitOnP isBlank), List.filter_map]
  rfl

lemma parseLine_eq (number : Nat) (line : List Char) :
    parseLine number line = (lineTokens line).mapM fun x => readToken number x.2 := by
  rw [parseLine, ← map_snd_lineTokens, List.mapM_map]
  rfl

lemma tokens_of_free (h : ∀ c ∈ text, (c == '\n') = false) : tokens text = lineTokens text := by
  rw [tokens, List.splitOn_eq_splitOnP, List.splitOnP_eq_singleton h]
  simp [placed, map_shift_zero]

lemma tokens_append {first rest : List Char} (h : ∀ c ∈ first, (c == '\n') = false) :
    tokens (first ++ '\n' :: rest) =
      lineTokens first ++ (tokens rest).map (shift (first.length + 1)) := by
  rw [tokens, List.splitOn_eq_splitOnP, List.splitOnP_append_cons_of_forall_mem h '\n' rfl, placed,
    List.flatMap_cons, tokens, List.splitOn_eq_splitOnP, List.map_flatMap, List.flatMap_map]
  simp only [map_shift_zero, map_shift_shift]
  rfl

lemma mapM_congr {α β ε : Type} {f g : α → Except ε β} {xs : List α} (h : ∀ x ∈ xs, f x = g x) :
    xs.mapM f = xs.mapM g := by
  induction xs with
  | nil => rfl
  | cons x xs ih =>
    rw [List.mapM_cons, List.mapM_cons, h x List.mem_cons_self,
      ih fun y hy => h y (List.mem_cons_of_mem x hy)]

/-- No line ends before a position in the first line. -/
lemma count_take_of_free {first : List Char} (h : ∀ c ∈ first, (c == '\n') = false)
    (hi : i ≤ first.length) (rest : List Char) : ((first ++ rest).take i).count '\n' = 0 := by
  rw [List.take_append_of_le_length hi, List.count_eq_zero]
  intro hmem
  have hfree := h '\n' (List.mem_of_mem_take hmem)
  cases hfree

lemma count_take_append {first : List Char} (h : ∀ c ∈ first, (c == '\n') = false)
    (rest : List Char) (i : Nat) :
    ((first ++ '\n' :: rest).take (i + (first.length + 1))).count '\n' =
      (rest.take i).count '\n' + 1 := by
  have hcount := count_take_of_free h le_rfl []
  rw [List.append_nil, List.take_length] at hcount
  rw [show i + (first.length + 1) = first.length + (i + 1) by omega, List.take_length_add_append,
    List.take_succ_cons, List.count_append, hcount, List.count_cons_self, Nat.zero_add]

/-- To read numbered lines is to read their tokens in order. -/
lemma parseLines_eq (number : Nat) (text : List Char) :
    parseLines number (text.splitOn '\n') =
      (tokens text).mapM fun x => readToken (number + (text.take x.1).count '\n') x.2 := by
  induction text using run_induction (p := (· == '\n')) generalizing number with
  | last line hfree =>
    have hline : parseLine number line = (lineTokens line).mapM fun x =>
        readToken (number + (line.take x.1).count '\n') x.2 := by
      rw [parseLine_eq]
      refine mapM_congr fun ⟨i, token⟩ hmem => ?_
      have hcount := count_take_of_free hfree (column_le_length hmem) []
      rw [List.append_nil] at hcount
      rw [hcount, Nat.add_zero]
    rw [List.splitOn_eq_splitOnP, List.splitOnP_eq_singleton hfree, tokens_of_free hfree, ← hline]
    change (parseLine number line >>= fun words => pure (words ++ [])) = _
    simp only [List.append_nil, bind_pure]
  | more line sep rest hfree hsep ih =>
    obtain rfl : sep = '\n' := by simpa using hsep
    have hline : parseLine number line = (lineTokens line).mapM fun x =>
        readToken (number + ((line ++ '\n' :: rest).take x.1).count '\n') x.2 := by
      rw [parseLine_eq]
      refine mapM_congr fun ⟨i, token⟩ hmem => ?_
      rw [count_take_of_free hfree (column_le_length hmem), Nat.add_zero]
    have hrest : parseLines (number + 1) (rest.splitOn '\n') =
        ((tokens rest).map (shift (line.length + 1))).mapM fun x =>
          readToken (number + ((line ++ '\n' :: rest).take x.1).count '\n') x.2 := by
      rw [ih, List.mapM_map]
      refine mapM_congr fun ⟨i, token⟩ _ => ?_
      change _ = readToken (number +
        ((line ++ '\n' :: rest).take (i + (line.length + 1))).count '\n') token
      rw [count_take_append hfree, Nat.add_right_comm, Nat.add_assoc]
    rw [tokens_append hfree, List.mapM_append, ← hline, ← hrest, List.splitOn_eq_splitOnP,
      List.splitOnP_append_cons_of_forall_mem hfree '\n' rfl, parseLines,
      List.splitOn_eq_splitOnP]

theorem parse_eq (source : String) :
    parse source =
      (tokens source.toList).mapM fun x => readToken (lineNumber source.toList x.1) x.2 :=
  parseLines_eq 1 source.toList

end LectureMachine.TextImage
