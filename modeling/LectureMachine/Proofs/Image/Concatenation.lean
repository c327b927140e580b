import LectureMachine.Proofs.Image.Grammar

/-!
# Texts one after the other

To put one text image under another is to put its words after those of the other. Lines are read one
by one, so that nothing at the end of the first text, be it a comment or a line that is not ended,
reaches into the second. Only the numbers of the lines of the second text grow.
-/

namespace LectureMachine

/-- The same complaint, about a line that is further on. -/
def ImageError.further (k : Nat) : ImageError → ImageError
  | invalidWord line token => invalidWord (line + k) token
  | truncatedWord length => truncatedWord length
  | unreadable => unreadable

namespace TextImage

/-! ### The numbers of the lines -/

lemma mapM_mapError {α β ε ε' : Type} (g : ε → ε') (f : α → Except ε β) (xs : List α) :
    xs.mapM (fun x => (f x).mapError g) = (xs.mapM f).mapError g := by
  induction xs with
  | nil => rfl
  | cons x xs ih =>
    rw [List.mapM_cons, List.mapM_cons, ih]
    cases f x with
    | error e => rfl
    | ok y => cases xs.mapM f <;> rfl

lemma readToken_add (number k : Nat) (token : List Char) :
    readToken (number + k) token = (readToken number token).mapError (.further k) := by
  rw [readToken, readToken]
  cases parseWord? token <;> rfl

lemma parseLine_add (number k : Nat) (line : List Char) :
    parseLine (number + k) line = (parseLine number line).mapError (.further k) := by
  rw [parseLine_eq, parseLine_eq, ← mapM_mapError]
  simp only [readToken_add]

/-- Lines that are numbered from further on have the same words, and complaints about them are about
lines that are further on. -/
lemma parseLines_add (number k : Nat) (lines : List (List Char)) :
    parseLines (number + k) lines = (parseLines number lines).mapError (.further k) := by
  induction lines generalizing number with
  | nil => rfl
  | cons line lines ih =>
    rw [parseLines, parseLines, parseLine_add, Nat.add_right_comm, ih]
    cases parseLine number line with
    | error e => rfl
    | ok words => cases parseLines (number + 1) lines <;> rfl

/-! ### Lines after other lines -/

lemma parseLines_append (number : Nat) (first second : List (List Char)) :
    parseLines number (first ++ second) = do
      let words ← parseLines number first
      return words ++ (← parseLines (number + first.length) second) := by
  induction first generalizing number with
  | nil =>
    change parseLines number second = (parseLines number second >>= fun more => pure more)
    rw [bind_pure]
  | cons line lines ih =>
    have hnumber : number + 1 + lines.length = number + (line :: lines).length := by
      rw [List.length_cons]
      omega
    rw [List.cons_append, parseLines, parseLines, ih, hnumber]
    simp only [bind_assoc, pure_bind, List.append_assoc]

/-- There is one line more than there are line ends. -/
lemma length_splitOn_newline (text : List Char) :
    (text.splitOn '\n').length = 1 + text.count '\n' := by
  rw [List.splitOn_eq_splitOnP]
  induction text with
  | nil => rfl
  | cons c text ih =>
    rw [List.splitOnP_cons_eq_if_modifyHead, List.count_cons]
    split
    · rw [List.length_cons, ih, Nat.add_assoc]
    · rw [List.length_modifyHead, ih, Nat.add_zero]

/-- What is between two texts ends the last line of the first and begins the first line of the
second. -/
lemma parse_append (first second : String) :
    parse (first ++ "\n" ++ second) = do
      let words ← parse first
      return words ++ (← (parse second).mapError (.further (1 + first.toList.count '\n'))) := by
  have hlines : (first ++ "\n" ++ second).toList.splitOn '\n' =
      first.toList.splitOn '\n' ++ second.toList.splitOn '\n' := by
    rw [String.toList_append, String.toList_append, List.append_assoc]
    exact List.splitOn_append_cons_self _ _
  rw [parse, hlines, parseLines_append, length_splitOn_newline, parseLines_add]
  rfl

/-- If the first of two texts cannot be read, then neither can both, one under the other, and for
the same reason. Otherwise both give the words of the first and then those of the second, or a
complaint about the same token as the second, which now stands below all the lines of the first. -/
theorem parse_concatenation (first second : String) :
    match parse first, parse second with
    | .error e, _ => parse (first ++ "\n" ++ second) = .error e
    | .ok words, .ok more => parse (first ++ "\n" ++ second) = .ok (words ++ more)
    | .ok _, .error e =>
      ∃ line token, e = .invalidWord line token ∧
        parse (first ++ "\n" ++ second) =
          .error (.invalidWord (line + 1 + first.toList.count '\n') token) := by
  rw [parse_append]
  cases parse first with
  | error e => rfl
  | ok words =>
    cases hsecond : parse second with
    | ok more => rfl
    | error e =>
      obtain ⟨i, token, -, rfl⟩ := parse_eq_iff.mp hsecond
      refine ⟨_, _, rfl, ?_⟩
      rw [Nat.add_assoc]
      rfl

end TextImage

end LectureMachine
