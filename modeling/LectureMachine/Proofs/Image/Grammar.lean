import Mathlib.Data.List.Sort
import LectureMachine.Proofs.Image.Numerals
import LectureMachine.Proofs.Image.Tokens

/-!
# The grammar of text images

The answer to an image is what its tokens denote in a grammar, or a complaint about the first token
that is not in the grammar. The reader answers so for the tokens it takes. It answers so for the
documented ones just if the first token that is not documented has no plus sign: such a token is
taken for a word instead of being complained about.
-/

namespace LectureMachine.TextImage

variable {text token : List Char} {i : Nat} {word : InstructionWord} {source : String}
  {answer : Except ImageError (List InstructionWord)}
  {grammar : List Char → InstructionWord → Prop}

/-! ### Answers -/

/-- The first token of a text that is not in the grammar. -/
structure FirstRefused (grammar : List Char → InstructionWord → Prop) (text : List Char) (i : Nat)
    (token : List Char) : Prop where
  isTokenAt : IsTokenAt text i token
  refused : ∀ word, ¬ grammar token word
  first : ∀ j earlier, IsTokenAt text j earlier → j < i → ∃ word, grammar earlier word

/-- All tokens of a text, in the order in which they are read. -/
structure InOrder (text : List Char) (all : List (Nat × List Char)) : Prop where
  mem_iff : ∀ i token, (i, token) ∈ all ↔ IsTokenAt text i token
  ordered : all.Pairwise fun x y => x.1 < y.1

/-- What a reader of images in the given grammar answers: the words that the tokens denote, or else
a complaint about the first token that is not in the grammar. -/
def Answers (grammar : List Char → InstructionWord → Prop) (text : List Char) :
    Except ImageError (List InstructionWord) → Prop
  | .ok words => ∃ all, InOrder text all ∧ List.Forall₂ (fun x word => grammar x.2 word) all words
  | .error e => ∃ i token, FirstRefused grammar text i token ∧
      e = .invalidWord (lineNumber text i) (String.ofList token)

lemma inOrder_tokens (text : List Char) : InOrder text (tokens text) :=
  ⟨fun _ _ => mem_tokens, tokens_pairwise text⟩

lemma InOrder.eq_tokens {all : List (Nat × List Char)} (h : InOrder text all) :
    all = tokens text := by
  have hirrefl : Std.Irrefl fun x y : Nat × List Char => x.1 < y.1 := ⟨fun x => lt_irrefl x.1⟩
  refine List.Pairwise.eq_of_mem_iff h.ordered (tokens_pairwise text) fun ⟨i, token⟩ => ?_
  rw [h.mem_iff, mem_tokens]

/-- Two tokens do not begin at one place. -/
lemma IsTokenAt.eq {other : List Char} (h : IsTokenAt text i token) (h' : IsTokenAt text i other) :
    token = other := by
  have hnodup : ((tokens text).map Prod.fst).Nodup :=
    List.pairwise_map.mpr ((tokens_pairwise text).imp ne_of_lt)
  have hsame := List.inj_on_of_nodup_map hnodup (mem_tokens.mpr h) (mem_tokens.mpr h') rfl
  exact congrArg Prod.snd hsame

lemma FirstRefused.unique {j : Nat} {other : List Char} (h : FirstRefused grammar text i token)
    (h' : FirstRefused grammar text j other) : i = j ∧ token = other := by
  rcases lt_trichotomy i j with hlt | rfl | hlt
  · obtain ⟨word, hword⟩ := h'.first i token h.isTokenAt hlt
    exact absurd hword (h.refused word)
  · exact ⟨rfl, h.isTokenAt.eq h'.isTokenAt⟩
  · obtain ⟨word, hword⟩ := h.first j other h'.isTokenAt hlt
    exact absurd hword (h'.refused word)

/-! ### Reading in order -/

lemma mapM_eq_ok_iff {α β ε : Type} {f : α → Except ε β} {xs : List α} {ys : List β} :
    xs.mapM f = .ok ys ↔ List.Forall₂ (fun x y => f x = .ok y) xs ys := by
  induction xs generalizing ys with
  | nil => cases ys <;> simp [pure, Except.pure]
  | cons x xs ih =>
    rw [List.mapM_cons, List.forall₂_cons_left_iff]
    cases hx : f x with
    | error e => simp [bind, Except.bind]
    | ok y =>
      cases hxs : xs.mapM f with
      | error e => simp [bind, Except.bind, ← ih, hxs]
      | ok ys' => simp [bind, Except.bind, pure, Except.pure, ← ih, hxs, eq_comm]

/-- In a list in order the first element that fails decides. -/
lemma mapM_eq_error_iff {α β ε : Type} {rank : α → Nat} {f : α → Except ε β} {xs : List α} {e : ε}
    (h : xs.Pairwise fun x y => rank x < rank y) :
    xs.mapM f = .error e ↔
      ∃ x ∈ xs, f x = .error e ∧ ∀ y ∈ xs, rank y < rank x → ∃ z, f y = .ok z := by
  induction xs with
  | nil => exact iff_of_false nofun nofun
  | cons x xs ih =>
    obtain ⟨hlater, hxs⟩ := List.pairwise_cons.mp h
    rw [List.mapM_cons]
    cases hx : f x with
    | error e' =>
      change Except.error e' = .error e ↔ _
      constructor
      · rintro ⟨⟩
        refine ⟨x, List.mem_cons_self, hx, fun y hy hlt => ?_⟩
        rcases List.mem_cons.mp hy with rfl | hy
        · exact absurd hlt (lt_irrefl _)
        · exact absurd hlt (hlater y hy).le.not_gt
      · rintro ⟨y, hy, hfy, hearlier⟩
        rcases List.mem_cons.mp hy with rfl | hy
        · exact congrArg Except.error (Except.error.inj (hx.symm.trans hfy))
        · obtain ⟨z, hz⟩ := hearlier x List.mem_cons_self (hlater y hy)
          rw [hz] at hx
          cases hx
    | ok z =>
      have hrest : (do let zs ← xs.mapM f; pure (z :: zs)) = .error e ↔ xs.mapM f = .error e := by
        cases xs.mapM f <;> simp [bind, Except.bind, pure, Except.pure]
      change (do let zs ← xs.mapM f; pure (z :: zs)) = .error e ↔ _
      rw [hrest, ih hxs]
      constructor
      · rintro ⟨y, hy, hfy, hearlier⟩
        refine ⟨y, List.mem_cons_of_mem x hy, hfy, fun y' hy' hlt => ?_⟩
        rcases List.mem_cons.mp hy' with rfl | hy'
        · exact ⟨z, hx⟩
        · exact hearlier y' hy' hlt
      · rintro ⟨y, hy, hfy, hearlier⟩
        rcases List.mem_cons.mp hy with rfl | hy
        · rw [hx] at hfy
          cases hfy
        · exact ⟨y, hy, hfy, fun y' hy' hlt => hearlier y' (List.mem_cons_of_mem x hy') hlt⟩

lemma readToken_eq_ok_iff {number : Nat} :
    readToken number token = .ok word ↔ Accepted token word := by
  rw [← parseWord?_eq_some_iff, readToken]
  cases parseWord? token with
  | none => exact iff_of_false nofun nofun
  | some w => simp

lemma readToken_eq_error_iff {number : Nat} {e : ImageError} :
    readToken number token = .error e ↔
      (∀ word, ¬ Accepted token word) ∧ e = .invalidWord number (String.ofList token) := by
  simp only [← parseWord?_eq_some_iff]
  rw [readToken]
  cases parseWord? token with
  | none => simp [eq_comm]
  | some w => simp

/-- An image is read in the grammar of the accepted tokens. -/
theorem parse_eq_iff : parse source = answer ↔ Answers Accepted source.toList answer := by
  rw [parse_eq]
  cases answer with
  | ok words =>
    rw [mapM_eq_ok_iff]
    simp only [readToken_eq_ok_iff]
    constructor
    · intro h
      exact ⟨tokens source.toList, inOrder_tokens source.toList, h⟩
    · rintro ⟨all, hall, h⟩
      rwa [← hall.eq_tokens]
  | error e =>
    rw [mapM_eq_error_iff (tokens_pairwise source.toList)]
    simp only [readToken_eq_ok_iff, readToken_eq_error_iff]
    constructor
    · rintro ⟨⟨i, token⟩, hmem, ⟨hrefused, rfl⟩, hearlier⟩
      exact ⟨i, token, ⟨mem_tokens.mp hmem, hrefused,
        fun j earlier hj hlt => hearlier (j, earlier) (mem_tokens.mpr hj) hlt⟩, rfl⟩
    · rintro ⟨i, token, ⟨htoken, hrefused, hearlier⟩, rfl⟩
      exact ⟨(i, token), mem_tokens.mpr htoken, ⟨hrefused, rfl⟩,
        fun ⟨j, earlier⟩ hj hlt => hearlier j earlier (mem_tokens.mp hj) hlt⟩

/-- If some token is refused then one is the first. -/
lemma exists_firstRefused {i : Nat} (h : IsTokenAt text i token)
    (hrefused : ∀ word, ¬ grammar token word) :
    ∃ j first, j ≤ i ∧ FirstRefused grammar text j first := by
  classical
  induction i using Nat.strong_induction_on generalizing token with
  | _ i ih =>
    by_cases hearlier :
        ∃ j earlier, IsTokenAt text j earlier ∧ j < i ∧ ∀ word, ¬ grammar earlier word
    · obtain ⟨j, earlier, hj, hlt, hno⟩ := hearlier
      obtain ⟨k, first, hle, hfirst⟩ := ih j hlt hj hno
      exact ⟨k, first, by omega, hfirst⟩
    · push Not at hearlier
      exact ⟨i, token, le_rfl, h, hrefused, hearlier⟩

/-! ### Documented answers -/

/-- If no sign is in the way then accepted tokens are documented. -/
lemma exists_documented
    (hno : ∀ i token word, FirstRefused Documented text i token → ¬ Signed token word)
    (h : IsTokenAt text i token)
    (haccepted : ∀ j earlier, IsTokenAt text j earlier → j ≤ i → ∃ word, Accepted earlier word) :
    ∃ word, Documented token word := by
  by_contra hrefused
  push Not at hrefused
  obtain ⟨j, first, hle, hfirst⟩ := exists_firstRefused h hrefused
  obtain ⟨word, hword | hword⟩ := haccepted j first hfirst.isTokenAt hle
  · exact hfirst.refused word hword
  · exact hno j first word hfirst hword

lemma Answers.documented (h : Answers Accepted text answer)
    (hno : ∀ i token word, FirstRefused Documented text i token → ¬ Signed token word) :
    Answers Documented text answer := by
  cases answer with
  | ok words =>
    obtain ⟨all, hall, hwords⟩ := h
    have haccepted : ∀ j earlier, IsTokenAt text j earlier → ∃ word, Accepted earlier word := by
      intro j earlier hj
      obtain ⟨word, -, hword⟩ := exists_related hwords ((hall.mem_iff j earlier).mpr hj)
      exact ⟨word, hword⟩
    have hdocumented : ∀ x ∈ all, ∃ word, Documented x.2 word := fun x hx =>
      exists_documented hno ((hall.mem_iff x.1 x.2).mp hx)
        fun j earlier hj _ => haccepted j earlier hj
    refine ⟨all, hall, ((List.forall₂_and_left _ _).mpr ⟨hdocumented, hwords⟩).imp ?_⟩
    rintro x word ⟨⟨other, hother⟩, hword⟩
    rwa [hword.unique (.inl hother)]
  | error e =>
    obtain ⟨i, token, hfirst, rfl⟩ := h
    have hrefused : ∀ word, ¬ Documented token word :=
      fun word hword => hfirst.refused word (.inl hword)
    refine ⟨i, token, ⟨hfirst.isTokenAt, hrefused, fun j earlier hj hlt => ?_⟩, rfl⟩
    exact exists_documented hno hj fun k other hk hle => hfirst.first k other hk (by omega)

lemma Answers.not_signed (h : Answers Accepted text answer)
    (hdocumented : Answers Documented text answer)
    (hfirst : FirstRefused Documented text i token) : ¬ Signed token word := by
  intro hsigned
  cases answer with
  | ok words =>
    obtain ⟨all, hall, hwords⟩ := hdocumented
    obtain ⟨w, -, hw⟩ := exists_related hwords ((hall.mem_iff i token).mpr hfirst.isTokenAt)
    exact hfirst.refused w hw
  | error e =>
    obtain ⟨j, other, hother, rfl⟩ := hdocumented
    obtain ⟨k, bad, hbad, heq⟩ := h
    obtain ⟨-, htoken⟩ := ImageError.invalidWord.inj heq
    obtain rfl := String.ofList_injective htoken
    obtain ⟨-, rfl⟩ := hfirst.unique hother
    exact hbad.refused word (.inr hsigned)

/-- An image is read in the grammar of the accepted tokens. So it is read as documented just if the
first token that is not documented is not one with a plus sign. -/
theorem parse_documented_iff (source : String) :
    (∀ answer, parse source = answer ↔ Answers Accepted source.toList answer) ∧
      (Answers Documented source.toList (parse source) ↔
        ¬ ∃ i token word, FirstRefused Documented source.toList i token ∧ Signed token word) := by
  refine ⟨fun answer => parse_eq_iff, ?_⟩
  have haccepted := parse_eq_iff.mp (Eq.refl (parse source))
  constructor
  · rintro hdocumented ⟨i, token, word, hfirst, hsigned⟩
    exact haccepted.not_signed hdocumented hfirst hsigned
  · intro hno
    refine haccepted.documented fun i token word hfirst hsigned => ?_
    exact hno ⟨i, token, word, hfirst, hsigned⟩

/-- A word with a sign is read, although the documents have it refused. -/
theorem not_documented_signed :
    parse "+1" = .ok [1] ∧
      Answers Documented "+1".toList (.error (.invalidWord 1 "+1")) ∧
      ¬ Answers Documented "+1".toList (parse "+1") := by
  have htoken : IsTokenAt "+1".toList 0 ['+', '1'] := mem_tokens.mp (by decide)
  have hsigned : Signed ['+', '1'] 1 :=
    ⟨[], ['1'], [1], rfl, by decide, by decide, by decide, .cons ⟨by decide, rfl⟩ .nil, rfl⟩
  have hfirst : FirstRefused Documented "+1".toList 0 ['+', '1'] :=
    ⟨htoken, fun _ => hsigned.not_documented, nofun⟩
  refine ⟨by decide, ⟨0, _, hfirst, by decide⟩, fun h => ?_⟩
  exact (parse_eq_iff.mp rfl).not_signed h hfirst hsigned

end LectureMachine.TextImage
