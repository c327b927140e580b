import LectureMachine.Proofs.Device.Delivery
import LectureMachine.Proofs.Device.Terminal

/-!
# Talking with a user

A user at a console answers what the terminal shows, and can be kept waiting. So a prompt has to be
shown before the answer is read, and the keyboard must not be asked for more than is wanted. This is
shown for every console with a terminal that works, whatever it is called for and whatever is typed
in between.
-/

namespace LectureMachine

/-! ### Terminals that work -/

namespace Terminal

/-- Nothing that is written or shown fails. -/
def Works (t : Terminal) : Prop := t.failsToWrite = false ∧ t.failsToFlush = false

variable {t : Terminal}

lemma Works.flush_eq (h : t.Works) :
    t.flush = { t with shown := t.shown ++ t.heldBack, heldBack := #[] } := by
  rw [flush, if_neg (by simp [h.2])]

lemma Works.flush (h : t.Works) : t.flush.Works := by
  rw [h.flush_eq]
  exact h

/-- All that was written is shown. -/
lemma Works.shown_flush (h : t.Works) : t.flush.shown.toList = t.written := by
  rw [h.flush_eq, written]

lemma Works.write (h : t.Works) (b : Byte) : (t.write b).Works := by
  rw [Terminal.write, if_neg (by simp [h.1])]
  have hpushed : ({ t with heldBack := t.heldBack.push b } : Terminal).Works := h
  split_ifs
  · exact hpushed.flush
  · exact hpushed

lemma Works.shown_write_newline (h : t.Works) :
    (t.write newline).shown.toList = t.written ++ [newline] := by
  have hpushed : ({ t with heldBack := t.heldBack.push newline } : Terminal).Works := h
  rw [Terminal.write, if_neg (by simp [h.1]), if_pos rfl, hpushed.shown_flush]
  simp [written]

end Terminal

namespace Console

/-! ### What happens to a console -/

/-- What can happen to a console: it is called, or its user types. -/
inductive Happening
  | put (b : Byte)
  | get
  | poll
  | reset
  /-- More keys are typed, and after them the input fails or is at its end. -/
  | typed (keys : List Byte) (fails : Bool)
  deriving DecidableEq, Repr

namespace Happening

/-- The console afterwards. -/
def perform (c : Console) : Happening → Console
  | put b => Device.put b c
  | get => (Device.get c).2
  | poll => (Device.poll c).2
  | reset => Device.reset c
  | typed keys fails =>
    { c with keyboard := { c.keyboard.typeKeys keys with failsAtEnd := fails } }

/-- The byte that is put, if one is. -/
def sent : Happening → List Byte
  | put b => [b]
  | _ => []

/-- The keys that are typed. -/
def keys : Happening → List Byte
  | typed keys _ => keys
  | _ => []

end Happening

/-- The console after all that has happened to it. -/
def after (c : Console) (past : List Happening) : Console := past.foldl Happening.perform c

/-! ### Reading -/

/-- The keyboard gives nothing, whatever the terminal shows: the input is at its end, or reading
fails. -/
def GivesOut (k : Keyboard) : Prop := ∀ terminal, (k.readLine terminal).1 = none

variable {c : Console}

/-- A console that has no byte left turns to the keyboard, unless the keyboard has given out. -/
lemma state_poll_of_open (hpending : c.pending = []) (hopen : c.closed = false) :
    (Device.poll c).2 = c.fill :=
  if_pos (by simp [hpending, hopen])

lemma state_poll_of_not_open (h : ¬ (c.pending = [] ∧ c.closed = false)) :
    (Device.poll c).2 = c :=
  if_neg (by simpa using h)

lemma keyboard_fill (c : Console) :
    c.fill.keyboard = (c.keyboard.readLine c.terminal.flush).2 := by
  rw [fill]
  split
  all_goals
    rename_i h
    rw [h]

/-- What is seen when a line is read is what the terminal shows after the flush. -/
lemma seen_fill (c : Console) :
    c.fill.keyboard.seen = c.terminal.flush.shown.toList :: c.keyboard.seen := by
  rw [keyboard_fill]
  rfl

lemma fill_of_givesOut (h : GivesOut c.keyboard) :
    c.fill.pending = c.pending ∧ c.fill.closed = true := by
  rw [fill]
  split
  · rename_i hline
    have hnone := h c.terminal.flush
    rw [hline] at hnone
    cases hnone
  · exact ⟨rfl, rfl⟩

/-- There are no more keys in a line after the one that ends it. -/
lemma newline_notMem_dropLast (keys : List Byte) : newline ∉ (splitLine keys).1.dropLast := by
  induction keys with
  | nil => exact List.not_mem_nil
  | cons b bs ih =>
    rw [splitLine]
    split_ifs with hb
    · exact List.not_mem_nil
    · cases hline : (splitLine bs).1 with
      | nil => simp [hline]
      | cons d ds =>
        rw [hline] at ih
        simp [hline, ih, Ne.symm hb]

/-- The console is closed and has no bytes left. -/
structure IsShut (c : Console) : Prop where
  closed : c.closed = true
  pending : c.pending = []

lemma IsShut.poll_eq (h : c.IsShut) : Device.poll c = (false, c) := by
  simp [Device.poll, h.closed, h.pending]

lemma IsShut.perform (h : c.IsShut) (happening : Happening) : (happening.perform c).IsShut := by
  cases happening with
  | put b | typed keys fails => exact ⟨h.closed, h.pending⟩
  | get => exact ⟨h.closed, congrArg List.tail h.pending⟩
  | poll =>
    rw [Happening.perform, h.poll_eq]
    exact h
  | reset => exact ⟨h.closed, rfl⟩

lemma IsShut.after (h : c.IsShut) (later : List Happening) : (c.after later).IsShut := by
  induction later generalizing c with
  | nil => exact h
  | cons happening later ih => exact ih (h.perform happening)

/-- A console that is shut leaves the keyboard alone. -/
lemma IsShut.seen_after (h : c.IsShut) (later : List Happening) :
    (c.after later).keyboard.seen = c.keyboard.seen := by
  induction later generalizing c with
  | nil => rfl
  | cons happening later ih =>
    have hseen : (happening.perform c).keyboard.seen = c.keyboard.seen := by
      cases happening with
      | poll => rw [Happening.perform, h.poll_eq]
      | put b | get | reset | typed keys fails => rfl
    exact (ih (h.perform happening)).trans hseen

/-- A console to which the keyboard gives nothing is shut. -/
lemma isShut_poll (hpending : c.pending = []) (hopen : c.closed = false)
    (h : GivesOut c.keyboard) : (Device.poll c).2.IsShut := by
  obtain ⟨hpending', hclosed⟩ := fill_of_givesOut h
  rw [state_poll_of_open hpending hopen]
  exact ⟨hclosed, hpending'.trans hpending⟩

/-! ### What a user relies on -/

/-- The bytes `sent` were put to a console with a terminal that works. -/
structure Carries (sent : List Byte) (c : Console) : Prop where
  works : c.terminal.Works
  written : c.terminal.written = sent

variable {sent : List Byte} {happening : Happening}

lemma Carries.perform (h : c.Carries sent) (happening : Happening) :
    (happening.perform c).Carries (sent ++ happening.sent) := by
  cases happening with
  | put b =>
    refine ⟨h.works.write b, ?_⟩
    rw [← h.written]
    exact (Terminal.written_write h.works.1 b).1
  | poll =>
    simp only [Happening.sent, List.append_nil, Happening.perform]
    by_cases hreads : c.pending = [] ∧ c.closed = false
    · rw [state_poll_of_open hreads.1 hreads.2]
      refine ⟨?_, ?_⟩
      · rw [terminal_fill]
        exact h.works.flush
      · rw [terminal_fill, Terminal.written_flush, h.written]
    · rw [state_poll_of_not_open hreads]
      exact h
  | get | reset | typed keys fails =>
    simp only [Happening.sent, List.append_nil]
    exact ⟨h.works, h.written⟩

lemma Carries.after (h : c.Carries sent) (past : List Happening) :
    (c.after past).Carries (sent ++ past.flatMap Happening.sent) := by
  induction past generalizing c sent with
  | nil =>
    rw [List.flatMap_nil, List.append_nil]
    exact h
  | cons happening past ih =>
    rw [List.flatMap_cons, ← List.append_assoc]
    exact ih (h.perform happening)

/-- What a user of a console to which the bytes `sent` were put relies on. -/
structure Converses (sent : List Byte) (c : Console) : Prop where
  /-- All that was put is shown or held back, in order. -/
  written : c.terminal.shown.toList ++ c.terminal.heldBack.toList = sent
  /-- The end of a line is shown at once, with all that was put before. -/
  newline_shown : (Device.put newline c).terminal.shown.toList = sent ++ [newline]
  /-- If no byte is pending and the keyboard has not given out, to find out whether there is a byte
  is to read the keyboard once; and what is seen then is all that was put. -/
  shown_when_read : c.pending = [] → c.closed = false →
    (Device.poll c).2.keyboard.seen = sent :: c.keyboard.seen
  /-- Nothing else reads the keyboard. -/
  only_poll_reads : ∀ happening : Happening,
    ¬ (happening = .poll ∧ c.pending = [] ∧ c.closed = false) →
      (happening.perform c).keyboard.seen = c.keyboard.seen
  /-- Keys are taken only to find out whether there is a byte, only if none is pending, and nothing
  behind the end of a line. -/
  takes_line : ∀ happening : Happening, ∃ taken,
    c.keyboard.keys ++ happening.keys = taken ++ (happening.perform c).keyboard.keys ∧
      (happening.perform c).keyboard.consumed = c.keyboard.consumed + taken.length ∧
      newline ∉ taken.dropLast ∧ (taken ≠ [] → happening = .poll ∧ c.pending = [])
  /-- Once the keyboard has given out it is never read again, and there is never a byte. -/
  shuts : c.pending = [] → c.closed = false → GivesOut c.keyboard →
    (Device.poll c).1 = false ∧
      ∀ later, ((Device.poll c).2.after later).keyboard.seen = (Device.poll c).2.keyboard.seen ∧
        (Device.poll ((Device.poll c).2.after later)).1 = false

/-- A line is read when all that was put is shown. -/
lemma Carries.seen_fill (h : c.Carries sent) :
    c.fill.keyboard.seen = sent :: c.keyboard.seen := by
  rw [Console.seen_fill, h.works.shown_flush, h.written]

lemma seen_perform (h : ¬ (happening = .poll ∧ c.pending = [] ∧ c.closed = false)) :
    (happening.perform c).keyboard.seen = c.keyboard.seen := by
  cases happening with
  | poll =>
    rw [Happening.perform, state_poll_of_not_open fun hreads => h ⟨rfl, hreads⟩]
  | put b | get | reset | typed keys fails => rfl

lemma keys_perform_of_ne_poll (c : Console) (h : happening ≠ .poll) :
    (happening.perform c).keyboard.keys = c.keyboard.keys ++ happening.keys ∧
      (happening.perform c).keyboard.consumed = c.keyboard.consumed := by
  cases happening with
  | typed keys fails => exact ⟨rfl, rfl⟩
  | poll => exact absurd rfl h
  | put b | get | reset => exact ⟨(List.append_nil _).symm, rfl⟩

lemma exists_taken (c : Console) (happening : Happening) : ∃ taken,
    c.keyboard.keys ++ happening.keys = taken ++ (happening.perform c).keyboard.keys ∧
      (happening.perform c).keyboard.consumed = c.keyboard.consumed + taken.length ∧
      newline ∉ taken.dropLast ∧ (taken ≠ [] → happening = .poll ∧ c.pending = []) := by
  by_cases h : happening = .poll
  · subst h
    simp only [Happening.keys, List.append_nil, Happening.perform, true_and]
    by_cases hreads : c.pending = [] ∧ c.closed = false
    · rw [state_poll_of_open hreads.1 hreads.2, keyboard_fill]
      exact ⟨(splitLine c.keyboard.keys).1, (append_splitLine c.keyboard.keys).symm, rfl,
        newline_notMem_dropLast _, fun _ => hreads.1⟩
    · rw [state_poll_of_not_open hreads]
      exact ⟨[], rfl, rfl, nofun, fun hne => absurd rfl hne⟩
  · obtain ⟨hkeys, hconsumed⟩ := c.keys_perform_of_ne_poll h
    exact ⟨[], hkeys.symm, hconsumed, nofun, fun hne => absurd rfl hne⟩

/-- Whatever has happened to a console with a terminal that works, its user can rely on it: however
calls and typing alternate, and whether reading fails or the input is at its end, now or later. -/
theorem converses (keyboard : Keyboard) (past : List Happening) :
    (({ keyboard } : Console).after past).Converses (past.flatMap Happening.sent) := by
  have hstart : ({ keyboard } : Console).Carries [] := ⟨⟨rfl, rfl⟩, rfl⟩
  have h := hstart.after past
  rw [List.nil_append] at h
  constructor
  · rw [← h.written, Terminal.written, Array.toList_append]
  · rw [← h.written]
    exact h.works.shown_write_newline
  · intro hpending hopen
    rw [state_poll_of_open hpending hopen]
    exact h.seen_fill
  · exact fun _ => seen_perform
  · exact exists_taken _
  · intro hpending hopen hgives
    have hshut := isShut_poll hpending hopen hgives
    refine ⟨Bool.eq_false_iff.mpr fun hyes => (poll_eq_true_iff _).mp hyes hshut.pending, ?_⟩
    intro later
    exact ⟨hshut.seen_after later, congrArg Prod.fst (hshut.after later).poll_eq⟩

/-- A prompt is shown when the answer to it is read. -/
example :
    (({ keyboard := { keys := [0x79, newline] } } : Console).after
      [.put 0x3F, .put 0x20, .poll]).keyboard.seen = [[0x3F, 0x20]] := by
  decide +kernel

end Console

end LectureMachine
