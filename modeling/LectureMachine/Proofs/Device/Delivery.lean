import Mathlib.Data.List.Infix
import LectureMachine.Proofs.Text.Utf8
import LectureMachine.Device.Console

/-!
# What becomes of the keys

A console hands out the keys that were typed, in order, and says that there are none left when all
have been handed out: this is what its user relies on. It holds if the keys are well-formed text.
But the console reads text, not bytes. A line that is not well formed is lost, with its well-formed
beginning and with all lines after it. What is handed out is then the lines before it, and it is
shown that the console hands out neither more nor less than that.
-/

namespace LectureMachine

/-! ### Lines -/

/-- The lines of what was typed, each with its end; the last one may have none. -/
def lines : List Byte → List (List Byte)
  | [] => []
  | b :: bs =>
    if b = newline then [b] :: lines bs
    else
      match lines bs with
      | [] => [[b]]
      | line :: rest => (b :: line) :: rest

/-- The lines before the first one that is not well-formed text. -/
def legible (keys : List Byte) : List Byte :=
  ((lines keys).takeWhile fun line => decide (Utf8.IsText line)).flatten

lemma append_splitLine (keys : List Byte) : (splitLine keys).1 ++ (splitLine keys).2 = keys := by
  fun_induction splitLine keys with
  | case1 => rfl
  | case2 => rfl
  | case3 b bs _ line rest h ih =>
    rw [h] at ih
    exact congrArg (b :: ·) ih

lemma splitLine_ne_nil {keys : List Byte} (h : keys ≠ []) : (splitLine keys).1 ≠ [] := by
  fun_cases splitLine keys with
  | case1 => exact absurd rfl h
  | case2 => nofun
  | case3 => nofun

lemma splitLine_of_mem {keys : List Byte} (h : newline ∈ keys) :
    ∃ body, (splitLine keys).1 = body ++ [newline] := by
  induction keys with
  | nil => cases h
  | cons b bs ih =>
    rw [splitLine]
    by_cases hb : b = newline
    · rw [if_pos hb, hb]
      exact ⟨[], rfl⟩
    · obtain ⟨body, hbody⟩ := ih ((List.mem_cons.mp h).resolve_left (Ne.symm hb))
      rw [if_neg hb]
      exact ⟨b :: body, congrArg (b :: ·) hbody⟩

lemma splitLine_of_notMem {keys : List Byte} (h : newline ∉ keys) :
    splitLine keys = (keys, []) := by
  induction keys with
  | nil => rfl
  | cons b bs ih =>
    obtain ⟨hb, hbs⟩ := not_or.mp (mt List.mem_cons.mpr h)
    rw [splitLine, if_neg (Ne.symm hb), ih hbs]

lemma lines_eq {keys : List Byte} (h : keys ≠ []) :
    lines keys = (splitLine keys).1 :: lines (splitLine keys).2 := by
  induction keys with
  | nil => exact absurd rfl h
  | cons b bs ih =>
    rw [lines, splitLine]
    by_cases hb : b = newline
    · rw [if_pos hb, if_pos hb]
    · rw [if_neg hb, if_neg hb]
      by_cases hbs : bs = []
      · rw [hbs]
        rfl
      · rw [ih hbs]

/-- A fact about lines is shown by taking off the first line. -/
lemma splitLine_induction {p : List Byte → Prop} (nil : p [])
    (line : ∀ keys, keys ≠ [] → p (splitLine keys).2 → p keys) (keys : List Byte) : p keys := by
  induction h : keys.length using Nat.strong_induction_on generalizing keys with
  | _ n ih =>
    by_cases hkeys : keys = []
    · rw [hkeys]
      exact nil
    · refine line keys hkeys (ih _ ?_ _ rfl)
      have hlength := congrArg List.length (append_splitLine keys)
      have hpos := List.length_pos_of_ne_nil (splitLine_ne_nil hkeys)
      rw [List.length_append] at hlength
      omega

lemma flatten_lines (keys : List Byte) : (lines keys).flatten = keys := by
  induction keys using splitLine_induction with
  | nil => rfl
  | line keys h ih => rw [lines_eq h, List.flatten_cons, ih, append_splitLine]

/-- A text is well formed just if its first line and the other lines are. -/
lemma isText_iff_splitLine (keys : List Byte) :
    Utf8.IsText keys ↔ Utf8.IsText (splitLine keys).1 ∧ Utf8.IsText (splitLine keys).2 := by
  by_cases h : newline ∈ keys
  · obtain ⟨body, hbody⟩ := splitLine_of_mem h
    have hkeys := append_splitLine keys
    rw [hbody, List.append_assoc, List.singleton_append] at hkeys
    rw [← hkeys, Utf8.isText_append_cons (by decide), hkeys, hbody,
      Utf8.isText_append_cons (by decide)]
    simp
  · rw [splitLine_of_notMem h]
    simp

/-! ### Legible keys -/

@[simp] lemma legible_nil : legible [] = [] := rfl

lemma legible_of_isText {keys : List Byte} (h : keys ≠ [])
    (htext : Utf8.IsText (splitLine keys).1) :
    legible keys = (splitLine keys).1 ++ legible (splitLine keys).2 := by
  rw [legible, lines_eq h, List.takeWhile_cons, if_pos (decide_eq_true htext), List.flatten_cons,
    legible]

lemma legible_of_not_isText {keys : List Byte} (h : keys ≠ [])
    (htext : ¬ Utf8.IsText (splitLine keys).1) : legible keys = [] := by
  rw [legible, lines_eq h, List.takeWhile_cons, if_neg (by simpa using htext), List.flatten_nil]

lemma legible_prefix (keys : List Byte) : legible keys <+: keys := by
  have hlines : ((lines keys).takeWhile fun line => decide (Utf8.IsText line)) <+: lines keys :=
    List.takeWhile_prefix _
  have hkeys := hlines.flatten
  rwa [flatten_lines] at hkeys

/-- All keys are legible just if they are well-formed text. -/
lemma legible_eq_self_iff {keys : List Byte} : legible keys = keys ↔ Utf8.IsText keys := by
  induction keys using splitLine_induction with
  | nil => simp
  | line keys h ih =>
    rw [isText_iff_splitLine, ← ih]
    by_cases htext : Utf8.IsText (splitLine keys).1
    · have hkeys := append_splitLine keys
      rw [legible_of_isText h htext]
      constructor
      · intro hsame
        exact ⟨htext, List.append_cancel_left (hsame.trans hkeys.symm)⟩
      · rintro ⟨-, hrest⟩
        rw [hrest, hkeys]
    · rw [legible_of_not_isText h htext]
      exact iff_of_false (Ne.symm h) fun hboth => htext hboth.1

/-! ### Chunks -/

/-- Takes a line from keys that come in chunks: whole chunks, up to one in which the line ends. -/
def takeLine : List (List Byte) → List Byte × List (List Byte)
  | [] => ([], [])
  | chunk :: chunks =>
    if newline ∈ chunk then ((splitLine chunk).1, (splitLine chunk).2 :: chunks)
    else (chunk ++ (takeLine chunks).1, (takeLine chunks).2)

lemma splitLine_append_of_mem {keys : List Byte} (h : newline ∈ keys) (more : List Byte) :
    splitLine (keys ++ more) = ((splitLine keys).1, (splitLine keys).2 ++ more) := by
  induction keys with
  | nil => cases h
  | cons b bs ih =>
    rw [List.cons_append, splitLine, splitLine]
    by_cases hb : b = newline
    · rw [if_pos hb, if_pos hb]
    · rw [if_neg hb, if_neg hb, ih ((List.mem_cons.mp h).resolve_left (Ne.symm hb))]

lemma splitLine_append_of_notMem {keys : List Byte} (h : newline ∉ keys) (more : List Byte) :
    splitLine (keys ++ more) = (keys ++ (splitLine more).1, (splitLine more).2) := by
  induction keys with
  | nil => rfl
  | cons b bs ih =>
    obtain ⟨hb, hbs⟩ := not_or.mp (mt List.mem_cons.mpr h)
    rw [List.cons_append, splitLine, if_neg (Ne.symm hb), ih hbs]
    rfl

/-- It makes no difference in what chunks the keys come. -/
lemma splitLine_flatten (chunks : List (List Byte)) :
    splitLine chunks.flatten = ((takeLine chunks).1, (takeLine chunks).2.flatten) := by
  induction chunks with
  | nil => rfl
  | cons chunk chunks ih =>
    rw [List.flatten_cons, takeLine]
    split_ifs with h
    · exact splitLine_append_of_mem h chunks.flatten
    · rw [splitLine_append_of_notMem h, ih]

/-! ### Reading -/

lemma Keyboard.readLine_of_isText {k : Keyboard} (hsteady : k.failsAtEnd = false)
    (h : k.keys ≠ []) (htext : Utf8.IsText (splitLine k.keys).1) (terminal : Terminal) :
    k.readLine terminal =
      (some (splitLine k.keys).1,
        { k with
          keys := (splitLine k.keys).2
          consumed := k.consumed + (splitLine k.keys).1.length
          seen := terminal.shown.toList :: k.seen }) := by
  have hrejects : k.rejects (splitLine k.keys).1 = false := by
    rw [rejects, hsteady, Bool.false_and, Bool.false_or, Option.isNone_eq_false_iff]
    exact htext
  simp [readLine, splitLine_ne_nil h, hrejects]

lemma Keyboard.readLine_of_not_isText {k : Keyboard}
    (h : k.keys = [] ∨ ¬ Utf8.IsText (splitLine k.keys).1) (terminal : Terminal) :
    k.readLine terminal =
      (none,
        { k with
          keys := (splitLine k.keys).2
          consumed := k.consumed + (splitLine k.keys).1.length
          seen := terminal.shown.toList :: k.seen }) := by
  rcases h with hkeys | htext
  · simp [readLine, hkeys, splitLine]
  · have hrejects : k.rejects (splitLine k.keys).1 = true := by
      rw [Utf8.IsText, Bool.not_eq_true, Option.isSome_eq_false_iff] at htext
      rw [rejects, htext, Bool.or_true]
    simp [readLine, hrejects]

namespace Console

/-- The keys that are still to be handed out, beyond those that were read. -/
def unread (c : Console) : List Byte := if c.closed then [] else legible c.keyboard.keys

/-- Reading a line moves it from the keyboard to the console. -/
lemma fill_spec {c : Console} (hsteady : c.keyboard.failsAtEnd = false)
    (hopen : c.closed = false) :
    c.fill.keyboard.failsAtEnd = false ∧
      c.fill.pending ++ c.fill.unread = c.pending ++ c.unread ∧
      (c.fill.pending = [] → c.fill.unread = []) := by
  by_cases htext : c.keyboard.keys ≠ [] ∧ Utf8.IsText (splitLine c.keyboard.keys).1
  · obtain ⟨hkeys, htext⟩ := htext
    have hline := splitLine_ne_nil hkeys
    simp [fill, Keyboard.readLine_of_isText hsteady hkeys htext, unread, hopen, hsteady, hline,
      legible_of_isText hkeys htext]
  · have hnone : c.keyboard.keys = [] ∨ ¬ Utf8.IsText (splitLine c.keyboard.keys).1 := by
      tauto
    have hlegible : legible c.keyboard.keys = [] := by
      rcases hnone with hkeys | htext
      · rw [hkeys, legible_nil]
      · by_cases hkeys : c.keyboard.keys = []
        · rw [hkeys, legible_nil]
        · exact legible_of_not_isText hkeys htext
    simp [fill, Keyboard.readLine_of_not_isText hnone, unread, hopen, hsteady, hlegible]

/-- A console that was asked has a key to be taken at once, unless none is left at all. -/
lemma state_poll_spec {c : Console} (hsteady : c.keyboard.failsAtEnd = false) :
    (Device.poll c).2.keyboard.failsAtEnd = false ∧
      (Device.poll c).2.pending ++ (Device.poll c).2.unread = c.pending ++ c.unread ∧
      ((Device.poll c).2.pending = [] → (Device.poll c).2.unread = []) := by
  by_cases h : c.pending.isEmpty && !c.closed
  · have hpoll : (Device.poll c).2 = c.fill := if_pos h
    have hopen : c.closed = false := by simp_all
    rw [hpoll]
    exact fill_spec hsteady hopen
  · have hpoll : (Device.poll c).2 = c := if_neg h
    rw [hpoll]
    refine ⟨hsteady, rfl, fun hpending => ?_⟩
    have hclosed : c.closed = true := by simp_all
    rw [unread, hclosed, if_pos rfl]

lemma poll_eq_true_iff (c : Console) :
    (Device.poll c).1 = true ↔ (Device.poll c).2.pending ≠ [] := by
  have hanswer : (Device.poll c).1 = !(Device.poll c).2.pending.isEmpty := rfl
  rw [hanswer, Bool.not_eq_true', List.isEmpty_eq_false_iff]

/-- The console says no just if nothing is left to be handed out. -/
lemma poll_eq_false_iff {c : Console} (hsteady : c.keyboard.failsAtEnd = false) :
    (Device.poll c).1 = false ↔ c.pending ++ c.unread = [] := by
  obtain ⟨-, hkeys, hempty⟩ := state_poll_spec hsteady
  rw [← Bool.not_eq_true, poll_eq_true_iff, not_ne_iff, ← hkeys, List.append_eq_nil_iff]
  exact ⟨fun h => ⟨h, hempty h⟩, fun h => h.1⟩

end Console

/-! ### Dialogues -/

/-- A user at work with a console. -/
structure Dialogue where
  console : Console
  /-- The console has said that there is a key, and none was taken since. -/
  mayTake : Bool := false
  /-- The keys that were taken. -/
  taken : List Byte := []

namespace Dialogue

/-- The user writes a byte. -/
def put (d : Dialogue) (b : Byte) : Dialogue := { d with console := Device.put b d.console }

/-- The user asks whether there is a key. -/
def ask (d : Dialogue) : Dialogue :=
  { d with console := (Device.poll d.console).2, mayTake := (Device.poll d.console).1 }

/-- The user takes a key. -/
def take (d : Dialogue) : Dialogue where
  console := (Device.get d.console).2
  taken := d.taken ++ [(Device.get d.console).1]

/-- The dialogues with a console into which `typed` is typed. No key is taken unless the console has
said that there is one. -/
inductive Reached (typed : List Byte) : Dialogue → Prop
  | start (terminal : Terminal) :
    Reached typed { console := { keyboard := { keys := typed }, terminal } }
  | put {d : Dialogue} (h : Reached typed d) (b : Byte) : Reached typed (d.put b)
  | ask {d : Dialogue} (h : Reached typed d) : Reached typed d.ask
  | take {d : Dialogue} (h : Reached typed d) (hkey : d.mayTake = true) : Reached typed d.take

/-- The keys were handed out in order, and if the console says that there are no more, then all of
them. -/
structure Faithful (typed : List Byte) (d : Dialogue) : Prop where
  in_order : d.taken <+: typed
  all_at_no : (Device.poll d.console).1 = false → d.taken = typed

/-- The keys that were handed out, those that were read, and those that are still to be read, are
the legible ones. -/
structure Accounts (typed : List Byte) (d : Dialogue) : Prop where
  steady : d.console.keyboard.failsAtEnd = false
  keys : d.taken ++ (d.console.pending ++ d.console.unread) = legible typed
  key : d.mayTake = true → d.console.pending ≠ []

variable {typed : List Byte} {d : Dialogue}

lemma Accounts.ask (h : d.Accounts typed) : d.ask.Accounts typed := by
  obtain ⟨hsteady, hkeys, -⟩ := Console.state_poll_spec h.steady
  refine ⟨hsteady, ?_, (Console.poll_eq_true_iff d.console).mp⟩
  rw [← h.keys, ← hkeys]
  rfl

lemma Accounts.take (h : d.Accounts typed) (hkey : d.mayTake = true) : d.take.Accounts typed := by
  obtain ⟨b, rest, hpending⟩ := List.exists_cons_of_ne_nil (h.key hkey)
  have hget : Device.get d.console = (b, { d.console with pending := rest }) := by
    simp [Device.get, hpending]
  have hkeys := h.keys
  rw [hpending] at hkeys
  refine ⟨?_, ?_, nofun⟩
  · rw [Dialogue.take, hget]
    exact h.steady
  · rw [Dialogue.take, hget, ← hkeys, List.append_assoc]
    rfl

/-- No key is lost, doubled or moved as long as it is legible. -/
lemma Reached.accounts (h : Reached typed d) : d.Accounts typed := by
  induction h with
  | start terminal => exact ⟨rfl, rfl, nofun⟩
  | put _ b ih => exact ⟨ih.steady, ih.keys, ih.key⟩
  | ask _ ih => exact ih.ask
  | take _ hkey ih => exact ih.take hkey

lemma Accounts.taken_prefix (h : d.Accounts typed) : d.taken <+: legible typed :=
  ⟨d.console.pending ++ d.console.unread, h.keys⟩

lemma Accounts.poll_eq_false_iff (h : d.Accounts typed) :
    (Device.poll d.console).1 = false ↔ d.taken = legible typed := by
  rw [Console.poll_eq_false_iff h.steady, ← h.keys]
  simp

/-- Whoever takes all the keys that there are will be told at last that there are no more. -/
lemma Reached.exists_no (h : Reached typed d) :
    ∃ d', Reached typed d' ∧ (Device.poll d'.console).1 = false := by
  induction hn : (legible typed).length - d.taken.length using Nat.strong_induction_on
    generalizing d with
  | _ n ih =>
    cases hkey : (Device.poll d.console).1 with
    | false => exact ⟨d, h, hkey⟩
    | true =>
      have hask := h.ask
      have htake := hask.take hkey
      have hlength := htake.accounts.taken_prefix.length_le
      have htaken : d.ask.take.taken.length = d.taken.length + 1 := List.length_append
      exact ih _ (by omega) htake rfl

/-- A console hands out all keys faithfully just if they are well-formed text. Whatever the keys
are, it hands out the lines before the first one that is not well formed, and then says that there
are no more. It makes no difference in what chunks the keys come. -/
theorem faithful_iff_isText (typed : List Byte) :
    ((∀ d, Reached typed d → d.Faithful typed) ↔ Utf8.IsText typed) ∧
      (∀ d, Reached typed d →
        d.taken <+: legible typed ∧ legible typed <+: typed ∧
          ((Device.poll d.console).1 = false ↔ d.taken = legible typed)) ∧
      ∀ chunks : List (List Byte), chunks.flatten = typed →
        splitLine typed = ((takeLine chunks).1, (takeLine chunks).2.flatten) := by
  have hprefix := legible_prefix typed
  refine ⟨⟨fun h => ?_, fun htext d hd => ?_⟩, fun d hd => ?_, fun chunks hchunks => ?_⟩
  · have hstart : Reached typed _ := .start {}
    obtain ⟨d, hd, hno⟩ := hstart.exists_no
    rw [← legible_eq_self_iff, ← hd.accounts.poll_eq_false_iff.mp hno]
    exact (h d hd).all_at_no hno
  · have hall := legible_eq_self_iff.mpr htext
    refine ⟨hd.accounts.taken_prefix.trans hprefix, fun hno => ?_⟩
    rw [← hall, hd.accounts.poll_eq_false_iff.mp hno, hall]
  · exact ⟨hd.accounts.taken_prefix, hprefix, hd.accounts.poll_eq_false_iff⟩
  · rw [← hchunks, splitLine_flatten]

/-- The byte 255 is in no text: a line with it is lost, although the input is not at its end. -/
theorem not_faithful_illFormed :
    ∃ d, Reached [0xFF, newline] d ∧ (Device.poll d.console).1 = false ∧ d.taken = [] ∧
      ¬ d.Faithful [0xFF, newline] := by
  have htext : ¬ Utf8.IsText (splitLine [0xFF, newline]).1 := by
    simp [splitLine, newline, Utf8.isText_iff, Utf8.characters, Utf8.lead?]
  have hlegible : legible [0xFF, newline] = [] := legible_of_not_isText (List.cons_ne_nil _ _) htext
  have hstart : Reached [0xFF, newline] _ := .start {}
  have hno := hstart.accounts.poll_eq_false_iff.mpr hlegible.symm
  refine ⟨_, hstart, hno, rfl, fun hfaithful => ?_⟩
  cases hfaithful.all_at_no hno

end Dialogue

end LectureMachine
