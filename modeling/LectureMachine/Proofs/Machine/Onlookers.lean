import LectureMachine.Proofs.Machine.Log

/-!
# Onlookers

A machine has no way to ask who is watching, but for one thing: the word that comes next is shown to
onlookers before it is fetched, and if there are none, it is not looked up. A machine that spares
itself this look does what any machine does, and its observers write the same entries. So a host
cannot tell from anything that a machine does how many observers are attached to it, on which
channels, or since when.
-/

namespace LectureMachine

open Transition

variable {σ δ ε ε₁ ε₂ α : Type}

/-! ### Previews -/

/-- The word that comes next is shown. -/
@[simp] def Activity.IsPreview : Activity → Bool
  | .machine (.next _) => true
  | _ => false

lemma Activity.IsInner.isPreview_eq_false {a : Activity} (h : a.IsInner) : a.IsPreview = false := by
  cases a with
  | machine e => cases h
  | _ => rfl

/-- What is left of what was done if the previews are left out unless someone is watching. -/
def shown (watched : Bool) (done : List Activity) : List Activity :=
  done.filter fun a => watched || !a.IsPreview

@[simp] lemma shown_true (done : List Activity) : shown true done = done := by simp [shown]

@[simp] lemma shown_append (watched : Bool) (done more : List Activity) :
    shown watched (done ++ more) = shown watched done ++ shown watched more :=
  List.filter_append ..

lemma shown_cons_of_isPreview {a : Activity} (h : a.IsPreview = true) (done : List Activity) :
    shown false (a :: done) = shown false done :=
  List.filter_cons_of_neg (by rw [h]; decide)

lemma shown_cons_of_not_isPreview {a : Activity} (h : a.IsPreview = false) {watched : Bool}
    (done : List Activity) : shown watched (a :: done) = a :: shown watched done :=
  List.filter_cons_of_pos (by rw [h, Bool.not_false, Bool.or_true])

lemma shown_of_not_isPreview {done : List Activity} (h : ∀ a ∈ done, a.IsPreview = false)
    (watched : Bool) : shown watched done = done := by
  apply List.filter_eq_self.mpr
  intro a ha
  rw [h a ha, Bool.not_false, Bool.or_true]

namespace Outcome

/-- The same outcome without previews, unless someone is watching. -/
def under (watched : Bool) (o : Outcome σ α) : Outcome σ α :=
  { o with activity := shown watched o.activity }

@[simp] lemma result_under (watched : Bool) (o : Outcome σ α) :
    (o.under watched).result = o.result := rfl

@[simp] lemma state_under (watched : Bool) (o : Outcome σ α) :
    (o.under watched).state = o.state := rfl

@[simp] lemma activity_under (watched : Bool) (o : Outcome σ α) :
    (o.under watched).activity = shown watched o.activity := rfl

@[simp] lemma under_mk (watched : Bool) (result : Except Fault α) (s : σ) (done : List Activity) :
    (Outcome.mk result s done).under watched = ⟨result, s, shown watched done⟩ := rfl

@[simp] lemma under_map {β : Type} (watched : Bool) (f : α → β) (o : Outcome σ α) :
    (o.map f).under watched = (o.under watched).map f := rfl

lemma under_of_not_isPreview {o : Outcome σ α} (h : ∀ a ∈ o.activity, a.IsPreview = false)
    (watched : Bool) : o.under watched = o := by
  rw [under, shown_of_not_isPreview h]

@[simp] lemma under_after (watched : Bool) (done : List Activity) (o : Outcome σ α) :
    (o.after done).under watched = (o.under watched).after (shown watched done) := by
  simp [under, after]

end Outcome

/-! ### The step -/

namespace Machine

@[simp] lemma preview_apply (watched : Bool) (m : Machine δ) :
    preview watched m = ⟨.ok (), m, shown watched [.machine (.next m.nextWord)]⟩ := by
  cases watched <;> rfl

lemma advanceUnder_eq (watched : Bool) (m : Machine δ) :
    advanceUnder watched m = (advance m).under watched := by
  cases halted : m.halted with
  | true =>
    rw [advance_of_halted halted]
    simp [advanceUnder, bind_apply, Except.map, halted, shown]
  | false =>
    cases blocked : m.blocked with
    | true =>
      rw [advance_of_blocked halted blocked]
      simp [advanceUnder, bind_apply, Except.map, halted, blocked, shown]
    | false =>
      rw [advance_of_running halted blocked]
      simp [advanceUnder, advanced, Core.incrementIp, bind_apply, Except.map, halted, blocked]

variable [Device δ]

/-- A step that spares itself the look ahead is a step all the same. -/
lemma stepUnder_eq (watched : Bool) (m : Machine δ) :
    stepUnder watched m = (step m).under watched := by
  cases halted : m.halted with
  | true =>
    rw [step_of_halted halted]
    simp [stepUnder, bind_apply, halted, shown]
  | false =>
    have hdone := shown_of_not_isPreview
      (fun a ha => (logs_executeCurrent.emits m a ha).isPreview_eq_false) watched
    rcases he : executeCurrent m with ⟨f | ⟨⟩, m', done⟩ <;> rw [he] at hdone
    · have hs := advanceUnder_eq watched (m'.stopped f)
      rw [advance_of_halted rfl, stopped] at hs
      rw [step_of_error halted he]
      simp [stepUnder, bind_apply, halted, he, haltWith, stopped, hs, hdone]
    · rw [step_of_ok halted he]
      simp [stepUnder, bind_apply, halted, he, advanceUnder_eq, hdone]

/-! ### Runs -/

lemma runForUnder_eq (watched : Bool) (limit : Nat) (m : Machine δ) :
    runForUnder watched limit m = (runFor limit m).under watched := by
  induction limit generalizing m with
  | zero => rfl
  | succ limit ih =>
    rw [runFor_succ, runForUnder_succ, stepUnder_eq]
    rcases step m with ⟨f | status, m', done⟩
    · rfl
    · cases status with
      | running => simp [ih]
      | blocked => rfl
      | halted => rfl

lemma runToStopUnder?_eq (watched : Bool) (patience : Nat) (m : Machine δ) :
    runToStopUnder? watched patience m = (runToStop? patience m).map (·.under watched) := by
  rw [runToStop?, runToStopUnder?, runToStopUnder?, runForUnder_eq, ← runFor]
  rcases runFor patience m with ⟨f | stop, m', done⟩
  · rfl
  · cases stop <;> rfl

lemma runToHaltUnder?_eq (watched : Bool) (patience : Nat) (m : Machine δ) :
    runToHaltUnder? watched patience m = (runToHalt? patience m).map (·.under watched) := by
  induction patience generalizing m with
  | zero =>
    cases halted : m.halted <;>
      simp [runToHaltUnder?, runToHalt?, runOnToHalt?, halted, shown]
  | succ patience ih =>
    cases halted : m.halted with
    | true => simp [runToHaltUnder?_of_halted, runToHalt?_of_halted, halted, shown]
    | false =>
      rw [runToHalt?_succ halted, runToHaltUnder?_succ watched halted, stepUnder_eq]
      simp [ih, Function.comp_def]

end Machine

/-! ### Replies -/

/-- The device is asked for nothing by a preview. -/
lemma filterMap_device?_shown (watched : Bool) (done : List Activity) :
    (shown watched done).filterMap Activity.device? = done.filterMap Activity.device? := by
  rw [shown, List.filterMap_filter]
  apply List.filterMap_congr
  intro a _
  cases a with
  | machine e => simp [Activity.device?]
  | _ => simp [Activity.device?]

/-- Without observers of the machine, nobody writes anything about a preview. -/
lemma Observers.log_shown (observers : Observers ε) (done : List Activity) :
    observers.log (shown (!observers.machine.isEmpty) done) = observers.log done := by
  cases h : observers.machine with
  | cons o os => simp
  | nil =>
    have hunseen : ∀ a : Activity, a.IsPreview = true → observers.entries a = [] := by
      intro a ha
      cases a with
      | machine e => simp [entries, h]
      | _ => cases ha
    rw [List.isEmpty_nil, Bool.not_true]
    induction done with
    | nil => rfl
    | cons a done ih =>
      cases hp : a.IsPreview with
      | false => rw [shown_cons_of_not_isPreview hp, log_cons, log_cons, ih]
      | true => rw [shown_cons_of_isPreview hp, log_cons, hunseen a hp, List.nil_append, ih]

lemma Observers.reply_under (observers : Observers ε) (o : Outcome (Machine δ) Answer) :
    observers.reply (o.under !observers.machine.isEmpty) = observers.reply o := by
  simp [reply, filterMap_device?_shown, Outcome.under, log_shown]

/-- What the host learns from a call: all but what the observers wrote. -/
def Reply.view (reply : Reply δ ε) : Except Fault Answer × Machine δ × List DeviceEvent :=
  (reply.answer, reply.machine, reply.deviceCalls)

/-- The call that is asked for, unless the host only attaches an observer. -/
def Request.call? : Request δ ε → Option (Call δ)
  | .call c => some c
  | .attach _ => none

/-- The calls among requests. -/
def calls (requests : List (Request δ ε)) : List (Call δ) := requests.filterMap Request.call?

/-! ### Requests -/

variable [Device δ]

/-- Does what is asked; the word that comes next is looked up only if someone is watching. -/
def Call.performUnder? (watched : Bool) (patience : Nat) :
    Call δ → Machine δ → Option (Outcome (Machine δ) Answer)
  | .step, m => some ((Machine.stepUnder watched m).map .status)
  | .runFor (some limit), m => some ((Machine.runForUnder watched limit m).map .stop)
  | .runFor none, m => (Machine.runToStopUnder? watched patience m).map (·.map .stop)
  | .run, m => (Machine.runToHaltUnder? watched patience m).map (·.map .exitCode)
  | call, m => call.perform? patience m

lemma Call.performUnder?_eq (watched : Bool) (patience : Nat) (call : Call δ) (m : Machine δ) :
    call.performUnder? watched patience m = (call.perform? patience m).map (·.under watched) := by
  cases call with
  | step =>
    rw [performUnder?, Machine.stepUnder_eq]
    rfl
  | runFor limit? =>
    cases limit? with
    | some limit =>
      rw [performUnder?, Machine.runForUnder_eq]
      rfl
    | none =>
      rw [performUnder?, Machine.runToStopUnder?_eq]
      simp [perform?, Function.comp_def]
  | run =>
    rw [performUnder?, Machine.runToHaltUnder?_eq]
    simp [perform?, Function.comp_def]
  | execute i field =>
    have h := Outcome.under_of_not_isPreview
      (fun a ha => ((i.logs_execute field).emits m a ha).isPreview_eq_false) watched
    simp [performUnder?, perform?, h]
  | load program =>
    have h := Outcome.under_of_not_isPreview (o := Machine.loadProgram program m)
      (by simp [Machine.loadProgram_apply]) watched
    simp [performUnder?, perform?, h]
  | reset =>
    have h := Outcome.under_of_not_isPreview (o := Machine.reset m)
      (by simp [Machine.reset_apply, Machine.resetActivity]) watched
    simp [performUnder?, perform?, h]
  | arrive input => rfl
  | assign change => rfl

namespace Observed

/-- Answers requests one after the other; the word that comes next is looked up only while an
observer of the machine is attached. -/
def serveSparing? (patience : Nat) :
    List (Request δ ε) → Observed (Machine δ) ε →
      Option (List (Reply δ ε) × Observed (Machine δ) ε) :=
  serveBy? fun observers call => call.performUnder? (!observers.machine.isEmpty) patience

/-- To look ahead for nobody changes nothing, neither for the host nor for the observers. -/
theorem serveSparing?_eq_serve? (patience : Nat) (requests : List (Request δ ε))
    (o : Observed (Machine δ) ε) :
    o.serveSparing? patience requests = o.serve? patience requests := by
  induction requests generalizing o with
  | nil => rfl
  | cons request requests ih =>
    cases request with
    | attach watch => exact ih _
    | call call =>
      simp only [serveSparing?, serve?] at ih ⊢
      simp only [serveBy?_call, Call.performUnder?_eq]
      cases call.perform? patience o.state with
      | none => rfl
      | some outcome => simp [ih, Observers.reply_under]

/-- What the host has learned in the end, and the machine as it then is. -/
def hostView (answered : Option (List (Reply δ ε) × Observed (Machine δ) ε)) :
    Option (List (Except Fault Answer × Machine δ × List DeviceEvent) × Machine δ) :=
  answered.map fun (replies, last) => (replies.map Reply.view, last.state)

omit [Device δ] in
lemma hostView_cons (reply : Reply δ ε)
    (answered : Option (List (Reply δ ε) × Observed (Machine δ) ε)) :
    hostView (answered.map fun (replies, last) => (reply :: replies, last)) =
      (hostView answered).map fun (views, last) => (reply.view :: views, last) := by
  cases answered <;> rfl

/-- The host learns what it would learn from the same calls if nobody were watching. -/
lemma hostView_serve? (patience : Nat) (requests : List (Request δ ε))
    (o : Observed (Machine δ) ε) :
    hostView (o.serve? patience requests) =
      hostView ((⟨o.state, {}⟩ : Observed (Machine δ) Empty).serve? patience
        ((calls requests).map .call)) := by
  induction requests generalizing o with
  | nil => rfl
  | cons request requests ih =>
    cases request with
    | attach watch =>
      have hrest := ih { o with observers := o.observers.attach watch }
      exact hrest
    | call call =>
      have hcalls : calls (.call call :: requests) = call :: calls requests := rfl
      simp only [serve?] at ih ⊢
      rw [hcalls, List.map_cons, serveBy?_call, serveBy?_call]
      cases call.perform? patience o.state with
      | none => rfl
      | some outcome =>
        have hrest := ih { o with state := outcome.state }
        rw [Option.bind_some, Option.bind_some, hostView_cons, hostView_cons, hrest]
        rfl

/-- Observers never feed back into what a machine does. Two hosts make the same calls to machines
that are alike, whatever observers are attached to them at first and whatever observers the hosts
attach between the calls. Then both get the same answers, and after every call the machines are
alike and their devices have been asked the same. -/
theorem hostView_eq_of_calls_eq (patience : Nat) {o₁ : Observed (Machine δ) ε₁}
    {o₂ : Observed (Machine δ) ε₂} {requests₁ : List (Request δ ε₁)}
    {requests₂ : List (Request δ ε₂)} (hstate : o₁.state = o₂.state)
    (hcalls : calls requests₁ = calls requests₂) :
    hostView (o₁.serveSparing? patience requests₁) =
      hostView (o₂.serveSparing? patience requests₂) := by
  rw [serveSparing?_eq_serve?, serveSparing?_eq_serve?, hostView_serve?,
    hostView_serve? _ requests₂, hstate, hcalls]

/-- The same two calls to a machine that nobody watches, and to one that is watched on two channels,
on one of them only from the second call on. -/
theorem hostView_eq_of_calls_eq_nop :
    hostView (serveSparing? 0 [.call (.load [0xFF000000]), .call .step]
        (⟨.new {}, {}⟩ : Observed (Machine Buffered) Empty)) =
      hostView (serveSparing? 0
        [.attach (.memory fun e => [.memory e]), .call (.load [0xFF000000]),
          .attach (.machine fun e => [.machine e]), .call .step]
        (⟨.new {}, {}⟩ : Observed (Machine Buffered) Activity)) :=
  hostView_eq_of_calls_eq 0 rfl rfl

end Observed

end LectureMachine
