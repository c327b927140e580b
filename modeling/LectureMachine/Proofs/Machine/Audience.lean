import LectureMachine.Proofs.Alu.ZeroRegister
import LectureMachine.Proofs.Machine.Calls

/-!
# Audiences

The observers of a channel form an audience, in the order in which they were attached. Whatever a
machine does is told to the audience of its channel, to one observer after the other, before
anything else is told to any of them. So all observers that were there from the start have heard the
same in the end. A reset is told to everybody, channel by channel.
-/

namespace LectureMachine

variable {δ κ : Type}

/-! ### Channels -/

/-- The channels on which a host can attach observers. -/
inductive Channel
  | registers
  | memory
  | machine
  deriving DecidableEq, Repr

/-- The channel that something is told on. A host cannot listen to what the device is asked. -/
def Activity.channel? : Activity → Option Channel
  | .register _ => some .registers
  | .memory _ => some .memory
  | .device _ => none
  | .machine _ => some .machine

/-- Something that an observer is told; observers are known by names. -/
structure Delivery (κ : Type) where
  observer : κ
  event : Activity
  deriving DecidableEq

/-- An observer that writes down, under its name, all that it is told. -/
def Watch.recorder (name : κ) : Channel → Watch (Delivery κ)
  | .registers => .registers fun e => [⟨name, .register e⟩]
  | .memory => .memory fun e => [⟨name, .memory e⟩]
  | .machine => .machine fun e => [⟨name, .machine e⟩]

/-! ### Rosters -/

/-- The names of the observers of every channel, in the order in which they were attached. -/
abbrev Roster (κ : Type) := Channel → List κ

namespace Roster

/-- The observers that bear the names. -/
def observers (roster : Roster κ) : Observers (Delivery κ) where
  registers := (roster .registers).map fun name e => [⟨name, .register e⟩]
  memory := (roster .memory).map fun name e => [⟨name, .memory e⟩]
  machine := (roster .machine).map fun name e => [⟨name, .machine e⟩]

/-- The roster with one more observer. -/
def enter (roster : Roster κ) (name : κ) (channel : Channel) : Roster κ :=
  Function.update roster channel (roster channel ++ [name])

/-- To each observer of a channel, one after the other, the same is told. -/
def tell (roster : Roster κ) (channel : Channel) (a : Activity) : List (Delivery κ) :=
  (roster channel).map (⟨·, a⟩)

lemma observers_enter (roster : Roster κ) (name : κ) (channel : Channel) :
    (roster.enter name channel).observers = roster.observers.attach (.recorder name channel) := by
  cases channel <;>
    simp [enter, observers, Observers.attach, Watch.recorder, Observers.addRegisters,
      Observers.addMemory, Observers.addMachine]

lemma entries_observers (roster : Roster κ) (a : Activity) :
    roster.observers.entries a = (a.channel?.map (roster.tell · a)).getD [] := by
  cases a <;>
    simp [Observers.entries, observers, Activity.channel?, tell, List.flatMap_map,
      ← List.map_eq_flatMap]

/-- What is heard on a channel while all this is done, one thing after the other. -/
lemma filter_log_observers (roster : Roster κ) (channel : Channel) (done : List Activity) :
    (roster.observers.log done).filter (·.event.channel? = some channel) =
      (done.filter (·.channel? = some channel)).flatMap (roster.tell channel) := by
  induction done with
  | nil => rfl
  | cons a done ih =>
    rw [Observers.log_cons, List.filter_append, ih, entries_observers]
    by_cases h : a.channel? = some channel
    · simp [h, tell]
    · cases hother : a.channel? with
      | none => simp [hother]
      | some other =>
        rw [hother] at h
        simp [hother, tell, h]

variable [DecidableEq κ]

/-- What the observer with the given name has heard on a channel. -/
def heard (name : κ) (channel : Channel) (log : List (Delivery κ)) : List Activity :=
  (log.filter fun d => d.event.channel? = some channel ∧ d.observer = name).map (·.event)

lemma heard_append (name : κ) (channel : Channel) (log more : List (Delivery κ)) :
    heard name channel (log ++ more) = heard name channel log ++ heard name channel more := by
  simp [heard]

/-- An observer whose name is its own hears everything once. -/
lemma heard_log {roster : Roster κ} {channel : Channel} (hnodup : (roster channel).Nodup) {name : κ}
    (hname : name ∈ roster channel) (done : List Activity) :
    heard name channel (roster.observers.log done) = done.filter (·.channel? = some channel) := by
  have hone (a : Activity) : (roster.tell channel a).filter (·.observer = name) = [⟨name, a⟩] := by
    rw [tell, List.filter_map]
    simp [Function.comp_def, List.filter_eq, List.count_eq_one_of_mem hnodup hname]
  have hfilter (log : List (Delivery κ)) :
      log.filter (fun d => d.event.channel? = some channel ∧ d.observer = name) =
        (log.filter (·.event.channel? = some channel)).filter (·.observer = name) := by
    simp [List.filter_filter, and_comm]
  rw [heard, hfilter, filter_log_observers, List.filter_flatMap, List.map_flatMap]
  simp only [hone, List.map_singleton, List.flatMap_singleton']

end Roster

/-! ### Orders -/

/-- What a host can ask of a machine, of its arithmetic unit and of its memory, and observers that
it attaches meanwhile. -/
inductive Order (δ κ : Type)
  | call (call : Call δ)
  | alu (request : AluRequest)
  | memory (request : MemoryRequest)
  | attach (name : κ) (channel : Channel)

namespace Order

/-- The observers after an order. -/
def attached (observers : Observers (Delivery κ)) : Order δ κ → Observers (Delivery κ)
  | attach name channel => observers.attach (.recorder name channel)
  | _ => observers

/-- The roster after an order. -/
def entered (roster : Roster κ) : Order δ κ → Roster κ
  | attach name channel => roster.enter name channel
  | _ => roster

/-- The order is not a run without a limit. -/
def IsLimited : Order δ κ → Prop
  | call c => c.IsLimited
  | _ => True

/-- Does what is asked. A run without a limit is given up after `patience` steps. -/
def perform? [Device δ] (patience : Nat) :
    Order δ κ → Machine δ → Option (Outcome (Machine δ) Unit)
  | call c, m => (c.perform? patience m).map (·.map fun _ => ())
  | alu request, m => some ((Machine.onAlu request.perform m).map fun _ => ())
  | memory request, m => some ((Machine.onMemory request.perform m).map fun _ => ())
  | attach .., m => some ⟨.ok (), m, []⟩

lemma isSome_perform? [Device δ] {order : Order δ κ} (h : order.IsLimited) (patience : Nat)
    (m : Machine δ) : (order.perform? patience m).isSome := by
  cases order with
  | call c =>
    rw [perform?, Option.isSome_map]
    exact Call.isSome_perform? h patience m
  | alu request | memory request | attach name channel => rfl

lemma observers_entered (roster : Roster κ) (order : Order δ κ) :
    (order.entered roster).observers = order.attached roster.observers := by
  cases order with
  | attach name channel => exact roster.observers_enter name channel
  | call c | alu request | memory request => rfl

/-- Whoever is on the roster stays on it, in the same place. -/
lemma prefix_entered (roster : Roster κ) (order : Order δ κ) (channel : Channel) :
    roster channel <+: order.entered roster channel := by
  cases order with
  | attach name other =>
    by_cases h : channel = other
    · subst h
      rw [entered, Roster.enter, Function.update_self]
      exact List.prefix_append _ _
    · rw [entered, Roster.enter, Function.update_of_ne h]
  | call c | alu request | memory request => exact List.prefix_rfl

end Order

/-- The roster after orders. -/
def Roster.after (roster : Roster κ) (orders : List (Order δ κ)) : Roster κ :=
  orders.foldl Order.entered roster

lemma Roster.prefix_after (roster : Roster κ) (orders : List (Order δ κ)) (channel : Channel) :
    roster channel <+: roster.after orders channel := by
  induction orders generalizing roster with
  | nil => exact List.prefix_rfl
  | cons order orders ih => exact (order.prefix_entered roster channel).trans (ih _)

namespace Observed

/-- Carries out orders, one after the other, and gives what is told during each of them; nothing if
one of them never returns. -/
def obey? [Device δ] (patience : Nat) :
    List (Order δ κ) → Observed (Machine δ) (Delivery κ) →
      Option (List (List (Delivery κ)) × Observed (Machine δ) (Delivery κ))
  | [], o => some ([], o)
  | order :: orders, o => do
    let outcome ← order.perform? patience o.state
    let (logs, last) ← obey? patience orders ⟨outcome.state, order.attached o.observers⟩
    return (o.observers.log outcome.activity :: logs, last)

variable [Device δ] {patience : Nat} {orders : List (Order δ κ)} {order : Order δ κ} {m : Machine δ}
  {roster : Roster κ} {o last : Observed (Machine δ) (Delivery κ)} {logs : List (List (Delivery κ))}

lemma obey?_cons_eq_some_iff :
    o.obey? patience (order :: orders) = some (logs, last) ↔
      ∃ outcome rest, order.perform? patience o.state = some outcome ∧
        obey? patience orders ⟨outcome.state, order.attached o.observers⟩ = some (rest, last) ∧
        logs = o.observers.log outcome.activity :: rest := by
  simp only [obey?, Option.bind_eq_bind, Option.bind_eq_some_iff, Option.pure_def, Prod.exists,
    Option.some.injEq, Prod.mk.injEq]
  constructor
  · rintro ⟨outcome, houtcome, rest, _, hrest, rfl, rfl⟩
    exact ⟨outcome, rest, houtcome, hrest, rfl⟩
  · rintro ⟨outcome, rest, houtcome, hrest, rfl⟩
    exact ⟨outcome, houtcome, rest, last, hrest, rfl, rfl⟩

lemma isSome_obey? (h : ∀ order ∈ orders, order.IsLimited)
    (o : Observed (Machine δ) (Delivery κ)) : (o.obey? patience orders).isSome := by
  induction orders generalizing o with
  | nil => rfl
  | cons order orders ih =>
    rw [List.forall_mem_cons] at h
    obtain ⟨outcome, houtcome⟩ :=
      Option.isSome_iff_exists.mp (Order.isSome_perform? h.1 patience o.state)
    obtain ⟨⟨rest, last⟩, hrest⟩ :=
      Option.isSome_iff_exists.mp (ih h.2 ⟨outcome.state, order.attached o.observers⟩)
    rw [obey?_cons_eq_some_iff.mpr ⟨outcome, rest, houtcome, hrest, rfl⟩]
    rfl

lemma length_of_obey? (h : o.obey? patience orders = some (logs, last)) :
    logs.length = orders.length := by
  induction orders generalizing o logs with
  | nil =>
    obtain ⟨rfl, -⟩ := Prod.mk.inj (Option.some.inj h)
    rfl
  | cons order orders ih =>
    obtain ⟨outcome, rest, -, hrest, rfl⟩ := obey?_cons_eq_some_iff.mp h
    rw [List.length_cons, List.length_cons, ih hrest]

/-- What is told during an order is what the machine does, told to those who are there by then. -/
lemma exists_told (h : obey? patience orders ⟨m, roster.observers⟩ = some (logs, last)) {k : Nat}
    (hk : k < logs.length) :
    ∃ m' outcome order, orders[k]? = some order ∧ order.perform? patience m' = some outcome ∧
      logs[k] = (roster.after (orders.take k)).observers.log outcome.activity := by
  induction orders generalizing m roster logs k with
  | nil =>
    obtain ⟨rfl, -⟩ := Prod.mk.inj (Option.some.inj h)
    cases hk
  | cons order orders ih =>
    obtain ⟨outcome, rest, houtcome, hrest, rfl⟩ := obey?_cons_eq_some_iff.mp h
    cases k with
    | zero => exact ⟨m, outcome, order, rfl, houtcome, rfl⟩
    | succ k =>
      rw [← Order.observers_entered] at hrest
      exact ih hrest (Nat.lt_of_succ_lt_succ hk)

/-- Observers of a channel whose names are their own have heard the same in the end. -/
lemma heard_flatten_eq [DecidableEq κ] {channel : Channel} {name name' : κ}
    (h : obey? patience orders ⟨m, roster.observers⟩ = some (logs, last))
    (hnodup : (roster.after orders channel).Nodup) (hname : name ∈ roster channel)
    (hname' : name' ∈ roster channel) :
    Roster.heard name channel logs.flatten = Roster.heard name' channel logs.flatten := by
  induction orders generalizing m roster logs with
  | nil =>
    obtain ⟨rfl, -⟩ := Prod.mk.inj (Option.some.inj h)
    rfl
  | cons order orders ih =>
    obtain ⟨outcome, rest, -, hrest, rfl⟩ := obey?_cons_eq_some_iff.mp h
    rw [← Order.observers_entered] at hrest
    have hnow : (roster channel).Nodup :=
      hnodup.sublist (roster.prefix_after (order :: orders) channel).sublist
    have hstay := (order.prefix_entered roster channel).subset
    rw [List.flatten_cons, Roster.heard_append, Roster.heard_append, Roster.heard_log hnow hname,
      Roster.heard_log hnow hname', ih hrest hnodup (hstay hname) (hstay hname')]

lemma log_resetActivity (roster : Roster κ) :
    roster.observers.log Machine.resetActivity =
      roster.tell .registers (.register .reset) ++ roster.tell .memory (.memory .reset) ++
        roster.tell .machine (.machine .reset) := by
  simp [Machine.resetActivity, Observers.log_cons, Roster.entries_observers, Activity.channel?]

/-- What is told on a channel while an order is carried out comes in groups: one thing after the
other is told to everybody who is there by then, in the order in which they were attached. Hence
those who were there before the first order have heard the same after the last one, if names are
used once. When the machine is reset, everybody is told so once, the observers of the registers
first, then those of the memory, then those of the machine. -/
theorem heard_alike [DecidableEq κ] (patience : Nat) (m : Machine δ) (roster : Roster κ)
    (orders : List (Order δ κ)) :
    let obeyed := obey? patience orders ⟨m, roster.observers⟩
    ((∀ order ∈ orders, order.IsLimited) → obeyed.isSome) ∧
    ∀ logs last, obeyed = some (logs, last) →
      logs.length = orders.length ∧
      (∀ (k : Nat) (hk : k < logs.length), ∃ done : List Activity, ∀ channel,
        logs[k].filter (·.event.channel? = some channel) =
          (done.filter (·.channel? = some channel)).flatMap fun a =>
            (roster.after (orders.take k) channel).map (⟨·, a⟩)) ∧
      (∀ channel name name', (roster.after orders channel).Nodup → name ∈ roster channel →
        name' ∈ roster channel →
          Roster.heard name channel logs.flatten = Roster.heard name' channel logs.flatten) ∧
      ∀ (k : Nat) (hk : k < logs.length), orders[k]? = some (.call .reset) →
        let there := roster.after (orders.take k)
        logs[k] = (there .registers).map (⟨·, .register .reset⟩) ++
          (there .memory).map (⟨·, .memory .reset⟩) ++
            (there .machine).map (⟨·, .machine .reset⟩) := by
  intro obeyed
  refine ⟨fun hlimited => isSome_obey? hlimited _, fun logs last h =>
    ⟨length_of_obey? h, fun k hk => ?groups, fun channel name name' hnodup hname hname' =>
      heard_flatten_eq h hnodup hname hname', fun k hk hreset => ?reset⟩⟩
  case groups =>
    obtain ⟨_, outcome, _, -, -, hlog⟩ := exists_told h hk
    refine ⟨outcome.activity, fun channel => ?_⟩
    rw [hlog, Roster.filter_log_observers]
    rfl
  case reset =>
    obtain ⟨m', outcome, order, horder, houtcome, hlog⟩ := exists_told h hk
    obtain rfl : order = .call .reset := Option.some.inj (horder.symm.trans hreset)
    rw [Order.perform?, Call.perform?, Machine.reset_apply] at houtcome
    obtain rfl := Option.some.inj houtcome
    exact hlog.trans (log_resetActivity _)

/-- Two observers of the registers and one of the memory. -/
def threeObservers : Roster Nat
  | .registers => [0, 1]
  | .memory => [2]
  | .machine => []

/-- A number is loaded into a register, one more observer comes, and the machine is reset. -/
def loadAndReset : List (Order Buffered Nat) :=
  [.call (.load [0x56002A01]), .call .step, .attach 3 .machine, .call .reset]

theorem heard_alike_loadAndReset :
    ∃ logs last,
      obey? 0 loadAndReset ⟨.new {}, threeObservers.observers⟩ = some (logs, last) ∧
      Roster.heard 0 .registers logs.flatten = Roster.heard 1 .registers logs.flatten ∧
      ∃ h : 3 < logs.length, logs[3] =
        [⟨0, .register .reset⟩, ⟨1, .register .reset⟩, ⟨2, .memory .reset⟩,
          ⟨3, .machine .reset⟩] := by
  have hlimited : ∀ order ∈ loadAndReset, order.IsLimited := by
    simp [loadAndReset, Order.IsLimited, Call.IsLimited]
  obtain ⟨hsome, hobeyed⟩ := heard_alike 0 (.new {}) threeObservers loadAndReset
  obtain ⟨⟨logs, last⟩, h⟩ := Option.isSome_iff_exists.mp (hsome hlimited)
  obtain ⟨hlength, -, halike, hreset⟩ := hobeyed logs last h
  have hlt : 3 < logs.length := hlength ▸ (by decide : 3 < loadAndReset.length)
  exact ⟨logs, last, h, halike .registers 0 1 (by decide) (by decide) (by decide), hlt,
    hreset 3 hlt rfl⟩

end Observed

end LectureMachine
