import LectureMachine.CommandLine.Job
import LectureMachine.Proofs.Device.Terminal
import LectureMachine.Proofs.Machine.DeviceProtocol
import LectureMachine.Proofs.Machine.Onlookers
import LectureMachine.Proofs.Machine.Progress

/-!
# What a call of the program comes to

A call of the program is to write what a machine puts that is loaded and run through the library,
and to exit with what comes of that run. It does so unless the reader of log filters breaks down
over the filter that holds for the call, which is the only thing about tracing that makes a
difference. This is shown for every reader that reads filters directive by directive.
-/

namespace LectureMachine

open Machine CommandLine

/-! ### What a console writes -/

/-- The byte that is written. -/
def DeviceEvent.put? : DeviceEvent → Option Byte
  | .put b => some b
  | _ => none

namespace Console

/-- A terminal that can be written to gets all bytes that are put, one after the other. -/
lemma written_of_makes {c last : Console} {calls : List DeviceEvent}
    (hwrites : c.terminal.failsToWrite = false) (h : Device.Makes c calls last) :
    last.terminal.written = c.terminal.written ++ calls.filterMap DeviceEvent.put? := by
  induction calls generalizing c with
  | nil =>
    obtain rfl := h
    exact (List.append_nil _).symm
  | cons call calls ih =>
    cases call with
    | put b =>
      obtain ⟨hwritten, hwrites'⟩ := Terminal.written_write hwrites b
      have hlast := ih (c := Device.put b c) hwrites' h
      rw [hlast]
      simp only [Device.put, hwritten]
      simp [DeviceEvent.put?]
    | get b => exact ih (c := (Device.get c).2) hwrites h.2
    | poll ready =>
      obtain ⟨hwritten, hwrites'⟩ := c.written_poll
      rw [ih (hwrites'.trans hwrites) h.2, hwritten]
      rfl
    | reset => exact ih (c := Device.reset c) hwrites h

end Console

/-! ### What is promised -/

/-- What is seen of a call from outside: the bytes written and the exit code. -/
def Performance.seen (p : Performance) : List Byte × Byte := (p.written, p.report.exitCode)

namespace CommandLine

/-- The exit code for the answer of a run: that of the machine if it has halted, and 1 if there is a
fault, or the machine is blocked, or the limit is reached. -/
def exitCodeOf : Except Fault Answer → Byte
  | .ok (.stop (.halted code)) => code
  | _ => 1

/-- What a call is to write and to exit with: what a machine puts and what comes of it that has the
program in its memory and a console as its device and is run for as many steps as are allowed. If
the configuration or the image cannot be had, nothing is written and the exit code is 1. -/
def promised? (arguments : Arguments) (config image : Stored) (keys : List Byte) (patience : Nat) :
    Option (List Byte × Byte) :=
  match Config.load config, readImage image (if arguments.binary then .binary else .text) with
  | .ok config, .ok program =>
    let limit := arguments.maxSteps.or config.maxSteps
    let loaded := (loadProgram program (new ({ keyboard := { keys } } : Console))).state
    ((Call.runFor (limit.map (·.toNat))).perform? patience loaded).map fun outcome =>
      ((deviceCalls outcome.activity).filterMap DeviceEvent.put?, exitCodeOf outcome.result)
  | _, _ => some ([], 1)

end CommandLine

/-! ### Readers of log filters -/

/-- What the program relies on in a reader: it reads a filter directive by directive, and does not
break down over those for the channels. -/
structure FilterReader.ReadsEach (reader : FilterReader) : Prop where
  separates : ∀ filter directive : String,
    reader.breaksDown (filter ++ "," ++ directive)
      = (reader.breaksDown filter || reader.breaksDown directive)
  channels : ∀ directive ∈ TraceConfig.all.directives, reader.breaksDown directive = false

namespace FilterReader.ReadsEach

variable {reader : FilterReader} (each : reader.ReadsEach)

include each

lemma breaksDown_foldl {directives : List String}
    (h : ∀ directive ∈ directives, reader.breaksDown directive = false) (filter : String) :
    reader.breaksDown
        (directives.foldl (fun directives directive => directives ++ "," ++ directive) filter)
      = reader.breaksDown filter := by
  induction directives generalizing filter with
  | nil => rfl
  | cons directive directives ih =>
    rw [List.forall_mem_cons] at h
    rw [List.foldl_cons, ih h.2, each.separates, h.1, Bool.or_false]

/-- Tracing is no reason to break down. -/
lemma breaksDown_directives (config : Config) :
    reader.breaksDown config.directives = reader.breaksDown config.logFilter := by
  refine each.breaksDown_foldl (fun directive hdirective => each.channels directive ?_) _
  have hsublist : config.trace.directives.Sublist TraceConfig.all.directives :=
    (List.filter_sublist.map _)
  exact hsublist.subset hdirective

end FilterReader.ReadsEach

lemma Logging.breaksDown_directives {logging : Logging} (each : logging.reader.ReadsEach)
    (config : Config) :
    logging.breaksDown config.directives = logging.breaksDown config.logFilter := by
  simp only [Logging.breaksDown, each.breaksDown_directives]

/-- A file holds a configuration, and the program breaks down over its log filter. -/
def Stored.BreaksDown (logging : Logging) (config : Stored) : Prop :=
  ∃ c, Config.load config = .ok c ∧ logging.breaksDown c.logFilter = true

/-! ### What a call comes to -/

/-- A run that starts with an empty terminal writes what is put. -/
lemma written_of_perform? {keys : List Byte} {limit : Option Nat} {patience : Nat}
    {m : Machine Console} (hdevice : m.device = { keyboard := { keys } })
    {o : Outcome (Machine Console) Answer}
    (ho : (Call.runFor limit).perform? patience m = some o) :
    o.state.device.terminal.written = (deviceCalls o.activity).filterMap DeviceEvent.put? := by
  have hcall : (Call.runFor limit : Call Console).IsStepping := trivial
  obtain ⟨n, hstate, hcalls⟩ := takesSteps_of_perform? hcall ho
  have hmakes := m.makes_afterSteps n
  rw [hstate, hcalls, Console.written_of_makes (by rw [hdevice]) hmakes, hdevice]
  rfl

namespace Job

/-- A job is a run as the library has it, watched as the settings for tracing say. -/
lemma performUnder?_runFor (job : Job) (patience : Nat) :
    (Call.runFor job.limit).performUnder? job.watched patience job.machine
      = (job.run? patience).map (·.map .stop) := by
  rw [run?]
  cases job.limit <;> rfl

/-- Its report has the exit code of the answer. -/
lemma exitCode_ofOutcome (o : Outcome (Machine Console) Stop) :
    (Report.ofOutcome o).exitCode = exitCodeOf (o.map .stop).result := by
  rcases o with ⟨f | stop, m, done⟩
  · rfl
  · cases stop <;> rfl

/-- A job that starts with an empty terminal comes to what a run of the library comes to, whether it
is watched or not. -/
lemma seen_run? {job : Job} (keys : List Byte)
    (hdevice : job.machine.device = { keyboard := { keys } }) (patience : Nat) :
    (job.run? patience).map (fun o =>
        (o.state.device.terminal.written, (Report.ofOutcome o).exitCode)) =
      ((Call.runFor job.limit).perform? patience job.machine).map fun o =>
        ((deviceCalls o.activity).filterMap DeviceEvent.put?, exitCodeOf o.result) := by
  have hperform := job.performUnder?_runFor patience
  rw [Call.performUnder?_eq] at hperform
  cases hcall : (Call.runFor job.limit).perform? patience job.machine with
  | none =>
    rw [hcall] at hperform
    rw [Option.map_eq_none_iff.mp hperform.symm]
    rfl
  | some o =>
    rw [hcall, Option.map_some] at hperform
    obtain ⟨run, hrun, hsame⟩ := Option.map_eq_some_iff.mp hperform.symm
    have hstate : run.state = o.state := congrArg Outcome.state hsame
    have hresult : (run.map .stop).result = o.result := by
      rw [hsame, Outcome.result_under]
    rw [hrun, Option.map_some, Option.map_some, exitCode_ofOutcome, hresult, hstate,
      written_of_perform? hdevice hcall]

section Prepare

variable {logging : Logging} {arguments : Arguments} {config image : Stored} {console : Console}

lemma prepare_of_config_error {e : ConfigError} (h : Config.load config = .error e) :
    prepare logging arguments config image console =
      .error (.failure s!"loading {arguments.config}" (some e.message)) := by
  simp [prepare, h, bind, Except.bind, Except.mapError]

variable {c : Config} (hconfig : Config.load config = .ok c)

include hconfig

lemma prepare_of_breaksDown
    (h : logging.breaksDown (arguments.override c).directives = true) :
    prepare logging arguments config image console = .error .breakdown := by
  simp [prepare, hconfig, h, bind, Except.bind, Except.mapError, throw, throwThe,
    MonadExceptOf.throw]

variable (h : logging.breaksDown (arguments.override c).directives = false)

include h

lemma prepare_of_image_error {e : ImageError}
    (himage : readImage image (if arguments.binary then .binary else .text) = .error e) :
    prepare logging arguments config image console =
      .error (.failure s!"loading {arguments.image}" (some e.message)) := by
  simp [prepare, hconfig, h, himage, bind, Except.bind, Except.mapError]

lemma prepare_of_ok {program : List InstructionWord}
    (himage : readImage image (if arguments.binary then .binary else .text) = .ok program) :
    prepare logging arguments config image console =
      .ok {
        machine := (loadProgram program (new console)).state
        limit := (arguments.maxSteps.or c.maxSteps).map (·.toNat)
        observers := (if arguments.trace then TraceConfig.all else c.trace).observers
        loading := (loadProgram program (new console)).activity } := by
  simp [prepare, hconfig, h, himage, bind, Except.bind, Except.mapError, pure, Except.pure]
  exact ⟨rfl, rfl⟩

end Prepare

end Job

lemma Stored.breaksDown_iff {logging : Logging} {config : Stored} {c : Config}
    (h : Config.load config = .ok c) :
    config.BreaksDown logging ↔ logging.breaksDown c.logFilter = true := by
  refine ⟨?_, fun hbreaks => ⟨c, h, hbreaks⟩⟩
  rintro ⟨c', h', hbreaks⟩
  obtain rfl : c = c' := Except.ok.inj (h.symm.trans h')
  exact hbreaks

section Perform

variable {logging : Logging} (each : logging.reader.ReadsEach) {arguments : Arguments}
  {directory : String → Stored} {keys : List Byte} {patience : Nat}

include each

/-- If the reader breaks down, that is all. -/
lemma performWith?_of_breaksDown (h : (directory arguments.config).BreaksDown logging) :
    performWith? logging arguments directory keys patience
      = some { written := [], report := .breakdown } := by
  obtain ⟨c, hconfig, hbreaks⟩ := h
  have hdirectives : logging.breaksDown (arguments.override c).directives = true :=
    (Logging.breaksDown_directives each _).trans hbreaks
  rw [performWith?, Job.prepare_of_breaksDown hconfig hdirectives]

/-- If it does not break down, a call comes to what is promised. -/
lemma seen_performWith?_of_not_breaksDown
    (h : ¬ (directory arguments.config).BreaksDown logging) :
    (performWith? logging arguments directory keys patience).map Performance.seen
      = promised? arguments (directory arguments.config) (directory arguments.image) keys
          patience := by
  rw [performWith?, promised?]
  cases hconfig : Config.load (directory arguments.config) with
  | error e =>
    rw [Job.prepare_of_config_error hconfig]
    rfl
  | ok c =>
    rw [Stored.breaksDown_iff hconfig, Bool.not_eq_true] at h
    have hdirectives : logging.breaksDown (arguments.override c).directives = false :=
      (Logging.breaksDown_directives each _).trans h
    cases himage : readImage (directory arguments.image)
        (if arguments.binary then .binary else .text) with
    | error e =>
      rw [Job.prepare_of_image_error hconfig hdirectives himage]
      rfl
    | ok program =>
      rw [Job.prepare_of_ok hconfig hdirectives himage]
      simp only [Option.map_map]
      exact Job.seen_run? keys rfl patience

end Perform

variable {arguments : Arguments} {keys : List Byte} {patience : Nat}

/-- Of all that is in a configuration, only the limit matters to what is promised, and that only if
none is given on the command line. -/
lemma promised?_congr {config config' image : Stored} {c c' : Config}
    (h : Config.load config = .ok c) (h' : Config.load config' = .ok c')
    (hlimit : arguments.maxSteps.or c.maxSteps = arguments.maxSteps.or c'.maxSteps) {trace : Bool}
    {name : String} :
    promised? { arguments with trace, config := name } config' image keys patience
      = promised? arguments config image keys patience := by
  rw [promised?, promised?, h, h']
  cases readImage image (if arguments.binary then .binary else .text) with
  | error e => rfl
  | ok program => simp only [hlimit]

/-- A call comes to what is promised just if the reader does not break down over the log filter that
holds for it -- or if the call is promised to exit with 101 and to write nothing, which is what a
breakdown comes to. The settings for tracing make no difference between two calls, nor do the log
filters unless the reader breaks down over one of them alone. -/
theorem performance_promised_iff (logging : Logging) (each : logging.reader.ReadsEach)
    (arguments : Arguments) (directory : String → Stored) (keys : List Byte) (patience : Nat) :
    ((performWith? logging arguments directory keys patience).map Performance.seen
          = promised? arguments (directory arguments.config) (directory arguments.image) keys
              patience ↔
        ¬ (directory arguments.config).BreaksDown logging ∨
          promised? arguments (directory arguments.config) (directory arguments.image) keys patience
            = some ([], 101)) ∧
      ((directory arguments.config).BreaksDown logging →
        performWith? logging arguments directory keys patience
          = some { written := [], report := .breakdown }) ∧
      ∀ {logging' : Logging} {trace : Bool} {config : String} {directory' : String → Stored}
          {c c' : Config},
        logging'.reader.ReadsEach →
        directory' arguments.image = directory arguments.image →
        Config.load (directory arguments.config) = .ok c →
        Config.load (directory' config) = .ok c' →
        logging.breaksDown c.logFilter = logging'.breaksDown c'.logFilter →
        arguments.maxSteps.or c.maxSteps = arguments.maxSteps.or c'.maxSteps →
        (performWith? logging' { arguments with trace, config } directory' keys patience).map
            Performance.seen
          = (performWith? logging arguments directory keys patience).map Performance.seen := by
  have hbroken := @performWith?_of_breaksDown logging each arguments directory keys patience
  have hsound := @seen_performWith?_of_not_breaksDown logging each arguments directory keys patience
  refine ⟨⟨fun h => ?_, ?_⟩, hbroken, ?_⟩
  · by_cases hbreaks : (directory arguments.config).BreaksDown logging
    · rw [hbroken hbreaks] at h
      exact .inr h.symm
    · exact .inl hbreaks
  · rintro (hbreaks | hpromised)
    · exact hsound hbreaks
    · by_cases hbreaks : (directory arguments.config).BreaksDown logging
      · rw [hbroken hbreaks, hpromised]
        rfl
      · exact hsound hbreaks
  · intro logging' trace config directory' c c' each' himage hconfig hconfig' hfilter hlimit
    have hsame : (directory' config).BreaksDown logging' ↔
        (directory arguments.config).BreaksDown logging := by
      rw [Stored.breaksDown_iff hconfig, Stored.breaksDown_iff hconfig', hfilter]
    by_cases hbreaks : (directory arguments.config).BreaksDown logging
    · rw [hbroken hbreaks, performWith?_of_breaksDown each' (hsame.mpr hbreaks)]
    · rw [hsound hbreaks, seen_performWith?_of_not_breaksDown each' (mt hsame.mp hbreaks), himage]
      exact promised?_congr hconfig hconfig' hlimit

/-! ### A configuration to break down over -/

/-- A program that writes an A and halts with 7. -/
def putAndHalt : List InstructionWord := [0x69410000, 0x09070000]

lemma runFor_putAndHalt (console : Console) :
    ∃ last done, runFor 2 (loadProgram putAndHalt (new console)).state
        = ⟨.ok (.halted 7), last, done⟩ ∧
      deviceCalls done = [.put 0x41] := by
  have hputc : Instruction.ofOpcode? (InstructionWord.opcode 0x69410000)
      = some (.putc .immediate) := by
    rw [Instruction.ofOpcode?_eq_lookup]
    decide
  have hhalt : Instruction.ofOpcode? (InstructionWord.opcode 0x09070000)
      = some (.halt .immediate) := by
    rw [Instruction.ofOpcode?_eq_lookup]
    decide
  have hstart := atWord_loadProgram putAndHalt console
  have hfirst := hstart.nextWord rfl (by decide)
  obtain ⟨hr, hstate⟩ := step_of_plain rfl rfl rfl hfirst hputc rfl ⟨rfl, rfl, rfl⟩
  obtain ⟨-, hnext⟩ := hstart.goesOn_succ rfl (by decide) hputc rfl ⟨rfl, rfl, rfl⟩ rfl
  have hsecond := hnext.nextWord rfl (by decide)
  obtain ⟨hr', hstate'⟩ := step_of_halt hnext.halted hsecond hhalt
  rw [runFor_succ_eq, hr, hstate]
  simp only [runFor_succ_eq, hr', hstate', Outcome.after_mk]
  refine ⟨_, _, rfl, ?_⟩
  have hcalls := (nextCalls_of_nextWord hstart.halted hfirst hputc).1
  have hcalls' := (nextCalls_of_nextWord hnext.halted hsecond hhalt).1
  rw [nextCalls] at hcalls hcalls'
  rw [deviceCalls_append, hcalls, hcalls']
  rfl

/-- The text `(log_filter: " é=info")`. Without the blank before it the mark of the directive is at
the offset 2, which in the text with the blank is inside the letter. -/
def brittle : List Byte :=
  [ 0x28, 0x6C, 0x6F, 0x67, 0x5F, 0x66, 0x69, 0x6C, 0x74, 0x65, 0x72, 0x3A, 0x20, 0x22, 0x20, 0xC3,
    0xA9, 0x3D, 0x69, 0x6E, 0x66, 0x6F, 0x22, 0x29 ]

lemma load_brittle : Config.load (.file brittle) = .ok { logFilter := " é=info" } := by
  have htext : (Stored.file brittle).text? = some "(log_filter: \" é=info\")" := by decide +kernel
  have hconfig : Config.ofRon? "(log_filter: \" é=info\")" = some { logFilter := " é=info" } := by
    decide +kernel
  simp [Config.load, htext, hconfig]

/-- A directory with that configuration and an image of the program, as text. -/
def brittleDirectory (path : String) : Stored :=
  if path = "ulm.ron" then .file brittle
  else if path = "prog.img" then
    .file [0x36, 0x39, 0x34, 0x31, 0x30, 0x30, 0x30, 0x30, newline,
      0x30, 0x39, 0x30, 0x37, 0x30, 0x30, 0x30, 0x30, newline]
  else .missing

lemma readImage_brittleDirectory :
    readImage (brittleDirectory "prog.img") .text = .ok putAndHalt := by
  have hread : (readImage (brittleDirectory "prog.img") .text).toOption = some putAndHalt := by
    decide +kernel
  cases h : readImage (brittleDirectory "prog.img") .text with
  | error e =>
    rw [h] at hread
    cases hread
  | ok program =>
    rw [h] at hread
    exact congrArg Except.ok (Option.some.inj hread)

/-- The call is promised to write an A and to exit with 7. -/
lemma promised?_brittleDirectory :
    promised? { image := "prog.img" } (brittleDirectory "ulm.ron") (brittleDirectory "prog.img") []
      2 = some ([0x41], 7) := by
  have hconfig : Config.load (brittleDirectory "ulm.ron") = .ok { logFilter := " é=info" } :=
    load_brittle
  obtain ⟨last, done, hrun, hcalls⟩ := runFor_putAndHalt { keyboard := { keys := [] } }
  have hstop := runToStop?_of_ne_stepLimit (m := (loadProgram putAndHalt (new
    ({ keyboard := { keys := [] } } : Console))).state) (n := 2) (by rw [hrun]; nofun)
  rw [hrun] at hstop
  rw [promised?, hconfig]
  simp only [Bool.false_eq_true, if_false, readImage_brittleDirectory]
  rw [Option.or_none, Option.map_none, Call.perform?, hstop]
  simp only [Option.map_some, Outcome.map, hcalls]
  rfl

/-- The reader at hand reads filters directive by directive. -/
lemma LogFilter.readsEach_reader : LogFilter.reader.ReadsEach where
  separates filter directive := by
    have hparts : (filter ++ "," ++ directive).toList.splitOn ',' =
        filter.toList.splitOn ',' ++ directive.toList.splitOn ',' := by
      rw [String.toList_append, String.toList_append, List.append_assoc]
      exact List.splitOn_append_cons_self _ _
    simp only [reader, breaksDown, hparts, List.any_append]
  channels := by decide +kernel

/-- The environment names a filter, so that the log filter of the configuration is not read: the
call comes to what is promised, and does so with everything traced. -/
theorem performance_promised_sheltered :
    LogFilter.reader.ReadsEach ∧
      (performWith? { reader := LogFilter.reader, environment := some "info" }
          { image := "prog.img" } brittleDirectory [] 2).map Performance.seen
        = some ([0x41], 7) ∧
      (performWith? { reader := LogFilter.reader, environment := some "info" }
          { image := "prog.img", trace := true } brittleDirectory [] 2).map Performance.seen
        = some ([0x41], 7) := by
  have htaken : LogFilter.reader.readStrictly "info" = .taken := by decide +kernel
  have hsound : ¬ (brittleDirectory "ulm.ron").BreaksDown
      { reader := LogFilter.reader, environment := some "info" } := by
    rintro ⟨c, -, hbreaks⟩
    simp [Logging.breaksDown, htaken] at hbreaks
  obtain ⟨hiff, -, hsame⟩ := performance_promised_iff
    { reader := LogFilter.reader, environment := some "info" } LogFilter.readsEach_reader
    { image := "prog.img" } brittleDirectory [] 2
  have hseen := (hiff.mpr (.inl hsound)).trans promised?_brittleDirectory
  refine ⟨LogFilter.readsEach_reader, hseen, ?_⟩
  rw [← hseen]
  exact hsame LogFilter.readsEach_reader rfl load_brittle load_brittle rfl rfl

/-- Without a filter in the environment the call breaks down. -/
theorem performance_not_promised_brittle :
    promised? { image := "prog.img" } (brittleDirectory "ulm.ron") (brittleDirectory "prog.img") []
        2 = some ([0x41], 7) ∧
      (perform? { image := "prog.img" } brittleDirectory [] 2).map Performance.seen
        = some ([], 101) := by
  have hfatal : LogFilter.breaksDown " é=info" = true := by decide +kernel
  have hbreaks : (brittleDirectory "ulm.ron").BreaksDown { reader := LogFilter.reader } :=
    ⟨_, load_brittle, hfatal⟩
  refine ⟨promised?_brittleDirectory, ?_⟩
  rw [perform?, performWith?_of_breaksDown LogFilter.readsEach_reader hbreaks]
  rfl

end LectureMachine
