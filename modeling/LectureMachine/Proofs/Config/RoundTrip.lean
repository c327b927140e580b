import Mathlib.Data.List.Nodup
import LectureMachine.Config.Ron
import LectureMachine.Proofs.Ron.Document

/-!
# Configurations written and read

A structure lists a configuration if it has some of its settings as fields, in any order, and all
that differ from the defaults. However such a structure is spelled, the configuration is read from
it. A configuration is written as a structure that lists all of its settings.
-/

namespace LectureMachine

open Ron
open TextImage (exists_related value?_eq_some_iff_of_base)

/-! ### Listed settings -/

namespace Ron

/-- A setting as it is found in a structure. -/
structure Setting where
  field : String
  /-- The value shows the setting. -/
  Shows : Value → Prop
  /-- The setting is the default. -/
  IsDefault : Prop

variable {α : Type} {field structName : String} {fields : List (Name × Value)} {e : Extensions}
  {settings : List Setting} {s : Setting} {v : Value}

/-- The fields show settings, each of them once, and all that are not the default. -/
structure Lists (settings : List Setting) (fields : List (Name × Value)) : Prop where
  distinct : (fields.map (·.1.text)).Nodup
  shown : ∀ f ∈ fields, ∃ s ∈ settings, f.1.text = s.field.toList ∧ s.Shows f.2
  complete : ∀ s ∈ settings, s.IsDefault ∨ ∃ f ∈ fields, f.1.text = s.field.toList

/-- The value is a structure that has the given name, or none, and that lists the settings. -/
inductive IsListing (e : Extensions) (structName : String) (settings : List Setting) : Value → Prop
  | named {fields : List (Name × Value)} (h : Lists settings fields) :
      IsListing e structName settings (.struct (some ⟨structName.toList, false⟩) fields)
  | unnamed {fields : List (Name × Value)} (he : e.explicitStructNames = false)
      (h : Lists settings fields) : IsListing e structName settings (.struct none fields)

lemma valuesOf_cons (f : Name × Value) (fields : List (Name × Value)) :
    valuesOf field (f :: fields) =
      if f.1.text = field.toList then f.2 :: valuesOf field fields else valuesOf field fields := by
  split_ifs with h <;> simp [valuesOf, h]

lemma valuesOf_eq_nil (h : ∀ f ∈ fields, f.1.text ≠ field.toList) : valuesOf field fields = [] :=
  List.filterMap_eq_nil_iff.mpr fun f hf => if_neg (h f hf)

lemma valuesOf_eq_singleton {f : Name × Value} (h : (fields.map (·.1.text)).Nodup)
    (hf : f ∈ fields) (hname : f.1.text = field.toList) : valuesOf field fields = [f.2] := by
  induction fields with
  | nil => cases hf
  | cons g fields ih =>
    rw [List.map_cons, List.nodup_cons] at h
    rcases List.mem_cons.mp hf with rfl | hf
    · have hrest : valuesOf field fields = [] := valuesOf_eq_nil fun g hg hname' =>
        h.1 (List.mem_map.mpr ⟨g, hg, hname'.trans hname.symm⟩)
      rw [valuesOf_cons, if_pos hname, hrest]
    · have hne : g.1.text ≠ field.toList := fun hg =>
        h.1 (List.mem_map.mpr ⟨f, hf, hname.trans hg.symm⟩)
      rw [valuesOf_cons, if_neg hne, ih h.2 hf]

/-- A listed setting is found, and one that is left out is the default. -/
lemma Lists.setting_eq {read : Value → Option α} {default value : α} (h : Lists settings fields)
    (hdistinct : (settings.map (·.field)).Nodup) (hs : s ∈ settings)
    (hread : ∀ v, s.Shows v → read v = some value) (hdefault : s.IsDefault → default = value) :
    setting s.field read default fields = some value := by
  by_cases hfield : ∃ f ∈ fields, f.1.text = s.field.toList
  · obtain ⟨f, hf, hname⟩ := hfield
    obtain ⟨s', hs', hname', hshows⟩ := h.shown f hf
    have hsame : s'.field = s.field := String.toList_inj.mp (hname'.symm.trans hname)
    obtain rfl : s' = s := List.inj_on_of_nodup_map hdistinct hs' hs hsame
    rw [setting, valuesOf_eq_singleton h.distinct hf hname]
    exact hread _ hshows
  · have hleft := (h.complete s hs).resolve_right hfield
    rw [setting, valuesOf_eq_nil fun f hf hname => hfield ⟨f, hf, hname⟩]
    exact congrArg some (hdefault hleft)

lemma IsListing.exists_fields (h : IsListing e structName settings v) :
    ∃ fields, v.fields? e structName = some fields ∧ Lists settings fields := by
  cases h with
  | @named fields h =>
    refine ⟨fields, ?_, h⟩
    cases fields <;> exact if_pos (beq_self_eq_true structName.toList)
  | @unnamed fields he h =>
    refine ⟨fields, ?_, h⟩
    cases fields <;> exact if_pos (by rw [Extensions.admits, he]; rfl)

end Ron

/-! ### Settings of a configuration -/

/-- The values that show an optional number. -/
inductive ShowsOptional (e : Extensions) : Option Word → Value → Prop
  | absent : ShowsOptional e none .absent
  | present (n : Word) : ShowsOptional e (some n) (.present (.integer none n.toNat))
  | bare (n : Word) (he : e.implicitSome = true) : ShowsOptional e (some n) (.integer none n.toNat)

/-- The settings of a trace. -/
def TraceConfig.settings (c : TraceConfig) : List Setting :=
  [ ⟨"registers", (· = .bool c.registers), c.registers = false⟩,
    ⟨"memory", (· = .bool c.memory), c.memory = false⟩,
    ⟨"instructions", (· = .bool c.instructions), c.instructions = false⟩ ]

/-- The settings of a configuration. -/
def Config.settings (e : Extensions) (c : Config) : List Setting :=
  [ ⟨"trace", IsListing e "TraceConfig" c.trace.settings, c.trace = {}⟩,
    ⟨"max_steps", ShowsOptional e c.maxSteps, c.maxSteps = none⟩,
    ⟨"log_filter", (· = .text c.logFilter.toList), c.logFilter = "warn"⟩ ]

variable {e : Extensions} {v : Value}

lemma toNat_le_greatest (n : Word) : (n.toNat : Int) ≤ IntegerType.word.greatest :=
  Int.ofNat_le.mpr (Nat.le_sub_one_of_lt n.isLt)

lemma ShowsOptional.optionalWord?_eq {w : Option Word} (h : ShowsOptional e w v) :
    v.optionalWord? e = some w := by
  have hword (n : Word) : (Value.integer none n.toNat).word? = some n := by
    simp [Value.word?, toNat_le_greatest]
  cases h with
  | absent => rfl
  | present n => simp [Value.optionalWord?, hword]
  | bare n he => simp [Value.optionalWord?, he, hword]

lemma TraceConfig.ofValue?_eq {c : TraceConfig} (h : IsListing e "TraceConfig" c.settings v) :
    TraceConfig.ofValue? e v = some c := by
  obtain ⟨fields, hfields, hlists⟩ := h.exists_fields
  have hdistinct : (c.settings.map (·.field)).Nodup :=
    (by decide : ["registers", "memory", "instructions"].Nodup)
  have hbool (b : Bool) : ∀ v : Value, v = .bool b → v.bool? = some b := by
    rintro _ rfl
    rfl
  have hregisters := hlists.setting_eq hdistinct (.head _) (hbool c.registers) Eq.symm
  have hmemory := hlists.setting_eq hdistinct (.tail _ (.head _)) (hbool c.memory) Eq.symm
  have hinstructions :=
    hlists.setting_eq hdistinct (.tail _ (.tail _ (.head _))) (hbool c.instructions) Eq.symm
  simp [TraceConfig.ofValue?, hfields, hregisters, hmemory, hinstructions]

lemma Config.ofValue?_eq {c : Config} (h : IsListing e "Config" (c.settings e) v) :
    Config.ofValue? e v = some c := by
  obtain ⟨fields, hfields, hlists⟩ := h.exists_fields
  have hdistinct : ((c.settings e).map (·.field)).Nodup :=
    (by decide : ["trace", "max_steps", "log_filter"].Nodup)
  have htext : ∀ v : Value, v = .text c.logFilter.toList → v.string? = some c.logFilter := by
    rintro _ rfl
    exact congrArg some String.ofList_toList
  have htrace := hlists.setting_eq hdistinct (.head _)
    (fun _ => TraceConfig.ofValue?_eq (c := c.trace)) Eq.symm
  have hmaxSteps := hlists.setting_eq hdistinct (.tail _ (.head _))
    (fun _ => ShowsOptional.optionalWord?_eq) Eq.symm
  have hlogFilter := hlists.setting_eq hdistinct (.tail _ (.tail _ (.head _))) htext Eq.symm
  simp [Config.ofValue?, hfields, htrace, hmaxSteps, hlogFilter]

/-! ### What is written -/

lemma gap_newline (k : Nat) : Gap ('\n' :: List.replicate k ' ') := by
  refine .blank rfl ?_
  induction k with
  | zero => exact .nil
  | succ k ih => exact .blank rfl ih

/-- A structure that is laid out in lines is spelled, if its fields are. -/
lemma valueSpelling_layOut {n : Nat} {lines : List (String × List Char)}
    {fields : List (Name × Value)}
    (h : List.Forall₂ (fun line field => field.1 = ⟨line.1.toList, false⟩ ∧ IsName line.1.toList ∧
      ValueSpelling n field.2 line.2) lines fields) (depth : Nat) :
    ValueSpelling (n + 2) (.struct none fields) (layOut depth lines) := by
  have hitems : ItemsSpelling (FieldSpelling (ValueSpelling n)) fields
      ('\n' :: (lines.flatMap fun line =>
        List.replicate (4 * (depth + 1)) ' ' ++ line.1.toList ++ ": ".toList ++ line.2 ++
          ",\n".toList) ++ List.replicate (4 * depth) ' ') := by
    induction h with
    | nil => exact .none (gap_newline _)
    | @cons line field lines fields hfield _ ih =>
      obtain ⟨name, text⟩ := line
      obtain ⟨_, v⟩ := field
      obtain ⟨rfl, hname, hv⟩ := hfield
      have hcolon : FieldSpelling (ValueSpelling n) (⟨name.toList, false⟩, v)
          (name.toList ++ [] ++ ':' :: ([' '] ++ text)) :=
        .mk hname .nil (.blank rfl .nil) hv
      simpa using ItemsSpelling.more (gap_newline (4 * (depth + 1))) hcolon .nil ih
  simpa [layOut] using valueSpelling_struct .unnamed hitems

lemma isName_field :
    ∀ field ∈ ["registers", "memory", "instructions", "trace", "max_steps", "log_filter"],
      IsName field.toList := by decide +kernel

/-- The structure that a trace is written as. -/
def TraceConfig.value (c : TraceConfig) : Value :=
  .struct none
    [ (⟨"registers".toList, false⟩, .bool c.registers),
      (⟨"memory".toList, false⟩, .bool c.memory),
      (⟨"instructions".toList, false⟩, .bool c.instructions) ]

/-- The value that an optional number is written as. -/
def optionalValue : Option Word → Value
  | none => .absent
  | some n => .present (.integer none n.toNat)

/-- The structure that a configuration is written as. -/
def Config.value (c : Config) : Value :=
  .struct none
    [ (⟨"trace".toList, false⟩, c.trace.value),
      (⟨"max_steps".toList, false⟩, optionalValue c.maxSteps),
      (⟨"log_filter".toList, false⟩, .text c.logFilter.toList) ]

/-- A structure with a field for each of the settings lists them. -/
lemma lists_of_forall₂ {settings : List Setting} {fields : List (Name × Value)}
    (h : List.Forall₂ (fun s f => f.1.text = s.field.toList ∧ s.Shows f.2) settings fields)
    (hdistinct : (settings.map (·.field)).Nodup) : Lists settings fields where
  distinct := by
    have hnames : fields.map (·.1.text) = (settings.map (·.field)).map String.toList := by
      clear hdistinct
      induction h with
      | nil => rfl
      | cons hf _ ih => exact congrArg₂ List.cons hf.1 ih
    rw [hnames]
    exact hdistinct.map fun _ _ => String.toList_inj.mp
  shown _ hf := exists_related h.flip hf
  complete _ hs := .inr <| by
    obtain ⟨f, hf, hname, -⟩ := exists_related h hs
    exact ⟨f, hf, hname⟩

lemma TraceConfig.isListing_value (c : TraceConfig) :
    IsListing {} "TraceConfig" c.settings c.value :=
  .unnamed rfl (lists_of_forall₂ (by simp [settings]) (by simp [settings]))

lemma Config.isListing_value (c : Config) : IsListing {} "Config" (c.settings {}) c.value := by
  have hmaxSteps : ShowsOptional {} c.maxSteps (optionalValue c.maxSteps) := by
    cases c.maxSteps with
    | none => exact .absent
    | some n => exact .present n
  exact .unnamed rfl
    (lists_of_forall₂ (by simp [settings, c.trace.isListing_value, hmaxSteps]) (by simp [settings]))

lemma valueSpelling_writeBool (b : Bool) (n : Nat) : ValueSpelling n (.bool b) (writeBool b) := by
  cases b <;> exact ScalarSpelling.valueSpelling (by constructor) n

lemma valueSpelling_writeOptional (w : Option Word) (n : Nat) :
    ValueSpelling (n + 2) (optionalValue w) (writeOptional w) := by
  cases w with
  | none => exact ScalarSpelling.absent.valueSpelling _
  | some m =>
    have hnumber : ScalarSpelling (.integer none m.toNat) (writeNat m.toNat) :=
      .number (numberSpelling_toDigits m.toNat) (toNat_le_greatest m)
    have hcontent := hnumber.valueSpelling (n + 1)
    simpa [writeOptional, optionalValue] using
      valueSpelling_present .nil (.one .nil hcontent .nil)

lemma TraceConfig.valueSpelling_write (c : TraceConfig) (depth n : Nat) :
    ValueSpelling (n + 2) c.value (c.write depth) := by
  have hbool := fun b => valueSpelling_writeBool b n
  exact valueSpelling_layOut
    (.cons ⟨rfl, isName_field _ (by simp), hbool c.registers⟩ <|
      .cons ⟨rfl, isName_field _ (by simp), hbool c.memory⟩ <|
      .cons ⟨rfl, isName_field _ (by simp), hbool c.instructions⟩ .nil) depth

lemma Config.valueSpelling_write (c : Config) (n : Nat) :
    ValueSpelling (n + 4) c.value c.write := by
  have htrace := c.trace.valueSpelling_write 1 n
  have hmaxSteps := valueSpelling_writeOptional c.maxSteps n
  have hlogFilter :=
    (ScalarSpelling.text (textSpelling_quote c.logFilter.toList)).valueSpelling (n + 2)
  exact valueSpelling_layOut
    (.cons ⟨rfl, isName_field _ (by simp), htrace⟩ <|
      .cons ⟨rfl, isName_field _ (by simp), hmaxSteps⟩ <|
      .cons ⟨rfl, isName_field _ (by simp), hlogFilter⟩ .nil) 0

/-! ### The round trip -/

/-- Every text of a structure that lists the configuration is read as the configuration, and so is
the text that it is written as. -/
theorem Config.ofRon?_listing (c : Config) :
    ofRon? c.toRon = some c ∧
      ∀ (text : String) (d : Document), DocumentSpelling d text.toList →
        IsListing d.extensions "Config" (c.settings d.extensions) d.value →
          ofRon? text = some c := by
  have hread : ∀ (text : String) (d : Document), DocumentSpelling d text.toList →
      IsListing d.extensions "Config" (c.settings d.extensions) d.value → ofRon? text = some c := by
    intro text d hd hlisting
    rw [ofRon?, readDocument_eq hd]
    exact Config.ofValue?_eq hlisting
  refine ⟨hread _ ⟨{}, c.value⟩ ?_ c.isListing_value, hread⟩
  have hvalue : ValueSpelling maxDepth c.value c.write := c.valueSpelling_write _
  have hd := DocumentSpelling.mk (.none .nil) rfl hvalue (.gap .nil)
  simpa [toRon] using hd

/-- A document that lists two settings in another order, with a comment in between. -/
theorem Config.ofRon?_listing_reordered :
    ofRon? "Config(max_steps: Some(0x1F), /*m*/ trace: (memory: true,)) // end" =
      some { trace := { memory := true }, maxSteps := some 31 } := by
  have hdigits : DigitsSpelling 16 31 ['1', 'F'] :=
    ⟨by simp, by simp, value?_eq_some_iff_of_base.mp rfl⟩
  have hnumber : ScalarSpelling (.integer none 31) "0x1F".toList :=
    .number (.bare (.hexadecimal hdigits)) (by decide)
  have hmaxSteps : FieldSpelling (ValueSpelling 126) _
      ("max_steps".toList ++ [] ++ ':' :: ([' '] ++ "Some(0x1F)".toList)) :=
    .mk (isName_field _ (by simp)) .nil (.blank rfl .nil)
      (valueSpelling_present .nil (.one .nil (hnumber.valueSpelling 125) .nil))
  have hmemory : FieldSpelling (ValueSpelling 124) _
      ("memory".toList ++ [] ++ ':' :: ([' '] ++ "true".toList)) :=
    .mk (isName_field _ (by simp)) .nil (.blank rfl .nil) (ScalarSpelling.true.valueSpelling 124)
  have htrace : FieldSpelling (ValueSpelling 126) _
      ("trace".toList ++ [] ++ ':' :: ([' '] ++ "(memory: true,)".toList)) :=
    .mk (isName_field _ (by simp)) .nil (.blank rfl .nil)
      (valueSpelling_struct .unnamed (.more .nil hmemory .nil (.none .nil)))
  have hcomment : Gap " /*m*/ ".toList :=
    .blank rfl (.block (.other (by decide) (by decide) .close) (.blank rfl .nil))
  have hname : HeadSpelling (some ⟨"Config".toList, false⟩) ("Config".toList ++ []) :=
    .named (by decide +kernel) (by decide +kernel) .nil
  have hvalue : ValueSpelling maxDepth _ _ :=
    valueSpelling_struct hname (.more .nil hmaxSteps .nil (.one hcomment htrace .nil))
  have hend : EndSpelling ([' '] ++ '/' :: '/' :: " end".toList) :=
    .line (.blank rfl .nil) (by decide)
  have hd := DocumentSpelling.mk (.none .nil) rfl hvalue hend
  have hlisted : IsListing {} "TraceConfig" (TraceConfig.settings { memory := true })
      (.struct none [(⟨"memory".toList, false⟩, .bool true)]) :=
    .unnamed rfl ⟨by decide, by simp [TraceConfig.settings], by simp [TraceConfig.settings]⟩
  have hshown : ShowsOptional {} (some 31) (.present (.integer none 31)) := .present 31
  have hlists : Lists (settings {} { trace := { memory := true }, maxSteps := some 31 })
      [ (⟨"max_steps".toList, false⟩, .present (.integer none 31)),
        (⟨"trace".toList, false⟩, .struct none [(⟨"memory".toList, false⟩, .bool true)]) ] :=
    ⟨by decide, by simpa [settings] using ⟨hshown, hlisted⟩, by simp [settings]⟩
  exact (ofRon?_listing _).2 _ _ hd (.named hlists)

end LectureMachine
