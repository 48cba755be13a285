import JobWatch.Log.Logger

/-!
# What loggers let through

The loggers that can be made are those whose level has a name that is taken, be it a level's own or
an idle one, and a part of a logger is the logger that its settings make again. The main statement
says when errors are heard: from a logger whose setting names a level, and from its parts, always;
from one with an idle name, and from its parts, nothing is heard at all. How a line reads is left
open.
-/

namespace JobWatch.Log

namespace Level

theorem name_ne_empty (l : Level) : l.name ≠ "" := by
  cases l <;> decide

theorem ofName?_name (l : Level) : ofName? l.name = some l := by
  cases l <;> decide

theorem ofName?_eq_some_iff {name : String} {l : Level} :
    ofName? name = some l ↔ l.name = name := by
  constructor
  · intro found
    exact eq_of_beq (List.find?_some (p := fun l : Level => l.name == name) found)
  · rintro rfl
    exact ofName?_name l

theorem ofName?_of_idle {name : String} (idle : name ∈ idleNames) : ofName? name = none := by
  have none : ∀ name ∈ idleNames, ofName? name = .none := by decide
  exact none name idle

theorem priority_le_error (l : Level) : l.priority ≤ error.priority := by
  cases l <;> decide

end Level

/-! ## Names that are taken -/

namespace Threshold

def name : Threshold → String
  | level l => l.name
  | idle name => name

/-- A level, or a name that is taken for one. -/
def IsKnown : Threshold → Prop
  | level _ => True
  | idle name => name ∈ idleNames

theorem ofName?_eq_some_iff {text : String} {t : Threshold} :
    ofName? text = some t ↔ t.IsKnown ∧ t.name = text := by
  unfold ofName?
  constructor
  · intro found
    split at found
    · rename_i l named
      cases found
      exact ⟨trivial, Level.ofName?_eq_some_iff.mp named⟩
    · split at found
      · rename_i taken
        cases found
        exact ⟨List.contains_iff_mem.mp taken, rfl⟩
      · cases found
  · rintro ⟨known, rfl⟩
    cases t with
    | level l => simp only [name, Level.ofName?_name]
    | idle text =>
      simp only [name, Level.ofName?_of_idle known]
      exact if_pos (List.contains_iff_mem.mpr known)

theorem IsKnown.name_ne_empty {t : Threshold} (known : t.IsKnown) : t.name ≠ "" := by
  cases t with
  | level l => exact l.name_ne_empty
  | idle text =>
    rintro rfl
    have filled : "" ∉ idleNames := by decide
    exact filled known

end Threshold

/-! ## Making loggers -/

/-- The name that is looked up, given or not. -/
def Config.levelName (c : Config) : String := Logger.filled c.level Logger.defaultLevel

namespace Logger

theorem filled_of_ne {text default : String} (given : text ≠ "") :
    filled (some text) default = text := by
  simp [filled, Option.filter_some, given]

theorem filled_ne_empty (given : Option String) {default : String} (some : default ≠ "") :
    filled given default ≠ "" := by
  rw [filled]
  cases kept : given.filter (· ≠ "") with
  | none => exact some
  | some text => exact of_decide_eq_true (Option.filter_eq_some_iff.mp kept).2

theorem create_eq_ok_iff {c : Config} {l : Logger} :
    create c = .ok l ↔ ∃ t : Threshold, t.IsKnown ∧ t.name = c.levelName ∧
      l = ⟨c.enabled, t, filled c.tag defaultTag, ""⟩ := by
  constructor
  · intro made
    simp only [create] at made
    split at made
    · rename_i t found
      obtain ⟨known, named⟩ := Threshold.ofName?_eq_some_iff.mp found
      exact ⟨t, known, named, (Except.ok.inj made).symm⟩
    · cases made
  · rintro ⟨t, known, named, rfl⟩
    have found : Threshold.ofName? (filled c.level defaultLevel) = some t :=
      Threshold.ofName?_eq_some_iff.mpr ⟨known, named⟩
    simp only [create, found]

/-- A logger takes every level by its name. -/
theorem create_of_level (enabled : Bool) (tag : Option String) (l : Level) :
    ∃ logger, create ⟨enabled, some l.name, tag⟩ = .ok logger ∧ logger.threshold = .level l :=
  ⟨_, create_eq_ok_iff.mpr ⟨.level l, trivial, (filled_of_ne l.name_ne_empty).symm, rfl⟩, rfl⟩

/-! ## Parts of loggers -/

/-- What another logger like this one is made from. -/
def settings (l : Logger) : Config := ⟨l.enabled, some l.threshold.name, some l.tag⟩

/-- The logger of a part, made like any other. -/
def createPart (l : Logger) (component : String) : Except Failure Logger := do
  let made ← create l.settings
  return { made with
    component := if l.component = "" then component else l.component ++ "." ++ component }

/-- Another logger like this one can be made. -/
structure Sound (l : Logger) : Prop where
  known : l.threshold.IsKnown
  tagged : l.tag ≠ ""

theorem sound_of_create {c : Config} {l : Logger} (made : create c = .ok l) : l.Sound := by
  obtain ⟨t, known, -, rfl⟩ := create_eq_ok_iff.mp made
  exact ⟨known, filled_ne_empty _ (by decide)⟩

theorem Sound.child {l : Logger} (sound : l.Sound) (component : String) :
    (l.child component).Sound :=
  ⟨sound.known, sound.tagged⟩

theorem Sound.createPart {l : Logger} (sound : l.Sound) (component : String) :
    l.createPart component = .ok (l.child component) := by
  have again : create l.settings = .ok ⟨l.enabled, l.threshold, l.tag, ""⟩ := by
    refine create_eq_ok_iff.mpr ⟨l.threshold, sound.known, ?_, ?_⟩
    · exact (filled_of_ne sound.known.name_ne_empty).symm
    · rw [settings, filled_of_ne sound.tagged]
  rw [Logger.createPart, again]
  rfl

/-- However deep a part lies, it is made, and shares what decides whether lines are written. -/
theorem Sound.parts {l : Logger} (sound : l.Sound) (path : List String) :
    path.foldlM Logger.createPart l = .ok (path.foldl Logger.child l) ∧
      (path.foldl Logger.child l).enabled = l.enabled ∧
      (path.foldl Logger.child l).threshold = l.threshold := by
  induction path generalizing l with
  | nil => exact ⟨rfl, rfl, rfl⟩
  | cons component path ih =>
    obtain ⟨made, enabled, threshold⟩ := ih (sound.child component)
    rw [List.foldlM_cons, sound.createPart component]
    exact ⟨made, enabled, threshold⟩

/-! ## What is written -/

theorem isEnabledName_name (l : Logger) (level : Level) :
    l.isEnabledName level.name = l.isEnabled level := by
  simp only [isEnabledName, Level.ofName?_name]

theorem isEnabled_iff {l : Logger} {level : Level} :
    l.isEnabled level = true ↔ l.enabled = true ∧
      ∃ least, l.threshold = .level least ∧ least.priority ≤ level.priority := by
  unfold isEnabled
  cases l.threshold with
  | level least => simp
  | idle name => simp

theorem isEnabled_mono {l : Logger} {a b : Level} (higher : a.priority ≤ b.priority)
    (enabled : l.isEnabled a = true) : l.isEnabled b = true := by
  obtain ⟨on, least, threshold, reached⟩ := isEnabled_iff.mp enabled
  exact isEnabled_iff.mpr ⟨on, least, threshold, Nat.le_trans reached higher⟩

theorem log_line {σ : Type} (l : Logger) (level : Level) (message : String)
    (details : List Detail) (s : Session σ) :
    l.log level message details s = ⟨.returned (),
      if l.isEnabled level then [.console level.channel (l.line s.now level message) details]
      else [], s⟩ := by
  unfold log
  split <;> rfl

/-! ## Who is heard -/

/-- Errors are written, each in one line, and with a level all higher ones. -/
structure Speaks (l : Logger) : Prop where
  errors : l.isEnabledName "error" = true
  upward : ∀ a b : Level, a.priority ≤ b.priority →
    l.isEnabledName a.name = true → l.isEnabledName b.name = true
  line : ∀ {σ : Type} (message : String) (details : List Detail) (s : Session σ),
    l.error message details s =
      ⟨.returned (), [.console .error (l.line s.now .error message) details], s⟩

/-- Nothing is written, whatever its level. -/
structure IsMute (l : Logger) : Prop where
  none : ∀ level : Level, l.isEnabledName level.name = false
  nothing : ∀ {σ : Type} (level : Level) (message : String) (details : List Detail)
    (s : Session σ), l.log level message details s = ⟨.returned (), [], s⟩

theorem Speaks.not_isMute {l : Logger} (speaks : l.Speaks) : ¬ l.IsMute := by
  intro mute
  exact Bool.false_ne_true ((mute.none .error).symm.trans speaks.errors)

theorem speaks_of_level {l : Logger} {least : Level} (on : l.enabled = true)
    (threshold : l.threshold = .level least) : l.Speaks := by
  have errors : l.isEnabled .error = true :=
    isEnabled_iff.mpr ⟨on, least, threshold, least.priority_le_error⟩
  refine ⟨(isEnabledName_name l .error).trans errors, ?_, ?_⟩
  · intro a b higher enabled
    rw [isEnabledName_name] at enabled ⊢
    exact isEnabled_mono higher enabled
  · intro σ message details s
    rw [error, log_line, if_pos errors]
    rfl

theorem isMute_of_idle {l : Logger} {name : String} (threshold : l.threshold = .idle name) :
    l.IsMute := by
  have silent (level : Level) : l.isEnabled level = false := by
    rw [isEnabled, threshold, Bool.and_false]
  refine ⟨?_, ?_⟩
  · intro level
    exact (isEnabledName_name l level).trans (silent level)
  · intro σ level message details s
    rw [log_line, silent level]
    rfl

end Logger

/-- The setting names a level. -/
def Config.NamesLevel (c : Config) : Prop := ∃ level : Level, level.name = c.levelName

theorem Config.NamesLevel.not_idle {c : Config} (names : c.NamesLevel) :
    c.levelName ∉ idleNames := by
  obtain ⟨level, same⟩ := names
  intro idle
  have unknown := Level.ofName?_of_idle idle
  rw [← same, Level.ofName?_name] at unknown
  cases unknown

namespace Logger

/-- From a logger that is on, and from its parts, however deep, errors are heard exactly if its
setting names a level. The other names that are taken silence them all. -/
theorem errors_heard_iff {c : Config} {l : Logger} (on : c.enabled = true)
    (made : create c = .ok l) (path : List String) :
    ∃ m, path.foldlM createPart l = .ok m ∧ m = path.foldl child l ∧
      (m.Speaks ↔ c.NamesLevel) ∧ (m.IsMute ↔ c.levelName ∈ idleNames) ∧
      (m.Speaks ∨ m.IsMute) := by
  obtain ⟨parts, enabled, threshold⟩ := (sound_of_create made).parts path
  obtain ⟨t, known, named, rfl⟩ := create_eq_ok_iff.mp made
  refine ⟨_, parts, rfl, ?_⟩
  generalize path.foldl child ⟨c.enabled, t, filled c.tag defaultTag, ""⟩ = m at enabled threshold
  cases t with
  | level least =>
    have speaks : m.Speaks := speaks_of_level (enabled.trans on) threshold
    have names : c.NamesLevel := ⟨least, named⟩
    exact ⟨iff_of_true speaks names, iff_of_false speaks.not_isMute names.not_idle, .inl speaks⟩
  | idle name =>
    have mute : m.IsMute := isMute_of_idle threshold
    have idle : c.levelName ∈ idleNames := named ▸ known
    exact ⟨iff_of_false (fun speaks => speaks.not_isMute mute) fun names => names.not_idle idle,
      iff_of_true mute idle, .inr mute⟩

/-- A part of a part still warns, since its whole does. -/
theorem errors_heard_of_warn :
    let c : Config := ⟨true, some "warn", some "[watch]"⟩
    let l : Logger := ⟨true, .level .warn, "[watch]", ""⟩
    c.enabled = true ∧ create c = .ok l ∧
      (["Backend", "Breaker"].foldl child l).Speaks := by
  intro c l
  have made : create c = .ok l := rfl
  obtain ⟨m, -, rfl, heard, -⟩ := errors_heard_iff (c := c) rfl made ["Backend", "Breaker"]
  exact ⟨rfl, made, heard.mpr ⟨.warn, by decide⟩⟩

/-- A name that is no level's is taken, and errors are not written. -/
theorem errors_unheard_under_idle_name :
    ∃ l, create ⟨true, some "toString", none⟩ = .ok l ∧ l.isEnabledName "error" = false ∧
      ((l.error "boom" [] : Run Unit Unit) (Session.start 0 ())).events = [] :=
  ⟨⟨true, .idle "toString", defaultTag, ""⟩, rfl, rfl, rfl⟩

end Logger

end JobWatch.Log
