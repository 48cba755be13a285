import JobWatch.Command.Args

/-!
# Which command lines are accepted

A command line is accepted if what has been read from it passes all checks, and then the arguments
are what its words and options say. Of the options only the value that counts under each name
matters, and whether all their names are known. Nothing is said here about how words and options
are read, or which fault of several is reported.
-/

namespace JobWatch.Command

theorem Verb.ofName?_eq_some {word : String} {v : Verb} :
    Verb.ofName? word = some v ↔ word = v.name := by
  constructor
  · intro known
    unfold Verb.ofName? at known
    split at known <;> cases known <;> rfl
  · rintro rfl
    cases v <;> rfl

theorem Verb.name_ne_empty (v : Verb) : v.name ≠ "" := by
  cases v <;> decide

namespace Scan

def sleepText (s : Scan) : String := (s.filled? "sleep").getD "60"

def levelName (s : Scan) : String := (s.filled? "log-level").getD "info"

def steps (s : Scan) : List String :=
  let steps := splitList ((s.filled? "steps").getD "all")
  if steps.isEmpty then ["all"] else steps

/-- The arguments, once it is clear what the words and the level are. -/
def args (s : Scan) (url : Option String) (verb : Verb) (specPath : String)
    (logLevel : Log.Level) : Args where
  verb := verb
  specPath := specPath
  steps := s.steps
  csvFile := s.get? "csv"
  queues := (s.get? "queues").map splitList
  workerPattern := s.get? "workers"
  sleepSeconds := Numeral.value s.sleepText
  redisUrl := ((s.filled? "redis").or (url.filter (· ≠ ""))).getD defaultRedisUrl
  keyPrefix := s.get? "prefix"
  logLevel := logLevel

/-- What has been read passes all checks. -/
structure Passes (s : Scan) (verb : Verb) (path : String) (level : Log.Level) : Prop where
  first : s.words[0]? = some verb.name
  second : s.words[1]? = some path
  filled : path ≠ ""
  known : ∀ o ∈ s.options, o.1 ∈ optionNames
  sleepable : Delay.defect? (Numeral.value s.sleepText) = none
  levelled : Log.Level.ofName? s.levelName = some level
  readable : ∀ source fault, s.get? "workers" = some source →
    Pattern.read {} source ≠ .error fault

variable {s s' : Scan} {url : Option String} {a : Args}

theorem filter_filled_eq_some {given : Option String} {text : String} :
    given.filter (· ≠ "") = some text ↔ given = some text ∧ text ≠ "" := by
  simp [Option.filter_eq_some_iff]

theorem find?_unknown_eq_none :
    (s.options.find? fun o => !(optionNames.contains o.1)) = none ↔
      ∀ o ∈ s.options, o.1 ∈ optionNames := by
  simp

theorem passes_of_interpret (accepted : interpret url s = .ok a) :
    s.Passes a.verb a.specPath a.logLevel ∧ a = s.args url a.verb a.specPath a.logLevel := by
  simp only [interpret, bind, Except.bind, pure, Except.pure] at accepted
  split at accepted
  case h_1 => cases accepted
  rename_i word first
  split at accepted
  case h_2 => cases accepted
  rename_i verb named
  split at accepted
  case h_1 => cases accepted
  rename_i path second
  split at accepted
  case h_1 => cases accepted
  rename_i known
  split at accepted
  case h_1 => cases accepted
  rename_i sleepable
  split at accepted
  case h_1 => cases accepted
  rename_i level levelled
  obtain ⟨first, -⟩ := filter_filled_eq_some.mp first
  obtain ⟨second, filled⟩ := filter_filled_eq_some.mp second
  rw [Verb.ofName?_eq_some.mp named] at first
  have passes (readable : ∀ source fault, s.get? "workers" = some source →
      Pattern.read {} source ≠ .error fault) : s.Passes verb path level :=
    { first := List.head?_eq_getElem? ▸ first
      second, filled, levelled, readable
      known := find?_unknown_eq_none.mp (Option.eq_none_iff_forall_ne_some.mpr known)
      sleepable := Option.eq_none_iff_forall_ne_some.mpr sleepable }
  split at accepted
  · rename_i source pattern
    split at accepted
    case h_1 => cases accepted
    rename_i read
    cases accepted
    refine ⟨passes fun source' fault given => ?_, rfl⟩
    cases pattern.symm.trans given
    exact read fault
  · rename_i pattern
    cases accepted
    exact ⟨passes fun source fault given => (pattern source given).elim, rfl⟩

theorem interpret_of_passes {verb : Verb} {path : String} {level : Log.Level}
    (passes : s.Passes verb path level) :
    interpret url s = .ok (s.args url verb path level) := by
  have first : s.words.head?.filter (· ≠ "") = some verb.name := by
    rw [List.head?_eq_getElem?]
    exact filter_filled_eq_some.mpr ⟨passes.first, verb.name_ne_empty⟩
  have named : Verb.ofName? verb.name = some verb := Verb.ofName?_eq_some.mpr rfl
  have second := filter_filled_eq_some.mpr ⟨passes.second, passes.filled⟩
  have known := find?_unknown_eq_none.mpr passes.known
  have sleepable := passes.sleepable
  have levelled := passes.levelled
  simp only [sleepText, levelName] at sleepable levelled
  simp only [interpret, bind, Except.bind, pure, Except.pure, first, named, second, known,
    sleepable, levelled]
  split
  · rename_i source given
    split
    · rename_i fault unreadable
      exact absurd unreadable (passes.readable source fault given)
    · rfl
  · rfl

theorem interpret_eq_ok_iff :
    interpret url s = .ok a ↔
      s.Passes a.verb a.specPath a.logLevel ∧ a = s.args url a.verb a.specPath a.logLevel := by
  constructor
  · exact passes_of_interpret
  · rintro ⟨passes, same⟩
    rw [same]
    exact interpret_of_passes passes

/-! ## What matters -/

/-- The words are the same, and so are the values that count. -/
structure Agrees (s s' : Scan) : Prop where
  words : s'.words = s.words
  values : ∀ name, s'.get? name = s.get? name

/-- The same but for the value of one option. -/
structure AgreesBut (key : String) (s s' : Scan) : Prop where
  words : s'.words = s.words
  values : ∀ name, name ≠ key → s'.get? name = s.get? name

theorem mem_names_iff {name : String} :
    name ∈ s.options.map (·.1) ↔ (s.get? name).isSome = true := by
  simp [get?]

section AgreesBut

variable {key : String} (h : s.AgreesBut key s')

include h

theorem AgreesBut.filled? {name : String} (other : name ≠ key) :
    s'.filled? name = s.filled? name := by
  rw [Scan.filled?, Scan.filled?, h.values name other]

theorem AgreesBut.known (listed : key ∈ optionNames)
    (known : ∀ o ∈ s.options, o.1 ∈ optionNames) : ∀ o ∈ s'.options, o.1 ∈ optionNames := by
  intro o given
  by_cases here : o.1 = key
  · exact here ▸ listed
  · have there : o.1 ∈ s.options.map (·.1) := by
      rw [mem_names_iff, ← h.values o.1 here, ← mem_names_iff]
      exact List.mem_map_of_mem given
    obtain ⟨o', given', same⟩ := List.mem_map.mp there
    exact same ▸ known o' given'

theorem AgreesBut.sleepText (other : "sleep" ≠ key) : s'.sleepText = s.sleepText := by
  rw [Scan.sleepText, Scan.sleepText, h.filled? other]

theorem AgreesBut.levelName (other : "log-level" ≠ key) : s'.levelName = s.levelName := by
  rw [Scan.levelName, Scan.levelName, h.filled? other]

/-- Only the checks of values are left to be made. -/
theorem AgreesBut.passes (listed : key ∈ optionNames) {verb : Verb} {path : String}
    {level : Log.Level} (passes : s.Passes verb path level)
    (sleepable : Delay.defect? (Numeral.value s'.sleepText) = none)
    (levelled : Log.Level.ofName? s'.levelName = some level)
    (readable : ∀ source fault, s'.get? "workers" = some source →
      Pattern.read {} source ≠ .error fault) : s'.Passes verb path level :=
  { sleepable, levelled, readable
    first := h.words ▸ passes.first
    second := h.words ▸ passes.second
    filled := passes.filled
    known := h.known listed passes.known }

end AgreesBut

theorem Agrees.filled? (h : s.Agrees s') : s'.filled? = s.filled? := by
  funext name
  rw [Scan.filled?, Scan.filled?, h.values]

theorem Agrees.args (h : s.Agrees s') : s'.args = s.args := by
  have values : s'.get? = s.get? := funext h.values
  funext url verb path level
  rw [Scan.args, Scan.args, Scan.steps, Scan.steps, Scan.sleepText, Scan.sleepText, values,
    h.filled?]

theorem Agrees.passes (h : s.Agrees s') {verb : Verb} {path : String} {level : Log.Level}
    (passes : s.Passes verb path level) : s'.Passes verb path level := by
  have but : s.AgreesBut "sleep" s' := ⟨h.words, fun name _ => h.values name⟩
  refine but.passes (by decide) passes ?_ ?_ fun source fault given => ?_
  · rw [sleepText, h.filled?]
    exact passes.sleepable
  · rw [levelName, h.filled?]
    exact passes.levelled
  · exact passes.readable source fault (h.values _ ▸ given)

/-- What agrees with something accepted is accepted as the same arguments. -/
theorem Agrees.interpret (h : s.Agrees s') (accepted : interpret url s = .ok a) :
    Command.interpret url s' = .ok a := by
  obtain ⟨passes, same⟩ := interpret_eq_ok_iff.mp accepted
  rw [← h.args] at same
  exact interpret_eq_ok_iff.mpr ⟨h.passes passes, same⟩

end Scan

/-- What is accepted could be read. -/
theorem exists_scan {url : Option String} {argv : List String} {a : Args}
    (accepted : parse url argv = .ok a) : ∃ s, scan argv = .ok s ∧ interpret url s = .ok a := by
  cases read : scan argv with
  | error fault =>
    rw [parse, read] at accepted
    cases accepted
  | ok s =>
    rw [parse, read] at accepted
    exact ⟨s, rfl, accepted⟩

end JobWatch.Command
