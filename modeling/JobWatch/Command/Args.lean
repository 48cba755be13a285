import JobWatch.Delay
import JobWatch.Log.Level
import JobWatch.Number.Numeral
import JobWatch.Pattern.Reader

/-!
The command line: tokens, the options and positional words among them, and the arguments that
they stand for. The first fault in a fixed order of checks is the one that is reported.
-/
namespace JobWatch.Command

inductive Verb where
  | status
  | monitor
  | workers
deriving DecidableEq, Repr

def Verb.ofName? : String → Option Verb
  | "status" => some status
  | "monitor" => some monitor
  | "workers" => some workers
  | _ => none

def Verb.name : Verb → String
  | status => "status"
  | monitor => "monitor"
  | workers => "workers"

structure Args where
  verb : Verb
  specPath : String
  steps : List String
  csvFile : Option String
  queues : Option (List String)
  workerPattern : Option String
  sleepSeconds : Binary64
  redisUrl : String
  keyPrefix : Option String
  logLevel : Log.Level
deriving DecidableEq, Repr

/-- What can be wrong with a command line. -/
inductive Fault where
  | missingValue (token : String)
  | missingCommand
  | unknownCommand (word : String)
  | missingSpecPath
  | unknownOption (name : String)
  | sleep (defect : Delay.Defect) (got : String)
  | logLevel
  | workers (source : String)
deriving DecidableEq, Repr

def Fault.message : Fault → String
  | missingValue token => "Missing value for " ++ token
  | missingCommand => "Missing command"
  | unknownCommand word => "Unknown command: " ++ word
  | missingSpecPath => "Missing job spec path"
  | unknownOption name => "Unknown option: --" ++ name
  | sleep defect got => defect.message "--sleep" got
  | logLevel => "--log-level must be one of " ++ Text.join ", " (Log.Level.all.map Log.Level.name)
  | workers source => "--workers must be a regular expression, got " ++ source

/-- What a token at the start of a group is: the beginning of an option or a positional word. -/
inductive Token where
  | word
  /-- `--name`, its value is the next token. -/
  | option (name : String)
  /-- `--name=value`. -/
  | assigned (name value : String)
deriving DecidableEq, Repr

def Token.ofString (s : String) : Token :=
  match s.toList with
  | '-' :: '-' :: body =>
    match Text.splitFirst '=' body with
    | some (name, value) => assigned (String.ofList name) (String.ofList value)
    | none => option (String.ofList body)
  | _ => word

/-- The token looks like an option, so it is no value of one. -/
def isOptionLike (s : String) : Bool := Text.startsWith ['-', '-'] s.toList

/-- The positional words and the options in the order given. -/
structure Scan where
  words : List String
  options : List (String × String)
deriving DecidableEq, Repr

def Scan.word (s : String) (rest : Scan) : Scan := { rest with words := s :: rest.words }

def Scan.option (name value : String) (rest : Scan) : Scan :=
  { rest with options := (name, value) :: rest.options }

def scan : List String → Except Fault Scan
  | [] => .ok ⟨[], []⟩
  | token :: rest =>
    match Token.ofString token with
    | .word => (scan rest).map (Scan.word token)
    | .assigned name value => (scan rest).map (Scan.option name value)
    | .option name =>
      match rest with
      | [] => .error (.missingValue token)
      | value :: rest =>
        if isOptionLike value then .error (.missingValue token)
        else (scan rest).map (Scan.option name value)

/-- The value of an option; the last one given wins. -/
def Scan.get? (s : Scan) (name : String) : Option String :=
  (s.options.reverse.find? fun o => o.1 == name).map (·.2)

/-- The value of an option that is given and not empty. -/
def Scan.filled? (s : Scan) (name : String) : Option String := (s.get? name).filter (· ≠ "")

def optionNames : List String :=
  ["steps", "csv", "queues", "workers", "sleep", "redis", "prefix", "log-level"]

/-- The items of a list separated by commas, trimmed, the empty ones dropped. -/
def splitList (value : String) : List String :=
  ((Text.split ',' value.toList).map Text.trim).filterMap fun item =>
    if item.isEmpty then none else some (String.ofList item)

def defaultRedisUrl : String := "redis://localhost:6379"

/-- The arguments that positional words and options stand for. `url` is what the environment says
about the broker's address. -/
def interpret (url : Option String) (s : Scan) : Except Fault Args := do
  let verb ← match s.words.head?.filter (· ≠ "") with
    | none => .error .missingCommand
    | some word => match Verb.ofName? word with
      | some v => .ok v
      | none => .error (.unknownCommand word)
  let specPath ← match s.words[1]?.filter (· ≠ "") with
    | none => .error .missingSpecPath
    | some path => .ok path
  if let some o := s.options.find? fun o => !(optionNames.contains o.1) then
    .error (.unknownOption o.1)
  let sleepText := (s.filled? "sleep").getD "60"
  let sleepSeconds := Numeral.value sleepText
  if let some defect := Delay.defect? sleepSeconds then .error (.sleep defect sleepText)
  let logLevel ← match Log.Level.ofName? ((s.filled? "log-level").getD "info") with
    | none => .error .logLevel
    | some level => .ok level
  if let some source := s.get? "workers" then
    if let .error _ := Pattern.read {} source then .error (.workers source)
  let steps := splitList ((s.filled? "steps").getD "all")
  return {
    verb, specPath, sleepSeconds, logLevel
    steps := if steps.isEmpty then ["all"] else steps
    csvFile := s.get? "csv"
    queues := (s.get? "queues").map splitList
    workerPattern := s.get? "workers"
    redisUrl := ((s.filled? "redis").or (url.filter (· ≠ ""))).getD defaultRedisUrl
    keyPrefix := s.get? "prefix" }

def parse (url : Option String) (argv : List String) : Except Fault Args :=
  (scan argv).bind (interpret url)

end JobWatch.Command
