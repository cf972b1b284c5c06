import ShaderGraph.Error

namespace ShaderGraph

structure LogRecord where
  level : Int
  message : String

namespace LogLevel

def debug : Int := 10
def info : Int := 20
def warning : Int := 30

def named : List (Int × String) :=
  [(0, "NOTSET"), (10, "DEBUG"), (20, "INFO"), (30, "WARNING"), (40, "ERROR"), (50, "CRITICAL"), (30, "WARN"),
   (50, "FATAL")]

def name (level : Int) : String :=
  (named.lookup level).getD ("Level " ++ toString level)

def ofName? (name : String) : Option Int :=
  (named.find? (fun entry => entry.2 == name)).map (·.1)

def ofValue (digits : Option Nat) : Value → Except Error Int
  | .int n => .ok n
  | .bool b => .ok (if b then 1 else 0)
  | .text name => match ofName? name with
    | some level => .ok level
    | none => .error (.unknownLevel name)
  | value => do
    value.check digits
    .error (.badLevel value)

end LogLevel

structure Logger where
  level : Int
  handler : Option Int

namespace Logger

def standard : Logger := ⟨LogLevel.warning, none⟩

/-- Level 0 leaves the choice to the log as a whole, which starts at warnings. -/
def threshold (logger : Logger) : Int :=
  if logger.level = 0 then LogLevel.warning else logger.level

def isEnabled (logger : Logger) (level : Int) : Bool :=
  decide (0 < level ∧ logger.threshold ≤ level)

def line? (logger : Logger) (record : LogRecord) : Option String :=
  match logger.handler with
  | some least =>
    if logger.isEnabled record.level ∧ least ≤ record.level then
      some ("[ShaderNodes] [" ++ LogLevel.name record.level ++ "] " ++ record.message ++ "\n")
    else none
  | none => none

def setup (digits : Option Nat) (level : Option Value) : Except Error Logger := do
  let level ← LogLevel.ofValue digits (level.getD (.int LogLevel.info))
  return ⟨level, some level⟩

def handlerCount (logger : Logger) : Nat :=
  if logger.handler.isSome then 1 else 0

end Logger

def numbered (source : String) : String :=
  "\n".intercalate (numberLines (source.splitOn "\n"))

end ShaderGraph
