import Ensemble.CommandLine
import Ensemble.Event
import Ensemble.Text.Blank

/-!
# Ensemble.LogRecord

The **log**: a record for each event that someone may want to hear of, with its level and fields.
How much is logged is said by a flag, or else by a variable, or else it is what informs.
-/

namespace Ensemble

namespace LogLevel

/-- The levels in order, from the most urgent to the least. -/
def rank : LogLevel → Nat
  | .error => 0
  | .warn => 1
  | .info => 2
  | .debug => 3
  | .trace => 4

/-- Is a record of level `l` kept at this level? -/
def keeps (level l : LogLevel) : Bool :=
  l.rank ≤ level.rank

def name : LogLevel → String
  | .error => "ERROR"
  | .warn => "WARN"
  | .info => "INFO"
  | .debug => "DEBUG"
  | .trace => "TRACE"

/-- The level that a variable's value names; blanks around it and the case of its letters do not
matter. -/
def ofVariable? (value : String) : Option LogLevel :=
  match (Text.trim value).toLower with
  | "error" => some .error
  | "warn" | "warning" => some .warn
  | "info" => some .info
  | "debug" => some .debug
  | "trace" => some .trace
  | _ => none

/-- The level that counts: the flag's, or else the variable's, or else `info`. -/
def chosen (flag : Option LogLevel) (variableValue : Option String) : LogLevel :=
  (flag.or (variableValue.bind ofVariable?)).getD .info

end LogLevel

/-- A record of the log. -/
structure LogRecord where
  level : LogLevel
  message : String
  fields : List (String × String) := []
deriving DecidableEq, Repr

namespace LogRecord

/-- The record of an event, if there is one. -/
def ofEvent? : Event → Option LogRecord
  | .resolved => some ⟨.debug, "resolved settings", []⟩
  | .loaded path components checks =>
    some ⟨.info, "loaded root descriptor", [("path", path.text),
      ("components", toString components), ("checks", toString checks)]⟩
  | .started inv => some ⟨.debug, "running command", [("cmd", inv.command)]⟩
  | .completed command => some ⟨.debug, "command exited", [("cmd", command)]⟩
  | .refused fault =>
    some ⟨.warn, "failed to mirror command output", [("error", fault.message)]⟩
  | .checksPassed count => some ⟨.info, "all checks passed", [("count", toString count)]⟩
  | .began phase component => some ⟨.info, phase.progress, [("component", component)]⟩
  | .finished phase component => some ⟨.info, phase.complete, [("component", component)]⟩
  | .workerFailed component failure =>
    some ⟨.error, "component failed", [("component", component), ("error", failure.line)]⟩
  | .alreadyFailed component =>
    some ⟨.warn, "additional run failure; only the first is returned", [("component", component)]⟩
  | .printed _ | .labelled _ | .answered .. => none

/-- The record as it is told: level, message and fields. The names of all levels take the same
room. -/
def text (r : LogRecord) : String :=
  .ofList (List.replicate (5 - r.level.name.length) ' ') ++ r.level.name ++ " " ++ r.message ++ String.join (r.fields.map fun (key, value) =>
    " " ++ key ++ "=" ++ value)

/-- What the standard error of a run holds: the output shown there, and between it the records that
are kept, each behind its time. -/
def errorStream (level : LogLevel) (time : String) (trace : List Event) : Text.Bytes :=
  trace.flatMap fun e =>
    Event.streamBytes .err [e] ++
      match ofEvent? e with
      | some r => if level.keeps r.level then Text.Utf8.encode (time ++ " " ++ r.text ++ "\n") else []
      | none => []

/-- The records of a trace that are kept. -/
def kept (level : LogLevel) (trace : List Event) : List LogRecord :=
  (trace.filterMap ofEvent?).filter fun r => level.keeps r.level

end LogRecord

end Ensemble
