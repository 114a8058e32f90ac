import RecordSchema.DefinitionError
import RecordSchema.Log.Entry

namespace RecordSchema

/-!
# What is logged

The events of loading and linking definitions and of checking records.  An event
carries names and counts, never values of a record.
-/

/-- The events that stand on their own, by name. -/
inductive EventKind where
  | configLoaded
  | definitionsLoaded
  | classLinked
  | ambiguousInheritance
  | permissionsCarrierSynthesized
  | recordRejected
  deriving Repr, DecidableEq

namespace EventKind

/-- The name of an event in log lines. -/
def name : EventKind → String
  | .configLoaded => "CONFIG_LOADED"
  | .definitionsLoaded => "DEFINITIONS_LOADED"
  | .classLinked => "CLASS_LINKED"
  | .ambiguousInheritance => "AMBIGUOUS_INHERITANCE"
  | .permissionsCarrierSynthesized => "PERMISSIONS_CARRIER_SYNTHESIZED"
  | .recordRejected => "RECORD_REJECTED"

/-- The severity of an event. -/
def severity : EventKind → Log.Severity
  | .classLinked | .permissionsCarrierSynthesized => .trace
  | .ambiguousInheritance => .warn
  | .configLoaded | .definitionsLoaded | .recordRejected => .info

/-- The report of an event; errors would go to standard error. -/
def report (kind : EventKind) (fields : List (String × String)) : Log.Report where
  entry := ⟨kind.severity, kind.name, fields⟩
  channel := if Log.Severity.error.rank ≤ kind.severity.rank then some .standardError else none

end EventKind

/-- An event with what it tells. -/
inductive Event where
  | configLoaded (definitions : Nat) (logLevel : String)
  | definitionsLoaded (classes : Nat) (source : String)
  | compileBegun
  | compileCompleted (classes : Nat)
  | compileFailed (error : DefinitionError)
  | classLinked (className : String) (parents properties : Nat)
  | ambiguousInheritance (className property kept dropped : String)
  | permissionsCarrierSynthesized (added : Nat)
  | recordRejected (className : String) (failures : Nat)
  deriving Repr, DecidableEq

namespace Event

/-- The work of linking definitions. -/
def compile : Log.Span :=
  ⟨"COMPILE"⟩

/-- The report of an event; a completed piece of work took the given time. -/
def report (milliseconds : Nat) : Event → Log.Report
  | .configLoaded definitions logLevel =>
      EventKind.configLoaded.report [("definitions", s!"{definitions}"), ("log_level", logLevel)]
  | .definitionsLoaded classes source =>
      EventKind.definitionsLoaded.report [("classes", s!"{classes}"), ("source", source)]
  | .compileBegun => compile.begun
  | .compileCompleted classes => compile.completed milliseconds [("classes", s!"{classes}")]
  | .compileFailed error => compile.failed error.message
  | .classLinked className parents properties =>
      EventKind.classLinked.report
        [("class", className), ("parents", s!"{parents}"), ("properties", s!"{properties}")]
  | .ambiguousInheritance className property kept dropped =>
      EventKind.ambiguousInheritance.report
        [("class", className), ("property", property), ("kept", kept), ("dropped", dropped)]
  | .permissionsCarrierSynthesized added =>
      EventKind.permissionsCarrierSynthesized.report [("properties_added", s!"{added}")]
  | .recordRejected className failures =>
      EventKind.recordRejected.report [("class", className), ("failures", s!"{failures}")]

end Event

end RecordSchema
