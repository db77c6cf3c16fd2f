import FederationRegistry.Json.Form
import FederationRegistry.Service.Operation
import FederationRegistry.Text.Quoted

/-!
# Interceptors

An interceptor observes operations: one hook runs before, one after with the outcome. A hook may
emit events and may fail; a failure becomes a notice and nothing else, so the other hooks and the
operation run all the same. The *audit* interceptor records every operation in an audit sink.
-/

namespace FederationRegistry

/-- The two moments at which hooks run. -/
inductive HookPhase where
  | before
  | after
deriving DecidableEq

/-- The failure of a hook. -/
structure HookFailure where
  interceptor : String
  reason : String
deriving DecidableEq

/-- The failure in words. -/
def HookFailure.message (f : HookFailure) : String :=
  "interceptor " ++ f.interceptor ++ " failed: " ++ f.reason

/-- What a hook does. -/
structure HookEffect (ε : Type) where
  emitted : List ε := []
  failure : Option HookFailure := none

/-- An observer of operations, with events of a type. -/
structure Interceptor (ε : Type) where
  name : String
  before : Operation → HookEffect ε := fun _ => {}
  after : Operation → Outcome → HookEffect ε := fun _ _ => {}

/-- What the service reports besides results. -/
inductive Notice where
  | store (warning : Warning)
  | hookFailed (phase : HookPhase) (interceptor operation error : String)
deriving DecidableEq

/-- The words of the notice. -/
def Notice.message : Notice → String
  | .store warning => warning.message
  | .hookFailed .before .. => "pre-operation interceptor failed"
  | .hookFailed .after .. => "post-operation interceptor failed"

/-- Events and notices in order. -/
structure Trace (ε : Type) where
  events : List ε := []
  notices : List Notice := []

/-- One trace behind another. -/
def Trace.append {ε : Type} (s t : Trace ε) : Trace ε :=
  ⟨s.events ++ t.events, s.notices ++ t.notices⟩

instance {ε : Type} : Append (Trace ε) := ⟨Trace.append⟩

namespace Interceptor

variable {ε : Type}

/-- What the effect of a hook leaves behind. -/
def trace (i : Interceptor ε) (phase : HookPhase) (op : Operation) (effect : HookEffect ε) :
    Trace ε where
  events := effect.emitted
  notices :=
    effect.failure.toList.map fun f => .hookFailed phase i.name op.label f.message

/-- The hooks of a chain before an operation, in order. -/
def runBefore : List (Interceptor ε) → Operation → Trace ε
  | [], _ => {}
  | i :: is, op => i.trace .before op (i.before op) ++ runBefore is op

/-- The hooks of a chain after an operation, in order. -/
def runAfter : List (Interceptor ε) → Operation → Outcome → Trace ε
  | [], _, _ => {}
  | i :: is, op, o => i.trace .after op (i.after op o) ++ runAfter is op o

/-- A chain in words: the names of its interceptors in order. -/
def describe (chain : List (Interceptor ε)) : String :=
  "InterceptorChain \x7b interceptors: [" ++
    ", ".intercalate (chain.map fun i => Text.quoted i.name) ++ "] \x7d"

end Interceptor

/-! ## Audit -/

/-- What is recorded of an operation: never its configuration. -/
structure AuditRecord where
  operation : String
  target : Option String
  errorKind : Option ErrorKind
deriving DecidableEq

namespace AuditRecord

/-- The record of an operation and its outcome. -/
def of (op : Operation) (o : Outcome) : AuditRecord := ⟨op.label, op.target?, o.errorKind?⟩

/-- Success or failure, in a word. -/
def outcome (r : AuditRecord) : String := if r.errorKind.isSome then "failure" else "success"

/-- The record as a line of an audit file has it. -/
def toJson (r : AuditRecord) : Json :=
  .object
    [("event", .string "provider_audit"),
      ("operation", .string r.operation),
      ("target", Json.ofText? r.target),
      ("outcome", .string r.outcome),
      ("error_kind", Json.ofText? (r.errorKind.map (·.label)))]

end AuditRecord

/-- Where audit records go: the events that a record becomes, and why it could not be kept. -/
abbrev AuditSink (ε : Type) := AuditRecord → List ε × Option String

/-- The interceptor that records every operation. -/
def Interceptor.audit {ε : Type} (sink : AuditSink ε) : Interceptor ε where
  name := "audit"
  after := fun op o =>
    let kept := sink (.of op o)
    ⟨kept.1, kept.2.map fun reason => ⟨"audit", reason⟩⟩

end FederationRegistry
