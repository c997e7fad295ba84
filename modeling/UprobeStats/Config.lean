/-
The messages of `config.proto`, as the daemon reads them.  Optional scalars
and optional messages are `Option`s, and an enum field keeps the raw number
that was on the wire, since protobuf hands out values the enum does not name.
-/
import Mathlib

namespace UprobeStats

namespace Proto

/-- `EnumOrUnknown<E>`: the wire value of an enum field. -/
abbrev EnumOrUnknown := Int32

/-- `MethodConfig.EventServiceConfig`. -/
structure EventServiceConfig where
  flush : Option Bool := none
deriving DecidableEq, Repr, Inhabited

/-- `MethodConfig.AtomConfig`. -/
structure AtomConfig where
  atomId : Option Int32 := none
  atomFieldPositions : List EnumOrUnknown := []
deriving DecidableEq, Repr, Inhabited

/-- `BinderTransactionFilter.MethodConfig`. -/
structure MethodConfig where
  methodId : Option Int64 := none
  eventServiceConfig : Option EventServiceConfig := none
  atomConfig : Option AtomConfig := none
deriving DecidableEq, Repr, Inhabited

/-- `Task.BinderTransactionFilter`. -/
structure BinderTransactionFilter where
  interfaceName : Option String := none
  methodConfigs : List MethodConfig := []
deriving DecidableEq, Repr, Inhabited

/-- `Task.ProbeConfig`. -/
structure ProbeConfig where
  bpfName : Option String := none
  methodSignature : Option String := none
  fullyQualifiedClassName : Option String := none
  methodName : Option String := none
  fullyQualifiedParameters : List String := []
  binderTransactionFilters : List BinderTransactionFilter := []
deriving DecidableEq, Repr, Inhabited

/-- `Task.StatsdLoggingConfig`. -/
structure StatsdLoggingConfig where
  atomId : Option Int64 := none
  primitiveArgumentPositions : List Int32 := []
deriving DecidableEq, Repr, Inhabited

/-- `UprobestatsConfig.Task`. -/
structure Task where
  probeConfigs : List ProbeConfig := []
  bpfMaps : List String := []
  targetProcessName : Option String := none
  durationSeconds : Option Int32 := none
  statsdLoggingConfig : Option StatsdLoggingConfig := none
  targetProcessSelection : Option EnumOrUnknown := none
  taskId : Option Int64 := none
deriving DecidableEq, Repr, Inhabited

/-- The whole message. -/
structure UprobestatsConfig where
  tasks : List Task := []
deriving DecidableEq, Repr, Inhabited

end Proto

/-- `TargetProcessSelection`, in the order of its wire values. -/
inductive TargetProcessSelection where
  | unknown
  | specificProcessName
  | anyAppProcessOnStart
  | specificAppProcessOnStart
deriving DecidableEq, Repr, Inhabited

/-- `enum_value_or_default` at `TargetProcessSelection`. -/
def TargetProcessSelection.enumValueOrDefault
    (raw : Proto.EnumOrUnknown) : TargetProcessSelection :=
  if raw = 1 then .specificProcessName
  else if raw = 2 then .anyAppProcessOnStart
  else if raw = 3 then .specificAppProcessOnStart
  else .unknown

/-- `AtomFieldPosition`, in the order of its wire values. -/
inductive AtomFieldPosition where
  | unknown
  | callingUid
  | interfaceName
  | code
  | ktimeNs
deriving DecidableEq, Repr, Inhabited

/-- `enum_value_or_default` at `AtomFieldPosition`. -/
def AtomFieldPosition.enumValueOrDefault
    (raw : Proto.EnumOrUnknown) : AtomFieldPosition :=
  if raw = 1 then .callingUid
  else if raw = 2 then .interfaceName
  else if raw = 3 then .code
  else if raw = 4 then .ktimeNs
  else .unknown

end UprobeStats
