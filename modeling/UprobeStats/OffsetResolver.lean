/-
The offsets of a method, as the daemon asks the platform for them: the target
and the method are handed over as C strings, an answer that the target is not
ready is asked for again after a growing pause, and every object the platform
allocates is given back.
-/
import UprobeStats.Lib.Lossy
import UprobeStats.Lib.Ownership
import UprobeStats.Resolver
import UprobeStats.Strings

namespace UprobeStats

open Traced Ownership Bytes

/-- The codes of `binder::ExceptionCode` that are looked at. -/
inductive ExceptionCode where
  | serviceSpecific
  | illegalState
  | other (code : Int32)
deriving DecidableEq, Repr

def ExceptionCode.toInt32 : ExceptionCode → Int32
  | serviceSpecific => -8
  | illegalState => -5
  | other code => code

/-- `binder::Status`. -/
structure Status where
  exceptionCode : ExceptionCode
  serviceSpecificError : Int32
deriving DecidableEq, Repr

def Status.newServiceSpecificError (error : Int32) : Status := ⟨.serviceSpecific, error⟩

/-- `ADynamicInstrumentationManager_ExecutableMethodFileOffsets`, with the
bytes of its path in front of the NUL. -/
structure NativeOffsets where
  containerPath : List UInt8
  containerOffset : UInt64
  methodOffset : UInt64
deriving DecidableEq, Repr

/-- What the platform answers: to each call of
`ADynamicInstrumentationManager_getExecutableMethodFileOffsets`, by its number,
a status and what the out parameter points to, which is an object only where
the status is 0.  `display` is how a status is shown. -/
structure OffsetsApi where
  useProcessObserverApi : Bool
  answer : Nat → Int32 × Option NativeOffsets
  display : Status → String

/-- The calls of the platform that resolving offsets makes. -/
inductive NativeCall where
  | createTargetProcess (uid : UInt32) (pid : Int32) (processName : List UInt8)
  | createMethodDescriptor (fullyQualifiedClassName methodName : List UInt8)
      (fullyQualifiedParameters : List (List UInt8))
  | getExecutableMethodFileOffsets (allocated : Bool)
  | sleep (millis : Nat)
  | getContainerPath
  | getContainerOffset
  | getMethodOffset
  | destroyOffsets
  | destroyMethodDescriptor
  | destroyTargetProcess
deriving DecidableEq, Repr

/-! How long the platform is asked. -/

def NativeCall.isQuery : NativeCall → Bool
  | .getExecutableMethodFileOffsets _ => true
  | _ => false

def NativeCall.millis : NativeCall → Nat
  | .sleep millis => millis
  | _ => 0

/-- The pauses of a trace, in milliseconds. -/
def slept (calls : List NativeCall) : Nat := (calls.map NativeCall.millis).sum

def queries (calls : List NativeCall) : Nat := calls.countP NativeCall.isQuery

/-- `MAX_RETRIES`. -/
def maxRetries : Nat := 5

/-- The first pause, in milliseconds. -/
def firstBackoff : Nat := 10

/-- `to_target_process` up to the call that creates it. -/
def targetProcessArguments (targetProcess : ResolvedProcess) :
    Except AnyError (UInt32 × List UInt8) := do
  if targetProcess.uid < 0 then
    throw (.message "out of range integral type conversion attempted")
  let processName ← cString targetProcess.name
  return (targetProcess.uid.toUInt32, processName)

/-- `MethodDescriptor::new` up to the call that creates it. -/
def methodDescriptorArguments (descriptor : MethodDescriptor) :
    Except AnyError (List UInt8 × List UInt8 × List (List UInt8)) := do
  let fullyQualifiedClassName ← cString descriptor.fullyQualifiedClassName
  let methodName ← cString descriptor.methodName
  let fullyQualifiedParameters ← descriptor.fullyQualifiedParameters.mapM cString
  return (fullyQualifiedClassName, methodName, fullyQualifiedParameters)

/-- `to_config_resolver_offsets`, and the drop of what it reads. -/
def toConfigResolverOffsets (offsets : NativeOffsets) :
    Run NativeCall AnyError ExecutableMethodFileOffsets :=
  ⟨[.getContainerPath, .getContainerOffset, .getMethodOffset, .destroyOffsets],
    .ok ⟨fromUtf8Lossy offsets.containerPath, offsets.containerOffset, offsets.methodOffset⟩⟩

namespace OffsetsApi

variable (api : OffsetsApi)

/-- `ExecutableMethodFileOffsets::get`, as the call with the given number. -/
def get (n : Nat) : Run NativeCall Status (Option NativeOffsets) := do
  let status := (api.answer n).1
  let offsets := (api.answer n).2
  Run.emit (.getExecutableMethodFileOffsets (decide (status = 0) && offsets.isSome))
  if status ≠ 0 then Run.fail (Status.newServiceSpecificError status)
  else return offsets

/-- The loop of `get_executable_method_file_offsets_with_retry`.  `left` is
`MAX_RETRIES - retries`. -/
def retryLoop : Nat → Nat → Nat → Run NativeCall AnyError (Option NativeOffsets)
  | left, retries, backoff =>
      let attempt := api.get retries
      match attempt.outcome with
      | .panic => ⟨attempt.trace, .panic⟩
      | .ok offsets => ⟨attempt.trace, .ok offsets⟩
      | .error status =>
          match left with
          | 0 =>
              ⟨attempt.trace, .error (.message ("Failed after " ++ toString maxRetries ++
                " retries, last error: " ++ api.display status))⟩
          | left + 1 =>
              if status.exceptionCode ≠ .serviceSpecific then
                ⟨attempt.trace, .error (.message ("Unexpected status: " ++ api.display status))⟩
              else if status.serviceSpecificError ≠ ExceptionCode.illegalState.toInt32 then
                ⟨attempt.trace, .error (.message ("Unexpected service specific error: " ++
                  api.display status))⟩
              else
                let rest := retryLoop left (retries + 1) (backoff * 2)
                ⟨attempt.trace ++ .sleep backoff :: rest.trace, rest.outcome⟩

def getExecutableMethodFileOffsetsWithRetry :
    Run NativeCall AnyError (Option NativeOffsets) :=
  if !api.useProcessObserverApi then
    (api.get 0).mapErr fun status =>
      .message ("Failed to get executable method file offsets: " ++ api.display status)
  else api.retryLoop maxRetries 0 firstBackoff

/-- `resolve_offsets`.  The objects are dropped in the reverse of the order in
which they came. -/
def resolveOffsets (targetProcess : ResolvedProcess) (descriptor : MethodDescriptor) :
    Run NativeCall AnyError (Option ExecutableMethodFileOffsets) := do
  let target ← Run.ofExcept (targetProcessArguments targetProcess)
  Run.owning (.createTargetProcess target.1 targetProcess.pid target.2) .destroyTargetProcess do
    let method ← Run.ofExcept (methodDescriptorArguments descriptor)
    Run.owning (.createMethodDescriptor method.1 method.2.1 method.2.2)
        .destroyMethodDescriptor do
      let offsets ← api.getExecutableMethodFileOffsetsWithRetry
      match offsets with
      | none => return none
      | some offsets => return some (← toConfigResolverOffsets offsets)

/-- How often the platform may be asked again. -/
def limit : Nat := if api.useProcessObserverApi then maxRetries else 0

/-- The answer that the target is not ready. -/
def NotReady (n : Nat) : Prop := (api.answer n).1 = ExceptionCode.illegalState.toInt32

/-- The call whose answer is the last that is asked for: the first one that
does not say that the target is not ready, unless the limit is reached. -/
structure DecidedBy (n : Nat) : Prop where
  le : n ≤ api.limit
  notReady : ∀ k < n, api.NotReady k
  ends : n = api.limit ∨ ¬ api.NotReady n

/-- The queries in front of the last one, each with the pause after it. -/
def pauses (backoff : Nat) : Nat → List NativeCall
  | 0 => []
  | n + 1 => .getExecutableMethodFileOffsets false :: .sleep backoff :: pauses (backoff * 2) n

def allocated (n : Nat) : Bool := decide ((api.answer n).1 = 0) && (api.answer n).2.isSome

theorem exists_decidedBy : ∃ n, api.DecidedBy n := by
  by_cases hall : ∀ k < api.limit, api.NotReady k
  · exact ⟨api.limit, le_rfl, hall, Or.inl rfl⟩
  · push Not at hall
    obtain ⟨n, ⟨hlt, hn⟩, hfirst⟩ := exists_minimal_of_wellFoundedLT
      (fun k => k < api.limit ∧ ¬ api.NotReady k) hall
    refine ⟨n, hlt.le, ?_, Or.inr hn⟩
    intro k hk
    by_contra hready
    have := hfirst ⟨hk.trans hlt, hready⟩ hk.le
    omega

theorem DecidedBy.unique {m n : Nat} (hm : api.DecidedBy m) (hn : api.DecidedBy n) : m = n := by
  rcases lt_trichotomy m n with hlt | heq | hlt
  · rcases hm.ends with hlimit | hready
    · have := hn.le
      omega
    · exact absurd (hn.notReady m hlt) hready
  · exact heq
  · rcases hn.ends with hlimit | hready
    · have := hm.le
      omega
    · exact absurd (hm.notReady n hlt) hready

theorem get_eq (n : Nat) :
    api.get n = ⟨[.getExecutableMethodFileOffsets (api.allocated n)],
      if (api.answer n).1 = 0 then .ok (api.answer n).2
      else .error (Status.newServiceSpecificError (api.answer n).1)⟩ := by
  unfold get allocated
  by_cases hstatus : (api.answer n).1 = 0
  · simp [hstatus, Run.bind_def, Run.bind, Run.emit, pure]
  · simp [hstatus, Run.bind_def, Run.bind, Run.emit, Run.fail]

theorem get_of_notReady {n : Nat} (hready : api.NotReady n) :
    api.get n = ⟨[.getExecutableMethodFileOffsets false],
      .error (Status.newServiceSpecificError ExceptionCode.illegalState.toInt32)⟩ := by
  have hne : ExceptionCode.illegalState.toInt32 ≠ 0 := by decide
  rw [get_eq, allocated, hready]
  simp [hne]

/-- What the loop makes of the answer it ends on. -/
def conclude (last : Bool) (answer : Int32 × Option NativeOffsets) :
    Outcome AnyError (Option NativeOffsets) :=
  if answer.1 = 0 then .ok answer.2
  else if last then
    .error (.message ("Failed after " ++ toString maxRetries ++ " retries, last error: " ++
      api.display (Status.newServiceSpecificError answer.1)))
  else
    .error (.message ("Unexpected service specific error: " ++
      api.display (Status.newServiceSpecificError answer.1)))

/-- The loop pauses after every answer that the target is not ready, and ends
on the first other answer or on the last it may ask for. -/
theorem retryLoop_eq {n left : Nat} (hle : n ≤ left) (retries backoff : Nat)
    (hready : ∀ k < n, api.NotReady (retries + k))
    (hends : n = left ∨ ¬ api.NotReady (retries + n)) :
    api.retryLoop left retries backoff =
      ⟨pauses backoff n ++ [.getExecutableMethodFileOffsets (api.allocated (retries + n))],
        api.conclude (decide (n = left)) (api.answer (retries + n))⟩ := by
  induction n generalizing left retries backoff with
  | zero =>
      rw [retryLoop, get_eq]
      by_cases hstatus : (api.answer retries).1 = 0
      · simp [hstatus, conclude, pauses]
      · cases left with
        | zero => simp [hstatus, conclude, pauses]
        | succ left =>
            have hother : (api.answer retries).1 ≠ ExceptionCode.illegalState.toInt32 := by
              simpa [NotReady] using hends
            simp [hstatus, conclude, pauses, Status.newServiceSpecificError, hother]
  | succ n ih =>
      cases left with
      | zero => omega
      | succ left =>
          have hfirst := api.get_of_notReady (hready 0 (Nat.succ_pos n))
          rw [Nat.add_zero] at hfirst
          have hrest := ih (Nat.le_of_succ_le_succ hle) (retries + 1) (backoff * 2)
            (fun k hk => by
              have hnext := hready (k + 1) (Nat.succ_lt_succ hk)
              rwa [Nat.add_comm k 1, ← Nat.add_assoc] at hnext)
            (by simpa [Nat.add_assoc, Nat.add_comm 1 n] using hends)
          rw [retryLoop, hfirst]
          simp only [Status.newServiceSpecificError, ne_eq, not_true_eq_false, ↓reduceIte,
            hrest, pauses, List.cons_append, List.nil_append]
          simp [Nat.add_assoc, Nat.add_comm 1 n]

/-- The error where the platform is asked only once. -/
def concludeOnce (answer : Int32 × Option NativeOffsets) :
    Outcome AnyError (Option NativeOffsets) :=
  if answer.1 = 0 then .ok answer.2
  else .error (.message ("Failed to get executable method file offsets: " ++
    api.display (Status.newServiceSpecificError answer.1)))

/-- What is made of the deciding answer. -/
def decided (n : Nat) : Outcome AnyError (Option NativeOffsets) :=
  if api.useProcessObserverApi then api.conclude (decide (n = maxRetries)) (api.answer n)
  else api.concludeOnce (api.answer n)

theorem getExecutableMethodFileOffsetsWithRetry_eq {n : Nat} (hn : api.DecidedBy n) :
    api.getExecutableMethodFileOffsetsWithRetry =
      ⟨pauses firstBackoff n ++ [.getExecutableMethodFileOffsets (api.allocated n)],
        api.decided n⟩ := by
  cases hflag : api.useProcessObserverApi with
  | true =>
      have hlimit : api.limit = maxRetries := by simp [limit, hflag]
      have hle := hn.le
      have hends := hn.ends
      rw [hlimit] at hle hends
      have hloop := api.retryLoop_eq hle 0 firstBackoff
        (fun k hk => by simpa using hn.notReady k hk) (by simpa using hends)
      simpa [getExecutableMethodFileOffsetsWithRetry, decided, hflag] using hloop
  | false =>
      have hzero : n = 0 := by
        have hle := hn.le
        simpa [limit, hflag] using hle
      subst hzero
      simp only [getExecutableMethodFileOffsetsWithRetry, hflag, Bool.not_false, ↓reduceIte,
        get_eq, Run.mapErr, decided, concludeOnce, pauses, Bool.false_eq_true]
      by_cases hstatus : (api.answer 0).1 = 0
      · simp [hstatus]
      · simp [hstatus]

theorem decided_eq_ok_iff {n : Nat} {found : Option NativeOffsets} :
    api.decided n = .ok found ↔ (api.answer n).1 = 0 ∧ (api.answer n).2 = found := by
  unfold decided conclude concludeOnce
  by_cases hstatus : (api.answer n).1 = 0
  · simp [hstatus]
  · simp only [hstatus, ↓reduceIte, false_and, iff_false]
    split
    · split <;> simp
    · simp

theorem decided_ne_panic (n : Nat) : api.decided n ≠ .panic := by
  unfold decided conclude concludeOnce
  by_cases hstatus : (api.answer n).1 = 0
  · simp [hstatus]
  · simp only [hstatus, ↓reduceIte]
    split
    · split <;> simp
    · simp

theorem slept_pauses (backoff n : Nat) : slept (pauses backoff n) + backoff = backoff * 2 ^ n := by
  induction n generalizing backoff with
  | zero => simp [pauses, slept]
  | succ n ih =>
      have hrest := ih (backoff * 2)
      have hpow : backoff * 2 * 2 ^ n = backoff * 2 ^ (n + 1) := by ring
      have hslept : slept (pauses backoff (n + 1)) = backoff + slept (pauses (backoff * 2) n) := by
        simp [pauses, slept, NativeCall.millis]
      omega

theorem queries_pauses (backoff n : Nat) : queries (pauses backoff n) = n := by
  induction n generalizing backoff with
  | zero => rfl
  | succ n ih =>
      have hrest := ih (backoff * 2)
      simp only [queries] at hrest
      simp [pauses, queries, List.countP_cons, NativeCall.isQuery, hrest]

theorem slept_append (first second : List NativeCall) :
    slept (first ++ second) = slept first + slept second := by
  simp [slept]

theorem queries_append (first second : List NativeCall) :
    queries (first ++ second) = queries first + queries second := by
  simp [queries]

end OffsetsApi

/-! What can be handed over. -/

/-- The target and the method can be described to the platform. -/
structure Describable (targetProcess : ResolvedProcess) (descriptor : MethodDescriptor) :
    Prop where
  uid : 0 ≤ targetProcess.uid
  name : 0 ∉ asBytes targetProcess.name
  className : 0 ∉ asBytes descriptor.fullyQualifiedClassName
  methodName : 0 ∉ asBytes descriptor.methodName
  parameters : ∀ parameter ∈ descriptor.fullyQualifiedParameters, 0 ∉ asBytes parameter

theorem exists_targetProcessArguments_iff {targetProcess : ResolvedProcess} :
    (∃ arguments, targetProcessArguments targetProcess = .ok arguments) ↔
      0 ≤ targetProcess.uid ∧ 0 ∉ asBytes targetProcess.name := by
  simp only [targetProcessArguments, guard_eq_ok_iff, bind_eq_ok_iff, cString_eq_ok_iff,
    pure, Except.pure, Except.ok.injEq, Int32.not_lt]
  constructor
  · rintro ⟨_, huid, _, ⟨hname, _⟩, _⟩
    exact ⟨huid, hname⟩
  · rintro ⟨huid, hname⟩
    exact ⟨_, huid, _, ⟨hname, rfl⟩, rfl⟩

theorem mapM_cString_eq_ok_iff {strings : List String} {bytes : List (List UInt8)} :
    strings.mapM cString = .ok bytes ↔
      (∀ string ∈ strings, 0 ∉ asBytes string) ∧ bytes = strings.map asBytes := by
  constructor
  · intro hok
    have hnul : ∀ string ∈ strings, 0 ∉ asBytes string := by
      intro string hstring
      obtain ⟨_, _, hone⟩ := exists_mem_of_mapM hok hstring
      exact (cString_eq_ok_iff.1 hone).1
    refine ⟨hnul, ?_⟩
    have hmap := mapM_eq_ok_map (f := cString) (g := asBytes) (l := strings)
      fun string hstring => cString_eq_ok_iff.2 ⟨hnul string hstring, rfl⟩
    rw [hmap, Except.ok.injEq] at hok
    exact hok.symm
  · rintro ⟨hnul, rfl⟩
    exact mapM_eq_ok_map fun string hstring => cString_eq_ok_iff.2 ⟨hnul string hstring, rfl⟩

theorem exists_methodDescriptorArguments_iff {descriptor : MethodDescriptor} :
    (∃ arguments, methodDescriptorArguments descriptor = .ok arguments) ↔
      0 ∉ asBytes descriptor.fullyQualifiedClassName ∧ 0 ∉ asBytes descriptor.methodName ∧
        ∀ parameter ∈ descriptor.fullyQualifiedParameters, 0 ∉ asBytes parameter := by
  simp only [methodDescriptorArguments, bind_eq_ok_iff, cString_eq_ok_iff, mapM_cString_eq_ok_iff,
    pure, Except.pure, Except.ok.injEq]
  constructor
  · rintro ⟨_, _, ⟨hclass, _⟩, _, ⟨hmethod, _⟩, _, ⟨hparameters, _⟩, _⟩
    exact ⟨hclass, hmethod, hparameters⟩
  · rintro ⟨hclass, hmethod, hparameters⟩
    exact ⟨_, _, ⟨hclass, rfl⟩, _, ⟨hmethod, rfl⟩, _, ⟨hparameters, rfl⟩, rfl⟩

theorem describable_iff {targetProcess : ResolvedProcess} {descriptor : MethodDescriptor} :
    Describable targetProcess descriptor ↔
      (∃ target, targetProcessArguments targetProcess = .ok target) ∧
        ∃ method, methodDescriptorArguments descriptor = .ok method := by
  rw [exists_targetProcessArguments_iff, exists_methodDescriptorArguments_iff]
  constructor
  · intro hdescribable
    exact ⟨⟨hdescribable.uid, hdescribable.name⟩, hdescribable.className, hdescribable.methodName,
      hdescribable.parameters⟩
  · rintro ⟨⟨huid, hname⟩, hclass, hmethod, hparameters⟩
    exact ⟨huid, hname, hclass, hmethod, hparameters⟩

/-- What the resolver keeps of the platform's object. -/
def NativeOffsets.toOffsets (offsets : NativeOffsets) : ExecutableMethodFileOffsets :=
  ⟨fromUtf8Lossy offsets.containerPath, offsets.containerOffset, offsets.methodOffset⟩

/-- What becomes of the answer that decides. -/
def delivered : Outcome AnyError (Option NativeOffsets) →
    Run NativeCall AnyError (Option ExecutableMethodFileOffsets)
  | .ok none => ⟨[], .ok none⟩
  | .ok (some offsets) =>
      ⟨[.getContainerPath, .getContainerOffset, .getMethodOffset, .destroyOffsets],
        .ok (some offsets.toOffsets)⟩
  | .error e => ⟨[], .error e⟩
  | .panic => ⟨[], .panic⟩

theorem delivered_eq_ok_iff {decision : Outcome AnyError (Option NativeOffsets)}
    {found : Option ExecutableMethodFileOffsets} :
    (delivered decision).outcome = .ok found ↔
      ∃ offsets, decision = .ok offsets ∧ found = offsets.map NativeOffsets.toOffsets := by
  cases decision with
  | ok offsets => cases offsets <;> simp [delivered, eq_comm]
  | error e => simp [delivered]
  | panic => simp [delivered]

theorem delivered_quiet (decision : Outcome AnyError (Option NativeOffsets)) :
    queries (delivered decision).trace = 0 ∧ slept (delivered decision).trace = 0 := by
  cases decision with
  | ok offsets =>
      cases offsets with
      | none => exact ⟨rfl, rfl⟩
      | some offsets => exact ⟨rfl, rfl⟩
  | error e => exact ⟨rfl, rfl⟩
  | panic => exact ⟨rfl, rfl⟩

namespace OffsetsApi

variable (api : OffsetsApi)

/-- What runs while the target and the method are described. -/
def resolveDescribed : Run NativeCall AnyError (Option ExecutableMethodFileOffsets) := do
  let offsets ← api.getExecutableMethodFileOffsetsWithRetry
  match offsets with
  | none => return none
  | some offsets => return some (← toConfigResolverOffsets offsets)

theorem resolveDescribed_eq {n : Nat} (hn : api.DecidedBy n) :
    api.resolveDescribed =
      ⟨pauses firstBackoff n ++ .getExecutableMethodFileOffsets (api.allocated n) ::
          (delivered (api.decided n)).trace,
        (delivered (api.decided n)).outcome⟩ := by
  rw [resolveDescribed, api.getExecutableMethodFileOffsetsWithRetry_eq hn]
  cases hdecided : api.decided n with
  | ok offsets =>
      cases offsets with
      | none => simp [Run.bind_def, Run.bind, delivered, pure]
      | some offsets =>
          simp [Run.bind_def, Run.bind, delivered, toConfigResolverOffsets, pure,
            NativeOffsets.toOffsets]
  | error e => simp [Run.bind_def, Run.bind, delivered]
  | panic => simp [Run.bind_def, Run.bind, delivered]

/-- A target or a method that cannot be described is not asked for. -/
theorem resolveOffsets_of_not_describable {targetProcess : ResolvedProcess}
    {descriptor : MethodDescriptor} (hnot : ¬ Describable targetProcess descriptor) :
    (∃ e, (api.resolveOffsets targetProcess descriptor).outcome = .error e) ∧
      queries (api.resolveOffsets targetProcess descriptor).trace = 0 ∧
      slept (api.resolveOffsets targetProcess descriptor).trace = 0 := by
  rw [resolveOffsets]
  cases htarget : targetProcessArguments targetProcess with
  | error e => exact ⟨⟨e, rfl⟩, rfl, rfl⟩
  | ok target =>
      cases hmethod : methodDescriptorArguments descriptor with
      | error e => exact ⟨⟨e, rfl⟩, rfl, rfl⟩
      | ok method => exact absurd (describable_iff.2 ⟨⟨_, htarget⟩, _, hmethod⟩) hnot

theorem resolveOffsets_of_describable {targetProcess : ResolvedProcess}
    {descriptor : MethodDescriptor} (hdescribable : Describable targetProcess descriptor)
    {n : Nat} (hn : api.DecidedBy n) :
    ∃ (target : UInt32 × List UInt8) (method : List UInt8 × List UInt8 × List (List UInt8)),
      api.resolveOffsets targetProcess descriptor =
        ⟨[.createTargetProcess target.1 targetProcess.pid target.2,
          .createMethodDescriptor method.1 method.2.1 method.2.2] ++
          (pauses firstBackoff n ++ .getExecutableMethodFileOffsets (api.allocated n) ::
            (delivered (api.decided n)).trace) ++
          [.destroyMethodDescriptor, .destroyTargetProcess],
        (delivered (api.decided n)).outcome⟩ := by
  obtain ⟨⟨target, htarget⟩, method, hmethod⟩ := describable_iff.1 hdescribable
  refine ⟨target, method, ?_⟩
  have hbody := api.resolveDescribed_eq hn
  unfold resolveDescribed at hbody
  simp only [resolveOffsets, htarget, hmethod, Run.bind_ofExcept_ok, hbody, Run.owning,
    Run.leaving, List.cons_append, List.append_assoc, List.nil_append]

/-- Offsets are found exactly when the target and the method can be described
and the answer that decides has status 0, and they are what that answer points
to.  However the platform answers, it is asked at most six times and waited
for at most 310 milliseconds, and only once and not at all without the flag. -/
theorem resolveOffsets_spec (targetProcess : ResolvedProcess) (descriptor : MethodDescriptor) :
    (∀ found, (api.resolveOffsets targetProcess descriptor).outcome = .ok found ↔
      Describable targetProcess descriptor ∧ ∃ n, api.DecidedBy n ∧ (api.answer n).1 = 0 ∧
        found = (api.answer n).2.map NativeOffsets.toOffsets) ∧
      (api.resolveOffsets targetProcess descriptor).outcome ≠ .panic ∧
      queries (api.resolveOffsets targetProcess descriptor).trace ≤ api.limit + 1 ∧
      slept (api.resolveOffsets targetProcess descriptor).trace + firstBackoff ≤
        firstBackoff * 2 ^ api.limit := by
  by_cases hdescribable : Describable targetProcess descriptor
  · obtain ⟨n, hn⟩ := api.exists_decidedBy
    obtain ⟨target, method, heq⟩ := api.resolveOffsets_of_describable hdescribable hn
    obtain ⟨hqueries, hslept⟩ := delivered_quiet (api.decided n)
    have htrace : queries (api.resolveOffsets targetProcess descriptor).trace = n + 1 ∧
        slept (api.resolveOffsets targetProcess descriptor).trace =
          slept (pauses firstBackoff n) := by
      rw [heq]
      constructor
      · have hpauses := queries_pauses firstBackoff n
        simp only [queries] at hqueries hpauses
        simp [queries, List.countP_cons, NativeCall.isQuery, hqueries, hpauses]
      · simp only [slept] at hslept
        simp [slept, NativeCall.millis, hslept]
    refine ⟨?_, ?_, ?_, ?_⟩
    · intro found
      rw [heq, delivered_eq_ok_iff]
      simp only [decided_eq_ok_iff]
      constructor
      · rintro ⟨offsets, ⟨hstatus, rfl⟩, rfl⟩
        exact ⟨hdescribable, n, hn, hstatus, rfl⟩
      · rintro ⟨_, m, hm, hstatus, rfl⟩
        rw [DecidedBy.unique api hm hn] at hstatus ⊢
        exact ⟨_, ⟨hstatus, rfl⟩, rfl⟩
    · rw [heq]
      cases hdecided : api.decided n with
      | ok offsets => cases offsets <;> simp [delivered]
      | error e => simp [delivered]
      | panic => exact absurd hdecided (api.decided_ne_panic n)
    · have hle := hn.le
      omega
    · have hsum := slept_pauses firstBackoff n
      have hpow : 2 ^ n ≤ 2 ^ api.limit := Nat.pow_le_pow_right (by decide) hn.le
      have hscaled := Nat.mul_le_mul_left firstBackoff hpow
      omega
  · obtain ⟨⟨e, herror⟩, hqueries, hslept⟩ := api.resolveOffsets_of_not_describable hdescribable
    have hone : 1 ≤ 2 ^ api.limit := Nat.one_le_two_pow
    have hscaled := Nat.mul_le_mul_left firstBackoff hone
    refine ⟨?_, ?_, ?_, ?_⟩
    · intro found
      simp [herror, hdescribable]
    · simp [herror]
    · omega
    · omega

end OffsetsApi

/-! The platform's objects. -/

inductive NativeObject where
  | targetProcess
  | methodDescriptor
  | offsets
deriving DecidableEq, Repr

/-- What a call does to the platform's objects. -/
def NativeCall.effects : NativeCall → List (Effect NativeObject)
  | .createTargetProcess .. => [.acquire .targetProcess]
  | .createMethodDescriptor .. => [.acquire .methodDescriptor]
  | .getExecutableMethodFileOffsets allocated =>
      [.use .targetProcess, .use .methodDescriptor] ++ if allocated then [.acquire .offsets] else []
  | .sleep _ => []
  | .getContainerPath => [.use .offsets]
  | .getContainerOffset => [.use .offsets]
  | .getMethodOffset => [.use .offsets]
  | .destroyOffsets => [.release .offsets]
  | .destroyMethodDescriptor => [.release .methodDescriptor]
  | .destroyTargetProcess => [.release .targetProcess]

namespace OffsetsApi

variable (api : OffsetsApi)

theorem follow_pauses (backoff n : Nat) :
    follow [.methodDescriptor, .targetProcess] ((pauses backoff n).flatMap NativeCall.effects) =
      some [.methodDescriptor, .targetProcess] := by
  induction n generalizing backoff with
  | zero => rfl
  | succ n ih =>
      rw [pauses, List.flatMap_cons, follow_append]
      exact ih (backoff * 2)

/-- The body of `resolve_offsets` gives back the offsets it is given. -/
theorem resolveDescribed_leaves :
    api.resolveDescribed.Leaves NativeCall.effects [.methodDescriptor, .targetProcess]
      [.methodDescriptor, .targetProcess] := by
  obtain ⟨n, hn⟩ := api.exists_decidedBy
  rw [api.resolveDescribed_eq hn, Run.Leaves]
  simp only
  rw [List.flatMap_append, follow_append, follow_pauses, Option.bind_some, List.flatMap_cons,
    follow_append]
  by_cases hstatus : (api.answer n).1 = 0
  · have hdecided : api.decided n = .ok (api.answer n).2 := api.decided_eq_ok_iff.2 ⟨hstatus, rfl⟩
    rw [hdecided]
    cases hoffsets : (api.answer n).2 with
    | none =>
        simp only [allocated, hoffsets, Option.isSome_none, Bool.and_false]
        rfl
    | some offsets =>
        simp only [allocated, hoffsets, hstatus, Option.isSome_some, Bool.and_true, decide_true]
        rfl
  · have hnone : (delivered (api.decided n)).trace = [] := by
      cases hdecided : api.decided n with
      | ok offsets => exact absurd (api.decided_eq_ok_iff.1 hdecided).1 hstatus
      | error e => rfl
      | panic => rfl
    simp only [hnone, allocated, hstatus, decide_false, Bool.false_and]
    rfl

/-- However the platform answers, none of its objects is used before it has
been created or after it has been destroyed, and each is destroyed as often as
it was created. -/
theorem resolveOffsets_returns_objects (targetProcess : ResolvedProcess)
    (descriptor : MethodDescriptor) :
    (api.resolveOffsets targetProcess descriptor).Leaves NativeCall.effects [] [] ∧
      ∀ object : NativeObject,
        ((api.resolveOffsets targetProcess descriptor).trace.flatMap NativeCall.effects).count
            (.release object) =
          ((api.resolveOffsets targetProcess descriptor).trace.flatMap NativeCall.effects).count
            (.acquire object) := by
  have hleaves : (api.resolveOffsets targetProcess descriptor).Leaves NativeCall.effects [] [] := by
    rw [resolveOffsets]
    refine Run.Leaves.bind (Run.Leaves.ofExcept _) ?_
    intro target _
    refine Run.Leaves.owning rfl rfl (by simp) ?_
    refine Run.Leaves.bind (Run.Leaves.ofExcept _) ?_
    intro method _
    exact Run.Leaves.owning rfl rfl (by simp) api.resolveDescribed_leaves
  exact ⟨hleaves, fun object => count_release_eq hleaves object⟩

end OffsetsApi

end UprobeStats
