/-
The time of an event of the bridge service.  The consumer reads it as
milliseconds since the epoch; three handlers put the time of handling there,
and the accessibility handler the monotonic time at which the kernel saw the
call.
-/
import UprobeStats.Accessibility
import UprobeStats.DisruptiveApp
import UprobeStats.TaskHandlers

namespace UprobeStats

open Traced

/-- An item of one of the handlers that send events. -/
inductive BridgeItem where
  | accessibility (handler : Accessibility.AccessibilityHandler) (service : BridgeService)
      (data : Accessibility.AccessibilityEvent)
  | binderTransaction (task : ResolvedTask) (data : BinderTransaction)
  | componentEnabledSetting (data : DisruptiveApp.ComponentEnabledSetting)
  | bindServiceLocked (data : DisruptiveApp.BindServiceLocked)

/-- An item, and the outside while it is handled. -/
structure Handling where
  item : BridgeItem
  env : Environment

/-- The event is passed to `enqueueEvent` by the handler of the item. -/
def Handling.Enqueues (handling : Handling) (event : BridgeEvent) : Prop :=
  ∃ flush, match handling.item with
    | .accessibility handler service data =>
        .enqueueEvent event flush ∈ (handler.onItem service data).1.trace
    | .binderTransaction task data => .bridge (.enqueueEvent event flush) ∈
        (BinderTransactionHandler.onItem handling.env task data).trace
    | .componentEnabledSetting data => .bridge (.enqueueEvent event flush) ∈
        (DisruptiveApp.ComponentEnabledSettingHandler.onItem handling.env data).trace
    | .bindServiceLocked data => .bridge (.enqueueEvent event flush) ∈
        (DisruptiveApp.BindServiceLockedHandler.onItem handling.env data).trace

/-- Milliseconds since the epoch. -/
def epochMillis (sinceEpoch : Int) : Int := sinceEpoch / 1000000

/-- All events have the time of their handling, and as long as the clock does
not go back, those of binder transactions come in the order of their times. -/
structure OneClock (handlings : List Handling) : Prop where
  epoch : ∀ handling ∈ handlings, ∀ event, handling.Enqueues event →
    event.timestampMs.toInt = epochMillis handling.env.sinceEpoch
  ordered : (handlings.Pairwise fun first second =>
      first.env.sinceEpoch ≤ second.env.sinceEpoch) →
    handlings.Pairwise fun first second => ∀ earlier later,
      first.Enqueues earlier → second.Enqueues later →
        earlier.payloadId = DynamicInstrumentationPayloadIds.binderTransaction.toInt32 →
        later.payloadId = DynamicInstrumentationPayloadIds.binderTransaction.toInt32 →
          earlier.timestampMs ≤ later.timestampMs

/-- The order follows from the times. -/
theorem oneClock_iff_epoch (handlings : List Handling) :
    OneClock handlings ↔ ∀ handling ∈ handlings, ∀ event, handling.Enqueues event →
      event.timestampMs.toInt = epochMillis handling.env.sinceEpoch := by
  refine ⟨OneClock.epoch, fun hepoch => ⟨hepoch, fun hclock => ?_⟩⟩
  refine hclock.imp_of_mem ?_
  intro first second hfirst hsecond hle earlier later hearlier hlater _ _
  rw [Int64.le_iff_toInt_le, hepoch first hfirst earlier hearlier,
    hepoch second hsecond later hlater]
  exact Int.ediv_le_ediv (by decide) hle

/-! The handlers that read the clock. -/

theorem getCurrentTimestampMillis_eq_ok {sinceEpoch : Int} {timestampMs : Int64}
    (hread : getCurrentTimestampMillis sinceEpoch = .ok timestampMs) :
    timestampMs.toInt = epochMillis sinceEpoch := by
  unfold getCurrentTimestampMillis tryIntoI64 at hread
  split at hread
  · cases hread
  · split at hread
    · cases hread
    · rename_i hok
      split at hok
      · cases hok
        cases hread
        rw [Int64.toInt_ofNat_of_lt (by assumption), epochMillis]
        omega
      · cases hok

/-- The event carries the time of this reading. -/
def AtEpoch (sinceEpoch : Int) (sent : Sent) : Prop :=
  ∀ event flush, sent = .bridge (.enqueueEvent event flush) →
    event.timestampMs.toInt = epochMillis sinceEpoch

section Epoch

variable (env : Environment)

theorem all_ask {α : Type} {sent : Sent} (hsent : AtEpoch env.sinceEpoch sent)
    (answer : Except String α) : (Environment.ask sent answer).All (AtEpoch env.sinceEpoch) :=
  (Run.All.emit hsent).bind fun _ => .of_trace_eq_nil (Run.trace_ofExcept _)

theorem all_silent {ε α : Type} (outcome : Outcome ε α) :
    (Run.silent outcome : Run Sent ε α).All (AtEpoch env.sinceEpoch) :=
  .of_trace_eq_nil rfl

theorem all_ofExcept {ε α : Type} (answer : Except ε α) :
    (Run.ofExcept answer : Run Sent ε α).All (AtEpoch env.sinceEpoch) :=
  .of_trace_eq_nil (Run.trace_ofExcept answer)

/-- An event that is made from the reading. -/
theorem all_enqueueEvent {timestampMs : Int64}
    (hread : getCurrentTimestampMillis env.sinceEpoch = .ok timestampMs) {event : BridgeEvent}
    (hevent : event.timestampMs = timestampMs) (flush : Bool) :
    (env.enqueueEvent event flush).All (AtEpoch env.sinceEpoch) := by
  apply all_ask
  intro other _ heq
  cases heq
  rw [hevent]
  exact getCurrentTimestampMillis_eq_ok hread

theorem all_write (place : Nat) (atom : CodegenAtom) :
    (env.write place atom).All (AtEpoch env.sinceEpoch) :=
  all_ask env (fun _ _ heq => by cases heq) _

theorem all_writeUnstructured (place : Nat) (atom : UnstructuredAtom) :
    (env.writeUnstructured place atom).All (AtEpoch env.sinceEpoch) :=
  all_ask env (fun _ _ heq => by cases heq) _

theorem all_get (place : Nat) : (env.get place).All (AtEpoch env.sinceEpoch) :=
  all_ask env (fun _ _ heq => by cases heq) _

theorem all_getUidForPackage (place : Nat) (packageName : String) :
    (env.getUidForPackage place packageName).All (AtEpoch env.sinceEpoch) :=
  all_ask env (fun _ _ heq => by cases heq) _

theorem all_isLauncherActivity (packageName className : String) (includeDisabled : Bool) :
    (env.isLauncherActivity packageName className includeDisabled).All
      (AtEpoch env.sinceEpoch) :=
  all_ask env (fun _ _ heq => by cases heq) _

theorem componentEnabledSetting_all (data : DisruptiveApp.ComponentEnabledSetting) :
    (DisruptiveApp.ComponentEnabledSettingHandler.onItem env data).All
      (AtEpoch env.sinceEpoch) := by
  have hcheck : ∀ packageName className newState callingPackageName,
      (DisruptiveApp.ComponentEnabledSettingHandler.checkDisabledLauncherActivityAndLogToStatsd env
        packageName className newState callingPackageName).All (AtEpoch env.sinceEpoch) := by
    intro packageName className newState callingPackageName
    refine .ite (all_silent env _) ((all_get env 0).bind fun _ =>
      (all_isLauncherActivity env _ _ _).bind fun _ => ?_)
    refine .ite ((all_write env _ _).bind fun _ => .ite ?_ (all_silent env _))
      (.ite ?_ (all_silent env _))
    all_goals exact (all_getUidForPackage env _ _).bind fun _ =>
      (all_getUidForPackage env _ _).bind fun _ => (all_write env _ _).bind fun _ => all_silent env _
  refine .ite (all_silent env _) ((all_ofExcept env _).bind fun _ =>
    (all_ofExcept env _).bind fun _ => (all_ofExcept env _).bind fun _ => ?_)
  refine (hcheck _ _ _ _).bind fun _ => .ite ?_ (all_silent env _)
  refine (all_get env 1).bind fun _ => (all_getUidForPackage env _ _).bind fun _ =>
    (all_silent env _).bind_ok fun timestampMs hread => ?_
  exact all_enqueueEvent env hread rfl false

theorem bindServiceLocked_all (data : DisruptiveApp.BindServiceLocked) :
    (DisruptiveApp.BindServiceLockedHandler.onItem env data).All (AtEpoch env.sinceEpoch) := by
  have hlog : ∀ strings flags, (DisruptiveApp.BindServiceLockedHandler.logToStatsd env strings
      flags).All (AtEpoch env.sinceEpoch) := by
    intro strings flags
    refine .ite ((all_write env _ _).bind fun _ => .ite ?_ (all_silent env _))
      (.ite ?_ (all_silent env _))
    all_goals exact (all_get env 0).bind fun _ => (all_getUidForPackage env _ _).bind fun _ =>
      (all_getUidForPackage env _ _).bind fun _ => all_write env _ _
  refine .ite (all_silent env _) ((all_ofExcept env _).bind fun _ =>
    .ite (all_silent env _) (.ite (all_silent env _) ((hlog _ _).bind fun _ => ?_)))
  refine (all_get env 1).bind fun _ => (all_silent env _).bind_ok fun timestampMs hread => ?_
  exact all_enqueueEvent env hread rfl false

theorem binderTransaction_all (task : ResolvedTask) (data : BinderTransaction) :
    (BinderTransactionHandler.onItem env task data).All (AtEpoch env.sinceEpoch) := by
  have hfields : ∀ uid name code timestampNs positions,
      (BinderTransactionHandler.positionFields uid name code timestampNs positions).trace = [] := by
    intro uid name code timestampNs positions
    induction positions with
    | nil => rfl
    | cons position rest ih =>
        refine Run.trace_bind_eq_nil ?_ fun _ => Run.trace_bind_eq_nil ih fun _ => rfl
        cases position <;> rfl
  have hotherwise : ∀ {α : Type} (answer : Except AnyError α),
      (otherwise answer).All (AtEpoch env.sinceEpoch) :=
    fun answer => (all_ofExcept env answer).mapErr _
  refine (hotherwise _).bind fun name => ?_
  cases BinderTransactionHandler.findMethod task name data.code with
  | none => exact all_silent env _
  | some methodConfig =>
      refine .ite (Run.All.bind ?_ fun _ => ?_) (all_silent env _)
      · cases methodConfig.atomConfig with
        | none => exact all_silent env _
        | some atomConfig =>
            refine (hotherwise _).bind fun timestampNs => Run.All.bind ?_ fun _ => ?_
            · exact .of_trace_eq_nil (hfields _ _ _ _ _)
            · exact (all_writeUnstructured env _ _).mapErr _
      · cases methodConfig.eventServiceConfig with
        | none => exact all_silent env _
        | some eventServiceConfig =>
            refine ((all_silent env _).mapErr _).bind_ok fun timestampMs hread => ?_
            rw [Run.outcome_mapErr_eq_ok_iff] at hread
            refine ((all_get env 0).bind fun _ => ?_).mapErr _
            exact all_enqueueEvent env hread rfl _

end Epoch

/-! The handler that has the kernel's time. -/

namespace Accessibility

theorem mem_trace_call {α : Type} {request other : BridgeCall} {answer : Except String α} :
    other ∈ (BridgeService.call request answer).trace ↔ other = request := by
  rw [BridgeService.call, Run.mem_trace_bind]
  simp [Run.emit, Run.trace_ofExcept]

theorem outcome_call_eq_ok_iff {α : Type} {request : BridgeCall} {answer : Except String α}
    {value : α} :
    (BridgeService.call request answer).outcome = .ok value ↔ answer = .ok value := by
  cases answer <;>
    simp [BridgeService.call, Run.bind_def, Run.bind, Run.emit, Run.ofExcept, foreign]

/-- What comes after a call that is not the event itself. -/
theorem mem_trace_call_bind {α β : Type} {request other : BridgeCall} (hne : other ≠ request)
    {answer : Except String α} {next : α → Run BridgeCall AnyError β} :
    other ∈ (BridgeService.call request answer >>= next).trace ↔
      ∃ value, answer = .ok value ∧ other ∈ (next value).trace := by
  simp only [Run.mem_trace_bind, mem_trace_call, hne, outcome_call_eq_ok_iff, false_or]

/-- The event is made and sent. -/
theorem mem_trace_send {service : BridgeService} {made : Event} {event : BridgeEvent}
    {flush : Bool} {stored : Option Event} :
    .enqueueEvent event flush ∈ (do
        let sent ← Run.silent made.toBridgeEvent
        service.enqueueEvent sent false
        return stored : Run BridgeCall AnyError (Option Event)).trace ↔
      flush = false ∧ made.toBridgeEvent = .ok event := by
  have hpure : (pure stored : Run BridgeCall AnyError (Option Event)).trace = [] := rfl
  simp only [Run.mem_trace_bind, Run.trace_silent, Run.outcome_silent, List.not_mem_nil,
    BridgeService.enqueueEvent, mem_trace_call, hpure, and_false, exists_false, or_false,
    false_or, BridgeCall.enqueueEvent.injEq]
  constructor
  · rintro ⟨sent, hsent, rfl, rfl⟩
    exact ⟨rfl, hsent⟩
  · rintro ⟨rfl, hsent⟩
    exact ⟨event, hsent, rfl, rfl⟩

/-- A grant gets through to the bridge service. -/
structure GrantSends (service : BridgeService) (data : AccessibilityEvent)
    (packageName permissionName : String) (uid : Int32) : Prop where
  package_eq : bytesAsNonemptyStr data.packageName = .ok packageName
  permission_eq : bytesAsNonemptyStr data.permissionName = .ok permissionName
  system : startsWith permissionName "android.permission" = true
  get : service.onGet = .ok ()
  enabled : service.onPackageHasEnabledAccessibilityService packageName = .ok true
  uid_eq : service.onGetUidForPackage packageName = .ok uid

theorem mem_trace_grant {service : BridgeService} {data : AccessibilityEvent}
    {timestampNs : UInt64} {event : BridgeEvent} {flush : Bool} :
    .enqueueEvent event flush ∈ (handlePermissionGrantEvent service data timestampNs).trace ↔
      flush = false ∧ ∃ packageName permissionName uid,
        GrantSends service data packageName permissionName uid ∧
        (Event.new uid timestampNs (.runtimePermissionGrant permissionName)).toBridgeEvent =
          .ok event := by
  constructor
  · intro hmem
    rcases Run.mem_trace_bind.1 hmem with hmem | ⟨packageName, hpackage, hmem⟩
    · rw [Run.trace_ofExcept] at hmem
      cases hmem
    rcases Run.mem_trace_bind.1 hmem with hmem | ⟨permissionName, hpermission, hmem⟩
    · rw [Run.trace_ofExcept] at hmem
      cases hmem
    rw [Run.outcome_ofExcept_eq_ok_iff] at hpackage hpermission
    dsimp only at hmem
    split at hmem
    · cases hmem
    rename_i hsystem
    obtain ⟨_, hget, hmem⟩ := (mem_trace_call_bind (by simp)).1 hmem
    obtain ⟨enabled, henabled, hmem⟩ := (mem_trace_call_bind (by simp)).1 hmem
    split at hmem
    · cases hmem
    rename_i hservice
    obtain ⟨uid, huid, hmem⟩ := (mem_trace_call_bind (by simp)).1 hmem
    obtain ⟨hflush, hevent⟩ := mem_trace_send.1 hmem
    simp only [Bool.not_eq_true', Bool.not_eq_false] at hsystem hservice
    subst hservice
    exact ⟨hflush, packageName, permissionName, uid,
      ⟨hpackage, hpermission, hsystem, hget, henabled, huid⟩, hevent⟩
  · rintro ⟨hflush, packageName, permissionName, uid, hgrant, hevent⟩
    simp only [handlePermissionGrantEvent, hgrant.package_eq, hgrant.permission_eq,
      Run.bind_ofExcept_ok, hgrant.system, Bool.not_true, Bool.false_eq_true, ↓reduceIte]
    refine (mem_trace_call_bind (by simp)).2 ⟨(), hgrant.get, ?_⟩
    refine (mem_trace_call_bind (by simp)).2 ⟨true, hgrant.enabled, ?_⟩
    refine (mem_trace_call_bind (by simp)).2 ⟨uid, hgrant.uid_eq, ?_⟩
    exact mem_trace_send.2 ⟨hflush, hevent⟩

/-- An item of which the bridge service gets an event. -/
def Sends (service : BridgeService) (data : AccessibilityEvent) : Prop :=
  ¬ data.errorCode < 0 ∧
    (data.variant = 1 ∧ (∃ packageName permissionName uid,
        GrantSends service data packageName permissionName uid) ∨
      data.variant = 2 ∧ service.onGet = .ok ())

/-- The event has the kernel's time. -/
theorem toBridgeEvent_timestampMs (event : Event) :
    ∃ sent, event.toBridgeEvent = .ok sent ∧
      sent.timestampMs.toInt = event.timestamp.asMillis := by
  rw [Event.toBridgeEvent, tryIntoI64_asMillis]
  exact ⟨_, rfl, Int64.toInt_ofNat_of_lt event.asMillis_lt⟩

theorem trace_onItem (handler : AccessibilityHandler) (service : BridgeService)
    (data : AccessibilityEvent) :
    (handler.onItem service data).1.trace = (handleItem service data).trace := by
  unfold AccessibilityHandler.onItem
  dsimp only
  split <;> rfl

theorem mem_trace_a11y {service : BridgeService} {data : AccessibilityEvent}
    {timestampNs : UInt64} {event : BridgeEvent} {flush : Bool} :
    .enqueueEvent event flush ∈ (handleA11yEvent service data timestampNs).trace ↔
      service.onGet = .ok () ∧ flush = false ∧
        (Event.new data.uid timestampNs (.a11y data.code)).toBridgeEvent = .ok event := by
  refine (mem_trace_call_bind (by simp)).trans ?_
  simp only [mem_trace_send, exists_and_right]
  exact and_congr_left fun _ => ⟨fun ⟨_, hget⟩ => hget, fun hget => ⟨(), hget⟩⟩

/-- Only items that get through send an event, and it has the time of the
record. -/
theorem sends_of_mem_trace {service : BridgeService} {data : AccessibilityEvent}
    {event : BridgeEvent} {flush : Bool}
    (hmem : .enqueueEvent event flush ∈ (handleItem service data).trace) :
    Sends service data ∧
      event.timestampMs.toInt = (data.timestampNs.toNat / 1000000 : Nat) := by
  have htime : ∀ uid variant, (Event.new uid data.timestampNs variant).toBridgeEvent = .ok event →
      event.timestampMs.toInt = (data.timestampNs.toNat / 1000000 : Nat) := by
    intro uid variant hevent
    obtain ⟨sent, hsent, hmillis⟩ := toBridgeEvent_timestampMs (.new uid data.timestampNs variant)
    rw [hevent, Outcome.ok.injEq] at hsent
    rw [hsent]
    exact hmillis
  unfold handleItem at hmem
  split at hmem
  · cases hmem
  rename_i herror
  split at hmem
  · rename_i hvariant
    obtain ⟨_, packageName, permissionName, uid, hgrant, hevent⟩ := mem_trace_grant.1 hmem
    exact ⟨⟨herror, .inl ⟨hvariant, packageName, permissionName, uid, hgrant⟩⟩, htime _ _ hevent⟩
  split at hmem
  · rename_i hvariant
    obtain ⟨hget, _, hevent⟩ := mem_trace_a11y.1 hmem
    exact ⟨⟨herror, .inr ⟨hvariant, hget⟩⟩, htime _ _ hevent⟩
  · cases hmem

theorem exists_mem_trace_of_sends {service : BridgeService} {data : AccessibilityEvent}
    (hsends : Sends service data) :
    ∃ event, .enqueueEvent event false ∈ (handleItem service data).trace := by
  obtain ⟨herror, ⟨hvariant, packageName, permissionName, uid, hgrant⟩ | ⟨hvariant, hget⟩⟩ :=
    hsends
  · obtain ⟨sent, hsent, _⟩ := toBridgeEvent_timestampMs
      (.new uid data.timestampNs (.runtimePermissionGrant permissionName))
    refine ⟨sent, ?_⟩
    rw [handleItem, if_neg herror, if_pos hvariant]
    exact mem_trace_grant.2 ⟨rfl, packageName, permissionName, uid, hgrant, hsent⟩
  · obtain ⟨sent, hsent, _⟩ := toBridgeEvent_timestampMs
      (.new data.uid data.timestampNs (.a11y data.code))
    refine ⟨sent, ?_⟩
    rw [handleItem, if_neg herror, if_neg (by rw [hvariant]; decide), if_pos hvariant]
    exact mem_trace_a11y.2 ⟨hget, rfl, hsent⟩

end Accessibility

/-- The item's event, if there is one, has the time of its handling. -/
def Handling.ReadsEpoch (handling : Handling) : Prop :=
  match handling.item with
  | .accessibility _ service data => Accessibility.Sends service data →
      (data.timestampNs.toNat / 1000000 : Nat) = epochMillis handling.env.sinceEpoch
  | _ => True

theorem Handling.epoch_iff_readsEpoch (handling : Handling) :
    (∀ event, handling.Enqueues event →
        event.timestampMs.toInt = epochMillis handling.env.sinceEpoch) ↔
      handling.ReadsEpoch := by
  obtain ⟨item, env⟩ := handling
  cases item with
  | accessibility handler service data =>
      simp only [Handling.Enqueues, Handling.ReadsEpoch, forall_exists_index,
        Accessibility.trace_onItem]
      constructor
      · intro hepoch hsends
        obtain ⟨event, hmem⟩ := Accessibility.exists_mem_trace_of_sends hsends
        rw [← (Accessibility.sends_of_mem_trace hmem).2]
        exact hepoch event false hmem
      · intro hreads event flush hmem
        obtain ⟨hsends, hmillis⟩ := Accessibility.sends_of_mem_trace hmem
        rw [hmillis]
        exact hreads hsends
  | binderTransaction task data =>
      refine iff_of_true ?_ trivial
      rintro event ⟨flush, hmem⟩
      exact binderTransaction_all env task data _ hmem event flush rfl
  | componentEnabledSetting data =>
      refine iff_of_true ?_ trivial
      rintro event ⟨flush, hmem⟩
      exact componentEnabledSetting_all env data _ hmem event flush rfl
  | bindServiceLocked data =>
      refine iff_of_true ?_ trivial
      rintro event ⟨flush, hmem⟩
      exact bindServiceLocked_all env data _ hmem event flush rfl

/-- There is one clock exactly when no accessibility item that gets through has
a monotonic time other than the time of its handling. -/
theorem oneClock_iff_readsEpoch (handlings : List Handling) :
    OneClock handlings ↔ ∀ handling ∈ handlings, handling.ReadsEpoch := by
  rw [oneClock_iff_epoch]
  constructor
  · intro hepoch handling hmem
    exact handling.epoch_iff_readsEpoch.1 (hepoch handling hmem)
  · intro hreads handling hmem
    exact handling.epoch_iff_readsEpoch.2 (hreads handling hmem)

/-- A gesture five seconds after boot, handled in the year 2025. -/
def gestureAfterBoot : Handling where
  item := .accessibility .default
    ⟨.ok (), fun _ => .ok false, fun _ => .ok 10001, fun _ _ => .ok ()⟩ {
      errorCode := 0
      timestampNs := 5000000000
      variant := 2
      packageName := List.replicate maxStringLength 0
      permissionName := List.replicate maxStringLength 0
      uid := 10001
      code := 1
      packageName_length := length_zeros
      permissionName_length := length_zeros }
  env := { Environment.succeeding with sinceEpoch := 1750000000000000000 }

/-- The consumer is told that the gesture was in the first seconds of 1970. -/
theorem gestureAfterBoot_enqueues :
    (∃ event, gestureAfterBoot.Enqueues event ∧ event.timestampMs = 5000) ∧
      ¬ OneClock [gestureAfterBoot] := by
  have hgesture : gestureAfterBoot.Enqueues {
      uid := 10001
      timestampMs := 5000
      payloadId := 1
      payload := [
        ⟨"CODE", .intValue 1⟩,
        ⟨"INTERFACE_NAME", .stringValue
          "android.accessibilityservice.IAccessibilityServiceConnection"⟩] } :=
    ⟨false, List.mem_cons_of_mem _ List.mem_cons_self⟩
  refine ⟨⟨_, hgesture, rfl⟩, fun hclock => ?_⟩
  have hepoch := hclock.epoch gestureAfterBoot List.mem_cons_self _ hgesture
  exact absurd hepoch (by decide)

end UprobeStats
