/-
Services bound with permission to start activities from the background, from
the call to the event.  To the handler every string of the intent may be
missing; to the program the component may not.
-/
import UprobeStats.DisruptiveAppRecords
import UprobeStats.JavaStrings
import UprobeStats.StaleBytes

namespace UprobeStats.DisruptiveApp

open Bytes Memory Traced

/-- The reference can be read, and it is to this string. -/
def Gets (mem : Image) (reference : Option UInt64) (s : String) : Prop :=
  ∃ jstring, reference = some jstring ∧ RefersTo mem jstring s ∧ IsAscii s

/-- A call of `bindServiceLocked` with the flag and an intent, all of whose
memory can be read: the component and the strings, which are empty where a
reference is null. -/
structure Binds (ctx : StackRegs) (mem : Image) (componentName : UInt64)
    (strings : BindStrings) : Prop where
  flag : ctx.regs 7 &&& kBindAllowBackgroundActivityStartsFlag ≠ 0
  intent : ctx.regs 4 ≠ 0
  intentPackage : Gets mem (pointerAt mem (ctx.regs 4 + kIntentPackageOffset)) strings.intentPackage
  intentAction : Gets mem (pointerAt mem (ctx.regs 4 + kIntentActionOffset)) strings.intentAction
  component : pointerAt mem (ctx.regs 4 + kIntentComponentNameOffset) = some componentName
  intentComponentNamePackage :
    if componentName = 0 then strings.intentComponentNamePackage = ""
    else Gets mem (pointerAt mem (componentName + kComponentNamePackageOffset))
      strings.intentComponentNamePackage
  intentComponentNameClass :
    if componentName = 0 then strings.intentComponentNameClass = ""
    else Gets mem (pointerAt mem (componentName + kComponentNameClassOffset))
      strings.intentComponentNameClass
  callingPackage :
    Gets mem (pointerAt mem (ctx.sp + kCallingPackageStackFrameOffset)) strings.callingPackage
  callingPackage_ne : strings.callingPackage ≠ ""

/-- The writer and the bridge service succeed. -/
structure AllSucceed (env : Environment) : Prop where
  write : ∀ place, env.onWrite place = .ok ()
  get : ∀ place, env.onGet place = .ok ()
  getUidForPackage : ∀ place, ∃ uid, env.onGetUidForPackage place = .ok uid
  enqueueEvent : env.onEnqueueEvent = .ok ()

/-- The entries of the event. -/
def BindStrings.entries (strings : BindStrings) : List BridgeEntry := [
  ⟨"CALLING_PACKAGE", .stringValue strings.callingPackage⟩,
  ⟨"INTENT_PACKAGE", .stringValue strings.intentPackage⟩,
  ⟨"INTENT_ACTION", .stringValue strings.intentAction⟩,
  ⟨"INTENT_COMPONENT_NAME_PACKAGE", .stringValue strings.intentComponentNamePackage⟩,
  ⟨"INTENT_COMPONENT_NAME_CLASS", .stringValue strings.intentComponentNameClass⟩]

/-- The program submits a record without an error, the handler takes it, and
the one event that it enqueues has the strings of the call. -/
def Reported (ctx : StackRegs) (mem : Image) (reserved : BindServiceLocked) (env : Environment)
    (strings : BindStrings) : Prop :=
  ∃ record, (bindServiceLocked ctx mem (some reserved)).2 = some record ∧
    0 ≤ record.errorCode ∧
    (BindServiceLockedHandler.onItem env record).outcome = .ok () ∧
    ∃ event,
      (BindServiceLockedHandler.onItem env record).trace.filterMap Sent.bridgeEvent = [event] ∧
      event.payloadId =
        DynamicInstrumentationPayloadIds.bindAllowBackgroundActivityStarts.toInt32 ∧
      event.payload = strings.entries

/-- Every string leaves room for the NUL of its array. -/
structure BindStrings.Fit (strings : BindStrings) : Prop where
  callingPackage : strings.callingPackage.length < 128
  intentPackage : strings.intentPackage.length < 128
  intentAction : strings.intentAction.length < 128
  intentComponentNamePackage : strings.intentComponentNamePackage.length < 128
  intentComponentNameClass : strings.intentComponentNameClass.length < 128

/-- What the arrays have room for. -/
def BindStrings.cut (strings : BindStrings) : BindStrings where
  callingPackage := takeChars 127 strings.callingPackage
  intentPackage := takeChars 127 strings.intentPackage
  intentAction := takeChars 127 strings.intentAction
  intentComponentNamePackage := takeChars 127 strings.intentComponentNamePackage
  intentComponentNameClass := takeChars 127 strings.intentComponentNameClass

theorem BindStrings.cut_entries_eq_iff {strings : BindStrings} :
    strings.cut.entries = strings.entries ↔ strings.Fit := by
  simp only [entries, cut, List.cons.injEq, BridgeEntry.mk.injEq, BridgeValue.stringValue.injEq,
    true_and, and_true, takeChars_eq_iff, Nat.le_iff_lt_add_one]
  exact ⟨fun ⟨calling, package, action, namePackage, nameClass⟩ =>
      ⟨calling, package, action, namePackage, nameClass⟩,
    fun hfit => ⟨hfit.callingPackage, hfit.intentPackage, hfit.intentAction,
      hfit.intentComponentNamePackage, hfit.intentComponentNameClass⟩⟩

/-! The program. -/

theorem Gets.isSome {mem : Image} {reference : Option UInt64} {s : String}
    (hgets : Gets mem reference s) {maxLength : Nat} (hpos : 0 < maxLength) (next : Option UInt64) :
    (reference.bind fun jstring => (copied mem maxLength jstring).bind fun _ => next) = next := by
  obtain ⟨jstring, rfl, hrefers, hascii⟩ := hgets
  have hcopied := (hrefers.copiedString_fst hascii hpos).1
  rw [Option.bind_some, copied, if_neg hcopied.not_gt, Option.bind_some]

theorem Gets.bytesAsStr_filled {mem : Image} {reference : Option UInt64} {s : String}
    (hgets : Gets mem reference s) (dest : CharArray) :
    bytesAsStr (filled mem maxStringLength wholeArray reference dest).1 = .ok (takeChars 127 s) := by
  obtain ⟨jstring, hreference, hrefers, hascii⟩ := hgets
  rw [filled_of_reference wholeArray hreference]
  exact hrefers.bytesAsStr_eq hascii wholeArray.1 dest.1

section Program

variable {ctx : StackRegs} {mem : Image} {componentName : UInt64} {strings : BindStrings}

theorem Binds.gets_intentPackage (hbinds : Binds ctx mem componentName strings) :
    Gets mem (BindReferences.intentPackage ctx mem) strings.intentPackage := by
  rw [BindReferences.intentPackage, nonNull, if_neg hbinds.intent]
  exact hbinds.intentPackage

theorem Binds.gets_intentAction (hbinds : Binds ctx mem componentName strings) :
    Gets mem (BindReferences.intentAction ctx mem) strings.intentAction := by
  have hreached := hbinds.gets_intentPackage.isSome wholeArray.1
    (pointerAt mem (ctx.regs 4 + kIntentActionOffset))
  have hfield := hbinds.intentAction
  rw [← hreached] at hfield
  exact hfield

/-- What the program makes of a missing component. -/
theorem Binds.componentName_eq (hbinds : Binds ctx mem componentName strings) :
    BindReferences.componentName ctx mem = nonNull componentName := by
  have hreached := hbinds.gets_intentAction.isSome wholeArray.1
    ((pointerAt mem (ctx.regs 4 + kIntentComponentNameOffset)).bind nonNull)
  rw [hbinds.component, Option.bind_some] at hreached
  rw [← hreached, BindReferences.componentName, hbinds.component]
  rfl

theorem Binds.callingPackage_eq_none (hbinds : Binds ctx mem componentName strings)
    (hnull : componentName = 0) : BindReferences.callingPackage ctx mem = none := by
  simp [BindReferences.callingPackage, BindReferences.intentComponentNameClass,
    BindReferences.intentComponentNamePackage, hbinds.componentName_eq, nonNull, hnull]

section Present

variable (hbinds : Binds ctx mem componentName strings) (hpresent : componentName ≠ 0)
include hbinds hpresent

theorem Binds.gets_intentComponentNamePackage :
    Gets mem (BindReferences.intentComponentNamePackage ctx mem)
      strings.intentComponentNamePackage := by
  have hfield := hbinds.intentComponentNamePackage
  rw [if_neg hpresent] at hfield
  rwa [BindReferences.intentComponentNamePackage, hbinds.componentName_eq, nonNull,
    if_neg hpresent]

theorem Binds.gets_intentComponentNameClass :
    Gets mem (BindReferences.intentComponentNameClass ctx mem)
      strings.intentComponentNameClass := by
  have hfield := hbinds.intentComponentNameClass
  rw [if_neg hpresent] at hfield
  have hreached := (hbinds.gets_intentComponentNamePackage hpresent).isSome wholeArray.1
    (pointerAt mem (componentName + kComponentNameClassOffset))
  rw [← hreached] at hfield
  rw [BindReferences.intentComponentNameClass, hbinds.componentName_eq, nonNull, if_neg hpresent]
  exact hfield

theorem Binds.gets_callingPackage :
    Gets mem (BindReferences.callingPackage ctx mem) strings.callingPackage := by
  have hreached := (hbinds.gets_intentComponentNameClass hpresent).isSome wholeArray.1
    (pointerAt mem (ctx.sp + kCallingPackageStackFrameOffset))
  have hfield := hbinds.callingPackage
  rw [← hreached] at hfield
  exact hfield

/-- The error code is the number of bytes that were copied last. -/
theorem Binds.errorCode_nonneg (reserved : BindServiceLocked) :
    0 ≤ (boundRecord ctx mem reserved).errorCode := by
  obtain ⟨jstring, hreference, hrefers, hascii⟩ := hbinds.gets_callingPackage hpresent
  obtain ⟨hlower, hupper⟩ := hrefers.copiedString_fst hascii wholeArray.1
  have hmax : ((maxStringLength : Nat) : Int) = 128 := rfl
  rw [boundRecord, hreference, Option.elim_some, Int64.le_iff_toInt_le, Int64.toInt_zero,
    Int64.toInt_ofInt_of_le (by omega) (by omega)]
  exact hlower

/-- The handler finds the strings of the call in the record. -/
theorem Binds.ofRecord_eq (reserved : BindServiceLocked) :
    BindStrings.ofRecord (boundRecord ctx mem reserved) = .ok strings.cut := by
  simp only [BindStrings.ofRecord, boundRecord, hbinds.gets_intentAction.bytesAsStr_filled,
    hbinds.gets_intentPackage.bytesAsStr_filled,
    (hbinds.gets_intentComponentNamePackage hpresent).bytesAsStr_filled,
    (hbinds.gets_intentComponentNameClass hpresent).bytesAsStr_filled,
    (hbinds.gets_callingPackage hpresent).bytesAsStr_filled]
  rfl

end Present

theorem Binds.errorCode_neg (hbinds : Binds ctx mem componentName strings)
    (hnull : componentName = 0) (reserved : BindServiceLocked) :
    (boundRecord ctx mem reserved).errorCode < 0 := by
  have hfault : (boundRecord ctx mem reserved).errorCode = Int64.ofInt efault := by
    rw [boundRecord, hbinds.callingPackage_eq_none hnull, Option.elim_none]
  rw [hfault]
  decide

end Program

/-! The handler. -/

theorem flags_ne_zero {flags : UInt64} (hflag : flags &&& kBindAllowBackgroundActivityStartsFlag ≠ 0) :
    flags.toInt64 &&& bindAllowBackgroundActivityStarts ≠ 0 := by
  intro hzero
  exact hflag (congrArg Int64.toUInt64 hzero)

section Handler

variable {env : Environment} {strings : BindStrings} {flags : Int64}

/-- No event comes from the atoms. -/
theorem select_logToStatsd (hsucceed : AllSucceed env) :
    (BindServiceLockedHandler.logToStatsd env strings flags).select Sent.bridgeEvent = pure () := by
  obtain ⟨binderUid, hbinder⟩ := hsucceed.getUidForPackage 0
  obtain ⟨bindeeUid, hbindee⟩ := hsucceed.getUidForPackage 1
  simp only [BindServiceLockedHandler.logToStatsd, Environment.get, Environment.write,
    Environment.getUidForPackage, hsucceed.write, hsucceed.get, hbinder, hbindee]
  cases env.isUserBuild <;> cases strings.callingPackage.isEmpty <;>
    cases strings.bindeePackage.isEmpty <;> rfl

/-- The event about these strings. -/
def BindStrings.event (strings : BindStrings) (timestampMs : Int64) : BridgeEvent where
  uid := 0
  timestampMs := timestampMs
  payloadId := DynamicInstrumentationPayloadIds.bindAllowBackgroundActivityStarts.toInt32
  payload := strings.entries

theorem select_handle (hsucceed : AllSucceed env) (hnonempty : strings.allEmpty = false)
    (hflag : flags &&& bindAllowBackgroundActivityStarts ≠ 0) :
    (BindServiceLockedHandler.handle env strings flags).select Sent.bridgeEvent =
      Run.silent (getCurrentTimestampMillis env.sinceEpoch).forget >>= fun timestampMs =>
        ⟨[strings.event timestampMs], .ok ()⟩ := by
  rw [BindServiceLockedHandler.handle, hnonempty, if_neg Bool.false_ne_true, if_neg hflag,
    Run.select_bind, select_logToStatsd hsucceed]
  simp only [BindServiceLockedHandler.enqueueDynamicInstrumentationEvent, Run.select_bind,
    Run.select_silent, Environment.get, Environment.enqueueEvent, Environment.select_ask,
    hsucceed.get, hsucceed.enqueueEvent, Sent.bridgeEvent, Option.toList]
  cases getCurrentTimestampMillis env.sinceEpoch <;> rfl

/-- The clock can be read as an `i64` of milliseconds. -/
def ClockFits (sinceEpoch : Int) : Prop := 0 ≤ sinceEpoch ∧ sinceEpoch.toNat / 1000000 < 2 ^ 63

theorem getCurrentTimestampMillis_cases (sinceEpoch : Int) :
    (ClockFits sinceEpoch ∧ ∃ timestampMs, getCurrentTimestampMillis sinceEpoch = .ok timestampMs) ∨
      (¬ ClockFits sinceEpoch ∧ getCurrentTimestampMillis sinceEpoch = .panic) := by
  unfold ClockFits getCurrentTimestampMillis tryIntoI64
  by_cases hbefore : sinceEpoch < 0
  · exact .inr ⟨fun hfits => hfits.1.not_gt hbefore, if_pos hbefore⟩
  rw [if_neg hbefore]
  by_cases hbeyond : sinceEpoch.toNat / 1000000 < 2 ^ 63
  · exact .inl ⟨⟨not_lt.1 hbefore, hbeyond⟩, _, by rw [if_pos hbeyond]⟩
  · exact .inr ⟨fun hfits => hbeyond hfits.2, by rw [if_neg hbeyond]⟩

/-- A record with strings is taken exactly when the clock can be read, and then
its strings are in the event. -/
theorem handle_reports_iff (hsucceed : AllSucceed env) (hnonempty : strings.allEmpty = false)
    (hflag : flags &&& bindAllowBackgroundActivityStarts ≠ 0) (entries : List BridgeEntry) :
    ((BindServiceLockedHandler.handle env strings flags).outcome = .ok () ∧ ∃ event,
      (BindServiceLockedHandler.handle env strings flags).trace.filterMap Sent.bridgeEvent =
          [event] ∧
        event.payloadId =
          DynamicInstrumentationPayloadIds.bindAllowBackgroundActivityStarts.toInt32 ∧
        event.payload = entries) ↔ ClockFits env.sinceEpoch ∧ strings.entries = entries := by
  have hselect := select_handle hsucceed hnonempty hflag
  rw [← Run.outcome_select_eq_ok_iff Sent.bridgeEvent]
  change _ ∧ (∃ event, ((BindServiceLockedHandler.handle env strings flags).select
    Sent.bridgeEvent).trace = [event] ∧ _) ↔ _
  rw [hselect]
  obtain ⟨hfits, timestampMs, hread⟩ | ⟨hmiss, hpanic⟩ :=
    getCurrentTimestampMillis_cases env.sinceEpoch
  · rw [hread]
    constructor
    · rintro ⟨_, event, hevent, _, hentries⟩
      obtain rfl : strings.event timestampMs = event := List.singleton_inj.1 hevent
      exact ⟨hfits, hentries⟩
    · rintro ⟨_, hentries⟩
      exact ⟨rfl, strings.event timestampMs, rfl, rfl, hentries⟩
  · rw [hpanic]
    exact iff_of_false (fun ⟨hok, _⟩ => by cases hok) (fun ⟨hfits, _⟩ => hmiss hfits)

end Handler

/-! From the call to the event. -/

theorem allEmpty_cut {strings : BindStrings} (hnonempty : strings.callingPackage ≠ "") :
    strings.cut.allEmpty = false := by
  have hcalling : strings.cut.callingPackage.isEmpty = false := by
    rw [Bool.eq_false_iff, Ne, String.isEmpty_iff, BindStrings.cut]
    intro hempty
    have hlength := congrArg String.length hempty
    exact hnonempty (by simpa [takeChars] using hlength)
  rw [BindStrings.allEmpty, hcalling]
  rfl

section Reported

variable {ctx : StackRegs} {mem : Image} {componentName : UInt64} {strings : BindStrings}
  (hbinds : Binds ctx mem componentName strings) (reserved : BindServiceLocked)
  {env : Environment} (hsucceed : AllSucceed env)
include hbinds hsucceed

/-- A call is reported with what fits of its strings, if its intent has a
component and the clock can be read. -/
theorem Binds.reported_iff_cut (other : BindStrings) :
    Reported ctx mem reserved env other ↔
      componentName ≠ 0 ∧ ClockFits env.sinceEpoch ∧ strings.cut.entries = other.entries := by
  unfold Reported
  rw [bindServiceLocked_snd, if_neg hbinds.flag]
  simp only [Option.some.injEq, exists_eq_left']
  by_cases hpresent : componentName = 0
  · have herror := hbinds.errorCode_neg hpresent reserved
    exact iff_of_false (fun hreported => Int64.not_lt.2 hreported.1 herror)
      (fun hcondition => hcondition.1 hpresent)
  · have herror := hbinds.errorCode_nonneg hpresent reserved
    have hflags : (boundRecord ctx mem reserved).bindFlags &&&
        bindAllowBackgroundActivityStarts ≠ 0 := flags_ne_zero hbinds.flag
    rw [and_iff_right herror, and_iff_right hpresent]
    simp only [BindServiceLockedHandler.onItem, if_neg (Int64.not_lt.2 herror),
      hbinds.ofRecord_eq hpresent, Run.bind_ofExcept_ok]
    exact handle_reports_iff hsucceed (allEmpty_cut hbinds.callingPackage_ne) hflags other.entries

/-- With the strings themselves exactly when they fit. -/
theorem Binds.reported_iff :
    Reported ctx mem reserved env strings ↔
      componentName ≠ 0 ∧ ClockFits env.sinceEpoch ∧ strings.Fit := by
  rw [hbinds.reported_iff_cut reserved hsucceed, BindStrings.cut_entries_eq_iff]

/-- Every call whose intent has a component is reported, with the first 127
characters of its strings. -/
theorem component_reported (hpresent : componentName ≠ 0) (hclock : ClockFits env.sinceEpoch) :
    Reported ctx mem reserved env strings.cut :=
  (hbinds.reported_iff_cut reserved hsucceed strings.cut).2 ⟨hpresent, hclock, rfl⟩

end Reported

/-! A call with nothing in its intent but a component. -/

def callerContext : StackRegs where
  regs register := if register = 4 then 0x1000 else if register = 7 then 0x00100000 else 0
  sp := 0x2000

/-- The caller's name, the intent, a component without names and the stack. -/
def callerImage (caller : String) (componentName : Nat) : Image :=
  ofObjects [
    (0x3000, javaObject (asBytes caller)),
    (0x1000, List.replicate 20 0 ++ toLittleEndian 4 componentName ++ List.replicate 28 0),
    (0x4000, List.replicate 16 0),
    (0x2000, List.replicate 60 0 ++ toLittleEndian 4 0x3000)]

/-- The same without the name. -/
def callerFrame (componentName : Nat) : Image :=
  ofObjects [
    (0x1000, List.replicate 20 0 ++ toLittleEndian 4 componentName ++ List.replicate 28 0),
    (0x4000, List.replicate 16 0),
    (0x2000, List.replicate 60 0 ++ toLittleEndian 4 0x3000)]

def callerStrings (caller : String) : BindStrings := ⟨caller, "", "", "", ""⟩

theorem gets_null {mem : Image} {reference : Option UInt64} (hnull : reference = some 0) :
    Gets mem reference "" :=
  ⟨0, hnull, rfl, by decide⟩

theorem gets_caller {caller : String} {componentName : Nat} {reference : Option UInt64}
    (hreference : reference = some 0x3000) (hlength : (asBytes caller).length < 2 ^ 31)
    (hascii : IsAscii caller) : Gets (callerImage caller componentName) reference caller :=
  ⟨0x3000, hreference, javaString_ofObjects 0x3000 hlength _, hascii⟩

/-- What is read behind the caller's name is read in the other objects. -/
theorem pointerAt_callerImage {caller : String} {componentName : Nat} {address : UInt64}
    (hlength : (asBytes caller).length < 4000)
    (hfar : ∀ i < 4, 4016 ≤ (address + UInt64.ofNat i - 0x3000).toNat) :
    pointerAt (callerImage caller componentName) address =
      pointerAt (callerFrame componentName) address := by
  have hread : read (callerImage caller componentName) address 4 =
      read (callerFrame componentName) address 4 := by
    rw [callerImage, callerFrame]
    apply read_ofObjects_tail
    intro i hi
    refine le_trans ?_ (hfar i hi)
    simp only [javaObject, List.length_append, List.length_replicate, length_toLittleEndian]
    omega
  have hprobe : bpfProbeReadUser (callerImage caller componentName) 4 address =
      bpfProbeReadUser (callerFrame componentName) 4 address := by
    rw [bpfProbeReadUser, bpfProbeReadUser, hread]
  rw [pointerAt, pointerAt, readPointer, readPointer, hprobe]

/-- The call of this caller, for a component without names or for none. -/
theorem binds_callerImage {caller : String} (hlength : (asBytes caller).length < 4000)
    (hascii : IsAscii caller) (hnonempty : caller ≠ "") {componentName : Nat}
    (hcomponent : componentName = 0x4000 ∨ componentName = 0) :
    Binds callerContext (callerImage caller componentName) (UInt64.ofNat componentName)
      (callerStrings caller) where
  flag := by decide
  intent := by decide
  intentPackage := by
    apply gets_null
    rw [pointerAt_callerImage hlength (by decide)]
    rcases hcomponent with rfl | rfl <;> decide +kernel
  intentAction := by
    apply gets_null
    rw [pointerAt_callerImage hlength (by decide)]
    rcases hcomponent with rfl | rfl <;> decide +kernel
  component := by
    rw [pointerAt_callerImage hlength (by decide)]
    rcases hcomponent with rfl | rfl <;> decide +kernel
  intentComponentNamePackage := by
    rcases hcomponent with rfl | rfl
    · rw [if_neg (by decide)]
      apply gets_null
      rw [pointerAt_callerImage hlength (by decide)]
      decide +kernel
    · rfl
  intentComponentNameClass := by
    rcases hcomponent with rfl | rfl
    · rw [if_neg (by decide)]
      apply gets_null
      rw [pointerAt_callerImage hlength (by decide)]
      decide +kernel
    · rfl
  callingPackage := by
    apply gets_caller
    · rw [pointerAt_callerImage hlength (by decide)]
      rcases hcomponent with rfl | rfl <;> decide +kernel
    · omega
    · exact hascii
  callingPackage_ne := hnonempty

theorem allSucceed_succeeding : AllSucceed .succeeding :=
  ⟨fun _ => rfl, fun _ => rfl, fun _ => ⟨0, rfl⟩, rfl⟩

theorem component_reported_caller :
    Reported callerContext (callerImage "com.caller" 0x4000) StaleBytes.zeros.bindServiceLocked
      .succeeding (callerStrings "com.caller").cut :=
  component_reported (binds_callerImage (by decide) (by decide) (by decide) (.inl rfl)) _
    allSucceed_succeeding (by decide) ⟨by decide, by decide⟩

/-- A name that fills its array. -/
def caller128 : String := String.ofList (List.replicate 128 'a')

theorem binds_callerImage_long : Binds callerContext (callerImage caller128 0x4000) 0x4000
    (callerStrings caller128) := by
  have hascii : IsAscii caller128 := by decide +kernel
  refine binds_callerImage ?_ hascii (by decide +kernel) (.inl rfl)
  rw [hascii.length_asBytes]
  decide +kernel

theorem binds_callerImage_null : Binds callerContext (callerImage "com.caller" 0) 0
    (callerStrings "com.caller") :=
  binds_callerImage (by decide) (by decide) (by decide) (.inr rfl)

/-- The entries have 127 characters of the longer name, and nothing is reported
without a component. -/
theorem caller_not_reported :
    AllSucceed .succeeding ∧
      (Binds callerContext (callerImage caller128 0x4000) 0x4000 (callerStrings caller128) ∧
        ¬ Reported callerContext (callerImage caller128 0x4000)
          StaleBytes.zeros.bindServiceLocked .succeeding (callerStrings caller128)) ∧
      Binds callerContext (callerImage "com.caller" 0) 0 (callerStrings "com.caller") ∧
        ¬ Reported callerContext (callerImage "com.caller" 0)
          StaleBytes.zeros.bindServiceLocked .succeeding (callerStrings "com.caller") := by
  refine ⟨allSucceed_succeeding, ⟨binds_callerImage_long, ?_⟩, binds_callerImage_null, ?_⟩
  · rw [binds_callerImage_long.reported_iff _ allSucceed_succeeding]
    intro hreported
    exact absurd hreported.2.2.callingPackage (by decide +kernel)
  · rw [binds_callerImage_null.reported_iff _ allSucceed_succeeding]
    intro hreported
    exact hreported.1 rfl

end UprobeStats.DisruptiveApp
