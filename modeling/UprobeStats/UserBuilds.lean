/-
What the atoms of the disruptive-app handlers give away.  On a user build they
carry uids only, and the contents of the recorded strings make no difference
to them; other builds write one more atom, with the strings in it.
-/
import UprobeStats.DisruptiveApp

namespace UprobeStats.DisruptiveApp

open Bytes Traced

inductive Record where
  | component (data : ComponentEnabledSetting)
  | bind (data : BindServiceLocked)

/-- A record and what the outside answers while it is handled. -/
structure Arrival where
  record : Record
  env : Environment

/-- The surroundings on a given build, with a writer that always succeeds. -/
def Arrival.surroundings (arrival : Arrival) (isUserBuild : Bool) : Environment :=
  { arrival.env with
    isUserBuild := isUserBuild
    onWrite := fun _ => .ok () }

/-- `on_item` of the handler that the record goes to. -/
def Arrival.handled (arrival : Arrival) (isUserBuild : Bool) : Run Sent AnyError Unit :=
  match arrival.record with
  | .component data => ComponentEnabledSettingHandler.onItem (arrival.surroundings isUserBuild) data
  | .bind data => BindServiceLockedHandler.onItem (arrival.surroundings isUserBuild) data

def Arrival.atoms (arrival : Arrival) (isUserBuild : Bool) : List CodegenAtom :=
  (arrival.handled isUserBuild).trace.filterMap Sent.codegenAtom

/-- The atoms of a sequence of records.  The handlers have no state, so a
handler that is given up after an error has just seen a shorter sequence. -/
def written (isUserBuild : Bool) (arrivals : List Arrival) : List CodegenAtom :=
  arrivals.flatMap (Arrival.atoms · isUserBuild)

/-- The two atoms without strings. -/
inductive UidsOnly : CodegenAtom → Prop where
  | disabledLauncherActivity (callingUid disabledActivityUid : Int32) :
      UidsOnly (.disabledLauncherActivityUidsReported callingUid disabledActivityUid)
  | bindServiceLocked (binderUid bindeeUid : Int32) :
      UidsOnly (.bindServiceLockedWithBalFlagsUidsReported binderUid bindeeUid)

/-! The atoms, spelled out. -/

section Component

variable (env : Environment) (packageName className : String) (newState : Int32)
  (callingPackageName : String)

/-- The atom with the strings, for a disabled component whose launcher query is
answered. -/
def settingAtom : Option CodegenAtom :=
  if newState < componentEnabledStateDisabled then none
  else
    match env.onGet 0, env.onIsLauncherActivity with
    | .ok _, .ok isLauncherActivity =>
        some (.setComponentEnabledSettingReported packageName className newState
          callingPackageName isLauncherActivity)
    | _, _ => none

/-- The atom with the uids, for a disabled launcher activity with a caller. -/
def disabledUidsAtom (callingIsEmpty : Bool) : Option CodegenAtom :=
  if newState < componentEnabledStateDisabled then none
  else
    match env.onGet 0, env.onIsLauncherActivity, env.onGetUidForPackage 0,
        env.onGetUidForPackage 1 with
    | .ok _, .ok true, .ok callingUid, .ok disabledActivityUid =>
        if callingIsEmpty then none
        else some (.disabledLauncherActivityUidsReported callingUid disabledActivityUid)
    | _, _, _, _ => none

theorem atoms_checkDisabledLauncherActivity (hwrite : env.onWrite = fun _ => .ok ()) :
    ((ComponentEnabledSettingHandler.checkDisabledLauncherActivityAndLogToStatsd env packageName
      className newState callingPackageName).select Sent.codegenAtom).trace =
        (if env.isUserBuild then none
          else settingAtom env packageName className newState callingPackageName).toList ++
        (disabledUidsAtom env newState callingPackageName.isEmpty).toList := by
  simp only [ComponentEnabledSettingHandler.checkDisabledLauncherActivityAndLogToStatsd,
    apply_ite (Run.select Sent.codegenAtom), Run.select_bind, Run.select_pure, Environment.get,
    Environment.isLauncherActivity, Environment.write, Environment.getUidForPackage,
    Environment.select_ask, Sent.codegenAtom, Option.toList, hwrite, settingAtom, disabledUidsAtom]
  by_cases hstate : newState < componentEnabledStateDisabled
  · simp [hstate, pure]
  · simp only [hstate, ↓reduceIte]
    cases env.onGet 0 with
    | error text => cases env.isUserBuild <;> simp [answered, Run.bind_def, Run.bind]
    | ok _ =>
      cases env.onIsLauncherActivity with
      | error text => cases env.isUserBuild <;> simp [answered, Run.bind_def, Run.bind]
      | ok isLauncherActivity =>
        simp only [answered, Run.bind_def, Run.bind]
        cases isLauncherActivity <;> cases callingPackageName.isEmpty <;>
          cases env.onGetUidForPackage 0 <;> cases env.onGetUidForPackage 1 <;>
          cases env.isUserBuild <;> simp [pure]

/-- The event that follows adds no atom. -/
theorem atoms_handleComponent (hwrite : env.onWrite = fun _ => .ok ()) :
    (ComponentEnabledSettingHandler.handle env packageName className newState
      callingPackageName).trace.filterMap Sent.codegenAtom =
        (if env.isUserBuild then none
          else settingAtom env packageName className newState callingPackageName).toList ++
        (disabledUidsAtom env newState callingPackageName.isEmpty).toList := by
  rw [← atoms_checkDisabledLauncherActivity env packageName className newState callingPackageName
    hwrite]
  change ((ComponentEnabledSettingHandler.handle env packageName className newState
    callingPackageName).select Sent.codegenAtom).trace = _
  rw [ComponentEnabledSettingHandler.handle, Run.select_bind]
  apply Run.trace_bind_of_nil
  intro isDisabledLauncherActivity
  cases isDisabledLauncherActivity with
  | false => rfl
  | true =>
      simp only [↓reduceIte, ComponentEnabledSettingHandler.enqueueDynamicInstrumentationEvent,
        Run.select_bind, Run.select_silent, Environment.get, Environment.getUidForPackage,
        Environment.enqueueEvent, Environment.select_ask, Sent.codegenAtom, Option.toList]
      apply Run.trace_bind_eq_nil rfl
      intro _
      apply Run.trace_bind_eq_nil rfl
      intro uid
      apply Run.trace_bind_eq_nil rfl
      intro timestampMs
      rfl

end Component

section Bind

variable (env : Environment) (strings : BindStrings) (flags : Int64)

/-- The atom with the strings. -/
def bindAtom : CodegenAtom :=
  .bindServiceLockedWithBalFlagsReported strings.intentPackage flags strings.callingPackage
    strings.intentAction strings.intentComponentNamePackage strings.intentComponentNameClass

/-- The atom with the uids, when both packages are known. -/
def bindUidsAtom (callingIsEmpty bindeeIsEmpty : Bool) : Option CodegenAtom :=
  if callingIsEmpty || bindeeIsEmpty then none
  else
    match env.onGet 0, env.onGetUidForPackage 0, env.onGetUidForPackage 1 with
    | .ok _, .ok binderUid, .ok bindeeUid =>
        some (.bindServiceLockedWithBalFlagsUidsReported binderUid bindeeUid)
    | _, _, _ => none

theorem atoms_logToStatsd (hwrite : env.onWrite = fun _ => .ok ()) :
    ((BindServiceLockedHandler.logToStatsd env strings flags).select Sent.codegenAtom).trace =
      (if env.isUserBuild then [] else [bindAtom strings flags]) ++
        (bindUidsAtom env strings.callingPackage.isEmpty strings.bindeePackage.isEmpty).toList := by
  simp only [BindServiceLockedHandler.logToStatsd, apply_ite (Run.select Sent.codegenAtom),
    Run.select_bind, Run.select_pure, Environment.get, Environment.write,
    Environment.getUidForPackage, Environment.select_ask, Sent.codegenAtom, Option.toList, hwrite,
    bindAtom, bindUidsAtom]
  simp only [answered, Run.bind_def, Run.bind]
  cases strings.callingPackage.isEmpty <;> cases strings.bindeePackage.isEmpty <;>
    cases env.onGet 0 <;> cases env.onGetUidForPackage 0 <;> cases env.onGetUidForPackage 1 <;>
    cases env.isUserBuild <;> simp [pure]

/-- Nothing is written for a record without strings or without the flag. -/
theorem atoms_handleBind (hwrite : env.onWrite = fun _ => .ok ()) :
    (BindServiceLockedHandler.handle env strings flags).trace.filterMap Sent.codegenAtom =
      if strings.allEmpty ∨ flags &&& bindAllowBackgroundActivityStarts = 0 then []
      else
        (if env.isUserBuild then [] else [bindAtom strings flags]) ++
          (bindUidsAtom env strings.callingPackage.isEmpty
            strings.bindeePackage.isEmpty).toList := by
  rw [BindServiceLockedHandler.handle]
  by_cases hempty : strings.allEmpty
  · simp [hempty, Run.fail]
  by_cases hflag : flags &&& bindAllowBackgroundActivityStarts = 0
  · simp [hempty, hflag, pure]
  simp only [hempty, hflag, Bool.false_eq_true, ↓reduceIte, or_self]
  rw [← atoms_logToStatsd env strings flags hwrite]
  change ((BindServiceLockedHandler.logToStatsd env strings flags >>= fun _ =>
    BindServiceLockedHandler.enqueueDynamicInstrumentationEvent env strings).select
      Sent.codegenAtom).trace = _
  rw [Run.select_bind]
  apply Run.trace_bind_of_nil
  intro _
  simp only [BindServiceLockedHandler.enqueueDynamicInstrumentationEvent, Run.select_bind,
    Run.select_silent, Environment.get, Environment.enqueueEvent, Environment.select_ask,
    Sent.codegenAtom, Option.toList]
  apply Run.trace_bind_eq_nil rfl
  intro _
  apply Run.trace_bind_eq_nil rfl
  intro timestampMs
  rfl

end Bind

/-! The atoms of a record. -/

/-- Whether a recorded string is one, and if so whether it is empty. -/
def shape (bytes : List UInt8) : Option Bool :=
  match bytesAsStr bytes with
  | .ok string => some string.isEmpty
  | .error _ => none

theorem shape_cases (bytes : List UInt8) :
    (∃ string, bytesAsStr bytes = .ok string ∧ shape bytes = some string.isEmpty) ∨
      ∃ e, bytesAsStr bytes = .error e ∧ shape bytes = none := by
  unfold shape
  cases bytesAsStr bytes with
  | ok string => exact .inl ⟨string, rfl, rfl⟩
  | error e => exact .inr ⟨e, rfl, rfl⟩

theorem shape_cases_nonempty (bytes : List UInt8) :
    (∃ string, bytesAsNonemptyStr bytes = .ok string ∧ shape bytes = some false) ∨
      ∃ e, bytesAsNonemptyStr bytes = .error e ∧ shape bytes ≠ some false := by
  unfold bytesAsNonemptyStr
  obtain ⟨string, hstring, hshape⟩ | ⟨e, hstring, hshape⟩ := shape_cases bytes
  · rw [hstring, hshape]
    cases hempty : string.isEmpty with
    | true =>
        refine .inr ⟨.message "bytes_as_str returned an unexpected empty string", ?_, by simp⟩
        simp [bind, Except.bind, hempty]
    | false => exact .inl ⟨string, by simp [bind, Except.bind, hempty, pure, Except.pure], rfl⟩
  · rw [hstring, hshape]
    exact .inr ⟨e, rfl, by simp⟩

/-- The atom with the uids, from the shapes of the five strings. -/
def bindUidsOfShapes (env : Environment) (flags : Int64) :
    (calling intent action package componentClass : Option Bool) → Option CodegenAtom
  | some calling, some intent, some action, some package, some componentClass =>
      if (calling && intent && action && package && componentClass) = true ∨
          flags &&& bindAllowBackgroundActivityStarts = 0 then none
      else bindUidsAtom env calling (intent && package)
  | _, _, _, _, _ => none

namespace Arrival

/-- The atom with the strings of the record. -/
def stringAtom (arrival : Arrival) : Option CodegenAtom :=
  match arrival.record with
  | .component data =>
      if data.errorCode < 0 then none
      else
        match bytesAsNonemptyStr data.packageName.1, bytesAsNonemptyStr data.className.1,
            bytesAsStr data.callingPackageName.1 with
        | .ok packageName, .ok className, .ok callingPackageName =>
            settingAtom arrival.env packageName className data.newState callingPackageName
        | _, _, _ => none
  | .bind data =>
      if data.errorCode < 0 then none
      else
        match BindStrings.ofRecord data with
        | .error _ => none
        | .ok strings =>
            if strings.allEmpty ∨ data.bindFlags &&& bindAllowBackgroundActivityStarts = 0 then none
            else some (bindAtom strings data.bindFlags)

/-- The atom with the uids.  Of the strings, only their shapes play a part. -/
def uidsAtom (arrival : Arrival) : Option CodegenAtom :=
  match arrival.record with
  | .component data =>
      if data.errorCode < 0 then none
      else
        match shape data.packageName.1, shape data.className.1,
            shape data.callingPackageName.1 with
        | some false, some false, some callingIsEmpty =>
            disabledUidsAtom arrival.env data.newState callingIsEmpty
        | _, _, _ => none
  | .bind data =>
      if data.errorCode < 0 then none
      else
        bindUidsOfShapes arrival.env data.bindFlags (shape data.callingPackage.1)
          (shape data.intentPackage.1) (shape data.intentAction.1)
          (shape data.intentComponentNamePackage.1) (shape data.intentComponentNameClass.1)

theorem atoms_component (env : Environment) (data : ComponentEnabledSetting)
    (isUserBuild : Bool) :
    Arrival.atoms ⟨.component data, env⟩ isUserBuild =
      (if isUserBuild then none else stringAtom ⟨.component data, env⟩).toList ++
        (uidsAtom ⟨.component data, env⟩).toList := by
  simp only [Arrival.atoms, handled, ComponentEnabledSettingHandler.onItem, stringAtom, uidsAtom]
  by_cases herror : data.errorCode < 0
  · simp [herror, Run.fail]
  simp only [herror, ↓reduceIte]
  obtain ⟨packageName, hpackage, hpackageShape⟩ | ⟨e, hpackage, hpackageShape⟩ :=
    shape_cases_nonempty data.packageName.1
  · obtain ⟨className, hclass, hclassShape⟩ | ⟨e, hclass, hclassShape⟩ :=
      shape_cases_nonempty data.className.1
    · obtain ⟨callingPackageName, hcalling, hcallingShape⟩ | ⟨e, hcalling, hcallingShape⟩ :=
        shape_cases data.callingPackageName.1
      · simp only [hpackage, hclass, hcalling, hpackageShape, hclassShape, hcallingShape,
          orBpfDataInvalid, Run.bind_ofExcept_ok]
        exact atoms_handleComponent (surroundings ⟨.component data, env⟩ isUserBuild) packageName
          className data.newState callingPackageName rfl
      · simp [hpackage, hclass, hcalling, hpackageShape, hclassShape, hcallingShape,
          orBpfDataInvalid]
    · simp [hpackage, hclass, hpackageShape, hclassShape, orBpfDataInvalid]
  · simp [hpackage, hpackageShape, orBpfDataInvalid]

theorem bindStrings_cases (data : BindServiceLocked) :
    (∃ strings, BindStrings.ofRecord data = .ok strings ∧
      shape data.callingPackage.1 = some strings.callingPackage.isEmpty ∧
      shape data.intentPackage.1 = some strings.intentPackage.isEmpty ∧
      shape data.intentAction.1 = some strings.intentAction.isEmpty ∧
      shape data.intentComponentNamePackage.1 =
        some strings.intentComponentNamePackage.isEmpty ∧
      shape data.intentComponentNameClass.1 = some strings.intentComponentNameClass.isEmpty) ∨
    ∃ e, BindStrings.ofRecord data = .error e ∧
      (shape data.callingPackage.1 = none ∨ shape data.intentPackage.1 = none ∨
        shape data.intentAction.1 = none ∨ shape data.intentComponentNamePackage.1 = none ∨
        shape data.intentComponentNameClass.1 = none) := by
  unfold BindStrings.ofRecord
  obtain ⟨callingPackage, hcalling, hcallingShape⟩ | ⟨e, hcalling, hshape⟩ :=
    shape_cases data.callingPackage.1
  case inr => exact .inr ⟨e, by rw [hcalling]; rfl, .inl hshape⟩
  obtain ⟨intentPackage, hintent, hintentShape⟩ | ⟨e, hintent, hshape⟩ :=
    shape_cases data.intentPackage.1
  case inr => exact .inr ⟨e, by rw [hcalling, hintent]; rfl, .inr (.inl hshape)⟩
  obtain ⟨intentAction, haction, hactionShape⟩ | ⟨e, haction, hshape⟩ :=
    shape_cases data.intentAction.1
  case inr => exact .inr ⟨e, by rw [hcalling, hintent, haction]; rfl, .inr (.inr (.inl hshape))⟩
  obtain ⟨package, hpackage, hpackageShape⟩ | ⟨e, hpackage, hshape⟩ :=
    shape_cases data.intentComponentNamePackage.1
  case inr =>
    exact .inr ⟨e, by rw [hcalling, hintent, haction, hpackage]; rfl,
      .inr (.inr (.inr (.inl hshape)))⟩
  obtain ⟨componentClass, hclass, hclassShape⟩ | ⟨e, hclass, hshape⟩ :=
    shape_cases data.intentComponentNameClass.1
  case inr =>
    exact .inr ⟨e, by rw [hcalling, hintent, haction, hpackage, hclass]; rfl,
      .inr (.inr (.inr (.inr hshape)))⟩
  exact .inl ⟨⟨callingPackage, intentPackage, intentAction, package, componentClass⟩,
    by rw [hcalling, hintent, haction, hpackage, hclass]; rfl, hcallingShape, hintentShape,
    hactionShape, hpackageShape, hclassShape⟩

theorem bindeePackage_isEmpty (strings : BindStrings) :
    strings.bindeePackage.isEmpty =
      (strings.intentPackage.isEmpty && strings.intentComponentNamePackage.isEmpty) := by
  unfold BindStrings.bindeePackage
  cases hintent : strings.intentPackage.isEmpty with
  | true => simp
  | false => simp [hintent]

theorem atoms_bind (env : Environment) (data : BindServiceLocked) (isUserBuild : Bool) :
    Arrival.atoms ⟨.bind data, env⟩ isUserBuild =
      (if isUserBuild then none else stringAtom ⟨.bind data, env⟩).toList ++
        (uidsAtom ⟨.bind data, env⟩).toList := by
  simp only [Arrival.atoms, handled, BindServiceLockedHandler.onItem, stringAtom, uidsAtom]
  by_cases herror : data.errorCode < 0
  · simp [herror, Run.fail]
  simp only [herror, ↓reduceIte]
  obtain ⟨strings, hstrings, hcalling, hintent, haction, hpackage, hclass⟩ |
    ⟨e, hstrings, hshapes⟩ := bindStrings_cases data
  · simp only [hstrings, Run.bind_ofExcept_ok, hcalling, hintent, haction, hpackage, hclass,
      bindUidsOfShapes]
    rw [atoms_handleBind _ _ _ rfl, bindeePackage_isEmpty, ← BindStrings.allEmpty]
    by_cases hquiet : strings.allEmpty = true ∨
        data.bindFlags &&& bindAllowBackgroundActivityStarts = 0
    · simp [hquiet]
    · simp only [hquiet, ↓reduceIte]
      cases isUserBuild <;> rfl
  · have huids : bindUidsOfShapes env data.bindFlags (shape data.callingPackage.1)
        (shape data.intentPackage.1) (shape data.intentAction.1)
        (shape data.intentComponentNamePackage.1) (shape data.intentComponentNameClass.1) =
          none := by
      rcases hshapes with hshape | hshape | hshape | hshape | hshape <;>
        simp [bindUidsOfShapes, hshape]
    simp [hstrings, huids]

theorem atoms_eq (arrival : Arrival) (isUserBuild : Bool) :
    arrival.atoms isUserBuild =
      (if isUserBuild then none else arrival.stringAtom).toList ++ arrival.uidsAtom.toList := by
  obtain ⟨record, env⟩ := arrival
  cases record with
  | component data => exact atoms_component env data isUserBuild
  | bind data => exact atoms_bind env data isUserBuild

/-- The record gets past validation: it has no error code and its strings are
strings where they have to be; its component is disabled and the launcher query
is answered, respectively its flag is set. -/
def GetsReported (arrival : Arrival) : Prop :=
  match arrival.record with
  | .component data =>
      ¬ data.errorCode < 0 ∧ shape data.packageName.1 = some false ∧
        shape data.className.1 = some false ∧ shape data.callingPackageName.1 ≠ none ∧
        componentEnabledStateDisabled ≤ data.newState ∧ (arrival.env.onGet 0).isOk = true ∧
        arrival.env.onIsLauncherActivity.isOk = true
  | .bind data =>
      ¬ data.errorCode < 0 ∧ (∃ strings, BindStrings.ofRecord data = .ok strings ∧
        strings.allEmpty = false) ∧ data.bindFlags &&& bindAllowBackgroundActivityStarts ≠ 0

end Arrival

/-- The two atoms with strings. -/
inductive CarriesStrings : CodegenAtom → Prop where
  | setting (packageName className : String) (newState : Int32) (callingPackageName : String)
      (isLauncherActivity : Bool) :
      CarriesStrings (.setComponentEnabledSettingReported packageName className newState
        callingPackageName isLauncherActivity)
  | bind (strings : BindStrings) (flags : Int64) : CarriesStrings (bindAtom strings flags)

namespace Arrival

theorem carriesStrings_settingAtom {env : Environment} {packageName className : String}
    {newState : Int32} {callingPackageName : String} {atom : CodegenAtom}
    (hatom : settingAtom env packageName className newState callingPackageName = some atom) :
    CarriesStrings atom := by
  unfold settingAtom at hatom
  split at hatom
  · cases hatom
  · split at hatom
    · cases hatom
      constructor
    · cases hatom

theorem settingAtom_isSome (env : Environment) (packageName className : String)
    (newState : Int32) (callingPackageName : String) :
    (settingAtom env packageName className newState callingPackageName).isSome = true ↔
      componentEnabledStateDisabled ≤ newState ∧ (env.onGet 0).isOk = true ∧
        env.onIsLauncherActivity.isOk = true := by
  unfold settingAtom
  by_cases hstate : newState < componentEnabledStateDisabled
  · simp [hstate, Int32.not_le.2 hstate]
  · simp only [hstate, ↓reduceIte, Int32.not_lt.1 hstate, true_and]
    cases env.onGet 0 <;> cases env.onIsLauncherActivity <;> simp [Except.isOk, Except.toBool]

/-- The atom with strings is there exactly for the records that get reported. -/
theorem stringAtom_isSome_iff (arrival : Arrival) :
    arrival.stringAtom.isSome = true ↔ arrival.GetsReported := by
  obtain ⟨record, env⟩ := arrival
  cases record with
  | component data =>
      simp only [stringAtom, GetsReported]
      by_cases herror : data.errorCode < 0
      · simp [herror]
      simp only [herror, ↓reduceIte, not_false_eq_true, true_and]
      obtain ⟨packageName, hpackage, hpackageShape⟩ | ⟨e, hpackage, hpackageShape⟩ :=
        shape_cases_nonempty data.packageName.1
      · obtain ⟨className, hclass, hclassShape⟩ | ⟨e, hclass, hclassShape⟩ :=
          shape_cases_nonempty data.className.1
        · obtain ⟨callingPackageName, hcalling, hcallingShape⟩ | ⟨e, hcalling, hcallingShape⟩ :=
            shape_cases data.callingPackageName.1
          · simp [hpackage, hclass, hcalling, hpackageShape, hclassShape, hcallingShape,
              settingAtom_isSome]
          · simp [hpackage, hclass, hcalling, hcallingShape]
        · simp [hpackage, hclass, hclassShape]
      · simp [hpackage, hpackageShape]
  | bind data =>
      simp only [stringAtom, GetsReported]
      by_cases herror : data.errorCode < 0
      · simp [herror]
      simp only [herror, ↓reduceIte, not_false_eq_true, true_and]
      cases hstrings : BindStrings.ofRecord data with
      | error e => simp
      | ok strings =>
          by_cases hquiet : strings.allEmpty = true ∨
              data.bindFlags &&& bindAllowBackgroundActivityStarts = 0
          · simp only [hquiet, ↓reduceIte]
            rcases hquiet with hempty | hflag
            · simp [hempty]
            · simp [hflag]
          · simp only [hquiet, ↓reduceIte]
            simpa using hquiet

theorem carriesStrings_stringAtom {arrival : Arrival} {atom : CodegenAtom}
    (hatom : arrival.stringAtom = some atom) : CarriesStrings atom := by
  unfold stringAtom at hatom
  split at hatom
  · split at hatom
    · cases hatom
    · split at hatom
      · exact carriesStrings_settingAtom hatom
      · cases hatom
  · split at hatom
    · cases hatom
    · split at hatom
      · cases hatom
      · split at hatom
        · cases hatom
        · cases hatom
          constructor

theorem uidsOnly_disabledUidsAtom {env : Environment} {newState : Int32} {callingIsEmpty : Bool}
    {atom : CodegenAtom} (hatom : disabledUidsAtom env newState callingIsEmpty = some atom) :
    UidsOnly atom := by
  unfold disabledUidsAtom at hatom
  split at hatom
  · cases hatom
  · split at hatom
    · split at hatom
      · cases hatom
      · cases hatom
        constructor
    · cases hatom

theorem uidsOnly_bindUidsAtom {env : Environment} {callingIsEmpty bindeeIsEmpty : Bool}
    {atom : CodegenAtom} (hatom : bindUidsAtom env callingIsEmpty bindeeIsEmpty = some atom) :
    UidsOnly atom := by
  unfold bindUidsAtom at hatom
  split at hatom
  · cases hatom
  · split at hatom
    · cases hatom
      constructor
    · cases hatom

theorem uidsOnly_uidsAtom {arrival : Arrival} {atom : CodegenAtom}
    (hatom : arrival.uidsAtom = some atom) : UidsOnly atom := by
  unfold uidsAtom at hatom
  split at hatom
  · split at hatom
    · cases hatom
    · split at hatom
      · exact uidsOnly_disabledUidsAtom hatom
      · cases hatom
  · split at hatom
    · cases hatom
    · unfold bindUidsOfShapes at hatom
      split at hatom
      · split at hatom
        · cases hatom
        · exact uidsOnly_bindUidsAtom hatom
      · cases hatom

end Arrival

/-- Records that differ in the contents of their strings only. -/
def Record.Alike : Record → Record → Prop
  | .component data, .component data' =>
      data'.errorCode = data.errorCode ∧ data'.newState = data.newState ∧
        shape data'.packageName.1 = shape data.packageName.1 ∧
        shape data'.className.1 = shape data.className.1 ∧
        shape data'.callingPackageName.1 = shape data.callingPackageName.1
  | .bind data, .bind data' =>
      data'.errorCode = data.errorCode ∧ data'.bindFlags = data.bindFlags ∧
        shape data'.callingPackage.1 = shape data.callingPackage.1 ∧
        shape data'.intentPackage.1 = shape data.intentPackage.1 ∧
        shape data'.intentAction.1 = shape data.intentAction.1 ∧
        shape data'.intentComponentNamePackage.1 = shape data.intentComponentNamePackage.1 ∧
        shape data'.intentComponentNameClass.1 = shape data.intentComponentNameClass.1
  | _, _ => False

/-- The bridge service answers alike. -/
def SameAnswers (env env' : Environment) : Prop :=
  env'.onGet = env.onGet ∧ env'.onIsLauncherActivity = env.onIsLauncherActivity ∧
    env'.onGetUidForPackage = env.onGetUidForPackage

def Arrival.Alike (arrival arrival' : Arrival) : Prop :=
  arrival.record.Alike arrival'.record ∧ SameAnswers arrival.env arrival'.env

theorem Arrival.Alike.uidsAtom_eq {arrival arrival' : Arrival} (halike : arrival.Alike arrival') :
    arrival'.uidsAtom = arrival.uidsAtom := by
  obtain ⟨record, env⟩ := arrival
  obtain ⟨record', env'⟩ := arrival'
  obtain ⟨hrecord, hget, hlauncher, huid⟩ := halike
  simp only at hget hlauncher huid
  cases record with
  | component data =>
      cases record' with
      | component data' =>
          obtain ⟨herror, hstate, hpackage, hclass, hcalling⟩ := hrecord
          simp only [Arrival.uidsAtom, disabledUidsAtom, herror, hstate, hpackage, hclass,
            hcalling, hget, hlauncher, huid]
      | bind data' => exact hrecord.elim
  | bind data =>
      cases record' with
      | component data' => exact hrecord.elim
      | bind data' =>
          obtain ⟨herror, hflags, hcalling, hintent, haction, hpackage, hclass⟩ := hrecord
          have hatom : ∀ calling bindee, bindUidsAtom env' calling bindee =
              bindUidsAtom env calling bindee := by
            intro calling bindee
            simp only [bindUidsAtom, hget, huid]
          simp only [Arrival.uidsAtom, bindUidsOfShapes, herror, hflags, hcalling, hintent,
            haction, hpackage, hclass, hatom]

/-- On a user build the atoms have uids only and do not depend on what the
strings say; another build writes the same sequence with one atom that carries
strings in front of those of each record that gets reported. -/
theorem atoms_of_userBuild (arrivals : List Arrival) :
    (∀ atom ∈ written true arrivals, UidsOnly atom) ∧
      (∀ arrivals', List.Forall₂ Arrival.Alike arrivals arrivals' →
        written true arrivals' = written true arrivals) ∧
      written false arrivals =
        arrivals.flatMap (fun arrival => arrival.stringAtom.toList ++ arrival.atoms true) ∧
      ∀ arrival ∈ arrivals, (arrival.stringAtom.isSome = true ↔ arrival.GetsReported) ∧
        ∀ atom, arrival.stringAtom = some atom → CarriesStrings atom := by
  have huser : ∀ arrival : Arrival, arrival.atoms true = arrival.uidsAtom.toList :=
    fun arrival => arrival.atoms_eq true
  refine ⟨?_, ?_, ?_, ?_⟩
  · intro atom hatom
    obtain ⟨arrival, -, hmem⟩ := List.mem_flatMap.1 hatom
    rw [huser, Option.mem_toList] at hmem
    exact Arrival.uidsOnly_uidsAtom hmem
  · intro arrivals' halike
    induction halike with
    | nil => rfl
    | cons hfirst hrest ih =>
        rw [written, written, List.flatMap_cons, List.flatMap_cons, ← written, ← written, ih,
          huser, huser, hfirst.uidsAtom_eq]
  · rw [written]
    congr 1
    funext arrival
    rw [huser]
    exact arrival.atoms_eq false
  · intro arrival _
    exact ⟨arrival.stringAtom_isSome_iff, fun atom => Arrival.carriesStrings_stringAtom⟩

/-- A disabled launcher activity of the given package, reported by a caller. -/
def disabledBy (packageName : List UInt8) : Arrival where
  record := .component {
    errorCode := 0
    packageName := ⟨fill maxStringLength 0 packageName, length_fill ..⟩
    className := ⟨fill maxStringLength 0 (asBytes "b"), length_fill ..⟩
    newState := 2
    callingPackageName := ⟨fill maxStringLength 0 (asBytes "c"), length_fill ..⟩ }
  env := ⟨true, 0, fun _ => .ok (), fun _ => .ok (), .ok true, fun _ => .ok 10001, .ok ()⟩

/-- Neither package name is empty, but a name in Latin-1 is no string to the
handler, which refuses the record. -/
theorem written_differs_for_latin1 :
    text (fill maxStringLength 0 [0x61]) ≠ [] ∧ text (fill maxStringLength 0 [0xE9]) ≠ [] ∧
      written true [disabledBy [0x61]] = [.disabledLauncherActivityUidsReported 10001 10001] ∧
      written true [disabledBy [0xE9]] = [] := by
  have hwritten : ∀ arrival, written true [arrival] = arrival.uidsAtom.toList := by
    intro arrival
    rw [written, List.flatMap_cons, List.flatMap_nil, List.append_nil]
    exact arrival.atoms_eq true
  have hascii : shape (fill maxStringLength 0 [0x61]) = some false := by decide +kernel
  have hlatin1 : shape (fill maxStringLength 0 [0xE9]) = none := by decide +kernel
  have hclass : shape (fill maxStringLength 0 (asBytes "b")) = some false := by decide +kernel
  have hcalling : shape (fill maxStringLength 0 (asBytes "c")) = some false := by decide +kernel
  refine ⟨by decide +kernel, by decide +kernel, ?_, ?_⟩
  · rw [hwritten]
    simp [disabledBy, Arrival.uidsAtom, hascii, hclass, hcalling, disabledUidsAtom,
      componentEnabledStateDisabled]
  · rw [hwritten]
    simp [disabledBy, Arrival.uidsAtom, hlatin1]

end UprobeStats.DisruptiveApp
