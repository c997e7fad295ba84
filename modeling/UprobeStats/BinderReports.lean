/-
A config of binder transaction filters from its bytes to what is sent.  The
resolver, the interfaces map, the program and the handler stand between what a
config asks for and what statsd and the bridge service get; here is what the
config asks for, and that they get exactly this.
-/
import UprobeStats.ConfigAcceptance
import UprobeStats.ConfigFaults

namespace UprobeStats

open Bytes FiniteMap Memory Traced BinderInterfaceBpfMap

/-! What is asked for. -/

/-- A call of `execTransactInternal` while the program is attached: who calls
what and when, the machine at that moment, and what everyone else answers when
the record of the call is handled. -/
structure TracedCall where
  descriptor : List UInt8
  code : UInt64
  callingUid : Int32
  ktimeGetNs : UInt64
  mem : Image
  ctx : PtRegs
  env : Environment

/-- The machine is at this call, the clocks are in range and everyone else does
their work. -/
structure TracedCall.Regular (call : TracedCall) : Prop where
  isDescriptor : IsDescriptor call.descriptor
  transacts : Transacts call.mem call.ctx call.descriptor call.code
  callingUid : (call.ctx.regs 6).toUInt32.toInt32 = call.callingUid
  ktimeGetNs : call.ktimeGetNs.toNat < 2 ^ 63
  afterEpoch : 0 ≤ call.env.sinceEpoch
  sinceEpoch : call.env.sinceEpoch.toNat / 1000000 < 2 ^ 63
  succeeds : call.env.Succeeds

/-- The filters of all probes. -/
def allFilters (probes : List Proto.ProbeConfig) : List Proto.BinderTransactionFilter :=
  probes.flatMap Proto.ProbeConfig.binderTransactionFilters

namespace TracedCall

variable (call : TracedCall) (name : String)

/-- The field that a position of an atom asks for. -/
def askedField : AtomFieldPosition → Option Field
  | .callingUid => some ⟨.int32 call.callingUid, [.isUid true]⟩
  | .interfaceName => some ⟨.string name, []⟩
  | .code => some ⟨.int32 (Int32.ofNat call.code.toNat), []⟩
  | .ktimeNs => some ⟨.int64 (Int64.ofNat call.ktimeGetNs.toNat), []⟩
  | .unknown => none

def askedAtom (config : Proto.AtomConfig) : UnstructuredAtom where
  atomId := (config.atomId.getD 0).toUInt32
  fields := (config.atomFieldPositions.map AtomFieldPosition.enumValueOrDefault).filterMap
    (call.askedField name)

def askedEvent : BridgeEvent where
  uid := call.callingUid
  timestampMs := Int64.ofNat (call.env.sinceEpoch.toNat / 1000000)
  payloadId := 1
  payload := [⟨"INTERFACE_NAME", .stringValue name⟩,
    ⟨"CODE", .intValue (Int32.ofNat call.code.toNat)⟩]

/-- All that a method config asks for: its atom and then its event. -/
def askedBy (config : Proto.MethodConfig) : List Sent :=
  (config.atomConfig.map fun atomConfig => .unstructured (call.askedAtom name atomConfig)).toList ++
    config.eventServiceConfig.elim [] fun eventConfig =>
      [.bridge .get, .bridge (.enqueueEvent (call.askedEvent name)
        (decide (eventConfig.flush = some true)))]

/-- The method config for a call in one filter, with the filter's name. -/
def methodConfigIn (filter : Proto.BinderTransactionFilter) :
    Option (String × Proto.MethodConfig) :=
  filter.interfaceName.bind fun interfaceName =>
    if asBytes interfaceName = call.descriptor then
      (filter.methodConfigs.find? fun config => config.methodId.any fun id =>
        decide (id.toInt = (call.code.toNat : Int))).map (interfaceName, ·)
    else none

/-- What the config asks to send about a call. -/
def asked (probes : List Proto.ProbeConfig) : List Sent :=
  ((allFilters probes).findSome? call.methodConfigIn).elim [] fun found =>
    call.askedBy found.1 found.2

end TracedCall

/-! What is done. -/

/-- The record that the program submits at a call. -/
def submission (interfaces : InterfacesMap) (call : TracedCall) :
    Option (BinderTransaction × Environment) :=
  (execTransactInternal interfaces call.mem true call.ktimeGetNs call.ctx).2.map (·, call.env)

/-- The records of a poll, one after another, up to the first error. -/
def handleRecords (task : ResolvedTask) :
    List (BinderTransaction × Environment) → Run Sent HandlerFault Unit
  | [] => return ()
  | (record, env) :: rest => do
      BinderTransactionHandler.onItem env task record
      handleRecords task rest

/-- The config is resolved to the task, whatever the iteration orders of its
hash maps. -/
def ResolvedAs (env : ResolveEnv) (configBytes : List UInt8) (task : ResolvedTask) : Prop :=
  ∃ resolved, resolveConfig env configBytes = .ok resolved ∧
    List.Forall₂ SameProbe task.resolvedProbes resolved.resolvedProbes ∧
    task = { resolved with resolvedProbes := task.resolvedProbes }

/-- A filter that the map has room for and whose methods the handler can take. -/
structure FilterFits (filter : Proto.BinderTransactionFilter) : Prop where
  name : ∀ name, filter.interfaceName = some name →
    0 ∉ asBytes name ∧ (asBytes name).length < 127
  methods : filter.methodConfigs.length ≤ 10
  code : ∀ config ∈ filter.methodConfigs, ∀ id, config.methodId = some id → id.toInt < 2 ^ 31
  positions : ∀ config ∈ filter.methodConfigs, ∀ atomConfig,
    config.atomConfig = some atomConfig →
      .unknown ∉ atomConfig.atomFieldPositions.map AtomFieldPosition.enumValueOrDefault

/-- All filters fit, and no two of them, in whatever probes, are for the same
interface. -/
structure FiltersFit (probes : List Proto.ProbeConfig) : Prop where
  fits : ∀ filter ∈ allFilters probes, FilterFits filter
  distinct : ((allFilters probes).map Proto.BinderTransactionFilter.interfaceName).Nodup

/-! From the config to the resolved filters. -/

/-- The resolved filter is this filter of the config. -/
def Carried (proto : Proto.BinderTransactionFilter) (filter : Σ _ : String, InterfaceConfig) :
    Prop :=
  ∃ config, resolveFilter proto = .ok (filter.1, config) ∧
    HashMap.Same filter.2.methods config.methods

/-- The filters of a resolved probe are the filters of the probe. -/
structure FiltersCarried (probe : Proto.ProbeConfig) (resolved : ResolvedProbe) : Prop where
  sound : ∀ filter ∈ resolved.binderTransactionFilters.entries,
    ∃ proto ∈ probe.binderTransactionFilters, Carried proto filter
  complete : ∀ proto ∈ probe.binderTransactionFilters,
    ∃ filter ∈ resolved.binderTransactionFilters.entries, Carried proto filter

theorem filtersCarried {env : ResolveEnv} {resolvedProcess : ResolvedProcess}
    {probe : Proto.ProbeConfig} {resolved same : ResolvedProbe}
    (hresolves : ProbeResolves env resolvedProcess probe resolved)
    (hsame : SameProbe same resolved) : FiltersCarried probe same := by
  obtain ⟨name, _, _, _, hfilters⟩ := hresolves.program
  obtain ⟨_, entries, hconverts, hnodup, hbuilt⟩ :=
    resolveBinderTransactionFilters_eq_ok_iff.1 hfilters
  constructor
  · rintro ⟨interfaceName, config⟩ hentry
    have hrel := hsame.filters interfaceName
    rw [AList.mem_lookup_iff.2 hentry, hbuilt] at hrel
    cases hlookup : (insertAll ∅ entries).lookup interfaceName with
    | none =>
        rw [hlookup] at hrel
        cases hrel
    | some other =>
        rw [hlookup] at hrel
        obtain ⟨proto, hproto, hresolve⟩ := (lookup_resolved_iff hconverts hnodup).1 hlookup
        cases hrel with
        | some hmethods => exact ⟨proto, hproto, other, hresolve, hmethods⟩
  · intro proto hproto
    obtain ⟨⟨interfaceName, other⟩, hresolve⟩ :=
      exists_converts_iff.1 ⟨entries, hconverts⟩ proto hproto
    have hlookup := (lookup_resolved_iff hconverts hnodup).2 ⟨proto, hproto, hresolve⟩
    have hrel := hsame.filters interfaceName
    rw [hbuilt, hlookup] at hrel
    cases hconfig : same.binderTransactionFilters.lookup interfaceName with
    | none =>
        rw [hconfig] at hrel
        cases hrel
    | some config =>
        rw [hconfig] at hrel
        cases hrel with
        | some hmethods =>
            exact ⟨⟨interfaceName, config⟩, AList.mem_lookup_iff.1 hconfig, other, hresolve,
              hmethods⟩

/-- Two lists that go along with a third one go along with each other. -/
theorem forall₂_of_common {α β γ : Type} {R : α → γ → Prop} {S : β → γ → Prop}
    {T : α → β → Prop} (himp : ∀ x y z, R x z → S y z → T x y) {xs : List α} {ys : List β}
    {zs : List γ} (hleft : List.Forall₂ R xs zs) (hright : List.Forall₂ S ys zs) :
    List.Forall₂ T xs ys := by
  induction hleft generalizing ys with
  | nil =>
      cases hright
      exact .nil
  | cons hfirst _ ih =>
      cases hright with
      | cons hsecond hrest => exact .cons (himp _ _ _ hfirst hsecond) (ih hrest)

theorem ResolvedAs.filtersCarried {env : ResolveEnv} {configBytes : List UInt8}
    {task : ResolvedTask} (hresolved : ResolvedAs env configBytes task) {proto : Proto.Task}
    (hpasses : Passes env configBytes proto) :
    List.Forall₂ FiltersCarried proto.probeConfigs task.resolvedProbes := by
  obtain ⟨resolved, hresolve, hsame, _⟩ := hresolved
  obtain ⟨other, ⟨config, hparse, htasks, _⟩, hresolves⟩ :=
    (resolveConfig_eq_ok_iff env configBytes).1 hresolve
  obtain ⟨config', hparse', htasks', _⟩ := hpasses
  rw [hparse, Except.ok.injEq] at hparse'
  subst hparse'
  rw [htasks, List.cons.injEq] at htasks'
  obtain ⟨rfl, _⟩ := htasks'
  refine forall₂_of_common ?_ hresolves.probes hsame
  intro probe same resolved hprobe hprobeSame
  exact UprobeStats.filtersCarried hprobe hprobeSame

section Carried

variable {probes : List Proto.ProbeConfig} {resolved : List ResolvedProbe}

theorem exists_carried_of_mem (hcarried : List.Forall₂ FiltersCarried probes resolved)
    {filter : Σ _ : String, InterfaceConfig} (hfilter : filter ∈ configuredFilters resolved) :
    ∃ proto ∈ allFilters probes, Carried proto filter := by
  obtain ⟨probe, hprobe, hentry⟩ := List.mem_flatMap.1 hfilter
  obtain ⟨i, hi, rfl⟩ := List.mem_iff_getElem.1 hprobe
  have hlength := hcarried.length_eq
  obtain ⟨proto, hproto, hcarries⟩ :=
    (hcarried.get (hlength ▸ hi) hi).sound filter hentry
  exact ⟨proto, List.mem_flatMap.2 ⟨_, List.get_mem probes ⟨i, hlength ▸ hi⟩, hproto⟩, hcarries⟩

theorem exists_mem_of_carried (hcarried : List.Forall₂ FiltersCarried probes resolved)
    {proto : Proto.BinderTransactionFilter} (hproto : proto ∈ allFilters probes) :
    ∃ filter ∈ configuredFilters resolved, Carried proto filter := by
  obtain ⟨probe, hprobe, hmem⟩ := List.mem_flatMap.1 hproto
  obtain ⟨i, hi, rfl⟩ := List.mem_iff_getElem.1 hprobe
  have hlength := hcarried.length_eq
  obtain ⟨filter, hfilter, hcarries⟩ :=
    (hcarried.get hi (hlength ▸ hi)).complete proto hmem
  exact ⟨filter, List.mem_flatMap.2 ⟨_, List.get_mem resolved ⟨i, hlength ▸ hi⟩, hfilter⟩,
    hcarries⟩

/-- Distinct interfaces stay distinct. -/
theorem nodup_configuredFilters (hcarried : List.Forall₂ FiltersCarried probes resolved)
    (hdistinct : ((allFilters probes).map Proto.BinderTransactionFilter.interfaceName).Nodup) :
    ((configuredFilters resolved).map Sigma.fst).Nodup := by
  induction hcarried with
  | nil => exact List.nodup_nil
  | @cons probe same probes resolved hprobe hrest ih =>
      rw [allFilters, List.flatMap_cons, List.map_append, List.nodup_append] at hdistinct
      rw [configuredFilters, List.flatMap_cons, List.map_append, List.nodup_append]
      refine ⟨same.binderTransactionFilters.nodupKeys, ih hdistinct.2.1, ?_⟩
      rintro name hname _ hother rfl
      obtain ⟨filter, hfilter, rfl⟩ := List.mem_map.1 hname
      obtain ⟨other, hmem, hsame⟩ := List.mem_map.1 hother
      obtain ⟨proto, hproto, _, hresolve, _⟩ := hprobe.sound filter hfilter
      obtain ⟨proto', hproto', _, hresolve', _⟩ := exists_carried_of_mem hrest hmem
      apply hdistinct.2.2 _ (List.mem_map_of_mem hproto) _ (List.mem_map_of_mem hproto')
      rw [interfaceName_of_resolveFilter hresolve, interfaceName_of_resolveFilter hresolve', hsame]

end Carried

theorem InterfaceConfig.mem_methodIds_iff {config : InterfaceConfig} {code : UInt64} :
    code ∈ config.methodIds ↔ ∃ methodConfig, config.getMethod code = some methodConfig := by
  rw [methodIds, ← AList.mem_keys, ← AList.lookup_isSome, Option.isSome_iff_exists]
  rfl

namespace Carried

variable {proto : Proto.BinderTransactionFilter} {filter : Σ _ : String, InterfaceConfig}
variable (hcarried : Carried proto filter)

include hcarried

theorem interfaceName : proto.interfaceName = some filter.1 := by
  obtain ⟨config, hresolve, _⟩ := hcarried
  exact interfaceName_of_resolveFilter hresolve

theorem getMethod_iff {code : UInt64} {methodConfig : MethodConfig} :
    filter.2.getMethod code = some methodConfig ↔
      ∃ config ∈ proto.methodConfigs, resolveMethodConfig config = .ok (code, methodConfig) := by
  obtain ⟨config, hresolve, hsame⟩ := hcarried
  rw [← getMethod_resolved_iff hresolve, InterfaceConfig.getMethod, InterfaceConfig.getMethod,
    hsame code]

/-- No method is there twice. -/
theorem length_methodIds_le : filter.2.methodIds.length ≤ proto.methodConfigs.length := by
  have hsubset : filter.2.methodIds.map (fun code => some code.toInt64) ⊆
      proto.methodConfigs.map Proto.MethodConfig.methodId := by
    intro id hid
    obtain ⟨code, hcode, rfl⟩ := List.mem_map.1 hid
    obtain ⟨methodConfig, hmethod⟩ := InterfaceConfig.mem_methodIds_iff.1 hcode
    obtain ⟨config, hconfig, hresolve⟩ := hcarried.getMethod_iff.1 hmethod
    exact List.mem_map.2 ⟨config, hconfig, methodId_of_resolveMethodConfig hresolve⟩
  have hnodup : (filter.2.methodIds.map fun code => some code.toInt64).Nodup := by
    refine filter.2.methods.nodupKeys.map ?_
    intro first second heq
    have hcodes := congrArg Int64.toUInt64 (Option.some.inj heq)
    simpa using hcodes
  have hle := (hnodup.subperm hsubset).length_le
  simpa using hle

theorem valid : filter.2.Valid := by
  obtain ⟨config, hresolve, hsame⟩ := hcarried
  have hvalid := resolveFilter_valid hresolve
  constructor
  · obtain ⟨code, hcode⟩ := List.exists_mem_of_ne_nil _ hvalid.nonempty
    exact List.ne_nil_of_mem ((hsame.mem_keys_iff code).2 hcode)
  · intro hzero
    exact hvalid.positive ((hsame.mem_keys_iff 0).1 hzero)

theorem asBytes_ne_nil : asBytes filter.1 ≠ [] := by
  obtain ⟨config, hresolve, _⟩ := hcarried
  intro hnil
  have hdecoded := fromUtf8_asBytes filter.1
  rw [hnil] at hdecoded
  exact (resolveFilter_eq_ok_iff.1 hresolve).2.1 (Option.some.inj hdecoded).symm

/-- A method config of the filter is resolved. -/
theorem exists_resolved {config : Proto.MethodConfig} (hconfig : config ∈ proto.methodConfigs)
    {code : UInt64} (hfor : config.IsFor code) :
    ∃ methodConfig, resolveMethodConfig config = .ok (code, methodConfig) := by
  obtain ⟨_, hresolve, _⟩ := hcarried
  have hvalid := exists_resolveFilter_iff.1 ⟨_, hresolve⟩
  obtain ⟨⟨id, methodConfig⟩, hmethod⟩ :=
    exists_resolveMethodConfig_iff.2 (hvalid.valid config hconfig)
  obtain rfl := (isFor_of_resolveMethodConfig hmethod).1 hfor
  exact ⟨methodConfig, hmethod⟩

end Carried

/-! From the filters to the map. -/

theorem toCKey_injOn {name other : String} (hname : 0 ∉ asBytes name) (hother : 0 ∉ asBytes other)
    (hlength : (asBytes other).length ≤ 127) (hkey : toCKey name = toCKey other) :
    name = other := by
  rw [toCKey_eq_descriptorKey hlength] at hkey
  have hbytes := asBytes_eq_take hname hother hkey
  rw [List.take_of_length_le hlength] at hbytes
  have hdecoded := congrArg fromUtf8 hbytes
  rwa [fromUtf8_asBytes, fromUtf8_asBytes, Option.some.injEq] at hdecoded

/-- Filters that fit survive their encoding. -/
theorem FiltersFit.installable {probes : List Proto.ProbeConfig} {resolved : List ResolvedProbe}
    (hfit : FiltersFit probes) (hcarried : List.Forall₂ FiltersCarried probes resolved) :
    Installable resolved := by
  have hfits : ∀ filter ∈ configuredFilters resolved,
      0 ∉ asBytes filter.1 ∧ (asBytes filter.1).length < 127 ∧ filter.2.methodIds.length ≤ 10 := by
    intro filter hfilter
    obtain ⟨proto, hproto, hcarries⟩ := exists_carried_of_mem hcarried hfilter
    obtain ⟨hname, hlength⟩ := (hfit.fits proto hproto).name _ hcarries.interfaceName
    exact ⟨hname, hlength, hcarries.length_methodIds_le.trans (hfit.fits proto hproto).methods⟩
  refine ⟨?_, ?_, ?_⟩
  · have hkeys : (((configuredFilters resolved).map Sigma.fst).map toCKey).Nodup := by
      refine (nodup_configuredFilters hcarried hfit.distinct).map_on ?_
      intro name hname other hother hkey
      obtain ⟨filter, hfilter, rfl⟩ := List.mem_map.1 hname
      obtain ⟨filter', hfilter', rfl⟩ := List.mem_map.1 hother
      exact toCKey_injOn (hfits filter hfilter).1 (hfits filter' hfilter').1
        (hfits filter' hfilter').2.1.le hkey
    rwa [List.map_map] at hkeys
  · intro filter hfilter _
    exact (hfits filter hfilter).2
  · intro filter hfilter hnul
    exact absurd hnul (hfits filter hfilter).1

/-! From the record to what is sent. -/

theorem tryIntoI64_of_lt {n : Nat} (hfits : n < 2 ^ 63) : tryIntoI64 n = .ok (Int64.ofNat n) :=
  if_pos hfits

theorem Environment.Succeeds.writeUnstructured {env : Environment} (hsucceeds : env.Succeeds)
    (place : Nat) (atom : UnstructuredAtom) :
    env.writeUnstructured place atom = ⟨[.unstructured atom], .ok ()⟩ := by
  simp only [Environment.writeUnstructured, Environment.ask, hsucceeds.write]
  rfl

namespace BinderTransactionHandler

variable {call : TracedCall} {name : String}

/-- The fields are those that are asked for. -/
theorem positionFields_eq {positions : List AtomFieldPosition} (hknown : .unknown ∉ positions) :
    positionFields call.callingUid name (Int32.ofNat call.code.toNat)
        (Int64.ofNat call.ktimeGetNs.toNat) positions =
      ⟨[], .ok (positions.filterMap (call.askedField name))⟩ := by
  induction positions with
  | nil => rfl
  | cons position rest ih =>
      rw [List.mem_cons, not_or] at hknown
      rw [positionFields, ih hknown.2]
      cases position with
      | unknown => exact absurd rfl hknown.1
      | callingUid => rfl
      | interfaceName => rfl
      | code => rfl
      | ktimeNs => rfl

/-- The record of a call. -/
def recordOf (call : TracedCall) (key : BinderInterfaceBpfMapKey) : BinderTransaction :=
  ⟨key.interfaceDescriptor, call.code, call.callingUid, call.ktimeGetNs⟩

theorem reportAtom_eq (hregular : call.Regular) (key : BinderInterfaceBpfMapKey)
    {proto : Option Proto.AtomConfig} {atomConfig : Option AtomConfig}
    (hresolve : resolveAtomConfig proto = .ok atomConfig)
    (hknown : ∀ config, proto = some config →
      .unknown ∉ config.atomFieldPositions.map AtomFieldPosition.enumValueOrDefault) :
    reportAtom call.env (recordOf call key) name (Int32.ofNat call.code.toNat) atomConfig =
      ⟨(proto.map fun config => .unstructured (call.askedAtom name config)).toList, .ok ()⟩ := by
  rcases resolveAtomConfig_eq_ok_iff.1 hresolve with ⟨rfl, rfl⟩ |
    ⟨config, atomId, rfl, hid, _, rfl⟩
  · rfl
  · have htime : otherwise (tryIntoI64 (recordOf call key).timestampNs.toNat) =
        ⟨[], .ok (Int64.ofNat call.ktimeGetNs.toNat)⟩ := by
      rw [recordOf, tryIntoI64_of_lt hregular.ktimeGetNs]
      rfl
    rw [reportAtom, htime]
    change writeToStatsd call.env _ call.callingUid name _ _ = _
    rw [writeToStatsd, positionFields_eq (hknown config rfl)]
    change (call.env.writeUnstructured 0 _).mapErr HandlerFault.other = _
    rw [hregular.succeeds.writeUnstructured, Option.map_some, TracedCall.askedAtom, hid]
    rfl

theorem reportEvent_eq (hregular : call.Regular) (key : BinderInterfaceBpfMapKey)
    (proto : Option Proto.EventServiceConfig) :
    reportEvent call.env (recordOf call key) name (Int32.ofNat call.code.toNat)
        (proto.map EventServiceConfig.fromProto) =
      ⟨proto.elim [] fun config => [.bridge .get, .bridge (.enqueueEvent (call.askedEvent name)
        (decide (config.flush = some true)))], .ok ()⟩ := by
  cases proto with
  | none => rfl
  | some config =>
      have hnow : getCurrentTimestampMillis call.env.sinceEpoch =
          .ok (Int64.ofNat (call.env.sinceEpoch.toNat / 1000000)) := by
        rw [getCurrentTimestampMillis, if_neg (not_lt.2 hregular.afterEpoch),
          tryIntoI64_of_lt hregular.sinceEpoch]
      have hflush : decide ((EventServiceConfig.fromProto config).mode = .flush) =
          decide (config.flush = some true) := by
        by_cases hset : config.flush = some true
        · simp [EventServiceConfig.fromProto, hset]
        · simp [EventServiceConfig.fromProto, hset]
      simp only [Option.map_some, reportEvent, hnow, hflush, enqueueEvent, Environment.get,
        Environment.enqueueEvent, Environment.ask, hregular.succeeds.get,
        hregular.succeeds.enqueueEvent]
      rfl

/-- What the handler sends about a call whose method config it finds. -/
theorem onItem_eq {task : ResolvedTask} (hregular : call.Regular) {key : BinderInterfaceBpfMapKey}
    {config : Proto.MethodConfig} {methodConfig : MethodConfig}
    (hname : bytesAsNonemptyStr key.interfaceDescriptor = .ok name)
    (hmethod : findMethod task name call.code = some methodConfig)
    (hresolve : resolveMethodConfig config = .ok (call.code, methodConfig))
    (hcode : call.code.toNat < 2 ^ 31)
    (hknown : ∀ atomConfig, config.atomConfig = some atomConfig →
      .unknown ∉ atomConfig.atomFieldPositions.map AtomFieldPosition.enumValueOrDefault) :
    onItem call.env task (recordOf call key) = ⟨call.askedBy name config, .ok ()⟩ := by
  obtain ⟨_, _, hatom, hevent⟩ := resolveMethodConfig_eq_ok_iff.1 hresolve
  have hread : (otherwise (bytesAsNonemptyStr (recordOf call key).interfaceDescriptor) :
      Run Sent HandlerFault String) = Run.ofExcept (.ok name) := by
    rw [recordOf, hname]
    rfl
  have hfound : findMethod task name (recordOf call key).code = some methodConfig := hmethod
  have hreport : onItem call.env task (recordOf call key) =
      report call.env (recordOf call key) name (Int32.ofNat call.code.toNat) methodConfig := by
    simp only [onItem, hread, Run.bind_ofExcept_ok, hfound]
    exact if_pos hcode
  rw [hreport, report, reportAtom_eq hregular key hatom hknown, hevent]
  change Run.bind _ _ = _
  rw [Run.bind, reportEvent_eq hregular key]
  rfl

end BinderTransactionHandler

theorem TracedCall.of_methodConfigIn {call : TracedCall} {filter : Proto.BinderTransactionFilter}
    {name : String} {config : Proto.MethodConfig}
    (hfound : call.methodConfigIn filter = some (name, config)) :
    filter.interfaceName = some name ∧ asBytes name = call.descriptor ∧
      config ∈ filter.methodConfigs ∧ config.IsFor call.code := by
  obtain ⟨interfaceName, hname, hfound⟩ := Option.bind_eq_some_iff.1 hfound
  split at hfound
  · rename_i hdescriptor
    obtain ⟨other, hother, heq⟩ := Option.map_eq_some_iff.1 hfound
    cases heq
    have hfor := List.find?_some hother
    rw [Option.any_eq_true] at hfor
    obtain ⟨id, hid, hcode⟩ := hfor
    exact ⟨hname, hdescriptor, List.mem_of_find?_eq_some hother, id, hid, of_decide_eq_true hcode⟩
  · cases hfound

theorem TracedCall.methodConfigIn_ne_none {call : TracedCall}
    {filter : Proto.BinderTransactionFilter} {name : String} {config : Proto.MethodConfig}
    (hname : filter.interfaceName = some name) (hdescriptor : asBytes name = call.descriptor)
    (hconfig : config ∈ filter.methodConfigs) (hfor : config.IsFor call.code) :
    call.methodConfigIn filter ≠ none := by
  obtain ⟨id, hid, hcode⟩ := hfor
  rw [methodConfigIn, hname, Option.bind_some, if_pos hdescriptor, Ne, Option.map_eq_none_iff,
    List.find?_eq_none]
  intro hnone
  apply hnone config hconfig
  simp [hid, hcode]

section Reports

variable {probes : List Proto.ProbeConfig} {task : ResolvedTask}

/-- The program and the handler do with a call what the config asks for. -/
theorem call_reported (hfit : FiltersFit probes)
    (hcarried : List.Forall₂ FiltersCarried probes task.resolvedProbes)
    {call : TracedCall} (hregular : call.Regular) :
    (∃ record, submission (insertAll ∅ (filterEntries task.resolvedProbes)) call =
          some (record, call.env) ∧
        BinderTransactionHandler.onItem call.env task record = ⟨call.asked probes, .ok ()⟩) ∨
      (submission (insertAll ∅ (filterEntries task.resolvedProbes)) call = none ∧
        call.asked probes = []) := by
  have hinstallable := hfit.installable hcarried
  have hkeys : ((filterEntries task.resolvedProbes).map Prod.fst).Nodup := by
    rw [map_fst_filterEntries]
    exact hinstallable.distinct
  have hvalid : ∀ filter ∈ configuredFilters task.resolvedProbes, filter.2.Valid := by
    intro filter hfilter
    obtain ⟨_, _, hcarries⟩ := exists_carried_of_mem hcarried hfilter
    exact hcarries.valid
  have hnul := hregular.isDescriptor.nul_notMem
  cases hasked : (allFilters probes).findSome? call.methodConfigIn with
  | some found =>
      obtain ⟨name, config⟩ := found
      left
      obtain ⟨proto, hproto, hfound⟩ := List.exists_of_findSome?_eq_some hasked
      obtain ⟨hname, hdescriptor, hconfig, hfor⟩ := TracedCall.of_methodConfigIn hfound
      obtain ⟨filter, hfilter, hcarries⟩ := exists_mem_of_carried hcarried hproto
      obtain rfl : filter.1 = name := by
        rw [hcarries.interfaceName, Option.some.injEq] at hname
        exact hname
      obtain ⟨methodConfig, hresolve⟩ := hcarries.exists_resolved hconfig hfor
      have hmethod := hcarries.getMethod_iff.2 ⟨config, hconfig, hresolve⟩
      have hfits := hfit.fits proto hproto
      have hshort := ((hfits.name _ hname).2).le
      have hlookup : bpfInterfacesLookupElem (insertAll ∅ (filterEntries task.resolvedProbes))
          (descriptorKey call.descriptor) = some (toCValue filter.2.methodIds) := by
        rw [bpfInterfacesLookupElem_filterEntries hkeys, ← hdescriptor]
        exact ⟨filter, hfilter, toCKey_eq_descriptorKey hshort, rfl⟩
      have hlisted : findCode call.code (toCValue filter.2.methodIds).codes = true := by
        rw [findCode_toCValue (hvalid filter hfilter).positive,
          List.take_of_length_le (hcarries.length_methodIds_le.trans hfits.methods)]
        exact InterfaceConfig.mem_methodIds_iff.2 ⟨methodConfig, hmethod⟩
      have hsubmitted := execTransactInternal_submits hregular.transacts hnul hlookup hlisted
        call.ktimeGetNs
      rw [hregular.callingUid] at hsubmitted
      refine ⟨BinderTransactionHandler.recordOf call (descriptorKey call.descriptor), ?_, ?_⟩
      · rw [submission, hsubmitted]
        rfl
      · have hread : bytesAsNonemptyStr (descriptorKey call.descriptor).interfaceDescriptor =
            .ok filter.1 := by
          rw [← hdescriptor]
          exact bytesAsNonemptyStr_descriptorKey hcarries.asBytes_ne_nil (hfits.name _ hname).1
            hshort
        have hsmall : call.code.toNat < 2 ^ 31 := by
          obtain ⟨id, hid, hcode⟩ := hfor
          have hlt := hfits.code config hconfig id hid
          omega
        rw [BinderTransactionHandler.onItem_eq hregular hread
          ((findMethod_of_mem hinstallable.distinct hfilter call.code).trans hmethod) hresolve
          hsmall (hfits.positions config hconfig), TracedCall.asked, hasked]
        rfl
  | none =>
      right
      refine ⟨?_, by rw [TracedCall.asked, hasked]; rfl⟩
      rw [submission, Option.map_eq_none_iff]
      by_contra hsome
      rw [← Ne, Option.ne_none_iff_isSome, submits_iff_found hkeys hvalid hregular.transacts
        hregular.isDescriptor, hinstallable.found_iff hregular.isDescriptor, configured_iff]
        at hsome
      obtain ⟨filter, hfilter, hdescriptor, hcode⟩ := hsome
      obtain ⟨proto, hproto, hcarries⟩ := exists_carried_of_mem hcarried hfilter
      obtain ⟨methodConfig, hmethod⟩ := InterfaceConfig.mem_methodIds_iff.1 hcode
      obtain ⟨config, hconfig, hresolve⟩ := hcarries.getMethod_iff.1 hmethod
      have hfor := (isFor_of_resolveMethodConfig hresolve).2 rfl
      exact TracedCall.methodConfigIn_ne_none hcarries.interfaceName hdescriptor hconfig hfor
        (List.findSome?_eq_none_iff.1 hasked proto hproto)

theorem handleRecords_eq (hfit : FiltersFit probes)
    (hcarried : List.Forall₂ FiltersCarried probes task.resolvedProbes) {calls : List TracedCall}
    (hcalls : ∀ call ∈ calls, call.Regular) :
    handleRecords task
        (calls.filterMap (submission (insertAll ∅ (filterEntries task.resolvedProbes)))) =
      ⟨calls.flatMap fun call => call.asked probes, .ok ()⟩ := by
  induction calls with
  | nil => rfl
  | cons call rest ih =>
      rw [List.forall_mem_cons] at hcalls
      have hrest := ih hcalls.2
      rw [List.flatMap_cons]
      rcases call_reported hfit hcarried hcalls.1 with ⟨record, hrecord, honItem⟩ | ⟨hnone, hnil⟩
      · rw [List.filterMap_cons_some hrecord, handleRecords, honItem, hrest]
        rfl
      · rw [List.filterMap_cons_none hnone, hrest, hnil]
        rfl

end Reports

def transactionProbe : Proto.ProbeConfig where
  bpfName := some binderBpfProgramName
  fullyQualifiedClassName := some "android.os.Binder"
  methodName := some "execTransactInternal"
  binderTransactionFilters := [{
    interfaceName := some "IActivityManager"
    methodConfigs := [{
      methodId := some 1
      eventServiceConfig := some { flush := some true }
      atomConfig := some { atomId := some 915, atomFieldPositions := [1, 3] } }] }]

def transactionProto : Proto.Task where
  probeConfigs := [transactionProbe]
  durationSeconds := some 1

def transactionEnv : ResolveEnv where
  parseFromBytes _ := .ok { tasks := [transactionProto] }
  isUserBuild := false
  flags := Daemon.allFlags
  resolveProcess _ _ _ := .ok ⟨1, 1000, "system_server"⟩
  resolveOffsets _ _ := .ok (some ⟨"/system/framework/arm64/boot-framework.oat", 0, 4096⟩)

def transactionTask : ResolvedTask where
  id := 0
  duration := Duration.fromSecs 1
  resolvedProcess := ⟨1, 1000, "system_server"⟩
  bpfMapPaths := ∅
  statsdLoggingConfig := none
  resolvedProbes := [{
    methodDescriptor := ⟨"android.os.Binder", "execTransactInternal", []⟩
    offsets := ⟨"/system/framework/arm64/boot-framework.oat", 0, 4096⟩
    bpfProgramPath := prefixBpf binderBpfProgramName
    binderTransactionFilters := AList.insert "IActivityManager"
      ⟨AList.insert 1 ⟨some ⟨.flush⟩, some ⟨915, [.callingUid, .code]⟩⟩ ∅⟩ ∅ }]

/-- A call with this code by the user 1000. -/
def transactionCall (code : UInt64) : TracedCall where
  descriptor := asBytes "IActivityManager"
  code := code
  callingUid := 1000
  ktimeGetNs := 5
  mem := binderImage (asBytes "IActivityManager")
  ctx := ⟨fun i => if i = 1 then 4096 else if i = 2 then code else 1000⟩
  env := .succeeding

theorem resolvedAs_transactionTask : ResolvedAs transactionEnv [] transactionTask := by
  have hduration : resolveDuration (some 1) = .ok (Duration.fromSecs 1) := rfl
  refine ⟨transactionTask, resolveConfig_eq_ok rfl rfl rfl ?_, ?_, rfl⟩
  · simp only [resolveSingleTask, transactionProto, hduration]
    rfl
  · refine List.forall₂_same.2 fun probe _ => ⟨rfl, rfl, rfl, fun name => ?_⟩
    cases probe.binderTransactionFilters.lookup name with
    | none => exact Option.Rel.none
    | some config => exact Option.Rel.some fun _ => rfl

theorem filtersFit_transactionProto : FiltersFit transactionProto.probeConfigs := by
  refine ⟨?_, by decide⟩
  intro filter hfilter
  obtain rfl := List.mem_singleton.1 hfilter
  refine ⟨?_, by decide, ?_, ?_⟩
  · intro name hname
    cases hname
    exact ⟨by decide, by decide⟩
  · intro config hconfig id hid
    obtain rfl := List.mem_singleton.1 hconfig
    cases hid
    decide
  · intro config hconfig atomConfig hatom
    obtain rfl := List.mem_singleton.1 hconfig
    cases hatom
    decide

theorem regular_transactionCall (code : UInt64) : (transactionCall code).Regular where
  isDescriptor := by
    have hlength : (asBytes "IActivityManager").length < 2 ^ 31 := by decide
    have hascii : ∀ byte ∈ asBytes "IActivityManager", byte ≠ 0 ∧ byte < 128 := by
      decide +kernel
    exact ⟨hlength, hascii⟩
  transacts := by
    have hlength : (asBytes "IActivityManager").length < 2 ^ 31 := by decide
    refine ⟨⟨8192, by decide, by decide, ?_, javaString_binderImage hlength⟩, rfl⟩
    exact read_reference_binderImage hlength
  callingUid := rfl
  ktimeGetNs := by
    change (5 : UInt64).toNat < 2 ^ 63
    decide
  afterEpoch := le_refl 0
  sinceEpoch := by
    change (0 : Int).toNat / 1000000 < 2 ^ 63
    decide
  succeeds := Environment.succeeding_succeeds

end UprobeStats
