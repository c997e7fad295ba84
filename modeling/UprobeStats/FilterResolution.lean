/-
What `resolve_binder_transaction_filters` accepts, and what it makes of a list
of filters that it accepts.  Both of its loops fill a hash map and refuse a key
that is there already, so each comes down to collecting under distinct keys.
-/
import UprobeStats.Lib.FiniteMap
import UprobeStats.Resolver

namespace UprobeStats

open FiniteMap

/-! What is accepted. -/

namespace Proto

/-- A method config that is complete: an id, something to do, and an atom id if
there is an atom to write. -/
structure MethodConfig.Valid (config : MethodConfig) : Prop where
  methodId : ∃ id, config.methodId = some id ∧ 0 < id
  configured : config.eventServiceConfig.isSome ∨ config.atomConfig.isSome
  atomId : ∀ atomConfig, config.atomConfig = some atomConfig →
    ∃ atomId, atomConfig.atomId = some atomId ∧ 0 < atomId

/-- A filter with a name and with methods, none of them twice. -/
structure BinderTransactionFilter.Valid (filter : BinderTransactionFilter) : Prop where
  interfaceName : ∃ name, filter.interfaceName = some name ∧ name ≠ ""
  methodConfigs : filter.methodConfigs ≠ []
  valid : ∀ config ∈ filter.methodConfigs, config.Valid
  distinct : (filter.methodConfigs.map MethodConfig.methodId).Nodup

/-- Filters that may stand in one probe together. -/
structure BinderTransactionFilter.AllValid (filters : List BinderTransactionFilter) : Prop where
  valid : ∀ filter ∈ filters, filter.Valid
  distinct : (filters.map BinderTransactionFilter.interfaceName).Nodup

/-- The method config is for the code that the map has under this number. -/
def MethodConfig.IsFor (config : MethodConfig) (methodId : UInt64) : Prop :=
  ∃ id, config.methodId = some id ∧ id.toInt = methodId.toNat

/-- Some filter for the interface has the method config. -/
def Configures (filters : List BinderTransactionFilter) (interfaceName : String)
    (config : MethodConfig) : Prop :=
  ∃ filter ∈ filters, filter.interfaceName = some interfaceName ∧ config ∈ filter.methodConfigs

end Proto

/-- A resolved method config says what its proto says. -/
structure MethodConfig.Renders (proto : Proto.MethodConfig) (config : MethodConfig) : Prop where
  eventServiceConfig_isSome :
    config.eventServiceConfig.isSome = proto.eventServiceConfig.isSome
  flush : ∀ event eventProto, config.eventServiceConfig = some event →
    proto.eventServiceConfig = some eventProto →
      (event.mode = .flush ↔ eventProto.flush = some true)
  atomConfig_isSome : config.atomConfig.isSome = proto.atomConfig.isSome
  atomId : ∀ atom atomProto, config.atomConfig = some atom → proto.atomConfig = some atomProto →
    ∃ atomId, atomProto.atomId = some atomId ∧ atomId.toInt = atom.atomId.toNat
  atomFieldPositions : ∀ atom atomProto, config.atomConfig = some atom →
    proto.atomConfig = some atomProto → atom.atomFieldPositions =
      atomProto.atomFieldPositions.map AtomFieldPosition.enumValueOrDefault

/-- What a daemon looks up: the interface, then the method. -/
def getMethodOf (filters : HashMap String InterfaceConfig) (interfaceName : String)
    (methodId : UInt64) : Option MethodConfig :=
  (filters.lookup interfaceName).bind (·.getMethod methodId)

/-! One method config. -/

theorem toInt_of_pos {w : Nat} {bits : BitVec w} (hpos : 0 < bits.toInt) :
    bits.toInt = bits.toNat := by
  rw [BitVec.toInt_eq_toNat_cond] at hpos ⊢
  split
  · rfl
  · omega

theorem resolveMethodId_eq_ok_iff {methodId : Option Int64} {id : UInt64} :
    resolveMethodId methodId = .ok id ↔
      ∃ raw, methodId = some raw ∧ 0 < raw ∧ raw.toUInt64 = id := by
  cases methodId with
  | none => simp [resolveMethodId]
  | some raw =>
      by_cases hpos : 0 < raw
      · simp [resolveMethodId, hpos]
      · simp [resolveMethodId, hpos]

theorem resolveAtomConfig_eq_ok_iff {proto : Option Proto.AtomConfig}
    {config : Option AtomConfig} :
    resolveAtomConfig proto = .ok config ↔
      (proto = none ∧ config = none) ∨
        ∃ atomProto atomId, proto = some atomProto ∧ atomProto.atomId = some atomId ∧
          0 < atomId ∧ config = some ⟨atomId.toUInt32,
            atomProto.atomFieldPositions.map AtomFieldPosition.enumValueOrDefault⟩ := by
  cases proto with
  | none => simp [resolveAtomConfig, eq_comm]
  | some atomProto =>
      cases hid : atomProto.atomId with
      | none => simp [resolveAtomConfig, AtomConfig.tryFrom, hid, bind, Except.bind]
      | some atomId =>
          by_cases hpos : 0 < atomId
          · have hle : ¬ atomId ≤ 0 := Int32.not_le.2 hpos
            simp [resolveAtomConfig, AtomConfig.tryFrom, hid, hle, hpos, bind, Except.bind, pure,
              Except.pure, eq_comm]
          · have hle : atomId ≤ 0 := Int32.not_lt.1 hpos
            simp [resolveAtomConfig, AtomConfig.tryFrom, hid, hle, hpos, bind, Except.bind]

theorem resolveMethodConfig_eq_ok_iff {proto : Proto.MethodConfig} {id : UInt64}
    {config : MethodConfig} :
    resolveMethodConfig proto = .ok (id, config) ↔
      resolveMethodId proto.methodId = .ok id ∧
        (proto.eventServiceConfig.isSome ∨ proto.atomConfig.isSome) ∧
        resolveAtomConfig proto.atomConfig = .ok config.atomConfig ∧
        config.eventServiceConfig = proto.eventServiceConfig.map EventServiceConfig.fromProto := by
  have hnone : (proto.eventServiceConfig.isNone && proto.atomConfig.isNone) = true ↔
      ¬ (proto.eventServiceConfig.isSome ∨ proto.atomConfig.isSome) := by
    cases proto.eventServiceConfig <;> cases proto.atomConfig <;> simp
  constructor
  · intro hresolve
    obtain ⟨methodId, hid, hrest⟩ := bind_eq_ok_iff.1 hresolve
    obtain ⟨hsome, hrest⟩ := guard_eq_ok_iff.1 hrest
    obtain ⟨atomConfig, hatom, hpair⟩ := bind_eq_ok_iff.1 hrest
    cases hpair
    exact ⟨hid, not_not.1 (mt hnone.2 hsome), hatom, rfl⟩
  · rintro ⟨hid, hsome, hatom, hevent⟩
    apply bind_eq_ok_iff.2 ⟨id, hid, ?_⟩
    apply guard_eq_ok_iff.2 ⟨fun hneither => hnone.1 hneither hsome, ?_⟩
    apply bind_eq_ok_iff.2 ⟨config.atomConfig, hatom, ?_⟩
    rw [← hevent]
    rfl

theorem exists_resolveMethodConfig_iff {proto : Proto.MethodConfig} :
    (∃ entry, resolveMethodConfig proto = .ok entry) ↔ proto.Valid := by
  constructor
  · rintro ⟨⟨id, config⟩, hresolve⟩
    obtain ⟨hid, hsome, hatom, -⟩ := resolveMethodConfig_eq_ok_iff.1 hresolve
    obtain ⟨raw, hraw, hpos, -⟩ := resolveMethodId_eq_ok_iff.1 hid
    refine ⟨⟨raw, hraw, hpos⟩, hsome, ?_⟩
    intro atomConfig hconfig
    rcases resolveAtomConfig_eq_ok_iff.1 hatom with ⟨hnone, -⟩ |
      ⟨atomProto, atomId, hproto, hatomId, hatomPos, -⟩
    · rw [hnone] at hconfig
      cases hconfig
    · rw [hproto, Option.some.injEq] at hconfig
      exact ⟨atomId, hconfig ▸ hatomId, hatomPos⟩
  · rintro ⟨⟨raw, hraw, hpos⟩, hsome, hatomId⟩
    have hid : resolveMethodId proto.methodId = .ok raw.toUInt64 :=
      resolveMethodId_eq_ok_iff.2 ⟨raw, hraw, hpos, rfl⟩
    obtain ⟨atomConfig, hatom⟩ :
        ∃ atomConfig, resolveAtomConfig proto.atomConfig = .ok atomConfig := by
      cases hproto : proto.atomConfig with
      | none => exact ⟨none, rfl⟩
      | some atomProto =>
          obtain ⟨atomId, hsomeId, hatomPos⟩ := hatomId atomProto hproto
          exact ⟨_, resolveAtomConfig_eq_ok_iff.2
            (.inr ⟨atomProto, atomId, rfl, hsomeId, hatomPos, rfl⟩)⟩
    exact ⟨(_, ⟨_, atomConfig⟩), resolveMethodConfig_eq_ok_iff.2 ⟨hid, hsome, hatom, rfl⟩⟩

theorem methodId_of_resolveMethodConfig {proto : Proto.MethodConfig} {id : UInt64}
    {config : MethodConfig} (hresolve : resolveMethodConfig proto = .ok (id, config)) :
    proto.methodId = some id.toInt64 := by
  obtain ⟨raw, hraw, -, rfl⟩ := resolveMethodId_eq_ok_iff.1
    (resolveMethodConfig_eq_ok_iff.1 hresolve).1
  rw [hraw, Int64.toInt64_toUInt64]

/-- The number of a resolved method config is the one its proto gives. -/
theorem isFor_of_resolveMethodConfig {proto : Proto.MethodConfig} {id : UInt64}
    {config : MethodConfig} (hresolve : resolveMethodConfig proto = .ok (id, config))
    {methodId : UInt64} : proto.IsFor methodId ↔ methodId = id := by
  obtain ⟨raw, hraw, hpos, rfl⟩ := resolveMethodId_eq_ok_iff.1
    (resolveMethodConfig_eq_ok_iff.1 hresolve).1
  have htoInt : raw.toInt = raw.toUInt64.toNat := toInt_of_pos (Int64.lt_iff_toInt_lt.1 hpos)
  simp only [Proto.MethodConfig.IsFor, hraw, Option.some.injEq, exists_eq_left']
  constructor
  · intro heq
    apply UInt64.toNat_inj.1
    omega
  · rintro rfl
    exact htoInt

theorem renders_of_resolveMethodConfig {proto : Proto.MethodConfig} {id : UInt64}
    {config : MethodConfig} (hresolve : resolveMethodConfig proto = .ok (id, config)) :
    config.Renders proto := by
  obtain ⟨-, -, hatom, hevent⟩ := resolveMethodConfig_eq_ok_iff.1 hresolve
  have hflush : ∀ event eventProto, config.eventServiceConfig = some event →
      proto.eventServiceConfig = some eventProto →
        (event.mode = .flush ↔ eventProto.flush = some true) := by
    intro event eventProto hsome hproto
    rw [hevent, hproto, Option.map_some, Option.some.injEq] at hsome
    rw [← hsome, EventServiceConfig.fromProto]
    split <;> simp_all
  have hisSome : config.eventServiceConfig.isSome = proto.eventServiceConfig.isSome := by
    rw [hevent, Option.isSome_map]
  rcases resolveAtomConfig_eq_ok_iff.1 hatom with ⟨hproto, hconfig⟩ |
    ⟨atomProto, atomId, hproto, hatomId, hpos, hconfig⟩
  · refine ⟨hisSome, hflush, by rw [hproto, hconfig]; rfl, ?_, ?_⟩
    · intro atom other hsome
      rw [hconfig] at hsome
      cases hsome
    · intro atom other hsome
      rw [hconfig] at hsome
      cases hsome
  · refine ⟨hisSome, hflush, by rw [hproto, hconfig]; rfl, ?_, ?_⟩
    · intro atom other hsome hother
      rw [hconfig, Option.some.injEq] at hsome
      rw [hproto, Option.some.injEq] at hother
      subst hsome hother
      exact ⟨atomId, hatomId, toInt_of_pos (Int32.lt_iff_toInt_lt.1 hpos)⟩
    · intro atom other hsome hother
      rw [hconfig, Option.some.injEq] at hsome
      rw [hproto, Option.some.injEq] at hother
      subst hsome hother
      rfl

/-! The two loops. -/

theorem map_eq_ok_iff {ε α β : Type} {x : Except ε α} {f : α → β} {b : β} :
    x.map f = .ok b ↔ ∃ a, x = .ok a ∧ f a = b := by
  cases x with
  | error e => simp [Except.map]
  | ok a => simp [Except.map]

theorem resolveMethodConfigs_eq_collect (built : InterfaceConfig)
    (protos : List Proto.MethodConfig) :
    resolveMethodConfigs built protos =
      (collect resolveMethodConfig
        (fun id => .message ("Duplicate method_id " ++ toString id))
        built.methods protos).map InterfaceConfig.mk := by
  induction protos generalizing built with
  | nil => rfl
  | cons proto rest ih =>
      rw [resolveMethodConfigs, collect]
      cases hproto : resolveMethodConfig proto with
      | error e => rfl
      | ok entry =>
          by_cases hmem : entry.1 ∈ built.methods
          · simp [bind, Except.bind, InterfaceConfig.insertMethod, AList.lookup_isSome, hmem,
              Except.map]
          · simp [bind, Except.bind, InterfaceConfig.insertMethod, AList.lookup_isSome, hmem, ih]

theorem resolveFilters_eq_collect (built : HashMap String InterfaceConfig)
    (filters : List Proto.BinderTransactionFilter) :
    resolveFilters built filters =
      collect resolveFilter (fun name => .message ("Duplicate interface_name " ++ name))
        built filters := by
  induction filters generalizing built with
  | nil => rfl
  | cons filter rest ih =>
      rw [resolveFilters, collect]
      cases hfilter : resolveFilter filter with
      | error e => rfl
      | ok entry =>
          by_cases hmem : entry.1 ∈ built
          · simp [bind, Except.bind, AList.lookup_isSome, hmem, throw, throwThe,
              MonadExceptOf.throw]
          · simp [bind, Except.bind, AList.lookup_isSome, hmem, ih]

/-- A filter that is resolved has its name, and under each id the method config
with that id. -/
theorem resolveFilter_eq_ok_iff {filter : Proto.BinderTransactionFilter} {name : String}
    {config : InterfaceConfig} :
    resolveFilter filter = .ok (name, config) ↔
      filter.interfaceName = some name ∧ name ≠ "" ∧ filter.methodConfigs ≠ [] ∧
        ∃ entries, Converts resolveMethodConfig filter.methodConfigs entries ∧
          (entries.map Prod.fst).Nodup ∧ config.methods = insertAll ∅ entries := by
  have hcollect : ∀ built, resolveMethodConfigs ⟨∅⟩ filter.methodConfigs = .ok built ↔
      ∃ entries, Converts resolveMethodConfig filter.methodConfigs entries ∧
        (entries.map Prod.fst).Nodup ∧ built.methods = insertAll ∅ entries := by
    intro built
    rw [resolveMethodConfigs_eq_collect, map_eq_ok_iff]
    constructor
    · rintro ⟨methods, hmethods, rfl⟩
      obtain ⟨entries, hconverts, hnodup, -, rfl⟩ := collect_eq_ok_iff.1 hmethods
      exact ⟨entries, hconverts, hnodup, rfl⟩
    · rintro ⟨entries, hconverts, hnodup, hbuilt⟩
      refine ⟨insertAll ∅ entries, collect_eq_ok_iff.2 ?_, by rw [← hbuilt]⟩
      exact ⟨entries, hconverts, hnodup, fun _ _ => AList.notMem_empty _, rfl⟩
  rw [← hcollect config]
  unfold resolveFilter
  cases hname : filter.interfaceName with
  | none => simp
  | some interfaceName =>
      constructor
      · intro hresolve
        obtain ⟨hempty, hrest⟩ := guard_eq_ok_iff.1 hresolve
        obtain ⟨hmethods, hrest⟩ := guard_eq_ok_iff.1 hrest
        obtain ⟨built, hbuilt, hpair⟩ := bind_eq_ok_iff.1 hrest
        cases hpair
        refine ⟨rfl, ?_, by simpa using hmethods, hbuilt⟩
        rintro rfl
        exact hempty rfl
      · rintro ⟨hsome, hne, hmethods, hbuilt⟩
        rw [Option.some.injEq] at hsome
        subst hsome
        apply guard_eq_ok_iff.2 ⟨?_, ?_⟩
        · intro hempty
          exact hne (String.toList_eq_nil_iff.1 (List.isEmpty_iff.1 hempty))
        · apply guard_eq_ok_iff.2 ⟨by simpa using hmethods, ?_⟩
          exact bind_eq_ok_iff.2 ⟨config, hbuilt, rfl⟩

theorem exists_resolveFilter_iff {filter : Proto.BinderTransactionFilter} :
    (∃ entry, resolveFilter filter = .ok entry) ↔ filter.Valid := by
  have hdistinct : ∀ {entries}, Converts resolveMethodConfig filter.methodConfigs entries →
      ((entries.map Prod.fst).Nodup ↔
        (filter.methodConfigs.map Proto.MethodConfig.methodId).Nodup) := by
    intro entries hconverts
    have hinjective : Function.Injective fun id : UInt64 => some id.toInt64 := by
      intro first second heq
      have htoInt := congrArg Int64.toUInt64 (Option.some.inj heq)
      simpa using htoInt
    exact hconverts.nodup_iff hinjective fun _ _ _ hproto => methodId_of_resolveMethodConfig hproto
  constructor
  · rintro ⟨⟨name, config⟩, hresolve⟩
    obtain ⟨hname, hne, hmethods, entries, hconverts, hnodup, -⟩ :=
      resolveFilter_eq_ok_iff.1 hresolve
    refine ⟨⟨name, hname, hne⟩, hmethods, ?_, (hdistinct hconverts).1 hnodup⟩
    intro proto hproto
    exact exists_resolveMethodConfig_iff.1 (exists_converts_iff.1 ⟨entries, hconverts⟩ proto hproto)
  · rintro ⟨⟨name, hname, hne⟩, hmethods, hvalid, hnodup⟩
    obtain ⟨entries, hconverts⟩ := exists_converts_iff.2 fun proto hproto =>
      exists_resolveMethodConfig_iff.2 (hvalid proto hproto)
    refine ⟨(name, ⟨insertAll ∅ entries⟩), resolveFilter_eq_ok_iff.2 ?_⟩
    exact ⟨hname, hne, hmethods, entries, hconverts, (hdistinct hconverts).2 hnodup, rfl⟩

/-- A program other than the binder program has no filters; the binder program
has some, and they are valid. -/
def Acceptable (filters : List Proto.BinderTransactionFilter) (bpfName : String) : Prop :=
  (bpfName ≠ binderBpfProgramName ∧ filters = []) ∨
    (bpfName = binderBpfProgramName ∧ filters ≠ [] ∧
      Proto.BinderTransactionFilter.AllValid filters)

/-- The resolved filters are the filters of the config: nothing is lost, nothing
is added, and what is found under a name and a number is what the one method
config for it says. -/
structure Resolves (protos : List Proto.BinderTransactionFilter)
    (filters : HashMap String InterfaceConfig) : Prop where
  interface_iff : ∀ interfaceName, (filters.lookup interfaceName).isSome ↔
    ∃ proto ∈ protos, proto.interfaceName = some interfaceName
  method_iff : ∀ interfaceName methodId, (getMethodOf filters interfaceName methodId).isSome ↔
    ∃ proto, Proto.Configures protos interfaceName proto ∧ proto.IsFor methodId
  renders : ∀ interfaceName methodId config,
    getMethodOf filters interfaceName methodId = some config →
      ∃ proto, (Proto.Configures protos interfaceName proto ∧ proto.IsFor methodId) ∧
        config.Renders proto ∧
        ∀ other, Proto.Configures protos interfaceName other → other.IsFor methodId → other = proto
  methodIds : ∀ interfaceName config, filters.lookup interfaceName = some config →
    config.methodIds.Nodup ∧ ∀ methodId, methodId ∈ config.methodIds ↔
      ∃ proto, Proto.Configures protos interfaceName proto ∧ proto.IsFor methodId

theorem resolveBinderTransactionFilters_eq_ok_iff {probe : Proto.ProbeConfig} {bpfName : String}
    {filters : HashMap String InterfaceConfig} :
    resolveBinderTransactionFilters probe bpfName = .ok filters ↔
      (bpfName = binderBpfProgramName ↔ probe.binderTransactionFilters ≠ []) ∧
        ∃ entries, Converts resolveFilter probe.binderTransactionFilters entries ∧
          (entries.map Prod.fst).Nodup ∧ filters = insertAll ∅ entries := by
  unfold resolveBinderTransactionFilters
  by_cases hempty : probe.binderTransactionFilters = []
  · by_cases hname : bpfName = binderBpfProgramName
    · simp [hempty, hname]
    · simp [hempty, hname, Converts, eq_comm]
  · by_cases hname : bpfName = binderBpfProgramName
    · have hcollect : collect resolveFilter
          (fun name => AnyError.message ("Duplicate interface_name " ++ name)) ∅
          probe.binderTransactionFilters = .ok filters ↔ _ := collect_eq_ok_iff
      simpa [hempty, hname, resolveFilters_eq_collect] using hcollect
    · simp [hempty, hname]

theorem interfaceName_of_resolveFilter {filter : Proto.BinderTransactionFilter} {name : String}
    {config : InterfaceConfig} (hresolve : resolveFilter filter = .ok (name, config)) :
    filter.interfaceName = some name :=
  (resolveFilter_eq_ok_iff.1 hresolve).1

theorem interfaceNames_nodup_iff {protos : List Proto.BinderTransactionFilter}
    {entries : List (String × InterfaceConfig)} (hconverts : Converts resolveFilter protos entries) :
    (entries.map Prod.fst).Nodup ↔
      (protos.map Proto.BinderTransactionFilter.interfaceName).Nodup := by
  apply hconverts.nodup_iff (Option.some_injective String)
  intro proto _ entry hproto
  exact interfaceName_of_resolveFilter hproto

/-- Which filter lists are accepted. -/
theorem exists_resolved_iff {probe : Proto.ProbeConfig} {bpfName : String} :
    (∃ filters, resolveBinderTransactionFilters probe bpfName = .ok filters) ↔
      Acceptable probe.binderTransactionFilters bpfName := by
  constructor
  · rintro ⟨filters, hresolve⟩
    obtain ⟨hname, entries, hconverts, hnodup, -⟩ :=
      resolveBinderTransactionFilters_eq_ok_iff.1 hresolve
    by_cases hempty : probe.binderTransactionFilters = []
    · exact .inl ⟨fun heq => hname.1 heq hempty, hempty⟩
    · refine .inr ⟨hname.2 hempty, hempty, ?_, (interfaceNames_nodup_iff hconverts).1 hnodup⟩
      intro filter hfilter
      exact exists_resolveFilter_iff.1 (exists_converts_iff.1 ⟨entries, hconverts⟩ filter hfilter)
  · rintro (⟨hname, hempty⟩ | ⟨hname, hempty, hvalid, hdistinct⟩)
    · refine ⟨∅, resolveBinderTransactionFilters_eq_ok_iff.2 ⟨by simp [hname, hempty], [], ?_⟩⟩
      simp [hempty, Converts]
    · obtain ⟨entries, hconverts⟩ := exists_converts_iff.2 fun filter hfilter =>
        exists_resolveFilter_iff.2 (hvalid filter hfilter)
      refine ⟨insertAll ∅ entries, resolveBinderTransactionFilters_eq_ok_iff.2 ?_⟩
      exact ⟨by simp [hname, hempty], entries, hconverts,
        (interfaceNames_nodup_iff hconverts).2 hdistinct, rfl⟩

section Resolved

variable {protos : List Proto.BinderTransactionFilter} {entries : List (String × InterfaceConfig)}

/-- What is found under a name. -/
theorem lookup_resolved_iff (hconverts : Converts resolveFilter protos entries)
    (hnodup : (entries.map Prod.fst).Nodup) {name : String} {config : InterfaceConfig} :
    (insertAll ∅ entries).lookup name = some config ↔
      ∃ filter ∈ protos, resolveFilter filter = .ok (name, config) := by
  rw [lookup_insertAll_empty hnodup, hconverts.mem_iff]

/-- What is found under an id of a resolved filter. -/
theorem getMethod_resolved_iff {filter : Proto.BinderTransactionFilter} {name : String}
    {config : InterfaceConfig} (hresolve : resolveFilter filter = .ok (name, config))
    {methodId : UInt64} {methodConfig : MethodConfig} :
    config.getMethod methodId = some methodConfig ↔
      ∃ proto ∈ filter.methodConfigs, resolveMethodConfig proto = .ok (methodId, methodConfig) := by
  obtain ⟨-, -, -, methods, hmethods, hnodup, hconfig⟩ := resolveFilter_eq_ok_iff.1 hresolve
  rw [InterfaceConfig.getMethod, hconfig, lookup_insertAll_empty hnodup, hmethods.mem_iff]

/-- The two lookups together. -/
theorem getMethodOf_resolved_iff (hconverts : Converts resolveFilter protos entries)
    (hnodup : (entries.map Prod.fst).Nodup) {name : String} {methodId : UInt64}
    {methodConfig : MethodConfig} :
    getMethodOf (insertAll ∅ entries) name methodId = some methodConfig ↔
      ∃ filter ∈ protos, ∃ config, resolveFilter filter = .ok (name, config) ∧
        ∃ proto ∈ filter.methodConfigs,
          resolveMethodConfig proto = .ok (methodId, methodConfig) := by
  rw [getMethodOf, Option.bind_eq_some_iff]
  constructor
  · rintro ⟨config, hlookup, hmethod⟩
    obtain ⟨filter, hfilter, hresolve⟩ := (lookup_resolved_iff hconverts hnodup).1 hlookup
    exact ⟨filter, hfilter, config, hresolve, (getMethod_resolved_iff hresolve).1 hmethod⟩
  · rintro ⟨filter, hfilter, config, hresolve, hproto⟩
    exact ⟨config, (lookup_resolved_iff hconverts hnodup).2 ⟨filter, hfilter, hresolve⟩,
      (getMethod_resolved_iff hresolve).2 hproto⟩

/-- A configured method is resolved, together with its filter. -/
theorem exists_resolved_of_configures (hconverts : Converts resolveFilter protos entries)
    {name : String} {proto : Proto.MethodConfig} (hconfigures : Proto.Configures protos name proto)
    {methodId : UInt64} (hfor : proto.IsFor methodId) :
    ∃ filter ∈ protos, ∃ config methodConfig, resolveFilter filter = .ok (name, config) ∧
      proto ∈ filter.methodConfigs ∧
      resolveMethodConfig proto = .ok (methodId, methodConfig) := by
  obtain ⟨filter, hfilter, hname, hproto⟩ := hconfigures
  obtain ⟨⟨other, config⟩, hresolve⟩ := exists_converts_iff.1 ⟨entries, hconverts⟩ filter hfilter
  obtain rfl : name = other := by
    rw [interfaceName_of_resolveFilter hresolve, Option.some.injEq] at hname
    exact hname.symm
  have hvalid := exists_resolveFilter_iff.1 ⟨_, hresolve⟩
  obtain ⟨⟨id, methodConfig⟩, hmethod⟩ :=
    exists_resolveMethodConfig_iff.2 (hvalid.valid proto hproto)
  obtain rfl := (isFor_of_resolveMethodConfig hmethod).1 hfor
  exact ⟨filter, hfilter, config, methodConfig, hresolve, hproto, hmethod⟩

/-- There is one method config for a name and a number. -/
theorem configures_unique (hconverts : Converts resolveFilter protos entries)
    (hnodup : (entries.map Prod.fst).Nodup) {name : String} {methodId : UInt64}
    {proto other : Proto.MethodConfig}
    (hproto : Proto.Configures protos name proto) (hfor : proto.IsFor methodId)
    (hother : Proto.Configures protos name other) (hotherFor : other.IsFor methodId) :
    other = proto := by
  obtain ⟨filter, hfilter, config, _, hresolve, hmem, hmethod⟩ :=
    exists_resolved_of_configures hconverts hproto hfor
  obtain ⟨filter', hfilter', config', _, hresolve', hmem', hmethod'⟩ :=
    exists_resolved_of_configures hconverts hother hotherFor
  have hnames := (interfaceNames_nodup_iff hconverts).1 hnodup
  obtain rfl : filter' = filter := List.inj_on_of_nodup_map hnames hfilter' hfilter (by
    rw [interfaceName_of_resolveFilter hresolve, interfaceName_of_resolveFilter hresolve'])
  have hids := (exists_resolveFilter_iff.1 ⟨_, hresolve⟩).distinct
  apply List.inj_on_of_nodup_map hids hmem' hmem
  rw [methodId_of_resolveMethodConfig hmethod, methodId_of_resolveMethodConfig hmethod']

end Resolved

/-- A filter list is accepted exactly when it is one for the program, and then
the resolved filters are those of the config. -/
theorem filters_resolved_exactly (probe : Proto.ProbeConfig) (bpfName : String) :
    ((∃ filters, resolveBinderTransactionFilters probe bpfName = .ok filters) ↔
      Acceptable probe.binderTransactionFilters bpfName) ∧
    ∀ filters, resolveBinderTransactionFilters probe bpfName = .ok filters →
      Resolves probe.binderTransactionFilters filters := by
  refine ⟨exists_resolved_iff, ?_⟩
  intro filters hresolve
  obtain ⟨-, entries, hconverts, hnodup, rfl⟩ :=
    resolveBinderTransactionFilters_eq_ok_iff.1 hresolve
  have hmethod : ∀ name methodId, (getMethodOf (insertAll ∅ entries) name methodId).isSome ↔
      ∃ proto, Proto.Configures probe.binderTransactionFilters name proto ∧
        proto.IsFor methodId := by
    intro name methodId
    rw [Option.isSome_iff_exists]
    constructor
    · rintro ⟨methodConfig, hsome⟩
      obtain ⟨filter, hfilter, config, hfilterOk, proto, hproto, hmethod⟩ :=
        (getMethodOf_resolved_iff hconverts hnodup).1 hsome
      exact ⟨proto, ⟨filter, hfilter, interfaceName_of_resolveFilter hfilterOk, hproto⟩,
        (isFor_of_resolveMethodConfig hmethod).2 rfl⟩
    · rintro ⟨proto, hconfigures, hfor⟩
      obtain ⟨filter, hfilter, config, methodConfig, hfilterOk, hproto, hmethod⟩ :=
        exists_resolved_of_configures hconverts hconfigures hfor
      exact ⟨methodConfig, (getMethodOf_resolved_iff hconverts hnodup).2
        ⟨filter, hfilter, config, hfilterOk, proto, hproto, hmethod⟩⟩
  refine ⟨?_, hmethod, ?_, ?_⟩
  · intro name
    rw [Option.isSome_iff_exists]
    constructor
    · rintro ⟨config, hlookup⟩
      obtain ⟨filter, hfilter, hfilterOk⟩ := (lookup_resolved_iff hconverts hnodup).1 hlookup
      exact ⟨filter, hfilter, interfaceName_of_resolveFilter hfilterOk⟩
    · rintro ⟨filter, hfilter, hname⟩
      obtain ⟨⟨other, config⟩, hfilterOk⟩ :=
        exists_converts_iff.1 ⟨entries, hconverts⟩ filter hfilter
      obtain rfl : name = other := by
        rw [interfaceName_of_resolveFilter hfilterOk, Option.some.injEq] at hname
        exact hname.symm
      exact ⟨config, (lookup_resolved_iff hconverts hnodup).2 ⟨filter, hfilter, hfilterOk⟩⟩
  · intro name methodId methodConfig hsome
    obtain ⟨filter, hfilter, config, hfilterOk, proto, hproto, hmethod⟩ :=
      (getMethodOf_resolved_iff hconverts hnodup).1 hsome
    have hconfigures : Proto.Configures probe.binderTransactionFilters name proto :=
      ⟨filter, hfilter, interfaceName_of_resolveFilter hfilterOk, hproto⟩
    have hfor : proto.IsFor methodId := (isFor_of_resolveMethodConfig hmethod).2 rfl
    refine ⟨proto, ⟨hconfigures, hfor⟩, renders_of_resolveMethodConfig hmethod, ?_⟩
    intro other hother hotherFor
    exact configures_unique hconverts hnodup hconfigures hfor hother hotherFor
  · intro name config hlookup
    refine ⟨config.methods.keys_nodup, ?_⟩
    intro methodId
    rw [← hmethod name methodId, getMethodOf, hlookup, Option.bind_some,
      InterfaceConfig.getMethod, AList.lookup_isSome, AList.mem_keys, InterfaceConfig.methodIds]

end UprobeStats
