/-
The kernel map of binder transaction filters as the daemon writes and drains
it.  Keys and values are fixed-size C arrays; interface names and code lists
are cut to fit them, and a key that is read back is decoded as a C string and
encoded again before it is deleted.
-/
import UprobeStats.Lib.FiniteMap
import UprobeStats.Resolver
import UprobeStats.Strings

namespace UprobeStats

open Bytes FiniteMap

/-- `struct BinderInterfaceBpfMapKey`. -/
@[ext]
structure BinderInterfaceBpfMapKey where
  interfaceDescriptor : List UInt8
  length_eq : interfaceDescriptor.length = maxStringLength
deriving DecidableEq

/-- `struct BinderCodesBpfMapValue`. -/
structure BinderCodesBpfMapValue where
  codes : List UInt64
  length_eq : codes.length = 10
deriving DecidableEq

/-- The HASH map `interfaces`. -/
abbrev InterfacesMap := AList (fun _ : BinderInterfaceBpfMapKey => BinderCodesBpfMapValue)

/-- How the kernel picks the key it returns for "first". -/
abbrev FirstInterface := FirstKey BinderInterfaceBpfMapKey BinderCodesBpfMapValue

namespace BinderInterfaceBpfMap

def toCKey (key : String) : BinderInterfaceBpfMapKey :=
  ⟨fill maxStringLength 0 (asBytes key), length_fill_name key⟩

def toCValue (value : List UInt64) : BinderCodesBpfMapValue :=
  ⟨fill 10 0 value, length_fill ..⟩

/-- `from_c_key`, which falls back to the empty string. -/
def fromCKey (key : BinderInterfaceBpfMapKey) : String :=
  match bytesAsStr key.interfaceDescriptor with
  | .error _ => ""
  | .ok name => name

end BinderInterfaceBpfMap

open BinderInterfaceBpfMap

inductive UpdateMapElemFlags where
  | upsert
  | insert
  | update
deriving DecidableEq, Repr

/-- The kernel's update: `-EEXIST` and `-ENOENT` by the flag. -/
def bpfMapUpdateElem (m : InterfacesMap) (key : BinderInterfaceBpfMapKey)
    (value : BinderCodesBpfMapValue) (flags : UpdateMapElemFlags) :
    Except Int InterfacesMap :=
  match flags with
  | .upsert => .ok (m.insert key value)
  | .insert => if key ∈ m then .error (-17) else .ok (m.insert key value)
  | .update => if key ∈ m then .ok (m.insert key value) else .error (-2)

/-- What the map's system calls do beyond a finite map: opening it may fail,
an update may fail for reasons of its own, and "first key" picks a key. -/
structure MapEnv where
  openExclusiveRw : Except AnyError Unit
  updateFault : InterfacesMap → BinderInterfaceBpfMapKey → Option Int
  firstKey : FirstInterface

/-- The environment in which every system call does its work. -/
def MapEnv.reliable (firstKey : FirstInterface) : MapEnv where
  openExclusiveRw := .ok ()
  updateFault _ _ := none
  firstKey := firstKey

namespace BinderInterfaceMapAccessor

/-- `BpfMapAccessor::put`. -/
def put (env : MapEnv) (m : InterfacesMap) (key : String) (value : List UInt64)
    (flags : UpdateMapElemFlags) : Except AnyError InterfacesMap :=
  match env.updateFault m (toCKey key) with
  | some res => .error (.message ("Failed to write to BPF map. Error code: " ++ toString res))
  | none =>
      match bpfMapUpdateElem m (toCKey key) (toCValue value) flags with
      | .error res =>
          .error (.message ("Failed to write to BPF map. Error code: " ++ toString res))
      | .ok m => .ok m

/-- `drain`: every key is decoded by `get_first_key` and encoded again by
`delete`. -/
def drain (firstKey : FirstInterface) (m : InterfacesMap) :
    Except AnyError Unit × InterfacesMap :=
  match drainThrough firstKey (fun key => toCKey (fromCKey key)) m with
  | (.ok (), rest) => (.ok (), rest)
  | (.error key, rest) => (.error (.message ("Failed to delete key " ++ fromCKey key)), rest)

end BinderInterfaceMapAccessor

open BinderInterfaceMapAccessor

/-- The loop of `write_binder_transaction_filter_to_binder_bpf_map` over the
filters of one probe. -/
def writeBinderTransactionFilterToBinderBpfMap (env : MapEnv) :
    List (Σ _ : String, InterfaceConfig) → InterfacesMap →
      Except AnyError Unit × InterfacesMap
  | [], m => (.ok (), m)
  | ⟨interfaceName, interfaceConfig⟩ :: rest, m =>
      match put env m interfaceName interfaceConfig.methodIds .insert with
      | .error e => (.error e, m)
      | .ok m => writeBinderTransactionFilterToBinderBpfMap env rest m

/-- The error of a failed write, after the attempt to drain what it left. -/
def setupError (write : AnyError) : Except AnyError Unit → AnyError
  | .ok () => .message ("Failed to write binder transaction filter to bpf map: " ++ write.toText)
  | .error drain =>
      .message ("Failed to write *and* drain binder interface bpf map. write error: " ++
        write.toText ++ ", drain error: " ++ drain.toText)

/-- The loop of `setup_binder_transaction_filters`.  `opened` says whether the
accessor exists already. -/
def setupLoop (env : MapEnv) :
    List ResolvedProbe → Bool → InterfacesMap → Except AnyError Bool × InterfacesMap
  | [], opened, m => (.ok opened, m)
  | probe :: rest, opened, m =>
      if probe.binderTransactionFilters.entries.isEmpty then setupLoop env rest opened m
      else
        match if opened then .ok () else env.openExclusiveRw with
        | .error e => (.error e, m)
        | .ok () =>
            match writeBinderTransactionFilterToBinderBpfMap env
                probe.binderTransactionFilters.entries m with
            | (.ok (), written) => setupLoop env rest true written
            | (.error e, written) =>
                let (drained, left) := drain env.firstKey written
                (.error (setupError e drained), left)

/-- `setup_binder_transaction_filters`: whether an accessor was opened, and
the map it leaves. -/
def setupBinderTransactionFilters (env : MapEnv) (probes : List ResolvedProbe)
    (m : InterfacesMap) : Except AnyError Bool × InterfacesMap :=
  setupLoop env probes false m

/-- The entries the filters of a list of probes stand for, in the order in
which they are written. -/
def filterEntries (probes : List ResolvedProbe) :
    List (BinderInterfaceBpfMapKey × BinderCodesBpfMapValue) :=
  probes.flatMap fun probe => probe.binderTransactionFilters.entries.map fun filter =>
    (toCKey filter.1, toCValue filter.2.methodIds)

/-! What a setup writes. -/

/-- The entries are new to the map and to each other. -/
structure Fits (m : InterfacesMap)
    (entries : List (BinderInterfaceBpfMapKey × BinderCodesBpfMapValue)) : Prop where
  nodup : (entries.map Prod.fst).Nodup
  fresh : ∀ key ∈ entries.map Prod.fst, key ∉ m

/-- Writing `entries` got as far as `written` and was stopped at the next one,
because its key was taken or its update failed. -/
structure Stops (env : MapEnv) (m : InterfacesMap)
    (entries written : List (BinderInterfaceBpfMapKey × BinderCodesBpfMapValue)) : Prop where
  fits : Fits m written
  blocked : ∃ next, written ++ [next] <+: entries ∧
    (next.1 ∈ insertAll m written ∨
      (env.updateFault (insertAll m written) next.1).isSome = true)

theorem Fits.nil (m : InterfacesMap) : Fits m [] := ⟨by simp, by simp⟩

theorem Fits.append {m : InterfacesMap}
    {first second : List (BinderInterfaceBpfMapKey × BinderCodesBpfMapValue)}
    (hfirst : Fits m first) (hsecond : Fits (insertAll m first) second) :
    Fits m (first ++ second) := by
  constructor
  · rw [List.map_append, List.nodup_append]
    refine ⟨hfirst.nodup, hsecond.nodup, ?_⟩
    rintro key hkey other hother rfl
    exact hsecond.fresh key hother (mem_insertAll.2 (Or.inr hkey))
  · intro key hkey
    rw [List.map_append, List.mem_append] at hkey
    rcases hkey with hkey | hkey
    · exact hfirst.fresh key hkey
    · intro hmem
      exact hsecond.fresh key hkey (mem_insertAll.2 (Or.inl hmem))

theorem Stops.append_right {env : MapEnv} {m : InterfacesMap}
    {entries written : List (BinderInterfaceBpfMapKey × BinderCodesBpfMapValue)}
    (hstops : Stops env m entries written)
    (more : List (BinderInterfaceBpfMapKey × BinderCodesBpfMapValue)) :
    Stops env m (entries ++ more) written := by
  obtain ⟨hfits, next, hpre, hwhy⟩ := hstops
  exact ⟨hfits, next, hpre.trans (List.prefix_append entries more), hwhy⟩

theorem Stops.append_left {env : MapEnv} {m : InterfacesMap}
    {first entries written : List (BinderInterfaceBpfMapKey × BinderCodesBpfMapValue)}
    (hfirst : Fits m first) (hstops : Stops env (insertAll m first) entries written) :
    Stops env m (first ++ entries) (first ++ written) := by
  obtain ⟨hfits, next, hpre, hwhy⟩ := hstops
  refine ⟨hfirst.append hfits, next, ?_, ?_⟩
  · rw [List.append_assoc]
    exact (List.prefix_append_right_inj first).2 hpre
  · rwa [insertAll_append]

/-- The entries of one probe. -/
def probeEntries (filters : List (Σ _ : String, InterfaceConfig)) :
    List (BinderInterfaceBpfMapKey × BinderCodesBpfMapValue) :=
  filters.map fun filter => (toCKey filter.1, toCValue filter.2.methodIds)

theorem filterEntries_cons (probe : ResolvedProbe) (rest : List ResolvedProbe) :
    filterEntries (probe :: rest) =
      probeEntries probe.binderTransactionFilters.entries ++ filterEntries rest := rfl

/-- A put either inserts a new key or is blocked. -/
theorem put_insert_cases (env : MapEnv) (m : InterfacesMap) (name : String)
    (value : List UInt64) :
    (toCKey name ∉ m ∧ put env m name value .insert =
        .ok (m.insert (toCKey name) (toCValue value))) ∨
      ((∃ e, put env m name value .insert = .error e) ∧
        (toCKey name ∈ m ∨ (env.updateFault m (toCKey name)).isSome = true)) := by
  cases hfault : env.updateFault m (toCKey name) with
  | some res => exact Or.inr ⟨⟨_, by rw [put, hfault]⟩, Or.inr (by simp)⟩
  | none =>
      by_cases hmem : toCKey name ∈ m
      · refine Or.inr ⟨⟨.message ("Failed to write to BPF map. Error code: " ++
          toString (-17 : Int)), ?_⟩, Or.inl hmem⟩
        simp only [put, hfault, bpfMapUpdateElem, hmem, ↓reduceIte]
      · exact Or.inl ⟨hmem, by simp [put, hfault, bpfMapUpdateElem, hmem]⟩

theorem write_cases (env : MapEnv) (filters : List (Σ _ : String, InterfaceConfig))
    (m : InterfacesMap) :
    (Fits m (probeEntries filters) ∧
        writeBinderTransactionFilterToBinderBpfMap env filters m =
          (.ok (), insertAll m (probeEntries filters))) ∨
      ∃ written e, Stops env m (probeEntries filters) written ∧
        writeBinderTransactionFilterToBinderBpfMap env filters m =
          (.error e, insertAll m written) := by
  induction filters generalizing m with
  | nil => exact Or.inl ⟨Fits.nil m, rfl⟩
  | cons filter rest ih =>
      obtain ⟨name, config⟩ := filter
      rcases put_insert_cases env m name config.methodIds with ⟨hnew, hput⟩ | ⟨⟨e, hput⟩, hwhy⟩
      · have hhead : Fits m [(toCKey name, toCValue config.methodIds)] :=
          ⟨by simp, by simpa using hnew⟩
        rcases ih (m.insert (toCKey name) (toCValue config.methodIds)) with
          ⟨hfits, hwrite⟩ | ⟨written, e, hstops, hwrite⟩
        · left
          refine ⟨hhead.append hfits, ?_⟩
          simp only [writeBinderTransactionFilterToBinderBpfMap, hput, hwrite]
          rfl
        · right
          refine ⟨_, e, hstops.append_left hhead, ?_⟩
          simp only [writeBinderTransactionFilterToBinderBpfMap, hput, hwrite]
          rfl
      · right
        refine ⟨[], e, ⟨Fits.nil m, (toCKey name, toCValue config.methodIds), ?_, hwhy⟩, ?_⟩
        · exact ⟨probeEntries rest, rfl⟩
        · simp only [writeBinderTransactionFilterToBinderBpfMap, hput, insertAll_nil]

/-- The three ways a setup can end: the map could not be opened, everything
was written, or the write stopped and what it left was drained. -/
theorem setupLoop_cases (env : MapEnv) (probes : List ResolvedProbe) (opened : Bool)
    (m : InterfacesMap) :
    (∃ e, opened = false ∧ env.openExclusiveRw = .error e ∧
        setupLoop env probes opened m = (.error e, m)) ∨
      (Fits m (filterEntries probes) ∧
        setupLoop env probes opened m =
          (.ok (opened || !(filterEntries probes).isEmpty),
            insertAll m (filterEntries probes))) ∨
      ∃ written e, Stops env m (filterEntries probes) written ∧
        setupLoop env probes opened m =
          (.error e, (drain env.firstKey (insertAll m written)).2) := by
  induction probes generalizing opened m with
  | nil => exact Or.inr (Or.inl ⟨Fits.nil m, by simp [setupLoop, filterEntries]⟩)
  | cons probe rest ih =>
      rw [filterEntries_cons]
      cases hentries : probe.binderTransactionFilters.entries with
      | nil =>
          have hskip : setupLoop env (probe :: rest) opened m = setupLoop env rest opened m := by
            simp [setupLoop, hentries]
          rw [hskip]
          exact ih opened m
      | cons filter filters =>
          rw [← hentries]
          have hne : probe.binderTransactionFilters.entries.isEmpty = false := by
            simp [hentries]
          have hsome : (probeEntries probe.binderTransactionFilters.entries ++
              filterEntries rest).isEmpty = false := by
            simp [hentries, probeEntries]
          cases hopen : (if opened then .ok () else env.openExclusiveRw : Except AnyError Unit) with
          | error e =>
              left
              cases opened with
              | true => simp at hopen
              | false =>
                  have hopen' : env.openExclusiveRw = .error e := by simpa using hopen
                  refine ⟨e, rfl, hopen', ?_⟩
                  simp only [setupLoop, hne, hopen', Bool.false_eq_true, ↓reduceIte]
          | ok _ =>
              right
              rcases write_cases env probe.binderTransactionFilters.entries m with
                ⟨hfits, hwrite⟩ | ⟨written, e, hstops, hwrite⟩
              · have hloop : setupLoop env (probe :: rest) opened m = setupLoop env rest true
                    (insertAll m (probeEntries probe.binderTransactionFilters.entries)) := by
                  simp only [setupLoop, hne, hopen, hwrite, Bool.false_eq_true, ↓reduceIte]
                rw [hloop]
                rcases ih true (insertAll m (probeEntries _)) with
                  ⟨e, hfalse, _⟩ | ⟨hrest, hsetup⟩ | ⟨written, e, hstops, hsetup⟩
                · cases hfalse
                · left
                  refine ⟨hfits.append hrest, ?_⟩
                  rw [hsetup, insertAll_append, hsome]
                  simp
                · right
                  refine ⟨_, e, hstops.append_left hfits, ?_⟩
                  rw [hsetup, insertAll_append]
              · right
                refine ⟨written, setupError e (drain env.firstKey (insertAll m written)).1,
                  hstops.append_right (filterEntries rest), ?_⟩
                simp only [setupLoop, hne, hopen, hwrite, Bool.false_eq_true, ↓reduceIte]

/-- Without faults, a setup from the empty map succeeds exactly when no two
filters share a key, and then it writes all of them. -/
theorem setup_reliable_cases (firstKey : FirstInterface) (probes : List ResolvedProbe) :
    (((filterEntries probes).map Prod.fst).Nodup ∧
        setupBinderTransactionFilters (.reliable firstKey) probes ∅ =
          (.ok (!(filterEntries probes).isEmpty), insertAll ∅ (filterEntries probes))) ∨
      (¬ ((filterEntries probes).map Prod.fst).Nodup ∧
        ∃ e left, setupBinderTransactionFilters (.reliable firstKey) probes ∅ =
          (.error e, left)) := by
  rcases setupLoop_cases (.reliable firstKey) probes false ∅ with
    ⟨e, _, hopen, _⟩ | ⟨hfits, hsetup⟩ | ⟨written, e, hstops, hsetup⟩
  · cases hopen
  · left
    exact ⟨hfits.nodup, hsetup⟩
  · right
    refine ⟨?_, e, _, hsetup⟩
    intro hnodup
    obtain ⟨_, next, hpre, htaken | hfault⟩ := hstops
    · have hkeys : ((written ++ [next]).map Prod.fst).Nodup :=
        hnodup.sublist (hpre.sublist.map Prod.fst)
      rw [List.map_append, List.nodup_append] at hkeys
      rcases mem_insertAll.1 htaken with hempty | hwritten
      · exact AList.notMem_empty _ hempty
      · exact hkeys.2.2 _ hwritten _ (by simp) rfl
    · cases hfault

/-! Which keys survive being decoded and encoded again. -/

/-- The key of a name without NUL that leaves room for the terminator. -/
def Readable (key : BinderInterfaceBpfMapKey) : Prop :=
  ∃ name, 0 ∉ asBytes name ∧ (asBytes name).length < maxStringLength ∧ key = toCKey name

theorem fromCKey_toCKey {name : String} (hnul : 0 ∉ asBytes name)
    (hlength : (asBytes name).length < maxStringLength) : fromCKey (toCKey name) = name := by
  have hdecode : bytesAsStr (toCKey name).interfaceDescriptor = .ok name :=
    bytesAsStr_fill hnul hlength
  rw [fromCKey, hdecode]

/-- What is decoded has no NUL and is shorter than the array. -/
theorem fromCKey_short (key : BinderInterfaceBpfMapKey) :
    0 ∉ asBytes (fromCKey key) ∧ (asBytes (fromCKey key)).length < maxStringLength := by
  have hempty : 0 ∉ asBytes "" ∧ (asBytes "").length < maxStringLength := by decide
  unfold fromCKey
  split
  · exact hempty
  · rename_i name hname
    unfold bytesAsStr fromBytesUntilNul at hname
    split at hname
    · cases hname
    · rename_i string hstring
      split at hname
      · cases hname
      · rename_i decoded hdecode
        simp only [Except.ok.injEq] at hname
        subst hname
        by_cases hnul : 0 ∈ key.interfaceDescriptor
        · simp only [hnul, ↓reduceIte, Option.some.injEq] at hstring
          rw [asBytes_of_fromUtf8 hdecode, ← hstring]
          refine ⟨nul_notMem_text _, ?_⟩
          rw [← key.length_eq]
          exact length_text_lt hnul
        · simp [hnul] at hstring

theorem canonical_idempotent (key : BinderInterfaceBpfMapKey) :
    toCKey (fromCKey (toCKey (fromCKey key))) = toCKey (fromCKey key) := by
  obtain ⟨hnul, hlength⟩ := fromCKey_short key
  rw [fromCKey_toCKey hnul hlength]

theorem canonical_iff_readable (key : BinderInterfaceBpfMapKey) :
    toCKey (fromCKey key) = key ↔ Readable key := by
  constructor
  · intro hcanon
    exact ⟨fromCKey key, (fromCKey_short key).1, (fromCKey_short key).2, hcanon.symm⟩
  · rintro ⟨name, hnul, hlength, rfl⟩
    rw [fromCKey_toCKey hnul hlength]

theorem drain_snd (firstKey : FirstInterface) (interfaces : InterfacesMap) :
    (drain firstKey interfaces).2 =
      (drainThrough firstKey (fun key => toCKey (fromCKey key)) interfaces).2 := by
  unfold drain
  split <;> simp [*]

/-- A drain empties the map exactly when every key in it is readable. -/
theorem drain_eq_empty_iff (firstKey : FirstInterface) (interfaces : InterfacesMap) :
    (drain firstKey interfaces).2 = ∅ ↔ ∀ key ∈ interfaces, Readable key := by
  rw [drain_snd, drainThrough_eq_empty_iff firstKey canonical_idempotent]
  simp only [canonical_iff_readable]

/-! The smallest probe with a filter, by the name of its interface. -/

def singleMethodProbeConfig (name : String) : Proto.ProbeConfig where
  bpfName := some binderBpfProgramName
  binderTransactionFilters := [{
    interfaceName := some name
    methodConfigs := [{ methodId := some 1, eventServiceConfig := some {} }] }]

def singleMethodProbe (name : String) : ResolvedProbe where
  methodDescriptor := ⟨"android.os.Binder", "execTransactInternal", []⟩
  offsets := ⟨"/system/framework/arm64/boot-framework.oat", 0, 4096⟩
  bpfProgramPath := prefixBpf binderBpfProgramName
  binderTransactionFilters := AList.insert name
    ⟨AList.insert 1 ⟨some ⟨.buffer⟩, none⟩ ∅⟩ ∅

/-- Any name but the empty one is accepted. -/
theorem singleMethodProbe_accepted {name : String} (hname : name.toList ≠ []) :
    Accepted (singleMethodProbe name).binderTransactionFilters := by
  have hnonempty : name.toList.isEmpty = false := by simpa using hname
  refine ⟨singleMethodProbeConfig name, binderBpfProgramName,
    (singleMethodProbe name).binderTransactionFilters, ?_, ?_⟩
  · simp only [resolveBinderTransactionFilters, singleMethodProbeConfig, resolveFilters,
      resolveFilter, hnonempty, ↓reduceIte]
    rfl
  · intro key
    cases (singleMethodProbe name).binderTransactionFilters.lookup key with
    | none => exact Option.Rel.none
    | some config => exact Option.Rel.some (fun _ => rfl)

/-- A name of 128 characters, which leaves no room for a terminator. -/
def longName : String := String.ofList (List.replicate 128 'a')

theorem asBytes_replicate (n : Nat) :
    asBytes (String.ofList (List.replicate n 'a')) = List.replicate n 97 := by
  have hencode : String.utf8EncodeChar 'a' = [97] := rfl
  rw [asBytes_ofList, List.flatMap_replicate, hencode, List.flatten_replicate_singleton]

theorem longName_nonempty : longName.toList ≠ [] := by
  have hlist : longName.toList = List.replicate 128 'a' := String.toList_ofList
  intro hempty
  have hlength := congrArg List.length (hlist.symm.trans hempty)
  rw [List.length_replicate] at hlength
  cases hlength

theorem asBytes_longName : asBytes longName = List.replicate 128 97 := asBytes_replicate 128

end UprobeStats
