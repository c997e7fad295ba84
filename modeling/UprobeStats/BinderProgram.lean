/-
The BPF program on `execTransactInternal` and what it reports with the filters
of a task installed.  The daemon writes a filter under the first 128 bytes of
its interface name; the program looks one up under the first 127 bytes of the
descriptor and a NUL.
-/
import UprobeStats.BinderMap
import UprobeStats.BpfFns

namespace UprobeStats

open Bytes FiniteMap Memory BinderInterfaceBpfMap

/-- `kBinderDescriptorOffset`. -/
def kBinderDescriptorOffset : UInt64 := 8

/-- `struct BinderTransaction`. -/
structure BinderTransaction where
  interfaceDescriptor : List UInt8
  code : UInt64
  callingUid : Int32
  timestampNs : UInt64
deriving DecidableEq, Repr

/-- The key on the program's stack: zeros, then `recordString`. -/
def readDescriptor (mem : Image) (descriptorPtr : UInt64) : BinderInterfaceBpfMapKey where
  interfaceDescriptor :=
    (recordString mem descriptorPtr maxStringLength (List.replicate maxStringLength 0)).2
  length_eq := by
    rw [length_recordString (by decide) (by simp), List.length_replicate]

/-- `bpf_interfaces_lookup_elem`. -/
def bpfInterfacesLookupElem (interfaces : InterfacesMap) (key : BinderInterfaceBpfMapKey) :
    Option BinderCodesBpfMapValue :=
  interfaces.lookup key

/-- The loop over the codes: stop at a 0, go on at a different code. -/
def findCode (code : UInt64) : List UInt64 → Bool
  | [] => false
  | first :: rest =>
      if first = 0 then false
      else if first ≠ code then findCode code rest
      else true

/-- `uprobe/exec_transact_internal`: its return value and the record it
submits.  `reserved` says whether the ring buffer had room. -/
def execTransactInternal (interfaces : InterfacesMap) (mem : Image) (reserved : Bool)
    (ktimeGetNs : UInt64) (ctx : PtRegs) : Int × Option BinderTransaction :=
  let thisBinderPtr := ctx.regs 1
  let descriptorPtr := UInt64.ofNat
    (ofLittleEndian (bpfProbeReadUser mem 4 (thisBinderPtr + kBinderDescriptorOffset)).2)
  let key := readDescriptor mem descriptorPtr
  match bpfInterfacesLookupElem interfaces key with
  | none => (0, none)
  | some value =>
      if findCode (ctx.regs 2) value.codes then
        if reserved then
          (0, some {
            interfaceDescriptor := key.interfaceDescriptor
            code := ctx.regs 2
            callingUid := (ctx.regs 6).toUInt32.toInt32
            timestampNs := ktimeGetNs })
        else (1, none)
      else (0, none)

/-! The call that is traced. -/

/-- A Java interface descriptor in compressed form: ASCII without NUL. -/
def IsDescriptor (bytes : List UInt8) : Prop :=
  bytes.length < 2 ^ 31 ∧ ∀ byte ∈ bytes, byte ≠ 0 ∧ byte < 128

/-- The registers and the memory at a call of `execTransactInternal` on a
binder with this descriptor and with this code. -/
structure Transacts (mem : Image) (ctx : PtRegs) (descriptor : List UInt8)
    (code : UInt64) : Prop where
  descriptor : ∃ reference : Nat, 0 < reference ∧ reference < 2 ^ 32 ∧
    read mem (ctx.regs 1 + kBinderDescriptorOffset) 4 = some (toLittleEndian 4 reference) ∧
    JavaString mem (UInt64.ofNat reference) descriptor
  code : ctx.regs 2 = code

/-- The key a descriptor is looked up under. -/
def descriptorKey (descriptor : List UInt8) : BinderInterfaceBpfMapKey :=
  ⟨fill maxStringLength 0 (descriptor.take 127), length_fill ..⟩

theorem IsDescriptor.nul_notMem {bytes : List UInt8} (hbytes : IsDescriptor bytes) :
    0 ∉ bytes :=
  fun hmem => (hbytes.2 0 hmem).1 rfl

theorem IsDescriptor.take {bytes : List UInt8} (hbytes : IsDescriptor bytes) (n : Nat) :
    IsDescriptor (bytes.take n) := by
  refine ⟨?_, ?_⟩
  · exact lt_of_le_of_lt (List.length_take_le' n bytes) hbytes.1
  · intro byte hbyte
    exact hbytes.2 byte (List.mem_of_mem_take hbyte)

/-- Zeros that a text and its terminator are copied over. -/
theorem overwrite_replicate {n : Nat} {bytes : List UInt8} (hlength : bytes.length < n) :
    overwrite (List.replicate n 0) (bytes ++ [0]) = fill n 0 bytes := by
  have hroom : n - bytes.length = n - (bytes.length + 1) + 1 := by omega
  rw [fill_of_length_le hlength.le, hroom, List.replicate_succ]
  simp [overwrite]

theorem readDescriptor_of_javaString {mem : Image} {descriptorPtr : UInt64}
    {descriptor : List UInt8} (hstring : JavaString mem descriptorPtr descriptor)
    (hnull : descriptorPtr ≠ 0) (hnul : 0 ∉ descriptor) :
    readDescriptor mem descriptorPtr = descriptorKey descriptor := by
  have hcopy : (recordString mem descriptorPtr maxStringLength
      (List.replicate maxStringLength 0)).2 =
        overwrite (List.replicate maxStringLength 0) (descriptor.take 127 ++ [0]) :=
    recordString_of_javaString hstring hnull hnul (by decide) _
  have hlength : (descriptor.take 127).length < maxStringLength := by
    simp only [List.length_take, maxStringLength]
    omega
  apply BinderInterfaceBpfMapKey.ext
  exact hcopy.trans (overwrite_replicate hlength)

/-- The key that the program reads at a call on a NUL-free descriptor. -/
theorem Transacts.readDescriptor_eq {mem : Image} {ctx : PtRegs} {descriptor : List UInt8}
    {code : UInt64} (hcall : Transacts mem ctx descriptor code) (hnul : 0 ∉ descriptor) :
    readDescriptor mem (UInt64.ofNat (ofLittleEndian
      (bpfProbeReadUser mem 4 (ctx.regs 1 + kBinderDescriptorOffset)).2)) =
        descriptorKey descriptor := by
  obtain ⟨reference, hpos, hlt, hread, hstring⟩ := hcall.descriptor
  have hptr : ofLittleEndian (toLittleEndian 4 reference) = reference := by
    rw [ofLittleEndian_toLittleEndian, Nat.mod_eq_of_lt (by simpa using hlt)]
  have hnull : UInt64.ofNat reference ≠ 0 := by
    intro hzero
    have hnat := congrArg UInt64.toNat hzero
    rw [UInt64.toNat_ofNat', Nat.mod_eq_of_lt (by omega), UInt64.toNat_zero] at hnat
    omega
  simp only [bpfProbeReadUser, hread, hptr]
  exact readDescriptor_of_javaString hstring hnull hnul

/-- What the program does on a call: look up the descriptor's key and report
the call if its code is found. -/
theorem execTransactInternal_of_transacts {interfaces : InterfacesMap} {mem : Image}
    {ctx : PtRegs} {descriptor : List UInt8} {code : UInt64}
    (hcall : Transacts mem ctx descriptor code) (hdescriptor : IsDescriptor descriptor)
    (ktimeGetNs : UInt64) :
    (execTransactInternal interfaces mem true ktimeGetNs ctx).2.isSome = true ↔
      ∃ value, bpfInterfacesLookupElem interfaces (descriptorKey descriptor) = some value ∧
        findCode code value.codes = true := by
  simp only [execTransactInternal, hcall.readDescriptor_eq hdescriptor.nul_notMem, hcall.code]
  cases hlookup : bpfInterfacesLookupElem interfaces (descriptorKey descriptor) with
  | none => simp
  | some value =>
      by_cases hfind : findCode code value.codes = true
      · simp [hfind]
      · simp [hfind]

theorem findCode_append_zeros {code : UInt64} {codes : List UInt64} (hcodes : 0 ∉ codes)
    (k : Nat) : findCode code (codes ++ List.replicate k 0) = true ↔ code ∈ codes := by
  induction codes with
  | nil => cases k <;> simp [findCode, List.replicate_succ]
  | cons first rest ih =>
      rw [List.mem_cons, not_or] at hcodes
      have hne : first ≠ 0 := fun heq => hcodes.1 heq.symm
      rw [List.mem_cons]
      by_cases hfirst : first = code
      · simp [findCode, hne, hfirst.symm]
      · simp [findCode, hne, hfirst, Ne.symm hfirst, ih hcodes.2]

/-- Of a list of codes that is written, the first ten are found. -/
theorem findCode_toCValue {code : UInt64} {codes : List UInt64} (hcodes : 0 ∉ codes) :
    findCode code (toCValue codes).codes = true ↔ code ∈ codes.take 10 :=
  findCode_append_zeros (fun hmem => hcodes (List.mem_of_mem_take hmem)) _

/-- A memory with a binder and its descriptor in it, and nothing else. -/
def binderImage (descriptor : List UInt8) : Image :=
  ofObjects [
    (8192, List.replicate 8 0 ++ toLittleEndian 4 (2 * descriptor.length) ++
      List.replicate 4 0 ++ descriptor),
    (4096, List.replicate 8 0 ++ toLittleEndian 4 8192)]

theorem javaString_binderImage {descriptor : List UInt8} (hlength : descriptor.length < 2 ^ 31) :
    JavaString (binderImage descriptor) (UInt64.ofNat 8192) descriptor :=
  javaString_ofObjects 8192 hlength _

theorem read_reference_binderImage {descriptor : List UInt8}
    (hlength : descriptor.length < 2 ^ 31) :
    read (binderImage descriptor) (4096 + kBinderDescriptorOffset) 4 =
      some (toLittleEndian 4 8192) := by
  rw [binderImage, read_ofObjects_tail]
  · decide
  · intro i hi
    have hfar : 2 ^ 32 ≤ (4096 + kBinderDescriptorOffset + UInt64.ofNat i - 8192).toNat := by
      interval_cases i <;> decide
    refine le_trans ?_ hfar
    simp only [List.length_append, List.length_replicate, length_toLittleEndian]
    omega

/-- Every descriptor occurs in a call, with every code. -/
theorem exists_transacts {descriptor : List UInt8} (hlength : descriptor.length < 2 ^ 31)
    (code : UInt64) : ∃ mem ctx, Transacts mem ctx descriptor code := by
  refine ⟨binderImage descriptor, ⟨fun i => if i = 1 then 4096 else code⟩, ?_, ?_⟩
  · refine ⟨8192, by decide, by decide, ?_, javaString_binderImage hlength⟩
    exact read_reference_binderImage hlength
  · rfl

/-! Filters that are configured and filters that are found. -/

/-- The filters of all probes, in the order in which they are written. -/
def configuredFilters (probes : List ResolvedProbe) : List (Σ _ : String, InterfaceConfig) :=
  probes.flatMap fun probe => probe.binderTransactionFilters.entries

/-- Some probe's filters contain this method of this interface. -/
def Configured (probes : List ResolvedProbe) (descriptor : List UInt8) (code : UInt64) : Prop :=
  ∃ probe ∈ probes, ∃ name config, probe.binderTransactionFilters.lookup name = some config ∧
    asBytes name = descriptor ∧ (config.getMethod code).isSome = true

/-- What the program finds in the map that holds these filters. -/
def Found (filters : List (Σ _ : String, InterfaceConfig)) (descriptor : List UInt8)
    (code : UInt64) : Prop :=
  ∃ filter ∈ filters, toCKey filter.1 = descriptorKey descriptor ∧
    code ∈ filter.2.methodIds.take 10

/-- The probes' filters survive their encoding: no two share a key, those on
a descriptor fit the key and the value with room for the terminator, and no
name with a NUL in it has the key of a descriptor. -/
structure Installable (probes : List ResolvedProbe) : Prop where
  distinct : ((configuredFilters probes).map fun filter => toCKey filter.1).Nodup
  fits : ∀ filter ∈ configuredFilters probes, IsDescriptor (asBytes filter.1) →
    (asBytes filter.1).length < 127 ∧ filter.2.methodIds.length ≤ 10
  unambiguous : ∀ filter ∈ configuredFilters probes, 0 ∈ asBytes filter.1 →
    ∀ descriptor, IsDescriptor descriptor → descriptor.length ≤ 127 →
      toCKey filter.1 ≠ descriptorKey descriptor

theorem filterEntries_eq (probes : List ResolvedProbe) :
    filterEntries probes = probeEntries (configuredFilters probes) := by
  simp only [filterEntries, probeEntries, configuredFilters, List.map_flatMap]

theorem map_fst_filterEntries (probes : List ResolvedProbe) :
    (filterEntries probes).map Prod.fst =
      (configuredFilters probes).map fun filter => toCKey filter.1 := by
  rw [filterEntries_eq, probeEntries, List.map_map]
  rfl

theorem configured_iff {probes : List ResolvedProbe} {descriptor : List UInt8} {code : UInt64} :
    Configured probes descriptor code ↔ ∃ filter ∈ configuredFilters probes,
      asBytes filter.1 = descriptor ∧ code ∈ filter.2.methodIds := by
  constructor
  · rintro ⟨probe, hprobe, name, config, hlookup, hname, hcode⟩
    refine ⟨⟨name, config⟩, ?_, hname, ?_⟩
    · exact List.mem_flatMap.2 ⟨probe, hprobe, AList.mem_lookup_iff.1 hlookup⟩
    · exact AList.mem_keys.1 (AList.lookup_isSome.1 hcode)
  · rintro ⟨⟨name, config⟩, hfilter, hname, hcode⟩
    obtain ⟨probe, hprobe, hentry⟩ := List.mem_flatMap.1 hfilter
    refine ⟨probe, hprobe, name, config, AList.mem_lookup_iff.2 hentry, hname, ?_⟩
    exact AList.lookup_isSome.2 (AList.mem_keys.2 hcode)

theorem valid_of_accepted {probes : List ResolvedProbe}
    (haccepted : ∀ probe ∈ probes, Accepted probe.binderTransactionFilters)
    {filter : Σ _ : String, InterfaceConfig} (hfilter : filter ∈ configuredFilters probes) :
    filter.2.Valid := by
  obtain ⟨probe, hprobe, hentry⟩ := List.mem_flatMap.1 hfilter
  exact (haccepted probe hprobe).valid (AList.mem_lookup_iff.2 hentry)

theorem descriptorKey_take (descriptor : List UInt8) :
    descriptorKey (descriptor.take 127) = descriptorKey descriptor := by
  simp [descriptorKey, List.take_take]

theorem toCKey_eq_descriptorKey {name : String} (hlength : (asBytes name).length ≤ 127) :
    toCKey name = descriptorKey (asBytes name) := by
  simp only [toCKey, descriptorKey, List.take_of_length_le hlength]

/-- Among NUL-free names, the key of a descriptor is the key of its first 127
bytes only. -/
theorem asBytes_eq_take {name : String} {descriptor : List UInt8} (hname : 0 ∉ asBytes name)
    (hdescriptor : 0 ∉ descriptor) (hkey : toCKey name = descriptorKey descriptor) :
    asBytes name = descriptor.take 127 := by
  have hbytes : fill maxStringLength 0 (asBytes name) =
      fill maxStringLength 0 (descriptor.take 127) :=
    congrArg BinderInterfaceBpfMapKey.interfaceDescriptor hkey
  have hshort : (descriptor.take 127).length < maxStringLength := by
    simp only [List.length_take, maxStringLength]
    omega
  have hfits : (asBytes name).length < maxStringLength := by
    by_contra hlong
    have hnul := nul_mem_fill hshort
    rw [← hbytes] at hnul
    exact nul_notMem_fill hname (not_lt.1 hlong) hnul
  rw [← text_fill hname hfits, hbytes,
    text_fill (fun hmem => hdescriptor (List.mem_of_mem_take hmem)) hshort]

theorem exists_mem_take {config : InterfaceConfig} (hvalid : config.Valid) :
    ∃ code, code ∈ config.methodIds.take 10 := by
  apply List.exists_mem_of_ne_nil
  simpa using hvalid.nonempty

/-- Filters that survive their encoding are found as they are configured. -/
theorem Installable.found_iff {probes : List ResolvedProbe} (hinstallable : Installable probes)
    {descriptor : List UInt8} (hdescriptor : IsDescriptor descriptor) (code : UInt64) :
    Found (configuredFilters probes) descriptor code ↔ Configured probes descriptor code := by
  rw [configured_iff]
  constructor
  · rintro ⟨filter, hfilter, hkey, hcode⟩
    have hname : 0 ∉ asBytes filter.1 := by
      intro hnul
      rw [← descriptorKey_take] at hkey
      exact hinstallable.unambiguous filter hfilter hnul _ (hdescriptor.take 127)
        (List.length_take_le 127 descriptor) hkey
    have hbytes := asBytes_eq_take hname hdescriptor.nul_notMem hkey
    have hfits := hinstallable.fits filter hfilter (hbytes ▸ hdescriptor.take 127)
    refine ⟨filter, hfilter, ?_, List.mem_of_mem_take hcode⟩
    -- fewer than 127 bytes are left of the descriptor, so nothing was cut off
    rw [hbytes] at hfits ⊢
    apply List.take_of_length_le
    have hlength := hfits.1
    rw [List.length_take] at hlength
    omega
  · rintro ⟨filter, hfilter, rfl, hcode⟩
    have hfits := hinstallable.fits filter hfilter hdescriptor
    refine ⟨filter, hfilter, toCKey_eq_descriptorKey hfits.1.le, ?_⟩
    rwa [List.take_of_length_le hfits.2]

section Agreement

variable {probes : List ResolvedProbe}

/-- The program finds exactly what is configured. -/
def Agrees (probes : List ResolvedProbe) : Prop :=
  ∀ descriptor code, IsDescriptor descriptor →
    (Found (configuredFilters probes) descriptor code ↔ Configured probes descriptor code)

/-- When the program finds exactly what is configured, every descriptor whose
key is in the map is configured. -/
theorem Agrees.exists_filter (hagrees : Agrees probes)
    (hvalid : ∀ filter ∈ configuredFilters probes, filter.2.Valid)
    {filter : Σ _ : String, InterfaceConfig} (hfilter : filter ∈ configuredFilters probes)
    {descriptor : List UInt8} (hdescriptor : IsDescriptor descriptor)
    (hkey : toCKey filter.1 = descriptorKey descriptor) :
    ∃ other ∈ configuredFilters probes, asBytes other.1 = descriptor := by
  obtain ⟨code, hcode⟩ := exists_mem_take (hvalid filter hfilter)
  have hfound : Found (configuredFilters probes) descriptor code := ⟨filter, hfilter, hkey, hcode⟩
  obtain ⟨other, hother, hname, _⟩ := configured_iff.1 ((hagrees descriptor code hdescriptor).1 hfound)
  exact ⟨other, hother, hname⟩

variable (hdistinct : ((configuredFilters probes).map fun filter => toCKey filter.1).Nodup)

include hdistinct in
theorem filter_eq_of_key {first second : Σ _ : String, InterfaceConfig}
    (hfirst : first ∈ configuredFilters probes) (hsecond : second ∈ configuredFilters probes)
    (hkey : toCKey first.1 = toCKey second.1) : first = second :=
  List.inj_on_of_nodup_map hdistinct hfirst hsecond hkey

include hdistinct in
/-- A name of 127 bytes also answers for the names that continue it by one and
by two bytes.  Only one of these can be configured, for they share a key. -/
theorem Agrees.length_ne (hagrees : Agrees probes)
    (hvalid : ∀ filter ∈ configuredFilters probes, filter.2.Valid)
    {filter : Σ _ : String, InterfaceConfig} (hfilter : filter ∈ configuredFilters probes)
    (hname : IsDescriptor (asBytes filter.1)) : (asBytes filter.1).length ≠ 127 := by
  intro hlength
  have hkey : ∀ more, toCKey filter.1 = descriptorKey (asBytes filter.1 ++ more) := by
    intro more
    rw [toCKey_eq_descriptorKey hlength.le, ← descriptorKey_take (asBytes filter.1 ++ more),
      ← hlength, List.take_left]
  have hcontinued : ∀ k, k ≤ 2 → IsDescriptor (asBytes filter.1 ++ List.replicate k 97) := by
    intro k hk
    refine ⟨?_, ?_⟩
    · rw [List.length_append, List.length_replicate, hlength]
      omega
    · intro byte hbyte
      rcases List.mem_append.1 hbyte with hbyte | hbyte
      · exact hname.2 byte hbyte
      · rw [List.eq_of_mem_replicate hbyte]
        decide
  obtain ⟨first, hfirst, hfirstName⟩ :=
    hagrees.exists_filter hvalid hfilter (hcontinued 1 (by omega)) (hkey _)
  obtain ⟨second, hsecond, hsecondName⟩ :=
    hagrees.exists_filter hvalid hfilter (hcontinued 2 (by omega)) (hkey _)
  have hshared : toCKey first.1 = toCKey second.1 := by
    apply BinderInterfaceBpfMapKey.ext
    simp only [toCKey, hfirstName, hsecondName]
    rw [fill_of_le_length (by simp [hlength, maxStringLength]),
      fill_of_le_length (by simp [hlength, maxStringLength])]
    simp [List.take_append, hlength, maxStringLength]
  have hsame := filter_eq_of_key hdistinct hfirst hsecond hshared
  rw [← hsame, hfirstName] at hsecondName
  have := congrArg List.length hsecondName
  simp at this

include hdistinct in
/-- A longer name is never found itself, and whatever stands under the key it
is looked up by would answer for a name of 127 bytes. -/
theorem Agrees.length_lt (hagrees : Agrees probes)
    (hvalid : ∀ filter ∈ configuredFilters probes, filter.2.Valid)
    {filter : Σ _ : String, InterfaceConfig} (hfilter : filter ∈ configuredFilters probes)
    (hname : IsDescriptor (asBytes filter.1)) : (asBytes filter.1).length < 127 := by
  have hne := hagrees.length_ne hdistinct hvalid hfilter hname
  by_contra hlong
  obtain ⟨code, hcode⟩ := List.exists_mem_of_ne_nil _ (hvalid filter hfilter).nonempty
  obtain ⟨other, hother, hkey, _⟩ := (hagrees (asBytes filter.1) code hname).2
    (configured_iff.2 ⟨filter, hfilter, rfl, hcode⟩)
  rw [← descriptorKey_take] at hkey
  obtain ⟨cut, hcut, hcutName⟩ :=
    hagrees.exists_filter hvalid hother (hname.take 127) hkey
  apply hagrees.length_ne hdistinct hvalid hcut (hcutName ▸ hname.take 127)
  rw [hcutName, List.length_take]
  omega

include hdistinct in
/-- Distinct keys and agreement leave only filters that survive their
encoding. -/
theorem Agrees.installable (hagrees : Agrees probes)
    (hvalid : ∀ filter ∈ configuredFilters probes, filter.2.Valid) : Installable probes := by
  refine ⟨hdistinct, ?_, ?_⟩
  · intro filter hfilter hname
    have hlength := hagrees.length_lt hdistinct hvalid hfilter hname
    refine ⟨hlength, ?_⟩
    have hsubset : filter.2.methodIds ⊆ filter.2.methodIds.take 10 := by
      intro code hcode
      obtain ⟨other, hother, hkey, hfound⟩ := (hagrees (asBytes filter.1) code hname).2
        (configured_iff.2 ⟨filter, hfilter, rfl, hcode⟩)
      rw [← toCKey_eq_descriptorKey hlength.le] at hkey
      rwa [filter_eq_of_key hdistinct hother hfilter hkey] at hfound
    have hnodup : filter.2.methodIds.Nodup := filter.2.methods.nodupKeys
    have hle := (hnodup.subperm hsubset).length_le
    rw [List.length_take] at hle
    omega
  · intro filter hfilter hnul descriptor hdescriptor hlength hkey
    obtain ⟨other, hother, hname⟩ :=
      hagrees.exists_filter hvalid hfilter hdescriptor hkey
    have hsame : toCKey other.1 = toCKey filter.1 := by
      rw [hkey, ← hname]
      exact toCKey_eq_descriptorKey (hname ▸ hlength)
    rw [← filter_eq_of_key hdistinct hother hfilter hsame, hname] at hnul
    exact hdescriptor.nul_notMem hnul

end Agreement

/-- With the filters written, a key is found exactly when it is a filter's. -/
theorem bpfInterfacesLookupElem_filterEntries {probes : List ResolvedProbe}
    (hdistinct : ((filterEntries probes).map Prod.fst).Nodup) {key : BinderInterfaceBpfMapKey}
    {value : BinderCodesBpfMapValue} :
    bpfInterfacesLookupElem (insertAll ∅ (filterEntries probes)) key = some value ↔
      ∃ filter ∈ configuredFilters probes, toCKey filter.1 = key ∧
        toCValue filter.2.methodIds = value := by
  refine (lookup_insertAll_empty hdistinct).trans ?_
  rw [filterEntries_eq, probeEntries, List.mem_map]
  simp only [Prod.mk.injEq]

/-- With the filters written, the program reports what it finds among them. -/
theorem submits_iff_found {probes : List ResolvedProbe}
    (hdistinct : ((filterEntries probes).map Prod.fst).Nodup)
    (hvalid : ∀ filter ∈ configuredFilters probes, filter.2.Valid)
    {mem : Image} {ctx : PtRegs} {descriptor : List UInt8} {code : UInt64}
    (hcall : Transacts mem ctx descriptor code) (hdescriptor : IsDescriptor descriptor)
    (ktimeGetNs : UInt64) :
    (execTransactInternal (insertAll ∅ (filterEntries probes)) mem true ktimeGetNs ctx).2.isSome =
        true ↔ Found (configuredFilters probes) descriptor code := by
  rw [execTransactInternal_of_transacts hcall hdescriptor]
  constructor
  · rintro ⟨value, hlookup, hcode⟩
    obtain ⟨filter, hfilter, hkey, rfl⟩ :=
      (bpfInterfacesLookupElem_filterEntries hdistinct).1 hlookup
    exact ⟨filter, hfilter, hkey, (findCode_toCValue (hvalid filter hfilter).positive).1 hcode⟩
  · rintro ⟨filter, hfilter, hkey, hcode⟩
    refine ⟨toCValue filter.2.methodIds, ?_, ?_⟩
    · exact (bpfInterfacesLookupElem_filterEntries hdistinct).2 ⟨filter, hfilter, hkey, rfl⟩
    · exact (findCode_toCValue (hvalid filter hfilter).positive).2 hcode

/-- For accepted filters, setting them up succeeds and the program then
reports exactly the configured transactions if and only if the filters survive
their encoding. -/
theorem installed_filters_exact_iff (firstKey : FirstInterface) (ktimeGetNs : UInt64)
    (probes : List ResolvedProbe)
    (haccepted : ∀ probe ∈ probes, Accepted probe.binderTransactionFilters) :
    (∃ opened interfaces,
      setupBinderTransactionFilters (.reliable firstKey) probes ∅ = (.ok opened, interfaces) ∧
        ∀ descriptor code mem ctx, IsDescriptor descriptor →
          Transacts mem ctx descriptor code →
            ((execTransactInternal interfaces mem true ktimeGetNs ctx).2.isSome = true ↔
              Configured probes descriptor code)) ↔
      Installable probes := by
  have hvalid : ∀ filter ∈ configuredFilters probes, filter.2.Valid :=
    fun filter hfilter => valid_of_accepted haccepted hfilter
  rcases setup_reliable_cases firstKey probes with
    ⟨hdistinct, hsetup⟩ | ⟨hshared, e, left, hsetup⟩
  · constructor
    · rintro ⟨opened, interfaces, heq, hsubmits⟩
      rw [hsetup, Prod.mk.injEq] at heq
      obtain ⟨_, rfl⟩ := heq
      have hagrees : Agrees probes := by
        intro descriptor code hdescriptor
        obtain ⟨mem, ctx, hcall⟩ := exists_transacts hdescriptor.1 code
        rw [← submits_iff_found hdistinct hvalid hcall hdescriptor ktimeGetNs]
        exact hsubmits descriptor code mem ctx hdescriptor hcall
      rw [map_fst_filterEntries] at hdistinct
      exact hagrees.installable hdistinct hvalid
    · intro hinstallable
      refine ⟨_, _, hsetup, ?_⟩
      intro descriptor code mem ctx hdescriptor hcall
      rw [submits_iff_found hdistinct hvalid hcall hdescriptor]
      exact hinstallable.found_iff hdescriptor code
  · constructor
    · rintro ⟨opened, interfaces, heq, _⟩
      rw [hsetup] at heq
      cases heq
    · intro hinstallable
      rw [map_fst_filterEntries] at hshared
      exact absurd hinstallable.distinct hshared

theorem installable_activityManager : Installable [singleMethodProbe "IActivityManager"] := by
  have hfilters : configuredFilters [singleMethodProbe "IActivityManager"] =
      [⟨"IActivityManager", ⟨AList.insert 1 ⟨some ⟨.buffer⟩, none⟩ ∅⟩⟩] := rfl
  refine ⟨?_, ?_, ?_⟩
  · simp [hfilters]
  · intro filter hfilter _
    rw [hfilters, List.mem_singleton] at hfilter
    subst hfilter
    exact ⟨by decide, by decide⟩
  · intro filter hfilter hnul
    rw [hfilters, List.mem_singleton] at hfilter
    subst hfilter
    exact absurd hnul (by decide)

theorem installed_filters_exact_activityManager :
    ∃ opened interfaces,
      setupBinderTransactionFilters (.reliable .front) [singleMethodProbe "IActivityManager"] ∅ =
          (.ok opened, interfaces) ∧
        ∀ descriptor code mem ctx, IsDescriptor descriptor →
          Transacts mem ctx descriptor code →
            ((execTransactInternal interfaces mem true 0 ctx).2.isSome = true ↔
              Configured [singleMethodProbe "IActivityManager"] descriptor code) := by
  refine (installed_filters_exact_iff .front 0 [singleMethodProbe "IActivityManager"] ?_).2
    installable_activityManager
  intro probe hprobe
  rw [List.mem_singleton.1 hprobe]
  exact singleMethodProbe_accepted (by decide)

/-- The filter on a name of 128 characters is accepted and written, but its
transactions are not reported. -/
theorem longName_not_reported :
    (∀ probe ∈ [singleMethodProbe longName], Accepted probe.binderTransactionFilters) ∧
      ¬ ∃ opened interfaces,
        setupBinderTransactionFilters (.reliable .front) [singleMethodProbe longName] ∅ =
            (.ok opened, interfaces) ∧
          ∀ descriptor code mem ctx, IsDescriptor descriptor →
            Transacts mem ctx descriptor code →
              ((execTransactInternal interfaces mem true 0 ctx).2.isSome = true ↔
                Configured [singleMethodProbe longName] descriptor code) := by
  have haccepted : ∀ probe ∈ [singleMethodProbe longName],
      Accepted probe.binderTransactionFilters := by
    intro probe hprobe
    rw [List.mem_singleton.1 hprobe]
    exact singleMethodProbe_accepted longName_nonempty
  refine ⟨haccepted, ?_⟩
  rintro ⟨opened, interfaces, hsetup, hsubmits⟩
  have hdescriptor : IsDescriptor (asBytes longName) := by
    rw [asBytes_longName]
    refine ⟨by simp, ?_⟩
    intro byte hbyte
    rw [List.eq_of_mem_replicate hbyte]
    decide
  obtain ⟨mem, ctx, hcall⟩ := exists_transacts hdescriptor.1 1
  have hconfigured : Configured [singleMethodProbe longName] (asBytes longName) 1 :=
    ⟨_, List.mem_singleton.2 rfl, longName, _, AList.lookup_insert _, rfl, rfl⟩
  rcases setup_reliable_cases .front [singleMethodProbe longName] with
    ⟨hdistinct, hwritten⟩ | ⟨_, e, left, hfailed⟩
  · rw [hwritten, Prod.mk.injEq] at hsetup
    obtain ⟨_, rfl⟩ := hsetup
    have hreport := (hsubmits (asBytes longName) 1 mem ctx hdescriptor hcall).2 hconfigured
    obtain ⟨filter, hfilter, hkey, _⟩ := (submits_iff_found hdistinct
      (fun filter hfilter => valid_of_accepted haccepted hfilter) hcall hdescriptor 0).1 hreport
    obtain rfl : filter = ⟨longName, ⟨AList.insert 1 ⟨some ⟨.buffer⟩, none⟩ ∅⟩⟩ :=
      List.mem_singleton.1 hfilter
    have hcut := asBytes_eq_take hdescriptor.nul_notMem hdescriptor.nul_notMem hkey
    have hlength := congrArg List.length hcut
    simp [asBytes_longName] at hlength
  · rw [hfailed] at hsetup
    cases hsetup

end UprobeStats
