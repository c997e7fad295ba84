/-
The accessor of the map of interfaces as a whole: its four operations, and the
map from interface names to codes that it stands for.  A name that leaves room
for its terminator has one key and is found again under it, so the accessor
cannot be told from that map.
-/
import UprobeStats.BinderMap
import UprobeStats.Lib.Simulation

namespace UprobeStats

open Bytes FiniteMap Simulation BinderInterfaceBpfMap

/-- `-ENOENT`. -/
def enoent : Int := -2

/-- `-EEXIST`. -/
def eexist : Int := -17

/-- The operations of `BpfMapAccessor`. -/
inductive MapOp (κ : Type) where
  | put (key : κ) (value : List UInt64) (flags : UpdateMapElemFlags)
  | get (key : κ)
  | getFirstKey
  | delete (key : κ)
deriving DecidableEq, Repr

/-- What an operation returns where it does not fail. -/
inductive MapAnswer where
  | done
  | found (value : Option (List UInt64))
  | firstKey (key : Option String)
  | deleted (existed : Bool)
deriving DecidableEq, Repr

/-- An operation and, where the system call fails for a reason of its own, what
it returns. -/
structure MapCall (κ : Type) where
  op : MapOp κ
  fault : Option Int
deriving DecidableEq, Repr

namespace BinderInterfaceMapAccessor

/-- `from_c_value`. -/
def fromCValue (value : BinderCodesBpfMapValue) : List UInt64 := value.codes

/-- `get`. -/
def get (fault : Option Int) (m : InterfacesMap) (key : String) :
    Except AnyError (Option (List UInt64)) :=
  let failed (res : Int) : Except AnyError (Option (List UInt64)) :=
    if res = enoent then .ok none
    else .error (.message ("Failed to lookup BPF map element. Error code: " ++ toString res))
  match fault with
  | some res => failed res
  | none =>
      match m.lookup (toCKey key) with
      | none => failed enoent
      | some value => .ok (some (fromCValue value))

/-- `get_first_key`. -/
def getFirstKey (firstKey : FirstInterface) (fault : Option Int) (m : InterfacesMap) :
    Except AnyError (Option String) :=
  let failed (res : Int) : Except AnyError (Option String) :=
    if res = enoent then .ok none
    else .error (.message ("Failed to get first BPF map key. Error code: " ++ toString res))
  match fault with
  | some res => failed res
  | none =>
      match firstKey.get m with
      | none => failed enoent
      | some key => .ok (some (fromCKey key))

/-- `delete`, and the map it leaves. -/
def delete (fault : Option Int) (m : InterfacesMap) (key : String) :
    Except AnyError Bool × InterfacesMap :=
  let failed (res : Int) : Except AnyError Bool :=
    if res = enoent then .ok false
    else .error (.message ("Failed to delete BPF map element. Error code: " ++ toString res))
  match fault with
  | some res => (failed res, m)
  | none =>
      if toCKey key ∈ m then (.ok true, m.erase (toCKey key)) else (failed enoent, m)

/-- One call of the accessor. -/
def call (firstKey : FirstInterface) (m : InterfacesMap) (request : MapCall String) :
    Except AnyError MapAnswer × InterfacesMap :=
  match request.op with
  | .put key value flags =>
      match put ⟨.ok (), fun _ _ => request.fault, firstKey⟩ m key value flags with
      | .ok m => (.ok .done, m)
      | .error e => (.error e, m)
  | .get key => ((get request.fault m key).map .found, m)
  | .getFirstKey => ((getFirstKey firstKey request.fault m).map .firstKey, m)
  | .delete key => ((delete request.fault m key).1.map .deleted, (delete request.fault m key).2)

end BinderInterfaceMapAccessor

open BinderInterfaceMapAccessor

/-! What the accessor stands for. -/

/-- A name that its key has room for. -/
structure InterfaceName where
  text : String
  nul_notMem : 0 ∉ asBytes text
  length_lt : (asBytes text).length < maxStringLength
deriving DecidableEq

/-- The codes the map keeps of a list: the first ten, filled up with 0. -/
def keptCodes (value : List UInt64) : List UInt64 := fill 10 0 value

/-- Ten codes for each of finitely many names. -/
abbrev InterfaceCodes := InterfaceName → Option (List UInt64)

namespace InterfaceCodes

def set (f : InterfaceCodes) (name : InterfaceName) (value : Option (List UInt64)) :
    InterfaceCodes :=
  Function.update f name value

/-- What an operation makes of a system call that fails for its own reason. -/
def faulted {κ : Type} (res : Int) : MapOp κ → Except AnyError MapAnswer
  | .put .. => .error (.message ("Failed to write to BPF map. Error code: " ++ toString res))
  | .get _ =>
      if res = enoent then .ok (.found none)
      else .error (.message ("Failed to lookup BPF map element. Error code: " ++ toString res))
  | .getFirstKey =>
      if res = enoent then .ok (.firstKey none)
      else .error (.message ("Failed to get first BPF map key. Error code: " ++ toString res))
  | .delete _ =>
      if res = enoent then .ok (.deleted false)
      else .error (.message ("Failed to delete BPF map element. Error code: " ++ toString res))

/-- What a map of names to codes answers, and what it is afterwards. -/
inductive Spec (f : InterfaceCodes) :
    MapCall InterfaceName → Except AnyError MapAnswer → InterfaceCodes → Prop
  | fault {op : MapOp InterfaceName} {res : Int} : Spec f ⟨op, some res⟩ (faulted res op) f
  | put {name : InterfaceName} {value : List UInt64} {flags : UpdateMapElemFlags}
      (hflags : (flags = .insert → f name = none) ∧ (flags = .update → f name ≠ none)) :
      Spec f ⟨.put name value flags, none⟩ (.ok .done) (f.set name (some (keptCodes value)))
  | exists {name : InterfaceName} {value : List UInt64} (htaken : f name ≠ none) :
      Spec f ⟨.put name value .insert, none⟩
        (.error (.message ("Failed to write to BPF map. Error code: " ++ toString eexist))) f
  | missing {name : InterfaceName} {value : List UInt64} (hnone : f name = none) :
      Spec f ⟨.put name value .update, none⟩
        (.error (.message ("Failed to write to BPF map. Error code: " ++ toString enoent))) f
  | get {name : InterfaceName} : Spec f ⟨.get name, none⟩ (.ok (.found (f name))) f
  | empty (hnone : ∀ name, f name = none) :
      Spec f ⟨.getFirstKey, none⟩ (.ok (.firstKey none)) f
  | firstKey {name : InterfaceName} (hsome : f name ≠ none) :
      Spec f ⟨.getFirstKey, none⟩ (.ok (.firstKey (some name.text))) f
  | delete {name : InterfaceName} :
      Spec f ⟨.delete name, none⟩ (.ok (.deleted (f name).isSome)) (f.set name none)

end InterfaceCodes

/-- The call as the accessor gets it. -/
def MapOp.texts : MapOp InterfaceName → MapOp String
  | .put name value flags => .put name.text value flags
  | .get name => .get name.text
  | .getFirstKey => .getFirstKey
  | .delete name => .delete name.text

def MapCall.texts (request : MapCall InterfaceName) : MapCall String :=
  ⟨request.op.texts, request.fault⟩

def InterfaceName.toCKey (name : InterfaceName) : BinderInterfaceBpfMapKey :=
  BinderInterfaceBpfMap.toCKey name.text

/-- The map has only keys of names, and under each the codes of its name. -/
structure Represents (m : InterfacesMap) (f : InterfaceCodes) : Prop where
  readable : ∀ key ∈ m, Readable key
  lookup : ∀ name, f name = (m.lookup name.toCKey).map fromCValue

theorem fromCKey_name (name : InterfaceName) : fromCKey name.toCKey = name.text :=
  fromCKey_toCKey name.nul_notMem name.length_lt

/-- Different names have different keys. -/
theorem InterfaceName.toCKey_injective : Function.Injective InterfaceName.toCKey := by
  intro first second heq
  have htext : first.text = second.text := by
    rw [← fromCKey_name first, heq, fromCKey_name]
  cases first
  cases second
  cases htext
  rfl

theorem exists_name_of_readable {key : BinderInterfaceBpfMapKey} (hkey : Readable key) :
    ∃ name : InterfaceName, key = name.toCKey := by
  obtain ⟨text, hnul, hlength, rfl⟩ := hkey
  exact ⟨⟨text, hnul, hlength⟩, rfl⟩

theorem fromCValue_toCValue (value : List UInt64) : fromCValue (toCValue value) = keptCodes value :=
  rfl

section Step

variable {m : InterfacesMap} {f : InterfaceCodes} (hrep : Represents m f)

include hrep

theorem Represents.mem_iff (name : InterfaceName) : name.toCKey ∈ m ↔ f name ≠ none := by
  rw [hrep.lookup, ← AList.lookup_isSome, ← Option.isSome_iff_ne_none, Option.isSome_map]

theorem Represents.insert (name : InterfaceName) (value : List UInt64) :
    Represents (m.insert name.toCKey (toCValue value)) (f.set name (some (keptCodes value))) := by
  constructor
  · intro key hkey
    rcases AList.mem_insert _ |>.1 hkey with rfl | hkey
    · exact ⟨name.text, name.nul_notMem, name.length_lt, rfl⟩
    · exact hrep.readable key hkey
  · intro other
    by_cases hother : other = name
    · subst hother
      rw [InterfaceCodes.set, Function.update_self, AList.lookup_insert]
      rfl
    · have hkey : other.toCKey ≠ name.toCKey := fun heq =>
        hother (InterfaceName.toCKey_injective heq)
      rw [InterfaceCodes.set, Function.update_of_ne hother, AList.lookup_insert_ne hkey]
      exact hrep.lookup other

theorem Represents.erase (name : InterfaceName) :
    Represents (m.erase name.toCKey) (f.set name none) := by
  constructor
  · intro key hkey
    exact hrep.readable key (AList.mem_erase.1 hkey).2
  · intro other
    by_cases hother : other = name
    · subst hother
      rw [InterfaceCodes.set, Function.update_self, AList.lookup_erase]
      rfl
    · have hkey : other.toCKey ≠ name.toCKey := fun heq =>
        hother (InterfaceName.toCKey_injective heq)
      rw [InterfaceCodes.set, Function.update_of_ne hother, AList.lookup_erase_ne hkey]
      exact hrep.lookup other

end Step

/-- A call whose system call fails leaves the map as it is. -/
theorem call_fault (firstKey : FirstInterface) (m : InterfacesMap) (op : MapOp InterfaceName)
    (res : Int) :
    call firstKey m (MapCall.texts ⟨op, some res⟩) = (InterfaceCodes.faulted res op, m) := by
  cases op with
  | put name value flags => rfl
  | get name =>
      by_cases hres : res = enoent
      · simp [call, MapCall.texts, MapOp.texts, BinderInterfaceMapAccessor.get,
          InterfaceCodes.faulted, hres, Except.map]
      · simp [call, MapCall.texts, MapOp.texts, BinderInterfaceMapAccessor.get,
          InterfaceCodes.faulted, hres, Except.map]
  | getFirstKey =>
      by_cases hres : res = enoent
      · simp [call, MapCall.texts, MapOp.texts, getFirstKey, InterfaceCodes.faulted, hres,
          Except.map]
      · simp [call, MapCall.texts, MapOp.texts, getFirstKey, InterfaceCodes.faulted, hres,
          Except.map]
  | delete name =>
      by_cases hres : res = enoent
      · simp [call, MapCall.texts, MapOp.texts, delete, InterfaceCodes.faulted, hres, Except.map]
      · simp [call, MapCall.texts, MapOp.texts, delete, InterfaceCodes.faulted, hres, Except.map]

section Step

variable (firstKey : FirstInterface) {m : InterfacesMap} {f : InterfaceCodes}
  (hrep : Represents m f)

include hrep

theorem put_represented (name : InterfaceName) (value : List UInt64)
    (flags : UpdateMapElemFlags) :
    ∃ f', f.Spec ⟨.put name value flags, none⟩
        (call firstKey m (MapCall.texts ⟨.put name value flags, none⟩)).1 f' ∧
      Represents (call firstKey m (MapCall.texts ⟨.put name value flags, none⟩)).2 f' := by
  have hmem := hrep.mem_iff name
  change name.toCKey ∈ m ↔ f name ≠ none at hmem
  have hwritten : (flags = .insert → f name = none) ∧ (flags = .update → f name ≠ none) →
      f.Spec ⟨.put name value flags, none⟩ (.ok .done) (f.set name (some (keptCodes value))) :=
    fun hflags => .put hflags
  cases flags with
  | upsert =>
      refine ⟨_, hwritten ⟨by simp, by simp⟩, ?_⟩
      exact hrep.insert name value
  | insert =>
      by_cases htaken : name.toCKey ∈ m
      · refine ⟨f, ?_, ?_⟩
        · have hcall : (call firstKey m (MapCall.texts ⟨.put name value .insert, none⟩)).1 =
              .error (.message ("Failed to write to BPF map. Error code: " ++
                toString eexist)) := by
            have hkey : toCKey name.text ∈ m := htaken
            simp [call, MapCall.texts, MapOp.texts, put, bpfMapUpdateElem, hkey, eexist]
          rw [hcall]
          exact .exists (hmem.1 htaken)
        · have hkey : toCKey name.text ∈ m := htaken
          simpa [call, MapCall.texts, MapOp.texts, put, bpfMapUpdateElem, hkey] using hrep
      · have hnone : f name = none := by
          by_contra hsome
          exact htaken (hmem.2 hsome)
        have hkey : toCKey name.text ∉ m := htaken
        have hcall : call firstKey m (MapCall.texts ⟨.put name value .insert, none⟩) =
            (.ok .done, m.insert name.toCKey (toCValue value)) := by
          simp [call, MapCall.texts, MapOp.texts, put, bpfMapUpdateElem, hkey, InterfaceName.toCKey]
        rw [hcall]
        exact ⟨_, hwritten ⟨fun _ => hnone, by simp⟩, hrep.insert name value⟩
  | update =>
      by_cases htaken : name.toCKey ∈ m
      · have hkey : toCKey name.text ∈ m := htaken
        have hcall : call firstKey m (MapCall.texts ⟨.put name value .update, none⟩) =
            (.ok .done, m.insert name.toCKey (toCValue value)) := by
          simp [call, MapCall.texts, MapOp.texts, put, bpfMapUpdateElem, hkey, InterfaceName.toCKey]
        rw [hcall]
        exact ⟨_, hwritten ⟨by simp, fun _ => hmem.1 htaken⟩, hrep.insert name value⟩
      · have hnone : f name = none := by
          by_contra hsome
          exact htaken (hmem.2 hsome)
        have hkey : toCKey name.text ∉ m := htaken
        have hcall : call firstKey m (MapCall.texts ⟨.put name value .update, none⟩) =
            (.error (.message ("Failed to write to BPF map. Error code: " ++ toString enoent)),
              m) := by
          simp [call, MapCall.texts, MapOp.texts, put, bpfMapUpdateElem, hkey, enoent]
        rw [hcall]
        exact ⟨f, .missing hnone, hrep⟩

/-- One call is answered as the map of names answers it. -/
theorem call_represented (request : MapCall InterfaceName) :
    ∃ f', f.Spec request (call firstKey m request.texts).1 f' ∧
      Represents (call firstKey m request.texts).2 f' := by
  obtain ⟨op, fault⟩ := request
  cases fault with
  | some res =>
      rw [call_fault]
      exact ⟨f, .fault, hrep⟩
  | none =>
      cases op with
      | put name value flags => exact put_represented firstKey hrep name value flags
      | get name =>
          have hcall : call firstKey m (MapCall.texts ⟨.get name, none⟩) =
              (.ok (.found (f name)), m) := by
            rw [hrep.lookup name]
            cases hlookup : m.lookup name.toCKey with
            | none =>
                have hkey : m.lookup (toCKey name.text) = none := hlookup
                simp [call, MapCall.texts, MapOp.texts, BinderInterfaceMapAccessor.get, hkey,
                  enoent, Except.map]
            | some value =>
                have hkey : m.lookup (toCKey name.text) = some value := hlookup
                simp [call, MapCall.texts, MapOp.texts, BinderInterfaceMapAccessor.get, hkey,
                  Except.map]
          rw [hcall]
          exact ⟨f, .get, hrep⟩
      | getFirstKey =>
          cases hfirst : firstKey.get m with
          | none =>
              have hempty : m = ∅ := (firstKey.get_eq_none_iff m).1 hfirst
              have hnone : ∀ name, f name = none := by
                intro name
                rw [hrep.lookup, hempty]
                rfl
              have hcall : call firstKey m (MapCall.texts ⟨.getFirstKey, none⟩) =
                  (.ok (.firstKey none), m) := by
                simp [call, MapCall.texts, MapOp.texts, getFirstKey, hfirst, enoent, Except.map]
              rw [hcall]
              exact ⟨f, .empty hnone, hrep⟩
          | some key =>
              have hmem := firstKey.mem_of_get m key hfirst
              obtain ⟨name, rfl⟩ := exists_name_of_readable (hrep.readable key hmem)
              have hcall : call firstKey m (MapCall.texts ⟨.getFirstKey, none⟩) =
                  (.ok (.firstKey (some name.text)), m) := by
                simp [call, MapCall.texts, MapOp.texts, getFirstKey, hfirst, fromCKey_name,
                  Except.map]
              rw [hcall]
              exact ⟨f, .firstKey ((hrep.mem_iff name).1 hmem), hrep⟩
      | delete name =>
          by_cases hmem : name.toCKey ∈ m
          · have hkey : toCKey name.text ∈ m := hmem
            have hsome : (f name).isSome = true :=
              Option.isSome_iff_ne_none.2 ((hrep.mem_iff name).1 hmem)
            have hcall : call firstKey m (MapCall.texts ⟨.delete name, none⟩) =
                (.ok (.deleted (f name).isSome), m.erase name.toCKey) := by
              simp [call, MapCall.texts, MapOp.texts, delete, hkey, hsome, Except.map,
                InterfaceName.toCKey]
            rw [hcall]
            exact ⟨_, .delete, hrep.erase name⟩
          · have hkey : toCKey name.text ∉ m := hmem
            have hnone : f name = none := by
              by_contra hsome
              exact hmem ((hrep.mem_iff name).2 hsome)
            have hsame : f.set name none = f := by
              rw [InterfaceCodes.set, ← hnone, Function.update_eq_self]
            have hcall : call firstKey m (MapCall.texts ⟨.delete name, none⟩) =
                (.ok (.deleted (f name).isSome), m) := by
              simp [call, MapCall.texts, MapOp.texts, delete, hkey, hnone, enoent, Except.map]
            rw [hcall]
            refine ⟨f.set name none, .delete, ?_⟩
            rw [hsame]
            exact hrep

end Step

end UprobeStats
