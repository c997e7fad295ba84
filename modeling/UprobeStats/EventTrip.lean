/-
A dynamic-instrumentation event on its way from the sender to the consumer.
The sender turns the payload, which is a map, into a list of tagged values,
and the service of the consumer makes a map of the list again.
-/
import UprobeStats.Lib.Grouping
import UprobeStats.Lib.Traced

namespace UprobeStats.Framework

open FiniteMap Grouping Traced

/-- A Java string, as its UTF-16 code units. -/
abbrev JavaText := List UInt16

/-- What a method can throw.  A null pointer that the runtime finds has no
message of the program. -/
inductive Thrown where
  | nullPointerException (message : Option String)
  | arithmeticException (message : String)
  | illegalArgumentException (message : String)
  | remoteException (message : String)
  | runtimeException (cause : Thrown)
deriving DecidableEq, Repr

/-- `Objects.requireNonNull`. -/
def requireNonNull {α : Type} (object : Option α) (message : String) : Except Thrown α :=
  match object with
  | none => .error (.nullPointerException (some message))
  | some object => .ok object

/-! Points in time. -/

/-- `Instant`: the seconds since the epoch and the nanoseconds after them. -/
structure Instant where
  seconds : Int
  nanos : Nat
  min_le_seconds : -31557014167219200 ≤ seconds
  seconds_le_max : seconds ≤ 31556889864403199
  nanos_lt : nanos < 1000000000
deriving DecidableEq

namespace Instant

/-- The whole milliseconds since the epoch. -/
def millis (instant : Instant) : Int := instant.seconds * 1000 + (instant.nanos / 1000000 : Nat)

/-- The milliseconds fit in a `long`. -/
def FitsLong (instant : Instant) : Prop :=
  -9223372036854775808 ≤ instant.millis ∧ instant.millis ≤ 9223372036854775807

instance (instant : Instant) : Decidable instant.FitsLong :=
  inferInstanceAs (Decidable (_ ∧ _))

/-- `toEpochMilli`. -/
def toEpochMilli (instant : Instant) : Except Thrown Int64 :=
  if instant.FitsLong then .ok (Int64.ofInt instant.millis)
  else .error (.arithmeticException "long overflow")

theorem min_le_ofEpochMilli (epochMilli : Int64) :
    -31557014167219200 ≤ epochMilli.toInt / 1000 := by
  have hmin := epochMilli.le_toInt
  omega

theorem ofEpochMilli_le_max (epochMilli : Int64) :
    epochMilli.toInt / 1000 ≤ 31556889864403199 := by
  have hmax := epochMilli.toInt_lt
  omega

theorem ofEpochMilli_nanos_lt (epochMilli : Int64) :
    (epochMilli.toInt % 1000).toNat * 1000000 < 1000000000 := by
  omega

/-- `Instant.ofEpochMilli`. -/
def ofEpochMilli (epochMilli : Int64) : Instant where
  seconds := epochMilli.toInt / 1000
  nanos := (epochMilli.toInt % 1000).toNat * 1000000
  min_le_seconds := min_le_ofEpochMilli epochMilli
  seconds_le_max := ofEpochMilli_le_max epochMilli
  nanos_lt := ofEpochMilli_nanos_lt epochMilli

/-- Going through milliseconds keeps the seconds and cuts the nanoseconds. -/
theorem ofEpochMilli_toEpochMilli {instant : Instant} (hfits : instant.FitsLong) :
    ∃ epochMilli, instant.toEpochMilli = .ok epochMilli ∧
      (ofEpochMilli epochMilli).seconds = instant.seconds ∧
      (ofEpochMilli epochMilli).nanos = instant.nanos / 1000000 * 1000000 := by
  have hnanos := instant.nanos_lt
  have hmillis : (Int64.ofInt instant.millis).toInt = instant.millis :=
    Int64.toInt_ofInt_of_le hfits.1 (Int.lt_add_one_of_le hfits.2)
  refine ⟨Int64.ofInt instant.millis, if_pos hfits, ?_, ?_⟩
  · change (Int64.ofInt instant.millis).toInt / 1000 = _
    rw [hmillis, millis]
    omega
  · change ((Int64.ofInt instant.millis).toInt % 1000).toNat * 1000000 = _
    rw [hmillis, millis]
    omega

end Instant

/-! Bundles. -/

/-- The objects in a bundle: null, the two kinds that an event can carry, and
any other with the text of its class. -/
inductive BundleValue where
  | null
  | string (value : JavaText)
  | integer (value : Int32)
  | other (className : String)
deriving DecidableEq, Repr

/-- The object can be carried by an event. -/
def BundleValue.isCarried : BundleValue → Bool
  | .other _ => false
  | _ => true

/-- `Bundle`.  The null reference can be a key. -/
abbrev Bundle := AList fun _ : Option JavaText => BundleValue

/-- The order in which `keySet` gives the keys of a bundle. -/
abbrev KeyOrder := Iteration (Option JavaText) BundleValue

namespace Bundle

def keySet (order : KeyOrder) (bundle : Bundle) : List (Option JavaText) :=
  (order.entries bundle).map Sigma.fst

/-- `get`, which gives null for a missing key. -/
def get (bundle : Bundle) (key : Option JavaText) : BundleValue := (bundle.lookup key).getD .null

def putString (bundle : Bundle) (key value : Option JavaText) : Bundle :=
  bundle.insert key (value.elim .null .string)

def putInt (bundle : Bundle) (key : Option JavaText) (value : Int32) : Bundle :=
  bundle.insert key (.integer value)

theorem nodup_keySet (order : KeyOrder) (bundle : Bundle) : (bundle.keySet order).Nodup :=
  bundle.keys_nodup.perm ((order.entries_perm bundle).map Sigma.fst).symm

theorem mem_keySet (order : KeyOrder) {bundle : Bundle} {key : Option JavaText} :
    key ∈ bundle.keySet order ↔ key ∈ bundle :=
  ((order.entries_perm bundle).map Sigma.fst).mem_iff

theorem lookup_eq_some_iff (order : KeyOrder) {bundle : Bundle} {key : Option JavaText}
    {value : BundleValue} :
    bundle.lookup key = some value ↔ key ∈ bundle.keySet order ∧ bundle.get key = value := by
  rw [mem_keySet order, ← AList.lookup_isSome, get]
  cases bundle.lookup key <;> simp

end Bundle

/-- The event as the framework shows it.  The constructor refuses a null
timestamp and a null payload. -/
structure DynamicInstrumentationEvent where
  uid : Int32
  timestamp : Instant
  payloadId : Int32
  payload : Bundle
deriving DecidableEq

/-! The parcelables. -/

/-- The union `Value`, of a string, which may be null, or an integer. -/
inductive Value where
  | stringValue (value : Option JavaText)
  | intValue (value : Int32)
deriving DecidableEq, Repr

structure Entry where
  key : Option JavaText
  value : Option Value
deriving DecidableEq, Repr

structure Event where
  uid : Int32
  timestampMs : Int64
  payloadId : Int32
  payload : Option (List (Option Entry))
deriving DecidableEq, Repr

/-- What the build generates for the parcelables: the constructor of `Value`
without arguments, and how an event is written to a parcel and read. -/
structure Generated (P : Type) where
  newValue : Value
  writeToParcel : Event → P
  readFromParcel : P → Event

namespace Generated

variable {P : Type} (generated : Generated P)

/-- The event at the other end of a call. -/
def transfer (event : Event) : Event := generated.readFromParcel (generated.writeToParcel event)

/-- The constructor selects the first member with its default, and parcels
preserve what is written. -/
structure Documented : Prop where
  newValue_eq : generated.newValue = .stringValue none
  read_write : ∀ event, generated.readFromParcel (generated.writeToParcel event) = event

end Generated

/-! The sender. -/

section Sender

variable (newValue : Value)

/-- The value of an entry.  For null it stays as it was made. -/
def toValue : BundleValue → Except Thrown Value
  | .null => .ok newValue
  | .string value => .ok (.stringValue (some value))
  | .integer value => .ok (.intValue value)
  | .other className => .error (.illegalArgumentException ("cannot convert " ++ className))

/-- The loop of `sendEvent` over the keys. -/
def toEntries (payload : Bundle) : List (Option JavaText) → Except Thrown (List (Option Entry))
  | [] => .ok []
  | key :: rest => do
      let value ← toValue newValue (payload.get key)
      let entries ← toEntries payload rest
      return some ⟨key, some value⟩ :: entries

/-- `rethrowAsRuntimeException`, in the catch of a `RemoteException`. -/
def rethrowAsRuntimeException : Except Thrown Unit → Except Thrown Unit
  | .error (.remoteException message) =>
      .error (.runtimeException (.remoteException message))
  | answer => answer

/-- The call of the service. -/
def enqueueEvent (service : Event → Bool → Except Thrown Unit) (event : Event) (flush : Bool) :
    Run (Event × Bool) Thrown Unit := do
  Run.emit (event, flush)
  Run.ofExcept (rethrowAsRuntimeException (service event flush))

/-- `DynamicInstrumentationEventSender.sendEvent`, with the calls of
`enqueueEvent` as its trace. -/
def sendEvent (order : KeyOrder) (service : Event → Bool → Except Thrown Unit)
    (diEvent : Option DynamicInstrumentationEvent) (flush : Bool) :
    Run (Event × Bool) Thrown Unit := do
  let diEvent ← Run.ofExcept (requireNonNull diEvent "event must not be null")
  let timestampMs ← Run.ofExcept diEvent.timestamp.toEpochMilli
  let entries ← Run.ofExcept (toEntries newValue diEvent.payload (diEvent.payload.keySet order))
  enqueueEvent service ⟨diEvent.uid, timestampMs, diEvent.payloadId, some entries⟩ flush

end Sender

/-! The consumer. -/

/-- The body of the loop of `convertEvent`.  The switch has a default, for
which the union has no member. -/
def putEntry (bundle : Bundle) : Option Entry → Except Thrown Bundle
  | none => .error (.nullPointerException none)
  | some ⟨_, none⟩ => .error (.nullPointerException none)
  | some ⟨key, some (.stringValue value)⟩ => .ok (bundle.putString key value)
  | some ⟨key, some (.intValue value)⟩ => .ok (bundle.putInt key value)

/-- The loop of `convertEvent`, which begins with the last entry. -/
def putEntries : List (Option Entry) → Except Thrown Bundle
  | [] => .ok ∅
  | entry :: rest => do
      let bundle ← putEntries rest
      putEntry bundle entry

def convertEvent (event : Event) : Except Thrown DynamicInstrumentationEvent := do
  let bundle ← putEntries (event.payload.getD [])
  return ⟨event.uid, .ofEpochMilli event.timestampMs, event.payloadId, bundle⟩

/-- `onEvent` of the listener, with what it hands to the consumer's `onEvent`
as its trace. -/
def onEvent (permission : Except Thrown Unit)
    (consumer : List DynamicInstrumentationEvent → Except Thrown Unit) (events : List Event) :
    Run (List DynamicInstrumentationEvent) Thrown Unit := do
  Run.ofExcept permission
  let convertedEvents ← Run.ofExcept (events.mapM convertEvent)
  Run.emit convertedEvents
  Run.ofExcept (consumer convertedEvents)

/-! The payload there and back. -/

section Payload

variable {newValue : Value} {payload : Bundle}

/-- One object there and back, null included. -/
theorem putEntry_toValue (hnew : newValue = .stringValue none) {value : BundleValue}
    (hcarried : value.isCarried = true) :
    ∃ sent, toValue newValue value = .ok sent ∧
      ∀ bundle key, putEntry bundle (some ⟨key, some sent⟩) = .ok (bundle.insert key value) := by
  cases value with
  | null => exact ⟨newValue, rfl, fun bundle key => by rw [hnew]; rfl⟩
  | string value => exact ⟨_, rfl, fun bundle key => rfl⟩
  | integer value => exact ⟨_, rfl, fun bundle key => rfl⟩
  | other className => exact absurd hcarried (by simp [BundleValue.isCarried])

/-- The keys with their objects, in the order in which `convertEvent` puts
them. -/
def putOrder (payload : Bundle) (keys : List (Option JavaText)) :
    List (Option JavaText × BundleValue) :=
  (keys.map fun key => (key, payload.get key)).reverse

theorem putOrder_cons (key : Option JavaText) (rest : List (Option JavaText)) :
    putOrder payload (key :: rest) = putOrder payload rest ++ [(key, payload.get key)] := by
  simp [putOrder]

theorem putEntries_toEntries (hnew : newValue = .stringValue none) {keys : List (Option JavaText)}
    (hcarried : ∀ key ∈ keys, (payload.get key).isCarried = true) :
    ∃ entries, toEntries newValue payload keys = .ok entries ∧
      putEntries entries = .ok (insertAll ∅ (putOrder payload keys)) := by
  induction keys with
  | nil => exact ⟨[], rfl, rfl⟩
  | cons key rest ih =>
      obtain ⟨sent, hsent, hput⟩ := putEntry_toValue hnew (hcarried key List.mem_cons_self)
      obtain ⟨entries, hentries, hbundle⟩ :=
        ih fun other hmem => hcarried other (List.mem_cons_of_mem key hmem)
      refine ⟨some ⟨key, some sent⟩ :: entries, ?_, ?_⟩
      · rw [toEntries, hsent, hentries]
        rfl
      · rw [putEntries, hbundle, putOrder_cons, insertAll_append]
        exact hput _ key

/-- The loop stops at the first object that cannot be carried. -/
theorem toEntries_eq_error (newValue : Value) {keys : List (Option JavaText)} {key : Option JavaText}
    (hmem : key ∈ keys) (hother : (payload.get key).isCarried = false) :
    ∃ e, toEntries newValue payload keys = .error e := by
  induction keys with
  | nil => cases hmem
  | cons first rest ih =>
      rw [toEntries]
      cases hfirst : toValue newValue (payload.get first) with
      | error e => exact ⟨e, rfl⟩
      | ok value =>
          have hrest : key ∈ rest := by
            refine (List.mem_cons.1 hmem).resolve_left ?_
            rintro rfl
            cases hvalue : payload.get key with
            | other className => simp [hvalue, toValue] at hfirst
            | _ => simp [hvalue, BundleValue.isCarried] at hother
          obtain ⟨e, he⟩ := ih hrest
          exact ⟨e, by rw [he]; rfl⟩

/-- What was put under the keys of a bundle is the bundle again. -/
theorem lookup_putOrder (order : KeyOrder) (key : Option JavaText) :
    (insertAll ∅ (putOrder payload (payload.keySet order))).lookup key = payload.lookup key := by
  have hnodup : (payload.keySet order).reverse.Nodup :=
    List.nodup_reverse.2 (payload.nodup_keySet order)
  rw [putOrder, ← List.map_reverse, lookup_insertAll_map hnodup]
  simp only [List.mem_reverse, Bundle.mem_keySet order, ← AList.lookup_isSome, Bundle.get]
  cases payload.lookup key <;> simp

end Payload

/-! Whole events. -/

/-- What the consumer gets is what was sent, up to the milliseconds. -/
structure Survives (sent received : DynamicInstrumentationEvent) : Prop where
  uid_eq : received.uid = sent.uid
  payloadId_eq : received.payloadId = sent.payloadId
  seconds_eq : received.timestamp.seconds = sent.timestamp.seconds
  nanos_eq : received.timestamp.nanos = sent.timestamp.nanos / 1000000 * 1000000
  payload_eq : ∀ key, received.payload.lookup key = sent.payload.lookup key

/-- The parcelable converts to what was sent. -/
def Encodes (event : Event) (sent : DynamicInstrumentationEvent) : Prop :=
  ∃ received, convertEvent event = .ok received ∧ Survives sent received

/-- A batch of events is handed to the consumer in one call, in order. -/
theorem onEvent_of_encodes {events : List Event} {sent : List DynamicInstrumentationEvent}
    (hencodes : List.Forall₂ Encodes events sent)
    (consumer : List DynamicInstrumentationEvent → Except Thrown Unit) :
    ∃ received, (onEvent (.ok ()) consumer events).trace = [received] ∧
      List.Forall₂ Survives sent received := by
  have hconverted : ∃ received, events.mapM convertEvent = .ok received ∧
      List.Forall₂ Survives sent received := by
    induction hencodes with
    | nil => exact ⟨[], rfl, .nil⟩
    | cons hfirst _ ih =>
        obtain ⟨first, hconvert, hsurvives⟩ := hfirst
        obtain ⟨rest, hrest, hall⟩ := ih
        refine ⟨first :: rest, ?_, .cons hsurvives hall⟩
        rw [List.mapM_cons, hconvert, hrest]
        rfl
  obtain ⟨received, hmap, hall⟩ := hconverted
  refine ⟨received, ?_, hall⟩
  rw [onEvent, Run.bind_ofExcept_ok, hmap, Run.bind_ofExcept_ok, Run.trace_bind_emit,
    Run.trace_ofExcept]

/-- Every object of the payload can be carried. -/
def Carried (payload : Bundle) : Prop :=
  ∀ key value, payload.lookup key = some value → value.isCarried = true

theorem carried_iff (payload : Bundle) :
    (∀ entry ∈ payload.entries, entry.2.isCarried = true) ↔ Carried payload := by
  constructor
  · intro hentries key value hlookup
    exact hentries ⟨key, value⟩ (AList.mem_lookup_iff.1 hlookup)
  · intro hcarried entry hmem
    exact hcarried entry.1 entry.2 (AList.mem_lookup_iff.2 hmem)

instance (payload : Bundle) : Decidable (Carried payload) :=
  decidable_of_iff _ (carried_iff payload)

theorem Carried.get {payload : Bundle} (hcarried : Carried payload) (order : KeyOrder) :
    ∀ key ∈ payload.keySet order, (payload.get key).isCarried = true :=
  fun key hmem => hcarried key _ ((Bundle.lookup_eq_some_iff order).2 ⟨hmem, rfl⟩)

section Trip

variable {P : Type} {generated : Generated P} (order : KeyOrder)
  (service : Event → Bool → Except Thrown Unit)

/-- An event that can be carried is handed to the service, whatever the service
answers, and converts back to the same event. -/
theorem sendEvent_of_carried (hgenerated : generated.Documented)
    {diEvent : DynamicInstrumentationEvent} (hcarried : Carried diEvent.payload)
    (hfits : diEvent.timestamp.FitsLong) (flush : Bool) :
    ∃ event, sendEvent generated.newValue order service (some diEvent) flush =
      enqueueEvent service event flush ∧ Encodes event diEvent := by
  obtain ⟨epochMilli, hmilli, hseconds, hnanos⟩ := Instant.ofEpochMilli_toEpochMilli hfits
  obtain ⟨entries, hentries, hbundle⟩ :=
    putEntries_toEntries hgenerated.newValue_eq (hcarried.get order)
  refine ⟨⟨diEvent.uid, epochMilli, diEvent.payloadId, some entries⟩, ?_,
    ⟨diEvent.uid, .ofEpochMilli epochMilli, diEvent.payloadId,
      insertAll ∅ (putOrder diEvent.payload (diEvent.payload.keySet order))⟩, ?_, ?_⟩
  · simp only [sendEvent, requireNonNull, Run.bind_ofExcept_ok, hmilli, hentries]
  · rw [convertEvent, Option.getD_some, hbundle]
    rfl
  · exact ⟨rfl, rfl, hseconds, hnanos, lookup_putOrder order⟩

/-- An event with an object that cannot be carried is refused before the
service is called. -/
theorem sendEvent_of_not_carried (newValue : Value) {diEvent : DynamicInstrumentationEvent}
    {key : Option JavaText} {value : BundleValue}
    (hlookup : diEvent.payload.lookup key = some value) (hother : value.isCarried = false)
    (flush : Bool) :
    ∃ e, sendEvent newValue order service (some diEvent) flush = ⟨[], .error e⟩ := by
  obtain ⟨hmem, rfl⟩ := (Bundle.lookup_eq_some_iff order).1 hlookup
  obtain ⟨e, herror⟩ := toEntries_eq_error newValue hmem hother
  simp only [sendEvent, requireNonNull, Run.bind_ofExcept_ok, herror]
  cases diEvent.timestamp.toEpochMilli with
  | error e' => exact ⟨e', rfl⟩
  | ok epochMilli => exact ⟨e, rfl⟩

/-- Events survive the trip, once to the bridge service and once on to the
consumer, or are refused as a whole. -/
theorem sendEvent_survives (hgenerated : generated.Documented)
    (diEvent : DynamicInstrumentationEvent) (flush : Bool) :
    (Carried diEvent.payload → diEvent.timestamp.FitsLong →
      ∃ event received,
        (sendEvent generated.newValue order service (some diEvent) flush).trace =
          [(event, flush)] ∧
        (service event flush = .ok () →
          (sendEvent generated.newValue order service (some diEvent) flush).outcome = .ok ()) ∧
        convertEvent (generated.transfer (generated.transfer event)) = .ok received ∧
        Survives diEvent received) ∧
    ((∃ key value, diEvent.payload.lookup key = some value ∧ value.isCarried = false) →
      (∃ e, (sendEvent generated.newValue order service (some diEvent) flush).outcome =
        .error e) ∧
      (sendEvent generated.newValue order service (some diEvent) flush).trace = []) := by
  constructor
  · intro hcarried hfits
    obtain ⟨event, hsend, received, hconvert, hsurvives⟩ :=
      sendEvent_of_carried order service hgenerated hcarried hfits flush
    have htransfer : generated.transfer (generated.transfer event) = event := by
      rw [Generated.transfer, Generated.transfer, hgenerated.read_write, hgenerated.read_write]
    refine ⟨event, received, ?_, ?_, by rw [htransfer, hconvert], hsurvives⟩
    · rw [hsend, enqueueEvent, Run.trace_bind_emit, Run.trace_ofExcept]
    · intro haccepted
      rw [hsend, enqueueEvent, haccepted]
      rfl
  · rintro ⟨key, value, hlookup, hother⟩
    obtain ⟨e, hsend⟩ := sendEvent_of_not_carried order service generated.newValue hlookup hother
      flush
    rw [hsend]
    exact ⟨⟨e, rfl⟩, rfl⟩

end Trip

/-- Parcels that hold the event itself. -/
def plainParcels : Generated Event := ⟨.stringValue none, id, id⟩

/-- A null, a string and an integer, at a second and a half millisecond. -/
def testEvent : DynamicInstrumentationEvent where
  uid := 0
  timestamp := {
    seconds := 1
    nanos := 500000
    min_le_seconds := by decide
    seconds_le_max := by decide
    nanos_lt := by decide }
  payloadId := 2
  payload := (((∅ : Bundle).putInt (some [97]) 37).putString (some [98]) (some [99, 100])).putString
    (some [101]) none

/-- The same with a `Long` under one more key. -/
def testEventWithLong : DynamicInstrumentationEvent :=
  { testEvent with payload := testEvent.payload.insert none (.other "class java.lang.Long") }

theorem sendEvent_survives_testEvent :
    (∃ event received,
      (sendEvent plainParcels.newValue .asStored (fun _ _ => .ok ()) (some testEvent) true).trace =
        [(event, true)] ∧
      (sendEvent plainParcels.newValue .asStored (fun _ _ => .ok ()) (some testEvent) true).outcome =
        .ok () ∧
      convertEvent (plainParcels.transfer (plainParcels.transfer event)) = .ok received ∧
      Survives testEvent received) ∧
    (∃ e, (sendEvent plainParcels.newValue .asStored (fun _ _ => .ok ()) (some testEventWithLong)
      true).outcome = .error e) ∧
    (sendEvent plainParcels.newValue .asStored (fun _ _ => .ok ()) (some testEventWithLong)
      true).trace = [] := by
  have hgenerated : plainParcels.Documented := ⟨rfl, fun _ => rfl⟩
  constructor
  · obtain ⟨event, received, htrace, hok, hconvert, hsurvives⟩ :=
      (sendEvent_survives .asStored (fun _ _ => .ok ()) hgenerated testEvent true).1
        (by decide) (by decide)
    exact ⟨event, received, htrace, hok rfl, hconvert, hsurvives⟩
  · exact (sendEvent_survives .asStored (fun _ _ => .ok ()) hgenerated testEventWithLong true).2
      ⟨none, .other "class java.lang.Long", AList.lookup_insert _, rfl⟩

end UprobeStats.Framework
