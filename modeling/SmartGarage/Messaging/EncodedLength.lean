/-
The lengths that `oc_handle_collection_request` and the handlers of `/oic/res` put into the response buffer, and the
bytes of the buffer that the response and the notifications take. An encoder that has failed reports the size -1.
-/
import SmartGarage.Api.DiscoveryHandlers
import SmartGarage.Messaging.CollectionExact

namespace SmartGarage.EncodedLength

open Observe

/-! ## Calls -/

/-- A call of one of the handlers. -/
inductive Call (itemMax : Nat)
  | collection (env : CollectionEnv) (c : CollectionData) (rq : CollectionRequest) (ifaceMask : InterfaceMask)
      (notify : Option Nat)
  | discovery (source : DiscoverySource itemMax) (rq : DiscoveryRequest) (ifaceMask : InterfaceMask)
  | discovery11 (source : DiscoverySource itemMax) (query : OcString) (origin : OcEndpoint) (ifaceMask : InterfaceMask)

/-- The observers that `coap_notify_collection_observers` is called for with the response buffer. -/
structure Notified where
  tenv : NotifyEnv
  resource : Nat
  ifaceMask : InterfaceMask
  observers : List CollectionObserver

namespace Call

variable {itemMax : Nat} (size : Cbor → Nat) (bufferSize : BitVec 16) (before : List (BufferWriter.Op Cbor))

/-- The encoder that a call finds; the one before it may have written to the same buffer. -/
def encoder : RepEncoder := BufferWriter.empty.run bufferSize.toNat size before

/-- How many bytes of the response buffer are taken: by the response, and by the notifications that are made of it. -/
def taken (notified : Notified) : Call itemMax → List (BitVec 16)
  | .collection env c rq ifaceMask notify =>
    let answer := ocHandleCollectionRequest size env c rq bufferSize.toNat ifaceMask notify (encoder size bufferSize before)
    answer.responseLength ::
      (coapNotifyCollectionObservers notified.tenv notified.resource notified.ifaceMask answer notified.observers).map
        fun n => n.answer.responseLength
  | .discovery source rq ifaceMask =>
    [(ocCoreDiscoveryAnswer source rq size bufferSize.toNat ifaceMask (encoder size bufferSize before)).responseLength]
  | .discovery11 source query origin ifaceMask =>
    [(ocCore11DiscoveryAnswer source size bufferSize.toNat query origin ifaceMask
      (encoder size bufferSize before)).responseLength]

/-- What is encoded fits the buffer, or the buffer is of the greatest length that there is. -/
def OpsFit (ops : List (BufferWriter.Op Cbor)) : Prop :=
  BufferWriter.reach size 0 (before ++ ops) ≤ bufferSize.toNat ∨ bufferSize = 65535

/-- The condition on a call: `oc_core_discovery_handler` has none, and `oc_core_1_1_discovery_handler` none where it
finds no link. -/
def Fits : Call itemMax → Prop
  | .collection env c rq ifaceMask notify => OpsFit size bufferSize before (collectionContent size env c rq ifaceMask notify).ops
  | .discovery _ _ _ => True
  | .discovery11 source query origin ifaceMask =>
    let content := discoveryContent11 source query origin ifaceMask
    content.found = 0 ∨ OpsFit size bufferSize before content.ops

end Call

/-! ## The size of what has been encoded -/

section Size

variable {size : Cbor → Nat} {bufferSize : BitVec 16} {before ops : List (BufferWriter.Op Cbor)}

theorem encoder_run : (Call.encoder size bufferSize before).run bufferSize.toNat size ops =
    BufferWriter.empty.run bufferSize.toNat size (before ++ ops) :=
  List.foldl_append.symm

theorem size_ok {e : RepEncoder} (hwithin : BufferWriter.Within bufferSize.toNat size e) (hok : e.failed = false) :
    castUInt16 (ocRepGetEncodedPayloadSize size e) ≤ bufferSize := by
  have hused := hwithin hok
  have hlt := bufferSize.isLt
  have hcast : castUInt16 (ocRepGetEncodedPayloadSize size e) = BitVec.ofNat 16 (e.used size) := by
    simp only [ocRepGetEncodedPayloadSize, hok, Bool.false_eq_true, if_false, castUInt16]
    exact BitVec.ofInt_natCast 16 _
  rw [hcast, BitVec.le_def, BitVec.toNat_ofNat, Nat.mod_eq_of_lt (by omega)]
  exact hused

theorem size_failed {e : RepEncoder} (hfailed : e.failed = true) :
    castUInt16 (ocRepGetEncodedPayloadSize size e) ≤ bufferSize ↔ bufferSize = 65535 := by
  have hcast : castUInt16 (ocRepGetEncodedPayloadSize size e) = 65535 := by
    simp only [ocRepGetEncodedPayloadSize, hfailed, if_true]
    rfl
  rw [hcast, BitVec.le_def]
  constructor
  · intro h
    exact BitVec.eq_of_toNat_eq (Nat.le_antisymm (Nat.le_of_lt_succ bufferSize.isLt) h)
  · rintro rfl
    exact Nat.le_refl _

theorem failed_iff : (BufferWriter.empty.run bufferSize.toNat size (before ++ ops)).failed = false ↔
    BufferWriter.reach size 0 (before ++ ops) ≤ bufferSize.toNat := by
  rw [BufferWriter.run_failed _ BufferWriter.within_empty]
  exact and_iff_right rfl

/-- The length that comes of the cast fits the buffer exactly if what has been encoded does, but for the largest
buffer. -/
theorem length_le_iff :
    castUInt16 (ocRepGetEncodedPayloadSize size ((Call.encoder size bufferSize before).run bufferSize.toNat size ops)) ≤
      bufferSize ↔ Call.OpsFit size bufferSize before ops := by
  rw [encoder_run, Call.OpsFit, ← failed_iff]
  cases hfailed : (BufferWriter.empty.run bufferSize.toNat size (before ++ ops)).failed with
  | false => exact iff_of_true (size_ok (BufferWriter.within_run _ BufferWriter.within_empty) hfailed) (.inl rfl)
  | true => simp [size_failed hfailed]

theorem length_le_of_nonneg
    (h : 0 ≤ ocRepGetEncodedPayloadSize size ((Call.encoder size bufferSize before).run bufferSize.toNat size ops)) :
    BufferWriter.reach size 0 (before ++ ops) ≤ bufferSize.toNat := by
  rw [encoder_run] at h
  rw [← failed_iff]
  cases hfailed : (BufferWriter.empty.run bufferSize.toNat size (before ++ ops)).failed with
  | false => rfl
  | true => simp [ocRepGetEncodedPayloadSize, hfailed] at h

end Size

/-! ## The handlers -/

section Handlers

variable {itemMax : Nat} {size : Cbor → Nat} {bufferSize : BitVec 16} {before : List (BufferWriter.Op Cbor)}

theorem discovery_within (source : DiscoverySource itemMax) (rq : DiscoveryRequest) (ifaceMask : InterfaceMask) :
    (ocCoreDiscoveryAnswer source rq size bufferSize.toNat ifaceMask (Call.encoder size bufferSize before)).responseLength ≤
      bufferSize := by
  unfold ocCoreDiscoveryAnswer
  dsimp only
  split
  · rename_i h
    exact length_le_iff.2 (.inl (length_le_of_nonneg (Int.le_of_lt h.2)))
  · exact Nat.zero_le bufferSize.toNat

theorem discovery11_within (source : DiscoverySource itemMax) (query : OcString) (origin : OcEndpoint)
    (ifaceMask : InterfaceMask) :
    (ocCore11DiscoveryAnswer source size bufferSize.toNat query origin ifaceMask
        (Call.encoder size bufferSize before)).responseLength ≤ bufferSize ↔
      (Call.discovery11 source query origin ifaceMask).Fits size bufferSize before := by
  unfold ocCore11DiscoveryAnswer Call.Fits
  dsimp only
  split
  · rename_i h
    rw [length_le_iff]
    exact (or_iff_right h.1).symm
  · rename_i h
    refine iff_of_true (Nat.zero_le bufferSize.toNat) ?_
    by_cases hfound : (discoveryContent11 source query origin ifaceMask).found = 0
    · exact .inl hfound
    · -- the size is 0, so no write has failed
      refine .inr (.inl (length_le_of_nonneg (Int.le_of_eq ?_)))
      exact (not_not.1 fun hsize => h ⟨hfound, hsize⟩).symm

theorem notification_length {notified : Notified} {answer : CollectionAnswer} {n : Notification}
    (h : n ∈ coapNotifyCollectionObservers notified.tenv notified.resource notified.ifaceMask answer notified.observers) :
    n.answer = answer := by
  rw [coapNotifyCollectionObservers_eq] at h
  obtain ⟨o, -, rfl⟩ := List.mem_map.1 h
  rfl

/-- Neither the response nor a notification takes bytes beyond the buffer if and only if the condition holds. -/
theorem taken_within_iff (size : Cbor → Nat) (bufferSize : BitVec 16) (before : List (BufferWriter.Op Cbor)) (call : Call itemMax) :
    (∀ notified, ∀ n ∈ call.taken size bufferSize before notified, n ≤ bufferSize) ↔ call.Fits size bufferSize before := by
  cases call with
  | collection env c rq ifaceMask notify =>
    have hlength : (ocHandleCollectionRequest size env c rq bufferSize.toNat ifaceMask notify
        (Call.encoder size bufferSize before)).responseLength ≤ bufferSize ↔ _ := length_le_iff
    constructor
    · intro h
      exact hlength.1 (h ⟨⟨fun _ => none, fun _ => true, fun _ => true⟩, 0, 0, []⟩ _ List.mem_cons_self)
    · intro h notified n hn
      rcases List.mem_cons.1 hn with rfl | hn
      · exact hlength.2 h
      · obtain ⟨m, hm, rfl⟩ := List.mem_map.1 hn
        rw [notification_length hm]
        exact hlength.2 h
  | discovery source rq ifaceMask =>
    refine iff_of_true (fun notified n hn => ?_) trivial
    rw [List.mem_singleton.1 hn]
    exact discovery_within source rq ifaceMask
  | discovery11 source query origin ifaceMask =>
    rw [← discovery11_within]
    constructor
    · intro h
      exact h ⟨⟨fun _ => none, fun _ => true, fun _ => true⟩, 0, 0, []⟩ _ (List.mem_singleton_self _)
    · intro h notified n hn
      rw [List.mem_singleton.1 hn]
      exact h

end Handlers

/-! ## A representation that is too large -/

/-- A resource whose handler encodes a text of 9000 bytes. -/
def largeEnv : CollectionEnv :=
  { sharingEnv with handled := fun _ _ _ _ => ⟨[.map [.textString (ascii "log"), .textString (List.replicate 9000 97)]], 69⟩ }

/-- The request of a client that reads a collection with the batch interface. -/
def largeCall : Call 32 :=
  .collection largeEnv (plainCollection kitchen [sharedResource]) ⟨.get, [], some OcEndpoint.zero, []⟩ ifB none

/-- The response to the request is longer than a buffer of 8192 bytes. -/
theorem taken_beyond : ¬∀ notified, ∀ n ∈ largeCall.taken cborSize 8192 [] notified, n ≤ 8192 := by
  intro h
  have hlength := h ⟨sharingMemory, 1, ifB, []⟩ _ List.mem_cons_self
  rcases length_le_iff.1 hlength with hfits | hlargest
  · have hops : (collectionContent cborSize largeEnv (plainCollection kitchen [sharedResource])
        ⟨.get, [], some OcEndpoint.zero, []⟩ ifB none).ops =
        [.put (.array false [.map (batchEntries ⟨sharedResource, [], [], 0, []⟩
          [.map [.textString (ascii "log"), .textString (List.replicate 9000 97)]])])] := rfl
    rw [hops] at hfits
    simp only [List.nil_append, BufferWriter.reach, batchEntries, List.cons_append, cborSize, cborSizes, List.length_replicate] at hfits
    have hbuffer : (8192 : BitVec 16).toNat = 8192 := rfl
    omega
  · exact absurd hlargest (by decide)

end SmartGarage.EncodedLength
