/-
Which messages `oc_tcp_receive_message` takes out of a stream: the first `recv` of a call must bring the header,
from which the length is computed, and no byte of the next message.
-/
import SmartGarage.Port.TcpAdapter
import SmartGarage.Messaging.CoapTcp
import SmartGarage.Api.Uuid

namespace SmartGarage

section Reassembly

variable {maxAppDataSize : Nat} {ready : Nat → Nat}

theorem sizeSub_eq {a b : Nat} (ha : a < 2 ^ 64) (hb : b ≤ a) : sizeSub a b = a - b := by
  unfold sizeSub
  omega

variable (ready)

theorem recvCount_pos {want : Nat} {stream : OcString} (hwant : want ≠ 0) (hs : stream ≠ []) :
    recvCount ready want stream ≠ 0 := by
  have hpos := List.length_pos_iff.2 hs
  unfold recvCount
  omega

theorem recvCount_le (want : Nat) (stream : OcString) :
    recvCount ready want stream ≤ want ∧ recvCount ready want stream ≤ stream.length := by
  unfold recvCount
  omega

variable {ready}

theorem take_write {data : OcString} (cells : OcString) {n : Nat} (h : n ≤ data.length) :
    (Memory.write data n cells).take (n + cells.length) = data.take n ++ cells := by
  unfold Memory.write
  exact List.take_left' (by
    rw [List.length_append, List.length_take]
    omega)

theorem tcpReceiveLoop_eq {total : Nat} (htotal : total < 2 ^ 64) : ∀ (n : Nat) {data stream : OcString} {length : Nat},
    stream.length = n → length < total → total ≤ data.length →
      tcpReceiveLoop maxAppDataSize ready data length total (total - length) stream =
        if total - length ≤ stream.length then
          .message (data.take length ++ stream.take (total - length)) (stream.drop (total - length))
        else .waiting := by
  intro n
  induction n using Nat.strong_induction_on with
  | _ n ih =>
    intro data stream length hn hlength hdata
    rw [tcpReceiveLoop]
    by_cases hs : stream = []
    · rw [dif_pos hs, if_neg (by
        rw [hs, List.length_nil]
        omega)]
    · have hcount := recvCount_pos ready (show total - length ≠ 0 by omega) hs
      obtain ⟨hwant, havail⟩ := recvCount_le ready (total - length) stream
      rw [dif_neg hs, dif_neg hcount]
      generalize recvCount ready (total - length) stream = count at hcount hwant havail
      have htaken : (stream.take count).length = count := List.length_take_of_le havail
      have hread := take_write (stream.take count) (show length ≤ data.length by omega)
      rw [htaken] at hread
      show (if total = 0 then _ else if total > length + count then _ else _) = _
      rw [if_neg (by omega)]
      by_cases hmore : total > length + count
      · have hdrop : (stream.drop count).length = n - count := by rw [List.length_drop, hn]
        have hbuffer : (Memory.write data length (stream.take count)).length = data.length :=
          Memory.length_write (by omega)
        rw [if_pos hmore, sizeSub_eq (by omega) hwant, Nat.sub_sub,
          ih (n - count) (by omega) hdrop hmore (by rw [hbuffer]; exact hdata), hread, List.append_assoc, List.drop_drop,
          ← List.take_add, Nat.sub_add_eq, Nat.add_sub_cancel' hwant, List.length_drop]
        by_cases hall : total - length ≤ stream.length
        · rw [if_pos hall, if_pos (by omega)]
        · rw [if_neg hall, if_neg (by omega)]
      · have hlast : total - length = count := by omega
        rw [if_neg hmore, hread, hlast, if_pos havail]

/-- The buffer behind the first `recv` of a call. -/
def firstBuffer (data stream : OcString) (count : Nat) : OcString := Memory.write data 0 (stream.take count)

theorem defaultReceiveSize_le : defaultReceiveSize ≤ tcpPduSize maxAppDataSize := by
  have hheader : coapMaxHeaderSize = 181 := rfl
  have hdefault : defaultReceiveSize = 6 := rfl
  unfold tcpPduSize
  omega

/-- A call delivers as many bytes as the first `recv` has brought or as the length says, if that is more. -/
theorem ocTcpReceiveMessage_eq (hmax : tcpPduSize maxAppDataSize < 2 ^ 64) {data stream : OcString} (hs : stream ≠ [])
    (hdata : data.length = tcpPduSize maxAppDataSize) :
    let count := recvCount ready defaultReceiveSize stream
    let total := coapTcpGetPacketSize (firstBuffer data stream count)
    ocTcpReceiveMessage maxAppDataSize ready data stream =
      if total > tcpPduSize maxAppDataSize then .refused (stream.drop count)
      else if max count total ≤ stream.length then
        .message (stream.take (max count total)) (stream.drop (max count total))
      else .waiting := by
  intro count total
  have hcount : count ≠ 0 := recvCount_pos ready (by decide) hs
  obtain ⟨hwant, havail⟩ := recvCount_le ready defaultReceiveSize stream
  have hfits : count ≤ data.length := by
    rw [hdata]
    exact hwant.trans defaultReceiveSize_le
  have htaken : (stream.take count).length = count := List.length_take_of_le havail
  have hread : (firstBuffer data stream count).take count = stream.take count := by
    have htake := take_write (stream.take count) (Nat.zero_le data.length)
    rwa [htaken, Nat.zero_add, List.take_zero, List.nil_append] at htake
  have hbuffer : (firstBuffer data stream count).length = data.length :=
    Memory.length_write (by
      rw [htaken]
      omega)
  rw [ocTcpReceiveMessage, tcpReceiveLoop, dif_neg hs, dif_neg hcount]
  show (if 0 = 0 then if total > _ then _ else if total > 0 + count then tcpReceiveLoop maxAppDataSize ready
    (firstBuffer data stream count) (0 + count) total (sizeSub total count) (stream.drop count) else
      .message ((firstBuffer data stream count).take (0 + count)) _ else _) = _
  rw [if_pos rfl, Nat.zero_add]
  by_cases hrefused : total > tcpPduSize maxAppDataSize
  · rw [if_pos hrefused, if_pos hrefused]
  · rw [if_neg hrefused, if_neg hrefused]
    by_cases hmore : total > count
    · rw [if_pos hmore, sizeSub_eq (by omega) (by omega),
        tcpReceiveLoop_eq (by omega) _ rfl hmore (by rw [hbuffer, hdata]; omega), hread, List.drop_drop, ← List.take_add,
        Nat.add_sub_cancel' (by omega), List.length_drop, Nat.max_eq_right (by omega)]
      by_cases hall : total ≤ stream.length
      · rw [if_pos hall, if_pos (by omega)]
      · rw [if_neg hall, if_neg (by omega)]
    · rw [if_neg hmore, hread, Nat.max_eq_left (by omega), if_pos havail]

/-! ## Headers -/

/-- The bytes that the length of a message is computed from. -/
def headerLength (bytes : OcString) : Nat := 1 + (coapTcpParseMessageLength bytes).2

/-- The bytes are one message, as its header says. -/
def IsTcpMessage (bytes : OcString) : Prop := coapTcpGetPacketSize bytes = bytes.length

instance (bytes : OcString) : Decidable (IsTcpMessage bytes) := inferInstanceAs (Decidable (_ = _))

theorem tcpLen_cases (b : UInt8) : (0xF0 &&& b) >>> 4 < 13 ∨ (0xF0 &&& b) >>> 4 = 13 ∨ (0xF0 &&& b) >>> 4 = 14 ∨
    (0xF0 &&& b) >>> 4 = 15 := by
  revert b
  exact forall_byte (by decide +kernel)

/-- The extended length, as the loop reads it. -/
def extendedValue (bytes : OcString) (n : Nat) : Nat :=
  (List.range n).foldl
    (fun l i => l ||| ((bytes.getD (i + 1) 0).toUInt32 <<< UInt32.ofNat (8 * (n - (i + 1)))).toNat) 0

theorem parseMessageLength_cases (bytes : OcString) :
    coapTcpParseMessageLength bytes = (((0xF0 &&& bytes.getD 0 0) >>> 4).toNat, 0) ∧
        (0xF0 &&& bytes.getD 0 0) >>> 4 < 13 ∨
      ∃ n base, (n = 1 ∨ n = 2 ∨ n = 4) ∧ coapTcpParseMessageLength bytes = (extendedValue bytes n + base, n) ∧
        ∀ bytes', bytes'.getD 0 0 = bytes.getD 0 0 → coapTcpParseMessageLength bytes' = (extendedValue bytes' n + base, n) := by
  have hextended : ∀ {len : UInt8} {n base : Nat}, (0xF0 &&& bytes.getD 0 0) >>> 4 = len → ¬len < 13 →
      1 <<< (len - 13).toNat = n → (if len = 13 then 13 else if len = 14 then 269 else 65805) = base →
        ∀ bytes' : OcString, bytes'.getD 0 0 = bytes.getD 0 0 →
          coapTcpParseMessageLength bytes' = (extendedValue bytes' n + base, n) := by
    intro len n base hlen hge hn hbase bytes' hfirst
    unfold coapTcpParseMessageLength
    simp only [hfirst, hlen, if_neg hge, hn, hbase]
    rfl
  obtain h | h | h | h := tcpLen_cases (bytes.getD 0 0)
  · refine .inl ⟨?_, h⟩
    unfold coapTcpParseMessageLength
    simp only [if_pos h]
  · have hall := hextended h (by decide) (n := 1) (by decide) rfl
    exact .inr ⟨1, _, .inl rfl, hall bytes rfl, hall⟩
  · have hall := hextended h (by decide) (n := 2) (by decide) rfl
    exact .inr ⟨2, _, .inr (.inl rfl), hall bytes rfl, hall⟩
  · have hall := hextended h (by decide) (n := 4) (by decide) rfl
    exact .inr ⟨4, _, .inr (.inr rfl), hall bytes rfl, hall⟩

theorem extendedValue_congr {bytes bytes' : OcString} {n : Nat} (h : ∀ i < n, bytes'.getD (i + 1) 0 = bytes.getD (i + 1) 0) :
    extendedValue bytes' n = extendedValue bytes n := by
  unfold extendedValue
  exact List.foldl_ext _ _ _ fun l i hi => by rw [h i (List.mem_range.1 hi)]

theorem shiftedByte_of (d : UInt8) {k : Nat} (hk : k ≤ 24) {s : UInt32} (hs : s.toNat = k) :
    (d.toUInt32 <<< s).toNat = d.toNat * 2 ^ k := by
  have hbyte := shiftedByte d.toNat k hk s hs
  rwa [UInt8.ofNat_toNat, Nat.mod_eq_of_lt d.toNat_lt] at hbyte

theorem extendedValue_one (bytes : OcString) : extendedValue bytes 1 = (bytes.getD 1 0).toNat := by
  have h0 := shiftedByte_of (bytes.getD 1 0) (Nat.zero_le 24) (s := 0) rfl
  show 0 ||| ((bytes.getD 1 0).toUInt32 <<< 0).toNat = _
  rw [Nat.zero_or, h0, Nat.pow_zero, Nat.mul_one]

theorem extendedValue_two (bytes : OcString) :
    extendedValue bytes 2 = (bytes.getD 1 0).toNat * 2 ^ 8 + (bytes.getD 2 0).toNat := by
  have h8 := shiftedByte_of (bytes.getD 1 0) (show 8 ≤ 24 by decide) (s := 8) rfl
  have h0 := shiftedByte_of (bytes.getD 2 0) (Nat.zero_le 24) (s := 0) rfl
  show 0 ||| ((bytes.getD 1 0).toUInt32 <<< 8).toNat ||| ((bytes.getD 2 0).toUInt32 <<< 0).toNat = _
  rw [Nat.zero_or, h8, h0, Nat.pow_zero, Nat.mul_one,
    Bytes.or_eq_add (Nat.dvd_mul_left (2 ^ 8) _) (bytes.getD 2 0).toNat_lt]

theorem extendedValue_four (bytes : OcString) :
    extendedValue bytes 4 = (bytes.getD 1 0).toNat * 2 ^ 24 + (bytes.getD 2 0).toNat * 2 ^ 16 +
      (bytes.getD 3 0).toNat * 2 ^ 8 + (bytes.getD 4 0).toNat := by
  have h24 := shiftedByte_of (bytes.getD 1 0) (Nat.le_refl 24) (s := 24) rfl
  have h16 := shiftedByte_of (bytes.getD 2 0) (show 16 ≤ 24 by decide) (s := 16) rfl
  have h8 := shiftedByte_of (bytes.getD 3 0) (show 8 ≤ 24 by decide) (s := 8) rfl
  have h0 := shiftedByte_of (bytes.getD 4 0) (Nat.zero_le 24) (s := 0) rfl
  have hlt2 := (bytes.getD 2 0).toNat_lt
  have hlt3 := (bytes.getD 3 0).toNat_lt
  show 0 ||| ((bytes.getD 1 0).toUInt32 <<< 24).toNat ||| ((bytes.getD 2 0).toUInt32 <<< 16).toNat |||
    ((bytes.getD 3 0).toUInt32 <<< 8).toNat ||| ((bytes.getD 4 0).toUInt32 <<< 0).toNat = _
  rw [Nat.zero_or, h24, h16, h8, h0, Nat.pow_zero, Nat.mul_one,
    Bytes.or_eq_add (Nat.dvd_mul_left (2 ^ 24) (bytes.getD 1 0).toNat) (by omega),
    Bytes.or_eq_add (k := 16) (b := (bytes.getD 3 0).toNat * 2 ^ 8) (by omega) (by omega),
    Bytes.or_eq_add (k := 8) (by omega) (bytes.getD 4 0).toNat_lt]

theorem extendedValue_last {n : Nat} (hn : n = 1 ∨ n = 2 ∨ n = 4) (bytes : OcString) : ∃ high,
    ∀ bytes' : OcString, (∀ i < n, bytes'.getD i 0 = bytes.getD i 0) →
      extendedValue bytes' n = 256 * high + (bytes'.getD n 0).toNat := by
  obtain rfl | rfl | rfl := hn
  · exact ⟨0, fun bytes' _ => by rw [extendedValue_one, Nat.mul_zero, Nat.zero_add]⟩
  · refine ⟨(bytes.getD 1 0).toNat, fun bytes' h => ?_⟩
    rw [extendedValue_two, h 1 (by decide)]
    omega
  · refine ⟨(bytes.getD 1 0).toNat * 65536 + (bytes.getD 2 0).toNat * 256 + (bytes.getD 3 0).toNat, fun bytes' h => ?_⟩
    rw [extendedValue_four, h 1 (by decide), h 2 (by decide), h 3 (by decide)]
    omega

theorem packetSize_congr {bytes bytes' : OcString} (h : ∀ i < headerLength bytes, bytes'.getD i 0 = bytes.getD i 0) :
    coapTcpGetPacketSize bytes' = coapTcpGetPacketSize bytes := by
  have hfirst : bytes'.getD 0 0 = bytes.getD 0 0 := h 0 (by unfold headerLength; omega)
  unfold coapTcpGetPacketSize
  obtain ⟨hshort, hlt⟩ | ⟨n, base, -, hlong, hall⟩ := parseMessageLength_cases bytes
  · have hshort' : coapTcpParseMessageLength bytes' = (((0xF0 &&& bytes.getD 0 0) >>> 4).toNat, 0) := by
      unfold coapTcpParseMessageLength
      simp only [hfirst, if_pos hlt]
    rw [hshort, hshort', hfirst]
  · have hheader : headerLength bytes = 1 + n := by rw [headerLength, hlong]
    rw [hlong, hall bytes' hfirst, hfirst, extendedValue_congr fun i hi => h (i + 1) (by omega)]

theorem packetSize_ne {bytes bytes' : OcString} {n : Nat} (hn : headerLength bytes = n + 1) (hpos : n ≠ 0)
    (h : ∀ i < n, bytes'.getD i 0 = bytes.getD i 0) (hne : bytes'.getD n 0 ≠ bytes.getD n 0) :
    coapTcpGetPacketSize bytes' ≠ coapTcpGetPacketSize bytes := by
  have hfirst : bytes'.getD 0 0 = bytes.getD 0 0 := h 0 (by omega)
  obtain ⟨hshort, -⟩ | ⟨m, base, hm, hlong, hall⟩ := parseMessageLength_cases bytes
  · rw [headerLength, hshort] at hn
    omega
  · obtain rfl : m = n := by
      rw [headerLength, hlong] at hn
      omega
    obtain ⟨high, hhigh⟩ := extendedValue_last hm bytes
    unfold coapTcpGetPacketSize
    rw [hlong, hall bytes' hfirst, hfirst, hhigh bytes' h, hhigh bytes fun _ _ => rfl]
    intro heq
    refine hne (UInt8.toNat_inj.1 ?_)
    simp only at heq
    omega

theorem headerLength_lt {m : OcString} (hm : IsTcpMessage m) : headerLength m < m.length := by
  have hsize : coapTcpGetPacketSize m =
    2 + (coapTcpParseMessageLength m).2 + (0x0F &&& m.getD 0 0).toNat + (coapTcpParseMessageLength m).1 := rfl
  rw [← show coapTcpGetPacketSize m = m.length from hm, hsize]
  unfold headerLength
  omega

/-! ## The first `recv` of a call -/

section First

variable {data stream : OcString} {count i : Nat}

theorem firstBuffer_read (hcount : count ≤ stream.length) (hi : i < count) :
    (firstBuffer data stream count).getD i 0 = stream.getD i 0 := by
  have htaken : (stream.take count).length = count := List.length_take_of_le hcount
  unfold firstBuffer Memory.write
  rw [List.take_zero, List.nil_append, List.getD_append _ _ _ _ (by omega), List.getD_eq_getElem?_getD,
    List.getElem?_take_of_lt hi, ← List.getD_eq_getElem?_getD]

theorem firstBuffer_stale (hcount : count ≤ stream.length) (hi : count ≤ i) :
    (firstBuffer data stream count).getD i 0 = data.getD i 0 := by
  have htaken : (stream.take count).length = count := List.length_take_of_le hcount
  unfold firstBuffer Memory.write
  rw [List.take_zero, List.nil_append, List.getD_append_right _ _ _ _ (by omega), htaken, Nat.zero_add,
    List.getD_eq_getElem?_getD, List.getElem?_drop, Nat.add_sub_cancel' hi, ← List.getD_eq_getElem?_getD]

end First

theorem flatten_getD {m : OcString} {rest : List OcString} {i : Nat} (hi : i < m.length) :
    (m :: rest).flatten.getD i 0 = m.getD i 0 := by
  rw [List.flatten_cons, List.getD_append _ _ _ _ hi]

variable (ready)

/-- How many bytes the first `recv` of a call brings. -/
def firstRead (stream : OcString) : Nat := recvCount ready defaultReceiveSize stream

/-- The first `recv` of every call brings the header of its message and no byte of the next message. -/
def FirstReads : List OcString → Prop
  | [] => True
  | m :: rest =>
    headerLength m ≤ firstRead ready (m :: rest).flatten ∧ firstRead ready (m :: rest).flatten ≤ m.length ∧
      FirstReads rest

/-- Whatever the buffers held, successive calls deliver just these messages. -/
def Reassembles (maxAppDataSize : Nat) (ms : List OcString) : Prop :=
  ∀ buffers : List OcString, buffers.length = ms.length → (∀ data ∈ buffers, data.length = tcpPduSize maxAppDataSize) →
    tcpReceiveAll maxAppDataSize ready buffers ms.flatten = ms

variable {ready}

section Call

variable {m : OcString} {rest : List OcString} {data : OcString}

/-- The call delivers the first message if the first `recv` and the length it makes out come to just its bytes. -/
theorem tcpReceiveAll_cons (hmax : tcpPduSize maxAppDataSize < 2 ^ 64) (hm : IsTcpMessage m)
    (hfits : m.length ≤ tcpPduSize maxAppDataSize) (hdata : data.length = tcpPduSize maxAppDataSize)
    (buffers : List OcString) :
    tcpReceiveAll maxAppDataSize ready (data :: buffers) (m :: rest).flatten = m :: rest ↔
      max (firstRead ready (m :: rest).flatten)
          (coapTcpGetPacketSize (firstBuffer data (m :: rest).flatten (firstRead ready (m :: rest).flatten))) = m.length ∧
        tcpReceiveAll maxAppDataSize ready buffers rest.flatten = rest := by
  have hpos : 0 < m.length := Nat.zero_lt_of_lt (headerLength_lt hm)
  have hlength : (m :: rest).flatten.length = m.length + rest.flatten.length := by
    rw [List.flatten_cons, List.length_append]
  have hs : (m :: rest).flatten ≠ [] := List.length_pos_iff.1 (by omega)
  have hcall := @ocTcpReceiveMessage_eq maxAppDataSize ready hmax data _ hs hdata
  dsimp only at hcall
  unfold firstRead
  rw [tcpReceiveAll, hcall]
  generalize recvCount ready defaultReceiveSize (m :: rest).flatten = count
  generalize coapTcpGetPacketSize (firstBuffer data (m :: rest).flatten count) = total
  by_cases hrefused : total > tcpPduSize maxAppDataSize
  · rw [if_pos hrefused]
    exact iff_of_false (fun h => nomatch h) (fun h => by omega)
  · rw [if_neg hrefused]
    by_cases hall : max count total ≤ (m :: rest).flatten.length
    · rw [if_pos hall]
      show (m :: rest).flatten.take (max count total) :: _ = m :: rest ↔ _
      rw [List.cons.injEq]
      constructor
      · rintro ⟨htake, hrest⟩
        have hmax : max count total = m.length := by
          rw [← congrArg List.length htake, List.length_take_of_le hall]
        rw [hmax, List.flatten_cons, List.drop_left] at hrest
        exact ⟨hmax, hrest⟩
      · rintro ⟨hmax, hrest⟩
        rw [hmax, List.flatten_cons, List.take_left, List.drop_left]
        exact ⟨rfl, hrest⟩
    · rw [if_neg hall]
      exact iff_of_false (fun h => nomatch h) (fun h => by omega)

theorem packetSize_whole (hm : IsTcpMessage m) (hheader : headerLength m ≤ firstRead ready (m :: rest).flatten)
    (hnext : firstRead ready (m :: rest).flatten ≤ m.length) :
    coapTcpGetPacketSize (firstBuffer data (m :: rest).flatten (firstRead ready (m :: rest).flatten)) = m.length := by
  have havail : firstRead ready (m :: rest).flatten ≤ _ := (recvCount_le ready defaultReceiveSize (m :: rest).flatten).2
  rw [← show coapTcpGetPacketSize m = m.length from hm]
  refine packetSize_congr fun i hi => ?_
  rw [firstBuffer_read havail (by omega), flatten_getD (by omega)]

/-- A buffer that held nearly the same message: its header ends in another byte. -/
def staleBuffer (maxAppDataSize : Nat) (m : OcString) (n : Nat) : OcString :=
  m.set n (m.getD n 0 + 1) ++ List.replicate (tcpPduSize maxAppDataSize - m.length) 0

theorem length_staleBuffer (hfits : m.length ≤ tcpPduSize maxAppDataSize) (n : Nat) :
    (staleBuffer maxAppDataSize m n).length = tcpPduSize maxAppDataSize := by
  rw [staleBuffer, List.length_append, List.length_set, List.length_replicate]
  omega

theorem staleBuffer_getD {n i : Nat} (hi : i < m.length) :
    (staleBuffer maxAppDataSize m n).getD i 0 = if i = n then m.getD n 0 + 1 else m.getD i 0 := by
  rw [staleBuffer, List.getD_append _ _ _ _ (by rwa [List.length_set])]
  by_cases hn : i = n
  · rw [if_pos hn, hn, List.getD_eq_getElem?_getD, List.getElem?_set_self (by omega), Option.getD_some]
  · rw [if_neg hn, List.getD_eq_getElem?_getD, List.getElem?_set_ne (Ne.symm hn), ← List.getD_eq_getElem?_getD]

theorem packetSize_stale (hm : IsTcpMessage m) (hpart : firstRead ready (m :: rest).flatten < headerLength m) :
    coapTcpGetPacketSize (firstBuffer (staleBuffer maxAppDataSize m (headerLength m - 1)) (m :: rest).flatten
      (firstRead ready (m :: rest).flatten)) ≠ m.length := by
  have hlt := headerLength_lt hm
  have hlength : (m :: rest).flatten.length = m.length + rest.flatten.length := by
    rw [List.flatten_cons, List.length_append]
  have hpos : firstRead ready (m :: rest).flatten ≠ 0 :=
    recvCount_pos ready (by decide) (List.length_pos_iff.1 (by omega))
  have havail : firstRead ready (m :: rest).flatten ≤ _ := (recvCount_le ready defaultReceiveSize (m :: rest).flatten).2
  rw [← show coapTcpGetPacketSize m = m.length from hm]
  generalize firstRead ready (m :: rest).flatten = count at hpart hpos havail ⊢
  refine packetSize_ne (n := headerLength m - 1) (by omega) (by omega) (fun i hi => ?_) ?_
  · by_cases hread : i < count
    · rw [firstBuffer_read havail hread, flatten_getD (by omega)]
    · rw [firstBuffer_stale havail (by omega), staleBuffer_getD (by omega), if_neg (by omega)]
  · rw [firstBuffer_stale havail (by omega), staleBuffer_getD (by omega), if_pos rfl]
    intro heq
    have hone := UInt8.toNat_inj.2 heq
    rw [UInt8.toNat_add, UInt8.toNat_one] at hone
    omega

theorem reassembles_cons (hmax : tcpPduSize maxAppDataSize < 2 ^ 64) (hm : IsTcpMessage m)
    (hfits : m.length ≤ tcpPduSize maxAppDataSize) :
    Reassembles ready maxAppDataSize (m :: rest) ↔
      (headerLength m ≤ firstRead ready (m :: rest).flatten ∧ firstRead ready (m :: rest).flatten ≤ m.length) ∧
        Reassembles ready maxAppDataSize rest := by
  constructor
  · intro h
    have hdata := length_staleBuffer hfits (headerLength m - 1)
    have hcall := fun buffers (hcount : buffers.length = rest.length) hbuffers =>
      (tcpReceiveAll_cons hmax hm hfits hdata buffers).1 (h (_ :: buffers) (congrArg (· + 1) hcount)
        (List.forall_mem_cons.2 ⟨hdata, hbuffers⟩))
    have hstale := (hcall (List.replicate rest.length (staleBuffer maxAppDataSize m (headerLength m - 1)))
      List.length_replicate fun b hb => by rw [List.eq_of_mem_replicate hb, hdata]).1
    have hlt := headerLength_lt hm
    refine ⟨⟨Nat.le_of_not_lt fun hpart => ?_, (Nat.le_max_left _ _).trans hstale.le⟩, fun buffers hcount hbuffers => ?_⟩
    · refine packetSize_stale hm hpart (Nat.le_antisymm ((Nat.le_max_right _ _).trans hstale.le) ?_)
      omega
    · exact (hcall buffers hcount hbuffers).2
  · rintro ⟨⟨hheader, hnext⟩, hrest⟩ buffers hcount hbuffers
    obtain _ | ⟨data, buffers⟩ := buffers
    · exact nomatch hcount
    · obtain ⟨hdata, hbuffers⟩ := List.forall_mem_cons.1 hbuffers
      refine (tcpReceiveAll_cons hmax hm hfits hdata buffers).2 ⟨?_, hrest buffers (Nat.succ.inj hcount) hbuffers⟩
      rw [packetSize_whole hm hheader hnext, Nat.max_eq_right hnext]

end Call

/-- The messages of a stream are delivered one by one, just if no first `recv` stops inside a header or runs into the
next message. -/
theorem reassembles_iff {maxAppDataSize : Nat} (hmax : tcpPduSize maxAppDataSize < 2 ^ 64) {ready : Nat → Nat}
    {ms : List OcString} (hms : ∀ m ∈ ms, IsTcpMessage m ∧ m.length ≤ tcpPduSize maxAppDataSize) :
    Reassembles ready maxAppDataSize ms ↔ FirstReads ready ms := by
  induction ms with
  | nil =>
    refine iff_of_true (fun buffers hcount _ => ?_) trivial
    rw [List.length_eq_zero_iff.1 hcount]
    rfl
  | cons m rest ih =>
    obtain ⟨⟨hm, hfits⟩, hrest⟩ := List.forall_mem_cons.1 hms
    rw [reassembles_cons hmax hm hfits, ih hrest, and_assoc]
    exact Iff.rfl

/-- A `7.02` with a token of three bytes comes in two parts, a GET behind it and a `7.03` come whole: all of them are
delivered. -/
theorem reassembles_iff_signals :
    let ms : List OcString := [[0x03, 0xE2, 1, 2, 3], [0x21, 0x01, 7, 0xB1, 0x61], [0x03, 0xE3, 1, 2, 3]]
    let ready := fun n => min n (if n = 15 then 3 else 5)
    (Reassembles ready 8192 ms ↔ FirstReads ready ms) ∧ FirstReads ready ms := by
  intro ms ready
  refine ⟨reassembles_iff (by decide) (by decide), by decide, by decide, by decide, by decide, by decide, by decide, trivial⟩

/-- Two empty messages that arrive together are delivered as one. -/
theorem reassembles_merged :
    (∀ m ∈ ([[0, 0xE2], [0, 0xE3]] : List OcString), IsTcpMessage m ∧ m.length ≤ tcpPduSize 8192) ∧
      ¬Reassembles (fun n => n) 8192 [[0, 0xE2], [0, 0xE3]] := by
  have hms : ∀ m ∈ ([[0, 0xE2], [0, 0xE3]] : List OcString), IsTcpMessage m ∧ m.length ≤ tcpPduSize 8192 := by
    decide
  refine ⟨hms, fun h => ?_⟩
  have hbuffers := h (List.replicate 2 (List.replicate (tcpPduSize 8192) 0)) rfl fun b hb => by
    rw [List.eq_of_mem_replicate hb, List.length_replicate]
  have hcall := (tcpReceiveAll_cons (by decide) (hms _ (List.mem_cons_self)).1 (by decide) List.length_replicate _).1 hbuffers
  exact absurd ((Nat.le_max_left _ _).trans hcall.1.le) (by decide)

end Reassembly

end SmartGarage
