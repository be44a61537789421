/-
`coap_udp_parse_message` over memory: which bytes it reads and writes, and where the pointers it leaves in the
packet point to. A datagram is followed by whatever lies behind it in the buffer, and the parser looks at the
extension bytes of an option before it compares the option with the end of the datagram.
-/
import SmartGarage.Messaging.CoapGrammar

namespace SmartGarage

/-! ## The code -/

/-- The bytes from the first one of a datagram on, those behind its end included. -/
abbrev DataMemory := Nat → UInt8

/-- The bytes at an index. -/
def DataMemory.bytes (mem : DataMemory) (start length : Nat) : OcString := (List.range length).map fun i => mem (start + i)

/-- A pointer and a length in the packet, the pointer as an index from the start of the datagram. -/
structure DataRange where
  start : Nat
  length : Nat
deriving DecidableEq

/-- What the parser has read and written, and the ranges the packet holds: the token as it is copied, and the strings
it points to. -/
structure Footprint where
  reads : List Nat
  writes : List DataRange
  token : DataRange
  uriPath : DataRange
  uriQuery : DataRange
  altAddr : DataRange
  payload : DataRange

/-- Nothing is read yet, and every pointer is NULL with the length 0. -/
def Footprint.none : Footprint := ⟨[], [], ⟨0, 0⟩, ⟨0, 0⟩, ⟨0, 0⟩, ⟨0, 0⟩, ⟨0, 0⟩⟩

/-- `length` bytes have been read. -/
def Footprint.read (f : Footprint) (start length : Nat) : Footprint :=
  { f with reads := f.reads ++ (List.range length).map (start + ·) }

/-- `coap_merge_multi_option`: the separator and the option are moved behind what is there. -/
def DataRange.merge (r : DataRange) (start length : Nat) : DataRange :=
  if r.length > 0 then ⟨r.start, r.length + 1 + length⟩ else ⟨start, length⟩

/-- What this writes. -/
def DataRange.mergeWrites (r : DataRange) (length : Nat) : List DataRange :=
  if r.length > 0 then [⟨r.start + r.length, 1 + length⟩] else []

/-- What `coap_parse_signal_options` reads of a value and points to. -/
def signalFootprint (code : UInt8) (number start length : Nat) (f : Footprint) : Footprint :=
  if code = csm701 then if number = coapSignalOptionMaxMsgSize then f.read start length else f
  else if code = release704 then
    if number = coapSignalOptionAltAddr then { f with altAddr := ⟨start, length⟩ }
    else if number = coapSignalOptionHoldOff then f.read start length
    else f
  else if code = abort705 then if number = coapSignalOptionBadCsm then f.read start length else f
  else f

/-- The options whose value is read with `coap_parse_int_option`. -/
def intOptions : List Nat :=
  [coapOptionContentFormat, coapOptionMaxAge, coapOptionAccept, coapOptionUriPort, coapOptionObserve, coapOptionBlock2,
    coapOptionBlock1, coapOptionSize2, coapOptionSize1, ocfOptionContentFormatVer, ocfOptionAcceptContentFormatVer]

/-- What the `switch` of `coap_parse_token_option` reads of a value, writes and points to. -/
def requestFootprint (number start length : Nat) (f : Footprint) : Footprint :=
  if number ∈ intOptions then f.read start length
  else if number = coapOptionEtag then f.read start (min coapEtagLen length)
  else if number = coapOptionUriPath then
    { f.read start (if f.uriPath.length > 0 then length else 0) with
      uriPath := f.uriPath.merge start length, writes := f.writes ++ f.uriPath.mergeWrites length }
  else if number = coapOptionUriQuery then
    { f.read start (if f.uriQuery.length > 0 then length else 0) with
      uriQuery := f.uriQuery.merge start length, writes := f.writes ++ f.uriQuery.mergeWrites length }
  else f

/-- What parsing one option reads of its value and points to. -/
def optionFootprint (p : CoapPacket) (number start length : Nat) (f : Footprint) : Footprint :=
  if coapCheckSignalMessage p then signalFootprint p.code number start length f
  else requestFootprint number start length f

/-- The payload behind its marker, over UDP at most a block. -/
def payloadRange (B : BufferSettings) (p : CoapPacket) (start length : Nat) : DataRange :=
  ⟨start, if p.transportType = .udp ∧ length > B.blockSize then B.blockSize else length⟩

/-- The loop of `coap_parse_token_option` with the current option at the index `pos`. What it writes before lies in
front of that (`Footprint.Upto`), so that the memory it reads from is the one the datagram has come in. -/
def parseOptionsAt (B : BufferSettings) (mem : DataMemory) (len : Nat) :
    Nat → CoapPacket → Nat → Nat → Footprint → UInt8 × CoapPacket × Footprint
  | 0, p, _, _, f => (coapNoError, p, f)
  | rounds + 1, p, number, pos, f =>
    if len ≤ pos then (coapNoError, p, f)
    else
      let b := mem pos
      let f := f.read pos 1
      if b &&& 0xF0 = 0xF0 then
        let payload := payloadRange B p (pos + 1) (len - (pos + 1))
        (coapNoError, { p with payload := mem.bytes payload.start payload.length },
          -- the payload is terminated
          { f with payload := payload, writes := f.writes ++ [⟨payload.start + payload.length, 1⟩] })
      else
        let (delta, n) := readExtended (b >>> 4) (mem.bytes (pos + 1) 2)
        let (length, k) := readExtended (b &&& 0x0F) (mem.bytes (pos + 1 + n) 2)
        let f := f.read (pos + 1) (n + k)
        let number := (number + delta) % 2 ^ 32
        let start := pos + 1 + n + k
        if start + length > len then (badOption402, if number ≤ coapOptionSize1 then p.setOption number else p, f)
        else
          let f := optionFootprint p number start length f
          match parseOption p number (mem.bytes start length) with
          | .error code => (code, if number ≤ coapOptionSize1 then p.setOption number else p, f)
          | .ok p => parseOptionsAt B mem len rounds p number (start + length) f

/-- `coap_parse_token_option`, with the token at the index `start`. -/
def coapParseTokenOptionAt (B : BufferSettings) (mem : DataMemory) (len : Nat) (p : CoapPacket) (tokenLen start : Nat)
    (f : Footprint) : UInt8 × CoapPacket × Footprint :=
  parseOptionsAt B mem len (len - start) { p with token := mem.bytes start tokenLen } 0 (start + tokenLen)
    { f.read start tokenLen with token := ⟨start, tokenLen⟩ }

/-- `coap_udp_parse_message` on the first `len` bytes. -/
def coapUdpParseMessageAt (B : BufferSettings) (mem : DataMemory) (len : Nat) : UInt8 × CoapPacket × Footprint :=
  let f := Footprint.none.read 0 coapHeaderLen
  let b := mem 0
  let version := (0xC0 &&& b) >>> 6
  let tokenLen := (0x0F &&& b).toNat
  let p := { CoapPacket.zero with
    transportType := .udp
    version := version
    type := .ofCode ((0x30 &&& b) >>> 4)
    code := mem 1
    mid := ((mem 2).toUInt16 <<< 8) ||| (mem 3).toUInt16
    token := List.replicate tokenLen 0 }
  if version ≠ 1 then (badRequest400, p, f)
  else if tokenLen > coapTokenLen then (badRequest400, p, f)
  else coapParseTokenOptionAt B mem len p tokenLen coapHeaderLen f

/-! ## Staying inside the datagram -/

/-- Only bytes of a datagram of `n` bytes have been read, and the ranges lie in it. -/
structure Footprint.Inside (f : Footprint) (n : Nat) : Prop where
  reads : ∀ i ∈ f.reads, i < n
  ranges : ∀ r ∈ [f.token, f.uriPath, f.uriQuery, f.altAddr, f.payload], r.start + r.length ≤ n

/-- Only bytes of the datagram have been read, and the ranges and what has been written end before the index `pos`. -/
structure Footprint.Upto (f : Footprint) (n pos : Nat) : Prop where
  reads : ∀ i ∈ f.reads, i < n
  writes : ∀ w ∈ f.writes, w.start + w.length ≤ pos
  token : f.token.start + f.token.length ≤ pos
  uriPath : f.uriPath.start + f.uriPath.length ≤ pos
  uriQuery : f.uriQuery.start + f.uriQuery.length ≤ pos
  altAddr : f.altAddr.start + f.altAddr.length ≤ pos
  payload : f.payload.start + f.payload.length ≤ pos

section

variable {f : Footprint} {n pos pos' start length : Nat}

theorem Footprint.Upto.mono (h : f.Upto n pos) (hle : pos ≤ pos') : f.Upto n pos' :=
  ⟨h.reads, fun w hw => (h.writes w hw).trans hle, h.token.trans hle, h.uriPath.trans hle, h.uriQuery.trans hle,
    h.altAddr.trans hle, h.payload.trans hle⟩

theorem Footprint.Upto.inside (h : f.Upto n pos) (hle : pos ≤ n) : f.Inside n := by
  obtain ⟨-, -, h₁, h₂, h₃, h₄, h₅⟩ := h.mono hle
  refine ⟨h.reads, fun r hr => ?_⟩
  simp only [List.mem_cons, List.not_mem_nil, or_false] at hr
  rcases hr with rfl | rfl | rfl | rfl | rfl <;> assumption

theorem Footprint.mem_read {i : Nat} : i ∈ (f.read start length).reads ↔ i ∈ f.reads ∨ start ≤ i ∧ i < start + length := by
  simp only [Footprint.read, List.mem_append, List.mem_map, List.mem_range]
  refine or_congr_right ⟨?_, fun ⟨hle, hlt⟩ => ⟨i - start, by omega, by omega⟩⟩
  rintro ⟨j, hj, rfl⟩
  omega

theorem Footprint.Upto.read (h : f.Upto n pos) (hle : start + length ≤ n) : (f.read start length).Upto n pos := by
  refine ⟨fun i hi => ?_, h.writes, h.token, h.uriPath, h.uriQuery, h.altAddr, h.payload⟩
  rcases Footprint.mem_read.1 hi with hi | hi
  · exact h.reads i hi
  · omega

theorem Footprint.Upto.signal (h : f.Upto n pos) (code : UInt8) (number : Nat) (hpos : pos ≤ start)
    (hle : start + length ≤ n) : (signalFootprint code number start length f).Upto n (start + length) := by
  have hkeep : f.Upto n (start + length) := h.mono (by omega)
  have hread : (f.read start length).Upto n (start + length) := hkeep.read hle
  unfold signalFootprint
  split
  · split
    · exact hread
    · exact hkeep
  · split
    · split
      · exact ⟨hkeep.reads, hkeep.writes, hkeep.token, hkeep.uriPath, hkeep.uriQuery, Nat.le_refl _, hkeep.payload⟩
      · split
        · exact hread
        · exact hkeep
    · split
      · split
        · exact hread
        · exact hkeep
      · exact hkeep

/-- A merged string ends with the option that has been added, since at least the option's header lies between. -/
theorem DataRange.merge_le {r : DataRange} (h : r.start + r.length ≤ pos) (hpos : pos < start) :
    (r.merge start length).start + (r.merge start length).length ≤ start + length := by
  unfold DataRange.merge
  split
  · simp only
    omega
  · exact Nat.le_refl _

/-- What a merge writes ends with the option. -/
theorem DataRange.mergeWrites_le {r : DataRange} (h : r.start + r.length ≤ pos) (hpos : pos < start) :
    ∀ w ∈ r.mergeWrites length, w.start + w.length ≤ start + length := by
  intro w hw
  unfold DataRange.mergeWrites at hw
  split at hw
  · rw [List.mem_singleton.1 hw]
    simp only
    omega
  · cases hw

theorem Footprint.Upto.request (h : f.Upto n pos) (number : Nat) (hpos : pos < start) (hle : start + length ≤ n) :
    (requestFootprint number start length f).Upto n (start + length) := by
  have hkeep : f.Upto n (start + length) := h.mono (by omega)
  have hread (l : Nat) (hl : l ≤ length) : (f.read start l).Upto n (start + length) := hkeep.read (by omega)
  have hsome (c : Prop) [Decidable c] : (if c then length else 0) ≤ length := by split <;> omega
  have hwrites {r : DataRange} (hr : r.start + r.length ≤ pos) :
      ∀ w ∈ f.writes ++ r.mergeWrites length, w.start + w.length ≤ start + length := fun w hw =>
    (List.mem_append.1 hw).elim (hkeep.writes w) (DataRange.mergeWrites_le hr hpos w)
  unfold requestFootprint
  split
  · exact hread length (Nat.le_refl _)
  · split
    · exact hread _ (Nat.min_le_right _ _)
    · split
      · have hr := hread _ (hsome (f.uriPath.length > 0))
        exact ⟨hr.reads, hwrites h.uriPath, hr.token, DataRange.merge_le h.uriPath hpos, hr.uriQuery, hr.altAddr,
          hr.payload⟩
      · split
        · have hr := hread _ (hsome (f.uriQuery.length > 0))
          exact ⟨hr.reads, hwrites h.uriQuery, hr.token, hr.uriPath, DataRange.merge_le h.uriQuery hpos, hr.altAddr,
            hr.payload⟩
        · exact hkeep

theorem Footprint.Upto.option (h : f.Upto n pos) (p : CoapPacket) (number : Nat) (hpos : pos < start)
    (hle : start + length ≤ n) : (optionFootprint p number start length f).Upto n (start + length) := by
  unfold optionFootprint
  split
  · exact h.signal p.code number (Nat.le_of_lt hpos) hle
  · exact h.request number hpos hle

end

/-! ## The condition -/

/-- The number of extension bytes behind a nibble. -/
def extensionLength (nibble : UInt8) : Nat := if nibble = 13 then 1 else if nibble = 14 then 2 else 0

/-- The message ends in the middle of the extension bytes of an option. -/
def CutOff : OcString → Prop
  | [] => False
  | b :: rest => b &&& 0xF0 ≠ 0xF0 ∧ rest.length < extensionLength (b >>> 4) + extensionLength (b &&& 0x0F)

theorem readExtended_length (nibble : UInt8) (rest : OcString) : (readExtended nibble rest).2 = extensionLength nibble := by
  unfold readExtended extensionLength
  split
  · rfl
  · split <;> rfl

theorem readExtended_congr {nibble : UInt8} {a b : OcString} (h : ∀ i < extensionLength nibble, a.getD i 0 = b.getD i 0) :
    readExtended nibble a = readExtended nibble b := by
  unfold readExtended
  unfold extensionLength at h
  split
  · rename_i h13
    rw [if_pos h13] at h
    rw [h 0 (by omega)]
  · split
    · rename_i h13 h14
      rw [if_neg h13, if_pos h14] at h
      rw [h 0 (by omega), h 1 (by omega)]
    · rfl

/-- The memory begins with a datagram. -/
def DataMemory.Holds (mem : DataMemory) (data : OcString) : Prop := ∀ i < data.length, mem i = data.getD i 0

theorem DataMemory.bytes_getD (mem : DataMemory) {start length i : Nat} (hi : i < length) :
    (mem.bytes start length).getD i 0 = mem (start + i) := by
  simp [DataMemory.bytes, hi]

theorem DataMemory.Holds.bytes {mem : DataMemory} {data : OcString} (h : mem.Holds data) {start length : Nat}
    (hle : start + length ≤ data.length) : mem.bytes start length = (data.drop start).take length := by
  refine List.ext_getElem ?_ fun i h₁ h₂ => ?_
  · simp only [DataMemory.bytes, List.length_map, List.length_range, List.length_take, List.length_drop]
    omega
  · have hi : i < length := by simpa [DataMemory.bytes] using h₁
    have hget : data.getD (start + i) 0 = data[start + i] := by
      rw [List.getD_eq_getElem?_getD, List.getElem?_eq_getElem (by omega), Option.getD_some]
    simp only [DataMemory.bytes, List.getElem_map, List.getElem_range, List.getElem_take, List.getElem_drop]
    rw [h _ (by omega), hget]

theorem extensionLength_le (nibble : UInt8) : extensionLength nibble ≤ 2 := by
  unfold extensionLength
  split
  · omega
  · split <;> omega

theorem DataMemory.Holds.readExtended {mem : DataMemory} {data : OcString} (h : mem.Holds data) {nibble : UInt8}
    {start : Nat} (hle : start + extensionLength nibble ≤ data.length) :
    SmartGarage.readExtended nibble (mem.bytes start 2) = SmartGarage.readExtended nibble (data.drop start) := by
  refine readExtended_congr fun i hi => ?_
  have hi2 := extensionLength_le nibble
  rw [mem.bytes_getD (by omega), h _ (by omega), List.getD_eq_getElem?_getD, List.getD_eq_getElem?_getD,
    List.getElem?_drop]

/-- What has been read stays read. -/
theorem optionFootprint_reads (p : CoapPacket) (number start length : Nat) (f : Footprint) :
    f.reads ⊆ (optionFootprint p number start length f).reads := by
  have hread (l : Nat) : f.reads ⊆ (f.read start l).reads := fun i hi => Footprint.mem_read.2 (.inl hi)
  unfold optionFootprint signalFootprint requestFootprint
  repeat' split
  all_goals first | exact List.Subset.refl _ | exact hread _

theorem parseOptionsAt_reads (B : BufferSettings) (mem : DataMemory) (len : Nat) :
    ∀ (rounds : Nat) (p : CoapPacket) (number pos : Nat) (f : Footprint),
      f.reads ⊆ (parseOptionsAt B mem len rounds p number pos f).2.2.reads
  | 0, _, _, _, f => List.Subset.refl _
  | rounds + 1, p, number, pos, f => by
    have hread (g : Footprint) (start l : Nat) : g.reads ⊆ (g.read start l).reads :=
      fun i hi => Footprint.mem_read.2 (.inl hi)
    rw [parseOptionsAt]
    split
    · exact List.Subset.refl _
    · dsimp only
      split
      · exact hread f pos 1
      · split
        · exact List.Subset.trans (hread f pos 1) (hread _ _ _)
        · have hoption (number start length m l : Nat) :
              f.reads ⊆ (optionFootprint p number start length ((f.read pos 1).read m l)).reads :=
            List.Subset.trans (hread f pos 1) (List.Subset.trans (hread _ m l) (optionFootprint_reads p _ _ _ _))
          split
          · exact hoption _ _ _ _ _
          · exact List.Subset.trans (hoption _ _ _ _ _) (parseOptionsAt_reads B mem len rounds _ _ _ _)

/-- The loop stays inside the datagram iff it does not come to an option whose extension bytes are cut off. -/
theorem parseOptionsAt_inside_iff (B : BufferSettings) {mem : DataMemory} {data : OcString} (hmem : mem.Holds data) :
    ∀ (rounds : Nat) (p : CoapPacket) (number pos : Nat) (f : Footprint), pos ≤ data.length →
      data.length - pos ≤ rounds → f.Upto data.length pos →
      ((parseOptionsAt B mem data.length rounds p number pos f).2.2.Inside data.length ↔
        ((∃ q, parseAll p (rawValues (splitOptions rounds number (data.drop pos)).1) = .ok q) →
          ¬ CutOff (splitOptions rounds number (data.drop pos)).2))
  | 0, p, number, pos, f, hpos, hrounds, hf => by
    have hnil : data.drop pos = [] := List.drop_eq_nil_of_le (by omega)
    rw [hnil]
    exact ⟨fun _ _ h => h, fun _ => hf.inside hpos⟩
  | rounds + 1, p, number, pos, f, hpos, hrounds, hf => by
    rw [parseOptionsAt]
    by_cases hend : data.length ≤ pos
    · have hnil : data.drop pos = [] := List.drop_eq_nil_of_le hend
      rw [if_pos hend, hnil]
      exact ⟨fun _ _ h => h, fun _ => hf.inside hpos⟩
    · have hlt : pos < data.length := by omega
      have hdrop : data.drop pos = mem pos :: data.drop (pos + 1) := by
        rw [List.drop_eq_getElem_cons hlt, hmem pos hlt, List.getD_eq_getElem?_getD, List.getElem?_eq_getElem hlt,
          Option.getD_some]
      have hf₁ : (f.read pos 1).Upto data.length pos := hf.read (by omega)
      rw [if_neg hend, hdrop, splitOptions]
      generalize mem pos = b
      by_cases hmarker : b &&& 0xF0 = 0xF0
      · -- the payload: at a marker nothing is cut off
        dsimp only
        rw [if_pos hmarker, if_pos hmarker]
        refine ⟨fun _ _ h => h.1 hmarker, fun _ => ?_⟩
        have hpayload : (payloadRange B p (pos + 1) (data.length - (pos + 1))).start +
            (payloadRange B p (pos + 1) (data.length - (pos + 1))).length ≤ data.length := by
          unfold payloadRange
          dsimp only
          split <;> omega
        have hf₂ := hf₁.mono hpos
        refine ⟨hf₂.reads, fun r hr => ?_⟩
        simp only [List.mem_cons, List.not_mem_nil, or_false] at hr
        rcases hr with rfl | rfl | rfl | rfl | rfl
        · exact hf₂.token
        · exact hf₂.uriPath
        · exact hf₂.uriQuery
        · exact hf₂.altAddr
        · exact hpayload
      · -- an option: memory and list give extension bytes of the same lengths `n` and `k`
        rw [if_neg hmarker, if_neg hmarker]
        have hn₁ := readExtended_length (b >>> 4) (mem.bytes (pos + 1) 2)
        have hn₂ := readExtended_length (b >>> 4) (data.drop (pos + 1))
        generalize hx : readExtended (b >>> 4) (mem.bytes (pos + 1) 2) = x at hn₁
        generalize hx' : readExtended (b >>> 4) (data.drop (pos + 1)) = x' at hn₂
        obtain ⟨delta, n⟩ := x
        obtain ⟨delta', n'⟩ := x'
        simp only at hn₁ hn₂ ⊢
        subst hn₁ hn₂
        generalize hhigh : extensionLength (b >>> 4) = n at hx hx' ⊢
        have hk₁ := readExtended_length (b &&& 0x0F) (mem.bytes (pos + 1 + n) 2)
        have hk₂ := readExtended_length (b &&& 0x0F) ((data.drop (pos + 1)).drop n)
        generalize hy : readExtended (b &&& 0x0F) (mem.bytes (pos + 1 + n) 2) = y at hk₁
        generalize hy' : readExtended (b &&& 0x0F) ((data.drop (pos + 1)).drop n) = y' at hk₂
        obtain ⟨length, k⟩ := y
        obtain ⟨length', k'⟩ := y'
        simp only at hk₁ hk₂ ⊢
        subst hk₁ hk₂
        generalize hlow : extensionLength (b &&& 0x0F) = k at hy hy' ⊢
        have hrest : (data.drop (pos + 1)).length = data.length - (pos + 1) := List.length_drop
        by_cases hcut : (data.drop (pos + 1)).length < n + k
        · -- cut off: the byte behind the datagram has been read, whatever the loop does then
          rw [if_pos (by omega : n + k + length' > (data.drop (pos + 1)).length)]
          have hbad : data.length ∈ ((f.read pos 1).read (pos + 1) (n + k)).reads :=
            Footprint.mem_read.2 (.inr (by omega))
          constructor
          · intro h
            refine absurd (h.reads data.length ?_) (by omega)
            split
            · exact hbad
            · have hoption := optionFootprint_reads p ((number + delta) % 2 ^ 32) (pos + 1 + n + k) length _ hbad
              split
              · exact hoption
              · exact parseOptionsAt_reads B mem data.length rounds _ _ _ _ hoption
          · exact fun h => absurd ⟨hmarker, by rw [hhigh, hlow]; exact hcut⟩ (h ⟨p, rfl⟩)
        · -- all extension bytes are there, so that delta and length are those of the list
          have hdelta : delta = delta' := by
            have heq : readExtended (b >>> 4) (mem.bytes (pos + 1) 2) = readExtended (b >>> 4) (data.drop (pos + 1)) :=
              hmem.readExtended (by rw [hhigh]; omega)
            rw [hx, hx', Prod.mk.injEq] at heq
            exact heq.1
          have hlength : length = length' := by
            have heq : readExtended (b &&& 0x0F) (mem.bytes (pos + 1 + n) 2) =
                readExtended (b &&& 0x0F) (data.drop (pos + 1 + n)) := hmem.readExtended (by rw [hlow]; omega)
            rw [List.drop_drop] at hy'
            rw [hy, hy', Prod.mk.injEq] at heq
            exact heq.1
          subst hdelta hlength
          have hf₂ : ((f.read pos 1).read (pos + 1) (n + k)).Upto data.length pos := hf₁.read (by omega)
          by_cases hfits : n + k + length > (data.drop (pos + 1)).length
          · -- refused for its length, with nothing else read
            rw [if_pos hfits, if_pos (by omega)]
            refine ⟨fun _ _ h => ?_, fun _ => hf₂.inside hpos⟩
            have := h.2
            rw [hhigh, hlow] at this
            exact hcut this
          · rw [if_neg hfits, if_neg (by omega)]
            have hstart : pos + 1 + (n + k) = pos + 1 + n + k := by omega
            have hvalue : mem.bytes (pos + 1 + n + k) length = ((data.drop (pos + 1)).drop (n + k)).take length := by
              rw [hmem.bytes (by omega), List.drop_drop, hstart]
            have hnext : (data.drop (pos + 1)).drop (n + k + length) = data.drop (pos + 1 + n + k + length) := by
              rw [List.drop_drop]
              congr 1
              omega
            have hf₃ : (optionFootprint p ((number + delta) % 2 ^ 32) (pos + 1 + n + k) length
                ((f.read pos 1).read (pos + 1) (n + k))).Upto data.length (pos + 1 + n + k + length) :=
              hf₂.option p _ (by omega) (by omega)
            rw [hvalue, hnext]
            cases hone : parseOption p ((number + delta) % 2 ^ 32) (((data.drop (pos + 1)).drop (n + k)).take length) with
            | error code =>
              refine ⟨?_, fun _ => hf₃.inside (by omega)⟩
              rintro - ⟨q, hq⟩
              unfold parseAll rawValues at hq
              rw [List.map_cons, List.foldlM_cons, hone] at hq
              cases hq
            | ok r =>
              dsimp only
              rw [parseOptionsAt_inside_iff B hmem rounds r _ _ _ (by omega) (by omega) hf₃]
              unfold parseAll rawValues
              rw [List.map_cons, List.foldlM_cons, hone]
              rfl

/-- The packet as the header and the token set it. -/
def udpHeader (data : OcString) : CoapPacket :=
  { CoapPacket.zero with
    transportType := .udp
    version := (0xC0 &&& data.getD 0 0) >>> 6
    type := .ofCode ((0x30 &&& data.getD 0 0) >>> 4)
    code := data.getD 1 0
    mid := ((data.getD 2 0).toUInt16 <<< 8) ||| (data.getD 3 0).toUInt16
    token := (List.range (tokenLenOf data)).map ((data.drop coapHeaderLen).getD · 0) }

/-- The header is there, and where its version and token length are accepted, the token too, and behind options that
are all accepted there is none whose extension bytes are cut off. -/
def NothingCutOff (data : OcString) : Prop :=
  coapHeaderLen ≤ data.length ∧
  ((0xC0 &&& data.getD 0 0) >>> 6 = 1 → tokenLenOf data ≤ coapTokenLen →
    coapHeaderLen + tokenLenOf data ≤ data.length ∧
    ((∃ q, parseAll (udpHeader data) (rawValues (messageSplit data).1) = .ok q) → ¬ CutOff (messageSplit data).2))

/-- For every datagram, and whatever lies behind it, the parser only reads its bytes and leaves pointers into it iff
nothing is cut off. -/
theorem coapUdpParseMessageAt_inside_iff (B : BufferSettings) {mem : DataMemory} {data : OcString} (hne : data ≠ [])
    (hmem : mem.Holds data) :
    (coapUdpParseMessageAt B mem data.length).2.2.Inside data.length ↔ NothingCutOff data := by
  have hlen : 0 < data.length := List.length_pos_iff.2 hne
  have hreads (tail : Footprint) (hsub : (Footprint.none.read 0 coapHeaderLen).reads ⊆ tail.reads)
      (hinside : tail.Inside data.length) : coapHeaderLen ≤ data.length := by
    have h3 := hinside.reads 3 (hsub (by decide))
    simp only [coapHeaderLen]
    omega
  unfold coapUdpParseMessageAt NothingCutOff
  dsimp only
  rw [hmem 0 hlen]
  by_cases hheader : coapHeaderLen ≤ data.length
  · have h4 : 4 ≤ data.length := hheader
    rw [hmem 1 (by omega), hmem 2 (by omega), hmem 3 (by omega)]
    have hf : (Footprint.none.read 0 coapHeaderLen).Upto data.length 0 :=
      Footprint.Upto.read ⟨fun i hi => absurd hi List.not_mem_nil, fun w hw => absurd hw List.not_mem_nil, Nat.le_refl _, Nat.le_refl _, Nat.le_refl _,
        Nat.le_refl _, Nat.le_refl _⟩ (by rw [Nat.zero_add]; exact hheader)
    split
    · rename_i hversion
      exact ⟨fun _ => ⟨hheader, fun h => absurd h hversion⟩, fun _ => hf.inside (Nat.zero_le _)⟩
    · rename_i hversion
      rw [ne_eq, not_not] at hversion
      split
      · rename_i htoken
        exact ⟨fun _ => ⟨hheader, fun _ h => absurd htoken (Nat.not_lt.2 h)⟩, fun _ => hf.inside (Nat.zero_le _)⟩
      · rename_i htoken
        have htoken' : tokenLenOf data ≤ coapTokenLen := Nat.le_of_not_lt htoken
        unfold coapParseTokenOptionAt
        have htl : (0x0F &&& data.getD 0 0).toNat = tokenLenOf data := rfl
        rw [htl]
        by_cases hcopied : coapHeaderLen + tokenLenOf data ≤ data.length
        · have hf' : Footprint.Upto { (Footprint.none.read 0 coapHeaderLen).read coapHeaderLen (tokenLenOf data) with
              token := ⟨coapHeaderLen, tokenLenOf data⟩ } data.length (coapHeaderLen + tokenLenOf data) := by
            have hr := (hf.read hcopied).mono (Nat.zero_le (coapHeaderLen + tokenLenOf data))
            exact ⟨hr.reads, hr.writes, Nat.le_refl _, hr.uriPath, hr.uriQuery, hr.altAddr, hr.payload⟩
          have hbytes : mem.bytes coapHeaderLen (tokenLenOf data) =
              (List.range (tokenLenOf data)).map ((data.drop coapHeaderLen).getD · 0) := by
            refine List.map_congr_left fun i hi => ?_
            rw [List.mem_range] at hi
            rw [hmem _ (by omega), List.getD_eq_getElem?_getD, List.getD_eq_getElem?_getD, List.getElem?_drop]
          have hloop := parseOptionsAt_inside_iff B hmem (data.length - coapHeaderLen) (udpHeader data) 0
            (coapHeaderLen + tokenLenOf data) _ hcopied (by omega) hf'
          rw [hbytes]
          have hsplit : splitOptions (data.length - coapHeaderLen) 0 (data.drop (coapHeaderLen + tokenLenOf data)) =
              messageSplit data := by
            rw [messageSplit, List.length_drop, List.drop_drop]
          rw [hsplit] at hloop
          exact hloop.trans ⟨fun h => ⟨hheader, fun _ _ => ⟨hcopied, h⟩⟩, fun h => (h.2 hversion htoken').2⟩
        · refine ⟨fun h => ?_, fun h => absurd (h.2 hversion htoken').1 hcopied⟩
          -- the byte behind the datagram is copied to the token
          have hbad : data.length ∈
              ((Footprint.none.read 0 coapHeaderLen).read coapHeaderLen (tokenLenOf data)).reads :=
            Footprint.mem_read.2 (.inr (by omega))
          exact absurd (h.reads data.length (parseOptionsAt_reads B mem _ _ _ _ _ _ hbad)) (by omega)
  · refine ⟨fun h => absurd (hreads _ ?_ h) hheader, fun h => absurd h.1 hheader⟩
    split
    · exact List.Subset.refl _
    · split
      · exact List.Subset.refl _
      · unfold coapParseTokenOptionAt
        refine List.Subset.trans (fun i hi => ?_) (parseOptionsAt_reads B mem _ _ _ _ _ _)
        exact Footprint.mem_read.2 (.inl hi)

/-- The memory that holds a datagram and zeros behind it. -/
def zeroBehind (data : OcString) : DataMemory := (data.getD · 0)

theorem zeroBehind_holds (data : OcString) : (zeroBehind data).Holds data := fun _ _ => rfl

/-- The PUT with everything in it is read inside iff nothing is cut off, which is the case. -/
theorem coapUdpParseMessageAt_inside_iff_get :
    ((coapUdpParseMessageAt defaultSettings (zeroBehind blockPut) blockPut.length).2.2.Inside blockPut.length ↔
      NothingCutOff blockPut) ∧ NothingCutOff blockPut := by
  refine ⟨coapUdpParseMessageAt_inside_iff defaultSettings (by decide) (zeroBehind_holds blockPut), by decide,
    fun _ _ => ⟨by decide, fun _ h => ?_⟩⟩
  have hsplit : (messageSplit blockPut).2 = 0xFF :: ascii "xy" := by decide
  rw [hsplit] at h
  exact h.1 rfl

/-- Of an option header at the end of a datagram, the extension byte is read behind it. -/
theorem coapUdpParseMessageAt_reads_behind :
    ¬ (coapUdpParseMessageAt defaultSettings (zeroBehind [0x40, 1, 0, 0, 0xD0]) 5).2.2.Inside 5 :=
  fun h => absurd (h.reads 5 (by decide)) (by decide)

end SmartGarage
