/-
What holds of every packet that the parser gives, for any bytes: the fields of the header stay as
they were read, and a block option is either absent or read from some value.
-/
import SmartGarage.Messaging.CoapTcp

namespace SmartGarage

/-! ## One option -/

theorem parseOptions_inv (B : BufferSettings) {P : CoapPacket → Prop}
    (hset : ∀ p n, P p → P (p.setOption n))
    (hoption : ∀ p n value q, P p → parseOption p n value = .ok q → P q)
    (hpayload : ∀ p payload, P p → P (parsePayload B p payload)) :
    ∀ (rounds : Nat) (p : CoapPacket) (number : Nat) (bytes : OcString), P p →
      P (parseOptions B rounds p number bytes).2
  | 0, _, _, _, h => h
  | _ + 1, _, _, [], h => h
  | rounds + 1, p, number, b :: rest, h => by
    have hbit (n : Nat) : P (if n ≤ coapOptionSize1 then p.setOption n else p) := by
      split
      · exact hset p n h
      · exact h
    rw [parseOptions]
    split
    · exact hpayload p rest h
    · dsimp only
      split
      · exact hbit _
      · split
        · exact hbit _
        · rename_i hok
          exact parseOptions_inv B hset hoption hpayload rounds _ _ _ (hoption _ _ _ _ h hok)

/-- A block option that is absent, or read from a value. -/
def BlockRead (b : CoapBlock) : Prop := b = CoapBlock.zero ∨ ∃ value, b = parseBlock value

/-- What one option may change of the fields below. -/
structure OptionStep (p q : CoapPacket) : Prop where
  header : SameHeader p q
  block1 : BlockRead p.block1 → BlockRead q.block1
  block2 : BlockRead p.block2 → BlockRead q.block2

theorem OptionStep.of_eq {p q : CoapPacket} (h : SameHeader p q) (h1 : q.block1 = p.block1) (h2 : q.block2 = p.block2) :
    OptionStep p q := ⟨h, fun hb => h1 ▸ hb, fun hb => h2 ▸ hb⟩

theorem ok_ite {P : CoapPacket → Prop} {c : Prop} [Decidable c] {a b : Except UInt8 CoapPacket}
    (ha : ∀ q, a = .ok q → P q) (hb : ∀ q, b = .ok q → P q) : ∀ q, (if c then a else b) = .ok q → P q := by
  intro q h
  split at h
  · exact ha q h
  · exact hb q h

theorem optionStep_request (p : CoapPacket) (n : Nat) (value : OcString) :
    ∀ q, parseRequestOption p n value = .ok q → OptionStep p q := by
  unfold parseRequestOption
  repeat' apply ok_ite
  all_goals
    intro q h
    cases h
  all_goals
    exact ⟨⟨rfl, rfl, rfl, rfl, rfl, rfl, rfl⟩, by first | exact id | exact fun _ => .inr ⟨value, rfl⟩,
      by first | exact id | exact fun _ => .inr ⟨value, rfl⟩⟩

theorem signal_blocks (p : CoapPacket) (n : Nat) (value : OcString) :
    (coapParseSignalOptions p n value).block1 = p.block1 ∧ (coapParseSignalOptions p n value).block2 = p.block2 := by
  unfold coapParseSignalOptions
  repeat' split
  all_goals exact ⟨rfl, rfl⟩

theorem OptionStep.trans {p q r : CoapPacket} (h : OptionStep p q) (h' : OptionStep q r) : OptionStep p r := by
  have hp := h.header
  have hr := h'.header
  exact ⟨⟨hr.1.trans hp.1, hr.2.trans hp.2, hr.3.trans hp.3, hr.4.trans hp.4, hr.5.trans hp.5, hr.6.trans hp.6,
    hr.7.trans hp.7⟩, fun hb => h'.block1 (h.block1 hb), fun hb => h'.block2 (h.block2 hb)⟩

theorem optionStep_parse {p q : CoapPacket} {n : Nat} {value : OcString} (h : parseOption p n value = .ok q) :
    OptionStep p q := by
  unfold parseOption at h
  have hset : OptionStep p (if n ≤ coapOptionSize1 then p.setOption n else p) := by
    split
    · exact .of_eq ⟨rfl, rfl, rfl, rfl, rfl, rfl, rfl⟩ rfl rfl
    · exact .of_eq ⟨rfl, rfl, rfl, rfl, rfl, rfl, rfl⟩ rfl rfl
  generalize (if n ≤ coapOptionSize1 then p.setOption n else p) = p' at h hset
  refine hset.trans (ok_ite ?_ (optionStep_request p' n value) q h)
  intro q h
  cases h
  exact .of_eq (sameHeader_signal _ _ _) (signal_blocks _ _ _).1 (signal_blocks _ _ _).2

/-! ## Messages -/

/-- What is known of a packet that has been parsed with a transport. -/
structure Parsed (B : BufferSettings) (transport : CoapTransportType) (p : CoapPacket) : Prop where
  transportType : p.transportType = transport
  block1 : BlockRead p.block1
  block2 : BlockRead p.block2
  payload : transport = .udp → p.payload.length ≤ B.blockSize

theorem parsed_options (B : BufferSettings) {transport : CoapTransportType} {rounds : Nat} {p : CoapPacket} {number : Nat}
    {bytes : OcString} (h : Parsed B transport p) : Parsed B transport (parseOptions B rounds p number bytes).2 := by
  refine parseOptions_inv B (P := Parsed B transport) ?_ ?_ ?_ rounds p number bytes h
  · exact fun p n h => ⟨h.transportType, h.block1, h.block2, h.payload⟩
  · intro p n value q h hok
    have hstep := optionStep_parse hok
    exact ⟨hstep.header.transportType.trans h.transportType, hstep.block1 h.block1, hstep.block2 h.block2,
      hstep.header.payload ▸ h.payload⟩
  · intro p payload h
    refine ⟨h.transportType, h.block1, h.block2, fun hudp => ?_⟩
    have hp : p.transportType = .udp := h.transportType.trans hudp
    simp only [parsePayload, hp, reduceIte, List.length_take]
    exact Nat.min_le_left _ _

section

variable (B : BufferSettings) (data : OcString)

theorem parsed_udp : Parsed B .udp (coapUdpParseMessage B data).2 := by
  unfold coapUdpParseMessage
  dsimp only
  split
  · exact ⟨rfl, .inl rfl, .inl rfl, fun _ => Nat.zero_le _⟩
  · split
    · exact ⟨rfl, .inl rfl, .inl rfl, fun _ => Nat.zero_le _⟩
    · exact parsed_options B ⟨rfl, .inl rfl, .inl rfl, fun _ => Nat.zero_le _⟩

theorem parsed_tcp : Parsed B .tcp (coapTcpParseMessage B data).2 := by
  unfold coapTcpParseMessage
  dsimp only
  split
  · exact ⟨rfl, .inl rfl, .inl rfl, nofun⟩
  · exact parsed_options B ⟨rfl, .inl rfl, .inl rfl, nofun⟩

theorem coapTcpParseMessage_type : (coapTcpParseMessage B data).2.type = .non := by
  unfold coapTcpParseMessage
  dsimp only
  split
  · rfl
  · refine parseOptions_inv B (P := fun p => p.type = .non) (fun p n h => h) ?_ (fun p payload h => h) _ _ _ _ rfl
    exact fun p n value q h hok => (optionStep_parse hok).header.type.trans h

end

end SmartGarage
