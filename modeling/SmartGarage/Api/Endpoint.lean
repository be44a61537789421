/-
Endpoints as text: `oc_endpoint_to_string` and `oc_string_to_endpoint` of `oc_endpoint.c`.
-/
import SmartGarage.Api.Basic
import SmartGarage.Lib.Decimal

namespace SmartGarage

/-! ## Printing -/

/-- `OC_SCHEME_COAPS_TCP`, `OC_SCHEME_COAP_TCP`, `OC_SCHEME_COAPS` and `OC_SCHEME_COAP`, by the flags. -/
def ocScheme (flags : TransportFlags) : OcString :=
  if flags.tcp then
    if flags.secured then ascii "coaps+tcp://" else ascii "coap+tcp://"
  else
    if flags.secured then ascii "coaps://" else ascii "coap://"

/-- `oc_ipv4_endpoint_to_string` -/
def ocIpv4EndpointToString (endpoint : OcEndpoint) : OcString :=
  let addr := fun i => Decimal.print (endpoint.address.getD i 0).toNat
  ocScheme endpoint.flags ++ addr 0 ++ [46] ++ addr 1 ++ [46] ++ addr 2 ++ [46] ++ addr 3 ++ [58] ++
    Decimal.print endpoint.port

/-- The working variables of the loop in `oc_ipv6_endpoint_to_string`; `ip` is what has been written. -/
structure ZeroScan where
  ip : OcString
  startZeros : Nat
  lastZeros : Nat
  numZeros : Nat
  maxZerosStart : Nat
  maxZerosNum : Nat

namespace ZeroScan

/-- The variables before the loop. -/
def start : ZeroScan := ⟨[91], 0, 16, 0, 0, 0⟩

/-- A group of two zero octets at `addrIdx`. -/
def zeros (s : ZeroScan) (addrIdx : Nat) : ZeroScan :=
  let s := if s.lastZeros + 2 ≠ addrIdx then { s with startZeros := s.ip.length, numZeros := 0 } else s
  { s with lastZeros := addrIdx, numZeros := s.numZeros + 2 }

/-- The run of zeros that ends here is the longest one so far, or not. -/
def longest (s : ZeroScan) : ZeroScan :=
  if s.numZeros > s.maxZerosNum then { s with maxZerosNum := s.numZeros, maxZerosStart := s.startZeros } else s

end ZeroScan

/-- The two octets of a group that is not zero: the first one is skipped if it is zero, and leading zeros are. -/
def hexGroup (high low : UInt8) : OcString :=
  (if high = 0 then []
    else if high ≤ 0x0f then [hexDigit high]
    else [hexDigit (high >>> 4), hexDigit (high &&& 15)]) ++
  if high = 0 ∧ low ≤ 0x0f then [hexDigit low]
  else [hexDigit (low >>> 4), hexDigit (low &&& 15)]

/-- The loop of `oc_ipv6_endpoint_to_string` over the octets from `addrIdx` on. -/
def scanOctets (s : ZeroScan) (addrIdx : Nat) : List UInt8 → ZeroScan
  | high :: low :: rest =>
    if high = 0 ∧ low = 0 then scanOctets (s.zeros addrIdx) (addrIdx + 2) rest
    else
      let s := s.longest
      let colon : OcString := if addrIdx > 0 ∧ addrIdx ≤ 14 then [58] else []
      scanOctets { s with ip := s.ip ++ colon ++ hexGroup high low } (addrIdx + 2) rest
  | _ => s

/-- What is written of an address: the first character of the longest run of zeros, a colon, is doubled in the
end. -/
def ipv6Text (address : List UInt8) : OcString :=
  let s := scanOctets .start 0 address
  let maxZerosStart := if s.numZeros > s.maxZerosNum then s.startZeros else s.maxZerosStart
  let ip := if s.lastZeros = 14 then s.ip ++ [58] else s.ip
  if maxZerosStart ≠ 0 then ip.take maxZerosStart ++ (ip.drop maxZerosStart).take 1 ++ ip.drop maxZerosStart else ip

/-- `oc_ipv6_endpoint_to_string` -/
def ocIpv6EndpointToString (endpoint : OcEndpoint) : OcString :=
  ocScheme endpoint.flags ++ ipv6Text endpoint.address ++ [93, 58] ++ Decimal.print endpoint.port

/-- `oc_endpoint_to_string` -/
def ocEndpointToString (endpoint : OcEndpoint) : Option OcString :=
  if endpoint.flags.ipv6 then some (ocIpv6EndpointToString endpoint)
  else if endpoint.flags.ipv4 then some (ocIpv4EndpointToString endpoint)
  else none

/-! ## Reading -/

/-- The loop of `oc_parse_ipv4_address`: `n` octets are still to be read, and `len` characters of the address are
left of the string. -/
def parseIpv4Octets : Nat → Nat → OcString → OcString
  | 0, _, _ => []
  | n + 1, len, s =>
    if len = 0 then List.replicate (n + 1) 0
    else
      let (octet, rest) := Decimal.strtoul s
      UInt8.ofNat octet :: parseIpv4Octets n (len - (s.length - rest.length + 1)) (rest.drop 1)

/-- `oc_parse_ipv4_address` -/
def ocParseIpv4Address (address : OcString) (len : Nat) : OcString := parseIpv4Octets 4 len address

/-- The nibble of a hexadecimal digit in `hex_to_bin`; another character counts with its code. -/
def hexValue (h : UInt8) : UInt8 :=
  if 48 ≤ h ∧ h ≤ 57 then h - 48
  else if 97 ≤ h ∧ h ≤ 102 then h - 87
  else if 65 ≤ h ∧ h ≤ 70 then h - 55
  else h

/-- `hex_to_bin` -/
def hexToBin (hex : OcString) (len : Nat) : UInt8 :=
  let b := hexValue (hex.getD 0 0)
  if len > 1 then (b <<< 4) ||| hexValue (hex.getD 1 0) else b

/-- One segment at the characters `t`: the octets that are read from it, and the characters behind. A segment of
more than four characters is not passed. -/
def parseSegment (t : OcString) : Option (OcString × OcString) :=
  match (t.takeWhile (· ≠ 58)).length with
  | 4 => some ([hexToBin t 2, hexToBin (t.drop 2) 2], t.drop 4)
  | 3 => some ([hexToBin t 1, hexToBin (t.drop 1) 2], t.drop 3)
  | 2 => some ([0, hexToBin t 2], t.drop 2)
  | 1 => some ([0, hexToBin t 1], t.drop 1)
  | 0 => some ([], t.drop 1)
  | _ => none

theorem parseSegment_length {t octets rest : OcString} (h : parseSegment t = some (octets, rest)) :
    rest.length ≤ t.length ∧ (t ≠ [] → rest.length < t.length) := by
  have hle : (t.takeWhile (· ≠ 58)).length ≤ t.length := (List.takeWhile_sublist _).length_le
  have hdrop : ∀ n, n ≠ 0 → (t.drop n).length ≤ t.length ∧ (t ≠ [] → (t.drop n).length < t.length) := fun n hn => by
    rw [List.length_drop]
    refine ⟨Nat.sub_le _ _, fun hne => ?_⟩
    have hpos := List.length_pos_iff.2 hne
    omega
  unfold parseSegment at h
  split at h <;> cases h <;> exact hdrop _ (by decide)

/-- The place of `::` among the octets, if the loop is at the first one, and the characters behind it. -/
def splitAt (addr : OcString) (split : Option Nat) (s : OcString) : Option Nat × OcString :=
  if split = none ∧ s.take 2 = [58, 58] then (some addr.length, s.drop 2) else (split, s)

/-- The loop of `oc_parse_ipv6_address` at the characters `s`, with the octets that have been read and the place
of `::` among them. It does not end at a segment that is not passed. -/
def parseIpv6Groups (addr : OcString) (split : Option Nat) (s : OcString) : Option (OcString × Option Nat) :=
  if hdone : addr.length ≥ 15 ∨ s = [] then some (addr, split)
  else
    match hseg : parseSegment (splitAt addr split s).2 with
    | some (octets, rest) => parseIpv6Groups (addr ++ octets) (splitAt addr split s).1 rest
    | none => none
termination_by s.length
decreasing_by
  have hlen := parseSegment_length hseg
  have hne : s ≠ [] := fun heq => hdone (.inr heq)
  unfold splitAt at hlen
  split at hlen
  · rename_i hcolons
    have hpos := List.length_pos_iff.2 hne
    have hle := hlen.1
    rw [List.length_drop] at hle
    omega
  · exact hlen.2 hne

/-- The octets behind `::` are moved to the end: `n` of them, the last one to `dst`. -/
def moveOctets (split : Nat) : Nat → Nat → OcString → OcString
  | 0, _, addr => addr
  | n + 1, dst, addr => moveOctets split n (dst - 1) ((addr.set dst (addr.getD (split + n) 0)).set (split + n) 0)

/-- `oc_parse_ipv6_address` for the characters between the brackets. -/
def ocParseIpv6Address (address : OcString) : Option OcString :=
  (parseIpv6Groups [] none address).map fun (addr, split) =>
    let octets := addr ++ List.replicate (16 - addr.length) 0
    match split with
    | some i => moveOctets i (addr.length - i) 15 octets
    | none => octets

/-- What `oc_string_to_endpoint` comes to: it may not return at all. -/
inductive StringToEndpoint
  | endless
  | error
  | ok (endpoint : OcEndpoint) (uri : Option OcString)

/-- The flags of the scheme and the characters behind it. -/
def parseScheme (str : OcString) : Option (TransportFlags × OcString) :=
  let behind := fun (scheme : OcString) => str.length > scheme.length ∧ str.take scheme.length = scheme
  if behind (ascii "coaps+tcp://") then some ({ TransportFlags.zero with tcp := true, secured := true }, str.drop 12)
  else if behind (ascii "coap+tcp://") then some ({ TransportFlags.zero with tcp := true }, str.drop 11)
  else if behind (ascii "coaps://") then some ({ TransportFlags.zero with secured := true }, str.drop 8)
  else if behind (ascii "coap://") then some (TransportFlags.zero, str.drop 7)
  else none

/-- The index of a character, if it is among the first `n`: `memchr`. -/
def memchr (s : OcString) (c : UInt8) (n : Nat) : Option Nat := (s.take n).findIdx? (· = c)

/-- The colon in front of the port, if there is one; a bracket that is not closed is an error. -/
def portColon (address : OcString) : Option (Option Nat) :=
  if address.head? = some 91 then
    (memchr address 93 address.length).map fun k =>
      (memchr (address.drop k) 58 (address.length - (k + 1))).map (k + ·)
  else some (memchr address 58 address.length)

section Reading

variable (ocDnsLookup : OcString → TransportFlags → Option OcString)

/-- A letter of the alphabet. -/
def isLetter (c : UInt8) : Bool := (65 ≤ c ∧ c ≤ 90) ∨ (97 ≤ c ∧ c ≤ 122)

/-- The address, of `len` characters, or what the name is resolved to: as IPv6 and else as IPv4. -/
def resolve (address : OcString) (len : Nat) (flags : TransportFlags) : Option (OcString × Nat) :=
  if isLetter ((address.take len).getLastD 47) then
    if len > 254 then none
    else
      let found := (ocDnsLookup (address.take len) { flags with ipv6 := true }).or
        (ocDnsLookup (address.take len) { flags with ipv4 := true })
      found.map fun ipaddress => (ipaddress, ipaddress.length)
  else some (address, len)

/-- `oc_parse_endpoint_string`. The character in front of an empty address is the last one of the scheme, 47. -/
def ocParseEndpointString (str : OcString) : StringToEndpoint :=
  match parseScheme str with
  | none => .error
  | some (flags, address) =>
    let u := memchr address 47 address.length
    match portColon address with
    | none => .error
    | some p =>
      let port := match p with
        | some i => (Decimal.strtoul (address.drop (i + 1))).1 % 2 ^ 16
        | none => if flags.secured then 5684 else 5683
      let len := p.getD (u.getD address.length)
      match resolve ocDnsLookup address len flags with
      | none => .error
      | some (address', len') =>
        let uri := u.map fun i => address.drop i
        if address'.head? = some 91 ∧ (address'.take len').getLastD 47 = 93 then
          match ocParseIpv6Address ((address'.take (len' - 1)).drop 1) with
          | none => .endless
          | some octets =>
            .ok { OcEndpoint.zero with flags := { flags with ipv6 := true }, address := octets, port := port } uri
        else
          .ok { OcEndpoint.zero with
            flags := { flags with ipv4 := true }, address := ocParseIpv4Address address' len', port := port } uri

/-- `oc_string_to_endpoint` -/
def ocStringToEndpoint (str : OcString) : StringToEndpoint := ocParseEndpointString ocDnsLookup str

end Reading

end SmartGarage
