/-
The strings that `oc_string_to_endpoint` is for: a scheme, an address, and maybe a port and a path. They are read as
what they say, but for an IPv6 address that ends with a dotted one, and for a colon in a path behind an address
without a port, which is taken for the one in front of a port.
-/
import SmartGarage.Api.EndpointAddress

namespace SmartGarage

/-! ## Hosts -/

/-- A dotted address, or one for IPv6 in brackets. -/
inductive HostText
  | ipv4 (address : Ipv4Text)
  | ipv6 (address : Ipv6Text)

/-- The text of a host. -/
def HostText.text : HostText → OcString
  | ipv4 a => a.text
  | ipv6 a => 91 :: a.text ++ [93]

/-- The flags and the octets of a host, behind a scheme. -/
def HostText.endpoint (flags : TransportFlags) (port : Nat) : HostText → OcEndpoint
  | ipv4 a => { OcEndpoint.zero with flags := { schemeFlags flags with ipv4 := true }, address := a.octets, port := port }
  | ipv6 a => { OcEndpoint.zero with flags := { schemeFlags flags with ipv6 := true }, address := a.octets, port := port }

/-- An IPv6 address that ends with a dotted one. -/
def HostText.hasDotted : HostText → Bool
  | ipv4 _ => false
  | ipv6 a => a.hasDotted

/-- The characters behind the host among which the colon of a port is searched. -/
def HostText.searched (behind : OcString) : HostText → OcString
  | ipv4 _ => behind
  | ipv6 _ => behind.dropLast

/-- The part of a path in front of a colon is skipped as a part of the host: with an IPv4 address, unless it ends with a
letter; with an IPv6 one, if it is a short segment that ends with a bracket, behind seven groups and `::`. -/
def HostText.Skips (inFront : OcString) : HostText → Prop
  | ipv4 _ => isLetter (inFront.getLastD 47) = false
  | ipv6 a => a.sevenInFront = true ∧ inFront.length ≤ 4 ∧ inFront.getLast? = some 93

/-! ## Strings -/

/-- A scheme, by its flags, with an address, a port and a path. -/
structure EndpointText where
  flags : TransportFlags
  host : HostText
  port : Option DecimalText
  path : OcString
  port_lt : ∀ d ∈ port, d.value < 2 ^ 16
  path_slash : path = [] ∨ path.head? = some 47

namespace EndpointText

variable (t : EndpointText)

/-- The port with its colon, if there is one, and the path. -/
def behind : OcString :=
  match t.port with
  | some d => 58 :: d.text ++ t.path
  | none => t.path

/-- The string. -/
def text : OcString := ocScheme t.flags ++ (t.host.text ++ t.behind)

/-- The port that is used when none is given. -/
def defaultPort : Nat := if t.flags.secured then 5684 else 5683

/-- What the string says. -/
def endpoint : OcEndpoint := t.host.endpoint t.flags (t.port.elim t.defaultPort DecimalText.value)

/-- The path, if there is one. -/
def uri : Option OcString := if t.path = [] then none else some t.path

/-- The characters in front of the first colon of a path. -/
def inFront : OcString := t.path.takeWhile (· ≠ 58)

/-- The number behind the first colon of a path, as a port. -/
def behindColon : Nat := (Decimal.strtoul (t.path.drop (t.inFront.length + 1))).1 % 2 ^ 16

/-- A colon in the path that is taken for the one in front of a port does no harm if the path in front of it is
skipped, and the number behind it is the port that is used anyway. -/
def HarmlessColon : Prop := t.host.Skips t.inFront ∧ t.behindColon = t.defaultPort

/-- The condition: the address does not end with a dotted one in brackets, and without a port no colon is found in the
path, or a harmless one. -/
def Readable : Prop :=
  t.host.hasDotted = false ∧ (t.port = none → 58 ∈ t.host.searched t.path → t.HarmlessColon)

end EndpointText

/-! ## Strings that are cut -/

section Cut

variable (ocDnsLookup : OcString → TransportFlags → Option OcString)

theorem memchr_slash {front path : OcString} (hfront : 47 ∉ front) (hpath : path = [] ∨ path.head? = some 47) :
    memchr (front ++ path) 47 (front ++ path).length = if path = [] then none else some front.length := by
  obtain rfl | hslash := hpath
  · rw [if_pos rfl, List.append_nil, memchr, List.take_length, List.findIdx?_eq_none_iff]
    rintro x hx
    simpa using fun heq : x = 47 => hfront (heq ▸ hx)
  · cases path with
    | nil => cases hslash
    | cons c path =>
      cases hslash
      rw [if_neg (by simp)]
      exact memchr_eq hfront (by simp)

/-- How an address is cut: what is in front of the colon of a port, or of the path; the port; the path. -/
structure Cut (flags : TransportFlags) (address before : OcString) (port : Nat) (uri : Option OcString) : Prop where
  ne : address ≠ []
  colon : ∃ p, portColon address = some p ∧
    p.getD ((memchr address 47 address.length).getD address.length) = before.length ∧
      p.elim (if flags.secured then 5684 else 5683) (fun i => (Decimal.strtoul (address.drop (i + 1))).1 % 2 ^ 16) = port
  take : address.take before.length = before
  uri : (memchr address 47 address.length).map address.drop = uri

variable {ocDnsLookup} {flags : TransportFlags} {address before : OcString} {port : Nat} {uri : Option OcString}

theorem Cut.ipv6 {text : OcString} (h : Cut flags address (91 :: text ++ [93]) port uri) :
    ocStringToEndpoint ocDnsLookup (ocScheme flags ++ address) =
      (ocParseIpv6Address text).elim .endless fun octets =>
        .ok { OcEndpoint.zero with
          flags := { schemeFlags flags with ipv6 := true }, address := octets, port := port } uri := by
  obtain ⟨hne, ⟨p, hcolon, hlen, hport⟩, htake, huri⟩ := h
  have hhead : address.head? = some 91 := by
    obtain ⟨c, rest, rfl⟩ := List.exists_cons_of_ne_nil hne
    exact congrArg some (List.cons.inj htake).1
  have hinner : (address.take ((91 :: text ++ [93]).length - 1)).drop 1 = text := by
    have hshorter : address.take ((91 :: text ++ [93]).length - 1) =
        (address.take (91 :: text ++ [93]).length).take ((91 :: text ++ [93]).length - 1) := by
      rw [List.take_take, Nat.min_eq_left (Nat.sub_le _ _)]
    rw [hshorter, htake]
    simp
  have hlast : ((91 :: text ++ [93] : OcString)).getLastD 47 = 93 := by
    rw [List.getLastD_eq_getLast?, List.getLast?_concat]
    rfl
  unfold ocStringToEndpoint ocParseEndpointString resolve
  rw [parseScheme_print flags hne]
  dsimp only
  rw [hcolon]
  dsimp only
  rw [hlen, htake, hlast, if_neg (show ¬isLetter 93 = true by decide)]
  dsimp only
  rw [htake, hlast, if_pos ⟨hhead, rfl⟩, hinner, huri]
  subst hport
  cases ocParseIpv6Address text with
  | none => rfl
  | some octets =>
    cases p with
    | none => rfl
    | some i => rfl

/-- Any other address, without a letter at its end, is read as one for IPv4. -/
theorem Cut.ipv4 (h : Cut flags address before port uri) (hbracket : address.head? ≠ some 91 ∨ before.getLastD 47 ≠ 93)
    (hletter : isLetter (before.getLastD 47) = false) :
    ocStringToEndpoint ocDnsLookup (ocScheme flags ++ address) =
      .ok { OcEndpoint.zero with
        flags := { schemeFlags flags with ipv4 := true }, address := ocParseIpv4Address address before.length,
        port := port } uri := by
  obtain ⟨hne, ⟨p, hcolon, hlen, hport⟩, htake, huri⟩ := h
  unfold ocStringToEndpoint ocParseEndpointString resolve
  rw [parseScheme_print flags hne]
  dsimp only
  rw [hcolon]
  dsimp only
  rw [hlen, htake, hletter, if_neg Bool.false_ne_true]
  dsimp only
  rw [htake, if_neg fun hboth => hbracket.elim (fun hhead => hhead hboth.1) fun hlast => hlast hboth.2, huri]
  subst hport
  cases p with
  | none => rfl
  | some i => rfl

theorem Cut.name (h : Cut flags address before port uri) (hletter : isLetter (before.getLastD 47) = true)
    (hlookup : ∀ flags, ocDnsLookup before flags = none) :
    ocStringToEndpoint ocDnsLookup (ocScheme flags ++ address) = .error := by
  obtain ⟨hne, ⟨p, hcolon, hlen, hport⟩, htake, huri⟩ := h
  unfold ocStringToEndpoint ocParseEndpointString resolve
  rw [parseScheme_print flags hne]
  dsimp only
  rw [hcolon]
  dsimp only
  rw [hlen, htake, hletter, if_pos rfl, hlookup, hlookup]
  split
  · rfl
  · rename_i hfound
    split at hfound
    · cases hfound
    · cases hfound

end Cut

/-! ## Hosts that are cut -/

theorem HexGroup.notMem (g : HexGroup) {c : UInt8} (hc : hexDigitValue c = none) : c ∉ g.text := fun h => by
  have hdigit := g.digits c h
  rw [hc] at hdigit
  cases hdigit

theorem notMem_joinSegments {c : UInt8} (hcolon : c ≠ 58) {segments : List OcString} (h : ∀ p ∈ segments, c ∉ p) :
    c ∉ joinSegments segments := by
  cases segments with
  | nil => exact List.not_mem_nil
  | cons p segments =>
    rw [joinSegments_cons]
    rintro hmem
    obtain hmem | hmem := List.mem_append.1 hmem
    · exact h p List.mem_cons_self hmem
    · obtain ⟨q, hq, hc⟩ := List.mem_flatMap.1 hmem
      obtain rfl | hc := List.mem_cons.1 hc
      · exact hcolon rfl
      · exact h q (List.mem_cons_of_mem _ hq) hc

theorem Ipv6Text.notMem (a : Ipv6Text) {c : UInt8} (hhex : hexDigitValue c = none) (hdigit : Decimal.isDigit c = false)
    (hdot : c ≠ 46) (hcolon : c ≠ 58) : c ∉ a.text := by
  have hgroups (groups : List HexGroup) : ∀ p ∈ groups.map HexGroup.text, c ∉ p := by
    rintro p hp
    obtain ⟨g, -, rfl⟩ := List.mem_map.1 hp
    exact g.notMem hhex
  have htail (groups : List HexGroup) (tail : Ipv4Text) : ∀ p ∈ groups.map HexGroup.text ++ [tail.text], c ∉ p := by
    rintro p hp
    obtain hp | hp := List.mem_append.1 hp
    · exact hgroups groups p hp
    · rw [List.mem_singleton.1 hp]
      exact tail.notMem hdot hdigit
  have hdouble {pre post : List OcString} (hpre : ∀ p ∈ pre, c ∉ p) (hpost : ∀ p ∈ post, c ∉ p) :
      c ∉ joinSegments pre ++ 58 :: 58 :: joinSegments post := by
    rintro hmem
    obtain hmem | hmem := List.mem_append.1 hmem
    · exact notMem_joinSegments hcolon hpre hmem
    · simp only [List.mem_cons] at hmem
      obtain hmem | hmem | hmem := hmem
      · exact hcolon hmem
      · exact hcolon hmem
      · exact notMem_joinSegments hcolon hpost hmem
  cases a with
  | full groups eight => exact notMem_joinSegments hcolon (hgroups groups)
  | compressed pre post seven => exact hdouble (hgroups pre) (hgroups post)
  | fullDotted groups six tail => exact notMem_joinSegments hcolon (htail groups tail)
  | compressedDotted pre post five tail => exact hdouble (hgroups pre) (htail post tail)

theorem HostText.slash_notMem (host : HostText) : 47 ∉ host.text := by
  cases host with
  | ipv4 t => exact t.notMem (by decide) (by decide)
  | ipv6 a =>
    rintro hmem
    simp only [HostText.text, List.cons_append, List.mem_cons, List.mem_append, List.not_mem_nil, or_false] at hmem
    obtain hmem | hmem | hmem := hmem
    · exact absurd hmem (by decide)
    · exact a.notMem (by decide) (by decide) (by decide) (by decide) hmem
    · exact absurd hmem (by decide)

theorem Ipv4Text.head_ne (t : Ipv4Text) (behind : OcString) : (t.text ++ behind).head? ≠ some 91 := by
  have hlen := t.length_text
  have hbracket : 91 ∉ t.text := t.notMem (by decide) (by decide)
  rcases ht : t.text with _ | ⟨c, rest⟩
  · rw [ht] at hlen
    exact absurd hlen (by decide)
  · rw [ht] at hbracket
    rintro heq
    exact hbracket (by rw [Option.some.inj heq]; exact List.mem_cons_self)

theorem memchr_none {s : OcString} {c : UInt8} {n : Nat} (h : c ∉ s.take n) : memchr s c n = none := by
  rw [memchr, List.findIdx?_eq_none_iff]
  rintro x hx
  simpa using fun heq : x = c => h (heq ▸ hx)

theorem Ipv6Text.portColon (a : Ipv6Text) (behind : OcString) : portColon ((HostText.ipv6 a).text ++ behind) =
    some ((memchr (93 :: behind) 58 behind.length).map (a.text.length + 1 + ·)) := by
  have htext : (HostText.ipv6 a).text ++ behind = (91 :: a.text) ++ 93 :: behind := by simp [HostText.text]
  have hbracket : 93 ∉ 91 :: a.text := by
    rintro hmem
    obtain hmem | hmem := List.mem_cons.1 hmem
    · exact absurd hmem (by decide)
    · exact a.notMem (by decide) (by decide) (by decide) (by decide) hmem
  have hdrop : ((91 :: a.text) ++ 93 :: behind : OcString).drop (a.text.length + 1) = 93 :: behind :=
    List.drop_left' (by simp)
  have hrest : ((91 :: a.text) ++ 93 :: behind : OcString).length - (a.text.length + 1 + 1) = behind.length := by
    simp only [List.length_append, List.length_cons]
    omega
  unfold SmartGarage.portColon
  rw [htext, if_pos (show ((91 :: a.text) ++ 93 :: behind : OcString).head? = some 91 from rfl),
    memchr_eq hbracket (by simp)]
  show some ((memchr (((91 :: a.text) ++ 93 :: behind : OcString).drop (a.text.length + 1)) 58
    (((91 :: a.text) ++ 93 :: behind : OcString).length - (a.text.length + 1 + 1))).map _) = _
  rw [hdrop, hrest]
  rfl

theorem Ipv4Text.portColon (t : Ipv4Text) (behind : OcString) : portColon ((HostText.ipv4 t).text ++ behind) =
    some (memchr (t.text ++ behind) 58 (t.text ++ behind).length) := if_neg (t.head_ne behind)

theorem portColon_none {host : HostText} {behind : OcString} (h : 58 ∉ host.searched behind) :
    portColon (host.text ++ behind) = some none := by
  cases host with
  | ipv4 t =>
    rw [t.portColon, memchr_none]
    rw [List.take_length]
    rintro hmem
    obtain hmem | hmem := List.mem_append.1 hmem
    · exact t.notMem (by decide) (by decide) hmem
    · exact h hmem
  | ipv6 a =>
    rw [a.portColon, memchr_none]
    · rfl
    · rintro hmem
      cases behind with
      | nil => cases hmem
      | cons c rest =>
        rw [List.length_cons, List.take_succ_cons] at hmem
        obtain hmem | hmem := List.mem_cons.1 hmem
        · exact absurd hmem (by decide)
        · refine h ?_
          show 58 ∈ (c :: rest).dropLast
          rwa [List.dropLast_eq_take]

theorem portColon_some {host : HostText} {mid rest : OcString} (hmid : 58 ∉ mid)
    (hrest : 58 ∈ host.searched (mid ++ 58 :: rest)) :
    portColon (host.text ++ (mid ++ 58 :: rest)) = some (some (host.text.length + mid.length)) := by
  cases host with
  | ipv4 t =>
    have hnone : 58 ∉ t.text ++ mid := by
      rintro hmem
      obtain hmem | hmem := List.mem_append.1 hmem
      · exact t.notMem (by decide) (by decide) hmem
      · exact hmid hmem
    rw [t.portColon, ← List.append_assoc, memchr_eq hnone (by simp), List.length_append]
    rfl
  | ipv6 a =>
    have hne : rest ≠ [] := by
      rintro rfl
      refine hmid ?_
      have hmem : 58 ∈ (mid ++ [58]).dropLast := hrest
      rwa [List.dropLast_concat] at hmem
    have hpos := List.length_pos_iff.2 hne
    have hnone : 58 ∉ (93 :: mid : OcString) := by
      rintro hmem
      obtain hmem | hmem := List.mem_cons.1 hmem
      · exact absurd hmem (by decide)
      · exact hmid hmem
    rw [a.portColon, ← List.cons_append, memchr_eq hnone (by
      simp only [List.length_append, List.length_cons]
      omega)]
    simp only [Option.map_some, HostText.text, List.length_append, List.length_cons, List.length_nil]
    congr 2
    omega

theorem HostText.text_ne (host : HostText) : host.text ≠ [] := by
  cases host with
  | ipv4 t =>
    have hlen := t.length_text
    rintro heq
    have hnil : t.text = [] := heq
    rw [hnil] at hlen
    exact absurd hlen (by decide)
  | ipv6 a => exact List.cons_ne_nil _ _

/-! ## What is read -/

theorem uri_of_slash {front path : OcString} (hfront : 47 ∉ front) (hpath : path = [] ∨ path.head? = some 47) :
    (memchr (front ++ path) 47 (front ++ path).length).map (front ++ path).drop = if path = [] then none else some path := by
  rw [memchr_slash hfront hpath]
  split
  · rfl
  · exact congrArg some List.drop_left

variable {flags : TransportFlags} {host : HostText} {path : OcString}

theorem cut_host (hpath : path = [] ∨ path.head? = some 47) (hcolon : 58 ∉ host.searched path) :
    Cut flags (host.text ++ path) host.text (if flags.secured then 5684 else 5683)
      (if path = [] then none else some path) := by
  refine ⟨fun h => host.text_ne (List.append_eq_nil_iff.1 h).1, ⟨none, portColon_none hcolon, ?_, rfl⟩,
    List.take_left, uri_of_slash host.slash_notMem hpath⟩
  rw [memchr_slash host.slash_notMem hpath]
  split
  · rename_i hnil
    simp [hnil]
  · rfl

theorem cut_port (d : DecimalText) (hlt : d.value < 2 ^ 16) (hpath : path = [] ∨ path.head? = some 47) :
    Cut flags (host.text ++ (58 :: d.text ++ path)) host.text d.value (if path = [] then none else some path) := by
  have hsearched : 58 ∈ host.searched ([] ++ 58 :: (d.text ++ path)) := by
    cases host with
    | ipv4 t => exact List.mem_cons_self
    | ipv6 a =>
      show 58 ∈ (58 :: (d.text ++ path)).dropLast
      rw [List.dropLast_cons_of_ne_nil fun h => d.ne (List.append_eq_nil_iff.1 h).1]
      exact List.mem_cons_self
  have hslash : 47 ∉ host.text ++ 58 :: d.text := by
    rintro hmem
    simp only [List.mem_append, List.mem_cons] at hmem
    obtain hmem | hmem | hmem := hmem
    · exact host.slash_notMem hmem
    · exact absurd hmem (by decide)
    · exact d.notMem (by decide) hmem
  have htext : host.text ++ (58 :: d.text ++ path) = (host.text ++ 58 :: d.text) ++ path := by simp
  refine ⟨fun h => host.text_ne (List.append_eq_nil_iff.1 h).1, ⟨_, portColon_some List.not_mem_nil hsearched, rfl, ?_⟩,
    List.take_left, ?_⟩
  · have hdrop : (host.text ++ (58 :: d.text ++ path)).drop (host.text.length + 0 + 1) = d.text ++ path := by
      rw [show host.text ++ (58 :: d.text ++ path) = (host.text ++ [58]) ++ (d.text ++ path) by simp]
      exact List.drop_left' (by simp)
    have hnone : ∀ c ∈ path.head?, Decimal.isDigit c = false := by
      rintro c hc
      obtain rfl | hslash := hpath
      · cases hc
      · rw [hslash] at hc
        cases hc
        decide
    show (Decimal.strtoul ((host.text ++ (58 :: d.text ++ path)).drop (host.text.length + 0 + 1))).1 % 2 ^ 16 = d.value
    rw [hdrop, d.strtoul (by omega) hnone]
    exact Nat.mod_eq_of_lt hlt
  · rw [htext]
    exact uri_of_slash hslash hpath

theorem cut_colon {mid rest : OcString} (hhead : (mid ++ 58 :: rest).head? = some 47) (hmid : 58 ∉ mid)
    (hsearched : 58 ∈ host.searched (mid ++ 58 :: rest)) :
    Cut flags (host.text ++ (mid ++ 58 :: rest)) (host.text ++ mid) ((Decimal.strtoul rest).1 % 2 ^ 16)
      (some (mid ++ 58 :: rest)) := by
  have huri := uri_of_slash host.slash_notMem (.inr hhead)
  rw [if_neg (by simp)] at huri
  refine ⟨fun h => host.text_ne (List.append_eq_nil_iff.1 h).1, ⟨_, portColon_some hmid hsearched, ?_, ?_⟩, ?_, huri⟩
  · rw [Option.getD_some, List.length_append]
  · have hdrop : (host.text ++ (mid ++ 58 :: rest)).drop (host.text.length + mid.length + 1) = rest := by
      rw [show host.text ++ (mid ++ 58 :: rest) = (host.text ++ mid ++ [58]) ++ rest by simp]
      exact List.drop_left' (by simp only [List.length_append, List.length_singleton])
    show (Decimal.strtoul ((host.text ++ (mid ++ 58 :: rest)).drop (host.text.length + mid.length + 1))).1 % 2 ^ 16 = _
    rw [hdrop]
  · rw [← List.append_assoc]
    exact List.take_left

variable {ocDnsLookup : OcString → TransportFlags → Option OcString} {address behind : OcString} {port : Nat}
  {uri : Option OcString}

theorem Ipv4Text.last (t : Ipv4Text) : Decimal.isDigit (t.text.getLastD 47) = true := by
  have heq : t.text = (t.a.text ++ 46 :: (t.b.text ++ 46 :: (t.c.text ++ [46]))) ++ t.d.text := by simp [Ipv4Text.text]
  rw [List.getLastD_eq_getLast?, heq, List.getLast?_append, List.getLast?_eq_some_getLast t.d.ne]
  exact t.d.digits _ (List.getLast_mem t.d.ne)

/-- A string that is cut behind the host is read as it says, unless the address has a dotted end in brackets. -/
theorem read_host (h : Cut flags (host.text ++ behind) host.text port uri)
    (hdigit : ∀ c ∈ behind.head?, Decimal.isDigit c = false) :
    ocStringToEndpoint ocDnsLookup (ocScheme flags ++ (host.text ++ behind)) = .ok (host.endpoint flags port) uri ↔
      host.hasDotted = false := by
  cases host with
  | ipv4 t =>
    refine iff_of_true ?_ rfl
    rw [h.ipv4 (.inl (t.head_ne behind)) (digit_notLetter _ t.last)]
    show StringToEndpoint.ok { OcEndpoint.zero with
      flags := _, address := ocParseIpv4Address (t.text ++ behind) t.text.length, port := _ } _ = _
    rw [ocParseIpv4Address_text t (Nat.le_refl _) hdigit]
    rfl
  | ipv6 a =>
    rw [Cut.ipv6 h]
    cases hdotted : a.hasDotted with
    | false => exact iff_of_true (by rw [ocParseIpv6Address_text hdotted]; rfl) hdotted
    | true =>
      have hread := ocParseIpv6Address_hasDotted hdotted List.not_mem_nil
      rw [List.append_nil] at hread
      refine iff_of_false ?_ ?_
      · rw [hread]
        simp
      · show ¬a.hasDotted = false
        rw [hdotted]
        simp

theorem getLastD_behind {front mid : OcString} (hmid : mid ≠ []) : (front ++ mid).getLastD 47 = mid.getLastD 47 := by
  rw [List.getLastD_eq_getLast?, List.getLastD_eq_getLast?, List.getLast?_append, List.getLast?_eq_some_getLast hmid]
  rfl

theorem Ipv6Text.not_sevenInFront {a : Ipv6Text} (h : a.hasDotted = true) : a.sevenInFront = false := by
  cases a with
  | full groups eight => rfl
  | compressed pre post seven => cases h
  | fullDotted groups six tail => rfl
  | compressedDotted pre post five tail => rfl

theorem Ipv6Text.notDotted {a : Ipv6Text} (h : a.sevenInFront = true) : a.hasDotted = false := by
  cases hdotted : a.hasDotted with
  | false => rfl
  | true =>
    rw [Ipv6Text.not_sevenInFront hdotted] at h
    cases h

theorem read_bracket {a : Ipv6Text} {m : OcString} {portRead : Nat} (hcolon : 58 ∉ m)
    (hcut : Cut flags address (91 :: (a.text ++ 93 :: 47 :: m) ++ [93]) portRead uri) :
    ocStringToEndpoint ocDnsLookup (ocScheme flags ++ address) = .ok ((HostText.ipv6 a).endpoint flags port) uri ↔
      (a.sevenInFront = true ∧ m.length ≤ 2) ∧ portRead = port := by
  rw [hcut.ipv6]
  cases hdotted : a.hasDotted with
  | true =>
    have hnone : ocParseIpv6Address (a.text ++ 93 :: 47 :: m) = none :=
      ocParseIpv6Address_hasDotted hdotted (by simpa using hcolon)
    rw [hnone, Ipv6Text.not_sevenInFront hdotted]
    exact iff_of_false (by simp) (by simp)
  | false =>
    have hread := ocParseIpv6Address_behind hdotted hcolon
    constructor
    · rintro heq
      cases hparse : ocParseIpv6Address (a.text ++ 93 :: 47 :: m) with
      | none =>
        rw [hparse] at heq
        cases heq
      | some octets =>
        rw [hparse] at heq
        have hendpoint := (StringToEndpoint.ok.inj heq).1
        have haddress : octets = a.octets := congrArg OcEndpoint.address hendpoint
        rw [haddress] at hparse
        exact ⟨hread.1 hparse, congrArg OcEndpoint.port hendpoint⟩
    · rintro ⟨hskip, hport⟩
      rw [hread.2 hskip, hport]
      rfl

/-- A string that is cut in the path is read as it says if what is in front of the colon is skipped, and the number
behind it is the port. -/
theorem read_colon {mid rest : OcString} (hhead : (mid ++ 58 :: rest).head? = some 47) (hmid : 58 ∉ mid)
    (hsearched : 58 ∈ host.searched (mid ++ 58 :: rest))
    (hlookup : ∀ name flags, 47 ∈ name → ocDnsLookup name flags = none) :
    ocStringToEndpoint ocDnsLookup (ocScheme flags ++ (host.text ++ (mid ++ 58 :: rest))) =
      .ok (host.endpoint flags port) (some (mid ++ 58 :: rest)) ↔
        host.Skips mid ∧ (Decimal.strtoul rest).1 % 2 ^ 16 = port := by
  obtain ⟨m, rfl⟩ : ∃ m, mid = 47 :: m := by
    cases mid with
    | nil => cases hhead
    | cons c m =>
      cases hhead
      exact ⟨m, rfl⟩
  have hcut : Cut flags _ _ _ _ := cut_colon hhead hmid hsearched
  have hlast : (host.text ++ 47 :: m).getLastD 47 = _ := getLastD_behind (List.cons_ne_nil 47 m)
  cases hletter : isLetter ((47 :: m).getLastD 47) with
  | true =>
    -- what is in front of the colon is looked up as a name
    rw [hcut.name (by rw [hlast, hletter]) fun flags => hlookup _ flags (by simp)]
    refine iff_of_false (by simp) fun hcond => ?_
    cases host with
    | ipv4 t =>
      have hnot : isLetter ((47 :: m).getLastD 47) = false := hcond.1
      rw [hletter] at hnot
      cases hnot
    | ipv6 a =>
      have hend : (47 :: m).getLast? = some 93 := hcond.1.2.2
      rw [List.getLastD_eq_getLast?, hend] at hletter
      exact absurd hletter (by decide)
  | false =>
    cases host with
    | ipv4 t =>
      rw [hcut.ipv4 (.inl (t.head_ne _)) (by rw [hlast, hletter])]
      show StringToEndpoint.ok { OcEndpoint.zero with
        flags := _, address := ocParseIpv4Address (t.text ++ (47 :: m ++ 58 :: rest)) (t.text ++ 47 :: m).length,
        port := _ } _ = _ ↔ _
      rw [ocParseIpv4Address_text t (by simp) (by rintro c hc; cases hc; decide)]
      constructor
      · rintro heq
        exact ⟨hletter, congrArg OcEndpoint.port (StringToEndpoint.ok.inj heq).1⟩
      · rintro ⟨-, heq⟩
        rw [heq]
        rfl
    | ipv6 a =>
      by_cases hbracket : (47 :: m).getLast? = some 93
      · -- a bracket at the end is taken for that of the address
        obtain ⟨m, rfl⟩ : ∃ m', m = m' ++ [93] := by
          obtain rfl | ⟨init, c, rfl⟩ := List.eq_nil_or_concat m
          · cases hbracket
          · rw [List.concat_eq_append, ← List.cons_append, List.getLast?_concat] at hbracket
            exact ⟨init, by rw [List.concat_eq_append, Option.some.inj hbracket]⟩
        have hbefore : (HostText.ipv6 a).text ++ 47 :: (m ++ [93]) = 91 :: (a.text ++ 93 :: 47 :: m) ++ [93] := by
          simp [HostText.text]
        have hshort : (47 :: (m ++ [93])).length ≤ 4 ↔ m.length ≤ 2 := by
          simp only [List.length_cons, List.length_append, List.length_nil]
          omega
        rw [hbefore] at hcut
        refine (read_bracket (fun h => hmid (by simp [h])) hcut).trans (and_congr_left' ?_)
        show _ ↔ a.sevenInFront = true ∧ (47 :: (m ++ [93])).length ≤ 4 ∧ (47 :: (m ++ [93])).getLast? = some 93
        rw [hshort, and_iff_left hbracket]
      · rw [hcut.ipv4 (.inr ?_) (by rw [hlast, hletter])]
        · refine iff_of_false ?_ fun hcond => hbracket hcond.1.2.2
          rintro heq
          have hflags := congrArg (fun e : OcEndpoint => e.flags.ipv4) (StringToEndpoint.ok.inj heq).1
          exact absurd hflags (by simp [HostText.endpoint, schemeFlags, TransportFlags.zero])
        · rw [hlast, List.getLastD_eq_getLast?, List.getLast?_eq_some_getLast (List.cons_ne_nil 47 m)]
          rw [List.getLast?_eq_some_getLast (List.cons_ne_nil 47 m)] at hbracket
          exact fun heq => hbracket (congrArg some heq)

theorem HostText.searched_sub {c : UInt8} (h : c ∈ host.searched path) : c ∈ path := by
  cases host with
  | ipv4 t => exact h
  | ipv6 a => exact (List.dropLast_sublist _).mem h

theorem HostText.Skips.notDotted {mid : OcString} (h : host.Skips mid) : host.hasDotted = false := by
  cases host with
  | ipv4 t => rfl
  | ipv6 a => exact Ipv6Text.notDotted h.1

/-- Strings of the form are read as what they say if and only if they are readable. Names with a slash are not found. -/
theorem ocStringToEndpoint_text (hlookup : ∀ name flags, 47 ∈ name → ocDnsLookup name flags = none) (t : EndpointText) :
    ocStringToEndpoint ocDnsLookup t.text = .ok t.endpoint t.uri ↔ t.Readable := by
  obtain ⟨flags, host, port, path, hlt, hpath⟩ := t
  have hnoDigit : ∀ c ∈ path.head?, Decimal.isDigit c = false := by
    rintro c hc
    obtain rfl | hslash := hpath
    · cases hc
    · rw [hslash] at hc
      cases hc
      decide
  unfold EndpointText.Readable
  cases port with
  | some d =>
    have hcut : Cut flags (host.text ++ _) _ _ _ := cut_port d (hlt d rfl) hpath
    refine (read_host hcut (by rintro c hc; cases hc; decide)).trans ?_
    exact ⟨fun h => ⟨h, fun hnone => absurd hnone (by simp)⟩, And.left⟩
  | none =>
    by_cases hcolon : 58 ∈ host.searched path
    · obtain ⟨mid, rest, hsplit, hmid, hrest, htake⟩ := exists_segment path
      have hmem := HostText.searched_sub hcolon
      obtain ⟨after, rfl⟩ : ∃ after, rest = 58 :: after := by
        cases rest with
        | nil =>
          rw [hsplit, List.append_nil] at hmem
          exact absurd hmem hmid
        | cons c after => exact ⟨after, by rw [hrest c rfl]⟩
      have hhead : path.head? = some 47 := by
        obtain rfl | hslash := hpath
        · cases hmem
        · exact hslash
      have hfront : EndpointText.inFront ⟨flags, host, none, path, hlt, hpath⟩ = mid := htake
      have hbehind : EndpointText.behindColon ⟨flags, host, none, path, hlt, hpath⟩ =
          (Decimal.strtoul after).1 % 2 ^ 16 := by
        have hdrop : path.drop (mid.length + 1) = after := by
          rw [hsplit, show mid ++ 58 :: after = (mid ++ [58]) ++ after by simp]
          exact List.drop_left' (by simp only [List.length_append, List.length_singleton])
        unfold EndpointText.behindColon
        rw [hfront]
        show (Decimal.strtoul (path.drop (mid.length + 1))).1 % 2 ^ 16 = _
        rw [hdrop]
      have huri : EndpointText.uri ⟨flags, host, none, path, hlt, hpath⟩ = some path :=
        if_neg (List.ne_nil_of_mem hmem)
      rw [huri]
      have hread : ocStringToEndpoint ocDnsLookup (ocScheme flags ++ (host.text ++ (mid ++ 58 :: after))) =
          .ok (host.endpoint flags (if flags.secured then 5684 else 5683)) (some (mid ++ 58 :: after)) ↔ _ :=
        read_colon (by rw [← hsplit, hhead]) hmid (by rwa [← hsplit]) hlookup
      rw [← hsplit] at hread
      refine hread.trans ?_
      unfold EndpointText.HarmlessColon
      rw [hfront, hbehind]
      exact ⟨fun h => ⟨h.1.notDotted, fun _ _ => h⟩, fun h => h.2 rfl hcolon⟩
    · have hcut : Cut flags _ _ _ _ := cut_host hpath hcolon
      refine (read_host hcut hnoDigit).trans ?_
      exact ⟨fun h => ⟨h, fun _ hmem => absurd hmem hcolon⟩, And.left⟩

theorem exists_octet {c : UInt8} (h : Decimal.isDigit c = true) (hlt : Decimal.value [c] < 256) :
    ∃ x : OctetText, x.text = [c] := ⟨⟨⟨[c], by simp, by simpa using h⟩, hlt⟩, rfl⟩

theorem exists_ipv4 : ∃ t : Ipv4Text, t.text = ascii "1.2.3.4" := by
  obtain ⟨a, ha⟩ := exists_octet (c := 49) (by decide) (by decide)
  obtain ⟨b, hb⟩ := exists_octet (c := 50) (by decide) (by decide)
  obtain ⟨c, hc⟩ := exists_octet (c := 51) (by decide) (by decide)
  obtain ⟨d, hd⟩ := exists_octet (c := 52) (by decide) (by decide)
  refine ⟨⟨a, b, c, d⟩, ?_⟩
  rw [Ipv4Text.text, ha, hb, hc, hd]
  rfl

/-- A string with a port is read. -/
theorem ocStringToEndpoint_text_port : ∃ t : EndpointText, t.text = ascii "coap://1.2.3.4:80/a:b" ∧
    ocStringToEndpoint (fun _ _ => none) t.text = .ok t.endpoint t.uri := by
  obtain ⟨host, hhost⟩ := exists_ipv4
  refine ⟨⟨TransportFlags.zero, .ipv4 host, some ⟨ascii "80", by decide, List.all_eq_true.1 rfl⟩, ascii "/a:b",
    by rintro d hd; cases hd; decide, .inr rfl⟩, ?_, ?_⟩
  · show ocScheme _ ++ (host.text ++ _) = _
    rw [hhost]
    rfl
  · exact (ocStringToEndpoint_text (fun _ _ _ => rfl) _).2 ⟨rfl, fun hnone => by cases hnone⟩

/-- The colon of a path is taken for the one in front of a port. -/
theorem ocStringToEndpoint_colon : ∃ t : EndpointText, t.text = ascii "coap://1.2.3.4/a:b" ∧
    ocStringToEndpoint (fun _ _ => none) t.text ≠ .ok t.endpoint t.uri := by
  obtain ⟨host, hhost⟩ := exists_ipv4
  have htext : EndpointText.text ⟨TransportFlags.zero, .ipv4 host, none, ascii "/a:b", by simp, .inr rfl⟩ =
      ascii "coap://1.2.3.4/a:b" := by
    show ocScheme _ ++ (host.text ++ _) = _
    rw [hhost]
    rfl
  refine ⟨_, htext, ?_⟩
  have herror : ocStringToEndpoint (fun _ _ => none) (ascii "coap://1.2.3.4/a:b") = .error := rfl
  rw [htext, herror]
  simp

end SmartGarage
