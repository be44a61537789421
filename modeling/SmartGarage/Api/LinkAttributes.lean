/-
The links of a discovery response and what `oc_ri_process_discovery_payload` reports of them: each with the attributes
that it has itself, unless a variable of the walk still holds what another entry has left there.
-/
import SmartGarage.Api.DiscoveryClient
import SmartGarage.Api.UnionReads

namespace SmartGarage

/-! ## The last of some entries -/

section Last

variable {α β : Type} (f : α → Option β)

/-- What the last of the entries that have a value says. -/
def lastSome (entries : List α) : Option β := (entries.filterMap f).getLast?

theorem lastSome_append (l₁ l₂ : List α) : lastSome f (l₁ ++ l₂) = (lastSome f l₂).or (lastSome f l₁) := by
  unfold lastSome
  rw [List.filterMap_append, List.getLast?_append]

theorem lastSome_singleton (x : α) : lastSome f [x] = f x := by
  unfold lastSome
  cases h : f x with
  | none => simp [h]
  | some b => simp [h]

end Last

/-! ## The attributes of a link -/

/-- An entry that is the anchor of a link. -/
def anchorEntry : RepNode → Option OcString
  | .leaf name (.string text) => if name = ascii "anchor" then some text else none
  | _ => none

/-- An entry that is the path of a link. -/
def hrefEntry : RepNode → Option OcString
  | .leaf name (.string text) => if name = ascii "href" then some text else none
  | _ => none

/-- An array of strings with its name. -/
def stringsEntry : RepNode → Option (OcString × List OcString)
  | .array name .string length stored _ => some (name, RepBlock.texts ⟨stored, length⟩)
  | _ => none

/-- An entry with the types of a link. -/
def rtEntry (node : RepNode) : Option (List OcString) :=
  (stringsEntry node).bind fun e => if e.1 = ascii "rt" then some e.2 else none

/-- An entry with the interfaces of a link. -/
def ifEntry (node : RepNode) : Option InterfaceMask :=
  (stringsEntry node).bind fun e => if e.1 = ascii "if" then some (interfaceMaskOf e.2) else none

/-- Any array of strings but the types. -/
def otherStrings (node : RepNode) : Option InterfaceMask :=
  (stringsEntry node).bind fun e => if e.1 = ascii "rt" then none else some (interfaceMaskOf e.2)

/-- The integer `bm` of a policy. -/
def bmInteger : RepNode → Option (BitVec 32)
  | .leaf name (.int v) => if name = ascii "bm" then some (BitVec.ofInt 32 v) else none
  | _ => none

/-- An entry with the policy of a link. -/
def bmEntry : RepNode → Option (BitVec 32)
  | .object name entries => if name = ascii "p" then lastSome bmInteger entries else none
  | _ => none

/-- An entry with a policy that begins with its `bm`. -/
def firstBm : RepNode → Option (BitVec 32)
  | .object name (entry :: _) => if name = ascii "p" then bmInteger entry else none
  | _ => none

/-- The anchor says which device a link is of: `oc_str_to_uuid` writes the same bytes whatever the variable held, and
whatever is in the memory behind the text. -/
def AnchorOf (anchor : OcString) (di : OcUuid) : Prop :=
  ∀ behind previous, ocStrToUuid ((anchor ++ 0 :: behind).drop 6) previous = di

/-! ## Reports -/

/-- A call of the handler, and the link that it is made for. -/
structure LinkReport where
  link : List RepNode
  call : DiscoveryCall

/-- A link is reported with its own path, anchor and types, of which none is missing, with its own interfaces and its own
policy, zero where it has none, and with endpoints of the device that its anchor names. -/
structure LinkReport.IsOwn (r : LinkReport) : Prop where
  anchor : r.call.anchor = lastSome anchorEntry r.link ∧ r.call.anchor ≠ none
  uri : r.call.uri = lastSome hrefEntry r.link ∧ r.call.uri ≠ none
  types : r.call.types = lastSome rtEntry r.link ∧ r.call.types ≠ none
  ifaceMask : r.call.ifaceMask = (lastSome ifEntry r.link).getD 0
  bm : r.call.bm = (lastSome bmEntry r.link).getD 0
  di : ∃ anchor ∈ lastSome anchorEntry r.link, ∃ di, AnchorOf anchor di ∧ ∀ ep ∈ r.call.endpoints, ep.di = di

section Client

variable (ocDnsLookup : OcString → TransportFlags → Option OcString) (endpoint : OcEndpoint)

/-- The loop over the links, which keeps with each call its link. -/
def reportLoop (stops : List DiscoveryCall → Bool) (s : LinkScan) (calls : List DiscoveryCall) :
    List (List RepNode) → Option (List LinkReport)
  | [] => some []
  | link :: rest => do
    let s ← s.link ocDnsLookup endpoint link
    if s.epsList = [] then reportLoop stops s calls rest
    else
      let call := s.call (!rest.isEmpty)
      if stops (calls ++ [call]) then some [⟨link, call⟩]
      else (reportLoop stops s (calls ++ [call]) rest).map (⟨link, call⟩ :: ·)

theorem reportLoop_calls (stops : List DiscoveryCall → Bool) : ∀ (links : List (List RepNode)) (s : LinkScan)
    (calls : List DiscoveryCall), (reportLoop ocDnsLookup endpoint stops s calls links).map
      (fun reports => calls ++ reports.map LinkReport.call) =
        (discoveryLoop ocDnsLookup endpoint stops s calls links).map DiscoveryRun.calls
  | [], s, calls => by simp [reportLoop, discoveryLoop]
  | link :: rest, s, calls => by
    unfold reportLoop discoveryLoop
    cases hlink : s.link ocDnsLookup endpoint link with
    | none => rfl
    | some s' =>
      simp only [Option.bind_eq_bind, Option.bind_some]
      split
      · exact reportLoop_calls stops rest s' calls
      · split
        · rfl
        · rw [← reportLoop_calls stops rest s' (calls ++ [s'.call (!rest.isEmpty)]), Option.map_map]
          refine congrArg (Option.map · _) (funext fun reports => ?_)
          simp

/-- The walk over what has been parsed; `di` is what the variable holds in front of the first link. -/
def discoveryReports (di : OcUuid) (stops : List DiscoveryCall → Bool) (p : List RepNode) : Option (List LinkReport) :=
  reportLoop ocDnsLookup endpoint stops { LinkScan.start with di := di } [] (discoveryLinks p)

theorem discoveryReports_calls (itemMax : Nat) (payload : Cbor) (stops : List DiscoveryCall → Bool) {p : List RepNode}
    (h : ocParseRep itemMax payload = .ok p) :
    (discoveryReports ocDnsLookup endpoint OcUuid.nil stops p).map (List.map LinkReport.call) =
      (ocRiProcessDiscoveryPayload ocDnsLookup endpoint itemMax payload stops).map DiscoveryRun.calls := by
  unfold ocRiProcessDiscoveryPayload
  rw [h]
  exact reportLoop_calls ocDnsLookup endpoint stops (discoveryLinks p) .start []

/-- An entry of the first object that is the array of links. -/
def isLinks : RepNode → Bool
  | .objectArray name _ _ _ => name = ascii "links"
  | _ => false

/-- What is read as the object of a record whose type is not looked at: the first record of the payload, and each record
of the payload where the first object has no links. -/
def discoveryReads (p : List RepNode) : List UnionRead :=
  match p with
  | [] => []
  | first :: rest => ⟨first, .object⟩ ::
    if ((objectEntries first).any isLinks) then [] else (first :: rest).map (⟨·, .object⟩)

/-! ## The condition -/

/-- An array of objects with an endpoint that is taken. -/
def GivesEndpoints (node : RepNode) : Prop :=
  ∃ name objects stray count, node = .objectArray name objects stray count ∧
    ∃ eps, epsEndpoints ocDnsLookup endpoint OcUuid.nil objects = some eps ∧ eps ≠ []

/-- No text of an endpoint is one that `oc_string_to_endpoint` does not return from. -/
def LinkReturns (link : List RepNode) : Prop :=
  ∀ name objects stray count, .objectArray name objects stray count ∈ link →
    (epsEndpoints ocDnsLookup endpoint OcUuid.nil objects).isSome

/-- What some anchors make of the variable `di`, one behind the other. -/
def anchorsDi (di : OcUuid) (entries : List RepNode) : OcUuid :=
  (entries.filterMap anchorEntry).foldl (fun di anchor => ocStrToUuid (anchor.drop 6) di) di

/-- A link behind some others: it has a path, an anchor and types; the last array of strings of any name but `rt` so far
says the same as its own interfaces; its policy begins with `bm`, or says the same; and in front of its endpoints the
anchors so far name the same device as its own. -/
structure OwnAttributes (di : OcUuid) (earlier : List (List RepNode)) (link : List RepNode) : Prop where
  anchor : lastSome anchorEntry link ≠ none
  uri : lastSome hrefEntry link ≠ none
  types : lastSome rtEntry link ≠ none
  ifaceMask : (lastSome otherStrings (earlier.flatten ++ link)).getD 0 = (lastSome ifEntry link).getD 0
  bm : (lastSome firstBm link).getD 0 = (lastSome bmEntry link).getD 0
  di : ∃ anchor ∈ lastSome anchorEntry link, ∃ own, AnchorOf anchor own ∧
    ∃ front node behind, link = front ++ node :: behind ∧ GivesEndpoints ocDnsLookup endpoint node ∧
      (∀ later ∈ behind, ¬GivesEndpoints ocDnsLookup endpoint later) ∧ anchorsDi di (earlier.flatten ++ front) = own

/-- The payload is an array of objects, or at least its first record is one with the links. -/
def ObjectRoot (p : List RepNode) : Prop :=
  ∀ first ∈ p.head?, first.type = .object ∧
    ((objectEntries first).any isLinks = true ∨ ∀ node ∈ p, node.type = .object)

/-! ## What the walk has reached -/

section Scan

variable {ocDnsLookup : OcString → TransportFlags → Option OcString} {endpoint : OcEndpoint}
  {s s' : LinkScan} {node : RepNode}

theorem anchorsDi_append (di : OcUuid) (l₁ l₂ : List RepNode) :
    anchorsDi di (l₁ ++ l₂) = anchorsDi (anchorsDi di l₁) l₂ := by
  unfold anchorsDi
  rw [List.filterMap_append, List.foldl_append]

/-- The variables behind some entries, from those in front of them. -/
structure Scans (s : LinkScan) (entries : List RepNode) (s' : LinkScan) : Prop where
  anchor : s'.anchor = (lastSome anchorEntry entries).or s.anchor
  uri : s'.uri = (lastSome hrefEntry entries).or s.uri
  types : s'.types = (lastSome rtEntry entries).or s.types
  ifaceMask : s'.ifaceMask = (lastSome otherStrings entries).getD s.ifaceMask
  bm : s'.bm = (lastSome firstBm entries).getD s.bm
  di : s'.di = anchorsDi s.di entries

theorem Scans.nil (s : LinkScan) : Scans s [] s := ⟨rfl, rfl, rfl, rfl, rfl, rfl⟩

theorem getD_or {α : Type} (a b : Option α) (c : α) : (a.or b).getD c = a.getD (b.getD c) := by cases a <;> rfl

theorem Scans.append {s s₁ s₂ : LinkScan} {l₁ l₂ : List RepNode} (h₁ : Scans s l₁ s₁) (h₂ : Scans s₁ l₂ s₂) :
    Scans s (l₁ ++ l₂) s₂ := by
  constructor
  · rw [h₂.anchor, h₁.anchor, lastSome_append, Option.or_assoc]
  · rw [h₂.uri, h₁.uri, lastSome_append, Option.or_assoc]
  · rw [h₂.types, h₁.types, lastSome_append, Option.or_assoc]
  · rw [h₂.ifaceMask, h₁.ifaceMask, lastSome_append, getD_or]
  · rw [h₂.bm, h₁.bm, lastSome_append, getD_or]
  · rw [h₂.di, h₁.di, anchorsDi_append]

theorem policy_eq (entries : List RepNode) : LinkScan.policy entries = entries.head?.bind bmInteger := by
  cases entries with
  | nil => rfl
  | cons entry rest =>
    cases entry with
    | leaf name value => cases value <;> rfl
    | _ => rfl

theorem firstBm_object (name : OcString) (entries : List RepNode) :
    firstBm (.object name entries) = if name = ascii "p" then LinkScan.policy entries else none := by
  rw [policy_eq]
  cases entries with
  | nil => simp [firstBm]
  | cons entry rest => rfl

theorem entry_scans (h : s.entry ocDnsLookup endpoint node = some s') :
    Scans s [node] s' := by
  have hdi (di : OcUuid) : anchorsDi di [node] =
      ((anchorEntry node).map fun anchor => ocStrToUuid (anchor.drop 6) di).getD di := by
    unfold anchorsDi
    cases hanchor : anchorEntry node with
    | none => simp [hanchor]
    | some anchor => simp [hanchor]
  have hscans (h : s'.anchor = (anchorEntry node).or s.anchor ∧ s'.uri = (hrefEntry node).or s.uri ∧
      s'.types = (rtEntry node).or s.types ∧ s'.ifaceMask = (otherStrings node).getD s.ifaceMask ∧
      s'.bm = (firstBm node).getD s.bm ∧
      s'.di = ((anchorEntry node).map fun anchor => ocStrToUuid (anchor.drop 6) s.di).getD s.di) : Scans s [node] s' := by
    obtain ⟨hanchor, huri, htypes, hmask, hbm, hd⟩ := h
    constructor
    · rw [hanchor, lastSome_singleton]
    · rw [huri, lastSome_singleton]
    · rw [htypes, lastSome_singleton]
    · rw [hmask, lastSome_singleton]
    · rw [hbm, lastSome_singleton]
    · rw [hd, hdi]
  -- what is left is what an entry of each kind sets
  apply hscans
  cases node with
  | leaf name value =>
    cases value with
    | string text =>
      simp only [LinkScan.entry] at h
      simp only [anchorEntry, hrefEntry, rtEntry, otherStrings, stringsEntry, firstBm]
      by_cases hanchor : name = ascii "anchor"
      · have hhref : name ≠ ascii "href" := by
          rw [hanchor]
          decide
        rw [if_pos hanchor] at h
        cases h
        simp [hanchor, show ¬ascii "anchor" = ascii "href" by decide]
      · rw [if_neg hanchor] at h
        by_cases hhref : name = ascii "href"
        · rw [if_pos hhref] at h
          cases h
          simp [hhref, show ¬ascii "href" = ascii "anchor" by decide]
        · rw [if_neg hhref] at h
          cases h
          simp [hanchor, hhref]
    | _ =>
      cases h
      exact ⟨rfl, rfl, rfl, rfl, rfl, rfl⟩
  | object name entries =>
    simp only [LinkScan.entry] at h
    rw [firstBm_object]
    cases hpolicy : LinkScan.policy entries with
    | none =>
      rw [hpolicy] at h
      cases h
      exact ⟨rfl, rfl, rfl, rfl, by split <;> rfl, rfl⟩
    | some bm =>
      rw [hpolicy] at h
      dsimp only at h
      by_cases hp : name = ascii "p"
      · rw [if_pos hp] at h
        cases h
        exact ⟨rfl, rfl, rfl, rfl, by rw [if_pos hp]; rfl, rfl⟩
      · rw [if_neg hp] at h
        cases h
        exact ⟨rfl, rfl, rfl, rfl, by rw [if_neg hp]; rfl, rfl⟩
  | array name type length stored count =>
    cases type with
    | string =>
      simp only [LinkScan.entry] at h
      simp only [anchorEntry, hrefEntry, rtEntry, otherStrings, stringsEntry, firstBm, Option.bind_some]
      by_cases hrt : name = ascii "rt"
      · rw [if_pos hrt] at h
        cases h
        simp [hrt]
      · rw [if_neg hrt] at h
        cases h
        simp [hrt]
    | _ =>
      cases h
      exact ⟨rfl, rfl, rfl, rfl, rfl, rfl⟩
  | objectArray name objects stray count =>
    simp only [LinkScan.entry, Option.map_eq_some_iff] at h
    obtain ⟨eps, -, rfl⟩ := h
    split
    · exact ⟨rfl, rfl, rfl, rfl, rfl, rfl⟩
    · exact ⟨rfl, rfl, rfl, rfl, rfl, rfl⟩

theorem entries_scans : ∀ {entries : List RepNode} {s s' : LinkScan},
    entries.foldlM (fun s node => s.entry ocDnsLookup endpoint node) s = some s' → Scans s entries s'
  | [], s, s', h => by
    cases h
    exact Scans.nil s
  | node :: entries, s, s', h => by
    rw [List.foldlM_cons, Option.bind_eq_bind, Option.bind_eq_some_iff] at h
    obtain ⟨s₁, hnode, hentries⟩ := h
    exact (entry_scans hnode).append (entries_scans hentries)

/-! ## Endpoints -/

theorem linkItemEndpoints_di (di : OcUuid) : ∀ item : List RepNode, linkItemEndpoints ocDnsLookup endpoint di item =
    (linkItemEndpoints ocDnsLookup endpoint OcUuid.nil item).map (List.map fun ep => { ep with di := di })
  | [] => rfl
  | node :: item => by
    have hrest := linkItemEndpoints_di di item
    cases node with
    | leaf name value =>
      cases value with
      | string text =>
        simp only [linkItemEndpoints]
        split
        · split
          · rfl
          · exact hrest
          · split
            · rfl
            · rw [hrest, Option.map_map, Option.map_map]
              rfl
        · exact hrest
      | _ => exact hrest
    | _ => exact hrest

theorem epsEndpoints_di (di : OcUuid) : ∀ objects : List (List RepNode), epsEndpoints ocDnsLookup endpoint di objects =
    (epsEndpoints ocDnsLookup endpoint OcUuid.nil objects).map (List.map fun ep => { ep with di := di })
  | [] => rfl
  | item :: objects => by
    simp only [epsEndpoints, Option.bind_eq_bind]
    rw [linkItemEndpoints_di di item, epsEndpoints_di di objects]
    cases linkItemEndpoints ocDnsLookup endpoint OcUuid.nil item with
    | none => rfl
    | some first =>
      cases epsEndpoints ocDnsLookup endpoint OcUuid.nil objects with
      | none => rfl
      | some others => simp

theorem entry_endpoints (h : s.entry ocDnsLookup endpoint node = some s') :
    ¬GivesEndpoints ocDnsLookup endpoint node ∧ s'.epsList = s.epsList ∨
      GivesEndpoints ocDnsLookup endpoint node ∧ s'.epsList ≠ [] ∧ ∀ ep ∈ s'.epsList, ep.di = s.di := by
  have hother (hshape : ∀ name objects stray count, node ≠ .objectArray name objects stray count) :
      ¬GivesEndpoints ocDnsLookup endpoint node := by
    rintro ⟨name, objects, stray, count, heq, -⟩
    exact hshape name objects stray count heq
  cases node with
  | leaf name value =>
    refine .inl ⟨hother (by simp), ?_⟩
    cases value with
    | string text =>
      simp only [LinkScan.entry] at h
      split at h
      · cases h
        rfl
      · split at h
        · cases h
          rfl
        · cases h
          rfl
    | _ =>
      cases h
      rfl
  | object name entries =>
    refine .inl ⟨hother (by simp), ?_⟩
    simp only [LinkScan.entry] at h
    split at h
    · split at h
      · cases h
        rfl
      · cases h
        rfl
    · cases h
      rfl
  | array name type length stored count =>
    refine .inl ⟨hother (by simp), ?_⟩
    cases type with
    | string =>
      simp only [LinkScan.entry] at h
      split at h
      · cases h
        rfl
      · cases h
        rfl
    | _ =>
      cases h
      rfl
  | objectArray name objects stray count =>
    -- only here endpoints are read
    simp only [LinkScan.entry, Option.map_eq_some_iff] at h
    rw [epsEndpoints_di] at h
    obtain ⟨eps, heps, rfl⟩ := h
    obtain ⟨eps, hread, rfl⟩ := Option.map_eq_some_iff.1 heps
    by_cases hne : eps = []
    · refine .inl ⟨?_, by simp [hne]⟩
      rintro ⟨name', objects', stray', count', heq, eps', hread', hne'⟩
      cases heq
      rw [hread] at hread'
      cases hread'
      exact hne' hne
    · refine .inr ⟨⟨name, objects, stray, count, rfl, eps, hread, hne⟩, by simp [hne], ?_⟩
      rw [if_neg (by simpa using hne)]
      rintro ep hep
      obtain ⟨ep, -, rfl⟩ := List.mem_map.1 hep
      rfl

theorem entries_endpoints : ∀ {entries : List RepNode} {s s' : LinkScan},
    entries.foldlM (fun s node => s.entry ocDnsLookup endpoint node) s = some s' →
      (∀ node ∈ entries, ¬GivesEndpoints ocDnsLookup endpoint node) ∧ s'.epsList = s.epsList ∨
        ∃ front node behind, entries = front ++ node :: behind ∧ GivesEndpoints ocDnsLookup endpoint node ∧
          (∀ later ∈ behind, ¬GivesEndpoints ocDnsLookup endpoint later) ∧ s'.epsList ≠ [] ∧
            ∀ ep ∈ s'.epsList, ep.di = anchorsDi s.di front
  | [], s, s', h => by
    cases h
    exact .inl ⟨fun _ hmem => absurd hmem List.not_mem_nil, rfl⟩
  | node :: entries, s, s', h => by
    rw [List.foldlM_cons, Option.bind_eq_bind, Option.bind_eq_some_iff] at h
    obtain ⟨s₁, hnode, hentries⟩ := h
    obtain ⟨hnone, hsame⟩ | ⟨front, giving, behind, rfl, hgives, hlater, hne, hdi⟩ := entries_endpoints hentries
    · obtain ⟨hnot, hkept⟩ | ⟨hgives, hne, hdi⟩ := entry_endpoints hnode
      · refine .inl ⟨?_, hsame.trans hkept⟩
        rintro n hn
        obtain rfl | hn := List.mem_cons.1 hn
        · exact hnot
        · exact hnone n hn
      · rw [← hsame] at hne hdi
        exact .inr ⟨[], node, entries, rfl, hgives, hnone, hne, hdi⟩
    · refine .inr ⟨node :: front, giving, behind, rfl, hgives, hlater, hne, ?_⟩
      rw [show node :: front = [node] ++ front from rfl, anchorsDi_append, ← (entry_scans hnode).di]
      exact hdi

theorem lastGiving_unique {P : RepNode → Prop} {front front' behind behind' : List RepNode} {node node' : RepNode}
    (h : front ++ node :: behind = front' ++ node' :: behind') (hnode : P node) (hnode' : P node')
    (hbehind : ∀ n ∈ behind, ¬P n) (hbehind' : ∀ n ∈ behind', ¬P n) : front = front' := by
  obtain ⟨mid, rfl, hmid⟩ | ⟨mid, rfl, hmid⟩ := List.append_eq_append_iff.1 h
  · cases mid with
    | nil => exact (List.append_nil _).symm
    | cons n mid =>
      obtain ⟨rfl, rfl⟩ := List.cons.inj hmid
      exact absurd hnode' (hbehind node' (by simp))
  · cases mid with
    | nil => exact List.append_nil _
    | cons n mid =>
      obtain ⟨rfl, rfl⟩ := List.cons.inj hmid
      exact absurd hnode (hbehind' node (by simp))

theorem entry_returns :
    (s.entry ocDnsLookup endpoint node).isSome ↔ LinkReturns ocDnsLookup endpoint [node] := by
  have hother (hsome : (s.entry ocDnsLookup endpoint node).isSome)
      (hshape : ∀ name objects stray count, node ≠ .objectArray name objects stray count) :
      (s.entry ocDnsLookup endpoint node).isSome ↔ LinkReturns ocDnsLookup endpoint [node] :=
    iff_of_true hsome fun name objects stray count hmem =>
      absurd (List.mem_singleton.1 hmem).symm (hshape name objects stray count)
  cases node with
  | leaf name value =>
    refine hother ?_ (by simp)
    cases value with
    | string text =>
      simp only [LinkScan.entry]
      split
      · rfl
      · split <;> rfl
    | _ => rfl
  | object name entries =>
    refine hother ?_ (by simp)
    simp only [LinkScan.entry]
    split
    · split <;> rfl
    · rfl
  | array name type length stored count =>
    refine hother ?_ (by simp)
    cases type with
    | string =>
      simp only [LinkScan.entry]
      split <;> rfl
    | _ => rfl
  | objectArray name objects stray count =>
    simp only [LinkScan.entry, Option.isSome_map]
    rw [epsEndpoints_di, Option.isSome_map]
    constructor
    · rintro h name' objects' stray' count' hmem
      cases List.mem_singleton.1 hmem
      exact h
    · exact fun h => h name objects stray count (List.mem_singleton.2 rfl)

theorem entries_return : ∀ {entries : List RepNode} {s : LinkScan},
    (entries.foldlM (fun (s : LinkScan) node => s.entry ocDnsLookup endpoint node) s).isSome ↔ LinkReturns ocDnsLookup endpoint entries
  | [], s => iff_of_true rfl fun _ _ _ _ hmem => absurd hmem List.not_mem_nil
  | node :: entries, s => by
    have hsplit : LinkReturns ocDnsLookup endpoint (node :: entries) ↔
        LinkReturns ocDnsLookup endpoint [node] ∧ LinkReturns ocDnsLookup endpoint entries := by
      unfold LinkReturns
      constructor
      · exact fun h => ⟨fun name objects stray count hmem => h name objects stray count (by
          rw [List.mem_singleton.1 hmem]
          exact List.mem_cons_self), fun name objects stray count hmem => h name objects stray count (.tail _ hmem)⟩
      · rintro ⟨hfirst, hrest⟩ name objects stray count hmem
        obtain heq | hmem := List.mem_cons.1 hmem
        · exact hfirst name objects stray count (List.mem_singleton.2 heq)
        · exact hrest name objects stray count hmem
    rw [hsplit, ← entry_returns, List.foldlM_cons, Option.bind_eq_bind]
    cases hnode : s.entry ocDnsLookup endpoint node with
    | none => simp
    | some s₁ => simpa using entries_return

/-! ## One link -/

/-- The variables behind some links. -/
structure Behind (di : OcUuid) (earlier : List (List RepNode)) (s : LinkScan) : Prop where
  anchor : s.anchor = lastSome anchorEntry earlier.flatten
  uri : s.uri = lastSome hrefEntry earlier.flatten
  types : s.types = lastSome rtEntry earlier.flatten
  ifaceMask : s.ifaceMask = (lastSome otherStrings earlier.flatten).getD 0
  di : s.di = anchorsDi di earlier.flatten

theorem behind_start (di : OcUuid) : Behind di [] { LinkScan.start with di := di } := ⟨rfl, rfl, rfl, rfl, rfl⟩

theorem Behind.link {di : OcUuid} {earlier : List (List RepNode)} {link : List RepNode}
    (h : Behind di earlier s) (hlink : s.link ocDnsLookup endpoint link = some s') :
    Behind di (earlier ++ [link]) s' := by
  have hscans := entries_scans hlink
  have hflatten : (earlier ++ [link]).flatten = earlier.flatten ++ link := by simp
  constructor
  · rw [hscans.anchor, hflatten, lastSome_append, h.anchor]
  · rw [hscans.uri, hflatten, lastSome_append, h.uri]
  · rw [hscans.types, hflatten, lastSome_append, h.types]
  · rw [hscans.ifaceMask, hflatten, lastSome_append, getD_or, h.ifaceMask]
  · rw [hscans.di, hflatten, anchorsDi_append, h.di]

theorem or_own {α : Type} {a b c : Option α} (h : c = a.or b) (ha : a ≠ none) : c = a ∧ c ≠ none := by
  cases a with
  | none => exact absurd rfl ha
  | some v =>
    subst h
    exact ⟨rfl, by simp⟩

theorem Behind.own_iff {di : OcUuid} {earlier : List (List RepNode)} {link : List RepNode} {more : Bool}
    (h : Behind di earlier s) (hlink : s.link ocDnsLookup endpoint link = some s') (hne : s'.epsList ≠ []) :
    LinkReport.IsOwn ⟨link, s'.call more⟩ ↔ OwnAttributes ocDnsLookup endpoint di earlier link := by
  have hscans := entries_scans hlink
  have hmask : s'.ifaceMask = (lastSome otherStrings (earlier.flatten ++ link)).getD 0 := by
    rw [hscans.ifaceMask, lastSome_append, getD_or, h.ifaceMask]
  obtain ⟨-, hempty⟩ | ⟨front, node, behind, hlast, hgives, hlater, -, hdi⟩ := entries_endpoints hlink
  · exact absurd hempty hne
  · have hdi (ep : OcEndpoint) (hep : ep ∈ s'.epsList) : ep.di = anchorsDi di (earlier.flatten ++ front) := by
      rw [hdi ep hep, anchorsDi_append, h.di]
    obtain ⟨first, hfirst⟩ := List.exists_mem_of_ne_nil _ hne
    constructor
    · rintro ⟨hanchor, huri, htypes, hiface, hbm, anchor, hown, own, hof, hall⟩
      refine ⟨?_, ?_, ?_, hmask.symm.trans hiface, hscans.bm.symm.trans hbm, anchor, hown, own, hof, front, node, behind,
        hlast, hgives, hlater, (hdi first hfirst).symm.trans (hall first hfirst)⟩
      · exact hanchor.1 ▸ hanchor.2
      · exact huri.1 ▸ huri.2
      · exact htypes.1 ▸ htypes.2
    · rintro ⟨hanchor, huri, htypes, hiface, hbm, anchor, hown, own, hof, front', node', behind', hsplit, hgives', hlater',
        heq⟩
      refine ⟨?_, ?_, ?_, hmask.trans hiface, hscans.bm.trans hbm, anchor, hown, own, hof, fun ep hep => ?_⟩
      · exact or_own hscans.anchor hanchor
      · exact or_own hscans.uri huri
      · exact or_own hscans.types htypes
      · obtain rfl : front = front' :=
          lastGiving_unique (hlast.symm.trans hsplit) hgives hgives' hlater hlater'
        exact (hdi ep hep).trans heq

/-! ## All links -/

theorem link_returns {link : List RepNode} (h : LinkReturns ocDnsLookup endpoint link) :
    ∃ s', s.link ocDnsLookup endpoint link = some s' := Option.isSome_iff_exists.1 (entries_return.2 h)

theorem link_gives_iff {link : List RepNode} (h : s.link ocDnsLookup endpoint link = some s') :
    s'.epsList ≠ [] ↔ ∃ node ∈ link, GivesEndpoints ocDnsLookup endpoint node := by
  obtain ⟨hnone, hempty⟩ | ⟨front, node, behind, rfl, hgives, -, hne, -⟩ := entries_endpoints h
  · refine iff_of_false (not_not.2 hempty) ?_
    rintro ⟨node, hmem, hgives⟩
    exact hnone node hmem hgives
  · exact iff_of_true hne ⟨node, by simp, hgives⟩

theorem reports_own {di : OcUuid} {stops : List DiscoveryCall → Bool} : ∀ {links earlier : List (List RepNode)}
    {s : LinkScan} {calls : List DiscoveryCall} {reports : List LinkReport}, Behind di earlier s →
    (∀ before link behind, links = before ++ link :: behind →
      (∀ l ∈ before ++ [link], LinkReturns ocDnsLookup endpoint l) →
        (∃ node ∈ link, GivesEndpoints ocDnsLookup endpoint node) →
          OwnAttributes ocDnsLookup endpoint di (earlier ++ before) link) →
      reportLoop ocDnsLookup endpoint stops s calls links = some reports → ∀ r ∈ reports, r.IsOwn
  | [], earlier, s, calls, reports, _, _, h => by
    cases h
    exact fun r hr => absurd hr List.not_mem_nil
  | link :: rest, earlier, s, calls, reports, hbehind, hown, h => by
    unfold reportLoop at h
    rw [Option.bind_eq_bind, Option.bind_eq_some_iff] at h
    obtain ⟨s', hlink, h⟩ := h
    have hreturns : LinkReturns ocDnsLookup endpoint link := entries_return.1 (Option.isSome_iff_exists.2 ⟨s', hlink⟩)
    have hrest {calls : List DiscoveryCall} {reports : List LinkReport} :
        reportLoop ocDnsLookup endpoint stops s' calls rest = some reports → ∀ r ∈ reports, r.IsOwn := by
      refine reports_own (hbehind.link hlink) fun before next behind hsplit hreturn hgives => ?_
      have hnext := hown (link :: before) next behind (by rw [hsplit]; rfl) ?_ hgives
      · rwa [List.append_cons] at hnext
      · rintro l hl
        obtain rfl | hl := List.mem_cons.1 hl
        · exact hreturns
        · exact hreturn l hl
    split at h
    · exact hrest h
    · rename_i hne
      have hfirst : LinkReport.IsOwn ⟨link, s'.call (!rest.isEmpty)⟩ := by
        refine (hbehind.own_iff hlink hne).2 ?_
        have hlinkOwn := hown [] link rest rfl (by simpa using hreturns) ((link_gives_iff hlink).1 hne)
        rwa [List.append_nil] at hlinkOwn
      dsimp only at h
      split at h
      · cases h
        rintro r hr
        rwa [List.mem_singleton.1 hr]
      · obtain ⟨others, hothers, rfl⟩ := Option.map_eq_some_iff.1 h
        rintro r hr
        obtain rfl | hr := List.mem_cons.1 hr
        · exact hfirst
        · exact hrest hothers r hr

/-- A link with endpoints behind others that are all returned from is reported to a handler that goes on long enough. -/
theorem exists_report {di : OcUuid} {link : List RepNode} (behind : List (List RepNode))
    (hreturns : LinkReturns ocDnsLookup endpoint link) (hgives : ∃ node ∈ link, GivesEndpoints ocDnsLookup endpoint node) :
    ∀ {before earlier : List (List RepNode)} {s : LinkScan} (calls : List DiscoveryCall), Behind di earlier s →
      (∀ l ∈ before, LinkReturns ocDnsLookup endpoint l) → ∃ n, calls.length < n ∧ ∃ reports,
        reportLoop ocDnsLookup endpoint (fun calls => n ≤ calls.length) s calls (before ++ link :: behind) = some reports ∧
          ∃ r ∈ reports, r.IsOwn ↔ OwnAttributes ocDnsLookup endpoint di (earlier ++ before) link
  | [], earlier, s, calls, hbehind, _ => by
    obtain ⟨s', hlink⟩ := link_returns (s := s) hreturns
    have hne := (link_gives_iff hlink).2 hgives
    refine ⟨calls.length + 1, Nat.lt_succ_self _, [⟨link, s'.call (!behind.isEmpty)⟩], ?_, _, List.mem_singleton.2 rfl, ?_⟩
    · rw [List.nil_append, reportLoop, hlink]
      simp [hne]
    · rw [List.append_nil]
      exact hbehind.own_iff hlink hne
  | first :: before, earlier, s, calls, hbehind, hall => by
    obtain ⟨s', hfirst⟩ := link_returns (s := s) (hall first List.mem_cons_self)
    have hrest := fun l hl => hall l (List.mem_cons_of_mem _ hl)
    by_cases hempty : s'.epsList = []
    · obtain ⟨n, hn, reports, hloop, r, hr, hiff⟩ := exists_report behind hreturns hgives calls (hbehind.link hfirst) hrest
      rw [List.append_assoc] at hiff
      refine ⟨n, hn, reports, ?_, r, hr, hiff⟩
      rw [List.cons_append, reportLoop, hfirst]
      simpa [hempty] using hloop
    · have hmade : ∃ call, call = s'.call (!(before ++ link :: behind).isEmpty) := ⟨_, rfl⟩
      obtain ⟨call, hcall⟩ := hmade
      obtain ⟨n, hn, reports, hloop, r, hr, hiff⟩ :=
        exists_report behind hreturns hgives (calls ++ [call]) (hbehind.link hfirst) hrest
      rw [List.append_assoc] at hiff
      rw [List.length_append, List.length_singleton] at hn
      refine ⟨n, by omega, ⟨first, call⟩ :: reports, ?_, r, List.mem_cons_of_mem _ hr, hiff⟩
      have hgoes : ¬n ≤ calls.length + 1 := by omega
      rw [List.cons_append, reportLoop, hfirst]
      simp [hempty, hgoes, hloop, ← hcall]

/-! ## The property -/

/-- The records whose types are not looked at are objects if and only if the root is made of objects as far as it is
read. -/
theorem discoveryReads_typed (p : List RepNode) : (∀ r ∈ discoveryReads p, r.Typed) ↔ ObjectRoot p := by
  cases p with
  | nil => exact iff_of_true (fun r hr => absurd hr List.not_mem_nil) fun first hfirst => by cases hfirst
  | cons first rest =>
    have hroot : ObjectRoot (first :: rest) ↔ first.type = .object ∧
        ((objectEntries first).any isLinks = true ∨ ∀ node ∈ first :: rest, node.type = .object) := by
      unfold ObjectRoot
      simp
    have hreads : (∀ r ∈ discoveryReads (first :: rest), r.Typed) ↔ first.type = .object ∧
        ∀ r ∈ (if (objectEntries first).any isLinks then [] else (first :: rest).map (⟨·, .object⟩) : List UnionRead),
          r.Typed := List.forall_mem_cons
    rw [hroot, hreads]
    refine and_congr_right fun _ => ?_
    by_cases hlinks : (objectEntries first).any isLinks = true
    · rw [if_pos hlinks]
      exact iff_of_true (fun r hr => absurd hr List.not_mem_nil) (.inl hlinks)
    · rw [if_neg hlinks, or_iff_right hlinks, List.forall_mem_map]
      exact Iff.rfl

end Scan

/-- For every payload, whatever the handler answers: each link is reported with its own attributes if and only if each
one that can be reached and has endpoints has its attributes itself, and in time. -/
theorem discoveryReports_own_iff (di : OcUuid) (p : List RepNode) :
    ((∀ r ∈ discoveryReads p, r.Typed) ∧ ∀ stops reports,
      discoveryReports ocDnsLookup endpoint di stops p = some reports → ∀ r ∈ reports, r.IsOwn) ↔
    ObjectRoot p ∧ ∀ earlier link behind, discoveryLinks p = earlier ++ link :: behind →
      (∀ l ∈ earlier ++ [link], LinkReturns ocDnsLookup endpoint l) →
        (∃ node ∈ link, GivesEndpoints ocDnsLookup endpoint node) →
          OwnAttributes ocDnsLookup endpoint di earlier link := by
  refine and_congr (discoveryReads_typed p) ⟨?_, ?_⟩
  · rintro hreports earlier link behind hsplit hreturns hgives
    obtain ⟨n, -, reports, hloop, r, hr, hiff⟩ := exists_report behind (hreturns link (by simp)) hgives
      [] (behind_start di) fun l hl => hreturns l (List.mem_append_left _ hl)
    rw [← hsplit] at hloop
    exact hiff.1 (hreports _ reports hloop r hr)
  · rintro hown stops reports hloop
    exact reports_own (behind_start di) (fun before link behind hsplit => hown before link behind hsplit) hloop

end Client

/-- Two links, of which the second one has an endpoint only. -/
def emptySecondLink : Cbor :=
  let eps : Cbor := .array true [.map [.textString (ascii "ep"), .textString (ascii "coap://1.2.3.4")]]
  .array true
    [.map [.textString (ascii "anchor"), .textString (ascii "ocf://*"), .textString (ascii "href"), .textString (ascii "/a"),
        .textString (ascii "rt"), .array true [.textString (ascii "x")], .textString (ascii "eps"), eps],
      .map [.textString (ascii "eps"), eps]]

/-- The second link is reported with the anchor, the path and the types of the first one. -/
theorem discovery_emptySecondLink : ∃ p, ocParseRep 128 emptySecondLink = .ok p ∧ ∃ reports,
    discoveryReports (fun _ _ => none) OcEndpoint.zero OcUuid.nil (fun _ => false) p = some reports ∧
      ¬∀ r ∈ reports, r.IsOwn := by
  refine ⟨_, rfl, _, rfl, fun h => ?_⟩
  have hsecond := h _ (List.mem_cons_of_mem _ List.mem_cons_self)
  exact absurd hsecond.uri.1 (by decide)

end SmartGarage
