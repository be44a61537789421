/-
The rights of the clients that observe a collection with the batch interface, over every run of registrations,
changes of links and changes of the access control. The rights are checked when a client registers, and only for
the links that are observable; a notification is made without an origin, for all observers alike.
-/
import SmartGarage.Messaging.CollectionExact
import SmartGarage.Messaging.ObservePeriodic

namespace SmartGarage.Observe

open Runs

/-! ## The server -/

/-- The observers of a server and its access control. -/
structure BatchServer where
  server : Server
  sec : SecState

/-- `oc_sec_check_acl(OC_GET, ..)` -/
def mayRead (P : Platform) (sec : SecState) (r : OcResource) (endpoint : OcEndpoint) : Bool :=
  (ocSecCheckAcl P sec .get r endpoint).1

/-- The links of a collection are changed. -/
def Server.relink (st : Server) (collection : Nat) (f : List Nat → List Nat) : Server :=
  { st with resources := st.resources.map fun r => if r.id = collection then { r with links := f r.links } else r }

/-- What happens: an event of the observers, a link is added to a collection or removed from it, the access control
is changed, and the observers are notified by `coap_notify_collection_batch` or by `coap_notify_collections`. -/
inductive BatchEvent
  | observe (e : Event)
  | linked (collection id : Nat)
  | unlinked (collection id : Nat)
  | secured (sec : SecState)
  | batchSent (collection : Nat)
  | changed (id : Nat)

namespace BatchServer

variable (P : Platform) (ocfD : Nat) (s : BatchServer)

/-- What `oc_sec_check_acl` says of the resource at an address. -/
def allows (id : Nat) (endpoint : OcEndpoint) : Bool :=
  (s.server.resource? id).any fun r => mayRead P s.sec r.toOcResource endpoint

/-- An event with what the access control says. A collection has no links when it is made. -/
def checked : Event → Event
  | .added r => .added { r with links := [] }
  | .requested env rq => .requested { env with allowed := fun id => s.allows P id rq.endpoint } rq
  | .dosChanged device reset _ => .dosChanged device reset (s.allows P)
  | e => e

/-- A request whose client may not read the resource does not come to its observe option. -/
def admitsRequest : Event → Bool
  | .requested _ rq =>
    (findResource ocfD s.server.resources rq.packet.uriPath rq.endpoint.device).any fun cur =>
      mayRead P s.sec cur.toOcResource rq.endpoint
  | _ => true

/-- One event. A link leads to a resource that exists. -/
def step : BatchEvent → BatchServer
  | .observe e => if s.admitsRequest P ocfD e then { s with server := Observe.step ocfD s.server (s.checked P e) } else s
  | .linked collection id =>
    if (s.server.resource? id).isSome then { s with server := s.server.relink collection (· ++ [id]) } else s
  | .unlinked collection id => { s with server := s.server.relink collection (·.erase id) }
  | .secured sec => { s with sec := sec }
  | .batchSent _ | .changed _ => s

/-- A server without resources. -/
def init (sec : SecState) : BatchServer := ⟨Observe.init, sec⟩

end BatchServer

/-! ## Rights -/

/-- Every client that observes a collection with the batch interface may read what the links lead to. -/
def Rights (may : OcResource → OcEndpoint → Bool) (st : Server) : Prop :=
  ∀ c ∈ st.resources, c.isOcCollection = true → ∀ l ∈ st.resources, l.id ∈ c.links → l.handles .get = true →
    ∀ o ∈ st.observers, o.resource = c.id → o.ifaceMask = ifB → may l.toOcResource o.endpoint = true

/-- The links of collections lead to addresses that have been used. -/
def LinksKnown (st : Server) : Prop := ∀ c ∈ st.resources, ∀ id ∈ c.links, id < st.nextResource

theorem config_links {r r' : Resource} (h : config r = config r') :
    r.links = r'.links ∧ r.handles = r'.handles ∧ r.toOcResource = r'.toOcResource ∧ r.observable = r'.observable ∧
      r.isOcCollection = r'.isOcCollection :=
  ⟨congrArg (·.links) h, congrArg (·.handles) h, congrArg (·.toOcResource) h, congrArg (·.observable) h,
    congrArg (·.isOcCollection) h⟩

section Frames

variable {may : OcResource → OcEndpoint → Bool} {st st' : Server}

theorem Rights.of_config (h : Rights may st) (hobservers : ∀ o ∈ st'.observers, o ∈ st.observers)
    (hres : st'.resources.map config = st.resources.map config) : Rights may st' := by
  intro c' hc' hcollection l' hl' hlink hget o ho hresource hiface
  obtain ⟨c, hc, heq⟩ := mem_of_config hres hc'
  obtain ⟨l, hl, heql⟩ := mem_of_config hres hl'
  obtain ⟨hlinks, -, -, -, hcoll⟩ := config_links heq
  obtain ⟨-, hhandles, hoc, -, -⟩ := config_links heql
  rw [← hoc]
  refine h c hc (hcoll.trans hcollection) l hl ?_ ?_ o (hobservers o ho) (hresource.trans (config_id heq).symm) hiface
  · rw [hlinks, config_id heql]
    exact hlink
  · rw [hhandles]
    exact hget

theorem rights_stable : Stable (Rights may) where
  removes h hrem := h.of_config (fun _ ho => hrem.observers.subset ho) hrem.resources
  onlyCallbacks h hsame := h.of_config (fun _ ho => hsame.observers ▸ ho) (congrArg _ hsame.resources)

theorem LinksKnown.of_config (h : LinksKnown st) (hres : st'.resources.map config = st.resources.map config)
    (hnext : st'.nextResource = st.nextResource) : LinksKnown st' := by
  intro c' hc' id hid
  obtain ⟨c, hc, heq⟩ := mem_of_config hres hc'
  rw [hnext]
  exact h c hc id ((config_links heq).1 ▸ hid)

theorem linksKnown_stable : Stable LinksKnown where
  removes h hrem := h.of_config hrem.resources hrem.next
  onlyCallbacks h hsame := h.of_config (congrArg _ hsame.resources) hsame.next

theorem sameConfig_stable (st : Server) : Stable fun st' => st'.resources.map config = st.resources.map config where
  removes h hrem := hrem.resources.trans h
  onlyCallbacks h hsame := (congrArg _ hsame.resources).trans h

end Frames

/-! ## Registrations -/

section Request

variable {may : OcResource → OcEndpoint → Bool} {st : Server} {env : ObserveEnv} {rq : ObserveRequest} {cur : Resource}

theorem observeRequest_config (isCollection : Bool) :
    (observeRequest env rq cur isCollection st).1.resources.map config = st.resources.map config :=
  (sameConfig_stable st).observeRequest rfl isCollection fun _ =>
    (config_entered _ _).trans (replaced_removes rq st).resources

theorem linksKnown_request (h : LinksKnown st) (isCollection : Bool) :
    LinksKnown (observeRequest env rq cur isCollection st).1 :=
  linksKnown_stable.observeRequest h isCollection fun _ =>
    h.of_config ((config_entered _ _).trans (replaced_removes rq st).resources) (replaced_removes rq st).next

theorem Rights.entered (h : Rights may st) (hids : (st.resources.map (·.id)).Nodup) (hcur : cur ∈ st.resources)
    (hgrant : cur.isOcCollection = true → rq.ifaceQuery = ifB → ∀ l ∈ st.resources, l.id ∈ cur.links →
      l.handles .get = true → may l.toOcResource rq.endpoint = true) :
    Rights may (entered (replaced rq st) (newEntry rq cur)) := by
  have hrem := replaced_removes rq st
  have hres := (config_entered (replaced rq st) (newEntry rq cur)).trans hrem.resources
  intro c' hc' hcollection l' hl' hlink hget o ho hresource hiface
  obtain ⟨c, hc, heq⟩ := mem_of_config hres hc'
  obtain ⟨l, hl, heql⟩ := mem_of_config hres hl'
  obtain ⟨hlinks, -, -, -, hcoll⟩ := config_links heq
  obtain ⟨-, hhandles, hoc, -, -⟩ := config_links heql
  have hlink : l.id ∈ c.links := by
    rw [hlinks, config_id heql]
    exact hlink
  rw [← hoc]
  rcases List.mem_append.1 ho with hold | hnew
  · exact h c hc (hcoll.trans hcollection) l hl hlink (hhandles ▸ hget) o (hrem.observers.subset hold)
      (hresource.trans (config_id heq).symm) hiface
  · rw [List.mem_singleton.1 hnew] at hresource hiface ⊢
    obtain rfl : c = cur := List.inj_on_of_nodup_map hids hc hcur ((config_id heq).trans hresource.symm)
    exact hgrant (hcoll.trans hcollection) hiface l hl hlink (hhandles ▸ hget)

/-- The client's token finds the new entry: no entry before it, but for the one it replaces, has the token. -/
def TokenFindsEntry (st : Server) (rq : ObserveRequest) : Prop :=
  ocEndpointCompare rq.endpoint rq.endpoint = true ∧
    ∀ o ∈ st.observers.eraseP (isRegistration rq.endpoint rq.packet.uriPath rq.ifaceQuery),
      hasToken rq.endpoint rq.packet.token o = false

theorem register_refused (hobservable : cur.observable = true) (hobserve : rq.packet.observe = 0)
    (hrefused : linksAllowed env ((pollCurrent env cur (handled env rq cur st)).1.linked cur) = false)
    (htoken : TokenFindsEntry st rq) : ∀ o ∈ (register env rq cur true st).1.observers, o ∈ st.observers := by
  have hresult : (register env rq cur true st).1 =
      ((pollCurrent env cur (handled env rq cur st)).1.coapRemoveObserverByToken rq.endpoint rq.packet.token).1 := by
    unfold register
    dsimp only
    rw [← handled]
    simp only [if_true, hrefused, Bool.and_false, Bool.false_eq_true, if_false]
  have hsame := (pollCurrent_onlyCallbacks env cur (handled env rq cur st)).observers
  intro o ho
  rw [hresult] at ho
  unfold Server.coapRemoveObserverByToken at ho
  rw [removeFirst_observers, hsame] at ho
  rcases handled_register env st hobservable hobserve with ⟨-, hentry, -⟩ | ⟨hrem, -⟩
  · have hothers : ∀ o ∈ (replaced rq st).observers, hasToken rq.endpoint rq.packet.token o = false := by
      unfold replaced Server.coapRemoveObserverHandleByUri
      rw [removeFirst_observers]
      exact htoken.2
    have hgone := @removed_newEntry rq cur st htoken.1 hothers
    unfold Server.coapRemoveObserverByToken at hgone
    rw [removeFirst_observers] at hgone
    rw [hentry, hgone] at ho
    exact (replaced_removes rq st).observers.subset ho
  · exact hrem.observers.subset (List.eraseP_subset ho)

/-- What a registration with the batch interface needs: the client may read what the links lead to, or it is refused
for a link that is observable and its token finds the entry. -/
def Grants (may : OcResource → OcEndpoint → Bool) (st : Server) (rq : ObserveRequest) (cur : Resource) : Prop :=
  rq.packet.observe = 0 → cur.isOcCollection = true → rq.ifaceQuery = ifB →
    (∀ l ∈ st.resources, l.id ∈ cur.links → l.handles .get = true → may l.toOcResource rq.endpoint = true) ∨
    ((∃ l ∈ st.resources, l.id ∈ cur.links ∧ l.observable = true ∧ may l.toOcResource rq.endpoint = false) ∧
      TokenFindsEntry st rq)

theorem linksAllowed_refused {st' : Server} (hids : (st.resources.map (·.id)).Nodup)
    (hres : st'.resources.map config = st.resources.map config) {l : Resource} (hl : l ∈ st.resources)
    (hlink : l.id ∈ cur.links) (hobservable : l.observable = true) (hno : env.allowed l.id = false) :
    linksAllowed env (st'.linked cur) = false := by
  have hmem : l.id ∈ st'.resources.map (·.id) := by
    rw [map_id_eq hres]
    exact List.mem_map_of_mem hl
  obtain ⟨l₀, hl₀, hid₀⟩ := List.mem_map.1 hmem
  cases hfind : st'.resource? l.id with
  | none => exact absurd (by simpa using hid₀) (List.find?_eq_none.1 hfind l₀ hl₀)
  | some l' =>
    obtain ⟨hl', hid'⟩ := resource?_mem hfind
    obtain ⟨l'', hl'', heq⟩ := mem_of_config hres hl'
    obtain rfl : l'' = l := List.inj_on_of_nodup_map hids hl'' hl ((config_id heq).trans hid')
    obtain ⟨-, -, -, hobs, -⟩ := config_links heq
    refine List.all_eq_false.2 ⟨l', List.mem_filterMap.2 ⟨l''.id, hlink, hfind⟩, ?_⟩
    simp [← hobs, hobservable, hid', hno]

theorem Rights.request (h : Rights may st) (hids : (st.resources.map (·.id)).Nodup) (hcur : cur ∈ st.resources)
    (henv : ∀ l ∈ st.resources, env.allowed l.id = may l.toOcResource rq.endpoint) (hgrant : Grants may st rq cur) :
    Rights may (observeRequest env rq cur cur.isOcCollection st).1 := by
  by_cases hbatch : rq.packet.observe = 0 ∧ cur.isOcCollection = true ∧ rq.ifaceQuery = ifB
  · obtain ⟨hobserve, hcollection, hiface⟩ := hbatch
    rcases hgrant hobserve hcollection hiface with hread | ⟨⟨l, hl, hlink, hobservable, hno⟩, htoken⟩
    · exact rights_stable.observeRequest h _ fun _ => h.entered hids hcur fun _ _ => hread
    · refine h.of_config ?_ (observeRequest_config _)
      unfold observeRequest
      split
      · rename_i hread
        rw [hcollection]
        refine register_refused hread.2 hobserve ?_ htoken
        refine linksAllowed_refused hids ?_ hl hlink hobservable ((henv l hl).trans hno)
        rw [(pollCurrent_onlyCallbacks env cur (handled env rq cur st)).resources]
        exact (sameConfig_stable st).handled rfl hread.2 fun _ =>
          (config_entered _ _).trans (replaced_removes rq st).resources
      · exact fun _ ho => ho
  · refine rights_stable.observeRequest h _ fun henters => h.entered hids hcur fun hcollection hiface => ?_
    exact absurd ⟨henters.2.2.2.2.1, hcollection, hiface⟩ hbatch

end Request

/-! ## Links -/

section Links

variable {may : OcResource → OcEndpoint → Bool} {st : Server} {collection : Nat} {f : List Nat → List Nat}

theorem mem_relink {r' : Resource} (h : r' ∈ (st.relink collection f).resources) :
    ∃ r ∈ st.resources, (r' = r ∧ r.id ≠ collection) ∨ (r' = { r with links := f r.links } ∧ r.id = collection) := by
  obtain ⟨r, hr, rfl⟩ := List.mem_map.1 h
  refine ⟨r, hr, ?_⟩
  split
  · rename_i hid
    exact .inr ⟨rfl, hid⟩
  · rename_i hid
    exact .inl ⟨rfl, hid⟩

theorem map_id_relink : (st.relink collection f).resources.map (·.id) = st.resources.map (·.id) := by
  unfold Server.relink
  rw [List.map_map]
  refine List.map_congr_left fun r _ => ?_
  simp only [Function.comp_apply]
  split <;> rfl

theorem Registry.relink (h : Registry st) : Registry (st.relink collection f) where
  counted r' hr' := by
    obtain ⟨r, hr, ⟨heq, -⟩ | ⟨heq, -⟩⟩ := mem_relink hr' <;> exact heq ▸ h.counted r hr
  distinct := h.distinct
  ids := by
    rw [map_id_relink]
    exact h.ids
  fresh r' hr' := by
    obtain ⟨r, hr, ⟨heq, -⟩ | ⟨heq, -⟩⟩ := mem_relink hr' <;> exact heq ▸ h.fresh r hr
  known := h.known

theorem LinksKnown.relink (h : LinksKnown st) (hf : ∀ links, ∀ id ∈ f links, id ∈ links ∨ id < st.nextResource) :
    LinksKnown (st.relink collection f) := by
  intro r' hr' id hid
  obtain ⟨r, hr, ⟨rfl, -⟩ | ⟨rfl, -⟩⟩ := mem_relink hr'
  · exact h r' hr id hid
  · exact (hf r.links id hid).elim (h r hr id) fun hlt => hlt

theorem Rights.relink (h : Rights may st)
    (hnew : ∀ c ∈ st.resources, c.id = collection → c.isOcCollection = true → ∀ l ∈ st.resources, l.id ∈ f c.links →
      l.id ∉ c.links → l.handles .get = true → ∀ o ∈ st.observers, o.resource = c.id → o.ifaceMask = ifB →
        may l.toOcResource o.endpoint = true) : Rights may (st.relink collection f) := by
  intro c' hc' hcollection l' hl' hlink hget o ho hresource hiface
  obtain ⟨l, hl, heql⟩ : ∃ l ∈ st.resources, l.id = l'.id ∧ l.handles = l'.handles ∧ l.toOcResource = l'.toOcResource := by
    obtain ⟨l, hl, ⟨heq, -⟩ | ⟨heq, -⟩⟩ := mem_relink hl' <;> exact ⟨l, hl, heq ▸ rfl, heq ▸ rfl, heq ▸ rfl⟩
  obtain ⟨hid, hhandles, hoc⟩ := heql
  rw [← hid] at hlink
  rw [← hhandles] at hget
  rw [← hoc]
  obtain ⟨c, hc, ⟨rfl, -⟩ | ⟨rfl, heq⟩⟩ := mem_relink hc'
  · exact h c' hc hcollection l hl hlink hget o ho hresource hiface
  · by_cases hold : l.id ∈ c.links
    · exact h c hc hcollection l hl hold hget o ho hresource hiface
    · exact hnew c hc heq hcollection l hl hlink hold hget o ho hresource hiface

end Links

/-! ## Every run -/

section Runs

variable (P : Platform) (ocfD : Nat)

/-- What every run whose steps keep the rights keeps. -/
structure BatchInvariant (s : BatchServer) : Prop extends Registry s.server where
  links : LinksKnown s.server
  rights : Rights (mayRead P s.sec) s.server

/-- The collections that `coap_notify_collections` reads for a resource. -/
def visitedCollections (st : Server) (r : Resource) : List Resource :=
  ((st.resources.filter (·.isOcCollection)).filter fun c => c.device ≠ r.device || c.links.contains r.id).takeWhile
    fun c => decide (c.numObservers > 0)

/-- The condition on an event: rights are there when a client registers, they are there for the observers when a link
is added, they stay when the access control is changed; and where the walk over the collections goes on to one that
does not link the resource, behind one that does, the observers of that one may read the resource. -/
def KeepsRights (s : BatchServer) : BatchEvent → Prop
  | .observe (.requested _ rq) =>
    ∀ cur ∈ findResource ocfD s.server.resources rq.packet.uriPath rq.endpoint.device,
      mayRead P s.sec cur.toOcResource rq.endpoint = true → Grants (mayRead P s.sec) s.server rq cur
  | .linked collection id =>
    ∀ c ∈ s.server.resources, c.id = collection → c.isOcCollection = true → ∀ l ∈ s.server.resources, l.id = id →
      l.handles .get = true → ∀ o ∈ s.server.observers, o.resource = c.id → o.ifaceMask = ifB →
        mayRead P s.sec l.toOcResource o.endpoint = true
  | .secured sec => Rights (mayRead P sec) s.server
  | .changed id =>
    ∀ r ∈ s.server.resources, r.id = id → r.handles .get = true → ∀ before c behind,
      visitedCollections s.server r = before ++ c :: behind → (∃ c' ∈ before, r.id ∈ c'.links) →
        ∀ o ∈ s.server.observers, o.resource = c.id → o.ifaceMask = ifB → mayRead P s.sec r.toOcResource o.endpoint = true
  | _ => True

variable {P ocfD} {s : BatchServer}

variable {may : OcResource → OcEndpoint → Bool} {st : Server}

theorem Rights.addResource (h : Rights may st) (hlinks : LinksKnown st)
    (r : Resource) : Rights may (st.addResource { r with links := [] }) := by
  intro c hc hcollection l hl hlink hget o ho hresource hiface
  rcases List.mem_append.1 hc with hold | hnew
  · rcases List.mem_append.1 hl with holdl | hnewl
    · exact h c hold hcollection l holdl hlink hget o ho hresource hiface
    · -- no link leads to an address that has not been used
      rw [List.mem_singleton.1 hnewl] at hlink
      exact absurd (hlinks c hold _ hlink) (Nat.lt_irrefl _)
  · rw [List.mem_singleton.1 hnew] at hlink
    cases hlink

theorem LinksKnown.addResource {st : Server} (h : LinksKnown st) (r : Resource) :
    LinksKnown (st.addResource { r with links := [] }) := by
  intro c hc id hid
  rcases List.mem_append.1 hc with hold | hnew
  · exact Nat.lt_succ_of_lt (h c hold id hid)
  · rw [List.mem_singleton.1 hnew] at hid
    cases hid

theorem Rights.withoutResource (h : Rights may st) (p : Resource → Bool) :
    Rights may { st with resources := st.resources.filter p } :=
  fun c hc hcollection l hl => h c (List.mem_filter.1 hc).1 hcollection l (List.mem_filter.1 hl).1

theorem Rights.notified (h : Rights may st) (mid : Observer → Option UInt16) : Rights may (notified st mid) := by
  intro c hc hcollection l hl hlink hget o' ho' hresource hiface
  obtain ⟨o, ho, rfl⟩ := List.mem_map.1 ho'
  obtain ⟨hres, -, hendpoint, hmask⟩ := withMid_fields o (mid o)
  rw [hendpoint]
  exact h c hc hcollection l hl hlink hget o ho (hres ▸ hresource) (hmask ▸ hiface)

theorem allows_eq (h : Registry s.server) {l : Resource} (hl : l ∈ s.server.resources) (endpoint : OcEndpoint) :
    s.allows P l.id endpoint = mayRead P s.sec l.toOcResource endpoint := by
  have hfind : s.server.resource? l.id = some l := by
    cases hfind : s.server.resource? l.id with
    | none => exact absurd (by simp) (List.find?_eq_none.1 hfind l hl)
    | some l' =>
      obtain ⟨hl', hid⟩ := resource?_mem hfind
      rw [h.eq_of_id hl' hl hid]
  unfold BatchServer.allows
  rw [hfind]
  rfl

theorem BatchInvariant.observe (h : BatchInvariant P s) (e : Event) (hadmitted : s.admitsRequest P ocfD e = true)
    (hkeeps : KeepsRights P ocfD s (.observe e)) :
    LinksKnown (Observe.step ocfD s.server (s.checked P e)) ∧
      Rights (mayRead P s.sec) (Observe.step ocfD s.server (s.checked P e)) := by
  have hstable : Stable (Rights (mayRead P s.sec)) := rights_stable
  -- most events only remove observers
  cases e with
  | added r => exact ⟨h.links.addResource r, h.rights.addResource h.links r⟩
  | requested env rq =>
    simp only [BatchServer.checked, Observe.step]
    split
    · rename_i cur hfound
      simp only [BatchServer.admitsRequest, hfound, Option.any_some] at hadmitted
      refine ⟨linksKnown_request h.links _, h.rights.request h.ids (findResource_mem hfound) ?_ (hkeeps cur hfound hadmitted)⟩
      exact fun l hl => allows_eq h.toRegistry hl rq.endpoint
    · exact ⟨h.links, h.rights⟩
  | removedByClient endpoint =>
    have hrem := removeAll_removes s.server fun o => ocEndpointCompare o.endpoint endpoint
    exact ⟨linksKnown_stable.removes h.links hrem, hstable.removes h.rights hrem⟩
  | removedByToken endpoint token =>
    have hrem := removeFirst_removes s.server (hasToken endpoint token)
    exact ⟨linksKnown_stable.removes h.links hrem, hstable.removes h.rights hrem⟩
  | removedByMid endpoint mid =>
    have hrem := removeFirst_removes s.server fun o => ocEndpointCompare o.endpoint endpoint && o.lastMid == mid
    exact ⟨linksKnown_stable.removes h.links hrem, hstable.removes h.rights hrem⟩
  | removedByResource id =>
    simp only [BatchServer.checked, Observe.step]
    split
    · rename_i r _
      have hrem := removeAll_removes s.server (observesUri r)
      exact ⟨linksKnown_stable.removes h.links hrem, hstable.removes h.rights hrem⟩
    · exact ⟨h.links, h.rights⟩
  | dosChanged device reset allowed =>
    have hrem := removeAll_removes s.server fun o =>
      o.endpoint.device == device && (reset || !s.allows P o.resource o.endpoint)
    exact ⟨linksKnown_stable.removes h.links hrem, hstable.removes h.rights hrem⟩
  | freed =>
    have hrem := removeAll_removes s.server fun _ => true
    exact ⟨linksKnown_stable.removes h.links hrem, hstable.removes h.rights hrem⟩
  | notified mid => exact ⟨h.links, h.rights.notified mid⟩
  | expired id rfnop notified =>
    have hsame := pollResource_onlyCallbacks s.server id rfnop notified
    exact ⟨linksKnown_stable.onlyCallbacks h.links hsame, hstable.onlyCallbacks h.rights hsame⟩
  | deleted id =>
    simp only [BatchServer.checked, Observe.step]
    split
    · rename_i r _
      split
      · unfold Server.ocRiDeleteResource
        have hrem : Removes s.server (if r.numObservers > 0 then s.server.coapRemoveObserverByResource r else s.server) := by
          split
          · exact removeAll_removes s.server (observesUri r)
          · exact .refl _
        have hlinks := linksKnown_stable.removes h.links hrem
        exact ⟨fun c hc => hlinks c (List.mem_filter.1 hc).1, (hstable.removes h.rights hrem).withoutResource _⟩
      · exact ⟨h.links, h.rights⟩
    · exact ⟨h.links, h.rights⟩

theorem BatchInvariant.step {e : BatchEvent} (h : BatchInvariant P s) (hkeeps : KeepsRights P ocfD s e) :
    BatchInvariant P (s.step P ocfD e) := by
  cases e with
  | observe e =>
    simp only [BatchServer.step]
    split
    · rename_i hadmitted
      obtain ⟨hlinks, hrights⟩ := h.observe e hadmitted hkeeps
      exact ⟨h.toRegistry.step (s.checked P e), hlinks, hrights⟩
    · exact h
  | linked collection id =>
    simp only [BatchServer.step]
    split
    · rename_i hknown
      obtain ⟨l₀, hfind⟩ := Option.isSome_iff_exists.1 hknown
      obtain ⟨hl₀, hid₀⟩ := resource?_mem hfind
      have hreg : Registry (s.server.relink collection (· ++ [id])) := h.toRegistry.relink
      refine ⟨hreg, h.links.relink fun links x hx => ?_, h.rights.relink ?_⟩
      · rcases List.mem_append.1 hx with hold | hnew
        · exact .inl hold
        · rw [List.mem_singleton.1 hnew, ← hid₀]
          exact .inr (h.fresh l₀ hl₀)
      · intro c hc hid hcollection l hl hlink hnot
        refine hkeeps c hc hid hcollection l hl ?_
        exact (List.mem_append.1 hlink).elim (fun hold => absurd hold hnot) List.mem_singleton.1
    · exact h
  | unlinked collection id =>
    have hreg : Registry (s.server.relink collection (·.erase id)) := h.toRegistry.relink
    refine ⟨hreg, h.links.relink fun links x hx => .inl (List.mem_of_mem_erase hx), h.rights.relink ?_⟩
    intro c hc hid hcollection l hl hlink hnot
    exact absurd (List.mem_of_mem_erase hlink) hnot
  | secured sec => exact ⟨h.toRegistry, h.links, hkeeps⟩
  | batchSent collection => exact h
  | changed id => exact h

theorem batchInvariant_init (sec : SecState) : BatchInvariant P (.init sec) where
  toRegistry := Registry.init
  links _ hc := nomatch hc
  rights _ hc := nomatch hc

end Runs

end SmartGarage.Observe
