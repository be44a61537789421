/-
The interface `oic.if.create` of a collection (`oc_collection.c`, `oc_resource_factory.c`): what a request makes, what is
taken back when it is refused, and when that leaves everything as it was.
-/
import SmartGarage.Api.BatchItems
import SmartGarage.Lib.Run
import SmartGarage.Security.AclList

namespace SmartGarage

open Runs

/-! ## Factories -/

/-- What a factory makes: a resource with its types, and the callbacks for its properties. -/
structure ResourceInstance where
  resource : Resource
  types : List OcString
  setProps : Option (List OcRep → Bool)
  getProps : Option (List Cbor)

/-- `oc_rt_factory_t`. A factory reads the resources of the application and adds what it makes behind them. To free that is
to undo it. -/
structure OcRtFactory where
  rt : OcString
  getInstance : List Resource → (href : OcString) → List OcString → ResourceProperties → InterfaceMask → (device : Nat) →
    Option ResourceInstance
  freeInstance : List Resource → Resource → List Resource
  undo : ∀ resources href types bm interfaces device made,
    getInstance resources href types bm interfaces device = some made →
      freeInstance (resources ++ [made.resource]) made.resource = resources

/-- `oc_rt_created_t` at its address. -/
structure OcRtCreated where
  addr : Nat
  made : ResourceInstance
  rf : OcRtFactory

/-- An address at which nothing has been allocated. -/
def freshAddr (used : List Nat) : Nat := used.foldr max 0 + 1

theorem freshAddr_notMem (used : List Nat) : freshAddr used ∉ used := by
  have hle : ∀ (used : List Nat), ∀ a ∈ used, a ≤ used.foldr max 0 := by
    intro used
    induction used with
    | nil => simp
    | cons b used ih =>
      intro a ha
      rw [List.foldr_cons]
      rcases List.mem_cons.1 ha with rfl | ha
      · exact Nat.le_max_left _ _
      · exact (ih a ha).trans (Nat.le_max_right _ _)
  intro hmem
  have hlt := hle used _ hmem
  unfold freshAddr at hlt
  omega

/-! ## States -/

/-- What a request to create can change: the links of the collection, `created_res`, `params_list`, the security state with
the ACL, and the resources of the application. -/
structure CreationState where
  links : List CollectionLink
  createdRes : List OcRtCreated
  paramsList : List (OcString × OcString)
  sec : SecState
  resources : List Resource

/-- A request with the random values that it uses: the URI of a new resource, and the `ins` of its link. -/
structure CreationRequest extends CollectionRequest where
  href : OcString
  ins : Int

section Create

variable (P : Platform) (factories : List OcRtFactory) (collection : CollectionData)

/-! ## The payload -/

/-- `rt`, `interfaces`, `bm` and `payload`; a payload that is empty is absent. -/
structure CreateScan where
  rt : Option (List OcString)
  interfaces : InterfaceMask
  bm : ResourceProperties
  payload : List OcRep

/-- The integer `bm` at the head of the object `p`. -/
def policyOf (name : Option OcString) (obj : List OcRep) : Option Int :=
  match obj with
  | .int field value :: _ => if nameIs name "p" && nameIs field "bm" then some value else none
  | _ => none

/-- One entry of the payload. -/
def scanEntry (scan : CreateScan) : OcRep → CreateScan
  | .stringArray name values =>
    if nameIs name "rt" then { scan with rt := some values }
    else { scan with interfaces := values.foldl (fun mask item => mask ||| ocRiGetInterfaceMask (cstr item)) scan.interfaces }
  | .object name obj =>
    match policyOf name obj with
    | some value => { scan with bm := BitVec.ofInt 32 value }
    | none => if nameIs name "rep" then { scan with payload := obj } else scan
  | _ => scan

def scanPayload (payload : List OcRep) : CreateScan := payload.foldl scanEntry ⟨none, 0, 0, []⟩

/-- The strings of the payload. -/
def stringProperties (payload : List OcRep) : List (OcString × OcString) :=
  payload.filterMap fun entry =>
    match entry with
    | .string name value => some (name.getD [], value)
    | _ => none

/-- What `add_link_param` makes of them. -/
def linkParams (payload : List OcRep) : List (OcString × OcString) :=
  (stringProperties payload).map fun p => (cstr p.1, cstr p.2)

/-! ## Creation -/

/-- `is_known_rtfactory` -/
def isKnownRtfactory (type : OcString) : Option OcRtFactory := factories.find? fun rf => type == rf.rt

/-- The factory for a type, if the collection knows the type. -/
def factoryFor (type : OcString) : Option OcRtFactory :=
  if collection.supportedRts.length > 0 ∧ collection.supportedRts.any (type == ·) then isKnownRtfactory factories type
  else if collection.mandatoryRts.length > 0 ∧ collection.mandatoryRts.any (type == ·) then isKnownRtfactory factories type
  else none

/-- The links that `oc_get_link_by_uri` looks for. -/
def isLinkTo (uri : OcString) (link : CollectionLink) : Bool :=
  !uri.isEmpty && matchesBehindSlash (uri.dropWhile (· = 47)) link.resource

/-- `oc_rt_factory_free_created_resource` -/
def ocRtFactoryFreeCreatedResource (s : CreationState) (rtc : OcRtCreated) (rf : OcRtFactory) : CreationState :=
  { s with
    createdRes := s.createdRes.filter fun c => c.addr ≠ rtc.addr
    links := s.links.eraseP (isLinkTo rtc.made.resource.uri)
    resources := rf.freeInstance s.resources rtc.made.resource }

/-- `oc_rt_factory_create_resource` -/
def ocRtFactoryCreateResource (s : CreationState) (href : OcString) (rtypes : List OcString) (bm : ResourceProperties)
    (interfaces : InterfaceMask) (rf : OcRtFactory) (device : Nat) : CreationState × Option OcRtCreated :=
  match rf.getInstance s.resources href rtypes bm interfaces device with
  | none => (s, none)
  | some made =>
    let rtc : OcRtCreated := ⟨freshAddr (s.createdRes.map (·.addr)), made, rf⟩
    let s := { s with resources := s.resources ++ [made.resource], createdRes := s.createdRes ++ [rtc] }
    if made.setProps.isNone ∨ made.getProps.isNone then (ocRtFactoryFreeCreatedResource s rtc rf, none) else (s, some rtc)

/-- What a request leaves, and the resource that it has made; `badRequest` is `bad_request`. -/
structure CreationResult where
  state : CreationState
  badRequest : Bool
  created : Option CreatedResource

/-- A request that is refused: the parameters of the link are freed. -/
def refused (s : CreationState) : CreationResult := ⟨{ s with paramsList := [] }, true, none⟩

/-- A resource that has been made and has accepted its payload gets its link, which takes the parameters. -/
def accepted (s : CreationState) (rq : CreationRequest) (bm : ResourceProperties) (rtc : OcRtCreated) : CreationResult :=
  let made := rtc.made
  let link : CollectionLink := ⟨made.resource, made.types, [ascii "hosts"], rq.ins, s.paramsList⟩
  { state :=
      { s with
        links := s.links ++ [link]
        paramsList := []
        sec := rq.origin.elim s.sec fun client =>
          (ocSecAclAddCreatedResourceAce P s.sec made.resource.uri client collection.resource.device false).2 }
    badRequest := false
    created := some
      { uri := made.resource.uri, types := made.types, interfaces := made.resource.interfaces,
        bm := UInt64.ofNat (policyBm bm).toNat, ins := rq.ins, rep := made.getProps.getD [], params := s.paramsList } }

/-- The interface `oic.if.create` of `oc_handle_collection_request`. -/
def handleCreate (s : CreationState) (rq : CreationRequest) : CreationResult :=
  if rq.method = .put ∨ rq.method = .post then
    let scan := scanPayload rq.payload
    let s := { s with paramsList := s.paramsList ++ linkParams rq.payload }
    match scan.rt with
    | none => refused s
    | some rt =>
      if scan.interfaces = 0 then refused s
      else
        let bm := scan.bm ||| propSecure
        match factoryFor factories collection (cstr (rt.headD [])) with
        | none => refused s
        | some rf =>
          match ocRtFactoryCreateResource s rq.href rt bm scan.interfaces rf collection.resource.device with
          | (s, none) => refused s
          | (s, some rtc) =>
            if scan.payload.isEmpty ∨ rtc.made.setProps.any (· scan.payload) = false then
              refused (ocRtFactoryFreeCreatedResource s rtc rf)
            else accepted P collection s rq bm rtc
  else if rq.method = .get then ⟨s, false, none⟩
  else refused s

/-! ## What a request is to do -/

/-- Nothing is left behind. -/
structure CreationKept (s s' : CreationState) : Prop where
  links : s'.links = s.links
  createdRes : s'.createdRes = s.createdRes
  paramsList : s'.paramsList = s.paramsList
  acl : s'.sec = s.sec
  resources : s'.resources = s.resources

/-- There is one more resource, and one link to it that carries the strings of the payload. -/
structure CreationAdded (payload : List OcRep) (s s' : CreationState) (r : Resource) (link : CollectionLink) : Prop where
  resources : s'.resources = s.resources ++ [r]
  links : s'.links = s.links ++ [link]
  leads : link.resource = r
  params : link.params = stringProperties payload
  paramsList : s'.paramsList = []

/-- The code of the answer, by what has been created. -/
def creationCode (env : CollectionEnv) (rq : CreationRequest) (result : CreationResult) : UInt8 :=
  collectionCode rq.toCollectionRequest ifCreate
    (collectionContent (fun _ => 0) { env with created := result.created } collection rq.toCollectionRequest ifCreate none).codes

/-- A request does what its code says. -/
def CreationHonest (env : CollectionEnv) (s : CreationState) (rq : CreationRequest) : Prop :=
  let result := handleCreate P factories collection s rq
  (creationCode collection env rq result = ocStatusCode .badRequest → CreationKept s result.state) ∧
    (creationCode collection env rq result = ocStatusCode .created →
      ∃ r link, CreationAdded rq.payload s result.state r link)

/-- What the factory makes for a request. -/
def instanceFor (s : CreationState) (rq : CreationRequest) : Option ResourceInstance :=
  let scan := scanPayload rq.payload
  if (rq.method = .put ∨ rq.method = .post) ∧ scan.interfaces ≠ 0 then
    scan.rt.bind fun rt => (factoryFor factories collection (cstr (rt.headD []))).bind fun rf =>
      rf.getInstance s.resources rq.href rt (scan.bm ||| propSecure) scan.interfaces collection.resource.device
  else none

/-- What has been made has its callbacks, and accepts the payload. -/
def ResourceInstance.accepts (made : ResourceInstance) (payload : List OcRep) : Bool :=
  made.getProps.isSome && !payload.isEmpty && made.setProps.any (· payload)

/-- If nothing is made there is nothing to be taken back. What has been made and is refused must not have the URI of a resource
that the collection links, and the strings of a payload that is accepted must not contain zeros. -/
def CreationClean (s : CreationState) (rq : CreationRequest) : Prop :=
  ∀ made, instanceFor factories collection s rq = some made →
    if made.accepts (scanPayload rq.payload).payload then ∀ p ∈ stringProperties rq.payload, 0 ∉ p.1 ∧ 0 ∉ p.2
    else ∀ link ∈ s.links, isLinkTo made.resource.uri link = false

/-! ## Runs -/

/-- Something that happens: a request to create, or anything else, which leaves `params_list` as it is. -/
inductive CreationEvent
  | request (rq : CreationRequest)
  | other (links : List CollectionLink) (createdRes : List OcRtCreated) (sec : SecState) (resources : List Resource)

def CreationState.step (s : CreationState) : CreationEvent → CreationState
  | .request rq => (handleCreate P factories collection s rq).state
  | .other links createdRes sec resources => ⟨links, createdRes, s.paramsList, sec, resources⟩

/-- The state at the beginning. -/
def CreationState.boot (sec : SecState) : CreationState := ⟨[], [], [], sec, []⟩

end Create

section Proofs

variable {P : Platform} {factories : List OcRtFactory} {collection : CollectionData}

/-! ## What is made -/

theorem freeCreated_eq {s : CreationState} {made : ResourceInstance} {rf : OcRtFactory} {href : OcString}
    {types : List OcString} {bm : ResourceProperties} {interfaces : InterfaceMask} {device : Nat}
    (hmade : rf.getInstance s.resources href types bm interfaces device = some made) :
    let rtc : OcRtCreated := ⟨freshAddr (s.createdRes.map (·.addr)), made, rf⟩
    ocRtFactoryFreeCreatedResource
        { s with resources := s.resources ++ [made.resource], createdRes := s.createdRes ++ [rtc] } rtc rf =
      { s with links := s.links.eraseP (isLinkTo made.resource.uri) } := by
  have hfresh := freshAddr_notMem (s.createdRes.map (·.addr))
  have hkept : s.createdRes.filter (fun c => c.addr ≠ freshAddr (s.createdRes.map (·.addr))) = s.createdRes := by
    rw [List.filter_eq_self]
    intro c hc
    simpa using fun heq : c.addr = freshAddr (s.createdRes.map (·.addr)) => hfresh (heq ▸ List.mem_map_of_mem hc)
  simp only [ocRtFactoryFreeCreatedResource, rf.undo _ _ _ _ _ _ _ hmade, List.filter_append, hkept]
  simp

section Request

variable {s : CreationState} {rq : CreationRequest} {made : ResourceInstance}

theorem instanceFor_eq_some : instanceFor factories collection s rq = some made ↔
    ((rq.method = .put ∨ rq.method = .post) ∧ (scanPayload rq.payload).interfaces ≠ 0) ∧
      ∃ rt rf, (scanPayload rq.payload).rt = some rt ∧ factoryFor factories collection (cstr (rt.headD [])) = some rf ∧
        rf.getInstance s.resources rq.href rt ((scanPayload rq.payload).bm ||| propSecure) (scanPayload rq.payload).interfaces
          collection.resource.device = some made := by
  unfold instanceFor
  dsimp only
  by_cases hguard : (rq.method = .put ∨ rq.method = .post) ∧ (scanPayload rq.payload).interfaces ≠ 0
  · rw [if_pos hguard, Option.bind_eq_some_iff]
    simp only [Option.bind_eq_some_iff, hguard, true_and, ne_eq, not_false_eq_true]
    constructor
    · rintro ⟨rt, hrt, rf, hrf, hmade⟩
      exact ⟨rt, rf, hrt, hrf, hmade⟩
    · rintro ⟨rt, rf, hrt, hrf, hmade⟩
      exact ⟨rt, hrt, rf, hrf, hmade⟩
  · rw [if_neg hguard]
    exact iff_of_false (fun h => Option.some_ne_none made h.symm) fun h => hguard h.1

theorem handleCreate_none (hmethod : rq.method = .put ∨ rq.method = .post) (h : instanceFor factories collection s rq = none) :
    handleCreate P factories collection s rq = refused s := by
  have hnone (made : ResourceInstance) : ¬instanceFor factories collection s rq = some made := by simp [h]
  simp only [instanceFor_eq_some, hmethod, true_and, not_and, not_exists] at hnone
  unfold handleCreate
  rw [if_pos hmethod]
  dsimp only
  cases hrt : (scanPayload rq.payload).rt with
  | none => rfl
  | some rt =>
    dsimp only
    by_cases hinterfaces : (scanPayload rq.payload).interfaces = 0
    · rw [if_pos hinterfaces]
      rfl
    · rw [if_neg hinterfaces]
      cases hrf : factoryFor factories collection (cstr (rt.headD [])) with
      | none => rfl
      | some rf =>
        have hmade : rf.getInstance s.resources rq.href rt ((scanPayload rq.payload).bm ||| propSecure)
            (scanPayload rq.payload).interfaces collection.resource.device = none :=
          Option.eq_none_iff_forall_ne_some.2 fun made => hnone made hinterfaces rt rf hrt hrf
        simp only [ocRtFactoryCreateResource, hmade]
        rfl

/-- What is made and not accepted is taken back, with the first link to its URI. -/
theorem handleCreate_refused (h : instanceFor factories collection s rq = some made)
    (haccepts : made.accepts (scanPayload rq.payload).payload = false) :
    handleCreate P factories collection s rq =
      refused { s with links := s.links.eraseP (isLinkTo made.resource.uri) } := by
  obtain ⟨⟨hmethod, hinterfaces⟩, rt, rf, hrt, hrf, hmade⟩ := instanceFor_eq_some.1 h
  have hfree := freeCreated_eq (s := { s with paramsList := s.paramsList ++ linkParams rq.payload }) hmade
  dsimp only at hfree
  unfold handleCreate
  simp only [if_pos hmethod, hrt, if_neg hinterfaces, hrf, ocRtFactoryCreateResource, hmade]
  by_cases hcallbacks : made.setProps.isNone = true ∨ made.getProps.isNone = true
  · rw [if_pos hcallbacks]
    dsimp only
    rw [hfree]
    rfl
  · have hrejects : (scanPayload rq.payload).payload.isEmpty = true ∨
        made.setProps.any (· (scanPayload rq.payload).payload) = false := by
      have hget : made.getProps.isSome = true := by
        rw [Option.isSome_iff_ne_none]
        exact fun hnone => hcallbacks (.inr (by rw [hnone, Option.isNone_none]))
      unfold ResourceInstance.accepts at haccepts
      rw [hget, Bool.true_and, Bool.and_eq_false_iff] at haccepts
      exact haccepts.imp_left fun h => by simpa using h
    rw [if_neg hcallbacks]
    dsimp only
    rw [if_pos hrejects, hfree]
    rfl

theorem handleCreate_accepted (h : instanceFor factories collection s rq = some made)
    (haccepts : made.accepts (scanPayload rq.payload).payload = true) :
    ∃ rtc bm, rtc.made = made ∧ handleCreate P factories collection s rq =
      accepted P collection
        { s with
          resources := s.resources ++ [made.resource]
          createdRes := s.createdRes ++ [rtc]
          paramsList := s.paramsList ++ linkParams rq.payload } rq bm rtc := by
  obtain ⟨⟨hmethod, hinterfaces⟩, rt, rf, hrt, hrf, hmade⟩ := instanceFor_eq_some.1 h
  unfold ResourceInstance.accepts at haccepts
  rw [Bool.and_eq_true, Bool.and_eq_true] at haccepts
  obtain ⟨⟨hget, hpayload⟩, hset⟩ := haccepts
  have hcallbacks : ¬(made.setProps.isNone = true ∨ made.getProps.isNone = true) := by
    cases hprops : made.setProps with
    | none => simp [hprops] at hset
    | some setProps => simpa [Option.isSome_iff_ne_none] using hget
  have hrejects : ¬((scanPayload rq.payload).payload.isEmpty = true ∨
      made.setProps.any (· (scanPayload rq.payload).payload) = false) := by
    rw [hset]
    simpa using hpayload
  refine ⟨⟨freshAddr (s.createdRes.map (·.addr)), made, rf⟩, (scanPayload rq.payload).bm ||| propSecure, rfl, ?_⟩
  unfold handleCreate
  simp only [if_pos hmethod, hrt, if_neg hinterfaces, hrf, ocRtFactoryCreateResource, hmade, if_neg hcallbacks,
    if_neg hrejects]

/-! ## Codes -/

theorem creationCode_refused (env : CollectionEnv) (s' : CreationState) (hmethod : rq.method ≠ .get) :
    creationCode collection env rq (refused s') = ocStatusCode .badRequest := by
  unfold creationCode refused
  cases hm : rq.method
  · exact absurd hm hmethod
  all_goals simp [collectionCode, collectionContent, hm, codesOf]

theorem creationCode_accepted (env : CollectionEnv) (s' : CreationState) (bm : ResourceProperties) (rtc : OcRtCreated)
    (hmethod : rq.method = .put ∨ rq.method = .post) :
    creationCode collection env rq (accepted P collection s' rq bm rtc) = ocStatusCode .created := by
  unfold creationCode accepted
  rcases hmethod with hm | hm <;>
    (simp only [collectionCode, collectionContent, hm, codesOf, if_true]; decide)

/-! ## Honest requests -/

theorem linkParams_eq_iff {payload : List OcRep} :
    linkParams payload = stringProperties payload ↔ ∀ p ∈ stringProperties payload, 0 ∉ p.1 ∧ 0 ∉ p.2 := by
  unfold linkParams
  rw [← List.map_id (stringProperties payload), List.map_map, List.map_inj_left, List.map_id]
  refine forall₂_congr fun p _ => ?_
  show (cstr p.1, cstr p.2) = (p.1, p.2) ↔ _
  rw [Prod.mk.injEq, cstr_eq_self_iff, cstr_eq_self_iff]

theorem creationHonest_iff_clean (env : CollectionEnv) (hparams : s.paramsList = []) :
    CreationHonest P factories collection env s rq ↔ CreationClean factories collection s rq := by
  have hkept : CreationKept s (refused s).state := ⟨rfl, rfl, hparams.symm, rfl, rfl⟩
  unfold CreationHonest CreationClean
  dsimp only
  by_cases hmethod : rq.method = .put ∨ rq.method = .post
  · have hget : rq.method ≠ .get := by
      rcases hmethod with hm | hm <;> simp [hm]
    have hcodes : ocStatusCode .badRequest ≠ ocStatusCode .created := by decide
    cases hinstance : instanceFor factories collection s rq with
    | none =>
      rw [handleCreate_none hmethod hinstance, creationCode_refused env s hget]
      exact iff_of_true ⟨fun _ => hkept, fun h => absurd h hcodes⟩ fun made h => by cases h
    | some made =>
      have hmade {q : ResourceInstance → Prop} : (∀ made', some made = some made' → q made') ↔ q made := by
        constructor
        · exact fun h => h made rfl
        · rintro h made' heq
          cases heq
          exact h
      rw [hmade]
      cases haccepts : made.accepts (scanPayload rq.payload).payload with
      | false =>
        -- the links to the URI go with the resource that is not made
        rw [handleCreate_refused hinstance haccepts, creationCode_refused env _ hget, if_neg Bool.false_ne_true]
        constructor
        · rintro ⟨hrefused, -⟩ link hlink
          have hnot := List.eraseP_eq_self_iff.1 (hrefused rfl).links link hlink
          simpa using hnot
        · intro hclean
          have hlinks : s.links.eraseP (isLinkTo made.resource.uri) = s.links :=
            List.eraseP_eq_self_iff.2 fun link hlink => by simp [hclean link hlink]
          exact ⟨fun _ => ⟨hlinks, rfl, hparams.symm, rfl, rfl⟩, fun h => absurd h hcodes⟩
      | true =>
        obtain ⟨rtc, bm, hrtc, heq⟩ := handleCreate_accepted (P := P) hinstance haccepts
        rw [heq, creationCode_accepted env _ bm rtc hmethod, ← linkParams_eq_iff, if_pos rfl]
        constructor
        · rintro ⟨-, hadded⟩
          obtain ⟨r, link, hadded⟩ := hadded rfl
          have hlink := List.singleton_inj.1 (List.append_cancel_left hadded.links)
          rw [← hadded.params, ← hlink]
          simp [hparams]
        · intro hclean
          refine ⟨fun h => absurd h.symm hcodes, fun _ => ⟨made.resource, _, rfl, rfl, hrtc ▸ rfl, ?_, rfl⟩⟩
          simpa [hparams] using hclean
  · have hnone : instanceFor factories collection s rq = none := by simp [instanceFor, hmethod]
    rw [hnone]
    refine iff_of_true ?_ fun made h => by cases h
    unfold handleCreate
    rw [if_neg hmethod]
    by_cases hget : rq.method = .get
    · have hcode : creationCode collection env rq ⟨s, false, none⟩ = ocStatusCode .ok := by
        simp [creationCode, collectionCode, collectionContent, hget, codesOf]
        decide
      rw [if_pos hget, hcode]
      exact ⟨fun h => absurd h (by decide), fun h => absurd h (by decide)⟩
    · rw [if_neg hget, creationCode_refused env s hget]
      exact ⟨fun _ => hkept, fun h => absurd h (by decide)⟩

/-! ## Runs of requests -/

/-- No request leaves parameters behind. -/
theorem handleCreate_paramsList (hparams : s.paramsList = []) :
    (handleCreate P factories collection s rq).state.paramsList = [] := by
  by_cases hmethod : rq.method = .put ∨ rq.method = .post
  · cases hinstance : instanceFor factories collection s rq with
    | none => rw [handleCreate_none hmethod hinstance, refused]
    | some made =>
      cases haccepts : made.accepts (scanPayload rq.payload).payload with
      | false => rw [handleCreate_refused hinstance haccepts, refused]
      | true =>
        obtain ⟨rtc, bm, -, heq⟩ := handleCreate_accepted (P := P) hinstance haccepts
        rw [heq, accepted]
  · unfold handleCreate
    rw [if_neg hmethod]
    split
    · exact hparams
    · rfl

end Request

/-- In every run, a request does what its code says if and only if it is clean in the state that it meets. -/
theorem creationHonest_iff (env : CollectionEnv) (sec : SecState) (events : List CreationEvent) (rq : CreationRequest) :
    CreationHonest P factories collection env (runFrom (CreationState.step P factories collection) (.boot sec) events) rq ↔
      CreationClean factories collection (runFrom (CreationState.step P factories collection) (.boot sec) events) rq := by
  have hstep : ∀ (s : CreationState) (event : CreationEvent), s.paramsList = [] →
      (CreationState.step P factories collection s event).paramsList = [] := by
    intro s event hparams
    cases event with
    | request rq => exact handleCreate_paramsList hparams
    | other links createdRes sec resources => exact hparams
  exact creationHonest_iff_clean env (run_always hstep events (.boot sec) rfl)

end Proofs

/-! ## A URI that is taken -/

/-- A factory that makes the same resource each time, which takes no payload. -/
def lampFactory : OcRtFactory where
  rt := ascii "x.lamp"
  getInstance := fun _ _ types _ _ _ => some ⟨lampResource, types, some fun _ => false, some []⟩
  freeInstance := fun resources _ => resources.dropLast
  undo := by
    intro resources _ _ _ _ _ made _
    exact List.dropLast_concat

/-- A collection of which the lamps can be made. -/
def lampCollection : CollectionData := { roomCollection with supportedRts := [ascii "x.lamp"] }

/-- A request to make a lamp. -/
def lampRequest : CreationRequest where
  method := .post
  query := []
  origin := none
  payload :=
    [.stringArray (some (ascii "rt")) [ascii "x.lamp"], .stringArray (some (ascii "if")) [ascii "oic.if.rw"],
      .object (some (ascii "rep")) [.bool (some (ascii "on")) true]]
  href := ascii "/a"
  ins := 1

/-- The collection has a link to the lamp, which is lost with the one that is refused. -/
theorem creation_unlinks : ¬CreationHonest (Platform.simple Mbedtls.rejecting) [lampFactory] lampCollection openEnv
    (runFrom (CreationState.step (Platform.simple Mbedtls.rejecting) [lampFactory] lampCollection) (.boot (SecState.empty .rfnop))
      [.other roomCollection.links [] (SecState.empty .rfnop) [lampResource, fanResource]]) lampRequest := by
  rintro ⟨hkept, -⟩
  have hlengths := congrArg List.length (hkept (by decide)).links
  exact absurd hlengths (by decide)

end SmartGarage
