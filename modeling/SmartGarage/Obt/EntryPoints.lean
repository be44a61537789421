/-
The nine calls of `oc_obt.c` that start a sequence about owned devices. Each takes a context from
its pool, checks that the devices are owned and known, sends its first request and puts the context
on its list; they differ in the order of the first two steps and in what they do when a step fails.
A call reports its start faithfully if it returns 0 exactly when the request went out and the
context waits on its list, and otherwise -1 with every context given back. The user's callback and
its data, which the contexts only carry, are left out.
-/
import SmartGarage.Obt.Sequences

namespace SmartGarage.ObtCalls

/-! ## Pools, contexts and requests -/

/-- The pools of contexts, and the lists that go with them. -/
inductive ObtPool
  | hardReset | credprov | acl2prov | credret | creddel | aclret | acedel | switchDos
deriving DecidableEq

/-- What a context holds besides its devices. -/
inductive ObtArg
  | none
  | roles (roles : Nat)
  | ace (ace : Nat)
  | credid (credid : Int)
  | aceid (aceid : Int)
  | dos (dos : OcDostype) (data : Nat)
deriving DecidableEq

/-- A context: its block, its devices, its `switch_dos` and the rest. -/
structure ObtCtx where
  addr : Nat
  devices : List Nat
  switchDos : Option Nat
  arg : ObtArg
deriving DecidableEq

/-- The first request of a call: `switch_dos` to a state, or `oc_do_get` of a resource. -/
inductive FirstRequest
  | switchDos (dos : OcDostype)
  | get (uri : OcString)
deriving DecidableEq

/-- A request that went out, with the context it was given. -/
structure ObtRequest where
  request : FirstRequest
  endpoint : Option OcEndpoint
  userData : Nat
deriving DecidableEq

/-- The state the calls work on: the list `oc_devices` with the contents of its blocks, the blocks in
use and the contexts listed of each pool, the ACEs that `free_ace` was called for and the requests
that went out. -/
structure ObtTool where
  devices : List Nat
  blocks : Nat → OcDevice
  used : ObtPool → List Nat
  listed : ObtPool → List ObtCtx
  freedAces : List Nat
  requests : List ObtRequest

/-- What a call meets: the blocks that `oc_memb_alloc` has for its context and for that of `switch_dos`,
the devices with an owner credential, and whether its request can be sent. -/
structure CallEnv where
  ctxBlock : Option Nat
  dosBlock : Option Nat
  isOwned : OcUuid → Bool
  sends : Bool

namespace ObtTool

/-- `oc_memb_alloc` has returned the block. -/
def alloc (s : ObtTool) (pool : ObtPool) (addr : Nat) : ObtTool :=
  { s with used := Function.update s.used pool (addr :: s.used pool) }

/-- `oc_memb_free` -/
def free (s : ObtTool) (pool : ObtPool) (addr : Nat) : ObtTool :=
  { s with used := Function.update s.used pool ((s.used pool).erase addr) }

/-- `oc_list_add` of a new context. -/
def add (s : ObtTool) (pool : ObtPool) (ctx : ObtCtx) : ObtTool :=
  { s with listed := Function.update s.listed pool (s.listed pool ++ [ctx]) }

/-- A request goes out. -/
def send (s : ObtTool) (q : ObtRequest) : ObtTool := { s with requests := s.requests ++ [q] }

/-- `free_ace` -/
def freeAce (s : ObtTool) (ace : Nat) : ObtTool := { s with freedAces := s.freedAces ++ [ace] }

section

variable (s : ObtTool) (pool : ObtPool)

@[simp] theorem free_alloc (addr : Nat) : (s.alloc pool addr).free pool addr = s := by
  simp [alloc, free]

@[simp] theorem alloc_listed (addr : Nat) : (s.alloc pool addr).listed = s.listed := rfl
@[simp] theorem alloc_requests (addr : Nat) : (s.alloc pool addr).requests = s.requests := rfl
@[simp] theorem alloc_freedAces (addr : Nat) : (s.alloc pool addr).freedAces = s.freedAces := rfl
@[simp] theorem add_used (ctx : ObtCtx) : (s.add pool ctx).used = s.used := rfl

theorem alloc_used_ne (addr : Nat) : (s.alloc pool addr).used ≠ s.used := by
  intro h
  have := congrArg List.length (congrFun h pool)
  simp [alloc] at this

@[simp] theorem add_listed (ctx : ObtCtx) : (s.add pool ctx).listed pool = s.listed pool ++ [ctx] := by
  simp [add]

end

end ObtTool

/-! ## The steps of a call -/

/-- `oc_obt_get_owned_device_handle` -/
def ocObtGetOwnedDeviceHandle (s : ObtTool) (uuid : OcUuid) : Option Nat :=
  s.devices.find? fun d => (s.blocks d).uuid = uuid

/-- `switch_dos` -/
def switchDos (env : CallEnv) (s : ObtTool) (device : Nat) (dos : OcDostype) (data : Nat) : Option Nat × ObtTool :=
  match ocObtGetSecureEndpoint (s.blocks device).endpoint with
  | none => (none, s)
  | some ep =>
    match ocMembAlloc env.dosBlock (s.used .switchDos) with
    | none => (none, s)
    | some d =>
      let s := s.alloc .switchDos d
      if env.sends then
        (some d, (s.send ⟨.switchDos dos, some ep, d⟩).add .switchDos ⟨d, [device], none, .dos dos data⟩)
      else (none, s.free .switchDos d)

/-- The first request about a device, for the context at `addr`: whether it went out, with the `switch_dos`
that it left. `oc_do_get` does not check that there is an endpoint. -/
def sendFirst (env : CallEnv) (s : ObtTool) (device addr : Nat) : FirstRequest → Option (Option Nat) × ObtTool
  | .switchDos dos => ((switchDos env s device dos addr).1.map some, (switchDos env s device dos addr).2)
  | .get uri =>
    if env.sends then (some none, s.send ⟨.get uri, ocObtGetSecureEndpoint (s.blocks device).endpoint, addr⟩)
    else (none, s)

/-- The end of every call: the first request, and then the context is listed, or `failed` undoes what was
done. -/
def sendAndList (env : CallEnv) (s : ObtTool) (pool : ObtPool) (device addr : Nat) (first : FirstRequest)
    (ctx : Option Nat → ObtCtx) (failed : ObtTool → Int × ObtTool) : Int × ObtTool :=
  match sendFirst env s device addr first with
  | (some d, s) => (0, s.add pool (ctx d))
  | (none, s) => failed s

/-- The calls that allocate before they check: what fails in between returns at once. The first UUID is
that of the device the first request goes to; `failed` is what else a call does when that fails. -/
def allocatedFirst (env : CallEnv) (s : ObtTool) (pool : ObtPool) (uuid : OcUuid) (more : List OcUuid)
    (first : FirstRequest) (arg : ObtArg) (failed : ObtTool → ObtTool) : Int × ObtTool :=
  match ocMembAlloc env.ctxBlock (s.used pool) with
  | none => (-1, s)
  | some addr =>
    let s := s.alloc pool addr
    if (uuid :: more).any fun u => !env.isOwned u then (-1, s)
    else
      match ocObtGetOwnedDeviceHandle s uuid with
      | none => (-1, s)
      | some device =>
        match more.mapM (ocObtGetOwnedDeviceHandle s) with
        | none => (-1, s)
        | some devices =>
          sendAndList env s pool device addr first (⟨addr, device :: devices, ·, arg⟩)
            fun s => (-1, (failed s).free pool addr)

/-- The calls that check before they allocate; `failed` is what they return when the request fails.
Only the contexts of the deletions hold the device. -/
def checkedFirst (env : CallEnv) (s : ObtTool) (pool : ObtPool) (uuid : OcUuid) (keepsDevice : Bool)
    (first : FirstRequest) (arg : ObtArg) (failed : Int) : Int × ObtTool :=
  if !env.isOwned uuid then (-1, s)
  else
    match ocObtGetOwnedDeviceHandle s uuid with
    | none => (-1, s)
    | some device =>
      match ocMembAlloc env.ctxBlock (s.used pool) with
      | none => (-1, s)
      | some addr =>
        sendAndList env (s.alloc pool addr) pool device addr first
          (⟨addr, if keepsDevice then [device] else [], ·, arg⟩) fun s => (failed, s.free pool addr)

/-! ## The nine calls -/

/-- `oc_obt_device_hard_reset` -/
def ocObtDeviceHardReset (env : CallEnv) (s : ObtTool) (uuid : OcUuid) : Int × ObtTool :=
  allocatedFirst env s .hardReset uuid [] (.switchDos .reset) .none id

/-- `oc_obt_provision_pairwise_credentials` -/
def ocObtProvisionPairwiseCredentials (env : CallEnv) (s : ObtTool) (uuid1 uuid2 : OcUuid) : Int × ObtTool :=
  allocatedFirst env s .credprov uuid1 [uuid2] (.switchDos .rfpro) .none id

/-- `oc_obt_provision_role_certificate` -/
def ocObtProvisionRoleCertificate (env : CallEnv) (s : ObtTool) (roles : Nat) (uuid : OcUuid) : Int × ObtTool :=
  allocatedFirst env s .credprov uuid [] (.get (ascii "/oic/sec/doxm")) (.roles roles) id

/-- `oc_obt_provision_identity_certificate` -/
def ocObtProvisionIdentityCertificate (env : CallEnv) (s : ObtTool) (uuid : OcUuid) : Int × ObtTool :=
  allocatedFirst env s .credprov uuid [] (.get (ascii "/oic/sec/doxm")) .none id

/-- `oc_obt_provision_ace`: the ACE is freed with the context when the request fails, and only then. -/
def ocObtProvisionAce (env : CallEnv) (s : ObtTool) (uuid : OcUuid) (ace : Nat) : Int × ObtTool :=
  allocatedFirst env s .acl2prov uuid [] (.switchDos .rfpro) (.ace ace) (·.freeAce ace)

/-- `oc_obt_retrieve_creds`: it returns 0 also when the request fails. -/
def ocObtRetrieveCreds (env : CallEnv) (s : ObtTool) (uuid : OcUuid) : Int × ObtTool :=
  checkedFirst env s .credret uuid false (.get (ascii "/oic/sec/cred")) .none 0

/-- `oc_obt_delete_cred_by_credid` -/
def ocObtDeleteCredByCredid (env : CallEnv) (s : ObtTool) (uuid : OcUuid) (credid : Int) : Int × ObtTool :=
  checkedFirst env s .creddel uuid true (.switchDos .rfpro) (.credid credid) (-1)

/-- `oc_obt_retrieve_acl`: it returns 0 also when the request fails. -/
def ocObtRetrieveAcl (env : CallEnv) (s : ObtTool) (uuid : OcUuid) : Int × ObtTool :=
  checkedFirst env s .aclret uuid false (.get (ascii "/oic/sec/acl2")) .none 0

/-- `oc_obt_delete_ace_by_aceid` -/
def ocObtDeleteAceByAceid (env : CallEnv) (s : ObtTool) (uuid : OcUuid) (aceid : Int) : Int × ObtTool :=
  checkedFirst env s .acedel uuid true (.switchDos .rfpro) (.aceid aceid) (-1)

/-- A call with its arguments. -/
inductive ObtEntry
  | deviceHardReset (uuid : OcUuid)
  | provisionPairwiseCredentials (uuid1 uuid2 : OcUuid)
  | provisionRoleCertificate (roles : Nat) (uuid : OcUuid)
  | provisionIdentityCertificate (uuid : OcUuid)
  | provisionAce (uuid : OcUuid) (ace : Nat)
  | retrieveCreds (uuid : OcUuid)
  | deleteCredByCredid (uuid : OcUuid) (credid : Int)
  | retrieveAcl (uuid : OcUuid)
  | deleteAceByAceid (uuid : OcUuid) (aceid : Int)

namespace ObtEntry

/-- The call is made. -/
def call (env : CallEnv) (s : ObtTool) : ObtEntry → Int × ObtTool
  | deviceHardReset uuid => ocObtDeviceHardReset env s uuid
  | provisionPairwiseCredentials uuid1 uuid2 => ocObtProvisionPairwiseCredentials env s uuid1 uuid2
  | provisionRoleCertificate roles uuid => ocObtProvisionRoleCertificate env s roles uuid
  | provisionIdentityCertificate uuid => ocObtProvisionIdentityCertificate env s uuid
  | provisionAce uuid ace => ocObtProvisionAce env s uuid ace
  | retrieveCreds uuid => ocObtRetrieveCreds env s uuid
  | deleteCredByCredid uuid credid => ocObtDeleteCredByCredid env s uuid credid
  | retrieveAcl uuid => ocObtRetrieveAcl env s uuid
  | deleteAceByAceid uuid aceid => ocObtDeleteAceByAceid env s uuid aceid

/-- The pool of its context. -/
def pool : ObtEntry → ObtPool
  | deviceHardReset _ => .hardReset
  | provisionPairwiseCredentials _ _ | provisionRoleCertificate _ _ | provisionIdentityCertificate _ => .credprov
  | provisionAce _ _ => .acl2prov
  | retrieveCreds _ => .credret
  | deleteCredByCredid _ _ => .creddel
  | retrieveAcl _ => .aclret
  | deleteAceByAceid _ _ => .acedel

/-- Its first request. -/
def first : ObtEntry → FirstRequest
  | deviceHardReset _ => .switchDos .reset
  | provisionRoleCertificate _ _ | provisionIdentityCertificate _ => .get (ascii "/oic/sec/doxm")
  | retrieveCreds _ => .get (ascii "/oic/sec/cred")
  | retrieveAcl _ => .get (ascii "/oic/sec/acl2")
  | _ => .switchDos .rfpro

end ObtEntry

/-! ## Faithful reports -/

/-- The result of a call says how it started: 0 exactly when the first request went out and a context,
whose block is in use, is new on the list; otherwise -1, with every block that was taken given back. -/
structure ReportsStart (s : ObtTool) (pool : ObtPool) (first : FirstRequest) (r : Int × ObtTool) : Prop where
  zero : r.1 = 0 ↔
    (∃ endpoint userData, r.2.requests = s.requests ++ [⟨first, endpoint, userData⟩]) ∧
      ∃ ctx, ctx.addr ∈ r.2.used pool ∧ r.2.listed pool = s.listed pool ++ [ctx]
  failed : r.1 ≠ 0 → r.1 = -1 ∧ r.2.used = s.used

/-- The call reports its start faithfully. -/
def Reported (env : CallEnv) (s : ObtTool) (e : ObtEntry) : Prop := ReportsStart s e.pool e.first (e.call env s)

/-- There is a block for the context. -/
def Allocates (env : CallEnv) (s : ObtTool) (pool : ObtPool) : Prop :=
  (ocMembAlloc env.ctxBlock (s.used pool)).isSome = true

/-- The device is owned, and the tool knows it. -/
def OwnedAndKnown (env : CallEnv) (s : ObtTool) (uuid : OcUuid) : Prop :=
  env.isOwned uuid = true ∧ (ocObtGetOwnedDeviceHandle s uuid).isSome = true

/-- The call about these devices is not left at a check after its context was allocated. -/
def LeavesNoContext (env : CallEnv) (s : ObtTool) (pool : ObtPool) (uuids : List OcUuid) : Prop :=
  Allocates env s pool → ∀ uuid ∈ uuids, OwnedAndKnown env s uuid

/-- The retrieval does not come to a request that fails. -/
def RetrievalSends (env : CallEnv) (s : ObtTool) (pool : ObtPool) (uuid : OcUuid) : Prop :=
  OwnedAndKnown env s uuid → Allocates env s pool → env.sends = true

/-- When a call reports its start faithfully. -/
def ReportsFaithfully (env : CallEnv) (s : ObtTool) : ObtEntry → Prop
  | .deviceHardReset uuid => LeavesNoContext env s .hardReset [uuid]
  | .provisionPairwiseCredentials uuid1 uuid2 => LeavesNoContext env s .credprov [uuid1, uuid2]
  | .provisionRoleCertificate _ uuid => LeavesNoContext env s .credprov [uuid]
  | .provisionIdentityCertificate uuid => LeavesNoContext env s .credprov [uuid]
  | .provisionAce uuid _ => LeavesNoContext env s .acl2prov [uuid]
  | .retrieveCreds uuid => RetrievalSends env s .credret uuid
  | .retrieveAcl uuid => RetrievalSends env s .aclret uuid
  | .deleteCredByCredid _ _ => True
  | .deleteAceByAceid _ _ => True

/-! ## The first request -/

/-- The first request can go out: `switch_dos` needs an endpoint and a context of its own. -/
def SendsFirst (env : CallEnv) (s : ObtTool) (device : Nat) : FirstRequest → Prop
  | .switchDos _ =>
    (ocObtGetSecureEndpoint (s.blocks device).endpoint).isSome = true ∧
      (ocMembAlloc env.dosBlock (s.used .switchDos)).isSome = true ∧ env.sends = true
  | .get _ => env.sends = true

/-- What a first request that went out changes: of the tool's own pools, only that of `switch_dos`. -/
structure FirstSent (s s' : ObtTool) (first : FirstRequest) : Prop where
  requests : ∃ endpoint userData, s'.requests = s.requests ++ [⟨first, endpoint, userData⟩]
  used : ∀ pool ≠ .switchDos, s'.used pool = s.used pool
  listed : ∀ pool ≠ .switchDos, s'.listed pool = s.listed pool

section First

variable {env : CallEnv} {s : ObtTool} {device addr : Nat}

theorem switchDos_sent (addr : Nat) {dos : OcDostype} (h : SendsFirst env s device (.switchDos dos)) :
    ∃ d s', switchDos env s device dos addr = (some d, s') ∧ FirstSent s s' (.switchDos dos) := by
  obtain ⟨hep, hblock, hsends⟩ := h
  obtain ⟨ep, hep⟩ := Option.isSome_iff_exists.1 hep
  obtain ⟨d, hblock⟩ := Option.isSome_iff_exists.1 hblock
  simp only [switchDos, hep, hblock, hsends, if_true]
  refine ⟨_, _, rfl, ⟨_, _, rfl⟩, ?_, ?_⟩
  · intro pool hne
    simp [ObtTool.add, ObtTool.send, ObtTool.alloc, hne]
  · intro pool hne
    simp [ObtTool.add, ObtTool.send, ObtTool.alloc, hne]

theorem switchDos_failed {dos : OcDostype} (h : ¬ SendsFirst env s device (.switchDos dos)) :
    switchDos env s device dos addr = (none, s) := by
  unfold switchDos
  cases hep : ocObtGetSecureEndpoint (s.blocks device).endpoint with
  | none => rfl
  | some ep =>
    cases hblock : ocMembAlloc env.dosBlock (s.used .switchDos) with
    | none => rfl
    | some d =>
      have hsends : env.sends ≠ true := fun hsends => h ⟨by rw [hep]; rfl, by rw [hblock]; rfl, hsends⟩
      simp [hsends]

theorem sendFirst_sent (addr : Nat) {first : FirstRequest} (h : SendsFirst env s device first) :
    ∃ d s', sendFirst env s device addr first = (some d, s') ∧ FirstSent s s' first := by
  cases first with
  | switchDos dos =>
    obtain ⟨d, s', hrun, hsent⟩ := switchDos_sent addr h
    exact ⟨some d, s', by simp [sendFirst, hrun], hsent⟩
  | get uri =>
    have hsends : env.sends = true := h
    have hrun : sendFirst env s device addr (.get uri) =
        (some none, s.send ⟨.get uri, ocObtGetSecureEndpoint (s.blocks device).endpoint, addr⟩) := by
      simp only [sendFirst, hsends, if_true]
    exact ⟨none, _, hrun, ⟨_, _, rfl⟩, fun _ _ => rfl, fun _ _ => rfl⟩

theorem sendFirst_failed {first : FirstRequest} (h : ¬ SendsFirst env s device first) :
    sendFirst env s device addr first = (none, s) := by
  cases first with
  | switchDos dos => simp [sendFirst, switchDos_failed h]
  | get uri =>
    have hsends : env.sends ≠ true := h
    simp [sendFirst, hsends]

theorem sendsFirst_alloc {pool : ObtPool} (hpool : pool ≠ .switchDos) (first : FirstRequest) :
    SendsFirst env (s.alloc pool addr) device first ↔ SendsFirst env s device first := by
  cases first with
  | switchDos dos => simp [SendsFirst, ObtTool.alloc, hpool.symm]
  | get uri => exact Iff.rfl

end First

/-! ## The two kinds of calls -/

section Kinds

variable {env : CallEnv} {s : ObtTool} {pool : ObtPool} {first : FirstRequest}

theorem reportsStart_failed {s' : ObtTool} (hrequests : s'.requests = s.requests) (hused : s'.used = s.used) :
    ReportsStart s pool first (-1, s') where
  zero := by
    refine ⟨fun h => absurd h (by simp), ?_⟩
    rintro ⟨⟨_, _, hsent⟩, -⟩
    simp [hrequests] at hsent
  failed := fun _ => ⟨rfl, hused⟩

theorem sendAndList_failed {device addr : Nat} {ctx : Option Nat → ObtCtx} {failed : ObtTool → Int × ObtTool}
    (h : ¬ SendsFirst env s device first) : sendAndList env s pool device addr first ctx failed = failed s := by
  simp only [sendAndList, sendFirst_failed h]

theorem reportsStart_sent {device addr : Nat} {ctx : Option Nat → ObtCtx} {failed : ObtTool → Int × ObtTool}
    (hpool : pool ≠ .switchDos) (h : SendsFirst env (s.alloc pool addr) device first)
    (hctx : ∀ d, (ctx d).addr = addr) :
    ReportsStart s pool first (sendAndList env (s.alloc pool addr) pool device addr first ctx failed) := by
  obtain ⟨d, s', hfirst, hsent⟩ := sendFirst_sent addr h
  have hrun : sendAndList env (s.alloc pool addr) pool device addr first ctx failed = (0, s'.add pool (ctx d)) := by
    simp only [sendAndList, hfirst]
  rw [hrun]
  refine ⟨⟨fun _ => ⟨hsent.requests, ctx d, ?_, ?_⟩, fun _ => rfl⟩, fun h => absurd rfl h⟩
  · rw [ObtTool.add_used, hsent.used pool hpool, hctx]
    simp [ObtTool.alloc]
  · rw [ObtTool.add_listed, hsent.listed pool hpool, ObtTool.alloc_listed]

theorem not_reportsStart_left {addr : Nat} : ¬ ReportsStart s pool first (-1, s.alloc pool addr) :=
  fun h => s.alloc_used_ne pool addr (h.failed (by simp)).2

theorem mapM_handle_isSome {uuids : List OcUuid} :
    (uuids.mapM (ocObtGetOwnedDeviceHandle s)).isSome = true ↔
      ∀ uuid ∈ uuids, (ocObtGetOwnedDeviceHandle s uuid).isSome = true := by
  induction uuids with
  | nil => simp
  | cons uuid uuids ih =>
    rw [List.mapM_cons, List.forall_mem_cons, ← ih]
    cases ocObtGetOwnedDeviceHandle s uuid with
    | none => simp
    | some device => cases uuids.mapM (ocObtGetOwnedDeviceHandle s) <;> simp

theorem allocatedFirst_passed (first : FirstRequest) (arg : ObtArg) (failed : ObtTool → ObtTool) {uuid : OcUuid}
    {more : List OcUuid} {addr : Nat} (haddr : ocMembAlloc env.ctxBlock (s.used pool) = some addr)
    (hpass : ∀ u ∈ uuid :: more, OwnedAndKnown env s u) :
    ∃ device devices, ocObtGetOwnedDeviceHandle s uuid = some device ∧
      allocatedFirst env s pool uuid more first arg failed =
        sendAndList env (s.alloc pool addr) pool device addr first (⟨addr, device :: devices, ·, arg⟩)
          fun s => (-1, (failed s).free pool addr) := by
  have hany : ((uuid :: more).any fun u => !env.isOwned u) = false := by
    rw [List.any_eq_false]
    intro u hu
    simp [(hpass u hu).1]
  obtain ⟨device, hdevice⟩ := Option.isSome_iff_exists.1 (hpass uuid List.mem_cons_self).2
  obtain ⟨devices, hdevices⟩ := Option.isSome_iff_exists.1
    (mapM_handle_isSome.2 fun u hu => (hpass u (List.mem_cons_of_mem _ hu)).2)
  refine ⟨device, devices, hdevice, ?_⟩
  -- the devices are as before the allocation
  have hdevice' : ocObtGetOwnedDeviceHandle (s.alloc pool addr) uuid = some device := hdevice
  have hdevices' : more.mapM (ocObtGetOwnedDeviceHandle (s.alloc pool addr)) = some devices := hdevices
  simp only [allocatedFirst, haddr, hany, hdevice', hdevices', Bool.false_eq_true, if_false]

theorem allocatedFirst_left {uuid : OcUuid} {more : List OcUuid} {arg : ObtArg} {failed : ObtTool → ObtTool}
    {addr : Nat} (haddr : ocMembAlloc env.ctxBlock (s.used pool) = some addr)
    (hpass : ¬ ∀ u ∈ uuid :: more, OwnedAndKnown env s u) :
    allocatedFirst env s pool uuid more first arg failed = (-1, s.alloc pool addr) := by
  simp only [allocatedFirst, haddr]
  split
  · rfl
  · rename_i hany
    split
    · rfl
    · rename_i device hdevice
      split
      · rfl
      · rename_i devices hdevices
        refine absurd ?_ hpass
        intro u hu
        rw [Bool.not_eq_true, List.any_eq_false] at hany
        refine ⟨by simpa using hany u hu, ?_⟩
        rcases List.mem_cons.1 hu with rfl | hmem
        · exact Option.isSome_iff_exists.2 ⟨device, hdevice⟩
        · exact mapM_handle_isSome.1 (Option.isSome_iff_exists.2 ⟨devices, hdevices⟩) u hmem

theorem allocatedFirst_reported {uuid : OcUuid} {more : List OcUuid} {arg : ObtArg} {failed : ObtTool → ObtTool}
    (hpool : pool ≠ .switchDos) (hused : ∀ s, (failed s).used = s.used)
    (hrequests : ∀ s, (failed s).requests = s.requests) :
    ReportsStart s pool first (allocatedFirst env s pool uuid more first arg failed) ↔
      LeavesNoContext env s pool (uuid :: more) := by
  unfold LeavesNoContext Allocates
  cases haddr : ocMembAlloc env.ctxBlock (s.used pool) with
  | none =>
    have hrun : allocatedFirst env s pool uuid more first arg failed = (-1, s) := by simp [allocatedFirst, haddr]
    rw [hrun]
    exact ⟨fun _ h => absurd h (by decide), fun _ => reportsStart_failed rfl rfl⟩
  | some addr =>
    by_cases hpass : ∀ u ∈ uuid :: more, OwnedAndKnown env s u
    · refine ⟨fun _ _ => hpass, fun _ => ?_⟩
      obtain ⟨device, devices, -, hrun⟩ := allocatedFirst_passed first arg failed haddr hpass
      rw [hrun]
      by_cases hsends : SendsFirst env (s.alloc pool addr) device first
      · exact reportsStart_sent hpool hsends fun _ => rfl
      · rw [sendAndList_failed hsends]
        refine reportsStart_failed ?_ ?_
        · exact hrequests _
        · have := congrArg ObtTool.used (s.free_alloc pool addr)
          simpa [ObtTool.free, hused] using this
    · rw [allocatedFirst_left haddr hpass]
      exact ⟨fun h => absurd h not_reportsStart_left, fun h => absurd (h rfl) hpass⟩

/-- A call that checks first: it reports its start unless it returns another code than -1 when its
request fails. -/
theorem checkedFirst_reported {uuid : OcUuid} {keepsDevice : Bool} {arg : ObtArg} {code : Int}
    (hpool : pool ≠ .switchDos) (hcode : code = -1 ∨ code = 0) :
    ReportsStart s pool first (checkedFirst env s pool uuid keepsDevice first arg code) ↔
      (code = 0 → OwnedAndKnown env s uuid → Allocates env s pool →
        ∀ device, ocObtGetOwnedDeviceHandle s uuid = some device → SendsFirst env s device first) := by
  unfold checkedFirst OwnedAndKnown Allocates
  cases howned : env.isOwned uuid with
  | false => exact ⟨fun _ _ h => absurd h.1 (by decide), fun _ => reportsStart_failed rfl rfl⟩
  | true =>
    cases hdevice : ocObtGetOwnedDeviceHandle s uuid with
    | none => exact ⟨fun _ _ h => absurd h.2 (by decide), fun _ => reportsStart_failed rfl rfl⟩
    | some device =>
      cases haddr : ocMembAlloc env.ctxBlock (s.used pool) with
      | none => exact ⟨fun _ _ _ h => absurd h (by decide), fun _ => reportsStart_failed rfl rfl⟩
      | some addr =>
        by_cases hsends : SendsFirst env s device first
        · refine ⟨fun _ _ _ _ device' heq => by cases heq; exact hsends, fun _ => ?_⟩
          exact reportsStart_sent hpool ((sendsFirst_alloc hpool first).2 hsends) fun _ => rfl
        · have hfails : ¬ SendsFirst env (s.alloc pool addr) device first :=
            fun h => hsends ((sendsFirst_alloc hpool first).1 h)
          simp only [Bool.not_true, Bool.false_eq_true, if_false, sendAndList_failed hfails, ObtTool.free_alloc]
          rcases hcode with rfl | rfl
          · exact ⟨fun _ h => absurd h (by decide), fun _ => reportsStart_failed rfl rfl⟩
          · constructor
            · intro h
              obtain ⟨⟨_, _, hsent⟩, -⟩ := h.zero.1 rfl
              simp at hsent
            · intro h
              exact absurd (h rfl ⟨trivial, rfl⟩ rfl device rfl) hsends

end Kinds

/-! ## The caller's ACE -/

/-- A call of `oc_obt_provision_ace`. -/
structure AceCall where
  env : CallEnv
  tool : ObtTool
  uuid : OcUuid
  ace : Nat

namespace AceCall

/-- What the call returns, and the state it leaves. -/
def result (c : AceCall) : Int × ObtTool := ocObtProvisionAce c.env c.tool c.uuid c.ace

/-- The ACE has been freed. -/
def Frees (c : AceCall) : Prop := c.result.2.freedAces = c.tool.freedAces ++ [c.ace]

/-- If both calls fail, both free the ACE or neither does. -/
def Alike (c c' : AceCall) : Prop := c.result.1 ≠ 0 → c'.result.1 ≠ 0 → (c.Frees ↔ c'.Frees)

/-- The call comes to its request. -/
def PassesChecks (c : AceCall) : Prop := Allocates c.env c.tool .acl2prov ∧ OwnedAndKnown c.env c.tool c.uuid

/-- The request cannot go out. -/
def CannotSend (c : AceCall) : Prop :=
  ∃ device, ocObtGetOwnedDeviceHandle c.tool c.uuid = some device ∧
    ¬ SendsFirst c.env c.tool device (.switchDos .rfpro)

/-- The call fails before it comes to its request. -/
def FailsEarly (c : AceCall) : Prop := ¬ c.PassesChecks

/-- The call fails at its request. -/
def FailsLate (c : AceCall) : Prop := c.PassesChecks ∧ c.CannotSend

theorem early {c : AceCall} (h : c.FailsEarly) : c.result.1 = -1 ∧ ¬ c.Frees := by
  unfold Frees result ocObtProvisionAce
  cases haddr : ocMembAlloc c.env.ctxBlock (c.tool.used .acl2prov) with
  | none => simp [allocatedFirst, haddr]
  | some addr =>
    have hpass : ¬ ∀ u ∈ c.uuid :: [], OwnedAndKnown c.env c.tool u := by
      intro hpass
      refine h ⟨?_, hpass c.uuid List.mem_cons_self⟩
      rw [Allocates, haddr]
      rfl
    rw [allocatedFirst_left haddr hpass]
    simp

theorem passed {c : AceCall} (h : c.PassesChecks) :
    ∃ addr device devices, ocObtGetOwnedDeviceHandle c.tool c.uuid = some device ∧
    c.result = sendAndList c.env (c.tool.alloc .acl2prov addr) .acl2prov device addr (.switchDos .rfpro)
      (⟨addr, device :: devices, ·, .ace c.ace⟩) fun s => (-1, (s.freeAce c.ace).free .acl2prov addr) := by
  obtain ⟨addr, haddr⟩ := Option.isSome_iff_exists.1 h.1
  obtain ⟨device, devices, hdevice, hrun⟩ := allocatedFirst_passed (.switchDos .rfpro) (.ace c.ace)
    (·.freeAce c.ace) haddr (List.forall_mem_singleton.2 h.2)
  exact ⟨addr, device, devices, hdevice, hrun⟩

theorem late {c : AceCall} (h : c.FailsLate) : c.result.1 = -1 ∧ c.Frees := by
  obtain ⟨addr, device, devices, hdevice, hrun⟩ := passed h.1
  obtain ⟨device', hdevice', hfails⟩ := h.2
  cases hdevice.symm.trans hdevice'
  have hfails' : ¬ SendsFirst c.env (c.tool.alloc .acl2prov addr) device (.switchDos .rfpro) :=
    fun hsends => hfails ((sendsFirst_alloc (by decide) _).1 hsends)
  rw [sendAndList_failed hfails'] at hrun
  unfold Frees
  rw [hrun]
  exact ⟨rfl, rfl⟩

theorem neither {c : AceCall} (hearly : ¬ c.FailsEarly) (hlate : ¬ c.FailsLate) : c.result.1 = 0 := by
  have hpass : c.PassesChecks := Classical.not_not.1 hearly
  obtain ⟨addr, device, devices, hdevice, hrun⟩ := passed hpass
  have hsends : SendsFirst c.env c.tool device (.switchDos .rfpro) := by
    by_contra hfails
    exact hlate ⟨hpass, device, hdevice, hfails⟩
  have hsends' : SendsFirst c.env (c.tool.alloc .acl2prov addr) device (.switchDos .rfpro) :=
    (sendsFirst_alloc (by decide) _).2 hsends
  obtain ⟨d, s', hfirst, -⟩ := sendFirst_sent addr hsends'
  rw [hrun]
  simp only [sendAndList, hfirst]

theorem alike_iff (c c' : AceCall) :
    c.Alike c' ↔ ¬ (c.FailsEarly ∧ c'.FailsLate ∨ c.FailsLate ∧ c'.FailsEarly) := by
  constructor
  · rintro h (⟨hearly, hlate⟩ | ⟨hlate, hearly⟩)
    · have hfrees := h (by rw [(early hearly).1]; decide) (by rw [(late hlate).1]; decide)
      exact (early hearly).2 (hfrees.2 (late hlate).2)
    · have hfrees := h (by rw [(late hlate).1]; decide) (by rw [(early hearly).1]; decide)
      exact (early hearly).2 (hfrees.1 (late hlate).2)
  · intro h hfails hfails'
    -- a call that fails fails early or late
    have hc : c.FailsEarly ∨ c.FailsLate := by
      by_contra hnone
      exact hfails (neither (fun he => hnone (.inl he)) fun hl => hnone (.inr hl))
    have hc' : c'.FailsEarly ∨ c'.FailsLate := by
      by_contra hnone
      exact hfails' (neither (fun he => hnone (.inl he)) fun hl => hnone (.inr hl))
    rcases hc with hearly | hlate <;> rcases hc' with hearly' | hlate'
    · exact iff_of_false (early hearly).2 (early hearly').2
    · exact absurd (.inl ⟨hearly, hlate'⟩) h
    · exact absurd (.inr ⟨hlate, hearly'⟩) h
    · exact iff_of_true (late hlate).2 (late hlate').2

end AceCall

/-! ## Which calls report their start -/

theorem retrieval_reported {env : CallEnv} {s : ObtTool} {pool : ObtPool} {uuid : OcUuid} {uri : OcString}
    (hpool : pool ≠ .switchDos) :
    ReportsStart s pool (.get uri) (checkedFirst env s pool uuid false (.get uri) .none 0) ↔
      RetrievalSends env s pool uuid := by
  rw [checkedFirst_reported hpool (.inr rfl)]
  constructor
  · intro h howned hblock
    obtain ⟨device, hdevice⟩ := Option.isSome_iff_exists.1 howned.2
    exact h rfl howned hblock device hdevice
  · intro h _ howned hblock device _
    exact h howned hblock

/-- The calls that allocate first report their start unless they are left at a check with a context in
hand, the retrievals unless their request fails, the deletions always; and `oc_obt_provision_ace`
treats the ACE alike in two failing cases unless one comes before the request and one at it. -/
theorem calls_reported_iff (env : CallEnv) (s : ObtTool) (e : ObtEntry) (c c' : AceCall) :
    (Reported env s e ↔ ReportsFaithfully env s e) ∧
      (c.Alike c' ↔ ¬ (c.FailsEarly ∧ c'.FailsLate ∨ c.FailsLate ∧ c'.FailsEarly)) := by
  refine ⟨?_, AceCall.alike_iff c c'⟩
  have hpool : e.pool ≠ .switchDos := by cases e <;> simp [ObtEntry.pool]
  cases e with
  | deviceHardReset uuid => exact allocatedFirst_reported hpool (fun _ => rfl) fun _ => rfl
  | provisionPairwiseCredentials uuid1 uuid2 => exact allocatedFirst_reported hpool (fun _ => rfl) fun _ => rfl
  | provisionRoleCertificate roles uuid => exact allocatedFirst_reported hpool (fun _ => rfl) fun _ => rfl
  | provisionIdentityCertificate uuid => exact allocatedFirst_reported hpool (fun _ => rfl) fun _ => rfl
  | provisionAce uuid ace => exact allocatedFirst_reported hpool (fun _ => rfl) fun _ => rfl
  | retrieveCreds uuid => exact retrieval_reported hpool
  | retrieveAcl uuid => exact retrieval_reported hpool
  | deleteCredByCredid uuid credid =>
    exact iff_of_true ((checkedFirst_reported hpool (.inl rfl)).2 fun h => absurd h (by decide)) trivial
  | deleteAceByAceid uuid aceid =>
    exact iff_of_true ((checkedFirst_reported hpool (.inl rfl)).2 fun h => absurd h (by decide)) trivial

/-- A tool with one owned device at block 5, which has an endpoint. -/
def sampleTool : ObtTool := ⟨[5], fun _ => ⟨OcUuid.nil, [OcEndpoint.zero]⟩, fun _ => [], fun _ => [], [], []⟩

/-- A hard reset of a device that is not owned keeps its context, a retrieval that cannot be sent returns
0, and the ACE is freed when the request fails but not when the device is not owned. -/
theorem calls_misreported :
    ¬ Reported ⟨some 1, some 2, fun _ => false, true⟩ sampleTool (.deviceHardReset OcUuid.nil) ∧
      ¬ Reported ⟨some 1, some 2, fun _ => true, false⟩ sampleTool (.retrieveCreds OcUuid.nil) ∧
      ¬ AceCall.Alike ⟨⟨some 1, some 2, fun _ => false, true⟩, sampleTool, OcUuid.nil, 9⟩
        ⟨⟨some 1, some 2, fun _ => true, false⟩, sampleTool, OcUuid.nil, 9⟩ := by
  refine ⟨?_, ?_, ?_⟩
  · intro h
    have hused := congrFun (h.failed (by decide)).2 .hardReset
    exact absurd hused (by decide)
  · intro h
    obtain ⟨⟨_, _, hsent⟩, -⟩ := h.zero.1 (by decide)
    have hlength := congrArg List.length hsent
    simp only [List.length_append, List.length_singleton] at hlength
    exact absurd hlength (by decide)
  · intro h
    exact absurd (h (by decide) (by decide)) (by unfold AceCall.Frees; decide)

end SmartGarage.ObtCalls
