/-
What the cloud contexts find in the storage after a restart: the store that has been dumped last, for whatever device,
since all of them keep it under the tag of device 0.
-/
import SmartGarage.Cloud.Context
import SmartGarage.Api.RepRoundTrip
import Mathlib.Data.List.TakeWhile

namespace SmartGarage

/-! ## Dumps -/

section Dumps

variable (maxAppDataSize : Nat) (contexts : List OcCloudContext)

/-- A call of `cloud_store_dump` for the context of a device, whose store has some content by then. -/
structure CloudDump where
  device : Nat
  content : CloudContent
deriving DecidableEq

/-- The call. No code sets the device of a store, so it is the one the context was created with. -/
def CloudDump.run (storage : CloudStorage) (dump : CloudDump) : CloudStorage :=
  match ocCloudGetContext contexts dump.device with
  | some ctx => cloudStoreDump maxAppDataSize storage ⟨dump.content, ctx.store.device⟩
  | none => storage

/-- The content of the last dump for a device. -/
def lastDump (dumps : List CloudDump) (device : Nat) : Option CloudContent :=
  ((dumps.filter fun dump => dump.device = device).getLast?).map CloudDump.content

end Dumps

/-! ## What is decoded from a payload -/

/-- A string of the store: `cloud_set_string` allocates no empty one, and it has no NUL. -/
def CloudText (value : Option OcString) : Prop := ∀ t ∈ value, t ≠ [] ∧ 0 ∉ t

instance (value : Option OcString) : Decidable (CloudText value) :=
  inferInstanceAs (Decidable (∀ t ∈ value, t ≠ [] ∧ 0 ∉ t))

/-- The strings of the store. -/
def CloudContent.Texts (content : CloudContent) : Prop :=
  CloudText content.ciServer ∧ CloudText content.authProvider ∧ CloudText content.uid ∧ CloudText content.accessToken ∧
    CloudText content.refreshToken ∧ CloudText content.sid

instance (content : CloudContent) : Decidable content.Texts := inferInstanceAs (Decidable (_ ∧ _))

theorem cloudText_cstr {value : Option OcString} (h : CloudText value) : value.map cstr = value := by
  cases value with
  | none => rfl
  | some t =>
    refine congrArg some (List.takeWhile_eq_self_iff.2 fun b hb => decide_eq_true fun hzero => (h t rfl).2 ?_)
    rwa [hzero] at hb

theorem cloudText_getD {value : Option OcString} (h : CloudText value) : 0 ∉ value.getD [] := by
  cases value with
  | none => exact List.not_mem_nil
  | some t => exact (h t rfl).2

theorem cloudSetString_getD {value : Option OcString} (h : CloudText value) : cloudSetString (value.getD []) = value := by
  cases value with
  | none => rfl
  | some t => exact if_neg fun hlength => (h t rfl).1 (List.eq_nil_of_length_eq_zero hlength)

section Codec

variable {itemMax : Nat}

/-- The properties of the payload. -/
def cloudEntries (content : CloudContent) : List (OcString × RepBuild) :=
  [(ascii "ci_server", .setTextString (content.ciServer.getD [])),
   (ascii "auth_provider", .setTextString (content.authProvider.getD [])),
   (ascii "uid", .setTextString (content.uid.getD [])),
   (ascii "sid", .setTextString (content.sid.getD [])),
   (ascii "access_token", .setTextString (content.accessToken.getD [])),
   (ascii "refresh_token", .setTextString (content.refreshToken.getD [])),
   (ascii "status", .setInt content.status.toNat),
   (ascii "cps", .setInt content.cps.toNat)]

variable {content : CloudContent}

theorem encodeCloudWithMap_eq (h : content.Texts) :
    encodeCloudWithMap content = RepBuild.encodeEntries (cloudEntries content) := by
  obtain ⟨hci, hauth, huid, haccess, hrefresh, hsid⟩ := h
  unfold encodeCloudWithMap
  rw [cloudText_cstr hci, cloudText_cstr hauth, cloudText_cstr huid, cloudText_cstr haccess, cloudText_cstr hrefresh,
    cloudText_cstr hsid]
  rfl

theorem cloudEntries_encodable (h : content.Texts) :
    RepBuild.EncodableEntries itemMax (cloudEntries content) := by
  obtain ⟨hci, hauth, huid, haccess, hrefresh, hsid⟩ := h
  exact ⟨by decide, cloudText_getD hci, by decide, cloudText_getD hauth, by decide, cloudText_getD huid,
    by decide, cloudText_getD hsid, by decide, cloudText_getD haccess, by decide, cloudText_getD hrefresh,
    by decide, inInt64_byte _, by decide, inInt64_byte _, trivial⟩

theorem decodeCloudString_of (value : OcString) (ci auth uid access refresh sid : Option OcString) (status cps : UInt8)
    (device : Nat) :
    let store : OcCloudStore := ⟨⟨ci, auth, uid, access, refresh, sid, status, cps⟩, device⟩
    let t := cloudSetString value
    decodeCloudString (ascii "ci_server") value store = some ⟨⟨t, auth, uid, access, refresh, sid, status, cps⟩, device⟩ ∧
    decodeCloudString (ascii "sid") value store = some ⟨⟨ci, auth, uid, access, refresh, t, status, cps⟩, device⟩ ∧
    decodeCloudString (ascii "auth_provider") value store =
      some ⟨⟨ci, t, uid, access, refresh, sid, status, cps⟩, device⟩ ∧
    decodeCloudString (ascii "uid") value store = some ⟨⟨ci, auth, t, access, refresh, sid, status, cps⟩, device⟩ ∧
    decodeCloudString (ascii "access_token") value store =
      some ⟨⟨ci, auth, uid, t, refresh, sid, status, cps⟩, device⟩ ∧
    decodeCloudString (ascii "refresh_token") value store =
      some ⟨⟨ci, auth, uid, access, t, sid, status, cps⟩, device⟩ := by
  unfold decodeCloudString
  refine ⟨if_pos rfl, ?_, ?_, ?_, ?_, ?_⟩
  · rw [if_neg (by decide), if_pos rfl]
  · rw [if_neg (by decide), if_neg (by decide), if_pos rfl]
  · rw [if_neg (by decide), if_neg (by decide), if_neg (by decide), if_pos rfl]
  · rw [if_neg (by decide), if_neg (by decide), if_neg (by decide), if_neg (by decide), if_pos rfl]
  · rw [if_neg (by decide), if_neg (by decide), if_neg (by decide), if_neg (by decide), if_neg (by decide), if_pos rfl]

theorem cloudStoreDecode_text {name value : OcString} {rest : List RepNode} {store store' : OcCloudStore}
    (h : decodeCloudString name value store = some store') :
    cloudStoreDecode (.leaf name (.string value) :: rest) store = cloudStoreDecode rest store' := by
  rw [cloudStoreDecode, h]

theorem cloudStoreDecode_int {name : OcString} {value : Int} {rest : List RepNode} {store store' : OcCloudStore}
    (h : decodeCloudInt name value store = some store') :
    cloudStoreDecode (.leaf name (.int value) :: rest) store = cloudStoreDecode rest store' := by
  rw [cloudStoreDecode, h]

/-- The strings of a payload. -/
def cloudTextNodes (content : CloudContent) : List RepNode :=
  [.leaf (ascii "ci_server") (.string (content.ciServer.getD [])),
   .leaf (ascii "auth_provider") (.string (content.authProvider.getD [])),
   .leaf (ascii "uid") (.string (content.uid.getD [])),
   .leaf (ascii "sid") (.string (content.sid.getD [])),
   .leaf (ascii "access_token") (.string (content.accessToken.getD [])),
   .leaf (ascii "refresh_token") (.string (content.refreshToken.getD []))]

theorem nodesOf_cloudEntries (content : CloudContent) : RepBuild.nodesOf (cloudEntries content) =
    cloudTextNodes content ++ [.leaf (ascii "status") (.int content.status.toNat),
      .leaf (ascii "cps") (.int content.cps.toNat)] := by
  simp only [cloudEntries, RepBuild.nodesOf, RepBuild.node, cloudTextNodes, List.cons_append, List.nil_append]

theorem cloudStoreDecode_texts (h : content.Texts) (rest : List RepNode) (store : OcCloudStore) :
    cloudStoreDecode (cloudTextNodes content ++ rest) store =
      cloudStoreDecode rest ⟨{ content with status := store.status, cps := store.cps }, store.device⟩ := by
  obtain ⟨hci, hauth, huid, haccess, hrefresh, hsid⟩ := h
  obtain ⟨⟨ci, auth, uid, access, refresh, sid, status, cps⟩, device⟩ := store
  simp only [cloudTextNodes, List.cons_append, List.nil_append]
  rw [cloudStoreDecode_text (decodeCloudString_of ..).1, cloudSetString_getD hci,
    cloudStoreDecode_text (decodeCloudString_of ..).2.2.1, cloudSetString_getD hauth,
    cloudStoreDecode_text (decodeCloudString_of ..).2.2.2.1, cloudSetString_getD huid,
    cloudStoreDecode_text (decodeCloudString_of ..).2.1, cloudSetString_getD hsid,
    cloudStoreDecode_text (decodeCloudString_of ..).2.2.2.2.1, cloudSetString_getD haccess,
    cloudStoreDecode_text (decodeCloudString_of ..).2.2.2.2.2, cloudSetString_getD hrefresh]

theorem decodeCloudInt_status (status : UInt8) (store : OcCloudStore) :
    decodeCloudInt (ascii "status") status.toNat store = some { store with status := status } := by
  rw [decodeCloudInt, if_pos rfl, ofInt_byte]

theorem decodeCloudInt_cps (cps : UInt8) (store : OcCloudStore) :
    decodeCloudInt (ascii "cps") cps.toNat store = some { store with cps := cps } := by
  rw [decodeCloudInt, if_neg (by decide), if_pos rfl, ofInt_byte]

theorem cloudStoreDecode_entries (h : content.Texts) (store : OcCloudStore) :
    cloudStoreDecode (RepBuild.nodesOf (cloudEntries content)) store = ⟨content, store.device⟩ := by
  rw [nodesOf_cloudEntries, cloudStoreDecode_texts h, cloudStoreDecode_int (decodeCloudInt_status ..),
    cloudStoreDecode_int (decodeCloudInt_cps ..), cloudStoreDecode]

theorem cloudStoreLoad_encode (h : content.Texts)
    (hsize : cborPayloadSize (cloudStoreEncode content) < 2 ^ 16) {storage : CloudStorage} {store : OcCloudStore}
    (hstorage : storage (genCloudTag cloudStoreName store.device) = some (cloudStoreEncode content)) :
    cloudStoreLoad itemMax storage store = ⟨content, store.device⟩ := by
  have hread : readCloudPayload (cloudStoreEncode content) = .map (RepBuild.encodeEntries (cloudEntries content)) := by
    rw [← encodeCloudWithMap_eq h]
    unfold cloudStoreEncode at hsize ⊢
    unfold readCloudPayload
    dsimp only
    rw [if_pos hsize]
  have hparse : ocParseRep itemMax (.map (RepBuild.encodeEntries (cloudEntries content))) =
    .ok (RepBuild.nodesOf (cloudEntries content)) := by
    rw [ocParseRep, RepBuild.parsed_entries (cloudEntries_encodable h)]
  unfold cloudStoreLoad
  rw [hstorage]
  dsimp only
  rw [hread, hparse]
  exact cloudStoreDecode_entries h store

end Codec

/-! ## Restarts -/

section Restarts

variable {maxAppDataSize itemMax : Nat} {contexts : List OcCloudContext} {storage : CloudStorage}

/-- A dump that is written whole: its strings are C strings, and its payload fits the buffer and is not cut. -/
def CloudDump.Fits (maxAppDataSize : Nat) (dump : CloudDump) : Prop :=
  dump.content.Texts ∧ cborPayloadSize (cloudStoreEncode dump.content) ≤ maxAppDataSize ∧
    cborPayloadSize (cloudStoreEncode dump.content) < 2 ^ 16

instance (dump : CloudDump) : Decidable (dump.Fits maxAppDataSize) := inferInstanceAs (Decidable (_ ∧ _))

/-- The tag that every context dumps to and loads from. -/
def cloudTag : OcString := genCloudTag cloudStoreName 0

theorem cloudStoreDecode_device : ∀ (rep : List RepNode) (store : OcCloudStore),
    (cloudStoreDecode rep store).device = store.device := by
  intro rep store
  fun_induction cloudStoreDecode rep store with
  | case1 name value rest store store' h ih =>
    rw [ih]
    unfold decodeCloudString at h
    split at h <;> grind
  | case3 name value rest store store' h ih =>
    rw [ih]
    unfold decodeCloudInt at h
    split at h <;> grind
  | case2 | case4 | case5 | case6 => rfl

theorem cloudStoreLoad_device (storage : CloudStorage) (store : OcCloudStore) :
    (cloudStoreLoad itemMax storage store).device = store.device := by
  unfold cloudStoreLoad
  split
  · split
    · exact cloudStoreDecode_device _ _
    · rfl
  · rfl

theorem ocCloudGetContext_init {numDevices device : Nat} (h : device < numDevices) :
    ocCloudGetContext (ocCloudInit itemMax storage numDevices) device = some (cloudContextInit itemMax storage device) := by
  have hfind : (List.range numDevices).find? (fun d => (cloudContextInit itemMax storage d).device = device) =
      some device := by
    refine List.find?_range_eq_some.2 ⟨decide_eq_true rfl, List.mem_range.2 h, fun d hd => ?_⟩
    rw [Bool.not_eq_true']
    exact decide_eq_false hd.ne
  unfold ocCloudGetContext ocCloudInit
  rw [List.find?_map]
  exact congrArg (Option.map _) hfind

theorem CloudDump.run_eq {numDevices : Nat} {old : CloudStorage} {dump : CloudDump}
    (hdevice : dump.device < numDevices) (hfits : dump.Fits maxAppDataSize) :
    dump.run maxAppDataSize (ocCloudInit itemMax old numDevices) storage =
      storage.write cloudTag (cloudStoreEncode dump.content) := by
  unfold CloudDump.run
  rw [ocCloudGetContext_init hdevice]
  show cloudStoreDump maxAppDataSize storage ⟨dump.content, (cloudStoreLoad itemMax old .zero).device⟩ = _
  rw [cloudStoreLoad_device]
  exact if_pos hfits.2.1

theorem storage_dumps {numDevices : Nat} {old : CloudStorage} {dumps : List CloudDump} {last : CloudDump}
    (hdevices : ∀ dump ∈ dumps, dump.device < numDevices) (hfits : ∀ dump ∈ dumps, dump.Fits maxAppDataSize)
    (hlast : dumps.getLast? = some last) :
    dumps.foldl (CloudDump.run maxAppDataSize (ocCloudInit itemMax old numDevices)) storage cloudTag =
      some (cloudStoreEncode last.content) := by
  obtain ⟨earlier, rfl⟩ := List.getLast?_eq_some_iff.1 hlast
  have hmem : last ∈ earlier ++ [last] := List.mem_append_right _ (List.mem_singleton_self _)
  rw [List.foldl_append, List.foldl_cons, List.foldl_nil, CloudDump.run_eq (hdevices _ hmem) (hfits _ hmem)]
  exact Function.update_self ..

/-- A restarted context has the store that was last dumped for its device just if that store is also what was last
dumped for any device. -/
theorem cloudStore_restart_iff {maxAppDataSize itemMax numDevices : Nat} {storage : CloudStorage} {dumps : List CloudDump}
    (hdevices : ∀ dump ∈ dumps, dump.device < numDevices) (hfits : ∀ dump ∈ dumps, dump.Fits maxAppDataSize)
    {device : Nat} {content : CloudContent} (hdump : lastDump dumps device = some content) :
    let contexts := ocCloudInit itemMax storage numDevices
    let stored := dumps.foldl (CloudDump.run maxAppDataSize contexts) storage
    ((ocCloudGetContext (ocCloudInit itemMax stored numDevices) device).map fun ctx => ctx.store.toCloudContent) =
        some content ↔
      dumps.getLast?.map CloudDump.content = some content := by
  intro contexts stored
  obtain ⟨dump, hdump, -⟩ := Option.map_eq_some_iff.1 hdump
  obtain ⟨hmem, hdevice⟩ := List.mem_filter.1 (List.mem_of_getLast? hdump)
  obtain ⟨last, hlast⟩ : ∃ last, dumps.getLast? = some last := ⟨_, List.getLast?_eq_some_getLast (List.ne_nil_of_mem hmem)⟩
  have hfit := hfits last (List.mem_of_getLast? hlast)
  have hstored : stored (genCloudTag cloudStoreName OcCloudStore.zero.device) = some (cloudStoreEncode last.content) :=
    storage_dumps hdevices hfits hlast
  rw [ocCloudGetContext_init (of_decide_eq_true hdevice ▸ hdevices dump hmem), hlast]
  show some (cloudStoreLoad itemMax stored .zero).toCloudContent = some content ↔ some last.content = some content
  rw [cloudStoreLoad_encode hfit.1 hfit.2.2 hstored]

/-- A store that has been registered. -/
def registeredContent (uid : String) : CloudContent where
  ciServer := some (ascii "coaps+tcp://127.0.0.1")
  authProvider := none
  uid := some (ascii uid)
  accessToken := some (ascii "t")
  refreshToken := none
  sid := some (ascii "s")
  status := 1
  cps := 3

/-- The device that dumps last finds its store again. -/
theorem cloudStore_restart_iff_one :
    let dumps := [CloudDump.mk 0 (registeredContent "t"), CloudDump.mk 1 (registeredContent "v"),
      CloudDump.mk 0 (registeredContent "u")]
    let contexts := ocCloudInit 256 (fun _ => none) 2
    let stored := dumps.foldl (CloudDump.run 8192 contexts) (fun _ => none)
    ((ocCloudGetContext (ocCloudInit 256 stored 2) 0).map fun ctx => ctx.store.toCloudContent) =
      some (registeredContent "u") :=
  (cloudStore_restart_iff (by decide) (by decide) (by decide)).2 rfl

/-- Device 0 comes back with what has been dumped for device 1. -/
theorem cloudStore_restart_other :
    let dumps := [CloudDump.mk 0 (registeredContent "u"), CloudDump.mk 1 (registeredContent "v")]
    let contexts := ocCloudInit 256 (fun _ => none) 2
    let stored := dumps.foldl (CloudDump.run 8192 contexts) (fun _ => none)
    (∀ dump ∈ dumps, dump.device < 2 ∧ dump.Fits 8192) ∧ lastDump dumps 0 = some (registeredContent "u") ∧
      ((ocCloudGetContext (ocCloudInit 256 stored 2) 0).map fun ctx => ctx.store.toCloudContent) =
        some (registeredContent "v") ∧
      registeredContent "v" ≠ registeredContent "u" := by
  decide +kernel

end Restarts

end SmartGarage
