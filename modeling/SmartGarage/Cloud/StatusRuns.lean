/-
The status over whole runs of the cloud: a restart finds a consistent store, and every step keeps it so if the responses to
registrations and refreshes bring what a login needs.
-/
import SmartGarage.Cloud.Status
import SmartGarage.Cloud.StoreRuns

namespace SmartGarage

/-! ## Loading a store -/

/-- What has been dumped is consistent. -/
def CloudStorage.Consistent (storage : CloudStorage) : Prop :=
  ∀ name payload, storage name = some payload →
    ∃ content : CloudContent, content.Consistent ∧ payload = cloudStoreEncode content

section Load

variable {content : CloudContent} {itemMax : Nat}

/-- The string that is loaded for one that has been dumped. -/
def loadedText (s : Option OcString) : Option OcString := (s.map cstr).bind cloudSetString

theorem cloudText_loadedText (s : Option OcString) : CloudText (loadedText s) := by
  intro t ht
  obtain ⟨t', ht', hset⟩ := Option.bind_eq_some_iff.1 ht
  obtain ⟨t, -, rfl⟩ := Option.map_eq_some_iff.1 ht'
  unfold cloudSetString at hset
  split at hset
  · cases hset
  · rename_i hlength
    cases hset
    refine ⟨fun hnil => hlength (congrArg List.length hnil), fun hmem => ?_⟩
    exact absurd (List.mem_takeWhile_imp hmem) (by decide)

theorem loadedText_some (t : OcString) : loadedText (some t) = if cstr t = [] then none else some (cstr t) := by
  unfold loadedText cloudSetString
  simp only [Option.map_some, Option.bind_some, List.length_eq_zero_iff]

theorem isText_loadedText (s : Option OcString) : isText (loadedText s) = isText s := by
  cases s with
  | none => rfl
  | some t =>
    rw [loadedText_some]
    by_cases hnil : cstr t = []
    · rw [if_pos hnil]
      exact (decide_eq_false (not_not_intro hnil)).symm
    · rw [if_neg hnil, isText, Option.any_some, cstr_cstr]
      rfl

theorem ocRepSetTextString_loadedText (key : OcString) (s : Option OcString) :
    ocRepSetTextString key ((loadedText s).map cstr) = ocRepSetTextString key (s.map cstr) := by
  cases s with
  | none => rfl
  | some t =>
    rw [loadedText_some]
    by_cases hnil : cstr t = []
    · rw [if_pos hnil, Option.map_some, hnil]
      rfl
    · rw [if_neg hnil, Option.map_some, Option.map_some, cstr_cstr]

/-- The content that is loaded for one that has been dumped. -/
def CloudContent.loaded (content : CloudContent) : CloudContent :=
  { content with
    ciServer := loadedText content.ciServer
    authProvider := loadedText content.authProvider
    uid := loadedText content.uid
    accessToken := loadedText content.accessToken
    refreshToken := loadedText content.refreshToken
    sid := loadedText content.sid }

theorem loaded_texts : content.loaded.Texts :=
  ⟨cloudText_loadedText _, cloudText_loadedText _, cloudText_loadedText _, cloudText_loadedText _,
    cloudText_loadedText _, cloudText_loadedText _⟩

theorem encode_loaded : encodeCloudWithMap content.loaded = encodeCloudWithMap content := by
  unfold encodeCloudWithMap CloudContent.loaded
  simp only [ocRepSetTextString_loadedText]

theorem loaded_consistent (h : content.Consistent) : content.loaded.Consistent := by
  refine ⟨h.login, fun hregistered => ?_⟩
  show isText (loadedText content.uid) ∧ isText (loadedText content.accessToken)
  rw [isText_loadedText, isText_loadedText]
  exact h.texts hregistered

theorem wholeEntries_take : ∀ (size : Nat) (entries : List (OcString × RepBuild)),
    (∀ e ∈ entries, ∃ item, RepBuild.encode e.1 e.2 = [.textString e.1, item]) →
    ∃ n, wholeEntries size (RepBuild.encodeEntries entries) = RepBuild.encodeEntries (entries.take n)
  | _, [], _ => ⟨0, by simp only [List.take_zero, RepBuild.encodeEntries, wholeEntries]⟩
  | size, (key, value) :: entries, h => by
    obtain ⟨item, hitem⟩ := h _ List.mem_cons_self
    rw [RepBuild.encodeEntries, show RepBuild.encode key value = _ from hitem, List.cons_append, List.cons_append,
      List.nil_append, wholeEntries]
    split
    · obtain ⟨n, hn⟩ := wholeEntries_take (size - (cborItemSize (.textString key) + cborItemSize item)) entries
        fun e he => h e (List.mem_cons_of_mem _ he)
      refine ⟨n + 1, ?_⟩
      rw [hn, List.take_succ_cons, RepBuild.encodeEntries, show RepBuild.encode key value = _ from hitem]
      rfl
    · exact ⟨0, by rw [List.take_zero, RepBuild.encodeEntries]⟩

theorem encode_cloudEntries (content : CloudContent) : ∀ e ∈ cloudEntries content,
    ∃ item, RepBuild.encode e.1 e.2 = [.textString e.1, item] := by
  intro e he
  simp only [cloudEntries, List.mem_cons, List.not_mem_nil, or_false] at he
  obtain rfl | rfl | rfl | rfl | rfl | rfl | rfl | rfl := he <;> exact ⟨_, rfl⟩

theorem encodableEntries_take : ∀ {n : Nat} {entries : List (OcString × RepBuild)},
    RepBuild.EncodableEntries itemMax entries → RepBuild.EncodableEntries itemMax (entries.take n)
  | 0, _, _ => by
    rw [List.take_zero]
    trivial
  | n + 1, [], _ => by
    rw [List.take_nil]
    trivial
  | n + 1, (key, value) :: entries, h => by
    rw [List.take_succ_cons]
    exact ⟨h.1, h.2.1, encodableEntries_take h.2.2⟩

theorem nodesOf_take : ∀ (n : Nat) (entries : List (OcString × RepBuild)),
    RepBuild.nodesOf (entries.take n) = (RepBuild.nodesOf entries).take n
  | 0, _ => by rw [List.take_zero, List.take_zero, RepBuild.nodesOf]
  | n + 1, [] => by rw [List.take_nil, RepBuild.nodesOf, List.take_nil]
  | n + 1, (key, value) :: entries => by
    rw [List.take_succ_cons, RepBuild.nodesOf, RepBuild.nodesOf, List.take_succ_cons, nodesOf_take n entries]

theorem cloudStoreDecode_status : ∀ (rep : List RepNode) (store : OcCloudStore),
    (∀ node ∈ rep, ∃ name value, node = .leaf name (.string value)) → (cloudStoreDecode rep store).status = store.status := by
  intro rep store
  fun_induction cloudStoreDecode rep store with
  | case1 name value rest store store' h ih =>
    intro hrep
    rw [ih fun node hnode => hrep node (List.mem_cons_of_mem _ hnode)]
    unfold decodeCloudString at h
    split at h <;> grind
  | case3 name value rest store store' h ih =>
    intro hrep
    obtain ⟨_, _, hnode⟩ := hrep _ List.mem_cons_self
    cases hnode
  | case2 | case4 | case5 | case6 => exact fun _ => rfl

theorem cloudStoreDecode_take_consistent (hcontent : content.Texts) (h : content.Consistent) (n : Nat) :
    (cloudStoreDecode ((RepBuild.nodesOf (cloudEntries content)).take n) .zero).toCloudContent.Consistent := by
  rw [nodesOf_cloudEntries]
  obtain hn | ⟨m, rfl⟩ := (Nat.lt_or_ge n 7).imp id Nat.exists_eq_add_of_le
  · -- none of the numbers is among them
    refine CloudContent.Consistent.of_zero ((cloudStoreDecode_status _ _ fun node hnode => ?_).trans rfl)
    rw [List.take_append_of_le_length (show n ≤ (cloudTextNodes content).length from Nat.le_of_lt_succ hn)] at hnode
    have hmem := List.mem_of_mem_take hnode
    simp only [cloudTextNodes, List.mem_cons, List.not_mem_nil, or_false] at hmem
    obtain rfl | rfl | rfl | rfl | rfl | rfl := hmem <;> exact ⟨_, _, rfl⟩
  · -- all strings are, and the status
    have htake : (cloudTextNodes content ++ [RepNode.leaf (ascii "status") (.int content.status.toNat),
        .leaf (ascii "cps") (.int content.cps.toNat)]).take (7 + m) = cloudTextNodes content ++
          .leaf (ascii "status") (.int content.status.toNat) ::
            [RepNode.leaf (ascii "cps") (.int content.cps.toNat)].take m := by
      rw [Nat.add_comm]
      rfl
    rw [htake, cloudStoreDecode_texts hcontent, cloudStoreDecode_int (decodeCloudInt_status ..)]
    cases m with
    | zero => exact ⟨h.login, h.texts⟩
    | succ m =>
      rw [List.take_succ_cons, List.take_nil, cloudStoreDecode_int (decodeCloudInt_cps ..)]
      exact ⟨h.login, h.texts⟩

theorem cloudStoreLoad_consistent {storage : CloudStorage} (hstorage : storage.Consistent) :
    (cloudStoreLoad itemMax storage .zero).toCloudContent.Consistent := by
  unfold cloudStoreLoad
  split
  · rename_i payload hpayload
    obtain ⟨content, hcontent, rfl⟩ := hstorage _ _ hpayload
    obtain ⟨n, hn⟩ : ∃ n, readCloudPayload (cloudStoreEncode content) =
        .map (RepBuild.encodeEntries ((cloudEntries content.loaded).take n)) := by
      rw [cloudStoreEncode, ← encode_loaded, encodeCloudWithMap_eq loaded_texts]
      unfold readCloudPayload
      dsimp only
      split
      · exact ⟨8, rfl⟩
      · obtain ⟨n, hn⟩ := wholeEntries_take _ _ (encode_cloudEntries content.loaded)
        exact ⟨n, congrArg Cbor.map hn⟩
    have hparse : ocParseRep itemMax (.map (RepBuild.encodeEntries ((cloudEntries content.loaded).take n))) =
        .ok (RepBuild.nodesOf ((cloudEntries content.loaded).take n)) := by
      rw [ocParseRep, RepBuild.parsed_entries (encodableEntries_take (cloudEntries_encodable loaded_texts))]
    rw [hn, hparse, nodesOf_take]
    exact cloudStoreDecode_take_consistent loaded_texts (loaded_consistent hcontent) n
  · exact CloudContent.Consistent.of_zero rfl

end Load

/-! ## Runs -/

namespace CloudSystem

/-- The stores of all contexts are consistent, and so is what has been dumped of them. -/
structure Consistent (s : CloudSystem) : Prop where
  contexts : ∀ device, (s.contexts device).store.toCloudContent.Consistent
  storage : s.storage.Consistent

/-- A response to a registration or a refresh leaves a registered device with what its next login needs. -/
def ResponsesComplete (s : CloudSystem) : CloudEvent → Prop
  | .response device handler response closing _ =>
    let ctx := s.contexts device
    CompleteResponse response (cloudCloseEndpoint closing) ((CloudRun.enter ctx).note (.responded handler response ctx))
      handler
  | _ => True

instance (s : CloudSystem) : ∀ event, Decidable (s.ResponsesComplete event)
  | .response device handler response closing _ =>
    inferInstanceAs (Decidable (CompleteResponse response (cloudCloseEndpoint closing)
      ((CloudRun.enter (s.contexts device)).note (.responded handler response (s.contexts device))) handler))
  | .expire .. | .api .. | .session .. | .interfaceUp .. | .dump .. | .reboot | .others .. => .isTrue trivial

section Step

variable {s : CloudSystem} {event : CloudEvent}

theorem eventRun_consistent (h : s.Consistent) (hcomplete : s.ResponsesComplete event) {run : Nat × CloudRun}
    (hrun : s.eventRun event = some run) : run.2.Consistent := by
  cases event with
  | expire id closing connects app =>
    obtain ⟨e, -, rfl⟩ := Option.map_eq_some_iff.1 hrun
    exact runCallback_consistent (appCallback_consistent app) e.callback (h.contexts e.data)
  | response device handler response closing app =>
    cases hrun
    exact handle_consistent (appCallback_consistent app) handler (h.contexts device) hcomplete
  | api device call =>
    cases hrun
    exact call.call.run_consistent (fun _ h => cloudCloseEndpoint_consistent h) (h.contexts device)
  | session device state =>
    cases hrun
    exact CloudRun.Consistent.sessionEvent (r := .enter (s.contexts device)) (h.contexts device) state
  | interfaceUp device =>
    cases hrun
    dsimp only
    unfold cloudInterfaceEventHandler
    split <;> exact h.contexts device
  | _ => cases hrun

theorem start_consistent (itemMax : Nat) : (start itemMax).Consistent :=
  ⟨fun _ => CloudContent.Consistent.of_zero rfl, fun _ _ hpayload => nomatch hpayload⟩

theorem step_consistent {maxAppDataSize itemMax : Nat} (h : s.Consistent) (hcomplete : s.ResponsesComplete event) :
    (s.step maxAppDataSize itemMax event).Consistent := by
  unfold step
  cases hrun : s.eventRun event with
  | some run =>
    refine ⟨fun device => ?_, h.storage⟩
    dsimp only
    by_cases hdevice : device = run.1
    · subst hdevice
      rw [Function.update_self]
      exact eventRun_consistent h hcomplete hrun
    · rw [Function.update_of_ne hdevice]
      exact h.contexts device
  | none =>
    cases event with
    | dump device =>
      refine ⟨h.contexts, fun name payload hpayload => ?_⟩
      dsimp only [cloudStoreDump] at hpayload
      split at hpayload
      · rw [CloudStorage.write, Function.update_apply] at hpayload
        split at hpayload
        · exact ⟨_, h.contexts device, (Option.some.inj hpayload).symm⟩
        · exact h.storage name payload hpayload
      · exact h.storage name payload hpayload
    | reboot => exact ⟨fun device => cloudStoreLoad_consistent h.storage, h.storage⟩
    | others timers =>
      dsimp only
      split <;> exact ⟨h.contexts, h.storage⟩
    | _ => exact h

end Step

end CloudSystem

section Runs

open CloudSystem

/-- In a run in which the responses to registrations and refreshes are complete, every store is consistent in every state
that is reached. A registration or a refresh that succeeds keeps it so just if its response is complete. -/
theorem cloudStatus_consistent (maxAppDataSize itemMax : Nat) :
    (∀ events : List CloudEvent,
      Runs.Guarded (fun s event => s.step maxAppDataSize itemMax event) ResponsesComplete (start itemMax) events →
        ∀ device,
          ((Runs.runFrom (fun s event => s.step maxAppDataSize itemMax event) (start itemMax) events).contexts
            device).store.toCloudContent.Consistent) ∧
      (∀ ctx response closing, registerFails response ctx = false →
        ((registerHandler response (cloudCloseEndpoint closing) (.enter ctx)).1.Consistent ↔
          registerComplete response (cloudCloseEndpoint closing) (.enter ctx))) ∧
      ∀ ctx response, ctx.store.toCloudContent.Consistent → refreshFails response ctx = false →
        ((refreshTokenHandler response (.enter ctx)).1.Consistent ↔ refreshComplete response) := by
  refine ⟨fun events hcomplete device => ?_, fun ctx response closing hsucceeds => registerHandler_consistent_iff hsucceeds,
    fun ctx response h hsucceeds => refreshTokenHandler_consistent_iff h hsucceeds⟩
  have hrun : (Runs.runFrom (fun s event => s.step maxAppDataSize itemMax event) (start itemMax) events).Consistent :=
    Runs.run_invariant (fun s event h hevent => step_consistent h hevent) events (start itemMax) (start_consistent itemMax)
      hcomplete
  exact hrun.contexts device

/-- A device is provisioned, it sends its registration, and the cloud answers with the texts of some keys. -/
def registered (keys : List String) : List CloudEvent :=
  registering ++
    [.response 0 .register ⟨.status .changed, keys.map fun key => .leaf (ascii key) (.string (ascii "u"))⟩ [] []]

/-- The device registers and logs in, its store is dumped, and it starts anew. -/
theorem cloudStatus_consistent_registered :
    ((Runs.runFrom (fun s event => s.step 8192 256 event) (start 256) (loggedIn ++ [.dump 0, .reboot])).contexts
      0).store.toCloudContent.Consistent :=
  (cloudStatus_consistent 8192 256).1 (loggedIn ++ [.dump 0, .reboot]) (by decide) 0

/-- The answer has no user, and the device is registered all the same. -/
theorem cloudStatus_noUser :
    let s := Runs.runFrom (fun s event => s.step 8192 256 event) (start 256) (registered ["accesstoken"])
    statusHas (s.contexts 0).store.status ocCloudRegistered = true ∧ (s.contexts 0).store.uid = none ∧
      ¬ (s.contexts 0).store.toCloudContent.Consistent := by
  decide

end Runs

end SmartGarage
