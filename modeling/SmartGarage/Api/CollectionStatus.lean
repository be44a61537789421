/-
The status of a PUT or POST request to a collection (`oc_handle_collection_request`, `oc_collection.c`), compared with what
the operations that it has invoked report.
-/
import SmartGarage.Api.CollectionCreate

namespace SmartGarage

/-! ## The codes of a batch -/

/-- A code below 4.00. -/
def isSuccess (code : UInt8) : Bool := code < ocStatusCode .badRequest

/-- What the answer for a link does to the codes, whether its object is kept or not. -/
def CollectionCodes.after (codes : CollectionCodes) : Option Handled → CollectionCodes
  | none => { codes with ecode := 0 }
  | some handled => if isSuccess handled.code then { codes with pcode := handled.code } else { codes with ecode := handled.code }

section Status

variable (P : Platform) (factories : List OcRtFactory) (env : CollectionEnv) (collection : CollectionData)

/-- The answers for the links of all rounds. -/
def linkAnswers (rq : CollectionRequest) : List (Option Handled) :=
  (requestRounds rq).flatMap fun round =>
    (collection.links.filter (selectsLink rq none round)).map (linkAnswer env collection rq round)

/-- An item of a batch. -/
def isItem : OcRep → Bool
  | .object _ _ => true
  | _ => false

/-! ## Operations -/

/-- What the handler meets of a collection: its `set_properties`, and the state that the interface `oic.if.create` changes. -/
structure CollectionTarget where
  setProps : Option (List OcRep → Bool)
  state : CreationState

variable (target : CollectionTarget) (rq : CreationRequest)

/-- The collection with the links that it has. -/
def linked : CollectionData := { collection with links := target.state.links }

/-- Whether a handler has reported success. -/
def callSucceeds (call : BatchCall) : Bool := isSuccess (env.handled rq.method call.resource call.iface call.payload).code

/-- What the operations report that a request invokes: to create a resource and link it, `set_properties`, and the handlers
of the links. -/
def invokedResults (ifaceMask : InterfaceMask) : List Bool :=
  if ifaceMask = ifCreate then [!(handleCreate P factories collection target.state rq).badRequest]
  else if ifaceMask = ifBaseline then (target.setProps.map (· rq.payload)).toList
  else if ifaceMask = ifB then
    (batchCalls env (linked collection target) rq.toCollectionRequest).flatten.map (callSucceeds env rq)
  else []

/-- The code of the answer. -/
def statusOf (size : Cbor → Nat) (capacity : Nat) (e : RepEncoder) (ifaceMask : InterfaceMask) : UInt8 :=
  (ocHandleCollectionRequest size { env with created := (handleCreate P factories collection target.state rq).created }
    (linked collection target) rq.toCollectionRequest capacity ifaceMask none e).code

/-- The status tells success if and only if there has been an operation, and each one has succeeded. -/
def StatusHonest (size : Cbor → Nat) (capacity : Nat) (e : RepEncoder) (ifaceMask : InterfaceMask) : Prop :=
  let results := invokedResults P factories env collection target rq ifaceMask
  isSuccess (statusOf P factories env collection target rq size capacity e ifaceMask) = true ↔
    results ≠ [] ∧ ∀ result ∈ results, result = true

/-- Nothing is wrong at the end of a batch: each item is an object, and of the links that have not been answered with success
the last one has no handler. -/
def EndsClear : Prop :=
  (∀ item ∈ rq.payload, isItem item = true) ∧
    ∀ answer, ((linkAnswers env (linked collection target) rq.toCollectionRequest).filter fun answer =>
      !answer.any (isSuccess ·.code)).getLast? = some answer → answer = none

/-- When the status is honest. The interface `oic.if.baseline` tells a failure in any case, and `oic.if.ll` a success. In a
batch in which a handler has succeeded all have if and only if nothing is wrong at the end. -/
def StatusKept (ifaceMask : InterfaceMask) : Prop :=
  if ifaceMask = ifCreate then True
  else if ifaceMask = ifBaseline then ∀ setProps, target.setProps = some setProps → setProps rq.payload = false
  else if ifaceMask = ifLl then False
  else if ifaceMask = ifB then
    let calls := (batchCalls env (linked collection target) rq.toCollectionRequest).flatten
    (∃ call ∈ calls, callSucceeds env rq call = true) →
      ((∀ call ∈ calls, callSucceeds env rq call = true) ↔ EndsClear env collection target rq)
  else True

end Status

section Proofs

variable {P : Platform} {factories : List OcRtFactory} {env : CollectionEnv} {collection : CollectionData}
  {rq : CollectionRequest}

/-! ## Folds over the answers -/

theorem batchLink_codes (round : BatchRound) (codes : CollectionCodes) (link : CollectionLink) :
    (batchLink env collection rq round codes link).2 = codes.after (linkAnswer env collection rq round link) := by
  unfold batchLink
  cases linkAnswer env collection rq round link with
  | none => rfl
  | some handled =>
    dsimp only
    unfold CollectionCodes.after isSuccess
    by_cases hcode : handled.code < ocStatusCode .badRequest
    · have hge : ¬handled.code ≥ ocStatusCode .badRequest := UInt8.not_le.2 hcode
      rw [if_neg fun h => hge h.2]
      simp [hcode]
    · split
      · simp [hcode]
      · simp [hcode]

theorem batchLinks_codes (round : BatchRound) (links : List CollectionLink) (codes : CollectionCodes) :
    (batchLinks env collection rq round links codes).2 =
      (links.map (linkAnswer env collection rq round)).foldl CollectionCodes.after codes := by
  induction links generalizing codes with
  | nil => rfl
  | cons link links ih =>
    rw [List.map_cons, List.foldl_cons, ← batchLink_codes, ← ih]
    rfl

theorem batchOutcomes_codes (rounds : List BatchRound) (codes : CollectionCodes) :
    (batchOutcomes env collection rq none rounds codes).2 =
      (rounds.flatMap fun round =>
        (collection.links.filter (selectsLink rq none round)).map (linkAnswer env collection rq round)).foldl
          CollectionCodes.after codes := by
  induction rounds generalizing codes with
  | nil => rfl
  | cons round rounds ih =>
    rw [List.flatMap_cons, List.foldl_append, ← batchLinks_codes, ← ih]
    rfl

theorem after_success {codes : CollectionCodes} {answer : Option Handled} (h : answer.any (isSuccess ·.code) = true) :
    isSuccess (codes.after answer).pcode = true ∧ (codes.after answer).ecode = codes.ecode := by
  cases answer with
  | none => cases h
  | some handled =>
    have hcode : isSuccess handled.code = true := h
    simp [CollectionCodes.after, hcode]

theorem after_other {codes : CollectionCodes} {answer : Option Handled} (h : answer.any (isSuccess ·.code) = false) :
    (codes.after answer).pcode = codes.pcode ∧ (isSuccess (codes.after answer).ecode = true ↔ answer = none) := by
  cases answer with
  | none => exact ⟨rfl, iff_of_true rfl rfl⟩
  | some handled =>
    have hcode : isSuccess handled.code = false := h
    simp [CollectionCodes.after, hcode]

theorem foldl_pcode (answers : List (Option Handled)) (codes : CollectionCodes) :
    isSuccess (answers.foldl CollectionCodes.after codes).pcode = true ↔
      isSuccess codes.pcode = true ∨ ∃ answer ∈ answers, answer.any (isSuccess ·.code) = true := by
  induction answers using List.reverseRecOn with
  | nil => simp
  | append_singleton answers answer ih =>
    rw [List.foldl_append, List.foldl_cons, List.foldl_nil]
    cases hanswer : answer.any (isSuccess ·.code) with
    | true => exact iff_of_true (after_success hanswer).1 (.inr ⟨answer, by simp, hanswer⟩)
    | false =>
      rw [(after_other hanswer).1, ih]
      simp [or_and_right, exists_or, hanswer]

/-- The second one is that of the last answer that has not been a success, and zero for a link without a handler. -/
theorem foldl_ecode (answers : List (Option Handled)) {codes : CollectionCodes} (hcodes : isSuccess codes.ecode = true) :
    isSuccess (answers.foldl CollectionCodes.after codes).ecode = true ↔
      ∀ answer, (answers.filter fun answer => !answer.any (isSuccess ·.code)).getLast? = some answer → answer = none := by
  induction answers using List.reverseRecOn with
  | nil => simpa using hcodes
  | append_singleton answers answer ih =>
    rw [List.foldl_append, List.foldl_cons, List.foldl_nil, List.filter_append]
    cases hanswer : answer.any (isSuccess ·.code) with
    | true =>
      rw [(after_success hanswer).2, ih, List.filter_cons_of_neg (by simp [hanswer]), List.filter_nil, List.append_nil]
    | false =>
      rw [(after_other hanswer).2, List.filter_cons_of_pos (by simp [hanswer]), List.filter_nil, List.getLast?_concat]
      constructor
      · rintro h _ heq
        exact Option.some.inj heq ▸ h
      · exact fun h => h answer rfl

/-! ## The calls -/

theorem exists_answer : (∃ answer ∈ linkAnswers env collection rq, answer.any (isSuccess ·.code) = true) ↔
    ∃ call ∈ (batchCalls env collection rq).flatten,
      isSuccess (env.handled rq.method call.resource call.iface call.payload).code = true := by
  have hlink (round : BatchRound) (link : CollectionLink) : (linkAnswer env collection rq round link).any (isSuccess ·.code) =
      (reachesHandler env rq link &&
        let call := callOf collection round.payload link
        isSuccess (env.handled rq.method call.resource call.iface call.payload).code) := by
    rw [linkAnswer_eq]
    unfold reachesHandler
    cases isForbidden env rq link with
    | true => rfl
    | false => cases link.resource.handles rq.method <;> rfl
  constructor
  · rintro ⟨answer, hmem, hany⟩
    obtain ⟨round, hround, hmem⟩ := List.mem_flatMap.1 hmem
    obtain ⟨link, hselected, rfl⟩ := List.mem_map.1 hmem
    rw [hlink, Bool.and_eq_true] at hany
    refine ⟨callOf collection round.payload link, List.mem_flatten.2 ⟨_, List.mem_map_of_mem hround, ?_⟩, hany.2⟩
    exact List.mem_map_of_mem (List.mem_filter.2 ⟨hselected, hany.1⟩)
  · rintro ⟨call, hmem, hcode⟩
    obtain ⟨calls, hcalls, hmem⟩ := List.mem_flatten.1 hmem
    obtain ⟨round, hround, rfl⟩ := List.mem_map.1 hcalls
    obtain ⟨link, hlinks, rfl⟩ := List.mem_map.1 hmem
    obtain ⟨hselected, hreaches⟩ := List.mem_filter.1 hlinks
    refine ⟨linkAnswer env collection rq round link,
      List.mem_flatMap.2 ⟨round, hround, List.mem_map_of_mem hselected⟩, ?_⟩
    rw [hlink, hreaches, Bool.true_and]
    exact hcode

theorem batchRounds_bad (carried payload : List OcRep) :
    (batchRounds carried payload).2 = false ↔ ∀ item ∈ payload, isItem item = true := by
  induction payload generalizing carried with
  | nil => simp [batchRounds]
  | cons item payload ih =>
    rw [List.forall_mem_cons]
    cases item with
    | object name entries =>
      rw [← ih (batchRound carried entries).payload]
      exact (and_iff_right rfl).symm
    | _ => exact iff_of_false (by simp [batchRounds]) fun h => absurd h.1 (by simp [isItem])

/-! ## The status -/

theorem collectionCode_success (ifaceMask : InterfaceMask) (codes : CollectionCodes)
    (hmethod : rq.method = .put ∨ rq.method = .post) :
    isSuccess (collectionCode rq ifaceMask codes) = true ↔ isSuccess codes.ecode = true ∧ isSuccess codes.pcode = true := by
  have hcreated : isSuccess (if ifaceMask = ifCreate then ocStatusCode .created else ocStatusCode .changed) = true := by
    split <;> decide
  unfold collectionCode
  by_cases hcodes : codes.ecode < ocStatusCode .badRequest ∧ codes.pcode < ocStatusCode .badRequest
  · rw [if_pos hcodes]
    refine iff_of_true ?_ (by simpa [isSuccess] using hcodes)
    rcases hmethod with hm | hm <;> rw [hm] <;> exact hcreated
  · rw [if_neg hcodes]
    exact iff_of_false (by decide) (by simpa [isSuccess] using hcodes)

section Target

variable {target : CollectionTarget} {rq : CreationRequest} {size : Cbor → Nat} {capacity : Nat} {e : RepEncoder}

theorem statusOf_success {ifaceMask : InterfaceMask} (hmethod : rq.method = .put ∨ rq.method = .post) :
    isSuccess (statusOf P factories env collection target rq size capacity e ifaceMask) = true ↔
      let codes := (collectionContent size { env with created := (handleCreate P factories collection target.state rq).created }
        (linked collection target) rq.toCollectionRequest ifaceMask none).codes
      isSuccess codes.ecode = true ∧ isSuccess codes.pcode = true :=
  collectionCode_success ifaceMask _ hmethod

theorem handleCreate_created (s : CreationState) (hmethod : rq.method = .put ∨ rq.method = .post) :
    (handleCreate P factories collection s rq).created.isSome = !(handleCreate P factories collection s rq).badRequest := by
  cases hinstance : instanceFor factories collection s rq with
  | none =>
    rw [handleCreate_none hmethod hinstance]
    rfl
  | some made =>
    cases haccepts : made.accepts (scanPayload rq.payload).payload with
    | false =>
      rw [handleCreate_refused hinstance haccepts]
      rfl
    | true =>
      obtain ⟨rtc, bm, -, heq⟩ := handleCreate_accepted (P := P) hinstance haccepts
      rw [heq]
      rfl

theorem statusHonest_create (hmethod : rq.method = .put ∨ rq.method = .post) :
    StatusHonest P factories env collection target rq size capacity e ifCreate := by
  have hcreated : (handleCreate P factories collection target.state rq).created.isSome =
      !(handleCreate P factories collection target.state rq).badRequest := handleCreate_created target.state hmethod
  unfold StatusHonest
  dsimp only
  rw [statusOf_success hmethod]
  have hresults : invokedResults P factories env collection target rq ifCreate =
      [!(handleCreate P factories collection target.state rq).badRequest] := if_pos rfl
  rw [hresults, ← hcreated]
  cases (handleCreate P factories collection target.state rq).created with
  | none => rcases hmethod with hm | hm <;> simp [collectionContent, hm, codesOf, isSuccess]
  | some c =>
    rcases hmethod with hm | hm <;> simp [collectionContent, hm, codesOf, isSuccess] <;> decide

theorem initialCodes_other : ¬(isSuccess initialCodes.ecode = true ∧ isSuccess initialCodes.pcode = true) := by decide

theorem ne_get (hmethod : rq.method = .put ∨ rq.method = .post) : rq.method ≠ .get := by
  rcases hmethod with hm | hm <;> simp [hm]

theorem statusHonest_baseline (hmethod : rq.method = .put ∨ rq.method = .post) :
    StatusHonest P factories env collection target rq size capacity e ifBaseline ↔
      ∀ setProps, target.setProps = some setProps → setProps rq.payload = false := by
  have hresults : invokedResults P factories env collection target rq ifBaseline =
      (target.setProps.map (· rq.payload)).toList := rfl
  unfold StatusHonest
  dsimp only
  rw [statusOf_success hmethod, hresults]
  unfold collectionContent
  rw [if_neg (show ¬ifBaseline = ifCreate by decide), if_pos rfl, if_neg (ne_get hmethod)]
  dsimp only
  rw [iff_false_left initialCodes_other]
  cases target.setProps <;> simp

theorem statusHonest_ll (hmethod : rq.method = .put ∨ rq.method = .post) :
    ¬StatusHonest P factories env collection target rq size capacity e ifLl := by
  have hresults : invokedResults P factories env collection target rq ifLl = [] := rfl
  unfold StatusHonest
  dsimp only
  rw [statusOf_success hmethod, hresults]
  unfold collectionContent
  rw [if_neg (show ¬ifLl = ifCreate by decide), if_neg (show ¬ifLl = ifBaseline by decide), if_pos rfl]
  have hok : isSuccess (ocStatusCode .ok) = true ∧ isSuccess (ocStatusCode .ok) = true := by decide
  intro h
  exact (h.1 hok).1 rfl

theorem statusOf_batch (hmethod : rq.method = .put ∨ rq.method = .post) :
    isSuccess (statusOf P factories env collection target rq size capacity e ifB) = true ↔
      EndsClear env collection target rq ∧
        ∃ call ∈ (batchCalls env (linked collection target) rq.toCollectionRequest).flatten, callSucceeds env rq call = true := by
  have hother : ¬(rq.method = .get ∨ rq.method = .delete) := by
    rcases hmethod with hm | hm <;> simp [hm]
  have hrounds : (batchRounds [] rq.payload).1 = requestRounds rq.toCollectionRequest := (if_neg hother).symm
  have hcodes : (batchOutcomes { env with created := (handleCreate P factories collection target.state rq).created }
      (linked collection target) rq.toCollectionRequest none (requestRounds rq.toCollectionRequest) initialCodes).2 =
        (linkAnswers env (linked collection target) rq.toCollectionRequest).foldl CollectionCodes.after initialCodes :=
    batchOutcomes_codes _ _
  have hpcode := foldl_pcode (linkAnswers env (linked collection target) rq.toCollectionRequest) initialCodes
  have hecode := foldl_ecode (linkAnswers env (linked collection target) rq.toCollectionRequest)
    (show isSuccess initialCodes.ecode = true by decide)
  rw [or_iff_right (show ¬isSuccess initialCodes.pcode = true by decide), exists_answer] at hpcode
  rw [statusOf_success hmethod, EndsClear, ← batchRounds_bad []]
  unfold collectionContent
  iterate 3 rw [if_neg (show ¬ifB = _ by decide)]
  rw [if_pos rfl, if_neg hother]
  dsimp only
  rw [hrounds, hcodes]
  cases (batchRounds [] rq.payload).2 with
  | true =>
    have hbad : ¬isSuccess (ocStatusCode .badRequest) = true := by decide
    exact iff_of_false (fun h => hbad h.1) fun h => Bool.noConfusion h.1.1
  | false =>
    rw [if_neg Bool.false_ne_true, hecode, hpcode, and_iff_right rfl]
    rfl

theorem statusHonest_batch (hmethod : rq.method = .put ∨ rq.method = .post) :
    StatusHonest P factories env collection target rq size capacity e ifB ↔
      let calls := (batchCalls env (linked collection target) rq.toCollectionRequest).flatten
      (∃ call ∈ calls, callSucceeds env rq call = true) →
        ((∀ call ∈ calls, callSucceeds env rq call = true) ↔ EndsClear env collection target rq) := by
  have hresults : invokedResults P factories env collection target rq ifB =
      (batchCalls env (linked collection target) rq.toCollectionRequest).flatten.map (callSucceeds env rq) := rfl
  unfold StatusHonest
  dsimp only
  rw [statusOf_batch hmethod, hresults, List.forall_mem_map]
  generalize (batchCalls env (linked collection target) rq.toCollectionRequest).flatten = calls
  by_cases hany : ∃ call ∈ calls, callSucceeds env rq call = true
  · have hne : calls.map (callSucceeds env rq) ≠ [] := by
      obtain ⟨call, hcall, -⟩ := hany
      exact List.ne_nil_of_mem (List.mem_map_of_mem hcall)
    rw [and_iff_left hany, and_iff_right hne, imp_iff_right hany]
    exact iff_comm
  · refine iff_of_true (iff_of_false (fun h => hany h.2) fun h => ?_) fun h => absurd h hany
    obtain ⟨hne, hall⟩ := h
    obtain ⟨call, hcall⟩ := List.exists_mem_of_ne_nil calls fun hnil => hne (by rw [hnil, List.map_nil])
    exact hany ⟨call, hcall, hall call hcall⟩

/-- The status of a PUT or POST request is honest exactly so. -/
theorem statusHonest_iff (ifaceMask : InterfaceMask) (hmethod : rq.method = .put ∨ rq.method = .post) :
    StatusHonest P factories env collection target rq size capacity e ifaceMask ↔
      StatusKept env collection target rq ifaceMask := by
  unfold StatusKept
  by_cases hcreate : ifaceMask = ifCreate
  · rw [if_pos hcreate, hcreate]
    exact iff_of_true (statusHonest_create hmethod) trivial
  · rw [if_neg hcreate]
    by_cases hbaseline : ifaceMask = ifBaseline
    · rw [if_pos hbaseline, hbaseline]
      exact statusHonest_baseline hmethod
    · rw [if_neg hbaseline]
      by_cases hll : ifaceMask = ifLl
      · rw [if_pos hll, hll]
        exact iff_of_false (statusHonest_ll hmethod) id
      · rw [if_neg hll]
        by_cases hb : ifaceMask = ifB
        · rw [if_pos hb, hb]
          exact statusHonest_batch hmethod
        · rw [if_neg hb]
          have hresults : invokedResults P factories env collection target rq ifaceMask = [] := by
            unfold invokedResults
            rw [if_neg hcreate, if_neg hbaseline, if_neg hb]
          refine iff_of_true ?_ trivial
          unfold StatusHonest
          dsimp only
          rw [statusOf_success hmethod, hresults]
          unfold collectionContent
          rw [if_neg hcreate, if_neg hbaseline, if_neg hll, if_neg hb]
          exact iff_of_false initialCodes_other fun h => h.1 rfl

end Target

end Proofs

/-! ## A change that is answered with 4.00 -/

/-- A collection with the given `set_properties`. -/
def plainTarget (setProps : Option (List OcRep → Bool)) : CollectionTarget := ⟨setProps, .boot (SecState.empty .rfnop)⟩

/-- Without `set_properties` the baseline interface is right to tell a failure. -/
theorem statusHonest_unset : StatusHonest (Platform.simple Mbedtls.rejecting) [lampFactory] openEnv lampCollection
    (plainTarget none) lampRequest cborSize 8192 .empty ifBaseline :=
  (statusHonest_iff ifBaseline (.inr rfl)).2 fun _ h => by cases h

/-- With one that succeeds it is not. -/
theorem statusHonest_set : ¬StatusHonest (Platform.simple Mbedtls.rejecting) [lampFactory] openEnv lampCollection
    (plainTarget (some fun _ => true)) lampRequest cborSize 8192 .empty ifBaseline := by
  rw [statusHonest_baseline (.inr rfl)]
  exact fun h => Bool.noConfusion (h _ rfl)

end SmartGarage
