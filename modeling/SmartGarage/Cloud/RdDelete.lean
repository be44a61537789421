/-
Deletions in the directory: which instance ids a query holds once it has been cut to its buffer, and which links leave
the list when a request is answered.
-/
import SmartGarage.Cloud.RdPublish
import SmartGarage.Api.Uuid

namespace SmartGarage

/-! ## The query -/

section Query

/-- The values of `ins` in a query. -/
def insValues (query : OcString) : List OcString :=
  (query.splitOn 38).filterMap fun parameter =>
    if parameter.take 4 = ascii "ins=" then some (parameter.drop 4) else none

/-- The links whose parameter is written whole in so many bytes. -/
def wholeLinks : Nat → List RdLink → List RdLink
  | _, [] => []
  | room, link :: links =>
    if (insParameter link).length ≤ room then link :: wholeLinks (room - (insParameter link).length) links else []

/-- The link whose instance id is cut, and how many of its characters are written. -/
def cutLink : Nat → List RdLink → Option (RdLink × Nat)
  | _, [] => none
  | room, link :: links =>
    if (insParameter link).length ≤ room then cutLink (room - (insParameter link).length) links
    else if 5 ≤ room then some (link, room - 5) else none

/-- The bytes of the parameters. -/
def insText (links : List RdLink) : OcString := (links.map insParameter).flatten

theorem noAmpersand_print (n : Nat) : 38 ∉ Decimal.print n := fun h =>
  absurd (Decimal.isDigit_print n 38 h) (by decide)

theorem noAmpersand_printInt64 (v : Int) : 38 ∉ printInt64 v := by
  unfold printInt64
  rw [List.mem_append, not_or]
  refine ⟨?_, noAmpersand_print _⟩
  split <;> decide

theorem noAmpersand_uuid (di : OcUuid) : 38 ∉ ocUuidToStr di := by
  have hhigh (b : UInt8) : hexDigit (b >>> 4) ≠ 38 := (hexDigit_ne _ (high_le b)).2.2.2.2
  have hlow (b : UInt8) : hexDigit (b &&& 15) ≠ 38 := (hexDigit_ne _ (low_le b)).2.2.2.2
  unfold ocUuidToStr
  split
  · decide
  · intro h
    obtain ⟨i, -, hi⟩ := List.mem_flatMap.1 h
    obtain hi | hi := List.mem_append.1 hi
    · split at hi
      · exact absurd (List.mem_singleton.1 hi) (by decide)
      · exact List.not_mem_nil hi
    · obtain hi | hi := List.mem_cons.1 hi
      · exact hhigh _ hi.symm
      · exact hlow _ (List.mem_singleton.1 hi).symm

theorem insValues_append (a b : OcString) : insValues (a ++ 38 :: b) = insValues a ++ insValues b := by
  unfold insValues
  rw [List.splitOn_append_cons_self, List.filterMap_append]

theorem insValues_single {parameter : OcString} (h : 38 ∉ parameter) : insValues parameter =
    if parameter.take 4 = ascii "ins=" then [parameter.drop 4] else [] := by
  unfold insValues
  rw [List.splitOn_eq_singleton h]
  by_cases hins : parameter.take 4 = ascii "ins="
  · rw [if_pos hins]
    simp [hins]
  · rw [if_neg hins]
    simp [hins]

theorem insParameter_eq (link : RdLink) : insParameter link = 38 :: (ascii "ins=" ++ printInt64 link.ins) := by
  have hascii : ascii "&ins=" = 38 :: ascii "ins=" := by decide
  rw [insParameter, hascii, List.cons_append]

theorem insValues_whole (base : OcString) (link : RdLink) :
    insValues (base ++ insParameter link) = insValues base ++ [printInt64 link.ins] := by
  have hsingle : 38 ∉ ascii "ins=" ++ printInt64 link.ins := by
    rw [List.mem_append, not_or]
    exact ⟨by decide, noAmpersand_printInt64 _⟩
  rw [insParameter_eq, insValues_append, insValues_single hsingle, if_pos (List.take_left' (by decide)),
    List.drop_left' (by decide)]

theorem insValues_cut (base : OcString) (link : RdLink) {room : Nat} (h : room < (insParameter link).length) :
    insValues (base ++ (insParameter link).take room) =
      insValues base ++ if 5 ≤ room then [(printInt64 link.ins).take (room - 5)] else [] := by
  cases room with
  | zero => simp
  | succ room =>
    have hpre : (ascii "ins=" ++ printInt64 link.ins).take room =
        (ascii "ins=").take room ++ (printInt64 link.ins).take (room - 4) := List.take_append
    have hsingle : 38 ∉ (ascii "ins=").take room ++ (printInt64 link.ins).take (room - 4) := by
      rw [List.mem_append, not_or]
      exact ⟨fun hmem => absurd (List.mem_of_mem_take hmem) (by decide),
        fun hmem => noAmpersand_printInt64 _ (List.mem_of_mem_take hmem)⟩
    rw [insParameter_eq, List.take_succ_cons, insValues_append, hpre, insValues_single hsingle]
    by_cases hroom : 4 ≤ room
    · have hwhole : (ascii "ins=").take room = ascii "ins=" := List.take_of_length_le hroom
      have hfour : (ascii "ins=").length = 4 := rfl
      rw [hwhole, if_pos (List.take_left' hfour), List.drop_left' hfour, if_pos (by omega)]
      rfl
    · have hnil : (printInt64 link.ins).take (room - 4) = [] := by
        rw [show room - 4 = 0 by omega, List.take_zero]
      rw [hnil, List.append_nil, if_neg, if_neg (by omega)]
      intro heq
      have hlength := congrArg List.length heq
      rw [List.length_take, List.length_take] at hlength
      have hfour : (ascii "ins=").length = 4 := rfl
      omega

/-- The values of a query that is cut behind so many bytes: the instance ids that are written whole, and what is left
of the one that is cut. -/
theorem insValues_take : ∀ (links : List RdLink) (room : Nat) (base : OcString),
    insValues (base ++ (insText links).take room) = insValues base ++
      ((wholeLinks room links).map (fun l => printInt64 l.ins) ++
        (cutLink room links).toList.map fun cut => (printInt64 cut.1.ins).take cut.2)
  | [], room, base => by simp [insText, wholeLinks, cutLink]
  | link :: links, room, base => by
    have htext : insText (link :: links) = insParameter link ++ insText links := by
      rw [insText, List.map_cons, List.flatten_cons]
      rfl
    rw [htext, List.take_append, wholeLinks, cutLink]
    by_cases hfits : (insParameter link).length ≤ room
    · rw [if_pos hfits, if_pos hfits, List.take_of_length_le hfits, ← List.append_assoc, insValues_take links,
        insValues_whole, List.append_assoc, List.map_cons]
      rfl
    · rw [if_neg hfits, if_neg hfits, show room - (insParameter link).length = 0 by omega, List.take_zero, List.append_nil,
        insValues_cut base link (by omega)]
      split <;> rfl

/-- What is in the query in front of the parameters. -/
def diText (di : OcUuid) : OcString := ascii "di=" ++ ocUuidToStr di

theorem length_diText (di : OcUuid) : (diText di).length ≤ 39 := by
  have hthree : (ascii "di=").length = 3 := rfl
  rw [diText, List.length_append, hthree]
  by_cases h : di = OcUuid.wildcard
  · rw [ocUuidToStr, if_pos h]
    decide
  · rw [ocUuidToStr_length h]

variable (di : OcUuid) (links : List RdLink)

theorem rdDeleteQuery_eq :
    rdDeleteQuery di links = (diText di ++ insText links).take 254 := by
  have hfold : ∀ (links : List RdLink) (query : OcString), query.length ≤ 254 →
      links.foldl (fun query link => query ++ (insParameter link).take (255 - query.length - 1)) query =
        (query ++ insText links).take 254 := by
    intro links
    induction links with
    | nil =>
      intro query hquery
      rw [List.foldl_nil, insText, List.map_nil, List.flatten_nil, List.append_nil, List.take_of_length_le hquery]
    | cons link links ih =>
      intro query hquery
      have hstep : query ++ (insParameter link).take (255 - query.length - 1) = (query ++ insParameter link).take 254 := by
        rw [List.take_append, List.take_of_length_le hquery, show 255 - query.length - 1 = 254 - query.length by omega]
      rw [List.foldl_cons, hstep, ih _ (List.length_take_le _ _), insText, insText, List.map_cons, List.flatten_cons,
        ← List.append_assoc, List.take_append, @List.take_append _ (query ++ insParameter link), List.take_take,
        Nat.min_self, List.length_take]
      by_cases hlong : 254 ≤ (query ++ insParameter link).length
      · rw [Nat.min_eq_left hlong, show 254 - (query ++ insParameter link).length = 254 - 254 by omega]
      · rw [Nat.min_eq_right (by omega)]
  have hbase := length_diText di
  rw [rdDeleteQuery, show ascii "di=" ++ ocUuidToStr di = diText di from rfl, List.take_of_length_le (by omega),
    hfold links _ (by omega)]

/-- The room for parameters. -/
def insRoom (di : OcUuid) : Nat := 254 - (diText di).length

theorem insValues_rdDeleteQuery : insValues (rdDeleteQuery di links) =
    (wholeLinks (insRoom di) links).map (fun l => printInt64 l.ins) ++
      (cutLink (insRoom di) links).toList.map fun cut => (printInt64 cut.1.ins).take cut.2 := by
  have hbase := length_diText di
  have hnone : insValues (diText di) = [] := by
    have hsingle : 38 ∉ diText di := by
      rw [diText, List.mem_append, not_or]
      exact ⟨by decide, noAmpersand_uuid di⟩
    rw [insValues_single hsingle, if_neg]
    intro heq
    have hhead := congrArg List.head? heq
    exact absurd hhead (by
      show some (100 : UInt8) ≠ _
      decide)
  rw [rdDeleteQuery_eq, List.take_append, List.take_of_length_le (by omega)]
  exact (insValues_take links (insRoom di) (diText di)).trans (by rw [hnone, List.nil_append])

theorem wholeLinks_subset : ∀ {links : List RdLink} {room : Nat}, ∀ l ∈ wholeLinks room links, l ∈ links
  | link :: links, room, l, h => by
    rw [wholeLinks] at h
    split at h
    · obtain rfl | h := List.mem_cons.1 h
      · exact List.mem_cons_self
      · exact List.mem_cons_of_mem _ (wholeLinks_subset l h)
    · exact nomatch h

theorem wholeLinks_all : ∀ {links : List RdLink} {room : Nat}, (insText links).length ≤ room → wholeLinks room links = links
  | [], _, _ => rfl
  | link :: links, room, h => by
    rw [insText, List.map_cons, List.flatten_cons, List.length_append] at h
    rw [wholeLinks, if_pos (by omega), wholeLinks_all (by
      rw [insText]
      omega)]

/-- Every value of the query is the instance id of a link, unless an instance id is cut to something else. -/
theorem insValues_links_iff : (∀ v ∈ insValues (rdDeleteQuery di links), ∃ l ∈ links, v = printInt64 l.ins) ↔
      ∀ l n, cutLink (insRoom di) links = some (l, n) → ∃ l' ∈ links, (printInt64 l.ins).take n = printInt64 l'.ins := by
  rw [insValues_rdDeleteQuery]
  constructor
  · intro h l n hcut
    refine h _ (List.mem_append_right _ (List.mem_map.2 ⟨(l, n), Option.mem_toList.2 hcut, rfl⟩))
  · intro h v hv
    obtain hv | hv := List.mem_append.1 hv
    · obtain ⟨l, hl, rfl⟩ := List.mem_map.1 hv
      exact ⟨l, wholeLinks_subset l hl, rfl⟩
    · obtain ⟨⟨l, n⟩, hcut, rfl⟩ := List.mem_map.1 hv
      exact h l n (Option.mem_toList.1 hcut)

end Query

/-! ## Runs with requests -/

/-- The directory with the requests to delete links that have not been answered. -/
structure RdDeletions where
  rd : CloudRd
  outstanding : List RdDeleteRequest

/-- What the directory meets, with the status at the time. -/
inductive DeletionEvent
  | delete (res : RdResource) (status : UInt8) (operational sent : Bool)
  | resend (status : UInt8) (operational sent : Bool)
  | add (res : RdResource) (random : UInt32)
  | republish
  | published (status : UInt8) (response : CloudResponse)
  | answered (request : RdDeleteRequest) (status : UInt8) (response : CloudResponse)
  | lost (request : RdDeleteRequest)

section Runs

variable (di : OcUuid)

/-- A step: `oc_cloud_delete_resource` sends a request if the resource has been published, and a request that is sent
again takes the list as it is. -/
def deletionStep (s : RdDeletions) : DeletionEvent → RdDeletions
  | .delete res status operational sent =>
    let rd := ocCloudDeleteResource s.rd res
    if (rdLinkFind s.rd.publishedResources res).isSome then
      ⟨rd, s.outstanding ++ (deleteResources di status operational sent rd).toList⟩
    else ⟨rd, s.outstanding⟩
  | .resend status operational sent =>
    ⟨s.rd, s.outstanding ++ (deleteResources di status operational sent s.rd).toList⟩
  | .add res random => ⟨ocCloudAddResource s.rd res random, s.outstanding⟩
  | .republish => ⟨movePublishedToPublishResources s.rd, s.outstanding⟩
  | .published status response => ⟨publishResourcesHandler status response s.rd, s.outstanding⟩
  | .answered request status response =>
    if request ∈ s.outstanding then ⟨deleteResourcesHandler status response s.rd, s.outstanding.erase request⟩ else s
  | .lost request => ⟨s.rd, s.outstanding.erase request⟩

/-- A link that leaves the list has been named whole in the query of the request that is answered with success. -/
def DeletionKept (s : RdDeletions) (event : DeletionEvent) : Prop :=
  ∀ link ∈ s.rd.deleteResources, link ∉ (deletionStep di s event).rd.deleteResources →
    ∃ request ∈ s.outstanding, ∃ status response, event = .answered request status response ∧
      response.code = .status .deleted ∧ printInt64 link.ins ∈ insValues request.query

/-- When a request is answered with success, no link has come to the list since it was sent, and its query was not
cut. -/
def AnswerCovers (s : RdDeletions) : DeletionEvent → Prop
  | .answered request status response =>
    request ∈ s.outstanding → statusHas status ocCloudLoggedIn → response.code = .status .deleted →
      (∀ link ∈ s.rd.deleteResources, link ∈ request.links) ∧ (diText di).length + (insText request.links).length ≤ 254
  | _ => True

/-- The requests have been built from their links. -/
def Built (s : RdDeletions) : Prop := ∀ request ∈ s.outstanding, request.query = rdDeleteQuery di request.links

variable {di} {s : RdDeletions}

theorem deleteResources_built {status : UInt8} {operational sent : Bool} {rd : CloudRd} :
    ∀ request ∈ deleteResources di status operational sent rd, request.query = rdDeleteQuery di request.links := by
  intro request h
  unfold deleteResources at h
  split at h
  · exact nomatch h
  · split at h
    · exact nomatch h
    · split at h
      · exact nomatch h
      · split at h
        · cases h
          rfl
        · exact nomatch h

theorem built_append (h : Built di s) {status : UInt8} {operational sent : Bool} {rd rd' : CloudRd} :
    Built di ⟨rd', s.outstanding ++ (deleteResources di status operational sent rd).toList⟩ := fun request hrequest => by
  obtain hold | hnew := List.mem_append.1 hrequest
  · exact h request hold
  · exact deleteResources_built request (Option.mem_toList.1 hnew)

theorem deletionStep_built (h : Built di s) (event : DeletionEvent) : Built di (deletionStep di s event) := by
  cases event with
  | delete res status operational sent =>
    unfold deletionStep
    dsimp only
    split
    · exact built_append h
    · exact h
  | resend => exact built_append h
  | add | republish | published => exact h
  | answered request status response =>
    unfold deletionStep
    dsimp only
    split
    · exact fun request' hrequest => h request' (List.mem_of_mem_erase hrequest)
    · exact h
  | lost request => exact fun request' hrequest => h request' (List.mem_of_mem_erase hrequest)

theorem ocCloudAddResource_delete {rd : CloudRd} {res : RdResource} {random : UInt32} {link : RdLink}
    (hlink : link ∈ rd.deleteResources) (hnone : link.resource = none) :
    link ∈ (ocCloudAddResource rd res random).deleteResources := by
  unfold ocCloudAddResource
  split
  · exact hlink
  · split
    · exact hlink
    · exact (List.mem_eraseP_of_neg (by simp [hnone])).2 hlink

theorem publishResourcesHandler_delete (status : UInt8) (response : CloudResponse) (rd : CloudRd) :
    (publishResourcesHandler status response rd).deleteResources = rd.deleteResources := by
  unfold publishResourcesHandler
  split
  · rfl
  · split
    · rfl
    · rw [publishLinks_eq]

theorem ocCloudDeleteResource_delete (rd : CloudRd) (res : RdResource) :
    (ocCloudDeleteResource rd res).deleteResources = rd.deleteResources ∨
      ∃ ins, (ocCloudDeleteResource rd res).deleteResources = rd.deleteResources ++ [⟨none, ins⟩] := by
  unfold ocCloudDeleteResource rdLinkRemoveByResource
  dsimp only
  cases rdLinkFind rd.publishedResources res with
  | none => exact .inl rfl
  | some link => exact .inr ⟨link.ins, rdLinkAdd_eq _ _⟩

/-- The links of the list have no resource any more. -/
def Orphaned (s : RdDeletions) : Prop := ∀ link ∈ s.rd.deleteResources, link.resource = none

theorem deleteResourcesHandler_eq (status : UInt8) (response : CloudResponse) (rd : CloudRd) :
    deleteResourcesHandler status response rd =
      if statusHas status ocCloudLoggedIn ∧ response.code = .status .deleted then { rd with deleteResources := [] }
      else rd := by
  unfold deleteResourcesHandler
  by_cases hstatus : statusHas status ocCloudLoggedIn
  · rw [if_neg (by simpa using hstatus)]
    by_cases hcode : response.code = .status .deleted
    · rw [if_neg (not_not.2 hcode), if_pos ⟨hstatus, hcode⟩]
    · rw [if_pos hcode, if_neg fun h => hcode h.2]
  · rw [if_pos (by simpa using hstatus), if_neg fun h => hstatus h.1]

theorem deletionStep_orphaned (h : Orphaned s) (event : DeletionEvent) : Orphaned (deletionStep di s event) := by
  cases event with
  | delete res status operational sent =>
    have hlist : ∀ link ∈ (ocCloudDeleteResource s.rd res).deleteResources, link.resource = none := fun link hlink => by
      obtain heq | ⟨ins, heq⟩ := ocCloudDeleteResource_delete s.rd res
      · exact h link (heq ▸ hlink)
      · rw [heq] at hlink
        obtain hlink | hlink := List.mem_append.1 hlink
        · exact h link hlink
        · rw [List.mem_singleton.1 hlink]
    unfold deletionStep
    dsimp only
    split <;> exact hlist
  | resend | republish => exact h
  | add res random =>
    intro link hlink
    refine h link ?_
    revert hlink
    show link ∈ (ocCloudAddResource s.rd res random).deleteResources → _
    unfold ocCloudAddResource
    split
    · exact id
    · split
      · exact id
      · exact List.mem_of_mem_eraseP
  | published status response =>
    intro link hlink
    rw [deletionStep, publishResourcesHandler_delete] at hlink
    exact h link hlink
  | answered request status response =>
    unfold deletionStep
    dsimp only
    split
    · intro link hlink
      rw [deleteResourcesHandler_eq] at hlink
      split at hlink
      · exact nomatch hlink
      · exact h link hlink
    · exact h
  | lost request => exact h

theorem deletionStep_kept (hbuilt : Built di s) (horphaned : Orphaned s) {event : DeletionEvent}
    (hcovers : AnswerCovers di s event) : DeletionKept di s event := by
  intro link hlink hleaves
  cases event with
  | delete res status operational sent =>
    refine absurd ?_ hleaves
    have hmem : link ∈ (ocCloudDeleteResource s.rd res).deleteResources := by
      obtain heq | ⟨ins, heq⟩ := ocCloudDeleteResource_delete s.rd res
      · rwa [heq]
      · rw [heq]
        exact List.mem_append_left _ hlink
    unfold deletionStep
    dsimp only
    split <;> exact hmem
  | resend | republish | lost => exact absurd hlink hleaves
  | add res random => exact absurd (ocCloudAddResource_delete hlink (horphaned link hlink)) hleaves
  | published status response =>
    rw [deletionStep, publishResourcesHandler_delete] at hleaves
    exact absurd hlink hleaves
  | answered request status response =>
    by_cases hrequest : request ∈ s.outstanding
    · rw [deletionStep, if_pos hrequest, deleteResourcesHandler_eq] at hleaves
      by_cases hsuccess : statusHas status ocCloudLoggedIn ∧ response.code = .status .deleted
      · obtain ⟨hnew, hfits⟩ := hcovers hrequest hsuccess.1 hsuccess.2
        refine ⟨request, hrequest, status, response, rfl, hsuccess.2, ?_⟩
        have hroom : (insText request.links).length ≤ insRoom di := by
          unfold insRoom
          omega
        rw [hbuilt request hrequest, insValues_rdDeleteQuery, wholeLinks_all hroom]
        exact List.mem_append_left _ (List.mem_map.2 ⟨link, hnew link hlink, rfl⟩)
      · rw [if_neg hsuccess] at hleaves
        exact absurd hlink hleaves
    · rw [deletionStep, if_neg hrequest] at hleaves
      exact absurd hlink hleaves

/-- The directory of a new context, without requests. -/
def RdDeletions.start : RdDeletions := ⟨.empty, []⟩

/-- In every run whose successful answers come before other links are added to the list, for requests whose queries
were not cut, a link leaves the list only when its whole instance id has been sent. And every value of a query is the
instance id of a link, just if no instance id is cut to another text. -/
theorem rd_deletions_kept (di : OcUuid) :
    (∀ (events : List DeletionEvent) (event : DeletionEvent) (later : List DeletionEvent),
      Runs.Guarded (deletionStep di) (AnswerCovers di) .start (events ++ event :: later) →
        DeletionKept di (Runs.runFrom (deletionStep di) .start events) event) ∧
    ∀ links : List RdLink, (∀ v ∈ insValues (rdDeleteQuery di links), ∃ l ∈ links, v = printInt64 l.ins) ↔
      ∀ l n, cutLink (insRoom di) links = some (l, n) → ∃ l' ∈ links, (printInt64 l.ins).take n = printInt64 l'.ins := by
  refine ⟨fun events event later hguarded => ?_, insValues_links_iff di⟩
  obtain ⟨-, hcovers⟩ := hguarded.at_step
  have hinv : Built di (Runs.runFrom (deletionStep di) .start events) ∧
      Orphaned (Runs.runFrom (deletionStep di) .start events) :=
    Runs.run_always (fun s event (h : Built di s ∧ Orphaned s) =>
      ⟨deletionStep_built h.1 event, deletionStep_orphaned h.2 event⟩) events .start
      ⟨fun _ h => (nomatch h), fun _ h => nomatch h⟩
  exact deletionStep_kept hinv.1 hinv.2 hcovers

/-- The device that the requests come from. -/
def someDevice : OcUuid := ⟨Vector.replicate 16 0⟩

/-- Two lights are added, published and deleted. -/
def lightEvents : List DeletionEvent :=
  [.add ⟨1, ascii "/a"⟩ 0, .add ⟨2, ascii "/b"⟩ 0,
   .published ocCloudLoggedIn
    ⟨.status .changed, [.objectArray (ascii "links") [answeredLink "/a" 7, answeredLink "/b" 9] [] 2]⟩,
   .delete ⟨1, ascii "/a"⟩ ocCloudLoggedIn true true, .delete ⟨2, ascii "/b"⟩ ocCloudLoggedIn true true]

/-- A request that has been sent for some instance ids. -/
def sentRequest (ids : List Int) : RdDeleteRequest :=
  ⟨ids.map fun ins => ⟨none, ins⟩, rdDeleteQuery someDevice (ids.map fun ins => ⟨none, ins⟩)⟩

/-- The answer to the request for both lights takes both from the list. -/
theorem rd_deletions_kept_both :
    DeletionKept someDevice (Runs.runFrom (deletionStep someDevice) .start lightEvents)
      (.answered (sentRequest [7, 9]) ocCloudLoggedIn ⟨.status .deleted, []⟩) :=
  (rd_deletions_kept someDevice).1 lightEvents _ []
    ⟨trivial, trivial, trivial, trivial, trivial, fun _ _ _ => by decide, trivial⟩

/-- The answer to the request for the first light takes the second one from the list too. -/
theorem deletion_lost :
    ¬DeletionKept someDevice (Runs.runFrom (deletionStep someDevice) .start lightEvents)
      (.answered (sentRequest [7]) ocCloudLoggedIn ⟨.status .deleted, []⟩) := by
  intro h
  obtain ⟨request, -, status, response, hevent, -, hins⟩ := h ⟨none, 9⟩ (by decide) (by decide)
  cases hevent
  exact absurd hins (by decide)

end Runs

end SmartGarage
