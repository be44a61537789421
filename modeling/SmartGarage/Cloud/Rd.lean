/-
The resource directory of a cloud context: the links that are to be published, those that have been published and
those that are to be deleted, and the requests and responses they are moved by.
-/
import SmartGarage.Cloud.Context
import SmartGarage.Api.RepRead
import SmartGarage.Messaging.Blockwise

namespace SmartGarage

/-! ## Links -/

/-- What a link needs of an `oc_resource_t`: where it is, and its URI. -/
structure RdResource where
  address : Nat
  uri : OcString
deriving DecidableEq

/-- `oc_link_t` -/
structure RdLink where
  resource : Option RdResource
  ins : Int
deriving DecidableEq

/-- `iter->resource->uri` -/
def RdLink.uri (link : RdLink) : OcString := link.resource.elim [] RdResource.uri

/-- `rd_link_find` -/
def rdLinkFind (head : List RdLink) (res : RdResource) : Option RdLink := head.find? fun l => l.resource = some res

/-- `rd_link_add`: an empty list is set to the link, and in another one the cast makes the first link the head cell of
the list behind it, at whose end the link is added. -/
def rdLinkAdd (head : List RdLink) (link : RdLink) : List RdLink :=
  match head with
  | [] => [link]
  | first :: rest => first :: (rest ++ [link])

/-- The loop of `rd_link_find_by_href` goes on while the lengths differ and the URI begins with the href. -/
def skipsHref (href : OcString) (l : RdLink) : Bool := l.uri.length ≠ href.length && strncmpEq href l.uri

/-- `rd_link_find_by_href` -/
def rdLinkFindByHref (head : List RdLink) (href : OcString) : Option RdLink := head.find? fun l => !skipsHref href l

/-- `rd_link_remove` of the link that a search has found. -/
def rdLinkRemove (head : List RdLink) (found : RdLink → Bool) : List RdLink := head.eraseP found

/-- `rd_link_remove_by_resource` -/
def rdLinkRemoveByResource (head : List RdLink) (res : RdResource) : Option RdLink × List RdLink :=
  (rdLinkFind head res, rdLinkRemove head fun l => l.resource = some res)

/-- The lists of the context. -/
structure CloudRd where
  publishResources : List RdLink
  publishedResources : List RdLink
  deleteResources : List RdLink
deriving DecidableEq

/-! ## Publishing -/

/-- The href and the instance id of each link of the response that has both. -/
def responseLinks (payload : List RepNode) : List (OcString × Int) :=
  ((ocRepGetObjectArray payload (ascii "links")).getD []).filterMap fun link =>
    match ocRepGetString link (ascii "href"), ocRepGetInt link (ascii "ins") with
    | some href, some ins => some (href, ins)
    | _, _ => none

/-- The body of the loop of `publish_resources_handler`. -/
def publishLink (rd : CloudRd) (entry : OcString × Int) : CloudRd :=
  match rdLinkFindByHref rd.publishResources entry.1 with
  | some l =>
    { rd with
      publishResources := rdLinkRemove rd.publishResources fun l => !skipsHref entry.1 l
      publishedResources := rdLinkAdd rd.publishedResources { l with ins := entry.2 } }
  | none => rd

/-- `publish_resources_handler` -/
def publishResourcesHandler (status : UInt8) (response : CloudResponse) (rd : CloudRd) : CloudRd :=
  if !statusHas status ocCloudLoggedIn then rd
  else if response.code ≠ .status .changed then rd
  else (responseLinks response.payload).foldl publishLink rd

/-- `oc_cloud_add_resource`, with the number that `oc_new_link` draws for the instance id. -/
def ocCloudAddResource (rd : CloudRd) (res : RdResource) (random : UInt32) : CloudRd :=
  if (rdLinkFind rd.publishResources res).isSome then rd
  else if (rdLinkFind rd.publishedResources res).isSome then rd
  else
    { rd with
      deleteResources := (rdLinkRemoveByResource rd.deleteResources res).2
      publishResources := rdLinkAdd rd.publishResources ⟨some res, random.toNat⟩ }

/-- `move_published_to_publish_resources`, which is all that `publish_published_resources` does to the lists. -/
def movePublishedToPublishResources (rd : CloudRd) : CloudRd :=
  { rd with
    publishResources := rd.publishedResources.foldl rdLinkAdd rd.publishResources
    publishedResources := [] }

/-! ## Deleting -/

/-- `oc_cloud_delete_resource`, without the request. -/
def ocCloudDeleteResource (rd : CloudRd) (res : RdResource) : CloudRd :=
  let publish := (rdLinkRemoveByResource rd.publishResources res).2
  let (published, rest) := rdLinkRemoveByResource rd.publishedResources res
  { publishResources := publish
    publishedResources := rest
    deleteResources :=
      match published with
      | some link => rdLinkAdd rd.deleteResources { link with resource := none }
      | none => rd.deleteResources }

/-- `"&ins=%PRId64"` -/
def insParameter (link : RdLink) : OcString := ascii "&ins=" ++ printInt64 link.ins

/-- The query that `rd_delete_with_device_id` builds. Each `snprintf` is given what is left of 255 bytes, the last of
them for the terminator. -/
def rdDeleteQuery (di : OcUuid) (links : List RdLink) : OcString :=
  links.foldl (fun query link => query ++ (insParameter link).take (255 - query.length - 1))
    ((ascii "di=" ++ ocUuidToStr di).take 254)

/-- A request to delete links: the list it was made from, and its query. -/
structure RdDeleteRequest where
  links : List RdLink
  query : OcString
deriving DecidableEq

/-- `delete_resources`, where `operational` says whether the device is in RFNOP, and `sent` whether `oc_do_delete`
succeeds. -/
def deleteResources (di : OcUuid) (status : UInt8) (operational sent : Bool) (rd : CloudRd) : Option RdDeleteRequest :=
  if !operational then none
  else if !statusHas status ocCloudLoggedIn then none
  else if rd.deleteResources = [] then none
  else if sent then some ⟨rd.deleteResources, rdDeleteQuery di rd.deleteResources⟩
  else none

/-- `delete_resources_handler` -/
def deleteResourcesHandler (status : UInt8) (response : CloudResponse) (rd : CloudRd) : CloudRd :=
  if !statusHas status ocCloudLoggedIn then rd
  else if response.code ≠ .status .deleted then rd
  else { rd with deleteResources := [] }

end SmartGarage
