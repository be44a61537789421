/-
The resources of a server: `oc_resource_t`, the interfaces, and the searches by which a request finds its
resource (`oc_ri.c`, `oc_core_res.c`, `oc_collection.c`).
-/
import SmartGarage.Messaging.Blockwise
import SmartGarage.Security.Acl

namespace SmartGarage

/-! ## Interfaces -/

/-- `oc_interface_mask_t` -/
abbrev InterfaceMask := BitVec 32

/-- `OC_IF_BASELINE` -/
def ifBaseline : InterfaceMask := 2
/-- `OC_IF_LL` -/
def ifLl : InterfaceMask := 4
/-- `OC_IF_B` -/
def ifB : InterfaceMask := 8
/-- `OC_IF_R` -/
def ifR : InterfaceMask := 16
/-- `OC_IF_RW` -/
def ifRw : InterfaceMask := 32
/-- `OC_IF_A` -/
def ifA : InterfaceMask := 64
/-- `OC_IF_S` -/
def ifS : InterfaceMask := 128
/-- `OC_IF_CREATE` -/
def ifCreate : InterfaceMask := 256

/-- `oc_ri_get_interface_mask` -/
def ocRiGetInterfaceMask (iface : OcString) : InterfaceMask :=
  if iface = ascii "oic.if.baseline" then ifBaseline
  else if iface = ascii "oic.if.ll" then ifLl
  else if iface = ascii "oic.if.b" then ifB
  else if iface = ascii "oic.if.r" then ifR
  else if iface = ascii "oic.if.rw" then ifRw
  else if iface = ascii "oic.if.a" then ifA
  else if iface = ascii "oic.if.s" then ifS
  else if iface = ascii "oic.if.create" then ifCreate
  else 0

/-- `does_interface_support_method`: the switch is over the whole mask, so one of several bits supports every
method. -/
def doesInterfaceSupportMethod (ifaceMask : InterfaceMask) (method : OcMethod) : Bool :=
  if ifaceMask = ifLl ∨ ifaceMask = ifS ∨ ifaceMask = ifR then decide (method = .get) else true

/-! ## Resources -/

/-- `oc_store_uri` -/
def ocStoreUri (uri : OcString) : OcString := if uri.head? = some 47 then uri else 47 :: uri

/-- A URI that `oc_store_uri` has made of a string. -/
def IsStoredUri (uri : OcString) : Prop := uri.head? = some 47 ∧ 0 ∉ uri

/-- `oc_resource_s`: `id` stands for its address. Of the links of a collection those that lead to a local
resource are kept, by the addresses of the resources. -/
structure Resource extends OcResource where
  id : Nat
  isCollection : Bool
  interfaces : InterfaceMask
  defaultInterface : InterfaceMask
  observable : Bool
  periodic : Bool
  handles : OcMethod → Bool
  links : List Nat
  numObservers : UInt8
  stored : IsStoredUri uri

/-- A resource of `app_resources`. -/
def Resource.isApp (r : Resource) : Bool := r.coreIndex.isNone && !r.isCollection

/-! ## Searches -/

/-- The comparison of a stored URI with a path that lacks the leading slash. -/
def matchesBehindSlash (path : OcString) (r : Resource) : Bool :=
  r.uri.length == path.length + 1 && strncmpEq path (r.uri.drop 1)

/-- The place in `core_resources` that `oc_core_get_resource_by_index` reads. -/
def coreIndexOf (ocfD device type : Nat) : Nat := if type = 0 then 0 else ocfD * device + type

/-- The loop over the core resources of a device. -/
def coreResourceByUri (ocfD : Nat) (table : List Resource) (path : OcString) (device : Nat) : Option Resource :=
  (List.range (1 + ocfD)).findSome? fun i =>
    table.find? fun r => r.coreIndex == some (coreIndexOf ocfD device i) && matchesBehindSlash path r

/-- `oc_get_collection_by_uri` -/
def ocGetCollectionByUri (table : List Resource) (path : OcString) (device : Nat) : Option Resource :=
  table.find? fun r =>
    r.coreIndex.isNone && r.isCollection && matchesBehindSlash (path.dropWhile (· == 47)) r && r.device == device

/-- The comparison of `oc_ri_get_app_resource_by_uri`: a path may have the leading slash or lack it. -/
def appMatches (path : OcString) (r : Resource) : Bool :=
  let skip := if path.head? = some 47 then 0 else 1
  r.uri.length == path.length + skip && strncmpEq path (r.uri.drop skip)

/-- `oc_ri_get_app_resource_by_uri` -/
def ocRiGetAppResourceByUri (table : List Resource) (path : OcString) (device : Nat) : Option Resource :=
  if path = [] then none
  else (table.find? fun r => r.isApp && appMatches path r && r.device == device) <|>
    ocGetCollectionByUri table path device

/-- The search of `oc_ri_invoke_coap_entity_handler` for the resource of a request; `ocfD` is the number of core resources of a
device in this build. -/
def findResource (ocfD : Nat) (table : List Resource) (path : OcString) (device : Nat) : Option Resource :=
  coreResourceByUri ocfD table path device <|> ocRiGetAppResourceByUri table path device

/-- `strncmp` over the whole of two texts of one length, the second without a zero byte. -/
theorem strncmpEq_eq : ∀ {s t : OcString}, s.length = t.length → 0 ∉ t → strncmpEq s t = true → s = t
  | [], [], _, _, _ => rfl
  | b :: s, c :: t, hlen, hzero, h => by
    simp only [strncmpEq, List.headD_cons, List.tail_cons, Bool.and_eq_true, Bool.or_eq_true, beq_iff_eq] at h
    obtain ⟨rfl, hrest⟩ := h
    have hb : b ≠ 0 := fun hb => hzero (hb ▸ List.mem_cons_self)
    have ih := strncmpEq_eq (by simpa using hlen) (fun h => hzero (List.mem_cons_of_mem _ h)) (hrest.resolve_left hb)
    rw [ih]

section

variable {ocfD : Nat} {table : List Resource} {path : OcString} {device : Nat} {r : Resource}

/-- Everything that the search can find: a core resource of the device, one of the application, or a collection. -/
theorem findResource_cases (h : findResource ocfD table path device = some r) : r ∈ table ∧
      ((∃ i < 1 + ocfD, r.coreIndex = some (coreIndexOf ocfD device i)) ∨
        (r.isApp = true ∧ appMatches path r = true ∨ r.coreIndex = none ∧ r.isCollection = true) ∧ r.device = device) := by
  unfold findResource coreResourceByUri ocRiGetAppResourceByUri ocGetCollectionByUri at h
  rw [Option.orElse_eq_some] at h
  rcases h with h | ⟨-, h⟩
  · obtain ⟨i, hi, hfind⟩ := List.exists_of_findSome?_eq_some h
    have hfound := List.find?_some hfind
    simp only [Bool.and_eq_true, beq_iff_eq] at hfound
    exact ⟨List.mem_of_find?_eq_some hfind, .inl ⟨i, List.mem_range.1 hi, hfound.1⟩⟩
  · split at h
    · cases h
    · rw [Option.orElse_eq_some] at h
      rcases h with h | ⟨-, h⟩
      · have hfound := List.find?_some h
        simp only [Bool.and_eq_true, beq_iff_eq] at hfound
        exact ⟨List.mem_of_find?_eq_some h, .inr ⟨.inl hfound.1, hfound.2⟩⟩
      · have hfound := List.find?_some h
        simp only [Bool.and_eq_true, beq_iff_eq, Option.isNone_iff_eq_none] at hfound
        exact ⟨List.mem_of_find?_eq_some h, .inr ⟨.inr hfound.1.1, hfound.2⟩⟩

theorem findResource_mem (h : findResource ocfD table path device = some r) : r ∈ table := (findResource_cases h).1

/-- The path by which an application resource is found is its URI, or its URI without the slash. -/
theorem appMatches_path (h : appMatches path r = true) : path = r.uri ∨ path = r.uri.drop 1 ∧ path.head? ≠ some 47 := by
  simp only [appMatches, Bool.and_eq_true, beq_iff_eq] at h
  obtain ⟨hlen, heq⟩ := h
  have hzero (n : Nat) : 0 ∉ r.uri.drop n := fun h => r.stored.2 (List.mem_of_mem_drop h)
  split at hlen
  · rename_i hslash
    rw [if_pos hslash] at heq
    exact .inl (strncmpEq_eq (by simpa using hlen.symm) (hzero 0) heq)
  · rename_i hslash
    rw [if_neg hslash] at heq
    exact .inr ⟨strncmpEq_eq (by rw [List.length_drop]; omega) (hzero 1) heq, hslash⟩

theorem findResource_isApp (h : findResource ocfD table path device = some r) (happ : r.isApp = true) :
    appMatches path r = true := by
  simp only [Resource.isApp, Bool.and_eq_true, Bool.not_eq_true', Option.isNone_iff_eq_none] at happ
  obtain ⟨hcore, hcollection⟩ := happ
  obtain ⟨-, ⟨i, -, hindex⟩ | ⟨⟨-, hpath⟩ | ⟨-, hc⟩, -⟩⟩ := findResource_cases h
  · rw [hcore] at hindex
    cases hindex
  · exact hpath
  · rw [hcollection] at hc
    cases hc

end

end SmartGarage
