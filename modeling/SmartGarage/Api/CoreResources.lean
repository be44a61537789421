/-
The table of core resources (`oc_core_res.c`): what `oc_core_add_new_device` and its siblings put into it, the run of
`oc_main_init` that fills it, and the lookup by URI.
-/
import SmartGarage.Api.Resources
import Mathlib.Logic.Function.Basic

namespace SmartGarage

variable {row : CoreType × OcString}

/-! ## The table -/

/-- `oc_core_resource_t` -/
inductive CoreType
  | p | con | introspectionWk | introspectionData | res | mnt | coapcloudconf | swUpdate
  | wes | wesWifi | wesDevice | ees | eesRsp | eesRspcap
  | secDoxm | secPstat | secAcl | secAel | secCred | secSdi | secSp | secCsr | secRoles | d
deriving DecidableEq

/-- The options of a build that the enumeration depends on. -/
structure CoreOptions where
  mnt : Bool
  cloud : Bool
  softwareUpdate : Bool
  wifiEasysetup : Bool
  esimEasysetup : Bool
  security : Bool
  pki : Bool

/-- The order of the enumeration. -/
def coreTypes : List CoreType :=
  [.p, .con, .introspectionWk, .introspectionData, .res, .mnt, .coapcloudconf, .swUpdate, .wes, .wesWifi, .wesDevice,
    .ees, .eesRsp, .eesRspcap, .secDoxm, .secPstat, .secAcl, .secAel, .secCred, .secSdi, .secSp, .secCsr, .secRoles, .d]

namespace CoreOptions

variable (o : CoreOptions)

/-- The enumeration has the constant in this build. -/
def has : CoreType → Bool
  | .mnt => o.mnt
  | .coapcloudconf => o.cloud
  | .swUpdate => o.softwareUpdate
  | .wes | .wesWifi | .wesDevice => o.wifiEasysetup
  | .ees | .eesRsp | .eesRspcap => o.esimEasysetup
  | .secDoxm | .secPstat | .secAcl | .secAel | .secCred | .secSdi | .secSp => o.security
  | .secCsr | .secRoles => o.security && o.pki
  | .p | .con | .introspectionWk | .introspectionData | .res | .d => true

/-- The constants of this build. -/
def types : List CoreType := coreTypes.filter o.has

/-- The number of a constant. -/
def index (t : CoreType) : Nat := o.types.idxOf t

/-- `OCF_D` -/
def ocfD : Nat := o.index .d

end CoreOptions

/-- A core resource: its device and its URI, which one that has only been cleared does not have. -/
structure CoreSlot where
  device : Nat
  uri : Option OcString

/-- `core_resources` with `device_count`, `announce_con_res`, and whether `oc_platform_info` has a name. -/
structure CoreState where
  resources : Nat → Option CoreSlot
  deviceCount : Nat
  announced : Bool
  hasMfgName : Bool

/-- What `calloc` leaves. -/
def CoreSlot.cleared : CoreSlot := ⟨0, none⟩

/-- The state behind `oc_core_init`. -/
def ocCoreInit : CoreState := ⟨fun _ => none, 0, false, false⟩

namespace CoreOptions

variable (o : CoreOptions)

/-- `oc_core_populate_resource` -/
def ocCorePopulateResource (s : CoreState) (coreResource : CoreType) (device : Nat) (uri : OcString) : CoreState :=
  let i := coreIndexOf o.ocfD device (o.index coreResource)
  match s.resources i with
  | none => s
  | some _ => { s with resources := Function.update s.resources i (some ⟨device, some (ocStoreUri uri)⟩) }

/-- `oc_core_populate_collection` -/
def ocCorePopulateCollection (s : CoreState) (coreResource : CoreType) (device : Nat) (uri : OcString) : CoreState :=
  { s with
    resources := Function.update s.resources (o.ocfD * device + o.index coreResource)
      (some ⟨device, some (ocStoreUri uri)⟩) }

/-- One resource of a device: those of the easy set-up are collections. -/
def populate (device : Nat) (s : CoreState) (row : CoreType × OcString) : CoreState :=
  if row.1 = .wes ∨ row.1 = .ees then o.ocCorePopulateCollection s row.1 device row.2
  else o.ocCorePopulateResource s row.1 device row.2

/-- Resources that only some builds have. -/
def only (rows : List (CoreType × OcString)) : List (CoreType × OcString) := rows.filter fun row => o.has row.1

/-- The resources that `oc_core_add_new_device` populates, in its order. -/
def deviceRows (announced : Bool) (uri : OcString) : List (CoreType × OcString) :=
  (.d, uri) :: (if announced then [(.con, ascii "/oc/con")] else []) ++
    o.only [(.res, ascii "oic/res"), (.introspectionWk, ascii "oc/wk/introspection"),
      (.introspectionData, ascii "oc/introspection"), (.mnt, ascii "oic/mnt"),
      (.coapcloudconf, ascii "/CoapCloudConfResURI"), (.wes, ascii "/easysetup"), (.wesWifi, ascii "/wificonf"),
      (.wesDevice, ascii "/devconf"), (.ees, ascii "/esimeasysetup"), (.eesRsp, ascii "/rspconf"),
      (.eesRspcap, ascii "/rspcapability")]

/-- The new cells of the table: cleared resources, but for the two collections. -/
def newCells (s : CoreState) : Nat → Option CoreSlot := fun i =>
  let base := 1 + o.ocfD * s.deviceCount
  if base ≤ i ∧ i < base + o.ocfD then
    if (o.wifiEasysetup = true ∧ i = base + o.index .wes - 1) ∨ (o.esimEasysetup = true ∧ i = base + o.index .ees - 1) then
      none
    else some .cleared
  else s.resources i

/-- `oc_core_add_new_device` -/
def ocCoreAddNewDevice (s : CoreState) (uri : OcString) : CoreState :=
  let filled := (o.deviceRows s.announced uri).foldl (o.populate s.deviceCount) { s with resources := o.newCells s }
  { filled with deviceCount := s.deviceCount + 1 }

/-- `oc_core_init_platform` -/
def ocCoreInitPlatform (s : CoreState) : CoreState :=
  if s.hasMfgName then s
  else
    let cell := (s.resources 0).getD .cleared
    let s := { s with resources := Function.update s.resources 0 (some cell) }
    { o.ocCorePopulateResource s .p 0 (ascii "oic/p") with hasMfgName := true }

/-- The resources that `oc_sec_create_svr` populates. -/
def svrRows : List (CoreType × OcString) :=
  [(.secDoxm, ascii "/oic/sec/doxm"), (.secPstat, ascii "/oic/sec/pstat"), (.secAcl, ascii "/oic/sec/acl2"),
    (.secCred, ascii "/oic/sec/cred"), (.secAel, ascii "/oic/sec/ael"), (.secSp, ascii "/oic/sec/sp"),
    (.secSdi, ascii "/oic/sec/sdi"), (.secCsr, ascii "/oic/sec/csr"), (.secRoles, ascii "/oic/sec/roles")]

/-- The one of `oc_create_swupdate_resource`. -/
def swRows : List (CoreType × OcString) := [(.swUpdate, ascii "sw")]

/-- `oc_sec_create_svr` -/
def ocSecCreateSvr (s : CoreState) : CoreState :=
  (List.range s.deviceCount).foldl (fun s device => (o.only svrRows).foldl (o.populate device) s) s

/-- `oc_swupdate_init` -/
def ocSwupdateInit (s : CoreState) : CoreState :=
  (List.range s.deviceCount).foldl (fun s device => (o.only swRows).foldl (o.populate device) s) s

end CoreOptions

/-- What an application does in its `init` callback. -/
inductive InitCall
  | initPlatform
  | addDevice (uri : OcString)
  | setConResAnnounced (announce : Bool)

namespace CoreOptions

variable (o : CoreOptions)

/-- One call of the application. -/
def initCall (s : CoreState) : InitCall → CoreState
  | .initPlatform => o.ocCoreInitPlatform s
  | .addDevice uri => o.ocCoreAddNewDevice s uri
  | .setConResAnnounced announce => { s with announced := announce }

/-- `oc_main_init`, as far as it fills the table. -/
def ocMainInit (calls : List InitCall) : CoreState := o.ocSwupdateInit (o.ocSecCreateSvr (calls.foldl o.initCall ocCoreInit))

end CoreOptions

/-! ## The lookup -/

/-- What the lookup makes of a URI: `NULL`, the platform's resource, or one of a device by its constant, which is 0 as
long as no other one is set. -/
inductive UriType
  | unknown
  | platform
  | device (type : CoreType)
deriving DecidableEq

/-- `strlen(uri) - skip == n` and `memcmp(uri + skip, name, n) == 0` -/
def uriIs (uri : OcString) (n : Nat) (name : OcString) : Bool := uri.length == n && uri.take n == name.take n

/-- The texts of five characters. -/
def uriTypeFive (uri : OcString) : UriType :=
  if uriIs uri 5 (ascii "oic/p") then .platform
  else if uriIs uri 5 (ascii "oic/d") then .device .d
  else .device .p

/-- The texts of twelve characters, `uriIs` without the comparison of the lengths. -/
def uriTypeTwelve (uri : OcString) : UriType :=
  if uri.take 12 = (ascii "oic/sec/doxm").take 12 then .device .secDoxm
  else if uri.take 12 = (ascii "oic/sec/pstat").take 12 then .device .secPstat
  else if uri.take 12 = (ascii "oic/sec/acl2").take 12 then .device .secAcl
  else if uri.take 11 = (ascii "oic/sec/ael").take 11 then .device .secAel
  else if uri.take 12 = (ascii "oic/sec/cred").take 12 then .device .secCred
  else .device .p

namespace CoreOptions

variable (o : CoreOptions)

/-- The chain of `oc_core_get_resource_by_uri`, for the URI behind its slash. -/
def uriType (announced : Bool) (uri : OcString) : UriType :=
  if uri.length = 5 then uriTypeFive uri
  else if uriIs uri 7 (ascii "oic/res") then .device .res
  else if uriIs uri 6 (ascii "oc/con") && announced then .device .con
  else if uriIs uri 19 (ascii "oc/wk/introspection") then .device .introspectionWk
  else if uriIs uri 16 (ascii "oc/introspection") then .device .introspectionData
  else if uriIs uri 7 (ascii "oic/mnt") && o.mnt then .device .mnt
  else if uriIs uri 19 (ascii "CoapCloudConfResURI") && o.cloud then .device .coapcloudconf
  else if uriIs uri 9 (ascii "easysetup") && o.wifiEasysetup then .device .wes
  else if uriIs uri 8 (ascii "wificonf") && o.wifiEasysetup then .device .wesWifi
  else if uriIs uri 7 (ascii "devconf") && o.wifiEasysetup then .device .wesDevice
  else if uriIs uri 13 (ascii "esimeasysetup") && o.esimEasysetup then .device .ees
  else if uriIs uri 7 (ascii "rspconf") && o.esimEasysetup then .device .eesRsp
  else if uriIs uri 13 (ascii "rspcapability") && o.esimEasysetup then .device .eesRspcap
  else if uri.length == 12 && o.security then uriTypeTwelve uri
  else if uriIs uri 10 (ascii "oic/sec/sp") && o.security then .device .secSp
  else if uriIs uri 11 (ascii "oic/sec/csr") && (o.security && o.pki) then .device .secCsr
  else if uriIs uri 13 (ascii "oic/sec/roles") && (o.security && o.pki) then .device .secRoles
  else if uriIs uri 11 (ascii "oic/sec/sdi") && o.security then .device .secSdi
  else if uriIs uri 2 (ascii "sw") && o.softwareUpdate then .device .swUpdate
  else .unknown

/-- A URI behind its slash, if it has one. -/
def behindSlash (uri : OcString) : OcString := if uri.head? = some 47 then uri.drop 1 else uri

/-- A cell of the table, unless its pointer is `NULL`. -/
def pointer (s : CoreState) (i : Nat) : Option Nat := (s.resources i).map fun _ => i

/-- `oc_core_get_resource_by_uri`: the place of the resource in the table. -/
def ocCoreGetResourceByUri (s : CoreState) (uri : OcString) (device : Nat) : Option Nat :=
  match o.uriType s.announced (behindSlash uri) with
  | .unknown => none
  | .platform => pointer s 0
  | .device type => pointer s (o.ocfD * device + o.index type)

end CoreOptions

/-! ## Places -/

namespace CoreOptions

variable {o : CoreOptions}

theorem mem_types {t : CoreType} : t ∈ o.types ↔ o.has t = true := by
  have hall : t ∈ coreTypes := by cases t <;> decide
  unfold types
  rw [List.mem_filter, and_iff_right hall]

theorem nodup_types : o.types.Nodup := List.Nodup.filter _ (by decide)

theorem index_inj {a b : CoreType} (ha : o.has a = true) : o.index a = o.index b ↔ a = b :=
  List.idxOf_inj (mem_types.2 ha)

theorem index_p : o.index .p = 0 := by
  show List.idxOf _ (_ :: _) = 0
  exact List.idxOf_cons_self

theorem index_pos {t : CoreType} (ht : o.has t = true) (hp : t ≠ .p) : 0 < o.index t := by
  rw [Nat.pos_iff_ne_zero]
  rintro hzero
  exact hp ((index_inj ht).1 (hzero.trans index_p.symm))

theorem length_types : o.types.length = o.ocfD + 1 := by
  have hsplit : o.types = (coreTypes.dropLast.filter o.has) ++ [CoreType.d] := by
    show (coreTypes.dropLast ++ [CoreType.d]).filter o.has = _
    rw [List.filter_append]
    rfl
  have hnone : CoreType.d ∉ coreTypes.dropLast.filter o.has := fun h => absurd (List.mem_filter.1 h).1 (by decide)
  unfold ocfD index
  rw [hsplit, List.idxOf_append_of_notMem hnone, List.length_append]
  simp

theorem index_le {t : CoreType} (ht : o.has t = true) : o.index t ≤ o.ocfD := by
  have hlt := List.idxOf_lt_length_of_mem (mem_types.2 ht)
  rw [length_types] at hlt
  exact Nat.le_of_lt_succ hlt

/-- The place of a device's resource in the table. -/
def cell (o : CoreOptions) (device : Nat) (t : CoreType) : Nat := o.ocfD * device + o.index t

theorem cell_inj {a b : CoreType} {d e : Nat} (ha : o.has a = true) (hb : o.has b = true) (hpa : a ≠ .p) (hpb : b ≠ .p) :
    o.cell d a = o.cell e b ↔ d = e ∧ a = b := by
  have hposa := index_pos ha hpa
  have hposb := index_pos hb hpb
  have hlea := index_le ha
  have hleb := index_le hb
  have hnext (m n : Nat) (h : m < n) : o.ocfD * m + o.ocfD ≤ o.ocfD * n := by
    rw [← Nat.mul_succ]
    exact Nat.mul_le_mul_left _ h
  constructor
  · intro h
    unfold cell at h
    obtain hlt | rfl | hlt := Nat.lt_trichotomy d e
    · have hle := hnext d e hlt
      omega
    · exact ⟨rfl, (index_inj ha).1 (Nat.add_left_cancel h)⟩
    · have hle := hnext e d hlt
      omega
  · rintro ⟨rfl, rfl⟩
    rfl

theorem cell_pos {t : CoreType} {d : Nat} (ht : o.has t = true) (hp : t ≠ .p) : 0 < o.cell d t :=
  Nat.add_pos_right _ (index_pos ht hp)

/-- Resources of a device or of the platform. -/
def IsCore (o : CoreOptions) (device i : Nat) : Prop := i = 0 ∨ o.ocfD * device < i ∧ i ≤ o.ocfD * device + o.ocfD

theorem isCore_iff {device i : Nat} :
    o.IsCore device i ↔ i = 0 ∨ ∃ t, o.has t = true ∧ t ≠ .p ∧ i = o.cell device t := by
  unfold IsCore
  refine or_congr_right ⟨fun ⟨hlt, hle⟩ => ?_, ?_⟩
  · have hbound : i - o.ocfD * device < o.types.length := by
      rw [length_types]
      omega
    refine ⟨o.types[i - o.ocfD * device], mem_types.1 (List.getElem_mem hbound), fun hp => ?_, ?_⟩
    · have hindex : o.index (o.types[i - o.ocfD * device]) = i - o.ocfD * device := nodup_types.idxOf_getElem _ hbound
      rw [hp, index_p] at hindex
      omega
    · unfold cell index
      rw [nodup_types.idxOf_getElem _ hbound]
      omega
  · rintro ⟨t, ht, hp, rfl⟩
    have hpos := index_pos ht hp
    have hle := index_le ht
    unfold cell
    omega

/-! ## What is populated -/

/-- Rows can be populated: their resources are there, or are made. -/
def Ready (o : CoreOptions) (s : CoreState) (device : Nat) (rows : List (CoreType × OcString)) : Prop :=
  ∀ row ∈ rows, o.has row.1 = true ∧ row.1 ≠ .p ∧
    (row.1 = .wes ∨ row.1 = .ees ∨ (s.resources (o.cell device row.1)).isSome = true)

section

variable {s : CoreState}

theorem populate_eq {device : Nat} (h : o.Ready s device [row]) :
    o.populate device s row = { s with
      resources := Function.update s.resources (o.cell device row.1) (some ⟨device, some (ocStoreUri row.2)⟩) } := by
  obtain ⟨hhas, hp, hthere⟩ := h row List.mem_cons_self
  have hindex : coreIndexOf o.ocfD device (o.index row.1) = o.cell device row.1 :=
    if_neg (Nat.pos_iff_ne_zero.1 (index_pos hhas hp))
  unfold populate
  split
  · rfl
  · rename_i hcollection
    obtain hwes | hees | hsome := hthere
    · exact absurd (.inl hwes) hcollection
    · exact absurd (.inr hees) hcollection
    · obtain ⟨r, hr⟩ := Option.isSome_iff_exists.1 hsome
      unfold ocCorePopulateResource
      rw [hindex]
      dsimp only
      rw [hr]

/-- The rows of a device are populated, and nothing else changes. -/
structure Populated (o : CoreOptions) (s s' : CoreState) (device : Nat) (rows : List (CoreType × OcString)) : Prop where
  deviceCount : s'.deviceCount = s.deviceCount
  announced : s'.announced = s.announced
  hasMfgName : s'.hasMfgName = s.hasMfgName
  row : ∀ row ∈ rows, s'.resources (o.cell device row.1) = some ⟨device, some (ocStoreUri row.2)⟩
  other : ∀ i, (∀ row ∈ rows, i ≠ o.cell device row.1) → s'.resources i = s.resources i

theorem populate_rows {device : Nat} : ∀ {rows : List (CoreType × OcString)} {s : CoreState}, o.Ready s device rows →
    (rows.map Prod.fst).Nodup → o.Populated s (rows.foldl (o.populate device) s) device rows
  | [], s, _, _ => ⟨rfl, rfl, rfl, fun row h => absurd h List.not_mem_nil, fun _ _ => rfl⟩
  | row :: rows, s, hready, hnodup => by
    rw [List.map_cons, List.nodup_cons] at hnodup
    obtain ⟨hnew, hnodup⟩ := hnodup
    have hfirst := hready row List.mem_cons_self
    have hstep : o.populate device s row = _ := populate_eq fun r hr => by
      rw [List.mem_singleton.1 hr]
      exact hfirst
    have hne : ∀ r ∈ rows, o.cell device r.1 ≠ o.cell device row.1 := by
      rintro r hr heq
      have hrow := hready r (List.mem_cons_of_mem _ hr)
      have htype := ((cell_inj hrow.1 hfirst.1 hrow.2.1 hfirst.2.1).1 heq).2
      exact hnew (htype ▸ List.mem_map_of_mem hr)
    have hrest : o.Populated (o.populate device s row) _ device rows := populate_rows (fun r hr => by
      obtain ⟨hhas, hp, hthere⟩ := hready r (List.mem_cons_of_mem _ hr)
      refine ⟨hhas, hp, hthere.imp_right (Or.imp_right fun hsome => ?_)⟩
      rw [hstep]
      dsimp only
      rwa [Function.update_of_ne (hne r hr)]) hnodup
    obtain ⟨hcount, hannounced, hname, hrows, hother⟩ := hrest
    have hkept : ∀ i, i ≠ o.cell device row.1 → (o.populate device s row).resources i = s.resources i := fun i hi => by
      rw [hstep]
      exact Function.update_of_ne hi _ _
    refine ⟨hcount.trans (by rw [hstep]), hannounced.trans (by rw [hstep]), hname.trans (by rw [hstep]), ?_, ?_⟩
    · rintro r hr
      obtain rfl | hr := List.mem_cons.1 hr
      · rw [List.foldl_cons, hother _ fun q hq => (hne q hq).symm, hstep]
        exact Function.update_self _ _ _
      · exact hrows r hr
    · rintro i hi
      rw [List.foldl_cons, hother i fun r hr => hi r (List.mem_cons_of_mem _ hr), hkept i (hi row List.mem_cons_self)]

/-- The rows of the first `n` devices are populated, and nothing else changes. -/
structure AllPopulated (o : CoreOptions) (s s' : CoreState) (n : Nat) (rows : List (CoreType × OcString)) : Prop where
  deviceCount : s'.deviceCount = s.deviceCount
  announced : s'.announced = s.announced
  hasMfgName : s'.hasMfgName = s.hasMfgName
  row : ∀ d < n, ∀ row ∈ rows, s'.resources (o.cell d row.1) = some ⟨d, some (ocStoreUri row.2)⟩
  other : ∀ i, (∀ d < n, ∀ row ∈ rows, i ≠ o.cell d row.1) → s'.resources i = s.resources i

variable {rows : List (CoreType × OcString)}

theorem populate_all (hnodup : (rows.map Prod.fst).Nodup) {s : CoreState} {n : Nat}
    (hready : ∀ d < n, o.Ready s d rows) : o.AllPopulated s
      ((List.range n).foldl (fun s device => rows.foldl (o.populate device) s) s) n rows := by
  induction n with
  | zero => exact ⟨rfl, rfl, rfl, fun d hd => absurd hd (Nat.not_lt_zero d), fun _ _ => rfl⟩
  | succ n ih =>
    obtain ⟨hcount, hannounced, hname, hrow, hother⟩ := ih fun d hd => hready d (Nat.lt_succ_of_lt hd)
    rw [List.range_succ, List.foldl_append, List.foldl_cons, List.foldl_nil]
    have hapart : ∀ d < n, ∀ r ∈ rows, ∀ q ∈ rows, o.cell n r.1 ≠ o.cell d q.1 := by
      rintro d hd r hr q hq heq
      have hr' := hready n (Nat.lt_succ_self n) r hr
      have hq' := hready n (Nat.lt_succ_self n) q hq
      exact absurd ((cell_inj hr'.1 hq'.1 hr'.2.1 hq'.2.1).1 heq).1 (by omega)
    have hlast : o.Populated ((List.range n).foldl (fun s device => rows.foldl (o.populate device) s) s) _ n rows :=
      populate_rows (fun r hr => by
        obtain ⟨hhas, hp, hthere⟩ := hready n (Nat.lt_succ_self n) r hr
        refine ⟨hhas, hp, hthere.imp_right (Or.imp_right fun hsome => ?_)⟩
        rw [hother _ fun d hd q hq => hapart d hd r hr q hq]
        exact hsome) hnodup
    refine ⟨hlast.deviceCount.trans hcount, hlast.announced.trans hannounced, hlast.hasMfgName.trans hname, ?_, ?_⟩
    · rintro d hd r hr
      obtain hlt | rfl := Nat.lt_succ_iff_lt_or_eq.1 hd
      · rw [hlast.other _ fun q hq => (hapart d hlt q hq r hr).symm, hrow d hlt r hr]
      · exact hlast.row r hr
    · rintro i hi
      rw [hlast.other i fun r hr => hi n (Nat.lt_succ_self n) r hr,
        hother i fun d hd r hr => hi d (Nat.lt_succ_of_lt hd) r hr]

/-! ## The table behind `oc_main_init` -/

/-- The URI of a core resource, behind its slash; that of a device itself comes from the application. -/
def coreName : CoreType → OcString
  | .p => ascii "oic/p"
  | .con => ascii "oc/con"
  | .introspectionWk => ascii "oc/wk/introspection"
  | .introspectionData => ascii "oc/introspection"
  | .res => ascii "oic/res"
  | .mnt => ascii "oic/mnt"
  | .coapcloudconf => ascii "CoapCloudConfResURI"
  | .swUpdate => ascii "sw"
  | .wes => ascii "easysetup"
  | .wesWifi => ascii "wificonf"
  | .wesDevice => ascii "devconf"
  | .ees => ascii "esimeasysetup"
  | .eesRsp => ascii "rspconf"
  | .eesRspcap => ascii "rspcapability"
  | .secDoxm => ascii "oic/sec/doxm"
  | .secPstat => ascii "oic/sec/pstat"
  | .secAcl => ascii "oic/sec/acl2"
  | .secAel => ascii "oic/sec/ael"
  | .secCred => ascii "oic/sec/cred"
  | .secSdi => ascii "oic/sec/sdi"
  | .secSp => ascii "oic/sec/sp"
  | .secCsr => ascii "oic/sec/csr"
  | .secRoles => ascii "oic/sec/roles"
  | .d => ascii "oic/d"

/-- The constants whose resources a device gets when it is added. -/
def early : CoreType → Bool
  | .introspectionWk | .introspectionData | .res | .mnt | .coapcloudconf | .wes | .wesWifi | .wesDevice
  | .ees | .eesRsp | .eesRspcap => true
  | _ => false

/-- Those of `oc_sec_create_svr`. -/
def svr : CoreType → Bool
  | .secDoxm | .secPstat | .secAcl | .secAel | .secCred | .secSdi | .secSp | .secCsr | .secRoles => true
  | _ => false

/-- A populated resource of the stack itself. -/
def ownResource (d : Nat) (t : CoreType) : CoreSlot := ⟨d, some (47 :: coreName t)⟩

/-- The table, with the resources that are populated by now. -/
structure Placed (o : CoreOptions) (done : CoreType → Bool) (s : CoreState) : Prop where
  platform : s.resources 0 = if s.hasMfgName then some (ownResource 0 .p) else none
  there : ∀ d < s.deviceCount, ∀ t, o.has t = true → t ≠ .p → (s.resources (o.cell d t)).isSome = true
  own : ∀ d < s.deviceCount, ∀ t, o.has t = true → done t = true → s.resources (o.cell d t) = some (ownResource d t)
  con : ∀ d < s.deviceCount,
    s.resources (o.cell d .con) = some (ownResource d .con) ∨ s.resources (o.cell d .con) = some .cleared

theorem early_ne_p {t : CoreType} (h : early t = true) : t ≠ .p := by
  rintro rfl
  cases h

theorem mem_only :
    row ∈ o.only rows ↔ row ∈ rows ∧ o.has row.1 = true := List.mem_filter

theorem nodup_only (h : (rows.map Prod.fst).Nodup) :
    ((o.only rows).map Prod.fst).Nodup := h.sublist (List.filter_sublist.map _)

theorem placed_init : o.Placed early ocCoreInit :=
  ⟨rfl, fun d hd => absurd hd (Nat.not_lt_zero d), fun d hd => absurd hd (Nat.not_lt_zero d),
    fun d hd => absurd hd (Nat.not_lt_zero d)⟩

theorem placed_initPlatform (h : o.Placed early s) :
    o.Placed early (o.ocCoreInitPlatform s) ∧ (o.ocCoreInitPlatform s).hasMfgName = true := by
  unfold ocCoreInitPlatform
  split
  · rename_i hname
    exact ⟨h, hname⟩
  · unfold ocCorePopulateResource coreIndexOf
    rw [if_pos (index_p (o := o))]
    dsimp only
    rw [Function.update_self]
    dsimp only
    have hkept (d : Nat) (t : CoreType) (ht : o.has t = true) (hp : t ≠ .p) (r : Option CoreSlot) (q : Option CoreSlot) :
        Function.update (Function.update s.resources 0 q) 0 r (o.cell d t) = s.resources (o.cell d t) := by
      have hne := Nat.pos_iff_ne_zero.1 (cell_pos (d := d) ht hp)
      rw [Function.update_of_ne hne, Function.update_of_ne hne]
    refine ⟨⟨?_, ?_, ?_, ?_⟩, rfl⟩
    · dsimp only
      rw [Function.update_self]
      rfl
    · rintro d hd t ht hp
      dsimp only
      rw [hkept d t ht hp]
      exact h.there d hd t ht hp
    · rintro d hd t ht hearly
      dsimp only
      rw [hkept d t ht (early_ne_p hearly)]
      exact h.own d hd t ht hearly
    · rintro d hd
      dsimp only
      rw [hkept d .con rfl (by decide)]
      exact h.con d hd

theorem newCells_old {i : Nat} (h : i ≤ o.ocfD * s.deviceCount) : o.newCells s i = s.resources i := by
  unfold newCells
  dsimp only
  rw [if_neg (by omega)]

theorem newCells_new {t : CoreType} (ht : o.has t = true) (hp : t ≠ .p) :
    o.newCells s (o.cell s.deviceCount t) = if t = .wes ∨ t = .ees then none else some .cleared := by
  have hpos := index_pos ht hp
  have hle := index_le ht
  have hplace (u : CoreType) (hu : o.has u = true) (hup : u ≠ .p) :
      o.cell s.deviceCount t = 1 + o.ocfD * s.deviceCount + o.index u - 1 ↔ t = u := by
    have hiff := cell_inj (d := s.deviceCount) (e := s.deviceCount) ht hu hp hup
    unfold cell at hiff ⊢
    rw [show 1 + o.ocfD * s.deviceCount + o.index u - 1 = o.ocfD * s.deviceCount + o.index u by omega, hiff]
    exact and_iff_right rfl
  have hskip (b : Bool) (u : CoreType) (hb : o.has u = b) (hup : u ≠ .p) :
      b = true ∧ o.cell s.deviceCount t = 1 + o.ocfD * s.deviceCount + o.index u - 1 ↔ t = u := by
    constructor
    · rintro ⟨rfl, heq⟩
      exact (hplace u hb hup).1 heq
    · rintro rfl
      exact ⟨hb.symm.trans ht, (hplace t ht hp).2 rfl⟩
  unfold newCells
  dsimp only
  rw [if_pos (by unfold cell; omega)]
  simp only [hskip o.wifiEasysetup .wes rfl (by decide), hskip o.esimEasysetup .ees rfl (by decide)]

/-- All the resources that a new device may get. -/
def allRows (uri : OcString) : List (CoreType × OcString) :=
  [(.d, uri), (.con, ascii "/oc/con"), (.res, ascii "oic/res"), (.introspectionWk, ascii "oc/wk/introspection"),
    (.introspectionData, ascii "oc/introspection"), (.mnt, ascii "oic/mnt"),
    (.coapcloudconf, ascii "/CoapCloudConfResURI"), (.wes, ascii "/easysetup"), (.wesWifi, ascii "/wificonf"),
    (.wesDevice, ascii "/devconf"), (.ees, ascii "/esimeasysetup"), (.eesRsp, ascii "/rspconf"),
    (.eesRspcap, ascii "/rspcapability")]

theorem mem_deviceRows {announced : Bool} {uri : OcString} :
    row ∈ o.deviceRows announced uri ↔
      row ∈ allRows uri ∧ o.has row.1 = true ∧ (row.1 = .con → announced = true) := by
  unfold deviceRows
  simp only [List.mem_cons, List.cons_append, List.mem_append, mem_only]
  constructor
  · rintro (rfl | h | ⟨h, hhas⟩)
    · exact ⟨by simp [allRows], rfl, fun h => by cases h⟩
    · cases announced with
      | false => cases h
      | true =>
        rw [List.mem_singleton.1 h]
        exact ⟨by simp [allRows], rfl, fun _ => rfl⟩
    · refine ⟨?_, hhas, fun hcon => ?_⟩
      · unfold allRows
        simp only [List.mem_cons]
        exact .inr (.inr h)
      · simp [Prod.ext_iff, hcon] at h
  · rintro ⟨h, hhas, hcon⟩
    obtain rfl | h := List.mem_cons.1 h
    · exact .inl rfl
    · obtain rfl | h := List.mem_cons.1 h
      · rw [hcon rfl]
        exact .inr (.inl (List.mem_singleton.2 rfl))
      · exact .inr (.inr ⟨by simpa using h, hhas⟩)

theorem allRows_ne_p {uri : OcString} (h : row ∈ allRows uri) : row.1 ≠ .p := by
  have hmem : row.1 ∈ (allRows uri).map Prod.fst := List.mem_map_of_mem h
  rintro hp
  rw [hp] at hmem
  exact absurd hmem (by simp [allRows])

theorem nodup_deviceRows {announced : Bool} {uri : OcString} : ((o.deviceRows announced uri).map Prod.fst).Nodup := by
  have hsub : (o.deviceRows announced uri).Sublist (allRows uri) := by
    unfold deviceRows allRows only
    refine List.Sublist.cons_cons _ (@List.Sublist.append _ _ [_] _ _ ?_ List.filter_sublist)
    cases announced with
    | false => exact List.nil_sublist _
    | true => exact List.Sublist.refl _
  refine (hsub.map Prod.fst).nodup ?_
  show ([.d, .con, .res, .introspectionWk, .introspectionData, .mnt, .coapcloudconf, .wes, .wesWifi, .wesDevice, .ees,
    .eesRsp, .eesRspcap] : List CoreType).Nodup
  decide

theorem early_row (announced : Bool) (uri : OcString) {t : CoreType} (ht : o.has t = true) (h : early t = true) :
    ∃ name, (t, name) ∈ o.deviceRows announced uri ∧ ocStoreUri name = 47 :: coreName t := by
  have hall : ∃ name, (t, name) ∈ allRows uri ∧ ocStoreUri name = 47 :: coreName t := by
    cases t
    case introspectionWk => exact ⟨ascii "oc/wk/introspection", by simp [allRows], rfl⟩
    case introspectionData => exact ⟨ascii "oc/introspection", by simp [allRows], rfl⟩
    case res => exact ⟨ascii "oic/res", by simp [allRows], rfl⟩
    case mnt => exact ⟨ascii "oic/mnt", by simp [allRows], rfl⟩
    case coapcloudconf => exact ⟨ascii "/CoapCloudConfResURI", by simp [allRows], rfl⟩
    case wes => exact ⟨ascii "/easysetup", by simp [allRows], rfl⟩
    case wesWifi => exact ⟨ascii "/wificonf", by simp [allRows], rfl⟩
    case wesDevice => exact ⟨ascii "/devconf", by simp [allRows], rfl⟩
    case ees => exact ⟨ascii "/esimeasysetup", by simp [allRows], rfl⟩
    case eesRsp => exact ⟨ascii "/rspconf", by simp [allRows], rfl⟩
    case eesRspcap => exact ⟨ascii "/rspcapability", by simp [allRows], rfl⟩
    all_goals cases h
  obtain ⟨name, hmem, hname⟩ := hall
  refine ⟨name, mem_deviceRows.2 ⟨hmem, ht, fun hcon => ?_⟩, hname⟩
  rw [show t = .con from hcon] at h
  cases h

theorem placed_addDevice (h : o.Placed early s) (uri : OcString) :
    o.Placed early (o.ocCoreAddNewDevice s uri) ∧ (o.ocCoreAddNewDevice s uri).hasMfgName = s.hasMfgName := by
  -- the cells of the rows are cleared before they are filled
  have hready : o.Ready { s with resources := o.newCells s } s.deviceCount (o.deviceRows s.announced uri) := by
    rintro row hrow
    obtain ⟨hmem, hhas, -⟩ := mem_deviceRows.1 hrow
    have hp := allRows_ne_p hmem
    refine ⟨hhas, hp, ?_⟩
    by_cases hwes : row.1 = .wes
    · exact .inl hwes
    · by_cases hees : row.1 = .ees
      · exact .inr (.inl hees)
      · refine .inr (.inr ?_)
        dsimp only
        rw [newCells_new hhas hp, if_neg (by rintro (h | h) <;> contradiction)]
        rfl
  obtain ⟨-, -, hname, hrow, hother⟩ := populate_rows hready nodup_deviceRows
  -- everything in front of the new device stays
  have hold : ∀ i ≤ o.ocfD * s.deviceCount, (o.ocCoreAddNewDevice s uri).resources i = s.resources i := by
    rintro i hi
    refine (hother i fun row hrow heq => ?_).trans (newCells_old hi)
    obtain ⟨hmem, hhas, -⟩ := mem_deviceRows.1 hrow
    have hpos := index_pos hhas (allRows_ne_p hmem)
    rw [heq] at hi
    unfold cell at hi
    omega
  have hkept : ∀ d < s.deviceCount, ∀ t, o.has t = true →
      (o.ocCoreAddNewDevice s uri).resources (o.cell d t) = s.resources (o.cell d t) := by
    rintro d hd t ht
    refine hold _ ?_
    have hle := index_le ht
    have hmul : o.ocfD * d + o.ocfD ≤ o.ocfD * s.deviceCount := by
      rw [← Nat.mul_succ]
      exact Nat.mul_le_mul_left _ hd
    unfold cell
    omega
  have hfresh : ∀ t, o.has t = true → t ≠ .p → (∀ row ∈ o.deviceRows s.announced uri, row.1 ≠ t) →
      (o.ocCoreAddNewDevice s uri).resources (o.cell s.deviceCount t) =
        if t = .wes ∨ t = .ees then none else some .cleared := by
    rintro t ht hp hnone
    refine (hother _ fun row hrow heq => ?_).trans (newCells_new ht hp)
    obtain ⟨hmem, hhas, -⟩ := mem_deviceRows.1 hrow
    exact hnone row hrow ((cell_inj ht hhas hp (allRows_ne_p hmem)).1 heq).2.symm
  refine ⟨⟨?_, ?_, ?_, ?_⟩, hname⟩
  · rw [hold 0 (Nat.zero_le _), h.platform]
    exact congrArg (fun b : Bool => if b = true then some (ownResource 0 .p) else none) hname.symm
  · rintro d hd t ht hp
    obtain hlt | rfl := Nat.lt_succ_iff_lt_or_eq.1 hd
    · rw [hkept d hlt t ht]
      exact h.there d hlt t ht hp
    · by_cases hrows : ∃ row ∈ o.deviceRows s.announced uri, row.1 = t
      · obtain ⟨row, hmem, rfl⟩ := hrows
        exact Option.isSome_iff_exists.2 ⟨_, hrow row hmem⟩
      · have hnone : ∀ row ∈ o.deviceRows s.announced uri, row.1 ≠ t := fun row hmem heq => hrows ⟨row, hmem, heq⟩
        have hnotearly : early t ≠ true := fun hearly => by
          obtain ⟨name, hmem, -⟩ := early_row s.announced uri ht hearly
          exact hnone _ hmem rfl
        rw [hfresh t ht hp hnone, if_neg (by rintro (rfl | rfl) <;> exact hnotearly rfl)]
        rfl
  · rintro d hd t ht hearly
    obtain hlt | rfl := Nat.lt_succ_iff_lt_or_eq.1 hd
    · rw [hkept d hlt t ht]
      exact h.own d hlt t ht hearly
    · obtain ⟨name, hmem, hstored⟩ := early_row s.announced uri ht hearly
      exact (hrow _ hmem).trans (by rw [hstored]; rfl)
  · rintro d hd
    obtain hlt | rfl := Nat.lt_succ_iff_lt_or_eq.1 hd
    · rw [hkept d hlt .con rfl]
      exact h.con d hlt
    · cases hann : s.announced with
      | true =>
        exact .inl (hrow (.con, ascii "/oc/con") (mem_deviceRows.2 ⟨by simp [allRows], rfl, fun _ => hann⟩))
      | false =>
        right
        rw [hfresh .con rfl (by decide) fun row hmem hcon => ?_]
        · rfl
        · have htrue := (mem_deviceRows.1 hmem).2.2 hcon
          rw [hann] at htrue
          cases htrue

theorem placed_calls (o : CoreOptions) (calls : List InitCall) {s : CoreState} (h : o.Placed early s) :
    o.Placed early (calls.foldl o.initCall s) ∧ (s.hasMfgName = true ∨ .initPlatform ∈ calls →
      (calls.foldl o.initCall s).hasMfgName = true) := by
  induction calls generalizing s with
  | nil => exact ⟨h, fun hname => hname.elim id fun hmem => absurd hmem List.not_mem_nil⟩
  | cons call calls ih =>
    rw [List.foldl_cons]
    cases call with
    | initPlatform =>
      obtain ⟨hplaced, hname⟩ := placed_initPlatform h
      exact ⟨(ih hplaced).1, fun _ => (ih hplaced).2 (.inl hname)⟩
    | addDevice uri =>
      obtain ⟨hplaced, hname⟩ := placed_addDevice h uri
      exact ⟨(ih hplaced).1, fun hor => (ih hplaced).2 (hor.imp hname.trans fun hmem => by simpa using hmem)⟩
    | setConResAnnounced announce =>
      have hplaced : o.Placed early { s with announced := announce } := ⟨h.platform, h.there, h.own, h.con⟩
      exact ⟨(ih hplaced).1, fun hor => (ih hplaced).2 (hor.imp id fun hmem => by simpa using hmem)⟩

theorem placed_all {done : CoreType → Bool} (rows : List (CoreType × OcString)) (h : o.Placed done s)
    (hdone : done .p = false) (hnodup : (rows.map Prod.fst).Nodup)
    (hrows : ∀ row ∈ rows, row.1 ≠ .p ∧ row.1 ≠ .con ∧ ocStoreUri row.2 = 47 :: coreName row.1) :
    o.Placed (fun t => done t || (rows.map Prod.fst).contains t)
      ((List.range s.deviceCount).foldl (fun s device => (o.only rows).foldl (o.populate device) s) s) ∧
    ((List.range s.deviceCount).foldl (fun s device => (o.only rows).foldl (o.populate device) s) s).hasMfgName =
      s.hasMfgName := by
  have hready : ∀ d < s.deviceCount, o.Ready s d (o.only rows) := fun d hd row hrow => by
    obtain ⟨hmem, hhas⟩ := mem_only.1 hrow
    exact ⟨hhas, (hrows row hmem).1, .inr (.inr (h.there d hd row.1 hhas (hrows row hmem).1))⟩
  obtain ⟨hcount, -, hname, hrow, hother⟩ := populate_all (nodup_only hnodup) hready
  generalize (List.range s.deviceCount).foldl (fun s device => (o.only rows).foldl (o.populate device) s) s = s' at *
  -- the cells of other types stay, and those of the rows are filled
  have hkept : ∀ d t, o.has t = true → t ≠ .p → t ∉ rows.map Prod.fst →
      s'.resources (o.cell d t) = s.resources (o.cell d t) := fun d t ht hp hnone => by
    refine hother _ fun e he row hrow' heq => ?_
    obtain ⟨hmem, hhas⟩ := mem_only.1 hrow'
    have htype := ((cell_inj ht hhas hp (hrows row hmem).1).1 heq).2
    exact hnone (htype ▸ List.mem_map_of_mem hmem)
  have hfilled : ∀ d < s.deviceCount, ∀ t, o.has t = true → t ∈ rows.map Prod.fst →
      s'.resources (o.cell d t) = some (ownResource d t) := fun d hd t ht hmem => by
    obtain ⟨row, hrow', rfl⟩ := List.mem_map.1 hmem
    rw [hrow d hd row (mem_only.2 ⟨hrow', ht⟩), (hrows row hrow').2.2]
    rfl
  refine ⟨⟨?_, ?_, ?_, ?_⟩, hname⟩
  · rw [hother 0 fun d _ row hrow' heq => ?_, h.platform, hname]
    obtain ⟨hmem, hhas⟩ := mem_only.1 hrow'
    exact absurd (cell_pos (d := d) hhas (hrows row hmem).1) (by omega)
  · rintro d hd t ht hp
    rw [hcount] at hd
    by_cases hmem : t ∈ rows.map Prod.fst
    · rw [hfilled d hd t ht hmem]
      rfl
    · rw [hkept d t ht hp hmem]
      exact h.there d hd t ht hp
  · rintro d hd t ht hor
    rw [hcount] at hd
    by_cases hmem : t ∈ rows.map Prod.fst
    · exact hfilled d hd t ht hmem
    · have hbefore : done t = true := by
        rw [Bool.or_eq_true] at hor
        exact hor.resolve_right fun h => hmem (List.elem_iff.1 h)
      have hp : t ≠ .p := by
        rintro rfl
        rw [hdone] at hbefore
        cases hbefore
      rw [hkept d t ht hp hmem]
      exact h.own d hd t ht hbefore
  · rintro d hd
    rw [hcount] at hd
    have hnone : CoreType.con ∉ rows.map Prod.fst := fun hmem => by
      obtain ⟨row, hmem, hcon⟩ := List.mem_map.1 hmem
      exact (hrows row hmem).2.1 hcon
    rw [hkept d .con rfl (by decide) hnone]
    exact h.con d hd

/-- All the resources but those of the platform, of the configuration and of the device itself. -/
def fixed (t : CoreType) : Bool := early t || svr t || t == .swUpdate

/-- States behind `oc_main_init`, with the announcement of the configuration as it may be by now; the application has
initialized the platform. -/
def Started (o : CoreOptions) (s : CoreState) : Prop :=
  ∃ calls announced, .initPlatform ∈ calls ∧ s = { o.ocMainInit calls with announced := announced }

theorem started_placed (h : o.Started s) : o.Placed fixed s ∧ s.hasMfgName = true := by
  obtain ⟨calls, announced, hplatform, rfl⟩ := h
  obtain ⟨hcalls, hname⟩ := placed_calls o calls placed_init
  obtain ⟨hsvr, hsvrName⟩ := placed_all svrRows hcalls rfl (by decide) (by decide)
  obtain ⟨hsw, hswName⟩ := placed_all swRows hsvr rfl (by decide) (by decide)
  have hfixed : (fun t => (early t || (svrRows.map Prod.fst).contains t) || (swRows.map Prod.fst).contains t) = fixed := by
    funext t
    cases t <;> rfl
  rw [hfixed] at hsw
  exact ⟨⟨hsw.platform, hsw.there, hsw.own, hsw.con⟩, hswName.trans (hsvrName.trans (hname (.inr hplatform)))⟩

end

end CoreOptions

end SmartGarage
