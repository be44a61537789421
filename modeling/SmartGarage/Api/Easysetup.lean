/-
The Wi-Fi easy setup collection, `oc_easysetup_enrolee.c`: its state and its last error code are set by the application,
which is checked, and by requests, which are not.
-/
import SmartGarage.Api.RepRead
import SmartGarage.Lib.Run

namespace SmartGarage.Easysetup

open Runs

/-! ## The collection -/

/-- `oc_es_connect_type_t` -/
def OC_ES_CONNECT_NONE : Nat := 0
def OC_ES_CONNECT_WIFI : Nat := 1
def OC_ES_CONNECT_COAPCLOUD : Nat := 2

/-- `NUM_CONNECT_TYPE` -/
def NUM_CONNECT_TYPE : Nat := 4

/-- The ends of `oc_wes_enrollee_state_t` and of `oc_wes_error_code_t`. -/
def OC_WES_INIT : Nat := 0
def OC_WES_EOF : Nat := 255
def OC_WES_NO_ERROR : Nat := 0
def OC_WES_UNKNOWN_ERROR : Nat := 255

/-- `oc_wes_data_t`; the values of an enumeration are unsigned integers of 32 bits. -/
structure OcWesData where
  connect : List Nat
  numRequest : Nat
  state : Nat
  lastErrCode : Nat

/-- What `oc_create_wifi_easysetup_resource` and `oc_wes_reset_resources` write. -/
def OcWesData.initial : OcWesData :=
  ⟨List.replicate NUM_CONNECT_TYPE OC_ES_CONNECT_NONE, 0, OC_WES_INIT, OC_WES_NO_ERROR⟩

/-- An integer of 64 bits, stored in an enumeration. -/
def castEnum (v : Int) : Nat := (v % 2 ^ 32).toNat

namespace OcWesData

variable (data : OcWesData)

/-- `oc_wes_set_error_code` -/
def ocWesSetErrorCode (errCode : Nat) : OcWesData :=
  if errCode < OC_WES_NO_ERROR ∨ errCode > OC_WES_UNKNOWN_ERROR then data else { data with lastErrCode := errCode }

/-- `oc_wes_set_state` -/
def ocWesSetState (esState : Nat) : OcWesData :=
  if esState < OC_WES_INIT ∨ esState ≥ OC_WES_EOF then data else { data with state := esState }

/-- The loop over the types of connection that are asked for. -/
def addConnect (v : Int) : OcWesData :=
  if v = OC_ES_CONNECT_WIFI ∨ v = OC_ES_CONNECT_COAPCLOUD then
    { data with connect := data.connect.set data.numRequest v.toNat, numRequest := data.numRequest + 1 }
  else data

/-- The array of the types of connection. -/
def setConnect (block : RepBlock) : OcWesData :=
  (List.range (min NUM_CONNECT_TYPE block.size)).foldl
    (fun data i => data.addConnect (((block.item i).bind Content.int?).getD 0))
    { data with connect := List.replicate NUM_CONNECT_TYPE 0, numRequest := 0 }

/-- What `set_wes_properties` does at a record, which is the first one of `rep`: it looks the properties up from there
on. -/
def setWesRecord (node : RepNode) (rep : List RepNode) : OcWesData :=
  match node.type with
  | .array .int =>
    match ocRepGetIntArray rep (ascii "cn") with
    | some block => data.setConnect block
    | none => data
  | .int =>
    let data := match ocRepGetInt rep (ascii "ps") with
      | some v => { data with state := castEnum v }
      | none => data
    match ocRepGetInt rep (ascii "lec") with
    | some v => { data with lastErrCode := castEnum v }
    | none => data
  | _ => data

end OcWesData

/-- `set_wes_properties`; the callback of the application comes last. -/
def setWesProperties : OcWesData → List RepNode → OcWesData
  | data, [] => data
  | data, node :: rest => setWesProperties (data.setWesRecord node (node :: rest)) rest

/-! ## The types of connection -/

/-- Known types of connection, at most `count` of them. -/
structure OcWesData.Connects (count : Nat) (data : OcWesData) : Prop where
  length : data.connect.length = NUM_CONNECT_TYPE
  known : ∀ c ∈ data.connect, c = OC_ES_CONNECT_NONE ∨ c = OC_ES_CONNECT_WIFI ∨ c = OC_ES_CONNECT_COAPCLOUD
  numRequest : data.numRequest ≤ count

section Connect

variable {data : OcWesData} {count : Nat}

theorem OcWesData.Connects.mono (h : data.Connects count) {count' : Nat} (hle : count ≤ count') :
    data.Connects count' := ⟨h.length, h.known, h.numRequest.trans hle⟩

theorem connects_initial : OcWesData.initial.Connects 0 :=
  ⟨List.length_replicate, fun _ hc => .inl (List.eq_of_mem_replicate hc), Nat.le_refl 0⟩

theorem OcWesData.Connects.add (h : data.Connects count) (v : Int) : (data.addConnect v).Connects (count + 1) := by
  unfold OcWesData.addConnect
  split
  · rename_i hv
    refine ⟨List.length_set.trans h.length, fun c hc => ?_, Nat.succ_le_succ h.numRequest⟩
    rcases List.mem_or_eq_of_mem_set hc with hc | rfl
    · exact h.known c hc
    · rcases hv with rfl | rfl
      · exact .inr (.inl rfl)
      · exact .inr (.inr rfl)
  · exact h.mono (Nat.le_succ count)

theorem addConnects_spec (h : data.Connects 0) (value : Nat → Int) : ∀ n : Nat,
    let data' := (List.range n).foldl (fun data i => data.addConnect (value i)) data
    data'.Connects n ∧ data'.state = data.state ∧ data'.lastErrCode = data.lastErrCode
  | 0 => ⟨h, rfl, rfl⟩
  | n + 1 => by
    obtain ⟨hconnects, hstate, hcode⟩ := addConnects_spec h value n
    intro data'
    have hdata : data' = ((List.range n).foldl (fun data i => data.addConnect (value i)) data).addConnect (value n) := by
      show (List.range (n + 1)).foldl _ _ = _
      rw [List.range_succ, List.foldl_append]
      rfl
    rw [hdata]
    refine ⟨hconnects.add (value n), ?_, ?_⟩
    · rw [← hstate]
      unfold OcWesData.addConnect
      split <;> rfl
    · rw [← hcode]
      unfold OcWesData.addConnect
      split <;> rfl

theorem setConnect_spec (data : OcWesData) (block : RepBlock) : (data.setConnect block).Connects NUM_CONNECT_TYPE ∧
    (data.setConnect block).state = data.state ∧ (data.setConnect block).lastErrCode = data.lastErrCode := by
  have hcleared : OcWesData.Connects 0 { data with connect := List.replicate NUM_CONNECT_TYPE 0, numRequest := 0 } :=
    ⟨connects_initial.length, connects_initial.known, connects_initial.numRequest⟩
  obtain ⟨hconnects, hstatus⟩ := addConnects_spec hcleared
    (fun i => ((block.item i).bind Content.int?).getD 0) (min NUM_CONNECT_TYPE block.size)
  exact ⟨hconnects.mono (Nat.min_le_left _ _), hstatus⟩

end Connect

/-! ## What a request sets -/

section Request

variable {data : OcWesData} {node : RepNode} {rest : List RepNode}

theorem ocRepGetInt_append (rep rep' : List RepNode) (key : OcString) :
    ocRepGetInt (rep ++ rep') key = (ocRepGetInt rep key).or (ocRepGetInt rep' key) := by
  unfold ocRepGetInt ocRepGetValue
  rw [List.find?_append]
  cases hfind : rep.find? (fun node => decide (node.name = key ∧ node.type = .int)) with
  | none => rfl
  | some node =>
    have hmatch := List.find?_some hfind
    have htype : node.type = .int := (of_decide_eq_true hmatch).2
    cases node with
    | leaf name value =>
      cases value with
      | int v => rfl
      | _ => cases htype
    | _ => cases htype

theorem ocRepGetInt_cons (node : RepNode) (rest : List RepNode) (key : OcString) :
    ocRepGetInt (node :: rest) key = (ocRepGetInt [node] key).or (ocRepGetInt rest key) :=
  ocRepGetInt_append [node] rest key

theorem ocRepGetInt_reverse (rep : List RepNode) (key : OcString) :
    ocRepGetInt rep.reverse key = none → ocRepGetInt rep key = none := by
  induction rep with
  | nil => exact id
  | cons node rest ih =>
    rw [List.reverse_cons, ocRepGetInt_append, ocRepGetInt_cons node rest, Option.or_eq_none_iff, Option.or_eq_none_iff]
    exact fun ⟨hrest, hnode⟩ => ⟨hnode, ih hrest⟩

theorem ocRepGetInt_other (h : node.type ≠ .int) (key : OcString) : ocRepGetInt [node] key = none := by
  unfold ocRepGetInt ocRepGetValue
  rw [List.find?_cons_of_neg (by simp [h])]
  rfl

/-- The value under a key is the one of the last record, where a record looks up the first one from it on. -/
theorem last_assigned (get : OcWesData → Nat) (key : OcString)
    (hrecord : ∀ (data : OcWesData) (node : RepNode) (rest : List RepNode), get (data.setWesRecord node (node :: rest)) =
      if node.type = .int then ((ocRepGetInt (node :: rest) key).map castEnum).getD (get data) else get data) :
    ∀ (rep : List RepNode) (data : OcWesData),
      get (setWesProperties data rep) = ((ocRepGetInt rep.reverse key).map castEnum).getD (get data)
  | [], _ => rfl
  | node :: rest, data => by
    rw [setWesProperties, last_assigned get key hrecord rest, List.reverse_cons, ocRepGetInt_append]
    cases hlast : ocRepGetInt rest.reverse key with
    | some v => rfl
    | none =>
      rw [hrecord, ocRepGetInt_cons node rest, ocRepGetInt_reverse rest key hlast, Option.or_none, Option.none_or]
      split
      · rfl
      · rename_i htype
        rw [ocRepGetInt_other htype, Option.map_none, Option.getD_none]

theorem setWesRecord_spec (data : OcWesData) (node : RepNode) (rep : List RepNode) :
    (data.Connects NUM_CONNECT_TYPE → (data.setWesRecord node rep).Connects NUM_CONNECT_TYPE) ∧
      (data.setWesRecord node rep).state =
        (if node.type = .int then ((ocRepGetInt rep (ascii "ps")).map castEnum).getD data.state else data.state) ∧
      (data.setWesRecord node rep).lastErrCode =
        (if node.type = .int then ((ocRepGetInt rep (ascii "lec")).map castEnum).getD data.lastErrCode
          else data.lastErrCode) := by
  unfold OcWesData.setWesRecord
  split
  · rename_i htype
    rw [htype, if_neg (by decide), if_neg (by decide)]
    split
    · rename_i block _
      obtain ⟨hconnects, hstatus⟩ := setConnect_spec data block
      exact ⟨fun _ => hconnects, hstatus⟩
    · exact ⟨id, rfl, rfl⟩
  · rename_i htype
    rw [if_pos htype, if_pos htype]
    cases ocRepGetInt rep (ascii "ps") <;> cases ocRepGetInt rep (ascii "lec") <;>
      exact ⟨fun h => ⟨h.length, h.known, h.numRequest⟩, rfl, rfl⟩
  · rename_i htype
    rw [if_neg htype, if_neg htype]
    exact ⟨id, rfl, rfl⟩

/-- A request leaves known types of connection, and the last integers that it has for state and error code. -/
theorem setWesProperties_spec (data : OcWesData) (rep : List RepNode) :
    (data.Connects NUM_CONNECT_TYPE → (setWesProperties data rep).Connects NUM_CONNECT_TYPE) ∧
      (setWesProperties data rep).state = ((ocRepGetInt rep.reverse (ascii "ps")).map castEnum).getD data.state ∧
      (setWesProperties data rep).lastErrCode =
        ((ocRepGetInt rep.reverse (ascii "lec")).map castEnum).getD data.lastErrCode := by
  refine ⟨?_, last_assigned OcWesData.state _ (fun data node rest => (setWesRecord_spec data node _).2.1) rep data,
    last_assigned OcWesData.lastErrCode _ (fun data node rest => (setWesRecord_spec data node _).2.2) rep data⟩
  induction rep generalizing data with
  | nil => exact id
  | cons node rest ih => exact fun h => ih _ ((setWesRecord_spec data node _).1 h)

end Request

/-! ## Every run -/

/-- A request to the collection, or a call of the application. -/
inductive WesCall
  | post (rep : List RepNode)
  | setState (esState : Nat)
  | setErrorCode (errCode : Nat)
  | reset

namespace OcWesData

variable (data : OcWesData)

def step : WesCall → OcWesData
  | .post rep => setWesProperties data rep
  | .setState esState => data.ocWesSetState esState
  | .setErrorCode errCode => data.ocWesSetErrorCode errCode
  | .reset => initial

/-- State and error code are values of their enumerations, and the types of connection are known ones. -/
structure Valid : Prop where
  state : OC_WES_INIT ≤ data.state ∧ data.state < OC_WES_EOF
  lastErrCode : OC_WES_NO_ERROR ≤ data.lastErrCode ∧ data.lastErrCode ≤ OC_WES_UNKNOWN_ERROR
  connects : data.Connects NUM_CONNECT_TYPE

end OcWesData

/-- The last integers that a request has for state and error code are, in 32 bits, values of the enumerations. -/
def WesCall.Suits : WesCall → Prop
  | .post rep => (∀ v ∈ ocRepGetInt rep.reverse (ascii "ps"), castEnum v < OC_WES_EOF) ∧
      ∀ v ∈ ocRepGetInt rep.reverse (ascii "lec"), castEnum v ≤ OC_WES_UNKNOWN_ERROR
  | _ => True

section Step

variable {data : OcWesData}

theorem valid_initial : OcWesData.initial.Valid :=
  ⟨by decide, by decide, connects_initial.mono (Nat.zero_le _)⟩

theorem getD_bounded (P : Nat → Prop) (found : Option Int) {old : Nat} (hold : P old) :
    P ((found.map castEnum).getD old) ↔ ∀ v ∈ found, P (castEnum v) := by
  cases found with
  | none => exact iff_of_true hold fun _ h => nomatch h
  | some v => exact ⟨fun h w hw => Option.some.inj hw ▸ h, fun h => h v rfl⟩

/-- A step leaves a valid state if and only if it is not a request with other integers. -/
theorem valid_step_iff (h : data.Valid) (call : WesCall) : (data.step call).Valid ↔ call.Suits := by
  cases call with
  | post rep =>
    obtain ⟨hconnects, hstate, hcode⟩ := setWesProperties_spec data rep
    have hps := getD_bounded (· < OC_WES_EOF) (ocRepGetInt rep.reverse (ascii "ps")) h.state.2
    have hlec := getD_bounded (· ≤ OC_WES_UNKNOWN_ERROR) (ocRepGetInt rep.reverse (ascii "lec")) h.lastErrCode.2
    rw [← hstate] at hps
    rw [← hcode] at hlec
    constructor
    · intro hvalid
      exact ⟨hps.1 hvalid.state.2, hlec.1 hvalid.lastErrCode.2⟩
    · rintro ⟨hpsOk, hlecOk⟩
      exact ⟨⟨Nat.zero_le _, hps.2 hpsOk⟩, ⟨Nat.zero_le _, hlec.2 hlecOk⟩, hconnects h.connects⟩
  | setState esState =>
    refine iff_of_true ?_ trivial
    show (data.ocWesSetState esState).Valid
    unfold OcWesData.ocWesSetState
    split
    · exact h
    · rename_i hrange
      exact ⟨⟨Nat.zero_le _, Nat.lt_of_not_le fun hge => hrange (.inr hge)⟩, h.lastErrCode,
        ⟨h.connects.length, h.connects.known, h.connects.numRequest⟩⟩
  | setErrorCode errCode =>
    refine iff_of_true ?_ trivial
    show (data.ocWesSetErrorCode errCode).Valid
    unfold OcWesData.ocWesSetErrorCode
    split
    · exact h
    · rename_i hrange
      exact ⟨h.state, ⟨Nat.zero_le _, Nat.le_of_not_lt fun hgt => hrange (.inr hgt)⟩,
        ⟨h.connects.length, h.connects.known, h.connects.numRequest⟩⟩
  | reset => exact iff_of_true valid_initial trivial

end Step

/-- The state of the collection stays valid in a run if and only if the last integers of its requests suit. -/
theorem easysetup_valid_iff (l : List WesCall) :
    (∀ l', l' <+: l → (runFrom OcWesData.step .initial l').Valid) ↔ ∀ call ∈ l, call.Suits := by
  have hkeep : ∀ (data : OcWesData) (call : WesCall), data.Valid → call.Suits → (data.step call).Valid :=
    fun _ call h hcall => (valid_step_iff h call).2 hcall
  have hbreak : ∀ (data : OcWesData) (call : WesCall), data.Valid → ¬call.Suits → ¬(data.step call).Valid :=
    fun _ call h hcall hvalid => hcall ((valid_step_iff h call).1 hvalid)
  exact (always_iff_guarded (fun _ h => h) hkeep hbreak valid_initial).trans guarded_iff_forall

/-- A request for the state 255, which `oc_wes_set_state` refuses. -/
theorem easysetup_eof : ¬∀ l : List WesCall, (runFrom OcWesData.step .initial l).Valid := fun h =>
  absurd (h [.post [.leaf (ascii "ps") (.int 255)]]).state.2 (by decide)

end SmartGarage.Easysetup
