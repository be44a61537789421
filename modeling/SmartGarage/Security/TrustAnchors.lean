/-
`oc_tls.c`: the trust anchors. The credentials with the usages `trustca` and `mfgtrustca` of all
devices are parsed into one mbedTLS chain, and `ca_certs` records which credential has been parsed
into which node of it.
-/
import SmartGarage.Security.State
import Mathlib.Logic.Function.Basic

namespace SmartGarage

/-- `(credusage & (OC_CREDUSAGE_MFG_TRUSTCA | OC_CREDUSAGE_TRUSTCA)) != 0` -/
def isAnchorUsage (usage : OcSecCredusage) : Bool := usage == .trustca || usage == .mfgTrustca

/-- `is_known_trust_anchor` -/
def isKnownTrustAnchor (st : SecState) (cred : OcSecCred) : Bool := st.caCerts.any (·.cred.addr == cred.addr)

/-- The nodes of the mbedTLS chain for newly parsed certificates: the first one of an empty chain is
the variable `trust_anchors` itself, the others are allocated. -/
def appendNodes (P : Platform) (n : Nat) (chain : List ChainNode) : List Crt → List ChainNode
  | [] => chain
  | c :: l =>
    let addr := if chain = [] then 0 else P.alloc n (0 :: chain.map (·.addr))
    appendNodes P (n + 1) (chain ++ [⟨addr, c⟩]) l

/-- `add_new_trust_anchor`: `mbedtls_x509_crt_parse` appends what it could parse also where it returns
a failure, and the entry points to the last node of the chain. -/
def addNewTrustAnchor (P : Platform) (st : SecState) (cred : OcSecCred) (device : Nat) : SecState :=
  let (ret, crts) := P.mbedtls.crtParse cred.publicdata.data
  let chain := appendNodes P st.draws st.trustAnchors crts
  let st := { st with trustAnchors := chain, draws := st.draws + crts.length }
  -- on a failure the nodes stay in the chain, without an entry
  if ret ≠ 0 then st
  else match chain.getLast? with
    | none => st
    | some node => { st with caCerts := st.caCerts ++ [⟨device, cred, node⟩] }

/-- The body of the loop of `oc_tls_refresh_certs` for trust anchors. -/
def refreshTrustAnchor (P : Platform) (device : Nat) (st : SecState) (cred : OcSecCred) : SecState :=
  if isAnchorUsage cred.credusage then
    if isKnownTrustAnchor st cred then st else addNewTrustAnchor P st cred device
  else st

/-- `oc_tls_refresh_trust_anchors` -/
def ocTlsRefreshTrustAnchors (P : Platform) (st : SecState) : SecState :=
  (List.range st.numDevices).foldl
    (fun st device => (st.creds device).creds.foldl (refreshTrustAnchor P device) st) st

/-- `oc_tls_remove_trust_anchor`: the whole chain is freed, whichever credential is removed. -/
def ocTlsRemoveTrustAnchor (P : Platform) (st : SecState) (cred : OcSecCred) : SecState :=
  ocTlsRefreshTrustAnchors P
    { st with caCerts := st.caCerts.eraseP (·.cred.addr == cred.addr), trustAnchors := [] }

/-! ## The refresh touches nothing else -/

/-- Only the trust anchors and the draws differ. -/
def OnlyAnchors (st st' : SecState) : Prop :=
  ∃ caCerts trustAnchors draws, st' = { st with caCerts := caCerts, trustAnchors := trustAnchors, draws := draws }

theorem OnlyAnchors.refl (st : SecState) : OnlyAnchors st st := ⟨_, _, _, rfl⟩

theorem OnlyAnchors.trans {a b c : SecState} (h₁ : OnlyAnchors a b) (h₂ : OnlyAnchors b c) : OnlyAnchors a c := by
  obtain ⟨_, _, _, rfl⟩ := h₁
  obtain ⟨_, _, _, rfl⟩ := h₂
  exact ⟨_, _, _, rfl⟩

theorem OnlyAnchors.foldl {α : Type} {f : SecState → α → SecState} (hf : ∀ st a, OnlyAnchors st (f st a)) :
    ∀ (l : List α) (st : SecState), OnlyAnchors st (l.foldl f st)
  | [], st => .refl st
  | a :: l, st => (hf st a).trans (OnlyAnchors.foldl hf l (f st a))

theorem refreshTrustAnchor_only (P : Platform) (device : Nat) (st : SecState) (cred : OcSecCred) :
    OnlyAnchors st (refreshTrustAnchor P device st cred) := by
  unfold refreshTrustAnchor addNewTrustAnchor
  split
  · split
    · exact .refl st
    · simp only
      split
      · exact ⟨_, _, _, rfl⟩
      · split <;> exact ⟨_, _, _, rfl⟩
  · exact .refl st

theorem ocTlsRefreshTrustAnchors_only (P : Platform) (st : SecState) :
    OnlyAnchors st (ocTlsRefreshTrustAnchors P st) :=
  OnlyAnchors.foldl (fun st device => OnlyAnchors.foldl (refreshTrustAnchor_only P device) (st.creds device).creds st) _ st

theorem ocTlsRemoveTrustAnchor_only (P : Platform) (st : SecState) (cred : OcSecCred) :
    OnlyAnchors st (ocTlsRemoveTrustAnchor P st cred) :=
  OnlyAnchors.trans ⟨_, _, _, rfl⟩ (ocTlsRefreshTrustAnchors_only P _)

end SmartGarage
