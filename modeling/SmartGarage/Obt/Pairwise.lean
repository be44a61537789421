/-
The provisioning of pairwise credentials over whole runs of the tool. A run of the sequence is read
off the trace: the requests sent for it, the callbacks that went on, the random values drawn and the
status reported. While a run lasts, the one request or `switch_dos` context that will call it back
says how much of the sequence has been done.
-/
import SmartGarage.Obt.Live

namespace SmartGarage

variable {l : List ObtAction}

/-! ## The log of a run -/

/-- What the trace says about one run of a provisioning sequence. -/
inductive RunEntry
  | started (uuid1 uuid2 : OcUuid)
  | accepted (cb : CredCb)
  | drew (r0 r1 r2 r3 : UInt32)
  | sent (device : OcUuid) (message : ObtMessage)
  | status (st : Int)
deriving DecidableEq

/-- The run that an action belongs to. -/
def ObtAction.run : ObtAction → Option Nat
  | started run _ _ | accepted run _ | drew run _ _ _ _ | status run _ => some run
  | sent run _ _ _ _ => run

/-- The action in the log of its run. -/
def ObtAction.entry : ObtAction → RunEntry
  | started _ uuid1 uuid2 => .started uuid1 uuid2
  | accepted _ cb => .accepted cb
  | drew _ r0 r1 r2 r3 => .drew r0 r1 r2 r3
  | sent _ _ device _ message => .sent device message
  | status _ st => .status st

/-- The log of a run. -/
def runLog (s : Obt) (run : Nat) : List RunEntry := (s.trace.filter (·.run == some run)).map (·.entry)

/-- The status callback is called. -/
def RunEntry.isStatus : RunEntry → Bool
  | status _ => true
  | _ => false

/-- The four values as `memcpy` puts them behind each other. -/
def keyOf (r0 r1 r2 r3 : UInt32) : List UInt8 := wordBytes r0 ++ wordBytes r1 ++ wordBytes r2 ++ wordBytes r3

/-- The log of a run that does what it should: both devices are switched to RFPRO, each is sent a
credential for the other with the key made of the four values drawn, and both are switched back. -/
def completeLog (uuid1 uuid2 : OcUuid) (r0 r1 r2 r3 : UInt32) : List RunEntry := [
  .started uuid1 uuid2,
  .sent uuid1 (.postDos .rfpro),
  .accepted .device1RFPRO,
  .sent uuid2 (.postDos .rfpro),
  .accepted .device2RFPRO,
  .drew r0 r1 r2 r3,
  .sent uuid1 (.postPsk uuid2 (keyOf r0 r1 r2 r3)),
  .accepted .device1Cred,
  .sent uuid2 (.postPsk uuid1 (keyOf r0 r1 r2 r3)),
  .accepted .device2Cred,
  .sent uuid1 (.postDos .rfnop),
  .accepted .device1RFNOP,
  .sent uuid2 (.postDos .rfnop),
  .accepted .device2RFNOP,
  .status 0]

/-- A run of the pairwise sequence calls the status callback at most once, and reports 0 only with a
complete log. -/
structure RunOk (log : List RunEntry) (uuid1 uuid2 : OcUuid) : Prop where
  once : (log.filter (·.isStatus)).length ≤ 1
  complete : .status 0 ∈ log → ∃ r0 r1 r2 r3, log = completeLog uuid1 uuid2 r0 r1 r2 r3

/-- A run of the pairwise sequence that reports 0 has sent the key and drawn the four values. -/
structure Gives (log : List RunEntry) (key : List UInt8) (r0 r1 r2 r3 : UInt32) : Prop where
  started : ∃ uuid1 uuid2, .started uuid1 uuid2 ∈ log
  status : .status 0 ∈ log
  sent : ∃ device uuid, .sent device (.postPsk uuid key) ∈ log
  drew : .drew r0 r1 r2 r3 ∈ log

/-- Every run started so far is in order, and runs that report 0 have the same key only where they drew
the same values. -/
structure PairwiseOk (s : Obt) : Prop where
  runs : ∀ run uuid1 uuid2, .started uuid1 uuid2 ∈ runLog s run → RunOk (runLog s run) uuid1 uuid2
  keys : ∀ run run' key r0 r1 r2 r3 r0' r1' r2' r3', Gives (runLog s run) key r0 r1 r2 r3 →
    Gives (runLog s run') key r0' r1' r2' r3' → [r0, r1, r2, r3] = [r0', r1', r2', r3']

theorem runLog_own {s s' : Obt} {run : Nat} (h : s'.trace = s.trace ++ l)
    (hl : ∀ a ∈ l, a.run = some run) : runLog s' run = runLog s run ++ l.map (·.entry) := by
  have hfilter : l.filter (·.run == some run) = l := List.filter_eq_self.2 fun a ha => by simp [hl a ha]
  unfold runLog
  rw [h, List.filter_append, List.map_append, hfilter]

theorem runLog_other {s s' : Obt} {run : Nat} (h : s'.trace = s.trace ++ l)
    (hl : ∀ a ∈ l, a.run ≠ some run) : runLog s' run = runLog s run := by
  have hfilter : l.filter (·.run == some run) = [] := List.filter_eq_nil_iff.2 fun a ha => by simpa using hl a ha
  unfold runLog
  rw [h, List.filter_append, hfilter, List.append_nil]

/-! ## What a run waits for -/

/-- How much of the complete log is there when the callback is awaited. -/
def CredCb.position : CredCb → Nat
  | device1RFPRO => 2
  | device2RFPRO => 4
  | device1Cred => 7
  | device2Cred => 9
  | device1RFNOP => 11
  | device2RFNOP => 13
  | _ => 0

/-- The response handlers of the provisioning sequences. -/
def ResponseHandler.isCred : ResponseHandler → Bool
  | cred _ => true
  | _ => false

/-- The run of `p` is about to be called back by `cb`: a callback of its own sequence, with the log up
to there and with the key that the log tells. -/
structure Progress (s : Obt) (p : OcCredprovCtx) (cb : CredCb) : Prop where
  sequence : cb.isPairwise = p.device2.isSome
  log : cb.isPairwise = true → ∃ r0 r1 r2 r3,
    runLog s p.run = (completeLog (s.blocks (p.device false)).uuid (s.blocks (p.device true)).uuid r0 r1 r2 r3).take
      cb.position ∧
    p.key = if cb.position < 7 then List.replicate 16 0 else keyOf r0 r1 r2 r3

/-- Nothing will call back the context at the address. -/
structure NoToken (s : Obt) (addr : Nat) : Prop where
  direct : ∀ q ∈ s.clientCbs, q.handler.isCred = true → q.userData ≠ addr
  switching : ∀ d ∈ s.switchDosCtxL, d.cb ≠ .hardResetCb → d.data ≠ addr

/-- A run that has not ended has reported nothing; a certificate run is not logged as a pairwise one. -/
structure Running (p : OcCredprovCtx) (log : List RunEntry) : Prop where
  silent : ∀ e ∈ log, e.isStatus = false
  certificate : p.device2 = none → ∀ uuid1 uuid2, .started uuid1 uuid2 ∉ log

/-- The contexts have their own addresses and runs; whatever calls back a context finds it with the
progress that fits; a context is called back by one request, or by the `switch_dos` context it points
to; the runs that have ended are in order. -/
structure PairInv (s : Obt) : Prop where
  dosAddr : (s.switchDosCtxL.map (·.addr)).Nodup
  addr : (s.credprovCtxL.map (·.addr)).Nodup
  run : (s.credprovCtxL.map (·.run)).Nodup
  begun : ∀ p ∈ s.credprovCtxL, p.run < s.nextRun
  unbegun : ∀ run, s.nextRun ≤ run → runLog s run = []
  direct : ∀ q ∈ s.clientCbs, ∀ cb, q.handler = .cred cb → (cb.isStatusCb = false ∧ q.multicast = false) ∧
    ∃ p ∈ s.credprovCtxL, p.addr = q.userData ∧ p.switchDos = none ∧ Progress s p cb
  directOnce : ∀ q ∈ s.clientCbs, ∀ q' ∈ s.clientCbs, q.handler.isCred = true → q'.handler.isCred = true →
    q.userData = q'.userData → q.id = q'.id
  switching : ∀ d ∈ s.switchDosCtxL, ∀ cb, d.cb = .cred cb → cb.isStatusCb = true ∧
    ∃ p ∈ s.credprovCtxL, p.addr = d.data ∧ p.switchDos = some d.addr ∧ Progress s p cb
  running : ∀ p ∈ s.credprovCtxL, Running p (runLog s p.run)
  ended : ∀ run, (∀ p ∈ s.credprovCtxL, p.run ≠ run) →
    ∀ uuid1 uuid2, .started uuid1 uuid2 ∈ runLog s run → RunOk (runLog s run) uuid1 uuid2

section Frame

variable {s s' : Obt}

/-- The context points to the device. -/
def OcCredprovCtx.pointsTo (p : OcCredprovCtx) (x : Nat) : Prop := p.device1 = x ∨ p.device2 = some x

theorem Progress.frame {p : OcCredprovCtx} {cb : CredCb} (h : Progress s p cb) (hlog : runLog s' p.run = runLog s p.run)
    (huuid : ∀ x, p.pointsTo x → (s'.blocks x).uuid = (s.blocks x).uuid) : Progress s' p cb := by
  refine ⟨h.sequence, fun hcb => ?_⟩
  obtain ⟨r0, r1, r2, r3, heq, hkey⟩ := h.log hcb
  obtain ⟨x, hx⟩ := Option.isSome_iff_exists.1 (h.sequence.symm.trans hcb)
  have hdevice2 : p.device true = x := by simp [OcCredprovCtx.device, hx]
  refine ⟨r0, r1, r2, r3, ?_, hkey⟩
  rw [hlog, heq, huuid (p.device false) (.inl rfl), huuid (p.device true) (.inr (hdevice2 ▸ hx))]

/-- Steps that leave the provisioning contexts, their logs and the UUIDs of their devices alone. Requests
and `switch_dos` contexts that call back may go, others may come. -/
theorem PairInv.frame (h : PairInv s) (hp : s'.credprovCtxL = s.credprovCtxL) (hr : s'.nextRun = s.nextRun)
    (hlog : ∀ run, runLog s' run = runLog s run)
    (huuid : ∀ p ∈ s.credprovCtxL, ∀ x, p.pointsTo x → (s'.blocks x).uuid = (s.blocks x).uuid)
    (hq : ∀ q ∈ s'.clientCbs, q.handler.isCred = true → q ∈ s.clientCbs)
    (hd : ∀ d ∈ s'.switchDosCtxL, d.cb ≠ .hardResetCb → d ∈ s.switchDosCtxL)
    (hda : (s'.switchDosCtxL.map (·.addr)).Nodup) : PairInv s' := by
  refine ⟨hda, hp ▸ h.addr, hp ▸ h.run, ?_, ?_, ?_, ?_, ?_, ?_, ?_⟩
  · rw [hp, hr]
    exact h.begun
  · intro run hrun
    rw [hlog, h.unbegun run (hr ▸ hrun)]
  · intro q hmem cb hcb
    obtain ⟨hm, p, hpm, haddr, hsw, hprog⟩ := h.direct q (hq q hmem (by rw [hcb]; rfl)) cb hcb
    exact ⟨hm, p, hp ▸ hpm, haddr, hsw, hprog.frame (hlog _) (huuid p hpm)⟩
  · intro q hmem q' hmem' hc hc'
    exact h.directOnce q (hq q hmem hc) q' (hq q' hmem' hc') hc hc'
  · intro d hmem cb hcb
    obtain ⟨hst, p, hpm, haddr, hsw, hprog⟩ := h.switching d (hd d hmem (by rw [hcb]; simp)) cb hcb
    exact ⟨hst, p, hp ▸ hpm, haddr, hsw, hprog.frame (hlog _) (huuid p hpm)⟩
  · rw [hp]
    intro p hpm
    rw [hlog]
    exact h.running p hpm
  · rw [hp]
    intro run hrun
    rw [hlog]
    exact h.ended run hrun

end Frame

/-! ## Calling back -/

section Tokens

variable {s : Obt} {p p₀ : OcCredprovCtx} {cb : CredCb}

theorem PairInv.eq_of_addr (h : PairInv s) {p p' : OcCredprovCtx} (hp : p ∈ s.credprovCtxL) (hp' : p' ∈ s.credprovCtxL)
    (ha : p.addr = p'.addr) : p = p' := List.inj_on_of_nodup_map h.addr hp hp' ha

theorem PairInv.eq_of_run (h : PairInv s) {p p' : OcCredprovCtx} (hp : p ∈ s.credprovCtxL) (hp' : p' ∈ s.credprovCtxL)
    (hr : p.run = p'.run) : p = p' := List.inj_on_of_nodup_map h.run hp hp' hr

theorem PairInv.dropRequest (h : PairInv s) (id : Nat) : PairInv (dropRequest s id) :=
  h.frame rfl rfl (fun _ => rfl) (fun _ _ _ _ => rfl) (fun _ hq _ => (List.mem_filter.1 hq).1) (fun _ hd _ => hd) h.dosAddr

theorem PairInv.freeSwitchDosState (h : PairInv s) (addr : Nat) : PairInv (freeSwitchDosState s addr) :=
  h.frame rfl rfl (fun _ => rfl) (fun _ _ _ _ => rfl) (fun _ hq _ => hq) (fun _ hd _ => List.mem_of_mem_eraseP hd)
    (h.dosAddr.sublist (List.eraseP_sublist.map _))

theorem PairInv.direct_noToken (h : PairInv s) {q : OcClientCb} (hq : q ∈ s.clientCbs) (hcb : q.handler = .cred cb)
    (hp : p ∈ s.credprovCtxL) (ha : p.addr = q.userData) (hsw : p.switchDos = none) :
    NoToken (SmartGarage.dropRequest s q.id) p.addr := by
  refine ⟨fun q' hq' hc' heq => ?_, fun d hd hc heq => ?_⟩
  · obtain ⟨hmem, hid⟩ := List.mem_filter.1 hq'
    have : q'.id = q.id := h.directOnce q' hmem q hq hc' (by rw [hcb]; rfl) (heq.trans ha)
    simp [this] at hid
  · cases hdcb : d.cb with
    | hardResetCb => exact hc hdcb
    | cred cb' =>
      obtain ⟨-, p', hp', ha', hsw', -⟩ := h.switching d hd cb' hdcb
      rw [h.eq_of_addr hp' hp (ha'.trans heq), hsw] at hsw'
      cases hsw'

theorem PairInv.switching_noToken (h : PairInv s) {addr : Nat} (hp : p ∈ s.credprovCtxL) (hsw : p.switchDos = some addr) :
    NoToken (SmartGarage.freeSwitchDosState s addr) p.addr := by
  refine ⟨fun q hq hc heq => ?_, fun d hd hc heq => ?_⟩
  · cases hqcb : q.handler with
    | cred cb' =>
      obtain ⟨-, p', hp', ha', hsw', -⟩ := h.direct q hq cb' hqcb
      rw [h.eq_of_addr hp' hp (ha'.trans heq), hsw] at hsw'
      cases hsw'
    | obtCheckOwned | getEndpoints | pstatPOSTDos1ToDos2 | otm => rw [hqcb] at hc; cases hc
  · obtain ⟨hmem, hne⟩ := (Search.mem_eraseP_key h.dosAddr).1 hd
    cases hdcb : d.cb with
    | hardResetCb => exact hc hdcb
    | cred cb' =>
      obtain ⟨-, p', hp', ha', hsw', -⟩ := h.switching d hmem cb' hdcb
      rw [h.eq_of_addr hp' hp (ha'.trans heq), hsw] at hsw'
      exact hne (Option.some.inj hsw').symm

/-- One run changes, and the others stay as they are. -/
structure Changes (s s' : Obt) (addr run : Nat) : Prop where
  clientCbs : s'.clientCbs = s.clientCbs
  switchDosCtxL : s'.switchDosCtxL = s.switchDosCtxL
  blocks : s'.blocks = s.blocks
  kept : ∀ x ∈ s.credprovCtxL, x.addr ≠ addr → x ∈ s'.credprovCtxL
  ctx : ∀ x ∈ s'.credprovCtxL, (x ∈ s.credprovCtxL ∧ x.addr ≠ addr) ∨ (x.run = run ∧ Running x (runLog s' run))
  addrs : (s'.credprovCtxL.map (·.addr)).Nodup
  runs : (s'.credprovCtxL.map (·.run)).Nodup
  log : ∀ r, r ≠ run → runLog s' r = runLog s r
  nextRun : s.nextRun ≤ s'.nextRun
  lt : run < s'.nextRun
  ended : (∀ x ∈ s'.credprovCtxL, x.run ≠ run) →
    ∀ uuid1 uuid2, .started uuid1 uuid2 ∈ runLog s' run → RunOk (runLog s' run) uuid1 uuid2

theorem PairInv.changes {s s' : Obt} {addr run : Nat} (h : PairInv s) (hno : NoToken s addr)
    (hctx : ∀ x ∈ s.credprovCtxL, x.addr = addr ↔ x.run = run) (hc : Changes s s' addr run) : PairInv s' := by
  have hprogress : ∀ {x cb}, x ∈ s.credprovCtxL → x.addr ≠ addr → Progress s x cb → Progress s' x cb := by
    intro x cb hx hne hprog
    exact hprog.frame (hc.log _ fun heq => hne ((hctx x hx).2 heq)) fun _ _ => by rw [hc.blocks]
  refine ⟨hc.switchDosCtxL ▸ h.dosAddr, hc.addrs, hc.runs, fun x hx => ?_, fun r hr => ?_, fun q hq cb hcb => ?_,
    hc.clientCbs ▸ h.directOnce, fun d hd cb hcb => ?_, fun x hx => ?_, fun r hend => ?_⟩
  · rcases hc.ctx x hx with ⟨hx, -⟩ | ⟨heq, -⟩
    · exact Nat.lt_of_lt_of_le (h.begun x hx) hc.nextRun
    · rw [heq]
      exact hc.lt
  · rw [hc.log r (Nat.ne_of_gt (Nat.lt_of_lt_of_le hc.lt hr))]
    exact h.unbegun r (Nat.le_trans hc.nextRun hr)
  · rw [hc.clientCbs] at hq
    obtain ⟨hst, p, hp, ha, hsw, hprog⟩ := h.direct q hq cb hcb
    have hne : p.addr ≠ addr := ha ▸ hno.direct q hq (by rw [hcb]; rfl)
    exact ⟨hst, p, hc.kept p hp hne, ha, hsw, hprogress hp hne hprog⟩
  · rw [hc.switchDosCtxL] at hd
    obtain ⟨hst, p, hp, ha, hsw, hprog⟩ := h.switching d hd cb hcb
    have hne : p.addr ≠ addr := ha ▸ hno.switching d hd (by rw [hcb]; simp)
    exact ⟨hst, p, hc.kept p hp hne, ha, hsw, hprogress hp hne hprog⟩
  · rcases hc.ctx x hx with ⟨hx, hne⟩ | ⟨heq, hrunning⟩
    · rw [hc.log _ fun heq => hne ((hctx x hx).2 heq)]
      exact h.running x hx
    · rw [heq]
      exact hrunning
  · by_cases hr : r = run
    · subst hr
      exact hc.ended hend
    · rw [hc.log r hr]
      refine h.ended r fun p hp heq => hend p (hc.kept p hp fun ha => hr ?_) heq
      exact heq.symm.trans ((hctx p hp).1 ha)

theorem PairInv.addr_iff_run (h : PairInv s) (hp : p ∈ s.credprovCtxL) :
    ∀ x ∈ s.credprovCtxL, x.addr = p.addr ↔ x.run = p.run := fun _ hx =>
  ⟨fun ha => by rw [h.eq_of_addr hx hp ha], fun hr => by rw [h.eq_of_run hx hp hr]⟩

theorem PairInv.record (h : PairInv s) (hp : p ∈ s.credprovCtxL) (hno : NoToken s p.addr)
    (hrun : ∀ a ∈ l, a.run = some p.run) (hstatus : ∀ a ∈ l, a.entry.isStatus = false)
    (hstarted : ∀ a ∈ l, ∀ uuid1 uuid2, a.entry ≠ .started uuid1 uuid2) :
    PairInv { s with trace := s.trace ++ l } := by
  have hlog : runLog { s with trace := s.trace ++ l } p.run = runLog s p.run ++ l.map (·.entry) := runLog_own rfl hrun
  have hrunning : Running p (runLog { s with trace := s.trace ++ l } p.run) := by
    rw [hlog]
    refine ⟨fun e he => ?_, fun hnone uuid1 uuid2 he => ?_⟩
    · rcases List.mem_append.1 he with he | he
      · exact (h.running p hp).silent e he
      · obtain ⟨a, ha, rfl⟩ := List.mem_map.1 he
        exact hstatus a ha
    · rcases List.mem_append.1 he with he | he
      · exact (h.running p hp).certificate hnone uuid1 uuid2 he
      · obtain ⟨a, ha, heq⟩ := List.mem_map.1 he
        exact hstarted a ha uuid1 uuid2 heq
  refine h.changes hno (h.addr_iff_run hp) ⟨rfl, rfl, rfl, fun _ hx _ => hx, fun x hx => ?_, h.addr, h.run, fun r hr => ?_,
    le_rfl, h.begun p hp, fun hend => absurd rfl (hend p hp)⟩
  · by_cases ha : x.addr = p.addr
    · rw [h.eq_of_addr hx hp ha]
      exact .inr ⟨rfl, hrunning⟩
    · exact .inl ⟨hx, ha⟩
  · exact runLog_other rfl fun a ha heq => hr (Option.some.inj (heq.symm.trans (hrun a ha)))

theorem mem_setCredprov (hp : p₀ ∈ s.credprovCtxL) (hsame : SameCtx p₀ p) {x : OcCredprovCtx} :
    x ∈ (setCredprov s p).credprovCtxL ↔ (x ∈ s.credprovCtxL ∧ x.addr ≠ p.addr) ∨ x = p := by
  simp only [setCredprov, List.mem_map]
  constructor
  · rintro ⟨y, hy, rfl⟩
    split
    · exact .inr rfl
    · rename_i hne
      exact .inl ⟨hy, hne⟩
  · rintro (⟨hx, hne⟩ | rfl)
    · exact ⟨x, hx, if_neg hne⟩
    · exact ⟨p₀, hp, if_pos hsame.addr.symm⟩

theorem PairInv.setCredprov (h : PairInv s) (hp : p₀ ∈ s.credprovCtxL) (hno : NoToken s p₀.addr)
    (hsame : SameCtx p₀ p) : PairInv (setCredprov s p) := by
  have hkeep : ∀ {f : OcCredprovCtx → Nat}, f p = f p₀ →
      (SmartGarage.setCredprov s p).credprovCtxL.map f = s.credprovCtxL.map f := by
    intro f hf
    simp only [SmartGarage.setCredprov, List.map_map]
    refine List.map_congr_left fun x hx => ?_
    simp only [Function.comp]
    split
    · rename_i heq
      rw [hf, h.eq_of_addr hx hp (heq.trans hsame.addr)]
    · rfl
  have hrunning : Running p (runLog s p₀.run) :=
    ⟨(h.running p₀ hp).silent, fun hnone => (h.running p₀ hp).certificate (hsame.device2 ▸ hnone)⟩
  refine h.changes hno (h.addr_iff_run hp) ⟨rfl, rfl, rfl, fun x hx hne => ?_, fun x hx => ?_, ?_, ?_, fun _ _ => rfl, le_rfl,
    h.begun p₀ hp, fun hend => ?_⟩
  · exact (mem_setCredprov hp hsame).2 (.inl ⟨hx, hsame.addr ▸ hne⟩)
  · rcases (mem_setCredprov hp hsame).1 hx with ⟨hx, hne⟩ | rfl
    · exact .inl ⟨hx, hsame.addr ▸ hne⟩
    · exact .inr ⟨hsame.run, hrunning⟩
  · rw [hkeep hsame.addr]
    exact h.addr
  · rw [hkeep hsame.run]
    exact h.run
  · exact absurd hsame.run (hend p ((mem_setCredprov hp hsame).2 (.inr rfl)))

theorem PairInv.awaitDirect (h : PairInv s) (hp : p ∈ s.credprovCtxL) (hno : NoToken s p.addr) (hsw : p.switchDos = none)
    (hst : cb.isStatusCb = false) (hprog : Progress s p cb) (id nextId : Nat) :
    PairInv { s with clientCbs := s.clientCbs ++ [⟨id, .cred cb, p.addr, false⟩], nextId := nextId } := by
  refine ⟨h.dosAddr, h.addr, h.run, h.begun, h.unbegun, fun q hq cb' hcb => ?_, fun q hq q' hq' hc hc' heq => ?_,
    fun d hd cb' hcb => ?_, h.running, h.ended⟩
  · rcases List.mem_append.1 hq with hq | hq
    · obtain ⟨hm, p', hp', ha, hsw', hprog'⟩ := h.direct q hq cb' hcb
      exact ⟨hm, p', hp', ha, hsw', hprog'.frame rfl fun _ _ => rfl⟩
    · rw [List.mem_singleton] at hq
      subst hq
      cases hcb
      exact ⟨⟨hst, rfl⟩, p, hp, rfl, hsw, hprog.frame rfl fun _ _ => rfl⟩
  · rcases List.mem_append.1 hq with hq | hq <;> rcases List.mem_append.1 hq' with hq' | hq'
    · exact h.directOnce q hq q' hq' hc hc' heq
    · rw [List.mem_singleton] at hq'
      subst hq'
      exact absurd heq (hno.direct q hq hc)
    · rw [List.mem_singleton] at hq
      subst hq
      exact absurd heq.symm (hno.direct q' hq' hc')
    · rw [List.mem_singleton] at hq hq'
      rw [hq, hq']
  · obtain ⟨hst, p', hp', ha, hsw', hprog'⟩ := h.switching d hd cb' hcb
    exact ⟨hst, p', hp', ha, hsw', hprog'.frame rfl fun _ _ => rfl⟩

theorem PairInv.awaitSwitch (h : PairInv s) (hp : p ∈ s.credprovCtxL) {d : OcSwitchDosCtx}
    (hd : d.addr ∉ s.switchDosCtxL.map (·.addr)) (hsw : p.switchDos = some d.addr) (hcb : d.cb = .cred cb)
    (hst : cb.isStatusCb = true) (hdata : d.data = p.addr) (hprog : Progress s p cb) (id nextId : Nat) :
    PairInv { s with
      clientCbs := s.clientCbs ++ [⟨id, .pstatPOSTDos1ToDos2, d.addr, false⟩]
      nextId := nextId
      switchDosCtxL := s.switchDosCtxL ++ [d] } := by
  have hold : ∀ q ∈ s.clientCbs ++ [(⟨id, .pstatPOSTDos1ToDos2, d.addr, false⟩ : OcClientCb)], q.handler.isCred = true →
      q ∈ s.clientCbs := by
    intro q hq hc
    rcases List.mem_append.1 hq with hq | hq
    · exact hq
    · rw [List.mem_singleton] at hq
      subst hq
      cases hc
  refine ⟨Search.nodup_append_new h.dosAddr hd, h.addr, h.run, h.begun, h.unbegun, fun q hq cb' hcb' => ?_,
    fun q hq q' hq' hc hc' => h.directOnce q (hold q hq hc) q' (hold q' hq' hc') hc hc', fun d' hd' cb' hcb' => ?_,
    h.running, h.ended⟩
  · obtain ⟨hm, p', hp', ha, hsw', hprog'⟩ := h.direct q (hold q hq (by rw [hcb']; rfl)) cb' hcb'
    exact ⟨hm, p', hp', ha, hsw', hprog'.frame rfl fun _ _ => rfl⟩
  · rcases List.mem_append.1 hd' with hd' | hd'
    · obtain ⟨hst, p', hp', ha, hsw', hprog'⟩ := h.switching d' hd' cb' hcb'
      exact ⟨hst, p', hp', ha, hsw', hprog'.frame rfl fun _ _ => rfl⟩
    · rw [List.mem_singleton] at hd'
      subst hd'
      obtain rfl := StatusCb.cred.inj (hcb.symm.trans hcb')
      exact ⟨hst, p, hp, hdata.symm, hsw, hprog.frame rfl fun _ _ => rfl⟩

theorem PairInv.freeCredprovState (h : PairInv s) (hp : p₀ ∈ s.credprovCtxL) (hno : NoToken s p₀.addr)
    (hsame : SameCtx p₀ p) (hsw : p.switchDos = none) {status : Int}
    (hok : ∀ uuid1 uuid2, .started uuid1 uuid2 ∈ runLog s p₀.run ++ [.status status] →
      RunOk (runLog s p₀.run ++ [.status status]) uuid1 uuid2) : PairInv (freeCredprovState s p status) := by
  unfold SmartGarage.freeCredprovState
  rw [hsw, hsame.addr, hsame.run]
  have hlog : ∀ s' : Obt, s'.trace = s.trace ++ [.status p₀.run status] →
      runLog s' p₀.run = runLog s p₀.run ++ [.status status] := fun _ hs' => runLog_own hs' (by simp [ObtAction.run])
  have hsub : (s.credprovCtxL.eraseP (·.addr == p₀.addr)).Sublist s.credprovCtxL := List.eraseP_sublist
  refine h.changes hno (h.addr_iff_run hp) ⟨rfl, rfl, rfl, fun x hx hne => ?_, fun x hx => ?_, h.addr.sublist (hsub.map _),
    h.run.sublist (hsub.map _), fun r hr => ?_, le_rfl, h.begun p₀ hp, fun _ => ?_⟩
  · exact (Search.mem_eraseP_key h.addr).2 ⟨hx, hne⟩
  · exact .inl ((Search.mem_eraseP_key h.addr).1 hx)
  · exact runLog_other (l := [.status p₀.run status]) rfl (by simpa [ObtAction.run] using hr.symm)
  · rw [hlog _ rfl]
    exact hok

theorem PairInv.noToken_new (h : PairInv s) {addr : Nat} (ha : addr ∉ s.credprovCtxL.map (·.addr)) : NoToken s addr := by
  refine ⟨fun q hq hc heq => ?_, fun d hd hc heq => ?_⟩
  · cases hqcb : q.handler with
    | cred cb =>
      obtain ⟨-, p, hp, hpa, -⟩ := h.direct q hq cb hqcb
      exact ha (List.mem_map.2 ⟨p, hp, hpa.trans heq⟩)
    | obtCheckOwned | getEndpoints | pstatPOSTDos1ToDos2 | otm => rw [hqcb] at hc; cases hc
  · cases hdcb : d.cb with
    | hardResetCb => exact hc hdcb
    | cred cb =>
      obtain ⟨-, p, hp, hpa, -⟩ := h.switching d hd cb hdcb
      exact ha (List.mem_map.2 ⟨p, hp, hpa.trans heq⟩)

/-- A run begins with the context `p` and the actions `l`. -/
def Obt.begin (s : Obt) (p : OcCredprovCtx) (l : List ObtAction) : Obt :=
  { s with nextRun := s.nextRun + 1, trace := s.trace ++ l, credprovCtxL := s.credprovCtxL ++ [p] }

theorem PairInv.begin_log (h : PairInv s) (hl : ∀ a ∈ l, a.run = some s.nextRun) :
    runLog (s.begin p l) s.nextRun = l.map (·.entry) := by
  rw [← List.nil_append (l.map _), ← h.unbegun s.nextRun le_rfl]
  exact runLog_own rfl hl

theorem PairInv.begin (h : PairInv s) (haddr : p.addr ∉ s.credprovCtxL.map (·.addr)) (hrun : p.run = s.nextRun)
    (hl : ∀ a ∈ l, a.run = some s.nextRun) (hstatus : ∀ a ∈ l, a.entry.isStatus = false)
    (hcert : p.device2 = none → ∀ a ∈ l, ∀ uuid1 uuid2, a.entry ≠ .started uuid1 uuid2) :
    PairInv (s.begin p l) := by
  have hlt : ∀ {x}, x ∈ s.credprovCtxL → x.run ≠ s.nextRun := fun hx => Nat.ne_of_lt (h.begun _ hx)
  have hrunning : Running p (runLog (s.begin p l) s.nextRun) := by
    rw [h.begin_log hl]
    refine ⟨fun e he => ?_, fun hnone uuid1 uuid2 he => ?_⟩
    · obtain ⟨a, ha, rfl⟩ := List.mem_map.1 he
      exact hstatus a ha
    · obtain ⟨a, ha, heq⟩ := List.mem_map.1 he
      exact hcert hnone a ha uuid1 uuid2 heq
  have hmem : p ∈ (s.begin p l).credprovCtxL := List.mem_append_right _ (List.mem_singleton_self p)
  refine h.changes (h.noToken_new haddr) (fun x hx => ?_) ⟨rfl, rfl, rfl, fun x hx _ => List.mem_append_left _ hx,
    fun x hx => ?_, Search.nodup_append_new h.addr haddr, Search.nodup_append_new h.run ?_, fun r hr => ?_,
    Nat.le_succ _, Nat.lt_succ_self _, fun hend => absurd hrun (hend p hmem)⟩
  · exact ⟨fun ha => absurd (List.mem_map.2 ⟨x, hx, ha⟩) haddr, fun hr => absurd hr (hlt hx)⟩
  · rcases List.mem_append.1 hx with hx | hx
    · exact .inl ⟨hx, fun ha => haddr (List.mem_map.2 ⟨x, hx, ha⟩)⟩
    · rw [List.mem_singleton] at hx
      exact .inr ⟨hx ▸ hrun, hx ▸ hrunning⟩
  · rintro hmem
    obtain ⟨x, hx, heq⟩ := List.mem_map.1 hmem
    exact hlt hx (heq.trans hrun)
  · exact runLog_other rfl fun a ha heq => hr (Option.some.inj (heq.symm.trans (hl a ha)))

theorem NoToken.same {s s' : Obt} {addr : Nat} (h : NoToken s addr) (hq : s'.clientCbs = s.clientCbs)
    (hd : s'.switchDosCtxL = s.switchDosCtxL) : NoToken s' addr := ⟨hq ▸ h.direct, hd ▸ h.switching⟩

end Tokens

/-! ## The steps of a run -/

theorem fillKey_zero {random : Nat → UInt32} (h1 : random 1 = 0) (h2 : random 2 = 0) (h3 : random 3 = 0) :
    fillKey random (List.replicate 16 0) = keyOf (random 0) (random 1) (random 2) (random 3) := by
  rw [h1, h2, h3]
  simp [fillKey, fillKeyFrom, keyOf, wordBytes, List.replicate]

/-- The callback that a step awaits, with what it sends. -/
def CredStep.awaits : CredStep → Option (CredCb × Bool × ObtMessage)
  | switchDos second dos cb => some (cb, second, .postDos dos)
  | request second message cb => some (cb, second, message)
  | done => none

/-- Status callbacks are given to `switch_dos`, response handlers to requests. -/
def CredStep.fits : CredStep → Prop
  | switchDos _ _ cb => cb.isStatusCb = true
  | request _ _ cb => cb.isStatusCb = false
  | done => True

theorem credStep_fits (s : Obt) (p : OcCredprovCtx) (cb : CredCb) : (credStep s p cb).fits := by
  cases cb <;> first | rfl | trivial

section Run

variable {env : ObtEnv} {s s' : Obt} {p p₀ : OcCredprovCtx} {cb cb' : CredCb}

theorem Progress.next (h : Progress s p₀ cb) (hsame : SameCtx p₀ p)
    (hkey : p.key = if cb = .device2RFPRO then fillKey env.random p₀.key else p₀.key)
    (hzero : cb = .device2RFPRO → env.random 1 = 0 ∧ env.random 2 = 0 ∧ env.random 3 = 0)
    {second : Bool} {message : ObtMessage} (hstep : (credStep s p cb).awaits = some (cb', second, message))
    (hblocks : s'.blocks = s.blocks)
    (hlog : runLog s' p₀.run = runLog s p₀.run ++
      ((acceptedActions env p₀.run cb).map (·.entry) ++ [.sent (s.blocks (p.device second)).uuid message])) :
    Progress s' p cb' := by
  have hdevice : p.device = p₀.device := by
    funext second
    simp only [OcCredprovCtx.device, hsame.device1, hsame.device2]
  have hseq := h.sequence
  rw [← hsame.device2] at hseq
  have hl := h.log
  rw [← hsame.run, ← hdevice] at hl
  rw [← hsame.run] at hlog
  cases cb with
  | device2RFNOP | deviceRFNOP => cases hstep
  | supportsCertCreds | deviceRFPRO | deviceRoot | deviceCSR | deviceCred | deviceAuthcryptRoles =>
    cases hstep
    exact ⟨hseq, fun hc => by cases hc⟩
  | device2RFPRO =>
    -- The values drawn here are those of the log from now on.
    cases hstep
    obtain ⟨r0, r1, r2, r3, heq, hk⟩ := hl rfl
    obtain ⟨h1, h2, h3⟩ := hzero rfl
    have hfilled : p.key = keyOf (env.random 0) (env.random 1) (env.random 2) (env.random 3) := by
      rw [hkey, if_pos rfl, hk]
      exact fillKey_zero h1 h2 h3
    refine ⟨hseq, fun _ => ⟨env.random 0, env.random 1, env.random 2, env.random 3, ?_, hfilled⟩⟩
    rw [hlog, heq, hblocks, hfilled]
    rfl
  | device1RFPRO | device1Cred | device2Cred | device1RFNOP =>
    cases hstep
    obtain ⟨r0, r1, r2, r3, heq, hk⟩ := hl rfl
    have hkept : p.key = _ := hkey.trans hk
    refine ⟨hseq, fun _ => ⟨r0, r1, r2, r3, ?_, hkept⟩⟩
    rw [hlog, heq, hblocks]
    first | rfl | (rw [hkept]; rfl)

theorem Running.failed {log : List RunEntry} (h : Running p log) (uuid1 uuid2 : OcUuid) :
    RunOk (log ++ [.status (-1)]) uuid1 uuid2 := by
  have hnone : log.filter (·.isStatus) = [] := List.filter_eq_nil_iff.2 fun e he => by simp [h.silent e he]
  refine ⟨by rw [List.filter_append, hnone]; decide, fun hmem => ?_⟩
  rcases List.mem_append.1 hmem with hmem | hmem
  · have := h.silent _ hmem
    cases this
  · cases List.mem_singleton.1 hmem

theorem credStep_done (h : credStep s p cb = .done) : cb = .device2RFNOP ∨ cb = .deviceRFNOP := by
  cases cb <;> simp_all [credStep]

theorem Progress.done (h : Progress s p cb) (hr : Running p (runLog s p.run)) (hcb : cb = .device2RFNOP ∨ cb = .deviceRFNOP)
    {uuid1 uuid2 : OcUuid} (hlog : .started uuid1 uuid2 ∈ runLog s p.run ++ [.accepted cb] ++ [.status 0]) :
    RunOk (runLog s p.run ++ [.accepted cb] ++ [.status 0]) uuid1 uuid2 := by
  rcases hcb with rfl | rfl
  · obtain ⟨r0, r1, r2, r3, heq, -⟩ := h.log rfl
    have hcomplete : runLog s p.run ++ [.accepted .device2RFNOP] ++ [.status 0] =
        completeLog (s.blocks (p.device false)).uuid (s.blocks (p.device true)).uuid r0 r1 r2 r3 := by
      rw [heq]
      rfl
    rw [hcomplete] at hlog ⊢
    obtain ⟨rfl, rfl⟩ : uuid1 = _ ∧ uuid2 = _ := by simpa [completeLog] using hlog
    exact ⟨by simp [completeLog, RunEntry.isStatus], fun _ => ⟨r0, r1, r2, r3, rfl⟩⟩
  · -- This is a certificate run.
    have hnone : p.device2 = none := by simpa [CredCb.isPairwise] using h.sequence
    simp only [List.mem_append, List.mem_singleton] at hlog
    rcases hlog with (hlog | hlog) | hlog
    · exact absurd hlog (hr.certificate hnone uuid1 uuid2)
    · cases hlog
    · cases hlog

theorem PairInv.performCredStep (h : PairInv s) (hp : p₀ ∈ s.credprovCtxL) (hno : NoToken s p₀.addr)
    (hsame : SameCtx p₀ p) (hsw : p.switchDos = none) {step : CredStep}
    (hnext : ∀ cb second message s', step.awaits = some (cb, second, message) →
      runLog s' p₀.run = runLog s p₀.run ++ [.sent (s.blocks (p.device second)).uuid message] →
      s'.blocks = s.blocks → Progress s' p cb)
    (hfits : step.fits)
    (hdone : step = .done → ∀ uuid1 uuid2, .started uuid1 uuid2 ∈ runLog s p₀.run ++ [.status 0] →
      RunOk (runLog s p₀.run ++ [.status 0]) uuid1 uuid2) : PairInv (performCredStep env s p step) := by
  have hfail : ∀ p', SameCtx p₀ p' → p'.switchDos = none → PairInv (SmartGarage.freeCredprovState s p' (-1)) :=
    fun p' hsame' hsw' => h.freeCredprovState hp hno hsame' hsw' fun u1 u2 _ => (h.running p₀ hp).failed u1 u2
  -- The state in which the request is recorded and nothing waits for it yet.
  have hrecord : ∀ handler second ep message, PairInv { s with
      trace := s.trace ++ [.sent (some p.run) handler (s.blocks (p.device second)).uuid ep message] } := fun _ _ _ _ =>
    h.record hp hno (by simp [ObtAction.run, hsame.run]) (by simp [ObtAction.entry, RunEntry.isStatus])
      (by simp [ObtAction.entry])
  have hlog : ∀ handler second ep message, runLog { s with
      trace := s.trace ++ [.sent (some p.run) handler (s.blocks (p.device second)).uuid ep message] } p₀.run =
        runLog s p₀.run ++ [.sent (s.blocks (p.device second)).uuid message] := fun handler second ep message =>
    runLog_own (l := [.sent (some p.run) handler (s.blocks (p.device second)).uuid ep message]) rfl
      (by simp [ObtAction.run, hsame.run])
  cases step with
  | switchDos second dos cb =>
    simp only [SmartGarage.performCredStep]
    split
    · rename_i d s' heq
      obtain ⟨hfresh, ep, -, rfl⟩ := switchDos_eq heq
      have hsame' : SameCtx p₀ { p with switchDos := some d } := ⟨hsame.addr, hsame.device1, hsame.device2, hsame.run⟩
      have hset := (hrecord .pstatPOSTDos1ToDos2 second ep (.postDos dos)).setCredprov hp (hno.same rfl rfl) hsame'
      have hprog := hnext cb second (.postDos dos) _ rfl (hlog .pstatPOSTDos1ToDos2 second ep (.postDos dos)) rfl
      exact hset.awaitSwitch (d := ⟨d, p.device second, dos, .cred cb, p.addr⟩)
        ((mem_setCredprov hp hsame').2 (.inr rfl)) hfresh rfl rfl hfits rfl ⟨hprog.sequence, hprog.log⟩
        s.nextId (s.nextId + 1)
    · exact hfail _ ⟨hsame.addr, hsame.device1, hsame.device2, hsame.run⟩ rfl
  | request second message cb =>
    simp only [SmartGarage.performCredStep]
    split
    · rename_i s' heq
      obtain rfl := doRequest_eq heq
      generalize (ocObtGetSecureEndpoint (s.blocks (p.device second)).endpoint).getD OcEndpoint.zero = ep
      have hset := (hrecord (.cred cb) second ep message).setCredprov hp (hno.same rfl rfl) hsame
      have hprog := hnext cb second message _ rfl (hlog (.cred cb) second ep message) rfl
      exact hset.awaitDirect ((mem_setCredprov hp hsame).2 (.inr rfl)) (hsame.addr ▸ hno.same rfl rfl) hsw hfits
        ⟨hprog.sequence, hprog.log⟩ s.nextId (s.nextId + 1)
    · exact hfail p hsame hsw
  | done => exact h.freeCredprovState hp hno hsame hsw (hdone rfl)

theorem acceptedActions_run : ∀ a ∈ acceptedActions env p.run cb, a.run = some p.run := by
  unfold acceptedActions
  split <;> simp [ObtAction.run]

theorem acceptedActions_entry : ∀ a ∈ acceptedActions env p.run cb,
    a.entry.isStatus = false ∧ ∀ uuid1 uuid2, a.entry ≠ .started uuid1 uuid2 := by
  unfold acceptedActions
  split <;> simp [ObtAction.entry, RunEntry.isStatus]

/-- A context that is called back as it should be goes on, or ends. -/
theorem PairInv.credCallback (h : PairInv s) (hp : p ∈ s.credprovCtxL) (hno : NoToken s p.addr) (hprog : Progress s p cb)
    (hsw : cb.isStatusCb = true ∨ p.switchDos = none)
    (accepted : Bool)
    (hzero : accepted = true → cb = .device2RFPRO → env.random 1 = 0 ∧ env.random 2 = 0 ∧ env.random 3 = 0)
    (payload : List OcRep) : PairInv (credCallback env s cb p.addr accepted payload) := by
  rcases credCallback_cases env s cb p.addr accepted payload with heq | ⟨p₁, hf, p', hsame, hsw', hres⟩
  · rw [heq]
    exact h
  · obtain rfl : p₁ = p :=
      h.eq_of_addr (List.mem_of_find?_eq_some hf) hp (by simpa using List.find?_some hf)
    have hnone : p'.switchDos = none := by
      rw [hsw']
      split
      · rfl
      · rename_i hcb
        exact hsw.resolve_left hcb
    rcases hres with heq | ⟨hacc, hkey, s₁, hs₁, -, heq⟩
    · rw [heq]
      exact h.freeCredprovState hp hno hsame hnone fun u1 u2 _ => (h.running p₁ hp).failed u1 u2
    · have hlog : runLog s₁ p₁.run = runLog s p₁.run ++ (acceptedActions env p₁.run cb).map (·.entry) := by
        rw [hs₁]
        exact runLog_own rfl acceptedActions_run
      have hstep : credStep s₁ p' cb = credStep s p' cb := by
        rw [hs₁]
        cases cb <;> rfl
      have hrec : PairInv s₁ := by
        rw [hs₁]
        exact h.record hp hno acceptedActions_run (fun a ha => (acceptedActions_entry a ha).1)
          fun a ha => (acceptedActions_entry a ha).2
      rw [heq, hstep]
      have hctx : p₁ ∈ s₁.credprovCtxL := by rw [hs₁]; exact hp
      have hno₁ : NoToken s₁ p₁.addr := by rw [hs₁]; exact hno.same rfl rfl
      refine hrec.performCredStep hctx hno₁ hsame hnone (fun cb' second message s' hnext hlog' hb => ?_)
        (credStep_fits s p' cb) fun hdone u1 u2 => ?_
      · refine hprog.next hsame hkey (hzero hacc) hnext (hb.trans (by rw [hs₁])) ?_
        rw [hlog', hlog, List.append_assoc, hs₁]
      · have hlast := credStep_done hdone
        have haccepted : (acceptedActions env p₁.run cb).map (·.entry) = [.accepted cb] := by
          rcases hlast with rfl | rfl <;> rfl
        rw [hlog, haccepted]
        exact hprog.done (h.running p₁ hp) hlast

end Run

/-! ## Starting a run -/

section Start

variable {env : ObtEnv} {s : Obt}

theorem PairInv.ocObtProvisionPairwiseCredentials (h : PairInv s) (uuid1 uuid2 : OcUuid) :
    PairInv (ocObtProvisionPairwiseCredentials env s uuid1 uuid2) := by
  unfold SmartGarage.ocObtProvisionPairwiseCredentials
  split
  · rename_i addr device1 device2 ha h1 h2
    split
    · simp only
      split
      · rename_i d s' heq
        obtain ⟨hfresh, ep, -, rfl⟩ := switchDos_eq heq
        have haddr := ocMembAlloc_notMem ha
        -- The context begins with the two actions in its log, and `switch_dos` will call it back.
        obtain ⟨p, hp⟩ : ∃ p, p = newCredprov s addr device1 (some device2) (some d) false := ⟨_, rfl⟩
        obtain ⟨l, hl⟩ : ∃ l, l = [ObtAction.started s.nextRun uuid1 uuid2,
          .sent (some s.nextRun) .pstatPOSTDos1ToDos2 (s.blocks device1).uuid ep (.postDos .rfpro)] := ⟨_, rfl⟩
        have hrun : ∀ a ∈ l, a.run = some s.nextRun := by simp [hl, ObtAction.run]
        have hbegun : PairInv (s.begin p l) := h.begin (by rw [hp]; exact haddr) (by rw [hp]; rfl) hrun
          (by simp [hl, ObtAction.entry, RunEntry.isStatus]) (by simp [hp, newCredprov])
        have hprog : Progress (s.begin p l) p .device1RFPRO := by
          have hlog : runLog (s.begin p l) s.nextRun = _ := h.begin_log hrun
          subst hp
          refine ⟨rfl, fun _ => ⟨0, 0, 0, 0, hlog.trans ?_, rfl⟩⟩
          rw [hl, ← (getDeviceHandle_mem h1).2, ← (getDeviceHandle_mem h2).2]
          rfl
        have hwait := hbegun.awaitSwitch (d := ⟨d, device1, .rfpro, .cred .device1RFPRO, addr⟩)
          (List.mem_append_right _ (List.mem_singleton_self p)) hfresh (by rw [hp]; rfl) rfl rfl (by rw [hp]; rfl) hprog
          s.nextId (s.nextId + 1)
        simpa only [Obt.begin, hl, hp, List.append_assoc, List.cons_append, List.nil_append] using hwait
      · exact h
    · exact h
  · exact h

theorem PairInv.ocObtProvisionCertificate (h : PairInv s) (roles : Bool) (uuid : OcUuid) :
    PairInv (ocObtProvisionCertificate env s roles uuid) := by
  unfold SmartGarage.ocObtProvisionCertificate
  split
  · rename_i addr device ha hdev
    split
    · simp only
      split
      · rename_i s' heq
        have heq' := doRequest_eq heq
        subst heq'
        have haddr := ocMembAlloc_notMem ha
        generalize (ocObtGetSecureEndpoint (s.blocks device).endpoint).getD OcEndpoint.zero = ep
        have hbegun := h.begin (p := newCredprov s addr device none none roles)
          (l := [.sent (some s.nextRun) (.cred .supportsCertCreds) (s.blocks device).uuid ep .getDoxm])
          haddr rfl (by simp [ObtAction.run]) (by simp [ObtAction.entry, RunEntry.isStatus]) (by simp [ObtAction.entry])
        exact hbegun.awaitDirect (List.mem_append_right _ (List.mem_singleton_self _))
          ((h.noToken_new haddr).same rfl rfl) rfl rfl ⟨rfl, fun hc => by cases hc⟩ s.nextId (s.nextId + 1)
      · exact h
    · exact h
  · exact h

end Start

/-! ## The other steps -/

section Others

variable {env : ObtEnv} {s s' : Obt}

theorem PairInv.doRequest (h : PairInv s) {device : Nat} {endpoint : Option OcEndpoint} {message : ObtMessage}
    {handler : ResponseHandler} {userData : Nat} (hh : handler.isCred = false)
    (hr : doRequest env s none device endpoint message handler userData = some s') : PairInv s' := by
  rw [doRequest_eq hr]
  refine h.frame rfl rfl (fun _ => runLog_other rfl (by simp [ObtAction.run])) (fun _ _ _ _ => rfl) (fun q hq hc => ?_)
    (fun _ hd _ => hd) h.dosAddr
  rcases List.mem_append.1 hq with hq | hq
  · exact hq
  · rw [List.mem_singleton] at hq
    subst hq
    rw [hh] at hc
    cases hc

theorem PairInv.discoverDevices (h : PairInv s) (env : ObtEnv) {handler : ResponseHandler} (hh : handler.isCred = false) :
    PairInv (discoverDevices env s handler) := by
  unfold SmartGarage.discoverDevices
  split
  · refine h.frame rfl rfl (fun _ => rfl) (fun _ _ _ _ => rfl) (fun q hq hc => ?_) (fun _ hd _ => hd) h.dosAddr
    rcases List.mem_append.1 hq with hq | hq
    · exact hq
    · rw [List.mem_singleton] at hq
      subst hq
      rw [hh] at hc
      cases hc
  · exact h

/-- The content of a block changes, but not the UUID of a device in use. -/
theorem PairInv.setBlock (h : PairInv s) {x : Nat} {b : OcDevice}
    (hb : (∃ p ∈ s.credprovCtxL, p.pointsTo x) → b.uuid = (s.blocks x).uuid) : PairInv (s.setBlock x b) := by
  refine h.frame rfl rfl (fun _ => rfl) (fun p hp y hy => ?_) (fun _ hq _ => hq) (fun _ hd _ => hd) h.dosAddr
  by_cases hyx : y = x
  · subst hyx
    simp only [Obt.setBlock, Function.update_self]
    exact hb ⟨p, hp, hy⟩
  · simp only [Obt.setBlock, Function.update_of_ne hyx]

theorem PairInv.cacheNewDevice (h : PairInv s) (hlive : DevicesLive s) {list : DeviceList} {uuid : OcUuid}
    {ep : OcEndpoint} {o : Option Nat} (hc : cacheNewDevice env s list uuid ep = (o, s')) : PairInv s' := by
  -- A block that is handed out is in no list, so no context points to it.
  have hfresh : ∀ {x}, x ∉ s.devices → x ∉ s.cache → ∀ p ∈ s.credprovCtxL, ¬p.pointsTo x := fun hnd hnc p hp hx =>
    absurd (hlive _ (.credprov p hp hx)) (not_or.2 ⟨hnd, hnc⟩)
  rcases cacheNewDevice_cases hc with ⟨-, rfl⟩ | ⟨x, ⟨-, hu, -, rfl⟩ | ⟨hnd, hnc, -, rfl⟩ | ⟨-, -, -, rfl⟩ |
    ⟨hnd, hnc, -, rfl⟩⟩
  · exact h
  · exact h.setBlock fun _ => hu.symm
  · have hadd : PairInv (s.addDevice x list) := by
      cases list <;> exact h.frame rfl rfl (fun _ => rfl) (fun _ _ _ _ => rfl) (fun _ hq _ => hq) (fun _ hd _ => hd) h.dosAddr
    refine hadd.setBlock ?_
    rintro ⟨p, hp, hx⟩
    have hp' : p ∈ s.credprovCtxL := by cases list <;> exact hp
    exact absurd hx (hfresh hnd hnc p hp')
  · cases list <;> exact h.frame rfl rfl (fun _ => rfl) (fun _ _ _ _ => rfl) (fun _ hq _ => hq) (fun _ hd _ => hd) h.dosAddr
  · exact h.setBlock fun ⟨p, hp, hx⟩ => absurd hx (hfresh hnd hnc p hp)

theorem PairInv.getEndpoints {P : ObtPlatform} (h : PairInv s) (hlive : DevicesLive s) {q : OcClientCb}
    (hq : q.handler = .getEndpoints) (r : OcClientResponse) : PairInv (getEndpoints P env s q r) := by
  obtain ⟨di, -, heq | ⟨-, -, -, heq⟩ | ⟨o, s₁, -, hc, hres⟩⟩ := getEndpoints_cases P env s hq r
  · rw [heq]
    exact h
  · rw [heq]
    exact h.setBlock fun _ => rfl
  · have hs₁ := h.cacheNewDevice hlive hc
    rcases hres with ⟨-, heq⟩ | ⟨x, -, heq⟩
    · rw [heq]
      exact hs₁
    · rw [heq]
      exact hs₁.setBlock fun _ => rfl

theorem PairInv.obtCheckOwned {P : ObtPlatform} (h : PairInv s) (hlive : DevicesLive s) {q : OcClientCb}
    (hq : q.handler = .obtCheckOwned) (r : OcClientResponse) : PairInv (obtCheckOwned P env s r) := by
  rcases obtCheckOwned_cases P env s hq r with heq | ⟨uuid, o, s₁, -, hc, hres⟩
  · rw [heq]
    exact h
  · have hs₁ := h.cacheNewDevice hlive hc
    rcases hres with heq | ⟨x, -, hr⟩
    · rw [heq]
      exact hs₁
    · exact hs₁.doRequest rfl hr

theorem PairInv.freeOtmState (h : PairInv s) (o : OcOtmCtx) (status : Int) (otm : OcObtOtm) :
    PairInv (freeOtmState s o status otm) := by
  unfold SmartGarage.freeOtmState
  simp only
  split
  · exact h.frame rfl rfl (fun _ => rfl) (fun _ _ _ _ => rfl) (fun _ hq _ => hq) (fun _ hd _ => hd) h.dosAddr
  · split <;>
    exact h.frame rfl rfl (fun _ => rfl) (fun _ _ _ _ => rfl) (fun _ hq _ => hq) (fun _ hd _ => hd) h.dosAddr

theorem PairInv.performOtm (h : PairInv s) (otm : OcObtOtm) (uuid : OcUuid) : PairInv (performOtm env s otm uuid) := by
  unfold SmartGarage.performOtm
  split
  · exact h
  · rename_i o request _
    have hnew : PairInv { s with otmCtxL := s.otmCtxL ++ [o] } :=
      h.frame rfl rfl (fun _ => rfl) (fun _ _ _ _ => rfl) (fun _ hq _ => hq) (fun _ hd _ => hd) h.dosAddr
    simp only
    cases hsend : sendOtmRequest env { s with otmCtxL := s.otmCtxL ++ [o] } o otm 0 request with
    | some s₁ => exact hnew.doRequest rfl hsend
    | none => exact hnew.freeOtmState o (-1) otm

theorem PairInv.otmHandler (h : PairInv s) {otm : OcObtOtm} {i userData : Nat} {r : OcClientResponse}
    (hg : ∀ o ∈ s.otmCtxL.find? (·.addr == userData), otmRenames env otm i r = true →
      ∀ p ∈ s.credprovCtxL, ¬p.pointsTo o.device) : PairInv (otmHandler env s otm i userData r) := by
  cases ho : s.otmCtxL.find? (·.addr == userData) with
  | none =>
    unfold SmartGarage.otmHandler
    rw [ho]
    exact h
  | some o =>
    obtain ⟨s₁, hs₁, hres⟩ := otmHandler_cases env otm i r ho
    have hinv : PairInv s₁ := by
      rcases hs₁ with rfl | ⟨hrename, rfl⟩
      · exact h
      · exact h.setBlock fun ⟨p, hp, hx⟩ => absurd hx (hg o ho hrename p hp)
    rcases hres with ⟨-, heq⟩ | ⟨-, -, -, -, heq⟩ | ⟨request, s₂, -, hsend, heq⟩
    · rw [heq]
      exact hinv.freeOtmState o (-1) otm
    · rw [heq]
      exact h.freeOtmState o 0 otm
    · rw [heq]
      exact hinv.doRequest rfl hsend

theorem PairInv.ocObtDeviceHardReset (h : PairInv s) (uuid : OcUuid) : PairInv (ocObtDeviceHardReset env s uuid) := by
  unfold SmartGarage.ocObtDeviceHardReset
  split
  · rename_i addr device ha hdev
    split
    · split
      · rename_i d s' heq
        obtain ⟨hfresh, ep, -, rfl⟩ := switchDos_eq heq
        refine h.frame rfl rfl (fun _ => runLog_other rfl (by simp [ObtAction.run])) (fun _ _ _ _ => rfl) (fun q hq hc => ?_)
          (fun x hx hc => ?_) (Search.nodup_append_new h.dosAddr hfresh)
        · rcases List.mem_append.1 hq with hq | hq
          · exact hq
          · rw [List.mem_singleton] at hq
            subst hq
            cases hc
        · rcases List.mem_append.1 hx with hx | hx
          · exact hx
          · rw [List.mem_singleton] at hx
            subst hx
            exact absurd rfl hc
      · exact h
    · exact h
  · exact h

theorem PairInv.pstatPOST (h : PairInv s) {userData : Nat} (r : OcClientResponse)
    (hg : ∀ d ∈ s.switchDosCtxL.find? (·.addr == userData), d.cb = .cred .device2RFPRO → switched r = true →
      env.random 1 = 0 ∧ env.random 2 = 0 ∧ env.random 3 = 0) : PairInv (pstatPOSTDos1ToDos2 env s userData r) := by
  unfold SmartGarage.pstatPOSTDos1ToDos2
  cases hd : s.switchDosCtxL.find? (·.addr == userData) with
  | none => exact h
  | some d =>
    have hfree := h.freeSwitchDosState d.addr
    simp only
    split
    · unfold hardResetCb
      split
      · exact hfree
      · exact hfree.frame rfl rfl (fun _ => rfl) (fun _ _ _ _ => rfl) (fun _ hq _ => hq) (fun _ hd _ => hd) hfree.dosAddr
    · rename_i cb hcb
      obtain ⟨hst, p, hp, ha, hsw, hprog⟩ := h.switching d (List.mem_of_find?_eq_some hd) cb hcb
      rw [← ha]
      exact hfree.credCallback hp (h.switching_noToken hp hsw) (hprog.frame rfl fun _ _ => rfl) (.inl hst) _
        (fun hacc heq => hg d hd (heq ▸ hcb) hacc) _

end Others

/-! ## Whole runs -/

/-- What the responses must not do: a credential request is not answered with an Observe option, which
would keep it waiting; the last three values drawn for a key are zero; no transfer renames a device
that is being provisioned. -/
def pairResponse (env : ObtEnv) (s : Obt) (q : OcClientCb) (r : OcClientResponse) : Prop :=
  match q.handler with
  | .cred _ => r.observe = false
  | .pstatPOSTDos1ToDos2 => ∀ d ∈ s.switchDosCtxL.find? (·.addr == q.userData), d.cb = .cred .device2RFPRO →
      switched r = true → env.random 1 = 0 ∧ env.random 2 = 0 ∧ env.random 3 = 0
  | .otm otm i => ∀ o ∈ s.otmCtxL.find? (·.addr == q.userData), otmRenames env otm i r = true →
      ∀ p ∈ s.credprovCtxL, ¬p.pointsTo o.device
  | _ => True

/-- No device is freed while something else holds it, and responses are as above. -/
def pairGuard (P : ObtPlatform) (s : Obt) (e : ObtEvent × ObtEnv) : Prop :=
  freeGuard P s e ∧
  match e.1 with
  | .response id r => ∀ q ∈ s.clientCbs.find? (·.id == id), pairResponse e.2 (answered s q r) q r
  | _ => True

theorem PairInv.step {P : ObtPlatform} {s : Obt} (hlive : DevicesLive s) (h : PairInv s) (e : ObtEvent × ObtEnv)
    (hg : pairGuard P s e) : PairInv (obtStep P s e) := by
  obtain ⟨e, env⟩ := e
  obtain ⟨-, hpair⟩ := hg
  cases e with
  | discoverUnownedDevices => exact h.discoverDevices env rfl
  | discoverOwnedDevices => exact h.discoverDevices env rfl
  | performOtm otm uuid => exact h.performOtm otm uuid
  | deviceHardReset uuid => exact h.ocObtDeviceHardReset uuid
  | provisionPairwiseCredentials uuid1 uuid2 => exact h.ocObtProvisionPairwiseCredentials uuid1 uuid2
  | provisionCertificate roles uuid => exact h.ocObtProvisionCertificate roles uuid
  | timeout id => exact h.dropRequest id
  | response id r =>
    simp only [obtStep]
    cases hq : s.clientCbs.find? (·.id == id) with
    | none => exact h
    | some q =>
      have hmem := List.mem_of_find?_eq_some hq
      have hguard := hpair q hq
      have hs : PairInv (answered s q r) := answered_of_dropRequest h (h.dropRequest q.id)
      have hlive' : DevicesLive (answered s q r) := answered_of_dropRequest hlive (hlive.leaves (dropRequest_leaves s q.id))
      simp only
      unfold handleResponse
      unfold pairResponse at hguard
      split
      · rename_i hh
        exact hs.obtCheckOwned hlive' hh r
      · rename_i hh
        exact hs.getEndpoints hlive' hh r
      · rename_i hh
        rw [hh] at hguard
        exact hs.pstatPOST r hguard
      · rename_i cb hh
        rw [hh] at hguard
        -- a credential callback finds the context that its request was made in
        obtain ⟨⟨hst, hm⟩, p, hp, ha, hsw, hprog⟩ := h.direct q hmem cb hh
        have hobserve : r.observe = false := hguard
        have hdrop : answered s q r = SmartGarage.dropRequest s q.id := by simp [answered, hobserve, hm]
        rw [hdrop] at hs ⊢
        rw [← ha]
        refine hs.credCallback hp (h.direct_noToken hmem hh hp ha hsw) (hprog.frame rfl fun _ _ => rfl) (.inr hsw) _
          (fun _ heq => ?_) _
        rw [heq] at hst
        cases hst
      · rename_i hh
        rw [hh] at hguard
        exact hs.otmHandler hguard

/-! ### Keys -/

theorem wordBytes_injective {r r' : UInt32} (h : wordBytes r = wordBytes r') : r = r' := by
  simp only [wordBytes, List.cons.injEq, and_true, ← UInt8.toNat_inj, UInt32.toNat_toUInt8, UInt32.toNat_shiftRight,
    Nat.shiftRight_eq_div_pow, UInt32.reduceToNat, Nat.reduceMod, Nat.reducePow] at h
  obtain ⟨h0, h1, h2, h3⟩ := h
  have hr := r.toNat_lt
  have hr' := r'.toNat_lt
  rw [← UInt32.toNat_inj]
  omega

/-- Different values give different keys. -/
theorem keyOf_injective {r0 r1 r2 r3 r0' r1' r2' r3' : UInt32} (h : keyOf r0 r1 r2 r3 = keyOf r0' r1' r2' r3') :
    [r0, r1, r2, r3] = [r0', r1', r2', r3'] := by
  have hlen : ∀ r : UInt32, (wordBytes r).length = 4 := fun _ => rfl
  unfold keyOf at h
  obtain ⟨h012, h3⟩ := List.append_inj' h (by rw [hlen, hlen])
  obtain ⟨h01, h2⟩ := List.append_inj' h012 (by rw [hlen, hlen])
  obtain ⟨h0, h1⟩ := List.append_inj' h01 (by rw [hlen, hlen])
  rw [wordBytes_injective h0, wordBytes_injective h1, wordBytes_injective h2, wordBytes_injective h3]

theorem Gives.key_eq {log : List RunEntry} {key : List UInt8} {r0 r1 r2 r3 : UInt32} (h : Gives log key r0 r1 r2 r3)
    (hok : ∀ uuid1 uuid2, .started uuid1 uuid2 ∈ log → RunOk log uuid1 uuid2) : key = keyOf r0 r1 r2 r3 := by
  obtain ⟨uuid1, uuid2, hstarted⟩ := h.started
  obtain ⟨s0, s1, s2, s3, rfl⟩ := (hok uuid1 uuid2 hstarted).complete h.status
  obtain ⟨rfl, rfl, rfl, rfl⟩ : r0 = s0 ∧ r1 = s1 ∧ r2 = s2 ∧ r3 = s3 := by simpa [completeLog] using h.drew
  obtain ⟨device, uuid, hsent⟩ := h.sent
  have : (device = uuid1 ∧ uuid = uuid2 ∧ key = keyOf r0 r1 r2 r3) ∨ (device = uuid2 ∧ uuid = uuid1 ∧ key = keyOf r0 r1 r2 r3) := by
    simpa [completeLog] using hsent
  exact this.elim (·.2.2) (·.2.2)

theorem PairInv.pairwiseOk {s : Obt} (h : PairInv s) : PairwiseOk s := by
  have hruns : ∀ run uuid1 uuid2, .started uuid1 uuid2 ∈ runLog s run → RunOk (runLog s run) uuid1 uuid2 := by
    intro run uuid1 uuid2 hstarted
    by_cases hlive : ∃ p ∈ s.credprovCtxL, p.run = run
    · obtain ⟨p, hp, rfl⟩ := hlive
      have hsilent := (h.running p hp).silent
      refine ⟨?_, fun hmem => ?_⟩
      · rw [List.filter_eq_nil_iff.2 fun e he => by simp [hsilent e he]]
        exact Nat.zero_le _
      · have := hsilent _ hmem
        cases this
    · exact h.ended run (fun p hp heq => hlive ⟨p, hp, heq⟩) uuid1 uuid2 hstarted
  refine ⟨hruns, fun run run' key r0 r1 r2 r3 r0' r1' r2' r3' h h' => keyOf_injective ?_⟩
  exact (h.key_eq (hruns run)).symm.trans (h'.key_eq (hruns run'))

/-- In every run of the tool in which the last three values drawn for each key are zero, no credential
request is answered with an Observe option, no device is freed while something else holds it and none is
renamed while it is provisioned, a pairwise sequence that reports 0 has provisioned both devices with the
key made of the values drawn, and none reports twice. -/
theorem obt_pairwiseOk (P : ObtPlatform) (events : List (ObtEvent × ObtEnv))
    (hg : Runs.Guarded (obtStep P) (pairGuard P) Obt.init events) :
    PairwiseOk (Runs.runFrom (obtStep P) Obt.init events) := by
  have hinit : PairInv Obt.init :=
    ⟨List.nodup_nil, List.nodup_nil, List.nodup_nil, fun _ h => (List.not_mem_nil h).elim, fun _ _ => rfl,
      fun _ h => (List.not_mem_nil h).elim, fun _ h => (List.not_mem_nil h).elim, fun _ h => (List.not_mem_nil h).elim,
      fun _ h => (List.not_mem_nil h).elim, fun _ _ _ _ h => (List.not_mem_nil h).elim⟩
  have hinv : DevicesLive (Runs.runFrom (obtStep P) Obt.init events) ∧ PairInv (Runs.runFrom (obtStep P) Obt.init events) :=
    @Runs.run_invariant _ _ _ _ (fun s => DevicesLive s ∧ PairInv s)
      (fun s e h hstep => ⟨h.1.step e hstep.1, h.2.step h.1 e hstep⟩) events Obt.init ⟨.init, hinit⟩ hg
  exact hinv.2.pairwiseOk

/-! ## The key of a run -/

instance (p : OcCredprovCtx) (x : Nat) : Decidable (p.pointsTo x) := inferInstanceAs (Decidable (_ ∨ _))

instance (env : ObtEnv) (s : Obt) (r : OcClientResponse) : (q : OcClientCb) → Decidable (pairResponse env s q r)
  | ⟨_, .cred _, _, _⟩ => inferInstanceAs (Decidable (r.observe = false))
  | ⟨_, .pstatPOSTDos1ToDos2, userData, _⟩ => inferInstanceAs (Decidable
      (∀ d ∈ s.switchDosCtxL.find? (·.addr == userData), d.cb = .cred .device2RFPRO → switched r = true →
        env.random 1 = 0 ∧ env.random 2 = 0 ∧ env.random 3 = 0))
  | ⟨_, .otm otm i, userData, _⟩ => inferInstanceAs (Decidable
      (∀ o ∈ s.otmCtxL.find? (·.addr == userData), otmRenames env otm i r = true →
        ∀ p ∈ s.credprovCtxL, ¬p.pointsTo o.device))
  | ⟨_, .obtCheckOwned, _, _⟩ | ⟨_, .getEndpoints, _, _⟩ => .isTrue trivial

instance (P : ObtPlatform) (s : Obt) : (e : ObtEvent × ObtEnv) → Decidable (pairGuard P s e)
  | (.response id r, env) => inferInstanceAs (Decidable (freeGuard P s (.response id r, env) ∧
      ∀ q ∈ s.clientCbs.find? (·.id == id), pairResponse env (answered s q r) q r))
  | (.performOtm otm uuid, env) => inferInstanceAs (Decidable (freeGuard P s (.performOtm otm uuid, env) ∧ True))
  | (.discoverUnownedDevices, _) | (.discoverOwnedDevices, _) | (.deviceHardReset _, _)
  | (.provisionPairwiseCredentials _ _, _) | (.provisionCertificate _ _, _) | (.timeout _, _) =>
    .isTrue ⟨trivial, trivial⟩

/-- The UUID of the second device. -/
def otherUuid : OcUuid := ocStrToUuid (ascii "22222222-2222-2222-2222-222222222222") OcUuid.nil

/-- Two owned devices are discovered and provisioned, with the given values of `oc_random_value`; every
request is answered with success. -/
def pairRun (random : Nat → UInt32) : List (ObtEvent × ObtEnv) :=
  let env (device : Nat) : ObtEnv := { goodEnv 1 1 device with random := random }
  let ok (id : Nat) : ObtEvent × ObtEnv := (.response id (bareResponse .ok), env 1)
  [(.discoverOwnedDevices, env 1),
    (.response 0 (ownedResponse "11111111-1111-1111-1111-111111111111" "coaps://[::1]:5684"), env 1),
    (.response 0 (ownedResponse "22222222-2222-2222-2222-222222222222" "coaps://[::1]:5685"), env 2),
    (.provisionPairwiseCredentials sampleUuid otherUuid, env 1), ok 1, ok 2, ok 3, ok 4, ok 5, ok 6]

/-- One value, and zeros behind it: the run reports 0 with a complete log. -/
theorem obt_pairwiseOk_zeros :
    .status 0 ∈ runLog (Runs.runFrom (obtStep samplePlatform) Obt.init (pairRun fun n => if n = 0 then 5 else 0)) 0 ∧
    PairwiseOk (Runs.runFrom (obtStep samplePlatform) Obt.init (pairRun fun n => if n = 0 then 5 else 0)) :=
  ⟨by decide +kernel, obt_pairwiseOk samplePlatform _ (by decide +kernel)⟩

/-- The values 1, 2, 3 and 4: the loop stops behind the first one, and twelve bytes of the key are zero. -/
theorem obt_pairwise_weak_key :
    ¬PairwiseOk (Runs.runFrom (obtStep samplePlatform) Obt.init (pairRun fun n => UInt32.ofNat (n + 1))) := by
  intro h
  have hruns := h.runs 0
  have hentries : [.started sampleUuid otherUuid, .status 0, .drew 1 2 3 4,
      .sent sampleUuid (.postPsk otherUuid (1 :: List.replicate 15 0))] ⊆
      runLog (Runs.runFrom (obtStep samplePlatform) Obt.init (pairRun fun n => UInt32.ofNat (n + 1))) 0 := by
    decide +kernel
  generalize runLog _ _ = log at hruns hentries
  simp only [List.cons_subset] at hentries
  obtain ⟨hstarted, hstatus, hdrew, hsent, -⟩ := hentries
  have hkey := (Gives.mk ⟨_, _, hstarted⟩ hstatus ⟨_, _, hsent⟩ hdrew).key_eq hruns
  revert hkey
  decide

end SmartGarage
