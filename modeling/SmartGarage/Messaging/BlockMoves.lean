/-
Nothing but the calls of `oc_blockwise_dispatch_block` and `oc_blockwise_handle_block` moves the write position of a
buffer: behind every event it is where it was before, or at the start of a new buffer, or where a call has left it.
-/
import SmartGarage.Messaging.SeparateSend
import SmartGarage.Messaging.Transfers

namespace SmartGarage

/-! ## Calls of an event -/

/-- The call of `ObserverTurn.notify` -/
def ObserverTurn.blockCalls (n : ObservedSend) (o : ObserverTurn) (st : Engine) : List BlockCall :=
  if needsBlocks o.endpoint n.payload o.block2Size then
    match takeResponseBuffer o.env st (o.key n) with
    | .allocated b _ => [firstCall b n.payload o.block2Size.toUInt32]
    | _ => []
  else []

/-! ## Events -/

theorem moved_coapReceive (env : EngineEnv) (st : Engine) (data : OcString) (endpoint : OcEndpoint) :
    Moved env.settings (receiveCalls env st data endpoint) st (coapReceive env st data endpoint).1 := by
  unfold coapReceive receiveCalls
  generalize parseMessage env data endpoint = r
  obtain ⟨status, message⟩ := r
  dsimp only
  split
  · have hclear : Moved env.settings [] st (clearTransaction st message endpoint) := by
      unfold clearTransaction
      split
      · exact .refl st
      · exact .of_subset (List.Subset.refl _) (List.Subset.refl _)
    have hrequest (csm : CsmState) (st : Engine) :
        Moved env.settings (requestCalls env csm message endpoint st) st
          (receiveRequest env csm message endpoint st).1 := by
      obtain ⟨hrequests, hresponses, -⟩ := initResponse_buffers st message endpoint
      have hinit : Moved env.settings [] st (initResponse message endpoint st).2 :=
        .of_subset (hrequests ▸ List.Subset.refl _) (hresponses ▸ List.Subset.refl _)
      exact hinit.after (performed_receiveRequest st env csm message endpoint).moved
    have hresponse (csm : CsmState) (st : Engine) :=
      (performed_receiveResponse (k := requestKey message endpoint) st env csm message endpoint).moved
    cases coapCheckSignalMessage message <;> cases isRequest message
    · exact hclear.after (hresponse _ _)
    · exact hclear.after (hrequest _ _)
    · exact hclear.after (hresponse _ _)
    · exact hclear.after (hrequest _ _)
  · exact .refl st

theorem moved_step {B : BufferSettings} (sys : System) (e : Event) (he : e.OfBuild B) :
    Moved B (e.blockCalls sys.engine) sys.engine (sys.step e).engine := by
  by_cases hreceive : ∃ env data endpoint, e = .receive env data endpoint
  · obtain ⟨env, data, endpoint, rfl⟩ := hreceive
    have hsettings : env.settings = B := he
    exact hsettings ▸ moved_coapReceive env sys.engine data endpoint
  · obtain hdropped | hperformed :=
      step_performed sys (fun env data endpoint he => hreceive ⟨env, data, endpoint, he⟩) he
    · exact .of_subset hdropped.requests hdropped.responses
    · exact (hperformed (e.key.getD ⟨[], OcEndpoint.zero, 0, [], .server⟩) fun k' hk => by rw [hk]; rfl).moved

end SmartGarage
