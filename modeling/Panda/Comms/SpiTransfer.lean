import Panda.Comms.Receive
import Panda.Comms.SpiLink

/-!
Transfers over the SPI link. Nothing tells a retry from a new request, so a
transfer that returns was executed at least once, and once more for each earlier
try of which only the response was lost.
-/

namespace Panda.Comms

open Library Safety
open Host (Transfer Progress)

variable {σ : Type*}

/-! ### The exchange -/

/-- The executions end with one in the current try. -/
def AnsweredBy (s : Link σ) (response : List UInt8) : Prop :=
  ∃ earlier request, s.executions = earlier ++ [⟨s.host.n, request, response⟩]

/-- What holds between two steps of a transfer in which damage is detected. -/
structure Exchange (t : Transfer) (s : Link σ) : Prop where
  armed : Armed s.device
  header : ∀ bytes, s.toDevice = some (.header bytes) → bytes = t.headerPacket
  data : ∀ bytes, s.toDevice = some (.data bytes) → bytes = t.dataPacket ∧
    s.host.phase ≠ .headerAck ∧ HeaderTaken t s.device ∧ ∀ x ∈ s.executions, x.n < s.host.n
  ack : s.toHost = some [spiHack] → HeaderTaken t s.device
  waiting : s.host.phase = .headerAck → ∀ x ∈ s.executions, x.n < s.host.n
  answer : ∀ frame, s.toHost = some frame → s.toDevice = none ∧ frame ≠ [] ∧
    (frame.head? = some spiDack → ∃ response checksum,
      frame = SpiDevice.responseFrame response checksum ∧ response.length < 2 ^ 16 ∧
        AnsweredBy s response)
  log : s.executions.Pairwise (fun x y => x.n < y.n) ∧
    ∀ x ∈ s.executions, x.n ≤ s.host.n ∧ addressed t = some x.request
  returned : t.expectDisconnect = false → ∀ response, s.host.phase = .returned response →
    s.toDevice = none ∧ AnsweredBy s response

/-- The host leaves the header behind. -/
theorem Exchange.setHost {t : Transfer} {s : Link σ} (hs : Exchange t s) {host : Progress}
    (hn : host.n = s.host.n) (hphase : host.phase ≠ .headerAck)
    (hreturned : t.expectDisconnect = false → ∀ response, host.phase = .returned response →
      s.toDevice = none ∧ AnsweredBy s response) : Exchange t { s with host } where
  armed := hs.armed
  header := hs.header
  data := by
    intro bytes hbytes
    obtain ⟨hdata, -, htaken, hbefore⟩ := hs.data bytes hbytes
    rw [← hn] at hbefore
    exact ⟨hdata, hphase, htaken, hbefore⟩
  ack := hs.ack
  waiting := fun hwaiting => absurd hwaiting hphase
  answer := by
    simp only [AnsweredBy, hn]
    exact hs.answer
  log := by
    rw [hn]
    exact hs.log
  returned := by
    simp only [AnsweredBy, hn]
    exact hreturned

theorem Exchange.fail {t : Transfer} {s : Link σ} (hs : Exchange t s)
    (exc : Host.PandaSpiException) : Exchange t (s.fail exc) := by
  apply hs.setHost
  · rfl
  · intro hphase
    cases hphase
  · intro _ response hphase
    cases hphase

/-- A try sends the header. -/
theorem Exchange.attempt {t : Transfer} {s : Link σ} (hs : Exchange t s) :
    Exchange t { s with
      host := { s.host with phase := .headerAck, n := s.host.n + 1 }
      toDevice := some (.header t.headerPacket)
      toHost := none } where
  armed := hs.armed
  header := by
    intro bytes hbytes
    cases hbytes
    rfl
  data := nofun
  ack := nofun
  waiting := fun _ x hx => Nat.lt_succ_of_le (hs.log.2 x hx).1
  answer := nofun
  log := ⟨hs.log.1, fun x hx => ⟨Nat.le_succ_of_le (hs.log.2 x hx).1, (hs.log.2 x hx).2⟩⟩
  returned := nofun

/-- After the device took the bytes, nothing is on its way to it. -/
theorem Exchange.answered {t : Transfer} {s : Link σ} (hs : Exchange t s) {device : SpiDevice σ}
    (harmed : Armed device) {toHost : Option (List UInt8)} {executions : List Execution}
    (hack : toHost = some [spiHack] → HeaderTaken t device)
    (hwaiting : s.host.phase = .headerAck → executions = s.executions)
    (hanswer : ∀ frame, toHost = some frame → frame ≠ [] ∧
      (frame.head? = some spiDack → ∃ response checksum,
        frame = SpiDevice.responseFrame response checksum ∧ response.length < 2 ^ 16 ∧
          ∃ earlier request, executions = earlier ++ [⟨s.host.n, request, response⟩]))
    (hlog : executions.Pairwise (fun x y => x.n < y.n) ∧
      ∀ x ∈ executions, x.n ≤ s.host.n ∧ addressed t = some x.request)
    (hreturned : s.toDevice = none → executions = s.executions) :
    Exchange t { s with device, toDevice := none, toHost, executions } where
  armed := harmed
  header := nofun
  data := nofun
  ack := hack
  waiting := by
    intro hphase
    simp only [hwaiting hphase]
    exact hs.waiting hphase
  answer := fun frame hframe => ⟨rfl, hanswer frame hframe⟩
  log := hlog
  returned := by
    intro hwait response hphase
    obtain ⟨hquiet, hanswered⟩ := hs.returned hwait response hphase
    refine ⟨rfl, ?_⟩
    simp only [AnsweredBy, hreturned hquiet]
    exact hanswered

theorem Exchange.received {t : Transfer} {s : Link σ} (hs : Exchange t s) (h : Handlers σ)
    (info : DeviceId) {bytes : List UInt8}
    (hgenuine : Genuine t s (.device (.received bytes))) :
    Exchange t (s.received h info bytes) := by
  unfold Link.received
  cases hreceive : s.device.receive bytes with
  | none => exact hs
  | some d =>
      obtain ⟨hheader, hdata⟩ := hgenuine d hreceive
      have harmed := spiRxDone_armed h info d
      simp only
      cases SpiDevice.spiRxDone_cases h info d with
      | header htakes hexecutes _ hsent =>
          have hbytes := hs.header bytes (hheader htakes)
          rw [hbytes] at hreceive
          have htaken := headerTaken_received hs.armed hreceive htakes h info
          rw [hexecutes, hsent]
          apply hs.answered harmed
          · exact fun _ => htaken
          · exact fun _ => List.append_nil _
          · rintro _ ⟨⟩
            refine ⟨List.cons_ne_nil _ _, ?_⟩
            intro hhead
            cases hhead
          · simpa using hs.log
          · exact fun _ => List.append_nil _
      | call r htakes hexecutes _ hsent =>
          have htakesData : d.takesData = true := by
            by_contra hnot
            rw [SpiDevice.executes, if_neg hnot] at hexecutes
            cases hexecutes
          obtain ⟨hbytes, hphase, htaken, hbefore⟩ := hs.data bytes (hdata htakesData)
          rw [hbytes] at hreceive
          have haddressed := executes_addressed hs.armed htaken hreceive hexecutes
          have hlt := (h.handle d.spiBufTx r d.app).response_lt
          rw [hexecutes]
          apply hs.answered harmed
          · intro hack
            rcases sent_call hsent hack with hnack | ⟨checksum, hframe⟩
            · cases hnack
            · cases hframe
          · exact fun hwaiting => absurd hwaiting hphase
          · intro frame hframe
            rcases sent_call hsent hframe with rfl | ⟨checksum, rfl⟩
            · refine ⟨List.cons_ne_nil _ _, ?_⟩
              intro hhead
              cases hhead
            · exact ⟨List.cons_ne_nil _ _, fun _ => ⟨_, checksum, rfl, hlt, s.executions, r, rfl⟩⟩
          · constructor
            · rw [List.pairwise_append]
              refine ⟨hs.log.1, List.pairwise_singleton _ _, ?_⟩
              intro x hx y hy
              rw [List.mem_singleton.mp hy]
              exact hbefore x hx
            · intro x hx
              rcases List.mem_append.mp hx with hx | hx
              · exact hs.log.2 x hx
              · rw [List.mem_singleton.mp hx]
                exact ⟨Nat.le_refl _, haddressed⟩
          · intro hquiet
            rw [hdata htakesData] at hquiet
            cases hquiet
      | reject htakes hexecutes hrejects =>
          obtain ⟨-, first, rest, hsent, hhack, hdack⟩ := hrejects
          rw [hexecutes, hsent]
          apply hs.answered harmed
          · rintro ⟨⟩
            exact absurd rfl hhack
          · exact fun _ => List.append_nil _
          · rintro _ ⟨⟩
            refine ⟨List.cons_ne_nil _ _, ?_⟩
            intro hhead
            exact absurd (Option.some.inj hhead) hdack
          · simpa using hs.log
          · exact fun _ => List.append_nil _

/-- What the CAN handlers act on: the buffers, and the packets handed to
`can_send`. -/
structure CanApp where
  comms : CanComms
  sent : List CANPacket := []
  fits : comms.canReadBuffer.ptr ≤ 72

/-- The CAN handlers, beside any control handler. `slotsFree` is what
`can_tx_check_min_slots_free` finds after a write. -/
def canHandlers (control : ControlPacket → CanApp → Handled CanApp) (slotsFree : CanApp → Bool) :
    Handlers CanApp where
  commsControlHandler := control
  commsCanRead maxLen app :=
    { response := (commsCanRead maxLen.toNat app.comms).1
      resumed := false
      app :=
        { app with
          comms := (commsCanRead maxLen.toNat app.comms).2
          fits := (commsCanRead_reads maxLen.toNat app.fits).fits }
      response_lt := by
        have hlt := maxLen.toNat_lt
        rw [(commsCanRead_reads maxLen.toNat app.fits).sent, List.length_take]
        omega }
  commsEndpoint2Write _ app := app
  commsCanWrite data app :=
    let app : CanApp :=
      { comms := (commsCanWrite data app.comms).2
        sent := app.sent ++ (commsCanWrite data app.comms).1
        fits := app.fits }
    (slotsFree app, app)

def sampleApp : CanApp where
  comms := { powerOnComms with canRxQ := (canPush (ofStruct []) powerOnComms.canRxQ).2 }
  fits := Nat.zero_le _

def sampleId : DeviceId where
  uid := Vector.replicate 12 0
  hwType := 0
  usbPid := 0

end Panda.Comms
