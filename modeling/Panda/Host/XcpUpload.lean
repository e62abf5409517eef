import Panda.Host.Xcp

/-!
Block mode of `upload`. `_recv_dto` returns the first response of a batch and drops
the others, so the bytes of the slave are returned exactly if no batch holds two of
its frames.
-/

namespace Panda.Host

/-! ### The frames of a slave -/

/-- The data of the frames that a slave answers with in block mode: as much as the DTO
has room for, `size` bytes at least, and none of the frames could be left out. -/
structure BlockSequence (size maxDto : Nat) (dats : List (List UInt8)) : Prop where
  fits : ∀ dat ∈ dats, dat.length + 1 ≤ maxDto
  covers : size ≤ dats.flatten.length
  needed : ∀ dat ∈ dats, dats.flatten.length < size + dat.length

namespace XcpClient

variable {c : XcpClient} {rx : List (List CanMessage)} {dats : List (List UInt8)}

/-- All messages for the client, in the order in which they come. -/
def responses (c : XcpClient) (rx : List (List CanMessage)) : List CanMessage :=
  rx.flatten.filter c.addressed

/-- Among other traffic the batches hold the frames of a slave: 0xFF and then data. -/
def Answers (c : XcpClient) (rx : List (List CanMessage)) (dats : List (List UInt8)) : Prop :=
  (c.responses rx).map CanMessage.dat = dats.map (0xFF :: ·)

/-- No batch holds two messages for the client. -/
def Separate (c : XcpClient) (rx : List (List CanMessage)) : Prop :=
  ∀ msgs ∈ rx, (msgs.filter c.addressed).length ≤ 1

/-- The first message for the client of each batch that has one. -/
def heads (c : XcpClient) (rx : List (List CanMessage)) : List CanMessage :=
  rx.filterMap fun msgs => msgs.find? c.addressed

theorem responses_cons (msgs : List CanMessage) :
    c.responses (msgs :: rx) = msgs.filter c.addressed ++ c.responses rx := by
  rw [responses, List.flatten_cons, List.filter_append]
  rfl

theorem heads_cons (msgs : List CanMessage) :
    c.heads (msgs :: rx) = (msgs.filter c.addressed).head?.toList ++ c.heads rx := by
  rw [heads, List.filterMap_cons, ← List.head?_filter]
  cases (msgs.filter c.addressed).head? with
  | none => rfl
  | some msg => rfl

theorem heads_subset (c : XcpClient) (rx : List (List CanMessage)) :
    ∀ msg ∈ c.heads rx, msg ∈ c.responses rx := by
  intro msg hmsg
  obtain ⟨msgs, hmsgs, hfind⟩ := List.mem_filterMap.mp hmsg
  exact List.mem_filter.mpr
    ⟨List.mem_flatten_of_mem hmsgs (List.mem_of_find?_eq_some hfind), List.find?_some hfind⟩

theorem heads_separate (h : c.Separate rx) : c.heads rx = c.responses rx := by
  induction rx with
  | nil => rfl
  | cons msgs rx ih =>
      obtain ⟨hfirst, hrest⟩ := List.forall_mem_cons.mp h
      rw [heads_cons, responses_cons, ih hrest]
      generalize msgs.filter c.addressed = taken at hfirst
      match taken, hfirst with
      | [], _ => rfl
      | [msg], _ => rfl

theorem heads_le (c : XcpClient) (rx : List (List CanMessage)) (amount : CanMessage → Nat) :
    ((c.heads rx).map amount).sum ≤ ((c.responses rx).map amount).sum := by
  induction rx with
  | nil => exact Nat.le_refl _
  | cons msgs rx ih =>
      rw [heads_cons, responses_cons, List.map_append, List.map_append, List.sum_append,
        List.sum_append]
      apply Nat.add_le_add _ ih
      cases msgs.filter c.addressed with
      | nil => exact Nat.le_refl _
      | cons msg later =>
          simp only [List.head?_cons, Option.toList_some, List.map_cons, List.map_nil,
            List.sum_cons, List.sum_nil]
          omega

/-- If a batch holds two messages, the heads lack one. -/
theorem heads_short (h : ¬ c.Separate rx) (amount : CanMessage → Nat) :
    ∃ msg ∈ c.responses rx,
      ((c.heads rx).map amount).sum + amount msg ≤ ((c.responses rx).map amount).sum := by
  induction rx with
  | nil => exact absurd (fun msgs hmsgs => absurd hmsgs List.not_mem_nil) h
  | cons msgs rx ih =>
      rw [heads_cons, responses_cons]
      simp only [List.map_append, List.sum_append]
      rcases Nat.lt_or_ge 1 (msgs.filter c.addressed).length with htwo | hone
      · have hrest := heads_le c rx amount
        generalize msgs.filter c.addressed = taken at htwo
        match taken, htwo with
        | first :: second :: later, _ =>
            refine ⟨second, by simp, ?_⟩
            simp only [List.head?_cons, Option.toList_some, List.map_cons, List.map_nil,
              List.sum_cons, List.sum_nil]
            omega
      · have hlater : ¬ c.Separate rx := fun hrest =>
          h (List.forall_mem_cons.mpr ⟨hone, hrest⟩)
        obtain ⟨msg, hmsg, hshort⟩ := ih hlater
        refine ⟨msg, List.mem_append_right _ hmsg, ?_⟩
        have hfirst := heads_le c [msgs] amount
        rw [heads_cons, responses_cons] at hfirst
        simp only [heads, responses, List.filterMap_nil, List.flatten_nil, List.filter_nil,
          List.append_nil] at hfirst
        omega

/-! ### `_recv_dto` and `upload` -/

/-- While the time is not up, a call returns the next head. -/
theorem recvDtoLoop_heads (c : XcpClient) (rx : List (List CanMessage)) :
    (c.heads rx = [] ∧ c.recvDtoLoop (rx.map some) =
        (.error (.commandTimeoutError "timeout waiting for response"), [])) ∨
      ∃ msg later, c.heads rx = msg :: c.heads later ∧ later.length < rx.length ∧
        c.recvDtoLoop (rx.map some) = (dto msg.dat, later.map some) := by
  induction rx with
  | nil => exact .inl ⟨rfl, rfl⟩
  | cons msgs rx ih =>
      rw [List.map_cons, recvDtoLoop, heads, List.filterMap_cons]
      cases msgs.find? c.addressed with
      | some msg => exact .inr ⟨msg, rx, rfl, Nat.lt_succ_self _, rfl⟩
      | none =>
          rcases ih with hnone | ⟨msg, later, hheads, hlt, hloop⟩
          · exact .inl hnone
          · exact .inr ⟨msg, later, hheads, Nat.lt_succ_of_lt hlt, hloop⟩

/-- The client while the batches come in time. -/
def hearing (rx : List (List CanMessage)) (c : XcpClient) : XcpClient :=
  { c with polls := rx.map some }

/-- What `upload` returns if the heads hold the data `kept`. -/
def uploaded (size : Nat) (kept : List UInt8) : Except XcpException (List UInt8) :=
  if size ≤ kept.length then .ok (kept.take size)
  else .error (.commandTimeoutError "timeout waiting for response")

theorem uploaded_append {size : Nat} {resp : List UInt8} (dat later : List UInt8)
    (hopen : resp.length < size) :
    uploaded size (resp ++ dat.take (size - resp.length + 1) ++ later) =
      uploaded size (resp ++ (dat ++ later)) := by
  rcases Nat.le_total dat.length (size - resp.length + 1) with hfits | hcut
  · rw [List.take_of_length_le hfits, List.append_assoc]
  · have hlong : size ≤ (resp ++ dat.take (size - resp.length + 1) ++ later).length := by
      rw [List.length_append, List.length_append, List.length_take_of_le hcut]
      omega
    have hall : size ≤ (resp ++ (dat ++ later)).length := by
      rw [List.length_append, List.length_append]
      omega
    have hdat : (dat.take (size - resp.length + 1) ++ later).take (size - resp.length) =
        (dat ++ later).take (size - resp.length) := by
      rw [List.take_append_of_le_length (by rw [List.length_take_of_le hcut]; omega),
        List.take_append_of_le_length (by omega), List.take_take, Nat.min_eq_left (by omega)]
    rw [uploaded, uploaded, if_pos hlong, if_pos hall, List.append_assoc, List.take_append,
      hdat, ← List.take_append]

theorem uploadLoop_heads (size : Nat) {fuel : Nat} {c : XcpClient} {rx : List (List CanMessage)}
    (hfuel : rx.length < fuel) (hpolls : c.polls = rx.map some) (resp : List UInt8)
    {kept : List (List UInt8)}
    (hkept : (c.heads rx).map CanMessage.dat = kept.map (0xFF :: ·)) :
    ((uploadLoop size fuel resp c).1).map (List.take size) =
      uploaded size (resp ++ kept.flatten) := by
  induction fuel generalizing rx resp kept c with
  | zero => exact absurd hfuel (Nat.not_lt_zero _)
  | succ fuel ih =>
      rw [uploadLoop]
      split
      · rename_i hopen
        rw [recvDto, hpolls]
        rcases recvDtoLoop_heads c rx with ⟨hnone, hloop⟩ | ⟨msg, later, hheads, hlt, hloop⟩
        · rw [hnone] at hkept
          obtain rfl := List.map_eq_nil_iff.mp hkept.symm
          rw [hloop, List.flatten_nil, List.append_nil, uploaded, if_neg (Nat.not_le.mpr hopen)]
          rfl
        · rw [hheads, List.map_cons] at hkept
          cases kept with
          | nil => exact absurd hkept (List.cons_ne_nil _ _)
          | cons dat kept =>
              obtain ⟨hdat, hlater⟩ := List.cons.inj hkept
              have hdto : dto (0xFF :: dat) = .ok dat := rfl
              rw [hloop, hdat, hdto, List.flatten_cons, ← uploaded_append dat _ hopen]
              exact ih (Nat.lt_of_lt_of_le hlt (Nat.le_of_lt_succ hfuel)) rfl _ hlater
      · rename_i hdone
        have hlong := Nat.not_lt.mp hdone
        rw [uploaded, if_pos (by rw [List.length_append]; omega),
          List.take_append_of_le_length hlong]
        rfl

theorem upload_heads {size : Nat} (hsize : size ≤ 255) (hmode : c.slaveBlockMode = some true)
    {kept : List (List UInt8)}
    (hkept : (c.heads rx).map CanMessage.dat = kept.map (0xFF :: ·)) :
    ((c.hearing rx).upload size).1 = uploaded size kept.flatten := by
  have hloop := uploadLoop_heads size (c := (c.hearing rx).sendCto 0xF5 [.ofNat size])
    (Nat.lt_succ_self rx.length) rfl [] hkept
  have hlength : ((c.hearing rx).sendCto 0xF5 [.ofNat size]).polls.length = rx.length :=
    List.length_map some
  rw [← hlength] at hloop
  have hheard : (c.hearing rx).slaveBlockMode = some true := hmode
  rw [upload, if_neg (Nat.not_lt.mpr hsize), hheard]
  exact hloop

/-- `connect` reports the mode that `upload` goes by. -/
theorem connect_mode {start : XcpClient} {connectMode : UInt8} {info : ConnectInfo}
    (h : start.connect connectMode = (.ok info, c)) :
    c.slaveBlockMode = some info.slaveBlockMode := by
  unfold connect at h
  split at h
  · cases h
  · obtain ⟨hinfo, rfl⟩ := Prod.mk.inj h
    obtain rfl := Except.ok.inj hinfo
    rfl
  · cases h

/-- After a `connect` that reported block mode, and for the frames of a slave in any
batches among other traffic, `upload` returns the bytes of the slave exactly if no
batch holds two of the frames. -/
theorem upload_iff_separate (start : XcpClient) (connectMode : UInt8) (info : ConnectInfo)
    (c : XcpClient) (hconnect : start.connect connectMode = (.ok info, c))
    (hmode : info.slaveBlockMode = true) (size : Nat) (hsize : size ≤ 255)
    (rx : List (List CanMessage)) (dats : List (List UInt8)) (hframes : c.Answers rx dats)
    (hblock : BlockSequence size c.maxDto dats) :
    ((c.hearing rx).upload size).1 = .ok (dats.flatten.take size) ↔ c.Separate rx := by
  have hblockMode : c.slaveBlockMode = some true := by
    rw [connect_mode hconnect, hmode]
  constructor
  · intro hupload
    by_contra hshared
    have hdats : dats = (c.responses rx).map fun msg => msg.dat.drop 1 := by
      have hdrop := congrArg (List.map (List.drop 1)) hframes
      rw [List.map_map, List.map_map] at hdrop
      exact ((List.map_id dats).symm.trans hdrop.symm)
    have hpid : ∀ msg ∈ c.responses rx, msg.dat = 0xFF :: msg.dat.drop 1 := by
      intro msg hmsg
      have hdat : msg.dat ∈ dats.map (0xFF :: ·) := hframes ▸ List.mem_map_of_mem hmsg
      obtain ⟨dat, -, hdat⟩ := List.mem_map.mp hdat
      rw [← hdat]
      rfl
    have hkept : (c.heads rx).map CanMessage.dat =
        ((c.heads rx).map fun msg => msg.dat.drop 1).map (0xFF :: ·) := by
      rw [List.map_map]
      exact List.map_congr_left fun msg hmsg => hpid msg (heads_subset c rx msg hmsg)
    obtain ⟨msg, hmsg, hshort⟩ := heads_short hshared fun msg => (msg.dat.drop 1).length
    have hneeded := hblock.needed (msg.dat.drop 1) (by
      rw [hdats]
      exact List.mem_map_of_mem hmsg)
    have hlost : ((c.heads rx).map fun msg => msg.dat.drop 1).flatten.length < size := by
      rw [hdats, List.length_flatten, List.map_map] at hneeded
      rw [List.length_flatten, List.map_map]
      exact Nat.lt_of_add_lt_add_right (Nat.lt_of_le_of_lt hshort hneeded)
    rw [upload_heads hsize hblockMode hkept, uploaded, if_neg (Nat.not_le.mpr hlost)] at hupload
    cases hupload
  · intro hseparate
    rw [upload_heads hsize hblockMode (by rw [heads_separate hseparate]; exact hframes), uploaded,
      if_pos hblock.covers]

/-- A slave reports block mode and DTOs of eight bytes. -/
def connecting : XcpClient where
  txAddr := 0x700
  rxAddr := 0x701
  canBus := 0
  polls := [some [⟨0x701, [0xFF, 0x00, 0x40, 0x08, 0x08, 0x00, 0x01, 0x01], 0⟩]]

def connected : XcpClient := (connecting.connect 0x00).2

/-- Nine bytes in two frames, a batch for each and other traffic. -/
def spread : List (List CanMessage) :=
  [[⟨0x123, [0x00], 0⟩, ⟨0x701, [0xFF, 1, 2, 3, 4, 5, 6, 7], 0⟩], [],
    [⟨0x701, [0xFF, 8, 9, 0, 0, 0, 0, 0], 0⟩]]

theorem upload_iff_separate_nine :
    ((connected.hearing spread).upload 9).1 = .ok [1, 2, 3, 4, 5, 6, 7, 8, 9] := by
  have hconnect : ∃ info, connecting.connect 0x00 = (.ok info, connected) ∧
      info.slaveBlockMode = true := ⟨_, rfl, rfl⟩
  obtain ⟨info, hinfo, hmode⟩ := hconnect
  have hseparate : connected.Separate spread := by
    unfold Separate
    decide
  exact (upload_iff_separate connecting 0x00 info connected hinfo hmode 9 (by decide) spread
    [[1, 2, 3, 4, 5, 6, 7], [8, 9, 0, 0, 0, 0, 0]] rfl
    ⟨by decide, by decide, by decide⟩).mpr hseparate

/-- With both frames in one batch the second one is lost. -/
theorem not_upload_one_batch :
    let rx : List (List CanMessage) :=
      [[⟨0x701, [0xFF, 1, 2, 3, 4, 5, 6, 7], 0⟩, ⟨0x701, [0xFF, 8, 9], 0⟩]]
    let dats : List (List UInt8) := [[1, 2, 3, 4, 5, 6, 7], [8, 9]]
    connected.Answers rx dats ∧ BlockSequence 9 connected.maxDto dats ∧
      ((connected.hearing rx).upload 9).1 ≠ .ok (dats.flatten.take 9) :=
  ⟨rfl, ⟨by decide, by decide, by decide⟩, by decide⟩

end XcpClient

end Panda.Host
