import Panda.Library.Transition

/-!
The transmit contexts of `drivers/linux/panda.c`. `panda_usb_start_xmit` takes one, and
the callback of its URB frees it on another processor, so the steps of both come in any
order. Left out are frames that Linux itself rejects, and a device that was detached.
-/

namespace Panda.Host

open Library

abbrev pandaMaxTxUrbs : Nat := 20

def pandaCtxFree : Nat := pandaMaxTxUrbs

abbrev Slot := Fin pandaMaxTxUrbs

/-- `struct panda_usb_ctx`. -/
structure PandaUsbCtx where
  ndx : Nat := pandaCtxFree
  dlc : Nat := 0

/-- Where `panda_usb_start_xmit` is with a frame: before it looks at a context, before
`atomic_dec`, before `atomic_read`, before `netif_stop_queue`, back from
`panda_usb_get_free_ctx`, before the URB is submitted, or in `panda_usb_free_ctx` before
one of its three statements. `oops` is where it reads `ctx->ndx` of no context. -/
inductive Xmit where
  | idle
  | scan (skb i : Nat)
  | marked (skb : Nat) (ctx : Slot)
  | read (skb : Nat) (ctx : Option Slot)
  | stop (skb : Nat) (ctx : Option Slot)
  | found (skb : Nat) (ctx : Option Slot)
  | filled (skb : Nat) (ctx : Slot)
  | freeCtx (skb : Nat) (ctx : Slot)
  | freeCounted (skb : Nat) (ctx : Slot)
  | freeWake (skb : Nat)
  | oops (skb : Nat)
deriving DecidableEq

/-- Where the URB of a context is: not in use, submitted, or in its callback before one
of the first two statements of `panda_usb_free_ctx`. -/
inductive Callback where
  | idle
  | submitted (skb : Nat)
  | echoed
  | counted
deriving DecidableEq

structure TxStats where
  txPackets : Nat := 0
  txBytes : Nat := 0
  txDropped : Nat := 0

/-- One interface, with the two kinds of threads. `wakes` is the number of callbacks
before `netif_wake_queue`, and the lists say what became of the frames. -/
structure TxState where
  txContext : Slot → PandaUsbCtx := fun _ => {}
  freeCtxCnt : Int := pandaMaxTxUrbs
  queueStopped : Bool := false
  echoSkb : Slot → Option Nat := fun _ => none
  stats : TxStats := {}
  xmit : Xmit := .idle
  callback : Slot → Callback := fun _ => .idle
  wakes : Nat := 0
  handed : Nat := 0
  echoed : List Nat := []
  dropped : List Nat := []

inductive TxEvent where
  | startXmit
  | xmit
  | submit (err : Bool)
  | callback (ctx : Slot)
  | wake

namespace TxState

def skbAt (ndx : Nat) (s : TxState) : Option Nat :=
  if h : ndx < pandaMaxTxUrbs then s.echoSkb ⟨ndx, h⟩ else none

def setSkb (ndx : Nat) (skb : Option Nat) (s : TxState) : TxState :=
  if h : ndx < pandaMaxTxUrbs then
    { s with echoSkb := Function.update s.echoSkb ⟨ndx, h⟩ skb }
  else s

def setCtx (ctx : Slot) (entry : PandaUsbCtx) (s : TxState) : TxState :=
  { s with txContext := Function.update s.txContext ctx entry }

def setCallback (ctx : Slot) (callback : Callback) (s : TxState) : TxState :=
  { s with callback := Function.update s.callback ctx callback }

def xmitStep (dlc : Nat → Nat) (s : TxState) : TxState :=
  match s.xmit with
  | .scan skb i =>
      if h : i < pandaMaxTxUrbs then
        if (s.txContext ⟨i, h⟩).ndx = pandaCtxFree then
          { s.setCtx ⟨i, h⟩ { ndx := i, dlc := dlc skb } with xmit := .marked skb ⟨i, h⟩ }
        else { s with xmit := .scan skb (i + 1) }
      else { s with xmit := .read skb none }
  | .marked skb ctx => { s with freeCtxCnt := s.freeCtxCnt - 1, xmit := .read skb (some ctx) }
  | .read skb ctx => { s with xmit := if s.freeCtxCnt = 0 then .stop skb ctx else .found skb ctx }
  | .stop skb ctx => { s with queueStopped := true, xmit := .found skb ctx }
  | .found skb none => { s with xmit := .oops skb }
  | .found skb (some ctx) =>
      { s.setSkb (s.txContext ctx).ndx (some skb) with xmit := .filled skb ctx }
  | .freeCtx skb ctx =>
      { s with freeCtxCnt := s.freeCtxCnt + 1, xmit := .freeCounted skb ctx }
  | .freeCounted skb ctx =>
      { s.setCtx ctx { s.txContext ctx with ndx := pandaCtxFree } with xmit := .freeWake skb }
  | .freeWake skb =>
      { s with
        queueStopped := false
        xmit := .idle
        stats := { s.stats with txDropped := s.stats.txDropped + 1 }
        dropped := s.dropped ++ [skb] }
  | _ => s

def submit (err : Bool) (s : TxState) : TxState :=
  match s.xmit with
  | .filled skb ctx =>
      if err then { s.setSkb (s.txContext ctx).ndx none with xmit := .freeCtx skb ctx }
      else { s.setCallback ctx (.submitted skb) with xmit := .idle }
  | _ => s

def callbackStep (ctx : Slot) (s : TxState) : TxState :=
  match s.callback ctx with
  | .submitted _ =>
      let skb := s.skbAt (s.txContext ctx).ndx
      { (s.setSkb (s.txContext ctx).ndx none).setCallback ctx .echoed with
        stats := { s.stats with
          txPackets := s.stats.txPackets + 1
          txBytes := s.stats.txBytes + (s.txContext ctx).dlc }
        echoed := s.echoed ++ skb.toList }
  | .echoed => { s.setCallback ctx .counted with freeCtxCnt := s.freeCtxCnt + 1 }
  | .counted =>
      { (s.setCtx ctx { s.txContext ctx with ndx := pandaCtxFree }).setCallback ctx .idle with
        wakes := s.wakes + 1 }
  | .idle => s

end TxState

def txStep (dlc : Nat → Nat) (s : TxState) : TxEvent → TxState
  | .startXmit =>
      if s.xmit = .idle ∧ s.queueStopped = false then
        { s with xmit := .scan s.handed 0, handed := s.handed + 1 }
      else s
  | .xmit => s.xmitStep dlc
  | .submit err => s.submit err
  | .callback ctx => s.callbackStep ctx
  | .wake => if s.wakes > 0 then { s with queueStopped := false, wakes := s.wakes - 1 } else s

/-! ### What a step can do -/

inductive Moves (dlc : Nat → Nat) (s : TxState) : TxState → Prop
  | start (hxmit : s.xmit = .idle) (hqueue : s.queueStopped = false) :
      Moves dlc s { s with xmit := .scan s.handed 0, handed := s.handed + 1 }
  | take {skb : Nat} (ctx : Slot) (hxmit : s.xmit = .scan skb ctx)
      (hfree : (s.txContext ctx).ndx = pandaCtxFree) :
      Moves dlc s { s.setCtx ctx { ndx := ctx, dlc := dlc skb } with xmit := .marked skb ctx }
  | pass {skb : Nat} (ctx : Slot) (hxmit : s.xmit = .scan skb ctx)
      (htaken : (s.txContext ctx).ndx ≠ pandaCtxFree) :
      Moves dlc s { s with xmit := .scan skb (ctx + 1) }
  | missed {skb i : Nat} (hxmit : s.xmit = .scan skb i) (hi : pandaMaxTxUrbs ≤ i) :
      Moves dlc s { s with xmit := .read skb none }
  | decrease {skb : Nat} {ctx : Slot} (hxmit : s.xmit = .marked skb ctx) :
      Moves dlc s { s with freeCtxCnt := s.freeCtxCnt - 1, xmit := .read skb (some ctx) }
  | readZero {skb : Nat} {ctx : Option Slot} (hxmit : s.xmit = .read skb ctx)
      (hzero : s.freeCtxCnt = 0) : Moves dlc s { s with xmit := .stop skb ctx }
  | readSome {skb : Nat} {ctx : Option Slot} (hxmit : s.xmit = .read skb ctx)
      (hsome : s.freeCtxCnt ≠ 0) : Moves dlc s { s with xmit := .found skb ctx }
  | stop {skb : Nat} {ctx : Option Slot} (hxmit : s.xmit = .stop skb ctx) :
      Moves dlc s { s with queueStopped := true, xmit := .found skb ctx }
  | oops {skb : Nat} (hxmit : s.xmit = .found skb none) : Moves dlc s { s with xmit := .oops skb }
  | put {skb : Nat} {ctx : Slot} (hxmit : s.xmit = .found skb (some ctx)) :
      Moves dlc s { s.setSkb (s.txContext ctx).ndx (some skb) with xmit := .filled skb ctx }
  | submitted {skb : Nat} {ctx : Slot} (hxmit : s.xmit = .filled skb ctx) :
      Moves dlc s { s.setCallback ctx (.submitted skb) with xmit := .idle }
  | failed {skb : Nat} {ctx : Slot} (hxmit : s.xmit = .filled skb ctx) :
      Moves dlc s { s.setSkb (s.txContext ctx).ndx none with xmit := .freeCtx skb ctx }
  | failCount {skb : Nat} {ctx : Slot} (hxmit : s.xmit = .freeCtx skb ctx) :
      Moves dlc s { s with freeCtxCnt := s.freeCtxCnt + 1, xmit := .freeCounted skb ctx }
  | failFree {skb : Nat} {ctx : Slot} (hxmit : s.xmit = .freeCounted skb ctx) :
      Moves dlc s
        { s.setCtx ctx { s.txContext ctx with ndx := pandaCtxFree } with xmit := .freeWake skb }
  | drop {skb : Nat} (hxmit : s.xmit = .freeWake skb) :
      Moves dlc s { s with
        queueStopped := false
        xmit := .idle
        stats := { s.stats with txDropped := s.stats.txDropped + 1 }
        dropped := s.dropped ++ [skb] }
  | echo {skb : Nat} {ctx : Slot} (hcallback : s.callback ctx = .submitted skb) :
      Moves dlc s
        { (s.setSkb (s.txContext ctx).ndx none).setCallback ctx .echoed with
          stats := { s.stats with
            txPackets := s.stats.txPackets + 1
            txBytes := s.stats.txBytes + (s.txContext ctx).dlc }
          echoed := s.echoed ++ (s.skbAt (s.txContext ctx).ndx).toList }
  | count {ctx : Slot} (hcallback : s.callback ctx = .echoed) :
      Moves dlc s { s.setCallback ctx .counted with freeCtxCnt := s.freeCtxCnt + 1 }
  | free {ctx : Slot} (hcallback : s.callback ctx = .counted) :
      Moves dlc s
        { (s.setCtx ctx { s.txContext ctx with ndx := pandaCtxFree }).setCallback ctx .idle with
          wakes := s.wakes + 1 }
  | wake (hwakes : s.wakes > 0) :
      Moves dlc s { s with queueStopped := false, wakes := s.wakes - 1 }

theorem xmitStep_moves (dlc : Nat → Nat) (s : TxState) :
    s.xmitStep dlc = s ∨ Moves dlc s (s.xmitStep dlc) := by
  unfold TxState.xmitStep
  split
  next skb i hxmit =>
    split
    next h =>
      split
      next hfree => exact .inr (.take ⟨i, h⟩ hxmit hfree)
      next htaken => exact .inr (.pass ⟨i, h⟩ hxmit htaken)
    next h => exact .inr (.missed hxmit (Nat.le_of_not_lt h))
  next skb ctx hxmit => exact .inr (.decrease hxmit)
  next skb ctx hxmit =>
    split
    next hzero => exact .inr (.readZero hxmit hzero)
    next hsome => exact .inr (.readSome hxmit hsome)
  next skb ctx hxmit => exact .inr (.stop hxmit)
  next skb hxmit => exact .inr (.oops hxmit)
  next skb ctx hxmit => exact .inr (.put hxmit)
  next skb ctx hxmit => exact .inr (.failCount hxmit)
  next skb ctx hxmit => exact .inr (.failFree hxmit)
  next skb hxmit => exact .inr (.drop hxmit)
  next => exact .inl rfl

theorem txStep_moves (dlc : Nat → Nat) (s : TxState) (e : TxEvent) :
    txStep dlc s e = s ∨ Moves dlc s (txStep dlc s e) := by
  cases e with
  | startXmit =>
    simp only [txStep]
    split
    next h => exact .inr (.start h.1 h.2)
    next => exact .inl rfl
  | xmit => exact xmitStep_moves dlc s
  | submit err =>
    simp only [txStep, TxState.submit]
    split
    next skb ctx hxmit =>
      cases err with
      | false => exact .inr (.submitted hxmit)
      | true => exact .inr (.failed hxmit)
    next => exact .inl rfl
  | callback ctx =>
    simp only [txStep, TxState.callbackStep]
    split
    next skb hcallback => exact .inr (.echo hcallback)
    next hcallback => exact .inr (.count hcallback)
    next hcallback => exact .inr (.free hcallback)
    next => exact .inl rfl
  | wake =>
    simp only [txStep]
    split
    next h => exact .inr (.wake h)
    next => exact .inl rfl

/-! ### Who has a context -/

def Xmit.ctx : Xmit → Option Slot
  | .marked _ ctx | .filled _ ctx | .freeCtx _ ctx | .freeCounted _ ctx => some ctx
  | .read _ ctx | .stop _ ctx | .found _ ctx => ctx
  | _ => none

def Xmit.skb : Xmit → Option Nat
  | .idle => none
  | .scan skb _ | .marked skb _ | .read skb _ | .stop skb _ | .found skb _ | .filled skb _
  | .freeCtx skb _ | .freeCounted skb _ | .freeWake skb | .oops skb => some skb

/-- The frame whose echo it keeps in a slot. -/
def Xmit.kept (i : Slot) : Xmit → Option Nat
  | .filled skb ctx => if ctx = i then some skb else none
  | _ => none

def Callback.skb : Callback → Option Nat
  | .submitted skb => some skb
  | _ => none

/-- A context is in use while `panda_usb_start_xmit` or a callback has it, never both,
and its slot has the echo of the frame in its URB. -/
structure Owned (dlc : Nat → Nat) (s : TxState) (i : Slot) : Prop where
  ndx : (s.txContext i).ndx =
    if s.xmit.ctx = some i ∨ s.callback i ≠ .idle then (i : Nat) else pandaCtxFree
  apart : s.xmit.ctx = some i → s.callback i = .idle
  echo : s.echoSkb i = ((s.callback i).skb <|> s.xmit.kept i)
  filling : ∀ skb, s.xmit.ctx = some i → s.xmit.skb = some skb → (s.txContext i).dlc = dlc skb
  inUrb : ∀ skb, s.callback i = .submitted skb → (s.txContext i).dlc = dlc skb

namespace Owned

variable {dlc : Nat → Nat} {s : TxState} {i : Slot}

theorem ndx_xmit (h : Owned dlc s i) (hctx : s.xmit.ctx = some i) : (s.txContext i).ndx = i := by
  rw [h.ndx, if_pos (.inl hctx)]

theorem ndx_callback (h : Owned dlc s i) (hused : s.callback i ≠ .idle) :
    (s.txContext i).ndx = i := by
  rw [h.ndx, if_pos (.inr hused)]

theorem not_xmit (h : Owned dlc s i) (hused : s.callback i ≠ .idle) : s.xmit.ctx ≠ some i :=
  fun hctx => hused (h.apart hctx)

/-- A context that is free has no owner. -/
theorem unowned (h : Owned dlc s i) (hfree : (s.txContext i).ndx = pandaCtxFree) :
    s.xmit.ctx ≠ some i ∧ s.callback i = .idle := by
  rw [h.ndx] at hfree
  by_contra howned
  rw [if_pos (by tauto)] at hfree
  exact absurd hfree (Nat.ne_of_lt i.isLt)

/-- What a move does elsewhere leaves the context with its owner. -/
theorem frame (h : Owned dlc s i) {s' : TxState} (hcontext : s'.txContext i = s.txContext i)
    (hecho : s'.echoSkb i = s.echoSkb i) (hcallback : s'.callback i = s.callback i)
    (hctx : s'.xmit.ctx = some i ↔ s.xmit.ctx = some i)
    (hskb : s'.xmit.ctx = some i → s'.xmit.skb = s.xmit.skb)
    (hkept : s'.xmit.kept i = s.xmit.kept i) : Owned dlc s' i where
  ndx := by simpa only [hcontext, hctx, hcallback] using h.ndx
  apart := by simpa only [hctx, hcallback] using h.apart
  echo := by rw [hecho, hcallback, hkept, h.echo]
  filling skb hhas hwork := by
    rw [hskb hhas] at hwork
    rw [hcontext]
    exact h.filling skb (hctx.mp hhas) hwork
  inUrb skb := by
    rw [hcontext, hcallback]
    exact h.inUrb skb

end Owned

theorem skbAt_eq (s : TxState) (ctx : Slot) : s.skbAt ctx = s.echoSkb ctx := dif_pos ctx.isLt

theorem setSkb_eq (s : TxState) (ctx : Slot) (skb : Option Nat) :
    s.setSkb ctx skb = { s with echoSkb := Function.update s.echoSkb ctx skb } := dif_pos ctx.isLt

attribute [local simp] TxState.setCtx TxState.setCallback Xmit.ctx Xmit.skb Xmit.kept Callback.skb

theorem Xmit.kept_none {xmit : Xmit} {i : Slot} (h : xmit.ctx ≠ some i) : xmit.kept i = none := by
  cases xmit with
  | filled skb ctx =>
    apply if_neg
    rintro rfl
    exact h rfl
  | _ => rfl

namespace Owned

variable {dlc : Nat → Nat} {s : TxState} {i : Slot} {skb : Nat}

theorem taken (h : Owned dlc s i) (hxmit : s.xmit = .scan skb i)
    (hfree : (s.txContext i).ndx = pandaCtxFree) :
    Owned dlc { s.setCtx i { ndx := i, dlc := dlc skb } with xmit := .marked skb i } i := by
  obtain ⟨-, hidle⟩ := h.unowned hfree
  constructor
  · simp
  · simp [hidle]
  · simp [h.echo, hidle, hxmit]
  · simp
  · simp [hidle]

/-- `can_put_echo_skb` and `can_free_echo_skb` on the context of `panda_usb_start_xmit`. -/
theorem setEcho (h : Owned dlc s i) (xmit : Xmit) (hctx : s.xmit.ctx = some i)
    (hctx' : xmit.ctx = some i) (hskb : xmit.skb = s.xmit.skb) :
    Owned dlc { s with echoSkb := Function.update s.echoSkb i (xmit.kept i), xmit } i := by
  have hidle := h.apart hctx
  constructor
  · exact (h.ndx_xmit hctx).trans (if_pos (.inl hctx')).symm
  · exact fun _ => hidle
  · simp [hidle]
  · intro skb _ hwork
    exact h.filling skb hctx (hskb ▸ hwork)
  · simp [hidle]

theorem submitted (h : Owned dlc s i) (hxmit : s.xmit = .filled skb i) :
    Owned dlc { s.setCallback i (.submitted skb) with xmit := .idle } i := by
  have hctx : s.xmit.ctx = some i := by simp [hxmit]
  have hidle := h.apart hctx
  constructor
  · simp [h.ndx_xmit hctx]
  · simp
  · simp [h.echo, hidle, hxmit]
  · simp
  · intro skb hskb
    exact h.filling skb hctx (by simpa [hxmit] using hskb)

theorem failed (h : Owned dlc s i) (hxmit : s.xmit = .freeCounted skb i) :
    Owned dlc { s.setCtx i { s.txContext i with ndx := pandaCtxFree } with
      xmit := .freeWake skb } i := by
  have hidle := h.apart (by simp [hxmit])
  constructor
  · simp [hidle]
  · simp
  · simp [h.echo, hidle, hxmit]
  · simp
  · simp [hidle]

/-- A callback gave the echo back. -/
theorem echoed (h : Owned dlc s i) (hused : s.callback i ≠ .idle) :
    Owned dlc { s with
      echoSkb := Function.update s.echoSkb i none
      callback := Function.update s.callback i .echoed } i := by
  have hother := h.not_xmit hused
  constructor
  · simp [h.ndx_callback hused]
  · exact fun hctx => absurd hctx hother
  · simp [-Xmit.kept, Xmit.kept_none hother]
  · exact fun _ hctx => absurd hctx hother
  · simp

theorem counted (h : Owned dlc s i) (hcallback : s.callback i = .echoed) :
    Owned dlc (s.setCallback i .counted) i := by
  have hused : s.callback i ≠ .idle := by simp [hcallback]
  have hother := h.not_xmit hused
  constructor
  · simp [h.ndx_callback hused]
  · exact fun hctx => absurd hctx hother
  · simp [h.echo, hcallback]
  · exact fun _ hctx => absurd hctx hother
  · simp

theorem freed (h : Owned dlc s i) (hcallback : s.callback i = .counted) :
    Owned dlc ((s.setCtx i { s.txContext i with ndx := pandaCtxFree }).setCallback i .idle) i := by
  have hother := h.not_xmit (by simp [hcallback])
  constructor
  · simp [-Xmit.ctx, hother]
  · exact fun hctx => absurd hctx hother
  · simp [h.echo, hcallback]
  · exact fun _ hctx => absurd hctx hother
  · simp

end Owned

/-- A move leaves the contexts of others alone, and the one that it is about to its owner. -/
theorem moves_owned {dlc : Nat → Nat} {s s' : TxState} (hmoved : Moves dlc s s')
    (h : ∀ i, Owned dlc s i) (i : Slot) : Owned dlc s' i := by
  cases hmoved with
  | take ctx hxmit hfree =>
    by_cases hi : i = ctx
    · subst hi
      exact (h i).taken hxmit hfree
    · apply (h i).frame <;> simp [hxmit, hi, Ne.symm hi]
  | @put skb ctx hxmit =>
    have hctx : s.xmit.ctx = some ctx := by simp [hxmit]
    rw [(h ctx).ndx_xmit hctx, setSkb_eq]
    by_cases hi : i = ctx
    · subst hi
      simpa using (h i).setEcho (.filled skb i) hctx rfl (by simp [hxmit])
    · apply (h i).frame <;> simp [hxmit, hi, Ne.symm hi]
  | @submitted skb ctx hxmit =>
    by_cases hi : i = ctx
    · subst hi
      exact (h i).submitted hxmit
    · apply (h i).frame <;> simp [hxmit, hi, Ne.symm hi]
  | @failed skb ctx hxmit =>
    have hctx : s.xmit.ctx = some ctx := by simp [hxmit]
    rw [(h ctx).ndx_xmit hctx, setSkb_eq]
    by_cases hi : i = ctx
    · subst hi
      exact (h i).setEcho (.freeCtx skb i) hctx rfl (by simp [hxmit])
    · apply (h i).frame <;> simp [hxmit, hi, Ne.symm hi]
  | @failFree skb ctx hxmit =>
    by_cases hi : i = ctx
    · subst hi
      exact (h i).failed hxmit
    · apply (h i).frame <;> simp [hxmit, hi, Ne.symm hi]
  | @echo skb ctx hcallback =>
    have hused : s.callback ctx ≠ .idle := by simp [hcallback]
    rw [(h ctx).ndx_callback hused, setSkb_eq]
    by_cases hi : i = ctx
    · subst hi
      exact ((h i).echoed hused).frame rfl rfl rfl Iff.rfl (fun _ => rfl) rfl
    · apply (h i).frame <;> simp [hi]
  | @count ctx hcallback =>
    by_cases hi : i = ctx
    · subst hi
      exact ((h i).counted hcallback).frame rfl rfl rfl Iff.rfl (fun _ => rfl) rfl
    · apply (h i).frame <;> simp [hi]
  | @free ctx hcallback =>
    by_cases hi : i = ctx
    · subst hi
      exact ((h i).freed hcallback).frame rfl rfl rfl Iff.rfl (fun _ => rfl) rfl
    · apply (h i).frame <;> simp [hi]
  | wake hwakes => apply (h i).frame <;> simp
  | start hxmit => apply (h i).frame <;> simp [hxmit]
  | pass ctx hxmit => apply (h i).frame <;> simp [hxmit]
  | missed hxmit => apply (h i).frame <;> simp [hxmit]
  | decrease hxmit => apply (h i).frame <;> simp [hxmit]
  | readZero hxmit => apply (h i).frame <;> simp [hxmit]
  | readSome hxmit => apply (h i).frame <;> simp [hxmit]
  | stop hxmit => apply (h i).frame <;> simp [hxmit]
  | oops hxmit => apply (h i).frame <;> simp [hxmit]
  | failCount hxmit => apply (h i).frame <;> simp [hxmit]
  | drop hxmit => apply (h i).frame <;> simp [hxmit]

/-! ### Counting -/

@[irreducible] def number {α : Type*} (p : α → Bool) (f : Slot → α) : Nat := ∑ i, (p (f i)).toNat

theorem number_update {α : Type*} (p : α → Bool) (f : Slot → α) (i : Slot) (v : α) :
    number p (Function.update f i v) + (p (f i)).toNat = number p f + (p v).toNat := by
  have hnew := Finset.add_sum_erase Finset.univ (fun j => (p (Function.update f i v j)).toNat)
    (Finset.mem_univ i)
  have hold := Finset.add_sum_erase Finset.univ (fun j => (p (f j)).toNat) (Finset.mem_univ i)
  have hrest : ∑ j ∈ Finset.univ.erase i, (p (Function.update f i v j)).toNat =
      ∑ j ∈ Finset.univ.erase i, (p (f j)).toNat := by
    apply Finset.sum_congr rfl
    intro j hj
    rw [Function.update_of_ne (Finset.ne_of_mem_erase hj)]
  rw [Function.update_self] at hnew
  unfold number
  omega

def Callback.has (skb : Nat) : Callback → Bool
  | .submitted sent => sent == skb
  | _ => false

/-- The places where a frame is: with `panda_usb_start_xmit`, in a submitted URB, echoed
or dropped. -/
def TxState.places (skb : Nat) (s : TxState) : Nat :=
  (s.xmit.skb == some skb).toNat + number (Callback.has skb) s.callback +
    s.echoed.count skb + s.dropped.count skb

/-- Each frame that was handed over is in one place. -/
def Accounted (s : TxState) : Prop := ∀ skb, s.places skb = if skb < s.handed then 1 else 0

/-- The frame stays where it is. -/
theorem Accounted.congr {s s' : TxState} (h : Accounted s) (hxmit : s'.xmit.skb = s.xmit.skb)
    (hcallback : s'.callback = s.callback) (hechoed : s'.echoed = s.echoed)
    (hdropped : s'.dropped = s.dropped) (hhanded : s'.handed = s.handed) : Accounted s' := by
  intro skb
  rw [hhanded, ← h skb]
  unfold TxState.places
  rw [hxmit, hcallback, hechoed, hdropped]

/-- The frame with `panda_usb_start_xmit` goes to another place, or comes from one. -/
theorem Accounted.of_places {s s' : TxState} (h : Accounted s)
    (hplaces : ∀ skb, s'.places skb = s.places skb) (hhanded : s'.handed = s.handed) :
    Accounted s' := by
  intro skb
  rw [hhanded, hplaces, h skb]

theorem toNat_beq (a b : Nat) : (a == b).toNat = if a = b then 1 else 0 := by
  by_cases h : a = b
  · simp [h]
  · simp [h]

theorem toNat_some_beq (a b : Nat) : (some a == some b).toNat = if a = b then 1 else 0 :=
  toNat_beq a b

theorem moves_accounted {dlc : Nat → Nat} {s s' : TxState} (hmoved : Moves dlc s s')
    (howned : ∀ i, Owned dlc s i) (h : Accounted s) : Accounted s' := by
  have hnone : ∀ skb : Nat, (none == some skb).toNat = 0 := fun _ => rfl
  cases hmoved with
  | start hxmit =>
    intro skb
    have hskb := h skb
    simp only [TxState.places, hxmit, Xmit.skb, toNat_some_beq, hnone] at hskb ⊢
    split_ifs at * <;> omega
  | take _ hxmit _ | pass _ hxmit _ | missed hxmit _ | readZero hxmit _ | readSome hxmit _
  | decrease hxmit | stop hxmit | oops hxmit | failCount hxmit | failFree hxmit =>
    apply h.congr <;> simp [hxmit]
  | @put skb ctx hxmit =>
    rw [(howned ctx).ndx_xmit (by simp [hxmit]), setSkb_eq]
    apply h.congr <;> simp [hxmit]
  | @failed skb ctx hxmit =>
    rw [(howned ctx).ndx_xmit (by simp [hxmit]), setSkb_eq]
    apply h.congr <;> simp [hxmit]
  | @submitted sent ctx hxmit =>
    have hidle := (howned ctx).apart (by simp [hxmit])
    refine h.of_places ?_ rfl
    intro skb
    have hnumber := number_update (Callback.has skb) s.callback ctx (.submitted sent)
    simp only [hidle, Callback.has, Bool.toNat_false] at hnumber
    simp only [TxState.places, TxState.setCallback, hxmit, Xmit.skb, hnone, toNat_some_beq]
    rw [toNat_beq] at hnumber
    omega
  | @drop lost hxmit =>
    refine h.of_places ?_ rfl
    intro skb
    simp only [TxState.places, hxmit, Xmit.skb, hnone, toNat_some_beq, List.count_append,
      List.count_singleton, beq_iff_eq]
    omega
  | @echo sent ctx hcallback =>
    have hused : s.callback ctx ≠ .idle := by simp [hcallback]
    have hecho : s.echoSkb ctx = some sent := by
      rw [(howned ctx).echo, hcallback]
      rfl
    rw [(howned ctx).ndx_callback hused, setSkb_eq, skbAt_eq, hecho]
    refine h.of_places ?_ rfl
    intro skb
    have hnumber := number_update (Callback.has skb) s.callback ctx .echoed
    simp only [hcallback, Callback.has, Bool.toNat_false, toNat_beq] at hnumber
    simp only [TxState.places, TxState.setCallback, Option.toList_some, List.count_append,
      List.count_singleton, beq_iff_eq]
    omega
  | @count ctx hcallback =>
    refine h.of_places ?_ rfl
    intro skb
    have hnumber := number_update (Callback.has skb) s.callback ctx .counted
    simp only [hcallback, Callback.has] at hnumber
    simp only [TxState.places, TxState.setCallback]
    omega
  | @free ctx hcallback =>
    refine h.of_places ?_ rfl
    intro skb
    have hnumber := number_update (Callback.has skb) s.callback ctx .idle
    simp only [hcallback, Callback.has] at hnumber
    simp only [TxState.places, TxState.setCallback, TxState.setCtx]
    omega
  | wake hwakes => exact h.congr rfl rfl rfl rfl rfl

/-- The counters of the device are those of the echoed and the dropped frames. -/
structure Told (dlc : Nat → Nat) (s : TxState) : Prop where
  txPackets : s.stats.txPackets = s.echoed.length
  txBytes : s.stats.txBytes = (s.echoed.map dlc).sum
  txDropped : s.stats.txDropped = s.dropped.length

theorem moves_told {dlc : Nat → Nat} {s s' : TxState} (hmoved : Moves dlc s s')
    (howned : ∀ i, Owned dlc s i) (h : Told dlc s) : Told dlc s' := by
  cases hmoved with
  | @put skb ctx hxmit =>
    rw [(howned ctx).ndx_xmit (by simp [hxmit]), setSkb_eq]
    exact ⟨h.txPackets, h.txBytes, h.txDropped⟩
  | @failed skb ctx hxmit =>
    rw [(howned ctx).ndx_xmit (by simp [hxmit]), setSkb_eq]
    exact ⟨h.txPackets, h.txBytes, h.txDropped⟩
  | drop => exact ⟨h.txPackets, h.txBytes, by simp [h.txDropped]⟩
  | @echo sent ctx hcallback =>
    have hused : s.callback ctx ≠ .idle := by simp [hcallback]
    have hecho : s.echoSkb ctx = some sent := by
      rw [(howned ctx).echo, hcallback]
      rfl
    rw [(howned ctx).ndx_callback hused, setSkb_eq, skbAt_eq, hecho]
    exact ⟨by simp [h.txPackets], by simp [h.txBytes, (howned ctx).inUrb sent hcallback],
      h.txDropped⟩
  | _ => exact ⟨h.txPackets, h.txBytes, h.txDropped⟩

def PandaUsbCtx.isFree (ctx : PandaUsbCtx) : Bool := ctx.ndx == pandaCtxFree

def Callback.isCounted : Callback → Bool
  | .counted => true
  | _ => false

/-- What `panda_usb_start_xmit` has still to take from the count, or has put there too
early. -/
def Xmit.ahead : Xmit → Nat
  | .marked _ _ | .freeCounted _ _ => 1
  | _ => 0

/-- `free_ctx_cnt` is ahead of the free contexts by the threads between their two
statements. -/
def Counted (s : TxState) : Prop :=
  s.freeCtxCnt = number PandaUsbCtx.isFree s.txContext + number Callback.isCounted s.callback +
    s.xmit.ahead

theorem Counted.congr {s s' : TxState} (h : Counted s) (hcnt : s'.freeCtxCnt = s.freeCtxCnt)
    (hcontext : s'.txContext = s.txContext)
    (hcallback : number Callback.isCounted s'.callback = number Callback.isCounted s.callback)
    (hxmit : s'.xmit.ahead = s.xmit.ahead) : Counted s' := by
  unfold Counted
  rw [hcnt, hcontext, hcallback, hxmit]
  exact h

theorem moves_counted {dlc : Nat → Nat} {s s' : TxState} (hmoved : Moves dlc s s')
    (howned : ∀ i, Owned dlc s i) (h : Counted s) : Counted s' := by
  have hused : ∀ i : Slot, s.xmit.ctx = some i ∨ s.callback i ≠ .idle →
      (s.txContext i).isFree = false := by
    intro i hi
    rw [PandaUsbCtx.isFree, (howned i).ndx, if_pos hi]
    exact beq_eq_false_iff_ne.mpr (Nat.ne_of_lt i.isLt)
  cases hmoved with
  | start hxmit | pass _ hxmit | missed hxmit | readZero hxmit | readSome hxmit | stop hxmit
  | oops hxmit | drop hxmit =>
    apply h.congr <;> simp [hxmit, Xmit.ahead]
  | wake hwakes => exact h.congr rfl rfl rfl rfl
  | @take skb ctx hxmit hfree =>
    have hnumber := number_update PandaUsbCtx.isFree s.txContext ctx { ndx := ctx, dlc := dlc skb }
    have hnew : PandaUsbCtx.isFree { ndx := ctx, dlc := dlc skb } = false :=
      beq_eq_false_iff_ne.mpr (Nat.ne_of_lt ctx.isLt)
    have hold : (s.txContext ctx).isFree = true := beq_iff_eq.mpr hfree
    simp only [hnew, hold, Bool.toNat_true, Bool.toNat_false] at hnumber
    simp only [Counted, hxmit, Xmit.ahead] at h
    simp only [Counted, TxState.setCtx, Xmit.ahead]
    omega
  | decrease hxmit =>
    simp only [Counted, hxmit, Xmit.ahead] at h ⊢
    omega
  | @put skb ctx hxmit =>
    rw [(howned ctx).ndx_xmit (by simp [hxmit]), setSkb_eq]
    apply h.congr <;> simp [hxmit, Xmit.ahead]
  | @failed skb ctx hxmit =>
    rw [(howned ctx).ndx_xmit (by simp [hxmit]), setSkb_eq]
    apply h.congr <;> simp [hxmit, Xmit.ahead]
  | @submitted skb ctx hxmit =>
    have hidle := (howned ctx).apart (by simp [hxmit])
    have hnumber := number_update Callback.isCounted s.callback ctx (.submitted skb)
    simp only [hidle, Callback.isCounted] at hnumber
    apply h.congr <;> simp [hxmit, Xmit.ahead]
    omega
  | failCount hxmit =>
    simp only [Counted, hxmit, Xmit.ahead] at h ⊢
    omega
  | @failFree skb ctx hxmit =>
    have hnumber := number_update PandaUsbCtx.isFree s.txContext ctx
      { s.txContext ctx with ndx := pandaCtxFree }
    have hnew : ({ s.txContext ctx with ndx := pandaCtxFree } : PandaUsbCtx).isFree = true := rfl
    have hold := hused ctx (.inl (by simp [hxmit]))
    simp only [hnew, hold, Bool.toNat_true, Bool.toNat_false] at hnumber
    simp only [Counted, hxmit, Xmit.ahead] at h
    simp only [Counted, TxState.setCtx, Xmit.ahead]
    omega
  | @echo skb ctx hcallback =>
    have hnumber := number_update Callback.isCounted s.callback ctx .echoed
    simp only [hcallback, Callback.isCounted] at hnumber
    rw [(howned ctx).ndx_callback (by simp [hcallback]), setSkb_eq]
    apply h.congr <;> simp
    omega
  | @count ctx hcallback =>
    have hnumber := number_update Callback.isCounted s.callback ctx .counted
    simp only [hcallback, Callback.isCounted, Bool.toNat_true, Bool.toNat_false] at hnumber
    simp only [Counted, TxState.setCallback] at h ⊢
    omega
  | @free ctx hcallback =>
    have hnumber := number_update Callback.isCounted s.callback ctx .idle
    simp only [hcallback, Callback.isCounted, Bool.toNat_true, Bool.toNat_false] at hnumber
    have hfree := number_update PandaUsbCtx.isFree s.txContext ctx
      { s.txContext ctx with ndx := pandaCtxFree }
    have hnew : ({ s.txContext ctx with ndx := pandaCtxFree } : PandaUsbCtx).isFree = true := rfl
    have hold := hused ctx (.inr (by simp [hcallback]))
    simp only [hnew, hold, Bool.toNat_true, Bool.toNat_false] at hfree
    simp only [Counted, TxState.setCallback, TxState.setCtx] at h ⊢
    omega

/-- While the queue is stopped, someone is on the way to wake it. -/
def Waking (s : TxState) : Prop :=
  s.queueStopped = true → s.wakes > 0 ∨ (∃ i, s.callback i ≠ .idle) ∨ s.xmit ≠ .idle

theorem moves_waking {dlc : Nat → Nat} {s s' : TxState} (hmoved : Moves dlc s s') :
    Waking s' := by
  intro hstopped
  cases hmoved with
  | @submitted _ ctx | @echo _ ctx => exact .inr (.inl ⟨ctx, by simp⟩)
  | @count ctx => exact .inr (.inl ⟨ctx, by simp⟩)
  | free => exact .inl (Nat.succ_pos _)
  | drop | wake => cases hstopped
  | _ => exact .inr (.inr (by simp))

/-! ### Runs -/

/-- What holds between two steps of any threads. -/
structure Sound (dlc : Nat → Nat) (s : TxState) : Prop where
  owned : ∀ i, Owned dlc s i
  accounted : Accounted s
  told : Told dlc s
  counted : Counted s
  waking : Waking s

theorem number_const {α : Type*} {p : α → Bool} {f : Slot → α} {b : Bool}
    (h : ∀ i, p (f i) = b) : number p f = if b then pandaMaxTxUrbs else 0 := by
  unfold number
  simp only [h, Finset.sum_const, Finset.card_univ, Fintype.card_fin]
  cases b <;> rfl

theorem sound_start (dlc : Nat → Nat) : Sound dlc {} where
  owned _ := ⟨rfl, fun _ => rfl, rfl, nofun, nofun⟩
  accounted skb := by
    have hnone : number (Callback.has skb) (fun _ : Slot => Callback.idle) = 0 :=
      number_const fun _ => rfl
    simp [TxState.places, hnone]
  told := ⟨rfl, rfl, rfl⟩
  counted := by
    have hfree : number PandaUsbCtx.isFree (fun _ : Slot => ({} : PandaUsbCtx)) = pandaMaxTxUrbs :=
      number_const fun _ => rfl
    have hnone : number Callback.isCounted (fun _ : Slot => Callback.idle) = 0 :=
      number_const fun _ => rfl
    simp [Counted, hfree, hnone, Xmit.ahead]
  waking := nofun

theorem Sound.moves {dlc : Nat → Nat} {s s' : TxState} (h : Sound dlc s) (hmoved : Moves dlc s s') :
    Sound dlc s' where
  owned := moves_owned hmoved h.owned
  accounted := moves_accounted hmoved h.owned h.accounted
  told := moves_told hmoved h.owned h.told
  counted := moves_counted hmoved h.owned h.counted
  waking := moves_waking hmoved

theorem run_sound (dlc : Nat → Nat) (events : List TxEvent) :
    Sound dlc (run (txStep dlc) {} events) := by
  apply run_invariant _ (sound_start dlc)
  intro s e h
  rcases txStep_moves dlc s e with hsame | hmoved
  · rw [hsame]
    exact h
  · exact h.moves hmoved

/-- In any order of the steps each frame that was handed over is in one place, with
`panda_usb_start_xmit`, in one URB, echoed or dropped, and the counters of the device say
how many were. When all threads are done, every context is free and counted, and the queue
is not stopped. -/
theorem tx_contexts (dlc : Nat → Nat) (events : List TxEvent) :
    let s := run (txStep dlc) {} events
    (∀ skb, s.places skb = if skb < s.handed then 1 else 0) ∧
    (s.stats.txPackets = s.echoed.length ∧ s.stats.txBytes = (s.echoed.map dlc).sum ∧
      s.stats.txDropped = s.dropped.length) ∧
    (s.xmit = .idle → s.wakes = 0 → (∀ i, s.callback i = .idle) →
      s.queueStopped = false ∧ s.freeCtxCnt = pandaMaxTxUrbs ∧
        ∀ i, (s.txContext i).ndx = pandaCtxFree) := by
  intro s
  have hsound : Sound dlc s := run_sound dlc events
  refine ⟨hsound.accounted, ⟨hsound.told.txPackets, hsound.told.txBytes, hsound.told.txDropped⟩, ?_⟩
  intro hxmit hwakes hcallback
  have hfree : ∀ i, (s.txContext i).ndx = pandaCtxFree := by
    intro i
    rw [(hsound.owned i).ndx, hxmit, hcallback]
    rfl
  refine ⟨?_, ?_, hfree⟩
  · rw [← Bool.not_eq_true]
    intro hstopped
    rcases hsound.waking hstopped with hpending | ⟨i, hbusy⟩ | hbusy
    · omega
    · exact hbusy (hcallback i)
    · exact hbusy hxmit
  · have hall : ∀ i, (s.txContext i).isFree = true := fun i => beq_iff_eq.mpr (hfree i)
    have hnone : ∀ i, (s.callback i).isCounted = false := by
      intro i
      rw [hcallback i]
      rfl
    rw [hsound.counted, number_const hall, number_const hnone, hxmit]
    rfl

/-! ### Threads that overlap -/

/-- It is in `panda_usb_get_free_ctx`. -/
def Xmit.getting : Xmit → Bool
  | .scan _ _ | .marked _ _ | .read _ _ | .stop _ _ => true
  | _ => false

/-- It is in `panda_usb_free_ctx`, after the first statement. -/
def Xmit.freeing : Xmit → Bool
  | .freeCounted _ _ | .freeWake _ => true
  | _ => false

/-- No callback is in `panda_usb_free_ctx`, after the first statement. -/
def NoneFreeing (s : TxState) : Prop := s.wakes = 0 ∧ ∀ i, s.callback i ≠ .counted

/-- `panda_usb_get_free_ctx` and `panda_usb_free_ctx` do not overlap. -/
def Apart (s : TxState) : Prop := s.xmit.getting = true → NoneFreeing s

instance : DecidablePred Apart := fun s =>
  inferInstanceAs (Decidable (s.xmit.getting = true → s.wakes = 0 ∧ ∀ i, s.callback i ≠ .counted))

/-- The context that `panda_usb_get_free_ctx` has found, or finds, is there. -/
def Xmit.Succeeds (s : TxState) : Xmit → Prop
  | .scan _ i => ∃ ctx : Slot, i ≤ ctx ∧ (s.txContext ctx).ndx = pandaCtxFree
  | .read _ ctx | .stop _ ctx | .found _ ctx => ctx ≠ none
  | .oops _ => False
  | _ => True

/-- A queue that is not stopped, or that is about to be woken, has a context. -/
structure Open (s : TxState) : Prop where
  apart : Apart s
  awake : s.xmit.getting = false → s.queueStopped = false → 0 < s.freeCtxCnt
  freeing : ¬ NoneFreeing s ∨ s.xmit.freeing = true → 0 < s.freeCtxCnt
  succeeds : s.xmit.Succeeds s

theorem number_pos {α : Type*} {p : α → Bool} {f : Slot → α} (h : 0 < number p f) :
    ∃ i, p (f i) = true := by
  by_contra hnone
  push Not at hnone
  rw [number_const fun i => Bool.eq_false_iff.mpr (hnone i)] at h
  exact absurd h (by decide)

theorem Xmit.Succeeds.mono {s s' : TxState} {xmit : Xmit} (h : xmit.Succeeds s)
    (hfree : ∀ i, (s.txContext i).ndx = pandaCtxFree → (s'.txContext i).ndx = pandaCtxFree) :
    xmit.Succeeds s' := by
  cases xmit with
  | scan skb i =>
    obtain ⟨ctx, hle, hctx⟩ := h
    exact ⟨ctx, hle, hfree ctx hctx⟩
  | _ => exact h

theorem NoneFreeing.update {s : TxState} (h : NoneFreeing s) {ctx : Slot} {callback : Callback}
    (hcallback : callback ≠ .counted) :
    s.wakes = 0 ∧ ∀ i, Function.update s.callback ctx callback i ≠ .counted := by
  refine ⟨h.1, ?_⟩
  intro i
  by_cases hi : i = ctx
  · subst hi
    rw [Function.update_self]
    exact hcallback
  · rw [Function.update_of_ne hi]
    exact h.2 i

theorem Sound.cnt_nonneg {dlc : Nat → Nat} {s : TxState} (h : Sound dlc s) : 0 ≤ s.freeCtxCnt := by
  rw [h.counted]
  exact Int.natCast_nonneg _

/-- The count is right where no thread is between its two statements. -/
theorem Sound.exists_free {dlc : Nat → Nat} {s : TxState} (h : Sound dlc s)
    (hxmit : s.xmit.ahead = 0) (hnone : NoneFreeing s) (hcnt : 0 < s.freeCtxCnt) :
    ∃ ctx, (s.txContext ctx).ndx = pandaCtxFree := by
  have hcounted : ∀ i, (s.callback i).isCounted = false := by
    intro i
    have hi := hnone.2 i
    cases hcallback : s.callback i with
    | counted => exact absurd hcallback hi
    | _ => rfl
  have hnumber : s.freeCtxCnt = number PandaUsbCtx.isFree s.txContext := by
    rw [h.counted, number_const hcounted, hxmit]
    rfl
  rw [hnumber, Int.natCast_pos] at hcnt
  obtain ⟨ctx, hctx⟩ := number_pos hcnt
  exact ⟨ctx, beq_iff_eq.mp hctx⟩

theorem Xmit.not_freeing {xmit : Xmit} (h : xmit.getting = true) : xmit.freeing = false := by
  cases xmit with
  | scan | marked | read | stop => rfl
  | _ => cases h

/-- In `panda_usb_get_free_ctx` only the context matters. -/
theorem Open.of_getting {s : TxState} (hgetting : s.xmit.getting = true) (happart : Apart s)
    (hsucceeds : s.xmit.Succeeds s) : Open s where
  apart := happart
  awake hnot := by
    rw [hgetting] at hnot
    cases hnot
  freeing hbusy := by
    rw [Xmit.not_freeing hgetting] at hbusy
    exact absurd (happart hgetting) (hbusy.resolve_right Bool.false_ne_true)
  succeeds := hsucceeds

theorem moves_open {dlc : Nat → Nat} {s s' : TxState} (hmoved : Moves dlc s s')
    (hsound : Sound dlc s) (happart : Apart s') (h : Open s) : Open s' := by
  have hcnt := hsound.cnt_nonneg
  have hthere := h.succeeds
  cases hmoved with
  | start hxmit hqueue =>
    have hpos := h.awake (by rw [hxmit]; rfl) hqueue
    obtain ⟨ctx, hctx⟩ := hsound.exists_free (by rw [hxmit]; rfl) (happart rfl) hpos
    exact .of_getting rfl happart ⟨ctx, Nat.zero_le _, hctx⟩
  | take ctx hxmit hfree => exact .of_getting rfl happart trivial
  | pass ctx hxmit htaken =>
    rw [hxmit] at hthere
    obtain ⟨later, hle, hlater⟩ := hthere
    have hne : (later : Nat) ≠ ctx := by
      intro heq
      rw [Fin.ext heq] at hlater
      exact htaken hlater
    exact .of_getting rfl happart ⟨later, by omega, hlater⟩
  | missed hxmit hi =>
    rw [hxmit] at hthere
    obtain ⟨ctx, hle, -⟩ := hthere
    omega
  | decrease hxmit => exact .of_getting rfl happart nofun
  | readZero hxmit hzero =>
    rw [hxmit] at hthere
    exact .of_getting rfl happart hthere
  | readSome hxmit hsome =>
    have hpos : 0 < s.freeCtxCnt := by omega
    rw [hxmit] at hthere
    exact ⟨happart, fun _ _ => hpos, fun _ => hpos, hthere⟩
  | stop hxmit =>
    have hnone : NoneFreeing s := h.apart (by rw [hxmit]; rfl)
    rw [hxmit] at hthere
    refine ⟨happart, nofun, fun hbusy => ?_, hthere⟩
    cases hbusy.resolve_left (not_not_intro hnone)
  | oops hxmit =>
    rw [hxmit] at hthere
    exact absurd rfl hthere
  | @put skb ctx hxmit =>
    rw [(hsound.owned ctx).ndx_xmit (by simp [hxmit]), setSkb_eq] at *
    refine ⟨happart, fun _ hqueue => h.awake (by rw [hxmit]; rfl) hqueue, fun hbusy => ?_, trivial⟩
    exact h.freeing (.inl (hbusy.resolve_right nofun))
  | @failed skb ctx hxmit =>
    rw [(hsound.owned ctx).ndx_xmit (by simp [hxmit]), setSkb_eq] at *
    refine ⟨happart, fun _ hqueue => h.awake (by rw [hxmit]; rfl) hqueue, fun hbusy => ?_, trivial⟩
    exact h.freeing (.inl (hbusy.resolve_right nofun))
  | @submitted skb ctx hxmit =>
    refine ⟨happart, fun _ hqueue => h.awake (by rw [hxmit]; rfl) hqueue, fun hbusy => ?_, trivial⟩
    apply h.freeing
    left
    intro hnone
    exact hbusy.resolve_right nofun (hnone.update nofun)
  | failCount hxmit =>
    have hpos : 0 < s.freeCtxCnt + 1 := by omega
    exact ⟨happart, fun _ _ => hpos, fun _ => hpos, trivial⟩
  | failFree hxmit =>
    have hpos := h.freeing (.inr (by rw [hxmit]; rfl))
    exact ⟨happart, fun _ _ => hpos, fun _ => hpos, trivial⟩
  | drop hxmit =>
    have hpos := h.freeing (.inr (by rw [hxmit]; rfl))
    exact ⟨happart, fun _ _ => hpos, fun _ => hpos, trivial⟩
  | @echo skb ctx hcallback =>
    rw [(hsound.owned ctx).ndx_callback (by simp [hcallback]), setSkb_eq] at *
    refine ⟨happart, h.awake, fun hbusy => ?_, hthere⟩
    apply h.freeing
    rcases hbusy with hcounted | hfreeing
    · exact .inl fun hnone => hcounted (hnone.update nofun)
    · exact .inr hfreeing
  | @count ctx hcallback =>
    have hpos : 0 < s.freeCtxCnt + 1 := by omega
    exact ⟨happart, fun _ _ => hpos, fun _ => hpos, hthere⟩
  | @free ctx hcallback =>
    have hpos := h.freeing (.inl fun hnone => hnone.2 ctx hcallback)
    refine ⟨happart, fun _ _ => hpos, fun _ => hpos, hthere.mono ?_⟩
    intro i hi
    by_cases hctx : i = ctx
    · simp [hctx]
    · simp [hctx, hi]
  | wake hwakes =>
    have hpos := h.freeing (.inl fun hnone => Nat.ne_of_gt hwakes hnone.1)
    exact ⟨happart, fun _ _ => hpos, fun _ => hpos, hthere⟩

theorem run_open {dlc : Nat → Nat} {s : TxState} {events : List TxEvent} (hsound : Sound dlc s)
    (h : Open s) (happart : Always (txStep dlc) Apart s events) :
    Open (run (txStep dlc) s events) := by
  induction events generalizing s with
  | nil => exact h
  | cons e events ih =>
    obtain ⟨-, htail⟩ := happart
    rcases txStep_moves dlc s e with hsame | hmoved
    · rw [hsame] at htail
      rw [run_cons, hsame]
      exact ih hsound h htail
    · exact ih (hsound.moves hmoved) (moves_open hmoved hsound htail.head h) htail

/-- A frame in the state where the first contexts are in use. -/
def fire (used : Nat) : List TxEvent :=
  .startXmit :: List.replicate (used + 5) .xmit ++ [.submit false]

/-- The callback of the first frame is slow: the count goes up before the last context is
taken, and the queue is woken after its own context is taken again. -/
def lateWake : List TxEvent :=
  (List.range 19).flatMap fire ++
    .startXmit :: List.replicate 21 .xmit ++ [.callback 0, .callback 0, .callback 0] ++
    List.replicate 3 .xmit ++ .submit false :: fire 0 ++
    [.wake, .startXmit] ++ List.replicate 24 .xmit

/-- As long as `panda_usb_get_free_ctx` and `panda_usb_free_ctx` do not overlap,
`panda_usb_start_xmit` has a context. Where they do, it may have none, and reads the
`ndx` of a null pointer. -/
theorem start_xmit_has_context :
    (∀ dlc events, Always (txStep dlc) Apart {} events →
      ∀ skb, (run (txStep dlc) {} events).xmit ≠ .oops skb) ∧
    ∃ dlc events skb, (run (txStep dlc) {} events).xmit = .oops skb := by
  constructor
  · intro dlc events happart skb hoops
    have hstart : Open {} := ⟨nofun, fun _ _ => by decide, fun _ => by decide, trivial⟩
    have hrun := run_open (sound_start dlc) hstart happart
    have hthere := hrun.succeeds
    rw [hoops] at hthere
    exact hthere
  · exact ⟨fun _ => 8, lateWake, 21, by decide +kernel⟩

/-- All contexts are taken, and the queue stays stopped until the callback of the first
frame is done. -/
def wokenInTime : List TxEvent :=
  (List.range 20).flatMap fire ++ [.callback 0, .callback 0, .callback 0, .startXmit, .wake] ++
    fire 0

theorem start_xmit_has_context_woken :
    (run (txStep fun _ => 8) {} wokenInTime).handed = 21 ∧
      ∀ skb, (run (txStep fun _ => 8) {} wokenInTime).xmit ≠ .oops skb := by
  have happart : Always (txStep fun _ => 8) Apart {} wokenInTime := by
    decide +kernel
  exact ⟨by decide +kernel, start_xmit_has_context.1 _ wokenInTime happart⟩

end Panda.Host
