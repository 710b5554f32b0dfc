import Switchboard.Proofs.WorldFrame
/-!
# A connection's queue and its write loop

Everything sent to a connection goes through its queue: producers (handlers, the presence
ticker, notifications, the connect-time snapshot) offer envelopes with `Connection.enqueue`,
close reasons are recorded on the connection with `Connection.close`, and the write loop is the
only writer of the transport. Each turn of the write loop is one select over three branches
(`Branch`): the close reason arrived, an envelope waits, the heartbeat is due; it takes one of
the ready ones, at random. A `Pump` is that one connection's part of the world over a transport
that takes every write: the connection's record, whether its write loop runs, the frames
written, and, kept for the statements only, the envelopes the queue accepted. Its actions,
offers, closes and select turns through any branch, come in any order along an unending
schedule (`Pump.trace`); the random pick is weakly fair to the close branch, which once ready
stays ready until taken. `writeTurn_pump` shows that the world's write turn is a select turn
of the pump through a ready branch.

Main statement, `egress_delivery`: at every point of every schedule of a pump on a fresh queue
of capacity `max cap 1`, an offer is taken exactly when the queue is open and holds fewer than
`max cap 1` envelopes; the texts written, followed by what waits, are the accepted envelopes in
order; once a close reason is recorded the close branch is ready, taking it writes what waits
and one close frame and ends the loop, and every other action leaves the reason and the loop
as they are; under a fair pick the loop does end; and a loop that ended has written every
accepted envelope and then its close frame, and never changes again.
-/

/-! ## The queue -/

namespace Switchboard.Egress

open Wire

theorem offer_fst (q : Egress) (e : Envelope) :
    (q.offer e).1 = (!q.closed && decide (q.items.length < q.capacity)) := by
  unfold offer
  cases q.closed
  · by_cases hl : q.items.length < q.capacity
    · simp [hl, Nat.not_le.2 hl]
    · simp [hl, Nat.le_of_not_lt hl]
  · simp

theorem offer_snd (q : Egress) (e : Envelope) :
    (q.offer e).2 = if (q.offer e).1 then { q with items := q.items ++ [e] } else q := by
  unfold offer
  split <;> simp_all

@[simp] theorem offer_capacity (q : Egress) (e : Envelope) : (q.offer e).2.capacity = q.capacity := by
  rw [offer_snd]; split <;> rfl

@[simp] theorem offer_closed (q : Egress) (e : Envelope) : (q.offer e).2.closed = q.closed := by
  rw [offer_snd]; split <;> rfl

end Switchboard.Egress

namespace Switchboard.Live

open Wire

def Frame.envelope? : Frame → Option Envelope
  | .text e => some e
  | _ => none

/-- The envelopes among written frames, in order; pings and close frames carry none. -/
def texts (fs : List Frame) : List Envelope := fs.filterMap Frame.envelope?

@[simp] theorem texts_nil : texts [] = [] := rfl

@[simp] theorem texts_append (fs gs : List Frame) : texts (fs ++ gs) = texts fs ++ texts gs :=
  List.filterMap_append

@[simp] theorem texts_map_text (es : List Envelope) : texts (es.map .text) = es := by
  simp [texts, List.filterMap_map, Function.comp_def, Frame.envelope?]

@[simp] theorem texts_ping : texts [.ping] = [] := rfl

@[simp] theorem texts_close (r : CloseReason) : texts [.close r] = [] := rfl

/-! ## The pump -/

/-- One connection's queue and write loop over a transport that takes every write: the
connection's record (its queue and close reason), whether the loop runs, the frames written to the
peer oldest first, and the envelopes the queue accepted, in order. -/
structure Pump where
  conn : Connection
  running : Bool
  written : List Frame
  accepted : List Envelope

/-- What can happen to a connection's queue and write loop: an offer from any producer, a close
reason recorded, a turn of the write loop through a branch of its select. -/
inductive PumpAct where
  | offer (e : Envelope)
  | close (r : CloseReason)
  | select (b : Branch)

namespace Pump

def start (x : Connection) : Pump := ⟨x, true, [], []⟩

def ready (p : Pump) (b : Branch) : Bool := p.running && b.ready p.conn

/-- One action. An offer answers whether the queue took the envelope, a close whether the reason
took, a select whether its branch was ready; a branch that is not ready does nothing. -/
def step (p : Pump) : PumpAct → Bool × Pump
  | .offer e =>
    let (ok, conn) := p.conn.enqueue e
    (ok, { p with conn, accepted := if ok then p.accepted ++ [e] else p.accepted })
  | .close r => ((p.conn.close r).1, { p with conn := (p.conn.close r).2 })
  | .select b =>
    if p.ready b then
      let (fs, q, going) := b.take p.conn
      (true, { p with conn := { p.conn with egress := q }, running := going, written := p.written ++ fs })
    else (false, p)

def run (p : Pump) : List PumpAct → Pump
  | [] => p
  | a :: as => (p.step a).2.run as

def trace (p : Pump) (σ : Nat → PumpAct) : Nat → Pump
  | 0 => p
  | n + 1 => ((p.trace σ n).step (σ n)).2

theorem offer_fst (p : Pump) (e : Envelope) :
    (p.step (.offer e)).1 =
      (!p.conn.egress.closed && decide (p.conn.egress.items.length < p.conn.egress.capacity)) :=
  Egress.offer_fst _ _

/-! Each action, as the pump it leaves. -/

variable {p : Pump}

theorem step_offer (p : Pump) (e : Envelope) :
    (p.step (.offer e)).2 =
      { p with conn := { p.conn with egress := (p.conn.egress.offer e).2 },
               accepted := if (p.conn.egress.offer e).1 then p.accepted ++ [e] else p.accepted } := rfl

theorem step_close (p : Pump) (r : CloseReason) :
    (p.step (.close r)).2 = { p with conn := (p.conn.close r).2 } := rfl

theorem step_select {b : Branch} (h : p.ready b = true) :
    (p.step (.select b)).2 =
      { p with conn := { p.conn with egress := (b.take p.conn).2.1 }, running := (b.take p.conn).2.2,
               written := p.written ++ (b.take p.conn).1 } := by
  simp [step, h]

theorem step_select_of_not_ready {b : Branch} (h : p.ready b = false) : (p.step (.select b)).2 = p := by
  simp [step, h]

theorem closeReason_step {r : CloseReason} (h : p.conn.closeReason = some r) (a : PumpAct) :
    (p.step a).2.conn.closeReason = some r := by
  cases a with
  | offer e => exact h
  | close r' => simp [step_close, h]
  | select b =>
    cases hb : p.ready b with
    | false => rw [step_select_of_not_ready hb, h]
    | true => rw [step_select hb]; exact h

theorem running_step {a : PumpAct} (ha : a ≠ .select .shut) (hr : p.running = true) :
    (p.step a).2.running = true := by
  cases a with
  | offer e => exact hr
  | close r => exact hr
  | select b =>
    have hb : b ≠ .shut := fun h => ha (h ▸ rfl)
    cases hready : p.ready b with
    | false => rw [step_select_of_not_ready hready, hr]
    | true => rw [step_select hready]; exact Branch.take_going hb

theorem trace_succ (σ : Nat → PumpAct) (n : Nat) : p.trace σ (n + 1) = ((p.trace σ n).step (σ n)).2 := rfl

end Pump

/-! ## What every run keeps -/

/-- What a pump on a queue of capacity `max cap 1` keeps along every run. -/
structure Delivers (cap : Nat) (p : Pump) : Prop where
  capacity : p.conn.egress.capacity = max cap 1
  /-- The texts written, then the envelopes waiting, are the accepted envelopes in order. -/
  order : texts p.written ++ p.conn.egress.items = p.accepted
  /-- A running loop has an open queue and has written no close frame. -/
  running : p.running = true → p.conn.egress.closed = false ∧ ∀ r, Frame.close r ∉ p.written
  /-- A loop that ended wrote one close frame, last, with the recorded reason, and left its
  queue empty and closed. -/
  ended : p.running = false → ∃ r pre, p.conn.closeReason = some r ∧ p.written = pre ++ [.close r] ∧
    (∀ r', Frame.close r' ∉ pre) ∧ p.conn.egress.items = [] ∧ p.conn.egress.closed = true

namespace Delivers

variable {cap : Nat} {p : Pump}

theorem start (c : ConnId) (identity : Identity) (cap : Nat) (at_ : Time.Instant) :
    Delivers cap (Pump.start (Connection.make c identity cap at_)) where
  capacity := rfl
  order := rfl
  running := fun _ => ⟨rfl, fun _ h => nomatch h⟩
  ended := fun h => nomatch h

theorem offer (h : Delivers cap p) (e : Envelope) : Delivers cap (p.step (.offer e)).2 := by
  rw [Pump.step_offer]
  have hq := Egress.offer_snd p.conn.egress e
  -- the queue's capacity and openness stay; a taken envelope joins the queue and the accepted ones
  refine ⟨by simpa using h.capacity, ?_, fun hr => by simpa using h.running hr, fun hr => ?_⟩
  · dsimp only
    rw [hq, ← h.order]
    split <;> simp
  · obtain ⟨r, pre, hreason, hw, hpre, hitems, hclosed⟩ := h.ended hr
    -- a closed queue refuses the offer
    have hrefused : (p.conn.egress.offer e).1 = false := by simp [Egress.offer_fst, hclosed]
    refine ⟨r, pre, hreason, hw, hpre, ?_, by simpa using hclosed⟩
    dsimp only
    rw [hq, hrefused]
    exact hitems

theorem close (h : Delivers cap p) (r : CloseReason) : Delivers cap (p.step (.close r)).2 := by
  rw [Pump.step_close]
  refine ⟨by simpa using h.capacity, by simpa using h.order, fun hr => by simpa using h.running hr,
    fun hr => ?_⟩
  obtain ⟨r₀, pre, hr₀, hw, hpre, hitems, hclosed⟩ := h.ended hr
  -- the reason recorded first stays
  refine ⟨r₀, pre, ?_, hw, hpre, by simpa using hitems, by simpa using hclosed⟩
  simp [hr₀]

theorem shut (h : Delivers cap p) (hr : p.running = true) {r : CloseReason}
    (hreason : p.conn.closeReason = some r) :
    Delivers cap { p with
      conn := { p.conn with egress := p.conn.egress.discard }
      running := false
      written := p.written ++ (p.conn.egress.items.map .text ++ [.close r]) } := by
  obtain ⟨-, hnone⟩ := h.running hr
  refine ⟨h.capacity, by simpa [Egress.discard] using h.order, (fun h' => nomatch h'), fun _ => ?_⟩
  refine ⟨r, p.written ++ p.conn.egress.items.map .text, hreason, by simp, fun r' hmem => ?_, rfl, rfl⟩
  rcases List.mem_append.1 hmem with hmem | hmem
  · exact hnone r' hmem
  · simp at hmem

theorem recv (h : Delivers cap p) (hr : p.running = true) {e : Envelope} {es : List Envelope}
    (hitems : p.conn.egress.items = e :: es) :
    Delivers cap { p with
      conn := { p.conn with egress := { p.conn.egress with items := es } }
      running := true
      written := p.written ++ [.text e] } := by
  obtain ⟨hopen, hnone⟩ := h.running hr
  have horder := h.order
  rw [hitems] at horder
  refine ⟨h.capacity, by simpa [texts, Frame.envelope?] using horder,
    fun _ => ⟨hopen, fun r hmem => ?_⟩, fun h' => nomatch h'⟩
  rcases List.mem_append.1 hmem with hmem | hmem
  · exact hnone r hmem
  · simp at hmem

theorem tick (h : Delivers cap p) (hr : p.running = true) :
    Delivers cap { p with running := true, written := p.written ++ [.ping] } := by
  obtain ⟨hopen, hnone⟩ := h.running hr
  refine ⟨h.capacity, by simpa using h.order, fun _ => ⟨hopen, fun r hmem => ?_⟩, fun h' => nomatch h'⟩
  rcases List.mem_append.1 hmem with hmem | hmem
  · exact hnone r hmem
  · simp at hmem

theorem select (h : Delivers cap p) (b : Branch) : Delivers cap (p.step (.select b)).2 := by
  cases hready : p.ready b with
  | false => rw [Pump.step_select_of_not_ready hready]; exact h
  | true =>
    rw [Pump.step_select hready]
    obtain ⟨hr, hb⟩ : p.running = true ∧ b.ready p.conn = true := by simpa [Pump.ready] using hready
    cases b with
    | shut =>
      obtain ⟨r, hreason⟩ := Option.isSome_iff_exists.1 hb
      rw [Branch.take_shut hreason]
      exact h.shut hr hreason
    | recv =>
      obtain ⟨e, es, hitems⟩ : ∃ e es, p.conn.egress.items = e :: es := by
        simpa [Branch.ready, List.isEmpty_iff, List.ne_nil_iff_exists_cons] using hb
      rw [Branch.take_recv hitems]
      exact h.recv hr hitems
    | tick =>
      rw [Branch.take_tick]
      exact h.tick hr

theorem step (h : Delivers cap p) (a : PumpAct) : Delivers cap (p.step a).2 := by
  cases a with
  | offer e => exact h.offer e
  | close r => exact h.close r
  | select b => exact h.select b

theorem run (h : Delivers cap p) (acts : List PumpAct) : Delivers cap (p.run acts) := by
  induction acts generalizing p with
  | nil => exact h
  | cons a acts ih => exact ih (h.step a)

theorem trace (h : Delivers cap p) (σ : Nat → PumpAct) (n : Nat) : Delivers cap (p.trace σ n) := by
  induction n with
  | zero => exact h
  | succ n ih => exact ih.step (σ n)

/-- A loop that ended refuses every offer, keeps its reason, writes nothing more: every action
leaves the pump as it is. -/
theorem step_of_ended (h : Delivers cap p) (hr : p.running = false) (a : PumpAct) :
    (p.step a).2 = p := by
  obtain ⟨r, pre, hreason, -, -, -, hclosed⟩ := h.ended hr
  cases a with
  | offer e =>
    have hrefused : (p.conn.egress.offer e).1 = false := by simp [Egress.offer_fst, hclosed]
    rw [Pump.step_offer, Egress.offer_snd, hrefused]
    rfl
  | close r' => simp [Pump.step_close, Connection.close, hreason]
  | select b => exact Pump.step_select_of_not_ready (by simp [Pump.ready, hr])

theorem run_of_ended (h : Delivers cap p) (hr : p.running = false) (acts : List PumpAct) :
    p.run acts = p := by
  induction acts with
  | nil => rfl
  | cons a acts ih => simp only [Pump.run, h.step_of_ended hr a, ih]

end Delivers

/-! ## A fair pick ends the loop -/

/-- Weak fairness: an event enabled at every point from some point on happens at some point
after it. -/
def WeakFair (enabled occurs : Nat → Prop) : Prop :=
  ∀ m, (∀ n, m ≤ n → enabled n) → ∃ n, m ≤ n ∧ occurs n

namespace Pump

variable {p : Pump} {σ : Nat → PumpAct}

theorem closeReason_trace {m : Nat} {r : CloseReason} (h : (p.trace σ m).conn.closeReason = some r) :
    ∀ n, m ≤ n → (p.trace σ n).conn.closeReason = some r := by
  intro n hn
  obtain ⟨d, rfl⟩ := Nat.exists_eq_add_of_le hn
  induction d with
  | zero => exact h
  | succ d ih => exact closeReason_step (ih (Nat.le_add_right m d)) (σ (m + d))

/-- Once a close reason is recorded, a schedule whose pick is fair to the close branch ends the
loop: the close branch stays ready while the loop runs, so it is taken, and taking it ends the
loop. -/
theorem ends_of_fair {m : Nat} (hreason : (p.trace σ m).conn.closeReason.isSome)
    (hfair : WeakFair (fun n => (p.trace σ n).ready .shut = true) (fun n => σ n = .select .shut)) :
    ∃ n, m ≤ n ∧ (p.trace σ n).running = false := by
  obtain ⟨r, hr⟩ := Option.isSome_iff_exists.1 hreason
  apply Classical.byContradiction
  intro hnot
  have hrunning : ∀ n, m ≤ n → (p.trace σ n).running = true := fun n hn => by
    cases h : (p.trace σ n).running with
    | true => rfl
    | false => exact absurd ⟨n, hn, h⟩ hnot
  have hready : ∀ n, m ≤ n → (p.trace σ n).ready .shut = true := fun n hn => by
    simp [ready, hrunning n hn, Branch.ready, closeReason_trace hr n hn]
  obtain ⟨n, hn, hσ⟩ := hfair m hready
  -- the close branch taken at `n` ends the loop at `n + 1`
  have hend : (p.trace σ (n + 1)).running = false := by
    rw [trace_succ, hσ, step_select (hready n hn)]
    rfl
  exact absurd (hrunning (n + 1) (by omega)) (by simp [hend])

end Pump

/-! ## The world's write turn is a select turn of the pump -/

section WriteTurn

variable {w : World} {c : ConnId} {l : Link} {x : Connection}

/-- With neither the close branch nor the receive branch ready, the world's write loop waits. -/
theorem writeTurn_of_not_ready (hx : w.hub.conn? l.conn = some x) (hshut : Branch.shut.ready x = false)
    (hrecv : Branch.recv.ready x = false) : w.writeTurn l = (false, w) := by
  have hpick : World.pick? x = none := World.pick?_eq_none.2 ⟨hshut, hrecv⟩
  unfold World.writeTurn
  split
  · rfl
  · rw [hx]
    simp only [hpick]

/-- A turn of the write loop of `c` over a transport that takes writes is the pump's select turn
through the branch the world picks, a ready one: it writes the pump's frames to `c`, leaves the
pump's record, and runs on as the pump's loop does. -/
theorem writeTurn_pump {b : Branch} (hl : w.link? c = some l) (hsink : l.sinkOk = true)
    (hx : w.hub.conn? c = some x) (hpick : World.pick? x = some b) (acc : List Envelope) :
    let p := (Pump.mk x l.writing [] acc).step (.select b)
    (w.writeTurn l).2.outbox = w.outbox ++ p.2.written.map (c, ·) ∧
      (w.writeTurn l).2.hub.conn? c = some p.2.conn ∧
      ((w.writeTurn l).2.link? c).map (·.writing) = some p.2.running := by
  intro p
  have hc : l.conn = c := World.conn_of_link? hl
  have hb := World.pick?_ready hpick
  cases hw : l.writing with
  | false =>
    have hp : p = (false, Pump.mk x false [] acc) := by simp [p, hw, Pump.step, Pump.ready]
    rw [hp]
    simp [World.writeTurn, hw, hl, hx]
  | true =>
    have hp : p.2 = {
        conn := { x with egress := (b.take x).2.1 }
        running := (b.take x).2.2
        written := (b.take x).1
        accepted := acc } := by
      simp [p, Pump.step, Pump.ready, hb, hw]
    have hturn : w.writeTurn l = (true, w.takeBranch l x b) := by
      simp [World.writeTurn, hw, hc, hx, hpick]
    rw [hp, hturn]
    rcases ht : b.take x with ⟨fs, q, going⟩
    dsimp only
    -- the queue is left as the branch leaves it, and the record as it is otherwise
    have hq : (w.hub.updateConn c fun y => { y with egress := q }).conn? c = some { x with egress := q } := by
      rw [Hub.conn?_updateConn_self (f := fun y => { y with egress := q }) (fun _ h => h), hx]
      rfl
    have hemit : w.takeBranch l x b = if going then { w with
          hub := w.hub.updateConn c fun y => { y with egress := q }
          outbox := w.outbox ++ fs.map (c, ·) } else World.endWriting { w with
          hub := w.hub.updateConn c fun y => { y with egress := q }
          outbox := w.outbox ++ fs.map (c, ·) } c := by
      simp only [World.takeBranch, ht, hsink, hc, if_true, World.emitAll_eq]
    cases going with
    | true =>
      rw [hemit, if_pos rfl]
      refine ⟨rfl, hq, ?_⟩
      change ((w.link? c).map (·.writing)) = some true
      simp [hl, hw]
    | false =>
      -- only the close branch ends the loop, and with a close reason the removal keeps the record
      obtain rfl : b = .shut := Branch.eq_shut_of_stops (x := x) (by rw [ht])
      obtain rfl : q = x.egress.discard := (congrArg (·.2.1) ht).symm
      obtain ⟨r, hreason⟩ := Option.isSome_iff_exists.1 hb
      rw [hemit, if_neg Bool.false_ne_true]
      refine ⟨rfl, ?_, ?_⟩
      · rw [World.endWriting_hub]
        refine Hub.conn?_unregister_of_closed ?_ (by simp [hreason])
        rw [Hub.conn?_updateConn_self (f := fun x => { x with egress := x.egress.discard }) (fun _ h => h), hq]
        rfl
      · rw [World.endWriting_link?]
        change (((w.link? c).map _).map _) = _
        simp [hl]

end WriteTurn

/-! ## The contract -/

/-- Egress delivery. At every point `n` of every schedule `σ` of a connection's queue and write
loop, started on a fresh queue of capacity `cap`:
1. an offer is taken exactly when the queue is open and holds fewer than `max cap 1` envelopes;
2. the texts written (pings aside), then the envelopes still waiting, are the accepted envelopes
   in acceptance order, so the texts written are a prefix of them, each once;
3. once a close reason is recorded and while the loop runs, the close branch is ready; taking it
   writes every envelope still waiting, then one close frame with that reason, closes the queue
   and ends the loop; every other action keeps the reason and the loop running;
4. so a schedule that picks fairly among ready branches ends the loop after a close reason;
5. a loop that ended has written the whole accepted sequence and then its one close frame, last,
   and no action changes anything any more. -/
theorem egress_delivery (c : ConnId) (identity : Identity) (cap : Nat) (at_ : Time.Instant)
    (σ : Nat → PumpAct) (n : Nat) :
    let p₀ := Pump.start (Connection.make c identity cap at_)
    let p := p₀.trace σ n
    (∀ e, (p.step (.offer e)).1 = true ↔
        p.conn.egress.closed = false ∧ p.conn.egress.items.length < max cap 1) ∧
      texts p.written ++ p.conn.egress.items = p.accepted ∧
      (∀ r, p.running = true → p.conn.closeReason = some r →
        p.ready .shut = true ∧
          (p.step (.select .shut)).2.written = p.written ++ (p.conn.egress.items.map .text ++ [.close r]) ∧
          (p.step (.select .shut)).2.running = false ∧ (p.step (.select .shut)).2.conn.egress.closed = true ∧
          ∀ a, a ≠ .select .shut → (p.step a).2.running = true ∧ (p.step a).2.conn.closeReason = some r) ∧
      (p.conn.closeReason.isSome →
        WeakFair (fun k => (p₀.trace σ k).ready .shut = true) (fun k => σ k = .select .shut) →
        ∃ k, n ≤ k ∧ (p₀.trace σ k).running = false) ∧
      (p.running = false → ∃ r pre, p.written = pre ++ [.close r] ∧ (∀ r', Frame.close r' ∉ pre) ∧
        texts pre = p.accepted ∧ p.conn.closeReason = some r ∧ ∀ more, p.run more = p) := by
  intro p₀ p
  have h : Delivers cap p := (Delivers.start c identity cap at_).trace σ n
  refine ⟨fun e => ?_, h.order, fun r hr hreason => ?_, fun hreason hfair => Pump.ends_of_fair hreason hfair,
    fun hr => ?_⟩
  · rw [Pump.offer_fst, h.capacity]
    simp
  · have hready : p.ready .shut = true := by simp [Pump.ready, hr, Branch.ready, hreason]
    rw [Pump.step_select hready, Branch.take_shut hreason]
    exact ⟨hready, rfl, rfl, rfl, fun a ha => ⟨Pump.running_step ha hr, Pump.closeReason_step hreason a⟩⟩
  · obtain ⟨r, pre, hreason, hw, hpre, hitems, -⟩ := h.ended hr
    refine ⟨r, pre, hw, hpre, ?_, hreason, h.run_of_ended hr⟩
    have horder := h.order
    rw [hw, hitems] at horder
    simpa using horder

end Switchboard.Live
