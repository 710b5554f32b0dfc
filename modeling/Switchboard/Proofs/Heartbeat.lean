import Switchboard.Proofs.Timers
import Switchboard.Proofs.Teardown
import Switchboard.Proofs.PresenceTick
/-!
# A heartbeat keeps a healthy peer reading

A connection's two loops keep time on its link: the read loop gives up at the link's read
deadline, which starts one wait `W` after the join and moves to one wait after each pong it
reads; the write loop pings every period `P` from the join. This module follows one connection
through the live world over exact instants. A `Pace` is the world, the connection, the instants
of the pings written and of the last pong read, and the frame on which the read loop ended, if
it did. Its moves are the world's own: time moves to the connection's next ping
(`World.moveTo`), or to an instant at which a frame of the peer reaches the read loop
(`World.moveTo`, then `World.receive`). Every timer due goes off and the loops settle after each.

While the connection reads, moving the clock touches it only through its own heartbeat
(`World.moveTo_reading`): every other timer and loop keeps it, and its ping goes off once when
due.

A pong answers every ping written up to the instant it is read. A run is healthy when its
instants never go back, a frame comes before the next ping, and no move comes after the oldest
ping not answered yet plus `D`. So each ping is answered within `D`; with `D` longer than the
period, its pong may come after the next ping.

Main statement, `heartbeat_keeps_reading`: from a connection that joins at `t0`, along every
healthy run with `D + P < W`, the pings are written at `t0 + kP` for `k = 1, 2, ...`, one ping
frame each; while the read loop runs, the deadline is `t0 + W` until a pong is read and `r + W`
after, with `r` the instant of the last pong, and the connection stays registered and open; a
read loop that ended did so on a frame of the peer, never at its deadline.
-/

namespace Switchboard.Live

open Wire Time

/-! ## Pings written -/

def Frame.isPing : Frame → Bool
  | .ping => true
  | _ => false

def PeerEvent.isPong : PeerEvent → Bool
  | .pong => true
  | _ => false

/-- The number of pings written to `c`. -/
def pingsTo (c : ConnId) (out : List (ConnId × Frame)) : Nat :=
  (out.filter fun x => x.1 == c && x.2.isPing).length

theorem pingsTo_append (c : ConnId) (a b : List (ConnId × Frame)) :
    pingsTo c (a ++ b) = pingsTo c a + pingsTo c b := by
  simp [pingsTo, List.filter_append]

theorem pingsTo_map_of_not_ping (c d : ConnId) {fs : List Frame} (hfs : ∀ f ∈ fs, f.isPing = false) :
    pingsTo c (fs.map (d, ·)) = 0 := by
  simp only [pingsTo, List.length_eq_zero_iff, List.filter_eq_nil_iff, List.mem_map]
  rintro _ ⟨f, hf, rfl⟩
  simp [hfs f hf]

namespace World

theorem pick?_ne_tick {x : Connection} {b : Branch} (hb : pick? x = some b) : b ≠ .tick := by
  unfold pick? at hb
  split at hb
  · cases hb
    decide
  · split at hb
    · cases hb
    · cases hb
      decide

theorem pingsTo_takeBranch (w : World) (l : Link) (x : Connection) {b : Branch} (hb : b ≠ .tick)
    (c : ConnId) : pingsTo c (w.takeBranch l x b).outbox = pingsTo c w.outbox := by
  have hfs : ∀ f ∈ (b.take x).1, f.isPing = false := by
    cases b with
    | shut =>
      intro f hf
      simp only [Branch.take, List.mem_append, List.mem_map] at hf
      rcases hf with ⟨e, -, rfl⟩ | hf
      · rfl
      · cases hr : x.closeReason <;> simp_all [Frame.isPing]
    | recv =>
      simp only [Branch.take]
      split <;> simp [Frame.isPing]
    | tick => exact absurd rfl hb
  unfold takeBranch
  split
  rename_i fs q going heq
  rw [heq] at hfs
  dsimp only at hfs ⊢
  have hemit := pingsTo_map_of_not_ping c l.conn hfs
  split
  · split
    · simp [emitAll_eq, pingsTo_append, hemit]
    · simp [endWriting_outbox, emitAll_eq, pingsTo_append, hemit]
  · rfl

theorem pingsTo_writeTurn (w : World) (l : Link) (c : ConnId) :
    pingsTo c (w.writeTurn l).2.outbox = pingsTo c w.outbox := by
  unfold writeTurn
  split
  · rfl
  split
  · rfl
  split
  · rfl
  · rename_i b hb
    exact pingsTo_takeBranch w l _ (pick?_ne_tick hb) c

theorem pingsTo_readTurn (w : World) (l : Link) (c : ConnId) :
    pingsTo c (w.readTurn l).2.outbox = pingsTo c w.outbox := by
  unfold readTurn
  split
  · rfl
  split <;> rfl

theorem pingsTo_settle (w : World) (c : ConnId) : pingsTo c w.settle.outbox = pingsTo c w.outbox :=
  settle_induction (fun w' => pingsTo c w'.outbox = pingsTo c w.outbox)
    (fun w' l _ h => (pingsTo_writeTurn w' l c).trans h) (fun w' l _ h => (pingsTo_readTurn w' l c).trans h)
    (fun _ h => h) w rfl

theorem readEvent_outbox (w : World) (c : ConnId) (ev : PeerEvent) : (w.readEvent c ev).outbox = w.outbox := by
  cases ev with
  | text s =>
    simp only [readEvent, readText]
    split
    · rfl
    split
    · rfl
    · unfold afterRoute
      split
      · rfl
      · dsimp only
        split
        · unfold failRead
          split <;> rfl
        · rfl
  | _ => rfl

/-! ## Reading a frame -/

/-- A frame the read loop reads on after leaves the link as it is, except that a pong moves its
deadline to one wait after now. -/
theorem readEvent_link?_of_reads_on {w : World} {c : ConnId} {l : Link} (hl : w.link? c = some l)
    {ev : PeerEvent} (hon : teardownOf w c (.frame ev) = none) :
    (w.readEvent c ev).link? c =
      some (if ev.isPong then { l with deadline := w.clock + w.pongWaitNanos } else l) := by
  cases ev with
  | text s =>
    by_cases hsize : s.utf8ByteSize > w.config.maxFrameSize
    · simp [teardownOf, hsize] at hon
    simp only [teardownOf, if_neg hsize] at hon
    show (w.readText c s).link? c = some l
    simp only [readText, if_neg hsize]
    cases henv : Inbound.read s with
    | error _ => simp [henv] at hon
    | ok env =>
      simp only [henv] at hon ⊢
      -- a handler answer that leaves the loop reading changes the hub only
      have hroute := afterRoute_of_reads_on (route_exec c _ _ w.hub) hon
      exact (congrArg (World.link? · c) hroute).trans hl
  | binary => simp [teardownOf] at hon
  | ping => exact hl
  | pong =>
    change (w.updateLink c fun l => { l with deadline := w.clock + w.pongWaitNanos }).link? c = _
    rw [link?_updateLink (f := fun l => { l with deadline := w.clock + w.pongWaitNanos }) (fun _ => rfl),
      if_pos rfl, hl]
    rfl
  | closeFrame => simp [teardownOf] at hon
  | hangUp => simp [teardownOf] at hon
  | streamError => simp [teardownOf] at hon

/-- What a frame `ev` reaching the read loop of a reading connection `c`, whose link was `l`,
leaves once the loops settle: the frame was taken, only the hub, the frames and the links' loops
and deadlines changed, no ping was written, and the loop reads on, with a pong moving its deadline,
or stops, as the teardown table says. -/
structure Received (c : ConnId) (l : Link) (ev : PeerEvent) (w w' : World) : Prop where
  receive : w.receive c ev = (true, w')
  relinked : Relinked w w'
  pings : pingsTo c w'.outbox = pingsTo c w.outbox
  readsOn : teardownOf w c (.frame ev) = none →
    Reading w' c ∧ w'.link? c = some (if ev.isPong then { l with deadline := w.clock + w.pongWaitNanos } else l)
  stops : ∀ r, teardownOf w c (.frame ev) = some r → Stopped w' c r

theorem receive_reading {w : World} {c : ConnId} {l : Link} (hr : Reading w c) (hl : w.link? c = some l)
    (ev : PeerEvent) : Received c l ev w (w.readEvent c ev).settle where
  receive := feed_reading hr (.frame ev)
  relinked := (relinked_readEvent w c ev).trans (relinked_settle _)
  pings := by rw [pingsTo_settle, readEvent_outbox]
  readsOn hto := by
    have hr₁ : Reading (w.readEvent c ev) c := by simpa [ReadOutcome, hto] using readEvent_outcome hr ev
    exact ⟨hr₁.settle, hr₁.keeps_settle.link.trans (readEvent_link?_of_reads_on hl hto)⟩
  stops r hto := by simpa [ReadOutcome, hto] using (readEvent_outcome hr ev).settle

/-! ## Timers of one connection -/

theorem filter_conn_updateLink (w : World) (d : ConnId) {f : Link → Link} (hf : ∀ l, (f l).conn = l.conn)
    (c : ConnId) : ((w.updateLink d f).links.filter (·.conn == c)).length = (w.links.filter (·.conn == c)).length := by
  simp only [updateLink, List.filter_map, List.length_map]
  congr 2
  funext l
  simp only [Function.comp_apply]
  split <;> simp [hf]

theorem filter_conn_fire (w : World) (tm : Timer) (c : ConnId) :
    ((w.fire tm).links.filter (·.conn == c)).length = (w.links.filter (·.conn == c)).length := by
  cases tm with
  | presence => rfl
  | ping d =>
    simp only [fire]
    split
    · split
      · exact filter_conn_updateLink (w.emit d .ping) d (f := Link.pinged) (fun _ => rfl) c
      · exact filter_conn_updateLink w d (f := fun l => { l with writing := false }) (fun _ => rfl) c
    · rfl
  | deadline d => exact filter_conn_updateLink w d (f := fun l => { l with reading := false }) (fun _ => rfl) c

theorem link_unique {w : World} {c : ConnId} {l l' : Link} (hl : w.link? c = some l)
    (hone : (w.links.filter (·.conn == c)).length ≤ 1) (hl' : l' ∈ w.links) (hc : l'.conn = c) : l' = l := by
  have hlm : l ∈ w.links.filter (·.conn == c) :=
    List.mem_filter.2 ⟨List.mem_of_find?_eq_some hl, by simp [conn_of_link? hl]⟩
  have hlm' : l' ∈ w.links.filter (·.conn == c) := List.mem_filter.2 ⟨hl', by simp [hc]⟩
  rcases hfl : w.links.filter (·.conn == c) with _ | ⟨x, _ | ⟨y, rest⟩⟩
  · rw [hfl] at hlm
    simp at hlm
  · rw [hfl, List.mem_singleton] at hlm hlm'
    rw [hlm, hlm']
  · rw [hfl] at hone
    simp at hone

theorem fire_ping_link? {w : World} {c : ConnId} {l : Link} (hl : w.link? c = some l) (hsink : l.sinkOk = true) :
    (w.fire (.ping c)).link? c = some l.pinged := by
  simp only [fire, hl, hsink, if_true]
  rw [link?_updateLink (f := Link.pinged) (fun _ => rfl), if_pos rfl]
  exact congrArg (Option.map Link.pinged) hl

theorem fire_ping_outbox {w : World} {c : ConnId} {l : Link} (hl : w.link? c = some l) (hsink : l.sinkOk = true) :
    (w.fire (.ping c)).outbox = w.outbox ++ [(c, .ping)] := by
  simp only [fire, hl, hsink, if_true]
  rfl

theorem fire_settings (w : World) (tm : Timer) : (w.fire tm).clock = w.clock ∧ (w.fire tm).config = w.config := by
  cases tm with
  | presence => exact ⟨rfl, rfl⟩
  | ping d =>
    simp only [fire]
    split
    · split <;> exact ⟨rfl, rfl⟩
    · exact ⟨rfl, rfl⟩
  | deadline d => exact ⟨rfl, rfl⟩

theorem pingsTo_fire_of_ne (w : World) {c : ConnId} {tm : Timer} (htm : tm ≠ .ping c) :
    pingsTo c (w.fire tm).outbox = pingsTo c w.outbox := by
  cases tm with
  | presence => rfl
  | ping d =>
    have hne : d ≠ c := fun h => htm (h ▸ rfl)
    simp only [fire]
    split
    · split
      · show pingsTo c (w.outbox ++ [(d, .ping)]) = _
        simp [pingsTo, hne]
      · rfl
    · rfl
  | deadline d => rfl

theorem keeps_fire_of_ne (w : World) {c : ConnId} {tm : Timer} (hping : tm ≠ .ping c) (hdl : tm ≠ .deadline c) :
    Keeps c w (w.fire tm) := by
  cases tm with
  | presence => exact (Keeps.of_calm (Hub.calm_presenceTick w.hub)).trans ⟨rfl, rfl, rfl, rfl, rfl⟩
  | ping d =>
    have hne : d ≠ c := fun h => hping (h ▸ rfl)
    simp only [fire]
    split
    · split
      · have he : Keeps c w (w.emit d .ping) := ⟨rfl, rfl, rfl, rfl, rfl⟩
        exact he.trans (Keeps.updateLink (f := Link.pinged) (fun _ => rfl) hne)
      · exact Keeps.endWriting hne
    · exact .refl w
  | deadline d => exact Keeps.endReading fun h => hdl (h ▸ rfl)

section Fire

variable {c : ConnId} {l : Link} {t : Nat} {w₀ : World}

/-- What firing the timers due by `t` has done to `c`, whose link before was `l`: its ping may have
gone off once, having been due by `t`, and nothing else touched it. -/
structure Fired (c : ConnId) (l : Link) (t : Nat) (w₀ w : World) : Prop where
  link : (w.link? c = some l ∧ pingsTo c w.outbox = pingsTo c w₀.outbox) ∨
    (l.pingDue?.any (· ≤ t) ∧ w.link? c = some l.pinged ∧ pingsTo c w.outbox = pingsTo c w₀.outbox + 1)
  reason : (w.hub.conn? c).map (·.closeReason) = (w₀.hub.conn? c).map (·.closeReason)
  registered : w.hub.registry.contains c = w₀.hub.registry.contains c
  clock : w.clock = w₀.clock
  config : w.config = w₀.config
  timed : WellTimed w
  single : (w.links.filter (·.conn == c)).length ≤ 1

theorem Fired.link_eq {w : World} (hf : Fired c l t w₀ w) :
    ∃ l', w.link? c = some l' ∧ (l' = l ∨ l' = l.pinged) := by
  rcases hf.link with ⟨h, -⟩ | ⟨-, h, -⟩
  · exact ⟨l, h, .inl rfl⟩
  · exact ⟨l.pinged, h, .inr rfl⟩

theorem Fired.fire_own {w : World} (hf : Fired c l t w₀ w) {due : Nat}
    (hnext : w.nextDue? t = some (due, .ping c)) (hsink : l.sinkOk = true)
    (hagain : ∀ hb ∈ l.heartbeat, t < hb.next + hb.period) : Fired c l t w₀ (w.fire (.ping c)) := by
  obtain ⟨hmem, hdue⟩ := nextDue?_some hnext
  obtain ⟨lc, hlc, -⟩ := hf.link_eq
  -- the timer is that of the one link of `c`
  obtain ⟨l', hl', hc, hd⟩ : ∃ l' ∈ w.links, l'.conn = c ∧ l'.pingDue? = some due := by
    rcases mem_timers.1 hmem with ⟨h, -⟩ | ⟨l', hl', h, hd⟩ | ⟨l', -, h, -⟩
    · cases h
    · exact ⟨l', hl', by simpa using h.symm, hd⟩
    · cases h
  rw [link_unique hlc hf.single hl' hc] at hd
  have htimed := hf.timed.fire (.ping c)
  have hsingle : ((w.fire (.ping c)).links.filter (·.conn == c)).length ≤ 1 :=
    (filter_conn_fire w _ c).symm ▸ hf.single
  rcases hf.link with ⟨hl, hp⟩ | ⟨-, hl, -⟩
  · rw [Option.some.inj (hlc.symm.trans hl)] at hd
    refine ⟨.inr ⟨by simp [hd, hdue], fire_ping_link? hl hsink, ?_⟩, ?_, ?_, ?_, ?_, htimed, hsingle⟩
    · rw [fire_ping_outbox hl hsink, pingsTo_append, hp]
      simp [pingsTo, Frame.isPing]
    · simp only [World.fire, hl, hsink, if_true]
      exact hf.reason
    · simp only [World.fire, hl, hsink, if_true]
      exact hf.registered
    · exact (fire_settings w _).1.trans hf.clock
    · exact (fire_settings w _).2.trans hf.config
  · -- pinged once already, the next ping lies after `t`
    rw [Option.some.inj (hlc.symm.trans hl)] at hd
    exfalso
    simp only [Link.pingDue?, Link.pinged] at hd
    cases hw : l.writing
    · simp [hw] at hd
    · cases hhb : l.heartbeat with
      | none => simp [hw, hhb] at hd
      | some hb₀ =>
        simp only [hw, hhb, if_true, Option.map_some, Option.some.injEq] at hd
        have := hagain hb₀ hhb
        dsimp only at hdue
        omega

theorem Fired.not_deadline {w : World} (hf : Fired c l t w₀ w) {due : Nat}
    (hnext : w.nextDue? t = some (due, .deadline c)) (hdl : t < l.deadline) : False := by
  obtain ⟨hmem, hdue⟩ := nextDue?_some hnext
  obtain ⟨lc, hlc, hlc'⟩ := hf.link_eq
  rcases mem_timers.1 hmem with ⟨h, -⟩ | ⟨l', -, h, -⟩ | ⟨l', hl', h, hd⟩
  · cases h
  · cases h
  · rw [link_unique hlc hf.single hl' (by simpa using h.symm)] at hd
    have hdl' : lc.deadline = l.deadline := by rcases hlc' with rfl | rfl <;> rfl
    simp only [Link.deadlineDue?] at hd
    split at hd
    · cases hd
      dsimp only at hdue
      omega
    · cases hd

theorem Fired.fire {w : World} (hf : Fired c l t w₀ w) {due : Nat} {tm : Timer}
    (hnext : w.nextDue? t = some (due, tm)) (hsink : l.sinkOk = true) (hdl : t < l.deadline)
    (hagain : ∀ hb ∈ l.heartbeat, t < hb.next + hb.period) : Fired c l t w₀ (w.fire tm) := by
  by_cases hping : tm = .ping c
  · subst hping
    exact hf.fire_own hnext hsink hagain
  by_cases hdead : tm = .deadline c
  · subst hdead
    exact (hf.not_deadline hnext hdl).elim
  -- another connection's timer, or the presence ticker
  have hk := keeps_fire_of_ne w hping hdead
  refine ⟨?_, hk.reason.trans hf.reason, hk.registered.trans hf.registered, hk.clock.trans hf.clock,
    hk.config.trans hf.config, hf.timed.fire tm, (filter_conn_fire w tm c).symm ▸ hf.single⟩
  rw [hk.link, pingsTo_fire_of_ne w hping]
  exact hf.link

theorem Fired.fireDue {w : World} (hf : Fired c l t w₀ w) (hsink : l.sinkOk = true) (hdl : t < l.deadline)
    (hagain : ∀ hb ∈ l.heartbeat, t < hb.next + hb.period) (n : Nat) : Fired c l t w₀ (fireDue t n w) :=
  fireDue_induction (Fired c l t w₀) (fun _ _ _ hnext h => h.fire hnext hsink hdl hagain) n w hf

theorem Fired.link_of_exhausted {w : World} (hf : Fired c l t w₀ w) (hnone : w.nextDue? t = none) :
    w.link? c = some (if l.pingDue?.any (· ≤ t) then l.pinged else l) ∧
      pingsTo c w.outbox = pingsTo c w₀.outbox + (if l.pingDue?.any (· ≤ t) then 1 else 0) := by
  rcases hf.link with ⟨h, hp⟩ | ⟨hdue, h, hp⟩
  · have hnot : l.pingDue?.any (· ≤ t) = false := by
      cases hd : l.pingDue? with
      | none => rfl
      | some T =>
        have hmem : (T, Timer.ping c) ∈ w.timers :=
          mem_timers.2 (.inr (.inl ⟨l, List.mem_of_find?_eq_some h, by rw [conn_of_link? h], hd⟩))
        have := nextDue?_none.1 hnone _ hmem
        simpa using this
    simp only [hnot, Bool.false_eq_true, if_false, Nat.add_zero]
    exact ⟨h, hp⟩
  · simp only [hdue, if_true]
    exact ⟨h, hp⟩

end Fire

/-- What moving the clock to `t` leaves of a reading connection `c` whose link was `l`. -/
structure MovedTo (c : ConnId) (l : Link) (t : Nat) (w w' : World) : Prop where
  reading : Reading w' c
  link : w'.link? c = some (if l.pingDue?.any (· ≤ t) then l.pinged else l)
  pings : pingsTo c w'.outbox = pingsTo c w.outbox + (if l.pingDue?.any (· ≤ t) then 1 else 0)
  clock : w'.clock = t
  config : w'.config = w.config
  timed : WellTimed w'
  single : (w'.links.filter (·.conn == c)).length ≤ 1

/-- While `c` reads with its deadline after `t`, and its next ping, once gone off, due after `t`,
moving the clock to `t` touches `c` only through its heartbeat: the ping goes off once if it is
due by `t`, the read loop still reads, and nothing else changes for `c`. -/
theorem moveTo_reading {w : World} {c : ConnId} {l : Link} {t : Nat} (hr : Reading w c)
    (hl : w.link? c = some l) (hone : (w.links.filter (·.conn == c)).length ≤ 1) (htimed : WellTimed w)
    (hdl : t < l.deadline) (hagain : ∀ hb ∈ l.heartbeat, t < hb.next + hb.period) :
    MovedTo c l t w (w.moveTo t) := by
  obtain ⟨l₀, hl₀, hread, hsink, -⟩ := hr.link
  obtain rfl : l₀ = l := Option.some.inj (hl₀.symm.trans hl)
  let w₀ : World := { w with clock := t }
  let n := (w₀.timers.length + 1) * (t + 1)
  have h₀ : Fired c l₀ t w₀ w₀ := ⟨.inl ⟨hl, rfl⟩, rfl, rfl, rfl, rfl, ⟨htimed.presence, htimed.heartbeat⟩, hone⟩
  have hf := h₀.fireDue hsink hdl hagain n
  obtain ⟨hlink, hpings⟩ := hf.link_of_exhausted (fireDue_moveTo htimed t)
  -- the read loop still reads after the timers, and settling keeps it
  have hr₁ : Reading (fireDue t n w₀) c := by
    refine ⟨⟨_, hlink, ?_, ?_, ?_⟩, Reading.conn_of_reason hr.conn hf.reason, hf.registered.trans hr.registered, ?_⟩
    · split <;> simpa [Link.pinged] using hread
    · split <;> simpa [Link.pinged] using hsink
    · rw [hf.clock]
      split <;> simpa [Link.pinged] using hdl
    · unfold pongWaitNanos
      rw [hf.config]
      exact hr.pongWait
  have hk := hr₁.keeps_settle
  have hre := relinked_settle (fireDue t n w₀)
  exact ⟨hr₁.settle, hk.link.trans hlink, (pingsTo_settle _ c).trans hpings, hk.clock.trans hf.clock,
    hk.config.trans hf.config, hf.timed.relinked hre, hre.single hf.single⟩

/-! ## Joining -/

section Join

variable (w : World) (identity : Identity) {d : Duration}

/-- The link a join gives the next connection when the heartbeat has period `d`: its deadline is
one wait after now and its first ping one period after now. -/
def joinLink (w : World) (d : Duration) : Link :=
  { conn := ⟨w.hub.conns.length⟩
    reading := w.origin.fits (w.clock + w.pongWaitNanos)
    deadline := w.clock + w.pongWaitNanos
    heartbeat := some ⟨w.clock + d.totalNanos, d.totalNanos⟩ }

def joinWorld (w : World) (identity : Identity) (d : Duration) : World :=
  { w with hub := (w.hub.accept identity w.config.egressCapacity).2, links := w.links ++ [w.joinLink d] }

theorem join_eq (hping : w.config.pingInterval? = some d) (hP : 0 < d.totalNanos)
    (hfits : w.origin.fits (w.clock + d.totalNanos) = true) :
    w.join identity = (⟨w.hub.conns.length⟩, (w.joinWorld identity d).settle) := by
  have hacc : w.hub.accept identity w.config.egressCapacity =
      (⟨w.hub.conns.length⟩, (w.hub.accept identity w.config.egressCapacity).2) :=
    Prod.ext (Hub.accept_fst _ _ _) rfl
  have hd : d.totalNanos ≠ 0 := Nat.pos_iff_ne_zero.1 hP
  unfold join
  rw [hacc]
  simp only [hping, hd, hfits, ne_eq, not_false_eq_true, and_self, if_true, Option.isNone_some,
    Bool.false_eq_true, if_false]
  rfl

variable {w identity} (hfresh : w.hub.conn? ⟨w.hub.conns.length⟩ = none)
  (hlink : w.link? ⟨w.hub.conns.length⟩ = none)
include hlink

theorem joinWorld_link? : (w.joinWorld identity d).link? ⟨w.hub.conns.length⟩ = some (w.joinLink d) := by
  simp only [link?] at hlink
  simp [joinWorld, link?, List.find?_append, hlink, joinLink]

theorem single_joinWorld : ((w.joinWorld identity d).links.filter (·.conn == ⟨w.hub.conns.length⟩)).length ≤ 1 := by
  have hnone : w.links.filter (·.conn == ⟨w.hub.conns.length⟩) = [] := by
    simp only [link?, List.find?_eq_none] at hlink
    exact List.filter_eq_nil_iff.2 hlink
  simp [joinWorld, hnone, joinLink]

include hfresh

/-- Before the loops settle, the joined connection reads: it is registered with no close reason,
and its deadline lies one wait ahead on the monotonic clock. -/
theorem reading_joinWorld (hW : 0 < w.pongWaitNanos) (hfits : w.origin.fits (w.clock + w.pongWaitNanos) = true) :
    Reading (w.joinWorld identity d) ⟨w.hub.conns.length⟩ where
  link := ⟨w.joinLink d, joinWorld_link? hlink, hfits, rfl, Nat.lt_add_of_pos_right hW⟩
  conn := by
    obtain ⟨x, hx⟩ := Option.isSome_iff_exists.1 (Hub.isSome_conn?_accept w.hub identity w.config.egressCapacity hfresh)
    have hreason := Hub.closeReasonOf_accept_self w.hub identity w.config.egressCapacity hfresh
    simp only [Hub.closeReasonOf, hx, Option.bind_some] at hreason
    exact ⟨x, hx, by simpa using hreason⟩
  registered := by simp [joinWorld, Hub.contains_accept w.hub identity w.config.egressCapacity hfresh]
  pongWait := hW

end Join

theorem WellTimed.joinWorld {w : World} (htimed : w.WellTimed) (identity : Identity) {d : Duration}
    (hP : 0 < d.totalNanos) : (w.joinWorld identity d).WellTimed := by
  refine ⟨htimed.presence, fun l hl hb hhb => ?_⟩
  rcases List.mem_append.1 hl with hl | hl
  · exact htimed.heartbeat l hl hb hhb
  · rw [List.mem_singleton] at hl
    subst hl
    simp only [joinLink, Option.mem_def, Option.some.injEq] at hhb
    subst hhb
    exact hP

end World

/-! ## One connection over exact instants -/

/-- One connection's loops in the live world over exact instants: the world, the connection, the
instants at which pings were written (oldest first), the instant at which the read loop read its
last pong, and the frame on which the read loop ended. -/
structure Pace where
  world : World
  conn : ConnId
  pings : List Nat := []
  lastPong : Option Nat := none
  endedBy : Option PeerEvent := none

/-- What comes next for the connection: time moves to its next ping, or to an instant at which a
frame of the peer reaches the read loop. -/
inductive Pace.Move where
  | ping
  | read (at_ : Nat) (ev : PeerEvent)

namespace Pace

def link? (p : Pace) : Option Link := p.world.link? p.conn

def reading (p : Pace) : Bool := p.link?.any (·.reading)

def pingDue? (p : Pace) : Option Nat := p.link?.bind (·.pingDue?)

/-- The pings not answered yet: those written after the last pong read. -/
def unanswered (p : Pace) : List Nat := p.pings.filter fun q => p.lastPong.all (· < q)

/-- One move of the live world, while the read loop runs. Once it has ended the connection is
left alone. -/
def step (p : Pace) : Move → Pace
  | .ping =>
    match p.pingDue? with
    | some t => if p.reading then { p with world := p.world.moveTo t, pings := p.pings ++ [t] } else p
    | none => p
  | .read t ev =>
    if p.reading then
      let (took, w) := (p.world.moveTo t).receive p.conn ev
      { p with
        world := w
        lastPong := if took && ev.isPong then some t else p.lastPong
        endedBy := if took && !(w.link? p.conn).any (·.reading) then some ev else none }
    else p

def run (p : Pace) (ms : List Move) : Pace := ms.foldl step p

@[simp] theorem run_nil (p : Pace) : p.run [] = p := rfl

@[simp] theorem run_cons (p : Pace) (m : Move) (ms : List Move) : p.run (m :: ms) = (p.step m).run ms := rfl

theorem step_conn (p : Pace) (m : Move) : (p.step m).conn = p.conn := by
  cases m with
  | ping =>
    simp only [step]
    split
    · split <;> rfl
    · rfl
  | read t ev =>
    simp only [step]
    split <;> rfl

theorem run_conn (p : Pace) (ms : List Move) : (p.run ms).conn = p.conn := by
  induction ms generalizing p with
  | nil => rfl
  | cons m ms ih => rw [run_cons, ih, step_conn]

theorem reading_of_Reading {p : Pace} (hr : World.Reading p.world p.conn) : p.reading = true := by
  obtain ⟨l, hl, hread, -⟩ := hr.link
  simp [Pace.reading, Pace.link?, hl, hread]

theorem step_of_ended {p : Pace} (hr : p.reading = false) (m : Move) : p.step m = p := by
  cases m with
  | ping =>
    simp only [step]
    split <;> simp [hr]
  | read t ev => simp [step, hr]

theorem step_read {p : Pace} (hrd : p.reading = true) {t : Nat} {ev : PeerEvent} {w : World}
    (hrecv : (p.world.moveTo t).receive p.conn ev = (true, w)) :
    p.step (.read t ev) = { p with
      world := w
      lastPong := if ev.isPong then some t else p.lastPong
      endedBy := if (w.link? p.conn).any (·.reading) then none else some ev } := by
  simp only [step, hrd, if_true, hrecv, Bool.true_and]
  cases (w.link? p.conn).any (·.reading) <;> rfl

/-- The latest instant a healthy run can go to: the oldest unanswered ping plus `D`. -/
def answerBy? (D : Nat) (p : Pace) : Option Nat := p.unanswered.head?.map (· + D)

/-- A move a healthy run can make: it goes no earlier than now and no later than `answerBy?`,
and a frame comes before the next ping. -/
def allowed (D : Nat) (p : Pace) : Move → Bool
  | .ping => p.pingDue?.all fun t => decide (p.world.clock ≤ t) && (p.answerBy? D).all (t ≤ ·)
  | .read t _ => decide (p.world.clock ≤ t) && p.pingDue?.all (t < ·) && (p.answerBy? D).all (t ≤ ·)

def healthy (D : Nat) : Pace → List Move → Bool
  | _, [] => true
  | p, m :: ms => p.allowed D m && healthy D (p.step m) ms

/-! ## What a healthy run keeps -/

variable {t0 W P n0 : Nat} {p : Pace}

/-- What holds of a connection whose loops started at `t0`, with read wait `W` and ping period
`P`, after `k` pings, with `n0` pings written to it before: its heartbeat is due at
`t0 + (k + 1) P`; while it reads, it writes and its read deadline is one wait after the last
pong, or after `t0` before any, and the read loop runs on; a read loop that ended did so on a
frame; the pings were written at `t0 + P, ..., t0 + kP`, one frame each; neither now nor the last
pong lies before `t0`; the connection has one link, and the timers keep moving. -/
structure Inv (t0 W P n0 : Nat) (p : Pace) : Prop where
  link : ∃ l, p.link? = some l ∧ l.heartbeat = some ⟨t0 + (p.pings.length + 1) * P, P⟩ ∧
    (l.reading = true → l.writing = true ∧ l.deadline = p.lastPong.getD t0 + W)
  reading : p.reading = true → World.Reading p.world p.conn
  ended : p.reading = false → p.endedBy.isSome
  wait : p.world.pongWaitNanos = W
  period : 0 < P
  pings : p.pings = (List.range p.pings.length).map fun i => t0 + (i + 1) * P
  written : pingsTo p.conn p.world.outbox = n0 + p.pings.length
  clock : t0 ≤ p.world.clock
  pong : t0 ≤ p.lastPong.getD t0
  single : (p.world.links.filter (·.conn == p.conn)).length ≤ 1
  timed : World.WellTimed p.world

namespace Inv

theorem sorted (hi : Inv t0 W P n0 p) : p.pings.Pairwise (· < ·) := by
  rw [hi.pings, List.pairwise_map]
  refine List.pairwise_lt_range.imp fun {i j} hij => ?_
  have := Nat.mul_lt_mul_of_pos_right (show i + 1 < j + 1 by omega) hi.period
  omega

theorem unanswered_eq (hi : Inv t0 W P n0 p) :
    p.unanswered = p.pings.filter fun q => p.lastPong.getD t0 < q := by
  unfold unanswered
  apply List.filter_congr
  intro q hq
  rw [hi.pings] at hq
  obtain ⟨i, -, rfl⟩ := List.mem_map.1 hq
  have hpos : 0 < (i + 1) * P := Nat.mul_pos (Nat.succ_pos i) hi.period
  cases p.lastPong with
  | none =>
    simp only [Option.all_none, Option.getD_none]
    exact (decide_eq_true (by omega)).symm
  | some r => simp

theorem answered_before (hi : Inv t0 W P n0 p) {i : Nat} (hik : i ≤ p.pings.length)
    (hbefore : ∀ q ∈ p.unanswered.head?, t0 + i * P < q) : t0 + i * P ≤ p.lastPong.getD t0 := by
  cases i with
  | zero => simpa using hi.pong
  | succ j =>
    refine Nat.le_of_not_lt fun hlt => ?_
    have hmem : t0 + (j + 1) * P ∈ p.unanswered := by
      rw [hi.unanswered_eq, List.mem_filter]
      refine ⟨?_, by simpa using hlt⟩
      rw [hi.pings]
      exact List.mem_map.2 ⟨j, List.mem_range.2 (by omega), rfl⟩
    -- the unanswered pings come in increasing order, so the oldest is at the head
    obtain ⟨q, rest, hqr⟩ := List.exists_cons_of_ne_nil (List.ne_nil_of_mem hmem)
    have hq : t0 + (j + 1) * P < q := hbefore q (by simp [hqr])
    have hsorted : (q :: rest).Pairwise (· < ·) := by
      rw [← hqr, hi.unanswered_eq]
      exact hi.sorted.filter _
    rw [hqr, List.mem_cons] at hmem
    rcases hmem with heq | hrest
    · omega
    · have := List.rel_of_pairwise_cons hsorted hrest
      omega

/-- An instant no later than the oldest unanswered ping plus `D`, nor than the next ping, lies
before the read deadline: the ping before the oldest unanswered one was answered, and so was the
last one when none is unanswered. -/
theorem before_deadline (hi : Inv t0 W P n0 p) {D : Nat} (hD : D + P < W) {t : Nat}
    (hans : (p.answerBy? D).all (t ≤ ·) = true) (hnext : t ≤ t0 + (p.pings.length + 1) * P) :
    t < p.lastPong.getD t0 + W := by
  unfold answerBy? at hans
  cases hq : p.unanswered.head? with
  | some q =>
    rw [hq] at hans
    simp only [Option.map_some, Option.all_some, decide_eq_true_eq] at hans
    -- the oldest unanswered ping is some `t0 + (i + 1) P`
    have hmem : q ∈ p.pings := (List.mem_filter.1 (List.mem_of_mem_head? hq)).1
    rw [hi.pings] at hmem
    obtain ⟨i, hik, rfl⟩ := List.mem_map.1 hmem
    have hsucc : (i + 1) * P = i * P + P := Nat.add_one_mul i P
    have hP := hi.period
    have hans' := hi.answered_before (i := i) (by simp at hik; omega) (by simp [hq]; omega)
    omega
  | none =>
    have hsucc : (p.pings.length + 1) * P = p.pings.length * P + P := Nat.add_one_mul _ P
    have hans' := hi.answered_before (i := p.pings.length) le_rfl (by simp [hq])
    omega

theorem reading_link (hi : Inv t0 W P n0 p) (hrd : p.reading = true) :
    ∃ l, p.link? = some l ∧ l.heartbeat = some ⟨t0 + (p.pings.length + 1) * P, P⟩ ∧ l.reading = true ∧
      l.writing = true ∧ l.deadline = p.lastPong.getD t0 + W ∧
      p.pingDue? = some (t0 + (p.pings.length + 1) * P) := by
  obtain ⟨l, hl, hhb, hlr⟩ := hi.link
  have hread : l.reading = true := by simpa [Pace.reading, hl] using hrd
  obtain ⟨hw, hdl⟩ := hlr hread
  exact ⟨l, hl, hhb, hread, hw, hdl, by simp [pingDue?, hl, Link.pingDue?, hw, hhb]⟩

theorem ping (hi : Inv t0 W P n0 p) {D : Nat} (hD : D + P < W) (hm : p.allowed D .ping = true) :
    Inv t0 W P n0 (p.step .ping) := by
  cases hrd : p.reading with
  | false => rw [step_of_ended hrd]; exact hi
  | true =>
  obtain ⟨l, hl, hhb, hread, hw, hdl, hdue⟩ := hi.reading_link hrd
  set T := t0 + (p.pings.length + 1) * P with hT
  simp only [allowed, hdue, Option.all_some, Bool.and_eq_true, decide_eq_true_eq] at hm
  have hlt : T < l.deadline := hdl ▸ hi.before_deadline hD hm.2 le_rfl
  have hfire : l.pingDue?.any (· ≤ T) = true := by simp [Link.pingDue?, hw, hhb]
  have hmv := World.moveTo_reading (hi.reading hrd) hl hi.single hi.timed hlt (by simp [hhb, hi.period])
  have hl' := hmv.link
  have hp' := hmv.pings
  rw [hfire, if_pos rfl] at hl' hp'
  have hstep : p.step .ping = { p with world := p.world.moveTo T, pings := p.pings ++ [T] } := by
    simp [Pace.step, hdue, hrd]
  rw [hstep]
  refine ⟨⟨l.pinged, hl', ?_, fun _ => ⟨hw, hdl⟩⟩, fun _ => hmv.reading, fun h => ?_, ?_, hi.period, ?_, ?_, ?_,
    hi.pong, hmv.single, hmv.timed⟩
  · simp only [Link.pinged, hhb, Option.map_some, List.length_append, List.length_singleton]
    rw [Nat.add_one_mul (p.pings.length + 1) P, Nat.add_assoc]
  · simp [Pace.reading, Pace.link?, hl', Link.pinged, hread] at h
  · simpa [World.pongWaitNanos, hmv.config] using hi.wait
  · simp only [List.length_append, List.length_singleton, List.range_succ, List.map_append]
    rw [← hi.pings]
    rfl
  · show pingsTo p.conn (p.world.moveTo T).outbox = _
    rw [hp', hi.written]
    simp [Nat.add_assoc]
  · show t0 ≤ (p.world.moveTo T).clock
    rw [hmv.clock]
    have := hi.clock
    omega

theorem read (hi : Inv t0 W P n0 p) {D : Nat} (hD : D + P < W) {t : Nat} {ev : PeerEvent}
    (hm : p.allowed D (.read t ev) = true) : Inv t0 W P n0 (p.step (.read t ev)) := by
  cases hrd : p.reading with
  | false => rw [step_of_ended hrd]; exact hi
  | true =>
  obtain ⟨l, hl, hhb, hread, hw, hdl, hdue⟩ := hi.reading_link hrd
  simp only [allowed, hdue, Option.all_some, Bool.and_eq_true, decide_eq_true_eq] at hm
  obtain ⟨⟨hclock, hbefore⟩, hans⟩ := hm
  have hlt : t < l.deadline := hdl ▸ hi.before_deadline hD hans (Nat.le_of_lt hbefore)
  have hnot : l.pingDue?.any (· ≤ t) = false := by simp [Link.pingDue?, hw, hhb]; omega
  have hmv := World.moveTo_reading (hi.reading hrd) hl hi.single hi.timed hlt (by simp [hhb]; omega)
  have hl₁ := hmv.link
  have hp₁ := hmv.pings
  simp only [hnot, Bool.false_eq_true, if_false, Nat.add_zero] at hl₁ hp₁
  -- the frame reaches the read loop, which reads on or stops as the teardown table says
  have hrv := World.receive_reading hmv.reading hl₁ ev
  set w₂ := ((p.world.moveTo t).readEvent p.conn ev).settle
  rw [step_read hrd hrv.receive]
  have hpong : t0 ≤ (if ev.isPong then some t else p.lastPong).getD t0 := by
    split
    · have := hi.clock
      simp only [Option.getD_some]
      omega
    · exact hi.pong
  obtain ⟨l₂, hl₂, hhb₂, -⟩ := hrv.relinked.link? hl₁
  have hwr : pingsTo p.conn w₂.outbox = n0 + p.pings.length := by rw [hrv.pings, hp₁, hi.written]
  have hwait : w₂.pongWaitNanos = W := by
    simpa [World.pongWaitNanos, hrv.relinked.config, hmv.config] using hi.wait
  have hclk : t0 ≤ w₂.clock := by
    rw [hrv.relinked.clock, hmv.clock]
    have := hi.clock
    omega
  cases hto : World.teardownOf (p.world.moveTo t) p.conn (.frame ev) with
  | none =>
    -- the read loop reads on; a pong moved its deadline, anything else left the link
    obtain ⟨hr₂, hlink₂⟩ := hrv.readsOn hto
    rw [hmv.clock, World.pongWaitNanos, hmv.config, ← World.pongWaitNanos, hi.wait] at hlink₂
    have hread₂ : (w₂.link? p.conn).any (·.reading) = true := by
      rw [hlink₂]
      split <;> simpa using hread
    refine ⟨⟨_, hlink₂, ?_, fun _ => ⟨?_, ?_⟩⟩, fun _ => hr₂, fun h => ?_, hwait, hi.period, hi.pings, hwr,
      hclk, hpong, hrv.relinked.single hmv.single, hmv.timed.relinked hrv.relinked⟩
    · split <;> exact hhb
    · split <;> exact hw
    · by_cases hpg : ev.isPong = true <;> simp [hpg, hdl]
    · simp [Pace.reading, Pace.link?, hread₂] at h
  | some r =>
    -- the read loop ends on this frame
    have hs := hrv.stops r hto
    have hend : l₂.reading = false := hs.ended l₂ hl₂
    have hread₂ : (w₂.link? p.conn).any (·.reading) = false := by simp [hl₂, hend]
    refine ⟨⟨l₂, hl₂, hhb₂ ▸ hhb, fun h => by simp [hend] at h⟩, fun h => ?_, fun _ => ?_, hwait, hi.period,
      hi.pings, hwr, hclk, hpong, hrv.relinked.single hmv.single, hmv.timed.relinked hrv.relinked⟩
    · simp [Pace.reading, Pace.link?, hread₂] at h
    · simp [hread₂]

theorem step (hi : Inv t0 W P n0 p) {D : Nat} (hD : D + P < W) {m : Move} (hm : p.allowed D m = true) :
    Inv t0 W P n0 (p.step m) := by
  cases m with
  | ping => exact hi.ping hD hm
  | read t ev => exact hi.read hD hm

theorem run (hi : Inv t0 W P n0 p) {D : Nat} (hD : D + P < W) {ms : List Move} (hh : healthy D p ms = true) :
    Inv t0 W P n0 (p.run ms) := by
  induction ms generalizing p with
  | nil => exact hi
  | cons m ms ih =>
    simp only [healthy, Bool.and_eq_true] at hh
    exact ih (hi.step hD hh.1) hh.2

end Inv

/-! ## From the join -/

def joined (w : World) (identity : Identity) : Pace where
  world := (w.join identity).2
  conn := (w.join identity).1

/-- A connection that joins with heartbeat period `d`, before its read deadline runs past the
monotonic clock, starts the invariant at the join's instant. -/
theorem Inv.of_join (w : World) (identity : Identity) {d : Duration}
    (hfresh : w.hub.conn? ⟨w.hub.conns.length⟩ = none) (hlink : w.link? ⟨w.hub.conns.length⟩ = none)
    (htimed : w.WellTimed) (hping : w.config.pingInterval? = some d) (hP : 0 < d.totalNanos)
    (hW : d.totalNanos < w.pongWaitNanos) (hfits : w.origin.fits (w.clock + w.pongWaitNanos) = true) :
    Inv w.clock w.pongWaitNanos d.totalNanos (pingsTo (w.join identity).1 (w.join identity).2.outbox)
      (joined w identity) := by
  -- the durations stay opaque numbers: unfolded, the kernel would multiply out their seconds
  have hj := World.join_eq w identity hping hP (Monotonic.fits_of_le (Nat.add_le_add_left hW.le _) hfits)
  have hr₀ : World.Reading (w.joinWorld identity d) ⟨w.hub.conns.length⟩ :=
    World.reading_joinWorld hfresh hlink (Nat.lt_trans hP hW) hfits
  have hk := hr₀.keeps_settle
  have hre := World.relinked_settle (w.joinWorld identity d)
  have hjl : (joined w identity).link? = some (w.joinLink d) := by
    show (w.join identity).2.link? (w.join identity).1 = _
    rw [hj]
    exact hk.link.trans (World.joinWorld_link? hlink)
  have hr : World.Reading (joined w identity).world (joined w identity).conn := by
    show World.Reading (w.join identity).2 (w.join identity).1
    rw [hj]
    exact hr₀.settle
  refine ⟨⟨w.joinLink d, hjl, by simp [World.joinLink, joined], fun _ => ⟨rfl, by simp [World.joinLink, joined]⟩⟩,
    fun _ => hr, fun h => absurd h (by simp [reading_of_Reading hr]), ?_, hP, rfl, by simp [joined], ?_, le_rfl,
    ?_, ?_⟩
  · show (w.join identity).2.pongWaitNanos = w.pongWaitNanos
    rw [hj]
    exact congrArg (·.pongWait.totalNanos) hk.config
  · show w.clock ≤ (w.join identity).2.clock
    rw [hj, hk.clock]
    exact le_rfl
  · show ((w.join identity).2.links.filter (·.conn == (w.join identity).1)).length ≤ 1
    rw [hj]
    exact hre.single (World.single_joinWorld hlink)
  · show (w.join identity).2.WellTimed
    rw [hj]
    exact (htimed.joinWorld identity hP).relinked hre

end Pace

/-- A heartbeat keeps a healthy peer reading. Let a connection join `w` at `t0 = w.clock`, with
read wait `W` and heartbeat period `P > 0`, in a world whose timers keep moving, before its read
deadline runs past the monotonic clock, and let `D + P < W`. Along every healthy run of the live
world: the pings were written at `t0 + P, t0 + 2P, ...`, one ping frame each; the next ping is
due a period after the last; while the read loop runs, the read deadline is `t0 + W` until a pong
is read and `r + W` after, for `r` the instant of the last pong read, so no other frame moves it,
and the connection is registered, open and ahead of its deadline; and a read loop that ended did
so on a frame of the peer, never at its deadline. -/
theorem heartbeat_keeps_reading (w : World) (identity : Identity) {d : Duration} {D : Nat}
    (hfresh : w.hub.conn? ⟨w.hub.conns.length⟩ = none) (hlink : w.link? ⟨w.hub.conns.length⟩ = none)
    (htimed : w.WellTimed) (hping : w.config.pingInterval? = some d) (hP : 0 < d.totalNanos)
    (hD : D + d.totalNanos < w.pongWaitNanos) (hfits : w.origin.fits (w.clock + w.pongWaitNanos) = true)
    {ms : List Pace.Move} (hh : (Pace.joined w identity).healthy D ms = true) :
    let p := (Pace.joined w identity).run ms
    p.pings = (List.range p.pings.length).map (fun i => w.clock + (i + 1) * d.totalNanos) ∧
      pingsTo p.conn p.world.outbox = pingsTo p.conn (w.join identity).2.outbox + p.pings.length ∧
      (∃ l, p.link? = some l ∧ l.heartbeat = some ⟨w.clock + (p.pings.length + 1) * d.totalNanos, d.totalNanos⟩ ∧
        (l.reading = true → l.deadline = p.lastPong.getD w.clock + w.pongWaitNanos)) ∧
      (p.reading = true → World.Reading p.world p.conn) ∧
      (p.reading = false → p.endedBy.isSome) := by
  intro p
  have hW : d.totalNanos < w.pongWaitNanos := Nat.lt_of_le_of_lt (Nat.le_add_left _ _) hD
  have hi := (Pace.Inv.of_join w identity hfresh hlink htimed hping hP hW hfits).run hD hh
  have hconn : p.conn = (w.join identity).1 := Pace.run_conn _ ms
  obtain ⟨l, hl, hhb, hdl⟩ := hi.link
  refine ⟨hi.pings, ?_, ⟨l, hl, hhb, fun h => (hdl h).2⟩, hi.reading, hi.ended⟩
  rw [hi.written, hconn]

/-- Two pings 9 s apart on the default 10 s read wait, each answered by a pong 50 ms later, with a
ping from the peer in between. -/
def answeredTwice : List Pace.Move :=
  [.ping, .read 9050000000 .pong, .read 12000000000 .ping, .ping, .read 18050000000 .pong]

/-- Alice joins an empty world with the default read wait and no presence ticker, and her peer
answers each ping within 0.1 s: the run is healthy, and the heartbeat contract holds of it. -/
theorem heartbeat_keeps_reading_alice :
    let w := World.start {} { presenceInterval := ⟨0, 0⟩ }
    let alice : Identity := ⟨⟨1⟩, "alice", "t"⟩
    w.config.pingInterval? = some ⟨9, 0⟩ ∧ (Pace.joined w alice).healthy 100000000 answeredTwice = true ∧
      let p := (Pace.joined w alice).run answeredTwice
      p.pings = (List.range p.pings.length).map (fun i => w.clock + (i + 1) * Duration.totalNanos ⟨9, 0⟩) ∧
        pingsTo p.conn p.world.outbox = pingsTo p.conn (w.join alice).2.outbox + p.pings.length ∧
        (∃ l, p.link? = some l ∧
          l.heartbeat = some ⟨w.clock + (p.pings.length + 1) * Duration.totalNanos ⟨9, 0⟩, Duration.totalNanos ⟨9, 0⟩⟩ ∧
          (l.reading = true → l.deadline = p.lastPong.getD w.clock + w.pongWaitNanos)) ∧
        (p.reading = true → World.Reading p.world p.conn) ∧
        (p.reading = false → p.endedBy.isSome) := by
  intro w alice
  have hping : w.config.pingInterval? = some ⟨9, 0⟩ := by decide
  have hh : (Pace.joined w alice).healthy 100000000 answeredTwice = true := by decide
  exact ⟨hping, hh, heartbeat_keeps_reading w alice (by decide) (by decide) (World.WellTimed.start _ _ _) hping
    (by decide) (by decide) (by decide) hh⟩

end Switchboard.Live
