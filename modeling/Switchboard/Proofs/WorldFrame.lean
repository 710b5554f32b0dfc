import Switchboard.Live.Clock
import Switchboard.Proofs.HubFrame
/-!
# What the loops do to one connection

`World.settle` runs rounds of write turns, read turns and handed-off work over every link.
These lemmas follow one connection `c` through them.

* A turn on another link touches that link's connection only: it `Keeps` what `c`'s read
  loop looks at (its link, its close reason, its registration, the clock and the settings).
* While `c` is `Reading`, a turn on its own link writes what is queued and nothing else.
* Once `c` is `Stopped`, nothing undoes it: a recorded close reason stays, and a read loop
  that ended stays ended.

`settle_induction` packages the induction over rounds and turns: a property of worlds kept by
every write turn, every read turn and the handed-off work holds after settling.
-/

namespace Switchboard.Live

open Wire

/-! ## The write loop's select -/

namespace Branch

theorem take_shut {x : Connection} {r : CloseReason} (h : x.closeReason = some r) :
    Branch.shut.take x = (x.egress.items.map .text ++ [.close r], x.egress.discard, false) := by
  simp [Branch.take, h]

theorem take_recv {x : Connection} {e : Envelope} {es : List Envelope} (h : x.egress.items = e :: es) :
    Branch.recv.take x = ([.text e], { x.egress with items := es }, true) := by
  simp [Branch.take, h]

theorem take_tick (x : Connection) : Branch.tick.take x = ([.ping], x.egress, true) := rfl

theorem take_going {x : Connection} {b : Branch} (hb : b ≠ .shut) : (b.take x).2.2 = true := by
  cases b with
  | shut => exact absurd rfl hb
  | recv => simp only [Branch.take]; split <;> rfl
  | tick => rfl

theorem eq_shut_of_stops {x : Connection} {b : Branch} (h : (b.take x).2.2 = false) : b = .shut :=
  Decidable.byContradiction fun hne => by simp [take_going hne] at h

end Branch

namespace World

/-! ## Links -/

theorem conn_of_link? {w : World} {c : ConnId} {l : Link} (hl : w.link? c = some l) : l.conn = c := by
  simpa [link?] using List.find?_some hl

theorem link?_updateLink {w : World} {c d : ConnId} {f : Link → Link} (hf : ∀ l, (f l).conn = l.conn) :
    (w.updateLink d f).link? c = if d = c then (w.link? c).map f else w.link? c := by
  have hg : ∀ l : Link, (if l.conn == d then f l else l).conn = l.conn := by
    intro l
    split <;> simp [hf]
  simp only [link?, updateLink, List.find?_map, Function.comp_def, hg]
  cases hl : w.links.find? (·.conn == c) with
  | none => split <;> rfl
  | some l =>
    have : l.conn = c := by simpa using List.find?_some hl
    by_cases hdc : d = c
    · simp [this, hdc]
    · simp [this, hdc, Ne.symm hdc]

theorem emitAll_eq (w : World) (d : ConnId) (fs : List Frame) :
    w.emitAll d fs = { w with outbox := w.outbox ++ fs.map (d, ·) } := by
  induction fs generalizing w with
  | nil => simp [emitAll]
  | cons f fs ih =>
    simp only [emitAll, List.foldl_cons] at ih ⊢
    rw [ih]
    simp [emit]

theorem endWriting_outbox (w : World) (c : ConnId) : (w.endWriting c).outbox = w.outbox := rfl

theorem pick?_ready {x : Connection} {b : Branch} (hb : pick? x = some b) : b.ready x = true := by
  unfold pick? at hb
  split at hb
  · cases hb
    assumption
  · split at hb
    · cases hb
    · rename_i hempty
      cases hb
      simpa [Branch.ready] using hempty

theorem pick?_of_open {x : Connection} {b : Branch} (h : x.closeReason = none) (hb : pick? x = some b) :
    b = .recv := by
  unfold pick? at hb
  simp only [h, Option.isSome_none, Bool.false_eq_true, if_false] at hb
  split at hb <;> cases hb
  rfl

/-- The world's write loop waits exactly when neither the close branch nor the receive branch is
ready. -/
theorem pick?_eq_none {x : Connection} :
    pick? x = none ↔ Branch.shut.ready x = false ∧ Branch.recv.ready x = false := by
  unfold pick?
  split
  · simp_all [Branch.ready]
  · split <;> simp_all [Branch.ready]

theorem endWriting_hub (w : World) (c : ConnId) :
    (w.endWriting c).hub =
      ((w.hub.updateConn c fun x => { x with egress := x.egress.discard }).unregister c).2 := rfl

theorem endReading_link? (w : World) (c : ConnId) :
    (w.endReading c).link? c = (w.link? c).map fun l => { l with reading := false } := by
  change (w.updateLink c fun l => { l with reading := false }).link? c = _
  rw [link?_updateLink (f := fun l => { l with reading := false }) (fun _ => rfl), if_pos rfl]

theorem endWriting_link? (w : World) (c : ConnId) :
    (w.endWriting c).link? c = (w.link? c).map fun l => { l with writing := false } := by
  change (w.updateLink c fun l => { l with writing := false }).link? c = _
  rw [link?_updateLink (f := fun l => { l with writing := false }) (fun _ => rfl), if_pos rfl]

/-! ## Keeping one connection as it is -/

/-- The second world shows `c` as the first does: its link, its connection's existence and close
reason, whether it is registered, the clock and the settings. -/
structure Keeps (c : ConnId) (w w' : World) : Prop where
  link : w'.link? c = w.link? c
  reason : (w'.hub.conn? c).map (·.closeReason) = (w.hub.conn? c).map (·.closeReason)
  registered : w'.hub.registry.contains c = w.hub.registry.contains c
  clock : w'.clock = w.clock
  config : w'.config = w.config

namespace Keeps

variable {c : ConnId} {w w₁ w₂ : World}

@[refl] theorem refl (w : World) : Keeps c w w := ⟨rfl, rfl, rfl, rfl, rfl⟩

theorem trans (h₁ : Keeps c w w₁) (h₂ : Keeps c w₁ w₂) : Keeps c w w₂ :=
  ⟨h₂.link.trans h₁.link, h₂.reason.trans h₁.reason, h₂.registered.trans h₁.registered,
    h₂.clock.trans h₁.clock, h₂.config.trans h₁.config⟩

theorem of_calm {h : Hub} (hc : Hub.Calm w.hub h) : Keeps c w { w with hub := h } :=
  ⟨rfl, hc.2 c, by rw [hc.1], rfl, rfl⟩

theorem emitAll (d : ConnId) (fs : List Frame) : Keeps c w (w.emitAll d fs) := by
  rw [emitAll_eq]
  exact ⟨rfl, rfl, rfl, rfl, rfl⟩

theorem updateLink {d : ConnId} {f : Link → Link} (hf : ∀ l, (f l).conn = l.conn) (hne : d ≠ c) :
    Keeps c w (w.updateLink d f) :=
  ⟨by rw [link?_updateLink hf, if_neg hne], rfl, rfl, rfl, rfl⟩

theorem updateConn {d : ConnId} {f : Connection → Connection} (hf : ∀ x, x.id = d → (f x).id = d)
    (hne : d ≠ c) : Keeps c w { w with hub := w.hub.updateConn d f } :=
  ⟨rfl, by rw [Hub.conn?_updateConn_of_ne hf hne], rfl, rfl, rfl⟩

theorem closeConn {d : ConnId} (r : CloseReason) (hne : d ≠ c) : Keeps c w (w.closeConn d r) :=
  ⟨rfl, by simp only [World.closeConn, Hub.conn?_closeConn, if_neg hne], by simp [World.closeConn],
    rfl, rfl⟩

theorem removeClient {d : ConnId} (hne : d ≠ c) : Keeps c w (w.removeClient d) :=
  ⟨rfl, by rw [World.removeClient, Hub.conn?_unregister_of_ne _ hne],
    by simp [World.removeClient, Hub.registry_unregister, hne], rfl, rfl⟩

theorem endReading {d : ConnId} (hne : d ≠ c) : Keeps c w (w.endReading d) :=
  (updateLink (f := fun l => { l with reading := false }) (fun _ => rfl) hne).trans (removeClient hne)

theorem dropWriter {d : ConnId} (hne : d ≠ c) : Keeps c w (w.dropWriter d) :=
  (updateLink (f := fun l => { l with writing := false }) (fun _ => rfl) hne).trans
    (updateConn (f := fun x => { x with egress := x.egress.discard }) (fun _ h => h) hne)

theorem endWriting {d : ConnId} (hne : d ≠ c) : Keeps c w (w.endWriting d) :=
  (dropWriter hne).trans (removeClient hne)

theorem takeBranch {l : Link} {x : Connection} (b : Branch) (hne : l.conn ≠ c) :
    Keeps c w (w.takeBranch l x b) := by
  unfold World.takeBranch
  split
  rename_i fs q going _
  dsimp only
  split
  · have hk : Keeps c w { w with hub := w.hub.updateConn l.conn fun y => { y with egress := q } } :=
      updateConn (fun _ h => h) hne
    split
    · exact hk.trans (emitAll _ _)
    · exact (hk.trans (emitAll _ _)).trans (endWriting hne)
  · exact endWriting hne

/-- A branch that leaves the loop running, over a transport that takes writes, only writes and
changes the queue. -/
theorem takeBranch_going {l : Link} {x : Connection} {b : Branch} (hsink : l.sinkOk = true)
    (hgo : (b.take x).2.2 = true) : Keeps c w (w.takeBranch l x b) := by
  unfold World.takeBranch
  split
  rename_i fs q going heq
  rw [heq] at hgo
  dsimp only at hgo ⊢
  simp only [hsink, hgo, if_true]
  have hk : Keeps c w { w with hub := w.hub.updateConn l.conn fun y => { y with egress := q } } :=
    .of_calm (Hub.calm_updateConn fun _ hid => ⟨hid, rfl⟩)
  exact hk.trans (emitAll _ _)

end Keeps

theorem keeps_writeTurn_of_ne {w : World} {c : ConnId} {l : Link} (hne : l.conn ≠ c) :
    Keeps c w (w.writeTurn l).2 := by
  unfold writeTurn
  split
  · exact .refl w
  split
  · exact .refl w
  split
  · exact .refl w
  · exact Keeps.takeBranch _ hne

theorem keeps_readTurn_of_ne {w : World} {c : ConnId} {l : Link} (hne : l.conn ≠ c) :
    Keeps c w (w.readTurn l).2 := by
  unfold readTurn
  split
  · exact .refl w
  split
  · exact Keeps.endReading hne
  · exact .refl w

theorem keeps_runHandoffs (w : World) (c : ConnId) : Keeps c w { w with hub := w.hub.runHandoffs } :=
  .of_calm (Hub.calm_runHandoffs w.hub)

/-! ## Settling, by induction over rounds and turns -/

section Induction

variable (P : World → Prop)

theorem turns_induction (turn : World → Link → Bool × World)
    (hturn : ∀ w l, w.link? l.conn = some l → P w → P (turn w l).2) (cs : List ConnId) (w : World)
    (hw : P w) : P (turns turn cs w).2 := by
  unfold turns
  -- the fold carries whether anything happened; the property only looks at the world
  generalize false = b
  induction cs generalizing b w with
  | nil => exact hw
  | cons d cs ih =>
    simp only [List.foldl_cons]
    split
    · rename_i l hl
      have hd : l.conn = d := conn_of_link? hl
      subst hd
      exact ih _ (hturn w l hl hw) _
    · exact ih _ hw _

variable (hwrite : ∀ w l, w.link? l.conn = some l → P w → P (w.writeTurn l).2)
  (hread : ∀ w l, w.link? l.conn = some l → P w → P (w.readTurn l).2)
  (hhand : ∀ w, P w → P { w with hub := w.hub.runHandoffs })

include hwrite hread hhand

theorem round_induction (w : World) (hw : P w) : P w.round.2 :=
  hhand _ (turns_induction P _ hread _ _ (turns_induction P _ hwrite _ _ hw))

theorem settleWithin_induction (n : Nat) (w : World) (hw : P w) : P (w.settleWithin n) := by
  induction n generalizing w with
  | zero => exact hw
  | succ n ih =>
    have hr := round_induction P hwrite hread hhand w hw
    simp only [settleWithin]
    split
    · exact ih _ hr
    · exact hr

theorem settle_induction (w : World) (hw : P w) : P w.settle :=
  settleWithin_induction P hwrite hread hhand _ w hw

end Induction

/-! ## A read loop that runs -/

/-- The read loop of `c` runs and goes on reading: its link reads, writes to its transport
succeed and its deadline lies ahead; its connection exists with no close reason and is
registered; and a pong moves the deadline ahead of the clock. -/
structure Reading (w : World) (c : ConnId) : Prop where
  link : ∃ l, w.link? c = some l ∧ l.reading = true ∧ l.sinkOk = true ∧ w.clock < l.deadline
  conn : ∃ x, w.hub.conn? c = some x ∧ x.closeReason = none
  registered : w.hub.registry.contains c = true
  pongWait : 0 < w.pongWaitNanos

theorem Reading.conn_of_reason {w w' : World} {c : ConnId} (hx : ∃ x, w.hub.conn? c = some x ∧ x.closeReason = none)
    (h : (w'.hub.conn? c).map (·.closeReason) = (w.hub.conn? c).map (·.closeReason)) :
    ∃ x, w'.hub.conn? c = some x ∧ x.closeReason = none := by
  obtain ⟨x, hx, hopen⟩ := hx
  rw [hx, Option.map_some, hopen] at h
  exact Option.map_eq_some_iff.1 h

theorem Reading.keeps {w w' : World} {c : ConnId} (hr : Reading w c) (hk : Keeps c w w') :
    Reading w' c := by
  obtain ⟨l, hl, hread, hsink, hdl⟩ := hr.link
  refine ⟨⟨l, hk.link.trans hl, hread, hsink, hk.clock ▸ hdl⟩, Reading.conn_of_reason hr.conn hk.reason,
    hk.registered.trans hr.registered, ?_⟩
  unfold pongWaitNanos
  rw [hk.config]
  exact hr.pongWait

theorem Reading.isSome {w : World} {c : ConnId} (hr : Reading w c) : (w.hub.conn? c).isSome := by
  obtain ⟨x, hx, -⟩ := hr.conn
  simp [hx]

theorem Reading.closeReasonOf {w : World} {c : ConnId} (hr : Reading w c) :
    w.hub.closeReasonOf c = none := by
  obtain ⟨x, hx, hopen⟩ := hr.conn
  simp [Hub.closeReasonOf, hx, hopen]

theorem keeps_writeTurn_self {w : World} {c : ConnId} {l : Link} (hr : Reading w c)
    (hl : w.link? c = some l) : Keeps c w (w.writeTurn l).2 := by
  obtain ⟨l', hl', -, hsink, -⟩ := hr.link
  obtain ⟨x, hx, hopen⟩ := hr.conn
  obtain rfl : l' = l := Option.some.inj (hl'.symm.trans hl)
  have hc : l'.conn = c := conn_of_link? hl
  unfold writeTurn
  split
  · exact .refl w
  rw [hc, hx]
  dsimp only
  split
  · exact .refl w
  · rename_i b hb
    -- with no close reason the world takes the receive branch, which never ends the loop
    obtain rfl := pick?_of_open hopen hb
    exact Keeps.takeBranch_going hsink (Branch.take_going (show Branch.recv ≠ .shut by decide))

theorem readTurn_self {w : World} {c : ConnId} {l : Link} (hr : Reading w c)
    (hl : w.link? c = some l) : w.readTurn l = (false, w) := by
  obtain ⟨l', hl', hread, -, hdl⟩ := hr.link
  obtain ⟨x, hx, hopen⟩ := hr.conn
  obtain rfl : l' = l := Option.some.inj (hl'.symm.trans hl)
  have hc : l'.conn = c := conn_of_link? hl
  have hlate : ¬ l'.deadline ≤ w.clock := Nat.not_le.2 hdl
  simp [readTurn, hread, hc, hx, Connection.isClosed, hopen, hlate]

/-- While `c` reads, settling leaves it as it is. -/
theorem Reading.keeps_settle {w : World} {c : ConnId} (hr : Reading w c) : Keeps c w w.settle := by
  -- carried with `Reading` itself, which each turn needs to keep `c`
  refine (settle_induction (fun w' => Reading w' c ∧ Keeps c w w') ?_ ?_ ?_ w ⟨hr, .refl w⟩).2
  · rintro w' l hl ⟨hr', hk⟩
    have hstep : Keeps c w' (w'.writeTurn l).2 := by
      by_cases hc : l.conn = c
      · rw [hc] at hl
        exact keeps_writeTurn_self hr' hl
      · exact keeps_writeTurn_of_ne hc
    exact ⟨hr'.keeps hstep, hk.trans hstep⟩
  · rintro w' l hl ⟨hr', hk⟩
    by_cases hc : l.conn = c
    · rw [hc] at hl
      rw [readTurn_self hr' hl]
      exact ⟨hr', hk⟩
    · have hstep : Keeps c w' (w'.readTurn l).2 := keeps_readTurn_of_ne hc
      exact ⟨hr'.keeps hstep, hk.trans hstep⟩
  · rintro w' ⟨hr', hk⟩
    have hstep := keeps_runHandoffs w' c
    exact ⟨hr'.keeps hstep, hk.trans hstep⟩

theorem Reading.settle {w : World} {c : ConnId} (hr : Reading w c) : Reading w.settle c :=
  hr.keeps hr.keeps_settle

/-! ## A read loop that ended -/

/-- The read loop of `c` has ended, and `r` is recorded on its connection. -/
structure Stopped (w : World) (c : ConnId) (r : CloseReason) : Prop where
  reason : w.hub.closeReasonOf c = some r
  ended : ∀ l, w.link? c = some l → l.reading = false

namespace Stopped

variable {w : World} {c : ConnId} {r : CloseReason}

theorem of_hub {h : Hub} (hs : Stopped w c r) (hh : h.closeReasonOf c = some r) :
    Stopped { w with hub := h } c r :=
  ⟨hh, hs.ended⟩

theorem emitAll (hs : Stopped w c r) (d : ConnId) (fs : List Frame) : Stopped (w.emitAll d fs) c r := by
  rw [emitAll_eq]
  exact ⟨hs.reason, hs.ended⟩

theorem updateLink (hs : Stopped w c r) (d : ConnId) {f : Link → Link}
    (hf : ∀ l, (f l).conn = l.conn) (hread : ∀ l, l.reading = false → (f l).reading = false) :
    Stopped (w.updateLink d f) c r := by
  refine ⟨hs.reason, fun l hl => ?_⟩
  rw [link?_updateLink hf] at hl
  split at hl
  · obtain ⟨l₀, hl₀, rfl⟩ := Option.map_eq_some_iff.1 hl
    exact hread l₀ (hs.ended l₀ hl₀)
  · exact hs.ended l hl

theorem closeConn (hs : Stopped w c r) (d : ConnId) (r' : CloseReason) :
    Stopped (w.closeConn d r') c r :=
  hs.of_hub (Hub.closeReasonOf_closeConn_of_some hs.reason d r')

theorem removeClient (hs : Stopped w c r) (d : ConnId) : Stopped (w.removeClient d) c r :=
  hs.of_hub (Hub.closeReasonOf_unregister_of_some hs.reason d)

theorem endReading (hs : Stopped w c r) (d : ConnId) : Stopped (w.endReading d) c r :=
  (hs.updateLink d (f := fun l => { l with reading := false }) (fun _ => rfl) fun _ _ => rfl).removeClient d

theorem updateConn (hs : Stopped w c r) (d : ConnId) {f : Connection → Connection}
    (hf : ∀ x, x.id = d → (f x).id = d ∧ (f x).closeReason = x.closeReason) :
    Stopped { w with hub := w.hub.updateConn d f } c r :=
  hs.of_hub (((Hub.calm_updateConn hf).closeReasonOf c).trans hs.reason)

theorem dropWriter (hs : Stopped w c r) (d : ConnId) : Stopped (w.dropWriter d) c r :=
  (hs.updateLink d (f := fun l => { l with writing := false }) (fun _ => rfl) fun _ h => h).updateConn d
    (f := fun x => { x with egress := x.egress.discard }) fun _ hid => ⟨hid, rfl⟩

theorem endWriting (hs : Stopped w c r) (d : ConnId) : Stopped (w.endWriting d) c r :=
  (hs.dropWriter d).removeClient d

theorem takeBranch (hs : Stopped w c r) (l : Link) (x : Connection) (b : Branch) :
    Stopped (w.takeBranch l x b) c r := by
  unfold World.takeBranch
  split
  rename_i fs q going _
  dsimp only
  split
  · have hw := (hs.updateConn l.conn (f := fun y => { y with egress := q }) fun _ hid => ⟨hid, rfl⟩).emitAll
      l.conn fs
    split
    · exact hw
    · exact hw.endWriting _
  · exact hs.endWriting _

theorem of_endReading (h : (w.hub.unregister c).2.closeReasonOf c = some r) :
    Stopped (w.endReading c) c r := by
  refine ⟨h, fun l hl => ?_⟩
  have hl' : (w.updateLink c fun l => { l with reading := false }).link? c = some l := hl
  rw [link?_updateLink (f := fun l => { l with reading := false }) (fun _ => rfl), if_pos rfl] at hl'
  obtain ⟨l₀, -, rfl⟩ := Option.map_eq_some_iff.1 hl'
  rfl

theorem writeTurn (hs : Stopped w c r) (l : Link) : Stopped (w.writeTurn l).2 c r := by
  unfold World.writeTurn
  split
  · exact hs
  split
  · exact hs
  split
  · exact hs
  · exact hs.takeBranch _ _ _

theorem readTurn (hs : Stopped w c r) (l : Link) : Stopped (w.readTurn l).2 c r := by
  unfold World.readTurn
  split
  · exact hs
  split
  · exact hs.endReading _
  · exact hs

theorem settle (hs : Stopped w c r) : Stopped w.settle c r :=
  settle_induction (Stopped · c r) (fun _ l _ hs => hs.writeTurn l) (fun _ l _ hs => hs.readTurn l)
    (fun w hs => hs.of_hub ((Hub.calm_runHandoffs w.hub).closeReasonOf c ▸ hs.reason)) w hs

end Stopped

end World

end Switchboard.Live
