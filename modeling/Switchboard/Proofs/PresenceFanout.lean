import Switchboard.Proofs.DirectMessage
import Switchboard.Proofs.PresenceDiff
/-!
# What a presence tick sends to each client

A presence tick diffs who is online against the tracker and then walks the registry: each
registered connection is offered the diff without the entries about its own user, unless nothing
is left, and the tick answers how many offers were taken. This module says it from outside, with
the offers of `Offered` (the hub after offering a list of envelopes, each to its connection):

* a tick makes the offers of `tickOffers`, one per registration with a non-empty share, in
  registration order, and changes nothing else about the connections;
* on a registry that lists each connection once, a registered connection is offered its share
  exactly once and any other connection nothing; since the share depends on the user only, all
  connections of a user are offered the same copy, and no copy mentions its receiver's user;
* the answer is the number of those offers that the queues take, each judged on its queue as it
  was before the tick (`Hub.takes`), since no queue is offered twice; an empty diff offers nothing
  and answers zero.

Main statement, `presence_fanout`.
-/

namespace Switchboard

open Wire

/-! ## Whether a queue takes an offer -/
namespace Hub

/-- The queue of the envelope's connection would take it now: the connection exists and its
queue is open with room. -/
def takes (h : Hub) (d : ConnId × Envelope) : Bool := (h.queue d.1).any fun q => (q.offer d.2).1

theorem sendEvent_fst (h : Hub) (c : ConnId) (tag : EventTag) (payload : Json) :
    (h.sendEvent c tag payload).1 = h.takes (c, ⟨tag, payload⟩) := by
  simp only [sendEvent, withConn, takes, queue]
  cases h.conn? c <;> rfl

theorem takes_of_offered {h h' : Hub} {ds : List (ConnId × Envelope)} (ho : Offered h h' ds)
    {d : ConnId × Envelope} (hd : d.1 ∉ ds.map (·.1)) : h'.takes d = h.takes d := by
  have hnone : envelopesTo d.1 ds = [] := by
    simp only [envelopesTo, List.map_eq_nil_iff, List.filter_eq_nil_iff, beq_iff_eq]
    exact fun x hx heq => hd (heq ▸ List.mem_map_of_mem hx)
  simp [takes, ho.queues, hnone]

/-! ## The tick as a fold -/

/-- One registration's turn in a tick: offered its share of the update unless the share is empty,
counting the offers taken. -/
def tickStep (upd : UserStatusUpdate) (acc : Nat × Hub) (e : Registration) : Nat × Hub :=
  let filtered := upd.without e.info.id
  if filtered.isEmpty then acc
  else
    let (ok, h) := acc.2.sendEvent e.conn .userStatusUpdate filtered.toJson
    (if ok then acc.1 + 1 else acc.1, h)

theorem presenceTick_eq (h : Hub) :
    h.presenceTick =
      if (h.tracker.diff h.registry.onlineConnections).1.isEmpty then
        (0, { h with tracker := (h.tracker.diff h.registry.onlineConnections).2 })
      else h.registry.entries.foldl (tickStep (h.tracker.diff h.registry.onlineConnections).1)
        (0, { h with tracker := (h.tracker.diff h.registry.onlineConnections).2 }) := by
  rfl

end Hub

/-! ## The offers of a tick -/

/-- The offers a tick makes for an update: each registration, in order, its share of the update
(the update without its own user), unless nothing is left. -/
def tickOffers (upd : UserStatusUpdate) (es : List Registration) : List (ConnId × Envelope) :=
  es.filterMap fun e =>
    if (upd.without e.info.id).isEmpty then none
    else some (e.conn, ⟨.userStatusUpdate, (upd.without e.info.id).toJson⟩)

theorem tickOffers_cons (upd : UserStatusUpdate) (e : Registration) (es : List Registration) :
    tickOffers upd (e :: es) =
      (if (upd.without e.info.id).isEmpty then [] else [(e.conn, ⟨.userStatusUpdate, (upd.without e.info.id).toJson⟩)]) ++
        tickOffers upd es := by
  unfold tickOffers
  rw [List.filterMap_cons]
  split <;> simp_all

theorem conn_of_mem_tickOffers {upd : UserStatusUpdate} {es : List Registration} {d : ConnId × Envelope}
    (hd : d ∈ tickOffers upd es) : d.1 ∈ es.map (·.conn) := by
  obtain ⟨e, he, hd⟩ := List.mem_filterMap.1 hd
  split at hd
  · cases hd
  · cases hd
    exact List.mem_map_of_mem he

/-- Folding the turns over registrations with distinct connections: the count grows by the
offers taken, each judged on the queue as it was before the tick, and the hub is offered them. -/
theorem foldl_tickStep (upd : UserStatusUpdate) (es : List Registration) (hnodup : (es.map (·.conn)).Nodup)
    (n : Nat) (g : Hub) :
    (es.foldl (Hub.tickStep upd) (n, g)).1 = n + ((tickOffers upd es).filter g.takes).length ∧
      Offered g (es.foldl (Hub.tickStep upd) (n, g)).2 (tickOffers upd es) := by
  induction es generalizing n g with
  | nil => exact ⟨rfl, Offered.refl g⟩
  | cons e es ih =>
    rw [List.map_cons, List.nodup_cons] at hnodup
    rw [List.foldl_cons, tickOffers_cons]
    by_cases hempty : (upd.without e.info.id).isEmpty
    · -- nothing left for this registration: no offer
      have hstep : Hub.tickStep upd (n, g) e = (n, g) := by simp [Hub.tickStep, hempty]
      rw [hstep, if_pos hempty, List.nil_append]
      exact ih hnodup.2 n g
    · -- the share is offered to the registration's connection
      set env : Envelope := ⟨.userStatusUpdate, (upd.without e.info.id).toJson⟩
      have hstep : Hub.tickStep upd (n, g) e =
          (if g.takes (e.conn, env) then n + 1 else n, (g.sendEvent e.conn env.tag env.payload).2) := by
        simp only [Hub.tickStep, hempty, Bool.false_eq_true, if_false, Hub.sendEvent_fst]
        rfl
      rw [hstep, if_neg hempty]
      obtain ⟨hcount, hoffer⟩ := ih hnodup.2 (if g.takes (e.conn, env) then n + 1 else n)
        (g.sendEvent e.conn env.tag env.payload).2
      have hfirst := Offered.sendEvent (h := g) e.conn env.tag env.payload
      -- the later offers go to other connections, so their queues are as before the tick
      have hsame : ((tickOffers upd es).filter (g.sendEvent e.conn env.tag env.payload).2.takes) =
          (tickOffers upd es).filter g.takes := by
        refine List.filter_congr fun d hd => Hub.takes_of_offered hfirst ?_
        intro hc
        simp only [List.map_cons, List.map_nil, List.mem_singleton] at hc
        exact hnodup.1 (hc ▸ conn_of_mem_tickOffers hd)
      refine ⟨?_, hfirst.trans hoffer⟩
      rw [hcount, hsame, List.singleton_append, List.filter_cons]
      by_cases htake : g.takes (e.conn, env) = true
      · simp only [htake, if_true, List.length_cons]
        omega
      · simp [htake]

theorem tickOffers_of_isEmpty {upd : UserStatusUpdate} (hu : upd.isEmpty = true) (es : List Registration) :
    tickOffers upd es = [] := by
  simp [tickOffers, UserStatusUpdate.without_isEmpty hu]

theorem envelopesTo_tickOffers_of_not_mem {upd : UserStatusUpdate} {es : List Registration} {c : ConnId}
    (hc : c ∉ es.map (·.conn)) : envelopesTo c (tickOffers upd es) = [] := by
  simp only [envelopesTo, List.map_eq_nil_iff, List.filter_eq_nil_iff, beq_iff_eq]
  exact fun d hd heq => hc (heq ▸ conn_of_mem_tickOffers hd)

/-- A registration's connection is offered its share of the update, once, unless the share is
empty. -/
theorem envelopesTo_tickOffers (upd : UserStatusUpdate) {es : List Registration}
    (hnodup : (es.map (·.conn)).Nodup) {e : Registration} (he : e ∈ es) :
    envelopesTo e.conn (tickOffers upd es) =
      if (upd.without e.info.id).isEmpty then [] else [⟨.userStatusUpdate, (upd.without e.info.id).toJson⟩] := by
  induction es with
  | nil => simp at he
  | cons e' es ih =>
    rw [List.map_cons, List.nodup_cons] at hnodup
    rw [tickOffers_cons, envelopesTo_append]
    rcases List.mem_cons.1 he with rfl | he
    · -- the registration's own turn; no later one lists its connection
      rw [envelopesTo_tickOffers_of_not_mem hnodup.1, List.append_nil]
      split <;> simp [envelopesTo_singleton]
    · -- an earlier turn is another connection's
      have hne : e'.conn ≠ e.conn := fun h => hnodup.1 (h ▸ List.mem_map_of_mem he)
      rw [ih hnodup.2 he]
      split <;> simp [envelopesTo_singleton, hne]

/-! ## The fan-out -/

/-- What one presence tick does, on a registry listing each connection once: the tracker takes
the look, and every registered connection is offered, once, the diff without its own user unless
nothing is left, and nothing else; the answer counts the offers taken, and an empty diff offers
nothing and answers zero. Connections of one user are offered the same copy, and no copy has an
entry about its receiver's user. -/
theorem presence_fanout (h : Hub) (hnodup : h.registry.conns.Nodup) :
    let U := (h.tracker.diff h.registry.onlineConnections).1
    let offers := tickOffers U h.registry.entries
    h.presenceTick.2.tracker = (h.tracker.diff h.registry.onlineConnections).2 ∧
    Offered h h.presenceTick.2 offers ∧
    h.presenceTick.1 = (offers.filter h.takes).length ∧
    (U.isEmpty = true → h.presenceTick.1 = 0 ∧ offers = []) ∧
    (∀ e ∈ h.registry.entries, envelopesTo e.conn offers =
      if (U.without e.info.id).isEmpty then [] else [⟨.userStatusUpdate, (U.without e.info.id).toJson⟩]) ∧
    (∀ c, c ∉ h.registry.conns → envelopesTo c offers = []) ∧
    (∀ e ∈ h.registry.entries, ∀ e' ∈ h.registry.entries, e.info.id = e'.info.id →
      envelopesTo e.conn offers = envelopesTo e'.conn offers) ∧
    ∀ u, (U.without u).online = U.online.filter (·.id ≠ u) ∧ (U.without u).offline = U.offline.filter (· ≠ u) ∧
      (∀ x ∈ (U.without u).online, x.id ≠ u) ∧ u ∉ (U.without u).offline := by
  intro U offers
  -- the tick's fold, from the hub holding the new look
  have hrun : Offered h h.presenceTick.2 offers ∧ h.presenceTick.1 = (offers.filter h.takes).length := by
    have hlook : Offered h { h with tracker := (h.tracker.diff h.registry.onlineConnections).2 } [] :=
      Offered.of_conns rfl rfl
    rw [Hub.presenceTick_eq]
    by_cases hU : U.isEmpty = true
    · rw [if_pos hU, show offers = [] from tickOffers_of_isEmpty hU _]
      exact ⟨hlook, rfl⟩
    · rw [if_neg hU]
      obtain ⟨hcount, hoffer⟩ := foldl_tickStep U h.registry.entries hnodup 0
        { h with tracker := (h.tracker.diff h.registry.onlineConnections).2 }
      have hall := hlook.trans hoffer
      rw [List.nil_append] at hall
      exact ⟨hall, hcount.trans (Nat.zero_add _)⟩
  have hshare := fun e (he : e ∈ h.registry.entries) => envelopesTo_tickOffers U hnodup he
  refine ⟨Hub.presenceTick_tracker h, hrun.1, hrun.2, fun hU => ?_, hshare,
    fun c hc => envelopesTo_tickOffers_of_not_mem hc, fun e he e' he' hid => ?_, fun u => ?_⟩
  · have hnone : offers = [] := tickOffers_of_isEmpty hU _
    exact ⟨by rw [hrun.2, hnone]; rfl, hnone⟩
  · rw [hshare e he, hshare e' he', hid]
  · refine ⟨List.filter_congr fun x _ => ?_, List.filter_congr fun x _ => ?_, fun x hx => ?_, fun hu => ?_⟩
    · by_cases hx : x.id = u <;> simp [hx]
    · by_cases hx : x = u <;> simp [hx]
    · simpa [UserStatusUpdate.without] using (List.mem_filter.1 hx).2
    · simp [UserStatusUpdate.without] at hu

def aliceAndBobHub : Hub where
  conns := [Connection.make ⟨0⟩ ⟨⟨1⟩, "alice", "token-1"⟩ 8 Time.Instant.epoch,
    Connection.make ⟨1⟩ ⟨⟨2⟩, "bob", "token-2"⟩ 8 Time.Instant.epoch]
  registry := ⟨[⟨⟨0⟩, ⟨⟨1⟩, "alice", .online⟩, 0⟩, ⟨⟨1⟩, ⟨⟨2⟩, "bob", .online⟩, 1⟩], 2⟩

/-- The first tick over Alice and Bob offers each connection its share of the diff. -/
theorem presence_fanout_first_tick :
    aliceAndBobHub.registry.conns.Nodup ∧
      Offered aliceAndBobHub aliceAndBobHub.presenceTick.2
        (tickOffers (aliceAndBobHub.tracker.diff aliceAndBobHub.registry.onlineConnections).1
          aliceAndBobHub.registry.entries) :=
  ⟨by decide, (presence_fanout aliceAndBobHub (by decide)).2.1⟩

end Switchboard
