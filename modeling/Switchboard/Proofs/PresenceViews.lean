import Mathlib.Data.Finset.Basic
import Switchboard.Proofs.PresenceTick
/-!
# Presence views

A client learns who is online from the `user_status_update` events in its queue: the snapshot
of the other online users that its connection is sent when it is accepted, and at each presence
tick the tick's diff without its own user. Applying them in queue order, each taking out the
users it reports offline and adding those it shows online, gives the client's *view*.

The ticks compare who is online with what the tracker held at the previous tick, and the
tracker knows nothing of the snapshots. A user who is online when a client connects and gone
before the next tick is in the client's snapshot, but the tracker never held them, so no tick
reports them offline (`stale_view_after_tick`). Apart from such users the views agree with the
registry: right after every tick of a run in which no offer was refused, each registered
client's view is the set of users online then without its own user, together with the users of
its snapshot that the tracker has not held since the client connected (`views_after_tick`).

A run is made of accepts, removals, ticks and drains of a queue. `State` carries the hub with
what each client has taken from its queue and, for the statement only, each client's snapshot
and the users the tracker has held since the client connected. `Inv` is what every reachable
state keeps; each act preserves it, and a tick preserves it through `view_tick_eq`, the view of
a registered client right after a tick.
-/

namespace Switchboard

open Wire

/-! ## What a client reads off a presence update -/

namespace Json

def int? : Json → Option Int
  | .int n => some n
  | _ => none

def items : Json → List Json
  | .arr xs => xs
  | _ => []

theorem lookup_cons (k k' : String) (v : Json) (fs : Fields) :
    ((k, v) :: fs).lookup k' = if k' = k then some v else fs.lookup k' := by
  by_cases h : k' = k
  · simp [h]
  · have hb : (k' == k) = false := by simpa using h
    simp [List.lookup_cons, hb, h]

theorem lookup_insert (k k' : String) (v : Json) (fs : Fields) :
    (Fields.insert k v fs).lookup k' = if k' = k then some v else fs.lookup k' := by
  induction fs with
  | nil => simp [Fields.insert, lookup_cons]
  | cons kv fs ih =>
    rcases kv with ⟨k₁, v₁⟩
    unfold Fields.insert
    by_cases hlt : k < k₁
    · rw [if_pos hlt, lookup_cons]
    · by_cases heq : k = k₁
      · subst heq
        rw [if_neg hlt, if_pos rfl, lookup_cons, lookup_cons]
        by_cases hk : k' = k <;> simp [hk]
      · rw [if_neg hlt, if_neg heq, lookup_cons, ih, lookup_cons]
        by_cases hk : k' = k₁
        · subst hk
          simp [Ne.symm heq]
        · simp [hk]

theorem get?_ofFields (fs : List (String × Json)) (k : String) :
    (ofFields fs).get? k = fs.reverse.lookup k := by
  -- the members are inserted one at a time into a growing object
  suffices ∀ acc : Fields,
      (fs.foldl (fun acc (kv : String × Json) => Fields.insert kv.1 kv.2 acc) acc).lookup k =
        (fs.reverse.lookup k).or (acc.lookup k) by
    simpa [ofFields, get?] using this []
  induction fs with
  | nil => simp
  | cons kv fs ih =>
    rcases kv with ⟨k₁, v₁⟩
    intro acc
    rw [List.foldl_cons, ih, lookup_insert, List.reverse_cons, List.lookup_append, lookup_cons]
    by_cases hk : k = k₁ <;> simp [hk]

end Json

/-- The ids a client reads off a presence update: those of the users shown online, and those
reported offline. What is not an integer id is skipped. -/
def presenceIds (payload : Json) : List UserId × List UserId :=
  let ids (xs : List Json) : List UserId := xs.filterMap fun j => j.int?.map UserId.mk
  (ids ((((payload.get? "online_users").map Json.items).getD []).map fun u => (u.get? "id").getD .null),
   ids (((payload.get? "offline_user_ids").map Json.items).getD []))

namespace Wire

theorem UserStatusInfo.get_id (u : UserStatusInfo) : u.toJson.get? "id" = some (.int u.id.val) := by
  simp [UserStatusInfo.toJson, Json.get?_ofFields, Json.lookup_cons]

theorem UserStatusUpdate.get_online (u : UserStatusUpdate) :
    u.toJson.get? "online_users" = some (.arr (u.online.map UserStatusInfo.toJson)) := by
  simp [UserStatusUpdate.toJson, Json.get?_ofFields, Json.lookup_cons]

theorem UserStatusUpdate.get_offline (u : UserStatusUpdate) :
    u.toJson.get? "offline_user_ids" = some (.arr (u.offline.map fun i => .int i.val)) := by
  simp [UserStatusUpdate.toJson, Json.get?_ofFields]

end Wire

@[simp] theorem presenceIds_toJson (u : UserStatusUpdate) :
    presenceIds u.toJson = (u.online.map (·.id), u.offline) := by
  simp [presenceIds, UserStatusUpdate.get_online, UserStatusUpdate.get_offline, Json.items,
    UserStatusInfo.get_id, Json.int?, List.filterMap_map, Function.comp_def]

/-- A client's view after one more event: a presence update takes out the users it reports
offline and adds those it shows online; any other event leaves the view. -/
def applyPresence (v : Finset UserId) (e : Envelope) : Finset UserId :=
  if e.tag = .userStatusUpdate then
    (v \ (presenceIds e.payload).2.toFinset) ∪ (presenceIds e.payload).1.toFinset
  else v

@[simp] theorem applyPresence_update (v : Finset UserId) (u : UserStatusUpdate) :
    applyPresence v ⟨.userStatusUpdate, u.toJson⟩ =
      (v \ u.offline.toFinset) ∪ (u.online.map (·.id)).toFinset := by
  simp [applyPresence]

/-! ## Runs of the hub and the clients' views -/

namespace PresenceViews

def onlineIds (r : Registry) : Finset UserId := (r.onlineConnections.map (·.info.id)).toFinset

def trackedIds (t : Tracker) : Finset UserId := (t.seen.map (·.1)).toFinset

/-- The users the snapshot sent to a connection of `u` shows: the online users but `u`. -/
def snapshotIds (r : Registry) (u : UserId) : Finset UserId :=
  ((r.onlineUsersExcept u).map (·.id)).toFinset

def queued (h : Hub) (c : ConnId) : List Envelope := ((h.conn? c).map (·.egress.items)).getD []

/-- What happens to the hub: a connection is accepted for an identity with a queue of the given
capacity, a client is removed, the presence ticker fires, or a connection's writer takes everything
waiting in its queue. -/
inductive Act where
  | accept (identity : Identity) (capacity : Nat)
  | remove (c : ConnId)
  | tick
  | drain (c : ConnId)
  deriving DecidableEq

/-- The hub, and what each client has taken from its queue. `snapshot` and `seen` are there for
the statement only: the users each client's snapshot showed, and the users the tracker has held
since the client connected. -/
structure State where
  hub : Hub
  taken : ConnId → List Envelope
  snapshot : ConnId → Finset UserId
  seen : ConnId → Finset UserId

namespace State

def start (access : Access) (now : Time.Instant) : State :=
  ⟨{ access, now }, fun _ => [], fun _ => ∅, fun _ => ∅⟩

def step (s : State) : Act → State
  | .accept identity capacity =>
    let c := (s.hub.accept identity capacity).1
    let hub := (s.hub.accept identity capacity).2
    { s with hub,
             snapshot := Function.update s.snapshot c (snapshotIds hub.registry identity.user),
             seen := Function.update s.seen c (trackedIds s.hub.tracker) }
  | .remove c => { s with hub := (s.hub.unregister c).2 }
  | .tick => { s with hub := s.hub.presenceTick.2, seen := fun d => s.seen d ∪ onlineIds s.hub.registry }
  | .drain c =>
    { s with hub := s.hub.updateConn c fun x => { x with egress := (x.egress.takeAll).2 },
             taken := Function.update s.taken c (s.taken c ++ queued s.hub c) }

def run (s : State) (acts : List Act) : State := acts.foldl step s

end State

/-- A client's view: the events it has taken and those waiting, applied in order to nobody. -/
def view (s : State) (c : ConnId) : Finset UserId :=
  (s.taken c ++ queued s.hub c).foldl applyPresence ∅

/-- Every registered connection that the next tick tells something takes the event. -/
def TickRoom (h : Hub) : Prop :=
  ∀ e ∈ h.registry.entries, (h.tickShare e.info.id).isEmpty = false →
    ((h.conn? e.conn).all fun x => (x.sendEvent .userStatusUpdate (h.tickShare e.info.id).toJson).1) = true

/-- No offer of the run is refused. The snapshot offered on accepting never is, the queue being
new; so this asks it of the ticks. -/
def NoDrop : State → List Act → Prop
  | _, [] => True
  | s, a :: as => (a = .tick → TickRoom s.hub) ∧ NoDrop (s.step a) as

instance (h : Hub) : Decidable (TickRoom h) :=
  inferInstanceAs (Decidable (∀ e ∈ h.registry.entries, (h.tickShare e.info.id).isEmpty = false →
    ((h.conn? e.conn).all fun x => (x.sendEvent .userStatusUpdate (h.tickShare e.info.id).toJson).1) = true))

instance decNoDrop : (s : State) → (acts : List Act) → Decidable (NoDrop s acts)
  | _, [] => isTrue trivial
  | s, a :: as =>
    have := decNoDrop (s.step a) as
    inferInstanceAs (Decidable ((a = .tick → TickRoom s.hub) ∧ NoDrop (s.step a) as))

theorem noDrop_append (s : State) (as bs : List Act) :
    NoDrop s (as ++ bs) ↔ NoDrop s as ∧ NoDrop (s.run as) bs := by
  induction as generalizing s with
  | nil => simp [NoDrop, State.run]
  | cons a as ih => simp [NoDrop, ih, State.run, and_assoc]

/-! ### Views through each act -/

theorem mem_onlineIds {r : Registry} {y : UserId} : y ∈ onlineIds r ↔ ∃ e ∈ r.entries, e.info.id = y := by
  rw [onlineIds, List.mem_toFinset, Registry.mem_onlineIds]

theorem mem_snapshotIds {r : Registry} {u y : UserId} :
    y ∈ snapshotIds r u ↔ y ∈ onlineIds r ∧ y ≠ u := by
  have hids : (r.onlineUsersExcept u).map (·.id) = (r.onlineConnections.map (·.info.id)).filter (· != u) := by
    simp [Registry.onlineUsersExcept, Registry.onlineUsers, List.filter_map, Function.comp_def]
  rw [snapshotIds, hids, List.mem_toFinset, List.mem_filter, onlineIds, List.mem_toFinset, bne_iff_ne]

theorem queued_unregister (h : Hub) (c d : ConnId) : queued (h.unregister c).2 d = queued h d := by
  have := congrArg (fun o => (o.map (·.items)).getD []) (Hub.egress_unregister h c d)
  simpa [queued, Option.map_map, Function.comp_def] using this

variable {s : State}

theorem view_remove (c d : ConnId) : view (s.step (.remove c)) d = view s d := by
  simp only [view, State.step, queued_unregister]

theorem view_drain (c d : ConnId) : view (s.step (.drain c)) d = view s d := by
  have hf : ∀ x : Connection, x.id = c → ({ x with egress := (x.egress.takeAll).2 } : Connection).id = c :=
    fun _ hx => hx
  simp only [view, State.step]
  by_cases hdc : d = c
  · subst hdc
    have hq : queued (s.hub.updateConn d fun x => { x with egress := (x.egress.takeAll).2 }) d = [] := by
      rw [queued, Hub.conn?_updateConn_self hf]
      cases s.hub.conn? d <;> rfl
    rw [Function.update_self, hq, List.append_nil]
  · rw [Function.update_of_ne hdc, queued, Hub.conn?_updateConn_of_ne hf (Ne.symm hdc)]
    rfl

theorem view_accept_of_ne {identity : Identity} {capacity : Nat} {d : ConnId}
    (hd : d ≠ ⟨s.hub.conns.length⟩) : view (s.step (.accept identity capacity)) d = view s d := by
  simp only [view, State.step, queued, Hub.conn?_accept_of_ne _ _ _ hd]

theorem view_accept_self (identity : Identity) (capacity : Nat)
    (hfresh : s.hub.conn? ⟨s.hub.conns.length⟩ = none) (htaken : s.taken ⟨s.hub.conns.length⟩ = []) :
    view (s.step (.accept identity capacity)) ⟨s.hub.conns.length⟩ =
      snapshotIds (s.hub.accept identity capacity).2.registry identity.user := by
  have hg : ((s.hub.openConn identity capacity).2.register ⟨s.hub.conns.length⟩).conn? ⟨s.hub.conns.length⟩ =
      some (Connection.make ⟨s.hub.conns.length⟩ identity capacity s.hub.now) := by
    rw [Hub.conn?_register, Hub.conn?_openConn_self _ _ _ hfresh]
  simp only [view, State.step, htaken, List.nil_append, queued]
  rw [Hub.accept_eq]
  dsimp only
  split
  · rename_i hempty
    rw [hg]
    simp [snapshotIds, List.isEmpty_iff.1 hempty, Connection.make, Egress.make]
  · have hok : ((Connection.make ⟨s.hub.conns.length⟩ identity capacity s.hub.now).sendEvent
        .userStatusUpdate (UserStatusUpdate.toJson ⟨((s.hub.openConn identity capacity).2.register
          ⟨s.hub.conns.length⟩).registry.onlineUsersExcept identity.user, []⟩)).1 = true := by
      simp [Connection.make, Connection.sendEvent, Connection.enqueue, Egress.offer, Egress.make]
    dsimp only
    rw [Hub.conn?_sendEvent, if_pos rfl, hg, Option.map_some, Option.map_some, Option.getD_some,
      Connection.sendEvent_items hok]
    simp [snapshotIds, Connection.make, Egress.make]

theorem queued_presenceTick {h : Hub} (hnodup : (h.registry.entries.map (·.conn)).Nodup)
    (hroom : TickRoom h) {e : Registration} (he : e ∈ h.registry.entries) (hx : (h.conn? e.conn).isSome) :
    queued h.presenceTick.2 e.conn = queued h e.conn ++
      if (h.tickShare e.info.id).isEmpty then [] else [⟨.userStatusUpdate, (h.tickShare e.info.id).toJson⟩] := by
  obtain ⟨x, hx⟩ := Option.isSome_iff_exists.1 hx
  rw [queued, Hub.conn?_presenceTick_of_mem hnodup he]
  split
  · simp [queued]
  · rename_i hne
    have hok := hroom e he (by simpa using hne)
    rw [hx, Option.all_some] at hok
    simp [queued, hx, Connection.sendEvent_items hok]

/-! ### The invariant -/

/-- What a registered client's view keeps from one tick to the next. -/
structure ViewInv (s : State) (e : Registration) : Prop where
  /-- The client's own user is not in its view. -/
  self : e.info.id ∉ view s e.conn
  /-- A user the tracker holds with a registered connection is in the view. -/
  known : ∀ e' ∈ s.hub.registry.entries, e'.info.id ≠ e.info.id → ∀ prev,
    s.hub.tracker.seen.lookup e'.info.id = some prev → e'.conn ∈ prev → e'.info.id ∈ view s e.conn
  /-- The tracker holds only users it has held since the client connected. -/
  tracked : trackedIds s.hub.tracker ⊆ s.seen e.conn
  /-- Outside the tracker's users, the view is the snapshot's users the tracker has not held. -/
  stale : view s e.conn \ trackedIds s.hub.tracker = s.snapshot e.conn \ s.seen e.conn

/-- What every reachable state keeps. -/
structure Inv (s : State) : Prop where
  /-- Ids from the number of connections up are unused. -/
  fresh : ∀ d : ConnId, s.hub.conns.length ≤ d.val → s.hub.conn? d = none ∧ s.taken d = []
  registered : ∀ e ∈ s.hub.registry.entries, (s.hub.conn? e.conn).isSome
  nodup : (s.hub.registry.entries.map (·.conn)).Nodup
  /-- The tracker holds only connections that were opened. -/
  tracked : ∀ p ∈ s.hub.tracker.seen, ∀ d ∈ p.2, d.val < s.hub.conns.length
  views : ∀ e ∈ s.hub.registry.entries, ViewInv s e

theorem Inv.lt_length (hs : Inv s) {d : ConnId} (hd : (s.hub.conn? d).isSome) : d.val < s.hub.conns.length := by
  by_contra hlt
  rw [(hs.fresh d (Nat.le_of_not_lt hlt)).1] at hd
  exact Bool.false_ne_true hd

theorem Inv.view_tick (hs : Inv s) (hroom : TickRoom s.hub) {e : Registration}
    (he : e ∈ s.hub.registry.entries) :
    view (s.step .tick) e.conn =
      (view s e.conn \ (s.hub.tickShare e.info.id).offline.toFinset) ∪
        ((s.hub.tickShare e.info.id).online.map (·.id)).toFinset := by
  simp only [view, State.step]
  rw [queued_presenceTick hs.nodup hroom he (hs.registered e he), ← List.append_assoc, List.foldl_append]
  split
  · rename_i hempty
    simp only [UserStatusUpdate.isEmpty, Bool.and_eq_true, List.isEmpty_iff] at hempty
    simp [hempty.1, hempty.2]
  · simp

theorem mem_tickShare_online {h : Hub} {u y : UserId} :
    y ∈ (h.tickShare u).online.map (·.id) ↔
      y ≠ u ∧ ∃ o ∈ h.registry.onlineConnections, o.info.id = y ∧ h.tracker.isNew o = true := by
  have hids : (h.tickShare u).online.map (·.id) =
      ((h.tracker.diff h.registry.onlineConnections).1.online.map (·.id)).filter (· != u) := by
    simp [Hub.tickShare, UserStatusUpdate.without, List.filter_map, Function.comp_def]
  rw [hids, List.mem_filter, Tracker.mem_diff_online, bne_iff_ne, and_comm]

theorem mem_tickShare_offline {h : Hub} {u y : UserId} :
    y ∈ (h.tickShare u).offline ↔ y ≠ u ∧ y ∈ trackedIds h.tracker ∧ y ∉ onlineIds h.registry := by
  simp only [Hub.tickShare, UserStatusUpdate.without, List.mem_filter, Tracker.mem_diff_offline,
    trackedIds, onlineIds, List.mem_toFinset, bne_iff_ne]
  exact and_comm

theorem ViewInv.mem_of_held {e : Registration} (hv : ViewInv s e) {y : UserId} (hyu : y ≠ e.info.id)
    (hy : y ∈ onlineIds s.hub.registry)
    (hold : ¬∃ o ∈ s.hub.registry.onlineConnections, o.info.id = y ∧ s.hub.tracker.isNew o = true) :
    y ∈ view s e.conn := by
  obtain ⟨o, ho, rfl⟩ := List.mem_map.1 (List.mem_toFinset.1 hy)
  have hnew : s.hub.tracker.isNew o = false := by
    cases hn : s.hub.tracker.isNew o with
    | false => rfl
    | true => exact absurd ⟨o, ho, rfl, hn⟩ hold
  obtain ⟨prev, hprev, hsub⟩ := Tracker.isNew_eq_false.1 hnew
  obtain ⟨hne, hconns⟩ := Registry.conns_of_mem_online ho
  obtain ⟨c, hc⟩ := List.exists_mem_of_ne_nil _ hne
  obtain ⟨e', he', rfl, hid⟩ := hconns c hc
  rw [← hid] at hyu hprev ⊢
  exact hv.known e' he' hyu prev hprev (hsub _ hc)

/-- **The view right after a tick.** A registered client sees the users online, but its own,
and the users of its snapshot that the tracker held neither since the client connected nor at
this tick. -/
theorem Inv.view_tick_eq (hs : Inv s) (hroom : TickRoom s.hub) {e : Registration}
    (he : e ∈ s.hub.registry.entries) :
    view (s.step .tick) e.conn = (onlineIds s.hub.registry).erase e.info.id ∪
      (s.snapshot e.conn \ (s.seen e.conn ∪ onlineIds s.hub.registry)) := by
  have hv := hs.views e he
  rw [hs.view_tick hroom he]
  ext y
  simp only [Finset.mem_union, Finset.mem_sdiff, Finset.mem_erase, List.mem_toFinset,
    mem_tickShare_online, mem_tickShare_offline]
  constructor
  · rintro (⟨hview, hoff⟩ | ⟨hyu, o, ho, rfl, -⟩)
    · have hyu : y ≠ e.info.id := fun h => hv.self (h ▸ hview)
      by_cases hy : y ∈ onlineIds s.hub.registry
      · exact .inl ⟨hyu, hy⟩
      · -- outside the tracker, the view holds only the snapshot's users
        have htr : y ∉ trackedIds s.hub.tracker := fun htr => hoff ⟨hyu, htr, hy⟩
        have hstale : y ∈ view s e.conn \ trackedIds s.hub.tracker := Finset.mem_sdiff.2 ⟨hview, htr⟩
        rw [hv.stale, Finset.mem_sdiff] at hstale
        exact .inr ⟨hstale.1, by simp [hstale.2, hy]⟩
    · exact .inl ⟨hyu, mem_onlineIds.2 ((Registry.mem_onlineIds _ _).1 (List.mem_map_of_mem ho))⟩
  · rintro (⟨hyu, hy⟩ | ⟨hsnap, hnot⟩)
    · by_cases hnew : ∃ o ∈ s.hub.registry.onlineConnections, o.info.id = y ∧ s.hub.tracker.isNew o = true
      · exact .inr ⟨hyu, hnew⟩
      · exact .inl ⟨hv.mem_of_held hyu hy hnew, fun hoff => hoff.2.2 hy⟩
    · simp only [not_or] at hnot
      have htr : y ∉ trackedIds s.hub.tracker := fun h => hnot.1 (hv.tracked h)
      have hstale : y ∈ s.snapshot e.conn \ s.seen e.conn := Finset.mem_sdiff.2 ⟨hsnap, hnot.1⟩
      rw [← hv.stale, Finset.mem_sdiff] at hstale
      exact .inl ⟨hstale.1, fun hoff => htr hoff.2.1⟩

/-! ### Each act keeps the invariant -/

theorem Inv.start (access : Access) (now : Time.Instant) : Inv (State.start access now) where
  fresh _ _ := ⟨rfl, rfl⟩
  registered _ he := nomatch he
  nodup := List.nodup_nil
  tracked _ hp := nomatch hp
  views _ he := nomatch he

theorem ViewInv.frame {s s' : State} {e : Registration} (hv : ViewInv s e)
    (hview : view s' e.conn = view s e.conn)
    (hsub : ∀ e' ∈ s'.hub.registry.entries, e' ∈ s.hub.registry.entries ∨
      ∀ prev, s.hub.tracker.seen.lookup e'.info.id = some prev → e'.conn ∉ prev)
    (htracker : s'.hub.tracker = s.hub.tracker) (hsnap : s'.snapshot e.conn = s.snapshot e.conn)
    (hseen : s'.seen e.conn = s.seen e.conn) : ViewInv s' e where
  self := by
    rw [hview]
    exact hv.self
  known e' he' hne prev hprev hc := by
    rw [htracker] at hprev
    rw [hview]
    rcases hsub e' he' with he' | hnot
    · exact hv.known e' he' hne prev hprev hc
    · exact absurd hc (hnot prev hprev)
  tracked := by
    rw [htracker, hseen]
    exact hv.tracked
  stale := by
    rw [hview, htracker, hsnap, hseen]
    exact hv.stale

theorem Inv.drain (hs : Inv s) (c : ConnId) : Inv (s.step (.drain c)) := by
  have hcalm : Hub.Calm s.hub (s.step (.drain c)).hub := Hub.calm_updateConn fun _ hx => ⟨hx, rfl⟩
  have hlen : (s.step (.drain c)).hub.conns.length = s.hub.conns.length := Hub.updateConn_conns_length ..
  refine ⟨fun d hd => ?_, fun e he => (hcalm.isSome e.conn).trans (hs.registered e he), hs.nodup,
    fun p hp d hd => hlen ▸ hs.tracked p hp d hd,
    fun e he => (hs.views e he).frame (view_drain c e.conn) (fun e' he' => .inl he') rfl rfl rfl⟩
  obtain ⟨hnone, htaken⟩ := hs.fresh d (hlen ▸ hd)
  refine ⟨hcalm.conn?_eq_none hnone, ?_⟩
  show Function.update s.taken c (s.taken c ++ queued s.hub c) d = []
  by_cases hdc : d = c
  · subst hdc
    simp [htaken, queued, hnone]
  · rw [Function.update_of_ne hdc, htaken]

theorem Inv.remove (hs : Inv s) (c : ConnId) : Inv (s.step (.remove c)) := by
  have hsub := Hub.entries_unregister_sublist s.hub c
  have hsome : ∀ d, ((s.hub.unregister c).2.conn? d).isSome = (s.hub.conn? d).isSome := fun d => by
    simpa using congrArg Option.isSome (Hub.egress_unregister s.hub c d)
  have hlen := Hub.unregister_conns_length s.hub c
  have htr := Hub.unregister_tracker s.hub c
  refine ⟨fun d hd => ?_, fun e he => (hsome e.conn).trans (hs.registered e (hsub.subset he)),
    hs.nodup.sublist (hsub.map _), fun p hp d hd => ?_,
    fun e he => (hs.views e (hsub.subset he)).frame (view_remove c e.conn)
      (fun e' he' => .inl (hsub.subset he')) htr rfl rfl⟩
  · obtain ⟨hnone, htaken⟩ := hs.fresh d (hlen ▸ hd)
    change (s.hub.unregister c).2.conn? d = none ∧ s.taken d = []
    refine ⟨Option.not_isSome_iff_eq_none.1 ?_, htaken⟩
    rw [hsome, hnone]
    exact Bool.false_ne_true
  · change p ∈ (s.hub.unregister c).2.tracker.seen at hp
    rw [htr] at hp
    exact hlen ▸ hs.tracked p hp d hd

theorem mem_entries_accept (hfresh : s.hub.conn? ⟨s.hub.conns.length⟩ = none) {identity : Identity}
    {capacity : Nat} (e : Registration) :
    e ∈ (s.step (.accept identity capacity)).hub.registry.entries ↔
      e ∈ s.hub.registry.entries ∨
        e = ⟨⟨s.hub.conns.length⟩, ⟨identity.user, identity.displayName, .online⟩, s.hub.registry.nextSeq⟩ := by
  change e ∈ (s.hub.accept identity capacity).2.registry.entries ↔ _
  rw [Hub.registry_accept s.hub identity capacity hfresh]
  simp [Registry.add]

theorem Inv.older (hs : Inv s) {e : Registration} (he : e ∈ s.hub.registry.entries) :
    e.conn ≠ ⟨s.hub.conns.length⟩ := fun heq =>
  Nat.lt_irrefl _ (heq ▸ hs.lt_length (hs.registered e he))

theorem Inv.unheld (hs : Inv s) {x : UserId} {prev : List ConnId}
    (hprev : s.hub.tracker.seen.lookup x = some prev) : (⟨s.hub.conns.length⟩ : ConnId) ∉ prev := fun hin =>
  Nat.lt_irrefl _ (hs.tracked _ (Tracker.mem_of_lookup hprev) _ hin)

theorem Inv.viewInv_accept_of_mem (hs : Inv s) (identity : Identity) (capacity : Nat) {e : Registration}
    (he : e ∈ s.hub.registry.entries) : ViewInv (s.step (.accept identity capacity)) e := by
  have hfresh := (hs.fresh ⟨s.hub.conns.length⟩ le_rfl).1
  have hc : (s.hub.accept identity capacity).1 = ⟨s.hub.conns.length⟩ := Hub.accept_fst ..
  have hne := hs.older he
  -- an older client: its view and ghost state stay, and the new connection is held by nobody
  refine (hs.views e he).frame (view_accept_of_ne hne) (fun e' he' => ?_) (Hub.tracker_accept s.hub identity capacity)
    ?_ ?_
  · rcases (mem_entries_accept hfresh e').1 he' with he' | rfl
    · exact .inl he'
    · exact .inr fun _ => hs.unheld
  · change Function.update s.snapshot (s.hub.accept identity capacity).1 _ e.conn = _
    rw [hc, Function.update_of_ne hne]
  · change Function.update s.seen (s.hub.accept identity capacity).1 _ e.conn = _
    rw [hc, Function.update_of_ne hne]

theorem viewInv_accept_self (identity : Identity) (capacity : Nat)
    (hfresh : s.hub.conn? ⟨s.hub.conns.length⟩ = none) (htaken : s.taken ⟨s.hub.conns.length⟩ = []) :
    ViewInv (s.step (.accept identity capacity))
      ⟨⟨s.hub.conns.length⟩, ⟨identity.user, identity.displayName, .online⟩, s.hub.registry.nextSeq⟩ := by
  have hc : (s.hub.accept identity capacity).1 = ⟨s.hub.conns.length⟩ := Hub.accept_fst ..
  have htr := Hub.tracker_accept s.hub identity capacity
  -- the new client: its view is its snapshot
  have hview := view_accept_self identity capacity hfresh htaken
  refine ⟨?_, ?_, ?_, ?_⟩
  · change identity.user ∉ view (s.step (.accept identity capacity)) ⟨s.hub.conns.length⟩
    rw [hview, mem_snapshotIds]
    exact fun h => h.2 rfl
  · intro e' he' hne _ _ _
    change e'.info.id ∈ view (s.step (.accept identity capacity)) ⟨s.hub.conns.length⟩
    rw [hview]
    exact mem_snapshotIds.2 ⟨mem_onlineIds.2 ⟨e', he', rfl⟩, hne⟩
  · change trackedIds (s.hub.accept identity capacity).2.tracker ⊆
      Function.update s.seen (s.hub.accept identity capacity).1 _ ⟨s.hub.conns.length⟩
    rw [htr, hc, Function.update_self]
  · change view (s.step (.accept identity capacity)) ⟨s.hub.conns.length⟩ \
        trackedIds (s.hub.accept identity capacity).2.tracker =
      Function.update s.snapshot (s.hub.accept identity capacity).1 _ ⟨s.hub.conns.length⟩ \
        Function.update s.seen (s.hub.accept identity capacity).1 _ ⟨s.hub.conns.length⟩
    rw [hview, htr, hc, Function.update_self, Function.update_self]

theorem Inv.accept (hs : Inv s) (identity : Identity) (capacity : Nat) :
    Inv (s.step (.accept identity capacity)) := by
  obtain ⟨hfresh, htaken⟩ := hs.fresh ⟨s.hub.conns.length⟩ le_rfl
  have hlen := Hub.conns_length_accept s.hub identity capacity
  refine ⟨fun d hd => ?_, fun e he => ?_, ?_, fun p hp d hd => ?_, fun e he => ?_⟩
  · -- ids past the new one are still unused
    change (s.hub.accept identity capacity).2.conns.length ≤ d.val at hd
    rw [hlen] at hd
    have hne : d ≠ ⟨s.hub.conns.length⟩ := by
      rintro rfl
      exact Nat.not_succ_le_self _ hd
    have hd' : s.hub.conns.length ≤ d.val := Nat.le_of_succ_le hd
    exact ⟨(Hub.conn?_accept_of_ne _ _ _ hne).trans (hs.fresh d hd').1, (hs.fresh d hd').2⟩
  · rcases (mem_entries_accept hfresh e).1 he with he | rfl
    · change ((s.hub.accept identity capacity).2.conn? e.conn).isSome
      rw [Hub.conn?_accept_of_ne _ _ _ (hs.older he)]
      exact hs.registered e he
    · exact Hub.isSome_conn?_accept _ _ _ hfresh
  · change ((s.hub.accept identity capacity).2.registry.entries.map (·.conn)).Nodup
    rw [Hub.registry_accept s.hub identity capacity hfresh]
    simp only [Registry.add, List.map_append, List.map_cons, List.map_nil]
    refine hs.nodup.append (List.nodup_singleton _) fun a ha hb => ?_
    obtain ⟨e, he, rfl⟩ := List.mem_map.1 ha
    exact hs.older he (List.mem_singleton.1 hb)
  · change p ∈ (s.hub.accept identity capacity).2.tracker.seen at hp
    change d.val < (s.hub.accept identity capacity).2.conns.length
    rw [Hub.tracker_accept] at hp
    rw [hlen]
    exact Nat.lt_succ_of_lt (hs.tracked p hp d hd)
  · rcases (mem_entries_accept hfresh e).1 he with he | rfl
    · exact hs.viewInv_accept_of_mem identity capacity he
    · exact viewInv_accept_self identity capacity hfresh htaken

theorem trackedIds_presenceTick (h : Hub) : trackedIds h.presenceTick.2.tracker = onlineIds h.registry := by
  ext y
  rw [trackedIds, List.mem_toFinset, Hub.presenceTick_tracker, Tracker.mem_diff_seen, onlineIds,
    List.mem_toFinset]

theorem Inv.viewInv_tick (hs : Inv s) (hroom : TickRoom s.hub) {e : Registration}
    (he : e ∈ s.hub.registry.entries) : ViewInv (s.step .tick) e := by
  have hv := hs.views e he
  have heq := hs.view_tick_eq hroom he
  have htr := trackedIds_presenceTick s.hub
  refine ⟨?_, ?_, ?_, ?_⟩
  · rw [heq]
    simp only [Finset.mem_union, Finset.mem_erase, ne_eq, not_true, false_and, false_or,
      Finset.mem_sdiff]
    rintro ⟨hsnap, hnot⟩
    have hstale : e.info.id ∈ s.snapshot e.conn \ s.seen e.conn :=
      Finset.mem_sdiff.2 ⟨hsnap, fun h => hnot (.inl h)⟩
    rw [← hv.stale] at hstale
    exact hv.self (Finset.mem_sdiff.1 hstale).1
  · intro e' _ hne prev hprev _
    rw [heq]
    refine Finset.mem_union_left _ (Finset.mem_erase.2 ⟨hne, ?_⟩)
    rw [← htr]
    exact List.mem_toFinset.2 (List.mem_map_of_mem (f := (·.1)) (Tracker.mem_of_lookup hprev))
  · change trackedIds s.hub.presenceTick.2.tracker ⊆ s.seen e.conn ∪ onlineIds s.hub.registry
    rw [htr]
    exact Finset.subset_union_right
  · change view (s.step .tick) e.conn \ trackedIds s.hub.presenceTick.2.tracker =
      s.snapshot e.conn \ (s.seen e.conn ∪ onlineIds s.hub.registry)
    rw [heq, htr]
    ext y
    simp only [Finset.mem_sdiff, Finset.mem_union, Finset.mem_erase]
    constructor
    · rintro ⟨⟨-, hy⟩ | hb, hno⟩
      · exact absurd hy hno
      · exact hb
    · intro hb
      exact ⟨.inr hb, fun hy => hb.2 (.inr hy)⟩

theorem Inv.tick (hs : Inv s) (hroom : TickRoom s.hub) : Inv (s.step .tick) := by
  have hcalm := Hub.calm_presenceTick s.hub
  have hlen := Hub.presenceTick_conns_length s.hub
  have hreg := Hub.presenceTick_registry s.hub
  refine ⟨fun d hd => ?_, fun e he => ?_, ?_, fun p hp d hd => ?_, fun e he => ?_⟩
  · change s.hub.presenceTick.2.conns.length ≤ d.val at hd
    rw [hlen] at hd
    exact ⟨hcalm.conn?_eq_none (hs.fresh d hd).1, (hs.fresh d hd).2⟩
  · change e ∈ s.hub.presenceTick.2.registry.entries at he
    rw [hreg] at he
    exact (hcalm.isSome e.conn).trans (hs.registered e he)
  · change (s.hub.presenceTick.2.registry.entries.map (·.conn)).Nodup
    rw [hreg]
    exact hs.nodup
  · -- the tracker now holds connections of online users, all registered
    change p ∈ s.hub.presenceTick.2.tracker.seen at hp
    change d.val < s.hub.presenceTick.2.conns.length
    rw [Hub.presenceTick_tracker] at hp
    obtain ⟨o, ho, hconns⟩ := Tracker.conns_diff_seen _ _ hp
    rw [hconns] at hd
    obtain ⟨e, he, rfl, -⟩ := (Registry.conns_of_mem_online ho).2 d hd
    rw [hlen]
    exact hs.lt_length (hs.registered e he)
  · change e ∈ s.hub.presenceTick.2.registry.entries at he
    rw [hreg] at he
    exact hs.viewInv_tick hroom he

theorem Inv.step (hs : Inv s) {a : Act} (hroom : a = .tick → TickRoom s.hub) : Inv (s.step a) := by
  cases a with
  | accept identity capacity => exact hs.accept identity capacity
  | remove c => exact hs.remove c
  | tick => exact hs.tick (hroom rfl)
  | drain c => exact hs.drain c

theorem Inv.run (hs : Inv s) {acts : List Act} (hnd : NoDrop s acts) : Inv (s.run acts) := by
  induction acts generalizing s with
  | nil => exact hs
  | cons a as ih => exact ih (hs.step hnd.1) hnd.2

/-! ### Views after a tick -/

/-- **Presence views after a tick.** In a run from a fresh hub in which no offer is refused,
right after each tick every registered client's view is the set of users online, without the
client's own user, together with the users of the client's snapshot that the tracker has not
held since the client connected. -/
theorem views_after_tick (access : Access) (now : Time.Instant) (acts : List Act)
    (hnd : NoDrop (State.start access now) (acts ++ [.tick])) :
    let s := (State.start access now).run (acts ++ [.tick])
    ∀ e ∈ s.hub.registry.entries,
      view s e.conn = (onlineIds s.hub.registry).erase e.info.id ∪ (s.snapshot e.conn \ s.seen e.conn) := by
  intro s e he
  obtain ⟨hpre, hroom, -⟩ := (noDrop_append _ _ _).1 hnd
  have hs := (Inv.start access now).run hpre
  have hrun : s = ((State.start access now).run acts).step .tick := by
    simp [s, State.run, List.foldl_append]
  rw [hrun] at he ⊢
  change e ∈ ((State.start access now).run acts).hub.presenceTick.2.registry.entries at he
  rw [Hub.presenceTick_registry] at he
  rw [hs.view_tick_eq (hroom rfl) he]
  simp only [State.step, Hub.presenceTick_registry]

/-- Alice connects, a tick passes, bob connects, a tick passes, bob leaves, and the next tick
reports him offline. -/
theorem views_after_tick_bob_leaves :
    NoDrop (State.start {} Time.Instant.epoch)
      ([.accept ⟨⟨1⟩, "alice", "a"⟩ 8, .tick, .accept ⟨⟨2⟩, "bob", "b"⟩ 8, .tick, .remove ⟨1⟩] ++ [.tick]) ∧
    let s := (State.start {} Time.Instant.epoch).run
      ([.accept ⟨⟨1⟩, "alice", "a"⟩ 8, .tick, .accept ⟨⟨2⟩, "bob", "b"⟩ 8, .tick, .remove ⟨1⟩] ++ [.tick])
    ∀ e ∈ s.hub.registry.entries,
      view s e.conn = (onlineIds s.hub.registry).erase e.info.id ∪ (s.snapshot e.conn \ s.seen e.conn) :=
  ⟨by decide +kernel, views_after_tick {} Time.Instant.epoch _ (by decide +kernel)⟩

/-- A user online when a client connects and gone before the next tick stays in the client's
view: bob connects, alice connects and is sent a snapshot showing bob, bob leaves, and the tick
reports nobody offline, its tracker never having held bob. Alice is the only user online, and
her view is bob. -/
theorem stale_view_after_tick :
    NoDrop (State.start {} Time.Instant.epoch)
      [.accept ⟨⟨2⟩, "bob", "b"⟩ 8, .accept ⟨⟨1⟩, "alice", "a"⟩ 8, .remove ⟨0⟩, .tick] ∧
    let s := (State.start {} Time.Instant.epoch).run
      [.accept ⟨⟨2⟩, "bob", "b"⟩ 8, .accept ⟨⟨1⟩, "alice", "a"⟩ 8, .remove ⟨0⟩, .tick]
    ⟨⟨1⟩, ⟨⟨1⟩, "alice", .online⟩, 1⟩ ∈ s.hub.registry.entries ∧
      (onlineIds s.hub.registry).erase ⟨1⟩ = ∅ ∧ view s ⟨1⟩ = {⟨2⟩} := by
  decide +kernel

end PresenceViews

end Switchboard
