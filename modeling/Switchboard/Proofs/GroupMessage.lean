import Switchboard.Proofs.PresenceFanout
/-!
# What a group message does

`sendGroup` handles a client's `send_group_message`: it decodes the payload, validates its fields,
checks that the sender is a member of the group, stores the message, and then walks the group's
members. This module says what it does from outside, for every payload, membership and presence,
over the store itself (no failure injected), whose writes then all go through or all fail.

The walk over the members is described by `Fanned`: each member is either offered the
`receive_group_message` event on the connection its user registered last (`liveOffers`), counted
when its queue takes it, or, with no live connection, given a `group_message` notification
(`offlineMembers`), counted once created. One member is fanned out by `deliverToMember_fanned`,
and members compose (`Fanned.cons`): the live members' connections are distinct, so each queue
judges its one offer as it was before the walk (`Hub.takes`). The store after the message is
described by `GroupPosted`: the message stored once, then one notification per offline member.

Main statement, `group_message_contract`: a payload that does not decode is a payload error and
changes nothing; otherwise one validation error per failing field (`group_id` before `message`,
each with the group id as context), or a refusal for a non-member, answer the empty delivery and
write nothing; otherwise, when the store's writes fail, the answer is the store error and nothing
changes, and when they go through, the message is posted, every other member is fanned out, and
the answer counts the taken offers and the notifications.
-/

namespace Switchboard

open Wire Time HubM

/-! ## Validation -/

/-- The complaints about a group message request, in the order they are told: the group id's,
then the message's. -/
def groupFailures (req : SendGroupMessage) : List (String × String) :=
  (if req.groupId ≤ 0 then [("group_id", "Invalid group ID")] else []) ++
  (if Text.allBlank req.message then [("message", "Message cannot be empty")] else [])

/-- The validator of a request collects exactly `groupFailures`, `group_id` before `message`. -/
theorem groupComplaints_errors (req : SendGroupMessage) : (groupComplaints req).errors = groupFailures req := by
  have hlt : "group_id" < "message" := by decide
  unfold groupComplaints groupFailures
  by_cases hb : Text.allBlank req.message <;> by_cases hg : req.groupId ≤ 0 <;>
    simp [notBlank, Validator.check, insertFirst, hb, hg, hlt, ← Int.not_le]

theorem groupComplaints_hasErrors (req : SendGroupMessage) :
    (groupComplaints req).hasErrors = !(groupFailures req).isEmpty := by
  rw [Validator.hasErrors, groupComplaints_errors]

/-! ## The registry and the store -/

namespace Registry

theorem mem_of_clientByUser {r : Registry} {u : UserId} {c : ConnId} (hc : r.clientByUser u = some c) :
    ∃ e ∈ r.entries, e.info.id = u ∧ e.conn = c := by
  simp only [clientByUser, Option.map_eq_some_iff] at hc
  obtain ⟨e, he, rfl⟩ := hc
  have hmem := List.mem_of_getLast? he
  simp only [List.mem_filter, beq_iff_eq] at hmem
  exact ⟨e, hmem.1, hmem.2, rfl⟩

theorem clientByUser_inj {r : Registry} (hnd : r.conns.Nodup) {u v : UserId} {c : ConnId}
    (hu : r.clientByUser u = some c) (hv : r.clientByUser v = some c) : u = v := by
  obtain ⟨e, he, rfl, rfl⟩ := mem_of_clientByUser hu
  obtain ⟨e', he', rfl, hc⟩ := mem_of_clientByUser hv
  rw [List.inj_on_of_nodup_map hnd he' he hc]

end Registry

namespace Store

variable {s : Store} (hw : s.failing = false)
include hw

theorem insertGroupMessage_ok (g : GroupId) (sender : UserId) (body : String) (at_ : Instant) :
    s.insertGroupMessage g sender body at_ = .ok (⟨s.lastId + 1⟩,
      { s with
        lastId := s.lastId + 1
        groupMessages := s.groupMessages ++ [⟨⟨s.lastId + 1⟩, g, sender, body, at_⟩] }) := by
  simp [insertGroupMessage, writable, hw, takeId]

theorem createNotification_ok (u : UserId) (kind : String) (payload : Json) (now : Instant) :
    s.createNotification u kind payload now = .ok (⟨⟨s.lastId + 1⟩, u, kind, payload, false, now⟩,
      { s with lastId := s.lastId + 1,
               notifications := s.notifications ++ [⟨⟨s.lastId + 1⟩, u, kind, payload, false, now⟩] }) := by
  simp [createNotification, writable, hw, takeId]

end Store

namespace Access

section Writable

variable {acc : Access} (hw : acc.Writable)
include hw

theorem insertGroupMessage_ok (g : GroupId) (sender : UserId) (body : String) (at_ : Instant) :
    acc.insertGroupMessage g sender body at_ = .ok (⟨acc.store.lastId + 1⟩, { acc with store :=
      { acc.store with
        lastId := acc.store.lastId + 1
        groupMessages := acc.store.groupMessages ++ [⟨⟨acc.store.lastId + 1⟩, g, sender, body, at_⟩] } }) := by
  simp [insertGroupMessage, guard_ok hw, Store.insertGroupMessage_ok hw.2]
  rfl

theorem createNotification_ok (u : UserId) (kind : String) (payload : Json) (now : Instant) :
    acc.createNotification u kind payload now = .ok (⟨⟨acc.store.lastId + 1⟩, u, kind, payload, false, now⟩,
      { acc with store :=
        { acc.store with
          lastId := acc.store.lastId + 1
          notifications := acc.store.notifications ++
            [⟨⟨acc.store.lastId + 1⟩, u, kind, payload, false, now⟩] } }) := by
  simp [createNotification, guard_ok hw, Store.createNotification_ok hw.2]
  rfl

end Writable

section Reads

variable {acc : Access} (hnone : acc.failing = [])
include hnone

theorem isGroupMember_ok (g : GroupId) (u : UserId) :
    acc.isGroupMember g u = .ok (acc.store.isGroupMember g u) := by
  simp [isGroupMember, guard, hnone]

theorem groupMemberIds_ok (g : GroupId) : acc.groupMemberIds g = .ok (acc.store.groupMemberIds g) := by
  simp [groupMemberIds, guard, hnone]

end Reads

theorem insertGroupMessage_failing {acc : Access} (hnone : acc.failing = []) (hfail : acc.store.failing = true)
    (g : GroupId) (sender : UserId) (body : String) (at_ : Instant) :
    acc.insertGroupMessage g sender body at_ = .error Store.unavailable := by
  simp [insertGroupMessage, guard, hnone, Store.insertGroupMessage, Store.writable, hfail]
  rfl

end Access

theorem Store.groupMemberIds_of_groups {s t : Store} (hg : t.groups = s.groups) (g : GroupId) :
    t.groupMemberIds g = s.groupMemberIds g := by
  simp [Store.groupMemberIds, hg]

/-! ## One member -/

def groupEcho (body : String) (sender : UserId) (g : GroupId) (at_ : Instant) : Envelope :=
  ⟨.receiveGroupMessage, receiveGroupMessagePayload body sender g at_⟩

section Member

variable {g : Hub} (event note : Json) (d : GroupDelivery) (m : UserId)

theorem deliverToMember_live {c : ConnId} (hc : g.clientByUser m = some c) :
    (deliverToMember event note d m).exec g =
      (.ok (if g.takes (c, ⟨.receiveGroupMessage, event⟩) then { d with live := d.live + 1 } else d),
        (g.sendEvent c .receiveGroupMessage event).2) := by
  simp only [deliverToMember, exec_step, hc, ← Hub.sendEvent_fst]

theorem deliverToMember_offline (hw : g.access.Writable) (hc : g.clientByUser m = none) :
    (deliverToMember event note d m).exec g =
      (.ok { d with notified := d.notified + 1 }, { g with access := { g.access with store :=
        { g.access.store with
          lastId := g.access.store.lastId + 1
          notifications := g.access.store.notifications ++
            [⟨⟨g.access.store.lastId + 1⟩, m, NotificationKind.groupMessage.tag, note, false, g.now⟩] } } }) := by
  rw [Hub.clientByUser] at hc
  simp [deliverToMember, exec_step, Hub.clientByUser, hc, Hub.createAndPush, Access.createNotification_ok hw,
    Hub.pushNotification]

end Member

/-! ## The walk over the members -/

/-- `store'` is `store` with one unread notification of `kind` with `payload`, dated `at_`, appended
for each of `users`, in order; no other table changes. -/
structure Notified (store store' : Store) (users : List UserId) (kind : String) (payload : Json)
    (at_ : Instant) : Prop where
  notes : ∃ ns : List Notification, store'.notifications = store.notifications ++ ns ∧ ns.map (·.user) = users ∧
    ∀ n ∈ ns, n.kind = kind ∧ n.payload = payload ∧ n.isRead = false ∧ n.createdAt = at_
  rest : { store' with notifications := store.notifications, lastId := store.lastId } = store

namespace Notified

variable {kind : String} {payload : Json} {at_ : Instant}

theorem refl (s : Store) : Notified s s [] kind payload at_ where
  notes := ⟨[], by simp, rfl, by simp⟩
  rest := rfl

theorem trans {s₁ s₂ s₃ : Store} {us vs : List UserId} (h₁ : Notified s₁ s₂ us kind payload at_)
    (h₂ : Notified s₂ s₃ vs kind payload at_) : Notified s₁ s₃ (us ++ vs) kind payload at_ where
  notes := by
    obtain ⟨ns, hn, hu, hk⟩ := h₁.notes
    obtain ⟨ms, hm, hv, hk'⟩ := h₂.notes
    refine ⟨ns ++ ms, by rw [hm, hn, List.append_assoc], by rw [List.map_append, hu, hv], fun n hmem => ?_⟩
    rcases List.mem_append.1 hmem with h | h
    exacts [hk n h, hk' n h]
  rest := calc
    { s₃ with notifications := s₁.notifications, lastId := s₁.lastId }
      = { { s₃ with notifications := s₂.notifications, lastId := s₂.lastId } with
          notifications := s₁.notifications, lastId := s₁.lastId } := rfl
    _ = { s₂ with notifications := s₁.notifications, lastId := s₁.lastId } := by rw [h₂.rest]
    _ = s₁ := h₁.rest

theorem created (s : Store) (n : Notification) (hk : n.kind = kind) (hp : n.payload = payload)
    (hr : n.isRead = false) (ha : n.createdAt = at_) :
    Notified s { s with lastId := s.lastId + 1, notifications := s.notifications ++ [n] } [n.user] kind payload
      at_ where
  notes := ⟨[n], rfl, rfl, by simp [hk, hp, hr, ha]⟩
  rest := rfl

end Notified

def liveOffers (r : Registry) (e : Envelope) (ms : List UserId) : List (ConnId × Envelope) :=
  ms.filterMap fun m => (r.clientByUser m).map (·, e)

def offlineMembers (r : Registry) (ms : List UserId) : List UserId :=
  ms.filter fun m => (r.clientByUser m).isNone

section Cons

variable {r : Registry} {e : Envelope} {m : UserId} {ms : List UserId}

@[simp] theorem liveOffers_nil : liveOffers r e [] = [] := rfl

@[simp] theorem offlineMembers_nil : offlineMembers r [] = [] := rfl

theorem liveOffers_cons_of_some {c : ConnId} (hc : r.clientByUser m = some c) :
    liveOffers r e (m :: ms) = (c, e) :: liveOffers r e ms := by
  simp [liveOffers, hc]

theorem liveOffers_cons_of_none (hc : r.clientByUser m = none) : liveOffers r e (m :: ms) = liveOffers r e ms := by
  simp [liveOffers, hc]

theorem offlineMembers_cons_of_some {c : ConnId} (hc : r.clientByUser m = some c) :
    offlineMembers r (m :: ms) = offlineMembers r ms := by
  simp [offlineMembers, hc]

theorem offlineMembers_cons_of_none (hc : r.clientByUser m = none) :
    offlineMembers r (m :: ms) = m :: offlineMembers r ms := by
  simp [offlineMembers, hc]

end Cons

theorem liveOffers_append (r : Registry) (e : Envelope) (ms ns : List UserId) :
    liveOffers r e (ms ++ ns) = liveOffers r e ms ++ liveOffers r e ns :=
  List.filterMap_append

theorem offlineMembers_append (r : Registry) (ms ns : List UserId) :
    offlineMembers r (ms ++ ns) = offlineMembers r ms ++ offlineMembers r ns :=
  List.filter_append ms ns

theorem conn_not_mem_liveOffers {r : Registry} (hnd : r.conns.Nodup) {m : UserId} {ms : List UserId} (hm : m ∉ ms)
    (e : Envelope) {x : ConnId × Envelope} (hx : x ∈ liveOffers r e ms) :
    x.1 ∉ (liveOffers r e [m]).map (·.1) := by
  simp only [liveOffers, List.mem_filterMap, Option.map_eq_some_iff] at hx
  obtain ⟨m', hm', c', hc', rfl⟩ := hx
  cases hc : r.clientByUser m with
  | none => simp [liveOffers, hc]
  | some c =>
    simp only [liveOffers_cons_of_some hc, liveOffers_nil, List.map_cons, List.map_nil, List.mem_singleton]
    rintro rfl
    exact hm (Registry.clientByUser_inj hnd hc' hc ▸ hm')

/-- From `(d, g)` to `(d', g')` the members `ms` were fanned out `event`, or notified with `note`:
the live ones were offered the echo on their last connections and counted when taken, the others
notified and counted, and nothing else changed. -/
structure Fanned (event note : Json) (ms : List UserId) (d : GroupDelivery) (g : Hub) (d' : GroupDelivery)
    (g' : Hub) : Prop where
  live : d'.live = d.live + ((liveOffers g.registry ⟨.receiveGroupMessage, event⟩ ms).filter g.takes).length
  notified : d'.notified = d.notified + (offlineMembers g.registry ms).length
  offered : Offered g g' (liveOffers g.registry ⟨.receiveGroupMessage, event⟩ ms)
  notes : Notified g.access.store g'.access.store (offlineMembers g.registry ms) NotificationKind.groupMessage.tag note
    g.now
  failing : g'.access.failing = g.access.failing
  handoffs : g'.handoffs = g.handoffs
  now : g'.now = g.now

namespace Fanned

variable {event note : Json} {d d₁ d₂ : GroupDelivery} {g g₁ g₂ : Hub}

theorem nil (d : GroupDelivery) (g : Hub) : Fanned event note [] d g d g :=
  ⟨rfl, rfl, Offered.refl g, Notified.refl _, rfl, rfl, rfl⟩

theorem writable {ms : List UserId} (hf : Fanned event note ms d g d₁ g₁) (hw : g.access.Writable) :
    g₁.access.Writable :=
  ⟨hf.failing.trans hw.1, (congrArg Store.failing hf.notes.rest).trans hw.2⟩

theorem cons {m : UserId} {ms : List UserId} (hnd : g.registry.conns.Nodup) (hm : m ∉ ms)
    (h₁ : Fanned event note [m] d g d₁ g₁) (h₂ : Fanned event note ms d₁ g₁ d₂ g₂) :
    Fanned event note (m :: ms) d g d₂ g₂ := by
  have hreg := h₁.offered.registry
  have hlive : liveOffers g.registry ⟨.receiveGroupMessage, event⟩ (m :: ms) =
      liveOffers g.registry ⟨.receiveGroupMessage, event⟩ [m] ++
        liveOffers g.registry ⟨.receiveGroupMessage, event⟩ ms :=
    liveOffers_append g.registry _ [m] ms
  have hoff : offlineMembers g.registry (m :: ms) = offlineMembers g.registry [m] ++ offlineMembers g.registry ms :=
    offlineMembers_append g.registry [m] ms
  have htakes : (liveOffers g.registry ⟨.receiveGroupMessage, event⟩ ms).filter g₁.takes =
      (liveOffers g.registry ⟨.receiveGroupMessage, event⟩ ms).filter g.takes :=
    List.filter_congr fun x hx => Hub.takes_of_offered h₁.offered (conn_not_mem_liveOffers hnd hm _ hx)
  have live₂ := h₂.live
  have notified₂ := h₂.notified
  have offered₂ := h₂.offered
  have notes₂ := h₂.notes
  rw [hreg] at live₂ notified₂ offered₂ notes₂
  refine ⟨?_, ?_, ?_, ?_, h₂.failing.trans h₁.failing, h₂.handoffs.trans h₁.handoffs, h₂.now.trans h₁.now⟩
  · rw [live₂, h₁.live, htakes, hlive, List.filter_append, List.length_append]
    omega
  · rw [notified₂, h₁.notified, hoff, List.length_append]
    omega
  · rw [hlive]
    exact h₁.offered.trans offered₂
  · rw [hoff, h₁.now] at *
    exact h₁.notes.trans notes₂

end Fanned

/-- One member is fanned out: offered the echo on its last connection if it has one, notified
otherwise. -/
theorem deliverToMember_fanned {g : Hub} (hw : g.access.Writable) (event note : Json) (d : GroupDelivery)
    (m : UserId) :
    ∃ d' g', (deliverToMember event note d m).exec g = (.ok d', g') ∧ Fanned event note [m] d g d' g' := by
  cases hc : g.registry.clientByUser m with
  | some c =>
    refine ⟨_, _, deliverToMember_live event note d m hc, ?_, ?_, ?_, ?_, ?_, ?_, ?_⟩
    · by_cases ht : g.takes (c, ⟨.receiveGroupMessage, event⟩) = true <;> simp [liveOffers_cons_of_some hc, ht]
    · split <;> simp [offlineMembers_cons_of_some hc]
    · rw [liveOffers_cons_of_some hc]
      exact Offered.sendEvent c .receiveGroupMessage event
    · simpa [offlineMembers_cons_of_some hc, Hub.sendEvent] using
        (Notified.refl g.access.store : Notified _ _ [] NotificationKind.groupMessage.tag note g.now)
    all_goals simp [Hub.sendEvent]
  | none =>
    refine ⟨_, _, deliverToMember_offline event note d m hw hc, ?_, ?_, ?_, ?_, rfl, rfl, rfl⟩
    · simp [liveOffers_cons_of_none hc]
    · simp [offlineMembers_cons_of_none hc]
    · rw [liveOffers_cons_of_none hc]
      exact Offered.of_conns rfl rfl
    · rw [offlineMembers_cons_of_none hc]
      exact Notified.created _ ⟨_, m, _, note, false, g.now⟩ rfl rfl rfl rfl

/-- The loop over the members, by induction on them: the sender is skipped and every other
member fanned out, in order. -/
theorem fanout_exec (event note : Json) (user : UserId) (ms : List UserId) (hms : ms.Nodup) (d : GroupDelivery)
    (g : Hub) (hw : g.access.Writable) (hreg : g.registry.conns.Nodup) :
    ∃ d' g', (forIn ms d fun m d => if (m != user) = true then do
          let d ← deliverToMember event note d m
          pure (ForInStep.yield d)
        else pure (ForInStep.yield d) : HubM GroupDelivery).exec g = (.ok d', g') ∧
      Fanned event note (ms.filter (· ≠ user)) d g d' g' := by
  induction ms generalizing d g with
  | nil => exact ⟨d, g, rfl, Fanned.nil d g⟩
  | cons m ms ih =>
    obtain ⟨hm, hms⟩ := List.nodup_cons.1 hms
    rw [List.forIn_cons, exec_bind]
    by_cases hmu : m = user
    · -- the sender is skipped
      subst hmu
      obtain ⟨d', g', hrun, hf⟩ := ih hms d g hw hreg
      refine ⟨d', g', ?_, ?_⟩
      · simpa only [bne_self_eq_false, Bool.false_eq_true, if_false, exec_pure] using hrun
      · rwa [List.filter_cons_of_neg (by simp)]
    · -- the member is fanned out, then the rest from the hub it leaves
      obtain ⟨d₁, g₁, hstep, hf₁⟩ := deliverToMember_fanned hw event note d m
      obtain ⟨d', g', hrun, hf⟩ := ih hms d₁ g₁ (hf₁.writable hw) (by rw [hf₁.offered.registry]; exact hreg)
      have hbody : (m != user) = true := by simpa using hmu
      refine ⟨d', g', ?_, ?_⟩
      · simp only [hbody, if_true, exec_bind, hstep, exec_pure]
        exact hrun
      · rw [List.filter_cons_of_pos (by simpa using hmu)]
        exact hf₁.cons hreg (fun h => hm (List.mem_of_mem_filter h)) hf

/-! ## The handler -/

def groupNote (g : GroupId) (sender : UserId) (body : String) : Json :=
  Json.ofFields [("group_id", .int g.val), ("sender_id", .int sender.val), ("message", .str body)]

/-- `store'` is `store` after a message from `sender` with `body` was posted to the group `g` at
`at_`: the message is stored once, then each user of `offline`, in order, gets one unread
`group_message` notification naming the group, the sender and the message; nothing else changes. -/
structure GroupPosted (store store' : Store) (g : GroupId) (sender : UserId) (body : String) (at_ : Instant)
    (offline : List UserId) : Prop where
  message : ∃ m, store'.groupMessages = store.groupMessages ++ [⟨m, g, sender, body, at_⟩]
  notified : ∃ ns : List Notification, store'.notifications = store.notifications ++ ns ∧
    ns.map (·.user) = offline ∧ ∀ n ∈ ns, n.kind = NotificationKind.groupMessage.tag ∧
      n.payload = groupNote g sender body ∧ n.isRead = false ∧ n.createdAt = at_
  rest : { store' with
    groupMessages := store.groupMessages
    notifications := store.notifications
    lastId := store.lastId } = store

theorem GroupPosted.of_notified {s s' : Store} {g : GroupId} {sender : UserId} {body : String} {at_ : Instant}
    {offline : List UserId}
    (hn : Notified { s with
        lastId := s.lastId + 1
        groupMessages := s.groupMessages ++ [⟨⟨s.lastId + 1⟩, g, sender, body, at_⟩] } s' offline
      NotificationKind.groupMessage.tag (groupNote g sender body) at_) :
    GroupPosted s s' g sender body at_ offline where
  message := ⟨_, congrArg Store.groupMessages hn.rest⟩
  notified := hn.notes
  rest := calc
    { s' with groupMessages := s.groupMessages, notifications := s.notifications, lastId := s.lastId }
      = { { s' with notifications := s.notifications, lastId := s.lastId + 1 } with
          groupMessages := s.groupMessages, notifications := s.notifications, lastId := s.lastId } := rfl
    _ = s := by rw [hn.rest]

def groupRefusal (gid : Int) : Envelope :=
  ⟨.error, errorPayload .groupMessageForbidden "You are not a member of this group" (contextOf "group_id" gid)⟩

section Handler

variable {h : Hub} {s : ConnId} {p : Json} {x : Connection} {req : SendGroupMessage}

theorem sendGroup_undecodable {m : String} (hm : SendGroupMessage.decode p = .error m) :
    (sendGroup s p).exec h = (.error (.payload m), h) := by
  simp [sendGroup, hm, decodeRequest]

variable (hx : h.conn? s = some x) (hreq : SendGroupMessage.decode p = .ok req)
include hx hreq

theorem sendGroup_invalid (hf : groupFailures req ≠ []) :
    ∃ h', (sendGroup s p).exec h = (.ok {}, h') ∧
      Offered h h' ((groupFailures req).map fun f => (s, validationRefusal (contextOf "group_id" req.groupId) f)) ∧
      Unwritten h h' := by
  have hv : (groupComplaints req).hasErrors = true := by simpa [groupComplaints_hasErrors] using hf
  obtain ⟨h', hrun, ho, ha, hd⟩ := tellEach_exec s (contextOf "group_id" req.groupId) (groupFailures req) h
  refine ⟨h', ?_, ho, ha, hd⟩
  simp only [sendGroup, exec_bind, hreq, decodeRequest, exec_pure, exec_conn?, hx]
  rw [if_pos hv, groupComplaints_errors, exec_bind, hrun]
  rfl

theorem sendGroup_forbidden (hnone : h.access.failing = []) (hf : groupFailures req = [])
    (hm : h.access.store.isGroupMember ⟨req.groupId⟩ x.user = false) :
    (sendGroup s p).exec h = (.ok {}, (h.reject s (.permission .groupMessageForbidden
      "You are not a member of this group") (contextOf "group_id" req.groupId)).2) := by
  have hv : (groupComplaints req).hasErrors = false := by simp [groupComplaints_hasErrors, hf]
  simp only [sendGroup, exec_bind, hreq, decodeRequest, exec_pure, exec_conn?, hx]
  rw [if_neg (by simp [hv])]
  simp [exec_bind, Access.isGroupMember_ok hnone, hm, tell]

theorem sendGroup_failing (hnone : h.access.failing = []) (hf : groupFailures req = [])
    (hm : h.access.store.isGroupMember ⟨req.groupId⟩ x.user = true) (hfail : h.access.store.failing = true) :
    (sendGroup s p).exec h = (.error (.store Store.unavailable), h) := by
  have hv : (groupComplaints req).hasErrors = false := by simp [groupComplaints_hasErrors, hf]
  simp only [sendGroup, exec_bind, hreq, decodeRequest, exec_pure, exec_conn?, hx]
  rw [if_neg (by simp [hv])]
  simp [exec_bind, Access.isGroupMember_ok hnone, hm, Access.insertGroupMessage_failing hnone hfail]

/-- A member's message over a store that takes every write is posted, and every other member is
fanned out. -/
theorem sendGroup_posted (hw : h.access.Writable) (hreg : h.registry.conns.Nodup) (hf : groupFailures req = [])
    (hm : h.access.store.isGroupMember ⟨req.groupId⟩ x.user = true)
    (hset : (h.access.store.groupMemberIds ⟨req.groupId⟩).Nodup) :
    ∃ h', (sendGroup s p).exec h =
        (.ok ⟨((liveOffers h.registry (groupEcho req.message x.user ⟨req.groupId⟩ h.now)
            ((h.access.store.groupMemberIds ⟨req.groupId⟩).filter (· ≠ x.user))).filter h.takes).length,
          (offlineMembers h.registry ((h.access.store.groupMemberIds ⟨req.groupId⟩).filter (· ≠ x.user))).length⟩,
          h') ∧
      Offered h h' (liveOffers h.registry (groupEcho req.message x.user ⟨req.groupId⟩ h.now)
        ((h.access.store.groupMemberIds ⟨req.groupId⟩).filter (· ≠ x.user))) ∧
      GroupPosted h.access.store h'.access.store ⟨req.groupId⟩ x.user req.message h.now
        (offlineMembers h.registry ((h.access.store.groupMemberIds ⟨req.groupId⟩).filter (· ≠ x.user))) ∧
      h'.access.failing = [] ∧ h'.handoffs = h.handoffs := by
  have hv : (groupComplaints req).hasErrors = false := by simp [groupComplaints_hasErrors, hf]
  simp only [sendGroup, exec_bind, hreq, decodeRequest, exec_pure, exec_conn?, hx]
  rw [if_neg (by simp [hv])]
  simp only [exec_bind, exec_access, Access.isGroupMember_ok hw.1, hm, exec_store_ok, Bool.not_true,
    Bool.false_eq_true, if_false, exec_now, Access.insertGroupMessage_ok hw, exec_setAccess,
    Access.groupMemberIds_ok, hw.1]
  -- the members are read after the message is stored, which leaves the groups as they were
  rw [Store.groupMemberIds_of_groups (s := h.access.store) (by rfl),
    show Json.ofFields [("group_id", .int req.groupId), ("sender_id", .int x.user.val),
        ("message", .str req.message)] = groupNote ⟨req.groupId⟩ x.user req.message from rfl]
  let g₁ : Hub := { h with access := { h.access with store := { h.access.store with
      lastId := h.access.store.lastId + 1
      groupMessages := h.access.store.groupMessages ++
        [⟨⟨h.access.store.lastId + 1⟩, ⟨req.groupId⟩, x.user, req.message, h.now⟩] } } }
  obtain ⟨⟨live, notified⟩, g', hrun, hfan⟩ :=
    fanout_exec (receiveGroupMessagePayload req.message x.user ⟨req.groupId⟩ h.now)
      (groupNote ⟨req.groupId⟩ x.user req.message) x.user _ hset {} g₁ ⟨hw.1, hw.2⟩ hreg
  simp only [g₁, hw.1] at hrun
  rw [hrun]
  have ho := (Offered.of_conns rfl rfl : Offered h g₁ []).trans hfan.offered
  rw [List.nil_append] at ho
  refine ⟨g', ?_, ho, GroupPosted.of_notified hfan.notes, hfan.failing.trans hw.1, hfan.handoffs⟩
  have hlive : live = _ := hfan.live
  have hnotified : notified = _ := hfan.notified
  simp only [exec_pure]
  rw [hlive, hnotified]
  simp only [Nat.zero_add]
  rfl

end Handler

/-! ## The contract -/

/-- What `send_group_message` from the connection `s`, whose record is `x`, does over a store with no
injected failure (whose writes then all go through or all fail), a registry that lists each
connection once and groups that list each member once. -/
theorem group_message_contract (h : Hub) (s : ConnId) (x : Connection) (p : Json)
    (hx : h.conn? s = some x) (hnone : h.access.failing = []) (hreg : h.registry.conns.Nodup)
    (hsets : ∀ g, (h.access.store.groupMemberIds g).Nodup) :
    let r := (sendGroup s p).exec h
    (∀ m, SendGroupMessage.decode p = .error m → r = (.error (.payload m), h)) ∧
    ∀ req, SendGroupMessage.decode p = .ok req →
      let g : GroupId := ⟨req.groupId⟩
      let others := (h.access.store.groupMemberIds g).filter (· ≠ x.user)
      let live := liveOffers h.registry (groupEcho req.message x.user g h.now) others
      let offline := offlineMembers h.registry others
      (groupFailures req ≠ [] → r.1 = .ok {} ∧
        Offered h r.2
          ((groupFailures req).map fun f => (s, validationRefusal (contextOf "group_id" req.groupId) f)) ∧
        Unwritten h r.2) ∧
      (groupFailures req = [] → h.access.store.isGroupMember g x.user = false →
        r.1 = .ok {} ∧ Offered h r.2 [(s, groupRefusal req.groupId)] ∧ Unwritten h r.2) ∧
      (groupFailures req = [] → h.access.store.isGroupMember g x.user = true →
        (h.access.store.failing = true → r = (.error (.store Store.unavailable), h)) ∧
        (h.access.store.failing = false →
          r.1 = .ok ⟨(live.filter h.takes).length, offline.length⟩ ∧ Offered h r.2 live ∧
          GroupPosted h.access.store r.2.access.store g x.user req.message h.now offline ∧
          r.2.access.failing = [] ∧ r.2.handoffs = h.handoffs)) := by
  dsimp only
  refine ⟨fun m hm => sendGroup_undecodable hm, fun req hreq =>
    ⟨fun hf => ?_, fun hf hm => ?_, fun hf hm => ⟨fun hfail => ?_, fun hok => ?_⟩⟩⟩
  · -- failing fields are told, nothing is stored
    obtain ⟨h', hrun, ho, hu⟩ := sendGroup_invalid hx hreq hf
    rw [hrun]
    exact ⟨rfl, ho, hu⟩
  · -- a non-member is refused
    rw [sendGroup_forbidden hx hreq hnone hf hm]
    exact ⟨rfl, Offered.tell s _ _ fun _ => rfl, by simp [Unwritten, Hub.reject]⟩
  · exact sendGroup_failing hx hreq hnone hf hm hfail
  · -- the message is stored and fanned out
    obtain ⟨h', hrun, ho, hp, hfl, hd⟩ := sendGroup_posted hx hreq ⟨hnone, hok⟩ hreg hf hm (hsets _)
    rw [hrun]
    exact ⟨rfl, ho, hp, hfl, hd⟩

/-- A hub whose store has Alice and Bob in group 7, where only Alice is connected. -/
def groupHub : Hub where
  access := { store := { users := [⟨⟨1⟩, "alice", true⟩, ⟨⟨2⟩, "bob", true⟩],
                         groups := [(⟨7⟩, [⟨1⟩, ⟨2⟩])] } }
  conns := [aliceConn]
  registry := ⟨[⟨⟨0⟩, ⟨⟨1⟩, "alice", .online⟩, 0⟩], 1⟩

theorem groupHub_members_nodup (g : GroupId) : (groupHub.access.store.groupMemberIds g).Nodup := by
  by_cases hg : g = ⟨7⟩
  · subst hg
    decide
  · simp [groupHub, Store.groupMemberIds, List.lookup_cons, beq_eq_false_iff_ne.2 hg]

/-- Alice writes to group 7 while Bob is offline: the message is stored and Bob is notified. -/
theorem group_message_contract_notifies :
    groupHub.conn? ⟨0⟩ = some aliceConn ∧ groupHub.access.failing = [] ∧ groupHub.registry.conns.Nodup ∧
      GroupPosted groupHub.access.store
        ((sendGroup ⟨0⟩ (Json.ofFields [("message", .str "hi all"), ("group_id", .int 7)])).exec
          groupHub).2.access.store
        ⟨7⟩ ⟨1⟩ "hi all" groupHub.now [⟨2⟩] := by
  obtain ⟨-, hdecoded⟩ := group_message_contract groupHub ⟨0⟩ aliceConn
    (Json.ofFields [("message", .str "hi all"), ("group_id", .int 7)]) rfl rfl (by decide) groupHub_members_nodup
  obtain ⟨-, -, hmember⟩ := hdecoded ⟨"hi all", 7⟩ rfl
  obtain ⟨-, -, hposted, -⟩ := (hmember (by decide) (by decide)).2 rfl
  exact ⟨rfl, rfl, by decide, hposted⟩

end Switchboard
