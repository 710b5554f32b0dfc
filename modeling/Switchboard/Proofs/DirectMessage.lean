import Switchboard.Proofs.HandlerRuns
import Switchboard.Proofs.ConversationRace
/-!
# What a direct message does

`sendDirect` handles a client's `send_message` in nine ordered checks that mix store reads,
registry reads and offers to queues. This module says what it does from outside: its answer,
what it offers to which queue and in which order, what it records on the sender, and what it
writes to the store, for every payload, session, permission and presence, over the store itself
(no failure injected), whose writes then all go through or all fail.

The offers are described by `Offered`: the hub after offering a list of envelopes, each to its
connection, with everything else about the connections as it was. Offers compose along a run
(`Offered.trans`), so each branch of the handler is the composition of its steps. The store
after a stored message is described by `Persisted`: one more message, in the conversation the
pair already had or a new one, which is marked active at the message's time.

Main statement, `direct_message_contract`: a payload that does not decode is a payload error and
changes nothing; a session token that does not name the sender's user closes the sender for
policy violation (unless a reason is recorded) and unregisters it, writes and offers nothing, and
answers `invalidSession`; otherwise the sender is marked validated now, and then one validation
error per failing field (`message` before `receiver_id`), or a refusal for writing to oneself or
to a user one may not write to, or (after a notice to the sender when the receiver is offline)
the message is stored exactly once and the same `receive_message` event is offered to the
receiver's last connection and then to the sender, with a notification handed off; when the
store's writes fail, the answer is the store error and only the offline notice is offered.
-/

namespace Switchboard

open Wire Time HubM

/-! ## Views of the hub -/

namespace Egress

def offerAll (q : Egress) (es : List Envelope) : Egress := es.foldl (fun q e => (q.offer e).2) q

@[simp] theorem offerAll_nil (q : Egress) : q.offerAll [] = q := rfl

@[simp] theorem offerAll_append (q : Egress) (es fs : List Envelope) :
    q.offerAll (es ++ fs) = (q.offerAll es).offerAll fs := List.foldl_append

@[simp] theorem offerAll_singleton (q : Egress) (e : Envelope) : q.offerAll [e] = (q.offer e).2 := rfl

end Egress

namespace Hub

def queue (h : Hub) (c : ConnId) : Option Egress := (h.conn? c).map (·.egress)

def validatedAt (h : Hub) (c : ConnId) : Option Int := (h.conn? c).map (·.lastValidatedMs)

end Hub

def envelopesTo (c : ConnId) (ds : List (ConnId × Envelope)) : List Envelope :=
  (ds.filter (·.1 == c)).map (·.2)

@[simp] theorem envelopesTo_nil (c : ConnId) : envelopesTo c [] = [] := rfl

@[simp] theorem envelopesTo_append (c : ConnId) (ds es : List (ConnId × Envelope)) :
    envelopesTo c (ds ++ es) = envelopesTo c ds ++ envelopesTo c es := by
  simp [envelopesTo, List.filter_append]

theorem envelopesTo_singleton (c d : ConnId) (e : Envelope) :
    envelopesTo c [(d, e)] = if d = c then [e] else [] := by
  by_cases hdc : d = c <;> simp [envelopesTo, hdc]

/-! ## Offers -/

/-- `h'` is `h` after the envelopes of `ds` were offered, in order, each to its connection: every
queue has been offered its own envelopes in order, and the registry, the close reasons and the
session checks are as they were. -/
structure Offered (h h' : Hub) (ds : List (ConnId × Envelope)) : Prop where
  registry : h'.registry = h.registry
  reasons : ∀ c, h'.closeReasonOf c = h.closeReasonOf c
  validated : ∀ c, h'.validatedAt c = h.validatedAt c
  queues : ∀ c, h'.queue c = (h.queue c).map (·.offerAll (envelopesTo c ds))

namespace Offered

variable {h h₁ h₂ : Hub} {ds es : List (ConnId × Envelope)}

theorem of_conns (hconns : h'.conns = h.conns) (hreg : h'.registry = h.registry) : Offered h h' [] where
  registry := hreg
  reasons c := by simp [Hub.closeReasonOf, Hub.conn?, hconns]
  validated c := by simp [Hub.validatedAt, Hub.conn?, hconns]
  queues c := by cases hq : h.queue c <;> simp_all [Hub.queue, Hub.conn?]

theorem refl (h : Hub) : Offered h h [] := of_conns rfl rfl

theorem trans (h1 : Offered h h₁ ds) (h2 : Offered h₁ h₂ es) : Offered h h₂ (ds ++ es) where
  registry := h2.registry.trans h1.registry
  reasons c := (h2.reasons c).trans (h1.reasons c)
  validated c := (h2.validated c).trans (h1.validated c)
  queues c := by
    rw [h2.queues, h1.queues, Option.map_map, envelopesTo_append]
    congr 1
    funext q
    simp

theorem withConn {α : Type} {c : ConnId} {dflt : α} {f : Connection → α × Connection} {e : Envelope}
    (hf : ∀ x, (f x).2 = { x with egress := (x.egress.offer e).2 }) :
    Offered h (h.withConn c dflt f).2 [(c, e)] where
  registry := Hub.withConn_registry ..
  reasons d := by
    simp only [Hub.closeReasonOf, Hub.conn?_withConn (f := f) (fun x => by rw [hf])]
    split <;> cases h.conn? d <;> simp [hf]
  validated d := by
    simp only [Hub.validatedAt, Hub.conn?_withConn (f := f) (fun x => by rw [hf])]
    split <;> cases h.conn? d <;> simp [hf]
  queues d := by
    simp only [Hub.queue, Hub.conn?_withConn (f := f) (fun x => by rw [hf]), envelopesTo_singleton]
    split <;> cases h.conn? d <;> simp [hf]

theorem sendEvent (c : ConnId) (tag : EventTag) (payload : Json) :
    Offered h (h.sendEvent c tag payload).2 [(c, ⟨tag, payload⟩)] :=
  withConn fun _ => rfl

end Offered

/-! ## Storing a message -/

@[simp] theorem HubM.exec_map {α β : Type} (f : α → β) (m : HubM α) (h : Hub) :
    (f <$> m).exec h = match m.exec h with
      | (.ok a, h') => (.ok (f a), h')
      | (.error e, h') => (.error e, h') := by
  rw [map_eq_pure_bind, exec_bind]
  rcases m.exec h with ⟨_ | _, _⟩ <;> rfl

@[simp] theorem Access.writable_mk (s : Store) (f : List StoreOp) :
    (Access.mk s f).Writable ↔ f = [] ∧ s.failing = false :=
  Iff.rfl

namespace Store

def markActive (c : ConversationId) (at_ : Instant) (x : Conversation) : Conversation :=
  if x.id == c then { x with lastMessageAt := at_ } else x

@[simp] theorem markActive_id (c : ConversationId) (at_ : Instant) (x : Conversation) :
    (markActive c at_ x).id = x.id := by
  unfold markActive; split <;> rfl

@[simp] theorem markActive_between (c : ConversationId) (at_ : Instant) (x : Conversation) (a b : UserId) :
    (markActive c at_ x).between a b = x.between a b := by
  unfold markActive; split <;> rfl

theorem findConversation_markActive {s s' : Store} {c : ConversationId} {at_ : Instant}
    (hs : s'.conversations = s.conversations.map (markActive c at_)) (a b : UserId) :
    s'.findConversation a b = s.findConversation a b := by
  simp only [findConversation, hs, List.find?_map, Function.comp_def, markActive_between, Option.map_map,
    markActive_id]

theorem lastMessageAt_markActive {s s' : Store} {c : ConversationId} {at_ : Instant}
    (hs : s'.conversations = s.conversations.map (markActive c at_)) (hc : s.conversations.any (·.id == c) = true) :
    s'.lastMessageAt c = some at_ := by
  obtain ⟨x, hx⟩ := Option.isSome_iff_exists.1 (List.find?_isSome.2 (List.any_eq_true.1 hc))
  have hxc : x.id = c := by simpa using List.find?_some hx
  simp only [lastMessageAt, hs, List.find?_map, Function.comp_def, markActive_id, hx, Option.map_some]
  simp [markActive, hxc]

end Store

/-- `store'` is `store` with one more message, from `author` with `body` at `at_`, in the
conversation `conv` of the pair, which is marked active at `at_`: the one the pair had, or a new
one when it had none. -/
structure Persisted (store store' : Store) (author receiver : UserId) (body : String) (at_ : Instant)
    (conv : ConversationId) : Prop where
  message : ∃ m, store'.messages = store.messages ++ [⟨m, conv, author, body, at_⟩]
  found : store'.findConversation author receiver = some conv
  kept : ∀ c, store.findConversation author receiver = some c → conv = c
  active : store'.lastMessageAt conv = some at_

/-- Over a store that takes every write, storing a direct message answers its conversation and
leaves the hub with the message persisted once; nothing else changes. -/
theorem persistDirect_writable {h : Hub} (hw : h.access.Writable) (a b : UserId) (body : String) (at_ : Instant) :
    ∃ conv store', (persistDirect a b body at_).exec h = (.ok conv, { h with access := { h.access with store := store' } }) ∧
      Persisted h.access.store store' a b body at_ conv := by
  cases hf : h.access.store.findConversation a b with
  | some c =>
    -- the pair's conversation is reused
    obtain ⟨y, hy, hyc, -⟩ := Store.findConversation_eq_some hf
    have hc : h.access.store.conversations.any (·.id == c) = true := List.any_eq_true.2 ⟨y, hy, by simp [hyc]⟩
    refine ⟨c, { h.access.store with
        lastId := h.access.store.lastId + 1
        messages := h.access.store.messages ++ [⟨⟨h.access.store.lastId + 1⟩, c, a, body, at_⟩]
        conversations := h.access.store.conversations.map (Store.markActive c at_) }, ?_, ?_⟩
    · simp [persistDirect, findOrStartConversation, exec_bind, Access.findConversation_ok hw, hf,
        Access.insertMessage_ok, Access.touchConversation_ok, hw, hw.1, hw.2, hc, Store.markActive]
    · refine ⟨⟨_, rfl⟩, ?_, fun c' hc' => Option.some.inj (hf.symm.trans hc'), ?_⟩
      · exact (Store.findConversation_markActive rfl a b).trans hf
      · exact Store.lastMessageAt_markActive rfl hc
  | none =>
    -- a new conversation is started for the pair, then the message goes into it
    let s₁ : Store := { h.access.store with
      lastId := h.access.store.lastId + 1
      conversations := h.access.store.conversations ++ [⟨⟨h.access.store.lastId + 1⟩, a, b, at_⟩] }
    have hc : s₁.conversations.any (·.id == ⟨h.access.store.lastId + 1⟩) = true := by simp [s₁]
    refine ⟨⟨h.access.store.lastId + 1⟩, { s₁ with
        lastId := s₁.lastId + 1
        messages := s₁.messages ++ [⟨⟨s₁.lastId + 1⟩, ⟨h.access.store.lastId + 1⟩, a, body, at_⟩]
        conversations := s₁.conversations.map (Store.markActive ⟨h.access.store.lastId + 1⟩ at_) }, ?_, ?_⟩
    · simp [persistDirect, findOrStartConversation, exec_bind, Access.findConversation_ok hw, hf,
        Access.createConversation_ok hw, Access.insertMessage_ok, Access.touchConversation_ok, hw.1, hw.2,
        Store.markActive, s₁]
    · refine ⟨⟨_, rfl⟩, ?_, fun c' hc' => by simp [hf] at hc', ?_⟩
      · rw [Store.findConversation_markActive rfl]
        -- no older conversation is of the pair, and the new one is
        rw [Store.findConversation_eq_none] at hf
        simp only [Store.findConversation, s₁, List.find?_append]
        rw [List.find?_eq_none.2 fun x hx => by
          simpa [Store.pairCount, List.countP_eq_zero] using (List.countP_eq_zero.1 hf) x hx]
        simp [Conversation.between]
      · exact Store.lastMessageAt_markActive rfl hc

namespace Access

variable {acc : Access} (hnone : acc.failing = []) (hfail : acc.store.failing = true)
include hnone hfail

theorem createConversation_failing (x y : UserId) (at_ : Instant) :
    acc.createConversation x y at_ = .error Store.unavailable := by
  simp [createConversation, guard, hnone, Store.createConversation, Store.writable, hfail]
  rfl

theorem insertMessage_failing (c : ConversationId) (sender : UserId) (body : String) (at_ : Instant) :
    acc.insertMessage c sender body at_ = .error Store.unavailable := by
  simp [insertMessage, guard, hnone, Store.insertMessage, Store.writable, hfail]
  rfl

end Access

/-- Over a failing store, storing a direct message fails with the store's error at its first write,
and nothing changes. -/
theorem persistDirect_failing {h : Hub} (hnone : h.access.failing = []) (hfail : h.access.store.failing = true)
    (a b : UserId) (body : String) (at_ : Instant) :
    (persistDirect a b body at_).exec h = (.error (.store Store.unavailable), h) := by
  have hfind : h.access.findConversation a b = .ok (h.access.store.findConversation a b) := by
    simp [Access.findConversation, Access.guard, hnone]
  cases hf : h.access.store.findConversation a b <;>
    simp [persistDirect, findOrStartConversation, exec_bind, hfind, hf,
      Access.createConversation_failing hnone hfail, Access.insertMessage_failing hnone hfail]

/-! ## Telling the sender -/

namespace Hub

@[simp] theorem withConn_access {α : Type} (h : Hub) (c : ConnId) (dflt : α) (f : Connection → α × Connection) :
    (h.withConn c dflt f).2.access = h.access := by
  unfold withConn; split <;> rfl

@[simp] theorem withConn_handoffs {α : Type} (h : Hub) (c : ConnId) (dflt : α) (f : Connection → α × Connection) :
    (h.withConn c dflt f).2.handoffs = h.handoffs := by
  unfold withConn; split <;> rfl

@[simp] theorem withConn_now {α : Type} (h : Hub) (c : ConnId) (dflt : α) (f : Connection → α × Connection) :
    (h.withConn c dflt f).2.now = h.now := by
  unfold withConn; split <;> rfl

@[simp] theorem updateConn_access (h : Hub) (c : ConnId) (f : Connection → Connection) :
    (h.updateConn c f).access = h.access := rfl

@[simp] theorem updateConn_handoffs (h : Hub) (c : ConnId) (f : Connection → Connection) :
    (h.updateConn c f).handoffs = h.handoffs := rfl

@[simp] theorem updateConn_now (h : Hub) (c : ConnId) (f : Connection → Connection) :
    (h.updateConn c f).now = h.now := rfl

@[simp] theorem clientByUser_updateConn (h : Hub) (c : ConnId) (f : Connection → Connection) (u : UserId) :
    (h.updateConn c f).clientByUser u = h.clientByUser u := rfl

end Hub

/-- The complaints about a direct message request, in the order they are told: the body's
(blank first, then too long), then the receiver id's. -/
def fieldFailures (req : SendMessage) : List (String × String) :=
  (if Text.allBlank req.message then [("message", "Message cannot be empty")]
    else if maxBodyRunes < Text.runeCount req.message then
      [("message", "Message is too long (maximum 250 characters)")]
    else []) ++
  (if req.receiverId ≤ 0 then [("receiver_id", "Invalid receiver ID")] else [])

/-- The validator of a request collects exactly `fieldFailures`, `message` before `receiver_id`. -/
theorem directComplaints_errors (req : SendMessage) : (directComplaints req).errors = fieldFailures req := by
  have hlt : ¬ ("receiver_id" < "message") := by decide
  have hne : ("receiver_id" = "message") = False := by simp
  unfold directComplaints fieldFailures
  by_cases hb : Text.allBlank req.message <;> by_cases hr : req.receiverId ≤ 0 <;>
    by_cases hl : maxBodyRunes < Text.runeCount req.message <;>
    simp [MessageBody.make, notBlank, maxRunes, BodyError.message, Validator.check, insertFirst, hb, hr, hl,
      hlt, hne, ← Int.not_le]

theorem directComplaints_hasErrors (req : SendMessage) :
    (directComplaints req).hasErrors = !(fieldFailures req).isEmpty := by
  rw [Validator.hasErrors, directComplaints_errors]

def refusal (code : ErrorCode) (message : String) (rid : Int) : Envelope :=
  ⟨.error, errorPayload code message (contextOf "receiver_id" rid)⟩

def fieldRefusal (rid : Int) (complaint : String × String) : Envelope :=
  ⟨.error, errorPayload .validationError complaint.2 (contextOf "receiver_id" rid ++ [("field", .str complaint.1)])⟩

/-- The error event telling the sender that a field failed validation, in the request's context
and naming the field. -/
def validationRefusal (ctx : Json.Fields) (complaint : String × String) : Envelope :=
  ⟨.error, errorPayload .validationError complaint.2 (ctx ++ [("field", .str complaint.1)])⟩

namespace Offered

variable {h : Hub}

theorem tell (s : ConnId) (err : RealtimeError) (ctx : Json.Fields) {e : Envelope}
    (he : ∀ x : Connection, (x.reject err ctx).2 = { x with egress := (x.egress.offer e).2 }) :
    Offered h ((Switchboard.tell s err ctx).exec h).2 [(s, e)] :=
  withConn he

end Offered

theorem tellEach_exec (s : ConnId) (ctx : Json.Fields) (fs : List (String × String)) (h : Hub) :
    ∃ h', (forIn fs PUnit.unit fun x _ => do
        tell s (.validation x.1 x.2) ctx
        pure (ForInStep.yield PUnit.unit) : HubM PUnit).exec h = (.ok PUnit.unit, h') ∧
      Offered h h' (fs.map fun f => (s, validationRefusal ctx f)) ∧ h'.access = h.access ∧ h'.handoffs = h.handoffs := by
  induction fs generalizing h with
  | nil => exact ⟨h, rfl, Offered.refl h, rfl, rfl⟩
  | cons f fs ih =>
    -- the first complaint is told, then the rest from the hub it leaves
    obtain ⟨h', hrun, ho, ha, hh⟩ := ih (h.reject s (.validation f.1 f.2) ctx).2
    have hfirst := Offered.tell (h := h) s (.validation f.1 f.2) ctx (e := validationRefusal ctx f) fun _ => rfl
    refine ⟨h', ?_, hfirst.trans ho, ?_, ?_⟩
    · rw [List.forIn_cons, exec_bind, exec_bind]
      exact hrun
    · simp [ha, Hub.reject]
    · simp [hh, Hub.reject]

/-! ## Sending a stored message on -/

def directEcho (body : String) (author receiver : UserId) (at_ : Instant) : Envelope :=
  ⟨.receiveMessage, receiveMessagePayload body author receiver at_⟩

def directNote (author receiver : UserId) (conv : ConversationId) (body : String) : Handoff :=
  ⟨receiver, NotificationKind.directMessage.tag,
    Json.ofFields [("sender_id", .int author.val), ("conversation_id", .int conv.val), ("message", .str body)]⟩

/-- Over a store that takes every write, the message is stored once, its event is offered to the
receiver's connection (if there is one) and then to the sender, and its notification is handed off. -/
theorem postDirect_writable {h : Hub} (hw : h.access.Writable) (s : ConnId) (author receiver : UserId)
    (body : String) (rc : Option ConnId) :
    ∃ conv store', Persisted h.access.store store' author receiver body h.now conv ∧
      let r := (postDirect s author receiver body rc).exec h
      r.1 = .ok () ∧ r.2.access = { h.access with store := store' } ∧
      r.2.handoffs = h.handoffs ++ [directNote author receiver conv body] ∧
      Offered h r.2 (rc.toList.map (·, directEcho body author receiver h.now) ++
        [(s, directEcho body author receiver h.now)]) := by
  obtain ⟨conv, store', hrun, hp⟩ := persistDirect_writable hw author receiver body h.now
  refine ⟨conv, store', hp, ?_⟩
  -- the stored hub, then at most two offers of the same event, then the handoff
  generalize hh₁ : ({ h with access := { h.access with store := store' } } : Hub) = h₁ at hrun
  have hstore : Offered h h₁ [] := hh₁ ▸ Offered.of_conns rfl rfl
  have ha₁ : h₁.access = { h.access with store := store' } := hh₁ ▸ rfl
  have hd₁ : h₁.handoffs = h.handoffs := hh₁ ▸ rfl
  have hnote (H : Hub) : Offered H { H with handoffs := H.handoffs ++ [directNote author receiver conv body] } [] :=
    Offered.of_conns rfl rfl
  let e := directEcho body author receiver h.now
  cases rc with
  | none =>
    have hexec : (postDirect s author receiver body none).exec h =
        (.ok (), { (h₁.sendEvent s e.tag e.payload).2 with
          handoffs := (h₁.sendEvent s e.tag e.payload).2.handoffs ++ [directNote author receiver conv body] }) := by
      simp only [postDirect, exec_bind, exec_now, hrun, deliver, exec_step]
      rfl
    rw [hexec]
    exact ⟨rfl, by simp [Hub.sendEvent, ha₁], by simp [Hub.sendEvent, hd₁],
      (hstore.trans (Offered.sendEvent s e.tag e.payload)).trans (hnote _)⟩
  | some c =>
    have hexec : (postDirect s author receiver body (some c)).exec h =
        (.ok (), { ((h₁.sendEvent c e.tag e.payload).2.sendEvent s e.tag e.payload).2 with
          handoffs := ((h₁.sendEvent c e.tag e.payload).2.sendEvent s e.tag e.payload).2.handoffs ++
            [directNote author receiver conv body] }) := by
      simp only [postDirect, exec_bind, exec_now, hrun, deliver, exec_step]
      rfl
    rw [hexec]
    exact ⟨rfl, by simp [Hub.sendEvent, ha₁], by simp [Hub.sendEvent, hd₁],
      ((hstore.trans (Offered.sendEvent c e.tag e.payload)).trans (Offered.sendEvent s e.tag e.payload)).trans
        (hnote _)⟩

/-- Over a failing store, sending a message on fails at its first write, with nothing changed. -/
theorem postDirect_failing {h : Hub} (hnone : h.access.failing = []) (hfail : h.access.store.failing = true)
    (s : ConnId) (author receiver : UserId) (body : String) (rc : Option ConnId) :
    (postDirect s author receiver body rc).exec h = (.error (.store Store.unavailable), h) := by
  simp only [postDirect, exec_bind, exec_now, persistDirect_failing hnone hfail]

/-! ## A request from a checked session -/

namespace Hub

theorem conn?_markValidated (h : Hub) (s c : ConnId) (at_ : Instant) :
    (h.updateConn s (·.markValidated at_)).conn? c =
      if c = s then (h.conn? c).map (·.markValidated at_) else h.conn? c := by
  by_cases hc : c = s
  · subst hc
    rw [if_pos rfl]
    exact conn?_updateConn_self fun _ hx => hx
  · rw [if_neg hc]
    exact conn?_updateConn_of_ne (fun _ hx => hx) (Ne.symm hc)

end Hub

/-- `h'` is `h` after the sender `s` was marked validated at the hub's instant and the envelopes
of `ds` were offered: the registry and the close reasons as they were, the sender's last session
check moved to now and the others kept, and every queue offered its own envelopes in order. -/
structure Answered (h h' : Hub) (s : ConnId) (ds : List (ConnId × Envelope)) : Prop where
  registry : h'.registry = h.registry
  reasons : ∀ c, h'.closeReasonOf c = h.closeReasonOf c
  validated : ∀ c, h'.validatedAt c = if c = s then (h.validatedAt c).map fun _ => h.now.ms else h.validatedAt c
  queues : ∀ c, h'.queue c = (h.queue c).map (·.offerAll (envelopesTo c ds))

theorem Answered.of_offered {h h' : Hub} {s : ConnId} {ds : List (ConnId × Envelope)}
    (ho : Offered (h.updateConn s (·.markValidated h.now)) h' ds) : Answered h h' s ds where
  registry := ho.registry
  reasons c := by
    rw [ho.reasons]
    simp only [Hub.closeReasonOf, Hub.conn?_markValidated]
    split <;> cases h.conn? c <;> rfl
  validated c := by
    rw [ho.validated]
    simp only [Hub.validatedAt, Hub.conn?_markValidated]
    split <;> simp [Option.map_map, Function.comp_def, Connection.markValidated]
  queues c := by
    rw [ho.queues]
    simp only [Hub.queue, Hub.conn?_markValidated]
    split <;> simp [Option.map_map, Function.comp_def, Connection.markValidated]

section Checked

variable {h : Hub} (s : ConnId) (req : SendMessage) (u : User)

theorem sendAs_invalid (hf : fieldFailures req ≠ []) :
    ∃ h', (sendAs s req u).exec h = (.ok (), h') ∧
      Offered (h.updateConn s (·.markValidated h.now)) h'
        ((fieldFailures req).map fun f => (s, fieldRefusal req.receiverId f)) ∧
      h'.access = h.access ∧ h'.handoffs = h.handoffs := by
  have hv : (directComplaints req).hasErrors = true := by
    simpa [directComplaints_hasErrors] using hf
  obtain ⟨h', hrun, ho, ha, hd⟩ :=
    tellEach_exec s (contextOf "receiver_id" req.receiverId) (fieldFailures req) (h.updateConn s (·.markValidated h.now))
  refine ⟨h', ?_, ho, ha, hd⟩
  simp only [sendAs, exec_bind, exec_now, exec_step]
  rw [if_pos hv, directComplaints_errors, exec_bind, hrun]
  rfl

theorem sendAs_self (hf : fieldFailures req = []) (hself : (⟨req.receiverId⟩ : UserId) = u.id) :
    ∃ h', (sendAs s req u).exec h = (.ok (), h') ∧
      Offered (h.updateConn s (·.markValidated h.now)) h'
        [(s, refusal .selfMessage "Cannot send messages to yourself" req.receiverId)] ∧
      h'.access = h.access ∧ h'.handoffs = h.handoffs := by
  have hv : (directComplaints req).hasErrors = false := by
    simp [directComplaints_hasErrors, hf]
  refine ⟨_, ?_, Offered.tell s (.permission .selfMessage "Cannot send messages to yourself")
    (contextOf "receiver_id" req.receiverId) fun _ => rfl, by simp [tell, Hub.reject], by simp [tell, Hub.reject]⟩
  simp only [sendAs, exec_bind, exec_now, exec_step]
  rw [if_neg (by simp [hv]), if_pos (by simp [hself]), exec_bind]
  rfl

theorem sendAs_notAllowed (hnone : h.access.failing = []) (hf : fieldFailures req = [])
    (hself : (⟨req.receiverId⟩ : UserId) ≠ u.id) (hcan : h.access.store.canMessage u.id ⟨req.receiverId⟩ = false) :
    ∃ h', (sendAs s req u).exec h = (.ok (), h') ∧
      Offered (h.updateConn s (·.markValidated h.now)) h'
        [(s, refusal .messageNotAllowed "You cannot send messages to this user" req.receiverId)] ∧
      h'.access = h.access ∧ h'.handoffs = h.handoffs := by
  have hv : (directComplaints req).hasErrors = false := by
    simp [directComplaints_hasErrors, hf]
  refine ⟨_, ?_, Offered.tell s (.permission .messageNotAllowed "You cannot send messages to this user")
    (contextOf "receiver_id" req.receiverId) fun _ => rfl, by simp [tell, Hub.reject], by simp [tell, Hub.reject]⟩
  simp only [sendAs, exec_bind, exec_now, exec_step]
  rw [if_neg (by simp [hv]), if_neg (by simpa using hself)]
  simp [exec_bind, Access.canMessage, Access.guard, hnone, hcan]
  rfl

theorem sendAs_proceed (hnone : h.access.failing = []) (hf : fieldFailures req = [])
    (hself : (⟨req.receiverId⟩ : UserId) ≠ u.id) (hcan : h.access.store.canMessage u.id ⟨req.receiverId⟩ = true) :
    (sendAs s req u).exec h = (postDirect s u.id ⟨req.receiverId⟩ req.message (h.clientByUser ⟨req.receiverId⟩)).exec
      (if (h.clientByUser ⟨req.receiverId⟩).isNone then
        ((h.updateConn s (·.markValidated h.now)).reject s (.notFound .receiverOffline "Recipient is not online")
          (contextOf "receiver_id" req.receiverId)).2
      else h.updateConn s (·.markValidated h.now)) := by
  have hv : (directComplaints req).hasErrors = false := by
    simp [directComplaints_hasErrors, hf]
  simp only [sendAs, exec_bind, exec_now, exec_step]
  rw [if_neg (by simp [hv]), if_neg (by simpa using hself)]
  have hcan' : (h.updateConn s (·.markValidated h.now)).access.canMessage u.id ⟨req.receiverId⟩ = .ok true := by
    simp [Access.canMessage, Access.guard, hnone, hcan]
  simp only [exec_bind, exec_access, hcan', exec_store_ok, Bool.not_true, Bool.false_eq_true, if_false, exec_step,
    Hub.clientByUser_updateConn]
  -- the offline notice is the only thing that depends on the receiver's connection
  cases h.clientByUser ⟨req.receiverId⟩ with
  | none =>
    simp only [Option.isNone_none, if_true, exec_bind]
    rfl
  | some c =>
    simp only [Option.isNone_some, Bool.false_eq_true, if_false]

end Checked

/-! ## The session check -/

namespace Hub

variable (h : Hub) (s : ConnId)

theorem closeReasonOf_revoke (hx : (h.conn? s).isSome) (c : ConnId) :
    ((revokeSender s).exec h).2.closeReasonOf c =
      if c = s then some ((h.closeReasonOf s).getD .policyViolation) else h.closeReasonOf c := by
  rw [exec_revokeSender]
  by_cases hc : c = s
  · subst hc
    have hclosed : (h.closeConn c .policyViolation).2.closeReasonOf c =
        some ((h.closeReasonOf c).getD .policyViolation) := by
      rw [closeReasonOf_closeConn, if_pos ⟨rfl, hx⟩]
    rw [if_pos rfl]
    exact closeReasonOf_unregister_of_some hclosed c
  · rw [if_neg hc, closeReasonOf, conn?_unregister_of_ne _ (Ne.symm hc), ← closeReasonOf,
      closeReasonOf_closeConn, if_neg fun h => hc h.1.symm]

theorem contains_revoke (c : ConnId) :
    ((revokeSender s).exec h).2.registry.contains c = (h.registry.contains c && s != c) := by
  rw [exec_revokeSender, registry_unregister, closeConn_registry]

theorem queue_revoke (c : ConnId) : ((revokeSender s).exec h).2.queue c = h.queue c := by
  rw [exec_revokeSender, queue, egress_unregister, conn?_closeConn, queue]
  split
  · cases h.conn? c <;> simp
  · rfl

@[simp] theorem access_revoke : ((revokeSender s).exec h).2.access = h.access := by
  rw [exec_revokeSender, unregister_eq]
  split <;> simp [closeConn]

@[simp] theorem handoffs_revoke : ((revokeSender s).exec h).2.handoffs = h.handoffs := by
  rw [exec_revokeSender, unregister_eq]
  split <;> simp [closeConn]

end Hub

section Session

variable {h : Hub} {s : ConnId} {p : Json}

theorem sendDirect_undecodable {m : String} (hm : SendMessage.decode p = .error m) :
    (sendDirect s p).exec h = (.error (.payload m), h) := by
  simp [sendDirect, hm, decodeRequest]

variable {x : Connection} {req : SendMessage} (hx : h.conn? s = some x) (hnone : h.access.failing = [])
  (hreq : SendMessage.decode p = .ok req)
include hx hnone hreq

theorem sendDirect_revoked
    (hbad : ∀ u, h.access.store.validateSession (req.sessionToken.getD x.identity.sessionToken) = some u →
      u.id ≠ x.user) :
    (sendDirect s p).exec h = (.error .invalidSession, ((revokeSender s).exec h).2) := by
  simp only [sendDirect, exec_bind, hreq, decodeRequest, exec_pure, exec_conn?, hx, revalidate_exec]
  have hvalid : h.access.validateSession (req.sessionToken.getD x.identity.sessionToken) =
      .ok (h.access.store.validateSession (req.sessionToken.getD x.identity.sessionToken)) := by
    simp [Access.validateSession, Access.guard, hnone]
  rw [hvalid]
  cases hu : h.access.store.validateSession (req.sessionToken.getD x.identity.sessionToken) with
  | none => rfl
  | some u => simp [hbad u hu]

theorem sendDirect_checked {u : User}
    (hu : h.access.store.validateSession (req.sessionToken.getD x.identity.sessionToken) = some u)
    (hid : u.id = x.user) :
    (sendDirect s p).exec h = (sendAs s req u).exec h := by
  simp only [sendDirect, exec_bind, hreq, decodeRequest, exec_pure, exec_conn?, hx, revalidate_exec]
  have hvalid : h.access.validateSession (req.sessionToken.getD x.identity.sessionToken) = .ok (some u) := by
    simp [Access.validateSession, Access.guard, hnone, hu]
  rw [hvalid]
  simp [hid]

end Session

/-! ## The contract -/

def Unwritten (h h' : Hub) : Prop := h'.access = h.access ∧ h'.handoffs = h.handoffs

theorem Offered.notice (H : Hub) (s : ConnId) (rid : Int) (b : Bool) :
    Offered H (if b then (H.reject s (.notFound .receiverOffline "Recipient is not online")
        (contextOf "receiver_id" rid)).2 else H)
      (if b then [(s, refusal .receiverOffline "Recipient is not online" rid)] else []) := by
  cases b
  · exact Offered.refl H
  · exact Offered.tell s _ _ fun _ => rfl

/-- What `send_message` from the connection `s`, whose record is `x`, does over a store with no
injected failure (whose writes then all go through or all fail). -/
theorem direct_message_contract (h : Hub) (s : ConnId) (x : Connection) (p : Json)
    (hx : h.conn? s = some x) (hnone : h.access.failing = []) :
    let r := (sendDirect s p).exec h
    (∀ m, SendMessage.decode p = .error m → r = (.error (.payload m), h)) ∧
    ∀ req, SendMessage.decode p = .ok req →
      let token := req.sessionToken.getD x.identity.sessionToken
      let receiver : UserId := ⟨req.receiverId⟩
      let echo := directEcho req.message x.user receiver h.now
      let notice := if (h.clientByUser receiver).isNone then
        [(s, refusal .receiverOffline "Recipient is not online" req.receiverId)] else []
      ((∀ u, h.access.store.validateSession token = some u → u.id ≠ x.user) →
        r.1 = .error .invalidSession ∧
        r.2.closeReasonOf s = some ((h.closeReasonOf s).getD .policyViolation) ∧
        r.2.registry.contains s = false ∧
        (∀ c, c ≠ s → r.2.registry.contains c = h.registry.contains c ∧ r.2.closeReasonOf c = h.closeReasonOf c) ∧
        (∀ c, r.2.queue c = h.queue c) ∧ Unwritten h r.2) ∧
      ∀ u, h.access.store.validateSession token = some u → u.id = x.user →
        (fieldFailures req ≠ [] → r.1 = .ok () ∧
          Answered h r.2 s ((fieldFailures req).map fun f => (s, fieldRefusal req.receiverId f)) ∧
          Unwritten h r.2) ∧
        (fieldFailures req = [] → receiver = u.id → r.1 = .ok () ∧
          Answered h r.2 s [(s, refusal .selfMessage "Cannot send messages to yourself" req.receiverId)] ∧
          Unwritten h r.2) ∧
        (fieldFailures req = [] → receiver ≠ u.id → h.access.store.canMessage u.id receiver = false →
          r.1 = .ok () ∧
          Answered h r.2 s [(s, refusal .messageNotAllowed "You cannot send messages to this user" req.receiverId)] ∧
          Unwritten h r.2) ∧
        (fieldFailures req = [] → receiver ≠ u.id → h.access.store.canMessage u.id receiver = true →
          (h.access.store.failing = true →
            r.1 = .error (.store Store.unavailable) ∧ Answered h r.2 s notice ∧ Unwritten h r.2) ∧
          (h.access.store.failing = false → r.1 = .ok () ∧
            ∃ conv store', Persisted h.access.store store' x.user receiver req.message h.now conv ∧
              r.2.access = { h.access with store := store' } ∧
              r.2.handoffs = h.handoffs ++ [directNote x.user receiver conv req.message] ∧
              Answered h r.2 s (notice ++ (h.clientByUser receiver).toList.map (·, echo) ++ [(s, echo)]))) := by
  dsimp only
  refine ⟨fun m hm => sendDirect_undecodable hm, fun req hreq => ⟨fun hbad => ?_, fun u hu hid => ?_⟩⟩
  case refine_1 =>
    -- the session check fails: the sender is revoked and nothing else happens
    have hsome : (h.conn? s).isSome := by simp [hx]
    rw [sendDirect_revoked hx hnone hreq hbad]
    refine ⟨rfl, ?_, by simp [Hub.contains_revoke], fun c hc => ⟨?_, ?_⟩, Hub.queue_revoke h s,
      Hub.access_revoke h s, Hub.handoffs_revoke h s⟩
    · rw [Hub.closeReasonOf_revoke h s hsome, if_pos rfl]
    · simp [Hub.contains_revoke, Ne.symm hc]
    · rw [Hub.closeReasonOf_revoke h s hsome, if_neg hc]
  case refine_2 =>
    -- the session names the sender's user: the checked handler runs
    rw [sendDirect_checked hx hnone hreq hu hid]
    rw [← hid]
    refine ⟨fun hf => ?_, fun hf hself => ?_, fun hf hself hcan => ?_, fun hf hself hcan => ⟨fun hfail => ?_, fun hok => ?_⟩⟩
    · obtain ⟨h', hrun, ho, hq⟩ := sendAs_invalid (h := h) s req u hf
      rw [hrun]
      exact ⟨rfl, .of_offered ho, hq⟩
    · obtain ⟨h', hrun, ho, hq⟩ := sendAs_self (h := h) s req u hf hself
      rw [hrun]
      exact ⟨rfl, .of_offered ho, hq⟩
    · obtain ⟨h', hrun, ho, hq⟩ := sendAs_notAllowed s req u hnone hf hself hcan
      rw [hrun]
      exact ⟨rfl, .of_offered ho, hq⟩
    all_goals
      rw [sendAs_proceed s req u hnone hf hself hcan]
      generalize hb : (h.clientByUser ⟨req.receiverId⟩).isNone = b
      have hnotice := Offered.notice (h.updateConn s (·.markValidated h.now)) s req.receiverId b
      generalize hh₂ : (if b = true then _ else _ : Hub) = h₂ at hnotice
      have ha₂ : h₂.access = h.access := by rw [← hh₂]; split <;> simp [Hub.reject]
      have hd₂ : h₂.handoffs = h.handoffs := by rw [← hh₂]; split <;> simp [Hub.reject]
      have hn₂ : h₂.now = h.now := by rw [← hh₂]; split <;> simp [Hub.reject]
    · -- the store refuses the first write
      rw [postDirect_failing (by rw [ha₂, hnone]) (by rw [ha₂, hfail])]
      exact ⟨rfl, .of_offered hnotice, ha₂, hd₂⟩
    · -- the message is stored and sent on
      obtain ⟨conv, store', hp, hr1, hra, hrd, ho⟩ :=
        postDirect_writable (h := h₂) (by rw [ha₂]; exact ⟨hnone, hok⟩) s u.id ⟨req.receiverId⟩ req.message
          (h.clientByUser ⟨req.receiverId⟩)
      rw [ha₂, hn₂] at hp
      rw [hn₂] at ho
      refine ⟨hr1, conv, store', hp, by rw [hra, ha₂], by rw [hrd, hd₂], .of_offered ?_⟩
      simpa [List.append_assoc] using hnotice.trans ho

def aliceConn : Connection := ⟨⟨0⟩, ⟨⟨1⟩, "alice", "token-1"⟩, 0, Egress.make 8, none⟩

/-- A hub whose store knows Alice and Bob, both public, with Alice's session, and where only
Alice is connected. -/
def aliceHub : Hub where
  access := { store := { users := [⟨⟨1⟩, "alice", true⟩, ⟨⟨2⟩, "bob", true⟩], sessions := [("token-1", ⟨1⟩)] } }
  conns := [aliceConn]

/-- Alice writes to Bob, who is offline: the message is stored. -/
theorem direct_message_contract_stores :
    aliceHub.conn? ⟨0⟩ = some aliceConn ∧ aliceHub.access.failing = [] ∧
      ∃ conv store', Persisted aliceHub.access.store store' ⟨1⟩ ⟨2⟩ "hi bob" aliceHub.now conv ∧
        ((sendDirect ⟨0⟩ (Json.ofFields [("message", .str "hi bob"), ("receiver_id", .int 2)])).exec aliceHub).2.access =
          { aliceHub.access with store := store' } := by
  obtain ⟨-, hdecoded⟩ := direct_message_contract aliceHub ⟨0⟩ aliceConn
    (Json.ofFields [("message", .str "hi bob"), ("receiver_id", .int 2)]) rfl rfl
  obtain ⟨-, hchecked⟩ := hdecoded ⟨"hi bob", 2, none⟩ rfl
  obtain ⟨-, -, -, hgo⟩ := hchecked ⟨⟨1⟩, "alice", true⟩ rfl rfl
  obtain ⟨-, hstored⟩ := hgo (by decide) (by decide) (by decide)
  obtain ⟨-, conv, store', hp, ha, -⟩ := hstored rfl
  exact ⟨rfl, rfl, conv, store', hp, ha⟩

end Switchboard
