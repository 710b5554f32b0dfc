import Switchboard.Handlers.Router
import Switchboard.Proofs.HubFrame
/-!
# What a routed event does to the connections

A handler runs in `HubM`: it reads and writes the store, offers events to queues and may fail.
`HubM.exec` runs it from a hub. A run is *calm* (`HubM.CalmRun`) when it leaves the registry
and every connection's close reason as they were and fails, if at all, only with a routine
error: a payload that does not decode, a tag with no handler, or a store failure.

Calm runs compose along `>>=` and `for`, so each handler is shown calm by walking its
`do` block. The one exception is the session check of `send_message`: a token that no longer
names the sender closes the sender for policy violation and unregisters it, and the handler
then fails with `invalidSession` (`revalidate_exec`). Hence `route_exec`: routing an event
is calm, or it revoked the sender and answered `invalidSession`.
-/

namespace Switchboard

open Wire

/-- The errors a handler ends with when it does not revoke the sender: a payload that does not
decode, a tag with no handler, or a store failure. -/
def RealtimeError.Routine : RealtimeError → Prop
  | .payload _ | .unsupportedEvent _ | .store _ => True
  | _ => False

namespace HubM

def exec {α : Type} (m : HubM α) (h : Hub) : Except RealtimeError α × Hub :=
  StateT.run (ExceptT.run m) h

theorem exec_bind {α β : Type} (m : HubM α) (f : α → HubM β) (h : Hub) :
    (m >>= f).exec h = match m.exec h with
      | (.ok a, h') => (f a).exec h'
      | (.error e, h') => (.error e, h') := by
  simp only [exec, ExceptT.run_bind, StateT.run_bind]
  rcases StateT.run (ExceptT.run m) h with ⟨r, h'⟩
  cases r <;> rfl

@[simp] theorem exec_pure {α : Type} (a : α) (h : Hub) : (pure a : HubM α).exec h = (.ok a, h) := rfl

@[simp] theorem exec_throw {α : Type} (e : RealtimeError) (h : Hub) :
    (throw e : HubM α).exec h = (.error e, h) := rfl

@[simp] theorem exec_step {α : Type} (f : Hub → α × Hub) (h : Hub) :
    (step f).exec h = (.ok (f h).1, (f h).2) := rfl

@[simp] theorem exec_store_ok {α : Type} (a : α) (h : Hub) :
    (HubM.store (.ok a : Except StoreError α)).exec h = (.ok a, h) := rfl

@[simp] theorem exec_store_error {α : Type} (e : StoreError) (h : Hub) :
    (HubM.store (.error e : Except StoreError α)).exec h = (.error (.store e), h) := rfl

@[simp] theorem exec_access (h : Hub) : HubM.access.exec h = (.ok h.access, h) := rfl

@[simp] theorem exec_now (h : Hub) : HubM.now.exec h = (.ok h.now, h) := rfl

@[simp] theorem exec_conn? (c : ConnId) (h : Hub) : (HubM.conn? c).exec h = (.ok (h.conn? c), h) := rfl

@[simp] theorem exec_setAccess (a : Access) (h : Hub) :
    (HubM.setAccess a).exec h = (.ok (), { h with access := a }) := rfl

/-- Every run of `m` keeps the hub calm and fails, if at all, with a routine error. -/
def CalmRun {α : Type} (m : HubM α) : Prop :=
  ∀ h, Hub.Calm h (m.exec h).2 ∧ ∀ e, (m.exec h).1 = .error e → e.Routine

namespace CalmRun

theorem pure' {α : Type} (a : α) : CalmRun (pure a : HubM α) :=
  fun h => ⟨Hub.Calm.refl h, by simp⟩

theorem throw' {α : Type} {e : RealtimeError} (he : e.Routine) : CalmRun (throw e : HubM α) :=
  fun h => ⟨Hub.Calm.refl h, by simp only [exec_throw, Except.error.injEq]; rintro _ rfl; exact he⟩

theorem bind {α β : Type} {m : HubM α} {f : α → HubM β} (hm : CalmRun m)
    (hf : ∀ a, CalmRun (f a)) : CalmRun (m >>= f) := by
  intro h
  rw [exec_bind]
  obtain ⟨hc, he⟩ := hm h
  rcases hr : m.exec h with ⟨r, h'⟩
  rw [hr] at hc he
  cases r with
  | ok a =>
    obtain ⟨hc', he'⟩ := hf a h'
    exact ⟨hc.trans hc', he'⟩
  | error e =>
    refine ⟨hc, fun e' he' => ?_⟩
    cases he'
    exact he e rfl

theorem step' {α : Type} {f : Hub → α × Hub} (hf : ∀ h, Hub.Calm h (f h).2) : CalmRun (step f) :=
  fun h => ⟨hf h, by simp⟩

theorem store' {α : Type} (r : Except StoreError α) : CalmRun (HubM.store r) := by
  cases r with
  | ok a => exact pure' a
  | error e => exact throw' trivial

theorem access' : CalmRun HubM.access := fun h => ⟨Hub.Calm.refl h, by simp [exec_access]⟩

theorem now' : CalmRun HubM.now := fun h => ⟨Hub.Calm.refl h, by simp [exec_now]⟩

theorem conn?' (c : ConnId) : CalmRun (HubM.conn? c) := fun h => ⟨Hub.Calm.refl h, by simp [exec_conn?]⟩

theorem setAccess' (a : Access) : CalmRun (HubM.setAccess a) :=
  fun h => ⟨Hub.calm_of_conns rfl rfl, by simp [exec_setAccess]⟩

theorem forIn' {α β : Type} (xs : List α) (b : β) {f : α → β → HubM (ForInStep β)}
    (hf : ∀ a b, CalmRun (f a b)) : CalmRun (forIn xs b f) := by
  induction xs generalizing b with
  | nil => exact pure' b
  | cons x xs ih =>
    rw [List.forIn_cons]
    refine bind (hf x b) fun s => ?_
    cases s with
    | done b' => exact pure' b'
    | yield b' => exact ih b'

end CalmRun

end HubM

open HubM

/-! ## The handlers' steps -/

theorem decodeRequest_calm {α : Type} (r : Except String α) : CalmRun (decodeRequest r) := by
  cases r with
  | ok a => exact .pure' a
  | error m => exact .throw' trivial

theorem tell_calm (c : ConnId) (err : RealtimeError) (ctx : Json.Fields) : CalmRun (tell c err ctx) :=
  .step' fun h => Hub.calm_reject h c err ctx

theorem deliver_calm (c : ConnId) (tag : EventTag) (payload : Json) : CalmRun (deliver c tag payload) :=
  .step' fun h => Hub.calm_sendEvent h c tag payload

theorem findOrStartConversation_calm (a b : UserId) (at_ : Time.Instant) :
    CalmRun (findOrStartConversation a b at_) := by
  unfold findOrStartConversation
  refine .bind .access' fun acc => .bind (.store' _) fun found => ?_
  rcases found with _ | c
  · refine .bind .access' fun acc => .bind (.store' _) fun p => ?_
    rcases p with ⟨c, acc'⟩
    exact .bind (.setAccess' acc') fun _ => .pure' c
  · exact .pure' c

theorem persistDirect_calm (a b : UserId) (body : String) (at_ : Time.Instant) :
    CalmRun (persistDirect a b body at_) := by
  unfold persistDirect
  refine .bind (findOrStartConversation_calm _ _ _) fun conv => .bind .access' fun acc => ?_
  refine .bind (.store' _) fun p => ?_
  rcases p with ⟨_, acc'⟩
  refine .bind (.setAccess' acc') fun _ => .bind .access' fun acc => .bind (.store' _) fun acc' => ?_
  exact .bind (.setAccess' acc') fun _ => .pure' conv

theorem sendTyping_calm (sender : ConnId) (payload : Json) : CalmRun (sendTyping sender payload) := by
  unfold sendTyping
  refine .bind (decodeRequest_calm _) fun req => .bind (.conn?' _) fun o => ?_
  rcases o with _ | conn
  · exact .pure' false
  · dsimp only
    split
    · exact .bind (tell_calm _ _ _) fun _ => .pure' false
    · refine .bind (.step' fun h => Hub.Calm.refl h) fun o => ?_
      rcases o with _ | rc
      · exact .pure' false
      · exact deliver_calm _ _ _

theorem deliverToMember_calm (event note : Json) (d : GroupDelivery) (m : UserId) :
    CalmRun (deliverToMember event note d m) := by
  refine .step' fun h => ?_
  dsimp only
  split
  · exact Hub.calm_sendEvent ..
  · have := Hub.calm_createAndPush h m NotificationKind.groupMessage.tag note
    split <;> simp_all

theorem sendGroup_calm (sender : ConnId) (payload : Json) : CalmRun (sendGroup sender payload) := by
  unfold sendGroup
  refine .bind (decodeRequest_calm _) fun req => .bind (.conn?' _) fun o => ?_
  rcases o with _ | conn
  · exact .pure' _
  · dsimp only
    split
    · refine .bind (.forIn' _ _ fun x _ => ?_) fun _ => .pure' _
      rcases x with ⟨field, message⟩
      exact .bind (tell_calm _ _ _) fun _ => .pure' _
    · refine .bind .access' fun acc => .bind (.store' _) fun member => ?_
      split
      · exact .bind (tell_calm _ _ _) fun _ => .pure' _
      · refine .bind .now' fun at_ => .bind .access' fun acc => .bind (.store' _) fun p => ?_
        rcases p with ⟨_, acc'⟩
        refine .bind (.setAccess' acc') fun _ => .bind .access' fun acc => ?_
        refine .bind (.store' _) fun ms => .bind (.forIn' _ _ fun m d => ?_) fun _ => .pure' _
        split
        · exact .bind (deliverToMember_calm _ _ _ _) fun _ => .pure' _
        · exact .pure' _

/-! ## The session check of `send_message` -/

theorem exec_revokeSender (s : ConnId) (h : Hub) :
    (revokeSender s).exec h = (.ok (), ((h.closeConn s .policyViolation).2.unregister s).2) := rfl

/-- The session check answers the user when the token names the sender's own user, fails with
the store's error, and otherwise revokes the sender and answers `invalidSession`. -/
theorem revalidate_exec (s : ConnId) (conn : Connection) (token : String) (h : Hub) :
    (revalidate s conn token).exec h = match h.access.validateSession token with
      | .error e => (.error (.store e), h)
      | .ok (some u) =>
        if u.id = conn.user then (.ok u, h) else (.error .invalidSession, ((revokeSender s).exec h).2)
      | .ok none => (.error .invalidSession, ((revokeSender s).exec h).2) := by
  unfold revalidate
  rw [exec_bind, exec_access]
  dsimp only
  rw [exec_bind]
  cases h.access.validateSession token with
  | error e => rfl
  | ok found =>
    rcases found with _ | u
    · simp [exec_bind, exec_revokeSender]
    · by_cases hu : u.id = conn.user
      · simp [hu]
      · simp [hu, exec_bind, exec_revokeSender]

/-- A run of `m` from `h` is calm with a routine error at most, or it revoked the sender `s`
and failed with `invalidSession`. -/
def CalmOrRevoke {α : Type} (s : ConnId) (m : HubM α) (h : Hub) : Prop :=
  (Hub.Calm h (m.exec h).2 ∧ ∀ e, (m.exec h).1 = .error e → e.Routine) ∨
    ((m.exec h).1 = .error .invalidSession ∧ (m.exec h).2 = ((revokeSender s).exec h).2)

theorem postDirect_calm (s : ConnId) (author receiver : UserId) (body : String)
    (rc : Option ConnId) : CalmRun (postDirect s author receiver body rc) := by
  unfold postDirect
  refine .bind .now' fun sentAt => .bind (persistDirect_calm _ _ _ _) fun conv => ?_
  extract_lets event note rest
  -- the sender's copy and the handed-off notification, after the receiver's copy if any
  have hrest : ∀ u, CalmRun (rest u) := fun _ =>
    .bind (deliver_calm _ _ _) fun _ => .step' fun h => Hub.calm_of_conns rfl rfl
  split
  · exact .bind (deliver_calm _ _ _) fun _ => hrest ()
  · exact hrest ()

theorem sendAs_calm (s : ConnId) (req : SendMessage) (user : User) :
    CalmRun (sendAs s req user) := by
  unfold sendAs
  refine .bind .now' fun now => .bind (.step' fun h => Hub.calm_markValidated h s now) fun _ => ?_
  extract_lets context v receiver
  split
  · refine .bind (.forIn' _ _ fun x _ => ?_) fun _ => .pure' _
    rcases x with ⟨field, message⟩
    exact .bind (tell_calm _ _ _) fun _ => .pure' _
  split
  · exact .bind (tell_calm _ _ _) fun _ => .pure' _
  refine .bind .access' fun acc => .bind (.store' _) fun ok => ?_
  split
  · exact .bind (tell_calm _ _ _) fun _ => .pure' _
  refine .bind (.step' fun h => Hub.Calm.refl h) fun receiverConn => ?_
  extract_lets post
  split
  · exact .bind (tell_calm _ _ _) fun _ => postDirect_calm _ _ _ _ _
  · exact postDirect_calm _ _ _ _ _

/-- `send_message` is calm unless its session check revokes the sender. -/
theorem sendDirect_exec (s : ConnId) (p : Json) (h : Hub) : CalmOrRevoke s (sendDirect s p) h := by
  unfold sendDirect CalmOrRevoke
  rw [exec_bind]
  cases SendMessage.decode p with
  | error m => exact .inl ⟨Hub.Calm.refl h, by simp [decodeRequest, RealtimeError.Routine]⟩
  | ok req =>
    simp only [decodeRequest, exec_pure]
    rw [exec_bind, exec_conn?]
    cases h.conn? s with
    | none => exact .inl (CalmRun.pure' () h)
    | some conn =>
      dsimp only
      rw [exec_bind, revalidate_exec]
      cases h.access.validateSession (req.sessionToken.getD conn.identity.sessionToken) with
      | error e => exact .inl ⟨Hub.Calm.refl h, by simp [RealtimeError.Routine]⟩
      | ok found =>
        rcases found with _ | u
        · exact .inr ⟨rfl, rfl⟩
        · by_cases hu : u.id = conn.user
          · dsimp only
            rw [if_pos hu]
            exact .inl (sendAs_calm s req u h)
          · dsimp only
            rw [if_neg hu]
            exact .inr ⟨rfl, rfl⟩

/-- Routing an event from `s` is calm, or it revoked `s` and failed with `invalidSession`. -/
theorem route_exec (s : ConnId) (tag : String) (p : Json) (h : Hub) :
    CalmOrRevoke s (route s tag p) h := by
  unfold route
  split
  · exact sendDirect_exec s p h
  · exact .inl (CalmRun.bind (sendGroup_calm s p) (fun _ => .pure' ()) h)
  · exact .inl (CalmRun.bind (sendTyping_calm s p) (fun _ => .pure' ()) h)
  · exact .inl (@CalmRun.throw' Unit (.unsupportedEvent tag) trivial h)

end Switchboard
