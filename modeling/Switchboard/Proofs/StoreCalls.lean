import Switchboard.Proofs.GroupMessage
/-!
# The store along any history of calls

The store is driven by three kinds of call: seeding it (users, sessions, follows, group
members), switching its writes off and on, and the calls of the interface the realtime core
uses. `Store.call` makes one call and answers what the interface answers; `Store.run` makes a
history of calls in order. What one call can do is said once, by `Effect`: fail and leave the
store as it was, answer without touching the counter or the rows that carry ids, or add one row
under the next id. Along every history from the empty store (`Trail`):

* the ids that creations hand out are 1, 2, 3, ... in the order they are handed out, and the
  rows of conversations, direct and group messages and notifications carry exactly these ids,
  each once;
* every direct message is in a conversation the store has;
* the notifications are the ones the answers created, in order, none read, so those of a user
  come newest first with strictly decreasing ids.

A write fails exactly while writes are off, or when it needs a conversation the store does not
have, and then leaves the store as it was, taking no id (`call_error_iff`, `call_error_keeps`).
The lookup of a conversation ignores the order of the pair, and finds one exactly when the pair
has one (`findConversation_comm`, `findConversation_isSome`). Main statement,
`store_after_calls`.

The counter here is an integer; the store's own is a 64-bit one, which only `2^63` creations
would exhaust.
-/

namespace Switchboard

open Time

namespace Store

/-! ## Calls and answers -/

/-- A call on the store: seeding it, switching its writes off or on, or a call of the interface
the realtime core uses. -/
inductive Call where
  | addUser (u : User)
  | openSession (token : String) (u : UserId)
  | revokeSession (token : String)
  | follow (follower followee : UserId)
  | addGroupMember (g : GroupId) (u : UserId)
  | setFailing (on : Bool)
  | validateSession (token : String)
  | canMessage (sender receiver : UserId)
  | isGroupMember (g : GroupId) (u : UserId)
  | groupMemberIds (g : GroupId)
  | findConversation (a b : UserId)
  | createConversation (a b : UserId) (at_ : Instant)
  | touchConversation (c : ConversationId) (at_ : Instant)
  | insertMessage (c : ConversationId) (sender : UserId) (body : String) (at_ : Instant)
  | insertGroupMessage (g : GroupId) (sender : UserId) (body : String) (at_ : Instant)
  | createNotification (u : UserId) (kind : String) (payload : Json) (now : Instant)
  | notificationsFor (u : UserId)

def Call.writes : Call → Bool
  | .createConversation .. | .touchConversation .. | .insertMessage .. | .insertGroupMessage ..
  | .createNotification .. => true
  | _ => false

def Call.needs? : Call → Option ConversationId
  | .touchConversation c _ | .insertMessage c .. => some c
  | _ => none

/-- What a call answers. -/
inductive Reply where
  | done
  | user (u : Option User)
  | flag (b : Bool)
  | members (us : List UserId)
  | found (c : Option ConversationId)
  | conversation (c : ConversationId)
  | message (m : MessageId)
  | notification (n : Notification)
  | notifications (ns : List Notification)

def Reply.issued : Reply → Option Int
  | .conversation c => some c.val
  | .message m => some m.val
  | .notification n => some n.id.val
  | _ => none

def Reply.created? : Reply → Option Notification
  | .notification n => some n
  | _ => none

/-- A write's answer and the store after it; a failed write leaves the store as it was. -/
def write {α : Type} (s : Store) (r : Except StoreError (α × Store)) (reply : α → Reply) :
    Except StoreError Reply × Store :=
  match r with
  | .ok (a, s') => (.ok (reply a), s')
  | .error e => (.error e, s)

/-- Makes one call: its answer, and the store after it. -/
def call (s : Store) : Call → Except StoreError Reply × Store
  | .addUser u => (.ok .done, s.addUser u)
  | .openSession token u => (.ok .done, s.openSession token u)
  | .revokeSession token => (.ok .done, s.revokeSession token)
  | .follow a b => (.ok .done, s.follow a b)
  | .addGroupMember g u => (.ok .done, s.addGroupMember g u)
  | .setFailing on => (.ok .done, s.setFailing on)
  | .validateSession token => (.ok (.user (s.validateSession token)), s)
  | .canMessage a b => (.ok (.flag (s.canMessage a b)), s)
  | .isGroupMember g u => (.ok (.flag (s.isGroupMember g u)), s)
  | .groupMemberIds g => (.ok (.members (s.groupMemberIds g)), s)
  | .findConversation a b => (.ok (.found (s.findConversation a b)), s)
  | .createConversation a b at_ => s.write (s.createConversation a b at_) .conversation
  | .touchConversation c at_ => s.write ((s.touchConversation c at_).map ((), ·)) fun _ => .done
  | .insertMessage c sender body at_ => s.write (s.insertMessage c sender body at_) .message
  | .insertGroupMessage g sender body at_ => s.write (s.insertGroupMessage g sender body at_) .message
  | .createNotification u kind payload now =>
    s.write (s.createNotification u kind payload now) .notification
  | .notificationsFor u => (.ok (.notifications (s.notificationsFor u)), s)

def run (s : Store) (calls : List Call) : List (Except StoreError Reply) × Store :=
  calls.foldl (fun acc c => (acc.1 ++ [(acc.2.call c).1], (acc.2.call c).2)) ([], s)

theorem run_snoc (s : Store) (calls : List Call) (c : Call) :
    s.run (calls ++ [c]) =
      ((s.run calls).1 ++ [((s.run calls).2.call c).1], ((s.run calls).2.call c).2) := by
  simp [run, List.foldl_append]

def issued (rs : List (Except StoreError Reply)) : List Int :=
  (rs.filterMap Except.toOption).filterMap Reply.issued

def created (rs : List (Except StoreError Reply)) : List Notification :=
  (rs.filterMap Except.toOption).filterMap Reply.created?

@[simp] theorem issued_nil : issued [] = [] := rfl

@[simp] theorem issued_append (rs rs' : List (Except StoreError Reply)) :
    issued (rs ++ rs') = issued rs ++ issued rs' := by
  simp [issued, List.filterMap_append]

@[simp] theorem issued_error (e : StoreError) : issued [.error e] = [] := rfl

@[simp] theorem issued_ok (r : Reply) : issued [.ok r] = r.issued.toList := by
  cases h : r.issued <;> simp [issued, Except.toOption, h]

@[simp] theorem created_nil : created [] = [] := rfl

@[simp] theorem created_append (rs rs' : List (Except StoreError Reply)) :
    created (rs ++ rs') = created rs ++ created rs' := by
  simp [created, List.filterMap_append]

@[simp] theorem created_error (e : StoreError) : created [.error e] = [] := rfl

@[simp] theorem created_ok (r : Reply) : created [.ok r] = r.created?.toList := by
  cases h : r.created? <;> simp [created, Except.toOption, h]

theorem Reply.created?_of_issued {r : Reply} (h : r.issued = none) : r.created? = none := by
  cases r <;> simp_all [Reply.issued, Reply.created?]

theorem created_ids_sublist (rs : List (Except StoreError Reply)) :
    ((created rs).map (·.id.val)).Sublist (issued rs) := by
  induction rs with
  | nil => simp
  | cons r rs ih =>
    rw [← List.singleton_append, created_append, issued_append, List.map_append]
    refine List.Sublist.append ?_ ih
    rcases r with e | (_ | _ | _ | _ | _ | _ | _ | n | _) <;>
      simp [Reply.created?, Reply.issued]

/-- The ids on the rows that carry one: conversations, direct and group messages, notifications. -/
def rowIds (s : Store) : List Int :=
  s.conversations.map (·.id.val) ++ s.messages.map (·.id.val) ++ s.groupMessages.map (·.id.val) ++
    s.notifications.map (·.id.val)

/-- Why a call fails: it writes while writes are off, or, with writes on, it needs a conversation
the store does not have; the error says which. -/
def Call.FailsWith (c : Call) (s : Store) (e : StoreError) : Prop :=
  c.writes = true ∧
    (s.failing = true ∧ e = unavailable ∨
      s.failing = false ∧ ∃ conv, c.needs? = some conv ∧ s.conversations.any (·.id == conv) = false ∧
        e = conversationNotFound conv)

/-! ## What one call does -/

theorem perm_snoc_middle {α : Type} (l₁ l₂ : List α) (a : α) :
    (l₁ ++ [a] ++ l₂).Perm (l₁ ++ l₂ ++ [a]) := by
  simpa using List.perm_middle.trans (List.perm_append_singleton a (l₁ ++ l₂)).symm

/-- What a call `c` can do to the store: fail for a cause and leave it as it was; answer without
touching the counter, the conversations' ids or the other rows that carry ids; or add one row
under the next id, a direct message only to a conversation the store has, a notification
unread. -/
inductive Effect (s : Store) (c : Call) : Except StoreError Reply → Store → Prop where
  | failed (e : StoreError) (hcause : c.FailsWith s e) : Effect s c (.error e) s
  | kept {reply : Reply} {s' : Store} (hid : reply.issued = none) (hlast : s'.lastId = s.lastId)
      (hconv : s'.conversations.map (·.id) = s.conversations.map (·.id))
      (hmsg : s'.messages = s.messages) (hgroup : s'.groupMessages = s.groupMessages)
      (hnote : s'.notifications = s.notifications) : Effect s c (.ok reply) s'
  | conversation (a b : UserId) (at_ : Instant) :
      Effect s c (.ok (.conversation ⟨s.lastId + 1⟩))
        { s with lastId := s.lastId + 1,
                 conversations := s.conversations ++ [⟨⟨s.lastId + 1⟩, a, b, at_⟩] }
  | message (conv : ConversationId) (sender : UserId) (body : String) (at_ : Instant)
      (hc : s.conversations.any (·.id == conv) = true) :
      Effect s c (.ok (.message ⟨s.lastId + 1⟩))
        { s with lastId := s.lastId + 1,
                 messages := s.messages ++ [⟨⟨s.lastId + 1⟩, conv, sender, body, at_⟩] }
  | groupMessage (g : GroupId) (sender : UserId) (body : String) (at_ : Instant) :
      Effect s c (.ok (.message ⟨s.lastId + 1⟩))
        { s with lastId := s.lastId + 1,
                 groupMessages := s.groupMessages ++ [⟨⟨s.lastId + 1⟩, g, sender, body, at_⟩] }
  | notification (u : UserId) (kind : String) (payload : Json) (now : Instant) :
      Effect s c (.ok (.notification ⟨⟨s.lastId + 1⟩, u, kind, payload, false, now⟩))
        { s with lastId := s.lastId + 1,
                 notifications := s.notifications ++ [⟨⟨s.lastId + 1⟩, u, kind, payload, false, now⟩] }

theorem Effect.of_error {s s' : Store} {c : Call} {e : StoreError} (h : Effect s c (.error e) s') :
    s' = s ∧ c.FailsWith s e := by
  cases h with
  | failed e hcause => exact ⟨rfl, hcause⟩

theorem Effect.unchanged (s : Store) (c : Call) (reply : Reply) (hid : reply.issued = none) :
    Effect s c (.ok reply) s :=
  .kept hid rfl rfl rfl rfl rfl

/-- While writes are off, every write fails as unavailable before it looks at anything else. -/
theorem call_of_failing {s : Store} (hw : s.failing = true) {c : Call} (hc : c.writes = true) :
    s.call c = (.error unavailable, s) := by
  cases c <;> simp_all [Call.writes, call, write, createConversation, touchConversation, insertMessage,
    insertGroupMessage, createNotification, writable] <;> rfl

/-- With writes on, a write into a conversation the store does not have fails as not found. -/
theorem call_of_unknown {s : Store} (hw : s.failing = false) {c : Call} {conv : ConversationId}
    (hc : c.needs? = some conv) (hconv : s.conversations.any (·.id == conv) = false) :
    s.call c = (.error (conversationNotFound conv), s) := by
  cases c with
  | touchConversation c at_ =>
    obtain rfl : c = conv := by simpa [Call.needs?] using hc
    have : s.touchConversation c at_ = .error (conversationNotFound c) := by
      simp only [touchConversation, writable, hw, hconv]
      rfl
    simp [call, this, write, Except.map]
  | insertMessage c sender body at_ =>
    obtain rfl : c = conv := by simpa [Call.needs?] using hc
    have : s.insertMessage c sender body at_ = .error (conversationNotFound c) := by
      simp only [insertMessage, writable, hw, hconv]
      rfl
    simp [call, this, write]
  | _ => simp [Call.needs?] at hc

theorem effect_of_failing {s : Store} (hw : s.failing = true) {c : Call} (hc : c.writes = true) :
    Effect s c (s.call c).1 (s.call c).2 := by
  rw [call_of_failing hw hc]
  exact .failed _ ⟨hc, .inl ⟨hw, rfl⟩⟩

theorem effect_of_unknown {s : Store} (hw : s.failing = false) {c : Call} (hc : c.writes = true)
    {conv : ConversationId} (hn : c.needs? = some conv) (hconv : s.conversations.any (·.id == conv) = false) :
    Effect s c (s.call c).1 (s.call c).2 := by
  rw [call_of_unknown hw hn hconv]
  exact .failed _ ⟨hc, .inr ⟨hw, conv, hn, hconv, rfl⟩⟩

theorem call_effect (s : Store) (c : Call) : Effect s c (s.call c).1 (s.call c).2 := by
  cases c with
  | addUser u => exact .kept rfl rfl rfl rfl rfl rfl
  | openSession token u => exact .kept rfl rfl rfl rfl rfl rfl
  | revokeSession token => exact .kept rfl rfl rfl rfl rfl rfl
  | follow a b =>
    show Effect s _ (.ok .done) (s.follow a b)
    unfold follow
    split
    · exact .unchanged s _ .done rfl
    · exact .kept rfl rfl rfl rfl rfl rfl
  | addGroupMember g u => exact .kept rfl rfl rfl rfl rfl rfl
  | setFailing on => exact .kept rfl rfl rfl rfl rfl rfl
  | validateSession token => exact .unchanged s _ _ rfl
  | canMessage a b => exact .unchanged s _ _ rfl
  | isGroupMember g u => exact .unchanged s _ _ rfl
  | groupMemberIds g => exact .unchanged s _ _ rfl
  | findConversation a b => exact .unchanged s _ _ rfl
  | notificationsFor u => exact .unchanged s _ _ rfl
  | createConversation a b at_ =>
    cases hw : s.failing
    · rw [call, createConversation_ok hw]
      exact .conversation a b at_
    · exact effect_of_failing hw rfl
  | touchConversation c at_ =>
    cases hw : s.failing
    · cases hc : s.conversations.any (·.id == c)
      · exact effect_of_unknown hw rfl rfl hc
      · rw [call, touchConversation_ok hw hc]
        refine .kept rfl rfl ?_ rfl rfl rfl
        show (s.conversations.map (markActive c at_)).map (·.id) = _
        simp [List.map_map, Function.comp_def]
    · exact effect_of_failing hw rfl
  | insertMessage c sender body at_ =>
    cases hw : s.failing
    · cases hc : s.conversations.any (·.id == c)
      · exact effect_of_unknown hw rfl rfl hc
      · rw [call, insertMessage_ok hw hc]
        exact .message c sender body at_ hc
    · exact effect_of_failing hw rfl
  | insertGroupMessage g sender body at_ =>
    cases hw : s.failing
    · rw [call, insertGroupMessage_ok hw]
      exact .groupMessage g sender body at_
    · exact effect_of_failing hw rfl
  | createNotification u kind payload now =>
    cases hw : s.failing
    · rw [call, createNotification_ok hw]
      exact .notification u kind payload now
    · exact effect_of_failing hw rfl

/-! ## What one call does to each view -/

section Effect

variable {s s' : Store} {c : Call} {r : Except StoreError Reply}

/-- A call hands out no id, or the one after the counter. -/
theorem Effect.issued_next (he : Effect s c r s') : issued [r] = [] ∨ issued [r] = [s.lastId + 1] := by
  cases he <;> simp_all [Reply.issued]

theorem Effect.lastId (he : Effect s c r s') : s'.lastId = s.lastId + (issued [r]).length := by
  cases he <;> simp_all [Reply.issued]

/-- The rows after a call carry the ids of the rows before it and the id it handed out. -/
theorem Effect.rows (he : Effect s c r s') : s'.rowIds.Perm (s.rowIds ++ issued [r]) := by
  cases he with
  | failed e _ => simp
  | kept hid _ hconv hmsg hgroup hnote =>
    have hconv' : s'.conversations.map (·.id.val) = s.conversations.map (·.id.val) := by
      simpa [List.map_map, Function.comp_def] using congrArg (List.map ConversationId.val) hconv
    simp [rowIds, hid, hconv', hmsg, hgroup, hnote]
  | conversation a b at_ =>
    simpa [rowIds, Reply.issued] using perm_snoc_middle (s.conversations.map (·.id.val))
      (s.messages.map (·.id.val) ++ s.groupMessages.map (·.id.val) ++ s.notifications.map (·.id.val))
      (s.lastId + 1)
  | message conv sender body at_ hc =>
    simpa [rowIds, Reply.issued] using perm_snoc_middle
      (s.conversations.map (·.id.val) ++ s.messages.map (·.id.val))
      (s.groupMessages.map (·.id.val) ++ s.notifications.map (·.id.val)) (s.lastId + 1)
  | groupMessage g sender body at_ =>
    simpa [rowIds, Reply.issued] using perm_snoc_middle
      (s.conversations.map (·.id.val) ++ s.messages.map (·.id.val) ++ s.groupMessages.map (·.id.val))
      (s.notifications.map (·.id.val)) (s.lastId + 1)
  | notification u kind payload now => simp [rowIds, Reply.issued]

/-- Every direct message is in a conversation the store has. -/
def Referenced (s : Store) : Prop := ∀ m ∈ s.messages, ∃ x ∈ s.conversations, x.id = m.conversation

/-- A call keeps every direct message in a conversation the store has: conversations keep their
ids, and a message goes only into a conversation the store has. -/
theorem Effect.referenced (he : Effect s c r s') (h : s.Referenced) : s'.Referenced := by
  cases he with
  | failed e _ => exact h
  | kept _ _ hconv hmsg =>
    intro m hm
    obtain ⟨x, hx, hid⟩ := h m (hmsg ▸ hm)
    have : x.id ∈ s'.conversations.map (·.id) := hconv ▸ List.mem_map_of_mem hx
    obtain ⟨y, hy, hyx⟩ := List.mem_map.1 this
    exact ⟨y, hy, hyx.trans hid⟩
  | conversation a b at_ =>
    intro m hm
    obtain ⟨x, hx, hid⟩ := h m hm
    exact ⟨x, List.mem_append_left _ hx, hid⟩
  | message conv sender body at_ hc =>
    intro m hm
    rcases List.mem_append.1 hm with hm | hm
    · exact h m hm
    · obtain ⟨x, hx, hxc⟩ := List.any_eq_true.1 hc
      exact ⟨x, hx, by simp_all⟩
  | groupMessage g sender body at_ => exact h
  | notification u kind payload now => exact h

theorem Effect.notifications (he : Effect s c r s') : s'.notifications = s.notifications ++ created [r] := by
  cases he with
  | failed e _ => simp
  | kept hid _ _ _ _ hnote => simp [hnote, Reply.created?_of_issued hid]
  | conversation a b at_ => simp [Reply.created?]
  | message conv sender body at_ hc => simp [Reply.created?]
  | groupMessage g sender body at_ => simp [Reply.created?]
  | notification u kind payload now => simp [Reply.created?]

theorem Effect.unread (he : Effect s c r s') (h : ∀ n ∈ s.notifications, n.isRead = false) :
    ∀ n ∈ s'.notifications, n.isRead = false := by
  rw [he.notifications]
  rintro n hn
  rcases List.mem_append.1 hn with hn | hn
  · exact h n hn
  · -- the one notification a call creates is created unread
    cases he with
    | failed e _ => simp at hn
    | kept hid => simp [Reply.created?_of_issued hid] at hn
    | conversation => simp [Reply.created?] at hn
    | message => simp [Reply.created?] at hn
    | groupMessage => simp [Reply.created?] at hn
    | notification => simp_all [Reply.created?]

end Effect

/-! ## Failed writes -/

theorem call_error_iff (s : Store) (c : Call) (e : StoreError) :
    (s.call c).1 = .error e ↔ c.FailsWith s e := by
  constructor
  · intro h
    have he := call_effect s c
    rw [h] at he
    exact he.of_error.2
  · rintro ⟨hc, ⟨hw, rfl⟩ | ⟨hw, conv, hn, hconv, rfl⟩⟩
    · rw [call_of_failing hw hc]
    · rw [call_of_unknown hw hn hconv]

theorem call_error_keeps {s : Store} {c : Call} {e : StoreError} (h : (s.call c).1 = .error e) :
    (s.call c).2 = s := by
  have he := call_effect s c
  rw [h] at he
  exact he.of_error.1

/-! ## Along a history from the empty store -/

/-- What holds of the answers of a history from the empty store and of the store after it. -/
structure Trail (rs : List (Except StoreError Reply)) (s : Store) : Prop where
  /-- The ids handed out are 1, 2, 3, ... in order. -/
  consecutive : issued rs = (List.range (issued rs).length).map fun i : Nat => (i : Int) + 1
  /-- The counter stands at the last id handed out. -/
  counter : s.lastId = (issued rs).length
  /-- The rows carry exactly the ids handed out, each once. -/
  rows : s.rowIds.Perm (issued rs)
  referenced : s.Referenced
  /-- The notifications are the ones the answers created, in order, none read. -/
  notifications : s.notifications = created rs
  unread : ∀ n ∈ s.notifications, n.isRead = false

theorem Trail.empty : Trail [] {} where
  consecutive := rfl
  counter := rfl
  rows := List.Perm.refl _
  referenced := fun _ hm => nomatch hm
  notifications := rfl
  unread := fun _ hn => nomatch hn

theorem consecutive_snoc {ids : List Int} (h : ids = (List.range ids.length).map fun i : Nat => (i : Int) + 1) :
    ids ++ [(ids.length : Int) + 1] = (List.range (ids.length + 1)).map fun i : Nat => (i : Int) + 1 := by
  rw [List.range_succ, List.map_append, ← h]
  rfl

theorem Trail.of_effect {rs : List (Except StoreError Reply)} {s s' : Store} {c : Call}
    {r : Except StoreError Reply} (ht : Trail rs s) (he : Effect s c r s') : Trail (rs ++ [r]) s' where
  consecutive := by
    rcases he.issued_next with h | h
    · simpa [h] using ht.consecutive
    · rw [issued_append, h, ht.counter, List.length_append, List.length_singleton]
      exact consecutive_snoc ht.consecutive
  counter := by
    rw [he.lastId, ht.counter, issued_append, List.length_append]
    push_cast
    rfl
  rows := he.rows.trans (by rw [issued_append]; exact ht.rows.append_right _)
  referenced := he.referenced ht.referenced
  notifications := by rw [he.notifications, ht.notifications, created_append]
  unread := he.unread ht.unread

theorem trail_run (calls : List Call) : Trail (({} : Store).run calls).1 (({} : Store).run calls).2 := by
  induction calls using List.reverseRecOn with
  | nil => exact Trail.empty
  | append_singleton calls c ih =>
    rw [run_snoc]
    exact ih.of_effect (call_effect _ c)

section Trail

variable {rs : List (Except StoreError Reply)} {s : Store}

theorem Trail.issued_increasing (ht : Trail rs s) : (issued rs).Pairwise (· < ·) := by
  rw [ht.consecutive]
  exact List.pairwise_map.2 (List.pairwise_lt_range.imp fun h => by omega)

/-- A user's notifications are the ones created for them, newest first: the table keeps them in
the order they were created, which is the order of their ids. -/
theorem Trail.userNotifications (ht : Trail rs s) (u : UserId) :
    s.notificationsFor u = ((created rs).filter (·.user == u)).reverse ∧
      (s.notificationsFor u).Pairwise (fun n n' => n'.id.val < n.id.val) ∧
      ∀ n ∈ s.notificationsFor u, n.isRead = false := by
  have hinc : (created rs).Pairwise (·.id.val < ·.id.val) :=
    List.pairwise_map.1 (ht.issued_increasing.sublist (created_ids_sublist rs))
  refine ⟨by rw [notificationsFor, ht.notifications], ?_, fun n hn => ht.unread n ?_⟩
  · rw [notificationsFor, ht.notifications, List.pairwise_reverse]
    exact hinc.filter _
  · simp only [notificationsFor, List.mem_reverse, List.mem_filter] at hn
    exact hn.1

end Trail

/-! ## Looking up a conversation -/

theorem findConversation_comm (s : Store) (a b : UserId) :
    s.findConversation a b = s.findConversation b a := by
  have : (fun x : Conversation => x.between a b) = fun x => x.between b a :=
    funext fun x => x.between_comm a b
  simp only [findConversation, this]

theorem findConversation_isSome (s : Store) (a b : UserId) :
    (s.findConversation a b).isSome ↔
      ∃ x ∈ s.conversations, x.first = a ∧ x.second = b ∨ x.first = b ∧ x.second = a := by
  simp [findConversation, List.find?_isSome, Conversation.between]

/-! ## Any history of calls -/

/-- Along every history of calls from the empty store: the ids handed out are 1, 2, 3, ... in
order, so distinct, and the rows carry exactly these ids; a call fails exactly when it writes
while writes are off or needs a conversation the store does not have, and then leaves the store
as it was; every direct message is in a conversation of the store; the lookup of a pair ignores
its order and finds a conversation exactly when the pair has one; a user's notifications are the
ones created for them, newest first with strictly decreasing ids, none read. -/
theorem store_after_calls (calls : List Call) :
    let rs := (({} : Store).run calls).1
    let s := (({} : Store).run calls).2
    (issued rs = (List.range (issued rs).length).map (fun i : Nat => (i : Int) + 1) ∧ (issued rs).Nodup ∧
      s.rowIds.Perm (issued rs)) ∧
    (∀ (t : Store) (c : Call) (e : StoreError),
      ((t.call c).1 = .error e ↔ c.FailsWith t e) ∧ ((t.call c).1 = .error e → (t.call c).2 = t)) ∧
    s.Referenced ∧
    (∀ a b, s.findConversation a b = s.findConversation b a ∧
      ((s.findConversation a b).isSome ↔
        ∃ x ∈ s.conversations, x.first = a ∧ x.second = b ∨ x.first = b ∧ x.second = a)) ∧
    (∀ u, s.notificationsFor u = ((created rs).filter (·.user == u)).reverse ∧
      (s.notificationsFor u).Pairwise (fun n n' => n'.id.val < n.id.val) ∧
      ∀ n ∈ s.notificationsFor u, n.isRead = false) := by
  intro rs s
  have ht : Trail rs s := trail_run calls
  refine ⟨⟨ht.consecutive, ht.issued_increasing.imp ne_of_lt, ht.rows⟩,
    fun t c e => ⟨call_error_iff t c e, call_error_keeps⟩, ht.referenced, fun a b => ?_,
    ht.userNotifications⟩
  exact ⟨findConversation_comm s a b, findConversation_isSome s a b⟩

end Store

end Switchboard
