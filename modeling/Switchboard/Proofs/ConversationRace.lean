import Mathlib.Data.List.Nodup
import Switchboard.Proofs.HandlerRuns
/-!
# Direct conversations under concurrent sends

Storing a direct message takes four store calls, each under the store lock on its own: find
the conversation of the pair, create one when there is none, store the message in it, and
mark it active at the message's time (`persistDirect`, which `persistDirect_exec` shows to be
these calls back to back). Sends made by different connections run concurrently, so their
calls interleave.

A `Flight` is a send between two of its calls and a `Race` is a store with flights in
progress, a scheduler picking which flight calls next. Two interleavings go wrong:

* two flights of one pair both find no conversation before either creates one, and the pair
  ends with two conversations (`two_conversations_of_race`);
* a flight stores its message into a conversation between another flight's message and that
  flight's touch, and the conversation ends marked active at the earlier message's time.

`Race.races` recognises exactly these calls. A schedule making none of them keeps the store sound
(`Sound.step`, `Sound.run`): at most one conversation per pair, every message in the
conversation that a lookup of its pair returns in either order, and every conversation marked
active at its last message's time once no flight is about to touch it
(`conversations_without_races`). Sends made one after another never race
(`raceFree_blocks`).

The store is taken to accept every write: a failing touch would leave the time stale with no
race at all.
-/

namespace Switchboard

open Time

/-! ## The store calls -/

namespace Conversation

theorem between_comm (x : Conversation) (a b : UserId) : x.between a b = x.between b a := by
  simp only [between]
  cases x.first == a <;> cases x.second == b <;> cases x.first == b <;> cases x.second == a <;> rfl

@[simp] theorem between_self (x : Conversation) : x.between x.first x.second = true := by
  simp [between]

end Conversation

namespace Store

/-- How many conversations the store holds between two users, in either order. -/
def pairCount (s : Store) (a b : UserId) : Nat := s.conversations.countP (·.between a b)

def lastSent (s : Store) (c : ConversationId) : Option Instant :=
  ((s.messages.filter (·.conversation == c)).getLast?).map (·.sentAt)

theorem lastSent_eq_none {s : Store} {c : ConversationId} (h : ∀ m ∈ s.messages, m.conversation ≠ c) :
    s.lastSent c = none := by
  have : s.messages.filter (·.conversation == c) = [] :=
    List.filter_eq_nil_iff.2 fun m hm => by simpa using h m hm
  simp [lastSent, this]

theorem lastSent_insert (s : Store) (n : Int) (m : DirectMessage) (c : ConversationId) :
    ({ s with lastId := n, messages := s.messages ++ [m] } : Store).lastSent c =
      if m.conversation = c then some m.sentAt else s.lastSent c := by
  by_cases hc : m.conversation = c <;> simp [lastSent, List.filter_append, List.getLast?_append, hc]

private theorem eq_of_mem_of_length_le_one {α : Type} {l : List α} (hl : l.length ≤ 1) {x y : α}
    (hx : x ∈ l) (hy : y ∈ l) : x = y := by
  match l, hl, hx, hy with
  | [], _, hx, _ => nomatch hx
  | [_], _, hx, hy => rw [List.mem_singleton.1 hx, List.mem_singleton.1 hy]
  | _ :: _ :: _, hl, _, _ => simp at hl

theorem pairCount_comm (s : Store) (a b : UserId) : s.pairCount a b = s.pairCount b a :=
  List.countP_congr fun x _ => by rw [Conversation.between_comm]

theorem pairCount_map (s : Store) {g : Conversation → Conversation}
    (hg : ∀ x a b, (g x).between a b = x.between a b) (a b : UserId) :
    ({ s with conversations := s.conversations.map g } : Store).pairCount a b = s.pairCount a b := by
  simp only [pairCount, List.countP_map, Function.comp_def, hg]

theorem pairCount_of_conversations {s s' : Store} {x : Conversation}
    (h : s'.conversations = s.conversations ++ [x]) (a b : UserId) :
    s'.pairCount a b = s.pairCount a b + if x.between a b = true then 1 else 0 := by
  simp only [pairCount, h, List.countP_append, List.countP_singleton]

theorem findConversation_eq_none {s : Store} {a b : UserId} :
    s.findConversation a b = none ↔ s.pairCount a b = 0 := by
  simp [findConversation, pairCount, List.find?_eq_none, List.countP_eq_zero]

theorem findConversation_eq_some {s : Store} {a b : UserId} {c : ConversationId}
    (h : s.findConversation a b = some c) : ∃ x ∈ s.conversations, x.id = c ∧ x.between a b = true := by
  simp only [findConversation, Option.map_eq_some_iff] at h
  obtain ⟨x, hx, rfl⟩ := h
  have hab := List.find?_some hx
  exact ⟨x, List.mem_of_find?_eq_some hx, rfl, hab⟩

theorem findConversation_of_unique {s : Store} {a b : UserId} (hu : s.pairCount a b ≤ 1)
    {x : Conversation} (hx : x ∈ s.conversations) (hab : x.between a b = true) :
    s.findConversation a b = some x.id := by
  cases hf : s.findConversation a b with
  | none =>
    rw [findConversation_eq_none, pairCount, List.countP_eq_zero] at hf
    exact absurd hab (hf x hx)
  | some c =>
    obtain ⟨y, hy, rfl, hyab⟩ := findConversation_eq_some hf
    -- a second conversation of the pair would count twice
    rw [pairCount, List.countP_eq_length_filter] at hu
    rw [eq_of_mem_of_length_le_one hu (List.mem_filter.2 ⟨hx, hab⟩) (List.mem_filter.2 ⟨hy, hyab⟩)]

variable {s : Store} (hw : s.failing = false)
include hw

theorem createConversation_ok (a b : UserId) (at_ : Instant) :
    s.createConversation a b at_ = .ok (⟨s.lastId + 1⟩,
      { s with lastId := s.lastId + 1, conversations := s.conversations ++ [⟨⟨s.lastId + 1⟩, a, b, at_⟩] }) := by
  simp [createConversation, writable, hw, takeId]

theorem insertMessage_ok {c : ConversationId} (hc : s.conversations.any (·.id == c) = true)
    (sender : UserId) (body : String) (at_ : Instant) :
    s.insertMessage c sender body at_ = .ok (⟨s.lastId + 1⟩,
      { s with lastId := s.lastId + 1, messages := s.messages ++ [⟨⟨s.lastId + 1⟩, c, sender, body, at_⟩] }) := by
  simp [insertMessage, writable, hw, takeId, hc]

theorem touchConversation_ok {c : ConversationId} (hc : s.conversations.any (·.id == c) = true)
    (at_ : Instant) :
    s.touchConversation c at_ = .ok { s with conversations := s.conversations.map fun x =>
      if x.id == c then { x with lastMessageAt := at_ } else x } := by
  simp [touchConversation, writable, hw, hc]

end Store

namespace Access

def Writable (a : Access) : Prop := a.failing = [] ∧ a.store.failing = false

instance (a : Access) : Decidable a.Writable :=
  inferInstanceAs (Decidable (a.failing = [] ∧ a.store.failing = false))

variable {acc : Access} (hw : acc.Writable)
include hw

theorem guard_ok (op : StoreOp) : acc.guard op = .ok () := by
  simp [guard, hw.1]

theorem findConversation_ok (x y : UserId) :
    acc.findConversation x y = .ok (acc.store.findConversation x y) := by
  simp [findConversation, guard_ok hw]

theorem createConversation_ok (x y : UserId) (at_ : Instant) :
    acc.createConversation x y at_ = .ok (⟨acc.store.lastId + 1⟩, { acc with store :=
      { acc.store with lastId := acc.store.lastId + 1,
                       conversations := acc.store.conversations ++ [⟨⟨acc.store.lastId + 1⟩, x, y, at_⟩] } }) := by
  simp [createConversation, guard_ok hw, Store.createConversation_ok hw.2]
  rfl

theorem insertMessage_ok {c : ConversationId} (hc : acc.store.conversations.any (·.id == c) = true)
    (sender : UserId) (body : String) (at_ : Instant) :
    acc.insertMessage c sender body at_ = .ok (⟨acc.store.lastId + 1⟩, { acc with store :=
      { acc.store with lastId := acc.store.lastId + 1,
                       messages := acc.store.messages ++ [⟨⟨acc.store.lastId + 1⟩, c, sender, body, at_⟩] } }) := by
  simp [insertMessage, guard_ok hw, Store.insertMessage_ok hw.2 hc]
  rfl

theorem touchConversation_ok {c : ConversationId} (hc : acc.store.conversations.any (·.id == c) = true)
    (at_ : Instant) :
    acc.touchConversation c at_ = .ok { acc with store := { acc.store with
      conversations := acc.store.conversations.map fun x =>
        if x.id == c then { x with lastMessageAt := at_ } else x } } := by
  simp [touchConversation, guard_ok hw, Store.touchConversation_ok hw.2 hc]
  rfl

end Access

/-! ## Sends in flight -/

namespace ConversationRace

/-- Where a send stands: the store call it makes next, or how it ended. -/
inductive Phase where
  | find
  | create
  | insert (c : ConversationId)
  | touch (c : ConversationId)
  | done (c : ConversationId)
  | failed (e : StoreError)
  deriving DecidableEq

def Phase.outcome : Phase → Option (Except RealtimeError ConversationId)
  | .done c => some (.ok c)
  | .failed e => some (.error (.store e))
  | _ => none

/-- A send of a direct message between two of its store calls. -/
structure Flight where
  sender : UserId
  receiver : UserId
  body : String
  sentAt : Instant
  phase : Phase

namespace Flight

def start (sender receiver : UserId) (body : String) (sentAt : Instant) : Flight :=
  ⟨sender, receiver, body, sentAt, .find⟩

def between (f : Flight) (a b : UserId) : Bool :=
  (f.sender == a && f.receiver == b) || (f.sender == b && f.receiver == a)

/-- The send's next store call, made under the store lock; a call that fails ends it. -/
def call (f : Flight) (a : Access) : Flight × Access :=
  match f.phase with
  | .find =>
    match a.findConversation f.sender f.receiver with
    | .ok (some c) => ({ f with phase := .insert c }, a)
    | .ok none => ({ f with phase := .create }, a)
    | .error e => ({ f with phase := .failed e }, a)
  | .create =>
    match a.createConversation f.sender f.receiver f.sentAt with
    | .ok (c, a') => ({ f with phase := .insert c }, a')
    | .error e => ({ f with phase := .failed e }, a)
  | .insert c =>
    match a.insertMessage c f.sender f.body f.sentAt with
    | .ok (_, a') => ({ f with phase := .touch c }, a')
    | .error e => ({ f with phase := .failed e }, a)
  | .touch c =>
    match a.touchConversation c f.sentAt with
    | .ok a' => ({ f with phase := .done c }, a')
    | .error e => ({ f with phase := .failed e }, a)
  | .done _ | .failed _ => (f, a)

def calls (f : Flight) (a : Access) : Nat → Flight × Access
  | 0 => (f, a)
  | n + 1 => (f.call a).1.calls (f.call a).2 n

/-! What each call does, by the store's answer. -/

section Calls

variable {f : Flight} {a : Access}

theorem call_found {c : ConversationId} (hp : f.phase = .find)
    (h : a.findConversation f.sender f.receiver = .ok (some c)) : f.call a = ({ f with phase := .insert c }, a) := by
  simp [call, hp, h]

theorem call_notFound (hp : f.phase = .find) (h : a.findConversation f.sender f.receiver = .ok none) :
    f.call a = ({ f with phase := .create }, a) := by
  simp [call, hp, h]

theorem call_create {c : ConversationId} {a' : Access} (hp : f.phase = .create)
    (h : a.createConversation f.sender f.receiver f.sentAt = .ok (c, a')) :
    f.call a = ({ f with phase := .insert c }, a') := by
  simp [call, hp, h]

theorem call_insert {c : ConversationId} {m : MessageId} {a' : Access} (hp : f.phase = .insert c)
    (h : a.insertMessage c f.sender f.body f.sentAt = .ok (m, a')) :
    f.call a = ({ f with phase := .touch c }, a') := by
  simp [call, hp, h]

theorem call_touch {c : ConversationId} {a' : Access} (hp : f.phase = .touch c)
    (h : a.touchConversation c f.sentAt = .ok a') : f.call a = ({ f with phase := .done c }, a') := by
  simp [call, hp, h]

theorem call_of_ended (hp : (∃ c, f.phase = .done c) ∨ ∃ e, f.phase = .failed e) : f.call a = (f, a) := by
  rcases hp with ⟨c, hp⟩ | ⟨e, hp⟩ <;> simp [call, hp]

end Calls

end Flight

/-- Storing a direct message is its four store calls made back to back: after them the send
has ended with `persistDirect`'s answer, and the hub holds the store they leave. -/
theorem persistDirect_exec (sender receiver : UserId) (body : String) (sentAt : Instant) (h : Hub) :
    ((Flight.start sender receiver body sentAt).calls h.access 4).1.phase.outcome =
        some ((persistDirect sender receiver body sentAt).exec h).1 ∧
      ((persistDirect sender receiver body sentAt).exec h).2 =
        { h with access := ((Flight.start sender receiver body sentAt).calls h.access 4).2 } := by
  -- one case per answer of each call, in the order the calls are made
  rcases hf : h.access.findConversation sender receiver with e | _ | c
  · simp [persistDirect, findOrStartConversation, HubM.exec_bind, Flight.calls, Flight.call,
      Flight.start, Phase.outcome, hf]
  · rcases hc : h.access.createConversation sender receiver sentAt with e | ⟨c, a₁⟩
    · simp [persistDirect, findOrStartConversation, HubM.exec_bind, Flight.calls, Flight.call,
        Flight.start, Phase.outcome, hf, hc]
    · rcases hi : a₁.insertMessage c sender body sentAt with e | ⟨m, a₂⟩
      · simp [persistDirect, findOrStartConversation, HubM.exec_bind, Flight.calls, Flight.call,
          Flight.start, Phase.outcome, hf, hc, hi]
      · rcases ht : a₂.touchConversation c sentAt with e | a₃
        · simp [persistDirect, findOrStartConversation, HubM.exec_bind, Flight.calls, Flight.call,
            Flight.start, Phase.outcome, hf, hc, hi, ht]
        · simp [persistDirect, findOrStartConversation, HubM.exec_bind, Flight.calls, Flight.call,
            Flight.start, Phase.outcome, hf, hc, hi, ht]
          exact ⟨rfl, rfl⟩
  · rcases hi : h.access.insertMessage c sender body sentAt with e | ⟨m, a₂⟩
    · simp [persistDirect, findOrStartConversation, HubM.exec_bind, Flight.calls, Flight.call,
        Flight.start, Phase.outcome, hf, hi]
    · rcases ht : a₂.touchConversation c sentAt with e | a₃
      · simp [persistDirect, findOrStartConversation, HubM.exec_bind, Flight.calls, Flight.call,
          Flight.start, Phase.outcome, hf, hi, ht]
      · simp [persistDirect, findOrStartConversation, HubM.exec_bind, Flight.calls, Flight.call,
          Flight.start, Phase.outcome, hf, hi, ht]
        exact ⟨rfl, rfl⟩

def creating (fs : List Flight) (a b : UserId) : Nat :=
  fs.countP fun f => f.phase == .create && f.between a b

def touching (fs : List Flight) (c : ConversationId) : Nat :=
  fs.countP (·.phase == .touch c)

/-! ## Interleaved sends -/

/-- Sends in progress over one store; a scheduler picks which send makes its next call. -/
structure Race where
  flights : List Flight
  access : Access

namespace Race

/-- The `i`-th send makes its next call; past the last send there is nothing to do. -/
def step (r : Race) (i : Nat) : Race :=
  match r.flights[i]? with
  | none => r
  | some f => ⟨r.flights.set i (f.call r.access).1, (f.call r.access).2⟩

def run (r : Race) (σ : List Nat) : Race := σ.foldl step r

/-- The `i`-th send's next call races another send: its lookup finds no conversation while
another send of its pair is about to create one, or it stores its message in a conversation
that another send has stored into and not yet marked active. -/
def races (r : Race) (i : Nat) : Bool :=
  match r.flights[i]? with
  | none => false
  | some f =>
    match f.phase with
    | .find =>
      (r.access.store.findConversation f.sender f.receiver).isNone && creating r.flights f.sender f.receiver != 0
    | .insert c => touching r.flights c != 0
    | _ => false

def raceFree (r : Race) : List Nat → Bool
  | [] => true
  | i :: σ => !r.races i && (r.step i).raceFree σ

theorem step_of_get {r : Race} {i : Nat} {f : Flight} (hi : r.flights[i]? = some f) :
    r.step i = ⟨r.flights.set i (f.call r.access).1, (f.call r.access).2⟩ := by
  simp [step, hi]

theorem step_of_none {r : Race} {i : Nat} (hi : r.flights[i]? = none) : r.step i = r := by
  simp [step, hi]

theorem step_of_ended {r : Race} {i : Nat} {f : Flight} (hi : r.flights[i]? = some f)
    (hp : (∃ c, f.phase = .done c) ∨ ∃ e, f.phase = .failed e) : r.step i = r := by
  obtain ⟨hlt, rfl⟩ := List.getElem?_eq_some_iff.1 hi
  rw [step_of_get hi, Flight.call_of_ended hp, List.set_getElem_self]

end Race

theorem countP_set_add {α : Type} {p : α → Bool} {l : List α} {i : Nat} {x : α} (hi : l[i]? = some x)
    (y : α) : (l.set i y).countP p + (if p x then 1 else 0) = l.countP p + (if p y then 1 else 0) := by
  obtain ⟨hlt, rfl⟩ := List.getElem?_eq_some_iff.1 hi
  have hle : (if p l[i] then 1 else 0) ≤ l.countP p := by
    split
    · exact List.countP_pos_iff.2 ⟨_, List.getElem_mem hlt, ‹_›⟩
    · exact Nat.zero_le _
  rw [List.countP_set hlt]
  omega

theorem Flight.between_iff {f : Flight} {a b : UserId} :
    f.between a b = true ↔ (f.sender = a ∧ f.receiver = b) ∨ (f.sender = b ∧ f.receiver = a) := by
  simp [Flight.between]

theorem Flight.between_comm (f : Flight) (a b : UserId) : f.between a b = f.between b a :=
  Bool.or_comm ..

theorem creating_comm (fs : List Flight) (a b : UserId) : creating fs a b = creating fs b a :=
  List.countP_congr fun f _ => by rw [Flight.between_comm]

@[simp] theorem Flight.between_phase (f : Flight) (p : Phase) (a b : UserId) :
    ({ f with phase := p } : Flight).between a b = f.between a b := rfl

@[simp] theorem Flight.between_created (f : Flight) (c : ConversationId) (t : Instant) (a b : UserId) :
    (⟨c, f.sender, f.receiver, t⟩ : Conversation).between a b = f.between a b := rfl

theorem Flight.pairCount_eq {f : Flight} {a b : UserId} (hab : f.between a b = true) (s : Store) :
    s.pairCount a b = s.pairCount f.sender f.receiver := by
  rcases Flight.between_iff.1 hab with ⟨rfl, rfl⟩ | ⟨rfl, rfl⟩
  · rfl
  · exact s.pairCount_comm _ _

theorem Flight.creating_eq {f : Flight} {a b : UserId} (hab : f.between a b = true) (fs : List Flight) :
    creating fs a b = creating fs f.sender f.receiver := by
  rcases Flight.between_iff.1 hab with ⟨rfl, rfl⟩ | ⟨rfl, rfl⟩
  · rfl
  · exact creating_comm _ _ _

/-- A store with at most one conversation per pair, its conversation ids drawn from the
counter, each message in a conversation, and each conversation marked active at its last
message's time. -/
structure StoreSound (s : Store) : Prop where
  ids : ∀ x ∈ s.conversations, x.id.val ≤ s.lastId
  idsNodup : (s.conversations.map (·.id)).Nodup
  unique : ∀ a b, s.pairCount a b ≤ 1
  placed : ∀ m ∈ s.messages, ∃ x ∈ s.conversations, x.id = m.conversation
  last : ∀ x ∈ s.conversations, ∀ t, s.lastSent x.id = some t → x.lastMessageAt = t

/-- What a store with sends in flight keeps as long as no call races. -/
structure Sound (r : Race) : Prop where
  writable : r.access.Writable
  /-- Conversation ids come from the counter, once each. -/
  ids : ∀ x ∈ r.access.store.conversations, x.id.val ≤ r.access.store.lastId
  idsNodup : (r.access.store.conversations.map (·.id)).Nodup
  /-- A pair has at most one conversation, counting one a send is about to create. -/
  uniq : ∀ a b, r.access.store.pairCount a b + creating r.flights a b ≤ 1
  /-- A send about to store or mark holds a conversation of its pair. -/
  refs : ∀ f ∈ r.flights, ∀ c, f.phase = .insert c ∨ f.phase = .touch c →
    ∃ x ∈ r.access.store.conversations, x.id = c ∧ x.between f.sender f.receiver = true
  placed : ∀ m ∈ r.access.store.messages, ∃ x ∈ r.access.store.conversations, x.id = m.conversation
  /-- Per conversation, at most one send is between its message and its mark, ... -/
  touchers : ∀ c, touching r.flights c ≤ 1
  /-- ... and its message is the conversation's last. -/
  touchLast : ∀ f ∈ r.flights, ∀ c, f.phase = .touch c → r.access.store.lastSent c = some f.sentAt
  /-- A conversation no send is about to mark is marked at its last message's time. -/
  last : ∀ x ∈ r.access.store.conversations, touching r.flights x.id = 0 →
    ∀ t, r.access.store.lastSent x.id = some t → x.lastMessageAt = t

theorem Sound.start {fs : List Flight} {a : Access} (hw : a.Writable) (hs : StoreSound a.store)
    (hfresh : ∀ f ∈ fs, f.phase = .find) : Sound ⟨fs, a⟩ := by
  have hcreating : ∀ x y, creating fs x y = 0 := fun x y =>
    List.countP_eq_zero.2 fun f hf => by simp [hfresh f hf]
  have htouching : ∀ c, touching fs c = 0 := fun c =>
    List.countP_eq_zero.2 fun f hf => by simp [hfresh f hf]
  refine ⟨hw, hs.ids, hs.idsNodup, fun x y => ?_, fun f hf c hc => ?_, hs.placed, fun c => ?_,
    fun f hf c hc => ?_, fun x hx _ => hs.last x hx⟩
  · rw [hcreating]
    exact hs.unique x y
  · rcases hc with hc | hc <;> simp [hfresh f hf] at hc
  · rw [htouching]
    exact Nat.zero_le _
  · simp [hfresh f hf] at hc

/-! ### Each call keeps the race sound -/

section Step

variable {r : Race} {i : Nat} {f : Flight}

theorem mem_set_flights {f' g : Flight} (hg : g ∈ r.flights.set i f') : g ∈ r.flights ∨ g = f' :=
  List.mem_or_eq_of_mem_set hg

theorem creating_set (hi : r.flights[i]? = some f) (f' : Flight) (a b : UserId) :
    creating (r.flights.set i f') a b + (if f.phase = .create ∧ f.between a b then 1 else 0) =
      creating r.flights a b + (if f'.phase = .create ∧ f'.between a b then 1 else 0) := by
  have := countP_set_add (p := fun g => g.phase == .create && g.between a b) hi f'
  simpa [creating] using this

theorem touching_set (hi : r.flights[i]? = some f) (f' : Flight) (c : ConversationId) :
    touching (r.flights.set i f') c + (if f.phase = .touch c then 1 else 0) =
      touching r.flights c + (if f'.phase = .touch c then 1 else 0) := by
  have := countP_set_add (p := fun g => g.phase == .touch c) hi f'
  simpa [touching] using this

theorem Sound.swap (hs : Sound r) (hi : r.flights[i]? = some f) {f' : Flight}
    (hcr : f.phase ≠ .create) (hcr' : f'.phase ≠ .create)
    (htc : ∀ c, f.phase ≠ .touch c) (htc' : ∀ c, f'.phase ≠ .touch c)
    (href : ∀ c, f'.phase = .insert c →
      ∃ x ∈ r.access.store.conversations, x.id = c ∧ x.between f'.sender f'.receiver = true) :
    Sound ⟨r.flights.set i f', r.access⟩ := by
  have hcreating : ∀ a b, creating (r.flights.set i f') a b = creating r.flights a b := by
    intro a b
    simpa [hcr, hcr'] using creating_set hi f' a b
  have htouching : ∀ c, touching (r.flights.set i f') c = touching r.flights c := by
    intro c
    simpa [htc c, htc' c] using touching_set hi f' c
  refine ⟨hs.writable, hs.ids, hs.idsNodup, fun a b => ?_, fun g hg c hc => ?_, hs.placed,
    fun c => ?_, fun g hg c hc => ?_, fun x hx h0 => ?_⟩
  · rw [hcreating]
    exact hs.uniq a b
  · rcases mem_set_flights hg with hg | rfl
    · exact hs.refs g hg c hc
    · rcases hc with hc | hc
      · exact href c hc
      · exact absurd hc (htc' c)
  · rw [htouching]
    exact hs.touchers c
  · rcases mem_set_flights hg with hg | rfl
    · exact hs.touchLast g hg c hc
    · exact absurd hc (htc' c)
  · rw [htouching] at h0
    exact hs.last x hx h0

theorem Sound.notFound (hs : Sound r) (hi : r.flights[i]? = some f) (hp : f.phase = .find)
    (hnone : r.access.store.findConversation f.sender f.receiver = none)
    (hfree : creating r.flights f.sender f.receiver = 0) :
    Sound ⟨r.flights.set i { f with phase := .create }, r.access⟩ := by
  have hcreating : ∀ a b, creating (r.flights.set i { f with phase := .create }) a b =
      creating r.flights a b + (if f.between a b = true then 1 else 0) := by
    intro a b
    simpa [hp] using creating_set hi { f with phase := .create } a b
  have htouching : ∀ c, touching (r.flights.set i { f with phase := .create }) c = touching r.flights c := by
    intro c
    simpa [hp] using touching_set hi { f with phase := .create } c
  refine ⟨hs.writable, hs.ids, hs.idsNodup, fun a b => ?_, fun g hg c hc => ?_, hs.placed,
    fun c => ?_, fun g hg c hc => ?_, fun x hx h0 => ?_⟩
  · rw [hcreating]
    split
    · -- the send's own pair: no conversation yet, and no other send about to create one
      rename_i hab
      have hzero := Store.findConversation_eq_none.1 hnone
      have hpair := Flight.pairCount_eq hab r.access.store
      have hcr := Flight.creating_eq hab r.flights
      dsimp only
      omega
    · simpa using hs.uniq a b
  · rcases mem_set_flights hg with hg | rfl
    · exact hs.refs g hg c hc
    · rcases hc with hc | hc <;> cases hc
  · rw [htouching]
    exact hs.touchers c
  · rcases mem_set_flights hg with hg | rfl
    · exact hs.touchLast g hg c hc
    · cases hc
  · rw [htouching] at h0
    exact hs.last x hx h0

theorem Sound.create (hs : Sound r) (hi : r.flights[i]? = some f) (hp : f.phase = .create) :
    Sound (r.step i) := by
  rw [Race.step_of_get hi, Flight.call_create hp
    (Access.createConversation_ok hs.writable f.sender f.receiver f.sentAt)]
  have hcreating := creating_set hi { f with phase := .insert ⟨r.access.store.lastId + 1⟩ }
  have htouching := touching_set hi { f with phase := .insert ⟨r.access.store.lastId + 1⟩ }
  simp only [hp, true_and, reduceCtorEq, false_and, if_false, Nat.add_zero] at hcreating htouching
  -- the counter's next id is no conversation's and no message's
  have hfresh : ∀ x ∈ r.access.store.conversations, x.id ≠ ⟨r.access.store.lastId + 1⟩ := by
    intro x hx hid
    have hle := hs.ids x hx
    have hval : x.id.val = r.access.store.lastId + 1 := by rw [hid]
    omega
  refine ⟨hs.writable, fun x hx => ?_, ?_, fun a b => ?_, fun g hg c hc => ?_, fun m hm => ?_,
    fun c => ?_, fun g hg c hc => ?_, fun x hx h0 => ?_⟩
  · rcases List.mem_append.1 hx with hx | hx
    · exact Int.le_add_one (hs.ids x hx)
    · obtain rfl := List.mem_singleton.1 hx
      exact Int.le_refl _
  · rw [List.map_append]
    refine hs.idsNodup.append (List.nodup_singleton _) fun c hc hc' => ?_
    obtain ⟨x, hx, rfl⟩ := List.mem_map.1 hc
    exact hfresh x hx (List.mem_singleton.1 hc')
  · rw [Store.pairCount_of_conversations rfl]
    have hu := hs.uniq a b
    have hc := hcreating a b
    by_cases hab : f.between a b = true <;>
      simp only [hab, Flight.between_created, reduceIte, Bool.false_eq_true] at hc ⊢ <;> omega
  · rcases mem_set_flights hg with hg | rfl
    · obtain ⟨x, hx, hid, hab⟩ := hs.refs g hg c hc
      exact ⟨x, List.mem_append_left _ hx, hid, hab⟩
    · rcases hc with hc | hc <;> cases hc
      exact ⟨_, List.mem_append_right _ (List.mem_singleton_self _), rfl, Conversation.between_self _⟩
  · obtain ⟨x, hx, hid⟩ := hs.placed m hm
    exact ⟨x, List.mem_append_left _ hx, hid⟩
  · rw [htouching c]
    exact hs.touchers c
  · rcases mem_set_flights hg with hg | rfl
    · exact hs.touchLast g hg c hc
    · cases hc
  · rw [htouching] at h0
    rcases List.mem_append.1 hx with hx | hx
    · exact hs.last x hx h0
    · -- the new conversation has no message
      rw [List.mem_singleton.1 hx]
      intro t ht
      rw [Store.lastSent_eq_none fun m hm hmc => ?_] at ht
      · cases ht
      · obtain ⟨y, hy, hid⟩ := hs.placed m hm
        exact hfresh y hy (hid.trans hmc)

theorem Sound.holds (hs : Sound r) (hf : f ∈ r.flights) {c : ConversationId}
    (hp : f.phase = .insert c ∨ f.phase = .touch c) : r.access.store.conversations.any (·.id == c) = true := by
  obtain ⟨x, hx, hid, -⟩ := hs.refs f hf c hp
  exact List.any_eq_true.2 ⟨x, hx, by simp [hid]⟩

theorem touching_pos {fs : List Flight} {g : Flight} {c : ConversationId} (hg : g ∈ fs)
    (hp : g.phase = .touch c) : 0 < touching fs c :=
  List.countP_pos_iff.2 ⟨g, hg, by simp [hp]⟩

theorem Sound.insert (hs : Sound r) (hi : r.flights[i]? = some f) {c : ConversationId}
    (hp : f.phase = .insert c) (hfree : touching r.flights c = 0) : Sound (r.step i) := by
  have hf := List.mem_of_getElem? hi
  obtain ⟨x₀, hx₀, hid₀, hab₀⟩ := hs.refs f hf c (.inl hp)
  rw [Race.step_of_get hi, Flight.call_insert hp
    (Access.insertMessage_ok hs.writable (hs.holds hf (.inl hp)) f.sender f.body f.sentAt)]
  dsimp only
  have hcreating := creating_set hi { f with phase := .touch c }
  have htouching := touching_set hi { f with phase := .touch c }
  simp only [hp, reduceCtorEq, false_and, reduceIte, Nat.add_zero, Phase.touch.injEq] at hcreating htouching
  refine ⟨hs.writable, fun x hx => Int.le_add_one (hs.ids x hx), hs.idsNodup, fun a b => ?_,
    fun g hg c' hc' => ?_, fun m hm => ?_, fun c' => ?_, fun g hg c' hc' => ?_, fun x hx h0 => ?_⟩
  · rw [hcreating]
    exact hs.uniq a b
  · rcases mem_set_flights hg with hg | rfl
    · exact hs.refs g hg c' hc'
    · rcases hc' with hc' | hc' <;> cases hc'
      exact ⟨x₀, hx₀, hid₀, hab₀⟩
  · rcases List.mem_append.1 hm with hm | hm
    · exact hs.placed m hm
    · rw [List.mem_singleton.1 hm]
      exact ⟨x₀, hx₀, hid₀⟩
  · rw [htouching c']
    have hle := hs.touchers c'
    split
    · rename_i hcc
      subst hcc
      omega
    · omega
  · simp only [Store.lastSent_insert]
    rcases mem_set_flights hg with hg | rfl
    · -- another send about to mark `c'` is not about to mark `c`
      have hne : c ≠ c' := by
        rintro rfl
        exact absurd hfree (Nat.pos_iff_ne_zero.1 (touching_pos hg hc'))
      rw [if_neg hne]
      exact hs.touchLast g hg c' hc'
    · cases hc'
      rw [if_pos rfl]
  · have ht := htouching x.id
    rw [h0] at ht
    split at ht
    · omega
    · rename_i hne
      simp only [Store.lastSent_insert, if_neg hne]
      exact hs.last x hx (by omega)

theorem Sound.touch (hs : Sound r) (hi : r.flights[i]? = some f) {c : ConversationId}
    (hp : f.phase = .touch c) : Sound (r.step i) := by
  have hf := List.mem_of_getElem? hi
  rw [Race.step_of_get hi, Flight.call_touch hp
    (Access.touchConversation_ok hs.writable (hs.holds hf (.inr hp)) f.sentAt)]
  dsimp only
  have hcreating := creating_set hi { f with phase := .done c }
  have htouching := touching_set hi { f with phase := .done c }
  simp only [hp, reduceCtorEq, false_and, reduceIte, Nat.add_zero, Phase.touch.injEq] at hcreating htouching
  -- marking keeps every conversation's id and pair
  have hid : ∀ x : Conversation, (if x.id == c then { x with lastMessageAt := f.sentAt } else x).id = x.id := by
    intro x
    split <;> rfl
  have hbetween : ∀ (x : Conversation) (a b : UserId),
      (if x.id == c then { x with lastMessageAt := f.sentAt } else x).between a b = x.between a b := by
    intro x a b
    split <;> rfl
  refine ⟨hs.writable, fun x hx => ?_, ?_, fun a b => ?_, fun g hg c' hc' => ?_, fun m hm => ?_,
    fun c' => ?_, fun g hg c' hc' => ?_, fun x hx h0 => ?_⟩
  · obtain ⟨y, hy, rfl⟩ := List.mem_map.1 hx
    rw [hid]
    exact hs.ids y hy
  · simpa only [List.map_map, Function.comp_def, hid] using hs.idsNodup
  · rw [Store.pairCount_map _ hbetween, hcreating]
    exact hs.uniq a b
  · rcases mem_set_flights hg with hg | rfl
    · obtain ⟨x, hx, hxc, hab⟩ := hs.refs g hg c' hc'
      exact ⟨_, List.mem_map_of_mem hx, (hid x).trans hxc, (hbetween x _ _).trans hab⟩
    · rcases hc' with hc' | hc' <;> cases hc'
  · obtain ⟨x, hx, hxm⟩ := hs.placed m hm
    exact ⟨_, List.mem_map_of_mem hx, (hid x).trans hxm⟩
  · have hle := hs.touchers c'
    rw [← htouching c'] at hle
    exact Nat.le_trans (Nat.le_add_right _ _) hle
  · rcases mem_set_flights hg with hg | rfl
    · exact hs.touchLast g hg c' hc'
    · cases hc'
  · obtain ⟨y, hy, rfl⟩ := List.mem_map.1 hx
    dsimp only at h0
    rw [hid] at h0 ⊢
    intro t ht
    by_cases hyc : y.id = c
    · -- the conversation just marked: its last message is the send's own
      have hlast := hs.touchLast f hf c hp
      rw [← hyc] at hlast
      have hmark : (if y.id == c then { y with lastMessageAt := f.sentAt } else y).lastMessageAt = f.sentAt := by
        simp [hyc]
      rw [hmark]
      exact Option.some.inj (hlast.symm.trans ht)
    · have ht' := htouching y.id
      rw [if_neg (Ne.symm hyc)] at ht'
      have hkeep : (if y.id == c then { y with lastMessageAt := f.sentAt } else y) = y := by
        simp [hyc]
      rw [hkeep]
      exact hs.last y hy (by omega) t ht

/-- **A call that does not race keeps the race sound.** -/
theorem Sound.step (hs : Sound r) (hrace : r.races i = false) : Sound (r.step i) := by
  cases hi : r.flights[i]? with
  | none =>
    rw [Race.step_of_none hi]
    exact hs
  | some f =>
    have hw := hs.writable
    cases hp : f.phase with
    | find =>
      cases hfind : r.access.store.findConversation f.sender f.receiver with
      | none =>
        rw [Race.step_of_get hi, Flight.call_notFound hp (by rw [Access.findConversation_ok hw, hfind])]
        refine hs.notFound hi hp hfind ?_
        simpa [Race.races, hi, hp, hfind] using hrace
      | some c =>
        rw [Race.step_of_get hi, Flight.call_found hp (by rw [Access.findConversation_ok hw, hfind])]
        refine hs.swap hi (by simp [hp]) (by simp) (fun c' => by simp [hp]) (fun c' => by simp)
          fun c' hc' => ?_
        cases hc'
        exact Store.findConversation_eq_some hfind
    | create => exact hs.create hi hp
    | insert c => exact hs.insert hi hp (by simpa [Race.races, hi, hp] using hrace)
    | touch c => exact hs.touch hi hp
    | done c =>
      rw [Race.step_of_ended hi (.inl ⟨c, hp⟩)]
      exact hs
    | failed e =>
      rw [Race.step_of_ended hi (.inr ⟨e, hp⟩)]
      exact hs

/-- A race stays sound along every schedule none of whose calls races. -/
theorem Sound.run (hs : Sound r) {σ : List Nat} (hfree : r.raceFree σ = true) : Sound (r.run σ) := by
  induction σ generalizing r with
  | nil => exact hs
  | cons i σ ih =>
    simp only [Race.raceFree, Bool.and_eq_true, Bool.not_eq_true'] at hfree
    exact ih (hs.step hfree.1) hfree.2

end Step

/-! ## Schedules without races -/

theorem StoreSound.empty : StoreSound {} where
  ids _ h := nomatch h
  idsNodup := List.nodup_nil
  unique _ _ := Nat.zero_le _
  placed _ h := nomatch h
  last _ h := nomatch h

/-- **Sends that do not race keep one conversation per pair.** Sends starting over a sound
store, scheduled so that no call races, leave at most one conversation per pair; every message
sits in a conversation that a lookup of its pair returns in either order; and every
conversation no send is about to mark is marked active at its last message's time. -/
theorem conversations_without_races (fs : List Flight) (a : Access) (σ : List Nat) (hw : a.Writable)
    (hs : StoreSound a.store) (hfresh : ∀ f ∈ fs, f.phase = .find)
    (hfree : Race.raceFree ⟨fs, a⟩ σ = true) :
    let r := Race.run ⟨fs, a⟩ σ
    (∀ u v, r.access.store.pairCount u v ≤ 1) ∧
    (∀ m ∈ r.access.store.messages, ∃ x ∈ r.access.store.conversations, x.id = m.conversation ∧
      r.access.store.findConversation x.first x.second = some x.id ∧
      r.access.store.findConversation x.second x.first = some x.id) ∧
    (∀ x ∈ r.access.store.conversations, (∀ f ∈ r.flights, f.phase ≠ .touch x.id) →
      ∀ t, r.access.store.lastSent x.id = some t → x.lastMessageAt = t) := by
  intro r
  have hr : Sound r := (Sound.start hw hs hfresh).run hfree
  have hu : ∀ u v, r.access.store.pairCount u v ≤ 1 := fun u v =>
    Nat.le_trans (Nat.le_add_right _ _) (hr.uniq u v)
  refine ⟨hu, fun m hm => ?_, fun x hx hnt => hr.last x hx (List.countP_eq_zero.2 fun f hf => ?_)⟩
  · obtain ⟨x, hx, hid⟩ := hr.placed m hm
    have hswap : x.between x.second x.first = true := by
      rw [Conversation.between_comm]
      exact Conversation.between_self x
    exact ⟨x, hx, hid, Store.findConversation_of_unique (hu _ _) hx (Conversation.between_self x),
      Store.findConversation_of_unique (hu _ _) hx hswap⟩
  · simpa using hnt f hf

def crossedSends : List Flight :=
  [Flight.start ⟨1⟩ ⟨2⟩ "hi bob" ⟨1700000000000⟩, Flight.start ⟨2⟩ ⟨1⟩ "hi alice" ⟨1700000000000⟩]

/-- The two sends one after the other do not race, and leave one conversation per pair. -/
theorem crossed_sends_one_after_another :
    (Access.Writable {} ∧ StoreSound ({} : Access).store ∧ (∀ f ∈ crossedSends, f.phase = .find) ∧
      Race.raceFree ⟨crossedSends, {}⟩ [0, 0, 0, 0, 1, 1, 1, 1] = true) ∧
    ∀ u v, (Race.run ⟨crossedSends, {}⟩ [0, 0, 0, 0, 1, 1, 1, 1]).access.store.pairCount u v ≤ 1 :=
  ⟨⟨by decide, StoreSound.empty, by decide, by decide +kernel⟩,
    (conversations_without_races crossedSends {} _ (by decide) StoreSound.empty (by decide)
      (by decide +kernel)).1⟩

/-- The two sends with their calls alternating: both lookups find no conversation, each send
creates one, and the pair ends with two. The lookup returns the first, though bob's message
sits in the second. -/
theorem two_conversations_of_race :
    let r := Race.run ⟨crossedSends, {}⟩ [0, 1, 0, 1, 0, 1, 0, 1]
    Race.raceFree ⟨crossedSends, {}⟩ [0, 1, 0, 1, 0, 1, 0, 1] = false ∧
      r.access.store.pairCount ⟨1⟩ ⟨2⟩ = 2 ∧
      r.access.store.messages.map (·.conversation) = [⟨1⟩, ⟨2⟩] ∧
      r.access.store.findConversation ⟨2⟩ ⟨1⟩ = some ⟨1⟩ := by
  decide +kernel

/-- bob's later message is stored between alice's message and her mark, and marked first: once
both sends have ended, the conversation is marked at alice's earlier time. -/
theorem stale_mark_of_race :
    let fs := [Flight.start ⟨1⟩ ⟨2⟩ "hi bob" ⟨1700000000000⟩, Flight.start ⟨2⟩ ⟨1⟩ "hi alice" ⟨1700000001000⟩]
    let r := Race.run ⟨fs, {}⟩ [0, 0, 0, 1, 1, 1, 0]
    Race.raceFree ⟨fs, {}⟩ [0, 0, 0, 1, 1, 1, 0] = false ∧
      r.flights.map (·.phase) = [.done ⟨1⟩, .done ⟨1⟩] ∧
      r.access.store.lastSent ⟨1⟩ = some ⟨1700000001000⟩ ∧
      r.access.store.conversations.map (·.lastMessageAt) = [⟨1700000000000⟩] := by
  decide +kernel

/-! ## Sends one after another -/

def Phase.left : Phase → Nat
  | .find => 4
  | .create => 3
  | .insert _ => 2
  | .touch _ => 1
  | .done _ | .failed _ => 0

def Phase.idle : Phase → Bool
  | .find | .done _ | .failed _ => true
  | _ => false

theorem Phase.left_le (p : Phase) : p.left ≤ 4 := by
  cases p <;> simp [Phase.left]

theorem Phase.idle_of_left {p : Phase} (h : p.left = 0) : p.idle = true := by
  cases p <;> simp_all [Phase.left, Phase.idle]

theorem Flight.left_call (f : Flight) (a : Access) : (f.call a).1.phase.left ≤ f.phase.left - 1 := by
  unfold Flight.call
  split <;> (try split) <;> simp_all [Phase.left]

namespace Race

variable {r : Race} {i j : Nat}

def leftAt (r : Race) (i : Nat) : Nat := (r.flights[i]?).elim 0 (·.phase.left)

theorem leftAt_le (r : Race) (i : Nat) : r.leftAt i ≤ 4 := by
  cases hi : r.flights[i]? with
  | none => simp [leftAt, hi]
  | some f => simpa [leftAt, hi] using Phase.left_le f.phase

theorem get_step_ne (hji : j ≠ i) : (r.step i).flights[j]? = r.flights[j]? := by
  cases hi : r.flights[i]? with
  | none => rw [step_of_none hi]
  | some f => rw [step_of_get hi, List.getElem?_set_ne (Ne.symm hji)]

theorem leftAt_step : (r.step i).leftAt i ≤ r.leftAt i - 1 := by
  cases hi : r.flights[i]? with
  | none => simp [step_of_none hi, leftAt, hi]
  | some f =>
    obtain ⟨hlt, -⟩ := List.getElem?_eq_some_iff.1 hi
    simp only [leftAt, step_of_get hi, List.getElem?_set_self hlt, hi, Option.elim]
    exact Flight.left_call f r.access

theorem races_of_idle (hidle : ∀ j g, j ≠ i → r.flights[j]? = some g → g.phase.idle = true) :
    r.races i = false := by
  cases hi : r.flights[i]? with
  | none => simp [races, hi]
  | some f =>
    -- besides the `i`-th send, only idle ones: none creates and none is about to mark
    have hmem : ∀ g ∈ r.flights, g.phase.idle = true ∨ g = f := by
      intro g hg
      obtain ⟨j, hj⟩ := List.mem_iff_getElem?.1 hg
      by_cases hji : j = i
      · subst hji
        exact .inr (Option.some.inj (hj.symm.trans hi))
      · exact .inl (hidle j g hji hj)
    cases hp : f.phase with
    | find =>
      have hc : creating r.flights f.sender f.receiver = 0 := List.countP_eq_zero.2 fun g hg => by
        rcases hmem g hg with hg | rfl
        · cases hg' : g.phase <;> simp_all [Phase.idle]
        · simp [hp]
      simp [races, hi, hp, hc]
    | insert c =>
      have hc : touching r.flights c = 0 := List.countP_eq_zero.2 fun g hg => by
        rcases hmem g hg with hg | rfl
        · cases hg' : g.phase <;> simp_all [Phase.idle]
        · simp [hp]
      simp [races, hi, hp, hc]
    | create | touch _ | done _ | failed _ => simp [races, hi, hp]

theorem raceFree_append (r : Race) (σ τ : List Nat) :
    r.raceFree (σ ++ τ) = (r.raceFree σ && (r.run σ).raceFree τ) := by
  induction σ generalizing r with
  | nil => simp [raceFree, run]
  | cons i σ ih => simp [raceFree, run, ih, Bool.and_assoc]

theorem run_cons (r : Race) (i : Nat) (σ : List Nat) : r.run (i :: σ) = (r.step i).run σ := rfl

theorem raceFree_replicate (hidle : ∀ j g, j ≠ i → r.flights[j]? = some g → g.phase.idle = true)
    (n : Nat) : r.raceFree (List.replicate n i) = true ∧
      (∀ j, j ≠ i → (r.run (List.replicate n i)).flights[j]? = r.flights[j]?) ∧
      (r.run (List.replicate n i)).leftAt i ≤ r.leftAt i - n := by
  induction n generalizing r with
  | zero => simp [raceFree, run]
  | succ n ih =>
    have hidle' : ∀ j g, j ≠ i → (r.step i).flights[j]? = some g → g.phase.idle = true := by
      intro j g hji hj
      rw [get_step_ne hji] at hj
      exact hidle j g hji hj
    obtain ⟨hfree, hframe, hleft⟩ := ih hidle'
    refine ⟨?_, fun j hji => ?_, ?_⟩
    · simp [List.replicate_succ, raceFree, races_of_idle hidle, hfree]
    · rw [List.replicate_succ, run_cons, hframe j hji, get_step_ne hji]
    · rw [List.replicate_succ, run_cons]
      have := leftAt_step (r := r) (i := i)
      omega

end Race

/-- **Sends made one after another never race.** Over idle sends, a schedule giving each send
it picks four calls in a row, enough for any send to end, makes no racing call. -/
theorem raceFree_blocks (r : Race) (is : List Nat) (hidle : ∀ f ∈ r.flights, f.phase.idle = true) :
    r.raceFree (is.flatMap fun i => List.replicate 4 i) = true := by
  induction is generalizing r with
  | nil => rfl
  | cons i is ih =>
    have hget : ∀ (j : Nat) (g : Flight), r.flights[j]? = some g → g.phase.idle = true := fun j g hj =>
      hidle g (List.mem_of_getElem? hj)
    obtain ⟨hfree, hframe, hleft⟩ := Race.raceFree_replicate (fun j g _ => hget j g) 4
    rw [List.flatMap_cons, Race.raceFree_append, hfree, Bool.true_and]
    refine ih _ fun g hg => ?_
    obtain ⟨j, hj⟩ := List.mem_iff_getElem?.1 hg
    by_cases hji : j = i
    · -- four calls have ended the `i`-th send
      subst hji
      have hle : (r.run (List.replicate 4 j)).leftAt j = 0 := by
        have := r.leftAt_le j
        omega
      simp only [Race.leftAt, hj, Option.elim] at hle
      exact Phase.idle_of_left hle
    · rw [hframe j hji] at hj
      exact hget j g hj

end ConversationRace

end Switchboard
