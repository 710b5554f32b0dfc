import Switchboard.Proofs.PresenceFanout
/-!
# Routing by tag, and typing indicators

An inbound event is routed by its tag alone. The tag table is the nine event kinds and their
texts, in both directions (`EventTag.ofTag?_eq_some`); only the three inbound kinds have a
handler, so every other text, the six outbound tags included, is refused as unsupported before
anything is read or written (`route_unsupported`), and each inbound tag runs its own handler.

A typing request is carried by an object whose `receiver_id` is a signed 64-bit integer and whose
`is_typing` is a boolean, or by the two of them in an array (`SendTyping.carried?`). Decoding a
payload gives exactly the request it carries, for every object that names each member once; for
any payload, one that carries none is refused (`SendTyping.decode_eq_ok_iff`,
`SendTyping.carried?_of_decode`).

The typing handler then tells the sender, and only the sender, that it cannot type to itself;
or offers one `new_typing` event to the receiver's connection registered last and answers
whether the queue took it; or, for a receiver with no live connection, does nothing at all.
It never touches the store. Main statement, `dispatch_and_typing`.
-/

namespace Switchboard

open Wire HubM

/-! ## Typing requests in payloads -/

namespace Json

/-- An object names each member once; every other value trivially does. -/
def KeysDistinct : Json → Prop
  | .obj fs => (fs.map Prod.fst).Nodup
  | _ => True

theorem decodeI64_eq_ok {v : Json} {n : Int} : decodeI64 v = .ok n ↔ v = .int n ∧ n ≤ i64Max := by
  cases v with
  | int m =>
    by_cases hm : m > i64Max
    · simp only [decodeI64, hm, if_true, reduceCtorEq, false_iff, not_and, Json.int.injEq]
      rintro rfl
      omega
    · simp only [decodeI64, hm, if_false, Except.ok.injEq, Json.int.injEq]
      constructor
      · rintro rfl
        exact ⟨rfl, by omega⟩
      · rintro ⟨rfl, -⟩
        rfl
  | _ => simp [decodeI64]

theorem decodeBool_eq_ok {v : Json} {b : Bool} : decodeBool v = .ok b ↔ v = .bool b := by
  cases v <;> simp [decodeBool]

theorem FieldSpec.check_of_eq_ok {α : Type} {name : String} {d : Decoder α} {dflt : Bool} {v : Json} :
    (FieldSpec.of name d dflt).check v = .ok () ↔ ∃ a, d v = .ok a := by
  simp only [FieldSpec.of]
  cases d v <;> simp [Except.map]

/-- An object's members pass a record's checks exactly when each member that names a field has
that field's type. -/
theorem RecordSpec.checkMembers_eq_ok (r : RecordSpec) (fs : Fields) :
    r.checkMembers fs = .ok () ↔
      ∀ p ∈ fs, ∀ f, r.fields.find? (·.name == p.1) = some f → f.check p.2 = .ok () := by
  induction fs with
  | nil => simp [RecordSpec.checkMembers]
  | cons p fs ih =>
    obtain ⟨k, v⟩ := p
    simp only [RecordSpec.checkMembers, List.mem_cons, forall_eq_or_imp]
    cases hf : r.fields.find? (·.name == k) with
    | none => simp [ih]
    | some f =>
      cases hc : f.check v with
      | error e => simp [hc, bind, Except.bind]
      | ok u => simp [hc, ih, bind, Except.bind]

theorem mem_of_lookup_eq_some {fs : Fields} {k : String} {v : Json} (h : fs.lookup k = some v) :
    (k, v) ∈ fs := by
  obtain ⟨l₁, l₂, rfl, -⟩ := List.lookup_eq_some_iff.1 h
  simp

theorem lookup_of_mem {fs : Fields} (hk : (fs.map Prod.fst).Nodup) {k : String} {v : Json}
    (h : (k, v) ∈ fs) : fs.lookup k = some v := by
  induction fs with
  | nil => simp at h
  | cons p fs ih =>
    obtain ⟨k', v'⟩ := p
    simp only [List.map_cons, List.nodup_cons, List.mem_map] at hk
    rcases List.mem_cons.1 h with h | h
    · cases h
      simp
    · have hne : (k == k') = false := beq_false_of_ne fun he => hk.1 ⟨(k, v), h, he⟩
      simp [List.lookup_cons, hne, ih hk.2 h]

end Json

namespace Wire

/-- The typing request a payload carries: an object whose `receiver_id` is a signed 64-bit
integer and whose `is_typing` is a boolean, or these two, in this order, as an array. -/
def SendTyping.carried? : Json → Option SendTyping
  | .obj fs =>
    match fs.lookup "receiver_id", fs.lookup "is_typing" with
    | some (.int n), some (.bool b) => if n ≤ Json.i64Max then some ⟨n, b⟩ else none
    | _, _ => none
  | .arr [.int n, .bool b] => if n ≤ Json.i64Max then some ⟨n, b⟩ else none
  | _ => none

theorem SendTyping.find?_field (k : String) :
    SendTyping.spec.fields.find? (·.name == k) =
      if k = "receiver_id" then some (.of "receiver_id" Json.decodeI64 false)
      else if k = "is_typing" then some (.of "is_typing" Json.decodeBool false) else none := by
  by_cases h1 : k = "receiver_id"
  · subst h1
    rfl
  · by_cases h2 : k = "is_typing"
    · subst h2
      rfl
    · have h1' : ("receiver_id" == k) = false := beq_false_of_ne (Ne.symm h1)
      have h2' : ("is_typing" == k) = false := beq_false_of_ne (Ne.symm h2)
      simp [SendTyping.spec, Json.FieldSpec.of, h1, h2, h1', h2']

/-- The members of an object pass the typing request's checks exactly when every `receiver_id`
is a signed 64-bit integer and every `is_typing` a boolean. -/
theorem SendTyping.checkMembers_eq_ok (fs : Json.Fields) :
    SendTyping.spec.checkMembers fs = .ok () ↔
      (∀ v, ("receiver_id", v) ∈ fs → ∃ n, v = .int n ∧ n ≤ Json.i64Max) ∧
      (∀ v, ("is_typing", v) ∈ fs → ∃ b, v = .bool b) := by
  rw [Json.RecordSpec.checkMembers_eq_ok]
  constructor
  · intro h
    refine ⟨fun v hv => ?_, fun v hv => ?_⟩
    · obtain ⟨n, hn⟩ := Json.FieldSpec.check_of_eq_ok.1 (h _ hv _ (by rw [find?_field]; rfl))
      exact ⟨n, Json.decodeI64_eq_ok.1 hn⟩
    · obtain ⟨b, hb⟩ := Json.FieldSpec.check_of_eq_ok.1 (h _ hv _ (by rw [find?_field]; rfl))
      exact ⟨b, Json.decodeBool_eq_ok.1 hb⟩
  · rintro ⟨hr, hb⟩ ⟨k, v⟩ hp f hf
    rw [find?_field] at hf
    split at hf
    · rename_i h1
      subst h1
      cases hf
      obtain ⟨n, rfl, hn⟩ := hr v hp
      exact Json.FieldSpec.check_of_eq_ok.2 ⟨n, Json.decodeI64_eq_ok.2 ⟨rfl, hn⟩⟩
    · split at hf
      · rename_i h2
        subst h2
        cases hf
        obtain ⟨b, rfl⟩ := hb v hp
        exact Json.FieldSpec.check_of_eq_ok.2 ⟨b, Json.decodeBool_eq_ok.2 rfl⟩
      · cases hf

/-- Decoding an object gives the request of the first `receiver_id` and `is_typing` it names,
once every member of these names has the right type. -/
theorem SendTyping.decode_obj_eq_ok (fs : Json.Fields) (r : SendTyping) :
    SendTyping.decode (.obj fs) = .ok r ↔
      SendTyping.spec.checkMembers fs = .ok () ∧ fs.lookup "receiver_id" = some (.int r.receiverId) ∧
        fs.lookup "is_typing" = some (.bool r.isTyping) := by
  cases hc : SendTyping.spec.checkMembers fs with
  | error e => simp [SendTyping.decode, Json.RecordSpec.values, hc, bind, Except.bind]
  | ok u =>
    obtain ⟨hr, hb⟩ := (SendTyping.checkMembers_eq_ok fs).1 hc
    simp only [SendTyping.decode, Json.RecordSpec.values, hc]
    cases hrid : fs.lookup "receiver_id" with
    | none => simp [hrid, SendTyping.spec, Json.FieldSpec.of, bind, Except.bind]
    | some v =>
      obtain ⟨n, rfl, hn⟩ := hr v (Json.mem_of_lookup_eq_some hrid)
      cases hist : fs.lookup "is_typing" with
      | none => simp [hrid, hist, SendTyping.spec, Json.FieldSpec.of, bind, Except.bind]
      | some w =>
        obtain ⟨b, rfl⟩ := hb w (Json.mem_of_lookup_eq_some hist)
        obtain ⟨n', b'⟩ := r
        simp [hrid, hist, SendTyping.spec, Json.FieldSpec.of, bind, Except.bind, nth, Json.fieldOr,
          Json.decodeI64, Json.decodeBool, Int.not_lt.2 hn, pure, Except.pure]

/-- Decoding an array gives the request of exactly two elements: a signed 64-bit integer, then
a boolean. -/
theorem SendTyping.decode_arr_eq_ok (items : List Json) (r : SendTyping) :
    SendTyping.decode (.arr items) = .ok r ↔
      items = [.int r.receiverId, .bool r.isTyping] ∧ r.receiverId ≤ Json.i64Max := by
  obtain ⟨n', b'⟩ := r
  rcases items with _ | ⟨a, _ | ⟨b, _ | ⟨c, rest⟩⟩⟩
  · simp [SendTyping.decode, Json.RecordSpec.values, SendTyping.spec, Json.RecordSpec.checkElements,
      Json.FieldSpec.of, bind, Except.bind]
  · cases ha : Json.decodeI64 a <;>
      simp [SendTyping.decode, Json.RecordSpec.values, SendTyping.spec, Json.RecordSpec.checkElements,
        Json.FieldSpec.of, bind, Except.bind, Except.map, ha]
  · cases ha : Json.decodeI64 a with
    | error e =>
      have : ¬ (a = .int n' ∧ n' ≤ Json.i64Max) := fun h => by simp [Json.decodeI64_eq_ok.2 h] at ha
      simp [SendTyping.decode, Json.RecordSpec.values, SendTyping.spec, Json.RecordSpec.checkElements,
        Json.FieldSpec.of, bind, Except.bind, Except.map, ha]
      intro h1 _
      exact Int.not_le.1 fun hle => this ⟨h1, hle⟩
    | ok n =>
      obtain ⟨rfl, hn⟩ := Json.decodeI64_eq_ok.1 ha
      cases hb : Json.decodeBool b with
      | error e =>
        have : b ≠ .bool b' := fun h => by simp [Json.decodeBool_eq_ok.2 h] at hb
        simp [SendTyping.decode, Json.RecordSpec.values, SendTyping.spec, Json.RecordSpec.checkElements,
          Json.FieldSpec.of, bind, Except.bind, Except.map, ha, hb, this]
      | ok bv =>
        obtain rfl := Json.decodeBool_eq_ok.1 hb
        simp [SendTyping.decode, Json.RecordSpec.values, SendTyping.spec, Json.RecordSpec.checkElements,
          Json.FieldSpec.of, bind, Except.bind, Except.map, ha, hb, nth, Json.fieldOr, pure, Except.pure]
        rintro rfl -
        exact hn
  · cases ha : Json.decodeI64 a <;> cases hb : Json.decodeBool b <;>
      simp [SendTyping.decode, Json.RecordSpec.values, SendTyping.spec, Json.RecordSpec.checkElements,
        Json.FieldSpec.of, bind, Except.bind, Except.map, ha, hb]

/-- Any payload that decodes carries the request it decodes to; so one that carries none, whatever
it is, is refused. -/
theorem SendTyping.carried?_of_decode {j : Json} {r : SendTyping} (h : SendTyping.decode j = .ok r) :
    SendTyping.carried? j = some r := by
  cases j with
  | obj fs =>
    obtain ⟨hc, hrid, hist⟩ := (decode_obj_eq_ok fs r).1 h
    obtain ⟨n, hn, hle⟩ := ((checkMembers_eq_ok fs).1 hc).1 _ (Json.mem_of_lookup_eq_some hrid)
    cases hn
    simp [carried?, hrid, hist, hle]
  | arr items =>
    obtain ⟨rfl, hle⟩ := (decode_arr_eq_ok items r).1 h
    simp [carried?, hle]
  | _ => simp [SendTyping.decode, Json.RecordSpec.values, bind, Except.bind] at h

theorem SendTyping.carried?_obj_eq_some (fs : Json.Fields) (r : SendTyping) :
    SendTyping.carried? (.obj fs) = some r ↔ fs.lookup "receiver_id" = some (.int r.receiverId) ∧
      fs.lookup "is_typing" = some (.bool r.isTyping) ∧ r.receiverId ≤ Json.i64Max := by
  obtain ⟨n', b'⟩ := r
  simp only [carried?]
  split
  · rename_i n b hrid hist
    by_cases hle : n ≤ Json.i64Max
    · simp only [hle, if_true, hrid, hist, Option.some.injEq, SendTyping.mk.injEq, Json.int.injEq,
        Json.bool.injEq]
      constructor
      · rintro ⟨rfl, rfl⟩
        exact ⟨rfl, rfl, hle⟩
      · rintro ⟨rfl, rfl, -⟩
        exact ⟨rfl, rfl⟩
    · simp only [hle, if_false, reduceCtorEq, false_iff, hrid, hist, Option.some.injEq,
        Json.int.injEq, Json.bool.injEq]
      rintro ⟨rfl, -, hle'⟩
      exact hle hle'
  · rename_i hno
    simp only [reduceCtorEq, false_iff, not_and]
    exact fun h1 h2 _ => hno _ _ h1 h2

/-- A payload whose object names each member once decodes to the request it carries. -/
theorem SendTyping.decode_of_carried {j : Json} (hj : j.KeysDistinct) {r : SendTyping}
    (h : SendTyping.carried? j = some r) : SendTyping.decode j = .ok r := by
  cases j with
  | obj fs =>
    obtain ⟨hrid, hist, hle⟩ := (carried?_obj_eq_some fs r).1 h
    refine (decode_obj_eq_ok fs r).2 ⟨(checkMembers_eq_ok fs).2 ⟨fun v hv => ?_, fun v hv => ?_⟩,
      hrid, hist⟩
    · -- the one `receiver_id` member is the one the lookup finds
      rw [Json.lookup_of_mem hj hv] at hrid
      cases hrid
      exact ⟨r.receiverId, rfl, hle⟩
    · rw [Json.lookup_of_mem hj hv] at hist
      cases hist
      exact ⟨r.isTyping, rfl⟩
  | arr items =>
    refine (decode_arr_eq_ok items r).2 ?_
    obtain ⟨n', b'⟩ := r
    match items, h with
    | [.int n, .bool b], h =>
      by_cases hle : n ≤ Json.i64Max
      · simp only [carried?, hle, if_true, Option.some.injEq, SendTyping.mk.injEq] at h
        obtain ⟨rfl, rfl⟩ := h
        exact ⟨rfl, hle⟩
      · simp [carried?, hle] at h
  | _ => simp [carried?] at h

theorem SendTyping.decode_eq_ok_iff {j : Json} (hj : j.KeysDistinct) (r : SendTyping) :
    SendTyping.decode j = .ok r ↔ SendTyping.carried? j = some r :=
  ⟨carried?_of_decode, decode_of_carried hj⟩

/-! ## The tag table -/

theorem EventTag.ofTag?_eq_some {s : String} {t : EventTag} : EventTag.ofTag? s = some t ↔ t.tag = s := by
  constructor
  · intro h
    simpa using List.find?_some h
  · rintro rfl
    cases t <;> rfl

end Wire

/-! ## Routing -/

/-- A tag other than the three inbound ones, outbound tags included, is refused as unsupported
before the payload is read. -/
theorem route_unsupported (s : ConnId) {tag : String} (p : Json) (h1 : tag ≠ "send_message")
    (h2 : tag ≠ "send_group_message") (h3 : tag ≠ "send_typing") :
    route s tag p = throw (.unsupportedEvent tag) := by
  unfold route
  cases ht : EventTag.ofTag? tag with
  | none => rfl
  | some t =>
    have htag := EventTag.ofTag?_eq_some.1 ht
    cases t
    case sendMessage => exact absurd htag.symm h1
    case sendGroupMessage => exact absurd htag.symm h2
    case sendTyping => exact absurd htag.symm h3
    all_goals rfl

/-! ## Typing indicators -/

namespace Hub

theorem unwritten_sendEvent (h : Hub) (c : ConnId) (tag : EventTag) (payload : Json) :
    Unwritten h (h.sendEvent c tag payload).2 := by
  simp [Unwritten, sendEvent]

theorem unwritten_reject (h : Hub) (c : ConnId) (err : RealtimeError) (ctx : Json.Fields) :
    Unwritten h (h.reject c err ctx).2 := by
  simp [Unwritten, reject]

end Hub

section Typing

variable {h : Hub} {s : ConnId} {p : Json}

theorem sendTyping_undecodable {m : String} (hm : SendTyping.decode p = .error m) :
    (sendTyping s p).exec h = (.error (.payload m), h) := by
  simp [sendTyping, hm, decodeRequest]

variable {x : Connection} {req : SendTyping} (hx : h.conn? s = some x)
  (hreq : SendTyping.decode p = .ok req)
include hx hreq

theorem sendTyping_self (hself : (⟨req.receiverId⟩ : UserId) = x.user) :
    (sendTyping s p).exec h = (.ok false, (h.reject s (.permission .selfTyping
      "Cannot send typing status to yourself") (contextOf "receiver_id" req.receiverId)).2) := by
  simp [sendTyping, exec_bind, hreq, decodeRequest, hx, hself, tell]

theorem sendTyping_live (hne : (⟨req.receiverId⟩ : UserId) ≠ x.user) {rc : ConnId}
    (hrc : h.clientByUser ⟨req.receiverId⟩ = some rc) :
    (sendTyping s p).exec h =
      (.ok (h.sendEvent rc .newTyping (newTypingPayload x.user ⟨req.receiverId⟩ req.isTyping)).1,
        (h.sendEvent rc .newTyping (newTypingPayload x.user ⟨req.receiverId⟩ req.isTyping)).2) := by
  simp [sendTyping, exec_bind, hreq, decodeRequest, hx, hne, hrc, deliver]

theorem sendTyping_offline (hne : (⟨req.receiverId⟩ : UserId) ≠ x.user)
    (hrc : h.clientByUser ⟨req.receiverId⟩ = none) :
    (sendTyping s p).exec h = (.ok false, h) := by
  simp [sendTyping, exec_bind, hreq, decodeRequest, hx, hne, hrc]

end Typing

/-! ## The contract -/

/-- What an inbound event from the connection `s`, whose record is `x`, does: the tag table read
both ways, the refusal of every tag without a handler, the handler of each inbound tag, and what
`send_typing` decodes, tells, offers and answers. -/
theorem dispatch_and_typing (h : Hub) (s : ConnId) (x : Connection) (tag : String) (p : Json)
    (hx : h.conn? s = some x) :
    (∀ t : EventTag, EventTag.ofTag? tag = some t ↔ t.tag = tag) ∧
    (tag ≠ "send_message" → tag ≠ "send_group_message" → tag ≠ "send_typing" →
      (route s tag p).exec h = (.error (.unsupportedEvent tag), h)) ∧
    route s "send_message" p = sendDirect s p ∧
    route s "send_group_message" p = (sendGroup s p >>= fun _ => pure ()) ∧
    route s "send_typing" p = (sendTyping s p >>= fun _ => pure ()) ∧
    let r := (sendTyping s p).exec h
    (SendTyping.carried? p = none → ∃ m, r = (.error (.payload m), h)) ∧
    (∀ m, SendTyping.decode p = .error m → r = (.error (.payload m), h)) ∧
    (p.KeysDistinct → ∀ req, SendTyping.decode p = .ok req ↔ SendTyping.carried? p = some req) ∧
    ∀ req, SendTyping.decode p = .ok req →
      let receiver : UserId := ⟨req.receiverId⟩
      let e : Envelope := ⟨.newTyping, newTypingPayload x.user receiver req.isTyping⟩
      (receiver = x.user → r.1 = .ok false ∧
        Offered h r.2 [(s, refusal .selfTyping "Cannot send typing status to yourself" req.receiverId)] ∧
        Unwritten h r.2) ∧
      (receiver ≠ x.user → ∀ rc, h.clientByUser receiver = some rc →
        r.1 = .ok (h.takes (rc, e)) ∧
        Offered h r.2 [(rc, e)] ∧ Unwritten h r.2) ∧
      (receiver ≠ x.user → h.clientByUser receiver = none → r = (.ok false, h)) := by
  refine ⟨fun t => EventTag.ofTag?_eq_some, fun h1 h2 h3 => ?_, rfl, rfl, rfl, ?_⟩
  · rw [route_unsupported s p h1 h2 h3]
    rfl
  dsimp only
  refine ⟨fun hnone => ?_, fun m hm => sendTyping_undecodable hm,
    fun hj req => SendTyping.decode_eq_ok_iff hj req, fun req hreq => ⟨fun hself => ?_,
      fun hne rc hrc => ?_, fun hne hrc => sendTyping_offline hx hreq hne hrc⟩⟩
  · -- a payload that carries no request does not decode
    cases hd : SendTyping.decode p with
    | error m => exact ⟨m, sendTyping_undecodable hd⟩
    | ok req => simp [SendTyping.carried?_of_decode hd] at hnone
  · rw [sendTyping_self hx hreq hself]
    exact ⟨rfl, Offered.withConn fun _ => rfl, Hub.unwritten_reject _ _ _ _⟩
  · rw [sendTyping_live hx hreq hne hrc, Hub.sendEvent_fst]
    exact ⟨rfl, Offered.sendEvent _ _ _, Hub.unwritten_sendEvent _ _ _ _⟩

def aliceTypesToAlice : Json := Json.ofFields [("receiver_id", .int 1), ("is_typing", .bool true)]

/-- Alice types to herself: she alone is told so, with her own id as context. -/
theorem dispatch_and_typing_self :
    aliceHub.conn? ⟨0⟩ = some aliceConn ∧
      ((sendTyping ⟨0⟩ aliceTypesToAlice).exec aliceHub).1 = .ok false ∧
      Offered aliceHub ((sendTyping ⟨0⟩ aliceTypesToAlice).exec aliceHub).2
        [(⟨0⟩, refusal .selfTyping "Cannot send typing status to yourself" 1)] := by
  obtain ⟨-, -, -, -, -, -, -, -, htyping⟩ :=
    dispatch_and_typing aliceHub ⟨0⟩ aliceConn "send_typing" aliceTypesToAlice rfl
  obtain ⟨hself, -, -⟩ := htyping ⟨1, true⟩ rfl
  obtain ⟨hr, ho, -⟩ := hself rfl
  exact ⟨rfl, hr, ho⟩

end Switchboard
