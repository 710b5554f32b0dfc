import Switchboard.Proofs.HandlerRuns
import Switchboard.Proofs.WorldFrame
/-!
# How a read loop ends

A connection's read loop takes what its peer sends, one input at a time, and the loops settle
after each: text frames, binary frames, pings, pongs, a close frame, the end of the stream, a
read error, and the passing of its read deadline. `World.teardownOf` is the teardown table: the
close reason an input ends the loop with, or none when the loop reads on.

* A text frame longer than the frame limit closes with 1009; one within it that is not an
  envelope closes with 1007; any other text frame is routed from the hub as it stands, and
  ends the loop when the handler fails on the store (1011) or on the session check (1008,
  recorded by the handler itself).
* A binary frame closes with 1007.
* A close frame, the end of the stream, a read error or the deadline end the loop, and the
  connection's removal records 1000.
* Pings and pongs, and handler failures of any other kind, leave the loop reading.

Three writers record close reasons (the read loop, the session check and the removal), and the
first recorded reason wins, so the reason the table names is the one that stays.

Main statement, `read_loop_teardown`: from a connection that reads, with transport writes that
succeed and nothing closing it from outside, every finite run of inputs either reads through
all of them, each text frame routed in order, or is cut at its first input that the table ends
the loop with: that reason is recorded, and every later input is refused and changes nothing.
-/

namespace Switchboard.Live

open Wire HubM

/-- What reaches a connection's read loop: an event of the peer's side of the transport, or the
passing of the read deadline. -/
inductive ReadInput where
  | frame (ev : PeerEvent)
  | expiry

namespace World

/-- The read loop of `c` takes one input, if it still runs; whether it took it. A peer event is
handed over by `receive`; the deadline passes as its timer fires, and the loops settle. -/
def feed (w : World) (c : ConnId) : ReadInput → Bool × World
  | .frame ev => w.receive c ev
  | .expiry =>
    match w.link? c with
    | some l => if l.reading then (true, (w.fire (.deadline c)).settle) else (false, w)
    | none => (false, w)

def feedAll (w : World) (c : ConnId) : List ReadInput → List Bool × World
  | [] => ([], w)
  | x :: xs =>
    let step := w.feed c x
    let rest := step.2.feedAll c xs
    (step.1 :: rest.1, rest.2)

/-- The close reason a routed event's answer ends the read loop with: a store failure closes
with 1011 and a failed session check with 1008; any other answer leaves the loop reading. -/
def routedTeardown : Except RealtimeError Unit → Option CloseReason
  | .error (.store _) => some .internalError
  | .error .invalidSession => some .policyViolation
  | _ => none

/-- The teardown table: the close reason with which an input ends the read loop of `c`, or
none when the loop reads on. A text frame within the limit that reads as an envelope is routed
from the hub as it stands. -/
def teardownOf (w : World) (c : ConnId) : ReadInput → Option CloseReason
  | .frame (.text s) =>
    if s.utf8ByteSize > w.config.maxFrameSize then some .messageTooBig
    else
      match Inbound.read s with
      | .error _ => some .invalidPayload
      | .ok env => routedTeardown ((route c env.tag env.payload).exec w.hub).1
  | .frame .binary => some .invalidPayload
  | .frame .ping | .frame .pong => none
  | .frame .closeFrame | .frame .hangUp | .frame .streamError | .expiry => some .normal

/-- A text frame that the loop reads on after is handed to the router at the hub as it stands:
the world after it is the handler's hub, settled. Other inputs route nothing. -/
def Routed (w : World) (c : ConnId) : ReadInput → World → Prop
  | .frame (.text s), w' => ∀ env, s.utf8ByteSize ≤ w.config.maxFrameSize → Inbound.read s = .ok env →
      w' = { w with hub := ((route c env.tag env.payload).exec w.hub).2 }.settle
  | _, _ => True

/-- The read loop of `c` takes every input of the list, routes each text frame, and reads on
after each. -/
def ReadsThrough (c : ConnId) : World → List ReadInput → Prop
  | _, [] => True
  | w, x :: xs => teardownOf w c x = none ∧ Routed w c x (w.feed c x).2 ∧ ReadsThrough c (w.feed c x).2 xs

def ReadOutcome (c : ConnId) : Option CloseReason → World → Prop
  | none, w => Reading w c
  | some r, w => Stopped w c r

theorem ReadOutcome.settle {c : ConnId} {o : Option CloseReason} {w : World}
    (h : ReadOutcome c o w) : ReadOutcome c o w.settle := by
  cases o with
  | none => exact Reading.settle h
  | some r => exact Stopped.settle h

/-! ## One input -/

section Step

variable {w : World} {c : ConnId}

theorem feed_stopped {r : CloseReason} (hs : Stopped w c r) (x : ReadInput) : w.feed c x = (false, w) := by
  have hrefuse : ∀ taken : Link → Bool × World,
      (match w.link? c with
        | some l => if l.reading then taken l else (false, w)
        | none => (false, w)) = (false, w) := by
    intro taken
    cases hl : w.link? c with
    | none => rfl
    | some l => simp [hs.ended l hl]
  cases x with
  | frame ev => exact hrefuse fun _ => (true, (w.readEvent c ev).settle)
  | expiry => exact hrefuse fun _ => (true, (w.fire (.deadline c)).settle)

theorem feedAll_stopped {r : CloseReason} (hs : Stopped w c r) (xs : List ReadInput) :
    w.feedAll c xs = (xs.map fun _ => false, w) := by
  induction xs with
  | nil => rfl
  | cons x xs ih => simp [feedAll, feed_stopped hs, ih]

theorem feed_reading (hr : Reading w c) (x : ReadInput) :
    w.feed c x = (true, (match x with
      | .frame ev => w.readEvent c ev
      | .expiry => w.endReading c).settle) := by
  obtain ⟨l, hl, hreading, -⟩ := hr.link
  cases x <;> simp [feed, receive, fire, hl, hreading]

theorem stopped_close (hr : Reading w c) (r : CloseReason) :
    Stopped ((w.closeConn c r).endReading c) c r :=
  Stopped.of_endReading (Hub.closeReasonOf_unregister_of_some
    (Hub.closeReasonOf_closeConn_self hr.isSome hr.closeReasonOf r) c)

theorem stopped_end (hr : Reading w c) : Stopped (w.endReading c) c .normal :=
  Stopped.of_endReading (Hub.closeReasonOf_unregister_self hr.registered hr.isSome hr.closeReasonOf)

/-- Where a routed event leaves the loop. A calm handler leaves it reading, unless it failed
on the store; a handler that revoked the sender has recorded 1008, and the loop ends. -/
theorem afterRoute_outcome (hr : Reading w c) {m : HubM Unit} (hm : CalmOrRevoke c m w.hub) :
    ReadOutcome c (routedTeardown (m.exec w.hub).1) (w.afterRoute c (m.exec w.hub)) := by
  rcases hexec : m.exec w.hub with ⟨res, hub⟩
  rw [CalmOrRevoke, hexec] at hm
  rcases hm with ⟨hcalm, hroutine⟩ | ⟨hres, hhub⟩
  · have hr' : Reading { w with hub } c := hr.keeps (.of_calm hcalm)
    cases res with
    | ok u => exact hr'
    | error e =>
      have he : e.Routine := hroutine e rfl
      cases e <;> simp only [RealtimeError.Routine] at he
      · exact hr'
      · exact hr'
      · exact stopped_close hr' .internalError
  · dsimp only at hres hhub
    subst hres hhub
    -- the handler closed the sender for the policy violation and removed it already
    refine Stopped.of_endReading (Hub.closeReasonOf_unregister_of_some ?_ c)
    rw [exec_revokeSender]
    exact Hub.closeReasonOf_unregister_of_some
      (Hub.closeReasonOf_closeConn_self hr.isSome hr.closeReasonOf _) c

theorem afterRoute_of_reads_on {m : HubM Unit} (hm : CalmOrRevoke c m w.hub)
    (hon : routedTeardown (m.exec w.hub).1 = none) :
    w.afterRoute c (m.exec w.hub) = { w with hub := (m.exec w.hub).2 } := by
  rcases hexec : m.exec w.hub with ⟨res, hub⟩
  rw [CalmOrRevoke, hexec] at hm
  rw [hexec] at hon
  rcases hm with ⟨-, hroutine⟩ | ⟨hres, -⟩
  · cases res with
    | ok u => rfl
    | error e =>
      have he : e.Routine := hroutine e rfl
      cases e <;> simp_all [RealtimeError.Routine, routedTeardown, afterRoute, RealtimeError.isFatal]
  · dsimp only at hres
    simp [hres, routedTeardown] at hon

theorem readText_outcome (hr : Reading w c) (s : String) :
    ReadOutcome c (teardownOf w c (.frame (.text s))) (w.readText c s) := by
  simp only [teardownOf, readText]
  by_cases hsize : s.utf8ByteSize > w.config.maxFrameSize
  · rw [if_pos hsize, if_pos hsize]
    exact stopped_close hr .messageTooBig
  rw [if_neg hsize, if_neg hsize]
  cases Inbound.read s with
  | error _ => exact stopped_close hr .invalidPayload
  | ok env => exact afterRoute_outcome hr (route_exec c _ _ w.hub)

theorem readEvent_outcome (hr : Reading w c) (ev : PeerEvent) :
    ReadOutcome c (teardownOf w c (.frame ev)) (w.readEvent c ev) := by
  cases ev with
  | text s => exact readText_outcome hr s
  | binary => exact stopped_close hr .invalidPayload
  | ping => exact hr
  | pong =>
    -- the deadline moves to one read deadline after now, which lies ahead
    obtain ⟨l, hl, hreading, hsink, -⟩ := hr.link
    refine ⟨⟨{ l with deadline := w.clock + w.pongWaitNanos }, ?_, hreading, hsink, ?_⟩,
      hr.conn, hr.registered, hr.pongWait⟩
    · simp only [readEvent]
      rw [link?_updateLink (f := fun l => { l with deadline := w.clock + w.pongWaitNanos })
        (fun _ => rfl), if_pos rfl, hl]
      rfl
    · exact Nat.lt_add_of_pos_right hr.pongWait
  | closeFrame => exact stopped_end hr
  | hangUp => exact stopped_end hr
  | streamError => exact stopped_end hr

/-- One input to a reading loop: it is taken, and leaves the loop as the table says. -/
theorem feed_outcome (hr : Reading w c) (x : ReadInput) :
    (w.feed c x).1 = true ∧ ReadOutcome c (teardownOf w c x) (w.feed c x).2 := by
  rw [feed_reading hr]
  refine ⟨rfl, ReadOutcome.settle ?_⟩
  cases x with
  | frame ev => exact readEvent_outcome hr ev
  | expiry => exact stopped_end hr

theorem feed_routed (hr : Reading w c) (x : ReadInput) (hon : teardownOf w c x = none) :
    Routed w c x (w.feed c x).2 := by
  rcases x with (s | _ | _ | _ | _ | _ | _) | _
  all_goals try trivial
  intro env hsize henv
  have hsize' : ¬ s.utf8ByteSize > w.config.maxFrameSize := Nat.not_lt.2 hsize
  simp only [teardownOf, if_neg hsize', henv] at hon
  rw [feed_reading hr]
  simp only [readEvent, readText, if_neg hsize', henv]
  exact congrArg World.settle (afterRoute_of_reads_on (route_exec c _ _ w.hub) hon)

end Step

/-! ## A run of inputs -/

/-- Teardown of a read loop. From a loop that reads, any finite run of inputs either reads
through all of them, routing each text frame in order, and the loop still reads; or it is cut
at the first input the teardown table ends the loop with: the inputs before it were read
through, every input is taken up to it and refused after it, the world is the one that input
left, and its close reason is the one recorded on the connection. -/
theorem read_loop_teardown {w : World} {c : ConnId} (hw : Reading w c) (xs : List ReadInput) :
    (ReadsThrough c w xs ∧ (w.feedAll c xs).1 = xs.map (fun _ => true) ∧ Reading (w.feedAll c xs).2 c) ∨
    ∃ pre x post r, xs = pre ++ x :: post ∧ ReadsThrough c w pre ∧
      teardownOf (w.feedAll c pre).2 c x = some r ∧
      (w.feedAll c xs).1 = (pre ++ [x]).map (fun _ => true) ++ post.map (fun _ => false) ∧
      (w.feedAll c xs).2 = (w.feedAll c (pre ++ [x])).2 ∧
      Stopped (w.feedAll c xs).2 c r := by
  induction xs generalizing w with
  | nil => exact .inl ⟨trivial, rfl, hw⟩
  | cons x xs ih =>
    obtain ⟨htaken, hout⟩ := feed_outcome hw x
    cases ht : teardownOf w c x with
    | none =>
      rw [ht] at hout
      have hstep : teardownOf w c x = none ∧ Routed w c x (w.feed c x).2 := ⟨ht, feed_routed hw x ht⟩
      rcases ih hout with ⟨hthrough, hflags, hread⟩ | ⟨pre, y, post, r, rfl, hthrough, hy, hflags, hworld, hs⟩
      · refine .inl ⟨⟨hstep.1, hstep.2, hthrough⟩, ?_, hread⟩
        simp [feedAll, htaken, hflags]
      · refine .inr ⟨x :: pre, y, post, r, rfl, ⟨hstep.1, hstep.2, hthrough⟩, hy, ?_, hworld, hs⟩
        simp [feedAll, htaken, hflags]
    | some r =>
      rw [ht] at hout
      -- the input ends the loop: everything after it is refused
      have hs : Stopped (w.feed c x).2 c r := hout
      have hrest := feedAll_stopped hs xs
      refine .inr ⟨[], x, xs, r, rfl, trivial, ht, ?_, ?_, ?_⟩
      · simp [feedAll, htaken, hrest]
      · simp [feedAll, hrest]
      · simpa [feedAll, hrest] using hs

/-- A connection that has just joined an empty world reads, so the teardown contract applies to
it: here to a ping, a binary frame and a pong. -/
theorem read_loop_teardown_joined :
    Reading ((World.start {} {}).join ⟨⟨1⟩, "alice", "t"⟩).2 ⟨0⟩ ∧
      ((ReadsThrough ⟨0⟩ ((World.start {} {}).join ⟨⟨1⟩, "alice", "t"⟩).2
            [.frame .ping, .frame .binary, .frame .pong] ∧
          (((World.start {} {}).join ⟨⟨1⟩, "alice", "t"⟩).2.feedAll ⟨0⟩
            [.frame .ping, .frame .binary, .frame .pong]).1 = [true, true, true] ∧
          Reading (((World.start {} {}).join ⟨⟨1⟩, "alice", "t"⟩).2.feedAll ⟨0⟩
            [.frame .ping, .frame .binary, .frame .pong]).2 ⟨0⟩) ∨
        ∃ pre x post r, [.frame .ping, .frame .binary, .frame .pong] = pre ++ x :: post ∧
          ReadsThrough ⟨0⟩ ((World.start {} {}).join ⟨⟨1⟩, "alice", "t"⟩).2 pre ∧
          teardownOf (((World.start {} {}).join ⟨⟨1⟩, "alice", "t"⟩).2.feedAll ⟨0⟩ pre).2 ⟨0⟩ x =
            some r ∧
          (((World.start {} {}).join ⟨⟨1⟩, "alice", "t"⟩).2.feedAll ⟨0⟩
            [.frame .ping, .frame .binary, .frame .pong]).1 =
            (pre ++ [x]).map (fun _ => true) ++ post.map (fun _ => false) ∧
          (((World.start {} {}).join ⟨⟨1⟩, "alice", "t"⟩).2.feedAll ⟨0⟩
            [.frame .ping, .frame .binary, .frame .pong]).2 =
            (((World.start {} {}).join ⟨⟨1⟩, "alice", "t"⟩).2.feedAll ⟨0⟩ (pre ++ [x])).2 ∧
          Stopped (((World.start {} {}).join ⟨⟨1⟩, "alice", "t"⟩).2.feedAll ⟨0⟩
            [.frame .ping, .frame .binary, .frame .pong]).2 ⟨0⟩ r) :=
  have hr : Reading ((World.start {} {}).join ⟨⟨1⟩, "alice", "t"⟩).2 ⟨0⟩ :=
    ⟨⟨_, rfl, by decide, rfl, by decide⟩, ⟨_, rfl, rfl⟩, rfl, by decide⟩
  ⟨hr, read_loop_teardown hr _⟩

end World

end Switchboard.Live
