import Switchboard.Proofs.WorldFrame
/-!
# A read loop racing a close

A connection's read loop waits on two things at once: the close of its connection (a close
reason recorded by someone else: a shutdown, or the write loop's exit, which removes the
connection) and the next frame of its transport. When both are ready the select may take
either, since it is not biased; taking the frame routes it like any other, and only the next
turn may notice the close. The live world of `World` never meets this choice: the loops run to
completion after each single frame, so a close recorded from outside ends the read loop before
another frame can arrive.

`Race` keeps what the race is about: the world, the loop's connection, the frames its peer has
sent that wait in the transport, and the frames the loop took while its connection had a close
reason (`late`). A run is a list of moves: a frame arrives, a shutdown records the normal close
on every registered connection, the write loop exits, or the read loop takes a turn of its
select, preferring the close branch or the frame when both are ready. The deadline branch is left
out: a waiting frame is always ready before it.

Main statement, `read_loop_close_race`: every run takes at most one late frame per turn that
preferred a frame over a ready close, so a run in which every turn prefers the close (a biased
select) takes none; a turn that prefers the close on a closed connection ends the loop, and a
loop that ended takes nothing more. `routed_after_shutdown` is a run with an unbiased turn: the
frame that waited when the shutdown closed the connection is still routed, and its message
stored.
-/

namespace Switchboard.Live

open Wire

/-- A connection's read loop racing a close: the world, the loop's connection, the frames its
peer sent that wait in the transport, and the frames the loop took while its connection had a
close reason. -/
structure Race where
  world : World
  conn : ConnId
  waiting : List PeerEvent := []
  late : List PeerEvent := []

/-- What may happen next around the read loop: a frame arrives and waits in the transport, a
shutdown records the normal close on every registered connection, the write loop ends and removes
the connection, or the read loop takes a turn of its select, taking the close when both it and a
frame are ready if `preferClose`. -/
inductive Race.Move where
  | arrive (ev : PeerEvent)
  | shutdown
  | writerExit
  | select (preferClose : Bool)

namespace Race

def Move.prefersFrame : Move → Bool
  | .select false => true
  | _ => false

def reading (r : Race) : Bool := (r.world.link? r.conn).any (·.reading)

def closed (r : Race) : Bool := (r.world.hub.conn? r.conn).any (·.isClosed)

/-- One turn of the read loop's select. A ready close that is taken ends the loop and removes
the connection; a frame that is taken is handled as the loop handles any frame. -/
def select (r : Race) (preferClose : Bool) : Race :=
  if !r.reading then r
  else if r.closed && (preferClose || r.waiting.isEmpty) then { r with world := r.world.endReading r.conn }
  else
    match r.waiting with
    | [] => r
    | ev :: rest =>
      { r with world := r.world.readEvent r.conn ev, waiting := rest,
               late := if r.closed then r.late ++ [ev] else r.late }

def step (r : Race) : Move → Race
  | .arrive ev => { r with waiting := r.waiting ++ [ev] }
  | .shutdown => { r with world := { r.world with presenceNext := none, hub := r.world.hub.closeAll.2 } }
  | .writerExit => { r with world := r.world.endWriting r.conn }
  | .select b => r.select b

def run (r : Race) (ms : List Move) : Race := ms.foldl step r

@[simp] theorem run_nil (r : Race) : r.run [] = r := rfl

@[simp] theorem run_cons (r : Race) (m : Move) (ms : List Move) : r.run (m :: ms) = (r.step m).run ms := rfl

/-! ## One move -/

theorem reading_endReading (r : Race) : ({ r with world := r.world.endReading r.conn } : Race).reading = false := by
  simp only [reading, World.endReading_link?]
  cases r.world.link? r.conn <;> rfl

/-- A move takes at most one late frame, and only a turn that prefers a frame over a ready close
takes one. -/
theorem late_step (r : Race) (m : Move) :
    ∃ L, (r.step m).late = r.late ++ L ∧ L.length ≤ if m.prefersFrame then 1 else 0 := by
  cases m with
  | arrive ev => exact ⟨[], (List.append_nil _).symm, by simp [Move.prefersFrame]⟩
  | shutdown => exact ⟨[], (List.append_nil _).symm, by simp [Move.prefersFrame]⟩
  | writerExit => exact ⟨[], (List.append_nil _).symm, by simp [Move.prefersFrame]⟩
  | select b =>
    simp only [step, select]
    -- only the branch that takes a frame changes `late`, and it adds that frame when closed
    split
    · exact ⟨[], (List.append_nil _).symm, by simp⟩
    split
    · exact ⟨[], (List.append_nil _).symm, by simp⟩
    rename_i hclose
    split
    · exact ⟨[], (List.append_nil _).symm, by simp⟩
    rename_i ev rest _
    by_cases hc : r.closed = true
    · have hb : b = false := by cases b <;> simp [hc] at hclose ⊢
      subst hb
      exact ⟨[ev], by simp [hc], by simp [Move.prefersFrame]⟩
    · exact ⟨[], by simp [hc], by simp⟩

theorem step_of_ended {r : Race} (hr : r.reading = false) (m : Move) :
    (r.step m).reading = false ∧ (r.step m).late = r.late := by
  cases m with
  | arrive ev => exact ⟨hr, rfl⟩
  | shutdown => exact ⟨hr, rfl⟩
  | writerExit =>
    refine ⟨?_, rfl⟩
    simp only [reading] at hr
    simp only [step, reading, World.endWriting_link?]
    revert hr
    cases r.world.link? r.conn <;> simp
  | select b => simp [step, select, hr]

theorem select_closed {r : Race} (hr : r.reading = true) (hc : r.closed = true) :
    (r.select true).reading = false := by
  simp only [select, hr, hc, Bool.not_true, Bool.false_eq_true, if_false, Bool.true_or, Bool.and_self, if_true]
  exact reading_endReading r

/-! ## A run -/

theorem late_run (r : Race) (ms : List Move) :
    ∃ L, (r.run ms).late = r.late ++ L ∧ L.length ≤ ms.countP Move.prefersFrame := by
  induction ms generalizing r with
  | nil => exact ⟨[], (List.append_nil _).symm, by simp⟩
  | cons m ms ih =>
    obtain ⟨L₁, h₁, hn₁⟩ := late_step r m
    obtain ⟨L₂, h₂, hn₂⟩ := ih (r.step m)
    refine ⟨L₁ ++ L₂, by rw [run_cons, h₂, h₁, List.append_assoc], ?_⟩
    rw [List.length_append, List.countP_cons]
    cases hm : m.prefersFrame
    · simp only [hm, Bool.false_eq_true, if_false] at hn₁ ⊢
      omega
    · simp only [hm, if_true] at hn₁ ⊢
      omega

theorem run_of_ended {r : Race} (hr : r.reading = false) (ms : List Move) :
    (r.run ms).reading = false ∧ (r.run ms).late = r.late := by
  induction ms generalizing r with
  | nil => exact ⟨hr, rfl⟩
  | cons m ms ih =>
    obtain ⟨hr', hl'⟩ := step_of_ended hr m
    obtain ⟨hr'', hl''⟩ := ih hr'
    exact ⟨hr'', hl''.trans hl'⟩

end Race

/-- How the read loop meets a close recorded from outside, over every run: it takes at most one
late frame per turn that prefers a frame over the ready close, so with every turn preferring the
close (a biased select) it takes none; such a turn ends the loop once the connection is closed,
and a loop that ended takes nothing more. -/
theorem read_loop_close_race (r : Race) (ms : List Race.Move) :
    (∃ L, (r.run ms).late = r.late ++ L ∧ L.length ≤ ms.countP Race.Move.prefersFrame) ∧
    ((∀ m ∈ ms, m.prefersFrame = false) → (r.run ms).late = r.late) ∧
    (r.reading = true → r.closed = true → (r.select true).reading = false) ∧
    (r.reading = false → (r.run ms).reading = false ∧ (r.run ms).late = r.late) := by
  obtain ⟨L, hL, hn⟩ := Race.late_run r ms
  refine ⟨⟨L, hL, hn⟩, fun hbiased => ?_, Race.select_closed, fun hr => Race.run_of_ended hr ms⟩
  -- a biased run has no turn that can take a late frame
  have hzero : ms.countP Race.Move.prefersFrame = 0 := List.countP_eq_zero.2 fun m hm => by simp [hbiased m hm]
  have hnil : L = [] := List.eq_nil_of_length_eq_zero (by omega)
  rw [hL, hnil, List.append_nil]

/-- Alice and Bob are connected, both public, with Alice's session in the store; Alice's read
loop runs and her peer has sent nothing yet. -/
def aliceReads : Race where
  world :=
    { hub := ((({ access := { store := { users := [⟨⟨1⟩, "alice", true⟩, ⟨⟨2⟩, "bob", true⟩],
                                          sessions := [("token-1", ⟨1⟩)] } } } : Hub).accept
                ⟨⟨1⟩, "alice", "token-1"⟩ 8).2.accept ⟨⟨2⟩, "bob", "token-2"⟩ 8).2
      config := {}
      links := [{ conn := ⟨0⟩, deadline := 1, heartbeat := none }]
      presenceNext := none }
  conn := ⟨0⟩

def helloBob : PeerEvent :=
  .text "\x7b\"type\":\"send_message\",\"payload\":\x7b\"message\":\"hi bob\",\"receiver_id\":2\x7d\x7d"

/-- The frame waits in the transport when a shutdown closes Alice's connection; the next turn of
her read loop takes the frame over the ready close, and the message is stored. -/
theorem routed_after_shutdown :
    (aliceReads.run [.arrive helloBob, .shutdown]).closed = true ∧
      (aliceReads.run [.arrive helloBob, .shutdown, .select false]).late.length = 1 ∧
      (aliceReads.run [.arrive helloBob, .shutdown, .select false]).world.hub.access.store.messages.length = 1 := by
  decide

end Switchboard.Live
