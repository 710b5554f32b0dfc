import Mathlib.Data.Finset.Basic
import Switchboard.Proofs.HubFrame
/-!
# The lifecycle of a connection, under any interleaving

A connection is torn down from several places at once. Its read loop records a close reason of
its own (a bad frame, a store failure) and breaks out; its write loop breaks out on the close
signal or a failed write; the direct-message handler closes it for a revoked session and removes
it from the registry; shutdown closes every registered connection. A loop that broke out asks for
the connection's removal, which unregisters it and records the normal close unless a reason is
there already (`Hub.unregister`).

`Life` runs these operations, on any connections and in any order, over one hub: `Act` lists
them and `Life.step` runs one. Each is one atomic step of the server. A close takes the
connection's close signal; a removal holds the registry's write lock over its removal and its
close; shutdown's close holds the read lock throughout, so no registration or removal falls
inside it. A close another task makes inside a removal's critical section lands before or after
the removal's own close, as a separate step does here. For the statements only, `Life` keeps
every close and remove call with its answer, and where each loop stands.

Main statement, `connection_lifecycle`: along every run from a hub with no connections, the
first close call on a connection is the only one that takes, and its reason stays; a removal
takes at most once per connection and leaves it unregistered and closed; every accepted
connection that is unregistered is closed; a loop that returned has asked for its connection's
removal, and the connection is unregistered; an act on one connection leaves every other
connection's registration and close reason alone, except shutdown, which records the normal
close on the registered connections that had none.
-/

namespace Switchboard

/-! ## Runs of the lifecycle -/

namespace Lifecycle

open Wire

inductive Loop where
  | read
  | write
  deriving DecidableEq, Repr

/-- Where a loop stands: in its loop, out of it with the removal of its connection still to ask
for, or returned after asking for it. -/
inductive Phase where
  | running
  | leaving
  | returned
  deriving DecidableEq, Repr

/-- A close or a removal asked of a connection, with its answer. -/
inductive Call where
  | close (c : ConnId) (took : Bool)
  | remove (c : ConnId) (took : Bool)
  deriving DecidableEq, Repr

def Call.closeOn? (c : ConnId) : Call → Option Bool
  | .close d took => if d = c then some took else none
  | .remove _ _ => none

def Call.removeOn? (c : ConnId) : Call → Option Bool
  | .close _ _ => none
  | .remove d took => if d = c then some took else none

@[simp] theorem Call.closeOn?_close (c d : ConnId) (b : Bool) :
    (Call.close d b).closeOn? c = if d = c then some b else none := rfl

@[simp] theorem Call.closeOn?_remove (c d : ConnId) (b : Bool) : (Call.remove d b).closeOn? c = none := rfl

@[simp] theorem Call.removeOn?_close (c d : ConnId) (b : Bool) : (Call.close d b).removeOn? c = none := rfl

@[simp] theorem Call.removeOn?_remove (c d : ConnId) (b : Bool) :
    (Call.remove d b).removeOn? c = if d = c then some b else none := rfl

/-- The operations of the server on its connections: an accept makes a connection for an
identity, registers it, sends its snapshot and starts both its loops; a close is the read loop's
own or the direct-message handler's for a revoked session; a removal is the direct-message
handler's; any producer may offer an event to a queue. A loop breaks out (`stop`) on its own
grounds: the read loop on a close frame, the end of the stream, a read error, its deadline, a
fatal error or the close signal; the write loop on the close signal, a failed write or the end of
its queue. Once out it asks for the removal of its connection and returns (`exit`). Shutdown
closes every registered connection normally. -/
inductive Act where
  | accept (identity : Identity) (capacity : Nat)
  | close (c : ConnId) (r : CloseReason)
  | remove (c : ConnId)
  | send (c : ConnId) (tag : EventTag) (payload : Json)
  | stop (c : ConnId) (loop : Loop)
  | exit (c : ConnId) (loop : Loop)
  | shutdown

/-- The hub, where each loop of each accepted connection stands (none before it is accepted), and
every close and removal so far with its answer, oldest first. -/
structure Life where
  hub : Hub
  phase : ConnId → Loop → Option Phase
  calls : List Call

namespace Life

def start (h : Hub) : Life := ⟨{ h with conns := [], registry := {} }, fun _ _ => none, []⟩

def closes (L : Life) (c : ConnId) : List Bool := L.calls.filterMap (Call.closeOn? c)

def removes (L : Life) (c : ConnId) : List Bool := L.calls.filterMap (Call.removeOn? c)

def close (L : Life) (c : ConnId) (r : CloseReason) : Life :=
  if (L.hub.conn? c).isSome then
    { L with hub := (L.hub.closeConn c r).2, calls := L.calls ++ [.close c (L.hub.closeConn c r).1] }
  else L

def remove (L : Life) (c : ConnId) : Life :=
  let removed := (L.hub.registry.remove c).1
  let L' : Life := { L with hub := { L.hub with registry := (L.hub.registry.remove c).2 },
                            calls := L.calls ++ [.remove c removed] }
  if removed then L'.close c .normal else L'

def closeAll (L : Life) : Life := L.hub.registry.conns.foldl (fun L c => L.close c .normal) L

def setPhase (L : Life) (c : ConnId) (loop : Loop) (p : Phase) : Life :=
  { L with phase := fun d k => if d = c ∧ k = loop then some p else L.phase d k }

/-- One operation. A loop breaks out only while it runs, and asks for the removal only once
out. -/
def step (L : Life) : Act → Life
  | .accept identity capacity =>
    { L with hub := (L.hub.accept identity capacity).2,
             phase := fun d k => if d = (L.hub.accept identity capacity).1 then some .running else L.phase d k }
  | .close c r => L.close c r
  | .remove c => L.remove c
  | .send c tag payload => { L with hub := (L.hub.sendEvent c tag payload).2 }
  | .stop c loop => if L.phase c loop = some .running then L.setPhase c loop .leaving else L
  | .exit c loop => if L.phase c loop = some .leaving then (L.remove c).setPhase c loop .returned else L
  | .shutdown => L.closeAll

def run (L : Life) (acts : List Act) : Life := acts.foldl step L

def target (L : Life) : Act → Option ConnId
  | .accept identity capacity => some (L.hub.accept identity capacity).1
  | .close c _ | .remove c | .send c _ _ | .stop c _ | .exit c _ => some c
  | .shutdown => none

/-! ### What each operation does -/

variable {L : Life} {c d : ConnId}

theorem close_hub (L : Life) (c : ConnId) (r : CloseReason) : (L.close c r).hub = (L.hub.closeConn c r).2 := by
  unfold close
  split
  · rfl
  · rename_i hc
    rw [Hub.closeConn_of_none (Option.not_isSome_iff_eq_none.1 hc)]

@[simp] theorem close_phase (L : Life) (c : ConnId) (r : CloseReason) : (L.close c r).phase = L.phase := by
  unfold close; split <;> rfl

theorem close_calls (L : Life) (c : ConnId) (r : CloseReason) :
    (L.close c r).calls =
      L.calls ++ if (L.hub.conn? c).isSome then [.close c (L.hub.closeReasonOf c).isNone] else [] := by
  unfold close
  split
  · rename_i hc
    simp [Hub.closeConn_fst, hc]
  · simp_all

theorem close_closes (L : Life) (c d : ConnId) (r : CloseReason) :
    (L.close c r).closes d =
      L.closes d ++ if c = d ∧ (L.hub.conn? d).isSome then [(L.hub.closeReasonOf d).isNone] else [] := by
  simp only [closes, close_calls, List.filterMap_append]
  by_cases hcd : c = d
  · subst hcd
    split <;> simp [Call.closeOn?, *]
  · split <;> simp [Call.closeOn?, hcd]

theorem close_removes (L : Life) (c d : ConnId) (r : CloseReason) : (L.close c r).removes d = L.removes d := by
  simp only [removes, close_calls, List.filterMap_append]
  split <;> simp [Call.removeOn?]

theorem calls_extend_on_close (L : Life) (c : ConnId) (r : CloseReason) : L.calls <+: (L.close c r).calls := by
  rw [close_calls]
  exact List.prefix_append _ _

theorem remove_hub (L : Life) (c : ConnId) : (L.remove c).hub = (L.hub.unregister c).2 := by
  unfold remove
  dsimp only
  rw [Hub.unregister_eq, Registry.remove_fst]
  split
  · rw [close_hub]
  · rename_i hreg
    simp only [Registry.remove, if_neg hreg]

@[simp] theorem remove_phase (L : Life) (c : ConnId) : (L.remove c).phase = L.phase := by
  unfold remove; dsimp only; split <;> simp

theorem remove_calls (L : Life) (c : ConnId) :
    (L.remove c).calls = L.calls ++ .remove c (L.hub.registry.contains c) ::
      if L.hub.registry.contains c = true ∧ (L.hub.conn? c).isSome then
        [.close c (L.hub.closeReasonOf c).isNone] else [] := by
  unfold remove
  dsimp only
  rw [Registry.remove_fst]
  split
  · rename_i hreg
    rw [close_calls]
    simp [hreg, Hub.closeReasonOf, Hub.conn?]
  · rename_i hreg
    simp [hreg]

theorem remove_closes (L : Life) (c d : ConnId) :
    (L.remove c).closes d = L.closes d ++
      if c = d ∧ L.hub.registry.contains c = true ∧ (L.hub.conn? d).isSome then
        [(L.hub.closeReasonOf d).isNone] else [] := by
  unfold closes
  rw [remove_calls]
  by_cases hcd : c = d
  · subst hcd
    split
    · rename_i h
      simp [h, List.filterMap_cons]
    · rename_i h
      simp [h]
  · split <;> simp [hcd]

theorem remove_removes (L : Life) (c d : ConnId) :
    (L.remove c).removes d = L.removes d ++ if c = d then [L.hub.registry.contains c] else [] := by
  unfold removes
  rw [remove_calls]
  by_cases hcd : c = d
  · subst hcd
    split <;> simp
  · split <;> simp [hcd]

theorem remove_calls_mem (L : Life) (c : ConnId) : ∃ b, Call.remove c b ∈ (L.remove c).calls :=
  ⟨L.hub.registry.contains c, by rw [remove_calls]; simp⟩

theorem calls_extend_on_remove (L : Life) (c : ConnId) : L.calls <+: (L.remove c).calls := by
  rw [remove_calls]
  exact List.prefix_append _ _

theorem closeAll_hub (L : Life) : L.closeAll.hub = L.hub.closeAll.2 := by
  suffices ∀ (cs : List ConnId) (L : Life), (cs.foldl (fun L c => L.close c .normal) L).hub =
      cs.foldl (fun h c => (h.closeConn c .normal).2) L.hub from this _ _
  intro cs
  induction cs with
  | nil => exact fun _ => rfl
  | cons c cs ih => exact fun L => by rw [List.foldl_cons, ih, close_hub]; rfl

@[simp] theorem setPhase_hub (L : Life) (c : ConnId) (k : Loop) (p : Phase) :
    (L.setPhase c k p).hub = L.hub := rfl

@[simp] theorem setPhase_calls (L : Life) (c : ConnId) (k : Loop) (p : Phase) :
    (L.setPhase c k p).calls = L.calls := rfl

end Life

/-! ### What every run keeps -/

/-- The answers of a connection's closes against its close reason: no close and no reason, or a
reason, a first close that took and none after it that did. -/
def ClosedOnce (reason : Option CloseReason) (answers : List Bool) : Prop :=
  (reason = none ∧ answers = []) ∨ (reason.isSome ∧ ∃ k, answers = true :: List.replicate k false)

theorem ClosedOnce.close {o : Option CloseReason} {bs : List Bool} (h : ClosedOnce o bs) (r : CloseReason) :
    ClosedOnce (some (o.getD r)) (bs ++ [o.isNone]) := by
  rcases h with ⟨rfl, rfl⟩ | ⟨hsome, k, rfl⟩
  · exact .inr ⟨rfl, 0, rfl⟩
  · obtain ⟨r', rfl⟩ := Option.isSome_iff_exists.1 hsome
    exact .inr ⟨rfl, k + 1, by simp [List.replicate_succ']⟩

open Life

/-- What every reachable state keeps. -/
structure Inv (L : Life) : Prop where
  /-- Ids from the number of connections up are unused. -/
  fresh : ∀ c : ConnId, L.hub.conns.length ≤ c.val → L.hub.conn? c = none
  /-- Only accepted connections are registered. -/
  registered : ∀ c, L.hub.registry.contains c = true → (L.hub.conn? c).isSome
  /-- Only accepted connections have loops. -/
  loops : ∀ c k p, L.phase c k = some p → (L.hub.conn? c).isSome
  /-- The first close of a connection took, and no later one. -/
  closes : ∀ c, ClosedOnce (L.hub.closeReasonOf c) (L.closes c)
  /-- One removal took of each accepted connection that is no longer registered, and none of the
  others. -/
  removes : ∀ c, (L.removes c).count true =
    if (L.hub.conn? c).isSome ∧ L.hub.registry.contains c = false then 1 else 0
  /-- An accepted connection that is no longer registered is closed. -/
  closed : ∀ c, (L.hub.conn? c).isSome → L.hub.registry.contains c = false → (L.hub.closeReasonOf c).isSome
  /-- A loop that returned asked for the removal of its connection, which is unregistered. -/
  returned : ∀ c k, L.phase c k = some .returned →
    L.hub.registry.contains c = false ∧ ∃ b, Call.remove c b ∈ L.calls

namespace Inv

variable {L : Life}

theorem start (h : Hub) : Inv (Life.start h) where
  fresh _ _ := rfl
  registered _ h := nomatch h
  loops _ _ _ h := nomatch h
  closes _ := .inl ⟨rfl, rfl⟩
  removes _ := by simp [Life.start, Life.removes, Hub.conn?]
  closed _ h := nomatch h
  returned _ _ h := nomatch h

theorem close (hL : Inv L) (c : ConnId) (r : CloseReason) : Inv (L.close c r) := by
  have hsome : ∀ d, ((L.close c r).hub.conn? d).isSome = (L.hub.conn? d).isSome := fun d => by
    rw [close_hub, Hub.isSome_conn?_closeConn]
  have hreg : (L.close c r).hub.registry = L.hub.registry := by rw [close_hub, Hub.closeConn_registry]
  refine ⟨fun d hd => ?_, fun d hd => ?_, fun d k p hp => ?_, fun d => ?_, fun d => ?_,
    fun d hd hun => ?_, fun d k hk => ?_⟩
  · rw [close_hub, Hub.closeConn_conns_length] at hd
    rw [← Option.not_isSome_iff_eq_none, hsome, hL.fresh d hd]
    simp
  · rw [hsome]
    exact hL.registered d (by rwa [hreg] at hd)
  · rw [hsome]
    exact hL.loops d k p (by rwa [close_phase] at hp)
  · -- a close of `d` itself is the one that counts or one that does not
    rw [close_closes, close_hub, Hub.closeReasonOf_closeConn]
    split
    · rename_i h
      obtain ⟨rfl, -⟩ := h
      exact (hL.closes c).close r
    · rw [List.append_nil]
      exact hL.closes d
  · rw [close_removes, hsome, hreg]
    exact hL.removes d
  · rw [hsome] at hd
    rw [hreg] at hun
    rw [close_hub, Hub.closeReasonOf_closeConn]
    split
    · rfl
    · exact hL.closed d hd hun
  · rw [close_phase] at hk
    obtain ⟨hun, b, hb⟩ := hL.returned d k hk
    exact ⟨by rwa [hreg], b, (calls_extend_on_close L c r).subset hb⟩

theorem remove (hL : Inv L) (c : ConnId) : Inv (L.remove c) := by
  have hsome : ∀ d, ((L.remove c).hub.conn? d).isSome = (L.hub.conn? d).isSome := fun d => by
    rw [remove_hub, Hub.isSome_conn?_unregister]
  have hreg : ∀ d, (L.remove c).hub.registry.contains d = (L.hub.registry.contains d && c != d) := fun d => by
    rw [remove_hub, Hub.registry_unregister]
  refine ⟨fun d hd => ?_, fun d hd => ?_, fun d k p hp => ?_, fun d => ?_, fun d => ?_,
    fun d hd hun => ?_, fun d k hk => ?_⟩
  · rw [remove_hub, Hub.unregister_conns_length] at hd
    rw [← Option.not_isSome_iff_eq_none, hsome, hL.fresh d hd]
    simp
  · rw [hsome]
    rw [hreg] at hd
    exact hL.registered d (Bool.and_eq_true_iff.1 hd).1
  · rw [hsome]
    exact hL.loops d k p (by rwa [remove_phase] at hp)
  · -- the removal's own close counts only if it removed an open connection
    rw [remove_closes, remove_hub, Hub.closeReasonOf_unregister]
    split
    · rename_i h
      obtain ⟨rfl, -, -⟩ := h
      exact (hL.closes c).close _
    · rw [List.append_nil]
      exact hL.closes d
  · rw [remove_removes, hsome, hreg]
    by_cases hcd : c = d
    · subst hcd
      have hcount := hL.removes c
      cases hc : L.hub.registry.contains c with
      | false => simp_all
      | true =>
        -- the connection was registered: this removal is the first to take
        have hx := hL.registered c hc
        simp_all
    · simp [hcd, hL.removes d]
  · rw [hsome] at hd
    rw [remove_hub, Hub.closeReasonOf_unregister]
    split
    · rfl
    · rename_i h
      by_cases hcd : c = d
      · subst hcd
        -- unregistered now, it was registered before only if this removal closed it
        have hun' : L.hub.registry.contains c = false := by
          by_contra hreg'
          exact h ⟨rfl, Bool.eq_true_of_not_eq_false hreg', hd⟩
        exact hL.closed c hd hun'
      · rw [hreg] at hun
        exact hL.closed d hd (by simpa [hcd] using hun)
  · rw [remove_phase] at hk
    obtain ⟨hun, b, hb⟩ := hL.returned d k hk
    exact ⟨by rw [hreg, hun]; rfl, b, (calls_extend_on_remove L c).subset hb⟩

theorem setPhase (hL : Inv L) {c : ConnId} {k : Loop} {p : Phase} (hc : (L.hub.conn? c).isSome)
    (hret : p = .returned → L.hub.registry.contains c = false ∧ ∃ b, Call.remove c b ∈ L.calls) :
    Inv (L.setPhase c k p) := by
  refine ⟨hL.fresh, hL.registered, fun d k' p' hp => ?_, hL.closes, hL.removes, hL.closed,
    fun d k' hk => ?_⟩
  · simp only [Life.setPhase] at hp
    split at hp
    · rename_i h
      rw [h.1]
      exact hc
    · exact hL.loops d k' p' hp
  · simp only [Life.setPhase] at hk
    split at hk
    · rename_i h
      rw [h.1]
      exact hret (Option.some.inj hk)
    · exact hL.returned d k' hk

theorem accept (hL : Inv L) (identity : Identity) (capacity : Nat) :
    Inv (L.step (.accept identity capacity)) := by
  have hfresh := hL.fresh ⟨L.hub.conns.length⟩ le_rfl
  have hc := Hub.accept_fst L.hub identity capacity
  have hlen := Hub.conns_length_accept L.hub identity capacity
  -- the new connection had no reason, no close, no removal and no loops before
  have hnew : L.hub.closeReasonOf ⟨L.hub.conns.length⟩ = none := by simp [Hub.closeReasonOf, hfresh]
  have hsome : ∀ d, ((L.step (.accept identity capacity)).hub.conn? d).isSome =
      ((L.hub.conn? d).isSome || decide (d = ⟨L.hub.conns.length⟩)) := fun d => by
    by_cases hd : d = ⟨L.hub.conns.length⟩
    · subst hd
      simp [Life.step, Hub.isSome_conn?_accept _ _ _ hfresh]
    · simp [Life.step, Hub.conn?_accept_of_ne _ _ _ hd, hd]
  have hreg : ∀ d, (L.step (.accept identity capacity)).hub.registry.contains d =
      (L.hub.registry.contains d || decide (d = ⟨L.hub.conns.length⟩)) :=
    Hub.contains_accept _ _ _ hfresh
  refine ⟨fun d hd => ?_, fun d hd => ?_, fun d k p hp => ?_, fun d => ?_, fun d => ?_,
    fun d hd hun => ?_, fun d k hk => ?_⟩
  · change (L.hub.accept identity capacity).2.conns.length ≤ d.val at hd
    rw [hlen] at hd
    have hne : d ≠ ⟨L.hub.conns.length⟩ := by
      rintro rfl
      exact Nat.not_succ_le_self _ hd
    exact (Hub.conn?_accept_of_ne _ _ _ hne).trans (hL.fresh d (Nat.le_of_succ_le hd))
  · rw [hsome]
    rw [hreg] at hd
    rcases Bool.or_eq_true_iff.1 hd with hd | hd
    · simp [hL.registered d hd]
    · simp [hd]
  · rw [hsome]
    simp only [Life.step, hc] at hp
    split at hp
    · simp_all
    · simp [hL.loops d k p hp]
  · by_cases hd : d = ⟨L.hub.conns.length⟩
    · subst hd
      have hold := hL.closes ⟨L.hub.conns.length⟩
      change ClosedOnce ((L.hub.accept identity capacity).2.closeReasonOf _) (L.closes _)
      rw [Hub.closeReasonOf_accept_self _ _ _ hfresh]
      rwa [hnew] at hold
    · change ClosedOnce ((L.hub.accept identity capacity).2.closeReasonOf d) (L.closes d)
      rw [Hub.closeReasonOf_accept_of_ne _ _ _ hd]
      exact hL.closes d
  · change (L.removes d).count true = _
    rw [hsome, hreg, hL.removes d]
    by_cases hd : d = ⟨L.hub.conns.length⟩
    · subst hd
      simp [hfresh]
    · simp [hd]
  · by_cases hdn : d = ⟨L.hub.conns.length⟩
    · rw [hreg] at hun
      simp [hdn] at hun
    · rw [hsome] at hd
      rw [hreg] at hun
      change ((L.hub.accept identity capacity).2.closeReasonOf d).isSome
      rw [Hub.closeReasonOf_accept_of_ne _ _ _ hdn]
      exact hL.closed d (by simpa [hdn] using hd) (by simpa [hdn] using hun)
  · simp only [Life.step, hc] at hk
    split at hk
    · cases hk
    · rename_i hdn
      obtain ⟨hun, hcall⟩ := hL.returned d k hk
      refine ⟨?_, hcall⟩
      rw [hreg, hun]
      simp [hdn]

/-- A step that keeps the registry, every connection's existence and close reason, and the number
of connections keeps the invariant. -/
theorem of_calm (hL : Inv L) {h : Hub} (hcalm : Hub.Calm L.hub h) (hlen : h.conns.length = L.hub.conns.length) :
    Inv { L with hub := h } := by
  refine ⟨fun d hd => ?_, fun d hd => ?_, fun d k p hp => ?_, fun d => ?_, fun d => ?_,
    fun d hd hun => ?_, fun d k hk => ?_⟩
  · exact hcalm.conn?_eq_none (hL.fresh d (hlen ▸ hd))
  · change h.registry.contains d = true at hd
    change (h.conn? d).isSome
    rw [hcalm.1] at hd
    rw [hcalm.isSome]
    exact hL.registered d hd
  · change (h.conn? d).isSome
    rw [hcalm.isSome]
    exact hL.loops d k p hp
  · change ClosedOnce (h.closeReasonOf d) (L.closes d)
    rw [hcalm.closeReasonOf]
    exact hL.closes d
  · change (L.removes d).count true = if (h.conn? d).isSome ∧ h.registry.contains d = false then 1 else 0
    simp only [hcalm.isSome, hcalm.1]
    exact hL.removes d
  · change (h.conn? d).isSome at hd
    change h.registry.contains d = false at hun
    change (h.closeReasonOf d).isSome
    rw [hcalm.isSome] at hd
    rw [hcalm.1] at hun
    rw [hcalm.closeReasonOf]
    exact hL.closed d hd hun
  · change h.registry.contains d = false ∧ ∃ b, Call.remove d b ∈ L.calls
    rw [hcalm.1]
    exact hL.returned d k hk

theorem send (hL : Inv L) (c : ConnId) (tag : EventTag) (payload : Json) :
    Inv (L.step (.send c tag payload)) :=
  hL.of_calm (Hub.calm_sendEvent L.hub c tag payload) (Hub.sendEvent_conns_length L.hub c tag payload)

theorem closeAll (hL : Inv L) : Inv L.closeAll := by
  suffices ∀ (cs : List ConnId) (L : Life), Inv L → Inv (cs.foldl (fun L c => L.close c .normal) L) from
    this _ _ hL
  intro cs
  induction cs with
  | nil => exact fun _ h => h
  | cons c cs ih => exact fun L h => ih _ (h.close c .normal)

theorem step (hL : Inv L) (a : Act) : Inv (L.step a) := by
  cases a with
  | accept identity capacity => exact hL.accept identity capacity
  | close c r => exact hL.close c r
  | remove c => exact hL.remove c
  | send c tag payload => exact hL.send c tag payload
  | stop c loop =>
    simp only [Life.step]
    split
    · rename_i hrun
      exact hL.setPhase (hL.loops c loop _ hrun) (fun h => nomatch h)
    · exact hL
  | exit c loop =>
    simp only [Life.step]
    split
    · rename_i hleave
      have hc : ((L.remove c).hub.conn? c).isSome := by
        rw [remove_hub, Hub.isSome_conn?_unregister]
        exact hL.loops c loop _ hleave
      refine (hL.remove c).setPhase hc fun _ => ⟨?_, remove_calls_mem L c⟩
      rw [remove_hub, Hub.registry_unregister]
      simp
    · exact hL
  | shutdown => exact hL.closeAll

theorem run (hL : Inv L) (acts : List Act) : Inv (L.run acts) := by
  induction acts generalizing L with
  | nil => exact hL
  | cons a acts ih => exact ih (hL.step a)

end Inv

/-! ### One step, seen from the other connections -/

namespace Life

variable {L : Life}

theorem closeReasonOf_step (hL : Inv L) {c : ConnId} {r : CloseReason} (hr : L.hub.closeReasonOf c = some r)
    (a : Act) : (L.step a).hub.closeReasonOf c = some r := by
  cases a with
  | accept identity capacity =>
    -- a connection with a reason exists, so the new one is another
    have hne : c ≠ ⟨L.hub.conns.length⟩ := by
      rintro rfl
      simp [Hub.closeReasonOf, hL.fresh _ le_rfl] at hr
    exact (Hub.closeReasonOf_accept_of_ne _ _ _ hne).trans hr
  | close d r' =>
    rw [Life.step, close_hub]
    exact Hub.closeReasonOf_closeConn_of_some hr d r'
  | remove d =>
    rw [Life.step, remove_hub]
    exact Hub.closeReasonOf_unregister_of_some hr d
  | send d tag payload => exact ((Hub.calm_sendEvent L.hub d tag payload).closeReasonOf c).trans hr
  | stop d loop =>
    simp only [Life.step]
    split
    · exact hr
    · exact hr
  | exit d loop =>
    simp only [Life.step]
    split
    · rw [setPhase_hub, remove_hub]
      exact Hub.closeReasonOf_unregister_of_some hr d
    · exact hr
  | shutdown =>
    rw [Life.step, closeAll_hub, Hub.closeReasonOf_closeAll, hr]
    split <;> rfl

theorem closeReasonOf_run (hL : Inv L) {c : ConnId} {r : CloseReason} (hr : L.hub.closeReasonOf c = some r)
    (acts : List Act) : (L.run acts).hub.closeReasonOf c = some r := by
  induction acts generalizing L with
  | nil => exact hr
  | cons a acts ih => exact ih (hL.step a) (closeReasonOf_step hL hr a)

/-- An act other than shutdown leaves every connection it is not on registered or not as it was,
and with its close reason. -/
theorem step_of_ne_target (hL : Inv L) {a : Act} {d : ConnId} (ha : a ≠ .shutdown)
    (hd : L.target a ≠ some d) :
    (L.step a).hub.registry.contains d = L.hub.registry.contains d ∧
      (L.step a).hub.closeReasonOf d = L.hub.closeReasonOf d := by
  cases a with
  | accept identity capacity =>
    have hne : d ≠ ⟨L.hub.conns.length⟩ := by
      rintro rfl
      exact hd (by rw [Life.target, Hub.accept_fst])
    refine ⟨?_, Hub.closeReasonOf_accept_of_ne _ _ _ hne⟩
    change (L.hub.accept identity capacity).2.registry.contains d = _
    rw [Hub.contains_accept _ _ _ (hL.fresh _ le_rfl)]
    simp [hne]
  | close c r =>
    have hne : c ≠ d := fun h => hd (by rw [h]; rfl)
    rw [Life.step, close_hub, Hub.closeConn_registry, Hub.closeReasonOf_closeConn]
    simp [hne]
  | remove c =>
    have hne : c ≠ d := fun h => hd (by rw [h]; rfl)
    rw [Life.step, remove_hub, Hub.registry_unregister, Hub.closeReasonOf_unregister]
    simp [hne]
  | send c tag payload =>
    have hcalm := Hub.calm_sendEvent L.hub c tag payload
    exact ⟨by rw [Life.step, hcalm.1], hcalm.closeReasonOf d⟩
  | stop c loop =>
    simp only [Life.step]
    split <;> exact ⟨rfl, rfl⟩
  | exit c loop =>
    have hne : c ≠ d := fun h => hd (by rw [h]; rfl)
    simp only [Life.step]
    split
    · rw [setPhase_hub, remove_hub, Hub.registry_unregister, Hub.closeReasonOf_unregister]
      simp [hne]
    · exact ⟨rfl, rfl⟩
  | shutdown => exact absurd rfl ha

/-- Shutdown keeps the registry and records the normal close on every registered connection that
had no reason. -/
theorem step_shutdown (hL : Inv L) :
    (L.step .shutdown).hub.registry = L.hub.registry ∧
      ∀ d, (L.step .shutdown).hub.closeReasonOf d =
        if L.hub.registry.contains d then some ((L.hub.closeReasonOf d).getD .normal)
        else L.hub.closeReasonOf d := by
  refine ⟨by rw [Life.step, closeAll_hub, Hub.closeAll_registry], fun d => ?_⟩
  rw [Life.step, closeAll_hub, Hub.closeReasonOf_closeAll]
  by_cases hreg : L.hub.registry.contains d = true
  · simp [hreg, hL.registered d hreg]
  · simp [hreg]

end Life

/-! ## The lifecycle contract -/

/-- The lifecycle of connections. Along every run of accepts, closes, removals, offers, loops
breaking out and returning, and shutdowns, from a hub with no connections:
1. the closes of a connection answer that the first took and no later one did, and a close
   reason once recorded stays through any further run;
2. at most one removal of a connection takes, and once one has, the connection is unregistered
   and closed;
3. every accepted connection that is no longer registered has a close reason;
4. a loop that returned has asked for its connection's removal, and the connection is
   unregistered;
5. an act other than shutdown leaves every connection it is not on registered or not as it
   was, and with its close reason; shutdown keeps the registry and records the normal close on
   every registered connection that had no reason, and on no other. -/
theorem connection_lifecycle (h : Hub) (acts : List Act) :
    let L := (Life.start h).run acts
    (∀ c, (L.closes c = [] ∨ ∃ k, L.closes c = true :: List.replicate k false) ∧
      ∀ r more, L.hub.closeReasonOf c = some r → (L.run more).hub.closeReasonOf c = some r) ∧
    (∀ c, (L.removes c).count true ≤ 1 ∧
      (true ∈ L.removes c → L.hub.registry.contains c = false ∧ (L.hub.closeReasonOf c).isSome)) ∧
    (∀ c, (L.hub.conn? c).isSome → L.hub.registry.contains c = false → (L.hub.closeReasonOf c).isSome) ∧
    (∀ c k, L.phase c k = some .returned →
      (∃ b, Call.remove c b ∈ L.calls) ∧ L.hub.registry.contains c = false) ∧
    (∀ a d, a ≠ .shutdown → L.target a ≠ some d →
      (L.step a).hub.registry.contains d = L.hub.registry.contains d ∧
        (L.step a).hub.closeReasonOf d = L.hub.closeReasonOf d) ∧
    (L.step .shutdown).hub.registry = L.hub.registry ∧
    ∀ d, (L.step .shutdown).hub.closeReasonOf d =
      if L.hub.registry.contains d then some ((L.hub.closeReasonOf d).getD .normal)
      else L.hub.closeReasonOf d := by
  intro L
  have hL : Inv L := (Inv.start h).run acts
  refine ⟨fun c => ⟨?_, fun r more hr => Life.closeReasonOf_run hL hr more⟩, fun c => ⟨?_, fun hmem => ?_⟩,
    hL.closed, fun c k hk => (hL.returned c k hk).symm, fun a d ha hd => Life.step_of_ne_target hL ha hd,
    (Life.step_shutdown hL).1, (Life.step_shutdown hL).2⟩
  · rcases hL.closes c with ⟨-, hnil⟩ | ⟨-, k, hk⟩
    · exact .inl hnil
    · exact .inr ⟨k, hk⟩
  · rw [hL.removes c]
    split <;> omega
  · -- a removal that took leaves the connection unregistered, hence closed
    have hpos : 0 < (L.removes c).count true := List.count_pos_iff.2 hmem
    rw [hL.removes c] at hpos
    split at hpos
    · rename_i hun
      exact ⟨hun.2, hL.closed c hun.1 hun.2⟩
    · exact absurd hpos (Nat.lt_irrefl 0)

end Lifecycle

end Switchboard
