import Mathlib.Data.List.Nodup
import Switchboard.Proofs.HubFrame
/-!
# What a presence tick sends

A presence tick compares who is online with what the tracker saw at the previous tick. These
lemmas say it in terms of the registry's entries, one fact per operation:

* a user is online exactly when some registered connection belongs to them, and each online
  user's connections are registered connections of that user;
* the update's newly online users are the online users that are new to the tracker (absent, or
  online through a connection it did not see), its offline users those the tracker saw and
  that are online no more, and the tracker then holds who is online now;
* each registered connection is offered the update without its own user, once, unless nothing
  is left; nothing else changes in the connections.
-/

namespace Switchboard

open Wire

/-! ## Who is online -/

namespace Registry

theorem mem_insertConn (c d : ConnId) (ds : List ConnId) : d ∈ insertConn c ds ↔ d = c ∨ d ∈ ds := by
  induction ds with
  | nil => simp [insertConn]
  | cons d' ds ih =>
    unfold insertConn
    by_cases hlt : c.val < d'.val
    · simp [hlt]
    · by_cases hcd : c = d'
      · subst hcd
        simp
      · simp only [hlt, hcd, if_false, List.mem_cons, ih]
        exact or_left_comm

/-- The entries after adding a registration: the old ones, a new one for a new user, or the
user's entry with the connection added. -/
theorem mem_addOnline {e : Registration} {os : List OnlineUser} {o : OnlineUser}
    (ho : o ∈ addOnline e os) :
    o ∈ os ∨ o = ⟨e.info, [e.conn]⟩ ∨
      ∃ o₀ ∈ os, o₀.info.id = e.info.id ∧ o = { o₀ with conns := insertConn e.conn o₀.conns } := by
  induction os with
  | nil => simp_all [addOnline]
  | cons o₁ os ih =>
    unfold addOnline at ho
    split at ho
    · rcases List.mem_cons.1 ho with rfl | ho
      · exact .inr (.inl rfl)
      · exact .inl ho
    · split at ho
      · rename_i hid
        rcases List.mem_cons.1 ho with rfl | ho
        · exact .inr (.inr ⟨o₁, by simp, hid.symm, rfl⟩)
        · exact .inl (List.mem_cons_of_mem _ ho)
      · rcases List.mem_cons.1 ho with rfl | ho
        · exact .inl (by simp)
        · rcases ih ho with h | h | ⟨o₀, ho₀, hid, rfl⟩
          · exact .inl (List.mem_cons_of_mem _ h)
          · exact .inr (.inl h)
          · exact .inr (.inr ⟨o₀, List.mem_cons_of_mem _ ho₀, hid, rfl⟩)

theorem mem_addOnline_ids (e : Registration) (os : List OnlineUser) (x : UserId) :
    x ∈ (addOnline e os).map (·.info.id) ↔ x ∈ os.map (·.info.id) ∨ x = e.info.id := by
  induction os with
  | nil => simp [addOnline]
  | cons o₁ os ih =>
    unfold addOnline
    split
    · simp only [List.map_cons, List.mem_cons]
      grind
    · split
      · rename_i hid
        simp only [List.map_cons, List.mem_cons, hid]
        grind
      · simp only [List.map_cons, List.mem_cons, ih]
        grind

/-- What the per-user list says of the registrations folded into it so far. -/
structure Lists (es : List Registration) (os : List OnlineUser) : Prop where
  ids : ∀ x, x ∈ os.map (·.info.id) ↔ ∃ e ∈ es, e.info.id = x
  conns : ∀ o ∈ os, o.conns ≠ [] ∧ ∀ c ∈ o.conns, ∃ e ∈ es, e.conn = c ∧ e.info.id = o.info.id

theorem Lists.addOnline {es : List Registration} {os : List OnlineUser} (h : Lists es os)
    (e : Registration) : Lists (es ++ [e]) (addOnline e os) := by
  refine ⟨fun x => ?_, fun o ho => ?_⟩
  · rw [mem_addOnline_ids, h.ids]
    simp only [List.mem_append, List.mem_singleton]
    constructor
    · rintro (⟨e', he', rfl⟩ | rfl)
      · exact ⟨e', .inl he', rfl⟩
      · exact ⟨e, .inr rfl, rfl⟩
    · rintro ⟨e', he' | rfl, rfl⟩
      · exact .inl ⟨e', he', rfl⟩
      · exact .inr rfl
  · rcases mem_addOnline ho with ho | rfl | ⟨o₀, ho₀, hid, rfl⟩
    · obtain ⟨hne, hc⟩ := h.conns o ho
      exact ⟨hne, fun c hc' => by
        obtain ⟨e', he', h₁, h₂⟩ := hc c hc'
        exact ⟨e', List.mem_append_left _ he', h₁, h₂⟩⟩
    · exact ⟨by simp, fun c hc => ⟨e, by simp, (List.mem_singleton.1 hc).symm, rfl⟩⟩
    · obtain ⟨-, hc⟩ := h.conns o₀ ho₀
      refine ⟨by simp [List.ne_nil_of_mem ((mem_insertConn _ _ _).2 (.inl rfl))], fun c hc' => ?_⟩
      rcases (mem_insertConn _ _ _).1 hc' with rfl | hc'
      · exact ⟨e, by simp, rfl, hid.symm⟩
      · obtain ⟨e', he', h₁, h₂⟩ := hc c hc'
        exact ⟨e', List.mem_append_left _ he', h₁, h₂⟩

theorem lists_onlineConnections (r : Registry) : Lists r.entries r.onlineConnections := by
  unfold onlineConnections
  -- the fold adds the registrations one at a time, from an empty list
  suffices ∀ (es : List Registration) (done : List Registration) (os : List OnlineUser),
      Lists done os → Lists (done ++ es) (es.foldl (fun acc e => addOnline e acc) os) from
    by simpa using this r.entries [] [] ⟨by simp, by simp⟩
  intro es
  induction es with
  | nil =>
    intro done os h
    simpa using h
  | cons e es ih =>
    intro done os h
    simpa using ih (done ++ [e]) _ (h.addOnline e)

/-- A user is online exactly when a registered connection belongs to them. -/
theorem mem_onlineIds (r : Registry) (x : UserId) :
    x ∈ r.onlineConnections.map (·.info.id) ↔ ∃ e ∈ r.entries, e.info.id = x :=
  (lists_onlineConnections r).ids x

theorem conns_of_mem_online {r : Registry} {o : OnlineUser} (ho : o ∈ r.onlineConnections) :
    o.conns ≠ [] ∧ ∀ c ∈ o.conns, ∃ e ∈ r.entries, e.conn = c ∧ e.info.id = o.info.id :=
  (lists_onlineConnections r).conns o ho

end Registry

/-! ## The tracker's diff -/

theorem mem_insertUserId (u v : UserId) (vs : List UserId) : v ∈ insertUserId u vs ↔ v = u ∨ v ∈ vs := by
  induction vs with
  | nil => simp [insertUserId]
  | cons w vs ih =>
    unfold insertUserId
    by_cases hlt : u.val < w.val
    · simp [hlt]
    · by_cases huw : u = w
      · subst huw
        simp
      · simp only [hlt, huw, if_false, List.mem_cons, ih]
        exact or_left_comm

theorem mem_foldl_insertUserId (us acc : List UserId) (v : UserId) :
    v ∈ us.foldl (fun acc u => insertUserId u acc) acc ↔ v ∈ acc ∨ v ∈ us := by
  induction us generalizing acc with
  | nil => simp
  | cons u us ih =>
    simp only [List.foldl_cons, ih, mem_insertUserId, List.mem_cons]
    grind

theorem mem_setConns {u : UserId} {cs : List ConnId} {m : List (UserId × List ConnId)}
    {p : UserId × List ConnId} (hp : p ∈ setConns u cs m) : p ∈ m ∨ p = (u, cs) := by
  unfold setConns at hp
  split at hp
  · obtain ⟨⟨v, ds⟩, hm, rfl⟩ := List.mem_map.1 hp
    by_cases hv : v = u
    · subst hv
      simp
    · simp [hv, hm]
  · simpa using hp

theorem mem_setConns_ids (u : UserId) (cs : List ConnId) (m : List (UserId × List ConnId)) (x : UserId) :
    x ∈ (setConns u cs m).map (·.1) ↔ x ∈ m.map (·.1) ∨ x = u := by
  unfold setConns
  split
  · rename_i hu
    have : ∀ p : UserId × List ConnId, (if p.1 == u then (p.1, cs) else p).1 = p.1 := by
      intro p
      split <;> rfl
    simp only [List.map_map, Function.comp_def, this]
    constructor
    · exact .inl
    · rintro (h | rfl)
      · exact h
      · simpa using hu
  · simp

namespace Tracker

theorem isNew_eq_false {t : Tracker} {o : OnlineUser} :
    t.isNew o = false ↔ ∃ prev, t.seen.lookup o.info.id = some prev ∧ ∀ c ∈ o.conns, c ∈ prev := by
  unfold isNew
  cases t.seen.lookup o.info.id with
  | none => simp
  | some prev => simp [connsWithin, List.all_eq_true]

variable (t : Tracker) (now : List OnlineUser)

/-- The users an update shows newly online: the online users new to the tracker. -/
theorem mem_diff_online (x : UserId) :
    x ∈ (t.diff now).1.online.map (·.id) ↔ ∃ o ∈ now, o.info.id = x ∧ t.isNew o = true := by
  simp only [diff, List.mem_map, List.mem_mergeSort, List.mem_filter]
  constructor
  · rintro ⟨a, ⟨o, ⟨ho, hnew⟩, rfl⟩, rfl⟩
    exact ⟨o, ho, rfl, hnew⟩
  · rintro ⟨o, ho, rfl, hnew⟩
    exact ⟨o.info, ⟨o, ⟨ho, hnew⟩, rfl⟩, rfl⟩

/-- The users an update reports offline: those the tracker saw that are online no more. -/
theorem mem_diff_offline (x : UserId) :
    x ∈ (t.diff now).1.offline ↔ x ∈ t.seen.map (·.1) ∧ x ∉ now.map (·.info.id) := by
  simp only [diff, mem_foldl_insertUserId, List.not_mem_nil, false_or, List.mem_filter]
  constructor <;> rintro ⟨hseen, hgone⟩ <;> refine ⟨hseen, ?_⟩ <;> simpa using hgone

/-- The tracker after a diff knows exactly the users online now. -/
theorem mem_diff_seen (x : UserId) :
    x ∈ (t.diff now).2.seen.map (·.1) ↔ x ∈ now.map (·.info.id) := by
  unfold diff
  dsimp only
  suffices ∀ (os : List OnlineUser) (m : List (UserId × List ConnId)),
      x ∈ (os.foldl (fun m o => setConns o.info.id o.conns m) m).map (·.1) ↔
        x ∈ m.map (·.1) ∨ x ∈ os.map (·.info.id) by simpa using this now []
  intro os
  induction os with
  | nil => simp
  | cons o os ih =>
    intro m
    simp only [List.foldl_cons, ih, mem_setConns_ids, List.map_cons, List.mem_cons]
    grind

theorem mem_of_lookup {m : List (UserId × List ConnId)} {x : UserId} {prev : List ConnId}
    (h : m.lookup x = some prev) : (x, prev) ∈ m := by
  obtain ⟨l₁, l₂, rfl, -⟩ := List.lookup_eq_some_iff.1 h
  simp

theorem conns_diff_seen {p : UserId × List ConnId} (hp : p ∈ (t.diff now).2.seen) :
    ∃ o ∈ now, p.2 = o.conns := by
  unfold diff at hp
  dsimp only at hp
  suffices ∀ (os : List OnlineUser) (m : List (UserId × List ConnId)),
      p ∈ os.foldl (fun m o => setConns o.info.id o.conns m) m → p ∈ m ∨ ∃ o ∈ os, p.2 = o.conns by
    simpa using this now [] hp
  intro os
  induction os with
  | nil => exact fun _ h => .inl h
  | cons o os ih =>
    intro m hm
    rcases ih _ hm with h | ⟨o', ho', h⟩
    · rcases mem_setConns h with h | rfl
      · exact .inl h
      · exact .inr ⟨o, by simp, rfl⟩
    · exact .inr ⟨o', List.mem_cons_of_mem _ ho', h⟩

end Tracker

/-! ## The tick -/

namespace Wire.UserStatusUpdate

theorem without_isEmpty {u : UserStatusUpdate} (h : u.isEmpty = true) (v : UserId) :
    (u.without v).isEmpty = true := by
  simp_all [isEmpty, without]

end Wire.UserStatusUpdate

namespace Hub

/-- What a tick tells a connection of user `u`: the diff without `u`. -/
def tickShare (h : Hub) (u : UserId) : UserStatusUpdate :=
  (h.tracker.diff h.registry.onlineConnections).1.without u

/-- Offers a registration its share of an update: the update without its own user, unless
nothing is left. -/
def offerShare (upd : UserStatusUpdate) (g : Hub) (e : Registration) : Hub :=
  if (upd.without e.info.id).isEmpty then g
  else (g.sendEvent e.conn .userStatusUpdate (upd.without e.info.id).toJson).2

private theorem foldl_snd {β : Type} (f : β × Hub → Registration → β × Hub) (g : Hub → Registration → Hub)
    (hf : ∀ acc e, (f acc e).2 = g acc.2 e) (es : List Registration) (acc : β × Hub) :
    (es.foldl f acc).2 = es.foldl g acc.2 := by
  induction es generalizing acc with
  | nil => rfl
  | cons e es ih => simp only [List.foldl_cons, ih, hf]

theorem foldl_offerShare_of_isEmpty {upd : UserStatusUpdate} (hu : upd.isEmpty = true)
    (es : List Registration) (g : Hub) : es.foldl (offerShare upd) g = g := by
  induction es generalizing g with
  | nil => rfl
  | cons e es ih => simp [offerShare, Wire.UserStatusUpdate.without_isEmpty hu, ih]

/-- A tick: the tracker takes who is online now, and every registration is offered its share
of the diff. -/
theorem presenceTick_snd (h : Hub) :
    h.presenceTick.2 = h.registry.entries.foldl (offerShare (h.tracker.diff h.registry.onlineConnections).1)
      { h with tracker := (h.tracker.diff h.registry.onlineConnections).2 } := by
  unfold presenceTick
  rcases hdiff : h.tracker.diff h.registry.onlineConnections with ⟨update, tracker⟩
  dsimp only
  split
  · rename_i hu
    exact (foldl_offerShare_of_isEmpty hu _ _).symm
  · refine foldl_snd _ _ (fun acc e => ?_) _ _
    rcases acc with ⟨n, g⟩
    unfold offerShare
    dsimp only
    split <;> rfl

@[simp] theorem offerShare_registry (upd : UserStatusUpdate) (g : Hub) (e : Registration) :
    (offerShare upd g e).registry = g.registry := by
  unfold offerShare; split <;> simp

@[simp] theorem offerShare_tracker (upd : UserStatusUpdate) (g : Hub) (e : Registration) :
    (offerShare upd g e).tracker = g.tracker := by
  unfold offerShare; split <;> simp

@[simp] theorem offerShare_conns_length (upd : UserStatusUpdate) (g : Hub) (e : Registration) :
    (offerShare upd g e).conns.length = g.conns.length := by
  unfold offerShare; split <;> simp

theorem foldl_offerShare_frame (upd : UserStatusUpdate) (es : List Registration) (g : Hub) :
    (es.foldl (offerShare upd) g).registry = g.registry ∧
      (es.foldl (offerShare upd) g).tracker = g.tracker ∧
      (es.foldl (offerShare upd) g).conns.length = g.conns.length := by
  induction es generalizing g with
  | nil => simp
  | cons e es ih => simpa using ih (offerShare upd g e)

@[simp] theorem presenceTick_registry (h : Hub) : h.presenceTick.2.registry = h.registry := by
  rw [presenceTick_snd]
  exact (foldl_offerShare_frame ..).1

theorem presenceTick_tracker (h : Hub) :
    h.presenceTick.2.tracker = (h.tracker.diff h.registry.onlineConnections).2 := by
  rw [presenceTick_snd]
  exact (foldl_offerShare_frame ..).2.1

@[simp] theorem presenceTick_conns_length (h : Hub) :
    h.presenceTick.2.conns.length = h.conns.length := by
  rw [presenceTick_snd]
  exact (foldl_offerShare_frame ..).2.2

theorem calm_foldl_offerShare (upd : UserStatusUpdate) (es : List Registration) (g : Hub) :
    Calm g (es.foldl (offerShare upd) g) := by
  induction es generalizing g with
  | nil => exact Calm.refl g
  | cons e es ih =>
    refine (?_ : Calm g (offerShare upd g e)).trans (ih _)
    unfold offerShare
    split
    · exact Calm.refl g
    · exact calm_sendEvent ..

theorem conn?_foldl_offerShare (upd : UserStatusUpdate) (es : List Registration)
    (hnodup : (es.map (·.conn)).Nodup) (g : Hub) (d : ConnId) :
    (es.foldl (offerShare upd) g).conn? d =
      match es.find? (·.conn == d) with
      | none => g.conn? d
      | some e =>
        if (upd.without e.info.id).isEmpty then g.conn? d
        else (g.conn? d).map fun x => (x.sendEvent .userStatusUpdate (upd.without e.info.id).toJson).2 := by
  induction es generalizing g with
  | nil => rfl
  | cons e es ih =>
    simp only [List.map_cons, List.nodup_cons, List.mem_map] at hnodup
    obtain ⟨hfresh, hnodup⟩ := hnodup
    rw [List.foldl_cons, ih hnodup, List.find?_cons]
    unfold offerShare
    by_cases hd : e.conn = d
    · -- the head is `d`'s registration; the rest do not list `d`
      subst hd
      have hnone : es.find? (·.conn == e.conn) = none := by
        rw [List.find?_eq_none]
        intro e' he' heq
        exact hfresh ⟨e', he', (beq_iff_eq.1 heq)⟩
      simp only [hnone, beq_self_eq_true]
      split
      · rfl
      · exact conn?_sendEvent .. |>.trans (if_pos rfl)
    · -- the head's offer goes to another connection
      have hne : (e.conn == d) = false := by simpa using hd
      have hsame : (if (upd.without e.info.id).isEmpty then g
          else (g.sendEvent e.conn .userStatusUpdate (upd.without e.info.id).toJson).2).conn? d =
            g.conn? d := by
        split
        · rfl
        · rw [conn?_sendEvent, if_neg hd]
      rw [hsame, hne]

theorem calm_presenceTick (h : Hub) : Calm h h.presenceTick.2 := by
  rw [presenceTick_snd]
  exact (calm_of_conns rfl rfl).trans (calm_foldl_offerShare ..)

/-- A tick offers each registered connection its share, unless the share is empty. -/
theorem conn?_presenceTick_of_mem {h : Hub} (hnodup : (h.registry.entries.map (·.conn)).Nodup)
    {e : Registration} (he : e ∈ h.registry.entries) :
    h.presenceTick.2.conn? e.conn =
      if (h.tickShare e.info.id).isEmpty then h.conn? e.conn
      else (h.conn? e.conn).map fun x => (x.sendEvent .userStatusUpdate (h.tickShare e.info.id).toJson).2 := by
  have hfind : h.registry.entries.find? (·.conn == e.conn) = some e := by
    cases hf : h.registry.entries.find? (·.conn == e.conn) with
    | none => exact absurd (beq_self_eq_true e.conn) (List.find?_eq_none.1 hf e he)
    | some e' =>
      have hc : e'.conn = e.conn := by simpa using List.find?_some hf
      rw [List.inj_on_of_nodup_map hnodup (List.mem_of_find?_eq_some hf) he hc]
  rw [presenceTick_snd, conn?_foldl_offerShare _ _ hnodup, hfind]
  rfl

end Hub

end Switchboard
