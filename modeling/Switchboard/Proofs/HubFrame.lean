import Switchboard.Realtime.Hub
/-!
# What a hub operation does to one connection

Every operation of the hub reaches a connection through `Hub.updateConn`, which rewrites the
records carrying one id. These lemmas say what the record of a connection looks like after
each operation, so that later proofs never unfold the operations: the record of the
connection that was named changes as the connection-level operation says, every other record
is left alone, and the registry changes only through `Registry.add` and `Registry.remove`.

`Hub.Calm` collects what the lifecycle proofs watch, the registry and every connection's
close reason; queue offers, store work and notifications keep the hub calm.
-/

namespace Switchboard

/-! ## Connection-level operations -/

namespace Connection

@[simp] theorem close_id (x : Connection) (r : CloseReason) : (x.close r).2.id = x.id := by
  unfold close; split <;> rfl

@[simp] theorem close_closeReason (x : Connection) (r : CloseReason) :
    (x.close r).2.closeReason = some (x.closeReason.getD r) := by
  unfold close; split <;> simp_all

theorem close_fst (x : Connection) (r : CloseReason) : (x.close r).1 = x.closeReason.isNone := by
  unfold close; split <;> simp_all

@[simp] theorem close_egress (x : Connection) (r : CloseReason) :
    (x.close r).2.egress = x.egress := by
  unfold close; split <;> rfl

theorem close_of_closed {x : Connection} (hx : x.closeReason.isSome) (r : CloseReason) :
    (x.close r).2 = x := by
  unfold close
  split
  · rfl
  · simp_all

@[simp] theorem enqueue_id (x : Connection) (e : Wire.Envelope) : (x.enqueue e).2.id = x.id := rfl

@[simp] theorem enqueue_closeReason (x : Connection) (e : Wire.Envelope) :
    (x.enqueue e).2.closeReason = x.closeReason := rfl

@[simp] theorem reject_id (x : Connection) (err : RealtimeError) (ctx : Json.Fields) :
    (x.reject err ctx).2.id = x.id := by
  unfold reject; split <;> rfl

@[simp] theorem reject_closeReason (x : Connection) (err : RealtimeError) (ctx : Json.Fields) :
    (x.reject err ctx).2.closeReason = x.closeReason := by
  unfold reject; split <;> rfl

theorem sendEvent_items {x : Connection} {tag : Wire.EventTag} {payload : Json}
    (hok : (x.sendEvent tag payload).1 = true) :
    (x.sendEvent tag payload).2.egress.items = x.egress.items ++ [⟨tag, payload⟩] := by
  simp only [sendEvent, enqueue, Egress.offer] at hok ⊢
  split at hok
  · exact absurd hok Bool.false_ne_true
  · rename_i hroom
    simp [hroom]

end Connection

namespace Registry

theorem contains_add (r : Registry) (c d : ConnId) (info : Wire.UserStatusInfo) :
    (r.add c info).contains d = (r.contains d || c == d) := by
  simp [add, contains, List.any_append]

theorem contains_remove (r : Registry) (c d : ConnId) :
    (r.remove c).2.contains d = (r.contains d && c != d) := by
  unfold remove
  by_cases hc : r.contains c = true
  · rw [if_pos hc, Bool.eq_iff_iff]
    simp only [contains, List.any_filter, List.any_eq_true, Bool.and_eq_true, bne_iff_ne, ne_eq,
      beq_iff_eq]
    constructor
    · rintro ⟨e, he, hne, rfl⟩; exact ⟨⟨e, he, rfl⟩, fun h => hne h.symm⟩
    · rintro ⟨⟨e, he, rfl⟩, hne⟩; exact ⟨e, he, fun h => hne h.symm, rfl⟩
  · rw [if_neg hc]
    by_cases hd : c = d
    · subst hd; simp_all
    · simp [hd]

theorem remove_fst (r : Registry) (c : ConnId) : (r.remove c).1 = r.contains c := by
  unfold remove; split <;> simp_all

theorem contains_iff_mem_conns (r : Registry) (c : ConnId) : r.contains c = true ↔ c ∈ r.conns := by
  simp [contains, conns]

end Registry

/-! ## Records after `updateConn` -/

namespace Hub

/-- The close reason recorded on a connection, if the connection exists and has one. -/
def closeReasonOf (h : Hub) (c : ConnId) : Option CloseReason := (h.conn? c).bind (·.closeReason)

theorem id_of_conn? {h : Hub} {c : ConnId} {x : Connection} (hx : h.conn? c = some x) : x.id = c := by
  simpa [conn?] using List.find?_some hx

private theorem find?_rewrite {xs : List Connection} {c d : ConnId} {f : Connection → Connection}
    (hf : ∀ x, x.id = d → (f x).id = d) :
    (xs.map fun x => if x.id == d then f x else x).find? (·.id == c) =
      (xs.find? (·.id == c)).map fun x => if x.id == d then f x else x := by
  rw [List.find?_map]
  congr 2
  funext x
  by_cases hx : x.id = d <;> simp [hx, hf]

theorem conn?_updateConn_self {h : Hub} {c : ConnId} {f : Connection → Connection}
    (hf : ∀ x, x.id = c → (f x).id = c) : (h.updateConn c f).conn? c = (h.conn? c).map f := by
  simp only [conn?, updateConn, find?_rewrite hf]
  cases hx : h.conns.find? (·.id == c) with
  | none => rfl
  | some x => simp [show x.id = c by simpa using List.find?_some hx]

theorem conn?_updateConn_of_ne {h : Hub} {c d : ConnId} {f : Connection → Connection}
    (hf : ∀ x, x.id = d → (f x).id = d) (hne : d ≠ c) : (h.updateConn d f).conn? c = h.conn? c := by
  simp only [conn?, updateConn, find?_rewrite hf]
  cases hx : h.conns.find? (·.id == c) with
  | none => rfl
  | some x =>
    have : x.id = c := by simpa using List.find?_some hx
    simp [this, Ne.symm hne]

@[simp] theorem updateConn_registry (h : Hub) (c : ConnId) (f : Connection → Connection) :
    (h.updateConn c f).registry = h.registry := rfl

theorem conn?_withConn {α : Type} {h : Hub} {c d : ConnId} {dflt : α}
    {f : Connection → α × Connection} (hf : ∀ x, (f x).2.id = x.id) :
    (h.withConn c dflt f).2.conn? d = if c = d then (h.conn? d).map (f · |>.2) else h.conn? d := by
  unfold withConn
  cases hx : h.conn? c with
  | none =>
    dsimp only
    split
    · subst_vars; simp [hx]
    · rfl
  | some x =>
    have hx' : (f x).2.id = c := by rw [hf, id_of_conn? hx]
    dsimp only
    split
    · rename_i hcd
      subst hcd
      rw [conn?_updateConn_self (fun _ _ => hx'), hx]
      rfl
    · exact conn?_updateConn_of_ne (fun _ _ => hx') ‹_›

@[simp] theorem withConn_registry {α : Type} (h : Hub) (c : ConnId) (dflt : α)
    (f : Connection → α × Connection) : (h.withConn c dflt f).2.registry = h.registry := by
  unfold withConn; split <;> rfl

theorem conn?_closeConn (h : Hub) (c d : ConnId) (r : CloseReason) :
    (h.closeConn c r).2.conn? d = if c = d then (h.conn? d).map (·.close r |>.2) else h.conn? d :=
  conn?_withConn (Connection.close_id · r)

theorem closeReasonOf_closeConn (h : Hub) (c d : ConnId) (r : CloseReason) :
    (h.closeConn c r).2.closeReasonOf d =
      if c = d ∧ (h.conn? d).isSome then some ((h.closeReasonOf d).getD r) else h.closeReasonOf d := by
  rw [closeReasonOf, conn?_closeConn]
  by_cases hcd : c = d
  · cases hx : h.conn? d <;> simp [hcd, hx, closeReasonOf]
  · simp [hcd, closeReasonOf]

theorem conn?_sendEvent (h : Hub) (c d : ConnId) (tag : Wire.EventTag) (payload : Json) :
    (h.sendEvent c tag payload).2.conn? d =
      if c = d then (h.conn? d).map (·.sendEvent tag payload |>.2) else h.conn? d :=
  conn?_withConn fun _ => rfl

@[simp] theorem closeConn_registry (h : Hub) (c : ConnId) (r : CloseReason) :
    (h.closeConn c r).2.registry = h.registry := withConn_registry ..

@[simp] theorem sendEvent_registry (h : Hub) (c : ConnId) (tag : Wire.EventTag) (payload : Json) :
    (h.sendEvent c tag payload).2.registry = h.registry := withConn_registry ..

/-! A step of one connection keeps the presence tracker and the number of connections. -/

@[simp] theorem updateConn_tracker (h : Hub) (c : ConnId) (f : Connection → Connection) :
    (h.updateConn c f).tracker = h.tracker := rfl

@[simp] theorem updateConn_conns_length (h : Hub) (c : ConnId) (f : Connection → Connection) :
    (h.updateConn c f).conns.length = h.conns.length := List.length_map ..

@[simp] theorem withConn_tracker {α : Type} (h : Hub) (c : ConnId) (dflt : α)
    (f : Connection → α × Connection) : (h.withConn c dflt f).2.tracker = h.tracker := by
  unfold withConn; split <;> rfl

@[simp] theorem withConn_conns_length {α : Type} (h : Hub) (c : ConnId) (dflt : α)
    (f : Connection → α × Connection) : (h.withConn c dflt f).2.conns.length = h.conns.length := by
  unfold withConn; split <;> simp

@[simp] theorem sendEvent_tracker (h : Hub) (c : ConnId) (tag : Wire.EventTag) (payload : Json) :
    (h.sendEvent c tag payload).2.tracker = h.tracker := withConn_tracker ..

@[simp] theorem sendEvent_conns_length (h : Hub) (c : ConnId) (tag : Wire.EventTag) (payload : Json) :
    (h.sendEvent c tag payload).2.conns.length = h.conns.length := withConn_conns_length ..

/-- Unregistering a registered connection records the normal close on it; unregistering one
that is not registered changes nothing. -/
theorem unregister_eq (h : Hub) (c : ConnId) :
    (h.unregister c).2 = if h.registry.contains c then
      ({ h with registry := (h.registry.remove c).2 }.closeConn c .normal).2 else h := by
  unfold unregister
  have hfst := Registry.remove_fst h.registry c
  rcases hr : h.registry.remove c with ⟨removed, reg⟩
  rw [hr] at hfst
  dsimp only at hfst ⊢
  subst hfst
  split <;> rfl

theorem registry_unregister (h : Hub) (c : ConnId) :
    (h.unregister c).2.registry.contains = fun d => h.registry.contains d && c != d := by
  funext d
  rw [unregister_eq]
  split
  · simp [Registry.contains_remove]
  · rename_i hc
    by_cases hd : c = d
    · subst hd; simp [hc]
    · simp [hd]

theorem unregister_tracker (h : Hub) (c : ConnId) : (h.unregister c).2.tracker = h.tracker := by
  rw [unregister_eq]
  split
  · exact withConn_tracker ..
  · rfl

theorem unregister_conns_length (h : Hub) (c : ConnId) :
    (h.unregister c).2.conns.length = h.conns.length := by
  rw [unregister_eq]
  split
  · exact withConn_conns_length ..
  · rfl

theorem egress_unregister (h : Hub) (c d : ConnId) :
    ((h.unregister c).2.conn? d).map (·.egress) = (h.conn? d).map (·.egress) := by
  rw [unregister_eq]
  split
  · rw [conn?_closeConn]
    split
    · change ((h.conn? d).map _).map _ = _
      cases h.conn? d <;> simp
    · rfl
  · rfl

theorem conn?_unregister_of_ne (h : Hub) {c d : ConnId} (hne : d ≠ c) :
    (h.unregister d).2.conn? c = h.conn? c := by
  rw [unregister_eq]
  split
  · rw [conn?_closeConn, if_neg hne]
    rfl
  · rfl

theorem conn?_unregister_of_closed {h : Hub} {c : ConnId} {x : Connection} (hx : h.conn? c = some x)
    (hclosed : x.closeReason.isSome) : (h.unregister c).2.conn? c = some x := by
  rw [unregister_eq]
  split
  · rw [conn?_closeConn, if_pos rfl]
    change (h.conn? c).map _ = _
    rw [hx, Option.map_some, Connection.close_of_closed hclosed]
  · exact hx

theorem closeReasonOf_closeConn_of_some {h : Hub} {c : ConnId} {r : CloseReason}
    (hr : h.closeReasonOf c = some r) (d : ConnId) (r' : CloseReason) :
    (h.closeConn d r').2.closeReasonOf c = some r := by
  rw [closeReasonOf_closeConn, hr]
  split <;> rfl

theorem closeReasonOf_closeConn_self {h : Hub} {c : ConnId} (hx : (h.conn? c).isSome)
    (hopen : h.closeReasonOf c = none) (r : CloseReason) : (h.closeConn c r).2.closeReasonOf c = some r := by
  rw [closeReasonOf_closeConn, if_pos ⟨rfl, hx⟩, hopen]
  rfl

theorem closeReasonOf_unregister_self {h : Hub} {c : ConnId} (hreg : h.registry.contains c)
    (hx : (h.conn? c).isSome) (hopen : h.closeReasonOf c = none) :
    (h.unregister c).2.closeReasonOf c = some .normal := by
  rw [unregister_eq, if_pos hreg]
  exact closeReasonOf_closeConn_self (h := { h with registry := (h.registry.remove c).2 }) hx hopen _

theorem closeReasonOf_unregister_of_some {h : Hub} {c : ConnId} {r : CloseReason}
    (hr : h.closeReasonOf c = some r) (d : ConnId) : (h.unregister d).2.closeReasonOf c = some r := by
  rw [unregister_eq]
  split
  · exact closeReasonOf_closeConn_of_some (h := { h with registry := (h.registry.remove d).2 }) hr d _
  · exact hr

/-! ## Calm hubs -/

/-- The second hub has the first one's registry, and the same connections with the same
close reasons. -/
def Calm (h h' : Hub) : Prop :=
  h'.registry = h.registry ∧ ∀ c, (h'.conn? c).map (·.closeReason) = (h.conn? c).map (·.closeReason)

@[refl] theorem Calm.refl (h : Hub) : Calm h h := ⟨rfl, fun _ => rfl⟩

theorem Calm.trans {h₁ h₂ h₃ : Hub} (h12 : Calm h₁ h₂) (h23 : Calm h₂ h₃) : Calm h₁ h₃ :=
  ⟨h23.1.trans h12.1, fun c => (h23.2 c).trans (h12.2 c)⟩

theorem Calm.closeReasonOf {h h' : Hub} (hc : Calm h h') (c : ConnId) :
    h'.closeReasonOf c = h.closeReasonOf c := by
  have := hc.2 c
  unfold Hub.closeReasonOf
  cases h₁ : h.conn? c <;> cases h₂ : h'.conn? c <;> simp_all

theorem Calm.isSome {h h' : Hub} (hc : Calm h h') (c : ConnId) :
    (h'.conn? c).isSome = (h.conn? c).isSome := by
  simpa using congrArg Option.isSome (hc.2 c)

theorem calm_of_conns {h h' : Hub} (hconns : h'.conns = h.conns) (hreg : h'.registry = h.registry) :
    Calm h h' :=
  ⟨hreg, fun c => by simp [conn?, hconns]⟩

theorem calm_updateConn {h : Hub} {c : ConnId} {f : Connection → Connection}
    (hf : ∀ x, x.id = c → (f x).id = c ∧ (f x).closeReason = x.closeReason) :
    Calm h (h.updateConn c f) := by
  refine ⟨rfl, fun d => ?_⟩
  by_cases hcd : c = d
  · subst hcd
    rw [conn?_updateConn_self fun x hx => (hf x hx).1]
    cases hx : h.conn? c with
    | none => rfl
    | some x => simp [(hf x (id_of_conn? hx)).2]
  · rw [conn?_updateConn_of_ne (fun x hx => (hf x hx).1) hcd]

theorem calm_markValidated (h : Hub) (c : ConnId) (at_ : Time.Instant) :
    Calm h (h.updateConn c (·.markValidated at_)) :=
  calm_updateConn fun _ hx => ⟨hx, rfl⟩

theorem calm_withConn {α : Type} {h : Hub} {c : ConnId} {dflt : α} {f : Connection → α × Connection}
    (hf : ∀ x, (f x).2.id = x.id ∧ (f x).2.closeReason = x.closeReason) :
    Calm h (h.withConn c dflt f).2 := by
  refine ⟨withConn_registry .., fun d => ?_⟩
  rw [conn?_withConn fun x => (hf x).1]
  split
  · cases h.conn? d <;> simp [(hf _).2]
  · rfl

theorem calm_sendEvent (h : Hub) (c : ConnId) (tag : Wire.EventTag) (payload : Json) :
    Calm h (h.sendEvent c tag payload).2 :=
  calm_withConn fun _ => ⟨rfl, rfl⟩

theorem calm_reject (h : Hub) (c : ConnId) (err : RealtimeError) (ctx : Json.Fields) :
    Calm h (h.reject c err ctx).2 :=
  calm_withConn fun x => ⟨x.reject_id err ctx, x.reject_closeReason err ctx⟩

theorem calm_pushNotification (h : Hub) (n : Notification) : Calm h (h.pushNotification n).2 := by
  unfold pushNotification
  split
  · exact Calm.refl h
  · exact calm_sendEvent ..

theorem calm_createAndPush (h : Hub) (u : UserId) (kind : String) (payload : Json) :
    Calm h (h.createAndPush u kind payload).2 := by
  unfold createAndPush
  split
  · exact Calm.refl h
  · exact (calm_of_conns rfl rfl).trans (calm_pushNotification ..)

theorem calm_runHandoffs (h : Hub) : Calm h h.runHandoffs := by
  unfold runHandoffs
  suffices ∀ (ws : List Handoff) (g : Hub), Calm h g →
      Calm h (ws.foldl (fun h w => (h.createAndPush w.user w.kind w.payload).2) g) from
    this _ _ (calm_of_conns rfl rfl)
  intro ws
  induction ws with
  | nil => exact fun _ hg => hg
  | cons w ws ih => exact fun g hg => ih _ (hg.trans (calm_createAndPush ..))

end Hub

/-! ## Closing and removing -/

namespace Hub

theorem closeConn_of_none {h : Hub} {c : ConnId} (hc : h.conn? c = none) (r : CloseReason) :
    h.closeConn c r = (false, h) := by
  simp [closeConn, withConn, hc]

theorem closeConn_fst (h : Hub) (c : ConnId) (r : CloseReason) :
    (h.closeConn c r).1 = ((h.conn? c).isSome && (h.closeReasonOf c).isNone) := by
  cases hx : h.conn? c with
  | none => simp [closeConn_of_none hx]
  | some x => simp [closeConn, withConn, hx, closeReasonOf, Connection.close_fst]

@[simp] theorem isSome_conn?_closeConn (h : Hub) (c d : ConnId) (r : CloseReason) :
    ((h.closeConn c r).2.conn? d).isSome = (h.conn? d).isSome := by
  rw [conn?_closeConn]
  split <;> simp

@[simp] theorem closeConn_conns_length (h : Hub) (c : ConnId) (r : CloseReason) :
    (h.closeConn c r).2.conns.length = h.conns.length := withConn_conns_length ..

theorem isSome_conn?_unregister (h : Hub) (c d : ConnId) :
    ((h.unregister c).2.conn? d).isSome = (h.conn? d).isSome := by
  simpa using congrArg Option.isSome (egress_unregister h c d)

/-- A registered open connection is closed normally by its removal; the others keep their
reasons. -/
theorem closeReasonOf_unregister (h : Hub) (c d : ConnId) :
    (h.unregister c).2.closeReasonOf d =
      if c = d ∧ h.registry.contains c = true ∧ (h.conn? d).isSome then
        some ((h.closeReasonOf d).getD .normal)
      else h.closeReasonOf d := by
  rw [unregister_eq]
  by_cases hreg : h.registry.contains c = true
  · rw [if_pos hreg, closeReasonOf_closeConn]
    simp only [hreg, true_and]
    rfl
  · rw [if_neg hreg]
    simp [hreg]

theorem closeReasonOf_foldl_closeConn (cs : List ConnId) (g : Hub) (d : ConnId) :
    (cs.foldl (fun h c => (h.closeConn c .normal).2) g).closeReasonOf d =
      if d ∈ cs ∧ (g.conn? d).isSome then some ((g.closeReasonOf d).getD .normal)
      else g.closeReasonOf d := by
  induction cs generalizing g with
  | nil => simp
  | cons c cs ih =>
    rw [List.foldl_cons, ih, isSome_conn?_closeConn, closeReasonOf_closeConn]
    by_cases hcd : c = d
    · subst hcd
      by_cases hx : (g.conn? c).isSome <;> simp [hx]
    · simp [hcd, Ne.symm hcd]

theorem closeAll_registry (h : Hub) : h.closeAll.2.registry = h.registry := by
  suffices ∀ (cs : List ConnId) (g : Hub),
      (cs.foldl (fun h c => (h.closeConn c .normal).2) g).registry = g.registry from this _ _
  intro cs
  induction cs with
  | nil => exact fun _ => rfl
  | cons c cs ih => exact fun g => (ih _).trans (closeConn_registry g c _)

theorem closeReasonOf_closeAll (h : Hub) (d : ConnId) :
    h.closeAll.2.closeReasonOf d =
      if h.registry.contains d = true ∧ (h.conn? d).isSome then some ((h.closeReasonOf d).getD .normal)
      else h.closeReasonOf d := by
  unfold closeAll
  rw [closeReasonOf_foldl_closeConn]
  simp only [Registry.contains_iff_mem_conns]

theorem entries_unregister_sublist (h : Hub) (c : ConnId) :
    (h.unregister c).2.registry.entries.Sublist h.registry.entries := by
  rw [unregister_eq]
  split
  · rename_i hc
    simp only [closeConn_registry, Registry.remove, if_pos hc]
    exact List.filter_sublist
  · exact List.Sublist.refl _

theorem Calm.conn?_eq_none {g g' : Hub} (hcalm : Calm g g') {d : ConnId} (hd : g.conn? d = none) :
    g'.conn? d = none := by
  have := hcalm.isSome d
  rw [hd, Option.isSome_none] at this
  exact Option.not_isSome_iff_eq_none.1 (by simp [this])

end Hub

/-! ## Accepting a connection -/

namespace Hub

variable (h : Hub) (identity : Identity) (capacity : Nat)

theorem conn?_openConn_of_ne {d : ConnId} (hd : d ≠ ⟨h.conns.length⟩) :
    (h.openConn identity capacity).2.conn? d = h.conn? d := by
  have hnone : [Connection.make ⟨h.conns.length⟩ identity capacity h.now].find? (·.id == d) = none := by
    simp [Connection.make, Ne.symm hd]
  simp only [openConn, conn?, List.find?_append, hnone, Option.or_none]

theorem conn?_openConn_self (hfresh : h.conn? ⟨h.conns.length⟩ = none) :
    (h.openConn identity capacity).2.conn? ⟨h.conns.length⟩ =
      some (Connection.make ⟨h.conns.length⟩ identity capacity h.now) := by
  simp only [conn?] at hfresh
  simp [openConn, conn?, List.find?_append, hfresh, Connection.make]

@[simp] theorem conn?_register (c d : ConnId) : (h.register c).conn? d = h.conn? d := by
  unfold register; split <;> rfl

/-- What accepting does: the connection is opened under the next id and registered, and sent
the snapshot of the other online users unless there are none. -/
theorem accept_eq :
    h.accept identity capacity =
      let g := (h.openConn identity capacity).2.register ⟨h.conns.length⟩
      let others := g.registry.onlineUsersExcept identity.user
      if others.isEmpty then (⟨h.conns.length⟩, g)
      else (⟨h.conns.length⟩, (g.sendEvent ⟨h.conns.length⟩ .userStatusUpdate
        (Wire.UserStatusUpdate.toJson ⟨others, []⟩)).2) := rfl

theorem accept_fst : (h.accept identity capacity).1 = ⟨h.conns.length⟩ := by
  rw [accept_eq]
  dsimp only
  split <;> rfl

theorem tracker_accept : (h.accept identity capacity).2.tracker = h.tracker := by
  rw [accept_eq]
  dsimp only
  split
  · unfold register; split <;> rfl
  · simp only [sendEvent_tracker]
    unfold register; split <;> rfl

theorem conns_length_accept :
    (h.accept identity capacity).2.conns.length = h.conns.length + 1 := by
  rw [accept_eq]
  dsimp only
  split
  · unfold register; split <;> simp [openConn]
  · simp only [sendEvent_conns_length]
    unfold register; split <;> simp [openConn]

theorem registry_accept (hfresh : h.conn? ⟨h.conns.length⟩ = none) :
    (h.accept identity capacity).2.registry =
      h.registry.add ⟨h.conns.length⟩ ⟨identity.user, identity.displayName, .online⟩ := by
  have hreg : ((h.openConn identity capacity).2.register ⟨h.conns.length⟩).registry =
      h.registry.add ⟨h.conns.length⟩ ⟨identity.user, identity.displayName, .online⟩ := by
    unfold register
    rw [conn?_openConn_self h identity capacity hfresh]
    rfl
  rw [accept_eq]
  dsimp only
  split
  · exact hreg
  · rw [sendEvent_registry, hreg]

theorem conn?_accept_of_ne {d : ConnId} (hd : d ≠ ⟨h.conns.length⟩) :
    (h.accept identity capacity).2.conn? d = h.conn? d := by
  rw [accept_eq]
  dsimp only
  split
  · rw [conn?_register, conn?_openConn_of_ne h identity capacity hd]
  · rw [conn?_sendEvent, if_neg (Ne.symm hd), conn?_register, conn?_openConn_of_ne h identity capacity hd]

theorem isSome_conn?_accept (hfresh : h.conn? ⟨h.conns.length⟩ = none) :
    ((h.accept identity capacity).2.conn? ⟨h.conns.length⟩).isSome := by
  rw [accept_eq]
  dsimp only
  split
  · rw [conn?_register, conn?_openConn_self h identity capacity hfresh]
    rfl
  · rw [conn?_sendEvent, if_pos rfl, conn?_register, conn?_openConn_self h identity capacity hfresh]
    rfl

theorem closeReasonOf_accept_self (hfresh : h.conn? ⟨h.conns.length⟩ = none) :
    (h.accept identity capacity).2.closeReasonOf ⟨h.conns.length⟩ = none := by
  have hg : ((h.openConn identity capacity).2.register ⟨h.conns.length⟩).conn? ⟨h.conns.length⟩ =
      some (Connection.make ⟨h.conns.length⟩ identity capacity h.now) := by
    rw [conn?_register, conn?_openConn_self h identity capacity hfresh]
  rw [accept_eq]
  dsimp only
  split
  · simp [closeReasonOf, hg, Connection.make]
  · simp [closeReasonOf, conn?_sendEvent, hg, Connection.make, Connection.sendEvent]

theorem closeReasonOf_accept_of_ne {d : ConnId} (hd : d ≠ ⟨h.conns.length⟩) :
    (h.accept identity capacity).2.closeReasonOf d = h.closeReasonOf d := by
  simp only [closeReasonOf, conn?_accept_of_ne h identity capacity hd]

theorem contains_accept (hfresh : h.conn? ⟨h.conns.length⟩ = none) (d : ConnId) :
    (h.accept identity capacity).2.registry.contains d = (h.registry.contains d || decide (d = ⟨h.conns.length⟩)) := by
  rw [registry_accept h identity capacity hfresh, Registry.contains_add]
  by_cases hd : d = ⟨h.conns.length⟩
  · simp [hd]
  · simp [hd, Ne.symm hd]

end Hub

end Switchboard
