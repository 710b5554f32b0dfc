import Mathlib.Data.Finset.Basic
import Switchboard.Proofs.PresenceTick
/-!
# The presence diff and its replay

A presence tracker holds who was online at the previous look, with their connections, as a table
from user ids to connection lists. `Tracker.diff` compares a new look with it and then holds the
new look. Its answer, for any table and any look (a user may appear in a look more than once):

* the users newly online are the entries of the look that are new against the old table (a user
  not held, or held without one of the entry's connections), in a stable sort by id, repeats kept;
* the users newly offline are the held users missing from the look, in strictly increasing order;
* the table afterwards holds each user of the look, once, with the connections of their last entry.

Replaying the answers from nobody online, each update taking out the users reported offline and
adding those shown online, gives after every look exactly the users of that look
(`replay_updates`); and a diff is empty exactly when the look has the users of the previous look
and nobody is online through a connection the previous look did not show for them
(`diff_isEmpty_iff`).

Main statement, `tracker_diff_and_replay`.
-/

namespace Switchboard

open Wire

/-! ## The tracker's table -/
section Lookup

variable (u : UserId) (cs : List ConnId) {g : UserId × List ConnId → UserId × List ConnId}

theorem lookup_map_retarget (hg : ∀ p, g p = if p.1 = u then (p.1, cs) else p) (m : List (UserId × List ConnId)) (v : UserId) :
    (m.map g).lookup v = if v = u ∧ m.any (·.1 == u) then some cs else m.lookup v := by
  induction m with
  | nil => simp
  | cons p m ih =>
    rcases p with ⟨w, ds⟩
    rw [List.map_cons, hg]
    by_cases hw : w = u
    · subst hw
      by_cases hv : v = w
      · subst hv
        simp
      · have hb : (v == w) = false := by simpa using hv
        simp [List.lookup_cons, hb, hv, ih]
    · by_cases hv : v = w
      · subst hv
        simp [hw]
      · have hb : (v == w) = false := by simpa using hv
        have hwu : (w == u) = false := by simpa using hw
        dsimp only
        rw [if_neg hw, List.lookup_cons, List.lookup_cons, hb, List.any_cons, hwu, Bool.false_or]
        exact ih

end Lookup

theorem lookup_setConns (u : UserId) (cs : List ConnId) (m : List (UserId × List ConnId)) (v : UserId) :
    (setConns u cs m).lookup v = if v = u then some cs else m.lookup v := by
  unfold setConns
  split
  · rename_i hu
    rw [lookup_map_retarget u cs (fun p => by rcases p with ⟨w, ds⟩; by_cases hw : w = u <;> simp [hw])]
    by_cases hv : v = u <;> simp [hv, hu]
  · rename_i hu
    rw [List.lookup_append]
    by_cases hv : v = u
    · subst hv
      have hnone : m.lookup v = none := by
        simp only [List.lookup_eq_none_iff, bne_iff_ne, ne_eq]
        rintro p hp rfl
        exact hu (List.any_eq_true.2 ⟨p, hp, by simp⟩)
      simp [hnone]
    · have hb : (v == u) = false := by simpa using hv
      simp [hv, List.lookup_cons, hb]

theorem nodup_setConns {m : List (UserId × List ConnId)} (hm : (m.map (·.1)).Nodup) (u : UserId)
    (cs : List ConnId) : ((setConns u cs m).map (·.1)).Nodup := by
  unfold setConns
  split
  · -- retargeting a user's connections leaves every key where it was
    rw [List.map_map]
    convert hm using 2
    funext p
    rcases p with ⟨w, ds⟩
    by_cases hw : w = u <;> simp [hw]
  · rename_i hu
    rw [List.map_append, List.nodup_append]
    refine ⟨hm, by simp, fun a ha b hb hab => ?_⟩
    obtain ⟨p, hp, rfl⟩ := List.mem_map.1 ha
    rw [List.map_singleton, List.mem_singleton] at hb
    subst hb
    exact hu (List.any_eq_true.2 ⟨p, hp, by simp [hab]⟩)

/-! ## Increasing ids -/

theorem pairwise_insertUserId {vs : List UserId} (hs : vs.Pairwise (·.val < ·.val)) (u : UserId) :
    (insertUserId u vs).Pairwise (·.val < ·.val) := by
  induction vs with
  | nil => simp [insertUserId]
  | cons v vs ih =>
    rw [List.pairwise_cons] at hs
    unfold insertUserId
    split
    · rename_i hlt
      refine List.Pairwise.cons (fun w hw => ?_) (List.Pairwise.cons hs.1 hs.2)
      rcases List.mem_cons.1 hw with rfl | hw
      · exact hlt
      · exact lt_trans hlt (hs.1 w hw)
    · split
      · exact List.Pairwise.cons hs.1 hs.2
      · rename_i hlt hne
        have hgt : v.val < u.val := lt_of_le_of_ne (not_lt.1 hlt) fun h => hne (UserId.val_inj.1 h.symm)
        refine List.Pairwise.cons (fun w hw => ?_) (ih hs.2)
        rcases (mem_insertUserId u w vs).1 hw with rfl | hw
        · exact hgt
        · exact hs.1 w hw

theorem pairwise_foldl_insertUserId (us : List UserId) {acc : List UserId} (hacc : acc.Pairwise (·.val < ·.val)) :
    (us.foldl (fun acc u => insertUserId u acc) acc).Pairwise (·.val < ·.val) := by
  induction us generalizing acc with
  | nil => exact hacc
  | cons u us ih => exact ih (pairwise_insertUserId hacc u)

theorem lookup_eq_none_iff_not_mem (m : List (UserId × List ConnId)) (u : UserId) :
    m.lookup u = none ↔ u ∉ m.map (·.1) := by
  simp only [List.lookup_eq_none_iff, bne_iff_ne, ne_eq, List.mem_map, not_exists, not_and]
  exact ⟨fun h p hp hu => h p hp hu.symm, fun h p hp hu => h p hp hu.symm⟩

/-! ## One diff -/

namespace Tracker

variable (t : Tracker) (now : List OnlineUser)

/-- An entry is new against the tracker when its user is not held, or is held without one of the
entry's connections. -/
theorem isNew_iff (o : OnlineUser) :
    t.isNew o = true ↔ o.info.id ∉ t.seen.map (·.1) ∨
      ∃ prev, t.seen.lookup o.info.id = some prev ∧ ∃ c ∈ o.conns, c ∉ prev := by
  unfold isNew
  cases hl : t.seen.lookup o.info.id with
  | none => simp [(lookup_eq_none_iff_not_mem _ _).1 hl]
  | some prev =>
    have hheld : o.info.id ∈ t.seen.map (·.1) := by
      by_contra hn
      rw [← lookup_eq_none_iff_not_mem] at hn
      simp [hl] at hn
    simp [hheld, connsWithin]

def fresh : List UserStatusInfo := (now.filter t.isNew).map (·.info)

theorem diff_online : (t.diff now).1.online = (t.fresh now).mergeSort fun a b => a.id.val ≤ b.id.val := rfl

theorem diff_online_perm : (t.diff now).1.online.Perm (t.fresh now) := by
  rw [diff_online]
  exact List.mergeSort_perm _ _

theorem diff_online_sorted : (t.diff now).1.online.Pairwise (·.id.val ≤ ·.id.val) := by
  rw [diff_online]
  refine (List.pairwise_mergeSort (fun a b c hab hbc => ?_) (fun a b => ?_) _).imp fun h => by simpa using h
  · simp only [decide_eq_true_eq] at hab hbc ⊢
    exact le_trans hab hbc
  · simpa using le_total a.id.val b.id.val

/-- The sort is stable: the entries of one user keep the look's order. -/
theorem diff_online_stable (k : UserId) :
    (t.diff now).1.online.filter (·.id = k) = (t.fresh now).filter (·.id = k) := by
  rw [diff_online]
  have hsub : List.Sublist ((t.fresh now).filter (·.id = k))
      ((t.fresh now).mergeSort fun a b => a.id.val ≤ b.id.val) := by
    refine List.sublist_mergeSort (fun a b c hab hbc => ?_) (fun a b => ?_) ?_ List.filter_sublist
    · simp only [decide_eq_true_eq] at hab hbc ⊢
      exact le_trans hab hbc
    · simpa using le_total a.id.val b.id.val
    · -- the entries of one user are all equal in the order
      refine List.pairwise_of_forall_mem_list fun a ha b hb => ?_
      simp only [List.mem_filter, decide_eq_true_eq] at ha hb
      simp [ha.2, hb.2]
  have hlen := ((List.mergeSort_perm (t.fresh now) fun a b => a.id.val ≤ b.id.val).filter
    fun a => decide (a.id = k)).length_eq
  have hsub' : List.Sublist ((t.fresh now).filter (·.id = k))
      (((t.fresh now).mergeSort fun a b => a.id.val ≤ b.id.val).filter (·.id = k)) := by
    simpa [List.filter_filter] using hsub.filter fun a => decide (a.id = k)
  exact (hsub'.eq_of_length hlen.symm).symm

theorem diff_offline_sorted : (t.diff now).1.offline.Pairwise (·.val < ·.val) :=
  pairwise_foldl_insertUserId _ List.Pairwise.nil

theorem lookup_diff_seen (u : UserId) :
    (t.diff now).2.seen.lookup u = ((now.filter (·.info.id = u)).getLast?).map (·.conns) := by
  show (now.foldl (fun m o => setConns o.info.id o.conns m) []).lookup u = _
  induction now using List.reverseRecOn with
  | nil => rfl
  | append_singleton now o ih =>
    rw [List.foldl_append, List.foldl_cons, List.foldl_nil, lookup_setConns, ih, List.filter_append]
    by_cases hu : u = o.info.id
    · subst hu
      simp
    · simp [hu, Ne.symm hu]

theorem nodup_diff_seen : ((t.diff now).2.seen.map (·.1)).Nodup := by
  show ((now.foldl (fun m o => setConns o.info.id o.conns m) []).map (·.1)).Nodup
  suffices ∀ m : List (UserId × List ConnId), (m.map (·.1)).Nodup →
      ((now.foldl (fun m o => setConns o.info.id o.conns m) m).map (·.1)).Nodup from this [] List.nodup_nil
  induction now with
  | nil => exact fun _ h => h
  | cons o now ih => exact fun m hm => ih _ (nodup_setConns hm _ _)

end Tracker

/-! ## Replaying the updates -/

/-- The users a client takes to be online after an update: those reported offline leave, those
shown online join. -/
def Wire.UserStatusUpdate.apply (v : Finset UserId) (u : UserStatusUpdate) : Finset UserId :=
  (v \ u.offline.toFinset) ∪ (u.online.map (·.id)).toFinset

namespace Tracker

/-- The updates a tracker answers to a sequence of looks, each diffed against the one before. -/
def updates : Tracker → List (List OnlineUser) → List UserStatusUpdate
  | _, [] => []
  | t, now :: rest => (t.diff now).1 :: (t.diff now).2.updates rest

/-- Applying a diff to the users the tracker held gives the users of the look. -/
theorem apply_diff (t : Tracker) (now : List OnlineUser) :
    (t.diff now).1.apply (t.seen.map (·.1)).toFinset = (now.map (·.info.id)).toFinset := by
  ext x
  simp only [UserStatusUpdate.apply, Finset.mem_union, Finset.mem_sdiff, List.mem_toFinset,
    mem_diff_offline, mem_diff_online]
  constructor
  · rintro (⟨hheld, hgone⟩ | ⟨o, ho, rfl, -⟩)
    · by_contra hx
      exact hgone ⟨hheld, hx⟩
    · exact List.mem_map_of_mem ho
  · intro hx
    by_cases hheld : x ∈ t.seen.map (·.1)
    · exact .inl ⟨hheld, fun h => h.2 hx⟩
    · -- a user the tracker did not hold is new
      obtain ⟨o, ho, rfl⟩ := List.mem_map.1 hx
      exact .inr ⟨o, ho, rfl, (isNew_iff t o).2 (.inl hheld)⟩

/-- Replaying the updates of a run from a fresh tracker, from nobody online, gives after every look
exactly the users of that look. -/
theorem replay_updates (looks : List (List OnlineUser)) (now : List OnlineUser) :
    ((({} : Tracker).updates (looks ++ [now])).foldl UserStatusUpdate.apply ∅) =
      (now.map (·.info.id)).toFinset := by
  -- the view stays the set of users the tracker holds
  suffices ∀ (t : Tracker) (looks : List (List OnlineUser)),
      ((t.updates (looks ++ [now])).foldl UserStatusUpdate.apply (t.seen.map (·.1)).toFinset) =
        (now.map (·.info.id)).toFinset from this {} looks
  intro t looks
  induction looks generalizing t with
  | nil => simp [updates, apply_diff]
  | cons look looks ih =>
    have hheld : ((t.diff look).2.seen.map (·.1)).toFinset = (look.map (·.info.id)).toFinset := by
      ext x
      simp [mem_diff_seen]
    rw [List.cons_append, updates, List.foldl_cons, apply_diff, ← hheld]
    exact ih _

/-! ## Empty diffs -/

/-- With the users of a look listed once each, what the tracker holds for a user after it is the
connections of that user's entry. -/
theorem lookup_diff_seen_eq_some {t : Tracker} {look : List OnlineUser}
    (hnodup : (look.map (·.info.id)).Nodup) {u : UserId} {prev : List ConnId} :
    (t.diff look).2.seen.lookup u = some prev ↔ ∃ o ∈ look, o.info.id = u ∧ o.conns = prev := by
  rw [lookup_diff_seen]
  constructor
  · intro h
    obtain ⟨o, ho, rfl⟩ := Option.map_eq_some_iff.1 h
    have hmem := List.mem_of_getLast? ho
    simp only [List.mem_filter, decide_eq_true_eq] at hmem
    exact ⟨o, hmem.1, hmem.2, rfl⟩
  · rintro ⟨o, ho, rfl, rfl⟩
    have hin : o ∈ look.filter (·.info.id = o.info.id) := by simp [ho]
    obtain ⟨o', ho'⟩ := Option.isSome_iff_exists.1 (List.getLast?_isSome.2 (List.ne_nil_of_mem hin))
    have hmem := List.mem_of_getLast? ho'
    simp only [List.mem_filter, decide_eq_true_eq] at hmem
    -- the look has one entry for the user
    rw [List.inj_on_of_nodup_map hnodup hmem.1 ho hmem.2] at ho'
    simp [ho']

/-- A diff is empty exactly when the look has the users of the previous look and no user is online
through a connection the previous look did not show for them. -/
theorem diff_isEmpty_iff (t : Tracker) {prevLook : List OnlineUser}
    (hnodup : (prevLook.map (·.info.id)).Nodup) (look : List OnlineUser) :
    ((t.diff prevLook).2.diff look).1.isEmpty = true ↔
      (look.map (·.info.id)).toFinset = (prevLook.map (·.info.id)).toFinset ∧
        ∀ o ∈ look, ∀ o' ∈ prevLook, o'.info.id = o.info.id → ∀ c ∈ o.conns, c ∈ o'.conns := by
  set t' := (t.diff prevLook).2
  -- nobody is new: every user of the look was in the previous one, with no connection more
  have honline : (t'.diff look).1.online = [] ↔
      ∀ o ∈ look, ∃ o' ∈ prevLook, o'.info.id = o.info.id ∧ ∀ c ∈ o.conns, c ∈ o'.conns := by
    rw [← List.length_eq_zero_iff, (diff_online_perm t' look).length_eq, fresh, List.length_map,
      List.length_eq_zero_iff, List.filter_eq_nil_iff]
    refine forall₂_congr fun o _ => ?_
    rw [Bool.not_eq_true, isNew_eq_false]
    constructor
    · rintro ⟨prev, hprev, hsub⟩
      obtain ⟨o', ho', hid, rfl⟩ := (lookup_diff_seen_eq_some hnodup).1 hprev
      exact ⟨o', ho', hid, hsub⟩
    · rintro ⟨o', ho', hid, hsub⟩
      exact ⟨o'.conns, (lookup_diff_seen_eq_some hnodup).2 ⟨o', ho', hid, rfl⟩, hsub⟩
  -- nobody left: every user of the previous look is in this one
  have hoffline : (t'.diff look).1.offline = [] ↔
      ∀ x ∈ prevLook.map (·.info.id), x ∈ look.map (·.info.id) := by
    rw [List.eq_nil_iff_forall_not_mem]
    refine forall_congr' fun x => ?_
    rw [mem_diff_offline, mem_diff_seen]
    tauto
  simp only [UserStatusUpdate.isEmpty, Bool.and_eq_true, List.isEmpty_iff, honline, hoffline]
  constructor
  · rintro ⟨hnew, hleft⟩
    refine ⟨Finset.ext fun x => ?_, fun o ho o' ho' hid => ?_⟩
    · simp only [List.mem_toFinset]
      refine ⟨fun hx => ?_, hleft x⟩
      obtain ⟨o, ho, rfl⟩ := List.mem_map.1 hx
      obtain ⟨o', ho', hid, -⟩ := hnew o ho
      exact hid ▸ List.mem_map_of_mem ho'
    · obtain ⟨o'', ho'', hid', hsub⟩ := hnew o ho
      -- the previous look has one entry for the user
      rw [List.inj_on_of_nodup_map hnodup ho' ho'' (hid.trans hid'.symm)]
      exact hsub
  · rintro ⟨hsame, hsub⟩
    refine ⟨fun o ho => ?_, fun x hx => ?_⟩
    · have hx : o.info.id ∈ (prevLook.map (·.info.id)).toFinset := by
        rw [← hsame]
        simpa using List.mem_map_of_mem ho
      obtain ⟨o', ho', hid⟩ := List.mem_map.1 (List.mem_toFinset.1 hx)
      exact ⟨o', ho', hid, hsub o ho o' ho' hid⟩
    · have hx' : x ∈ (look.map (·.info.id)).toFinset := by
        rw [hsame]
        exact List.mem_toFinset.2 hx
      exact List.mem_toFinset.1 hx'

end Tracker

/-- What a diff answers and keeps, for any table and any look; replaying the answers of a run from a
fresh tracker gives after each look the users of that look; and after a look with each user once,
the next diff is empty exactly when nobody came, nobody left and nobody gained a connection. -/
theorem tracker_diff_and_replay :
    (∀ (t : Tracker) (now : List OnlineUser),
      let d := t.diff now
      (∀ o, t.isNew o = true ↔ o.info.id ∉ t.seen.map (·.1) ∨
        ∃ prev, t.seen.lookup o.info.id = some prev ∧ ∃ c ∈ o.conns, c ∉ prev) ∧
      d.1.online.Perm ((now.filter t.isNew).map (·.info)) ∧
      d.1.online.Pairwise (·.id.val ≤ ·.id.val) ∧
      (∀ k, d.1.online.filter (·.id = k) = ((now.filter t.isNew).map (·.info)).filter (·.id = k)) ∧
      d.1.offline.Pairwise (·.val < ·.val) ∧
      (∀ x, x ∈ d.1.offline ↔ x ∈ t.seen.map (·.1) ∧ x ∉ now.map (·.info.id)) ∧
      (d.2.seen.map (·.1)).Nodup ∧
      ∀ u, d.2.seen.lookup u = ((now.filter (·.info.id = u)).getLast?).map (·.conns)) ∧
    (∀ (looks : List (List OnlineUser)) (now : List OnlineUser),
      (({} : Tracker).updates (looks ++ [now])).foldl UserStatusUpdate.apply ∅ =
        (now.map (·.info.id)).toFinset) ∧
    ∀ (t : Tracker) (prevLook : List OnlineUser), (prevLook.map (·.info.id)).Nodup →
      ∀ look : List OnlineUser, ((t.diff prevLook).2.diff look).1.isEmpty = true ↔
        (look.map (·.info.id)).toFinset = (prevLook.map (·.info.id)).toFinset ∧
        ∀ o ∈ look, ∀ o' ∈ prevLook, o'.info.id = o.info.id → ∀ c ∈ o.conns, c ∈ o'.conns := by
  refine ⟨fun t now => ?_, Tracker.replay_updates, fun t _ hnodup look => Tracker.diff_isEmpty_iff t hnodup look⟩
  exact ⟨Tracker.isNew_iff t, Tracker.diff_online_perm t now, Tracker.diff_online_sorted t now,
    Tracker.diff_online_stable t now, Tracker.diff_offline_sorted t now, Tracker.mem_diff_offline t now,
    Tracker.nodup_diff_seen t now, Tracker.lookup_diff_seen t now⟩

def aliceAndBob : List OnlineUser :=
  [⟨⟨⟨1⟩, "alice", .online⟩, [⟨0⟩]⟩, ⟨⟨⟨2⟩, "bob", .online⟩, [⟨1⟩]⟩]

/-- The same two users looked at again, listed the other way round, bring an empty diff. -/
theorem tracker_diff_and_replay_stable :
    (aliceAndBob.map (·.info.id)).Nodup ∧
      (((({} : Tracker).diff aliceAndBob).2.diff aliceAndBob.reverse).1.isEmpty = true) :=
  ⟨by decide, (tracker_diff_and_replay.2.2 {} aliceAndBob (by decide) aliceAndBob.reverse).2 ⟨by decide, by decide⟩⟩

end Switchboard
