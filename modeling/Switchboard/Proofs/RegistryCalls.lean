import Mathlib.Data.Finset.Card
import Switchboard.Proofs.PresenceTick
/-!
# The registry along a history of calls

The registry changes by two calls: a client is added under the next registration number, or the
client with an id is removed. `Registry.replay` runs a history of calls from an empty registry.
Along every history:

* the registrations are exactly the added clients that no later call removed, each under the
  number of adds before it (`mem_entries_replay`), so registration numbers follow the order of
  the adds, and a user's client found for delivery is the one registered last
  (`clientByUser_eq_some`);
* who is online comes out one entry per user with a registered client, in strictly increasing id
  order, with exactly that user's registered connections and the info of one of them (`Grouped`,
  which each registration folded in keeps);
* when every added client is new, no connection is registered twice (`conns_nodup_replay`), so
  the size counts the registered clients, and shutdown records the normal close on each of them
  that has no reason yet and answers their number.

Main statement, `registry_after_calls`.
-/

namespace Switchboard

open Wire

namespace Registry

/-! ## Histories of calls -/

/-- A call on the registry: a client is added, or the client with an id is removed. -/
inductive Call where
  | add (x : Connection)
  | remove (c : ConnId)

def apply (r : Registry) : Call → Registry
  | .add x => r.add x.id x.statusInfo
  | .remove c => (r.remove c).2

def Call.added : Call → Option ConnId
  | .add x => some x.id
  | .remove _ => none

/-- The registry after a history of calls, from an empty one. -/
def replay (calls : List Call) : Registry := calls.foldl apply {}

theorem replay_snoc (calls : List Call) (call : Call) :
    replay (calls ++ [call]) = (replay calls).apply call := by
  simp [replay]

@[simp] theorem nextSeq_remove (r : Registry) (d : ConnId) : (r.remove d).2.nextSeq = r.nextSeq := by
  unfold remove; split <;> rfl

theorem entries_remove (r : Registry) (d : ConnId) :
    (r.remove d).2.entries = r.entries.filter (·.conn != d) := by
  unfold remove
  split
  · rfl
  · -- nothing is registered under `d`, so the filter keeps every registration
    rename_i hc
    refine (List.filter_eq_self.2 fun e he => ?_).symm
    simp only [contains, List.any_eq_true, beq_iff_eq, not_exists, not_and] at hc
    simpa using hc e he

private theorem append_cons_eq_snoc {α : Type} {pre post xs : List α} {a b : α} :
    pre ++ a :: post = xs ++ [b] ↔ (pre = xs ∧ a = b ∧ post = []) ∨
      ∃ post', post = post' ++ [b] ∧ xs = pre ++ a :: post' := by
  rcases List.eq_nil_or_concat post with rfl | ⟨post', z, rfl⟩
  · rw [← List.concat_eq_append, ← List.concat_eq_append, List.concat_inj]
    constructor
    · rintro ⟨rfl, rfl⟩
      exact .inl ⟨rfl, rfl, rfl⟩
    · rintro (⟨rfl, rfl, -⟩ | ⟨post', h, -⟩)
      · exact ⟨rfl, rfl⟩
      · simp at h
  · simp only [List.concat_eq_append]
    have hsplit : pre ++ a :: (post' ++ [z]) = (pre ++ a :: post') ++ [z] := by simp
    rw [hsplit, ← List.concat_eq_append, ← List.concat_eq_append, List.concat_inj]
    constructor
    · rintro ⟨rfl, rfl⟩
      exact .inr ⟨post', rfl, rfl⟩
    · rintro (⟨-, -, h⟩ | ⟨post'', h, rfl⟩)
      · simp at h
      · rw [← List.concat_eq_append, ← List.concat_eq_append, List.concat_inj] at h
        obtain ⟨rfl, rfl⟩ := h
        exact ⟨rfl, rfl⟩

/-- The registration of a client added by a call of the history and removed by no later call,
under the number of adds before it. -/
def Kept (calls : List Call) (e : Registration) : Prop :=
  ∃ pre x post, calls = pre ++ .add x :: post ∧ .remove x.id ∉ post ∧
    e = ⟨x.id, x.statusInfo, (pre.filterMap Call.added).length⟩

theorem kept_nil (e : Registration) : ¬ Kept [] e := by
  rintro ⟨pre, x, post, h, -⟩
  simp at h

theorem kept_snoc_add {calls : List Call} {x : Connection} {e : Registration} :
    Kept (calls ++ [.add x]) e ↔
      Kept calls e ∨ e = ⟨x.id, x.statusInfo, (calls.filterMap Call.added).length⟩ := by
  constructor
  · rintro ⟨pre, y, post, heq, hrm, rfl⟩
    rcases append_cons_eq_snoc.1 heq.symm with ⟨rfl, hy, rfl⟩ | ⟨post', rfl, rfl⟩
    · cases hy
      exact .inr rfl
    · exact .inl ⟨pre, y, post', rfl, fun h => hrm (List.mem_append_left _ h), rfl⟩
  · rintro (⟨pre, y, post, rfl, hrm, rfl⟩ | rfl)
    · exact ⟨pre, y, post ++ [.add x], by simp, by simpa using hrm, rfl⟩
    · exact ⟨calls, x, [], rfl, by simp, rfl⟩

theorem kept_snoc_remove {calls : List Call} {d : ConnId} {e : Registration} :
    Kept (calls ++ [.remove d]) e ↔ Kept calls e ∧ e.conn ≠ d := by
  constructor
  · rintro ⟨pre, y, post, heq, hrm, rfl⟩
    rcases append_cons_eq_snoc.1 heq.symm with ⟨-, hy, -⟩ | ⟨post', rfl, rfl⟩
    · cases hy
    · simp only [List.mem_append, List.mem_singleton, Call.remove.injEq, not_or] at hrm
      exact ⟨⟨pre, y, post', rfl, hrm.1, rfl⟩, hrm.2⟩
  · rintro ⟨⟨pre, y, post, rfl, hrm, rfl⟩, hne⟩
    exact ⟨pre, y, post ++ [.remove d], by simp, by simpa using ⟨hrm, hne⟩, rfl⟩

theorem nextSeq_replay (calls : List Call) :
    (replay calls).nextSeq = (calls.filterMap Call.added).length := by
  induction calls using List.reverseRecOn with
  | nil => rfl
  | append_singleton calls call ih =>
    rw [replay_snoc]
    cases call with
    | add x => simp [apply, add, ih, Call.added]
    | remove d => simp [apply, ih, Call.added]

/-- The registrations after a history are the clients it added and did not remove since, each
under the number of adds before it. -/
theorem mem_entries_replay (calls : List Call) (e : Registration) :
    e ∈ (replay calls).entries ↔ Kept calls e := by
  induction calls using List.reverseRecOn with
  | nil => exact ⟨fun h => by simp [replay] at h, fun h => (kept_nil e h).elim⟩
  | append_singleton calls call ih =>
    rw [replay_snoc]
    cases call with
    | add x =>
      rw [kept_snoc_add, ← ih, ← nextSeq_replay]
      simp [apply, add]
    | remove d =>
      rw [kept_snoc_remove, ← ih]
      simp [apply, entries_remove]

/-! ## Registration numbers and the last registered client -/

/-- Registration numbers increase along the entries and stay below the next one. -/
structure Ordered (r : Registry) : Prop where
  increasing : r.entries.Pairwise (·.seq < ·.seq)
  below : ∀ e ∈ r.entries, e.seq < r.nextSeq

theorem Ordered.apply {r : Registry} (hr : r.Ordered) (call : Call) : (r.apply call).Ordered := by
  cases call with
  | add x =>
    refine ⟨?_, fun e he => ?_⟩
    · simpa [Registry.apply, add, List.pairwise_append] using ⟨hr.increasing, hr.below⟩
    · simp only [Registry.apply, add, List.mem_append, List.mem_singleton] at he
      rcases he with he | rfl
      · exact Nat.lt_succ_of_lt (hr.below e he)
      · exact Nat.lt_succ_self _
  | remove d =>
    refine ⟨?_, fun e he => ?_⟩
    · simpa [Registry.apply, entries_remove] using hr.increasing.filter _
    · simp only [Registry.apply, entries_remove, List.mem_filter, nextSeq_remove] at he ⊢
      exact hr.below e he.1

theorem ordered_replay (calls : List Call) : (replay calls).Ordered := by
  induction calls using List.reverseRecOn with
  | nil => exact ⟨List.Pairwise.nil, fun _ h => by simp [replay] at h⟩
  | append_singleton calls call ih =>
    rw [replay_snoc]
    exact ih.apply call

/-- A registration of user `u` with the largest registration number among `u`'s. -/
def Latest (r : Registry) (u : UserId) (e : Registration) : Prop :=
  e ∈ r.entries ∧ e.info.id = u ∧ ∀ e' ∈ r.entries, e'.info.id = u → e'.seq ≤ e.seq

/-- With increasing registration numbers, the client found for a user is the one registered
under the user's largest number. -/
theorem clientByUser_eq_some {r : Registry} (hr : r.Ordered) (u : UserId) (c : ConnId) :
    r.clientByUser u = some c ↔ ∃ e, r.Latest u e ∧ e.conn = c := by
  have hinc : (r.entries.filter (·.info.id == u)).Pairwise (·.seq < ·.seq) := hr.increasing.filter _
  constructor
  · intro hc
    obtain ⟨e, he, rfl⟩ := Option.map_eq_some_iff.1 hc
    obtain ⟨ys, hys⟩ := List.getLast?_eq_some_iff.1 he
    have hmem : e ∈ r.entries.filter (·.info.id == u) := by simp [hys]
    refine ⟨e, ⟨(List.mem_filter.1 hmem).1, by simpa using (List.mem_filter.1 hmem).2, fun e' he' hu => ?_⟩, rfl⟩
    have he'f : e' ∈ ys ++ [e] := by rw [← hys]; simp [he', hu]
    rcases List.mem_append.1 he'f with hy | hy
    · rw [hys] at hinc
      exact Nat.le_of_lt (hinc.rel_of_mem_append hy (List.mem_singleton_self e))
    · rw [List.mem_singleton.1 hy]
  · rintro ⟨e, ⟨he, hu, hmax⟩, rfl⟩
    have hmem : e ∈ r.entries.filter (·.info.id == u) := List.mem_filter.2 ⟨he, by simpa using hu⟩
    obtain ⟨e', he'⟩ := Option.isSome_iff_exists.1 (List.getLast?_isSome.2 (List.ne_nil_of_mem hmem))
    obtain ⟨ys, hys⟩ := List.getLast?_eq_some_iff.1 he'
    have hlast : e' ∈ r.entries.filter (·.info.id == u) := by simp [hys]
    rw [hys] at hmem hinc
    rcases List.mem_append.1 hmem with hy | hy
    · -- a registration of the user comes after `e`, under a larger number
      have hlt := hinc.rel_of_mem_append hy (List.mem_singleton_self e')
      have hle := hmax e' (List.mem_filter.1 hlast).1 (by simpa using (List.mem_filter.1 hlast).2)
      omega
    · simp [clientByUser, he', List.mem_singleton.1 hy]

theorem clientByUser_eq_none (r : Registry) (u : UserId) :
    r.clientByUser u = none ↔ ∀ e ∈ r.entries, e.info.id ≠ u := by
  simp [clientByUser]

/-! ## Fresh clients -/

theorem mem_added_of_mem_conns {calls : List Call} {c : ConnId} (hc : c ∈ (replay calls).conns) :
    c ∈ calls.filterMap Call.added := by
  obtain ⟨e, he, rfl⟩ := List.mem_map.1 hc
  obtain ⟨pre, x, post, rfl, -, rfl⟩ := (mem_entries_replay calls e).1 he
  exact List.mem_filterMap.2 ⟨.add x, by simp, rfl⟩

theorem conns_nodup_replay {calls : List Call} (hfresh : (calls.filterMap Call.added).Nodup) :
    (replay calls).conns.Nodup := by
  induction calls using List.reverseRecOn with
  | nil => exact List.nodup_nil
  | append_singleton calls call ih =>
    rw [replay_snoc]
    rw [List.filterMap_append] at hfresh
    have hpre := ih (hfresh.sublist (List.sublist_append_left _ _))
    cases call with
    | add x =>
      -- the new client's id was added by no earlier call, so it is not registered yet
      have hnew : x.id ∉ calls.filterMap Call.added := fun h =>
        (List.nodup_append.1 hfresh).2.2 _ h x.id (by simp [Call.added]) rfl
      simpa [conns, Registry.apply, add, List.nodup_append] using
        ⟨hpre, fun e he hx => hnew (hx ▸ mem_added_of_mem_conns (List.mem_map_of_mem he))⟩
    | remove d =>
      simpa [conns, Registry.apply, entries_remove] using
        hpre.sublist (List.Sublist.map _ List.filter_sublist)

/-! ## Who is online -/

theorem pairwise_addOnline {os : List OnlineUser} (hs : os.Pairwise (·.info.id.val < ·.info.id.val))
    (e : Registration) : (addOnline e os).Pairwise (·.info.id.val < ·.info.id.val) := by
  induction os with
  | nil => simp [addOnline]
  | cons o os ih =>
    rw [List.pairwise_cons] at hs
    unfold addOnline
    split
    · -- the new user goes first, below `o` and so below every later user
      rename_i hlt
      refine List.Pairwise.cons (fun o' ho' => ?_) (List.Pairwise.cons hs.1 hs.2)
      rcases List.mem_cons.1 ho' with rfl | ho'
      · exact hlt
      · exact lt_trans hlt (hs.1 o' ho')
    · split
      · -- `o` takes the connection and keeps its place
        exact List.Pairwise.cons (fun o' ho' => hs.1 o' ho') hs.2
      · -- `o` stays first; the registration goes into the rest, above `o`
        rename_i hlt hne
        have hgt : o.info.id.val < e.info.id.val :=
          lt_of_le_of_ne (not_lt.1 hlt) fun h => hne (UserId.val_inj.1 h.symm)
        refine List.Pairwise.cons (fun o' ho' => ?_) (ih hs.2)
        rcases (mem_addOnline_ids e os o'.info.id).1 (List.mem_map_of_mem ho') with h | h
        · obtain ⟨o'', ho'', heq⟩ := List.mem_map.1 h
          rw [← heq]
          exact hs.1 o'' ho''
        · rw [h]
          exact hgt

theorem find?_of_mem {os : List OnlineUser} (hs : os.Pairwise (·.info.id.val < ·.info.id.val))
    {o : OnlineUser} (ho : o ∈ os) : os.find? (·.info.id == o.info.id) = some o := by
  induction os with
  | nil => simp at ho
  | cons o₁ os ih =>
    rw [List.pairwise_cons] at hs
    rcases List.mem_cons.1 ho with rfl | ho
    · simp
    · have hne : o₁.info.id ≠ o.info.id := fun h => by
        have hlt := hs.1 o ho
        rw [h] at hlt
        exact lt_irrefl _ hlt
      simp [hne, ih hs.2 ho]

theorem find?_addOnline {os : List OnlineUser} (hs : os.Pairwise (·.info.id.val < ·.info.id.val))
    (e : Registration) (u : UserId) :
    (addOnline e os).find? (·.info.id == u) =
      if e.info.id = u then
        some ((os.find? (·.info.id == u)).elim ⟨e.info, [e.conn]⟩
          fun o => { o with conns := insertConn e.conn o.conns })
      else os.find? (·.info.id == u) := by
  induction os with
  | nil => by_cases hu : e.info.id = u <;> simp [addOnline, hu]
  | cons o os ih =>
    rw [List.pairwise_cons] at hs
    unfold addOnline
    split
    · -- a new user below `o`: nobody in the list has the registration's id
      rename_i hlt
      by_cases hu : e.info.id = u
      · subst hu
        have hnone : (o :: os).find? (·.info.id == e.info.id) = none := by
          refine List.find?_eq_none.2 fun o' ho' heq => ?_
          have hle : o.info.id.val ≤ o'.info.id.val := by
            rcases List.mem_cons.1 ho' with rfl | ho'
            · exact le_refl _
            · exact le_of_lt (hs.1 o' ho')
          rw [beq_iff_eq.1 heq] at hle
          omega
        simp [hnone]
      · simp [hu]
    · split
      · rename_i hid
        by_cases hu : e.info.id = u
        · subst hu
          simp [hid]
        · have hou : o.info.id ≠ u := hid ▸ hu
          simp [hu, hou]
      · rename_i hlt hne
        by_cases hou : o.info.id = u
        · subst hou
          have heu : e.info.id ≠ o.info.id := hne
          simp [heu]
        · have hb : (o.info.id == u) = false := beq_eq_false_iff_ne.2 hou
          simp only [List.find?_cons, hb, ih hs.2]

/-- The per-user list after folding in the registrations `es`: users in strictly increasing id
order; a user with no entry has no registration, and a user's entry holds exactly that user's
connections and the info of one of its registrations. -/
structure Grouped (es : List Registration) (os : List OnlineUser) : Prop where
  ascending : os.Pairwise (·.info.id.val < ·.info.id.val)
  absent : ∀ u, os.find? (·.info.id == u) = none → ∀ e ∈ es, e.info.id ≠ u
  present : ∀ u o, os.find? (·.info.id == u) = some o →
    (∀ c, c ∈ o.conns ↔ ∃ e ∈ es, e.conn = c ∧ e.info.id = u) ∧ ∃ e ∈ es, e.info = o.info

theorem Grouped.addOnline {es : List Registration} {os : List OnlineUser} (h : Grouped es os)
    (e : Registration) : Grouped (es ++ [e]) (addOnline e os) := by
  refine ⟨pairwise_addOnline h.ascending e, fun u hu e' he' => ?_, fun u o ho => ?_⟩
  · rw [find?_addOnline h.ascending] at hu
    split at hu
    · cases hu
    · rename_i heu
      rcases List.mem_append.1 he' with he' | he'
      · exact h.absent u hu e' he'
      · rwa [List.mem_singleton.1 he']
  · rw [find?_addOnline h.ascending] at ho
    split at ho
    · rename_i heu
      subst heu
      cases hold : os.find? (·.info.id == e.info.id) with
      | none =>
        -- the user's first registration: a new entry with its one connection
        simp only [hold, Option.elim, Option.some.injEq] at ho
        subst ho
        refine ⟨fun c => ⟨fun hc => ⟨e, by simp, (List.mem_singleton.1 hc).symm, rfl⟩, ?_⟩, ⟨e, by simp, rfl⟩⟩
        rintro ⟨e', he', rfl, hid⟩
        rcases List.mem_append.1 he' with he' | he'
        · exact absurd hid (h.absent _ hold e' he')
        · simp [List.mem_singleton.1 he']
      | some o₀ =>
        -- the user's entry takes the connection
        simp only [hold, Option.elim, Option.some.injEq] at ho
        subst ho
        obtain ⟨hconns, e₀, he₀, hinfo⟩ := h.present _ o₀ hold
        refine ⟨fun c => ?_, ⟨e₀, List.mem_append_left _ he₀, hinfo⟩⟩
        rw [mem_insertConn, hconns]
        simp only [List.mem_append, List.mem_singleton]
        constructor
        · rintro (rfl | ⟨e', he', h₁, h₂⟩)
          · exact ⟨e, .inr rfl, rfl, rfl⟩
          · exact ⟨e', .inl he', h₁, h₂⟩
        · rintro ⟨e', he' | rfl, h₁, h₂⟩
          · exact .inr ⟨e', he', h₁, h₂⟩
          · exact .inl h₁.symm
    · -- another user's entry is untouched, and the registration is not theirs
      rename_i heu
      obtain ⟨hconns, e₀, he₀, hinfo⟩ := h.present u o ho
      refine ⟨fun c => ?_, ⟨e₀, List.mem_append_left _ he₀, hinfo⟩⟩
      rw [hconns]
      simp only [List.mem_append, List.mem_singleton]
      constructor
      · rintro ⟨e', he', h₁, h₂⟩
        exact ⟨e', .inl he', h₁, h₂⟩
      · rintro ⟨e', he' | rfl, h₁, h₂⟩
        · exact ⟨e', he', h₁, h₂⟩
        · exact absurd h₂ heu

theorem grouped_onlineConnections (r : Registry) : Grouped r.entries r.onlineConnections := by
  unfold onlineConnections
  -- the registrations are folded in one at a time, from an empty list
  induction r.entries using List.reverseRecOn with
  | nil => exact ⟨List.Pairwise.nil, fun _ _ _ he => by simp at he, fun _ _ ho => by simp at ho⟩
  | append_singleton es e ih =>
    rw [List.foldl_append]
    exact ih.addOnline e

/-- An online user's entry holds exactly that user's registered connections, and the info of one
of its registrations. -/
theorem online_of_mem {r : Registry} {o : OnlineUser} (ho : o ∈ r.onlineConnections) :
    (∀ c, c ∈ o.conns ↔ ∃ e ∈ r.entries, e.conn = c ∧ e.info.id = o.info.id) ∧
      ∃ e ∈ r.entries, e.info = o.info :=
  (grouped_onlineConnections r).present _ o (find?_of_mem (grouped_onlineConnections r).ascending ho)

theorem pairwise_onlineUsers (r : Registry) : r.onlineUsers.Pairwise (·.id.val < ·.id.val) :=
  List.pairwise_map.2 (grouped_onlineConnections r).ascending

theorem pairwise_onlineUserIds (r : Registry) : r.onlineUserIds.Pairwise (·.val < ·.val) :=
  List.pairwise_map.2 (pairwise_onlineUsers r)

end Registry

/-! ## The registry's queries after any history -/

open Registry in
/-- After any history of adds and removes in which every added client is new: the registrations
are the added clients not removed since, each under the number of adds before it; the client
found for a user is its registered one with the largest number, or none; who is online is one
entry per user with a registered client, strictly increasing by id, with exactly that user's
connections and the online info of one of them, and the id and user lists are its projections;
the size counts the registered clients; and shutdown, on a hub holding them, records the normal
close on each registered client without a reason and answers their number. -/
theorem registry_after_calls (calls : List Call) (hfresh : (calls.filterMap Call.added).Nodup) :
    let r := replay calls
    (∀ c, r.contains c = true ↔ ∃ pre x post, calls = pre ++ .add x :: post ∧ x.id = c ∧ .remove c ∉ post) ∧
    (∀ e, e ∈ r.entries ↔ ∃ pre x post, calls = pre ++ .add x :: post ∧ .remove x.id ∉ post ∧
      e = ⟨x.id, x.statusInfo, (pre.filterMap Call.added).length⟩) ∧
    (∀ u c, r.clientByUser u = some c ↔
      ∃ e ∈ r.entries, e.conn = c ∧ e.info.id = u ∧ ∀ e' ∈ r.entries, e'.info.id = u → e'.seq ≤ e.seq) ∧
    (∀ u, r.clientByUser u = none ↔ ∀ e ∈ r.entries, e.info.id ≠ u) ∧
    r.onlineConnections.Pairwise (·.info.id.val < ·.info.id.val) ∧
    (∀ u, u ∈ r.onlineConnections.map (·.info.id) ↔ ∃ e ∈ r.entries, e.info.id = u) ∧
    (∀ o ∈ r.onlineConnections, (∀ c, c ∈ o.conns ↔ ∃ e ∈ r.entries, e.conn = c ∧ e.info.id = o.info.id) ∧
      o.info.status = .online ∧ ∃ e ∈ r.entries, e.info = o.info) ∧
    r.onlineUserIds.Pairwise (·.val < ·.val) ∧ r.onlineUserIds.Nodup ∧
    r.onlineUsers.Pairwise (·.id.val < ·.id.val) ∧ r.onlineUsers.Nodup ∧
    (∀ u, r.onlineUsersExcept u = r.onlineUsers.filter (·.id ≠ u)) ∧
    r.size = r.conns.toFinset.card ∧
    ∀ h : Hub, h.registry = r → (∀ c ∈ r.conns, (h.conn? c).isSome) →
      h.closeAll.1 = r.size ∧ h.closeAll.2.registry = r ∧
      ∀ c, h.closeAll.2.closeReasonOf c =
        if c ∈ r.conns then some ((h.closeReasonOf c).getD .normal) else h.closeReasonOf c := by
  intro r
  have hord : r.Ordered := ordered_replay calls
  have hkept : ∀ e, e ∈ r.entries ↔ Kept calls e := mem_entries_replay calls
  have hnodup : r.conns.Nodup := conns_nodup_replay hfresh
  refine ⟨fun c => ?_, hkept, fun u c => ?_, clientByUser_eq_none r, (grouped_onlineConnections r).ascending,
    mem_onlineIds r, fun o ho => ?_, pairwise_onlineUserIds r,
    (pairwise_onlineUserIds r).imp fun hlt heq => by subst heq; exact lt_irrefl _ hlt,
    pairwise_onlineUsers r, (pairwise_onlineUsers r).imp fun hlt heq => by subst heq; exact lt_irrefl _ hlt,
    fun u => ?_, ?_, fun h hreg hlive => ?_⟩
  · -- registered means some registration has the id
    rw [contains_iff_mem_conns]
    simp only [conns, List.mem_map]
    constructor
    · rintro ⟨e, he, rfl⟩
      obtain ⟨pre, x, post, hc, hrm, rfl⟩ := (hkept e).1 he
      exact ⟨pre, x, post, hc, rfl, hrm⟩
    · rintro ⟨pre, x, post, hc, rfl, hrm⟩
      exact ⟨_, (hkept _).2 ⟨pre, x, post, hc, hrm, rfl⟩, rfl⟩
  · rw [clientByUser_eq_some hord]
    constructor
    · rintro ⟨e, ⟨he, hu, hmax⟩, rfl⟩
      exact ⟨e, he, rfl, hu, hmax⟩
    · rintro ⟨e, he, rfl, hu, hmax⟩
      exact ⟨e, ⟨he, hu, hmax⟩, rfl⟩
  · -- the entry's info is that of a registered client, so it shows the user online
    obtain ⟨hconns, e, he, hinfo⟩ := online_of_mem ho
    obtain ⟨pre, x, post, -, -, hx⟩ := (hkept e).1 he
    exact ⟨hconns, by rw [← hinfo, hx]; rfl, e, he, hinfo⟩
  · exact List.filter_congr fun x _ => by by_cases hx : x.id = u <;> simp [hx]
  · rw [List.toFinset_card_of_nodup hnodup]
    simp [size, conns]
  · -- shutdown reads the registry it is given
    rw [← hreg] at hlive ⊢
    refine ⟨rfl, Hub.closeAll_registry h, fun c => ?_⟩
    rw [Hub.closeReasonOf_closeAll]
    by_cases hc : c ∈ h.registry.conns
    · simp [contains_iff_mem_conns, hc, hlive c hc]
    · simp [contains_iff_mem_conns, hc]

def secondTab : List Registry.Call :=
  [.add (Connection.make ⟨0⟩ ⟨⟨1⟩, "alice", "token-1"⟩ 8 Time.Instant.epoch),
   .add (Connection.make ⟨1⟩ ⟨⟨2⟩, "bob", "token-2"⟩ 8 Time.Instant.epoch),
   .add (Connection.make ⟨2⟩ ⟨⟨1⟩, "alice", "token-1"⟩ 8 Time.Instant.epoch),
   .remove ⟨0⟩]

/-- Every client of `secondTab` is new, so the registry's size counts its registered clients. -/
theorem registry_after_calls_second_tab :
    (secondTab.filterMap Registry.Call.added).Nodup ∧
      (Registry.replay secondTab).size = (Registry.replay secondTab).conns.toFinset.card := by
  obtain ⟨-, -, -, -, -, -, -, -, -, -, -, -, hsize, -⟩ := registry_after_calls secondTab (by decide)
  exact ⟨by decide, hsize⟩

end Switchboard
