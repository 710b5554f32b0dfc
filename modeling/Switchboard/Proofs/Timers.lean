import Mathlib
import Switchboard.Proofs.WorldFrame
/-!
# Every due timer goes off

`World.moveTo t` fires the timers due by `t`, earliest first, with fuel for `t + 1` firings per
armed timer. A timer that fires moves on by its period or is disarmed: a deadline ends its read
loop, a ping over a transport that refuses writes ends its write loop. While every period is
non-zero (`WellTimed`) each firing lowers `lag`, the sum over the timers due by `t` of how far
they lie behind it, so the fuel never runs out first.

Main statements: `fireDue_exhausts`, with fuel above the lag firing stops only once no timer is
due by `t`; and `fireDue_moveTo`, the fuel of `moveTo` is enough. `Relinked` collects what the
loops leave alone while they settle or read a frame: the settings, the clock, the presence
ticker, and each link's connection, heartbeat and transport.
-/

namespace Switchboard.Live

open Wire

namespace World

/-! ## What settling and reading leave of the timers -/

/-- The second world is the first with its hub, its frames and its links' loops and deadlines
changed: the settings, the clock, the presence ticker, and each link's connection, heartbeat
and transport stay. -/
structure Relinked (w w' : World) : Prop where
  config : w'.config = w.config
  clock : w'.clock = w.clock
  presenceNext : w'.presenceNext = w.presenceNext
  links : ∃ f : Link → Link, (∀ l, (f l).conn = l.conn ∧ (f l).heartbeat = l.heartbeat ∧ (f l).sinkOk = l.sinkOk) ∧
    w'.links = w.links.map f

namespace Relinked

variable {w w₁ w₂ : World}

@[refl] theorem refl (w : World) : Relinked w w := ⟨rfl, rfl, rfl, id, fun _ => ⟨rfl, rfl, rfl⟩, (List.map_id _).symm⟩

theorem trans (h₁ : Relinked w w₁) (h₂ : Relinked w₁ w₂) : Relinked w w₂ := by
  obtain ⟨f, hf, hl₁⟩ := h₁.links
  obtain ⟨g, hg, hl₂⟩ := h₂.links
  refine ⟨h₂.config.trans h₁.config, h₂.clock.trans h₁.clock, h₂.presenceNext.trans h₁.presenceNext,
    g ∘ f, fun l => ?_, by rw [hl₂, hl₁, List.map_map]⟩
  obtain ⟨hg₁, hg₂, hg₃⟩ := hg (f l)
  obtain ⟨hf₁, hf₂, hf₃⟩ := hf l
  exact ⟨hg₁.trans hf₁, hg₂.trans hf₂, hg₃.trans hf₃⟩

theorem of_links (h : w₁.links = w.links) (hc : w₁.config = w.config) (ht : w₁.clock = w.clock)
    (hp : w₁.presenceNext = w.presenceNext) : Relinked w w₁ :=
  ⟨hc, ht, hp, id, fun _ => ⟨rfl, rfl, rfl⟩, by rw [h, List.map_id]⟩

theorem hub (w : World) (h : Hub) : Relinked w { w with hub := h } := of_links rfl rfl rfl rfl

theorem emitAll (w : World) (d : ConnId) (fs : List Frame) : Relinked w (w.emitAll d fs) := by
  rw [emitAll_eq]
  exact of_links rfl rfl rfl rfl

theorem updateLink (w : World) (d : ConnId) {f : Link → Link}
    (hf : ∀ l, (f l).conn = l.conn ∧ (f l).heartbeat = l.heartbeat ∧ (f l).sinkOk = l.sinkOk) :
    Relinked w (w.updateLink d f) :=
  ⟨rfl, rfl, rfl, fun l => if l.conn == d then f l else l, fun l => by dsimp only; split <;> simp [hf], rfl⟩

theorem endReading (w : World) (d : ConnId) : Relinked w (w.endReading d) :=
  (updateLink w d (f := fun l => { l with reading := false }) fun _ => ⟨rfl, rfl, rfl⟩).trans (hub _ _)

theorem endWriting (w : World) (d : ConnId) : Relinked w (w.endWriting d) :=
  ((updateLink w d (f := fun l => { l with writing := false }) fun _ => ⟨rfl, rfl, rfl⟩).trans
    (hub _ _)).trans (hub _ _)

theorem closeConn (w : World) (d : ConnId) (r : CloseReason) : Relinked w (w.closeConn d r) := hub _ _

theorem link? (h : Relinked w w₁) {c : ConnId} {l : Link} (hl : w.link? c = some l) :
    ∃ l', w₁.link? c = some l' ∧ l'.heartbeat = l.heartbeat ∧ l'.sinkOk = l.sinkOk := by
  obtain ⟨f, hf, hls⟩ := h.links
  have hp : ((fun l : Link => l.conn == c) ∘ f) = fun l => l.conn == c := by
    funext l
    simp [(hf l).1]
  refine ⟨f l, ?_, (hf l).2.1, (hf l).2.2⟩
  simp only [World.link?, hls, List.find?_map, hp]
  exact congrArg (Option.map f) hl

theorem single (h : Relinked w w₁) {c : ConnId} (hs : (w.links.filter (·.conn == c)).length ≤ 1) :
    (w₁.links.filter (·.conn == c)).length ≤ 1 := by
  obtain ⟨f, hf, hls⟩ := h.links
  rw [hls, List.filter_map, List.length_map]
  have hp : ((fun l : Link => l.conn == c) ∘ f) = fun l => l.conn == c := by
    funext l
    simp [(hf l).1]
  rwa [hp]

end Relinked

theorem relinked_takeBranch (w : World) (l : Link) (x : Connection) (b : Branch) :
    Relinked w (w.takeBranch l x b) := by
  unfold takeBranch
  split
  rename_i fs q going _
  dsimp only
  split
  · have h := (Relinked.hub w (w.hub.updateConn l.conn fun y => { y with egress := q })).trans
      (Relinked.emitAll _ l.conn fs)
    split
    · exact h
    · exact h.trans (.endWriting _ _)
  · exact .endWriting w l.conn

theorem relinked_writeTurn (w : World) (l : Link) : Relinked w (w.writeTurn l).2 := by
  unfold writeTurn
  split
  · exact .refl w
  split
  · exact .refl w
  split
  · exact .refl w
  · exact relinked_takeBranch _ _ _ _

theorem relinked_readTurn (w : World) (l : Link) : Relinked w (w.readTurn l).2 := by
  unfold readTurn
  split
  · exact .refl w
  split
  · exact .endReading _ _
  · exact .refl w

theorem relinked_settle (w : World) : Relinked w w.settle :=
  settle_induction (Relinked w) (fun w' l _ h => h.trans (relinked_writeTurn w' l))
    (fun w' l _ h => h.trans (relinked_readTurn w' l)) (fun _ h => h.trans (.hub _ _)) w (.refl w)

theorem relinked_afterRoute (w : World) (c : ConnId) (res : Except RealtimeError Unit × Hub) :
    Relinked w (w.afterRoute c res) := by
  unfold World.afterRoute
  split
  · exact .hub w _
  · dsimp only
    split
    · unfold failRead
      split
      · exact (Relinked.hub w _).trans ((Relinked.closeConn _ c _).trans (.endReading _ c))
      · exact (Relinked.hub w _).trans (.endReading _ c)
    · exact .hub w _

theorem relinked_readEvent (w : World) (c : ConnId) (ev : PeerEvent) : Relinked w (w.readEvent c ev) := by
  cases ev with
  | text s =>
    simp only [readEvent, readText]
    split
    · exact (Relinked.closeConn _ c _).trans (.endReading _ c)
    split
    · exact (Relinked.closeConn _ c _).trans (.endReading _ c)
    · exact relinked_afterRoute w c _
  | binary => exact (Relinked.closeConn _ c _).trans (.endReading _ c)
  | ping => exact .refl w
  | pong => exact .updateLink w c fun _ => ⟨rfl, rfl, rfl⟩
  | closeFrame => exact .endReading w c
  | hangUp => exact .endReading w c
  | streamError => exact .endReading w c

/-! ## Timers that keep moving -/

/-- The timers keep moving: the presence ticker, while armed, has a non-zero interval, and every
heartbeat has a non-zero period. -/
structure WellTimed (w : World) : Prop where
  presence : w.presenceNext.isSome → 0 < w.config.presenceInterval.totalNanos
  heartbeat : ∀ l ∈ w.links, ∀ hb ∈ l.heartbeat, 0 < hb.period

namespace WellTimed

variable {w w' : World}

theorem start (hub : Hub) (config : Config) (origin : Time.Monotonic) : WellTimed (World.start hub config origin) := by
  refine ⟨fun h => ?_, fun l hl => by simp [World.start] at hl⟩
  simp only [World.start] at h ⊢
  split at h
  · rename_i hp
    exact Nat.pos_of_ne_zero hp.1
  · simp at h

theorem relinked (h : WellTimed w) (hr : Relinked w w') : WellTimed w' := by
  obtain ⟨f, hf, hls⟩ := hr.links
  refine ⟨fun hp => ?_, fun l hl hb hhb => ?_⟩
  · rw [hr.config]
    exact h.presence (hr.presenceNext ▸ hp)
  · rw [hls] at hl
    obtain ⟨l₀, hl₀, rfl⟩ := List.mem_map.1 hl
    exact h.heartbeat l₀ hl₀ hb ((hf l₀).2.1 ▸ hhb)

theorem updateLink (h : WellTimed w) (d : ConnId) {f : Link → Link}
    (hf : ∀ l, (f l).heartbeat.map (·.period) = l.heartbeat.map (·.period)) :
    WellTimed (w.updateLink d f) := by
  refine ⟨h.presence, fun l hl hb hhb => ?_⟩
  obtain ⟨l₀, hl₀, rfl⟩ := List.mem_map.1 hl
  split at hhb
  · -- the changed link has a heartbeat of the same period as before
    have hp := hf l₀
    rw [Option.mem_def.1 hhb] at hp
    obtain ⟨hb₀, hhb₀, hper⟩ := Option.map_eq_some_iff.1 hp.symm
    have hpos := h.heartbeat l₀ hl₀ hb₀ hhb₀
    have hper' : hb₀.period = hb.period := hper
    omega
  · exact h.heartbeat l₀ hl₀ hb hhb

theorem fire (h : WellTimed w) (tm : Timer) : WellTimed (w.fire tm) := by
  cases tm with
  | presence =>
    refine ⟨fun hp => h.presence ?_, h.heartbeat⟩
    simpa [World.fire] using hp
  | ping c =>
    simp only [World.fire]
    split
    · split
      · have he : WellTimed (w.emit c .ping) := h.relinked (.of_links rfl rfl rfl rfl)
        exact he.updateLink c fun l => by simp [Link.pinged, Option.map_map, Function.comp_def]
      · exact h.relinked (.endWriting _ _)
    · exact h
  | deadline c => exact h.relinked (.endReading _ _)

end WellTimed

/-! ## The lag of the timers due -/

/-- How far an armed timer due by `t` lies behind it, counting `t` itself; nothing for one that is
not armed or not due yet. -/
def behind (t : Nat) (o : Option Nat) : Nat := (o.map (t + 1 - ·)).getD 0

/-- The lag of the timers due by `t`: each counts how far it lies behind. -/
def lag (t : Nat) (w : World) : Nat := (w.timers.map fun x => t + 1 - x.1).sum

def linkLag (t : Nat) (l : Link) : Nat := behind t l.pingDue? + behind t l.deadlineDue?

theorem sum_filterMap_due (t : Nat) (ls : List Link) (due : Link → Option Nat) (tm : Link → Timer) :
    ((ls.filterMap fun l => (due l).map fun n => (n, tm l)).map fun x => t + 1 - x.1).sum =
      (ls.map fun l => behind t (due l)).sum := by
  induction ls with
  | nil => rfl
  | cons l ls ih => cases h : due l <;> simp [h, behind, ih]

theorem lag_eq (t : Nat) (w : World) :
    lag t w = behind t w.presenceNext + (w.links.map (linkLag t)).sum := by
  unfold lag timers linkLag
  rw [List.map_append, List.map_append, List.sum_append, List.sum_append,
    sum_filterMap_due t w.links Link.pingDue? (fun l => Timer.ping l.conn),
    sum_filterMap_due t w.links Link.deadlineDue? (fun l => Timer.deadline l.conn), List.sum_map_add,
    Nat.add_assoc]
  congr 1
  cases w.presenceNext <;> rfl

/-- Each timer due by `t` lags by at most `t + 1`, so `moveTo`'s fuel exceeds the lag. -/
theorem lag_lt_fuel (t : Nat) (w : World) : lag t w < (w.timers.length + 1) * (t + 1) := by
  have hle : lag t w ≤ (w.timers.map fun x => t + 1 - x.1).length • (t + 1) :=
    List.sum_le_card_nsmul _ _ fun n hn => by
      obtain ⟨x, -, rfl⟩ := List.mem_map.1 hn
      exact Nat.sub_le _ _
  rw [List.length_map, Nat.nsmul_eq_mul] at hle
  rw [Nat.add_one_mul]
  omega

/-- Changing the links of `d` so that no link's timers lag more, and one of them lags less, lowers
the lag. -/
theorem lag_lt_of_updateLink {w w' : World} {t : Nat} {d : ConnId} {f : Link → Link}
    (hp : w'.presenceNext = w.presenceNext) (hls : w'.links = (w.updateLink d f).links)
    (hle : ∀ l, linkLag t (f l) ≤ linkLag t l) (hlt : ∃ l ∈ w.links, l.conn = d ∧ linkLag t (f l) < linkLag t l) :
    lag t w' < lag t w := by
  rw [lag_eq, lag_eq, hp, hls]
  have hpt : ∀ l, linkLag t (if l.conn == d then f l else l) ≤ linkLag t l := fun l => by
    split
    · exact hle l
    · exact le_rfl
  have hsum : ((w.links.map fun l => if l.conn == d then f l else l).map (linkLag t)).sum <
      (w.links.map (linkLag t)).sum := by
    rw [List.map_map]
    obtain ⟨l, hl, hd, hlt⟩ := hlt
    exact List.sum_lt_sum _ _ (fun l _ => hpt l) ⟨l, hl, by simpa [hd] using hlt⟩
  exact Nat.add_lt_add_left hsum _

theorem mem_timers {w : World} {x : Nat × Timer} :
    x ∈ w.timers ↔ (x.2 = .presence ∧ w.presenceNext = some x.1) ∨
      (∃ l ∈ w.links, x.2 = .ping l.conn ∧ l.pingDue? = some x.1) ∨
      (∃ l ∈ w.links, x.2 = .deadline l.conn ∧ l.deadlineDue? = some x.1) := by
  obtain ⟨n, tm⟩ := x
  simp only [timers, List.mem_append, List.mem_filterMap, Option.map_eq_some_iff, Prod.mk.injEq]
  constructor
  · rintro ((hp | ⟨l, hl, m, hm, rfl, rfl⟩) | ⟨l, hl, m, hm, rfl, rfl⟩)
    · left
      cases h : w.presenceNext <;> simp_all
    · exact .inr (.inl ⟨l, hl, rfl, hm⟩)
    · exact .inr (.inr ⟨l, hl, rfl, hm⟩)
  · rintro (⟨rfl, hp⟩ | ⟨l, hl, rfl, hm⟩ | ⟨l, hl, rfl, hm⟩)
    · left; left
      simp [hp]
    · exact .inl (.inr ⟨l, hl, n, hm, rfl, rfl⟩)
    · exact .inr ⟨l, hl, n, hm, rfl, rfl⟩

theorem foldl_earlier_mem (a : Nat × Timer) (rest : List (Nat × Timer)) :
    rest.foldl earlier a ∈ a :: rest := by
  induction rest generalizing a with
  | nil => exact List.mem_singleton_self a
  | cons b rest ih =>
    rw [List.foldl_cons]
    rcases List.mem_cons.1 (ih (earlier a b)) with h | h
    · -- the run ends on the earlier of the first two
      rw [h]
      unfold earlier
      split <;> simp
    · exact List.mem_cons_of_mem _ (List.mem_cons_of_mem _ h)

theorem nextDue?_some {w : World} {t : Nat} {x : Nat × Timer} (h : w.nextDue? t = some x) :
    x ∈ w.timers ∧ x.1 ≤ t := by
  unfold nextDue? at h
  split at h
  · cases h
  · rename_i a rest hf
    cases h
    have hmem : rest.foldl earlier a ∈ w.timers.filter (·.1 ≤ t) := hf ▸ foldl_earlier_mem a rest
    simpa using hmem

theorem nextDue?_none {w : World} {t : Nat} : w.nextDue? t = none ↔ ∀ x ∈ w.timers, t < x.1 := by
  unfold nextDue?
  split
  · rename_i hf
    simp only [true_iff]
    intro x hx
    have := List.filter_eq_nil_iff.1 hf x hx
    simpa using this
  · rename_i a rest hf
    simp only [reduceCtorEq, false_iff, not_forall, Nat.not_lt]
    have ha : a ∈ w.timers.filter (·.1 ≤ t) := hf ▸ List.mem_cons_self
    simp only [List.mem_filter, decide_eq_true_eq] at ha
    exact ⟨a, ha.1, ha.2⟩

theorem link?_isSome {w : World} {l : Link} (hl : l ∈ w.links) : (w.link? l.conn).isSome := by
  cases h : w.link? l.conn with
  | some _ => rfl
  | none =>
    have := List.find?_eq_none.1 h l hl
    simp at this

theorem behind_add_lt {t n p : Nat} (hp : 0 < p) (hn : n ≤ t) : behind t (some (n + p)) < behind t (some n) := by
  simp only [behind, Option.map_some, Option.getD_some]
  omega

theorem lag_fire_presence_lt {w : World} {t n : Nat} (hw : WellTimed w) (hp : w.presenceNext = some n)
    (hn : n ≤ t) : lag t (w.fire .presence) < lag t w := by
  have hI := hw.presence (by simp [hp])
  have hls : (w.fire .presence).links = w.links := rfl
  have hnext : (w.fire .presence).presenceNext = some (n + w.config.presenceInterval.totalNanos) := by
    simp [World.fire, hp]
  rw [lag_eq, lag_eq, hls, hnext, hp]
  -- the interval stays an opaque number here: unfolded, the kernel would multiply out its seconds
  exact Nat.add_lt_add_right (behind_add_lt hI hn) _

theorem linkLag_pinged_le (t : Nat) (l : Link) : linkLag t l.pinged ≤ linkLag t l := by
  unfold linkLag Link.pingDue? Link.deadlineDue? Link.pinged
  cases l.writing <;> cases l.heartbeat <;> simp [behind]
  omega

theorem lag_fire_ping_lt {w : World} {t : Nat} {l : Link} (hw : WellTimed w) (hl : l ∈ w.links)
    {due : Nat} (hd : l.pingDue? = some due) (hdue : due ≤ t) : lag t (w.fire (.ping l.conn)) < lag t w := by
  have hwr : l.writing = true := by unfold Link.pingDue? at hd; split at hd <;> simp_all
  obtain ⟨hb, hhb, rfl⟩ : ∃ hb, l.heartbeat = some hb ∧ hb.next = due := by
    simpa [Link.pingDue?, hwr] using hd
  have hP := hw.heartbeat l hl hb hhb
  obtain ⟨l₀, hl₀⟩ := Option.isSome_iff_exists.1 (link?_isSome hl)
  simp only [World.fire, hl₀]
  split
  · refine lag_lt_of_updateLink rfl rfl (linkLag_pinged_le t) ⟨l, hl, rfl, ?_⟩
    simp [linkLag, Link.pingDue?, Link.deadlineDue?, Link.pinged, hwr, hhb, behind]
    omega
  · refine lag_lt_of_updateLink rfl rfl (fun l' => ?_) ⟨l, hl, rfl, ?_⟩
    · simp [linkLag, Link.pingDue?, Link.deadlineDue?, behind]
    · simp [linkLag, Link.pingDue?, Link.deadlineDue?, hwr, hhb, behind]
      omega

theorem lag_fire_deadline_lt {w : World} {t : Nat} {l : Link} (hl : l ∈ w.links) {due : Nat}
    (hd : l.deadlineDue? = some due) (hdue : due ≤ t) : lag t (w.fire (.deadline l.conn)) < lag t w := by
  have hrd : l.reading = true ∧ l.deadline = due := by
    unfold Link.deadlineDue? at hd; split at hd <;> simp_all
  refine lag_lt_of_updateLink rfl rfl (fun l' => ?_) ⟨l, hl, rfl, ?_⟩
  · simp [linkLag, Link.pingDue?, Link.deadlineDue?, behind]
  · simp [linkLag, Link.pingDue?, Link.deadlineDue?, hrd, behind]
    omega

/-- Every timer that goes off lowers the lag. -/
theorem lag_fire_lt {w : World} {t due : Nat} {tm : Timer} (hw : WellTimed w)
    (h : w.nextDue? t = some (due, tm)) : lag t (w.fire tm) < lag t w := by
  obtain ⟨hmem, hdue⟩ := nextDue?_some h
  rcases mem_timers.1 hmem with ⟨htm, hp⟩ | ⟨l, hl, htm, hd⟩ | ⟨l, hl, htm, hd⟩
  · obtain rfl : tm = .presence := htm
    exact lag_fire_presence_lt hw hp hdue
  · obtain rfl : tm = .ping l.conn := htm
    exact lag_fire_ping_lt hw hl hd hdue
  · obtain rfl : tm = .deadline l.conn := htm
    exact lag_fire_deadline_lt hl hd hdue

/-! ## Firing until nothing is due -/

/-- A property kept by every timer that goes off holds after firing what is due. -/
theorem fireDue_induction (P : World → Prop) {t : Nat}
    (hfire : ∀ w due tm, w.nextDue? t = some (due, tm) → P w → P (w.fire tm)) :
    ∀ (n : Nat) (w : World), P w → P (fireDue t n w)
  | 0, _, hw => hw
  | n + 1, w, hw => by
    unfold fireDue
    split
    · exact hw
    · rename_i due tm hnext
      exact fireDue_induction P hfire n _ (hfire w due tm hnext hw)

theorem WellTimed.fireDue {w : World} (hw : WellTimed w) (t n : Nat) : WellTimed (fireDue t n w) :=
  fireDue_induction WellTimed (fun _ _ tm _ h => h.fire tm) n w hw

/-- With fuel above the lag, firing stops only once no timer is due by `t`. -/
theorem fireDue_exhausts (t : Nat) : ∀ (n : Nat) (w : World), WellTimed w → lag t w < n →
    (fireDue t n w).nextDue? t = none
  | 0, _, _, h => absurd h (Nat.not_lt_zero _)
  | n + 1, w, hw, h => by
    unfold fireDue
    split
    · assumption
    · rename_i due tm hnext
      have hlt := lag_fire_lt hw hnext
      exact fireDue_exhausts t n _ (hw.fire tm) (by omega)

/-- Moving the clock to `t` fires every timer due by it: before the loops settle, none is due. -/
theorem fireDue_moveTo {w : World} (hw : WellTimed w) (t : Nat) :
    (fireDue t ((w.timers.length + 1) * (t + 1)) { w with clock := t }).nextDue? t = none :=
  fireDue_exhausts t _ _ ⟨hw.presence, hw.heartbeat⟩ (lag_lt_fuel t w)

end World

end Switchboard.Live
