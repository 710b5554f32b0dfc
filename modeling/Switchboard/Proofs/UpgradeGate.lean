import Mathlib.Data.List.TakeDrop
import Switchboard.Live.Http
import Switchboard.Text.Encoding
/-!
# The upgrade gate

A WebSocket upgrade that is well formed and whose query names at most one token is answered in a
fixed order: the session token first, then the store's check of it, then the Origin.

The session token is read from the Cookie headers that are visible ASCII, in order: each is split
on `;`, each pair trimmed and split at its first `=` (`Http.cookiePair?_eq_some_iff`), and the
first pair named exactly `session_token` gives the token; without one the query's token is taken.
An empty token is none, so an empty session cookie hides the query's token
(`sessionToken_eq_some_iff`).

The Origin check accepts the first Origin header exactly when it is visible ASCII and byte for byte
the UTF-8 text of the configured origin (`checkOrigin_eq_ok_iff`).

Main statement, `upgrade_gate`: the answer is 401 exactly when there is no token or it names
nobody, 500 exactly when the store fails to check it, 403 exactly when it names a user and the
Origin is refused, and otherwise 101, handing on the user's id and display name with the token.
-/

namespace Switchboard

/-! ## Bytes of ASCII text -/

theorem toNat_lt_of_visible {b : UInt8} (hb : (b == 9 || (32 ≤ b && b < 127)) = true) :
    b.toNat < 128 := by
  simp only [Bool.or_eq_true, beq_iff_eq, Bool.and_eq_true, decide_eq_true_eq] at hb
  rcases hb with rfl | ⟨-, hlt⟩
  · decide
  · have h127 : b.toNat < 127 := UInt8.lt_iff_toNat_lt.1 hlt
    omega

/-- Visible ASCII bytes are the UTF-8 encoding of a list of characters exactly when, read one
character per byte, they are that list. -/
theorem eq_flatMap_utf8EncodeChar_iff {o : List UInt8} (ho : visibleAscii o = true) (cs : List Char) :
    o = cs.flatMap String.utf8EncodeChar ↔ o.map (fun b => Char.ofNat b.toNat) = cs := by
  induction o generalizing cs with
  | nil =>
    cases cs with
    | nil => simp
    | cons c cs => simp [String.utf8EncodeChar_ne_nil]
  | cons b o ih =>
    simp only [visibleAscii, List.all_cons, Bool.and_eq_true] at ho
    have hb := toNat_lt_of_visible ho.1
    cases cs with
    | nil => simp
    | cons c cs =>
      rw [List.flatMap_cons, List.map_cons, List.cons.injEq, ← ih ho.2 cs]
      by_cases hc : c.toNat < 128
      · -- an ASCII character is its own byte
        rw [utf8EncodeChar_of_lt hc, List.singleton_append, List.cons.injEq]
        have hbyte : b = UInt8.ofNat c.toNat ↔ Char.ofNat b.toNat = c := by
          constructor
          · rintro rfl
            rw [UInt8.toNat_ofNat', Nat.mod_eq_of_lt (by omega), Char.ofNat_toNat]
          · intro h
            have := toNat_charOfNat_of_lt hb
            rw [h] at this
            rw [← UInt8.toNat_inj, UInt8.toNat_ofNat', this, Nat.mod_eq_of_lt (by omega)]
        rw [hbyte]
      · -- a longer character starts with a byte past ASCII, which no visible byte is
        obtain ⟨b', rest, henc, hb'⟩ := head_utf8EncodeChar_of_ge (Nat.le_of_not_lt hc)
        have hne : Char.ofNat b.toNat ≠ c := fun h => hc (h ▸ (toNat_charOfNat_of_lt hb).symm ▸ hb)
        rw [henc, List.cons_append, List.cons.injEq]
        simp only [hne, false_and, iff_false, not_and]
        rintro rfl
        omega

/-- Visible ASCII bytes read as text give a text exactly when they are its UTF-8 bytes. -/
theorem asciiText_eq_iff {o : List UInt8} (ho : visibleAscii o = true) (t : String) :
    asciiText o = t ↔ o = t.toUTF8.toList := by
  rw [toUTF8_toList, eq_flatMap_utf8EncodeChar_iff ho, asciiText, ← String.ofList_toList (s := t),
    String.ofList_inj, String.toList_ofList]

/-- The Origin check passes exactly when the first Origin header is visible ASCII and byte for
byte the configured origin. -/
theorem checkOrigin_eq_ok_iff (origins : List (List UInt8)) (allowed : String) :
    checkOrigin origins allowed = .ok () ↔
      ∃ o, origins.head? = some o ∧ visibleAscii o = true ∧ o = allowed.toUTF8.toList := by
  cases origins with
  | nil => simp [checkOrigin]
  | cons o rest =>
    simp only [List.head?_cons, Option.some.injEq, exists_eq_left']
    by_cases ho : visibleAscii o = true
    · rw [← asciiText_eq_iff ho]
      by_cases he : asciiText o = allowed <;> simp [checkOrigin, ho, he]
    · simp [checkOrigin, ho]

/-! ## Cookies -/

namespace Http

theorem span_eq_cons_iff {l n v : List Char} :
    (∃ x, l.span (· != '=') = (n, x :: v)) ↔ l = n ++ '=' :: v ∧ '=' ∉ n := by
  rw [List.span_eq_takeWhile_dropWhile]
  simp only [Prod.mk.injEq]
  constructor
  · rintro ⟨x, hn, hd⟩
    have hx : x = '=' := by
      have := List.head_dropWhile_not (· != '=') (l := l) (by simp [hd])
      simpa [hd] using this
    subst hx
    refine ⟨?_, fun hmem => ?_⟩
    · rw [← List.takeWhile_append_dropWhile (p := (· != '=')) (l := l), hn, hd]
    · have := List.all_eq_true.1 List.all_takeWhile '=' (hn ▸ hmem)
      simp at this
  · rintro ⟨rfl, hn⟩
    have hpos : ∀ a ∈ n, (a != '=') = true := fun a ha => by
      simpa using fun h : a = '=' => hn (h ▸ ha)
    refine ⟨'=', ?_, ?_⟩
    · simp [List.takeWhile_append_of_pos hpos]
    · simp [List.dropWhile_append_of_pos hpos]

/-- A cookie pair's name and value are its trimmed text split at the first `=`. -/
theorem cookiePair?_eq_some_iff (pair name value : String) :
    cookiePair? pair = some (name, value) ↔
      (trimBlank pair).toList = name.toList ++ '=' :: value.toList ∧ '=' ∉ name.toList := by
  rw [← span_eq_cons_iff]
  unfold cookiePair?
  split
  · rename_i n x v hs
    rw [hs]
    constructor
    · intro h
      cases h
      exact ⟨x, by simp [String.toList_ofList]⟩
    · rintro ⟨x', h⟩
      simp only [Prod.mk.injEq, List.cons.injEq] at h
      obtain ⟨rfl, -, rfl⟩ := h
      simp [String.ofList_toList]
  · rename_i n hs
    rw [hs]
    simp

end Http

/-! ## The session token -/

namespace Live

open Http

/-- The session token is the first session cookie among the visible ASCII Cookie headers, else
the query's token, and never empty. -/
theorem sessionToken_eq_some_iff (r : Request) (q : Option String) (t : String) :
    sessionToken r q = some t ↔ t ≠ "" ∧
      let cookies := ((r.headerValues "cookie").filter visibleAscii).map asciiText
      ((cookiePairs cookies).lookup sessionCookie = some t ∨
        (cookiePairs cookies).lookup sessionCookie = none ∧ q = some t) := by
  simp only [sessionToken, cookieValue]
  cases (cookiePairs (((r.headerValues "cookie").filter visibleAscii).map asciiText)).lookup
      sessionCookie with
  | none =>
    cases q with
    | none => simp [Option.filter]
    | some v =>
      simp [Option.filter, and_comm]
      rintro rfl
      exact Iff.rfl
  | some v =>
    -- the cookie wins, even when it is empty
    simp [Option.filter, and_comm]
    rintro rfl
    exact Iff.rfl

/-! ## The gate -/

namespace World

variable (w : World) (r : Request) (q : Option String)

/-- The handler's answer for each outcome of its checks, taken in order: the token, the store's
check of it, the Origin. -/
theorem upgradeIdentity_status :
    (w.upgradeIdentity r q = .error 401 ↔ sessionToken r q = none ∨
      ∃ t, sessionToken r q = some t ∧ w.hub.access.validateSession t = .ok none) ∧
    (w.upgradeIdentity r q = .error 500 ↔
      ∃ t e, sessionToken r q = some t ∧ w.hub.access.validateSession t = .error e) ∧
    (w.upgradeIdentity r q = .error 403 ↔ ∃ t u, sessionToken r q = some t ∧
      w.hub.access.validateSession t = .ok (some u) ∧
      checkOrigin (r.headerValues "origin") w.config.allowedOrigin ≠ .ok ()) ∧
    (∀ i, w.upgradeIdentity r q = .ok i ↔ ∃ t u, sessionToken r q = some t ∧
      w.hub.access.validateSession t = .ok (some u) ∧
      checkOrigin (r.headerValues "origin") w.config.allowedOrigin = .ok () ∧
      i = ⟨u.id, u.displayName, t⟩) ∧
    (∀ n, w.upgradeIdentity r q = .error n → n = 401 ∨ n = 500 ∨ n = 403) := by
  unfold upgradeIdentity
  cases ht : sessionToken r q with
  | none => simp
  | some t =>
    dsimp only
    cases hv : w.hub.access.validateSession t with
    | error e => simp [hv]
    | ok found =>
      cases found with
      | none => simp [hv]
      | some u =>
        dsimp only
        cases checkOrigin (r.headerValues "origin") w.config.allowedOrigin with
        | error e => simp [hv]
        | ok _ => simp [hv, eq_comm]

end World

/-- The upgrade gate: where the session token comes from, and which answer each outcome of the
token, the store's check of it and the Origin check gives, 101 handing on the user's identity. -/
theorem upgrade_gate (w : World) (r : Request) (q : Option String) :
    let cookies := ((r.headerValues "cookie").filter visibleAscii).map asciiText
    let token := sessionToken r q
    let originOk := ∃ o, (r.headerValues "origin").head? = some o ∧ visibleAscii o = true ∧
      o = w.config.allowedOrigin.toUTF8.toList
    (∀ t, token = some t ↔ t ≠ "" ∧ ((cookiePairs cookies).lookup sessionCookie = some t ∨
      (cookiePairs cookies).lookup sessionCookie = none ∧ q = some t)) ∧
    (∀ pair name value, cookiePair? pair = some (name, value) ↔
      (trimBlank pair).toList = name.toList ++ '=' :: value.toList ∧ '=' ∉ name.toList) ∧
    (w.upgradeIdentity r q = .error 401 ↔
      token = none ∨ ∃ t, token = some t ∧ w.hub.access.validateSession t = .ok none) ∧
    (w.upgradeIdentity r q = .error 500 ↔
      ∃ t e, token = some t ∧ w.hub.access.validateSession t = .error e) ∧
    (w.upgradeIdentity r q = .error 403 ↔
      ∃ t u, token = some t ∧ w.hub.access.validateSession t = .ok (some u) ∧ ¬ originOk) ∧
    (∀ i, w.upgradeIdentity r q = .ok i ↔ ∃ t u, token = some t ∧
      w.hub.access.validateSession t = .ok (some u) ∧ originOk ∧ i = ⟨u.id, u.displayName, t⟩) ∧
    (∀ n, w.upgradeIdentity r q = .error n → n = 401 ∨ n = 500 ∨ n = 403) ∧
    (upgradeRefusal r = none → queryToken r.query = .ok q →
      (w.upgrade r).status = match w.upgradeIdentity r q with
        | .error status => status
        | .ok _ => 101) := by
  intro cookies token originOk
  have horigin : checkOrigin (r.headerValues "origin") w.config.allowedOrigin = .ok () ↔ originOk :=
    checkOrigin_eq_ok_iff _ _
  obtain ⟨h401, h500, h403, hok, hother⟩ := w.upgradeIdentity_status r q
  refine ⟨sessionToken_eq_some_iff r q, Http.cookiePair?_eq_some_iff, h401, h500, ?_, fun i => ?_,
    hother, fun hup hq => ?_⟩
  · simp only [h403, ne_eq, horigin, token]
  · simp only [hok i, horigin, token]
  · -- a well-formed upgrade whose query parses is answered by the handler
    simp only [World.upgrade, hup, hq]
    cases w.upgradeIdentity r q <;> rfl

end Live

end Switchboard
