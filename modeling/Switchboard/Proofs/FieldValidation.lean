import Mathlib.Data.String.Basic
import Switchboard.Domain.Message
import Switchboard.Text.Encoding
/-!
# Field validation

A `Validator` is fed checks one after another, each a verdict, a field and a message. For each
field it keeps the message of the field's first failing check, and it lists these complaints in
increasing order of the field names.

Field names are compared as texts are here, character by character on code points. That is the
order of their UTF-8 bytes (`lt_iff_toUTF8_lt`): a character is encoded in one to four bytes, a
longer encoding starts with a larger lead byte, and encodings of one length carry the code point's
bits from the highest down, so two characters' encodings differ at a byte that settles their
order, whatever follows them (`utf8EncodeChar_append_lt`).

A check keeps the complaints in field order (`fieldOrdered_insertFirst`), and a failing check
gives its field a complaint only when the field has none yet (`lookup_insertFirst`). Over a whole
run, looking a field up gives the message of its first failing check (`lookup_ofChecks`).

Main statement, `first_failure_per_field`: after any checks on a fresh validator, it has errors
exactly when some check failed, and it lists each field that failed a check, with the message of
its first failing check, once and in strictly increasing byte order of the field names.
-/

namespace Switchboard

/-! ## Texts in byte order -/

theorem val_toNat_lt (c : Char) : c.val.toNat < 0x110000 := by
  rcases c.valid with h | ⟨-, h⟩ <;> omega

/-- A smaller character's bytes come first whatever follows each: no encoding begins another, so
the comparison is settled within them. -/
theorem utf8EncodeChar_append_lt {c d : Char} (h : c < d) (x y : List UInt8) :
    String.utf8EncodeChar c ++ x < String.utf8EncodeChar d ++ y := by
  have hcd : c.val.toNat < d.val.toNat := h
  have hd := val_toNat_lt d
  simp only [String.utf8EncodeChar]
  -- one to four bytes each: across lengths the lead bytes differ, and within one length the
  -- bytes are the code point's six-bit digits from the highest down, behind fixed tags
  split_ifs <;>
    simp only [List.cons_append, List.nil_append, List.cons_lt_cons_iff, UInt8.lt_iff_toNat_lt,
      ← UInt8.toNat_inj, UInt8.toNat_ofNat'] <;>
    simp (disch := omega) only [Nat.reducePow, Nat.mod_eq_of_lt] <;>
    omega

theorem append_lt_append_left_iff {α : Type} [LT α] [Std.Irrefl (· < · : α → α → Prop)]
    (l : List α) {x y : List α} : l ++ x < l ++ y ↔ x < y := by
  induction l with
  | nil => rfl
  | cons a l ih => rw [List.cons_append, List.cons_append, List.cons_lt_cons_self, ih]

theorem lt_iff_flatMap_utf8EncodeChar_lt (l m : List Char) :
    l < m ↔ l.flatMap String.utf8EncodeChar < m.flatMap String.utf8EncodeChar := by
  induction l generalizing m with
  | nil =>
    cases m with
    | nil => simp
    | cons d m =>
      obtain ⟨b, bs, hb⟩ := List.exists_cons_of_ne_nil (String.utf8EncodeChar_ne_nil (c := d))
      simp [hb]
  | cons c l ih =>
    cases m with
    | nil => simp
    | cons d m =>
      simp only [List.flatMap_cons]
      rcases lt_trichotomy c d with hcd | rfl | hdc
      · exact iff_of_true (List.cons_lt_cons_iff.2 (.inl hcd)) (utf8EncodeChar_append_lt hcd _ _)
      · rw [List.cons_lt_cons_self, append_lt_append_left_iff, ih]
      · refine iff_of_false ?_ (List.lt_asymm (utf8EncodeChar_append_lt hdc _ _))
        rw [List.cons_lt_cons_iff]
        rintro (hlt | ⟨rfl, -⟩)
        · exact lt_asymm hlt hdc
        · exact lt_irrefl _ hdc

/-- Texts compare as their UTF-8 bytes do: the order of texts is byte order. -/
theorem lt_iff_toUTF8_lt (a b : String) : a < b ↔ a.toUTF8.toList < b.toUTF8.toList := by
  rw [toUTF8_toList, toUTF8_toList, String.lt_iff_toList_lt]
  exact lt_iff_flatMap_utf8EncodeChar_lt a.toList b.toList

/-! ## Complaints in field order -/

/-- Complaints in strictly increasing field order, so no field twice. -/
def FieldOrdered (errors : List (String × String)) : Prop :=
  errors.Pairwise fun a b => a.1 < b.1

def firstFailure (checks : List (Bool × String × String)) (field : String) : Option String :=
  (checks.find? fun c => !c.1 && c.2.1 == field).map (·.2.2)

@[simp] theorem firstFailure_nil (field : String) : firstFailure [] field = none := rfl

theorem firstFailure_cons (ok : Bool) (f m : String) (checks : List (Bool × String × String))
    (g : String) :
    firstFailure ((ok, f, m) :: checks) g =
      (if ok = false ∧ f = g then some m else none).or (firstFailure checks g) := by
  by_cases h : ok = false ∧ f = g
  · obtain ⟨rfl, rfl⟩ := h
    simp [firstFailure]
  · have hp : (!ok && f == g) = false := by
      cases ok <;> simp_all
    simp [firstFailure, hp, h]

theorem lookup_cons_of_ne {f m g : String} (l : List (String × String)) (hg : g ≠ f) :
    ((f, m) :: l).lookup g = l.lookup g := by
  have hb : (g == f) = false := by simpa using hg
  simp [List.lookup_cons, hb]

theorem lookup_eq_none_of_lt_head {f m g : String} {rest : List (String × String)}
    (h : FieldOrdered ((f, m) :: rest)) (hg : g < f) : ((f, m) :: rest).lookup g = none := by
  rw [List.lookup_eq_none_iff]
  rintro ⟨f', m'⟩ he
  rcases List.mem_cons.1 he with he | he
  · cases he
    simpa using ne_of_lt hg
  · simpa using ne_of_lt (lt_trans hg ((List.pairwise_cons.1 h).1 _ he))

/-- In field order, a complaint is listed exactly when its field looks up its message. -/
theorem mem_iff_lookup_eq_some {l : List (String × String)} (h : FieldOrdered l) (g msg : String) :
    (g, msg) ∈ l ↔ l.lookup g = some msg := by
  induction l with
  | nil => simp
  | cons e rest ih =>
    obtain ⟨f, m⟩ := e
    obtain ⟨hlt, hrest⟩ := List.pairwise_cons.1 h
    by_cases hg : g = f
    · subst hg
      -- a later complaint of the same field would break the order
      have hnot : (g, msg) ∉ rest := fun hm => lt_irrefl g (hlt (g, msg) hm)
      simp [hnot, eq_comm]
    · rw [lookup_cons_of_ne rest hg, ← ih hrest]
      simp [hg]

section Insert

variable (f m : String)

theorem mem_insertFirst {l : List (String × String)} {e : String × String}
    (h : e ∈ insertFirst f m l) : e = (f, m) ∨ e ∈ l := by
  fun_induction insertFirst f m l with
  | case1 => simpa using h
  | case2 => simpa using h
  | case3 => exact .inr h
  | case4 f' m' rest _ _ ih =>
    rcases List.mem_cons.1 h with rfl | h
    · exact .inr List.mem_cons_self
    · exact (ih h).imp id (List.mem_cons_of_mem _)

theorem fieldOrdered_insertFirst {l : List (String × String)} (h : FieldOrdered l) :
    FieldOrdered (insertFirst f m l) := by
  fun_induction insertFirst f m l with
  | case1 => simp [FieldOrdered]
  | case2 f' m' rest hlt =>
    -- the new field goes first: it is below `f'`, which is below every later field
    have hrest := (List.pairwise_cons.1 h).1
    refine List.Pairwise.cons (fun e he => ?_) h
    rcases List.mem_cons.1 he with rfl | he
    · exact hlt
    · exact lt_trans hlt (hrest e he)
  | case3 => exact h
  | case4 f' m' rest hlt hne ih =>
    -- `f'` stays first: it is below the new field and below every field of the rest
    obtain ⟨hrest, htail⟩ := List.pairwise_cons.1 h
    have hgt : f' < f := lt_of_le_of_ne (not_lt.1 hlt) (Ne.symm hne)
    refine List.Pairwise.cons (fun e he => ?_) (ih htail)
    rcases mem_insertFirst f m he with rfl | he
    · exact hgt
    · exact hrest e he

theorem lookup_insertFirst {l : List (String × String)} (h : FieldOrdered l) (g : String) :
    (insertFirst f m l).lookup g = (l.lookup g).or (if f = g then some m else none) := by
  fun_induction insertFirst f m l with
  | case1 =>
    by_cases hg : f = g
    · subst hg
      simp
    · rw [lookup_cons_of_ne [] (Ne.symm hg)]
      simp [hg]
  | case2 f' m' rest hlt =>
    by_cases hg : f = g
    · -- the new field is below every field held, so it had no complaint
      subst hg
      simp [lookup_eq_none_of_lt_head h hlt]
    · rw [lookup_cons_of_ne _ (Ne.symm hg)]
      simp [hg]
  | case3 =>
    by_cases hg : f = g
    · subst hg
      simp
    · simp [hg]
  | case4 f' m' rest _ _ ih =>
    by_cases hg : g = f'
    · subst hg
      simp
    · rw [lookup_cons_of_ne _ hg, lookup_cons_of_ne _ hg, ih (List.pairwise_cons.1 h).2]

end Insert

/-! ## A run of checks -/

namespace Validator

theorem fieldOrdered_check {v : Validator} (h : FieldOrdered v.errors) (ok : Bool) (f m : String) :
    FieldOrdered (v.check ok f m).errors := by
  unfold check
  split
  · exact h
  · exact fieldOrdered_insertFirst f m h

theorem lookup_check {v : Validator} (h : FieldOrdered v.errors) (ok : Bool) (f m g : String) :
    (v.check ok f m).errors.lookup g =
      (v.errors.lookup g).or (if ok = false ∧ f = g then some m else none) := by
  cases ok
  · simp [check, lookup_insertFirst f m h]
  · simp [check]

theorem ofChecks_eq_foldl (checks : List (Bool × String × String)) :
    ofChecks checks = checks.foldl (fun v c => v.check c.1 c.2.1 c.2.2) {} := rfl

theorem fieldOrdered_foldl_check (checks : List (Bool × String × String)) {v : Validator}
    (h : FieldOrdered v.errors) :
    FieldOrdered (checks.foldl (fun v c => v.check c.1 c.2.1 c.2.2) v).errors := by
  induction checks generalizing v with
  | nil => exact h
  | cons c checks ih => exact ih (fieldOrdered_check h c.1 c.2.1 c.2.2)

/-- After a run, a field looks up the complaint it had before the run, or else the message of its
first failing check in the run. -/
theorem lookup_foldl_check (checks : List (Bool × String × String)) {v : Validator}
    (h : FieldOrdered v.errors) (g : String) :
    (checks.foldl (fun v c => v.check c.1 c.2.1 c.2.2) v).errors.lookup g =
      (v.errors.lookup g).or (firstFailure checks g) := by
  induction checks generalizing v with
  | nil => simp
  | cons c checks ih =>
    obtain ⟨ok, f, m⟩ := c
    rw [List.foldl_cons, ih (fieldOrdered_check h ok f m), lookup_check h, firstFailure_cons,
      Option.or_assoc]

theorem fieldOrdered_ofChecks (checks : List (Bool × String × String)) :
    FieldOrdered (ofChecks checks).errors := by
  rw [ofChecks_eq_foldl]
  exact fieldOrdered_foldl_check checks List.Pairwise.nil

theorem lookup_ofChecks (checks : List (Bool × String × String)) (g : String) :
    (ofChecks checks).errors.lookup g = firstFailure checks g := by
  rw [ofChecks_eq_foldl, lookup_foldl_check checks List.Pairwise.nil]
  rfl

/-- A run leaves errors exactly when some check fails: the field of a failing check has a
complaint, and every complaint comes from a failing check. -/
theorem hasErrors_ofChecks (checks : List (Bool × String × String)) :
    (ofChecks checks).hasErrors = true ↔ ∃ c ∈ checks, c.1 = false := by
  have hord := fieldOrdered_ofChecks checks
  rw [hasErrors, Bool.not_eq_true', List.isEmpty_eq_false_iff_exists_mem]
  constructor
  · rintro ⟨⟨g, msg⟩, he⟩
    rw [mem_iff_lookup_eq_some hord, lookup_ofChecks, firstFailure, Option.map_eq_some_iff] at he
    obtain ⟨c, hc, -⟩ := he
    have hfail : c.1 = false ∧ c.2.1 = g := by simpa using List.find?_some hc
    exact ⟨c, List.mem_of_find?_eq_some hc, hfail.1⟩
  · rintro ⟨c, hc, hfail⟩
    have hsome : (firstFailure checks c.2.1).isSome := by
      simp only [firstFailure, Option.isSome_map, List.find?_isSome]
      exact ⟨c, hc, by simp [hfail]⟩
    obtain ⟨msg, hmsg⟩ := Option.isSome_iff_exists.1 hsome
    rw [← lookup_ofChecks, ← mem_iff_lookup_eq_some hord] at hmsg
    exact ⟨_, hmsg⟩

/-- After any checks on a fresh validator: it has errors exactly when some check failed, and its
complaints are each field that failed a check, with the message of its first failing check, once
per field and in strictly increasing byte order of the field names. -/
theorem first_failure_per_field (checks : List (Bool × String × String)) :
    ((ofChecks checks).hasErrors = true ↔ ∃ c ∈ checks, c.1 = false) ∧
    ((ofChecks checks).errors.map fun e => e.1.toUTF8.toList).Pairwise (· < ·) ∧
    ((ofChecks checks).errors.map Prod.fst).Nodup ∧
    ∀ field msg, (field, msg) ∈ (ofChecks checks).errors ↔ firstFailure checks field = some msg := by
  have hord := fieldOrdered_ofChecks checks
  refine ⟨hasErrors_ofChecks checks, ?_, ?_, fun field msg => ?_⟩
  · exact List.pairwise_map.2 (hord.imp fun hlt => (lt_iff_toUTF8_lt _ _).1 hlt)
  · exact List.pairwise_map.2 (hord.imp ne_of_lt)
  · rw [mem_iff_lookup_eq_some hord, lookup_ofChecks]

example : (ofChecks [(false, "message", "Message cannot be empty"),
    (false, "message", "Message is too long"), (true, "receiver_id", "Invalid receiver ID")]).errors =
    [("message", "Message cannot be empty")] := by decide

end Validator

end Switchboard
