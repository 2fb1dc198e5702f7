import Mathlib.Data.List.Forall2

/-!
# Runs that may fail

A run over a list comes to an end if every item has an outcome, and then the outcomes correspond to
the items one by one (`mapM_eq_ok_iff`, `mapM_eq_some_iff`). Otherwise it stops at the first item
that fails, with the failure of that item (`mapM_eq_error_iff`).
-/

namespace RouterConf

/-! ### Single outcomes -/

/-- A run of two steps succeeds if the first does and the second does with what the first has found.
-/
theorem except_bind_eq_ok {ε α β : Type} {v : Except ε α} {f : α → Except ε β} {b : β} :
    (v >>= f) = .ok b ↔ ∃ a, v = .ok a ∧ f a = .ok b := by
  cases v with
  | error e => exact ⟨nofun, nofun⟩
  | ok a => exact ⟨fun h => ⟨a, rfl, h⟩, fun ⟨_, ha, h⟩ => Except.ok.inj ha ▸ h⟩

/-- To rename errors does not change what succeeds. -/
theorem except_mapError_eq_ok {ε ε' α : Type} {f : ε → ε'} {v : Except ε α} {a : α} :
    v.mapError f = .ok a ↔ v = .ok a := by
  cases v <;> simp [Except.mapError]

/-- To drop the error does not change what succeeds. -/
theorem except_toOption_eq_some {ε α : Type} {v : Except ε α} {a : α} :
    v.toOption = some a ↔ v = .ok a := by
  cases v <;> simp [Except.toOption]

/-! ### Runs over a list -/

/-- **A run over a list succeeds** just if every item has an outcome; the outcomes are theirs, one
by one and in order. -/
theorem mapM_eq_ok_iff {ε α β : Type} {f : α → Except ε β} {as : List α} {bs : List β} :
    as.mapM f = .ok bs ↔ List.Forall₂ (fun a b => f a = .ok b) as bs := by
  -- By induction on the items: the outcome of the first comes before those of the rest.
  induction as generalizing bs with
  | nil => simp [pure, Except.pure, eq_comm]
  | cons a as ih =>
    rw [List.mapM_cons, List.forall₂_cons_left_iff]
    constructor
    · intro h
      -- Neither the first item nor the rest can have failed.
      cases hb : f a with
      | error e =>
        rw [hb] at h
        cases h
      | ok b =>
        cases hr : as.mapM f with
        | error e =>
          rw [hb, hr] at h
          cases h
        | ok rest =>
          rw [hb, hr] at h
          exact ⟨b, rest, rfl, ih.1 hr, (Except.ok.inj h).symm⟩
    · rintro ⟨b, rest, hb, hr, rfl⟩
      rw [hb, ih.2 hr]
      rfl

/-- A run over a list has outcomes if each of its items has one. -/
theorem exists_mapM_iff {ε α β : Type} {f : α → Except ε β} {as : List α} :
    (∃ bs, as.mapM f = .ok bs) ↔ ∀ a ∈ as, ∃ b, f a = .ok b := by
  -- The outcomes of the single items are put together into a list.
  simp only [mapM_eq_ok_iff]
  induction as with
  | nil => simp
  | cons a as ih =>
    rw [List.forall_mem_cons, ← ih]
    constructor
    · rintro ⟨_, made⟩
      cases made with
      | cons first rest => exact ⟨⟨_, first⟩, _, rest⟩
    · rintro ⟨⟨b, first⟩, bs, rest⟩
      exact ⟨b :: bs, .cons first rest⟩

/-- The failure of a run is that of the first item that fails. -/
theorem mapM_eq_error_iff {ε α β : Type} {f : α → Except ε β} {as : List α} {e : ε} :
    as.mapM f = .error e ↔ ∃ before a after bs, as = before ++ a :: after ∧
      List.Forall₂ (fun a b => f a = .ok b) before bs ∧ f a = .error e := by
  induction as with
  | nil => simp [pure, Except.pure]
  | cons a as ih =>
    rw [List.mapM_cons]
    constructor
    · intro h
      cases hb : f a with
      | error e' =>
        rw [hb] at h
        -- The first item is the one that fails, and nothing is before it.
        obtain rfl : e' = e := Except.error.inj h
        exact ⟨[], a, as, [], rfl, .nil, hb⟩
      | ok b =>
        cases hr : as.mapM f with
        | ok rest =>
          rw [hb, hr] at h
          cases h
        | error e' =>
          rw [hb, hr] at h
          obtain rfl : e' = e := Except.error.inj h
          -- The first item has an outcome, and comes before the one that fails.
          obtain ⟨before, a', after, bs, rfl, made, failed⟩ := ih.1 hr
          exact ⟨a :: before, a', after, b :: bs, rfl, .cons hb made, failed⟩
    · rintro ⟨before, a', after, bs, split, made, failed⟩
      -- Either nothing stands before the item that fails, or the first item has an outcome of its
      -- own.
      cases made with
      | nil =>
        obtain ⟨rfl, rfl⟩ := List.cons.inj split
        rw [failed]
        rfl
      | cons first made =>
        obtain ⟨rfl, rest⟩ := List.cons.inj split
        rw [first, ih.2 ⟨_, _, _, _, rest, made, failed⟩]
        rfl

/-- Every outcome of a run is that of some item. -/
theorem exists_of_mem_mapM {ε α β : Type} {f : α → Except ε β} {as : List α} {bs : List β}
    (h : as.mapM f = .ok bs) {b : β} (hb : b ∈ bs) : ∃ a ∈ as, f a = .ok b := by
  have pairs := mapM_eq_ok_iff.1 h
  -- The outcome is found where it stands among the pairs of items and outcomes.
  induction pairs with
  | nil => cases hb
  | cons head _ ih =>
    rcases List.mem_cons.1 hb with rfl | later
    · exact ⟨_, List.mem_cons_self, head⟩
    · rename_i tail
      obtain ⟨a, ha, found⟩ := ih (mapM_eq_ok_iff.2 tail) later
      exact ⟨a, List.mem_cons_of_mem _ ha, found⟩

/-- Steps that agree on the items of a list run over it alike. -/
theorem mapM_congr {ε α β : Type} {f g : α → Except ε β} {as : List α}
    (h : ∀ a ∈ as, f a = g a) : as.mapM f = as.mapM g := by
  induction as with
  | nil => rfl
  | cons a as ih =>
    rw [List.mapM_cons, List.mapM_cons, h a List.mem_cons_self,
      ih fun b hb => h b (List.mem_cons_of_mem a hb)]

/-- A run of steps that may have no result has one just if every item has one, in order. -/
theorem mapM_eq_some_iff {α β : Type} {f : α → Option β} {as : List α} {bs : List β} :
    as.mapM f = some bs ↔ List.Forall₂ (fun a b => f a = some b) as bs := by
  induction as generalizing bs with
  | nil => simp [eq_comm]
  | cons a as ih =>
    rw [List.mapM_cons, List.forall₂_cons_left_iff]
    constructor
    · intro h
      -- The first item has a result, and so has the rest.
      obtain ⟨b, hb, h⟩ := Option.bind_eq_some_iff.1 h
      obtain ⟨rest, hr, h⟩ := Option.bind_eq_some_iff.1 h
      exact ⟨b, rest, hb, ih.1 hr, (Option.some.inj h).symm⟩
    · rintro ⟨b, rest, hb, hr, rfl⟩
      rw [hb, ih.2 hr]
      rfl

end RouterConf
