import Mathlib.Tactic

/-!
# Computations that succeed

When a computation that may fail ends in a given result, by its last step, and a list of
computations by its elements.
-/

namespace Except

variable {ε α β : Type}

/-- A sequence of two steps succeeds if both do. -/
theorem bind_eq_ok_iff {x : Except ε α} {f : α → Except ε β} {b : β} :
    (x >>= f) = .ok b ↔ ∃ a, x = .ok a ∧ f a = .ok b := by
  cases x with
  | error e => simp [bind, Except.bind]
  | ok a => simp [bind, Except.bind]

theorem pure_eq_ok_iff {a b : α} : (pure a : Except ε α) = .ok b ↔ b = a := by
  rw [eq_comm (a := b)]
  exact Except.ok.injEq a b ▸ Iff.rfl

/-- What is guarded by a condition succeeds if the condition holds and the rest succeeds. -/
theorem ite_error_eq_ok_iff {c : Prop} [Decidable c] {x : Except ε α} {e : ε} {a : α} :
    (if c then x else .error e) = .ok a ↔ c ∧ x = .ok a := by
  split
  · next h => rw [and_iff_right h]
  · next h => simp [h]

theorem ite_throw_eq_ok_iff {c : Prop} [Decidable c] {x : Except ε α} {e : ε} {a : α} :
    (if c then x else throw e) = .ok a ↔ c ∧ x = .ok a :=
  ite_error_eq_ok_iff

/-- Only results are changed. -/
theorem map_eq_ok_iff {f : α → β} {x : Except ε α} {b : β} :
    x.map f = .ok b ↔ ∃ a, x = .ok a ∧ f a = b := by
  cases x <;> simp [Except.map]

/-- Only errors are changed. -/
theorem mapError_eq_ok_iff {ε' : Type} {f : ε → ε'} {x : Except ε α} {a : α} :
    x.mapError f = .ok a ↔ x = .ok a := by
  cases x <;> simp [Except.mapError]

/-- A change that leaves every result as it is changes nothing. -/
theorem map_eq_self {x : Except ε α} {f : α → α} (h : ∀ a, x = .ok a → f a = a) : f <$> x = x := by
  cases x with
  | error e => rfl
  | ok a => exact congrArg Except.ok (h a rfl)

theorem exists_eq_ok_of_isSome {x : Except ε α} (h : x.toOption.isSome) : ∃ a, x = .ok a := by
  cases x with
  | error e => simp [Except.toOption] at h
  | ok a => exact ⟨a, rfl⟩

/-- After a check that may throw, the rest runs if the check passes. -/
theorem unless_throw_eq_ok_iff {c : Prop} [Decidable c] {e : ε} {f : α → Except ε β}
    {x : Except ε β} {b : β} : (if c then throw e >>= f else x) = .ok b ↔ ¬c ∧ x = .ok b := by
  split
  · next h => simp [h, bind, Except.bind, throw, throwThe, MonadExceptOf.throw]
  · next h => rw [and_iff_right h]

end Except

namespace List

/-- Reading back a list of written things, each of which can be read back. -/
lemma mapM_map_eq_pure {m : Type → Type} [Monad m] [LawfulMonad m] {α β : Type} {f : β → m α}
    {g : α → β} {xs : List α} (h : ∀ x ∈ xs, f (g x) = pure x) : (xs.map g).mapM f = pure xs := by
  induction xs with
  | nil => simp
  | cons x xs ih =>
    rw [List.forall_mem_cons] at h
    obtain ⟨hx, hxs⟩ := h
    rw [List.map_cons, List.mapM_cons, hx, ih hxs]
    simp

/-- Where a sequence of two steps succeeds only if both do, the elements of a list that was computed
are results for elements of the list they were computed from. -/
lemma exists_of_mapM_eq_pure {m : Type → Type} [Monad m] [LawfulMonad m]
    (hbind : ∀ {α β : Type} {x : m α} {f : α → m β} {b : β}, x >>= f = pure b →
      ∃ a, x = pure a ∧ f a = pure b)
    (hpure : ∀ {α : Type} {a b : α}, (pure a : m α) = pure b → a = b) {α β : Type} {f : α → m β}
    {xs : List α} {ys : List β} (h : xs.mapM f = pure ys) : ∀ y ∈ ys, ∃ x ∈ xs, f x = pure y := by
  induction xs generalizing ys with
  | nil =>
    obtain rfl := hpure (List.mapM_nil.symm.trans h)
    exact List.forall_mem_nil _
  | cons x xs ih =>
    rw [List.mapM_cons] at h
    obtain ⟨z, hz, h⟩ := hbind h
    obtain ⟨zs, hzs, h⟩ := hbind h
    obtain rfl := hpure h
    rw [List.forall_mem_cons]
    refine ⟨⟨x, List.mem_cons_self, hz⟩, ?_⟩
    intro y hy
    obtain ⟨w, hw, hwy⟩ := ih hzs y hy
    exact ⟨w, List.mem_cons_of_mem _ hw, hwy⟩

lemma exists_of_mapM_eq_some {α β : Type} {f : α → Option β} {xs : List α} {ys : List β}
    (h : xs.mapM f = some ys) : ∀ y ∈ ys, ∃ x ∈ xs, f x = some y :=
  exists_of_mapM_eq_pure Option.bind_eq_some_iff.mp Option.some.inj h

lemma exists_of_mapM_eq_ok {ε α β : Type} {f : α → Except ε β} {xs : List α} {ys : List β}
    (h : xs.mapM f = .ok ys) : ∀ y ∈ ys, ∃ x ∈ xs, f x = .ok y :=
  exists_of_mapM_eq_pure Except.bind_eq_ok_iff.mp Except.ok.inj h

lemma exists_of_forall₂ {α β : Type} {p : α → β → Prop} {xs : List α} {ys : List β}
    (h : Forall₂ p xs ys) : ∀ y ∈ ys, ∃ x ∈ xs, p x y := by
  induction h with
  | nil => exact forall_mem_nil _
  | cons hfirst _ ih =>
    refine forall_mem_cons.mpr ⟨⟨_, mem_cons_self, hfirst⟩, fun y hy => ?_⟩
    obtain ⟨x, hx, h⟩ := ih y hy
    exact ⟨x, mem_cons_of_mem _ hx, h⟩

end List
