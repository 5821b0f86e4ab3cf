/-!
# Successful steps

What a sequence of steps that may fail has done, read off its success: each step succeeded,
and its result was handed on.  Steps on a state in place take nothing back when one of them fails,
so they leave the state as it was only if they fail before they write.
-/

namespace Clausal

variable {ε α β : Type}

theorem bind_eq_ok_iff {x : Except ε α} {f : α → Except ε β} {result : β} :
    x >>= f = .ok result ↔ ∃ value, x = .ok value ∧ f value = .ok result := by
  cases x with
  | error failure => simp [bind, Except.bind]
  | ok value => simp [bind, Except.bind]

theorem bind_eq_error_iff {x : Except ε α} {f : α → Except ε β} {failure : ε} :
    x >>= f = .error failure ↔
      x = .error failure ∨ ∃ value, x = .ok value ∧ f value = .error failure := by
  cases x with
  | error reason => simp [bind, Except.bind]
  | ok value => simp [bind, Except.bind]

theorem map_eq_ok_iff {x : Except ε α} {f : α → β} {result : β} :
    x.map f = .ok result ↔ ∃ value, x = .ok value ∧ f value = result := by
  cases x with
  | error failure => simp [Except.map]
  | ok value => simp [Except.map]

theorem map_eq_error_iff {x : Except ε α} {f : α → β} {failure : ε} :
    x.map f = .error failure ↔ x = .error failure := by
  cases x with
  | error failure => simp [Except.map]
  | ok value => simp [Except.map]

theorem mapError_eq_ok_iff {ε' : Type} {x : Except ε α} {f : ε → ε'} {result : α} :
    x.mapError f = .ok result ↔ x = .ok result := by
  cases x with
  | error failure =>
      change Except.error (f failure) = .ok result ↔ _
      simp
  | ok value =>
      change Except.ok value = .ok result ↔ _
      simp

theorem pure_eq_ok_iff {value result : α} :
    (pure value : Except ε α) = .ok result ↔ value = result := by
  simp [pure, Except.pure]

/-- A fold succeeds if every step does and keeps what the next ones need. -/
theorem exists_foldlM {σ : Type} {step : σ → α → Except ε σ} {Inv : σ → Prop} {items : List α}
    (steps : ∀ s, Inv s → ∀ item ∈ items, ∃ s', step s item = .ok s' ∧ Inv s') {s : σ}
    (h : Inv s) : ∃ last, items.foldlM step s = .ok last ∧ Inv last := by
  induction items generalizing s with
  | nil => exact ⟨s, rfl, h⟩
  | cons item rest ih =>
      obtain ⟨next, hstep, hnext⟩ := steps s h item List.mem_cons_self
      obtain ⟨last, hrest, hlast⟩ :=
        ih (fun s hs other hmem => steps s hs other (List.mem_cons_of_mem item hmem)) hnext
      refine ⟨last, ?_, hlast⟩
      rw [List.foldlM_cons, bind_eq_ok_iff]
      exact ⟨next, hstep, hrest⟩

/-- Where every item succeeds with a value, so do all of them together. -/
theorem mapM_eq_pure {m : Type → Type} [Monad m] [LawfulMonad m] {f : α → m β} {g : α → β}
    {items : List α} (h : ∀ item ∈ items, f item = pure (g item)) :
    items.mapM f = pure (items.map g) := by
  induction items with
  | nil => rw [List.mapM_nil, List.map_nil]
  | cons item rest ih =>
      rw [List.forall_mem_cons] at h
      rw [List.mapM_cons, h.1, ih h.2, pure_bind, pure_bind, List.map_cons]

theorem mapM_eq_ok {f : α → Except ε β} {g : α → β} {items : List α}
    (h : ∀ item ∈ items, f item = .ok (g item)) : items.mapM f = .ok (items.map g) :=
  mapM_eq_pure h

theorem mapM_eq_some {f : α → Option β} {g : α → β} {items : List α}
    (h : ∀ item ∈ items, f item = some (g item)) : items.mapM f = some (items.map g) :=
  mapM_eq_pure h

/-! ## Steps in place -/

section

variable {σ : Type} {edit : EStateM ε σ α} {s : σ}

/-- What an attempt comes to in place if it fails, where it does, before anything is written. -/
def inPlace (before : σ) : Except ε (σ × α) → EStateM.Result ε σ α
  | .ok made => .ok made.2 made.1
  | .error failure => .error failure before

theorem bind_apply (edit : EStateM ε σ α) (next : α → EStateM ε σ β) (s : σ) :
    (edit >>= next) s =
      match edit s with
      | .ok value left => next value left
      | .error failure left => .error failure left := by
  change EStateM.bind edit next s = _
  rw [EStateM.bind]
  cases edit s with
  | ok value left => rfl
  | error failure left => rfl

/-- What only answers something may follow. -/
theorem bind_pure_apply {attempt : Except ε (σ × α)} (h : edit s = inPlace s attempt)
    (f : α → β) :
    (edit >>= fun value => pure (f value)) s =
      inPlace s (attempt.map fun made => (made.1, f made.2)) := by
  rw [bind_apply, h]
  cases attempt with
  | error failure => rfl
  | ok made => rfl

theorem check_bind_apply {check : Except ε β} {next : β → EStateM ε σ α}
    {attempt : β → Except ε (σ × α)} (h : ∀ value, next value s = inPlace s (attempt value)) :
    (ofExcept check >>= next) s = inPlace s (check >>= attempt) := by
  cases check with
  | error failure => rfl
  | ok value => exact h value

end

end Clausal
