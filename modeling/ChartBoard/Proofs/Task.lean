import ChartBoard.Task

/-!
# Successful tasks

What is known of the parts of a task that has a result.

* `outcome_bind` and its like give the outcome of a task by its parts.
* `bind_eq_ok` takes tasks in sequence apart.
* `ofExcept_eq_ok` says that a given result leaves the state alone.
* `Keeps` says that a computation keeps a property of the state, whatever comes of it.
-/

namespace ChartBoard.Task

variable {σ α β : Type} {s s' : σ} {b : β}

/-- A fault ends a task; what was changed until then stays changed. -/
theorem outcome_bind (t : Task σ α) (f : α → Task σ β) (s : σ) :
    (t >>= f).outcome s =
      match t.outcome s with
      | (.ok a, next) => (f a).outcome next
      | (.error fault, next) => (.error fault, next) := by
  unfold outcome
  simp only [bind, ExceptT.bind, ExceptT.mk, StateT.bind, ExceptT.bindCont]
  cases t s with
  | mk result next => cases result <;> rfl

theorem outcome_get (s : σ) : (get : Task σ σ).outcome s = (.ok s, s) := rfl

theorem outcome_modify (f : σ → σ) (s : σ) : (modify f : Task σ Unit).outcome s = (.ok (), f s) :=
  rfl

theorem outcome_ofExcept (result : Except Fault β) (s : σ) :
    (ofExcept result).outcome s = (result, s) := rfl

theorem outcome_attempt (t : Task σ α) (s : σ) :
    (attempt t).outcome s = (.ok (t.outcome s).1, (t.outcome s).2) := rfl

theorem bind_eq_ok {t : Task σ α} {f : α → Task σ β} :
    (t >>= f).outcome s = (.ok b, s') ↔
      ∃ a next, t.outcome s = (.ok a, next) ∧ (f a).outcome next = (.ok b, s') := by
  rw [outcome_bind]
  constructor
  · intro h
    split at h
    · rename_i a next ht
      exact ⟨a, next, ht, h⟩
    · cases h
  · rintro ⟨a, next, ht, h⟩
    rw [ht]
    exact h

theorem ofExcept_eq_ok {result : Except Fault β} :
    (ofExcept result).outcome s = (.ok b, s') ↔ result = .ok b ∧ s = s' := by
  rw [outcome_ofExcept, Prod.mk.injEq]

theorem ite_bind {c : Prop} [Decidable c] (t u : Task σ α) (f : α → Task σ β) :
    (if c then t else u) >>= f = if c then t >>= f else u >>= f := by
  split <;> rfl

/-! ## What a computation keeps -/

section Keeps

variable {ε : Type} {P : σ → Prop}

/-- A computation after which a property of the state holds if it did before. -/
def Keeps (P : σ → Prop) (t : ExceptT ε (StateM σ) α) : Prop := ∀ s, P s → P (t s).2

theorem keeps_pure (a : α) : Keeps P (pure a : ExceptT ε (StateM σ) α) := fun _ h => h

theorem keeps_throw (e : ε) : Keeps P (throw e : ExceptT ε (StateM σ) α) := fun _ h => h

theorem keeps_get : Keeps P (get : ExceptT ε (StateM σ) σ) := fun _ h => h

theorem keeps_modify {f : σ → σ} (hf : ∀ s, P s → P (f s)) :
    Keeps P (modify f : ExceptT ε (StateM σ) Unit) := hf

theorem Keeps.bind {t : ExceptT ε (StateM σ) α} {f : α → ExceptT ε (StateM σ) β}
    (ht : Keeps P t) (hf : ∀ a, Keeps P (f a)) : Keeps P (t >>= f) := by
  intro s hs
  have hnext : P (t s).2 := ht s hs
  simp only [Bind.bind, ExceptT.bind, ExceptT.mk, StateT.bind, ExceptT.bindCont]
  cases hresult : t s with
  | mk result next =>
    rw [hresult] at hnext
    cases result with
    | ok a => exact hf a next hnext
    | error e => exact hnext

theorem keeps_ofExcept (r : Except Fault α) : Keeps P (ofExcept r) := fun _ h => h

/-- Work on a part of the state keeps what holds whatever the part is replaced by. -/
theorem keeps_on {τ : Type} {part : σ → τ} {replace : τ → σ → σ}
    (hreplace : ∀ p s, P s → P (replace p s)) (t : Task τ α) : Keeps P (on part replace t) :=
  fun s hs => hreplace (t.outcome (part s)).2 s hs

end Keeps

end ChartBoard.Task
