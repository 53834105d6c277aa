import Mathlib.Data.List.Forall2

/-!
# Successful results

What is known of the parts of a computation in `Except` that has a result.

* `bind_eq_ok`, `map_eq_ok` and `mapM_eq_ok` take such a computation apart.
* `exists_mem_iff_of_mapM` compares what holds of some item with what holds of some result.
* `foldlM_keeps` carries an invariant of the steps of a fold over to its result.
-/

namespace ChartBoard.Result

variable {ε α β : Type}

theorem bind_eq_ok {x : Except ε α} {f : α → Except ε β} {b : β} :
    x >>= f = .ok b ↔ ∃ a, x = .ok a ∧ f a = .ok b := by
  cases x with
  | error e => simp [bind, Except.bind]
  | ok a => simp [bind, Except.bind]

theorem map_eq_ok {x : Except ε α} {f : α → β} {b : β} :
    x.map f = .ok b ↔ ∃ a, x = .ok a ∧ f a = b := by
  cases x <;> simp [Except.map]

theorem toOption_eq_some {x : Except ε α} {a : α} : x.toOption = some a ↔ x = .ok a := by
  cases x <;> simp [Except.toOption]

theorem pure_eq_ok {a b : α} : (pure a : Except ε α) = .ok b ↔ a = b := by
  simp [pure, Except.pure]

/-- A traversal succeeds when it does at every item, and gives the results in order. -/
theorem mapM_eq_ok {f : α → Except ε β} {xs : List α} {ys : List β} :
    xs.mapM f = .ok ys ↔ List.Forall₂ (fun x y => f x = .ok y) xs ys := by
  induction xs generalizing ys with
  | nil => cases ys <;> simp [pure, Except.pure]
  | cons x xs ih =>
    simp only [List.mapM_cons, bind_eq_ok, pure_eq_ok, ih, List.forall₂_cons_left_iff]
    constructor
    · rintro ⟨y, hy, rest, hrest, rfl⟩
      exact ⟨y, rest, hy, hrest, rfl⟩
    · rintro ⟨y, rest, hy, hrest, rfl⟩
      exact ⟨y, hy, rest, hrest, rfl⟩

theorem mapM_eq_map {f : α → Except ε β} {g : α → β} {xs : List α}
    (h : ∀ x ∈ xs, f x = .ok (g x)) : xs.mapM f = .ok (xs.map g) := by
  rw [mapM_eq_ok, List.forall₂_map_right_iff]
  exact List.forall₂_same.mpr h

/-- A traversal of items made of others, by positions that do not matter. -/
theorem mapM_zipIdx_map_eq_map {γ : Type} {f : β × Nat → Except ε γ} {make : α → β} {g : α → γ}
    {xs : List α} (h : ∀ x ∈ xs, ∀ i, f (make x, i) = .ok (g x)) :
    (xs.map make).zipIdx.mapM f = .ok (xs.map g) := by
  have hfst : xs.zipIdx.map (g ∘ Prod.fst) = xs.map g := by
    rw [← List.map_map, List.zipIdx_map_fst]
  rw [← hfst, List.zipIdx_map, List.mapM_map]
  exact mapM_eq_map fun (x, i) hx => h x (List.fst_mem_of_mem_zipIdx hx) i

/-- A traversal of what was made of items and their positions, by the same positions again. -/
theorem mapM_zipIdx_map_zipIdx {γ : Type} {f : β × Nat → Except ε γ} {f' : α × Nat → Except ε γ}
    {make : α → Nat → β} {xs : List α} (h : ∀ x ∈ xs, ∀ i, f (make x i, i) = f' (x, i)) :
    (xs.zipIdx.map fun p => make p.1 p.2).zipIdx.mapM f = xs.zipIdx.mapM f' := by
  generalize 0 = start
  induction xs generalizing start with
  | nil => rfl
  | cons x xs ih =>
    rw [List.zipIdx_cons, List.map_cons, List.zipIdx_cons, List.mapM_cons, List.mapM_cons,
      h x List.mem_cons_self, ih (fun y hy => h y (List.mem_cons_of_mem x hy))]

theorem map_bind {γ : Type} (x : Except ε α) (f : α → Except ε β) (g : β → γ) :
    (x >>= f).map g = x >>= fun a => (f a).map g := by
  cases x <;> rfl

/-- Computations that agree in all that is looked at can be continued alike. -/
theorem bind_eq_of_map_eq {γ : Type} {x y : Except ε α} {f g : α → Except ε β} {view : α → γ}
    (hxy : x.map view = y.map view) (hfg : ∀ a b, x = .ok a → view a = view b → f a = g b) :
    x >>= f = y >>= g := by
  cases x with
  | error e =>
    cases y with
    | error e' => exact congrArg Except.error (Except.error.inj hxy)
    | ok b => cases hxy
  | ok a =>
    cases y with
    | error e => cases hxy
    | ok b => exact hfg a b rfl (Except.ok.inj hxy)

theorem length_of_mapM_eq_ok {f : α → Except ε β} {xs : List α} {ys : List β}
    (h : xs.mapM f = .ok ys) : ys.length = xs.length :=
  (mapM_eq_ok.mp h).length_eq.symm

theorem of_mem_of_mapM_eq_ok {f : α → Except ε β} {xs : List α} {ys : List β}
    (h : xs.mapM f = .ok ys) {y : β} (hy : y ∈ ys) : ∃ x ∈ xs, f x = .ok y := by
  have hall := mapM_eq_ok.mp h
  induction hall with
  | nil => cases hy
  | @cons x y' xs ys hx _ ih =>
    rcases List.mem_cons.mp hy with rfl | hy
    · exact ⟨x, List.mem_cons_self, hx⟩
    · obtain ⟨x', hx', hfx'⟩ := ih (mapM_eq_ok.mpr ‹_›) hy
      exact ⟨x', List.mem_cons_of_mem x hx', hfx'⟩

theorem exists_ok_of_mapM_eq_ok {f : α → Except ε β} {xs : List α} {ys : List β}
    (h : xs.mapM f = .ok ys) {x : α} (hx : x ∈ xs) : ∃ y, f x = .ok y := by
  have hall := mapM_eq_ok.mp h
  clear h
  induction hall with
  | nil => cases hx
  | @cons x' y xs ys hx' _ ih =>
    rcases List.mem_cons.mp hx with rfl | hx
    · exact ⟨y, hx'⟩
    · exact ih hx

/-- Some item has a property when some result has the corresponding one. -/
theorem exists_mem_iff_of_mapM {f : α → Except ε β} {xs : List α} {ys : List β} {P : α → Prop}
    {Q : β → Prop} (h : xs.mapM f = .ok ys) (hPQ : ∀ x y, f x = .ok y → (P x ↔ Q y)) :
    (∃ x ∈ xs, P x) ↔ ∃ y ∈ ys, Q y := by
  have hall := mapM_eq_ok.mp h
  clear h
  induction hall with
  | nil => simp
  | @cons x y xs ys hxy _ ih => simp only [List.exists_mem_cons_iff, hPQ x y hxy, ih]

theorem exists_mem_iff_of_mapM_zipIdx {f : α × Nat → Except ε β} {xs : List α} {ys : List β}
    {P : α → Prop} {Q : β → Prop} (h : xs.zipIdx.mapM f = .ok ys)
    (hPQ : ∀ x i y, f (x, i) = .ok y → (P x ↔ Q y)) : (∃ x ∈ xs, P x) ↔ ∃ y ∈ ys, Q y := by
  rw [← exists_mem_iff_of_mapM (P := fun x => P x.1) h fun (x, i) y hy => hPQ x i y hy]
  nth_rewrite 1 [← List.zipIdx_map_fst 0 xs]
  simp only [List.mem_map, exists_exists_and_eq_and]

/-- A traversal that looks at positions alone is one of the positions. -/
theorem mapM_eq_mapM_range {f : α → Except ε β} {g : Nat → Except ε β} {xs : List α}
    (h : ∀ k x, xs[k]? = some x → f x = g k) : xs.mapM f = (List.range xs.length).mapM g := by
  induction xs generalizing g with
  | nil => rfl
  | cons x xs ih =>
    rw [List.length_cons, List.range_succ_eq_map, List.mapM_cons, List.mapM_cons, List.mapM_map,
      h 0 x rfl, ih fun k y hy => h (k + 1) y hy]
    rfl

theorem filterM_eq_nil {p : α → Except ε Bool} {xs : List α} (h : ∀ x ∈ xs, p x = .ok false) :
    xs.filterM p = .ok [] := by
  have hfrom (kept : List α) : xs.filterAuxM p kept = .ok kept := by
    induction xs with
    | nil => rfl
    | cons x xs ih =>
      rw [List.filterAuxM, h x List.mem_cons_self]
      exact ih fun y hy => h y (List.mem_cons_of_mem x hy)
  rw [List.filterM, hfrom]
  rfl

/-- What every step of a fold keeps holds of its result. -/
theorem foldlM_keeps {f : β → α → Except ε β} {P : β → Prop} {xs : List α}
    (hstep : ∀ b b' x, x ∈ xs → P b → f b x = .ok b' → P b') {b b' : β} (hb : P b)
    (h : xs.foldlM f b = .ok b') : P b' := by
  induction xs generalizing b with
  | nil =>
    obtain rfl := pure_eq_ok.mp h
    exact hb
  | cons x xs ih =>
    rw [List.foldlM_cons, bind_eq_ok] at h
    obtain ⟨c, hc, h⟩ := h
    exact ih (fun b b' y hy => hstep b b' y (List.mem_cons_of_mem x hy))
      (hstep b c x List.mem_cons_self hb hc) h

end ChartBoard.Result
