import ChartBoard.Datum.Basic
import ChartBoard.Proofs.Keyed

/-!
# Members of records

* `Record.get_set` says what a member holds after one has been set.
* `Datum.get_object` says that the members of an object are its own.
-/

namespace ChartBoard.Record

variable (r : Record) (name : String) (value : Datum)

theorem get?_set (other : String) :
    get? (set r name value) other = if name = other then some value else get? r other :=
  Keyed.get?_set r name value other

theorem set_of_get? (h : get? r name = some value) : set r name value = r :=
  Keyed.set_of_get? h

theorem get_of_get? (h : get? r name = some value) : get r name = value := by
  rw [get, h, Option.getD_some]

theorem get?_of_get (h : get r name = value) (hvalue : value ≠ .null) :
    get? r name = some value := by
  unfold get at h
  cases hfound : get? r name with
  | none =>
    rw [hfound] at h
    exact absurd h.symm hvalue
  | some v =>
    rw [hfound] at h
    exact congrArg some h

/-- Setting a member to what it holds changes nothing; null aside, as it may be absent. -/
theorem set_of_get (h : get r name = value) (hvalue : value ≠ .null) : set r name value = r :=
  set_of_get? r name value (get?_of_get r name value h hvalue)

@[simp] theorem get_cons (other : String) :
    get ((name, value) :: r) other = if name = other then value else get r other := by
  unfold get get?
  rw [Keyed.get?]
  split <;> rfl

@[simp] theorem get_set (other : String) :
    get (set r name value) other = if name = other then value else get r other := by
  unfold get
  rw [get?_set]
  split <;> rfl

theorem get_setIfAbsent_of_ne {other : String} (h : name ≠ other) :
    get (setIfAbsent r name value) other = get r other := by
  unfold setIfAbsent
  split
  · rfl
  · rw [get_set, if_neg h]

end ChartBoard.Record

namespace ChartBoard.Datum

theorem asList?_eq_some {v : Datum} {items : List Datum} :
    v.asList? = some items ↔ v = list items := by
  cases v <;> simp [asList?]

@[simp] theorem get_object (r : Record) (name : String) :
    (object r).get name = Record.get r name := rfl

/-- What holds of two values holds of the one that is taken. -/
theorem forall_orElse {P : Datum → Prop} {v w : Datum} (hv : P v) (hw : P w) :
    P (v.orElse w) := by
  unfold Datum.orElse
  split
  · exact hv
  · exact hw

end ChartBoard.Datum
