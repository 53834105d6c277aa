import ChartBoard.Datum.Parts
import ChartBoard.Datum.Reading
import ChartBoard.Proofs.Datum.Record
import ChartBoard.Proofs.Result

/-!
# Values in the range of doubles

An integer beyond the range of doubles is all that keeps a value from being read as a number.

* `inRange_list` and `inRange_object` say that a list or an object is in range when its parts are.
* `inRange_get` and `inRange_set` are about the members of an object.
* `Ranged` is a reading that nothing but the range can keep from its result, `ranged_number` says
  that numbers are read so and `Ranged.bind` and its like put such readings together.
-/

namespace ChartBoard.Datum

/-! ## Parts -/

theorem everyItem_iff {p : Datum → Bool} {items : List Datum} :
    everyItem p items = true ↔ ∀ v ∈ items, v.everyPart p = true := by
  induction items with
  | nil => simp [everyItem]
  | cons v rest ih => simp [everyItem, ih]

theorem everyMember_iff {p : Datum → Bool} {members : Record} :
    everyMember p members = true ↔ ∀ m ∈ members, m.2.everyPart p = true := by
  induction members with
  | nil => simp [everyMember]
  | cons m rest ih =>
    obtain ⟨name, v⟩ := m
    simp [everyMember, ih]

@[simp] theorem inRange_list {items : List Datum} :
    (list items).inRange = true ↔ ∀ v ∈ items, v.inRange = true := by
  simp only [inRange, everyPart, isInRange, Bool.true_and, everyItem_iff]

theorem inRange_list_map {α : Type} {f : α → Datum} {xs : List α} :
    (list (xs.map f)).inRange = true ↔ ∀ x ∈ xs, (f x).inRange = true := by
  rw [inRange_list, List.forall_mem_map]

@[simp] theorem inRange_object {members : Record} :
    (object members).inRange = true ↔ ∀ m ∈ members, m.2.inRange = true := by
  simp only [inRange, everyPart, isInRange, Bool.true_and, everyMember_iff]

@[simp] theorem inRange_null : null.inRange = true := rfl

theorem inRange_zero : (int 0).inRange = true := by
  have hbound : (0 : Int).natAbs < Number.overflowBound := by decide +kernel
  simp only [inRange, everyPart, isInRange, hbound, decide_true]

@[simp] theorem inRange_bool (b : Bool) : (bool b).inRange = true := rfl

@[simp] theorem inRange_float (x : Float) : (float x).inRange = true := rfl

@[simp] theorem inRange_text (s : String) : (text s).inRange = true := rfl

@[simp] theorem inRange_texts (xs : List String) : (texts xs).inRange = true := by
  simp [texts]

theorem inRange_ofText? (s : Option String) : (ofText? s).inRange = true := by
  cases s <;> rfl

/-! ## Members -/

theorem inRange_get {v : Datum} (h : v.inRange = true) (name : String) :
    (v.get name).inRange = true := by
  cases v with
  | object r =>
    rw [get_object, Record.get]
    cases hfound : Record.get? r name with
    | none => rfl
    | some w => exact inRange_object.mp h _ (Keyed.mem_of_get? hfound)
  | _ => rfl

theorem inRange_members {v : Datum} (h : v.inRange = true) : (object v.members).inRange = true := by
  cases v with
  | object r => exact h
  | _ => rfl

theorem inRange_of_mem_asList? {v : Datum} (h : v.inRange = true) {items : List Datum}
    (hitems : v.asList? = some items) : ∀ w ∈ items, w.inRange = true := by
  rw [asList?_eq_some] at hitems
  rw [hitems, inRange_list] at h
  exact h

theorem inRange_set {r : Record} (h : (object r).inRange = true) {v : Datum}
    (hv : v.inRange = true) (name : String) : (object (Record.set r name v)).inRange = true := by
  rw [inRange_object] at h ⊢
  intro m hm
  rcases Keyed.mem_of_mem_set hm with hr | rfl
  · exact h m hr
  · exact hv

theorem inRange_setIfAbsent {r : Record} (h : (object r).inRange = true) {v : Datum}
    (hv : v.inRange = true) (name : String) :
    (object (Record.setIfAbsent r name v)).inRange = true := by
  unfold Record.setIfAbsent
  split
  · exact h
  · exact inRange_set h hv name

/-! ## Readings -/

/-- A computation that has a result when `fits` holds; if it has none, some number is too large. -/
def Ranged {α : Type} (fits : Prop) (r : Except Fault α) : Prop :=
  (fits → ∃ a, r = .ok a) ∧ ∀ fault, r = .error fault → fault = .numberTooLarge

section Ranged

variable {α β : Type} {fits fits' : Prop}

theorem ranged_ok (a : α) : Ranged fits (.ok a : Except Fault α) := ⟨fun _ => ⟨a, rfl⟩, nofun⟩

theorem Ranged.mono {r : Except Fault α} (h : Ranged fits' r) (hfits : fits → fits') :
    Ranged fits r := ⟨fun hf => h.1 (hfits hf), h.2⟩

theorem Ranged.bind {x : Except Fault α} {f : α → Except Fault β} (hx : Ranged fits x)
    (hf : ∀ a, x = .ok a → Ranged fits (f a)) : Ranged fits (x >>= f) := by
  cases x with
  | error fault =>
    exact ⟨fun h => absurd (hx.1 h) nofun, fun _ h => hx.2 _ (congrArg _ (Except.error.inj h))⟩
  | ok a => exact hf a rfl

theorem Ranged.map {x : Except Fault α} (hx : Ranged fits x) (f : α → β) :
    Ranged fits (x.map f) := by
  cases x with
  | error fault =>
    exact ⟨fun h => absurd (hx.1 h) nofun, fun _ h => hx.2 _ (congrArg _ (Except.error.inj h))⟩
  | ok a => exact ranged_ok (f a)

theorem ranged_mapM {f : α → Except Fault β} {xs : List α} (hf : ∀ x ∈ xs, Ranged fits (f x)) :
    Ranged fits (xs.mapM f) := by
  induction xs with
  | nil => exact ranged_ok []
  | cons x xs ih =>
    rw [List.mapM_cons]
    refine (hf x List.mem_cons_self).bind fun y _ => ?_
    refine (ih fun x' hx' => hf x' (List.mem_cons_of_mem x hx')).bind fun ys _ => ?_
    exact ranged_ok (y :: ys)

theorem ranged_filterM {p : α → Except Fault Bool} {xs : List α}
    (hp : ∀ x ∈ xs, Ranged fits (p x)) : Ranged fits (xs.filterM p) := by
  have hfrom (kept : List α) : Ranged fits (xs.filterAuxM p kept) := by
    induction xs generalizing kept with
    | nil => exact ranged_ok kept
    | cons x xs ih =>
      refine (hp x List.mem_cons_self).bind fun b _ => ?_
      exact ih (fun x' hx' => hp x' (List.mem_cons_of_mem x hx')) _
  exact (hfrom []).bind fun _ _ => ranged_ok _

theorem ranged_number? (v : Datum) : Ranged (v.inRange = true) v.number? := by
  cases v with
  | int n =>
    have hrange : (int n).inRange = true ↔ n.natAbs < Number.overflowBound := by
      simp [inRange, everyPart, isInRange]
    rw [hrange]
    unfold number?
    dsimp only
    by_cases hsmall : n.natAbs < Number.overflowBound
    · rw [Number.ofInt?, if_pos hsmall]
      exact ranged_ok _
    · rw [Number.ofInt?, if_neg hsmall]
      exact ⟨fun h => absurd h hsmall, fun fault h => (Except.error.inj h).symm⟩
  | _ => exact ranged_ok _

theorem number_of_overflow {n : Int} (h : ¬ n.natAbs < Number.overflowBound) :
    (int n).number = .error .numberTooLarge := by
  have hread : (int n).number? = .error .numberTooLarge := by
    unfold number?
    dsimp only
    rw [Number.ofInt?, if_neg h]
  rw [number, hread]
  rfl

theorem ranged_number (v : Datum) : Ranged (v.inRange = true) v.number :=
  (ranged_number? v).bind fun _ _ => ranged_ok _

theorem ranged_numberOrZero (v : Datum) : Ranged (v.inRange = true) v.numberOrZero := by
  refine (ranged_number? v).bind fun found _ => ?_
  cases found <;> exact ranged_ok _

end Ranged

end ChartBoard.Datum
