import ChartBoard.Chart.Repair
import ChartBoard.Proofs.Chart.Range
import ChartBoard.Proofs.Datum.Label

/-!
# Repaired points

The points of a repaired series are either slices with names of their own or points that no repair
looks at again.

* `Shown` is the one or the other, `Shown.under` what a further repair makes of it.
* `seriePoints_eq_ok` says that a repair gives such points, `seriePoints_shown` what the next one
  gives.
-/

namespace ChartBoard.Chart

/-! ## Slices -/

/-- An amount that is read as itself. -/
def Amount.Final (a : Amount) : Prop := a.toDatum.numberOrZero = .ok a.toDatum

theorem exists_amount {v w : Datum} (h : v.numberOrZero = .ok w) :
    ∃ a : Amount, w = a.toDatum ∧ a.Final := by
  obtain ⟨hkind, hfinal⟩ := Datum.numberOrZero_eq_ok h
  rcases hkind with ⟨x, rfl⟩ | rfl
  · exact ⟨some x, rfl, hfinal⟩
  · exact ⟨none, rfl, hfinal⟩

/-- The amounts as slices, under the names that labels give them. -/
def namedSlices (labels : List String) (amounts : List Amount) : List Slice :=
  amounts.zipIdx.map fun (a, i) => ⟨sliceName labels i, a⟩

section

variable {labels : List String} {amounts : List Amount} {points : List Datum}

@[simp] theorem amounts_namedSlices :
    (namedSlices labels amounts).map (·.amount) = amounts := by
  simp [namedSlices, Function.comp_def]

theorem getElem?_namedSlices (i : Nat) : (namedSlices labels amounts)[i]? =
    amounts[i]?.map fun a => ⟨sliceName labels i, a⟩ := by
  simp [namedSlices, List.getElem?_zipIdx, Function.comp_def]

theorem sliceName_ne_empty (labels : List String) (i : Nat) : sliceName labels i ≠ "" := by
  have hnumbered : "Item " ++ toString (i + 1) ≠ "" := by simp
  unfold sliceName
  split
  · split
    · exact hnumbered
    · rename_i hlabel
      simpa using hlabel
  · exact hnumbered

theorem final_of_mem_namedSlices (h : ∀ a ∈ amounts, a.Final) {s : Slice}
    (hs : s ∈ namedSlices labels amounts) : s.name ≠ "" ∧ s.amount.Final := by
  obtain ⟨⟨a, i⟩, hmem, rfl⟩ := List.mem_map.mp hs
  exact ⟨sliceName_ne_empty labels i, h a (List.fst_mem_of_mem_zipIdx hmem)⟩

theorem namedSlices_names {slices : List Slice} (h : ∀ s ∈ slices, s.name ≠ "") :
    namedSlices (slices.map (·.name)) (slices.map (·.amount)) = slices := by
  apply List.ext_getElem?
  intro i
  rw [getElem?_namedSlices, List.getElem?_map]
  cases hs : slices[i]? with
  | none => rfl
  | some s =>
    have hname : s.name.isEmpty = false := by simpa using h s (List.mem_of_getElem? hs)
    have hkept : sliceName (slices.map (·.name)) i = s.name := by
      simp [sliceName, hs, hname]
    simp [hkept]

/-- Numbered names are the numbered ones of any other chart. -/
theorem sliceName_numbered (i : Nat) :
    sliceName ((namedSlices [] amounts).map (·.name)) i = sliceName [] i := by
  rw [sliceName, List.getElem?_map, getElem?_namedSlices]
  cases amounts[i]? with
  | none => rfl
  | some a =>
    have hname : (sliceName [] i).isEmpty = false := by simpa using sliceName_ne_empty [] i
    simp [hname]

/-- Slices are made by reading all values first. -/
theorem slicesOf_eq_map : slicesOf labels points =
    (points.mapM Datum.numberOrZero).map fun values => values.zipIdx.map fun (v, i) =>
      .object [("name", .text (sliceName labels i)), ("value", v)] := by
  unfold slicesOf
  generalize 0 = start
  induction points generalizing start with
  | nil => rfl
  | cons v points ih =>
    rw [List.zipIdx_cons, List.mapM_cons, List.mapM_cons, ih]
    dsimp only
    cases v.numberOrZero with
    | error e => rfl
    | ok w => cases points.mapM Datum.numberOrZero <;> rfl

theorem exists_amounts {read : Datum → Datum} {values : List Datum}
    (h : points.mapM (fun p => (read p).numberOrZero) = .ok values) :
    ∃ amounts : List Amount, (∀ a ∈ amounts, a.Final) ∧ values = amounts.map Amount.toDatum := by
  have hall := Result.mapM_eq_ok.mp h
  clear h
  induction hall with
  | nil => exact ⟨[], by simp, rfl⟩
  | cons hv _ ih =>
    obtain ⟨a, rfl, ha⟩ := exists_amount hv
    obtain ⟨amounts, hamounts, rfl⟩ := ih
    exact ⟨a :: amounts, by simpa using ⟨ha, hamounts⟩, rfl⟩

theorem slicesOf_amounts (h : ∀ a ∈ amounts, a.Final) :
    slicesOf labels (amounts.map Amount.toDatum) =
      .ok ((namedSlices labels amounts).map Slice.toDatum) := by
  have hread : (amounts.map Amount.toDatum).mapM Datum.numberOrZero =
      .ok (amounts.map Amount.toDatum) := by
    rw [List.mapM_map]
    exact Result.mapM_eq_map h
  rw [slicesOf_eq_map, hread]
  simp [Except.map, namedSlices, List.zipIdx_map, Slice.toDatum, Function.comp_def]

theorem slicesOf_eq_ok {slices : List Datum} (h : slicesOf labels points = .ok slices) :
    ∃ amounts : List Amount, (∀ a ∈ amounts, a.Final) ∧
      slices = (namedSlices labels amounts).map Slice.toDatum := by
  rw [slicesOf_eq_map] at h
  obtain ⟨values, hvalues, rfl⟩ := Result.map_eq_ok.mp h
  obtain ⟨amounts, hamounts, rfl⟩ := exists_amounts hvalues
  refine ⟨amounts, hamounts, ?_⟩
  simp [namedSlices, List.zipIdx_map, Slice.toDatum, Function.comp_def]

/-! ## Points with labels -/

/-- True of points whose labels and values are told by the first of them. -/
def carriesLabels (points : List Datum) : Bool :=
  (pointMembers? (points.headD .null).members).isSome

theorem plainPoints_of_plain (h : carriesLabels points = false) :
    plainPoints points = .ok (none, points) := by
  unfold plainPoints
  split
  · rename_i first rest
    have hnone : pointMembers? first = none := by
      simpa [carriesLabels, Datum.members, Datum.asRecord?] using h
    rw [hnone]
  · rfl

theorem exists_of_carriesLabels (h : carriesLabels points = true) :
    ∃ first rest label value, points = .object first :: rest ∧
      pointMembers? first = some (label, value) := by
  obtain ⟨⟨label, value⟩, hmembers⟩ := Option.isSome_iff_exists.mp h
  have hnone : pointMembers? [] = none := rfl
  cases points with
  | nil => cases hnone.symm.trans hmembers
  | cons p rest =>
    cases p with
    | object first => exact ⟨first, rest, label, value, rfl, hmembers⟩
    | _ => cases hnone.symm.trans hmembers

theorem carriesLabels_amounts (amounts : List Amount) :
    carriesLabels (amounts.map Amount.toDatum) = false := by
  cases amounts with
  | nil => rfl
  | cons a amounts => cases a <;> rfl

/-- The plain values of points carry no labels any more. -/
theorem plainPoints_eq_ok {found : Option (List String)} {values : List Datum}
    (h : plainPoints points = .ok (found, values)) :
    carriesLabels values = false ∧ found ≠ some [] := by
  cases hcarries : carriesLabels points with
  | false =>
    rw [plainPoints_of_plain hcarries] at h
    obtain ⟨rfl, rfl⟩ := Prod.mk.inj (Except.ok.inj h)
    exact ⟨hcarries, by simp⟩
  | true =>
    obtain ⟨first, rest, label, value, rfl, hmembers⟩ := exists_of_carriesLabels hcarries
    unfold plainPoints at h
    simp only [hmembers] at h
    obtain ⟨values', hvalues, hfound⟩ := Result.bind_eq_ok.mp h
    obtain ⟨rfl, rfl⟩ := Prod.mk.inj (Except.ok.inj hfound)
    obtain ⟨amounts, -, rfl⟩ := exists_amounts hvalues
    exact ⟨carriesLabels_amounts amounts, by simp⟩

/-- The points of a series as plain values, with the labels found on them. -/
def foundPoints (kind : String) (points : List Datum) :
    Except Fault (Option (List String) × List Datum) :=
  if kind = "radar" then .ok (none, points) else plainPoints points

theorem foundPoints_eq_ok {kind : String} {found : Option (List String)} {values : List Datum}
    (h : foundPoints kind points = .ok (found, values)) :
    (kind = "radar" ∨ carriesLabels values = false) ∧ found ≠ some [] := by
  unfold foundPoints at h
  split at h
  · rename_i hradar
    obtain ⟨rfl, rfl⟩ := Prod.mk.inj (Except.ok.inj h)
    exact ⟨.inl hradar, by simp⟩
  · exact (plainPoints_eq_ok h).imp_left .inr

theorem seriePoints_eq (kind : String) (axis : Option (List String)) (inferred : List String)
    (points : List Datum) : seriePoints kind axis inferred points =
      (foundPoints kind points >>= fun found =>
        if kind = "pie" ∧ (found.2.headD .null).isObject = false then
          (slicesOf (axis.getD (found.1.getD inferred)) found.2).map (found.1.getD inferred, ·)
        else .ok (found.1.getD inferred, found.2)) := by
  unfold seriePoints foundPoints
  by_cases hradar : kind = "radar"
  · subst hradar
    rfl
  · rw [if_neg hradar]
    simp only [beq_iff_eq, hradar, if_false, Bool.and_eq_true, Bool.not_eq_true']
    refine congrArg _ (funext fun found => ?_)
    split
    · cases slicesOf (axis.getD (found.1.getD inferred)) found.2 <;> rfl
    · rfl

/-- Slices are taken apart into their names and what is read of their values. -/
theorem plainPoints_of_mapM {slices : List Slice} {values : List Datum} (hne : slices ≠ [])
    (hread : slices.mapM (fun s => s.amount.toDatum.numberOrZero) = .ok values) :
    plainPoints (slices.map Slice.toDatum) = .ok (some (slices.map (·.name)), values) := by
  have hvalues : (slices.map Slice.toDatum).mapM (fun p => (p.get "value").numberOrZero) =
      .ok values := by
    rw [List.mapM_map]
    exact hread
  have hnames : (slices.map Slice.toDatum).zipIdx.map (fun (p, i) => pointLabel "name" p i) =
      slices.map (·.name) := by
    have hlabel : ∀ (s : Slice) (i : Nat), pointLabel "name" s.toDatum i = s.name := fun _ _ => rfl
    simp only [List.zipIdx_map, List.map_map, Function.comp_def, hlabel, Prod.map, id]
    rw [← Function.comp_def Slice.name Prod.fst, ← List.map_map, List.zipIdx_map_fst]
  obtain ⟨s, rest, rfl⟩ := List.exists_cons_of_ne_nil hne
  have hmembers : pointMembers? [("name", .text s.name), ("value", s.amount.toDatum)] =
      some ("name", "value") := rfl
  rw [List.map_cons] at hvalues hnames ⊢
  unfold plainPoints
  simp only [Slice.toDatum, hmembers] at hvalues hnames ⊢
  rw [hvalues, hnames]
  rfl

theorem plainPoints_slices {slices : List Slice} (hne : slices ≠ [])
    (h : ∀ s ∈ slices, s.amount.Final) : plainPoints (slices.map Slice.toDatum) =
      .ok (some (slices.map (·.name)), slices.map (·.amount.toDatum)) :=
  plainPoints_of_mapM hne (Result.mapM_eq_map h)

end

/-- Every point has the name that the labels give to its position. -/
def NamedBy (labels : List String) (points : List Datum) : Prop :=
  ∀ (i : Nat) (p : Datum), points[i]? = some p → p.get "name" = .text (sliceName labels i)

/-! ## What a series shows -/

/-- What a repaired series shows. -/
inductive Shown where
  /-- The slices of a pie. -/
  | slices (slices : List Slice)
  | others (points : List Datum)

namespace Shown

/-- The points of the series. -/
def points : Shown → List Datum
  | slices s => s.map Slice.toDatum
  | others points => points

/-- What is shown once the slices have the names that the labels of an axis give them. -/
def under (axis : Option (List String)) : Shown → Shown
  | slices s => slices (namedSlices (axis.getD (s.map (·.name))) (s.map (·.amount)))
  | others points => others points

/-- The labels inferred once the points have been looked at. -/
def labels (inferred : List String) : Shown → List String
  | slices (s :: rest) => (s :: rest).map (·.name)
  | _ => inferred

/-- Points of a series of a kind that are as a repair leaves them. -/
inductive Final (kind : String) : Shown → Prop
  | slices {s : List Slice} (hkind : kind = "pie")
      (hs : ∀ x ∈ s, x.name ≠ "" ∧ x.amount.Final) : Final kind (slices s)
  | others {points : List Datum} (h : kind = "radar" ∨ carriesLabels points = false ∧
      (kind = "pie" → (points.headD .null).isObject = true)) : Final kind (others points)

variable {kind : String} {axis : Option (List String)} {inferred : List String}

theorem Final.under {s : Shown} (h : s.Final kind) (axis : Option (List String)) :
    (s.under axis).Final kind := by
  cases h with
  | @slices s hkind hs =>
    have hfinal : ∀ a ∈ s.map (·.amount), a.Final := by simpa using fun x hx => (hs x hx).2
    exact .slices hkind fun x => final_of_mem_namedSlices hfinal
  | others h => exact .others h

theorem length_points_under (s : Shown) (axis : Option (List String)) :
    (s.under axis).points.length = s.points.length := by
  cases s with
  | slices s => simp [Shown.under, points, namedSlices]
  | others p => rfl

theorem levels_under (s : Shown) {n : Nat} (h : (Datum.list s.points).levels ≤ n + 2)
    (axis : Option (List String)) : (Datum.list (s.under axis).points).levels ≤ n + 2 := by
  cases s with
  | slices s =>
    rw [Shown.under, points, Datum.levels_list_map_le]
    exact fun x _ => Nat.le_trans x.levels_toDatum (Nat.le_add_left 1 n)
  | others points => exact h

/-- Labels give their names once and for all. -/
theorem under_under (s : Shown) (labels : List String) :
    (s.under (some labels)).under (some labels) = s.under (some labels) := by
  cases s with
  | slices s => simp [Shown.under]
  | others p => rfl

theorem under_none {s : Shown} (h : s.Final kind) : s.under none = s := by
  cases h with
  | slices _ hs =>
    exact congrArg Shown.slices (namedSlices_names fun x hx => (hs x hx).1)
  | others _ => rfl

/-- A repair takes the labels from the axis, else from the points, and leaves nothing to do for
the next one but to take other labels from the axis. -/
theorem seriePoints_eq_ok {points points' : List Datum} {labels : List String}
    (h : seriePoints kind axis inferred points = .ok (labels, points')) :
    ∃ s : Shown, s.Final kind ∧ points' = s.points ∧ s.under (some (axis.getD labels)) = s ∧
      (labels = [] → inferred = []) := by
  rw [seriePoints_eq] at h
  obtain ⟨⟨found, values⟩, hplain, h⟩ := Result.bind_eq_ok.mp h
  obtain ⟨hvalues, hfound⟩ := foundPoints_eq_ok hplain
  have hinferred : found.getD inferred = [] → inferred = [] := by
    cases found with
    | none => exact id
    | some names => exact fun hnil => absurd (congrArg some hnil) hfound
  by_cases hsliced : kind = "pie" ∧ (values.headD .null).isObject = false
  · rw [if_pos hsliced] at h
    obtain ⟨slices', hslices, h⟩ := Result.map_eq_ok.mp h
    obtain ⟨rfl, rfl⟩ := Prod.mk.inj h
    obtain ⟨amounts, hamounts, rfl⟩ := slicesOf_eq_ok hslices
    refine ⟨slices (namedSlices _ amounts), .slices hsliced.1 fun x =>
      final_of_mem_namedSlices hamounts, rfl, ?_, hinferred⟩
    simp [Shown.under]
  · rw [if_neg hsliced] at h
    obtain ⟨rfl, rfl⟩ := Prod.mk.inj (Except.ok.inj h)
    refine ⟨others values, .others (hvalues.imp_right fun hplain => ⟨hplain, fun hpie => ?_⟩),
      rfl, rfl, hinferred⟩
    simpa [hpie] using hsliced

theorem seriePoints_shown {s : Shown} (h : s.Final kind) (axis : Option (List String))
    (inferred : List String) : seriePoints kind axis inferred s.points =
      .ok (s.labels inferred, (s.under axis).points) := by
  rw [seriePoints_eq]
  cases h with
  | @slices s hkind hs =>
    subst hkind
    have hfinal : ∀ x ∈ s, x.amount.Final := fun x hx => (hs x hx).2
    have hamounts : s.map (·.amount.toDatum) = (s.map (·.amount)).map Amount.toDatum := by simp
    cases s with
    | nil => rfl
    | cons x rest =>
      have hplain : x.amount.toDatum.isObject = false := by cases x.amount <;> rfl
      have hfound : foundPoints "pie" (Shown.slices (x :: rest)).points =
          .ok (some ((x :: rest).map (·.name)), (x :: rest).map (·.amount.toDatum)) := by
        rw [foundPoints, if_neg (by decide), ← plainPoints_slices (List.cons_ne_nil x rest) hfinal]
        rfl
      rw [hfound]
      refine (if_pos ⟨rfl, hplain⟩).trans ?_
      rw [hamounts, slicesOf_amounts (by simpa using hfinal)]
      rfl
  | @others p h =>
    have hplain : foundPoints kind p = .ok (none, p) := by
      unfold foundPoints
      split
      · rfl
      · rename_i hradar
        exact plainPoints_of_plain (h.resolve_left hradar).1
    have hsliced : ¬ (kind = "pie" ∧ (p.headD .null).isObject = false) := by
      rintro ⟨rfl, hnone⟩
      have hobject := (h.resolve_left (by decide)).2 rfl
      rw [hnone] at hobject
      cases hobject
    simp only [Shown.points, hplain]
    exact if_neg hsliced

/-! ## Names from an axis -/

theorem under_congr (s : Shown) {labels labels' : List String}
    (h : ∀ i, sliceName labels i = sliceName labels' i) :
    s.under (some labels) = s.under (some labels') := by
  cases s with
  | slices s => simp [Shown.under, namedSlices, h]
  | others p => rfl

/-- The slices stay as they are if they have the names that the axis gives them already. -/
theorem points_under_eq_iff {s : Shown} (h : s.Final kind) (labels : List String) :
    (s.under (some labels)).points = s.points ↔
      (kind = "pie" → carriesLabels s.points = true → NamedBy labels s.points) := by
  cases h with
  | @slices s hkind hs =>
    have hunder : ∀ i, ((Shown.slices s).under (some labels)).points[i]? =
        s[i]?.map fun x => Slice.toDatum ⟨sliceName labels i, x.amount⟩ := by
      intro i
      simp [Shown.under, points, getElem?_namedSlices, Function.comp_def]
    constructor
    · intro heq _ _ i p hp
      rw [← heq, hunder] at hp
      obtain ⟨x, -, rfl⟩ := Option.map_eq_some_iff.mp hp
      rfl
    · intro hnamed
      apply List.ext_getElem?
      intro i
      rw [hunder, points, List.getElem?_map]
      cases hx : s[i]? with
      | none => rfl
      | some x =>
        have hcarries : carriesLabels (s.map Slice.toDatum) = true := by
          cases s with
          | nil => cases hx
          | cons _ _ => rfl
        have hpoint : (Shown.slices s).points[i]? = some x.toDatum := by simp [points, hx]
        have hname : x.name = sliceName labels i :=
          Datum.text.inj (hnamed hkind hcarries i x.toDatum hpoint)
        simp [← hname]
  | @others p h =>
    refine ⟨fun _ hpie hcarries => ?_, fun _ => rfl⟩
    subst hpie
    cases hcarries.symm.trans (h.resolve_left (by decide)).1

theorem labels_eq_nil_iff {s : Shown} (h : s.Final kind) (inferred : List String) :
    s.labels inferred = [] ↔
      inferred = [] ∧ ¬ (kind = "pie" ∧ carriesLabels s.points = true) := by
  cases h with
  | @slices s hkind hs =>
    cases s with
    | nil =>
      have hcarries : carriesLabels (Shown.slices []).points = false := rfl
      simp [Shown.labels, hcarries]
    | cons x rest =>
      have hcarries : carriesLabels (Shown.slices (x :: rest)).points = true := rfl
      simp [Shown.labels, hkind, hcarries]
  | @others p h =>
    refine ⟨fun hnil => ⟨hnil, ?_⟩, And.left⟩
    rintro ⟨rfl, hcarries⟩
    cases hcarries.symm.trans (h.resolve_left (by decide)).1

/-- Slices that are named by their position give an axis that names slices by their position. -/
theorem sliceName_labels {s : Shown} (h : s.under (some []) = s)
    (hinferred : ∀ i, sliceName inferred i = sliceName [] i) (i : Nat) :
    sliceName (s.labels inferred) i = sliceName [] i := by
  cases s with
  | slices s =>
    cases s with
    | nil => exact hinferred i
    | cons x rest =>
      have hnamed : namedSlices [] ((x :: rest).map (·.amount)) = x :: rest :=
        Shown.slices.inj h
      rw [Shown.labels, ← hnamed]
      exact sliceName_numbered i
  | others p => exact hinferred i

end Shown

end ChartBoard.Chart
