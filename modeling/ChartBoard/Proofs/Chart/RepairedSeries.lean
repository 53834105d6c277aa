import ChartBoard.Proofs.Chart.Slices
import ChartBoard.Proofs.Text.Lower

/-!
# Repaired series

* `RepairedSerie` is a series as a repair leaves it, `RepairedSerie.under` what the next repair
  makes of it: kind and name stay, the slices go under the labels of the axis.
* `repairedSeries_eq_ok` says that a repair gives such series, `repairedSeries_toDatum` what it
  gives of them.
* `labelsOf` are the labels that their points carry.
-/

namespace ChartBoard.Chart

variable {chart : Record} {axis : Option (List String)} {inferred labels : List String}

/-! ## Series -/

/-- A series as a repair leaves it. -/
structure RepairedSerie where
  members : Record
  kind : String
  name : String
  shown : Shown
  get?_type : Record.get? members "type" = some (.text kind)
  get?_name : Record.get? members "name" = some (.text name)
  get?_data : Record.get? members "data" = some (.list shown.points)
  lower_kind : Text.lower kind = kind
  kind_ne_empty : kind ≠ ""
  name_ne_empty : name ≠ ""
  final : shown.Final kind

namespace RepairedSerie

/-- The series as a value. -/
def toDatum (s : RepairedSerie) : Datum := .object s.members

/-- The series under the labels of an axis. -/
def under (axis : Option (List String)) (s : RepairedSerie) : RepairedSerie where
  members := Record.set s.members "data" (.list (s.shown.under axis).points)
  kind := s.kind
  name := s.name
  shown := s.shown.under axis
  get?_type := by rw [Record.get?_set, if_neg (by decide), s.get?_type]
  get?_name := by rw [Record.get?_set, if_neg (by decide), s.get?_name]
  get?_data := by rw [Record.get?_set, if_pos rfl]
  lower_kind := s.lower_kind
  kind_ne_empty := s.kind_ne_empty
  name_ne_empty := s.name_ne_empty
  final := s.final.under axis

theorem toDatum_under_eq_iff (s : RepairedSerie) (axis : Option (List String)) :
    (s.under axis).toDatum = s.toDatum ↔ (s.shown.under axis).points = s.shown.points := by
  constructor
  · intro h
    have hdata := (s.under axis).get?_data
    rw [Datum.object.inj h, s.get?_data] at hdata
    exact (Datum.list.inj (Option.some.inj hdata)).symm
  · intro h
    refine congrArg Datum.object (Record.set_of_get? _ _ _ ?_)
    rw [h, s.get?_data]

theorem hasPoints_toDatum (s : RepairedSerie) :
    hasPoints s.toDatum = !s.shown.points.isEmpty := by
  rw [hasPoints, toDatum, Datum.get_object, Record.get_of_get? _ _ _ s.get?_data]

end RepairedSerie

theorem nameOrNumber_ne_empty (v : Datum) {word : String} (hword : word ≠ "") (i : Nat) :
    nameOrNumber v word i ≠ "" := by
  unfold nameOrNumber
  split
  · rw [String.append_assoc]
    exact fun h => hword (String.append_eq_empty_iff.mp h).1
  · rename_i hlabel
    simpa using hlabel

theorem serieKind_ne_empty (chart serie : Record) : serieKind chart serie ≠ "" :=
  Text.lower_ne_empty (Datum.label_ne_empty (Datum.truthy_orElse rfl))

/-- A series with the members that a repair sets. -/
def repairedMembers (serie : Record) (kind name : String) (points : List Datum) : Record :=
  Record.set (Record.set (Record.set serie "type" (.text kind)) "name" (.text name)) "data"
    (.list points)

theorem repairedSerie_eq (chart : Record) (axis : Option (List String)) (inferred : List String)
    (i : Nat) (v : Datum) : repairedSerie chart axis inferred i v =
      (seriePoints (serieKind chart v.members) axis inferred
        ((Record.get v.members "data").asList?.getD [])).map fun found =>
          (found.1, .object (repairedMembers v.members (serieKind chart v.members)
            (nameOrNumber (Record.get v.members "name") "Series" i) found.2)) := by
  unfold repairedSerie
  dsimp only
  cases seriePoints (serieKind chart v.members) axis inferred
    ((Record.get v.members "data").asList?.getD []) <;> rfl

theorem repairedSerie_eq_ok {i : Nat} {v w : Datum}
    (h : repairedSerie chart axis inferred i v = .ok (labels, w)) :
    ∃ s : RepairedSerie, w = s.toDatum ∧ s.shown.under (some (axis.getD labels)) = s.shown ∧
      (labels = [] → inferred = []) := by
  rw [repairedSerie_eq] at h
  obtain ⟨⟨labels', points⟩, hpoints, h⟩ := Result.map_eq_ok.mp h
  obtain ⟨rfl, rfl⟩ := Prod.mk.inj h
  obtain ⟨shown, hfinal, rfl, hunder, hinferred⟩ := Shown.seriePoints_eq_ok hpoints
  exact ⟨{
    members := repairedMembers v.members (serieKind chart v.members)
      (nameOrNumber (Record.get v.members "name") "Series" i) shown.points
    kind := serieKind chart v.members
    name := nameOrNumber (Record.get v.members "name") "Series" i
    shown := shown
    get?_type := by
      rw [repairedMembers, Record.get?_set, if_neg (by decide), Record.get?_set, if_neg (by decide),
        Record.get?_set, if_pos rfl]
    get?_name := by
      rw [repairedMembers, Record.get?_set, if_neg (by decide), Record.get?_set, if_pos rfl]
    get?_data := by rw [repairedMembers, Record.get?_set, if_pos rfl]
    lower_kind := Text.lower_lower _
    kind_ne_empty := serieKind_ne_empty chart v.members
    name_ne_empty := nameOrNumber_ne_empty _ (by decide) i
    final := hfinal }, rfl, hunder, hinferred⟩

/-- Kind and name stay, the points go under the labels of the axis. -/
theorem repairedSerie_toDatum (chart : Record) (axis : Option (List String))
    (inferred : List String) (i : Nat) (s : RepairedSerie) :
    repairedSerie chart axis inferred i s.toDatum =
      .ok (s.shown.labels inferred, (s.under axis).toDatum) := by
  have hkind : serieKind chart s.members = s.kind := by
    have htruthy : (Datum.text s.kind).truthy = true := by
      simpa [Datum.truthy] using s.kind_ne_empty
    rw [serieKind, Record.get_of_get? _ _ _ s.get?_type]
    simp only [Datum.orElse, if_pos htruthy]
    exact s.lower_kind
  have hname : nameOrNumber (Record.get s.members "name") "Series" i = s.name := by
    rw [Record.get_of_get? _ _ _ s.get?_name]
    exact if_neg (by simpa [Datum.label, Datum.isNull, Datum.display] using s.name_ne_empty)
  have hdata : (Record.get s.members "data").asList?.getD [] = s.shown.points := by
    rw [Record.get_of_get? _ _ _ s.get?_data]
    rfl
  have hmembers : s.toDatum.members = s.members := rfl
  rw [repairedSerie_eq, hmembers, hkind, hname, hdata, Shown.seriePoints_shown s.final,
    Except.map, repairedMembers, Record.set_of_get? _ _ _ s.get?_type,
    Record.set_of_get? _ _ _ s.get?_name]
  rfl

/-! ## Lists of series -/

/-- The labels that the points of the series carry, those of the last series that has any. -/
def labelsOf (series : List RepairedSerie) (inferred : List String) : List String :=
  series.foldl (fun labels s => s.shown.labels labels) inferred

theorem repairedSeries_toDatum (chart : Record) (axis : Option (List String))
    (inferred : List String) (i : Nat) (series : List RepairedSerie) :
    repairedSeries chart axis inferred i (series.map (·.toDatum)) =
      .ok (labelsOf series inferred, series.map fun s => (s.under axis).toDatum) := by
  induction series generalizing inferred i with
  | nil => rfl
  | cons s rest ih =>
    rw [List.map_cons, repairedSeries, repairedSerie_toDatum]
    simp only [bind, Except.bind, ih, pure, Except.pure]
    rfl

theorem repairedSeries_eq_ok {i : Nat} {vs ws : List Datum}
    (h : repairedSeries chart axis inferred i vs = .ok (labels, ws)) :
    ∃ series : List RepairedSerie, ws = series.map (·.toDatum) ∧
      (∀ s ∈ series, ∃ found, (labels = [] → found = []) ∧
        s.shown.under (some (axis.getD found)) = s.shown) ∧ (labels = [] → inferred = []) := by
  induction vs generalizing inferred i ws with
  | nil =>
    obtain ⟨rfl, rfl⟩ := Prod.mk.inj (Except.ok.inj h)
    exact ⟨[], rfl, by simp, id⟩
  | cons v vs ih =>
    rw [repairedSeries] at h
    obtain ⟨⟨found, w⟩, hw, h⟩ := Result.bind_eq_ok.mp h
    obtain ⟨⟨labels', ws'⟩, hws, h⟩ := Result.bind_eq_ok.mp h
    obtain ⟨rfl, rfl⟩ := Prod.mk.inj (Except.ok.inj h)
    obtain ⟨s, rfl, hunder, hfound⟩ := repairedSerie_eq_ok hw
    obtain ⟨series, rfl, hseries, hlabels⟩ := ih hws
    refine ⟨s :: series, rfl, ?_, fun hnil => hfound (hlabels hnil)⟩
    intro t ht
    rcases List.mem_cons.mp ht with rfl | ht
    · exact ⟨found, hlabels, hunder⟩
    · exact hseries t ht

theorem labelsOf_eq_nil_iff (series : List RepairedSerie) (inferred : List String) :
    labelsOf series inferred = [] ↔ inferred = [] ∧
      ∀ s ∈ series, ¬ (s.kind = "pie" ∧ carriesLabels s.shown.points = true) := by
  induction series generalizing inferred with
  | nil => simp [labelsOf]
  | cons s rest ih =>
    have hstep : labelsOf (s :: rest) inferred = labelsOf rest (s.shown.labels inferred) := rfl
    rw [hstep, ih, s.shown.labels_eq_nil_iff s.final, List.forall_mem_cons, and_assoc]

theorem sliceName_labelsOf {series : List RepairedSerie}
    (h : ∀ s ∈ series, s.shown.under (some []) = s.shown) (i : Nat) :
    sliceName (labelsOf series []) i = sliceName [] i := by
  have hfrom : ∀ inferred, (∀ i, sliceName inferred i = sliceName [] i) →
      ∀ i, sliceName (labelsOf series inferred) i = sliceName [] i := by
    induction series with
    | nil => exact fun _ hinferred => hinferred
    | cons s rest ih =>
      intro inferred hinferred
      exact ih (fun t ht => h t (List.mem_cons_of_mem s ht)) _
        (Shown.sliceName_labels (h s List.mem_cons_self) hinferred)
  exact hfrom [] (fun _ => rfl) i

end ChartBoard.Chart
