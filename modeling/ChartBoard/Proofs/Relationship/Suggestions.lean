import ChartBoard.Proofs.Relationship.Bindings
import Mathlib.Data.Multiset.Basic

/-!
# What is suggested

Every two columns of different tables whose names agree and are accepted stand for a relationship,
and all those that no confirmed edge covers are suggested, each of them once.

* `suggestionsBy_eq` says what the growing list of suggestions comes to: the `firsts` of the
  candidates that are not confirmed.
* `scan` lists the candidates with the places at which they are found, in the order of the places.
* `Joinable` is the condition on two columns, `FirstAt` says where a suggestion comes from.
* `suggestionsBy_spec` is the result, with what a change of order and what a confirmation does.
-/

namespace ChartBoard.Relationship

/-! ## The first of every kind -/

section Firsts

variable {α β κ : Type} [DecidableEq κ]

/-- The elements of a list that are the first with their key. -/
def firsts (key : α → κ) : List α → List α
  | [] => []
  | x :: rest => x :: (firsts key rest).filter fun y => key y ≠ key x

theorem firsts_map (key : β → κ) (f : α → β) (l : List α) :
    firsts key (l.map f) = (firsts (key ∘ f) l).map f := by
  induction l with
  | nil => rfl
  | cons x rest ih =>
    rw [List.map_cons, firsts, firsts, ih, List.map_cons, List.filter_map]
    rfl

theorem firsts_sublist (key : α → κ) (l : List α) : (firsts key l).Sublist l := by
  induction l with
  | nil => exact List.Sublist.slnil
  | cons x rest ih => exact (List.filter_sublist.trans ih).cons_cons x

theorem mem_firsts {key : α → κ} {l : List α} {x : α} :
    x ∈ firsts key l ↔ l.find? (fun y => key y = key x) = some x := by
  induction l with
  | nil => simp [firsts]
  | cons y rest ih =>
    rw [firsts, List.mem_cons, List.mem_filter, ih, List.find?_cons]
    by_cases hkey : key y = key x
    · simp [hkey, eq_comm]
    · have hne : x ≠ y := fun h => hkey (congrArg key h.symm)
      simp [hkey, hne, Ne.symm hkey]

theorem map_firsts_nodup (key : α → κ) (l : List α) : ((firsts key l).map key).Nodup := by
  induction l with
  | nil => exact List.nodup_nil
  | cons x rest ih =>
    rw [firsts, List.map_cons, List.nodup_cons]
    refine ⟨fun hmem => ?_, ih.sublist (List.filter_sublist.map key)⟩
    obtain ⟨y, hy, hkey⟩ := List.mem_map.mp hmem
    simpa [hkey] using (List.mem_filter.mp hy).2

theorem mem_map_firsts {key : α → κ} {l : List α} {k : κ} :
    k ∈ (firsts key l).map key ↔ k ∈ l.map key := by
  constructor
  · exact fun h => ((firsts_sublist key l).map key).subset h
  · intro h
    obtain ⟨x, hx, rfl⟩ := List.mem_map.mp h
    obtain ⟨y, hy⟩ := Option.isSome_iff_exists.mp
      (List.find?_isSome (p := fun y => key y = key x) |>.mpr ⟨x, hx, by simp⟩)
    have hkey : key y = key x := by simpa using List.find?_some hy
    exact List.mem_map.mpr ⟨y, mem_firsts.mpr (by rw [hkey, hy]), hkey⟩

/-- In an ordered list, the first with a key comes before all others with it. -/
theorem eq_or_before_of_mem_firsts {key : α → κ} {before : α → α → Prop} {l : List α}
    (hordered : l.Pairwise before) {x y : α} (hx : x ∈ firsts key l) (hy : y ∈ l)
    (hkey : key y = key x) : y = x ∨ before x y := by
  induction l with
  | nil => cases hy
  | cons z rest ih =>
    obtain ⟨hz, hrest⟩ := List.pairwise_cons.mp hordered
    rw [firsts, List.mem_cons, List.mem_filter, decide_eq_true_eq] at hx
    rcases hx with rfl | ⟨hx, hne⟩ <;> rcases List.mem_cons.mp hy with rfl | hy
    · exact Or.inl rfl
    · exact Or.inr (hz y hy)
    · exact absurd hkey.symm hne
    · exact ih hrest hx hy

end Firsts

/-! ## The growing list -/

theorem containsEdge_iff {edges : List Edge} {e : Edge} :
    containsEdge edges e = true ↔ e.ends ∈ edges.map Edge.ends := by
  simp [containsEdge, Edge.same_iff]

theorem containsEdge_concat (found : List Edge) (c e : Edge) :
    containsEdge (found ++ [c]) e = (containsEdge found e || decide (c.ends = e.ends)) := by
  rw [Bool.eq_iff_iff, Bool.or_eq_true, containsEdge_iff, containsEdge_iff, decide_eq_true_eq,
    List.map_append, List.mem_append, List.map_singleton, List.mem_singleton, eq_comm (a := e.ends)]

/-- Of the candidates to come, those are added that are the first of their relationship and new to
what is found or confirmed by now. -/
theorem foldl_addCandidate (confirmed found cs : List Edge) :
    cs.foldl (addCandidate confirmed) found = found ++ (firsts Edge.ends cs).filter fun e =>
      !(containsEdge found e || containsEdge confirmed e) := by
  induction cs generalizing found with
  | nil => simp [firsts]
  | cons c cs ih =>
    rw [List.foldl_cons, ih, firsts, addCandidate]
    -- a candidate like `c` is known later: by `c` itself, or by what has made `c` known
    have hends {edges : List Edge} {e : Edge} (h : e.ends = c.ends) :
        containsEdge edges e = containsEdge edges c := by
      rw [Bool.eq_iff_iff, containsEdge_iff, containsEdge_iff, h]
    cases hknown : containsEdge found c || containsEdge confirmed c with
    | true =>
      rw [if_pos rfl, List.filter_cons_of_neg (by simp [hknown]), List.filter_filter]
      refine congrArg (found ++ ·) (List.filter_congr fun e _ => ?_)
      by_cases he : e.ends = c.ends
      · simp only [hends he, hknown, Bool.not_true, Bool.false_and]
      · simp [he]
    | false =>
      rw [if_neg (by simp), List.filter_cons_of_pos (by simp [hknown]), List.filter_filter,
        List.append_assoc]
      refine congrArg (found ++ c :: ·) (List.filter_congr fun e _ => ?_)
      rw [containsEdge_concat]
      by_cases he : c.ends = e.ends
      · simp [he]
      · simp [he, Ne.symm he]

/-- The suggestions are the first candidates of all relationships that are not confirmed. -/
theorem suggestionsBy_eq (accepts : String → Bool) (tables : List Schema.Table)
    (edges : List Edge) : suggestionsBy accepts tables edges =
      (firsts Edge.ends (candidates accepts tables)).filter fun e =>
        !containsEdge (confirmedOf edges) e := by
  rw [suggestionsBy, foldl_addCandidate]
  simp [containsEdge]

/-! ## Places -/

section Numbered

variable {α β : Type} {f : Nat → α → List α → List (List Nat × β)}

/-- What a loop over a list finds, each with the position of its element at the head of its place.
The body of the loop is given the position, the element and the elements after it; positions count
from `n` on. -/
def numbered (f : Nat → α → List α → List (List Nat × β)) : Nat → List α → List (List Nat × β)
  | _, [] => []
  | n, x :: rest => (f n x rest).map (fun q => (n :: q.1, q.2)) ++ numbered f (n + 1) rest

theorem map_snd_numbered_cons (n : Nat) (x : α) (rest : List α) :
    (numbered f n (x :: rest)).map Prod.snd =
      (f n x rest).map Prod.snd ++ (numbered f (n + 1) rest).map Prod.snd := by
  rw [numbered, List.map_append, List.map_map]
  rfl

/-- Where the body only looks at the element, the loop is a `flatMap`. -/
theorem map_snd_numbered (g : α → List (List Nat × β)) (n : Nat) (l : List α) :
    (numbered (fun _ x _ => g x) n l).map Prod.snd = l.flatMap fun x => (g x).map Prod.snd := by
  induction l generalizing n with
  | nil => rfl
  | cons x rest ih => rw [map_snd_numbered_cons, ih, List.flatMap_cons]

theorem mem_numbered {n : Nat} {l : List α} {place : List Nat} {y : β} :
    (place, y) ∈ numbered f n l ↔
      ∃ i x p, l[i]? = some x ∧ (p, y) ∈ f (n + i) x (l.drop (i + 1)) ∧ place = (n + i) :: p := by
  induction l generalizing n with
  | nil => simp [numbered]
  | cons x rest ih =>
    have hstep (i : Nat) : n + (i + 1) = n + 1 + i := by omega
    rw [numbered, List.mem_append, ih, List.mem_map]
    constructor
    · rintro (⟨⟨p, _⟩, hp, heq⟩ | ⟨i, z, p, hz, hp, rfl⟩)
      · obtain ⟨rfl, rfl⟩ := Prod.mk.inj heq
        exact ⟨0, x, p, rfl, hp, rfl⟩
      · exact ⟨i + 1, z, p, hz, by rwa [hstep], congrArg (· :: p) (hstep i).symm⟩
    · rintro ⟨_ | i, z, p, hz, hp, rfl⟩
      · obtain rfl := Option.some.inj hz
        exact Or.inl ⟨(p, y), hp, rfl⟩
      · exact Or.inr ⟨i, z, p, hz, by rwa [hstep] at hp, congrArg (· :: p) (hstep i)⟩

theorem pairwise_numbered (h : ∀ n x rest, ((f n x rest).map Prod.fst).Pairwise (· < ·)) (n : Nat)
    (l : List α) : ((numbered f n l).map Prod.fst).Pairwise (· < ·) := by
  induction l generalizing n with
  | nil => exact List.Pairwise.nil
  | cons x rest ih =>
    rw [numbered, List.map_append, List.map_map, List.pairwise_append]
    refine ⟨?_, ih (n + 1), ?_⟩
    · have hx := (h n x rest).map (n :: ·) fun _ _ hlt =>
        List.cons_lt_cons_iff.mpr (Or.inr ⟨rfl, hlt⟩)
      rwa [List.map_map] at hx
    · intro p hp q hq
      obtain ⟨⟨p, y⟩, -, rfl⟩ := List.mem_map.mp hp
      obtain ⟨⟨_, z⟩, hz, rfl⟩ := List.mem_map.mp hq
      obtain ⟨i, _, _, -, -, rfl⟩ := mem_numbered.mp hz
      exact List.cons_lt_cons_iff.mpr (Or.inl (by omega))

end Numbered

section Scan

variable {accepts : String → Bool} {tables : List Schema.Table}

/-- The candidate of two columns, if their names agree and are accepted. -/
def scanColumns (accepts : String → Bool) (t₁ : Schema.Table) (c₁ : Schema.Column)
    (t₂ : Schema.Table) (c₂ : Schema.Column) : List (List Nat × Edge) :=
  if normalizedName c₁.name == normalizedName c₂.name && accepts (normalizedName c₁.name) then
    [([], suggestedEdge t₁ c₁ t₂ c₂)]
  else []

/-- The candidates between two tables, each with the positions of its columns. -/
def scanBetween (accepts : String → Bool) (t₁ t₂ : Schema.Table) : List (List Nat × Edge) :=
  numbered (fun _ c₁ _ => numbered (fun _ c₂ _ => scanColumns accepts t₁ c₁ t₂ c₂) 0 t₂.columns)
    0 t₁.columns

/-- The candidates between tables whose positions count from `n` on, each with its place: the
positions of the two tables, then those of the two columns. -/
def scan (accepts : String → Bool) (n : Nat) (tables : List Schema.Table) :
    List (List Nat × Edge) :=
  numbered (fun n t₁ rest => numbered (fun _ t₂ _ => scanBetween accepts t₁ t₂) (n + 1) rest)
    n tables

theorem map_snd_scanBetween (t₁ t₂ : Schema.Table) :
    (scanBetween accepts t₁ t₂).map Prod.snd = candidatesBetween accepts t₁ t₂ := by
  rw [scanBetween, candidatesBetween, map_snd_numbered]
  refine congrArg (t₁.columns.flatMap ·) (funext fun c₁ => ?_)
  rw [map_snd_numbered, List.filterMap_eq_flatMap_toList]
  refine congrArg (t₂.columns.flatMap ·) (funext fun c₂ => ?_)
  simp only [scanColumns]
  split <;> rfl

theorem map_snd_scan (n : Nat) (tables : List Schema.Table) :
    (scan accepts n tables).map Prod.snd = candidates accepts tables := by
  induction tables generalizing n with
  | nil => rfl
  | cons t rest ih =>
    rw [scan, map_snd_numbered_cons, map_snd_numbered, ← scan, ih, candidates]
    exact congrArg (rest.flatMap · ++ candidates accepts rest) (funext (map_snd_scanBetween t))

theorem pairwise_scan (accepts : String → Bool) (n : Nat) (tables : List Schema.Table) :
    ((scan accepts n tables).map Prod.fst).Pairwise (· < ·) := by
  refine pairwise_numbered (fun _ t₁ _ => pairwise_numbered (fun _ t₂ _ =>
    pairwise_numbered (fun _ c₁ _ => pairwise_numbered (fun _ c₂ _ => ?_) _ _) _ _) _ _) _ _
  unfold scanColumns
  split
  · exact List.pairwise_singleton _ _
  · exact List.Pairwise.nil

/-- The edge is the candidate of two columns, at the place that is made of the positions of their
tables and of their own positions. -/
inductive FoundAt (accepts : String → Bool) (tables : List Schema.Table) :
    List Nat → Edge → Prop
  | intro {i j a b : Nat} {t₁ t₂ : Schema.Table} {c₁ c₂ : Schema.Column} (hlt : i < j)
      (hi : tables[i]? = some t₁) (hj : tables[j]? = some t₂)
      (ha : t₁.columns[a]? = some c₁) (hb : t₂.columns[b]? = some c₂)
      (hname : normalizedName c₁.name = normalizedName c₂.name)
      (haccepts : accepts (normalizedName c₁.name) = true) :
      FoundAt accepts tables [i, j, a, b] (suggestedEdge t₁ c₁ t₂ c₂)

theorem mem_scanColumns {t₁ t₂ : Schema.Table} {c₁ c₂ : Schema.Column} {place : List Nat}
    {e : Edge} : (place, e) ∈ scanColumns accepts t₁ c₁ t₂ c₂ ↔
      (normalizedName c₁.name = normalizedName c₂.name ∧
        accepts (normalizedName c₁.name) = true) ∧ place = [] ∧ e = suggestedEdge t₁ c₁ t₂ c₂ := by
  unfold scanColumns
  split <;> rename_i hagree <;> rw [Bool.and_eq_true, beq_iff_eq] at hagree
  · rw [List.mem_singleton, Prod.mk.injEq]
    exact (and_iff_right hagree).symm
  · exact iff_of_false List.not_mem_nil fun h => hagree h.1

theorem mem_scan {place : List Nat} {e : Edge} :
    (place, e) ∈ scan accepts 0 tables ↔ FoundAt accepts tables place e := by
  simp only [scan, scanBetween, mem_numbered, mem_scanColumns, Nat.zero_add]
  constructor
  · rintro ⟨i, t₁, _, hi, ⟨k, t₂, _, hj, ⟨a, c₁, _, ha, ⟨b, c₂, _, hb, ⟨hagree, rfl, rfl⟩, rfl⟩,
      rfl⟩, rfl⟩, rfl⟩
    rw [List.getElem?_drop] at hj
    exact ⟨by omega, hi, hj, ha, hb, hagree.1, hagree.2⟩
  · rintro @⟨i, j, a, b, t₁, t₂, c₁, c₂, hlt, hi, hj, ha, hb, hname, haccepts⟩
    -- the loop over the later tables counts from `i + 1` on
    have hj' : (tables.drop (i + 1))[j - (i + 1)]? = some t₂ := by
      rw [List.getElem?_drop, Nat.add_sub_cancel' hlt, hj]
    exact ⟨i, t₁, [j, a, b], hi, ⟨j - (i + 1), t₂, [a, b], hj', ⟨a, c₁, [b], ha,
      ⟨b, c₂, [], hb, ⟨⟨hname, haccepts⟩, rfl, rfl⟩, rfl⟩, rfl⟩,
      congrArg (· :: [a, b]) (Nat.add_sub_cancel' hlt).symm⟩, rfl⟩

/-- The edge is found at the place, and no edge of its relationship at an earlier one. -/
def FirstAt (accepts : String → Bool) (tables : List Schema.Table) (place : List Nat) (e : Edge) :
    Prop :=
  FoundAt accepts tables place e ∧
    ∀ earlier < place, ∀ e', FoundAt accepts tables earlier e' → e'.ends ≠ e.ends

/-- Every suggestion is the first of its relationship, and they come in the order of the places. -/
theorem exists_places (accepts : String → Bool) (tables : List Schema.Table)
    (edges : List Edge) : ∃ places : List (List Nat), places.Pairwise (· < ·) ∧
      List.Forall₂ (FirstAt accepts tables) places (suggestionsBy accepts tables edges) := by
  -- the same list with the places still in it
  let found := (firsts (Edge.ends ∘ Prod.snd) (scan accepts 0 tables)).filter fun q =>
    !containsEdge (confirmedOf edges) q.2
  have hedges : suggestionsBy accepts tables edges = found.map Prod.snd := by
    rw [suggestionsBy_eq, ← map_snd_scan 0, firsts_map, List.filter_map]
    rfl
  have hsub : found.Sublist (scan accepts 0 tables) :=
    List.filter_sublist.trans (firsts_sublist _ _)
  have hordered := pairwise_scan accepts 0 tables
  refine ⟨found.map Prod.fst, hordered.sublist (hsub.map Prod.fst), ?_⟩
  rw [hedges, List.forall₂_map_left_iff, List.forall₂_map_right_iff, List.forall₂_same]
  rintro ⟨place, e⟩ hmem
  refine ⟨mem_scan.mp (hsub.subset hmem), fun earlier hlt e' he' hends => ?_⟩
  obtain heq | hlater := eq_or_before_of_mem_firsts (List.pairwise_map.mp hordered)
    (List.mem_filter.mp hmem).1 (mem_scan.mpr he') hends
  · exact List.lt_irrefl place ((Prod.mk.inj heq).1 ▸ hlt)
  · exact List.lt_asymm hlt hlater

end Scan

/-! ## The condition on two columns -/

/-- The ends that edges can have in a table. -/
def tableEnds (t : Schema.Table) : List Endpoint := t.columns.map fun c => ⟨t.name, c.name⟩

/-- Two columns of tables at different positions whose names agree and are accepted. -/
def Joinable (accepts : String → Bool) (tables : List Schema.Table) (x y : Endpoint) : Prop :=
  (∃ (i j : Nat) (t₁ t₂ : Schema.Table), i ≠ j ∧ tables[i]? = some t₁ ∧ tables[j]? = some t₂ ∧
    x ∈ tableEnds t₁ ∧ y ∈ tableEnds t₂) ∧
  normalizedName x.column = normalizedName y.column ∧ accepts (normalizedName x.column) = true

section

variable {accepts : String → Bool} {tables : List Schema.Table} {x y : Endpoint}

theorem Joinable.symm (h : Joinable accepts tables x y) : Joinable accepts tables y x := by
  obtain ⟨⟨i, j, t₁, t₂, hne, hi, hj, hx, hy⟩, hname, haccepts⟩ := h
  exact ⟨⟨j, i, t₂, t₁, hne.symm, hj, hi, hy, hx⟩, hname.symm, hname ▸ haccepts⟩

theorem FoundAt.joinable {place : List Nat} {e : Edge} (h : FoundAt accepts tables place e) :
    Joinable accepts tables e.left e.right := by
  obtain ⟨hlt, hi, hj, ha, hb, hname, haccepts⟩ := h
  exact ⟨⟨_, _, _, _, Nat.ne_of_lt hlt, hi, hj,
    List.mem_map.mpr ⟨_, List.mem_of_getElem? ha, rfl⟩,
    List.mem_map.mpr ⟨_, List.mem_of_getElem? hb, rfl⟩⟩, hname, haccepts⟩

theorem exists_foundAt_of_joinable (h : Joinable accepts tables x y) :
    ∃ place e, FoundAt accepts tables place e ∧ e.ends = s(x, y) := by
  obtain ⟨⟨i, j, t₁, t₂, hne, hi, hj, hx, hy⟩, hname, haccepts⟩ := h
  obtain ⟨c₁, hc₁, rfl⟩ := List.mem_map.mp hx
  obtain ⟨c₂, hc₂, rfl⟩ := List.mem_map.mp hy
  obtain ⟨a, ha⟩ := List.getElem?_of_mem hc₁
  obtain ⟨b, hb⟩ := List.getElem?_of_mem hc₂
  -- the left end is the one in the earlier table
  rcases Nat.lt_or_gt_of_ne hne with hlt | hgt
  · exact ⟨_, _, ⟨hlt, hi, hj, ha, hb, hname, haccepts⟩, rfl⟩
  · exact ⟨_, _, ⟨hgt, hj, hi, hb, ha, hname.symm, hname ▸ haccepts⟩, Sym2.eq_swap⟩

theorem mem_ends_candidates :
    s(x, y) ∈ (candidates accepts tables).map Edge.ends ↔ Joinable accepts tables x y := by
  rw [← map_snd_scan 0, List.map_map]
  constructor
  · intro h
    obtain ⟨⟨place, e⟩, hmem, hends⟩ := List.mem_map.mp h
    have hjoinable := (mem_scan.mp hmem).joinable
    rcases Sym2.eq_iff.mp hends with ⟨rfl, rfl⟩ | ⟨rfl, rfl⟩
    · exact hjoinable
    · exact hjoinable.symm
  · intro h
    obtain ⟨place, e, hfound, hends⟩ := exists_foundAt_of_joinable h
    exact List.mem_map.mpr ⟨(place, e), mem_scan.mpr hfound, hends⟩

/-- The relationships of the suggestions are those of the candidates that are not confirmed. -/
theorem mem_ends_suggestionsBy {edges : List Edge} {k : Sym2 Endpoint} :
    k ∈ (suggestionsBy accepts tables edges).map Edge.ends ↔
      k ∈ (candidates accepts tables).map Edge.ends ∧
        k ∉ (confirmedOf edges).map Edge.ends := by
  rw [suggestionsBy_eq, ← mem_map_firsts (l := candidates accepts tables)]
  simp only [List.mem_map, List.mem_filter, Bool.not_eq_true', ← Bool.not_eq_true,
    containsEdge_iff]
  constructor
  · rintro ⟨e, ⟨he, hnew⟩, rfl⟩
    exact ⟨⟨e, he, rfl⟩, hnew⟩
  · rintro ⟨⟨e, he, rfl⟩, hnew⟩
    exact ⟨e, ⟨he, hnew⟩, rfl⟩

theorem nodup_suggestionsBy (accepts : String → Bool) (tables : List Schema.Table)
    (edges : List Edge) : ((suggestionsBy accepts tables edges).map Edge.ends).Nodup := by
  rw [suggestionsBy_eq]
  exact (map_firsts_nodup _ _).sublist (List.filter_sublist.map _)

/-! ## Another order -/

/-- A relation holds between elements at two positions unless it is excluded pair by pair. -/
theorem not_pairwise_iff {α : Type} {r : α → α → Prop} {l : List α} :
    ¬ l.Pairwise (fun a b => ¬ r a b ∧ ¬ r b a) ↔
      ∃ (i j : Nat) (a b : α), i ≠ j ∧ l[i]? = some a ∧ l[j]? = some b ∧ r a b := by
  constructor
  · intro h
    rw [List.pairwise_iff_getElem] at h
    push Not at h
    obtain ⟨i, j, hi, hj, hlt, hr⟩ := h
    by_cases hij : r l[i] l[j]
    · exact ⟨i, j, _, _, Nat.ne_of_lt hlt, List.getElem?_eq_getElem hi,
        List.getElem?_eq_getElem hj, hij⟩
    · exact ⟨j, i, _, _, Nat.ne_of_gt hlt, List.getElem?_eq_getElem hj,
        List.getElem?_eq_getElem hi, hr hij⟩
  · rintro ⟨i, j, a, b, hne, hi, hj, hr⟩ hpairwise
    obtain ⟨hi', rfl⟩ := List.getElem?_eq_some_iff.mp hi
    obtain ⟨hj', rfl⟩ := List.getElem?_eq_some_iff.mp hj
    rcases Nat.lt_or_gt_of_ne hne with hlt | hgt
    · exact (List.pairwise_iff_getElem.mp hpairwise i j hi' hj' hlt).1 hr
    · exact (List.pairwise_iff_getElem.mp hpairwise j i hj' hi' hgt).2 hr

/-- A table with its columns in no order. -/
def content (t : Schema.Table) : String × Multiset Schema.Column := (t.name, t.columns)

/-- True of the end that an edge has at a column of a table. -/
def IsEndIn (x : Endpoint) (table : String × Multiset Schema.Column) : Prop :=
  x.table = table.1 ∧ ∃ c ∈ table.2, c.name = x.column

theorem mem_tableEnds {t : Schema.Table} : x ∈ tableEnds t ↔ IsEndIn x (content t) := by
  simp only [tableEnds, content, IsEndIn, List.mem_map, Multiset.mem_coe]
  constructor
  · rintro ⟨c, hc, rfl⟩
    exact ⟨rfl, c, hc, rfl⟩
  · rintro ⟨htable, c, hc, hcolumn⟩
    exact ⟨c, hc, by rw [← htable, hcolumn]⟩

theorem joinable_congr {tables' : List Schema.Table}
    (h : (tables.map content).Perm (tables'.map content)) :
    Joinable accepts tables x y ↔ Joinable accepts tables' x y := by
  -- which of two tables comes first does not matter to the symmetric relation made of `r`
  let r (t₁ t₂ : String × Multiset Schema.Column) : Prop := IsEndIn x t₁ ∧ IsEndIn y t₂
  have hperm := h.pairwise_iff (R := fun t₁ t₂ => ¬ r t₁ t₂ ∧ ¬ r t₂ t₁) And.symm
  rw [List.pairwise_map, List.pairwise_map] at hperm
  simp only [Joinable, mem_tableEnds]
  exact and_congr_left fun _ =>
    not_pairwise_iff.symm.trans ((not_congr hperm).trans not_pairwise_iff)

/-- An edge without its orientation. -/
def unoriented (e : Edge) : Sym2 Endpoint × Datum × Datum := (e.ends, e.status, e.cardinality)

theorem map_unoriented_suggestionsBy (edges : List Edge) :
    (suggestionsBy accepts tables edges).map unoriented =
      ((suggestionsBy accepts tables edges).map Edge.ends).map fun k =>
        (k, .text suggestedStatus, .text defaultCardinality) := by
  rw [List.map_map]
  refine List.map_congr_left fun e he => ?_
  rcases mem_or_mem_of_mem_addCandidates he with hmem | hmem
  · cases hmem
  · obtain ⟨_, _, _, _, _, _, _, _, _, rfl⟩ := mem_candidates.mp hmem
    rfl

/-- Tables and columns in another order change the order and the orientation of suggestions. -/
theorem suggestionsBy_perm {tables' : List Schema.Table}
    (h : (tables.map content).Perm (tables'.map content)) (edges : List Edge) :
    ((suggestionsBy accepts tables edges).map unoriented).Perm
      ((suggestionsBy accepts tables' edges).map unoriented) := by
  rw [map_unoriented_suggestionsBy, map_unoriented_suggestionsBy]
  refine List.Perm.map _ ((List.perm_ext_iff_of_nodup (nodup_suggestionsBy accepts tables edges)
    (nodup_suggestionsBy accepts tables' edges)).mpr fun k => ?_)
  induction k with
  | _ x y => rw [mem_ends_suggestionsBy, mem_ends_suggestionsBy, mem_ends_candidates,
      mem_ends_candidates, joinable_congr h]

end

/-! ## After a confirmation -/

theorem ends_confirmed_insertEdge (edges : List Edge) {e : Edge} (h : e.isConfirmed = true)
    {k : Sym2 Endpoint} : k ∈ (confirmedOf (insertEdge edges e)).map Edge.ends ↔
      k = e.ends ∨ k ∈ (confirmedOf edges).map Edge.ends := by
  unfold confirmedOf
  induction edges with
  | nil => simp [insertEdge, h]
  | cons x rest ih =>
    rw [insertEdge]
    split
    · rename_i hsame
      rw [if_neg (by simp [h]), List.filter_cons_of_pos h, List.filter_cons]
      split
      · simp [Edge.same_iff.mp hsame]
      · simp
    · rw [List.filter_cons, List.filter_cons]
      split
      · rw [List.map_cons, List.map_cons, List.mem_cons, List.mem_cons, ih, or_left_comm]
      · exact ih

theorem ends_confirmed_concat (edges : List Edge) {e : Edge} (h : e.isConfirmed = true)
    {k : Sym2 Endpoint} : k ∈ (confirmedOf (edges ++ [e])).map Edge.ends ↔
      k = e.ends ∨ k ∈ (confirmedOf edges).map Edge.ends := by
  rw [confirmedOf, List.filter_append, List.filter_cons_of_pos h, List.filter_nil, List.map_append,
    List.mem_append, List.map_singleton, List.mem_singleton, or_comm, confirmedOf]

/-- With one relationship more confirmed, just the suggestion of this relationship is missing. -/
theorem suggestionsBy_of_confirmed (accepts : String → Bool) (tables : List Schema.Table)
    {edges edges' : List Edge} {e : Edge} (h : ∀ k, k ∈ (confirmedOf edges').map Edge.ends ↔
      k = e.ends ∨ k ∈ (confirmedOf edges).map Edge.ends) :
    suggestionsBy accepts tables edges' =
      (suggestionsBy accepts tables edges).filter fun x => !x.same e := by
  rw [suggestionsBy_eq, suggestionsBy_eq, List.filter_filter]
  refine List.filter_congr fun x _ => ?_
  rw [Bool.eq_iff_iff, Bool.and_eq_true, Bool.not_eq_true', Bool.not_eq_true', Bool.not_eq_true',
    ← Bool.not_eq_true, ← Bool.not_eq_true, ← Bool.not_eq_true, containsEdge_iff,
    containsEdge_iff, Edge.same_iff, h, not_or]

/-! ## The result -/

/-- A relationship is suggested exactly where two columns are joinable and no edge confirms it;
every relationship is suggested once, in the place and with the orientation of its first candidate.
So another order of the tables and columns only shows in order and orientation, and a confirmed
edge, either way round, takes its own suggestion away and no other. -/
theorem suggestionsBy_spec (accepts : String → Bool) (tables : List Schema.Table)
    (edges : List Edge) :
    (∀ x y, (∃ e ∈ suggestionsBy accepts tables edges, e.ends = s(x, y)) ↔
      Joinable accepts tables x y ∧ ∀ e ∈ edges, e.isConfirmed = true → e.ends ≠ s(x, y)) ∧
    ((suggestionsBy accepts tables edges).map Edge.ends).Nodup ∧
    (∃ places : List (List Nat), places.Pairwise (· < ·) ∧
      List.Forall₂ (FirstAt accepts tables) places (suggestionsBy accepts tables edges)) ∧
    (∀ tables', (tables.map content).Perm (tables'.map content) →
      ((suggestionsBy accepts tables edges).map unoriented).Perm
        ((suggestionsBy accepts tables' edges).map unoriented)) ∧
    ∀ suggestion e : Edge, e.same suggestion = true → ∀ cardinality : Datum,
      suggestionsBy accepts tables ((Graph.mk edges).confirm e cardinality).2.edges =
        (suggestionsBy accepts tables edges).filter (fun x => !x.same suggestion) ∧
      suggestionsBy accepts tables (edges ++ [e.confirmed cardinality]) =
        (suggestionsBy accepts tables edges).filter fun x => !x.same suggestion := by
  refine ⟨fun x y => ?_, nodup_suggestionsBy accepts tables edges,
    exists_places accepts tables edges, fun tables' h => suggestionsBy_perm h edges,
    fun suggestion e hsame cardinality => ?_⟩
  · rw [← mem_ends_candidates, ← List.mem_map, mem_ends_suggestionsBy]
    refine and_congr_right fun _ => ?_
    simp [confirmedOf]
  · have hends : (e.confirmed cardinality).ends = suggestion.ends := Edge.same_iff.mp hsame
    constructor <;> refine suggestionsBy_of_confirmed accepts tables fun k => ?_ <;> rw [← hends]
    · exact ends_confirmed_insertEdge edges rfl
    · exact ends_confirmed_concat edges rfl

/-- Two columns of the first table have the same normalized name. -/
def orderTables : List Schema.Table :=
  [⟨"orders", [⟨"id", "INTEGER"⟩, ⟨"ID", "VARCHAR"⟩]⟩, ⟨"payments", [⟨"id", "INTEGER"⟩]⟩]

/-- The second suggestion for these tables, the other way round. -/
def spelledEdge : Edge :=
  suggestedEdge ⟨"payments", []⟩ ⟨"id", ""⟩ ⟨"orders", []⟩ ⟨"ID", ""⟩

theorem suggestionsBy_spec_orders :
    let accepts := (Matcher.mk ["id"] []).accepts
    (∃ e ∈ suggestionsBy accepts orderTables [], e.ends = spelledEdge.ends) ∧
    ((suggestionsBy accepts orderTables []).map unoriented).Perm
      ((suggestionsBy accepts orderTables.reverse []).map unoriented) ∧
    ∀ s ∈ suggestionsBy accepts orderTables [], s.ends = spelledEdge.ends →
      suggestionsBy accepts orderTables ((Graph.mk []).confirm spelledEdge .null).2.edges =
        (suggestionsBy accepts orderTables []).filter fun x => !x.same s := by
  intro accepts
  obtain ⟨hsuggested, -, -, hperm, hconfirm⟩ := suggestionsBy_spec accepts orderTables []
  refine ⟨(hsuggested _ _).mpr ⟨⟨⟨1, 0, _, _, by decide, rfl, rfl, by decide, by decide⟩, ?_⟩,
    by simp⟩, hperm _ ?_, fun s _ hends => (hconfirm s _ ?_ _).1⟩
  · decide
  · exact (List.reverse_perm orderTables).symm.map content
  · exact Edge.same_iff.mpr hends.symm

end ChartBoard.Relationship
