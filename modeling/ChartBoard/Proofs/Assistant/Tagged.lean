import ChartBoard.Assistant.Extraction
import ChartBoard.Assistant.Model
import ChartBoard.Proofs.Text.Blank
import ChartBoard.Proofs.Text.Folded
import ChartBoard.Proofs.Text.Search

/-!
# Statements between tags

The statement between the first pair of tags of an answer is taken as it stands, whatever else the
answer holds.  The answer that is given without a vendor has but one such pair, as the square
brackets of the prompt that it repeats are made round.

* `ShowsFirst` says which table a text shows first, and `shownTable?_eq_some_iff` that it is found.
* `statement?_tagged` takes a statement from between tags, `statement?_echo` from an answer without
  a vendor.
* `statement?_verbatim` puts them together.
-/

namespace ChartBoard.Assistant

open Text

/-! ## The first table of a text -/

/-- What stands in front of the name of a table that is shown. -/
def shownWord : List Char := "Table \x22".toList

/-- True of a text that shows a table of some name behind the characters `before`. -/
structure ShowsAfter (before name cs : List Char) : Prop where
  ne_nil : name ≠ []
  noQuote : '\x22' ∉ name
  shown : ∃ after, cs = before ++ (shownWord ++ (name ++ '\x22' :: after))

/-- True of a text that shows a table of some name, and no other before it. -/
def ShowsFirst (name cs : List Char) : Prop :=
  ∃ before, ShowsAfter before name cs ∧
    ∀ earlier other, ShowsAfter earlier other cs → before.length ≤ earlier.length

variable {name other before cs : List Char} {c : Char}

theorem not_showsAfter_nil : ¬ ShowsAfter before name [] := by
  rintro ⟨-, -, after, hcs⟩
  have hword := (List.append_eq_nil_iff.mp hcs.symm).2
  exact absurd (List.append_eq_nil_iff.mp hword).1 (by decide)

theorem ne_quote (h : '\x22' ∉ name) : ∀ c ∈ name, (c != '\x22') = true := fun c hc => by
  simpa using ne_of_mem_of_not_mem hc h

/-- The name of a table ends at the next quote. -/
theorem ShowsAfter.unique (h : ShowsAfter before name cs) (h' : ShowsAfter before other cs) :
    name = other := by
  obtain ⟨after, hcs⟩ := h.shown
  obtain ⟨after', hcs'⟩ := h'.shown
  have hsame : name ++ '\x22' :: after = other ++ '\x22' :: after' :=
    List.append_cancel_left (List.append_cancel_left (hcs.symm.trans hcs'))
  rw [← takeWhile_append_cons (ne_quote h.noQuote) (bne_self_eq_false _) after, hsame,
    takeWhile_append_cons (ne_quote h'.noQuote) (bne_self_eq_false _)]

theorem showsAfter_cons : ShowsAfter before name (c :: cs) ↔
    before = [] ∧ ShowsAfter [] name (c :: cs) ∨
      ∃ rest, before = c :: rest ∧ ShowsAfter rest name cs := by
  constructor
  · intro h
    obtain ⟨after, hcs⟩ := h.shown
    rcases List.cons_eq_append_iff.mp hcs with ⟨rfl, -⟩ | ⟨rest, rfl, hrest⟩
    · exact .inl ⟨rfl, h⟩
    · exact .inr ⟨rest, rfl, h.ne_nil, h.noQuote, after, hrest⟩
  · rintro (⟨rfl, h⟩ | ⟨rest, rfl, hne, hquote, after, rfl⟩)
    · exact h
    · exact ⟨hne, hquote, after, rfl⟩

/-- A table that is shown at the start of a text is found. -/
theorem shownTable?_of_showsAfter (h : ShowsAfter [] name (c :: cs)) :
    shownTable? (c :: cs) = some name := by
  obtain ⟨hne, hquote, after, hcs⟩ := h
  have hstart : startsWith? "Table \x22".toList (c :: cs) = some (name ++ '\x22' :: after) :=
    startsWith?_eq_some_iff.mpr hcs
  have htake := takeWhile_append_cons (ne_quote hquote) (bne_self_eq_false '\x22') after
  have hdrop := dropWhile_append_cons (ne_quote hquote) (bne_self_eq_false '\x22') after
  obtain ⟨n, ns, rfl⟩ := List.exists_cons_of_ne_nil hne
  rw [shownTable?, hstart]
  simp only [htake, hdrop]

theorem shownTable?_of_not_showsAfter (h : ∀ name, ¬ ShowsAfter [] name (c :: cs)) :
    shownTable? (c :: cs) = shownTable? cs := by
  rw [shownTable?]
  split
  · rename_i rest hstart
    split
    · rename_i n ns d after htake hdrop
      obtain ⟨hd, hrest⟩ := eq_takeWhile_append_of_dropWhile hdrop
      obtain rfl : d = '\x22' := by simpa using hd
      have hquote : '\x22' ∉ n :: ns := fun hmem => by
        have hpos := List.mem_takeWhile_imp (htake ▸ hmem)
        simp at hpos
      rw [htake] at hrest
      subst hrest
      have hcs : _ = shownWord ++ _ := startsWith?_eq_some_iff.mp hstart
      exact absurd ⟨List.cons_ne_nil n ns, hquote, after, hcs⟩ (h (n :: ns))
    · rfl
  · rfl

/-- The table that is found is the one that a text shows first. -/
theorem shownTable?_eq_some_iff : shownTable? cs = some name ↔ ShowsFirst name cs := by
  induction cs with
  | nil => exact iff_of_false (fun h => nomatch h) fun ⟨_, h, _⟩ => not_showsAfter_nil h
  | cons c cs ih =>
    by_cases hhead : ∃ other, ShowsAfter [] other (c :: cs)
    · obtain ⟨other, hother⟩ := hhead
      rw [shownTable?_of_showsAfter hother, Option.some_inj]
      constructor
      · rintro rfl
        exact ⟨[], hother, fun _ _ _ => Nat.zero_le _⟩
      · rintro ⟨before, hbefore, hleast⟩
        obtain rfl := List.length_eq_zero_iff.mp (Nat.le_zero.mp (hleast [] other hother))
        exact hother.unique hbefore
    · have hno : ∀ name, ¬ ShowsAfter [] name (c :: cs) := not_exists.mp hhead
      have hstep {before name : List Char} : ShowsAfter before name (c :: cs) ↔
          ∃ rest, before = c :: rest ∧ ShowsAfter rest name cs := by
        rw [showsAfter_cons, or_iff_right fun h => hno name h.2]
      rw [shownTable?_of_not_showsAfter hno, ih]
      constructor
      · rintro ⟨before, hbefore, hleast⟩
        refine ⟨c :: before, hstep.mpr ⟨before, rfl, hbefore⟩, fun earlier other h => ?_⟩
        obtain ⟨rest, rfl, hrest⟩ := hstep.mp h
        exact Nat.succ_le_succ (hleast rest other hrest)
      · rintro ⟨before, hbefore, hleast⟩
        obtain ⟨rest, rfl, hrest⟩ := hstep.mp hbefore
        exact ⟨rest, hrest, fun earlier other h =>
          Nat.le_of_succ_le_succ (hleast (c :: earlier) other (hstep.mpr ⟨earlier, rfl, h⟩))⟩

/-- No table is found exactly if a text shows none. -/
theorem shownTable?_eq_none_iff :
    shownTable? cs = none ↔ ∀ before name, ¬ ShowsAfter before name cs := by
  induction cs with
  | nil => exact iff_of_true rfl fun _ _ => not_showsAfter_nil
  | cons c cs ih =>
    by_cases hhead : ∃ other, ShowsAfter [] other (c :: cs)
    · obtain ⟨other, hother⟩ := hhead
      rw [shownTable?_of_showsAfter hother]
      exact iff_of_false (fun h => nomatch h) fun h => h [] other hother
    · have hno : ∀ name, ¬ ShowsAfter [] name (c :: cs) := not_exists.mp hhead
      rw [shownTable?_of_not_showsAfter hno, ih]
      constructor
      · intro h before name hshown
        rcases showsAfter_cons.mp hshown with ⟨-, hfirst⟩ | ⟨rest, -, hrest⟩
        · exact hno name hfirst
        · exact h rest name hrest
      · exact fun h before name hshown =>
          h (c :: before) name (showsAfter_cons.mpr (.inr ⟨before, rfl, hshown⟩))

/-! ## Between tags -/

theorem openingTag_sql : openingTag "sql" = ['[', 's', 'q', 'l', ']'] := by decide

theorem closingTag_sql : closingTag "sql" = ['[', '/', 's', 'q', 'l', ']'] := by decide

/-- A tag starts with a square bracket and has no other one that opens. -/
theorem exists_tail_of_spells {ws found : List Char} (h : Spells ('[' :: ws) found) :
    ∃ fs, found = '[' :: fs := by
  obtain ⟨f, fs, hf, -, rfl⟩ := List.forall₂_cons_left_iff.mp h
  have hbracket : ('[' == f) = true := hf
  exact ⟨fs, by rw [← beq_iff_eq.mp hbracket]⟩

/-- What stands between the first pair of tags is found as it is, in whatever case the tags are
written and whatever follows them. -/
theorem tagged?_append {opening body closing : List Char}
    (hopening : Spells (openingTag "sql") opening) (hclosing : Spells (closingTag "sql") closing)
    (hbefore : ¬ OccursFolded (openingTag "sql") before)
    (hbody : ¬ OccursFolded (closingTag "sql") body) (after : List Char) :
    tagged? "sql" (before ++ (opening ++ (body ++ (closing ++ after)))) = some body := by
  rw [openingTag_sql] at hopening hbefore
  rw [closingTag_sql] at hclosing hbody
  obtain ⟨opened, rfl⟩ := exists_tail_of_spells hopening
  obtain ⟨closed, rfl⟩ := exists_tail_of_spells hclosing
  rw [tagged?, between?, openingTag_sql, closingTag_sql,
    splitFolded?_append hopening (forall_mem_of_all (by decide)) hbefore, Option.bind_some]
  dsimp only
  rw [splitFolded?_append hclosing (forall_mem_of_all (by decide)) hbody]
  rfl

theorem statement?_tagged {answer : String} {opening body closing after : List Char}
    (hanswer : answer.toList = before ++ (opening ++ (body ++ (closing ++ after))))
    (hopening : Spells (openingTag "sql") opening) (hclosing : Spells (closingTag "sql") closing)
    (hbefore : ¬ OccursFolded (openingTag "sql") before)
    (hbody : ¬ OccursFolded (closingTag "sql") body) :
    statement? answer = some (String.ofList (trimChars body)) := by
  rw [statement?, hanswer, statementChars?, tagged?_append hopening hclosing hbefore hbody]
  rfl

theorem spells_opening : Spells (openingTag "sql") "[SQL]".toList := by
  unfold Spells
  decide

theorem spells_closing : Spells (closingTag "sql") "[/SQL]".toList := by
  unfold Spells
  decide

/-! ## Without a vendor -/

/-- The statement that counts the rows of a table. -/
def rowCount (name : List Char) : String :=
  "SELECT COUNT(*) AS row_count FROM \x22" ++ String.ofList name ++ "\x22"

theorem countStatement_of_showsFirst {system : String} (h : ShowsFirst name system.toList) :
    countStatement system = rowCount name := by
  rw [countStatement, shownTable?_eq_some_iff.mpr h]
  rfl

theorem countStatement_of_none {system : String}
    (h : ∀ before name, ¬ ShowsAfter before name system.toList) :
    countStatement system = "SELECT 1 AS value" := by
  rw [countStatement, shownTable?_eq_none_iff.mpr h]

theorem ne_bracket_rounded (c : Char) : rounded c ≠ '[' := by
  unfold rounded
  split
  · decide
  · split
    · decide
    · assumption

/-- The prompt that is repeated opens no tag. -/
theorem not_occursFolded_repeated (prompt : List Char) : ¬ OccursFolded (openingTag "sql")
    ("[MOCK] ".toList ++ (prompt.map rounded ++ ['\n'])) := by
  have hrest : ∀ c ∈ "OCK] ".toList ++ (prompt.map rounded ++ ['\n']), c ≠ '[' := by
    simp only [List.forall_mem_append, List.forall_mem_map]
    exact ⟨forall_mem_of_all (by decide), fun c _ => ne_bracket_rounded c,
      forall_mem_of_all (by decide)⟩
  have hsplit : "[MOCK] ".toList ++ (prompt.map rounded ++ ['\n']) =
      ['['] ++ 'M' :: ("OCK] ".toList ++ (prompt.map rounded ++ ['\n'])) := rfl
  rw [hsplit, occursFolded_append_cons (by decide) (forall_mem_of_all (by decide))]
  rintro (hfirst | hlater)
  · exact not_occursFolded_of_letter (w := 's') (by decide)
      (forall_mem_of_all (by decide)) hfirst
  · refine not_occursFolded_of_letter (w := '[') (by decide) (fun c hc => ?_) hlater
    exact beq_false_of_ne (hrest c hc).symm

/-- The answer without a vendor holds the statement that counts rows, and no other. -/
theorem statement?_echo {prompt system : String}
    (h : ¬ OccursFolded (closingTag "sql") (countStatement system).toList) :
    statement? (echo prompt system) = some (trim (countStatement system)) := by
  have hanswer : (echo prompt system).toList =
      ("[MOCK] ".toList ++ ((prompt.toList.take 200).map rounded ++ ['\n'])) ++
        ("[SQL]".toList ++ ((countStatement system).toList ++ ("[/SQL]".toList ++ []))) := by
    have hline : "\n[SQL]".toList = '\n' :: "[SQL]".toList := by decide
    simp only [echo, String.toList_append, String.toList_ofList, hline, List.append_assoc,
      List.append_nil, List.cons_append, List.nil_append]
  exact statement?_tagged hanswer spells_opening spells_closing (not_occursFolded_repeated _) h

/-- What stands in front of the name in the statement that counts the rows of a table. -/
def countWord : List Char := "SELECT COUNT(*) AS row_count FROM ".toList

theorem toList_rowCount (name : List Char) :
    (rowCount name).toList = countWord ++ '\x22' :: (name ++ ['\x22']) := by
  have hword : "SELECT COUNT(*) AS row_count FROM \x22".toList = countWord ++ ['\x22'] := by decide
  have hquote : "\x22".toList = ['\x22'] := by decide
  have hparts (start stop : String) : (start ++ String.ofList name ++ stop).toList =
      start.toList ++ (name ++ stop.toList) := by
    simp only [String.toList_append, String.toList_ofList, List.append_assoc]
  calc (rowCount name).toList
    _ = "SELECT COUNT(*) AS row_count FROM \x22".toList ++ (name ++ "\x22".toList) := hparts _ _
    _ = (countWord ++ ['\x22']) ++ (name ++ ['\x22']) :=
      congrArg₂ (fun start stop => start ++ (name ++ stop)) hword hquote
    _ = countWord ++ '\x22' :: (name ++ ['\x22']) := List.append_cons countWord '\x22' _ ▸ rfl

theorem isBlank_quote : isBlank '\x22' = false := by decide

/-- The statement that counts the rows of a table closes no tag unless the name does. -/
theorem not_occursFolded_rowCount (h : ¬ OccursFolded (closingTag "sql") name) :
    ¬ OccursFolded (closingTag "sql") (rowCount name).toList := by
  have hstart : ∀ c ∈ countWord, sameFolded '[' c = false := forall_mem_of_all (by decide)
  rw [closingTag_sql] at h ⊢
  have hquote : ∀ w ∈ ['[', '/', 's', 'q', 'l', ']'], sameFolded w '\x22' = false :=
    forall_mem_of_all (by decide)
  rw [toList_rowCount, occursFolded_append_cons (List.cons_ne_nil _ _) hquote,
    occursFolded_append_cons (List.cons_ne_nil _ _) hquote]
  rintro (hfirst | hname | hlast)
  · exact not_occursFolded_of_letter List.mem_cons_self hstart hfirst
  · exact h hname
  · exact absurd (occursFolded_nil_iff.mp hlast) (List.cons_ne_nil _ _)

theorem trim_rowCount (name : List Char) : trim (rowCount name) = rowCount name := by
  have hstart : trimStart (rowCount name).toList = (rowCount name).toList := by
    have hfirst : ∃ rest, countWord = 'S' :: rest := ⟨_, rfl⟩
    obtain ⟨rest, hrest⟩ := hfirst
    rw [toList_rowCount, hrest, List.cons_append, trimStart,
      List.dropWhile_cons_of_neg (by decide)]
  have hend : trimEnd (rowCount name).toList = (rowCount name).toList := by
    have hlast : (rowCount name).toList =
        (countWord ++ '\x22' :: name) ++ '\x22' :: [] := by
      rw [toList_rowCount, List.append_assoc, List.cons_append]
    rw [hlast, trimEnd_append_cons _ isBlank_quote]
    rfl
  rw [trim, trimChars, hstart, hend, String.ofList_toList]

/-- A text that says nothing is as good as none: no table is shown by default either. -/
theorem exists_echo (settings : Settings) (package : Option Package) (system : Option String)
    (prompt : String) : ∃ told, countStatement told = countStatement (system.getD "") ∧
      complete settings package (some "mock") system prompt = .ok ⟨echo prompt told, none⟩ := by
  have hdefault : countStatement defaultSystem = countStatement "" := by decide
  cases system with
  | none => exact ⟨defaultSystem, hdefault, rfl⟩
  | some s =>
    by_cases hs : s = ""
    · subst hs
      exact ⟨defaultSystem, hdefault, rfl⟩
    · have hempty : s.isEmpty = false := by simpa using hs
      refine ⟨s, rfl, ?_⟩
      simp only [complete, hempty]
      rfl

/-! ## Main result -/

/-- The statement between the first pair of tags is found as it stands, trimmed, whatever else the
answer holds.  So the answer without a vendor, whatever it was asked, gives the statement that
counts the rows of the first table it was shown, if there is one. -/
theorem statement?_verbatim :
    (∀ before body after : String, ¬ OccursFolded (openingTag "sql") before.toList →
      ¬ OccursFolded (closingTag "sql") body.toList →
      statement? (before ++ "[SQL]" ++ body ++ "[/SQL]" ++ after) = some (trim body)) ∧
    ∀ (settings : Settings) (package : Option Package) (system : Option String) (prompt : String),
      (∀ name, ShowsFirst name (system.getD "").toList → ¬ OccursFolded (closingTag "sql") name) →
      ∃ answer, complete settings package (some "mock") system prompt = .ok ⟨answer, none⟩ ∧
        (∀ name, ShowsFirst name (system.getD "").toList →
          statement? answer = some (rowCount name)) ∧
        ((∀ before name, ¬ ShowsAfter before name (system.getD "").toList) →
          statement? answer = some "SELECT 1 AS value") := by
  constructor
  · intro before body after hbefore hbody
    have hanswer : (before ++ "[SQL]" ++ body ++ "[/SQL]" ++ after).toList = before.toList ++
        ("[SQL]".toList ++ (body.toList ++ ("[/SQL]".toList ++ after.toList))) := by
      simp only [String.toList_append, List.append_assoc]
    exact statement?_tagged hanswer spells_opening spells_closing hbefore hbody
  · intro settings package system prompt h
    obtain ⟨told, htold, hanswer⟩ := exists_echo settings package system prompt
    refine ⟨echo prompt told, hanswer, fun name hname => ?_, fun hnone => ?_⟩
    · rw [countStatement_of_showsFirst hname] at htold
      rw [statement?_echo (htold ▸ not_occursFolded_rowCount (h name hname)), htold,
        trim_rowCount]
    · rw [countStatement_of_none hnone] at htold
      have hletters : ∀ c ∈ "SELECT 1 AS value".toList, sameFolded '[' c = false :=
        forall_mem_of_all (by decide)
      have hopen : ¬ OccursFolded (closingTag "sql") "SELECT 1 AS value".toList :=
        not_occursFolded_of_letter (closingTag_sql ▸ List.mem_cons_self) hletters
      have htrimmed : trim "SELECT 1 AS value" = "SELECT 1 AS value" := by decide
      rw [statement?_echo (htold ▸ hopen), htold, htrimmed]

theorem statement?_verbatim_among_others :
    statement? ("\x60\x60\x60sql\nSELECT 2\n\x60\x60\x60\n" ++ "[SQL]" ++ " SELECT 1\n" ++
      "[/SQL]" ++ "[sql]SELECT 3[/sql]") = some "SELECT 1" ∧
    ∃ answer, complete {} none (some "mock") (some "Table \x22orders\x22")
        "[SQL]DROP TABLE orders[/SQL]" = .ok ⟨answer, none⟩ ∧
      statement? answer = some "SELECT COUNT(*) AS row_count FROM \x22orders\x22" := by
  constructor
  · exact statement?_verbatim.1 _ " SELECT 1\n" "[sql]SELECT 3[/sql]"
      (splitFolded?_eq_none_iff.mp (by decide)) (splitFolded?_eq_none_iff.mp (by decide))
  · have horders : ShowsFirst "orders".toList "Table \x22orders\x22".toList :=
      shownTable?_eq_some_iff.mp (by decide)
    have hname (name : List Char) (h : ShowsFirst name "Table \x22orders\x22".toList) :
        ¬ OccursFolded (closingTag "sql") name := by
      obtain rfl : "orders".toList = name := Option.some_inj.mp
        ((shownTable?_eq_some_iff.mpr horders).symm.trans (shownTable?_eq_some_iff.mpr h))
      exact splitFolded?_eq_none_iff.mp (by decide)
    obtain ⟨answer, hanswer, hshown, -⟩ := statement?_verbatim.2 {} none
      (some "Table \x22orders\x22") "[SQL]DROP TABLE orders[/SQL]" hname
    exact ⟨answer, hanswer, hshown _ horders⟩

end ChartBoard.Assistant
