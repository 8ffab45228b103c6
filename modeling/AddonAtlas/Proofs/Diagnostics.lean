import AddonAtlas.Diagnostics
import AddonAtlas.Proofs.Text.Order

/-!
# What diagnostics tell

Diagnostics that take down a history of problems hold how many files could not be read, how many rows
were too short, and every warning once (`Records`): one problem more keeps this (`Records.record`), so
it holds after every history (`records_recordAll`).  A report tells this much of a history and no more.
Two histories have the same report exactly if one is the other one `Retold`, in another order and with
warnings repeated or not (`retold_iff`, `value_recordAll`).
-/

namespace AddonAtlas.Diagnostics

open Document Text

/-! ## Taking down problems -/

/-- The diagnostics hold the problems of a history. -/
structure Records (history : List Problem) (d : Diagnostics) : Prop where
  unreadableFiles : d.unreadableFiles = history.count .unreadable
  shortRows : d.shortRows = history.count .shortRow
  mem_warnings : ∀ text, text ∈ d.warnings ↔ .warning text ∈ history
  nodup_warnings : d.warnings.Nodup

theorem records_nil : Records [] {} where
  unreadableFiles := rfl
  shortRows := rfl
  mem_warnings text := by simp
  nodup_warnings := .nil

theorem mem_warnings_warn {d : Diagnostics} {warning text : String} :
    text ∈ (d.warn warning).warnings ↔ text ∈ d.warnings ∨ text = warning := by
  unfold warn
  split
  · next hold =>
    refine ⟨.inl, fun h => h.elim id ?_⟩
    rintro rfl
    exact List.contains_iff_mem.1 hold
  · rw [List.mem_append, List.mem_singleton]

theorem nodup_warnings_warn {d : Diagnostics} (h : d.warnings.Nodup) (warning : String) :
    (d.warn warning).warnings.Nodup := by
  unfold warn
  split
  · exact h
  · next hnew =>
    rw [List.contains_iff_mem] at hnew
    exact h.append (List.nodup_singleton _) (by simpa using hnew)

theorem warn_counts (d : Diagnostics) (warning : String) :
    (d.warn warning).unreadableFiles = d.unreadableFiles ∧
      (d.warn warning).shortRows = d.shortRows := by
  unfold warn
  split
  · exact ⟨rfl, rfl⟩
  · exact ⟨rfl, rfl⟩

/-- One problem more is taken down. -/
theorem Records.record {history : List Problem} {d : Diagnostics} (h : Records history d)
    (problem : Problem) : Records (history ++ [problem]) (d.record problem) := by
  cases problem with
  | unreadable =>
    refine ⟨?_, ?_, fun text => ?_, h.nodup_warnings⟩
    · simp [Diagnostics.record, addUnreadable, h.unreadableFiles]
    · simp [Diagnostics.record, addUnreadable, h.shortRows]
    · simpa [Diagnostics.record, addUnreadable] using h.mem_warnings text
  | shortRow =>
    refine ⟨?_, ?_, fun text => ?_, h.nodup_warnings⟩
    · simp [Diagnostics.record, addShortRow, h.unreadableFiles]
    · simp [Diagnostics.record, addShortRow, h.shortRows]
    · simpa [Diagnostics.record, addShortRow] using h.mem_warnings text
  | warning warning =>
    obtain ⟨hunreadable, hshort⟩ := d.warn_counts warning
    refine ⟨?_, ?_, fun text => ?_, nodup_warnings_warn h.nodup_warnings warning⟩
    · simp [Diagnostics.record, hunreadable, h.unreadableFiles]
    · simp [Diagnostics.record, hshort, h.shortRows]
    · rw [Diagnostics.record, mem_warnings_warn, h.mem_warnings]
      simp

theorem Records.recordAll {before : List Problem} {d : Diagnostics} (h : Records before d)
    (after : List Problem) : Records (before ++ after) (d.recordAll after) := by
  induction after generalizing before d with
  | nil => rwa [List.append_nil]
  | cons problem after ih =>
    rw [List.append_cons]
    exact ih (h.record problem)

theorem records_recordAll (history : List Problem) : Records history (recordAll {} history) :=
  records_nil.recordAll history

/-! ## Histories with the same news -/

/-- Two histories tell the same news: as many unreadable files, as many short rows, and the same
warnings. -/
structure SameNews (history history' : List Problem) : Prop where
  unreadable : history.count .unreadable = history'.count .unreadable
  shortRow : history.count .shortRow = history'.count .shortRow
  warning : ∀ text, .warning text ∈ history ↔ .warning text ∈ history'

/-- A history is told again: in another order, or with a warning that is repeated, or both, and any
number of times. -/
inductive Retold : List Problem → List Problem → Prop
  | perm {history history' : List Problem} (h : history.Perm history') : Retold history history'
  | repeated (before after : List Problem) {text : String} (h : .warning text ∈ before ++ after) :
      Retold (before ++ after) (before ++ .warning text :: after)
  | symm {history history' : List Problem} (h : Retold history history') : Retold history' history
  | trans {a b c : List Problem} (hab : Retold a b) (hbc : Retold b c) : Retold a c

theorem Retold.sameNews {history history' : List Problem} (h : Retold history history') :
    SameNews history history' := by
  induction h with
  | perm h => exact ⟨h.count_eq _, h.count_eq _, fun text => h.mem_iff⟩
  | repeated before after h =>
    refine ⟨by simp, by simp, fun text => ?_⟩
    rw [List.mem_append, List.mem_append, List.mem_cons, Problem.warning.injEq]
    refine ⟨fun hmem => hmem.imp_right .inr, fun hmem => ?_⟩
    rcases hmem with hbefore | rfl | hafter
    · exact .inl hbefore
    · exact List.mem_append.1 h
    · exact .inr hafter
  | symm _ ih => exact ⟨ih.unreadable.symm, ih.shortRow.symm, fun text => (ih.warning text).symm⟩
  | trans _ _ ihab ihbc =>
    exact ⟨ihab.unreadable.trans ihbc.unreadable, ihab.shortRow.trans ihbc.shortRow,
      fun text => (ihab.warning text).trans (ihbc.warning text)⟩

/-- Is a problem a warning? -/
def Problem.isWarning : Problem → Bool
  | .warning _ => true
  | .unreadable | .shortRow => false

/-- The warnings of another history may be repeated, if they are all there. -/
theorem retold_append_warnings {history other : List Problem}
    (h : ∀ text, .warning text ∈ other → .warning text ∈ history) :
    Retold history (history ++ other.filter Problem.isWarning) := by
  induction other with
  | nil =>
    rw [List.filter_nil, List.append_nil]
    exact .perm (.refl history)
  | cons problem other ih =>
    have hrest := ih fun text htext => h text (List.mem_cons_of_mem _ htext)
    cases problem with
    | unreadable | shortRow => exact hrest
    | warning text =>
      have hold := List.mem_append_left (other.filter Problem.isWarning) (h text List.mem_cons_self)
      exact hrest.trans (.repeated history _ hold)

theorem count_append_warnings (history other : List Problem) (problem : Problem) :
    (history ++ other.filter Problem.isWarning).count problem =
      history.count problem + if problem.isWarning then other.count problem else 0 := by
  rw [List.count_append]
  split
  · next h => rw [List.count_filter h]
  · next h => rw [List.count_eq_zero_of_not_mem fun hmem => h (List.mem_filter.1 hmem).2]

/-- Histories with the same news are the same but for their order and for repeated warnings: each of them
becomes the same one, when the warnings of the other are repeated in it. -/
theorem retold_iff {history history' : List Problem} :
    Retold history history' ↔ SameNews history history' := by
  refine ⟨Retold.sameNews, fun h => ?_⟩
  have hperm : (history ++ history'.filter Problem.isWarning).Perm
      (history' ++ history.filter Problem.isWarning) := by
    rw [List.perm_iff_count]
    intro problem
    rw [count_append_warnings, count_append_warnings]
    cases problem with
    | unreadable => exact congrArg (· + 0) h.unreadable
    | shortRow => exact congrArg (· + 0) h.shortRow
    | warning text => exact Nat.add_comm _ _
  have hleft := retold_append_warnings fun text => (h.warning text).2
  have hright := retold_append_warnings fun text => (h.warning text).1
  exact (hleft.trans (.perm hperm)).trans hright.symm

/-! ## Reports -/

/-- The report of a history: how many files could not be read, how many rows were too short, and the
different warnings in increasing order. -/
def Reports (history : List Problem) (report : Value) : Prop :=
  ∃ warnings : List String, warnings.Pairwise (· < ·) ∧
    (∀ text, text ∈ warnings ↔ .warning text ∈ history) ∧
    report = .object [("unreadable_files", .int (history.count .unreadable)),
      ("short_rows", .int (history.count .shortRow)), ("warnings", .texts warnings)]

theorem Records.reports {history : List Problem} {d : Diagnostics} (h : Records history d) :
    Reports history d.value := by
  refine ⟨d.warnings.mergeSort fun a b => decide (a ≤ b), ?_, fun text => ?_, ?_⟩
  · exact pairwise_mergeSort_lt id (by simpa using h.nodup_warnings)
  · rw [List.mem_mergeSort, h.mem_warnings]
  · rw [value, h.unreadableFiles, h.shortRows]

theorem texts_inj {texts texts' : List String} : Value.texts texts = .texts texts' ↔ texts = texts' := by
  rw [Value.texts, Value.texts, Value.list.injEq]
  exact (List.map_injective_iff.2 fun _ _ => Value.text.inj).eq_iff

/-- Reports are the same exactly if the histories tell the same news. -/
theorem Reports.eq_iff {history history' : List Problem} {report report' : Value}
    (h : Reports history report) (h' : Reports history' report') :
    report = report' ↔ SameNews history history' := by
  obtain ⟨warnings, horder, hwarnings, rfl⟩ := h
  obtain ⟨warnings', horder', hwarnings', rfl⟩ := h'
  simp only [Value.object.injEq, List.cons.injEq, Prod.mk.injEq, Value.int.injEq, Int.natCast_inj,
    texts_inj, true_and, and_true]
  constructor
  · rintro ⟨hunreadable, hshort, rfl⟩
    exact ⟨hunreadable, hshort, fun text => by rw [← hwarnings, hwarnings']⟩
  · rintro ⟨hunreadable, hshort, hsame⟩
    refine ⟨hunreadable, hshort, horder.eq_of_mem_iff horder' fun text => ?_⟩
    rw [hwarnings, hsame, hwarnings']

/-- After every history the report tells the numbers of unreadable files and of short rows and the
different warnings in order, and another history has the same report exactly if it is this one in
another order or with warnings repeated. -/
theorem value_recordAll (history : List Problem) :
    Reports history (recordAll {} history).value ∧
      ∀ history', (recordAll {} history).value = (recordAll {} history').value ↔
        Retold history history' := by
  have hreports (history : List Problem) : Reports history (recordAll {} history).value :=
    (records_recordAll history).reports
  refine ⟨hreports history, fun history' => ?_⟩
  rw [retold_iff]
  exact (hreports history).eq_iff (hreports history')

end AddonAtlas.Diagnostics
