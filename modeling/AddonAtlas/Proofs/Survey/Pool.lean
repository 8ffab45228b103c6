import AddonAtlas.Proofs.Survey.Agree

/-!
# Surveys with several workers

A pool of workers parses the files of jobs.  Every job takes up to three steps: a worker takes it, the
worker reads the file, and a file that cannot be read is counted in the notes that all workers share.
A schedule says which job takes the next step, so the steps of different jobs may interleave in any way;
the results come back in the order of the jobs.

Every step keeps an invariant (`Pool.Fair.step`): what is finished is what the job yields by itself,
and the shared count is the number of unreadable files among the finished jobs.  Hence the schedule makes no
difference, and a survey comes to the same chart and the same diagnostics as with a single worker
(`runWith_pooled`).
-/

namespace AddonAtlas.Survey

open Addon Files Run Run.Scan

/-- How far a job has come. -/
inductive Progress (α : Type)
  | waiting
  /-- A worker has taken the job. -/
  | taken
  /-- The file could not be read, which is still to be counted. -/
  | unread
  | finished (result : Except Run.Fault α)

namespace Progress

variable {α : Type}

/-- Is a worker at the job? -/
def isRunning : Progress α → Bool
  | .taken | .unread => true
  | _ => false

/-- Is the job finished? -/
def isFinished : Progress α → Bool
  | .finished _ => true
  | _ => false

/-- The most steps that are left. -/
def rank : Progress α → Nat
  | .waiting => 3
  | .taken => 2
  | .unread => 1
  | .finished _ => 0

end Progress

/-- The jobs of a pool in order, and the notes that its workers share. -/
structure Pool (α : Type) where
  jobs : List (Job × Progress α)
  notes : Notes

namespace Pool

variable {α : Type}

/-- What comes of a job when its file is read, and the notes after that. -/
def readFile (disk : Disk) (chars : Nat) (parse : Job → List Char → α) (job : Job)
    (notes : Notes) : Progress α × Notes :=
  match disk.readLossy job.path with
  | .ok text =>
    match readRefusal? disk job.path chars with
    | none => (.finished (.ok (parse job (text.take chars))), notes)
    | some refusal => (.finished (.error (.read refusal)), notes)
  | .error fault =>
    if fault.refusal == .nullByte then (.finished (.error (.system fault)), notes)
    else (.unread, notes.say
      ⟨.debug, "scanner", "Unable to read " ++ job.path.text ++ ": " ++ fault.message⟩)

/-- The pool after the next step of the job at a position. A job is taken only while fewer than
`workers` of them are running. -/
def step (disk : Disk) (chars : Nat) (parse : Job → List Char → α) (workers : Nat)
    (pool : Pool α) (position : Nat) : Pool α :=
  match pool.jobs[position]? with
  | some (job, .waiting) =>
    if pool.jobs.countP (·.2.isRunning) < workers then
      { pool with jobs := pool.jobs.set position (job, .taken) }
    else pool
  | some (job, .taken) =>
    let (progress, notes) := readFile disk chars parse job pool.notes
    ⟨pool.jobs.set position (job, progress), notes⟩
  | some (job, .unread) =>
    ⟨pool.jobs.set position (job, .finished (.ok (parse job []))),
      { pool.notes with diagnostics := pool.notes.diagnostics.addUnreadable }⟩
  | _ => pool

/-- The pool after the steps of a schedule. -/
def run (disk : Disk) (chars : Nat) (parse : Job → List Char → α) (workers : Nat)
    (schedule : List Nat) (pool : Pool α) : Pool α :=
  schedule.foldl (step disk chars parse workers) pool

/-- The pool with everything done that was left to do. -/
def finish (disk : Disk) (chars : Nat) (parse : Job → List Char → α) (pool : Pool α) : Pool α :=
  let round := List.range pool.jobs.length
  pool.run disk chars parse (pool.jobs.length + 1) (round ++ round ++ round)

/-- The result of a job that is finished. -/
def resultOf (entry : Job × Progress α) : Except Run.Fault α :=
  match entry.2 with
  | .finished result => result
  | _ => .error (.read .tooLarge)

end Pool

/-- Parses the files of jobs by a pool of workers that follows a schedule. What the schedule leaves
undone is done at the end. -/
def pooled (workers : Nat) (schedule : List Nat) : JobReader := fun _ chars parse jobs disk notes =>
  let started : Pool _ := ⟨jobs.map fun job => (job, .waiting), notes⟩
  let pool := (started.run disk chars parse workers schedule).finish disk chars parse
  (pool.jobs.mapM Pool.resultOf, pool.notes)

/-! ## What a job yields by itself -/

/-- The result of a job. -/
def verdict {α : Type} (disk : Disk) (chars : Nat) (parse : Job → List Char → α) (job : Job) :
    Except Run.Fault α :=
  match Pool.readFile disk chars parse job {} with
  | (.finished result, _) => result
  | _ => .ok (parse job [])

/-- Is the file of a job one that cannot be read? -/
def isUnreadable (disk : Disk) (job : Job) : Bool :=
  match disk.readLossy job.path with
  | .ok _ => false
  | .error fault => fault.refusal != .nullByte

/-- Diagnostics with more unreadable files. -/
def plus (diagnostics : Diagnostics) (count : Nat) : Diagnostics :=
  { diagnostics with unreadableFiles := diagnostics.unreadableFiles + count }

section Steps

variable {α : Type} {disk : Disk} {chars : Nat} {parse : Job → List Char → α}

/-- The first part of a job either finishes it or leaves only the counting. -/
theorem readFile_cases (disk : Disk) (chars : Nat) (parse : Job → List Char → α) (job : Job)
    (notes : Notes) :
    (isUnreadable disk job = true ∧ verdict disk chars parse job = .ok (parse job []) ∧
      ∃ after, Pool.readFile disk chars parse job notes = (.unread, after) ∧
        after.diagnostics = notes.diagnostics) ∨
    (isUnreadable disk job = false ∧
      Pool.readFile disk chars parse job notes = (.finished (verdict disk chars parse job), notes)) := by
  unfold isUnreadable verdict Pool.readFile
  cases disk.readLossy job.path with
  | ok text =>
    right
    dsimp only
    cases readRefusal? disk job.path chars <;> exact ⟨rfl, rfl⟩
  | error fault =>
    dsimp only
    by_cases hnull : fault.refusal = .nullByte
    · right
      simp [hnull]
    · left
      refine ⟨by simpa using hnull, by simp [hnull], ?_⟩
      rw [if_neg (by simpa using hnull)]
      exact ⟨_, rfl, rfl⟩

/-- A job that runs alone. -/
theorem outcome_parsed (job : Job) (notes : Notes) :
    ∃ after, outcome (parsed chars parse job disk) notes = (verdict disk chars parse job, after) ∧
      after.diagnostics = plus notes.diagnostics (if isUnreadable disk job then 1 else 0) := by
  unfold parsed verdict isUnreadable Pool.readFile
  rw [outcome_scan_bind, outcome_readText]
  cases disk.readLossy job.path with
  | ok text =>
    dsimp only
    cases readRefusal? disk job.path chars <;> exact ⟨notes, rfl, rfl⟩
  | error fault =>
    dsimp only
    by_cases hnull : fault.refusal = .nullByte
    · simp only [hnull, beq_self_eq_true, if_true]
      exact ⟨notes, rfl, rfl⟩
    · rw [if_neg (by simpa using hnull), if_neg (by simpa using hnull)]
      refine ⟨_, rfl, ?_⟩
      rw [if_pos (by simpa using hnull)]
      rfl

/-! ## What every step keeps -/

/-- A job has come to what it yields by itself, as far as it has come. -/
def Fits (disk : Disk) (chars : Nat) (parse : Job → List Char → α) (job : Job) :
    Progress α → Prop
  | .waiting | .taken => True
  | .unread => isUnreadable disk job = true ∧ verdict disk chars parse job = .ok (parse job [])
  | .finished result => result = verdict disk chars parse job

/-- Has the job been counted as one with an unreadable file? -/
def isCounted (disk : Disk) (entry : Job × Progress α) : Bool :=
  isUnreadable disk entry.1 && entry.2.isFinished

/-- A pool for these jobs in which every job has come to what it yields by itself, and the unreadable
files of the finished ones are counted. -/
structure Pool.Fair (disk : Disk) (chars : Nat) (parse : Job → List Char → α) (jobs : List Job)
    (diagnostics : Diagnostics) (pool : Pool α) : Prop where
  jobs_eq : pool.jobs.map (·.1) = jobs
  fits : ∀ entry ∈ pool.jobs, Fits disk chars parse entry.1 entry.2
  count : pool.notes.diagnostics = plus diagnostics (pool.jobs.countP (isCounted disk))

variable {jobs : List Job} {diagnostics : Diagnostics} {pool : Pool α}

/-- One job that is not finished may go on, as long as it is counted when it has to be. -/
theorem Pool.Fair.set (h : Fair disk chars parse jobs diagnostics pool) {position : Nat} {job : Job}
    {old new : Progress α} (hjob : pool.jobs[position]? = some (job, old))
    (hold : old.isFinished = false) (hnew : Fits disk chars parse job new) {notes : Notes}
    (hnotes : notes.diagnostics =
      plus pool.notes.diagnostics (if isCounted disk (job, new) then 1 else 0)) :
    Fair disk chars parse jobs diagnostics ⟨pool.jobs.set position (job, new), notes⟩ := by
  obtain ⟨hlt, hget⟩ := List.getElem?_eq_some_iff.1 hjob
  refine ⟨?_, fun entry hentry => ?_, ?_⟩
  · have hlt' : position < (pool.jobs.map (·.1)).length := by simpa using hlt
    have hsame : (job, new).1 = (pool.jobs.map (·.1))[position] := by simp [hget]
    rw [List.map_set, hsame, List.set_getElem_self, h.jobs_eq]
  · rcases List.mem_or_eq_of_mem_set hentry with hentry | rfl
    · exact h.fits entry hentry
    · exact hnew
  · have hcount : isCounted disk (job, old) = false := by simp [isCounted, hold]
    rw [hnotes, h.count, List.countP_set hlt, hget, hcount]
    simp [plus, Nat.add_assoc]

theorem Pool.Fair.step (h : Fair disk chars parse jobs diagnostics pool) (workers position : Nat) :
    Fair disk chars parse jobs diagnostics (pool.step disk chars parse workers position) := by
  unfold Pool.step
  split
  · next job hjob =>
    split
    · refine h.set hjob rfl ?_ ?_
      · trivial
      · simp [isCounted, Progress.isFinished, plus]
    · exact h
  · next job hjob =>
    rcases readFile_cases disk chars parse job pool.notes with
      ⟨hunreadable, hverdict, after, hread, hafter⟩ | ⟨hreadable, hread⟩
    · rw [hread]
      refine h.set hjob rfl ?_ ?_
      · exact ⟨hunreadable, hverdict⟩
      · simp [isCounted, Progress.isFinished, plus, hafter]
    · rw [hread]
      refine h.set hjob rfl ?_ ?_
      · rfl
      · simp [isCounted, hreadable, plus]
  · next job hjob =>
    obtain ⟨hunreadable, hverdict⟩ := h.fits _ (List.mem_of_getElem? hjob)
    refine h.set hjob rfl ?_ ?_
    · exact hverdict.symm
    · simp_all [isCounted, Progress.isFinished, plus, Diagnostics.addUnreadable]
  · exact h

theorem Pool.Fair.run (h : Fair disk chars parse jobs diagnostics pool) (workers : Nat)
    (schedule : List Nat) :
    Fair disk chars parse jobs diagnostics (pool.run disk chars parse workers schedule) := by
  induction schedule generalizing pool with
  | nil => exact h
  | cons position schedule ih => exact ih (h.step workers position)

/-! ## Every job comes to its end -/

/-- The most steps that the job at a position has left. -/
def Pool.left (pool : Pool α) (position : Nat) : Nat :=
  (pool.jobs[position]?.map (·.2.rank)).getD 0

theorem Pool.left_set {position : Nat} {job : Job} {old new : Progress α}
    (hjob : pool.jobs[position]? = some (job, old)) (notes : Notes) (other : Nat) :
    (Pool.mk (pool.jobs.set position (job, new)) notes).left other =
      if position = other then new.rank else pool.left other := by
  obtain ⟨hlt, -⟩ := List.getElem?_eq_some_iff.1 hjob
  unfold Pool.left
  rw [List.getElem?_set, if_pos hlt]
  split <;> rfl

theorem Pool.length_step (workers position : Nat) :
    (pool.step disk chars parse workers position).jobs.length = pool.jobs.length := by
  unfold Pool.step
  split
  · split <;> simp
  · simp
  · simp
  · rfl

/-- A step takes the job one further, as long as there are workers for all jobs. -/
theorem Pool.left_step (disk : Disk) (chars : Nat) (parse : Job → List Char → α) {workers : Nat}
    (hworkers : pool.jobs.length < workers) (position other : Nat) :
    (pool.step disk chars parse workers position).left other ≤
      pool.left other - if position = other then 1 else 0 := by
  have hfree : pool.jobs.countP (·.2.isRunning) < workers :=
    List.countP_le_length.trans_lt hworkers
  unfold Pool.step
  split
  · next job hjob =>
    rw [if_pos hfree, left_set hjob]
    split
    · next h => subst h; simp [left, hjob, Progress.rank]
    · omega
  · next job hjob =>
    have hrank : (readFile disk chars parse job pool.notes).1.rank ≤ 1 := by
      rcases readFile_cases disk chars parse job pool.notes with ⟨-, -, after, hread, -⟩ | ⟨-, hread⟩ <;>
        simp [hread, Progress.rank]
    rw [left_set hjob]
    split
    · next h => subst h; simpa [left, hjob, Progress.rank] using hrank
    · omega
  · next job hjob =>
    rw [left_set hjob]
    split
    · simp [Progress.rank]
    · omega
  · next hdone =>
    split
    · next h =>
      subst h
      unfold left
      cases hjob : pool.jobs[position]? with
      | none => simp
      | some entry =>
        obtain ⟨job, progress⟩ := entry
        cases progress with
        | waiting | taken | unread => simp_all
        | finished result => simp [Progress.rank]
    · omega

theorem Pool.left_run {workers : Nat} (hworkers : pool.jobs.length < workers)
    (schedule : List Nat) (position : Nat) :
    (pool.run disk chars parse workers schedule).left position ≤
      pool.left position - schedule.count position := by
  induction schedule generalizing pool with
  | nil => simp [Pool.run]
  | cons first schedule ih =>
    have hfirst := left_step disk chars parse hworkers first position
    have hrest : ((pool.step disk chars parse workers first).run disk chars parse workers
        schedule).left position ≤ _ := ih (by rwa [length_step])
    unfold Pool.run at hrest ⊢
    rw [List.foldl_cons, List.count_cons]
    simp only [beq_iff_eq]
    omega

theorem Pool.left_le (pool : Pool α) (position : Nat) : pool.left position ≤ 3 := by
  unfold left
  cases pool.jobs[position]? with
  | none => simp
  | some entry =>
    obtain ⟨job, progress⟩ := entry
    cases progress <;> simp [Progress.rank]

theorem Pool.left_finish (disk : Disk) (chars : Nat) (parse : Job → List Char → α) (pool : Pool α)
    (position : Nat) : (pool.finish disk chars parse).left position = 0 := by
  have hle := pool.left_le position
  have hrun : (pool.finish disk chars parse).left position ≤ pool.left position - _ :=
    left_run (Nat.lt_succ_self pool.jobs.length) _ position
  by_cases hposition : position < pool.jobs.length
  · have hcount : (List.range pool.jobs.length).count position = 1 :=
      List.count_eq_one_of_mem List.nodup_range (List.mem_range.2 hposition)
    rw [List.count_append, List.count_append, hcount] at hrun
    omega
  · have hnone : pool.left position = 0 := by
      simp [left, List.getElem?_eq_none (Nat.le_of_not_lt hposition)]
    omega

theorem mapM_eq_of_forall {ε β γ : Type} {f g : β → Except ε γ} {items : List β}
    (h : ∀ a ∈ items, f a = g a) : items.mapM f = items.mapM g := by
  induction items with
  | nil => rfl
  | cons a items ih =>
    rw [List.mapM_cons, List.mapM_cons, h a List.mem_cons_self,
      ih fun a' ha' => h a' (List.mem_cons_of_mem _ ha')]

/-- A pool in which nothing is left has the results of its jobs. -/
theorem Pool.Fair.results (h : Fair disk chars parse jobs diagnostics pool)
    (hleft : ∀ position, pool.left position = 0) :
    pool.jobs.mapM resultOf = jobs.mapM (verdict disk chars parse) ∧
      pool.notes.diagnostics = plus diagnostics (jobs.countP (isUnreadable disk)) := by
  have hfinished : ∀ entry ∈ pool.jobs, entry.2 = .finished (verdict disk chars parse entry.1) := by
    intro entry hentry
    obtain ⟨position, hlt, rfl⟩ := List.getElem_of_mem hentry
    have hrank := hleft position
    have hfits := h.fits _ hentry
    simp only [left, List.getElem?_eq_getElem hlt, Option.map_some, Option.getD_some] at hrank
    cases hprogress : pool.jobs[position].2 with
    | waiting | taken | unread =>
      rw [hprogress] at hrank
      cases hrank
    | finished result =>
      rw [hprogress] at hfits
      exact congrArg Progress.finished hfits
  constructor
  · rw [← h.jobs_eq, List.mapM_map]
    refine mapM_eq_of_forall fun entry hentry => ?_
    simp [resultOf, hfinished entry hentry]
  · rw [h.count, ← h.jobs_eq, List.countP_map]
    congr 1
    refine List.countP_congr fun entry hentry => ?_
    simp [isCounted, hfinished entry hentry, Progress.isFinished]

/-! ## One worker and several -/

theorem outcome_oneByOne (disk : Disk) (chars : Nat) (parse : Job → List Char → α)
    (jobs : List Job) (notes : Notes) :
    (outcome (oneByOne α chars parse jobs disk) notes).1 = jobs.mapM (verdict disk chars parse) ∧
      ∀ results, jobs.mapM (verdict disk chars parse) = .ok results →
        (outcome (oneByOne α chars parse jobs disk) notes).2.diagnostics =
          plus notes.diagnostics (jobs.countP (isUnreadable disk)) := by
  unfold oneByOne
  induction jobs generalizing notes with
  | nil => exact ⟨rfl, fun _ _ => rfl⟩
  | cons job jobs ih =>
    obtain ⟨middle, hjob, hmiddle⟩ : ∃ middle, outcome (parsed chars parse job disk) notes =
        (verdict disk chars parse job, middle) ∧ _ := outcome_parsed job notes
    rw [List.mapM_cons, List.mapM_cons, outcome_scan_bind, hjob]
    cases hverdict : verdict disk chars parse job with
    | error fault => exact ⟨rfl, fun results hresults => by cases hresults⟩
    | ok a =>
      obtain ⟨hresult, hdiagnostics⟩ := ih middle
      dsimp only
      rw [outcome_scan_bind]
      rcases hrest : outcome (jobs.mapM (parsed chars parse) disk) middle with ⟨fault | rest, after⟩
      · rw [hrest] at hresult
        rw [← hresult]
        exact ⟨rfl, fun results hresults => by cases hresults⟩
      · rw [hrest] at hresult hdiagnostics
        rw [← hresult]
        refine ⟨rfl, fun results _ => ?_⟩
        have hafter := hdiagnostics rest hresult.symm
        change after.diagnostics = _
        rw [hafter, hmiddle, List.countP_cons]
        simp only [plus]
        congr 1
        omega

/-- A pool of workers, whatever its schedule, reads as one worker does. -/
theorem readsAlike_pooled (disk : Disk) (workers : Nat) (schedule : List Nat) :
    ReadsAlike disk disk (pooled workers schedule) oneByOne := by
  intro α chars parse jobs _ notes notes' hnotes
  let started : Pool α := ⟨jobs.map fun job => (job, .waiting), notes⟩
  have hstarted : started.Fair disk chars parse jobs notes.diagnostics := by
    refine ⟨by simp [started, Function.comp_def], fun entry hentry => ?_, ?_⟩
    · obtain ⟨job, -, rfl⟩ := List.mem_map.1 hentry
      trivial
    · simp [started, List.countP_map, Function.comp_def, isCounted, Progress.isFinished, plus]
  have hfair : ((started.run disk chars parse workers schedule).finish disk chars parse).Fair disk
      chars parse jobs notes.diagnostics := (hstarted.run workers schedule).run _ _
  obtain ⟨hresults, hdiagnostics⟩ := hfair.results (Pool.left_finish disk chars parse _)
  obtain ⟨hsingle, hsingle'⟩ := outcome_oneByOne disk chars parse jobs notes'
  refine ⟨hresults.trans hsingle.symm, fun results hok => ?_⟩
  rw [hsingle' results (hresults.symm.trans hok), ← hnotes]
  exact hdiagnostics

/-- Whatever the number of workers and the order in which they take their steps, a built-in survey yields
the chart that it yields with one worker, and the same diagnostics. -/
theorem runWith_pooled (survey : BuiltIn) (context : Context) (workers : Nat)
    (schedule : List Nat) (disk : Disk) (notes : Notes) :
    let several := outcome (runWith (pooled workers schedule) { context with workers }
      (.builtIn survey) disk) notes
    let single := outcome (run { context with workers := 1 } (.builtIn survey) disk) notes
    several.1 = single.1 ∧
      ∀ chart, single.1 = .ok chart → several.2.diagnostics = single.2.diagnostics := by
  have hagree : Agree disk disk (runWith (pooled workers schedule) { context with workers }
      (.builtIn survey)) (run { context with workers := 1 } (.builtIn survey)) :=
    agree_runWith (readsAlike_pooled disk workers schedule)
      (fun module _ => SameFiles.refl disk module.folder) survey
  obtain ⟨hresult, hdiagnostics⟩ := hagree notes notes rfl
  exact ⟨hresult, fun chart hchart => hdiagnostics chart (hresult.trans hchart)⟩

end Steps

end AddonAtlas.Survey
