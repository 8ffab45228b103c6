import AddonAtlas.Proofs.Run.Step

/-!
# Reasoning about scans

`Scan.Meets` says what a scan of a disk may yield and how it may fail; `Scan.Agree` says that two scans,
each of its own disk, come to the same result and, unless they fail, to the same diagnostics.  There is
one rule for every step that scans are made of.
-/

namespace AddonAtlas.Run.Scan

open Files

variable {α β ε : Type} {disk disk' : Disk}

theorem outcome_scan_bind (x : Scan α) (f : α → Scan β) (disk : Disk) (notes : Notes) :
    outcome ((x >>= f) disk) notes = match outcome (x disk) notes with
      | (.ok a, notes') => outcome (f a disk) notes'
      | (.error fault, notes') => (.error fault, notes') := by
  change outcome (x disk >>= fun a => f a disk) notes = _
  rw [outcome_bind]
  rcases outcome (x disk) notes with ⟨_ | _, _⟩ <;> rfl

theorem outcome_scan_bind_eq_ok_iff {x : Scan α} {f : α → Scan β} {notes after : Notes} {b : β} :
    outcome ((x >>= f) disk) notes = (.ok b, after) ↔ ∃ a middle,
      outcome (x disk) notes = (.ok a, middle) ∧ outcome (f a disk) middle = (.ok b, after) := by
  rw [outcome_scan_bind]
  rcases outcome (x disk) notes with ⟨_ | a, middle⟩ <;> simp

theorem outcome_read_eq_ok_iff {notes after : Notes} {found : Disk} :
    outcome ((read : Scan Disk) disk) notes = (.ok found, after) ↔ disk = found ∧ notes = after := by
  change (Except.ok disk, notes) = (Except.ok found, after) ↔ _
  simp

theorem outcome_lift_eq_ok_iff {fault : ε → Fault} {result : Except ε α} {notes after : Notes} {a : α} :
    outcome (Scan.lift fault result disk) notes = (.ok a, after) ↔
      result = .ok a ∧ notes = after := by
  cases result with
  | error e =>
    change (Except.error (fault e), notes) = (Except.ok a, after) ↔ _
    simp
  | ok b =>
    change (Except.ok b, notes) = (Except.ok a, after) ↔ _
    simp

theorem outcome_scan_staged (elapsed stage : String) (act : Scan α) (disk : Disk) (notes : Notes) :
    outcome ((staged Scan.say elapsed stage act : Scan α) disk) notes =
      let started := notes.say ⟨.debug, "orchestrator", "Stage " ++ stage ++ " started"⟩
      ((outcome (act disk) started).1, (outcome (act disk) started).2.say
        ⟨.debug, "orchestrator", "Stage " ++ stage ++ " finished in " ++ elapsed ++ "s"⟩) := by
  have hsay (level : Log.Level) (stage text : String) (notes : Notes) :
      outcome (Scan.say level stage text disk) notes =
        (.ok (), notes.say ⟨level, stage, text⟩) := rfl
  exact outcome_staged hsay elapsed stage (act disk) notes

/-! ## What a scan may yield -/

/-- A scan of the disk yields only what has `P`, and fails only with faults that have `E`. -/
def Meets (disk : Disk) (scan : Scan α) (P : α → Prop) (E : Fault → Prop) : Prop :=
  ∀ notes, match (outcome (scan disk) notes).1 with
    | .ok a => P a
    | .error fault => E fault

section Meets

variable {x : Scan α} {f : α → Scan β} {P : α → Prop} {Q : β → Prop} {E : Fault → Prop}

theorem Meets.ok (h : Meets disk x P E) {notes notes' : Notes} {a : α}
    (hx : outcome (x disk) notes = (.ok a, notes')) : P a := by
  have hP := h notes
  rw [hx] at hP
  exact hP

/-- A scan that fails with no fault succeeds. -/
theorem Meets.exists_ok (h : Meets disk x P fun _ => False) (notes : Notes) :
    ∃ a notes', outcome (x disk) notes = (.ok a, notes') ∧ P a := by
  have hP := h notes
  rcases hx : outcome (x disk) notes with ⟨fault | a, notes'⟩
  · rw [hx] at hP
    exact hP.elim
  · rw [hx] at hP
    exact ⟨a, notes', rfl, hP⟩

theorem meets_pure {a : α} (h : P a) : Meets disk (pure a) P E := fun _ => h

theorem meets_throw {fault : Fault} (h : E fault) : Meets disk (throw fault) P E := fun _ => h

theorem Meets.bind (hx : Meets disk x P E) (hf : ∀ a, P a → Meets disk (f a) Q E) :
    Meets disk (x >>= f) Q E := by
  intro notes
  have hP := hx notes
  rw [outcome_scan_bind]
  rcases hout : outcome (x disk) notes with ⟨fault | a, notes'⟩
  · rw [hout] at hP
    exact hP
  · rw [hout] at hP
    exact hf a hP notes'

theorem meets_throw_bind {fault : Fault} (h : E fault) : Meets disk (throw fault >>= f) Q E :=
  (meets_throw (P := fun _ => False) h).bind fun _ hfalse => hfalse.elim

theorem Meets.imp (hx : Meets disk x P E) {P' : α → Prop} (h : ∀ a, P a → P' a) :
    Meets disk x P' E := by
  intro notes
  have hP := hx notes
  cases hout : (outcome (x disk) notes).1 with
  | ok a =>
    rw [hout] at hP
    exact h a hP
  | error fault =>
    rw [hout] at hP
    exact hP

theorem meets_true (x : Scan α) : Meets disk x (fun _ => True) fun _ => True := by
  intro notes
  split <;> trivial

theorem meets_read : Meets disk (read : Scan Disk) (· = disk) E := fun _ => rfl

theorem meets_say {level : Log.Level} {stage text : String} :
    Meets disk (Scan.say level stage text) (fun _ => True) E := fun _ => trivial

theorem meets_diagnose {change : Diagnostics → Diagnostics} :
    Meets disk (Scan.diagnose change) (fun _ => True) E := fun _ => trivial

theorem meets_lift {fault : ε → Fault} {result : Except ε α}
    (hok : ∀ a, result = .ok a → P a) (herror : ∀ e, result = .error e → E (fault e)) :
    Meets disk (Scan.lift fault result) P E := by
  cases result with
  | ok a => exact meets_pure (hok a rfl)
  | error e => exact meets_throw (herror e rfl)

theorem meets_mapM {g : α → Scan β} {R : α → β → Prop} {items : List α}
    (h : ∀ a ∈ items, Meets disk (g a) (R a) E) :
    Meets disk (items.mapM g) (List.Forall₂ R items) E := by
  induction items with
  | nil =>
    rw [List.mapM_nil]
    exact meets_pure .nil
  | cons a items ih =>
    rw [List.mapM_cons]
    refine (h a List.mem_cons_self).bind fun b hb => ?_
    refine (ih fun a' ha' => h a' (List.mem_cons_of_mem _ ha')).bind fun bs hbs => ?_
    exact meets_pure (.cons hb hbs)

theorem meets_forM {g : α → Scan PUnit} {items : List α}
    (h : ∀ a ∈ items, Meets disk (g a) (fun _ => True) E) :
    Meets disk (items.forM g) (fun _ => True) E := by
  induction items with
  | nil => exact meets_pure trivial
  | cons a items ih =>
    exact (h a List.mem_cons_self).bind fun _ _ =>
      ih fun a' ha' => h a' (List.mem_cons_of_mem _ ha')

theorem exists_of_forall₂ {R : α → β → Prop} {items : List α} {results : List β}
    (h : List.Forall₂ R items results) {b : β} (hb : b ∈ results) : ∃ a ∈ items, R a b := by
  induction h with
  | nil => cases hb
  | cons hfirst _ ih =>
    rcases List.mem_cons.1 hb with rfl | hb
    · exact ⟨_, List.mem_cons_self, hfirst⟩
    · obtain ⟨a, ha, hab⟩ := ih hb
      exact ⟨a, List.mem_cons_of_mem _ ha, hab⟩

theorem Meets.staged {elapsed stage : String} (hx : Meets disk x P E) :
    Meets disk (staged Scan.say elapsed stage x) P E := by
  intro notes
  rw [outcome_scan_staged]
  exact hx _

end Meets

/-! ## Scans that agree -/

/-- Two scans, each of its own disk, come to the same result, and to the same diagnostics unless they
fail. -/
def Agree (disk disk' : Disk) (x y : Scan α) : Prop :=
  ∀ notes notes', notes.diagnostics = notes'.diagnostics →
    (outcome (x disk) notes).1 = (outcome (y disk') notes').1 ∧
      ∀ a, (outcome (x disk) notes).1 = .ok a →
        (outcome (x disk) notes).2.diagnostics = (outcome (y disk') notes').2.diagnostics

section Agree

variable {x y : Scan α} {f g : α → Scan β}

theorem Agree.ok (h : Agree disk disk' x y) {notes notes' after : Notes} {a : α}
    (hnotes : notes.diagnostics = notes'.diagnostics)
    (hx : outcome (x disk) notes = (.ok a, after)) :
    ∃ after', outcome (y disk') notes' = (.ok a, after') ∧
      after.diagnostics = after'.diagnostics := by
  obtain ⟨hresult, hdiagnostics⟩ := h notes notes' hnotes
  rw [hx] at hresult hdiagnostics
  refine ⟨(outcome (y disk') notes').2, ?_, hdiagnostics a rfl⟩
  exact Prod.ext hresult.symm rfl

theorem agree_pure (a : α) : Agree disk disk' (pure a) (pure a) :=
  fun _ _ hnotes => ⟨rfl, fun _ _ => hnotes⟩

theorem agree_throw (fault : Fault) : Agree disk disk' (throw fault : Scan α) (throw fault) :=
  fun _ _ hnotes => ⟨rfl, fun _ _ => hnotes⟩

/-- Where two scans agree, what follows them need only agree on what the first one may yield. -/
theorem Agree.bind_meets (hx : Agree disk disk' x y) {P : α → Prop} {E : Fault → Prop}
    (hP : Meets disk x P E) (hf : ∀ a, P a → Agree disk disk' (f a) (g a)) :
    Agree disk disk' (x >>= f) (y >>= g) := by
  intro notes notes' hnotes
  obtain ⟨hresult, hdiagnostics⟩ := hx notes notes' hnotes
  rw [outcome_scan_bind, outcome_scan_bind]
  rcases hout : outcome (x disk) notes with ⟨fault | a, after⟩
  · rcases hout' : outcome (y disk') notes' with ⟨fault' | a', after'⟩
    · simp_all
    · simp_all
  · rw [hout] at hresult hdiagnostics
    rcases hout' : outcome (y disk') notes' with ⟨fault' | a', after'⟩
    · simp_all
    · rw [hout'] at hresult hdiagnostics
      obtain rfl : a = a' := by simpa using hresult
      exact hf a (hP.ok hout) after after' (hdiagnostics a rfl)

theorem Agree.bind (hx : Agree disk disk' x y) (hf : ∀ a, Agree disk disk' (f a) (g a)) :
    Agree disk disk' (x >>= f) (y >>= g) :=
  hx.bind_meets (meets_true x) fun a _ => hf a

theorem agree_read_bind {f g : Disk → Scan β} (h : Agree disk disk' (f disk) (g disk')) :
    Agree disk disk' (read >>= f) (read >>= g) := h

theorem agree_say {level level' : Log.Level} {stage stage' text text' : String} :
    Agree disk disk' (Scan.say level stage text) (Scan.say level' stage' text') :=
  fun _ _ hnotes => ⟨rfl, fun _ _ => hnotes⟩

theorem agree_diagnose (change : Diagnostics → Diagnostics) :
    Agree disk disk' (Scan.diagnose change) (Scan.diagnose change) :=
  fun _ _ hnotes => ⟨rfl, fun _ _ => congrArg change hnotes⟩

theorem agree_lift {fault : ε → Fault} (result : Except ε α) :
    Agree disk disk' (Scan.lift fault result) (Scan.lift fault result) := by
  cases result with
  | ok a => exact agree_pure a
  | error e => exact agree_throw (fault e)

theorem agree_get_bind {f g : Notes → Scan β}
    (h : ∀ notes notes', notes.diagnostics = notes'.diagnostics →
      Agree disk disk' (f notes) (g notes')) :
    Agree disk disk' (get >>= f) (get >>= g) :=
  fun notes notes' hnotes => h notes notes' hnotes notes notes' hnotes

theorem agree_mapM {f g : α → Scan β} {items : List α}
    (h : ∀ a ∈ items, Agree disk disk' (f a) (g a)) :
    Agree disk disk' (items.mapM f) (items.mapM g) := by
  induction items with
  | nil => exact agree_pure []
  | cons a items ih =>
    rw [List.mapM_cons, List.mapM_cons]
    refine (h a List.mem_cons_self).bind fun b => ?_
    refine (ih fun a' ha' => h a' (List.mem_cons_of_mem _ ha')).bind fun bs => ?_
    exact agree_pure (b :: bs)

theorem agree_forM {f g : α → Scan PUnit} {items : List α}
    (h : ∀ a ∈ items, Agree disk disk' (f a) (g a)) :
    Agree disk disk' (items.forM f) (items.forM g) := by
  induction items with
  | nil => exact agree_pure PUnit.unit
  | cons a items ih =>
    exact (h a List.mem_cons_self).bind fun _ =>
      ih fun a' ha' => h a' (List.mem_cons_of_mem _ ha')

theorem Agree.staged {elapsed elapsed' stage : String} (hx : Agree disk disk' x y) :
    Agree disk disk' (staged Scan.say elapsed stage x) (staged Scan.say elapsed' stage y) := by
  intro notes notes' hnotes
  rw [outcome_scan_staged, outcome_scan_staged]
  exact hx _ _ hnotes

end Agree

/-! ## Scans that cannot fail -/

/-- A scan of the disk yields this, whatever was noted before, and leaves the diagnostics alone. -/
def Yields (disk : Disk) (x : Scan α) (a : α) : Prop :=
  ∀ notes, ∃ after, outcome (x disk) notes = (.ok a, after) ∧ after.diagnostics = notes.diagnostics

section Yields

variable {x : Scan α} {a : α}

theorem Yields.meets (h : Yields disk x a) {E : Fault → Prop} : Meets disk x (· = a) E := by
  intro notes
  obtain ⟨after, hx, -⟩ := h notes
  rw [hx]

theorem Yields.agree (hx : Yields disk x a) {y : Scan α} (hy : Yields disk' y a) :
    Agree disk disk' x y := by
  intro notes notes' hnotes
  obtain ⟨after, hx, hafter⟩ := hx notes
  obtain ⟨after', hy, hafter'⟩ := hy notes'
  rw [hx, hy]
  exact ⟨rfl, fun _ _ => by rw [hafter, hafter', hnotes]⟩

theorem yields_pure (a : α) : Yields disk (pure a) a := fun notes => ⟨notes, rfl, rfl⟩

theorem yields_read : Yields disk (read : Scan Disk) disk := fun notes => ⟨notes, rfl, rfl⟩

theorem yields_say {level : Log.Level} {stage text : String} :
    Yields disk (Scan.say level stage text) () := fun _ => ⟨_, rfl, rfl⟩

theorem yields_lift {fault : ε → Fault} {result : Except ε α}
    (h : result = .ok a) : Yields disk (Scan.lift fault result) a := by
  rw [h]
  exact yields_pure a

theorem Yields.bind (hx : Yields disk x a) {f : α → Scan β} {b : β} (hf : Yields disk (f a) b) :
    Yields disk (x >>= f) b := by
  intro notes
  obtain ⟨middle, hx, hmiddle⟩ := hx notes
  obtain ⟨after, hf, hafter⟩ := hf middle
  refine ⟨after, ?_, hafter.trans hmiddle⟩
  rw [outcome_scan_bind, hx]
  exact hf

theorem yields_mapM {g : α → Scan β} {f : α → β} {items : List α}
    (h : ∀ a ∈ items, Yields disk (g a) (f a)) : Yields disk (items.mapM g) (items.map f) := by
  induction items with
  | nil =>
    rw [List.mapM_nil]
    exact yields_pure []
  | cons a items ih =>
    rw [List.mapM_cons]
    refine (h a List.mem_cons_self).bind ?_
    refine (ih fun a' ha' => h a' (List.mem_cons_of_mem _ ha')).bind ?_
    exact yields_pure (f a :: items.map f)

end Yields

/-! ## Reading and listing files -/

section Files

variable {E : Fault → Prop} {path : Path}

theorem readRefusal?_eq_none_iff {limit : Nat} :
    readRefusal? disk path limit = none ↔ limit < readLimit ∧ disk.grants path limit := by
  unfold readRefusal?
  split
  · next hlarge => simp [Nat.not_lt.2 hlarge]
  · next hsmall => cases disk.grants path limit <;> simp [Nat.lt_of_not_le hsmall]

theorem readRefusal?_eq_some_iff {limit : Nat} {refusal : ReadRefusal} :
    readRefusal? disk path limit = some refusal ↔ ¬ (limit < readLimit ∧ disk.grants path limit) ∧
      refusal = if readLimit ≤ limit then .tooLarge else .noMemory := by
  unfold readRefusal?
  split
  · next hlarge =>
    rw [and_iff_right fun h => absurd h.1 (Nat.not_lt.2 hlarge), Option.some.injEq]
    exact eq_comm
  · next hsmall =>
    cases disk.grants path limit with
    | true => simp [Nat.lt_of_not_le hsmall]
    | false =>
      simp only [Bool.false_eq_true, if_false, and_false, not_false_eq_true, true_and,
        Option.some.injEq]
      exact eq_comm

theorem outcome_readText (path : Path) (limit : Nat) (notes : Notes) :
    outcome (readText path limit disk) notes = match disk.readLossy path with
      | .ok text =>
        match readRefusal? disk path limit with
        | none => (.ok (text.take limit), notes)
        | some refusal => (.error (.read refusal), notes)
      | .error fault =>
        if fault.refusal == .nullByte then (.error (.system fault), notes)
        else
          let told := notes.say
            ⟨.debug, "scanner", "Unable to read " ++ path.text ++ ": " ++ fault.message⟩
          (.ok [], { told with diagnostics := told.diagnostics.addUnreadable }) := by
  unfold readText
  rw [outcome_scan_bind]
  change outcome (_ : ExceptT Fault (StateM Notes) (List Char)) notes = _
  cases disk.readLossy path with
  | ok text =>
    dsimp only
    cases readRefusal? disk path limit <;> rfl
  | error fault =>
    dsimp only
    split <;> rfl

theorem meets_readText {limit : Nat}
    (hlimit : readRefusal? disk path limit = none ∨ ∀ refusal, E (.read refusal))
    (hpath : path.isClean ∨ ∀ fault, E (.system fault)) :
    Meets disk (readText path limit) (fun text => text.length ≤ limit) E := by
  intro notes
  rw [outcome_readText]
  cases hread : disk.readLossy path with
  | ok text =>
    cases hrefusal : readRefusal? disk path limit with
    | none => exact List.length_take_le _ _
    | some refusal => exact hlimit.resolve_left (by simp [hrefusal]) refusal
  | error fault =>
    by_cases hnull : fault.refusal = .nullByte
    · simp only [hnull, beq_self_eq_true, if_true]
      exact hpath.resolve_left (fun hclean => Disk.refusal_of_readLossy hclean hread hnull) fault
    · simp only [if_neg (show ¬ (fault.refusal == .nullByte) = true by simpa using hnull)]
      exact Nat.zero_le _

theorem yields_listFiles {skips : String → Bool} {wanted : Path → Bool} {limit : Int} :
    Yields disk (listFiles skips wanted limit path) (disk.listFiles skips wanted limit path) := by
  refine yields_read.bind ?_
  dsimp only
  split
  · exact yields_say.bind (yields_pure _)
  · exact yields_pure _

/-- Two disks hold the same text at a path, and there is as much memory for it. -/
structure SameText (disk disk' : Disk) (path : Path) : Prop where
  text : disk.readLossy path = disk'.readLossy path
  grants : disk.grants path = disk'.grants path

theorem SameText.readRefusal? (h : SameText disk disk' path) (limit : Nat) :
    readRefusal? disk path limit = readRefusal? disk' path limit := by
  rw [Scan.readRefusal?, Scan.readRefusal?, h.grants]

theorem agree_readText (h : SameText disk disk' path) (limit : Nat) :
    Agree disk disk' (readText path limit) (readText path limit) := by
  intro notes notes' hnotes
  rw [outcome_readText, outcome_readText, h.text, h.readRefusal?]
  cases disk'.readLossy path with
  | ok text =>
    dsimp only
    split
    · exact ⟨rfl, fun _ _ => hnotes⟩
    · exact ⟨rfl, fun _ _ => hnotes⟩
  | error fault =>
    dsimp only
    split
    · exact ⟨rfl, fun _ _ => hnotes⟩
    · exact ⟨rfl, fun _ _ => congrArg Diagnostics.addUnreadable hnotes⟩

end Files

end AddonAtlas.Run.Scan
