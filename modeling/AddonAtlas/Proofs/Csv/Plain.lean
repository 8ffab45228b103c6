import AddonAtlas.Proofs.Csv.Row

/-!
# Lines without quotes

A line without double quotes and line ends is read as its pieces between commas, however long they
are (`cells_eq_splitOn`).  The reader takes such a line if no piece is longer than a cell may be,
and refuses it otherwise (`Reader.read_piecesFrom`); the cut at every comma that then stands in for
it gives the same pieces (`splitCommasFrom_eq`).
-/

namespace AddonAtlas.Csv

/-- The pieces of a text between commas, where the first one goes on from what has been taken. -/
def piecesFrom (taken text : List Char) : List (List Char) :=
  (text.splitOn ',').modifyHead (taken.reverse ++ ·)

section Pieces

variable (taken text : List Char)

theorem piecesFrom_of_nil : piecesFrom [] text = text.splitOn ',' := by
  cases hsplit : text.splitOn ',' <;> simp [piecesFrom, hsplit]

theorem piecesFrom_nil : piecesFrom taken [] = [taken.reverse] := by
  simp [piecesFrom]

theorem piecesFrom_comma :
    piecesFrom taken (',' :: text) = taken.reverse :: piecesFrom [] text := by
  rw [piecesFrom_of_nil]
  simp [piecesFrom, List.splitOn, List.splitOnP_cons_eq_if_modifyHead]

theorem piecesFrom_cons {c : Char} (hc : c ≠ ',') :
    piecesFrom taken (c :: text) = piecesFrom (c :: taken) text := by
  simp [piecesFrom, List.splitOn, List.splitOnP_cons_eq_if_modifyHead, hc,
    List.modifyHead_modifyHead, Function.comp_def]

/-- What has been taken stays in the first piece. -/
theorem exists_mem_piecesFrom : ∃ piece ∈ piecesFrom taken text, taken.length ≤ piece.length := by
  obtain ⟨first, rest, hsplit⟩ := List.exists_cons_of_ne_nil (List.splitOn_ne_nil ',' text)
  refine ⟨taken.reverse ++ first, ?_, by simp⟩
  simp [piecesFrom, hsplit]

end Pieces

theorem splitCommasFrom_eq (taken : List Char) (done : List (List Char)) (text : List Char) :
    splitCommasFrom taken done text = done.reverse ++ piecesFrom taken text := by
  induction text generalizing taken done with
  | nil => simp [splitCommasFrom, piecesFrom_nil]
  | cons c text ih =>
    by_cases hc : c = ','
    · subst hc
      simp [splitCommasFrom, ih, piecesFrom_comma]
    · simp [splitCommasFrom, ih, piecesFrom_cons _ _ hc, hc]

theorem splitCommas_eq_splitOn (text : List Char) : splitCommas text = text.splitOn ',' := by
  rw [splitCommas, splitCommasFrom_eq, piecesFrom_of_nil]
  rfl

namespace Reader

/-- The reader is inside of a bare cell, or at the start of a cell. -/
def InBare (place : Place) (taken : List Char) : Prop :=
  place = .bare ∨ place = .cellStart ∧ taken = []

theorem InBare.ne {place other : Place} {taken : List Char} (h : InBare place taken)
    (hbare : other ≠ .bare) (hstart : other ≠ .cellStart) : place ≠ other := by
  rcases h with rfl | ⟨rfl, -⟩
  · exact hbare.symm
  · exact hstart.symm

theorem step_plain {place : Place} {taken : List Char} (hplace : InBare place taken) {c : Char}
    (hc : c ≠ '"' ∧ c ≠ '\n' ∧ c ≠ '\r') (hcomma : c ≠ ',') (size : Nat) (done : List (List Char)) :
    step ⟨place, taken, size, done⟩ c =
      if size < cellLimit then some ⟨.bare, c :: taken, size + 1, done⟩ else none := by
  obtain ⟨hquote, hfeed, hreturn⟩ := hc
  rcases hplace with rfl | ⟨rfl, rfl⟩ <;>
    simp [step, stepCellStart, add, hquote, hfeed, hreturn, hcomma]

/-- The reader takes a text without quotes and line ends just if no piece of it is too long. -/
theorem read_piecesFrom {place : Place} {taken : List Char} (hplace : InBare place taken)
    (htaken : taken.length ≤ cellLimit) (done : List (List Char)) {text : List Char}
    (htext : ∀ c ∈ text, c ≠ '"' ∧ c ≠ '\n' ∧ c ≠ '\r') :
    read ⟨place, taken, taken.length, done⟩ text =
      if ∀ piece ∈ piecesFrom taken text, piece.length ≤ cellLimit then
        some (done.reverse ++ piecesFrom taken text)
      else none := by
  induction text generalizing place taken done with
  | nil =>
    rw [read, finish_eq (hplace.ne (by decide) (by decide)) (hplace.ne (by decide) (by decide))]
    simp [piecesFrom_nil, htaken]
  | cons c text ih =>
    obtain ⟨hc, hrest⟩ := List.forall_mem_cons.1 htext
    by_cases hcomma : c = ','
    · subst hcomma
      have hstep := step_comma (hplace.ne (by decide) (by decide))
        (hplace.ne (by decide) (by decide)) taken taken.length done
      have hread := ih (.inr ⟨rfl, rfl⟩) (Nat.zero_le _) (taken.reverse :: done) hrest
      rw [read_cons hstep]
      simpa [piecesFrom_comma, htaken] using hread
    · have hstep := step_plain hplace hc hcomma taken.length done
      rw [piecesFrom_cons _ _ hcomma]
      by_cases hroom : taken.length < cellLimit
      · have htaken' : (c :: taken).length ≤ cellLimit := hroom
        rw [if_pos hroom] at hstep
        rw [read_cons hstep]
        exact ih (.inl rfl) htaken' done hrest
      · -- the cell is full, so the piece that it belongs to is too long
        obtain ⟨piece, hpiece, hlong⟩ := exists_mem_piecesFrom (c :: taken) text
        rw [List.length_cons] at hlong
        rw [if_neg hroom] at hstep
        rw [read, hstep, if_neg fun hall => by have := hall piece hpiece; omega]

/-- At the start of a row a character that ends no line is read as behind a comma. -/
theorem read_rowStart {line : List Char} (hne : line ≠ [])
    (hline : ∀ c ∈ line, c ≠ '"' ∧ c ≠ '\n' ∧ c ≠ '\r') :
    read {} line = read ⟨.cellStart, [], 0, []⟩ line := by
  cases line with
  | nil => exact absurd rfl hne
  | cons c line =>
    obtain ⟨-, hfeed, hreturn⟩ := hline c List.mem_cons_self
    have hstep : step {} c = step ⟨.cellStart, [], 0, []⟩ c := by
      simp [step, stepCellStart, hfeed, hreturn, save, add]
    rw [read, read, hstep]

end Reader

/-- The cells of a line without quotes and line ends are its pieces between commas, whether or not
one of them is longer than a cell may be, which is what the reader refuses. -/
theorem cells_eq_splitOn {line : List Char} (hne : line ≠ [])
    (hline : ∀ c ∈ line, c ≠ '"' ∧ c ≠ '\n' ∧ c ≠ '\r') :
    cells line = line.splitOn ',' ∧
      Reader.read {} line =
        if ∀ cell ∈ line.splitOn ',', cell.length ≤ cellLimit then some (line.splitOn ',')
        else none := by
  have hread := Reader.read_piecesFrom (.inr ⟨rfl, rfl⟩) (Nat.zero_le _) [] hline
  rw [piecesFrom_of_nil, List.length_nil, ← Reader.read_rowStart hne hline, List.reverse_nil,
    List.nil_append] at hread
  refine ⟨?_, hread⟩
  rw [cells, hread, splitCommas_eq_splitOn]
  split_ifs <;> rfl

/-- A cell that is one character too long. -/
def longCell : List Char :=
  List.replicate (cellLimit + 1) 'x'

theorem eq_of_mem_longCell {c : Char} (h : c ∈ longCell) : c = 'x' :=
  (List.mem_replicate.1 h).2

/-- Empty cells at both ends and side by side, in a line that is read and in one that is refused. -/
theorem cells_eq_splitOn_sample :
    (cells ",a,, b,".toList = [[], ['a'], [], [' ', 'b'], []] ∧
        (Reader.read {} ",a,, b,".toList).isSome) ∧
      cells (longCell ++ ",,y,".toList) = [longCell, [], ['y'], []] ∧
        Reader.read {} (longCell ++ ",,y,".toList) = none := by
  have hcomma : ∀ piece ∈ [longCell, [], ['y'], []], ',' ∉ piece := by
    have hlong : ',' ∉ longCell := fun h => absurd (eq_of_mem_longCell h) (by decide)
    simp [hlong]
  have hsplit : (longCell ++ ",,y,".toList).splitOn ',' = [longCell, [], ['y'], []] := by
    simpa [List.intercalate_cons_cons] using List.splitOn_intercalate ',' hcomma (by simp)
  have hshort : ∀ c ∈ ",a,, b,".toList, c ≠ '"' ∧ c ≠ '\n' ∧ c ≠ '\r' := by simp
  obtain ⟨hcells, hread⟩ := cells_eq_splitOn (by simp) hshort
  have hplain : ∀ c ∈ longCell ++ ",,y,".toList, c ≠ '"' ∧ c ≠ '\n' ∧ c ≠ '\r' := by
    intro c hc
    rcases List.mem_append.1 hc with hc | hc
    · rw [eq_of_mem_longCell hc]
      decide
    · have htail : ∀ d ∈ ",,y,".toList, d ≠ '"' ∧ d ≠ '\n' ∧ d ≠ '\r' := by simp
      exact htail c hc
  obtain ⟨hlong, hrefused⟩ := cells_eq_splitOn (by simp) hplain
  have hover : ¬ longCell.length ≤ cellLimit := by simp [longCell]
  rw [hsplit] at hlong hrefused
  refine ⟨⟨hcells, ?_⟩, hlong, ?_⟩
  · rw [hread, if_pos (by decide)]
    rfl
  · rw [hrefused, if_neg fun hall => hover (hall longCell (by simp))]

end AddonAtlas.Csv
