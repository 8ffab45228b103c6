import AddonAtlas.Proofs.Model.Class
import AddonAtlas.Proofs.Text.Join

/-!
# Class headers

A `HeaderText` is a class header as it stands in a text: its word, its name and its bases, with
blanks between them.  Texts that start with one are just those that are recognised
(`header?_eq_some_iff`), so that a header depends only on the characters from its word to its colon
(`local_header?`).
-/

namespace AddonAtlas.Model

open Text Source

/-- A class header as it stands in a text. -/
structure HeaderText where
  wordGap : Blanks
  wordGap_ne_nil : wordGap.text ≠ []
  name : List Char
  name_ne_nil : name ≠ []
  isPart_name : ∀ c ∈ name, isClassNamePart c = true
  nameGap : Blanks
  bases : List Char
  notMem_bases : ')' ∉ bases
  baseGap : Blanks

theorem isBlank_of_isPart {c : Char} (h : isClassNamePart c = true) : isBlank c = false := by
  rw [Bool.eq_false_iff]
  intro hblank
  rw [isClassNamePart, isAlphanum_eq_false_of_isBlank hblank] at h
  exact Bool.noConfusion h

/-- A text whose parts are those of a header is one. -/
theorem header?_of_spans {before : Option Char}
    {text r₁ r₂ r₃ r₄ r₅ rest gap₁ name gap₂ bases gap₃ : List Char}
    (hword : after? classWord text = some r₁) (h₁ : r₁.span isBlank = (gap₁, r₂))
    (h₂ : r₂.span isClassNamePart = (name, r₃)) (h₃ : r₃.span isBlank = (gap₂, '(' :: r₄))
    (h₄ : r₄.span (· != ')') = (bases, ')' :: r₅)) (h₅ : r₅.span isBlank = (gap₃, ':' :: rest))
    (hgap : gap₁ ≠ []) (hname : name ≠ []) :
    header? before text = some (⟨.ofList name, bases⟩,
      5 + gap₁.length + name.length + gap₂.length + 1 + bases.length + 1 + gap₃.length + 1) := by
  have hsign (c : Char) (r : List Char) : after? [c] (c :: r) = some r := after?_append [c] r
  have hguard : (!gap₁.isEmpty && !name.isEmpty) = true := by simp [hgap, hname]
  simp only [header?, toList_classWord, hword, h₁, h₂, h₃, h₄, h₅, hsign, hguard,
    Option.bind_eq_bind, Option.bind_some, guard_true, Option.pure_def]

namespace HeaderText

/-- The text of a header, with `rest` behind it. -/
def render (h : HeaderText) (rest : List Char) : List Char :=
  classWord ++ (h.wordGap.text ++ (h.name ++ (h.nameGap.text ++
    '(' :: (h.bases ++ ')' :: (h.baseGap.text ++ ':' :: rest)))))

/-- What a header tells. -/
def value (h : HeaderText) : Header :=
  ⟨.ofList h.name, h.bases⟩

/-- How many characters a header has. -/
def size (h : HeaderText) : Nat :=
  5 + h.wordGap.text.length + h.name.length + h.nameGap.text.length + 1 + h.bases.length + 1 +
    h.baseGap.text.length + 1

theorem render_append (h : HeaderText) (rest more : List Char) :
    h.render rest ++ more = h.render (rest ++ more) := by
  simp [render]

theorem length_render (h : HeaderText) (rest : List Char) :
    (h.render rest).length = h.size + rest.length := by
  simp only [render, size, classWord, List.length_append, List.length_cons, List.length_nil]
  omega

/-- A text that goes on has the same header, as long as the header is complete. -/
theorem exists_eq_render (h : HeaderText) {text more rest : List Char}
    (heq : text ++ more = h.render rest) (hsize : h.size ≤ text.length) :
    ∃ rest', text = h.render rest' := by
  have hrender : h.render rest = h.render [] ++ rest := by rw [render_append, List.nil_append]
  have hlength : (h.render []).length ≤ text.length := by rwa [length_render]
  rw [hrender] at heq
  obtain ⟨rest', hrest'⟩ := List.prefix_of_prefix_length_le ⟨rest, heq.symm⟩
    (List.prefix_append text more) hlength
  exact ⟨rest', by rw [← hrest', render_append, List.nil_append]⟩

theorem header?_render (h : HeaderText) (before : Option Char) (rest : List Char) :
    header? before (h.render rest) = some (h.value, h.size) := by
  have hclose : ∀ d ∈ h.bases, (d != ')') = true := by
    intro d hd
    rw [bne_iff_ne]
    rintro rfl
    exact h.notMem_bases hd
  refine header?_of_spans (after?_append _ _) (span_append_run h.wordGap.blank ?_)
    (span_append_run h.isPart_name ?_) (span_append_run h.nameGap.blank ?_)
    (span_append_run hclose ?_) (span_append_run h.baseGap.blank ?_) h.wordGap_ne_nil h.name_ne_nil
  · intro d hd
    rw [List.head?_append_of_ne_nil _ h.name_ne_nil] at hd
    exact isBlank_of_isPart (h.isPart_name d (List.mem_of_mem_head? hd))
  · intro d hd
    cases hgap : h.nameGap.text with
    | nil =>
      rw [hgap] at hd
      rw [← Option.some.inj hd]
      rfl
    | cons e gap =>
      rw [hgap] at hd
      obtain rfl := Option.some.inj hd
      exact isAlphanum_eq_false_of_isBlank (h.nameGap.blank e (by simp [hgap]))
  · exact fun d hd => by rw [← Option.some.inj hd]; rfl
  · simp
  · exact fun d hd => by rw [← Option.some.inj hd]; rfl

end HeaderText

theorem exists_headerText {before : Option Char} {text : List Char} {value : Header} {size : Nat}
    (h : header? before text = some (value, size)) :
    ∃ (header : HeaderText) (rest : List Char),
      text = header.render rest ∧ value = header.value ∧ size = header.size := by
  simp only [header?, toList_classWord, List.span_eq_takeWhile_dropWhile, Option.bind_eq_bind,
    Option.bind_eq_some_iff, after?_eq_some_iff, Option.pure_def, Option.some.injEq,
    Prod.mk.injEq] at h
  obtain ⟨r₁, rfl, _, hguard, r₂, hopen, r₃, hclose, rest, hcolon, rfl, rfl⟩ := h
  rw [Option.guard_eq_some', Bool.and_eq_true, Bool.not_eq_true', Bool.not_eq_true',
    List.isEmpty_eq_false_iff, List.isEmpty_eq_false_iff] at hguard
  rw [List.singleton_append] at hopen hclose hcolon
  have hblank (text : List Char) : ∀ c ∈ text.takeWhile isBlank, isBlank c = true :=
    fun _ hc => List.mem_takeWhile_imp hc
  refine ⟨⟨⟨_, hblank r₁⟩, hguard.1, _, hguard.2, fun _ hc => List.mem_takeWhile_imp hc,
    ⟨_, hblank _⟩, r₂.takeWhile (· != ')'), ?_, ⟨_, hblank r₃⟩⟩, rest, ?_, rfl, rfl⟩
  · intro hmem
    simpa using List.mem_takeWhile_imp hmem
  · -- each run and what is behind it are the text from the run on
    simp only [HeaderText.render, ← hcolon, List.takeWhile_append_dropWhile, ← hclose, ← hopen]

theorem header?_eq_some_iff {before : Option Char} {text : List Char} {value : Header}
    {size : Nat} :
    header? before text = some (value, size) ↔
      ∃ (header : HeaderText) (rest : List Char),
        text = header.render rest ∧ value = header.value ∧ size = header.size := by
  constructor
  · exact exists_headerText
  · rintro ⟨header, rest, rfl, rfl, rfl⟩
    exact header.header?_render before rest

theorem local_header? : Local header? where
  sized before text value size h := by
    obtain ⟨header, rest, rfl, -, rfl⟩ := header?_eq_some_iff.1 h
    rw [header.length_render, HeaderText.size]
    omega
  before_eq _ _ _ := rfl
  append_iff before text more value size hsize := by
    constructor
    · intro h
      obtain ⟨header, rest, htext, rfl, rfl⟩ := header?_eq_some_iff.1 h
      obtain ⟨rest', rfl⟩ := header.exists_eq_render htext hsize
      exact header.header?_render before rest'
    · intro h
      obtain ⟨header, rest, rfl, rfl, rfl⟩ := header?_eq_some_iff.1 h
      rw [header.render_append]
      exact header.header?_render before _

end AddonAtlas.Model
