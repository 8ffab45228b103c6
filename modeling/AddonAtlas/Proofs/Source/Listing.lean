import AddonAtlas.Proofs.Source.Block

/-!
# Written lists

A `Listing` is a bracket with quoted literals in it, each of which has a `Gap` of blanks, commas
and colons behind it, as in a list or a dictionary of source text.  Its inside is balanced and
spells the texts of the literals.  `Quoted p` is a literal whose text satisfies `p`.
-/

namespace AddonAtlas.Source

open Text

/-! ## Gaps -/

/-- Does the character stand between literals: a blank, a comma or a colon? -/
def isSeparator (c : Char) : Bool :=
  isBlank c || c == ',' || c == ':'

/-- A text of blanks, commas and colons. -/
structure Gap where
  text : List Char
  separates : ∀ c ∈ text, isSeparator c = true

/-- A gap from a text that passes the test. -/
def Gap.of (text : List Char) (h : text.all isSeparator = true) : Gap :=
  ⟨text, List.all_eq_true.1 h⟩

/-- An empty gap. -/
def Gap.none : Gap := .of [] rfl

/-- A comma. -/
def Gap.comma : Gap := .of [','] rfl

theorem ne_of_isSeparator {c d : Char} (hc : isSeparator c = true) (hd : isSeparator d = false) :
    c ≠ d := by
  rintro rfl
  rw [hc] at hd
  exact Bool.noConfusion hd

theorem isPlain_of_isSeparator {c : Char} (h : isSeparator c = true) : isPlain c = true := by
  have hne (d : Char) (hd : isSeparator d = false) : (c == d) = false := by
    simpa using ne_of_isSeparator h hd
  simp only [isPlain, isQuote, isBracket, List.contains_cons, List.contains_nil,
    hne '\'' (by decide), hne '"' (by decide), hne '[' (by decide), hne ']' (by decide),
    hne '(' (by decide), hne ')' (by decide), hne '{' (by decide), hne '}' (by decide)]
  rfl

theorem isWord_eq_false_of_isSeparator {c : Char} (h : isSeparator c = true) :
    isWord c = false := by
  simp only [isSeparator, Bool.or_eq_true, beq_iff_eq] at h
  rcases h with (h | rfl) | rfl
  · exact isWord_eq_false_of_isBlank h
  · decide
  · decide

theorem isQuote_of_isPlain {c : Char} (h : isPlain c = true) : isQuote c = false := by
  simp only [isPlain, Bool.and_eq_true, Bool.not_eq_true'] at h
  exact h.1

theorem Gap.balanced (g : Gap) : Balanced g.text :=
  .of_plain fun c hc => isPlain_of_isSeparator (g.separates c hc)

theorem Gap.spells (g : Gap) : Spells g.text [] :=
  spells_of_quoteFree fun c hc => isQuote_of_isPlain (isPlain_of_isSeparator (g.separates c hc))

theorem Gap.notMem (g : Gap) {c : Char} (hc : isSeparator c = false) : c ∉ g.text :=
  fun h => ne_of_isSeparator (g.separates c h) hc rfl

theorem Gap.any_getLast? (g : Gap) : g.text.getLast?.any isWord = false := by
  cases hlast : g.text.getLast? with
  | none => rfl
  | some c => exact isWord_eq_false_of_isSeparator (g.separates c (List.mem_of_getLast? hlast))

/-- Blanks, as a gap. -/
def Gap.ofBlanks (b : Blanks) : Gap where
  text := b.text
  separates c hc := by simp [isSeparator, b.blank c hc]

@[simp] theorem Gap.text_ofBlanks (b : Blanks) : (Gap.ofBlanks b).text = b.text := rfl

/-! ## Lists -/

/-- A literal whose text satisfies `p`. -/
structure Quoted (p : List Char → Prop) extends Literal where
  holds : p text

/-- A text between single quotes. -/
def Quoted.single {p : List Char → Prop} (text : List Char) (h : p text) : Quoted p :=
  ⟨⟨'\'', text, isQuote_single⟩, h⟩

/-- A text between double quotes. -/
def Quoted.double {p : List Char → Prop} (text : List Char) (h : p text) : Quoted p :=
  ⟨⟨'"', text, isQuote_double⟩, h⟩

/-- A search finds nothing at brackets, in gaps before a quote or a bracket, and in literals. -/
structure Overlooks {β : Type} (r : Option Char → List Char → Option β) (p : List Char → Prop) :
    Prop where
  bracket {c : Char} (hc : isBracket c = true) (text : List Char) (before : Option Char) :
    r before (c :: text) = none
  gap (g : Gap) {d : Char} (rest : List Char) (hd : isPlain d = false) : Quiet r (d :: rest) g.text
  literal (q : Quoted p) (rest : List Char) : Quiet r rest q.render

/-- Literals in a bracket, each with the gap behind it. -/
structure Listing (p : List Char → Prop) where
  first : Char
  last : Char
  lead : Gap
  items : List (Quoted p × Gap)
  closes : closer? first = some last

namespace Listing

variable {p : List Char → Prop}

/-- A list in square brackets. -/
def square (lead : Gap) (items : List (Quoted p × Gap)) : Listing p :=
  ⟨'[', ']', lead, items, rfl⟩

/-- The literals and their gaps. -/
def itemsText (items : List (Quoted p × Gap)) : List Char :=
  items.flatMap fun (literal, gap) => literal.render ++ gap.text

/-- The text inside the bracket. -/
def inner (l : Listing p) : List Char :=
  l.lead.text ++ itemsText l.items

/-- The list as it is written. -/
def render (l : Listing p) : List Char :=
  l.first :: (l.inner ++ [l.last])

/-- The texts of the literals. -/
def tokens (l : Listing p) : List (List Char) :=
  l.items.map (·.1.text)

@[simp] theorem head?_render (l : Listing p) : l.render.head? = some l.first := rfl

@[simp] theorem getLast?_render (l : Listing p) : l.render.getLast? = some l.last := by
  rw [render, ← List.cons_append, List.getLast?_concat]

theorem isBracket_first (l : Listing p) : isBracket l.first = true :=
  (isBracket_of_closer? l.closes).1

theorem isBracket_last (l : Listing p) : isBracket l.last = true :=
  (isBracket_of_closer? l.closes).2

/-- A character that is no sign of a list stands in a written list only with the literals. -/
theorem notMem_render {l : Listing p} {c : Char} (hp : isPlain c = true)
    (hs : isSeparator c = false) (hb : c ≠ '\\') (ht : ∀ token ∈ l.tokens, c ∉ token) :
    c ∉ l.render := by
  have hbracket : ∀ d, isBracket d = true → c ≠ d := by
    rintro d hd rfl
    simp [isPlain, hd] at hp
  have hitems : c ∉ itemsText l.items := by
    simp only [itemsText, List.mem_flatMap, List.mem_append, not_exists, not_and, not_or]
    intro item hitem
    have htoken : item.1.text ∈ l.tokens := List.mem_map.2 ⟨item, hitem, rfl⟩
    exact ⟨Literal.notMem_render (isQuote_of_isPlain hp) hb (ht _ htoken), item.2.notMem hs⟩
  have hfirst : c ≠ l.first := hbracket _ l.isBracket_first
  have hlast : c ≠ l.last := hbracket _ l.isBracket_last
  simp [render, inner, hfirst, hlast, l.lead.notMem hs, hitems]

theorem balanced_itemsText (items : List (Quoted p × Gap)) : Balanced (itemsText items) := by
  induction items with
  | nil => exact .nil
  | cons item items ih =>
    exact ((Balanced.of_literal item.1.toLiteral).append item.2.balanced).append ih

theorem spells_itemsText (items : List (Quoted p × Gap)) :
    Spells (itemsText items) (items.map (·.1.text)) := by
  induction items with
  | nil => exact spells_nil
  | cons item items ih =>
    exact (item.1.spells_render.append item.2.spells).append ih

theorem balanced_inner (l : Listing p) : Balanced l.inner :=
  l.lead.balanced.append (balanced_itemsText l.items)

theorem balanced_render (l : Listing p) : Balanced l.render :=
  l.balanced_inner.bracket l.closes

theorem spells_inner (l : Listing p) : Spells l.inner l.tokens :=
  l.lead.spells.append (spells_itemsText l.items)

theorem spells_render (l : Listing p) : Spells l.render l.tokens := by
  have hbracket {c : Char} (hc : isBracket c = true) : Spells [c] [] :=
    spells_of_quoteFree (by simpa using (classes_of_isBracket hc).1)
  simpa [render] using
    (hbracket l.isBracket_first).append (l.spells_inner.append (hbracket l.isBracket_last))

/-- The block of a written list is its inside. -/
theorem block?_render (l : Listing p) {cap : Nat} (hcap : l.inner.length ≤ cap)
    (rest : List Char) : block? cap (l.render ++ rest) = some l.inner := by
  rw [render, List.cons_append, List.append_assoc, List.singleton_append]
  exact block?_balanced l.closes l.balanced_inner hcap rest

/-- A search that overlooks gaps, literals and brackets finds nothing in a list. -/
theorem quiet_render {β : Type} {r : Option Char → List Char → Option β} (h : Overlooks r p)
    (l : Listing p) (rest : List Char) : Quiet r rest l.render := by
  have hlast : isPlain l.last = false := by simp [isPlain, l.isBracket_last]
  have hitems (items : List (Quoted p × Gap)) : Quiet r (l.last :: rest) (itemsText items) ∧
      ∃ d more, itemsText items ++ l.last :: rest = d :: more ∧ isPlain d = false := by
    induction items with
    | nil => exact ⟨trivial, l.last, rest, rfl, hlast⟩
    | cons item items ih =>
      obtain ⟨hquiet, d, more, hmore, hd⟩ := ih
      refine ⟨?_, item.1.quote, _, rfl, by simp [isPlain, item.1.isQuote_quote]⟩
      rw [itemsText, List.flatMap_cons, ← itemsText, quiet_append, quiet_append]
      refine ⟨⟨h.literal item.1 _, ?_⟩, hquiet⟩
      rw [hmore]
      exact h.gap item.2 more hd
  obtain ⟨hquiet, d, more, hmore, hd⟩ := hitems l.items
  refine ⟨h.bracket l.isBracket_first _, ?_⟩
  rw [quiet_append, inner, quiet_append]
  refine ⟨⟨?_, hquiet⟩, h.bracket l.isBracket_last _, trivial⟩
  rw [List.singleton_append, hmore]
  exact h.gap l.lead more hd

end Listing

end AddonAtlas.Source
