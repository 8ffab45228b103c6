import AddonAtlas.Proofs.Source.Listing
import AddonAtlas.Route.Entry

/-!
# Keyword arguments

A `Keyword` is a keyword of a route decorator with its value as it is written, and a `chain` is a
run of them.  An equals sign stands in a chain only behind the name of a keyword, so that the
search for a name can stop nowhere else (`keyword_place`), and it stops at the first keyword with
that name (`findFirst_chain`).
-/

namespace AddonAtlas.Route

open Text Source

/-! ## Keywords -/

/-- The text of a path. -/
def IsPath (text : List Char) : Prop :=
  text.head? = some '/' ∧ '=' ∉ text ∧ '@' ∉ text

/-- The text of a value of a keyword. -/
def IsValue (text : List Char) : Prop :=
  text ≠ [] ∧ text.head? ≠ some '/' ∧
    ∀ c ∈ text, isQuote c = false ∧ c ≠ '\\' ∧ c ≠ '=' ∧ c ≠ '@'

instance : DecidablePred IsPath := fun _ => inferInstanceAs (Decidable (_ ∧ _))

instance : DecidablePred IsValue := fun text =>
  decidable_of_iff (text ≠ [] ∧ text.head? ≠ some '/' ∧
    text.all (fun c => isQuote c = false ∧ c ≠ '\\' ∧ c ≠ '=' ∧ c ≠ '@') = true)
    (by simp only [IsValue, List.all_eq_true, decide_eq_true_eq])

/-- The signs of a decorator stand neither in gaps nor around literals. -/
theorem classes_of_sign {c : Char} (hc : c = '=' ∨ c = '@') :
    isPlain c = true ∧ isSeparator c = false ∧ c ≠ '\\' := by
  rcases hc with rfl | rfl <;> decide

/-- The names of the keywords. -/
inductive KeywordName
  | type
  | auth
  | methods
  deriving DecidableEq

/-- The name as it is written. -/
def KeywordName.text : KeywordName → List Char
  | type => ['t', 'y', 'p', 'e']
  | auth => ['a', 'u', 't', 'h']
  | methods => ['m', 'e', 't', 'h', 'o', 'd', 's']

namespace KeywordName

theorem balanced_text (n : KeywordName) : Balanced n.text := by
  have h : n.text.all isPlain = true := by cases n <;> rfl
  exact .of_plain (List.all_eq_true.1 h)

theorem spells_text (n : KeywordName) : Spells n.text [] := by
  apply spells_of_quoteFree
  cases n <;> simp [text, isQuote]

theorem text_ne_nil (n : KeywordName) : n.text ≠ [] := by
  cases n <;> exact List.cons_ne_nil _ _

theorem edges_text (n : KeywordName) :
    (∀ c ∈ n.text.head?, isBlank c = false) ∧ ∀ c ∈ n.text.getLast?, isBlank c = false := by
  cases n <;> simp only [text, List.head?_cons, List.getLast?_cons_cons, List.getLast?_singleton,
    Option.mem_some_iff, forall_eq'] <;> decide

theorem notMem_text (n : KeywordName) {c : Char} (hc : isWord c = false) : c ∉ n.text := by
  have h : n.text.all isWord = true := by cases n <;> rfl
  intro hmem
  rw [List.all_eq_true.1 h c hmem] at hc
  exact Bool.noConfusion hc

/-- No name ends with another one. -/
theorem eq_of_suffix {n k : KeywordName} (h : n.text <:+ k.text) : n = k := by
  revert h
  cases n <;> cases k <;> decide

end KeywordName

/-- A keyword and its value: one literal, or a list or tuple of them. -/
inductive Keyword
  | type (value : Quoted IsValue)
  | auth (value : Quoted IsValue)
  | methods (values : Listing IsValue) (notBrace : values.first ≠ '{')

namespace Keyword

/-- The name of a keyword. -/
def name : Keyword → KeywordName
  | type _ => .type
  | auth _ => .auth
  | methods _ _ => .methods

/-- The value of a keyword as it is written. -/
def value : Keyword → List Char
  | type value => value.render
  | auth value => value.render
  | methods values _ => values.render

/-- The texts that a keyword gives. -/
def tokens : Keyword → List (List Char)
  | type value => [value.text]
  | auth value => [value.text]
  | methods values _ => values.tokens

theorem isValue_of_mem_tokens {k : Keyword} {token : List Char} (h : token ∈ k.tokens) :
    IsValue token := by
  cases k with
  | type value | auth value =>
    rw [List.mem_singleton.1 h]
    exact value.holds
  | methods values _ =>
    obtain ⟨item, -, rfl⟩ := List.mem_map.1 h
    exact item.1.holds

theorem exists_of_name_eq_methods {k : Keyword} (h : k.name = .methods) :
    ∃ values hbrace, k = methods values hbrace := by
  cases k with
  | type value | auth value => exact KeywordName.noConfusion h
  | methods values hbrace => exact ⟨values, hbrace, rfl⟩

theorem notMem_value {k : Keyword} {c : Char} (hc : c = '=' ∨ c = '@') : c ∉ k.value := by
  have htoken : ∀ token ∈ k.tokens, c ∉ token := by
    intro token htoken hmem
    obtain ⟨-, -, hclean⟩ := isValue_of_mem_tokens htoken
    obtain ⟨-, -, hequals, hat⟩ := hclean c hmem
    exact hc.elim hequals hat
  obtain ⟨hplain, hseparator, hslash⟩ := classes_of_sign hc
  cases k with
  | type value | auth value =>
    exact Literal.notMem_render (isQuote_of_isPlain hplain) hslash (htoken _ (by simp [tokens]))
  | methods values _ => exact Listing.notMem_render hplain hseparator hslash htoken

theorem value_ne_nil (k : Keyword) : k.value ≠ [] := by
  cases k <;> exact List.cons_ne_nil _ _

/-- A value starts and ends with a quote or a bracket. -/
theorem edges_value (k : Keyword) :
    (∀ c ∈ k.value.head?, isBlank c = false) ∧ k.value.getLast?.any isWord = false := by
  cases k with
  | type literal | auth literal =>
    simpa [value] using classes_of_isQuote literal.isQuote_quote
  | methods values _ =>
    simpa [value] using
      And.intro (classes_of_isBracket values.isBracket_first).2.1
        (classes_of_isBracket values.isBracket_last).2.2

theorem balanced_value (k : Keyword) : Balanced k.value := by
  cases k with
  | type literal | auth literal => exact .of_literal literal.toLiteral
  | methods values _ => exact values.balanced_render

theorem spells_value (k : Keyword) : Spells k.value k.tokens := by
  cases k with
  | type literal | auth literal => exact literal.spells_render
  | methods values _ => exact values.spells_render

end Keyword

/-! ## Chains -/

/-- A keyword argument, with the gap before it and the blanks around its equals sign. -/
structure Argument where
  gap : Gap
  beforeSign : Blanks
  afterSign : Blanks
  keyword : Keyword

/-- Keyword arguments between the texts `lead` and `tail`. -/
def chain (lead tail : List Char) : List Argument → List Char
  | [] => lead ++ tail
  | a :: arguments =>
    lead ++ (a.gap.text ++ (a.keyword.name.text ++ (a.beforeSign.text ++
      '=' :: chain (a.afterSign.text ++ a.keyword.value) tail arguments)))

theorem chain_eq_append (lead tail : List Char) (arguments : List Argument) :
    chain lead tail arguments = lead ++ chain [] tail arguments := by
  cases arguments <;> rfl

theorem balanced_chain {lead tail : List Char} (hlead : Balanced lead) (htail : Balanced tail)
    (arguments : List Argument) : Balanced (chain lead tail arguments) := by
  induction arguments generalizing lead with
  | nil => exact hlead.append htail
  | cons a arguments ih =>
    have hsign : Balanced ['='] := .plain (by decide) .nil
    have hrest := ih ((Gap.ofBlanks a.afterSign).balanced.append a.keyword.balanced_value)
    exact hlead.append (a.gap.balanced.append (a.keyword.name.balanced_text.append
      ((Gap.ofBlanks a.beforeSign).balanced.append (hsign.append hrest))))

/-- A chain spells what its lead and its keywords spell. -/
theorem spells_chain {lead tail : List Char} {tokens : List (List Char)}
    (hlead : Spells lead tokens) (htail : Spells tail []) (arguments : List Argument) :
    Spells (chain lead tail arguments) (tokens ++ arguments.flatMap (·.keyword.tokens)) := by
  induction arguments generalizing lead tokens with
  | nil => simpa [chain] using hlead.append htail
  | cons a arguments ih =>
    have hsign : Spells ['='] [] := spells_of_quoteFree (by simp [isQuote])
    have hrest := ih ((Gap.ofBlanks a.afterSign).spells.append a.keyword.spells_value)
    simpa [chain] using hlead.append (a.gap.spells.append (a.keyword.name.spells_text.append
      ((Gap.ofBlanks a.beforeSign).spells.append (hsign.append hrest))))

theorem notMem_chain {lead tail : List Char} (hlead : '@' ∉ lead) (htail : '@' ∉ tail)
    (arguments : List Argument) : '@' ∉ chain lead tail arguments := by
  induction arguments generalizing lead with
  | nil => simp [chain, hlead, htail]
  | cons a arguments ih =>
    have hvalue : '@' ∉ a.afterSign.text ++ a.keyword.value := by
      simp [a.afterSign.notMem (c := '@') (by decide), Keyword.notMem_value]
    have hname : '@' ∉ a.keyword.name.text := a.keyword.name.notMem_text (by decide)
    simp [chain, hlead, hname, ih hvalue, a.gap.notMem (c := '@') (by decide),
      a.beforeSign.notMem (c := '@') (by decide)]

theorem length_value_le {a : Argument} {arguments : List Argument} (h : a ∈ arguments)
    (lead tail : List Char) : a.keyword.value.length ≤ (chain lead tail arguments).length := by
  induction arguments generalizing lead with
  | nil => exact absurd h List.not_mem_nil
  | cons b arguments ih =>
    simp only [chain, List.length_append, List.length_cons]
    rcases List.mem_cons.1 h with rfl | h
    · rw [chain_eq_append, List.length_append, List.length_append]
      omega
    · have hrest := ih h (b.afterSign.text ++ b.keyword.value)
      omega

/-! ## The search for a keyword -/

/-- The recogniser of a keyword with this name whose value `g` accepts. -/
def seeks {β : Type} (name : KeywordName) (g : List Char → Option β) (before : Option Char)
    (text : List Char) : Option β :=
  (keyword? name.text before text).bind g

theorem keyword?_eq_none {name s : List Char} {before : Option Char} (hs : '=' ∉ s) :
    keyword? name before s = none := by
  rw [Option.eq_none_iff_forall_ne_some]
  intro v h
  simp only [keyword?, Option.bind_eq_bind, Option.bind_eq_some_iff, after?_eq_some_iff] at h
  obtain ⟨-, -, found, rfl, value, hvalue, -⟩ := h
  have hmem : '=' ∈ found := by
    apply (List.dropWhile_suffix isBlank).subset
    rw [← dropBlanks, hvalue]
    simp
  exact hs (List.mem_append_right name hmem)

/-- Before the first equals sign stands one name, and a search finds no other name and finds it
nowhere else. -/
theorem keyword_place {n k : KeywordName} {lead t rest v : List Char} {before : Option Char}
    (hlead : '=' ∉ lead) (gap : Blanks) (ht : t <:+ lead ++ k.text)
    (h : keyword? n.text before (t ++ (gap.text ++ '=' :: rest)) = some v) :
    n = k ∧ t = k.text := by
  have hsign (m : KeywordName) : '=' ∉ m.text := m.notMem_text (by decide)
  have hfree : '=' ∉ t ++ gap.text := by
    have hlong : '=' ∉ lead ++ k.text := by simp [hlead, hsign k]
    have hshort : '=' ∉ t := fun hmem => hlong (ht.subset hmem)
    simp [hshort, gap.notMem (c := '=') (by decide)]
  rw [← List.append_assoc] at h
  simp only [keyword?, Option.bind_eq_bind, Option.bind_eq_some_iff] at h
  obtain ⟨-, -, found, hfound, value, hvalue, -⟩ := h
  obtain ⟨run, hrun, hblank⟩ := exists_run_of_after? (hsign n) hfree hfound hvalue
  have hlast : ∀ c ∈ t.getLast?, isBlank c = false := by
    obtain ⟨front, hfront⟩ := ht
    intro c hc
    have hend : (lead ++ k.text).getLast? = some c := by
      rw [← hfront, List.getLast?_append, hc, Option.some_or]
    rw [List.getLast?_append_of_ne_nil _ k.text_ne_nil] at hend
    exact k.edges_text.2 c hend
  obtain rfl := append_run_inj hrun hlast n.edges_text.2 gap.blank hblank
  have hname : n = k := by
    rcases List.suffix_or_suffix_of_suffix ht (List.suffix_append lead k.text) with hn | hk
    · exact KeywordName.eq_of_suffix hn
    · exact (KeywordName.eq_of_suffix hk).symm
  exact ⟨hname, congrArg _ hname⟩

section Search

variable {β : Type} {g : List Char → Option β} {n k : KeywordName} {lead : List Char}

theorem seeks_eq_none {before : Option Char} {text : List Char}
    (h : ∀ v, keyword? n.text before text ≠ some v) : seeks n g before text = none := by
  rw [seeks, Option.eq_none_iff_forall_ne_some.2 h, Option.bind_none]

/-- The search passes over a keyword with another name. -/
theorem quiet_other (hlead : '=' ∉ lead) (gap : Blanks) (hname : k ≠ n) (rest : List Char) :
    Quiet (seeks n g) rest (lead ++ (k.text ++ (gap.text ++ ['=']))) := by
  rw [← List.append_assoc, quiet_append]
  constructor
  · refine quiet_of_suffix fun c s hs before => seeks_eq_none fun v hv => ?_
    rw [← List.cons_append, List.append_assoc, List.singleton_append] at hv
    exact hname (keyword_place hlead gap hs hv).1.symm
  · -- no name starts with a blank or an equals sign
    refine quiet_of_forall_mem fun c hc before text => seeks_eq_none fun v hv => ?_
    simp only [keyword?, Option.bind_eq_bind, Option.bind_eq_some_iff, after?_eq_some_iff] at hv
    obtain ⟨-, -, found, hfound, -⟩ := hv
    have hhead : c ∈ n.text.head? := by
      rw [← List.head?_append_of_ne_nil _ n.text_ne_nil, ← hfound]
      rfl
    rcases List.mem_append.1 hc with hc | hc
    · exact absurd (gap.blank c hc) (by simp [n.edges_text.1 c hhead])
    · rw [List.mem_singleton.1 hc] at hhead
      exact n.notMem_text (c := '=') (by decide) (List.mem_of_mem_head? hhead)

/-- The search passes over what stands before a keyword. -/
theorem quiet_lead (hlead : '=' ∉ lead) (gap : Blanks) (rest : List Char) :
    Quiet (seeks n g) (k.text ++ (gap.text ++ '=' :: rest)) lead := by
  refine quiet_of_suffix fun c s hs before => seeks_eq_none fun v hv => ?_
  rw [← List.cons_append, ← List.append_assoc] at hv
  obtain ⟨front, rfl⟩ := hs
  have hsuffix : c :: s ++ k.text <:+ front ++ c :: s ++ k.text := ⟨front, by simp⟩
  have hshort := congrArg List.length (keyword_place hlead gap hsuffix hv).2
  simp only [List.length_append, List.length_cons] at hshort
  omega

theorem keyword?_text {before : Option Char} (hbefore : before.any isWord = false)
    (gap after : Blanks) {value : List Char} (hvalue : ∀ c ∈ value.head?, isBlank c = false) :
    keyword? n.text before (n.text ++ (gap.text ++ '=' :: (after.text ++ value))) = some value := by
  have hequals : isBlank '=' = false := by decide
  have hgap : dropBlanks (gap.text ++ '=' :: (after.text ++ value)) =
      '=' :: (after.text ++ value) :=
    dropWhile_append_run gap.blank (by simpa using hequals)
  have hafter : dropBlanks (after.text ++ value) = value := dropWhile_append_run after.blank hvalue
  have hsign := after?_append ['='] (after.text ++ value)
  rw [List.singleton_append] at hsign
  simp [keyword?, hbefore, hgap, hsign, hafter]

theorem findFirst_of_signFree {text : List Char} (h : '=' ∉ text) (before : Option Char) :
    findFirst (seeks n g) before text = none := by
  have hnone {s : List Char} (hs : s <:+ text) (last : Option Char) : seeks n g last s = none := by
    rw [seeks, keyword?_eq_none fun hmem => h (hs.subset hmem)]
    rfl
  have hquiet : Quiet (seeks n g) [] text := by
    refine quiet_of_suffix fun c s hs last => ?_
    rw [List.append_nil]
    exact hnone hs last
  exact findFirst_eq_none hquiet (hnone List.nil_suffix) before

/-- A keyword with the name is found when no word stands right before it. -/
theorem findFirst_chain_cons {a : Argument} (hname : a.keyword.name = n) {tail : List Char}
    {arguments : List Argument} (hlead : '=' ∉ lead)
    (hword : (lead ++ a.gap.text).getLast?.any isWord = false) {before : Option Char}
    (hbefore : before.any isWord = false)
    (hg : (g (a.keyword.value ++ chain [] tail arguments)).isSome) :
    findFirst (seeks n g) before (chain lead tail (a :: arguments)) =
      g (a.keyword.value ++ chain [] tail arguments) := by
  have hgap : '=' ∉ lead ++ a.gap.text := by
    simp [hlead, a.gap.notMem (c := '=') (by decide)]
  have hvalue : ∀ c ∈ (a.keyword.value ++ chain [] tail arguments).head?, isBlank c = false := by
    rw [List.head?_append_of_ne_nil _ a.keyword.value_ne_nil]
    exact a.keyword.edges_value.1
  have hhere := keyword?_text (n := n) (any_lastOf hbefore hword) a.beforeSign a.afterSign hvalue
  obtain ⟨found, hfound⟩ := Option.isSome_iff_exists.1 hg
  rw [chain, ← List.append_assoc lead, hname, findFirst_quiet (quiet_lead hgap a.beforeSign _),
    chain_eq_append, List.append_assoc, findFirst_eq_some (by rw [seeks, hhere]; exact hfound)]
  exact hfound.symm

/-- The search ends at the first keyword with the name, when its value is accepted. -/
theorem findFirst_chain {tail : List Char} (htail : '=' ∉ tail)
    (hg : ∀ key : Keyword, key.name = n → ∀ rest, (g (key.value ++ rest)).isSome)
    (arguments : List Argument) (hlead : '=' ∉ lead)
    (hfirst : ∀ a ∈ arguments.head?, (lead ++ a.gap.text).getLast?.any isWord = false)
    {before : Option Char} (hbefore : before.any isWord = false) :
    ∃ rest, findFirst (seeks n g) before (chain lead tail arguments) =
      (arguments.find? (·.keyword.name = n)).bind fun a => g (a.keyword.value ++ rest) := by
  -- what stands before a keyword changes on the way: at first `lead`, then the value before it
  induction arguments generalizing lead before with
  | nil =>
    have hfree : '=' ∉ lead ++ tail := by simp [hlead, htail]
    exact ⟨[], by simpa [chain] using findFirst_of_signFree hfree before⟩
  | cons a arguments ih =>
    by_cases hname : a.keyword.name = n
    · refine ⟨chain [] tail arguments, ?_⟩
      rw [findFirst_chain_cons hname hlead (hfirst a rfl) hbefore (hg _ hname _)]
      simp [hname]
    · have hgap : '=' ∉ lead ++ a.gap.text := by
        simp [hlead, a.gap.notMem (c := '=') (by decide)]
      have hvalue : '=' ∉ a.afterSign.text ++ a.keyword.value := by
        simp [a.afterSign.notMem (c := '=') (by decide), Keyword.notMem_value]
      have hnext : ∀ b ∈ arguments.head?,
          (a.afterSign.text ++ a.keyword.value ++ b.gap.text).getLast?.any isWord = false := by
        intro b _
        refine any_getLast?_append ?_ b.gap.any_getLast?
        rw [List.getLast?_append_of_ne_nil _ a.keyword.value_ne_nil]
        exact a.keyword.edges_value.2
      have hsign : (lastOf before (lead ++ a.gap.text ++ (a.keyword.name.text ++
          (a.beforeSign.text ++ ['='])))).any isWord = false := by
        apply any_lastOf hbefore
        simp only [← List.append_assoc, List.getLast?_concat]
        decide
      obtain ⟨rest, hrest⟩ := ih hvalue hnext hsign
      refine ⟨rest, ?_⟩
      rw [← findFirst_quiet (quiet_other hgap a.beforeSign hname _)] at hrest
      simpa [chain, hname] using hrest

end Search

end AddonAtlas.Route
