import Mathlib
import AddonAtlas.Proofs.Markup.Forest
import AddonAtlas.Proofs.Model.Map
import AddonAtlas.Proofs.Source.Block
import AddonAtlas.Survey.BuiltIn

/-!
# How much a file can hold

What is found in a file is bounded by the length of its text: a scan goes on by at least one character
with every match, and everything that surveys count comes from such matches.
-/

namespace AddonAtlas

open Text

theorem length_flatMap_le {α β : Type} {f : α → List β} {bound : Nat} {items : List α}
    (h : ∀ a ∈ items, (f a).length ≤ bound) : (items.flatMap f).length ≤ items.length * bound := by
  induction items with
  | nil => simp
  | cons a items ih =>
    have hfirst := h a List.mem_cons_self
    have hrest := ih fun a' ha' => h a' (List.mem_cons_of_mem _ ha')
    rw [List.flatMap_cons, List.length_append, List.length_cons, Nat.succ_mul]
    omega

namespace Text

theorem length_findAllFrom_le {α : Type} (recognise : Recogniser α) (before : Option Char)
    (offset skip : Nat) (found : List (Found α)) (text : List Char) :
    (findAllFrom recognise before offset skip found text).length ≤ found.length + text.length := by
  induction text generalizing before offset skip found with
  | nil => simp [findAllFrom]
  | cons c text ih =>
    unfold findAllFrom
    split
    · next skip =>
      have := ih (some c) (offset + 1) skip found
      simp only [List.length_cons]
      omega
    · split
      · have := ih (some c) (offset + 1) 0 found
        simp only [List.length_cons]
        omega
      · next value size _ =>
        have := ih (some c) (offset + 1) (size - 1)
          (⟨offset, offset + size, value, text.drop (size - 1)⟩ :: found)
        simp only [List.length_cons] at this ⊢
        omega

theorem length_findAll_le {α : Type} (recognise : Recogniser α) (text : List Char) :
    (findAll recognise text).length ≤ text.length := by
  simpa [findAll] using length_findAllFrom_le recognise none 0 0 [] text

theorem length_linesFrom_le (line : List Char) (done : List (List Char)) (text : List Char) :
    (linesFrom line done text).length ≤ done.length + text.length + 1 := by
  fun_induction linesFrom line done text with
  | case1 line done =>
    split <;> simp
  | case2 line done rest ih | case3 line done c rest _ hend ih | case4 line done c rest _ hend ih =>
    simp only [List.length_cons] at ih ⊢
    omega

theorem length_dropRepeats_le {α : Type} [BEq α] (l : List α) :
    (dropRepeats l).length ≤ l.length := by
  fun_induction dropRepeats l with
  | case1 | case2 => simp
  | case3 x y rest heq ih | case4 x y rest heq ih =>
    simp only [List.length_cons] at ih ⊢
    omega

theorem length_distinctSorted_le (texts : List String) :
    (distinctSorted texts).length ≤ texts.length := by
  unfold distinctSorted
  exact (length_dropRepeats_le _).trans_eq (List.length_mergeSort _)

end Text

namespace Source

theorem length_literalsFrom_le (pending : Option (Char × List Char)) (done : List (List Char))
    (text : List Char) : (literalsFrom pending done text).length ≤ done.length + text.length := by
  fun_induction literalsFrom pending done text with
  | case1 pending done => simp
  | case2 done c rest ih | case3 done quote taken d rest ih
  | case4 done quote taken c rest hescape hquote ih | case5 done quote taken c rest hescape hquote ih =>
    simp only [List.length_cons] at ih ⊢
    omega

theorem length_literals_le (text : List Char) : (literals text).length ≤ text.length := by
  simpa [literals] using length_literalsFrom_le none [] text

theorem length_block?_le (cap : Nat) (text : List Char) :
    ((block? cap text).getD []).length ≤ cap := by
  cases text with
  | nil => exact Nat.zero_le _
  | cons c rest =>
    cases hclose : closer? c with
    | none => simp [block?, hclose]
    | some close =>
      obtain ⟨inner, -, hblock⟩ := exists_block hclose rest
      rw [hblock, Option.getD_some]
      exact List.length_take_le cap inner

end Source

namespace Markup

theorem length_blankFrom (inside : Bool) (done text : List Char) :
    (blankFrom inside done text).length = done.length + text.length := by
  fun_induction blankFrom inside done text <;>
    simp_all only [List.length_cons, List.length_reverse, List.length_nil, List.length_append] <;>
    omega

theorem length_pairTags_le (cap : Nat) (pending : List (Tag × Nat)) (done : List Element)
    (tags : List (Tag × Nat)) :
    (pairTags cap pending done tags).length ≤ pending.length + done.length + tags.length := by
  fun_induction pairTags cap pending done tags <;>
    simp_all only [List.length_cons, List.length_nil, List.length_append, List.length_map] <;> omega

theorem length_elements_le (name : List Char) (cap : Nat) (text : List Char) :
    (elements name cap text).length ≤ text.length := by
  have hpairs := length_pairTags_le cap [] [] (withNextOpening text.length (tags name text))
  have hnext : (withNextOpening text.length (tags name text)).length = (tags name text).length := by
    rw [← List.length_map, map_fst_withNextOpening]
  have hfound : (tags name text).length ≤ text.length := length_findAll_le (tag? name) text
  rw [hnext, List.length_nil, List.length_nil] at hpairs
  rw [elements, List.length_mergeSort]
  omega

theorem length_elements_blankComments_le (name : List Char) (cap : Nat) (text : List Char) :
    (elements name cap (blankComments text)).length ≤ text.length := by
  have hblank : (blankComments text).length = text.length := by
    simpa [blankComments] using length_blankFrom false [] text
  exact hblank ▸ length_elements_le name cap (blankComments text)

theorem length_records_le (model : String) (cap : Nat) (text : List Char) :
    (records model cap text).length ≤ text.length :=
  (List.length_filter_le _ _).trans (length_elements_blankComments_le _ cap text)

theorem length_selfClosingElements_le (name text : List Char) :
    (selfClosingElements name text).length ≤ text.length :=
  (List.length_filter_le _ _).trans (length_elements_blankComments_le name _ text)

end Markup

namespace Model

theorem length_withBodies (cap offset : Nat) (text : List Char) (found : List (Found Header)) :
    (withBodies cap offset text found).length = found.length := by
  induction found generalizing offset text with
  | nil => rfl
  | cons first rest ih => simp [withBodies, ih]

theorem length_parse_le (order : DelegationOrder) (cap : Nat) (module file : String)
    (content : List Char) : (parse order cap module file content).classes.length ≤ content.length := by
  have hfound := length_findAll_le header? content
  have hbodies := length_withBodies cap 0 content (findAll header? content)
  have hfilter := List.length_filter_le (fun found => hasModelBase found.1.bases)
    (withBodies cap 0 content (findAll header? content))
  simp only [parse, List.length_map]
  omega

theorem length_records_le (classes : List Class) : (records classes).length ≤ classes.length := by
  have hdistinct := length_distinctSorted_le (classes.map (·.identity))
  rw [List.length_map] at hdistinct
  rw [records_eq, List.length_map, sortNames, length_sortOn]
  exact hdistinct

end Model

namespace Access

theorem length_parse_le (module : String) (content : List Char) :
    (parse module content).1.length ≤ content.length := by
  have hlines : (tableLines content).length ≤ content.length + 1 := by
    refine (List.length_filter_le _ _).trans ?_
    rw [List.length_map]
    simpa [lines] using length_linesFrom_le [] [] content
  unfold parse
  split
  · exact Nat.zero_le _
  · next first rest hrows =>
    rw [hrows, List.length_cons] at hlines
    simp only [List.length_map]
    omega

theorem length_parseRules_le (module file : String) (cap : Nat) (content : List Char) :
    (parseRules module file cap content).length ≤ content.length := by
  rw [parseRules, List.length_map]
  exact Markup.length_records_le _ cap content

end Access

namespace Route

theorem length_ofBlock_le (module file : String) (block : List Char) :
    (ofBlock module file block).length ≤ block.length + 1 := by
  have hpaths : (paths block).length ≤ block.length := by
    rw [paths, List.length_map]
    exact (List.length_filter_le _ _).trans (Source.length_literals_le block)
  unfold ofBlock
  split
  · simp
  · rw [List.length_map]
    omega

theorem length_parse_le (module file : String) (cap : Nat) (content : List Char) :
    (parse module file cap content).length ≤ content.length * (cap + 1) := by
  have hfound := length_findAll_le decorator? content
  refine le_trans ?_ (Nat.mul_le_mul_right (cap + 1) hfound)
  refine length_flatMap_le fun found _ => ?_
  have hblock := length_ofBlock_le module file ((Source.block? cap found.rest).getD [])
  have hcap := Source.length_block?_le cap found.rest
  omega

end Route

end AddonAtlas
