import AddonAtlas.Proofs.Source.Passage
import AddonAtlas.Proofs.Text.Order
import AddonAtlas.Source.Field

/-!
# Written list fields

A `ListHead` is what stands before the bracket of a list that is given to a name: the name between
quotes and a colon, or the bare name and an equals sign.  The recognisers accept exactly the written
heads (`entryHead?_eq_some_iff`, `keywordHead?_eq_some_iff`) and the text up to the first closing
bracket (`listText?_eq_some_iff`).  So the list field of a text is read from the first place at
which a list is given to the name, and holds the distinct entries of this list in increasing order
(`listField_written`).
-/

namespace AddonAtlas.Source

open Text

/-! ## Signs behind blanks -/

theorem after?_dropBlanks (gap : Blanks) {sign : Char} (hsign : isBlank sign = false)
    (rest : List Char) : after? [sign] (dropBlanks (gap.text ++ sign :: rest)) = some rest := by
  rw [after?_eq_some_iff]
  exact dropWhile_append_run gap.blank (by simpa using hsign)

theorem exists_blanks_of_after? {sign : Char} {text rest : List Char}
    (h : after? [sign] (dropBlanks text) = some rest) :
    ∃ gap : Blanks, text = gap.text ++ sign :: rest := by
  refine ⟨⟨text.takeWhile isBlank, fun c hc => List.mem_takeWhile_imp hc⟩, ?_⟩
  rw [after?_eq_some_iff, List.singleton_append] at h
  rw [← h, dropBlanks, List.takeWhile_append_dropWhile]

/-! ## Heads -/

/-- What stands before the bracket of a list that is given to a name. -/
inductive ListHead
  /-- The name between quotes, a colon, and blanks behind both. -/
  | entry (first last : Char) (hfirst : isQuote first = true) (hlast : isQuote last = true)
    (gap tail : Blanks)
  /-- The bare name, an equals sign, and blanks behind both. -/
  | keyword (gap tail : Blanks)

namespace ListHead

/-- The head as it is written for a name. -/
def text (name : List Char) : ListHead → List Char
  | entry first last _ _ gap tail => first :: (name ++ last :: (gap.text ++ ':' :: tail.text))
  | keyword gap tail => name ++ (gap.text ++ '=' :: tail.text)

/-- May the head stand behind this character? A bare name does not follow a word character or a
dot. -/
def MayFollow (before : Option Char) : ListHead → Prop
  | entry .. => True
  | keyword .. => before.any (fun c => isWord c || c == '.') = false

end ListHead

/-- A list is given to the name right here: a head and an opening bracket stand here. -/
def StartsList (name : List Char) (before : Option Char) (text : List Char) : Prop :=
  ∃ head : ListHead, head.MayFollow before ∧ head.text name ++ ['['] <+: text

theorem entryHead?_eq_some_iff {name text rest : List Char} :
    entryHead? name text = some rest ↔ ∃ first last, ∃ gap : Blanks,
      isQuote first = true ∧ isQuote last = true ∧
        text = first :: (name ++ last :: (gap.text ++ ':' :: rest)) := by
  constructor
  · intro h
    cases text with
    | nil => simp [entryHead?] at h
    | cons first text =>
      simp only [entryHead?, Option.bind_eq_bind, Option.bind_eq_some_iff] at h
      obtain ⟨_, hfirst, found, hname, h⟩ := h
      cases found with
      | nil => simp at h
      | cons last found =>
        simp only [Option.bind_eq_some_iff] at h
        obtain ⟨_, hlast, h⟩ := h
        obtain ⟨gap, rfl⟩ := exists_blanks_of_after? h
        refine ⟨first, last, gap, ?_, ?_, ?_⟩
        · simpa using hfirst
        · simpa using hlast
        · rw [after?_eq_some_iff.1 hname]
  · rintro ⟨first, last, gap, hfirst, hlast, rfl⟩
    have hsign := after?_dropBlanks gap (show isBlank ':' = false by decide) rest
    simp [entryHead?, hfirst, hlast, hsign]

theorem keywordHead?_eq_some_iff {name text rest : List Char} {before : Option Char} :
    keywordHead? name before text = some rest ↔
      before.any (fun c => isWord c || c == '.') = false ∧
        ∃ gap : Blanks, text = name ++ (gap.text ++ '=' :: rest) := by
  constructor
  · intro h
    simp only [keywordHead?, Option.bind_eq_bind, Option.bind_eq_some_iff] at h
    obtain ⟨_, hbefore, found, hname, h⟩ := h
    obtain ⟨gap, rfl⟩ := exists_blanks_of_after? h
    exact ⟨by simpa using hbefore, gap, after?_eq_some_iff.1 hname⟩
  · rintro ⟨hbefore, gap, rfl⟩
    have hsign := after?_dropBlanks gap (show isBlank '=' = false by decide) rest
    simp [keywordHead?, hbefore, hsign]

theorem listText?_eq_some_iff {text inner : List Char} :
    listText? text = some inner ↔ ∃ (gap : Blanks) (rest : List Char),
      text = gap.text ++ '[' :: (inner ++ ']' :: rest) ∧ ']' ∉ inner := by
  constructor
  · intro h
    simp only [listText?, Option.bind_eq_bind, Option.bind_eq_some_iff] at h
    obtain ⟨found, hfound, h⟩ := h
    obtain ⟨gap, rfl⟩ := exists_blanks_of_after? hfound
    split at h
    · simp at h
    · next inner' c rest hspan =>
      obtain rfl := Option.some.inj h
      rw [List.span_eq_takeWhile_dropWhile, Prod.mk.injEq] at hspan
      obtain ⟨htake, hdrop⟩ := hspan
      have hc : c = ']' := by
        have hhead := head?_dropWhile c (by rw [hdrop]; rfl)
        simpa using hhead
      refine ⟨gap, rest, ?_, fun hmem => ?_⟩
      · rw [← hc, ← hdrop, ← htake, List.takeWhile_append_dropWhile]
      · rw [← htake] at hmem
        simpa using List.mem_takeWhile_imp hmem
  · rintro ⟨gap, rest, rfl, hinner⟩
    have hsign := after?_dropBlanks gap (show isBlank '[' = false by decide) (inner ++ ']' :: rest)
    have hspan : (inner ++ ']' :: rest).span (· != ']') = (inner, ']' :: rest) :=
      span_append_run (fun c hc => by simpa using ne_of_mem_of_not_mem hc hinner) (by simp)
    simp only [listText?, hsign, Option.bind_eq_bind, Option.bind_some, hspan]

/-! ## Where lists are given to a name -/

/-- Does a bracket open here, behind blanks? -/
def opensList (text : List Char) : Bool :=
  (after? ['['] (dropBlanks text)).isSome

theorem opensList_append (gap : Blanks) (rest : List Char) :
    opensList (gap.text ++ '[' :: rest) = true := by
  rw [opensList, after?_dropBlanks gap (by decide)]
  rfl

theorem opensList_of_listText? {text inner : List Char} (h : listText? text = some inner) :
    opensList text = true := by
  obtain ⟨gap, rest, rfl, -⟩ := listText?_eq_some_iff.1 h
  exact opensList_append gap _

theorem startsList_iff {name text : List Char} {before : Option Char} :
    StartsList name before text ↔
      (entryHead? name text).any opensList = true ∨
        (keywordHead? name before text).any opensList = true := by
  simp only [Option.any_eq_true]
  constructor
  · rintro ⟨head, hbefore, more, rfl⟩
    cases head with
    | entry first last hfirst hlast gap tail =>
      exact .inl ⟨tail.text ++ '[' :: more, entryHead?_eq_some_iff.2
        ⟨first, last, gap, hfirst, hlast, by simp [ListHead.text]⟩, opensList_append tail more⟩
    | keyword gap tail =>
      exact .inr ⟨tail.text ++ '[' :: more, keywordHead?_eq_some_iff.2
        ⟨hbefore, gap, by simp [ListHead.text]⟩, opensList_append tail more⟩
  · rintro (⟨rest, hhead, hopens⟩ | ⟨rest, hhead, hopens⟩)
    · obtain ⟨more, hmore⟩ := Option.isSome_iff_exists.1 hopens
      obtain ⟨tail, rfl⟩ := exists_blanks_of_after? hmore
      obtain ⟨first, last, gap, hfirst, hlast, rfl⟩ := entryHead?_eq_some_iff.1 hhead
      exact ⟨.entry first last hfirst hlast gap tail, trivial, more, by simp [ListHead.text]⟩
    · obtain ⟨more, hmore⟩ := Option.isSome_iff_exists.1 hopens
      obtain ⟨tail, rfl⟩ := exists_blanks_of_after? hmore
      obtain ⟨hbefore, gap, rfl⟩ := keywordHead?_eq_some_iff.1 hhead
      exact ⟨.keyword gap tail, hbefore, more, by simp [ListHead.text]⟩

instance (name text : List Char) (before : Option Char) :
    Decidable (StartsList name before text) :=
  decidable_of_iff _ startsList_iff.symm

theorem listFieldHere?_eq_none {name text : List Char} {before : Option Char}
    (h : ¬ StartsList name before text) : listFieldHere? name before text = none := by
  have hbind {head? : Option (List Char)} (hnot : ¬ head?.any opensList = true) :
      head?.bind listText? = none := by
    rw [Option.eq_none_iff_forall_ne_some]
    intro inner hinner
    obtain ⟨rest, rfl, hlist⟩ := Option.bind_eq_some_iff.1 hinner
    exact hnot (opensList_of_listText? hlist)
  rw [startsList_iff, not_or] at h
  rw [listFieldHere?, hbind h.1, hbind h.2]

/-- A written list is found behind its head. -/
theorem listFieldHere?_text {name : List Char} (hne : name ≠ [])
    (hname : ∀ c ∈ name, isWord c = true) {head : ListHead} {before : Option Char}
    (hbefore : head.MayFollow before) {inner : List Char} (hinner : ']' ∉ inner)
    (rest : List Char) :
    listFieldHere? name before (head.text name ++ '[' :: (inner ++ ']' :: rest)) = some inner := by
  have hlist (tail : Blanks) :
      listText? (tail.text ++ '[' :: (inner ++ ']' :: rest)) = some inner :=
    listText?_eq_some_iff.2 ⟨tail, rest, rfl, hinner⟩
  cases head with
  | entry first last hfirst hlast gap tail =>
    have hhead : entryHead? name (ListHead.text name (.entry first last hfirst hlast gap tail) ++
        '[' :: (inner ++ ']' :: rest)) = some (tail.text ++ '[' :: (inner ++ ']' :: rest)) :=
      entryHead?_eq_some_iff.2 ⟨first, last, gap, hfirst, hlast, by simp [ListHead.text]⟩
    rw [listFieldHere?, hhead, Option.bind_some, hlist]
  | keyword gap tail =>
    have hentry : entryHead? name (ListHead.text name (.keyword gap tail) ++
        '[' :: (inner ++ ']' :: rest)) = none := by
      rw [Option.eq_none_iff_forall_ne_some]
      intro found hfound
      obtain ⟨first, last, gap', hfirst, -, heq⟩ := entryHead?_eq_some_iff.1 hfound
      obtain ⟨c, others, rfl⟩ := List.exists_cons_of_ne_nil hne
      obtain rfl : c = first := by
        rw [ListHead.text, List.cons_append, List.cons_append] at heq
        exact (List.cons.inj heq).1
      exact absurd (hname c (by simp)) (by simp [(classes_of_isQuote hfirst).2])
    have hhead : keywordHead? name before (ListHead.text name (.keyword gap tail) ++
        '[' :: (inner ++ ']' :: rest)) = some (tail.text ++ '[' :: (inner ++ ']' :: rest)) :=
      keywordHead?_eq_some_iff.2 ⟨hbefore, gap, by simp [ListHead.text]⟩
    rw [listFieldHere?, hentry, hhead, Option.bind_none, Option.bind_some, hlist]

/-! ## The field -/

/-- A list that is given to a name, with the text around it. -/
structure WrittenField where
  name : List Char
  pre : List Char
  head : ListHead
  list : Passage
  post : List Char

def WrittenField.text (f : WrittenField) : List Char :=
  f.pre ++ (f.head.text f.name ++ '[' :: (f.list.render ++ ']' :: f.post))

/-- The first list that is given to a name is read as its distinct entries in increasing order. -/
theorem listField_written (f : WrittenField) (hne : f.name ≠ [])
    (hname : ∀ c ∈ f.name, isWord c = true) (hhead : f.head.MayFollow f.pre.getLast?)
    (hentries : ∀ token ∈ f.list.tokens, ']' ∉ token)
    (hprose : ∀ prose ∈ f.list.prose, ']' ∉ prose.text)
    (hfirst : ∀ i < f.pre.length,
      ¬ StartsList f.name (f.pre.take i).getLast? (f.text.drop i)) :
    (listField f.name f.text).Pairwise (· < ·) ∧
      ∀ entry, entry ∈ listField f.name f.text ↔ entry.toList ∈ f.list.tokens := by
  have hlast (gap : List Char) : lastOf none gap = gap.getLast? := by
    rw [lastOf_eq, Option.or_none]
  have hrender : ']' ∉ f.list.render :=
    Passage.notMem_render (by decide) (by decide) hentries hprose
  have hfound : findFirst (listFieldHere? f.name) none f.text = some f.list.render := by
    rw [WrittenField.text, findFirst_append fun i hi => ?_]
    · exact findFirst_eq_some (listFieldHere?_text hne hname (hlast f.pre ▸ hhead) hrender f.post)
    · rw [hlast]
      exact listFieldHere?_eq_none (hfirst i hi)
  have hfield : listField f.name f.text = distinctSorted (f.list.tokens.map String.ofList) := by
    rw [listField, hfound, ← f.list.spells.literals_eq]
  rw [hfield]
  refine ⟨pairwise_distinctSorted _, fun entry => ?_⟩
  rw [mem_distinctSorted, List.mem_map]
  constructor
  · rintro ⟨token, htoken, rfl⟩
    rwa [String.toList_ofList]
  · exact fun hentry => ⟨entry.toList, hentry, String.ofList_toList⟩

/-- A list with an entry that comes twice.  Before it the name stands behind a dot, and without a
bracket. -/
def sampleField : WrittenField where
  name := ['d']
  pre := ".d=['x'] 'd':".toList
  head := .entry '\'' '"' isQuote_single isQuote_double .space .none
  list := {
    lead := .of ['['] rfl
    items := [
      (⟨'\'', "b'".toList, isQuote_single⟩, .of [','] rfl),
      (⟨'"', ['a'], isQuote_double⟩, .none),
      (⟨'"', "b'".toList, isQuote_double⟩, .slash)] }
  post := " d=['y']".toList

theorem listField_written_sample :
    (sampleField.name ≠ [] ∧ (∀ c ∈ sampleField.name, isWord c = true) ∧
      sampleField.head.MayFollow sampleField.pre.getLast? ∧
      (∀ token ∈ sampleField.list.tokens, ']' ∉ token) ∧
      (∀ prose ∈ sampleField.list.prose, ']' ∉ prose.text) ∧
      ∀ i < sampleField.pre.length, ¬ StartsList sampleField.name
        (sampleField.pre.take i).getLast? (sampleField.text.drop i)) ∧
    sampleField.text = ".d=['x'] 'd':'d\" :[['b\\'',\"a\"\"b'\"\\] d=['y']".toList ∧
    (listField ['d'] sampleField.text).Pairwise (· < ·) ∧
    ∀ entry, entry ∈ listField ['d'] sampleField.text ↔
      entry.toList ∈ ["b'".toList, ['a'], "b'".toList] := by
  have hne : sampleField.name ≠ [] := by decide
  have hname : ∀ c ∈ sampleField.name, isWord c = true := List.all_eq_true.1 rfl
  have hentries : ∀ token ∈ sampleField.list.tokens, ']' ∉ token := by decide
  have hprose : ∀ prose ∈ sampleField.list.prose, ']' ∉ prose.text := by decide
  have hfirst : ∀ i < sampleField.pre.length, ¬ StartsList sampleField.name
      (sampleField.pre.take i).getLast? (sampleField.text.drop i) := by decide +kernel
  exact ⟨⟨hne, hname, trivial, hentries, hprose, hfirst⟩, rfl,
    listField_written sampleField hne hname trivial hentries hprose hfirst⟩

end AddonAtlas.Source
