import AddonAtlas.Proofs.Markup.Sibling

/-!
# Where elements stand

The elements of any text, well formed or not.  Each opening and each self-closing tag gives one element
(`map_view_elements`), and what the pairing of tags keeps true of the elements that are done and of the
tags that are still open (`Standing`) tells how any two elements stand to each other
(`elements_spans`): elements that are closed or self-closing are nested or apart, and one that is not
closed is apart from all others but the self-closing ones.
-/

namespace AddonAtlas.Markup

open Text

/-! ## Places of tags -/

theorem tagTail?_size {quote : Option Char} {taken text inner : List Char} {slash : Bool} {size : Nat}
    (h : tagTail? quote taken text = some (inner, slash, size)) :
    taken.length < size ∧ size ≤ taken.length + text.length := by
  fun_induction tagTail? quote taken text with
  | case1 => simp at h
  | case2 taken c rest q ih =>
    have hsize := ih h
    simp only [List.length_cons] at hsize ⊢
    omega
  | case3 taken rest =>
    simp only [Option.some.injEq, Prod.mk.injEq] at h
    simp only [List.length_cons]
    omega
  | case4 taken rest =>
    simp only [Option.some.injEq, Prod.mk.injEq] at h
    simp only [List.length_cons]
    omega
  | case5 taken c rest _ _ ih =>
    have hsize := ih h
    simp only [List.length_cons] at hsize ⊢
    omega

theorem tagBody?_size {name text : List Char} {closing : Bool} {tag : TagText} {size : Nat}
    (h : tagBody? name closing text = some (tag, size)) : 0 < size ∧ size ≤ text.length := by
  simp only [tagBody?, Option.bind_eq_bind, Option.bind_eq_some_iff] at h
  obtain ⟨rest, hname, -, -, ⟨inner, slash, tail⟩, htail, hsize⟩ := h
  have htail := tagTail?_size htail
  rw [List.length_nil, Nat.zero_add] at htail
  rw [after?_eq_some_iff.1 hname, List.length_append]
  have hsize : name.length + tail = size := congrArg (·.2) (Option.some.inj hsize)
  omega

theorem sized_tag? (name : List Char) : Sized (tag? name) := by
  intro before text value size h
  unfold tag? at h
  split at h
  · next rest =>
    split at h
    · next tag size' hbody =>
      have hsize := tagBody?_size hbody
      simp only [Option.some.injEq, Prod.mk.injEq] at h
      simp only [List.length_cons]
      omega
    · obtain ⟨⟨tag, size'⟩, hbody, heq⟩ := Option.map_eq_some_iff.1 h
      have hsize := tagBody?_size hbody
      simp only [Prod.mk.injEq] at heq
      simp only [List.length_cons] at hsize ⊢
      omega
  · next rest _ =>
    obtain ⟨⟨tag, size'⟩, hbody, heq⟩ := Option.map_eq_some_iff.1 h
    have hsize := tagBody?_size hbody
    simp only [Prod.mk.injEq] at heq
    simp only [List.length_cons]
    omega
  · simp at h

/-- A tag with the start of the next opening tag, as both stand in a text. -/
structure Placed (text : List Char) (t : Tag × Nat) : Prop where
  start_lt : t.1.start < t.1.stop
  stop_le : t.1.stop ≤ t.2
  next_le : t.2 ≤ text.length
  rest_suffix : t.1.rest <:+ text

/-- A tag stands behind another one, and behind the next opening tag after that if it is one. -/
structure Follows (a b : Tag × Nat) : Prop where
  apart : a.1.stop ≤ b.1.start
  next_le : b.1.value.kind = .opening → a.2 ≤ b.1.start

/-- Where the next opening tag starts: not before the tags are, and before every opening one of them. -/
theorem next_places {size place : Nat} {tags : List Tag}
    (hplaces : ∀ t ∈ tags, place ≤ t.start ∧ t.start < t.stop ∧ t.stop ≤ size)
    (horder : tags.Pairwise fun a b => a.stop ≤ b.start) (hsize : place ≤ size) :
    let next := ((tags.find? fun t => decide (t.value.kind = .opening)).map (·.start)).getD size
    place ≤ next ∧ next ≤ size ∧ ∀ t ∈ tags, t.value.kind = .opening → next ≤ t.start := by
  induction tags with
  | nil => simpa using hsize
  | cons tag tags ih =>
    obtain ⟨⟨hplace, hlt, hstop⟩, hrest⟩ := List.forall_mem_cons.1 hplaces
    obtain ⟨hbehind, horder⟩ := List.pairwise_cons.1 horder
    by_cases hkind : tag.value.kind = .opening
    · simp only [List.find?_cons, hkind, decide_true, Option.map_some, Option.getD_some]
      refine ⟨hplace, by omega, fun t ht _ => ?_⟩
      rcases List.mem_cons.1 ht with rfl | ht
      · exact Nat.le_refl _
      · have := hbehind t ht
        omega
    · obtain ⟨hle, hsize, hnext⟩ := ih hrest horder
      simp only [List.find?_cons, hkind, decide_false]
      refine ⟨hle, hsize, fun t ht hopening => ?_⟩
      rcases List.mem_cons.1 ht with rfl | ht
      · exact absurd hopening hkind
      · exact hnext t ht hopening

theorem withNextOpening_places {text : List Char} {tags : List Tag}
    (hplaces : ∀ t ∈ tags, t.start < t.stop ∧ t.stop ≤ text.length ∧ t.rest <:+ text)
    (horder : tags.Pairwise fun a b => a.stop ≤ b.start) :
    (∀ t ∈ withNextOpening text.length tags, Placed text t) ∧
      (withNextOpening text.length tags).Pairwise Follows := by
  induction tags with
  | nil => simp [withNextOpening]
  | cons tag tags ih =>
    obtain ⟨⟨hlt, hstop, hsuffix⟩, hrest⟩ := List.forall_mem_cons.1 hplaces
    obtain ⟨hbehind, horder⟩ := List.pairwise_cons.1 horder
    obtain ⟨hplaced, hfollows⟩ := ih hrest horder
    have hplaces : ∀ t ∈ tags, tag.stop ≤ t.start ∧ t.start < t.stop ∧ t.stop ≤ text.length :=
      fun t ht => ⟨hbehind t ht, (hrest t ht).1, (hrest t ht).2.1⟩
    obtain ⟨hle, hsize, hnext⟩ := next_places hplaces horder hstop
    rw [withNextOpening_cons]
    refine ⟨List.forall_mem_cons.2 ⟨⟨hlt, hle, hsize, hsuffix⟩, hplaced⟩,
      List.pairwise_cons.2 ⟨fun t ht => ?_, hfollows⟩⟩
    have hmem : t.1 ∈ tags := by
      rw [← map_fst_withNextOpening text.length tags]
      exact List.mem_map_of_mem ht
    exact ⟨hbehind t.1 hmem, hnext t.1 hmem⟩

/-! ## Spans -/

namespace Element

/-- Two elements have no place in common. -/
def Apart (a b : Element) : Prop :=
  a.stop ≤ b.start ∨ b.stop ≤ a.start

/-- An element stands in the span of another one. -/
def Within (a b : Element) : Prop :=
  b.start ≤ a.start ∧ a.stop ≤ b.stop

/-- Is the end of the element written in the text? -/
def HasEnd (e : Element) : Prop :=
  e.closed = true ∨ e.selfClosing = true

/-- Is the element not closed, or not self-closing? -/
def HasBody (e : Element) : Prop :=
  e.closed = false ∨ e.selfClosing = false

/-- How two elements of a text stand to each other: closed and self-closing ones are nested or apart, and
one that is not closed is apart from every other one that is not closed or not self-closing. -/
structure Agrees (a b : Element) : Prop where
  nested : a.HasEnd → b.HasEnd → Apart a b ∨ Within a b ∨ Within b a
  apart : a.closed = false → b.HasBody → Apart a b
  apart_symm : b.closed = false → a.HasBody → Apart a b

theorem Apart.symm {a b : Element} (h : Apart a b) : Apart b a :=
  Or.symm h

theorem Agrees.symm {a b : Element} (h : Agrees a b) : Agrees b a where
  nested hb ha := by
    rcases h.nested ha hb with h | h | h
    · exact .inl h.symm
    · exact .inr (.inr h)
    · exact .inr (.inl h)
  apart hb ha := (h.apart_symm hb ha).symm
  apart_symm ha hb := (h.apart ha hb).symm

theorem not_hasEnd_ofUnclosed (cap next : Nat) (first : Tag) : ¬ (ofUnclosed cap next first).HasEnd := by
  simp [HasEnd, ofUnclosed]

theorem HasBody.not_selfClosing {e : Element} (h : e.HasBody) (hclosed : e.closed = true) :
    e.selfClosing = false :=
  h.resolve_left (by simp [hclosed])

/-- An element has a place in the text, and a body from it. -/
structure StandsIn (cap : Nat) (text : List Char) (e : Element) : Prop where
  start_lt : e.start < e.stop
  stop_le : e.stop ≤ text.length
  body_infix : e.body <:+: text
  body_le : e.body.length ≤ cap

end Element

theorem take_infix {rest text : List Char} (h : rest <:+ text) (n : Nat) : rest.take n <:+: text :=
  (List.take_prefix n rest).isInfix.trans h.isInfix

/-- What the pairing of tags keeps true of the elements that are done, the tags that are still open, last
one first, and the tags to come. -/
structure Standing (cap : Nat) (text : List Char) (pending : List (Tag × Nat)) (done : List Element)
    (tags : List (Tag × Nat)) : Prop where
  /-- All tags have their places, one behind the other. -/
  placed : ∀ t ∈ tags, Placed text t
  follows : tags.Pairwise Follows
  pending_placed : ∀ p ∈ pending, Placed text p
  pending_follows : ∀ p ∈ pending, ∀ t ∈ tags, Follows p t
  /-- The next opening tag after an open one is not behind the one that was opened after it. -/
  pending_order : pending.Pairwise fun a b => b.2 ≤ a.1.start
  done_stands : ∀ e ∈ done, e.StandsIn cap text
  done_closed : ∀ e ∈ done, e.closed = true
  done_before : ∀ e ∈ done, ∀ t ∈ tags, e.stop ≤ t.1.start
  done_agrees : done.Pairwise Element.Agrees
  /-- An element that is done stands before an open tag, or behind it; there it stands behind the next
  opening tag, unless it is self-closing. -/
  done_pending : ∀ e ∈ done, ∀ p ∈ pending,
    e.stop ≤ p.1.start ∨ p.1.stop ≤ e.start ∧ (e.selfClosing = false → p.2 ≤ e.start)

namespace Standing

variable {cap : Nat} {text : List Char} {pending : List (Tag × Nat)} {done : List Element}
  {t : Tag × Nat} {tags : List (Tag × Nat)}

/-- The tag to come is passed over. -/
theorem pass (h : Standing cap text pending done (t :: tags)) : Standing cap text pending done tags :=
  { h with
    placed := fun u hu => h.placed u (List.mem_cons_of_mem _ hu)
    follows := h.follows.of_cons
    pending_follows := fun p hp u hu => h.pending_follows p hp u (List.mem_cons_of_mem _ hu)
    done_before := fun e he u hu => h.done_before e he u (List.mem_cons_of_mem _ hu) }

/-- An opening tag is open from here on. -/
theorem opening (h : Standing cap text pending done (t :: tags)) (hkind : t.1.value.kind = .opening) :
    Standing cap text (t :: pending) done tags :=
  { h.pass with
    pending_placed := List.forall_mem_cons.2 ⟨h.placed t List.mem_cons_self, h.pending_placed⟩
    pending_follows := List.forall_mem_cons.2
      ⟨(List.pairwise_cons.1 h.follows).1, h.pass.pending_follows⟩
    pending_order := List.pairwise_cons.2
      ⟨fun p hp => (h.pending_follows p hp t List.mem_cons_self).next_le hkind, h.pending_order⟩
    done_pending := fun e he => List.forall_mem_cons.2
      ⟨.inl (h.done_before e he t List.mem_cons_self), h.done_pending e he⟩ }

/-- A new element that is closed. -/
theorem add {e : Element} (h : Standing cap text pending done tags) (hstands : e.StandsIn cap text)
    (hclosed : e.closed = true) (hbefore : ∀ u ∈ tags, e.stop ≤ u.1.start)
    (hdone : ∀ d ∈ done, e.Apart d ∨ d.Within e)
    (hpending : ∀ p ∈ pending, p.1.stop ≤ e.start ∧ (e.selfClosing = false → p.2 ≤ e.start)) :
    Standing cap text pending (e :: done) tags :=
  { h with
    done_stands := List.forall_mem_cons.2 ⟨hstands, h.done_stands⟩
    done_closed := List.forall_mem_cons.2 ⟨hclosed, h.done_closed⟩
    done_before := List.forall_mem_cons.2 ⟨hbefore, h.done_before⟩
    done_agrees := by
      refine List.pairwise_cons.2 ⟨fun d hd => ⟨fun _ _ => ?_, ?_, ?_⟩, h.done_agrees⟩
      · exact (hdone d hd).imp_right .inr
      · exact fun hopen => absurd hclosed (by simp [hopen])
      · exact fun hopen => absurd (h.done_closed d hd) (by simp [hopen])
    done_pending := List.forall_mem_cons.2 ⟨fun p hp => .inr (hpending p hp), h.done_pending⟩ }

theorem selfClosing (h : Standing cap text pending done (t :: tags)) :
    Standing cap text pending (.ofSelfClosing t.1 :: done) tags := by
  have ht := h.placed t List.mem_cons_self
  apply h.pass.add
  · exact ⟨ht.start_lt, ht.stop_le.trans ht.next_le, List.nil_infix, Nat.zero_le _⟩
  · rfl
  · exact fun u hu => ((List.pairwise_cons.1 h.follows).1 u hu).apart
  · exact fun d hd => .inl (.inr (h.done_before d hd t List.mem_cons_self))
  · exact fun p hp => ⟨(h.pending_follows p hp t List.mem_cons_self).apart,
      fun hself => absurd hself (by simp [Element.ofSelfClosing])⟩

/-- A closing tag closes the last open one. -/
theorem closing {first : Tag × Nat} (h : Standing cap text (first :: pending) done (t :: tags)) :
    Standing cap text pending (.ofPair cap first.1 t.1 :: done) tags := by
  have ht := h.placed t List.mem_cons_self
  have hfirst := h.pending_placed first List.mem_cons_self
  have hapart := (h.pending_follows first List.mem_cons_self t List.mem_cons_self).apart
  obtain ⟨horder, hpending⟩ := List.pairwise_cons.1 h.pending_order
  have hold : Standing cap text pending done tags :=
    { h.pass with
      pending_placed := fun p hp => h.pending_placed p (List.mem_cons_of_mem _ hp)
      pending_follows := fun p hp => h.pass.pending_follows p (List.mem_cons_of_mem _ hp)
      pending_order := hpending
      done_pending := fun e he p hp => h.done_pending e he p (List.mem_cons_of_mem _ hp) }
  apply hold.add
  · refine ⟨?_, ht.stop_le.trans ht.next_le, take_infix hfirst.rest_suffix _, ?_⟩
    · have := hfirst.start_lt
      have := ht.start_lt
      show first.1.start < t.1.stop
      omega
    · exact (List.length_take_le _ _).trans (Nat.min_le_right _ _)
  · rfl
  · exact fun u hu => ((List.pairwise_cons.1 h.follows).1 u hu).apart
  · intro d hd
    have hbefore := h.done_before d hd t List.mem_cons_self
    have hstop := ht.start_lt
    rcases h.done_pending d hd first List.mem_cons_self with hd | ⟨hd, -⟩
    · exact .inl (.inr hd)
    · refine .inr ⟨?_, ?_⟩
      · show first.1.start ≤ d.start
        have := hfirst.start_lt
        omega
      · show d.stop ≤ t.1.stop
        omega
  · intro p hp
    have hle := (h.pending_placed p (List.mem_cons_of_mem _ hp)).stop_le
    have hnext : p.2 ≤ first.1.start := horder p hp
    exact ⟨hle.trans hnext, fun _ => hnext⟩

/-- The elements when no tag is left: the open ones become elements that are not closed. -/
theorem finish (h : Standing cap text pending done []) :
    (∀ e ∈ pairTags cap pending done [], e.StandsIn cap text) ∧
      (pairTags cap pending done []).Pairwise Element.Agrees := by
  have hresult : pairTags cap pending done [] =
      pending.map (fun p => Element.ofUnclosed cap p.2 p.1) ++ done := rfl
  rw [hresult]
  constructor
  · intro e he
    rcases List.mem_append.1 he with he | he
    · obtain ⟨p, hp, rfl⟩ := List.mem_map.1 he
      obtain ⟨hstart, hstop, hnext, hrest⟩ := h.pending_placed p hp
      refine ⟨?_, (Nat.min_le_left _ _).trans hnext, take_infix hrest _, ?_⟩
      · show p.1.start < min p.2 (p.1.stop + cap)
        omega
      · exact (List.length_take_le _ _).trans (Nat.min_le_right _ _)
    · exact h.done_stands e he
  · refine List.pairwise_append.2 ⟨?_, h.done_agrees, fun u hu d hd => ?_⟩
    · rw [List.pairwise_map]
      refine h.pending_order.imp fun {a b} hab => ?_
      have hapart : (Element.ofUnclosed cap a.2 a.1).Apart (.ofUnclosed cap b.2 b.1) :=
        .inr ((Nat.min_le_left _ _).trans hab)
      exact ⟨fun hend => absurd hend (Element.not_hasEnd_ofUnclosed _ _ _), fun _ _ => hapart,
        fun _ _ => hapart⟩
    · obtain ⟨p, hp, rfl⟩ := List.mem_map.1 hu
      have hclosed := h.done_closed d hd
      refine ⟨fun hend => absurd hend (Element.not_hasEnd_ofUnclosed _ _ _), fun _ hbody => ?_,
        fun hopen => absurd hclosed (by simp [hopen])⟩
      rcases h.done_pending d hd p hp with hbefore | ⟨-, hbehind⟩
      · exact .inr hbefore
      · exact .inl ((Nat.min_le_left _ _).trans (hbehind (hbody.not_selfClosing hclosed)))

/-- The elements of any tags stand in the text and agree with each other. -/
theorem pairTags (h : Standing cap text pending done tags) :
    (∀ e ∈ pairTags cap pending done tags, e.StandsIn cap text) ∧
      (Markup.pairTags cap pending done tags).Pairwise Element.Agrees := by
  induction tags generalizing pending done with
  | nil => exact h.finish
  | cons t tags ih =>
    cases hkind : t.1.value.kind with
    | opening =>
      rw [pairTags_opening hkind]
      exact ih (h.opening hkind)
    | selfClosing =>
      rw [pairTags_selfClosing hkind]
      exact ih h.selfClosing
    | closing =>
      cases pending with
      | nil =>
        rw [pairTags_closing_nil hkind]
        exact ih h.pass
      | cons first pending =>
        rw [pairTags_closing_cons hkind]
        exact ih h.closing

end Standing

/-! ## One element for each tag -/

/-- What a tag tells of its element: where it starts, its attributes, and whether it is self-closing. -/
def Tag.view (t : Tag) : Nat × Attributes × Bool :=
  (t.start, attributes t.value.inner, decide (t.value.kind = .selfClosing))

def Element.view (e : Element) : Nat × Attributes × Bool :=
  (e.start, e.attributes, e.selfClosing)

/-- Does a tag give an element? -/
def Tag.startsElement (t : Tag) : Bool :=
  decide (t.value.kind ≠ .closing)

/-- Pairing makes one element of each tag that is open or to come, closing ones apart. -/
theorem map_view_pairTags (cap : Nat) {pending : List (Tag × Nat)} (done : List Element)
    (tags : List (Tag × Nat)) (hpending : ∀ p ∈ pending, p.1.value.kind = .opening) :
    ((pairTags cap pending done tags).map Element.view).Perm
      (pending.map (·.1.view) ++ (done.map Element.view ++
        ((tags.map Prod.fst).filter Tag.startsElement).map Tag.view)) := by
  induction tags generalizing pending done with
  | nil =>
    have hview : pending.map (fun p => (Element.ofUnclosed cap p.2 p.1).view) =
        pending.map (·.1.view) := by
      refine List.map_congr_left fun p hp => ?_
      simp [Element.view, Element.ofUnclosed, Tag.view, hpending p hp]
    simp [pairTags, Function.comp_def, hview]
  | cons t tags ih =>
    cases hkind : t.1.value.kind with
    | opening =>
      rw [pairTags_opening hkind]
      refine (ih done (List.forall_mem_cons.2 ⟨hkind, hpending⟩)).trans ?_
      rw [List.map_cons, List.map_cons, List.filter_cons_of_pos (by simp [Tag.startsElement, hkind]),
        List.map_cons, ← List.append_assoc (pending.map _), ← List.append_assoc]
      exact List.perm_middle.symm
    | selfClosing =>
      rw [pairTags_selfClosing hkind]
      refine (ih _ hpending).trans (List.Perm.append_left _ ?_)
      have hview : (Element.ofSelfClosing t.1).view = t.1.view := by
        simp [Element.view, Element.ofSelfClosing, Tag.view, hkind]
      rw [List.map_cons, List.map_cons, List.filter_cons_of_pos (by simp [Tag.startsElement, hkind]),
        List.map_cons, hview]
      exact List.perm_middle.symm
    | closing =>
      have hpass : ((t :: tags).map Prod.fst).filter Tag.startsElement =
          (tags.map Prod.fst).filter Tag.startsElement := by
        rw [List.map_cons, List.filter_cons_of_neg (by simp [Tag.startsElement, hkind])]
      rw [hpass]
      cases pending with
      | nil =>
        rw [pairTags_closing_nil hkind]
        exact ih done hpending
      | cons first pending =>
        obtain ⟨hfirst, hpending⟩ := List.forall_mem_cons.1 hpending
        have hview : (Element.ofPair cap first.1 t.1).view = first.1.view := by
          simp [Element.view, Element.ofPair, Tag.view, hfirst]
        rw [pairTags_closing_cons hkind]
        refine (ih _ hpending).trans ?_
        rw [List.map_cons, hview]
        exact List.perm_middle

section Text

variable (name : List Char) (cap : Nat) (text : List Char)

/-- The tags of a text, with the next opening tag for each, as pairing starts with them. -/
theorem standing_tags :
    Standing cap text [] [] (withNextOpening text.length (tags name text)) := by
  obtain ⟨hplaces, horder⟩ := findAll_places (sized_tag? name) text
  have hsuffix : ∀ t ∈ tags name text, t.start < t.stop ∧ t.stop ≤ text.length ∧ t.rest <:+ text :=
    fun t ht => ⟨(hplaces t ht).1, (hplaces t ht).2.1, (hplaces t ht).2.2 ▸ List.drop_suffix _ _⟩
  obtain ⟨hplaced, hfollows⟩ := withNextOpening_places hsuffix horder
  exact { placed := hplaced, follows := hfollows, pending_order := .nil, done_agrees := .nil,
          pending_placed := by simp, pending_follows := by simp, done_stands := by simp,
          done_closed := by simp, done_before := by simp, done_pending := by simp }

theorem pairwise_start_tags : (tags name text).Pairwise fun a b => a.start < b.start := by
  obtain ⟨hplaces, horder⟩ := findAll_places (sized_tag? name) text
  refine horder.imp_of_mem fun {a b} ha _ hab => ?_
  have hstart := (hplaces a ha).1
  omega

/-- Each opening and each self-closing tag of a text gives one element, in order. -/
theorem map_view_elements :
    (elements name cap text).map Element.view =
      ((tags name text).filter Tag.startsElement).map Tag.view := by
  have hperm := map_view_pairTags cap [] (withNextOpening text.length (tags name text))
    (List.forall_mem_nil _)
  rw [map_fst_withNextOpening] at hperm
  have hsorted : (((tags name text).filter Tag.startsElement).map Tag.view).Pairwise
      fun a b => a.1 < b.1 :=
    List.pairwise_map.2 ((pairwise_start_tags name text).filter _)
  have hmap (l : List Element) : (l.mergeSort fun a b => decide (a.start ≤ b.start)).map Element.view =
      (l.map Element.view).mergeSort fun a b => decide (a.1 ≤ b.1) :=
    List.map_mergeSort fun _ _ _ _ => rfl
  rw [elements, hmap]
  exact mergeSort_eq_of_perm (fun view => view.1) hperm hsorted

/-- The elements of a text, however malformed: one for each opening or self-closing tag, in order of
their starts, each with a place in the text and a body from it that is not too long.  Elements that are
closed or self-closing are nested or apart, and an element that is not closed is apart from all others
but the self-closing ones. -/
theorem elements_spans :
    (elements name cap text).map Element.view =
        ((tags name text).filter Tag.startsElement).map Tag.view ∧
      (elements name cap text).Pairwise (fun a b => a.start < b.start) ∧
      (∀ e ∈ elements name cap text, e.StandsIn cap text) ∧
      (elements name cap text).Pairwise Element.Agrees := by
  have hview := map_view_elements name cap text
  obtain ⟨hstands, hagrees⟩ := (standing_tags name cap text).pairTags
  have hperm : (elements name cap text).Perm
      (pairTags cap [] [] (withNextOpening text.length (tags name text))) :=
    List.mergeSort_perm _ _
  refine ⟨hview, ?_, fun e he => hstands e (hperm.mem_iff.1 he), ?_⟩
  · have hsorted : ((elements name cap text).map Element.view).Pairwise fun a b => a.1 < b.1 := by
      rw [hview]
      exact List.pairwise_map.2 ((pairwise_start_tags name text).filter _)
    rw [List.pairwise_map] at hsorted
    exact hsorted
  · exact (hperm.pairwise_iff Element.Agrees.symm).2 hagrees

end Text

end AddonAtlas.Markup
