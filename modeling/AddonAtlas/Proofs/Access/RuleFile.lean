import AddonAtlas.Access.Rule
import AddonAtlas.Proofs.Markup.Reference
import AddonAtlas.Proofs.Text.Order

/-!
# Files of record rules

A `WrittenRule` is a record of a rule with its fields in any order, one of which may be the field
that lists the groups of the rule.  The rules that are read from a data file are those written in
it, in order, and each has the groups that its own field lists, whatever other records of the file
refer to (`parseRules_renderItems`).
-/

namespace AddonAtlas.Access

open Text Markup

/-! ## Fields -/

/-- The text in a field and the blanks of its closing tag. -/
structure FieldText where
  text : List Char
  tail : Blanks
  plain : '<' ∉ text

/-- A field as it is written, with the text before it. A field without content is self-closing. -/
structure WrittenField where
  gap : List Char
  head : TagHead
  content : Option FieldText
  plain_gap : '<' ∉ gap
  plain_head : head.Plain

namespace WrittenField

def tag (f : WrittenField) : WrittenTag :=
  ⟨if f.content.isSome then .opening else .selfClosing, f.head⟩

/-- What stands behind the tag that opens a field. -/
def inside (f : WrittenField) : List Char :=
  match f.content with
  | none => []
  | some c => c.text ++ WrittenTag.text fieldName ⟨.closing, ⟨[], c.tail⟩⟩

def text (f : WrittenField) : List Char :=
  f.gap ++ (f.tag.text fieldName ++ f.inside)

/-- The forest that starts with a field. -/
def onto (f : WrittenField) (rest : Forest fieldName) : Forest fieldName :=
  match f.content with
  | none => .leaf (.plain f.gap f.plain_gap) f.head rest
  | some c => .branch (.plain f.gap f.plain_gap) f.head (.text (.plain c.text c.plain)) c.tail rest

theorem render_onto (f : WrittenField) (rest : Forest fieldName) :
    (f.onto rest).render = f.text ++ rest.render := by
  obtain ⟨gap, head, content, plain_gap, plain_head⟩ := f
  cases content <;> simp [onto, text, tag, inside, Forest.render]

theorem plain_onto (f : WrittenField) {rest : Forest fieldName} (h : rest.Plain) :
    (f.onto rest).Plain := by
  obtain ⟨gap, head, content, plain_gap, plain_head⟩ := f
  cases content with
  | none => exact ⟨plain_gap, plain_head, h⟩
  | some c => exact ⟨plain_gap, plain_head, c.plain, h⟩

end WrittenField

/-- A field without a call. -/
structure CalmField extends WrittenField where
  calm_gap : ¬ callWord <:+: gap
  calm_head : head.Calm
  calm_content : ∀ c ∈ content, ¬ callWord <:+: c.text

/-- The field of the groups, whose `eval` lists calls. -/
structure GroupsField extends WrittenField where
  before : List WrittenAttribute
  eval : WrittenAttribute
  after : List WrittenAttribute
  list : CallList
  name_eq : head.attr "name" = "groups"
  attributes_eq : head.attributes = before ++ eval :: after
  eval_eq : eval.entry = ("eval", .ofList list.text)
  calm_gap : ¬ callWord <:+: gap
  calm_before : ∀ a ∈ before, ¬ callWord <:+: a.value
  calm_after : ∀ a ∈ after, ¬ callWord <:+: a.value
  calm_content : ∀ c ∈ content, ¬ callWord <:+: c.text

/-- No call starts in the text of a field behind its opening tag. -/
theorem WrittenField.neverStarts_inside {f : WrittenField}
    (h : ∀ c ∈ f.content, ¬ callWord <:+: c.text) : NeverStarts callWord f.inside := by
  obtain ⟨gap, head, content, plain_gap, plain_head⟩ := f
  cases content with
  | none => exact neverStarts_nil _
  | some c =>
    have hclose : NeverStarts callWord (WrittenTag.text fieldName ⟨.closing, ⟨[], c.tail⟩⟩) :=
      TagHead.Calm.neverStarts (by simp [TagHead.Calm])
    exact hclose.append_left (h c rfl) (by decide) callWord_ne_nil

theorem CalmField.neverStarts (f : CalmField) : NeverStarts callWord f.text := by
  obtain ⟨more, hmore⟩ := f.tag.exists_text_eq fieldName
  have htag : NeverStarts callWord (f.tag.text fieldName) :=
    TagHead.Calm.neverStarts f.calm_head
  have hopened := htag.append (f.neverStarts_inside f.calm_content)
  rw [hmore, List.cons_append] at hopened
  rw [WrittenField.text, hmore, List.cons_append]
  exact hopened.append_left f.calm_gap (by decide) callWord_ne_nil

namespace GroupsField

/-- The text of the field before its list. -/
def lead (f : GroupsField) : List Char :=
  f.gap ++ (f.tag.opener ++ (fieldName.text ++
    (written [] (f.before.map WrittenAttribute.segment) ++
      (f.eval.gap.text ++ (f.eval.first :: f.eval.others ++ ['='] ++ [f.eval.quote])))))

/-- The text of the field behind its list and the quote that ends it. -/
def trail (f : GroupsField) : List Char :=
  written f.head.tail.text (f.after.map WrittenAttribute.segment) ++ (f.tag.closer ++ f.inside)

theorem text_eq (f : GroupsField) :
    f.text = f.lead ++ (f.list.text ++ f.eval.quote :: f.trail) := by
  have hvalue : f.eval.value = f.list.text := String.ofList_injective (Prod.mk.inj f.eval_eq).2
  have hhead : f.head.text = written [] (f.before.map WrittenAttribute.segment) ++
      (f.eval.gap.text ++ (f.eval.text ++
        written f.head.tail.text (f.after.map WrittenAttribute.segment))) := by
    rw [written_append_last, List.nil_append, TagHead.text, f.attributes_eq, List.map_append,
      written_append]
    rfl
  have htag : f.tag.head = f.head := rfl
  simp [WrittenField.text, WrittenTag.text, htag, hhead, WrittenAttribute.text, hvalue, lead, trail]

theorem neverStarts_lead (f : GroupsField) : NeverStarts callWord f.lead := by
  obtain ⟨sign, hsign⟩ : ∃ sign, f.tag.opener ++ fieldName.text = '<' :: sign ∧ 'r' ∉ sign := by
    rw [WrittenTag.opener]
    cases f.tag.kind <;> exact ⟨_, rfl, by decide⟩
  have hbefore : NeverStarts callWord (written [] (f.before.map WrittenAttribute.segment)) :=
    neverStarts_attributes f.calm_before List.not_mem_nil
  have hopened : NeverStarts callWord ('<' :: sign) :=
    neverStarts_of_notMem (by simpa using hsign.2)
  have hrest := hopened.append (hbefore.append f.eval.neverStarts_name)
  rw [lead, ← List.append_assoc f.tag.opener, hsign.1]
  exact hrest.append_left f.calm_gap (by decide) callWord_ne_nil

theorem neverStarts_trail (f : GroupsField) : NeverStarts callWord f.trail := by
  have hcloser : 'r' ∉ f.tag.closer := by
    rw [WrittenTag.closer]
    cases f.tag.kind <;> decide
  exact (neverStarts_attributes f.calm_after (f.head.tail.notMem (by decide))).append
    ((neverStarts_of_notMem hcloser).append (f.neverStarts_inside f.calm_content))

end GroupsField

/-! ## Rules -/

/-- A record rule as it is written, with its fields in order. -/
structure WrittenRule where
  head : TagHead
  before : List CalmField
  groups : Option GroupsField
  after : List CalmField
  last : List Char
  tail : Blanks
  plain_head : head.Plain
  plain_last : '<' ∉ last
  calm_last : ¬ callWord <:+: last
  id_ne : head.attr "id" ≠ ""
  model_eq : head.attr "model" = "ir.rule"

namespace WrittenRule

def fields (r : WrittenRule) : List WrittenField :=
  r.before.map (·.toWrittenField) ++
    (r.groups.toList.map (·.toWrittenField) ++ r.after.map (·.toWrittenField))

def body (r : WrittenRule) : Forest fieldName :=
  r.fields.foldr WrittenField.onto (.text (.plain r.last r.plain_last))

/-- The names of the groups that a rule refers to. -/
def targets (r : WrittenRule) : List String :=
  (r.groups.map fun f => f.list.targets).getD []

theorem render_body (r : WrittenRule) :
    r.body.render = r.fields.flatMap WrittenField.text ++ r.last := by
  rw [body]
  induction r.fields with
  | nil => rfl
  | cons f fields ih =>
    rw [List.foldr_cons, f.render_onto, ih, List.flatMap_cons, List.append_assoc]

theorem plain_body (r : WrittenRule) : r.body.Plain := by
  rw [body]
  induction r.fields with
  | nil => exact r.plain_last
  | cons f fields ih => exact f.plain_onto ih

def record (r : WrittenRule) : WrittenRecord where
  head := r.head
  body := r.body
  tail := r.tail
  plain_head := r.plain_head
  plain_body := r.plain_body
  id_ne := r.id_ne

theorem neverStarts_calm (fields : List CalmField) :
    NeverStarts callWord ((fields.map (·.toWrittenField)).flatMap WrittenField.text) := by
  induction fields with
  | nil => exact neverStarts_nil _
  | cons f fields ih => exact f.neverStarts.append ih

/-- The references in the body of a rule are those that its field of groups lists. -/
theorem refTargets_body (r : WrittenRule) : refTargets r.body.render = r.targets := by
  have hlast : Quiet refCall? [] r.last :=
    quiet_of_not_infix refCall?_eq_none r.calm_last (by simp)
  have hquiet {text : List Char} (h : NeverStarts callWord text) (rest : List Char) :
      Quiet refCall? rest text := quiet_of_neverStarts refCall?_eq_none h rest
  have hafter : Quiet refCall? []
      ((r.after.map (·.toWrittenField)).flatMap WrittenField.text ++ r.last) :=
    quiet_append.2 ⟨hquiet (neverStarts_calm r.after) _, hlast⟩
  rw [render_body, fields, targets]
  cases r.groups with
  | none =>
    have hall := quiet_append.2 ⟨hquiet (neverStarts_calm r.before) _, hafter⟩
    simpa using refTargets_quiet hall
  | some f =>
    have htrail := quiet_append.2 ⟨hquiet f.neverStarts_trail _, hafter⟩
    have hfound := refTargets_callList ((neverStarts_calm r.before).append f.neverStarts_lead)
      htrail f.eval.isQuote_quote f.list
    simpa [f.text_eq] using hfound

end WrittenRule

/-! ## Files -/

/-- An item of a file of rules. -/
inductive RuleItem
  /-- Text between the records. -/
  | gap (words : List Char) (plain : '<' ∉ words)
  | comment (c : Comment)
  | rule (r : WrittenRule)
  /-- A record of another model, which may refer to anything. -/
  | other (r : WrittenRecord) (model_ne : r.head.attr "model" ≠ "ir.rule")

namespace RuleItem

def item : RuleItem → Item
  | gap words plain => .gap words plain
  | comment c => .comment c
  | rule r => .record r.record
  | other r _ => .record r

def rule? : RuleItem → Option WrittenRule
  | rule r => some r
  | _ => none

end RuleItem

def rulesIn (items : List RuleItem) : List WrittenRule :=
  items.filterMap RuleItem.rule?

theorem filter_recordsIn (items : List RuleItem) :
    ((recordsIn (items.map RuleItem.item)).filter fun r => r.head.attr "model" == "ir.rule") =
      (rulesIn items).map WrittenRule.record := by
  induction items with
  | nil => rfl
  | cons item items ih =>
    cases item with
    | gap words plain => exact ih
    | comment c => exact ih
    | rule r =>
      change (r.record :: recordsIn (items.map RuleItem.item)).filter _ = _
      rw [List.filter_cons_of_pos (by simpa [WrittenRule.record] using r.model_eq), ih]
      rfl
    | other r model_ne =>
      change (r :: recordsIn (items.map RuleItem.item)).filter _ = _
      rw [List.filter_cons_of_neg (by simpa using model_ne), ih]
      rfl

/-- The rule that a written one tells, with these groups. -/
def Rule.ofWritten (module file : String) (r : WrittenRule) (groups : List String) : Rule where
  module
  file
  id := r.head.attr "id"
  modelRef := r.body.childAttr "model_id" "ref"
  groups
  hasDomain := decide (r.body.childText "domain_force" ≠ "" ∨
    stripString (r.body.childAttr "domain_force" "eval") ≠ "")

theorem Rule.ofRecord_element (module file : String) {cap : Nat} {r : WrittenRule}
    (hlimit : r.body.render.length ≤ bodyLimit) (hcap : r.body.render.length ≤ cap) :
    Rule.ofRecord module file (r.record.node.element cap) =
      Rule.ofWritten module file r (r.targets.toFinset.sort (· ≤ ·)) := by
  have hbody : (r.record.node.element cap).body = r.body.render := r.record.body_element hcap
  rw [Rule.ofRecord, hbody, r.refTargets_body, ref_fields r.body (by decide),
    text_fields r.body (by decide) hlimit, eval_fields r.body (by decide), Node.attr_element,
    distinctSorted_eq_sort, Rule.ofWritten]
  congr 1
  rw [Bool.eq_iff_iff]
  simp

theorem Rule.isGlobal_ofWritten (module file : String) (r : WrittenRule) :
    (Rule.ofWritten module file r (r.targets.toFinset.sort (· ≤ ·))).isGlobal = true ↔
      r.targets = [] := by
  rw [Rule.isGlobal, Rule.ofWritten, List.isEmpty_iff, ← List.length_eq_zero_iff,
    Finset.length_sort, Finset.card_eq_zero, List.toFinset_eq_empty_iff]

/-- The rules of a data file are those written in it, in order. A rule has the groups that its own
field lists, and holds for everybody exactly if that field lists none. -/
theorem parseRules_renderItems (module file : String) {cap : Nat} (items : List RuleItem)
    (hlimit : (renderItems (items.map RuleItem.item)).length ≤ 200000)
    (hcap : (renderItems (items.map RuleItem.item)).length ≤ cap) :
    parseRules module file cap (renderItems (items.map RuleItem.item)) =
        (rulesIn items).map
          (fun r => Rule.ofWritten module file r (r.targets.toFinset.sort (· ≤ ·))) ∧
      ∀ r ∈ rulesIn items,
        (Rule.ofWritten module file r (r.targets.toFinset.sort (· ≤ ·))).isGlobal = true ↔
          r.targets = [] := by
  refine ⟨?_, fun r _ => Rule.isGlobal_ofWritten module file r⟩
  have hbody : ∀ r ∈ rulesIn items,
      r.body.render.length ≤ (renderItems (items.map RuleItem.item)).length := by
    intro r hr
    have hmem : r.record ∈ (recordsIn (items.map RuleItem.item)).filter
        fun r => r.head.attr "model" == "ir.rule" :=
      filter_recordsIn items ▸ List.mem_map_of_mem hr
    exact length_body_le (List.mem_of_mem_filter hmem)
  rw [parseRules, map_records fun _ => rfl, filter_recordsIn, List.map_map]
  exact List.map_congr_left fun r hr =>
    Rule.ofRecord_element module file ((hbody r hr).trans hlimit) ((hbody r hr).trans hcap)

/-- A call of `ref` in single quotes, behind some text. -/
def sampleCall (before target : List Char) (lead : Blanks) (hbefore : ¬ callWord <:+: before)
    (hne : target ≠ []) (htarget : target.all (fun c => !isQuote c) = true) : WrittenCall where
  before
  lead
  quote := '\''
  target
  tail := .none
  no_call := hbefore
  isQuote_quote := isQuote_single
  target_ne_nil := hne
  quoteFree := by simpa using htarget

/-- Three calls, two of which have one target. -/
def sampleList : CallList where
  calls := [sampleCall ['['] ['b'] .space (by decide) (by decide) rfl,
    sampleCall ", (4, ".toList ['a', '('] .none (by decide) (by decide) rfl,
    sampleCall ['r', 'e', 'f'] ['b'] .none (by decide) (by decide) rfl]
  last := [']']
  no_call := by decide

def sampleHead (id : List Char) (h : '"' ∉ id) : TagHead :=
  ⟨[.model "ir.rule".toList (by decide), .id id h], .none⟩

def sampleRule : WrittenRule where
  head := sampleHead ['r'] (by decide)
  before := [{
    gap := ['\n']
    head := ⟨[.named "domain_force".toList (by decide),
      .double 'e' "val".toList [' ', '1'] rfl rfl (by decide)], .space⟩
    content := none
    plain_gap := by decide
    plain_head := by decide
    calm_gap := by decide
    calm_head := by decide
    calm_content := by simp }]
  groups := some {
    gap := []
    head := ⟨[.named "groups".toList (by decide),
      .double 'e' "val".toList sampleList.text rfl rfl (by decide)], .none⟩
    content := none
    before := [.named "groups".toList (by decide)]
    eval := .double 'e' "val".toList sampleList.text rfl rfl (by decide)
    after := []
    list := sampleList
    plain_gap := lt_notMem_nil
    plain_head := by decide
    name_eq := by decide
    attributes_eq := rfl
    eval_eq := rfl
    calm_gap := by decide
    calm_before := by
      simp only [List.forall_mem_cons, WrittenAttribute.named, WrittenAttribute.double]
      decide
    calm_after := by simp
    calm_content := by simp }
  after := []
  last := []
  tail := .none
  plain_head := by decide
  plain_last := lt_notMem_nil
  calm_last := by decide
  id_ne := by decide
  model_eq := by decide

def sampleGlobalRule : WrittenRule where
  head := sampleHead ['g'] (by decide)
  before := []
  groups := none
  after := []
  last := "ref".toList
  tail := .space
  plain_head := by decide
  plain_last := by decide
  calm_last := by decide
  id_ne := by decide
  model_eq := by decide

/-- Two rules with a comment and a record of another model between them, both of which refer to
something. -/
def sampleRules : List RuleItem := [
  .rule sampleGlobalRule,
  .comment ⟨"<field eval=\"ref('c')\"/>".toList, by decide⟩,
  .other
    { head := ⟨[.id ['o'] (by decide)], .none⟩
      body := .leaf .none ⟨[.double 'e' "val".toList "ref('d')".toList rfl rfl (by decide)], .none⟩
        (.text .none)
      tail := .none
      plain_head := by decide
      plain_body := by decide
      id_ne := by decide }
    (by decide),
  .rule sampleRule]

theorem parseRules_renderItems_sample :
    ((renderItems (sampleRules.map RuleItem.item)).length ≤ 200000 ∧
        (renderItems (sampleRules.map RuleItem.item)).length ≤ 400) ∧
      parseRules "sale" "rules.xml" 400 (renderItems (sampleRules.map RuleItem.item)) =
          [{ module := "sale", file := "rules.xml", id := "g", modelRef := "" },
            { module := "sale", file := "rules.xml", id := "r", modelRef := "",
              groups := ["a(", "b"], hasDomain := true }] ∧
        ∀ r ∈ rulesIn sampleRules,
          (Rule.ofWritten "sale" "rules.xml" r (r.targets.toFinset.sort (· ≤ ·))).isGlobal =
            true ↔ r.targets = [] := by
  have hlimit : (renderItems (sampleRules.map RuleItem.item)).length ≤ 200000 := by decide +kernel
  have hcap : (renderItems (sampleRules.map RuleItem.item)).length ≤ 400 := by decide +kernel
  have hgroups : sampleRule.targets.toFinset.sort (· ≤ ·) = ["a(", "b"] := by
    have htargets : sampleRule.targets = ["b", "a(", "b"] := by decide
    refine (Finset.sortedLT_sort _).pairwise.eq_of_mem_iff (by decide) fun g => ?_
    rw [Finset.mem_sort, List.mem_toFinset, htargets]
    grind
  have hnone : sampleGlobalRule.targets.toFinset.sort (· ≤ ·) = [] := Finset.sort_empty _
  have hparse := parseRules_renderItems "sale" "rules.xml" sampleRules hlimit hcap
  refine ⟨⟨hlimit, hcap⟩, hparse.1.trans ?_, hparse.2⟩
  rw [show rulesIn sampleRules = [sampleGlobalRule, sampleRule] from rfl, List.map_cons,
    List.map_cons, hnone, hgroups]
  decide

end AddonAtlas.Access
