import AddonAtlas.Access.Map
import AddonAtlas.Proofs.Report.Stamp
import AddonAtlas.Proofs.Text.Order

/-!
# The page of the security map

The report of the security map holds samples of the risky entries and of the global rules.  Its page
can always be written (`page_chart`), and counts these samples: the numbers in its head are those of
all risky entries and global rules only as long as the samples hold all of them.  The metrics and
the risks of the map count all of them (`page_chart_counts`).
-/

namespace AddonAtlas.Access

open Document Number Report Text

/-! ## Lines -/

def permissionText (letter : String) (granted : Bool) : String :=
  letter ++ (if granted then "1" else "0")

def Entry.line (e : Entry) : String :=
  "- " ++ e.module ++ ":" ++ e.id ++ " model=" ++ e.modelRef ++ " perms=" ++
    permissionText "R" e.mayRead ++ permissionText "W" e.mayWrite ++
    permissionText "C" e.mayCreate ++ permissionText "D" e.mayUnlink

def Rule.line (r : Rule) : String :=
  "- " ++ r.module ++ ":" ++ r.id ++ " model=" ++ textOr "n/a" r.modelRef ++ " domain=" ++
    (if r.hasDomain then "yes" else "no")

theorem accessLine_value (e : Entry) : accessLine e.value = .ok e.line := rfl

theorem plainOr_text (default text : String) :
    plainOr default (.text text) = textOr default text := by
  by_cases h : text = "" <;> simp [plainOr, textOr, Value.isTrue, Value.plain, h]

theorem ruleLine_value (r : Rule) : ruleLine r.value = .ok r.line := by
  rw [Rule.line, ← plainOr_text]
  rfl

/-! ## The page -/

/-- The head of the page, with the numbers of entries and rules, and those of the risky and global
ones among them. -/
def pageHead (stamp : Stamp) (entries rules risky global : Nat) : List String :=
  ["# Security Map", "", "- generated_at: " ++ stamp.generatedAt,
    "- repository: " ++ stamp.repository, "- acl_count: " ++ intText entries,
    "- record_rule_count: " ++ intText rules, "- confidence_score: " ++ stamp.confidence.text,
    "- risky_acl_entries: " ++ toString risky, "- global_record_rules: " ++ toString global, ""]

/-- The page with the samples of risky entries and global rules. -/
def pageLines (stamp : Stamp) (entries rules : Nat) (risky : List Entry) (global : List Rule) :
    List String :=
  pageHead stamp entries rules risky.length global.length ++
    part "Risky ACL Sample" ((risky.take 80).map Entry.line) ++
    part "Global Record Rules Sample" ((global.take 80).map Rule.line) ++
    part "Provenance" stamp.provenance.lines

/-- The risky entries in a report. -/
def riskySample (limits : Limits) (entries : List Entry) : List Entry :=
  ((sortEntries entries).filter (·.isRisky)).take limits.riskSample

/-- The global rules in a report. -/
def globalSample (limits : Limits) (rules : List Rule) : List Rule :=
  ((sortRules rules).filter (·.isGlobal)).take limits.riskSample

section Page

variable (limits : Limits) (entries : List Entry) (rules : List Rule)

theorem sortEntries_perm : (sortEntries entries).Perm entries := sortOn_perm _ _

theorem sortRules_perm : (sortRules rules).Perm rules := sortOn_perm _ _

theorem length_risky :
    ((sortEntries entries).filter fun e => e.isRisky).length =
      entries.countP fun e => e.isRisky :=
  length_filter_sortOn _ _ _

theorem length_global :
    ((sortRules rules).filter fun r => r.isGlobal).length =
      rules.countP fun r => r.isGlobal :=
  length_filter_sortOn _ _ _

theorem length_riskySample :
    (riskySample limits entries).length =
      min limits.riskSample (entries.countP fun e => e.isRisky) := by
  rw [riskySample, List.length_take, length_risky]

theorem length_globalSample :
    (globalSample limits rules).length =
      min limits.riskSample (rules.countP fun r => r.isGlobal) := by
  rw [globalSample, List.length_take, length_global]

variable {stamp : Stamp} (h : stamp.artifact = "security-map")

include h

theorem head_chart (risky global : Nat) :
    head (stamped (chart limits entries rules).body stamp) ["acl_count", "record_rule_count"]
        ["- risky_acl_entries: " ++ toString risky,
          "- global_record_rules: " ++ toString global] =
      pageHead stamp entries.length rules.length risky global := by
  rw [head, nameOf_stamped, h, ← (sortEntries_perm entries).length_eq,
    ← (sortRules_perm rules).length_eq]
  simp only [fieldLine, List.map_cons, List.map_nil, getD_stamped]
  rfl

/-- The page of the security map can always be written. -/
theorem page_chart :
    page (stamped (chart limits entries rules).body stamp) =
      .ok (joinWith "\n" (pageLines stamp entries.length rules.length (riskySample limits entries)
        (globalSample limits rules))) := by
  have hrisky : (stamped (chart limits entries rules).body stamp).getD "risky_acl_entries"
      (.list []) = .list ((riskySample limits entries).map Entry.value) := by
    rw [getD_stamped]
    rfl
  have hglobal : (stamped (chart limits entries rules).body stamp).getD "global_record_rules"
      (.list []) = .list ((globalSample limits rules).map Rule.value) := by
    rw [getD_stamped]
    rfl
  -- no line can fail, since every value comes from an entry or a rule
  have hpage : securityPage (stamped (chart limits entries rules).body stamp) =
      .ok (pageLines stamp entries.length rules.length (riskySample limits entries)
        (globalSample limits rules)) := by
    rw [securityPage, hrisky, hglobal]
    simp only [Value.size, Value.firstItems, List.length_map, ← List.map_take, bind, Except.bind,
      mapM_map_ok accessLine_value, mapM_map_ok ruleLine_value, provenancePart_stamped,
      head_chart limits entries rules h, pure, Except.pure]
    rfl
  rw [page, nameOf_stamped, h]
  simp only [hpage, bind, Except.bind, pure, Except.pure]

theorem page_chart_head :
    ∃ rest, page (stamped (chart limits entries rules).body stamp) =
      .ok (joinWith "\n" (pageHead stamp entries.length rules.length
        (min limits.riskSample (entries.countP fun e => e.isRisky))
        (min limits.riskSample (rules.countP fun r => r.isGlobal)) ++ rest)) := by
  rw [page_chart limits entries rules h, pageLines, length_riskySample, length_globalSample,
    List.append_assoc, List.append_assoc]
  exact ⟨_, rfl⟩

end Page

/-- The head of the page shows how many of the risky entries and global rules the report holds: as
many as the limit allows. The metrics and the risks count all of them. -/
theorem page_chart_counts (limits : Limits) (entries : List Entry) (rules : List Rule)
    {stamp : Stamp} (h : stamp.artifact = (chart limits entries rules).name) :
    (∃ rest, page (stamped (chart limits entries rules).body stamp) =
      .ok (joinWith "\n" (pageHead stamp entries.length rules.length
        (min limits.riskSample (entries.countP fun e => e.isRisky))
        (min limits.riskSample (rules.countP fun r => r.isGlobal)) ++ rest))) ∧
      (chart limits entries rules).metrics.get "risky_acl_entries" =
        entries.countP (fun e => e.isRisky) ∧
      (chart limits entries rules).metrics.get "global_record_rules" =
        rules.countP (fun r => r.isGlobal) ∧
      (chart limits entries rules).risks =
        risks (entries.countP fun e => e.isRisky) (rules.countP fun r => r.isGlobal) := by
  refine ⟨page_chart_head limits entries rules h, ?_, ?_, ?_⟩
  · rw [← length_risky]
    rfl
  · rw [← length_global]
    rfl
  · rw [← length_risky, ← length_global]
    rfl

def sampleStamp : Stamp where
  artifact := "security-map"
  generatedAt := "2024-01-01T00:00:00Z"
  repository := "odoo"
  confidence := .finite false 1 (-1)
  provenance := ⟨["odoo/**/security"], "pattern-scan", []⟩

/-- Two entries that let everybody change records, and one that lets a group do so. -/
def sampleEntries : List Entry :=
  [{ module := "sale", id := "b", modelRef := "m", groupRef := "", mayWrite := true },
    { module := "sale", id := "g", modelRef := "m", groupRef := "g", mayWrite := true },
    { module := "sale", id := "a", modelRef := "m", groupRef := "", mayUnlink := true }]

def sampleGlobal : Rule :=
  { module := "sale", file := "rules.xml", id := "r", modelRef := "" }

theorem page_chart_counts_sample :
    sampleStamp.artifact = (chart ⟨2, 1⟩ sampleEntries [sampleGlobal]).name ∧
      (∃ rest, page (stamped (chart ⟨2, 1⟩ sampleEntries [sampleGlobal]).body sampleStamp) =
        .ok (joinWith "\n" (pageHead sampleStamp 3 1 2 1 ++ rest))) ∧
      (chart ⟨2, 1⟩ sampleEntries [sampleGlobal]).metrics.get "risky_acl_entries" = 2 ∧
      (chart ⟨2, 1⟩ sampleEntries [sampleGlobal]).metrics.get "global_record_rules" = 1 ∧
      (chart ⟨2, 1⟩ sampleEntries [sampleGlobal]).risks = risks 2 1 :=
  ⟨rfl, page_chart_counts ⟨2, 1⟩ sampleEntries [sampleGlobal] rfl⟩

/-- With room for one risky entry, the page shows one where the metrics count two. -/
theorem page_chart_capped :
    (∃ rest, page (stamped (chart ⟨1, 1⟩ sampleEntries []).body sampleStamp) =
      .ok (joinWith "\n" (pageHead sampleStamp 3 0 1 0 ++ rest))) ∧
      (chart ⟨1, 1⟩ sampleEntries []).metrics.get "risky_acl_entries" = 2 := by
  refine ⟨page_chart_head ⟨1, 1⟩ sampleEntries [] rfl, ?_⟩
  change (((sortEntries sampleEntries).filter fun e => e.isRisky).length : Int) = 2
  rw [length_risky]
  rfl

end AddonAtlas.Access
