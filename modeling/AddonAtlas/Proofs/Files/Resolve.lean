import AddonAtlas.Files.Resolve
import AddonAtlas.Proofs.Files.Lookup

/-!
# Resolved paths lead to the same place

Where a path leads somewhere, the resolved path is that place (`resolvedLocation_of_find`).  The two
algorithms follow links in different ways: `follow` puts the target of a link in front of the names that
are left, and counts; `resolveFrom` resolves every link once and remembers the result.  Both are compared
with `Leads`, the way that a path takes with the links in it resolved first.  On such a way no link
leads back to itself, and the fuel of `resolveFrom` lasts, since every link is opened at most twice
(`room`).
-/

namespace AddonAtlas.Files

open Entry

/-- The place at which the target of a link in a folder starts. -/
def targetStart (target : String) (location : Location) : Location :=
  if target.startsWith "/" then [] else location

/-- Names lead from a place to another one, over so many links. -/
inductive Leads (top : Entry) : (links : Nat) → Location → List String → Location → Prop
  | nil (location : Location) : Leads top 0 location [] location
  | dot {links : Nat} {location place : Location} {name : String} {rest : List String}
      (hname : name = ".") (hrest : Leads top links location rest place) :
      Leads top links location (name :: rest) place
  | up {links : Nat} {location place : Location} {name : String} {rest : List String}
      (hname : name = "..") (hrest : Leads top links location.dropLast rest place) :
      Leads top links location (name :: rest) place
  | enter {links : Nat} {location place : Location} {name : String} {rest : List String} {e : Entry}
      (hdot : name ≠ ".") (hup : name ≠ "..") (hat : top.at? (location ++ [name]) = some e)
      (hlink : ∀ target, e ≠ .link target)
      (hrest : Leads top links (location ++ [name]) rest place) :
      Leads top links location (name :: rest) place
  | link {inner links : Nat} {location middle place : Location} {name target : String}
      {rest : List String} (hdot : name ≠ ".") (hup : name ≠ "..")
      (hat : top.at? (location ++ [name]) = some (.link target))
      (htarget : Leads top inner (targetStart target location) (Path.namesOf target) middle)
      (hrest : Leads top links middle rest place) :
      Leads top (inner + links + 1) location (name :: rest) place

theorem leads_append {top : Entry} {links : Nat} {location place : Location}
    {first rest : List String} (h : Leads top links location (first ++ rest) place) :
    ∃ inner outer middle, Leads top inner location first middle ∧
      Leads top outer middle rest place ∧ inner + outer = links := by
  induction first generalizing links location with
  | nil => exact ⟨0, links, location, .nil location, h, Nat.zero_add links⟩
  | cons name first ih =>
    rw [List.cons_append] at h
    cases h with
    | dot hname hrest =>
      obtain ⟨inner, outer, middle, hfirst, hlast, hsum⟩ := ih hrest
      exact ⟨inner, outer, middle, .dot hname hfirst, hlast, hsum⟩
    | up hname hrest =>
      obtain ⟨inner, outer, middle, hfirst, hlast, hsum⟩ := ih hrest
      exact ⟨inner, outer, middle, .up hname hfirst, hlast, hsum⟩
    | enter hdot hup hat hlink hrest =>
      obtain ⟨inner, outer, middle, hfirst, hlast, hsum⟩ := ih hrest
      exact ⟨inner, outer, middle, .enter hdot hup hat hlink hfirst, hlast, hsum⟩
    | link hdot hup hat htarget hrest =>
      obtain ⟨inner, outer, middle, hfirst, hlast, hsum⟩ := ih hrest
      exact ⟨_, outer, middle, .link hdot hup hat htarget hfirst, hlast, by omega⟩

/-- Names lead to one place only. -/
theorem Leads.unique {top : Entry} {links links' : Nat} {location place place' : Location}
    {names : List String} (h : Leads top links location names place)
    (h' : Leads top links' location names place') : links = links' ∧ place = place' := by
  induction h generalizing links' place' with
  | nil location =>
    cases h'
    exact ⟨rfl, rfl⟩
  | dot hname hrest ih =>
    cases h' with
    | dot _ hrest' => exact ih hrest'
    | up hname' => exact absurd (hname.symm.trans hname') (by decide)
    | enter hdot => exact absurd hname hdot
    | link hdot => exact absurd hname hdot
  | up hname hrest ih =>
    cases h' with
    | dot hname' => exact absurd (hname'.symm.trans hname) (by decide)
    | up _ hrest' => exact ih hrest'
    | enter _ hup => exact absurd hname hup
    | link _ hup => exact absurd hname hup
  | enter hdot hup hat hlink hrest ih =>
    cases h' with
    | dot hname => exact absurd hname hdot
    | up hname => exact absurd hname hup
    | enter _ _ _ _ hrest' => exact ih hrest'
    | link _ _ hat' =>
      rw [hat, Option.some.injEq] at hat'
      exact absurd hat' (hlink _)
  | link hdot hup hat htarget hrest ihTarget ihRest =>
    cases h' with
    | dot hname => exact absurd hname hdot
    | up hname => exact absurd hname hup
    | enter _ _ hat' hlink' =>
      rw [hat, Option.some.injEq] at hat'
      exact absurd hat'.symm (hlink' _)
    | link _ _ hat' htarget' hrest' =>
      rw [hat, Option.some.injEq, Entry.link.injEq] at hat'
      subst hat'
      obtain ⟨rfl, rfl⟩ := ihTarget htarget'
      obtain ⟨rfl, rfl⟩ := ihRest hrest'
      exact ⟨rfl, rfl⟩

/-- A way that `follow` finds. -/
theorem leads_of_follow {top : Entry} {links : Nat} {location place : Location}
    {names : List String} {e : Entry}
    (h : follow top true links location names = .ok (.taken place e)) :
    ∃ count, Leads top count location names place := by
  generalize hlast : true = last at h
  fun_induction follow top last links location names with
  | case1 links location e' hat =>
    cases h
    exact ⟨0, .nil _⟩
  | case3 links location name rest entries hat hdot ih =>
    obtain ⟨count, hrest⟩ := ih h
    exact ⟨count, .dot (beq_iff_eq.1 hdot) hrest⟩
  | case4 links location name rest entries hat hdot hup ih =>
    obtain ⟨count, hrest⟩ := ih h
    exact ⟨count, .up (beq_iff_eq.1 hup) hrest⟩
  | case9 location name rest entries hat hdot hup target hname _ links ih =>
    obtain ⟨count, hall⟩ := ih h
    rw [← at?_concat hat] at hname
    obtain ⟨_, outer, middle, hnames, hrest, -⟩ := leads_append hall
    rw [targetNames] at hnames
    obtain ⟨inner, dots, middle', htarget, hdots, -⟩ := leads_append hnames
    -- a dot behind the target of the link stays in its place
    obtain rfl : middle' = middle := by
      split at hdots
      · cases hdots with
        | dot _ hnil =>
          cases hnil
          rfl
        | up hname => exact absurd hname (by decide)
        | enter hdot => exact absurd rfl hdot
        | link hdot => exact absurd rfl hdot
      · cases hdots
        rfl
    exact ⟨_, .link (by simpa using hdot) (by simpa using hup) hname htarget hrest⟩
  | case10 links location name rest entries hat hdot hup val hval hname ih =>
    obtain ⟨count, hrest⟩ := ih h
    rw [← at?_concat hat] at hname
    exact ⟨count, .enter (by simpa using hdot) (by simpa using hup) hname hval hrest⟩
  | case7 => simp_all
  | case2 | case5 | case6 | case8 | case11 | case12 => simp at h

/-! ## Links that are still closed -/

mutual

/-- The links of a tree with their places. -/
def linksIn : Entry → List (Location × String)
  | .file _ => []
  | .link target => [([], target)]
  | .folder entries => linksAmong entries

/-- The links among named entries with their places. -/
def linksAmong : List (String × Entry) → List (Location × String)
  | [] => []
  | (name, e) :: rest => (linksIn e).map (fun link => (name :: link.1, link.2)) ++ linksAmong rest

end

theorem mem_linksAmong {name : String} {e : Entry} {entries : List (String × Entry)}
    (hentry : (name, e) ∈ entries) {link : Location × String} (hlink : link ∈ linksIn e) :
    (name :: link.1, link.2) ∈ linksAmong entries := by
  induction entries with
  | nil => simp at hentry
  | cons entry rest ih =>
    obtain ⟨name', e'⟩ := entry
    rw [linksAmong, List.mem_append]
    rcases List.mem_cons.1 hentry with heq | hrest
    · obtain ⟨rfl, rfl⟩ := Prod.mk.inj heq
      exact Or.inl (List.mem_map.2 ⟨link, hlink, rfl⟩)
    · exact Or.inr (ih hrest)

theorem mem_linksIn {top : Entry} {location : Location} {target : String}
    (h : top.at? location = some (.link target)) : (location, target) ∈ linksIn top := by
  induction location generalizing top with
  | nil =>
    obtain rfl : top = .link target := by simpa using h
    simp [linksIn]
  | cons name rest ih =>
    rw [at?_cons] at h
    obtain ⟨e, hchild, hrest⟩ := Option.bind_eq_some_iff.1 h
    cases top with
    | file | link => simp [child?] at hchild
    | folder entries =>
      rw [linksIn]
      exact mem_linksAmong (mem_of_lookup hchild) (ih hrest)

/-- The steps that opening a link adds: its names, and one to close it. -/
def openingSteps (target : String) : Nat :=
  (Path.namesOf target).length + 1

/-- The steps that can still be added by links that are not known yet. -/
def room (top : Entry) (known : List (Standing × Option Standing)) : Nat :=
  ((linksIn top).map fun link => ([true, false].map fun fromTop =>
    if (known.lookup ⟨fromTop, link.1⟩).isSome then 0 else openingSteps link.2).sum).sum

theorem sum_map_add_le {α : Type} {f g : α → Nat} {items : List α} (h : ∀ a, g a ≤ f a) {a : α}
    (ha : a ∈ items) {extra : Nat} (hextra : g a + extra ≤ f a) :
    (items.map g).sum + extra ≤ (items.map f).sum := by
  induction items with
  | nil => simp at ha
  | cons b rest ih =>
    have hrest : (rest.map g).sum ≤ (rest.map f).sum := List.sum_le_sum fun b _ => h b
    simp only [List.map_cons, List.sum_cons]
    rcases List.mem_cons.1 ha with rfl | hmem
    · omega
    · have := h b
      have := ih hmem
      omega

theorem lookup_cons_standing (s s' : Standing) (x : Option Standing)
    (known : List (Standing × Option Standing)) :
    ((s, x) :: known).lookup s' = if s' = s then some x else known.lookup s' := by
  rw [List.lookup_cons]
  by_cases h : s' = s
  · rw [if_pos h, beq_iff_eq.2 h]
  · rw [if_neg h, beq_eq_false_iff_ne.2 h]

theorem closed_cons_le (s s' : Standing) (x : Option Standing)
    (known : List (Standing × Option Standing)) (steps : Nat) :
    (if (((s, x) :: known).lookup s').isSome then 0 else steps) ≤
      if (known.lookup s').isSome then 0 else steps := by
  rw [lookup_cons_standing]
  by_cases h : s' = s
  · simp [h]
  · rw [if_neg h]

theorem room_cons_le (top : Entry) (s : Standing) (x : Option Standing)
    (known : List (Standing × Option Standing)) : room top ((s, x) :: known) ≤ room top known :=
  List.sum_le_sum fun _ _ => List.sum_le_sum fun _ _ => closed_cons_le s _ x known _

/-- Opening a link uses up its room. -/
theorem room_open {top : Entry} {s : Standing} {target : String}
    (hat : top.at? s.location = some (.link target)) {known : List (Standing × Option Standing)}
    (hknown : known.lookup s = none) (x : Option Standing) :
    room top ((s, x) :: known) + openingSteps target ≤ room top known := by
  refine sum_map_add_le (fun link => List.sum_le_sum fun _ _ => closed_cons_le s _ x known _)
    (mem_linksIn hat) (sum_map_add_le (fun fromTop => closed_cons_le s _ x known _)
      (a := s.fromTop) (by cases s.fromTop <;> simp) ?_)
  simp [hknown]

theorem length_splitOn_le (sep : Char) (text : List Char) :
    (text.splitOn sep).length ≤ text.length + 1 := by
  induction text with
  | nil => simp
  | cons c text ih =>
    rw [List.splitOn_cons_eq_if_modifyHead]
    split
    · simpa using ih
    · rw [List.length_modifyHead, List.length_cons]
      omega

theorem openingSteps_le (target : String) : openingSteps target ≤ target.length + 3 := by
  have hfilter : (Path.namesOf target).length ≤ (target.toList.splitOn '/').length :=
    (List.length_filter_le _ _).trans (by simp)
  have hsplit := length_splitOn_le '/' target.toList
  rw [String.length_toList] at hsplit
  rw [openingSteps]
  omega

mutual

theorem sum_linksIn_le (e : Entry) :
    ((linksIn e).map fun link => openingSteps link.2).sum ≤ e.linkWeight := by
  cases e with
  | file => simp [linksIn]
  | link target => simpa [linksIn, linkWeight] using openingSteps_le target
  | folder entries => exact sum_linksAmong_le entries

theorem sum_linksAmong_le (entries : List (String × Entry)) :
    ((linksAmong entries).map fun link => openingSteps link.2).sum ≤ linkWeights entries := by
  cases entries with
  | nil => simp [linksAmong]
  | cons entry rest =>
    obtain ⟨name, e⟩ := entry
    have hfirst := sum_linksIn_le e
    have hrest := sum_linksAmong_le rest
    rw [linksAmong, linkWeights, List.map_append, List.map_map, List.sum_append]
    exact Nat.add_le_add hfirst hrest

end

theorem room_nil_le (top : Entry) : room top [] ≤ 2 * top.linkWeight := by
  have htwice : room top [] = 2 * ((linksIn top).map fun link => openingSteps link.2).sum := by
    rw [room, ← List.sum_map_mul_left]
    simp [two_mul]
  rw [htwice]
  exact Nat.mul_le_mul_left 2 (sum_linksIn_le top)

/-! ## The simulation -/

/-- A link whose target leads to a place, over so many links. -/
def LinkLeads (top : Entry) (link : Location) (links : Nat) (place : Location) : Prop :=
  ∃ target, top.at? link = some (.link target) ∧
    Leads top links (targetStart target link.dropLast) (Path.namesOf target) place

theorem LinkLeads.unique {top : Entry} {link place place' : Location} {links links' : Nat}
    (h : LinkLeads top link links place) (h' : LinkLeads top link links' place') :
    links = links' ∧ place = place' := by
  obtain ⟨target, hat, hleads⟩ := h
  obtain ⟨target', hat', hleads'⟩ := h'
  rw [hat, Option.some.injEq, Entry.link.injEq] at hat'
  subst hat'
  exact hleads.unique hleads'

/-- Closed links lead where they are known to lead. -/
def Knows (top : Entry) (known : List (Standing × Option Standing)) : Prop :=
  ∀ link standing, known.lookup link = some (some standing) →
    ∃ count, LinkLeads top link.location count standing.location

/-- Every open link takes at least `links` more links to its end. -/
def Outlasts (top : Entry) (links : Nat) (known : List (Standing × Option Standing)) : Prop :=
  ∀ link, known.lookup link = some none →
    ∃ count place, LinkLeads top link.location count place ∧ links ≤ count

theorem Knows.open {top : Entry} {known : List (Standing × Option Standing)}
    (h : Knows top known) (link : Standing) : Knows top ((link, none) :: known) := by
  intro link' standing hlookup
  rw [lookup_cons_standing] at hlookup
  split at hlookup
  · cases hlookup
  · exact h link' standing hlookup

theorem Knows.close {top : Entry} {known : List (Standing × Option Standing)}
    (h : Knows top known) {link standing : Standing} {count : Nat}
    (hlink : LinkLeads top link.location count standing.location) :
    Knows top ((link, some standing) :: known) := by
  intro link' standing' hlookup
  rw [lookup_cons_standing] at hlookup
  split at hlookup
  · next heq =>
    obtain rfl : standing = standing' := by simpa using hlookup
    exact ⟨count, heq ▸ hlink⟩
  · exact h link' standing' hlookup

theorem Outlasts.mono {top : Entry} {links links' : Nat} {known : List (Standing × Option Standing)}
    (h : Outlasts top links known) (hle : links' ≤ links) : Outlasts top links' known := by
  intro link hlookup
  obtain ⟨count, place, hlink, hcount⟩ := h link hlookup
  exact ⟨count, place, hlink, hle.trans hcount⟩

theorem Outlasts.open {top : Entry} {links links' : Nat}
    {known : List (Standing × Option Standing)} (h : Outlasts top links known)
    (hle : links' ≤ links) {link : Standing} {place : Location}
    (hlink : LinkLeads top link.location links' place) :
    Outlasts top links' ((link, none) :: known) := by
  intro link' hlookup
  rw [lookup_cons_standing] at hlookup
  split at hlookup
  · next heq => exact ⟨links', place, heq ▸ hlink, Nat.le_refl links'⟩
  · exact h.mono hle link' hlookup

/-- Once a link is closed, only those links are open that were open before it. -/
theorem lookup_of_closed {link : Standing} {known known' : List (Standing × Option Standing)}
    (h : ∀ other, known'.lookup other = some none →
      ((link, none) :: known).lookup other = some none) (standing other : Standing)
    (hother : ((link, some standing) :: known').lookup other = some none) :
    known.lookup other = some none := by
  rw [lookup_cons_standing] at hother
  split at hother
  · cases hother
  · next hne =>
    have hopen := h other hother
    rwa [lookup_cons_standing, if_neg hne] at hopen

/-! ### Steps -/

section Steps

variable {top : Entry} {fuel : Nat} {s : Standing}
  {known : List (Standing × Option Standing)} {name target : String} {rest : List Step}

theorem resolveFrom_nil (top : Entry) (fuel : Nat) (standing : Standing)
    (known : List (Standing × Option Standing)) :
    resolveFrom top fuel standing known [] = standing.location := by
  cases fuel <;> rfl

theorem resolveFrom_dot :
    resolveFrom top (fuel + 1) s known (.name "." :: rest) =
      resolveFrom top fuel s known rest := rfl

theorem resolveFrom_up :
    resolveFrom top (fuel + 1) s known (.name ".." :: rest) =
      resolveFrom top fuel { s with location := s.location.dropLast } known rest := rfl

variable (hdot : name ≠ ".") (hup : name ≠ "..")

include hdot hup

/-- A name is kept where no link has it. -/
theorem resolveFrom_name
    (hlink : ∀ target, top.at? (s.location ++ [name]) ≠ some (.link target)) :
    resolveFrom top (fuel + 1) s known (.name name :: rest) =
      resolveFrom top fuel { s with location := s.location ++ [name] } known rest := by
  rw [resolveFrom, if_neg (by simpa using hdot), if_neg (by simpa using hup)]
  dsimp only
  split
  · next target hat => exact absurd hat (hlink target)
  · rfl

variable (hat : top.at? (s.location ++ [name]) = some (.link target))

include hat

/-- A link that was closed before leads where it led then. -/
theorem resolveFrom_closed {place : Standing}
    (hknown : known.lookup { s with location := s.location ++ [name] } =
      some (some place)) :
    resolveFrom top (fuel + 1) s known (.name name :: rest) =
      resolveFrom top fuel place known rest := by
  rw [resolveFrom, if_neg (by simpa using hdot), if_neg (by simpa using hup)]
  simp only [hat, hknown]

/-- A link that was not met before is opened, and closed behind the names of its target. -/
theorem resolveFrom_open (fuel : Nat) (rest : List Step)
    (hknown : known.lookup { s with location := s.location ++ [name] } = none) :
    ∃ fromTop, resolveFrom top (fuel + 1) s known (.name name :: rest) =
      resolveFrom top fuel ⟨fromTop, targetStart target s.location⟩
        (({ s with location := s.location ++ [name] }, none) :: known)
        ((Path.namesOf target).map .name ++
          .close { s with location := s.location ++ [name] } :: rest) := by
  rw [resolveFrom, if_neg (by simpa using hdot), if_neg (by simpa using hup)]
  simp only [hat, hknown, targetStart]
  by_cases htop : target.startsWith "/"
  · exact ⟨true, by rw [if_pos htop, if_pos htop]⟩
  · exact ⟨s.fromTop, by rw [if_neg htop, if_neg htop]⟩

end Steps

/-- Where names lead, `resolveFrom` goes, whatever steps are left behind them. -/
theorem resolveFrom_leads {top : Entry} {links : Nat} {location place : Location}
    {names : List String} (h : Leads top links location names place) (fuel : Nat) (fromTop : Bool)
    (known : List (Standing × Option Standing)) (rest : List Step) (hknows : Knows top known)
    (houtlasts : Outlasts top links known)
    (hfuel : names.length + rest.length + room top known ≤ fuel) :
    ∃ fuel' fromTop' known', resolveFrom top fuel ⟨fromTop, location⟩ known
        (names.map .name ++ rest) = resolveFrom top fuel' ⟨fromTop', place⟩ known' rest ∧
      rest.length + room top known' ≤ fuel' ∧ Knows top known' ∧
      ∀ link, known'.lookup link = some none → known.lookup link = some none := by
  induction h generalizing fuel fromTop known rest with
  | nil location =>
    exact ⟨fuel, fromTop, known, rfl, by simpa using hfuel, hknows, fun _ => id⟩
  | @dot links location place name names hname hrest ih =>
    obtain ⟨fuel, rfl⟩ := Nat.exists_eq_add_one.2 (show 0 < fuel by simp at hfuel; omega)
    subst hname
    exact ih fuel fromTop known rest hknows houtlasts (by simp at hfuel; omega)
  | @up links location place name names hname hrest ih =>
    obtain ⟨fuel, rfl⟩ := Nat.exists_eq_add_one.2 (show 0 < fuel by simp at hfuel; omega)
    subst hname
    exact ih fuel fromTop known rest hknows houtlasts (by simp at hfuel; omega)
  | @enter links location place name names e hdot hup hat hlink hrest ih =>
    obtain ⟨fuel, rfl⟩ := Nat.exists_eq_add_one.2 (show 0 < fuel by simp at hfuel; omega)
    rw [List.map_cons, List.cons_append, resolveFrom_name hdot hup (by simpa [hat] using hlink)]
    exact ih fuel fromTop known rest hknows houtlasts (by simp at hfuel; omega)
  | @link inner links location middle place name target names hdot hup hat htarget hrest ihTarget
      ihRest =>
    obtain ⟨fuel, rfl⟩ := Nat.exists_eq_add_one.2 (show 0 < fuel by simp at hfuel; omega)
    simp only [List.length_cons] at hfuel
    have hleads : LinkLeads top (location ++ [name]) inner middle :=
      ⟨target, hat, by rwa [List.dropLast_concat]⟩
    rw [List.map_cons, List.cons_append]
    cases hlookup : known.lookup ⟨fromTop, location ++ [name]⟩ with
    | some state =>
      cases state with
      | some standing =>
        obtain ⟨count, hclosed⟩ := hknows _ _ hlookup
        obtain ⟨-, rfl⟩ := hclosed.unique hleads
        rw [resolveFrom_closed hdot hup hat hlookup]
        exact ihRest fuel standing.fromTop known rest hknows (houtlasts.mono (by omega)) (by omega)
      | none =>
        -- a link on the way of its own target would take fewer links than itself
        obtain ⟨count, place', hopen, hle⟩ := houtlasts _ hlookup
        have := (hopen.unique hleads).1
        omega
    | none =>
      -- the link is opened, followed to its end, closed, and then the names behind it follow
      obtain ⟨fromTarget, hresolve⟩ := resolveFrom_open (s := ⟨fromTop, location⟩) hdot hup hat fuel
        (names.map .name ++ rest) hlookup
      have hroom := room_open (s := ⟨fromTop, location ++ [name]⟩) hat hlookup none
      rw [openingSteps] at hroom
      obtain ⟨fuel₁, fromTop₁, known₁, hresolve₁, hfuel₁, hknows₁, hopen₁⟩ := ihTarget fuel fromTarget
        ((⟨fromTop, location ++ [name]⟩, none) :: known)
        (.close ⟨fromTop, location ++ [name]⟩ :: (names.map .name ++ rest)) (hknows.open _)
        (houtlasts.open (by omega) hleads)
        (by simp only [List.length_cons, List.length_append, List.length_map]; omega)
      simp only [List.length_cons, List.length_append, List.length_map] at hfuel₁
      obtain ⟨fuel₁, rfl⟩ := Nat.exists_eq_add_one.2 (show 0 < fuel₁ by omega)
      have hroom₁ := room_cons_le top ⟨fromTop, location ++ [name]⟩ (some ⟨fromTop₁, middle⟩) known₁
      have hopen := lookup_of_closed hopen₁ ⟨fromTop₁, middle⟩
      obtain ⟨fuel₂, fromTop₂, known₂, hresolve₂, hfuel₂, hknows₂, hopen₂⟩ := ihRest fuel₁ fromTop₁
        ((⟨fromTop, location ++ [name]⟩, some ⟨fromTop₁, middle⟩) :: known₁) rest
        (hknows₁.close hleads) (fun link hlink => houtlasts.mono (by omega) link (hopen link hlink))
        (by omega)
      exact ⟨fuel₂, fromTop₂, known₂, (hresolve.trans hresolve₁).trans hresolve₂, hfuel₂, hknows₂,
        fun link hlink => hopen link (hopen₂ link hlink)⟩

theorem resolveFrom_of_linkFree {top : Entry} (hfree : top.LinkFree) {fuel : Nat}
    {names : List String} (hfuel : names.length ≤ fuel) (standing : Standing)
    (known : List (Standing × Option Standing)) :
    resolveFrom top fuel standing known (names.map .name) =
      plainLocation standing.location names := by
  induction names generalizing fuel standing with
  | nil => exact resolveFrom_nil _ _ _ _
  | cons name names ih =>
    obtain ⟨fuel, rfl⟩ := Nat.exists_eq_add_one.2 (show 0 < fuel by simp at hfuel; omega)
    have hfuel' : names.length ≤ fuel := by simpa using hfuel
    rw [List.map_cons, plainLocation_cons]
    by_cases hdot : name = "."
    · rw [hdot, resolveFrom_dot, ih hfuel', plainLocation_dot]
    by_cases hup : name = ".."
    · rw [hup, resolveFrom_up, ih hfuel', plainLocation_up]
    have hlink : ∀ target, top.at? (standing.location ++ [name]) ≠ some (.link target) :=
      fun target hat => hfree _ target (nodeAt_eq_link_iff.2 hat)
    rw [resolveFrom_name hdot hup hlink, ih hfuel', plainLocation_name hdot hup]

namespace Disk

theorem standing_eq (disk : Disk) (path : Path) :
    (if path.isAbsolute then ⟨true, []⟩ else ⟨false, disk.here⟩ : Standing) =
      ⟨path.isAbsolute, disk.start path⟩ := by
  rw [start]
  cases path.isAbsolute <;> rfl

/-- Where a path leads somewhere, it stands for that place. -/
theorem resolvedLocation_of_find {disk : Disk} {path : Path} {place : Location} {e : Entry}
    (h : disk.find path = .ok (place, e)) : disk.resolvedLocation path = place := by
  obtain ⟨-, hfollow⟩ := find_eq_ok_iff_follow.1 h
  obtain ⟨count, hleads⟩ := leads_of_follow hfollow
  have hroom := room_nil_le disk.top
  obtain ⟨fuel, fromTop, known, hresolve, -⟩ := resolveFrom_leads hleads
    (path.parts.length + 2 * disk.top.linkWeight + 1) path.isAbsolute [] []
    (by simp [Knows]) (by simp [Outlasts]) (by simp only [List.length_nil]; omega)
  rw [resolvedLocation, standing_eq, ← List.append_nil (path.parts.map Step.name), hresolve,
    resolveFrom_nil]

/-- A name in a folder, where no link stands, stands for the place of that name. -/
theorem resolvedLocation_below {disk : Disk} {path : Path} {place : Location} {e : Entry}
    (h : disk.find path = .ok (place, e)) {name : String} (hname : isUsable name)
    (hlink : ∀ target, disk.top.at? (place ++ [name]) ≠ some (.link target)) :
    disk.resolvedLocation (path.below [name]) = place ++ [name] := by
  obtain ⟨-, hfollow⟩ := find_eq_ok_iff_follow.1 h
  obtain ⟨count, hleads⟩ := leads_of_follow hfollow
  have hroom := room_nil_le disk.top
  obtain ⟨fuel, fromTop, known, hresolve, hfuel, -⟩ := resolveFrom_leads hleads
    ((path.below [name]).parts.length + 2 * disk.top.linkWeight + 1) path.isAbsolute [] [.name name]
    (by simp [Knows]) (by simp [Outlasts])
    (by simp only [Path.below, List.length_append, List.length_singleton]; omega)
  obtain ⟨fuel, rfl⟩ := Nat.exists_eq_add_one.2 (show 0 < fuel by
    rw [List.length_singleton] at hfuel
    omega)
  have hstart : disk.start (path.below [name]) = disk.start path := rfl
  have habsolute : (path.below [name]).isAbsolute = path.isAbsolute := rfl
  have hparts : (path.below [name]).parts.map Step.name =
      path.parts.map Step.name ++ [.name name] := by simp [Path.below]
  obtain ⟨hdot, hup, -⟩ := isUsable_iff.1 hname
  rw [resolvedLocation, standing_eq, hstart, habsolute, hparts, hresolve,
    resolveFrom_name hdot hup hlink, resolveFrom_nil]

theorem resolve_eq_ok {disk : Disk} {path resolved : Path} (h : disk.resolve path = .ok resolved) :
    resolved = { root := "/", parts := disk.resolvedLocation path } := by
  rw [resolve] at h
  split at h
  · cases h
  · simp only at h
    split at h
    · cases h
    · exact (Except.ok.inj h).symm

theorem resolve_eq {disk : Disk} {path : Path} (hclean : path.isClean)
    (hloop : disk.find { root := "/", parts := disk.resolvedLocation path } ≠ .error .tooManyLinks) :
    disk.resolve path = .ok { root := "/", parts := disk.resolvedLocation path } := by
  rw [resolve, if_neg (by simpa [Path.isClean] using hclean)]
  dsimp only
  split
  · next hfind => exact absurd hfind hloop
  · rfl

theorem resolve_of_find {disk : Disk} (hsound : disk.top.isSound) {path : Path} {place : Location}
    {entries : List (String × Entry)} (h : disk.find path = .ok (place, .folder entries)) :
    disk.resolve path = .ok { root := "/", parts := place } := by
  have hplace : disk.find { root := "/", parts := place } = .ok (place, .folder entries) :=
    find_place hsound rfl (at?_of_find h) (by simp)
  rw [← resolvedLocation_of_find h] at hplace ⊢
  exact resolve_eq (find_eq_ok_iff_follow.1 h).1 (by simp [hplace])

theorem expand_of_absolute (disk : Disk) {path : Path} (h : path.isAbsolute) :
    disk.expand path = .ok path := by
  rw [expand, h]

/-- Without links a path stands for the place of its names. -/
theorem resolvedLocation_of_linkFree {disk : Disk} (hfree : disk.top.LinkFree) (path : Path) :
    disk.resolvedLocation path = plainLocation (disk.start path) path.parts := by
  rw [resolvedLocation, resolveFrom_of_linkFree hfree (by omega), start]
  cases path.isAbsolute <;> rfl

end Disk

end AddonAtlas.Files
