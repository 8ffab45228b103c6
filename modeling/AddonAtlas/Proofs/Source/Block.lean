import AddonAtlas.Proofs.Source.Bracket

/-!
# Blocks under a cap

`Inside` says what the reader of a block takes of a text: under every cap it takes one and the same
text, cut at the cap, and this text ends with the whole text or before the bracket that closes the
outermost open one.  So a cap only cuts a block (`blockAt?_cap`), and the block of a bracket with
balanced text in it is that text, cut at the cap (`blockAt?_balanced`).  A block that ends at its
bracket leaves no literal open, and the reader of literals finds in it the literals that the reader
of the block passed over (`literals_closed_block`).
-/

namespace AddonAtlas.Source

open Text

/-! ## Text that leaves no literal open -/

/-- Text in which every literal that opens is closed, and the literals in it. -/
inductive Sealed : List Char → List (List Char) → Prop
  | nil : Sealed [] []
  | plain {c : Char} {rest : List Char} {tokens : List (List Char)} (hc : isQuote c = false)
    (h : Sealed rest tokens) : Sealed (c :: rest) tokens
  | literal {quote : Char} {body rest : List Char} {tokens : List (List Char)}
    (hquote : isQuote quote = true) (hbody : LiteralBody quote body) (h : Sealed rest tokens) :
    Sealed (quote :: (body ++ quote :: rest)) (unescape body :: tokens)

theorem Sealed.spells {text : List Char} {tokens : List (List Char)} (h : Sealed text tokens) :
    Spells text tokens := by
  induction h with
  | nil => exact spells_nil
  | @plain c _ _ hc _ ih =>
    have hplain : Spells [c] [] := spells_of_quoteFree (by simpa using hc)
    exact hplain.append ih
  | literal hquote hbody _ ih =>
    intro done rest
    rw [List.cons_append, literalsFrom, if_pos hquote, List.append_assoc, List.cons_append,
      literalsFrom_literalBody hbody hquote, ih]
    simp

/-- The text closes the literal open before it, if there is one, and every literal that it opens. -/
def Seals : Option Char → List Char → Prop
  | none, text => ∃ tokens, Sealed text tokens
  | some quote, text =>
    ∃ body rest tokens, text = body ++ quote :: rest ∧ LiteralBody quote body ∧ Sealed rest tokens

namespace Seals

variable {quote c : Char} {text : List Char}

theorem plain (hc : isQuote c = false) (h : Seals none text) : Seals none (c :: text) := by
  obtain ⟨tokens, htext⟩ := h
  exact ⟨tokens, .plain hc htext⟩

theorem opens (hquote : isQuote quote = true) (h : Seals (some quote) text) :
    Seals none (quote :: text) := by
  obtain ⟨body, rest, tokens, rfl, hbody, hrest⟩ := h
  exact ⟨unescape body :: tokens, .literal hquote hbody hrest⟩

theorem within (hslash : c ≠ '\\') (h : Seals (if c == quote then none else some quote) text) :
    Seals (some quote) (c :: text) := by
  by_cases hc : c = quote
  · subst hc
    rw [if_pos (beq_self_eq_true c)] at h
    obtain ⟨tokens, htext⟩ := h
    exact ⟨[], text, tokens, rfl, .nil, htext⟩
  · rw [if_neg (by simpa using hc)] at h
    obtain ⟨body, rest, tokens, rfl, hbody, hrest⟩ := h
    exact ⟨c :: body, rest, tokens, rfl, .plain hc hslash hbody, hrest⟩

theorem escaped (c : Char) (h : Seals (some quote) text) :
    Seals (some quote) ('\\' :: c :: text) := by
  obtain ⟨body, rest, tokens, rfl, hbody, hrest⟩ := h
  exact ⟨'\\' :: c :: body, rest, tokens, rfl, .escaped c hbody, hrest⟩

end Seals

/-! ## The reader of a block under every cap -/

/-- `inner` is the text inside the outermost open bracket: what the reader takes of `text` under a
cap is `inner` cut at the cap, and behind `inner` the text ends, or the closing bracket that was
awaited first of all follows, outside of literals. -/
structure Inside (closers : List Char) (quote : Option Char) (taken inner text : List Char) :
    Prop where
  cut : ∀ cap, untilClosed closers quote taken (text.take cap) = taken.reverse ++ inner.take cap
  ends : inner = text ∨ ∃ close rest, closers.getLast? = some close ∧
    text = inner ++ close :: rest ∧ Seals quote inner

namespace Inside

variable {closers closers' : List Char} {quote quote' : Option Char} {taken inner text : List Char}

theorem nil : Inside closers quote taken [] [] where
  cut _ := by simp [untilClosed]
  ends := .inl rfl

/-- One character that the reader passes over. -/
theorem cons {c : Char} (h : Inside closers' quote' (c :: taken) inner text)
    (hstep : ∀ cap, untilClosed closers quote taken (c :: text.take cap) =
      untilClosed closers' quote' (c :: taken) (text.take cap))
    (hlast : closers'.getLast? = closers.getLast?)
    (hseals : Seals quote' inner → Seals quote (c :: inner)) :
    Inside closers quote taken (c :: inner) (c :: text) where
  cut cap := by
    cases cap with
    | zero => simp [untilClosed]
    | succ cap =>
      rw [List.take_succ_cons, hstep, h.cut]
      simp
  ends := by
    rcases h.ends with rfl | ⟨close, rest, hclose, rfl, hinner⟩
    · exact .inl rfl
    · exact .inr ⟨close, rest, hlast ▸ hclose, rfl, hseals hinner⟩

/-- A backslash in a literal and the character behind it.  A cap may fall between the two. -/
theorem pair {q : Char} (d : Char)
    (h : Inside closers (some q) (d :: '\\' :: taken) inner text) :
    Inside closers (some q) taken ('\\' :: d :: inner) ('\\' :: d :: text) where
  cut cap := by
    rcases cap with _ | _ | cap
    · simp [untilClosed]
    · simp [untilClosed]
    · rw [List.take_succ_cons, List.take_succ_cons, untilClosed, h.cut]
      simp
  ends := by
    rcases h.ends with rfl | ⟨close, rest, hclose, rfl, hinner⟩
    · exact .inl rfl
    · exact .inr ⟨close, rest, hclose, rfl, hinner.escaped d⟩

theorem isPrefix (h : Inside closers quote taken inner text) : inner <+: text := by
  rcases h.ends with rfl | ⟨close, rest, -, rfl, -⟩
  · exact List.prefix_refl _
  · exact List.prefix_append _ _

/-- Without a cap all of `inner` is taken. -/
theorem untilClosed_eq (h : Inside closers quote taken inner text) :
    untilClosed closers quote taken text = taken.reverse ++ inner := by
  have hcut := h.cut text.length
  rwa [List.take_length, List.take_of_length_le h.isPrefix.length_le] at hcut

/-- What ends before the cap and before the text ends at the closing bracket. -/
theorem closed_of_lt (h : Inside closers quote taken inner text) {cap : Nat}
    (hlt : (inner.take cap).length < min cap text.length) :
    inner.take cap = inner ∧ ∃ close rest, closers.getLast? = some close ∧
      text = inner ++ close :: rest ∧ Seals quote inner := by
  rw [List.length_take] at hlt
  have hcap : inner.length ≤ cap := by omega
  refine ⟨List.take_of_length_le hcap, h.ends.resolve_left ?_⟩
  rintro rfl
  omega

end Inside

/-- The reader takes one text under all caps, whether the brackets of `text` match or not. -/
theorem exists_inside (closers : List Char) (quote : Option Char) (taken text : List Char)
    (hne : closers ≠ []) : ∃ inner, Inside closers quote taken inner text := by
  -- the induction follows the reader of the whole text; a reader under a cap takes the same steps,
  -- but for a backslash that the cap parts from what it escapes (`pair`)
  induction closers, quote, taken, text using untilClosed.induct with
  | case1 closers quote taken => exact ⟨[], .nil⟩
  | case2 closers taken quote d rest ih =>
    obtain ⟨inner, h⟩ := ih hne
    exact ⟨_, h.pair d⟩
  | case3 closers taken quote c rest hpair ih =>
    by_cases hc : c = '\\'
    · -- a backslash that ends the text escapes nothing
      have hrest : rest = [] := by
        cases rest with
        | nil => rfl
        | cons d rest => exact (hpair d rest hc rfl).elim
      subst hrest
      refine ⟨[c], fun cap => ?_, .inl rfl⟩
      cases cap <;> simp [untilClosed]
    · obtain ⟨inner, h⟩ := ih hne
      refine ⟨_, h.cons (fun cap => ?_) rfl (.within hc)⟩
      rw [untilClosed]
      exact fun _ _ hslash => absurd hslash hc
  | case4 closers taken c rest hquote ih =>
    obtain ⟨inner, h⟩ := ih hne
    exact ⟨_, h.cons (fun _ => untilClosed_quote _ _ hquote _) rfl (.opens hquote)⟩
  | case5 closers taken c rest hquote close hopen ih =>
    obtain ⟨inner, h⟩ := ih (List.cons_ne_nil _ _)
    exact ⟨_, h.cons (fun _ => untilClosed_open _ _ hopen _) (List.getLast?_cons_of_ne_nil hne)
      (.plain (by simpa using hquote))⟩
  | case6 => exact absurd rfl hne
  | case7 taken c rest hquote hplain close outer hc houter =>
    obtain rfl : c = close := by simpa using hc
    obtain rfl : outer = [] := by simpa using houter
    refine ⟨[], fun cap => ?_, .inr ⟨c, rest, rfl, rfl, [], .nil⟩⟩
    cases cap <;> simp [untilClosed, hquote, hplain]
  | case8 taken c rest hquote hplain close outer hc houter ih =>
    have houter' : outer ≠ [] := by simpa using houter
    obtain ⟨inner, h⟩ := ih houter'
    refine ⟨_, h.cons (fun cap => ?_) (List.getLast?_cons_of_ne_nil houter').symm
      (.plain (by simpa using hquote))⟩
    simp [untilClosed, hquote, hplain, hc, houter']
  | case9 taken c rest hquote hplain close outer hc ih =>
    obtain ⟨inner, h⟩ := ih hne
    refine ⟨_, h.cons (fun cap => ?_) rfl (.plain (by simpa using hquote))⟩
    simp [untilClosed, hquote, hplain, hc]

/-- The blocks of a bracket under all caps are cut from one text. -/
theorem exists_block {first close : Char} (hclose : closer? first = some close)
    (text : List Char) :
    ∃ inner, Inside [close] none [] inner text ∧
      ∀ cap, block? cap (first :: text) = some (inner.take cap) := by
  obtain ⟨inner, h⟩ := exists_inside [close] none [] text (List.cons_ne_nil _ _)
  refine ⟨inner, h, fun cap => ?_⟩
  rw [block?, hclose, Option.map_some, h.cut]
  rfl

/-! ## Balanced text in a bracket -/

theorem block?_balanced_take {first last : Char} (hclose : closer? first = some last)
    {inner : List Char} (hinner : Balanced inner) (cap : Nat) (rest : List Char) :
    block? cap (first :: (inner ++ last :: rest)) = some (inner.take cap) := by
  obtain ⟨whole, h, hblock⟩ := exists_block hclose (inner ++ last :: rest)
  have hwhole : whole = inner := by
    calc whole
        = untilClosed [last] none [] (inner ++ last :: rest) := h.untilClosed_eq.symm
      _ = untilClosed [last] none (inner.reverse ++ []) (last :: rest) :=
          untilClosed_balanced hinner (isBracket_of_closer? hclose).2 [] [] _
      _ = inner := by rw [untilClosed_close _ _ _ hclose]; simp
  rw [hblock, hwhole]

/-- The block of a bracket is the balanced text inside it. -/
theorem block?_balanced {first last : Char} (hclose : closer? first = some last)
    {inner : List Char} (hinner : Balanced inner) {cap : Nat} (hcap : inner.length ≤ cap)
    (rest : List Char) : block? cap (first :: (inner ++ last :: rest)) = some inner := by
  rw [block?_balanced_take hclose hinner, List.take_of_length_le hcap]

/-- The block of a bracket anywhere in a text is the balanced text inside it, cut at the cap. -/
theorem blockAt?_balanced {first last : Char} (hclose : closer? first = some last)
    {word : List Char} (hword : Balanced word) (before after : List Char) (cap : Nat) :
    blockAt? (before ++ first :: (word ++ last :: after)) before.length cap =
      some (word.take cap) := by
  rw [blockAt?, List.drop_left]
  exact block?_balanced_take hclose hword cap after

/-- A cap that falls between a backslash and the quote behind it. -/
theorem blockAt?_balanced_sample :
    closer? '[' = some ']' ∧ Balanced "('\\']')(\")\\x\"),".toList ∧
      blockAt? "a)[('\\']')(\")\\x\"),](".toList 2 3 = some "('\\".toList := by
  have hfirst : Balanced "('\\']')".toList :=
    .bracket rfl (.literal rfl (.escaped '\'' (.plain (by decide) (by decide) .nil)) .nil)
  have hsecond : Balanced "(\")\\x\"),".toList :=
    .group rfl (.literal rfl (.plain (by decide) (by decide) (.escaped 'x' .nil)) .nil)
      (.plain rfl .nil)
  have hword : Balanced "('\\']')(\")\\x\"),".toList := hfirst.append hsecond
  exact ⟨rfl, hword, blockAt?_balanced rfl hword ['a', ')'] ['('] 3⟩

/-! ## Two caps -/

theorem exists_blockAt {text : List Char} {start : Nat} {first close : Char}
    (hfirst : text[start]? = some first) (hclose : closer? first = some close) :
    ∃ inner, Inside [close] none [] inner (text.drop (start + 1)) ∧
      ∀ cap, blockAt? text start cap = some (inner.take cap) := by
  obtain ⟨hstart, rfl⟩ := List.getElem?_eq_some_iff.1 hfirst
  obtain ⟨inner, h, hblock⟩ := exists_block hclose (text.drop (start + 1))
  refine ⟨inner, h, fun cap => ?_⟩
  rw [blockAt?, List.drop_eq_getElem_cons hstart, hblock]

/-- A smaller cap only cuts a block: what it gives is the start of the block under a larger cap, both
stand behind the bracket, and a block that ends before its cap and before the text does ends at the
same closing bracket. -/
theorem blockAt?_cap {text : List Char} {start : Nat} {first close : Char}
    (hfirst : text[start]? = some first) (hclose : closer? first = some close) {m n : Nat}
    (hcap : m ≤ n) :
    ∃ block, blockAt? text start n = some block ∧ blockAt? text start m = some (block.take m) ∧
      block <+: text.drop (start + 1) ∧ block.take m <+: text.drop (start + 1) ∧
      (block.length < min n (text.length - start - 1) →
        text[start + 1 + block.length]? = some close) := by
  obtain ⟨inner, h, hblock⟩ := exists_blockAt hfirst hclose
  have hprefix : inner.take n <+: text.drop (start + 1) :=
    (List.take_prefix n inner).trans h.isPrefix
  refine ⟨inner.take n, hblock n, ?_, hprefix, (List.take_prefix m _).trans hprefix, ?_⟩
  · rw [hblock, List.take_take, min_eq_left hcap]
  · intro hlt
    rw [Nat.sub_sub, ← List.length_drop] at hlt
    obtain ⟨hwhole, close', rest, hlast, htext, -⟩ := h.closed_of_lt hlt
    obtain rfl : close = close' := by simpa using hlast
    rw [hwhole, ← List.getElem?_drop, htext]
    simp

/-- The text is malformed, and the smaller cap falls between a backslash and a quote. -/
theorem blockAt?_cap_sample :
    "x(]'\\')' ]) )".toList[1]? = some '(' ∧
      ∃ block, blockAt? "x(]'\\')' ]) )".toList 1 9 = some block ∧
        blockAt? "x(]'\\')' ]) )".toList 1 3 = some (block.take 3) ∧
        block <+: "]'\\')' ]) )".toList ∧ block.take 3 <+: "]'\\')' ]) )".toList ∧
        (block.length < min 9 (13 - 1 - 1) →
          "x(]'\\')' ]) )".toList[1 + 1 + block.length]? = some ')') := by
  have hfirst : "x(]'\\')' ]) )".toList[1]? = some '(' := rfl
  exact ⟨hfirst, blockAt?_cap hfirst rfl (by decide)⟩

/-! ## Literals in a block -/

theorem exists_of_blockAt?_eq_some {text block : List Char} {start cap : Nat}
    (h : blockAt? text start cap = some block) :
    ∃ first close, text[start]? = some first ∧ closer? first = some close := by
  rw [blockAt?] at h
  cases hdrop : text.drop start with
  | nil => simp [hdrop, block?] at h
  | cons first rest =>
    rw [hdrop, block?, Option.map_eq_some_iff] at h
    obtain ⟨close, hclose, -⟩ := h
    have hfirst : text[start]? = some first := by
      rw [← List.head?_drop, hdrop, List.head?_cons]
    exact ⟨first, close, hfirst, hclose⟩

/-- A block that ends at its closing bracket closes every literal that it opens.  So its literals are
found in it whatever stands behind it, and none of them goes on there. -/
theorem literals_closed_block {text block : List Char} {start cap : Nat}
    (hblock : blockAt? text start cap = some block)
    (hclosed : block.length < min cap (text.length - start - 1)) :
    Sealed block (literals block) ∧
      ∀ rest, literals (block ++ rest) = literals block ++ literals rest := by
  obtain ⟨first, close, hfirst, hclose⟩ := exists_of_blockAt?_eq_some hblock
  obtain ⟨inner, h, hinner⟩ := exists_blockAt hfirst hclose
  obtain rfl : inner.take cap = block := by simpa [hinner] using hblock
  rw [Nat.sub_sub, ← List.length_drop] at hclosed
  obtain ⟨hwhole, -, -, -, -, tokens, hsealed⟩ := h.closed_of_lt hclosed
  rw [hwhole, hsealed.spells.literals_eq]
  exact ⟨hsealed, hsealed.spells.literals_append⟩

/-- A literal with a closing bracket and an escaped quote in it, behind a bracket that closes
nothing, and a literal behind the block. -/
theorem literals_closed_block_sample :
    blockAt? "x(]'a)\\'b',[c])'d".toList 1 20 = some "]'a)\\'b',[c]".toList ∧
      Sealed "]'a)\\'b',[c]".toList (literals "]'a)\\'b',[c]".toList) ∧
      ∀ rest, literals ("]'a)\\'b',[c]".toList ++ rest) =
        literals "]'a)\\'b',[c]".toList ++ literals rest := by
  have hblock : blockAt? "x(]'a)\\'b',[c])'d".toList 1 20 = some "]'a)\\'b',[c]".toList := by
    decide
  exact ⟨hblock, literals_closed_block hblock (by decide)⟩

end AddonAtlas.Source
