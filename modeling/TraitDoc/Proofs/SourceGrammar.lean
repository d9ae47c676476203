import TraitDoc.Proofs.DeclarationPlace
/-!
# The grammar of sources

Taking a source apart is a chain of searches: the first comment, the first
declaration behind it, the first opening brace behind that, the last closing
brace of all. The grammar says the same without a search, by what stands where
and what does not stand in between. `Declaration.IsSource` is the grammar, and
`Declaration.Lacks` says for each fault what a text is missing.

Only the declaration takes an argument. The search answers with the end of the
declaration that *begins* first, the grammar asks for the one that *ends* first.
They are the same because declarations do not overlap: the declaring keyword
begins with an `@`, and no declaration holds a second one.

## Main definitions

* `DocComment.IsFirst`, `DocComment.Commented` — the first comment, and that there is one.
* `Declaration.CutsAt` — code that is cut behind a declaration.
* `Declaration.IsHeader`, `Declaration.Braces` — the parts of a source.
* `Declaration.IsSource`, `Declaration.Lacks` — the grammar, and what a text lacks.

## Main statements

* `DocComment.first?_eq_some_iff_isFirst`, `DocComment.first?_eq_none_iff` — the
  search for a comment is exact.
* `Declaration.findEnd?_eq_some_iff` — the search for a declaration is exact.
* `Declaration.locate_exact` — a source is taken apart as the grammar says, and
  each fault says what is missing.
-/

namespace TraitDoc

/-! ## The first comment -/

/-- A word that stands somewhere has room there. -/
theorem Text.add_length_le_of_prefix_drop {word s : Text} {i : Nat} (hword : word ≠ [])
    (h : word <+: s.drop i) : i + word.length ≤ s.length := by
  have hpos : 0 < word.length := List.length_pos_iff.2 hword
  have hfit := h.length_le
  rw [List.length_drop] at hfit
  omega

namespace DocComment

/-- The stretch is the first comment: the first opener, through the first closer behind it. -/
structure IsFirst (s : Text) (p : Span) : Prop where
  opener_at : opener <+: s.drop p.start
  room : p.start + 5 ≤ p.stop
  closer_at : closer <+: s.drop (p.stop - 2)
  no_opener : ∀ i < p.start, ¬ opener <+: s.drop i
  no_closer : ∀ k, p.start + 3 ≤ k → k + 2 < p.stop → ¬ closer <+: s.drop k

/-- The text holds an opener with a closer behind it. -/
def Commented (s : Text) : Prop :=
  ∃ i k, i + 3 ≤ k ∧ opener <+: s.drop i ∧ closer <+: s.drop k

theorem isFirst_of_first? {s : Text} {p : Span} (h : first? s = some p) : IsFirst s p := by
  have hbounds := first?_bounds h
  obtain ⟨gap, hopen, hclose, hstop⟩ := first?_eq_some_iff.1 h
  obtain ⟨-, hopenAt, hopenMin⟩ := Text.indexOf?_eq_some_iff.1 hopen
  obtain ⟨-, -, hcloseMin⟩ := Text.indexOf?_eq_some_iff.1 hclose
  refine ⟨hopenAt, hbounds.1, closer_of_first? h, hopenMin, fun k hlo hhi hk => ?_⟩
  apply hcloseMin (k - (p.start + 3)) (by omega)
  rw [List.drop_drop, Nat.add_sub_cancel' hlo]
  exact hk

/-- The search for the first comment is exact. -/
theorem first?_eq_some_iff_isFirst {s : Text} {p : Span} : first? s = some p ↔ IsFirst s p := by
  constructor
  · exact isFirst_of_first?
  · intro h
    have hroom := h.room
    have hopen := Text.add_length_le_of_prefix_drop (by decide) h.opener_at
    have hclose := Text.add_length_le_of_prefix_drop (by decide) h.closer_at
    have hbehind : p.start + 3 + (p.stop - 2 - (p.start + 3)) = p.stop - 2 := by omega
    refine first?_eq_some_iff.2 ⟨p.stop - 2 - (p.start + 3), ?_, ?_, by omega⟩
    · exact Text.indexOf?_eq_some_iff.2 ⟨by omega, h.opener_at, h.no_opener⟩
    · refine Text.indexOf?_eq_some_iff.2 ⟨?_, ?_, fun k hk hcloser => ?_⟩
      · rw [List.length_drop]
        omega
      · rw [List.drop_drop, hbehind]
        exact h.closer_at
      · rw [List.drop_drop] at hcloser
        exact h.no_closer _ (by omega) (by omega) hcloser

/-- A text in which no opener has a closer behind it has no comment, and no other text has none. -/
theorem first?_eq_none_iff {s : Text} : first? s = none ↔ ¬ Commented s := by
  constructor
  · intro hnone hcommented
    obtain ⟨i, k, hik, hopen, hclose⟩ := hcommented
    have hk := Text.add_length_le_of_prefix_drop (by decide) hclose
    obtain ⟨p, hp, -⟩ := exists_first?_of_opener hopen hclose hik (by omega)
    rw [hnone] at hp
    cases hp
  · intro hcommented
    cases hfirst : first? s with
    | none => rfl
    | some p =>
      have h := isFirst_of_first? hfirst
      have hroom := h.room
      exact absurd ⟨p.start, p.stop - 2, by omega, h.opener_at, h.closer_at⟩ hcommented

theorem commented_iff {s : Text} : Commented s ↔ ∃ p, first? s = some p := by
  rw [← Option.isSome_iff_exists, ← Option.ne_none_iff_isSome, Ne, first?_eq_none_iff, not_not]

end DocComment

open DocComment

namespace Declaration

/-! ## The first declaration -/

/--
The code is cut behind a declaration of `name`: `front` ends in one, and `rest`
does not go on with a word character.
-/
structure CutsAt (name code front rest : Text) : Prop where
  code_eq : code = front ++ rest
  ends : ∃ before gap, EndsInDeclaration name front before gap
  whole : ∀ c, rest.head? = some c → isWord c = false

/-- The text begins with a declaration of `name`, and `rest` is what follows. -/
structure Opens (name s rest : Text) : Prop where
  declares : ∃ c gap, isBlank c = true ∧ gap ≠ [] ∧ (∀ d ∈ gap, isBlank d = true) ∧
    s = c :: (Plumbing.keyword ++ (gap ++ (name ++ rest)))
  whole : ∀ c, rest.head? = some c → isWord c = false

/-- The white space before a name ends where the name begins. -/
private theorem takeWhile_isBlank_append {name gap rest : Text} (hname : name.IsWord)
    (hgap : ∀ d ∈ gap, isBlank d = true) : (gap ++ (name ++ rest)).takeWhile isBlank = gap := by
  obtain ⟨c, more, rfl⟩ := List.exists_cons_of_ne_nil hname.1
  have hc : isBlank c = false := by
    cases hblank : isBlank c with
    | false => rfl
    | true =>
      have hword := hname.2 c List.mem_cons_self
      rw [isWord_eq_false_of_isBlank hblank] at hword
      cases hword
  have hstop : ((c :: more) ++ rest).takeWhile isBlank = [] := by simp [hc]
  rw [List.takeWhile_append_of_pos hgap, hstop, List.append_nil]

/-- Behind a name there is a word boundary exactly if no word character follows. -/
private theorem isBoundary_behind_iff {name front rest : Text} (hname : name.IsWord) :
    isBoundary (front ++ name).getLast? rest.head? = true ↔
      ∀ c, rest.head? = some c → isWord c = false := by
  have hlast : (front ++ name).getLast? = some (name.getLast hname.1) := by
    rw [List.getLast?_append, List.getLast?_eq_some_getLast hname.1]
    rfl
  have hword : isWord (name.getLast hname.1) = true := hname.2 _ (List.getLast_mem hname.1)
  rw [isBoundary, hlast, Option.any_some, hword]
  cases rest.head? with
  | none => simp
  | some c => simp

theorem nameLength?_of_gap {name gap rest : Text} (hname : name.IsWord) (hgap : gap ≠ [])
    (hrest : ∀ c, rest.head? = some c → isWord c = false) :
    nameLength? name (gap ++ (name ++ rest)) gap.length = some (gap.length + name.length) := by
  obtain ⟨n, hn⟩ : ∃ n, gap.length = n + 1 :=
    Nat.exists_eq_succ_of_ne_zero (mt List.length_eq_zero_iff.1 hgap)
  have hdrop : (gap ++ (name ++ rest)).drop (n + 1) = name ++ rest := by
    rw [← hn, List.drop_left]
  have hstop : n + 1 + name.length = (gap ++ name).length := by
    rw [List.length_append, hn]
  have hassoc : gap ++ (name ++ rest) = (gap ++ name) ++ rest := (List.append_assoc _ _ _).symm
  have hhere : name.isPrefixOf (name ++ rest) = true :=
    List.isPrefixOf_iff_prefix.2 (List.prefix_append name rest)
  rw [hn, nameLength?, hdrop, hstop, hassoc, List.take_left, List.drop_left, hhere,
    (isBoundary_behind_iff hname).2 hrest]
  rfl

/-- A declaration at the beginning of a text is found there, and what is found there is one. -/
theorem length?_eq_some_iff {name s : Text} {n : Nat} (hname : name.IsWord) :
    length? name s = some n ↔ ∃ rest, Opens name s rest ∧ n + rest.length = s.length := by
  constructor
  · intro h
    cases s with
    | nil => cases h
    | cons c s =>
      rw [length?] at h
      split at h
      · rename_i hhere
        rw [Bool.and_eq_true] at hhere
        obtain ⟨code, rfl⟩ := List.isPrefixOf_iff_prefix.1 hhere.2
        rw [List.drop_left, Option.map_eq_some_iff] at h
        obtain ⟨len, hlen, rfl⟩ := h
        obtain ⟨k, hlo, hhi, rfl, ⟨rest, hrest⟩, hboundary⟩ := exists_of_nameLength? hlen
        have hrun : code.take k <+: code.takeWhile isBlank :=
          List.prefix_of_prefix_length_le (List.take_prefix k code) (List.takeWhile_prefix _)
            (by rw [List.length_take]; omega)
        have hk : k ≤ code.length := Nat.le_trans hhi (List.takeWhile_prefix _).length_le
        have hsplit : code = code.take k ++ (name ++ rest) := by
          rw [hrest, List.take_append_drop]
        have hlength : (code.take k).length = k := by
          rw [List.length_take, Nat.min_eq_left hk]
        have htake : code.take (k + name.length) = code.take k ++ name := by
          rw [List.take_add, ← hrest, List.take_left]
        have hdrop : code.drop (k + name.length) = rest := by
          rw [← List.drop_drop, ← hrest, List.drop_left]
        rw [htake, hdrop, isBoundary_behind_iff hname] at hboundary
        refine ⟨rest, ⟨⟨c, code.take k, hhere.1, ?_, ?_, by rw [← hsplit]⟩, hboundary⟩, ?_⟩
        · intro hnil
          rw [hnil, List.length_nil] at hlength
          omega
        · exact fun d hd => List.all_eq_true.1 List.all_takeWhile d (hrun.subset hd)
        · have hcode := congrArg List.length hsplit
          simp only [List.length_append, List.length_cons] at hcode ⊢
          omega
      · cases h
  · intro h
    obtain ⟨rest, ⟨⟨c, gap, hc, hgap, hblank, rfl⟩, hwhole⟩, hn⟩ := h
    have hkeyword : Plumbing.keyword.isPrefixOf (Plumbing.keyword ++ (gap ++ (name ++ rest))) =
        true := List.isPrefixOf_iff_prefix.2 (List.prefix_append _ _)
    rw [length?, hc, hkeyword, Bool.and_self, if_pos rfl, List.drop_left]
    dsimp only
    rw [takeWhile_isBlank_append hname hblank, nameLength?_of_gap hname hgap hwhole,
      Option.map_some]
    simp only [List.length_append, List.length_cons] at hn
    exact congrArg some (by omega)

theorem not_cutsAt_nil {name front rest : Text} : ¬ CutsAt name [] front rest := by
  intro h
  obtain ⟨before, gap, hdecl⟩ := h.ends
  have hnil : front = [] := (List.append_eq_nil_iff.1 h.code_eq.symm).1
  rw [hdecl.code_eq, List.append_eq_nil_iff, List.append_eq_nil_iff] at hnil
  exact absurd hnil.2.1 (by decide)

/-- A cut is behind a declaration with which the text begins, or behind a later one. -/
theorem cutsAt_cons_iff {name s front rest : Text} {c : Char} :
    CutsAt name (c :: s) front rest ↔
      (Opens name (c :: s) rest ∧ c :: s = front ++ rest) ∨
        ∃ more, front = c :: more ∧ CutsAt name s more rest := by
  constructor
  · intro h
    obtain ⟨before, gap, hdecl⟩ := h.ends
    obtain ⟨lead, b, hbefore, hb⟩ := hdecl.before_blank
    have hfront : front = lead ++ b :: (Plumbing.keyword ++ (gap ++ name)) := by
      rw [hdecl.code_eq, hbefore, List.append_assoc]
      rfl
    cases lead with
    | nil =>
      refine .inl ⟨⟨⟨b, gap, hb, hdecl.gap_ne_nil, hdecl.gap_blank, ?_⟩, h.whole⟩, h.code_eq⟩
      rw [h.code_eq, hfront]
      simp only [List.nil_append, List.cons_append, List.append_assoc]
    | cons d lead =>
      have hcode := h.code_eq
      rw [hfront, List.cons_append, List.cons_append, List.cons.injEq] at hcode
      obtain ⟨rfl, hcode⟩ := hcode
      refine .inr ⟨lead ++ b :: (Plumbing.keyword ++ (gap ++ name)), hfront, hcode, ?_, h.whole⟩
      refine ⟨lead ++ [b], gap, ?_, ⟨lead, b, rfl, hb⟩, hdecl.gap_ne_nil, hdecl.gap_blank⟩
      rw [List.append_assoc]
      rfl
  · intro h
    rcases h with ⟨hopens, hcode⟩ | ⟨more, rfl, hcuts⟩
    · obtain ⟨⟨b, gap, hb, hgap, hblank, heq⟩, hwhole⟩ := hopens
      refine ⟨hcode, ⟨[b], gap, ?_, ⟨[], b, rfl, hb⟩, hgap, hblank⟩, hwhole⟩
      have hsame : front ++ rest = [b] ++ (Plumbing.keyword ++ (gap ++ name)) ++ rest := by
        rw [← hcode, heq]
        simp only [List.cons_append, List.nil_append, List.append_assoc]
      exact List.append_cancel_right hsame
    · obtain ⟨before, gap, hdecl⟩ := hcuts.ends
      exact ⟨by rw [hcuts.code_eq]; rfl, ⟨c :: before, gap, hdecl.append_left [c]⟩, hcuts.whole⟩

/-- Declarations do not overlap: one that begins later ends later. -/
private theorem length_le_of_opens {name s front rest rest' : Text} {c : Char}
    (hname : name.IsWord) (hopens : Opens name (c :: s) rest) (hcuts : CutsAt name s front rest') :
    rest'.length ≤ rest.length := by
  obtain ⟨⟨b, gap, -, -, hblank, heq⟩, -⟩ := hopens
  obtain ⟨before, gap', hdecl⟩ := hcuts.ends
  obtain ⟨lead, d, hbefore, -⟩ := hdecl.before_blank
  have hs : s = (Plumbing.keyword ++ (gap ++ name)) ++ rest := by
    rw [(List.cons.inj heq).2]
    simp only [List.append_assoc]
  have hlength := congrArg List.length (hs.symm.trans hcuts.code_eq)
  simp only [List.length_append] at hlength
  by_contra hlonger
  -- then the later one ends within the first one, and its keyword brings a second `@` there
  have hprefix : front <+: Plumbing.keyword ++ (gap ++ name) := by
    have hlater : front <+: s := ⟨rest', hcuts.code_eq.symm⟩
    have hearlier : Plumbing.keyword ++ (gap ++ name) <+: s := ⟨rest, hs.symm⟩
    apply List.prefix_of_prefix_length_le hlater hearlier
    simp only [List.length_append]
    omega
  obtain ⟨more, hmore⟩ := hprefix
  have hfirst : Plumbing.keyword ++ (gap ++ name) =
      '@' :: (Plumbing.keyword.tail ++ (gap ++ name)) := rfl
  have hat : '@' ∈ Plumbing.keyword ++ (gap' ++ name) := List.mem_append_left _ (by decide)
  have hmem : '@' ∈ Plumbing.keyword.tail ++ (gap ++ name) := by
    rw [hfirst, hdecl.code_eq, hbefore] at hmore
    cases lead with
    | nil =>
      rw [← (List.cons.inj hmore).2]
      exact List.mem_append_left _ hat
    | cons e lead =>
      rw [← (List.cons.inj hmore).2]
      exact List.mem_append_left _ (List.mem_append_right _ hat)
  rw [List.mem_append, List.mem_append] at hmem
  rcases hmem with hmem | hmem | hmem
  · exact absurd hmem (by decide)
  · exact absurd (hblank _ hmem) (by decide)
  · exact hname.not_mem isWord_at hmem

/-- Where no declaration is found, there is none. -/
theorem findEnd?_eq_none_iff {name code : Text} (hname : name.IsWord) :
    findEnd? name code = none ↔ ∀ front rest, ¬ CutsAt name code front rest := by
  induction code with
  | nil =>
    constructor
    · exact fun _ _ _ => not_cutsAt_nil
    · exact fun _ => rfl
  | cons c s ih =>
    rw [findEnd?]
    cases hlen : length? name (c :: s) with
    | some n =>
      obtain ⟨rest, hopens, hn⟩ := (length?_eq_some_iff hname).1 hlen
      constructor
      · intro h
        cases h
      · intro hnone
        obtain ⟨b, gap, -, -, -, heq⟩ := hopens.declares
        refine absurd (cutsAt_cons_iff.2 (.inl ⟨hopens, ?_⟩))
          (hnone (b :: (Plumbing.keyword ++ (gap ++ name))) rest)
        rw [heq]
        simp only [List.cons_append, List.append_assoc]
    | none =>
      have hopens : ∀ rest, ¬ Opens name (c :: s) rest := by
        intro rest hopens
        obtain ⟨b, gap, -, -, -, heq⟩ := hopens.declares
        have hlength := congrArg List.length heq
        simp only [List.length_append, List.length_cons] at hlength
        have hfound := (length?_eq_some_iff (n := s.length + 1 - rest.length) hname).2
          ⟨rest, hopens, by rw [List.length_cons]; omega⟩
        rw [hlen] at hfound
        cases hfound
      rw [Option.map_eq_none_iff, ih]
      constructor
      · intro hnone front rest hcuts
        rcases cutsAt_cons_iff.1 hcuts with ⟨hopen, -⟩ | ⟨more, -, hmore⟩
        · exact hopens rest hopen
        · exact hnone more rest hmore
      · intro hnone front rest hcuts
        exact hnone (c :: front) rest (cutsAt_cons_iff.2 (.inr ⟨front, rfl, hcuts⟩))

/-- What is found is a declaration, and no other one ends before it. -/
private theorem cutsAt_of_findEnd? {name code : Text} {n : Nat} (hname : name.IsWord)
    (h : findEnd? name code = some n) :
    ∃ front rest, CutsAt name code front rest ∧ front.length = n ∧
      ∀ front' rest', CutsAt name code front' rest' → n ≤ front'.length := by
  induction code generalizing n with
  | nil => cases h
  | cons c s ih =>
    rw [findEnd?] at h
    cases hlen : length? name (c :: s) with
    | some k =>
      rw [hlen] at h
      obtain rfl := Option.some.inj h
      obtain ⟨rest, hopens, hk⟩ := (length?_eq_some_iff hname).1 hlen
      obtain ⟨b, gap, -, -, -, heq⟩ := hopens.declares
      have hcode : c :: s = b :: (Plumbing.keyword ++ (gap ++ name)) ++ rest := by
        rw [heq]
        simp only [List.cons_append, List.append_assoc]
      have hfront := congrArg List.length hcode
      rw [List.length_append] at hfront
      refine ⟨_, rest, cutsAt_cons_iff.2 (.inl ⟨hopens, hcode⟩), by omega, ?_⟩
      intro front' rest' hcuts
      have hsplit := congrArg List.length hcuts.code_eq
      rw [List.length_append] at hsplit
      rcases cutsAt_cons_iff.1 hcuts with ⟨hopens', -⟩ | ⟨more, rfl, hmore⟩
      · have hk' := (length?_eq_some_iff (n := front'.length) hname).2 ⟨rest', hopens', hsplit.symm⟩
        rw [hlen] at hk'
        exact Nat.le_of_eq (Option.some.inj hk')
      · have hle := length_le_of_opens hname hopens hmore
        omega
    | none =>
      rw [hlen] at h
      obtain ⟨k, hk, rfl⟩ := Option.map_eq_some_iff.1 h
      obtain ⟨front, rest, hcuts, rfl, hmin⟩ := ih hk
      refine ⟨c :: front, rest, cutsAt_cons_iff.2 (.inr ⟨front, rfl, hcuts⟩), rfl, ?_⟩
      intro front' rest' hcuts'
      have hsplit := congrArg List.length hcuts'.code_eq
      rw [List.length_append] at hsplit
      rcases cutsAt_cons_iff.1 hcuts' with ⟨hopens, -⟩ | ⟨more, rfl, hmore⟩
      · have hk' := (length?_eq_some_iff (n := front'.length) hname).2 ⟨rest', hopens, hsplit.symm⟩
        rw [hlen] at hk'
        cases hk'
      · exact Nat.succ_le_succ (hmin more rest' hmore)

/-- What is found is the declaration that ends first. -/
theorem findEnd?_eq_some_iff {name code : Text} {n : Nat} (hname : name.IsWord) :
    findEnd? name code = some n ↔ ∃ front rest, CutsAt name code front rest ∧ front.length = n ∧
      ∀ front' rest', CutsAt name code front' rest' → n ≤ front'.length := by
  constructor
  · exact cutsAt_of_findEnd? hname
  · intro h
    obtain ⟨front, rest, hcuts, rfl, hmin⟩ := h
    cases hfind : findEnd? name code with
    | none => exact absurd hcuts ((findEnd?_eq_none_iff hname).1 hfind front rest)
    | some n =>
      obtain ⟨front', rest', hcuts', rfl, hmin'⟩ := cutsAt_of_findEnd? hname hfind
      exact congrArg some (Nat.le_antisymm (hmin' front rest hcuts) (hmin front' rest' hcuts'))

/-! ## Header and body -/

/--
The text is a beginning of the source that goes on behind the first comment and
ends in a declaration of `name`, with no word character behind it.
-/
def EndsHeader (name source header : Text) : Prop :=
  ∃ comment code rest, IsFirst source comment ∧ CutsAt name (source.drop comment.stop) code rest ∧
    header = source.take comment.stop ++ code

/-- The header of a source is the shortest beginning that ends in its declaration. -/
structure IsHeader (name source header : Text) : Prop where
  ends : EndsHeader name source header
  shortest : ∀ other, EndsHeader name source other → header.length ≤ other.length

/-- The body in the code behind a header: from the first opening brace to the last closing one. -/
def Braces (code body : Text) : Prop :=
  ∃ gap inner tail, code = gap ++ (body ++ tail) ∧ '\x7b' ∉ gap ∧ '\x7d' ∉ tail ∧
    body = '\x7b' :: (inner ++ ['\x7d'])

/-- The text holds an opening brace and behind it a closing one. -/
def Braced (code : Text) : Prop := ∃ a b c, code = a ++ '\x7b' :: (b ++ '\x7d' :: c)

/-- The grammar of a source: its header, and behind that its body. -/
structure IsSource (name source : Text) (parts : Declaration) : Prop where
  header : IsHeader name source parts.header
  body : ∃ code, source = parts.header ++ code ∧ Braces code parts.body

/-- What a text lacks that is no source of `name`, by the fault. -/
def Lacks (name source : Text) : StructureFault → Prop
  | .noComment => ¬ Commented source
  | .noDeclaration => Commented source ∧ ∀ header, ¬ IsHeader name source header
  | .noBody => ∃ header, IsHeader name source header ∧ ¬ Braced (source.drop header.length)
  | .nameLost => False

theorem endsHeader_iff {name source header : Text} {p : Span} (hp : first? source = some p) :
    EndsHeader name source header ↔ ∃ code rest, CutsAt name (source.drop p.stop) code rest ∧
      header = source.take p.stop ++ code := by
  constructor
  · intro h
    obtain ⟨q, code, rest, hq, hcuts, hheader⟩ := h
    obtain rfl := Option.some.inj (hp.symm.trans (first?_eq_some_iff_isFirst.2 hq))
    exact ⟨code, rest, hcuts, hheader⟩
  · intro h
    obtain ⟨code, rest, hcuts, hheader⟩ := h
    exact ⟨p, code, rest, first?_eq_some_iff_isFirst.1 hp, hcuts, hheader⟩

/-- The header ends where the search for a declaration ends. -/
theorem isHeader_iff {name source header : Text} {p : Span} (hname : name.IsWord)
    (hp : first? source = some p) : IsHeader name source header ↔
      ∃ n, findEnd? name (source.drop p.stop) = some n ∧ header = source.take (p.stop + n) := by
  have hstop := (first?_bounds hp).2
  have htop : (source.take p.stop).length = p.stop := by
    rw [List.length_take, Nat.min_eq_left hstop]
  constructor
  · intro h
    obtain ⟨code, rest, hcuts, hheader⟩ := (endsHeader_iff hp).1 h.ends
    have hmin : ∀ front' rest', CutsAt name (source.drop p.stop) front' rest' →
        code.length ≤ front'.length := by
      intro front' rest' hcuts'
      have hle := h.shortest _ ((endsHeader_iff hp).2 ⟨front', rest', hcuts', rfl⟩)
      rw [hheader, List.length_append, List.length_append] at hle
      omega
    refine ⟨code.length, (findEnd?_eq_some_iff hname).2 ⟨code, rest, hcuts, rfl, hmin⟩, ?_⟩
    rw [List.take_add, hcuts.code_eq, List.take_left, hheader]
  · intro h
    obtain ⟨n, hn, hheader⟩ := h
    obtain ⟨code, rest, hcuts, rfl, hmin⟩ := (findEnd?_eq_some_iff hname).1 hn
    have hsplit : header = source.take p.stop ++ code := by
      rw [hheader, List.take_add, hcuts.code_eq, List.take_left]
    refine ⟨(endsHeader_iff hp).2 ⟨code, rest, hcuts, hsplit⟩, fun other hother => ?_⟩
    obtain ⟨code', rest', hcuts', rfl⟩ := (endsHeader_iff hp).1 hother
    have hle := hmin code' rest' hcuts'
    rw [hsplit, List.length_append, List.length_append]
    omega

/-! ## The body -/

/-- Behind a cut the body is what the two searches for braces find. -/
theorem braces_iff (front : Text) {rest body : Text} :
    Braces rest body ↔ ∃ gap close, Text.indexOf? ['\x7b'] rest = some gap ∧
      Text.lastIndexOf? '\x7d' (front ++ rest) = some close ∧ front.length + gap ≤ close ∧
      body = Text.slice (front ++ rest) ⟨front.length + gap, close + 1⟩ := by
  constructor
  · intro h
    obtain ⟨gap, inner, tail, rfl, hgap, htail, rfl⟩ := h
    have hrest : gap ++ ('\x7b' :: (inner ++ ['\x7d']) ++ tail) =
        gap ++ '\x7b' :: (inner ++ '\x7d' :: tail) := by
      simp only [List.cons_append, List.append_assoc, List.nil_append]
    have hcode : front ++ (gap ++ ('\x7b' :: (inner ++ ['\x7d']) ++ tail)) =
        (front ++ gap ++ '\x7b' :: inner) ++ '\x7d' :: tail := by
      simp only [List.cons_append, List.append_assoc, List.nil_append]
    refine ⟨gap.length, (front ++ gap ++ '\x7b' :: inner).length, ?_, ?_, ?_, ?_⟩
    · rw [hrest]
      exact Text.indexOf?_append_cons hgap _
    · exact Text.lastIndexOf?_eq_some_iff_append.2 ⟨_, tail, hcode, htail, rfl⟩
    · simp only [List.length_append]
      omega
    · have hlen : (front ++ gap ++ '\x7b' :: inner).length + 1 - (front.length + gap.length) =
          ('\x7b' :: (inner ++ ['\x7d'])).length := by
        simp only [List.length_append, List.length_cons, List.length_nil]
        omega
      rw [Text.slice, hlen, ← List.length_append, ← List.append_assoc, List.drop_left,
        List.take_left]
  · intro h
    obtain ⟨gap, close, hgap, hclose, hle, rfl⟩ := h
    obtain ⟨before, code, rfl, hbefore, rfl⟩ := Text.indexOf?_singleton_eq_some_iff.1 hgap
    obtain ⟨lead, tail, hlead, htail, rfl⟩ := Text.lastIndexOf?_eq_some_iff_append.1 hclose
    have hsplit : (front ++ before) ++ '\x7b' :: code = lead ++ '\x7d' :: tail := by
      rw [← hlead, List.append_assoc]
    have hprefix : front ++ before <+: lead := by
      refine List.prefix_of_prefix_length_le (List.prefix_append _ _) ⟨_, hsplit.symm⟩ ?_
      rw [List.length_append]
      exact hle
    obtain ⟨between, rfl⟩ := hprefix
    rw [List.append_assoc (front ++ before) between, List.append_cancel_left_eq] at hsplit
    cases between with
    | nil => exact absurd (List.cons.inj hsplit).1 (by decide)
    | cons c inner =>
      obtain ⟨rfl, hcode⟩ := List.cons.inj hsplit
      replace hcode : code = inner ++ '\x7d' :: tail := hcode
      subst hcode
      have hbody : Text.slice (front ++ (before ++ '\x7b' :: (inner ++ '\x7d' :: tail)))
          ⟨front.length + before.length, (front ++ before ++ '\x7b' :: inner).length + 1⟩ =
          '\x7b' :: (inner ++ ['\x7d']) := by
        have hlen : (front ++ before ++ '\x7b' :: inner).length + 1 -
            (front.length + before.length) = ('\x7b' :: (inner ++ ['\x7d'])).length := by
          simp only [List.length_append, List.length_cons, List.length_nil]
          omega
        have hassoc : front ++ (before ++ '\x7b' :: (inner ++ '\x7d' :: tail)) =
            (front ++ before) ++ ('\x7b' :: (inner ++ ['\x7d']) ++ tail) := by
          simp only [List.cons_append, List.append_assoc, List.nil_append]
        rw [Text.slice, hlen, hassoc, ← List.length_append, List.drop_left, List.take_left]
      refine ⟨before, inner, tail, ?_, hbefore, htail, hbody⟩
      rw [hbody]
      simp only [List.cons_append, List.append_assoc, List.nil_append]

/-- There is a body exactly if an opening brace has a closing one behind it. -/
theorem braced_iff {code : Text} : Braced code ↔ ∃ body, Braces code body := by
  constructor
  · intro h
    obtain ⟨a, b, c, rfl⟩ := h
    have hopen : '\x7b' ∈ a ++ '\x7b' :: (b ++ '\x7d' :: c) := by simp
    obtain ⟨gap, rest, hrest, hgap⟩ := List.eq_append_cons_of_mem hopen
    -- the first opening brace is no later than this one, so the closing one is behind it too
    have hsuffix : '\x7b' :: (b ++ '\x7d' :: c) <:+ '\x7b' :: rest := by
      refine Text.suffix_of_suffix_append hgap ?_
      rw [← hrest]
      exact List.suffix_append a _
    have hmem : '\x7d' ∈ rest := by
      rcases List.suffix_cons_iff.1 hsuffix with heq | hlater
      · rw [← (List.cons.inj heq).2]
        simp
      · exact hlater.subset (by simp)
    cases hlast : Text.lastIndexOf? '\x7d' rest with
    | none => exact absurd hmem (Text.lastIndexOf?_eq_none_iff.1 hlast)
    | some i =>
      obtain ⟨inner, tail, rfl, htail, -⟩ := Text.lastIndexOf?_eq_some_iff_append.1 hlast
      refine ⟨'\x7b' :: (inner ++ ['\x7d']), gap, inner, tail, ?_, hgap, htail, rfl⟩
      rw [hrest]
      simp only [List.cons_append, List.append_assoc, List.nil_append]
  · intro h
    obtain ⟨body, gap, inner, tail, rfl, -, -, rfl⟩ := h
    refine ⟨gap, inner, tail, ?_⟩
    simp only [List.cons_append, List.append_assoc, List.nil_append]

/-! ## Sources -/

/-- How the words for a fault begin. -/
private theorem take_detail (name : Text) (fault : StructureFault) :
    (fault.detail name).take 4 =
      match fault with
      | .noComment => "no d".toList
      | .noDeclaration => "no '".toList
      | .noBody => "decl".toList
      | .nameLost => "rewr".toList := by
  cases fault <;> rfl

/-- The words for a fault tell it from every other fault. -/
theorem detail_injective {name : Text} {fault other : StructureFault}
    (h : fault.detail name = other.detail name) : fault = other := by
  have hbegin := congrArg (List.take 4) h
  rw [take_detail, take_detail] at hbegin
  cases fault <;> cases other <;> first | rfl | exact absurd hbegin (by decide)

/-- How the search ends where a comment and a declaration have been found. -/
private theorem locate_of_found {name source : Text} {p : Span} {n : Nat}
    (hp : first? source = some p) (hn : findEnd? name (source.drop p.stop) = some n) :
    (∃ parts, locate name source = .ok parts) ∨ locate name source = .error .noBody := by
  unfold locate
  rw [hp]
  dsimp only
  rw [hn]
  dsimp only
  cases Text.indexOf? ['\x7b'] ((source.drop p.stop).drop n) with
  | none => exact .inr rfl
  | some gap =>
    dsimp only
    cases Text.lastIndexOf? '\x7d' (source.drop p.stop) with
    | none => exact .inr rfl
    | some close =>
      dsimp only
      split
      · exact .inr rfl
      · exact .inl ⟨_, rfl⟩

private theorem locate_of_none {name source : Text} (hp : first? source = none) :
    locate name source = .error .noComment := by
  unfold locate
  rw [hp]
  rfl

private theorem locate_of_undeclared {name source : Text} {p : Span} (hp : first? source = some p)
    (hn : findEnd? name (source.drop p.stop) = none) :
    locate name source = .error .noDeclaration := by
  unfold locate
  rw [hp]
  dsimp only
  rw [hn]
  rfl

/-- What the search has found is the text up to the first comment, the cut code, and the rest. -/
private theorem source_eq_of_cut {name source front rest : Text} {p : Span}
    (hcuts : CutsAt name (source.drop p.stop) front rest) :
    source = source.take (p.stop + front.length) ++ rest := by
  have htake : (source.drop p.stop).take front.length = front := by
    rw [hcuts.code_eq, List.take_left]
  calc source = source.take p.stop ++ source.drop p.stop := (List.take_append_drop _ _).symm
    _ = source.take p.stop ++ (front ++ rest) := by rw [← hcuts.code_eq]
    _ = source.take (p.stop + front.length) ++ rest := by
      rw [List.take_add, htake, List.append_assoc]

/-- A text is taken apart where it has a header and a body behind the header. -/
theorem locate_eq_ok_iff_isSource {name source : Text} {parts : Declaration}
    (hname : name.IsWord) : locate name source = .ok parts ↔ IsSource name source parts := by
  rw [locate_eq_ok_iff]
  constructor
  · intro h
    obtain ⟨p, n, gap, close, hp, hn, hgap, hclose, hle, rfl⟩ := h
    have hheader := (isHeader_iff hname hp).2 ⟨n, hn, rfl⟩
    obtain ⟨front, rest, hcuts, rfl, -⟩ := (findEnd?_eq_some_iff hname).1 hn
    rw [hcuts.code_eq, List.drop_left] at hgap
    rw [hcuts.code_eq] at hclose
    refine ⟨hheader, rest, source_eq_of_cut hcuts, ?_⟩
    refine (braces_iff front).2 ⟨gap, close, hgap, hclose, hle, ?_⟩
    rw [← hcuts.code_eq]
  · intro h
    obtain ⟨p, _, _, hfirst, -, -⟩ := h.header.ends
    have hp := first?_eq_some_iff_isFirst.2 hfirst
    obtain ⟨n, hn, hheader⟩ := (isHeader_iff hname hp).1 h.header
    obtain ⟨front, rest, hcuts, rfl, -⟩ := (findEnd?_eq_some_iff hname).1 hn
    obtain ⟨code, hsource, hbraces⟩ := h.body
    have hcode : code = rest := by
      have hsplit := hsource.symm.trans (source_eq_of_cut hcuts)
      rw [hheader] at hsplit
      exact List.append_cancel_left hsplit
    rw [hcode] at hbraces
    obtain ⟨gap, close, hgap, hclose, hle, hbody⟩ := (braces_iff front).1 hbraces
    refine ⟨p, front.length, gap, close, hp, hn, ?_, ?_, hle, ?_⟩
    · rw [hcuts.code_eq, List.drop_left]
      exact hgap
    · rw [hcuts.code_eq]
      exact hclose
    · rw [hcuts.code_eq, ← hheader, ← hbody]

theorem EndsHeader.isPrefix {name source header : Text} (h : EndsHeader name source header) :
    header <+: source := by
  obtain ⟨p, code, rest, -, hcuts, rfl⟩ := h
  refine ⟨rest, ?_⟩
  rw [List.append_assoc, ← hcuts.code_eq, List.take_append_drop]

/-- A text with a header is a source exactly if there are braces for a body behind the header. -/
private theorem exists_isSource_iff {name source header : Text}
    (hheader : ∀ other, IsHeader name source other ↔ other = header) :
    (∃ parts, IsSource name source parts) ↔ Braced (source.drop header.length) := by
  have hthis := (hheader header).2 rfl
  have hsplit : source = header ++ source.drop header.length :=
    List.prefix_iff_eq_append.1 hthis.ends.isPrefix |>.symm
  rw [braced_iff]
  constructor
  · intro h
    obtain ⟨parts, hparts, code, hsource, hbody⟩ := h
    rw [(hheader parts.header).1 hparts] at hsource
    have hcode : code = source.drop header.length :=
      List.append_cancel_left (hsource.symm.trans hsplit)
    rw [hcode] at hbody
    exact ⟨parts.body, hbody⟩
  · intro h
    obtain ⟨body, hbody⟩ := h
    exact ⟨⟨header, body⟩, hthis, source.drop header.length, hsplit, hbody⟩

/-- Where a text is not taken apart, the fault says what it lacks. -/
theorem locate_eq_error_iff_lacks {name source : Text} {fault : StructureFault}
    (hname : name.IsWord) : locate name source = .error fault ↔ Lacks name source fault := by
  cases hp : first? source with
  | none =>
    have hcommented : ¬ Commented source := first?_eq_none_iff.1 hp
    have hheader : ∀ header, ¬ IsHeader name source header := by
      intro header h
      obtain ⟨q, _, _, hq, -, -⟩ := h.ends
      exact hcommented (commented_iff.2 ⟨q, first?_eq_some_iff_isFirst.2 hq⟩)
    rw [locate_of_none hp]
    cases fault <;> simp [Lacks, hcommented, hheader]
  | some p =>
    have hcommented : Commented source := commented_iff.2 ⟨p, hp⟩
    cases hn : findEnd? name (source.drop p.stop) with
    | none =>
      have hheader : ∀ header, ¬ IsHeader name source header := by
        intro header h
        obtain ⟨n, hn', -⟩ := (isHeader_iff hname hp).1 h
        rw [hn] at hn'
        cases hn'
      rw [locate_of_undeclared hp hn]
      cases fault <;> simp [Lacks, hcommented, hheader]
    | some n =>
      obtain ⟨header, hheader⟩ :
          ∃ header, ∀ other, IsHeader name source other ↔ other = header := by
        refine ⟨source.take (p.stop + n), fun other => ?_⟩
        rw [isHeader_iff hname hp, hn]
        simp
      have hbraced := exists_isSource_iff hheader
      rcases locate_of_found hp hn with ⟨parts, hok⟩ | herror
      · rw [hok]
        have hbody := hbraced.1 ⟨parts, (locate_eq_ok_iff_isSource hname).1 hok⟩
        cases fault <;> simp [Lacks, hcommented, hheader, hbody]
      · have hbody : ¬ Braced (source.drop header.length) := by
          intro h
          obtain ⟨parts, hparts⟩ := hbraced.2 h
          rw [(locate_eq_ok_iff_isSource hname).2 hparts] at herror
          cases herror
        rw [herror]
        cases fault <;> simp [Lacks, hcommented, hheader, hbody]

/--
**A text is taken apart into header and body exactly as the grammar of sources
says. Otherwise the fault says what the text lacks, in words of its own: a
comment, or else a header, or else the braces of a body behind the header.**
-/
theorem locate_exact {name : Text} (hname : name.IsWord) (source : Text) :
    (∀ parts, locate name source = .ok parts ↔ IsSource name source parts) ∧
    (∀ fault, locate name source = .error fault ↔ Lacks name source fault) ∧
    ∀ fault other : StructureFault, fault.detail name = other.detail name → fault = other :=
  ⟨fun _ => locate_eq_ok_iff_isSource hname, fun _ => locate_eq_error_iff_lacks hname,
    fun _ _ => detail_injective⟩

/--
Two texts that mention `Foo`. The first one declares a longer name before it, and
its body runs to the last brace of all. In the second one the only closing brace
stands before the declaration.
-/
theorem locate_exact_foo :
    Text.IsWord "Foo".toList ∧
    (∃ parts, locate "Foo".toList
        "/** A. */ @interface FooBar\t@interface\n Foo of \x7b \x7b \x7d \x7d.".toList = .ok parts ∧
      parts.body = "\x7b \x7b \x7d \x7d".toList ∧
      IsSource "Foo".toList
        "/** A. */ @interface FooBar\t@interface\n Foo of \x7b \x7b \x7d \x7d.".toList parts) ∧
    locate "Foo".toList "/** A. */ \x7d @interface Foo \x7b".toList = .error .noBody ∧
    Lacks "Foo".toList "/** A. */ \x7d @interface Foo \x7b".toList .noBody := by
  have hname : Text.IsWord "Foo".toList := ⟨by decide, List.all_eq_true.1 (by decide +kernel)⟩
  have hfirst : locate "Foo".toList
      "/** A. */ @interface FooBar\t@interface\n Foo of \x7b \x7b \x7d \x7d.".toList =
      .ok ⟨"/** A. */ @interface FooBar\t@interface\n Foo".toList,
        "\x7b \x7b \x7d \x7d".toList⟩ := by
    decide +kernel
  have hsecond : locate "Foo".toList "/** A. */ \x7d @interface Foo \x7b".toList =
      .error .noBody := by
    decide +kernel
  exact ⟨hname, ⟨_, hfirst, rfl, ((locate_exact hname _).1 _).1 hfirst⟩, hsecond,
    ((locate_exact hname _).2.1 _).1 hsecond⟩

end Declaration

end TraitDoc
