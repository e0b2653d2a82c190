import DocSchema.Notation.Line

/-!
# What a line spells

A line of the notation has gaps: blanks may stand on either side of its colon,
and a field name may itself hold spaces.  `Line.Spells` says which texts declare
a field, with the gaps left open, and `Line.read?_eq_some_iff` says that reading
finds exactly the declaration that is spelled.  So a text declares at most one
field, although tabs, spaces and other blanks could be divided in several ways:
the tabs at its start all count as depth, and the blanks before the colon are no
part of the name.
-/
namespace DocSchema

/-! ## Blanks at the ends of a text -/

theorem exists_trimEnd_append (s : List Char) :
    ∃ gap, s = trimEnd s ++ gap ∧ ∀ c ∈ gap, isBlank c = true := by
  refine ⟨(s.reverse.takeWhile isBlank).reverse, ?_, ?_⟩
  · rw [trimEnd, ← List.reverse_append, List.takeWhile_append_dropWhile, List.reverse_reverse]
  · intro c hc
    exact List.all_eq_true.mp List.all_takeWhile c (List.mem_reverse.mp hc)

theorem mem_of_mem_trimEnd {s : List Char} {c : Char} (h : c ∈ trimEnd s) : c ∈ s := by
  obtain ⟨gap, hs, -⟩ := exists_trimEnd_append s
  rw [hs]
  exact List.mem_append_left gap h

theorem getLast?_trimEnd_ne {s : List Char} {c : Char} (hc : isBlank c = true) :
    (trimEnd s).getLast? ≠ some c := by
  rw [trimEnd, List.getLast?_reverse]
  intro h
  have hnot := List.head?_dropWhile_not isBlank s.reverse
  rw [h] at hnot
  simp [hc] at hnot

/-- Blanks at the end are all that trimming removes. -/
theorem trimEnd_append {s gap : List Char} (hgap : ∀ c ∈ gap, isBlank c = true)
    (hs : ∀ c, s.getLast? = some c → isBlank c = false) : trimEnd (s ++ gap) = s := by
  have hdrop : s.reverse.dropWhile isBlank = s.reverse := by
    cases hrev : s.reverse with
    | nil => rfl
    | cons c cs =>
      have hlast : s.getLast? = some c := by rw [← List.head?_reverse, hrev]; rfl
      simp [hs c hlast]
  have hgap' : ∀ c ∈ gap.reverse, isBlank c = true := fun c hc => hgap c (List.mem_reverse.mp hc)
  rw [trimEnd, List.reverse_append, List.dropWhile_append_of_pos hgap', hdrop, List.reverse_reverse]

theorem exists_append_trimStart (s : List Char) :
    ∃ gap, s = gap ++ trimStart s ∧ ∀ c ∈ gap, isBlank c = true :=
  ⟨s.takeWhile isBlank, List.takeWhile_append_dropWhile.symm,
    fun c hc => List.all_eq_true.mp List.all_takeWhile c hc⟩

theorem trimStart_append {gap s : List Char} (hgap : ∀ c ∈ gap, isBlank c = true)
    (hs : ∀ c ∈ s, isBlank c = false) : trimStart (gap ++ s) = s := by
  rw [trimStart, List.dropWhile_append_of_pos hgap]
  cases s with
  | nil => rfl
  | cons c cs => simp [hs c List.mem_cons_self]

/-! ## Names and type names -/

/-- A name that a line can give to a field: letters, digits and spaces, the last
character no space. -/
structure IsFieldName (name : String) : Prop where
  chars : ∀ c ∈ name.toList, Line.isNameChar c = true
  last : name.toList.getLast? ≠ some ' '

/-- A text that a line can have as its type: not empty and without blanks. -/
structure IsToken (token : String) : Prop where
  nonempty : token.toList ≠ []
  chars : ∀ c ∈ token.toList, isBlank c = false

instance (token : String) : Decidable (IsToken token) :=
  decidable_of_iff (token.toList.isEmpty = false ∧ token.toList.all (!isBlank ·) = true) <| by
    rw [List.isEmpty_eq_false_iff, List.all_eq_true]
    simp only [Bool.not_eq_true']
    exact ⟨fun ⟨hne, hchars⟩ => ⟨hne, hchars⟩, fun h => ⟨h.nonempty, h.chars⟩⟩

/-- Letters, digits and the space lie in the ASCII range, where no other blank
than the space stands among them. -/
theorem Line.eq_space_of_isNameChar {c : Char} (hname : isNameChar c = true)
    (hblank : isBlank c = true) : c = ' ' := by
  simp only [isNameChar, Bool.or_eq_true, decide_eq_true_eq] at hname
  rcases hname with halnum | hspace
  · have hrange : (65 ≤ c.toNat ∧ c.toNat ≤ 90) ∨ (97 ≤ c.toNat ∧ c.toNat ≤ 122) ∨
        (48 ≤ c.toNat ∧ c.toNat ≤ 57) := by
      rcases Bool.or_eq_true_iff.mp halnum with halpha | hdigit
      · rcases Bool.or_eq_true_iff.mp halpha with hupper | hlower
        · exact .inl (of_decide_eq_true hupper)
        · have hbounds := Bool.and_eq_true_iff.mp hlower
          exact .inr (.inl (hbounds.imp of_decide_eq_true of_decide_eq_true))
      · have hbounds := Bool.and_eq_true_iff.mp hdigit
        exact .inr (.inr (hbounds.imp of_decide_eq_true of_decide_eq_true))
    simp only [isBlank, Bool.or_eq_true, Bool.and_eq_true, decide_eq_true_eq] at hblank
    omega
  · exact hspace

namespace IsFieldName
variable {name : String}

theorem getLast?_not_blank (h : IsFieldName name) {c : Char}
    (hc : name.toList.getLast? = some c) : isBlank c = false := by
  cases hblank : isBlank c with
  | false => rfl
  | true =>
    have hspace := Line.eq_space_of_isNameChar (h.chars c (List.mem_of_getLast? hc)) hblank
    exact absurd (hspace ▸ hc) h.last

theorem ne_of_mem (h : IsFieldName name) {c d : Char} (hc : c ∈ name.toList)
    (hd : Line.isNameChar d = false) : c ≠ d := by
  rintro rfl
  rw [h.chars c hc] at hd
  cases hd

end IsFieldName

theorem IsToken.append {token rest : String} (h : IsToken token)
    (hrest : ∀ c ∈ rest.toList, isBlank c = false) : IsToken (token ++ rest) := by
  constructor
  · rw [String.toList_append]
    exact List.append_ne_nil_of_left_ne_nil h.nonempty _
  · intro c hc
    rw [String.toList_append] at hc
    exact (List.mem_append.mp hc).elim (h.chars c) (hrest c)

/-! ## Spelling and reading -/

namespace Line

/-- **What a text spells.**  Tabs for the depth, the name, blanks, a colon,
blanks, and the type to the end of the text.  Every tab at the start counts for
the depth. -/
def Spells (l : Line) (text : List Char) : Prop :=
  ∃ before after,
    text = List.replicate l.depth '\t' ++
      ((l.name.toList ++ before) ++ ':' :: (after ++ l.token.toList)) ∧
    (∀ c ∈ before, isBlank c = true) ∧ (∀ c ∈ after, isBlank c = true) ∧
    (l.name.toList ++ before).head? ≠ some '\t' ∧ IsFieldName l.name ∧ IsToken l.token

/-- The tabs of a text and the rest, when the rest starts with another character. -/
theorem split_tabs {n : Nat} {rest : List Char} (h : rest.head? ≠ some '\t') :
    (List.replicate n '\t' ++ rest).takeWhile (· = '\t') = List.replicate n '\t' ∧
      (List.replicate n '\t' ++ rest).dropWhile (· = '\t') = rest := by
  have htabs : ∀ c ∈ List.replicate n '\t', decide (c = '\t') = true := by
    intro c hc
    simpa using List.eq_of_mem_replicate hc
  rw [List.takeWhile_append_of_pos htabs, List.dropWhile_append_of_pos htabs]
  cases rest with
  | nil => simp
  | cons c cs =>
    have hc : c ≠ '\t' := by simpa using h
    simp [hc]

/-- The text before its first colon and the rest. -/
theorem split_colon {name : List Char} (rest : List Char) (h : ∀ c ∈ name, c ≠ ':') :
    (name ++ ':' :: rest).takeWhile (· ≠ ':') = name ∧
      (name ++ ':' :: rest).dropWhile (· ≠ ':') = ':' :: rest := by
  have hname : ∀ c ∈ name, decide (c ≠ ':') = true := fun c hc => by simpa using h c hc
  rw [List.takeWhile_append_of_pos hname, List.dropWhile_append_of_pos hname]
  simp

theorem read?_of_spells {l : Line} {text : List Char} (h : l.Spells text) :
    read? text = some l := by
  obtain ⟨before, after, rfl, hbefore, hafter, hhead, hname, htoken⟩ := h
  have hcolon : ∀ c ∈ l.name.toList ++ before, c ≠ ':' := by
    intro c hc
    rcases List.mem_append.mp hc with hc | hc
    · exact hname.ne_of_mem hc (by decide)
    · rintro rfl
      exact absurd (hbefore _ hc) (by decide)
  have hrest : ((l.name.toList ++ before) ++ ':' :: (after ++ l.token.toList)).head? ≠
      some '\t' := by
    cases hcs : l.name.toList ++ before with
    | nil => simp
    | cons c cs => simpa [hcs] using hhead
  obtain ⟨htabs, hdeclaration⟩ := split_tabs (n := l.depth) hrest
  obtain ⟨hbeforeColon, hfromColon⟩ := split_colon (after ++ l.token.toList) hcolon
  have htrim := trimEnd_append hbefore fun c hc => hname.getLast?_not_blank hc
  have htoken' := trimStart_append hafter htoken.chars
  have hnames : l.name.toList.all isNameChar = true := List.all_eq_true.mpr hname.chars
  have htokens : l.token.toList.all (!isBlank ·) = true :=
    List.all_eq_true.mpr fun c hc => by rw [htoken.chars c hc]; rfl
  simp only [read?, htabs, hdeclaration, hbeforeColon, hfromColon, htrim, htoken', hnames, htokens,
    htoken.nonempty, ne_eq, not_false_eq_true, and_self, if_true, List.length_replicate,
    String.ofList_toList]

theorem spells_of_read? {l : Line} {text : List Char} (h : read? text = some l) :
    l.Spells text := by
  have htabs : text.takeWhile (· = '\t') =
      List.replicate (text.takeWhile (· = '\t')).length '\t' :=
    List.eq_replicate_iff.mpr ⟨rfl, fun c hc => by
      simpa using List.all_eq_true.mp List.all_takeWhile c hc⟩
  have htext := (List.takeWhile_append_dropWhile (p := (· = '\t')) (l := text)).symm
  simp only [read?] at h
  generalize hdecl : text.dropWhile (· = '\t') = declaration at h htext
  have hsplit := (List.takeWhile_append_dropWhile (p := (· ≠ ':')) (l := declaration)).symm
  split at h
  · cases h
  · rename_i d rest hrest
    split at h
    · rename_i hok
      obtain ⟨hname, htoken, htokens⟩ := hok
      obtain rfl := Option.some.inj h
      -- What ends the name is a colon, since everything else belongs to it.
      obtain rfl : d = ':' := by
        have hnot := List.head?_dropWhile_not (· ≠ ':') declaration
        rw [hrest] at hnot
        simpa using hnot
      obtain ⟨before, hbefore, hblank⟩ := exists_trimEnd_append (declaration.takeWhile (· ≠ ':'))
      obtain ⟨after, hafter, hblank'⟩ := exists_append_trimStart rest
      refine ⟨before, after, ?_, hblank, hblank', ?_, ⟨?_, ?_⟩, ⟨?_, ?_⟩⟩
      · simp only [String.toList_ofList]
        rw [← hbefore, ← hafter, ← hrest, ← hsplit, ← htabs]
        exact htext
      · -- A tab in front of the name would count for the depth.
        simp only [String.toList_ofList]
        rw [← hbefore]
        have hnot := List.head?_dropWhile_not (· = '\t') text
        rw [hdecl] at hnot
        intro htab
        cases declaration with
        | nil => cases htab
        | cons c cs =>
          by_cases hc : c = ':'
          · simp [hc] at htab
          · have : c = '\t' := by simpa [hc] using htab
            simp [this] at hnot
      · simpa [List.all_eq_true] using hname
      · simpa only [String.toList_ofList] using getLast?_trimEnd_ne (by decide)
      · simpa only [String.toList_ofList] using htoken
      · simpa [List.all_eq_true] using htokens
    · cases h

/-- **Reading finds what is spelled.** -/
theorem read?_eq_some_iff {l : Line} {text : List Char} : read? text = some l ↔ l.Spells text :=
  ⟨spells_of_read?, read?_of_spells⟩

/-- A text spells one declaration at most. -/
theorem Spells.unique {l l' : Line} {text : List Char} (h : l.Spells text) (h' : l'.Spells text) :
    l = l' := by
  have heq := (read?_eq_some_iff.mpr h).symm.trans (read?_eq_some_iff.mpr h')
  exact Option.some.inj heq

/-! ## Texts that declare a field -/

/-- A text has the form of a declaration, however its tabs, spaces and other
blanks are divided: tabs, name characters, blanks, a colon, blanks, and a type
to the end. -/
def Declares (text : List Char) : Prop :=
  ∃ tabs name before after token,
    text = tabs ++ (name ++ before) ++ ':' :: (after ++ token) ∧
    (∀ c ∈ tabs, c = '\t') ∧ (∀ c ∈ name, isNameChar c = true) ∧
    (∀ c ∈ before, isBlank c = true) ∧ (∀ c ∈ after, isBlank c = true) ∧
    token ≠ [] ∧ ∀ c ∈ token, isBlank c = false

/-- Tabs before the colon can be moved to the start: if they are not there
already, the name is empty. -/
theorem exists_tabs_in_front {tabs name before : List Char} (htabs : ∀ c ∈ tabs, c = '\t')
    (hname : ∀ c ∈ name, isNameChar c = true) (hbefore : ∀ c ∈ before, isBlank c = true) :
    ∃ n before', tabs ++ (name ++ before) = List.replicate n '\t' ++ (name ++ before') ∧
      (∀ c ∈ before', isBlank c = true) ∧ (name ++ before').head? ≠ some '\t' := by
  cases name with
  | nil =>
    have hmoved : ∀ c ∈ tabs ++ before.takeWhile (· = '\t'), c = '\t' := by
      intro c hc
      rcases List.mem_append.mp hc with hc | hc
      · exact htabs c hc
      · simpa using List.all_eq_true.mp List.all_takeWhile c hc
    refine ⟨(tabs ++ before.takeWhile (· = '\t')).length, before.dropWhile (· = '\t'), ?_, ?_, ?_⟩
    · rw [← List.eq_replicate_iff.mpr ⟨rfl, hmoved⟩, List.append_assoc, List.nil_append,
        List.nil_append, List.takeWhile_append_dropWhile]
    · exact fun c hc => hbefore c ((List.dropWhile_sublist _).subset hc)
    · intro htab
      have hnot := List.head?_dropWhile_not (· = '\t') before
      rw [show (before.dropWhile (· = '\t')).head? = some '\t' from htab] at hnot
      simp at hnot
  | cons c cs =>
    refine ⟨tabs.length, before, ?_, hbefore, ?_⟩
    · rw [← List.eq_replicate_iff.mpr ⟨rfl, htabs⟩]
    · rintro ⟨⟩
      exact absurd (hname '\t' List.mem_cons_self) (by decide)

/-- A text spells a declaration as soon as it can be divided into one somehow. -/
theorem exists_spells_iff {text : List Char} : (∃ l : Line, l.Spells text) ↔ Declares text := by
  constructor
  · rintro ⟨l, before, after, rfl, hbefore, hafter, -, hname, htoken⟩
    exact ⟨_, _, before, after, _, (List.append_assoc ..).symm,
      fun c hc => List.eq_of_mem_replicate hc, hname.chars, hbefore, hafter, htoken.nonempty,
      htoken.chars⟩
  · rintro ⟨tabs, name, before, after, token, rfl, htabs, hname, hbefore, hafter, hne, htoken⟩
    obtain ⟨n, before', hmoved, hbefore', hhead⟩ := exists_tabs_in_front htabs hname hbefore
    obtain ⟨gap, hgap, hblank⟩ := exists_trimEnd_append name
    refine ⟨⟨n, String.ofList (trimEnd name), String.ofList token⟩, gap ++ before', after, ?_, ?_,
      hafter, ?_, ⟨?_, ?_⟩, ⟨?_, ?_⟩⟩
    · rw [String.toList_ofList, String.toList_ofList, ← List.append_assoc (trimEnd name), ← hgap,
        hmoved, List.append_assoc]
    · intro c hc
      exact (List.mem_append.mp hc).elim (hblank c) (hbefore' c)
    · rwa [String.toList_ofList, ← List.append_assoc, ← hgap]
    · rw [String.toList_ofList]
      exact fun c hc => hname c (mem_of_mem_trimEnd hc)
    · rw [String.toList_ofList]
      exact getLast?_trimEnd_ne (by decide)
    · rwa [String.toList_ofList]
    · rwa [String.toList_ofList]

/-- A spelling ends with its type, so in no blank. -/
theorem Spells.exists_getLast? {l : Line} {text : List Char} (h : l.Spells text) :
    ∃ c, text.getLast? = some c ∧ isBlank c = false := by
  obtain ⟨before, after, rfl, -, -, -, -, htoken⟩ := h
  obtain ⟨c, hc⟩ := Option.isSome_iff_exists.mp (List.getLast?_isSome.mpr htoken.nonempty)
  refine ⟨c, ?_, htoken.chars c (List.mem_of_getLast? hc)⟩
  simp only [List.getLast?_append, List.getLast?_cons, hc, Option.getD_some, Option.some_or]

/-! ## Written lines -/

/-- A written line is a spelling without gaps. -/
theorem spells_write {l : Line} (hname : IsFieldName l.name) (htoken : IsToken l.token) :
    l.Spells l.write := by
  refine ⟨[], [], by simp [write], by simp, by simp, ?_, hname, htoken⟩
  rw [List.append_nil]
  intro htab
  exact hname.ne_of_mem (List.mem_of_head? htab) (by decide) rfl

/-- Nothing in a written line could end it: no line feed, and no carriage return. -/
theorem not_mem_write {l : Line} (hname : IsFieldName l.name) (htoken : IsToken l.token) {c : Char}
    (hc : isBlank c = true) (hne : c ≠ '\t' ∧ c ≠ ' ') : c ∉ l.write := by
  intro hmem
  simp only [write, List.mem_append, List.mem_cons] at hmem
  rcases hmem with (htab | hname') | hcolon | htoken'
  · exact hne.1 (List.eq_of_mem_replicate htab)
  · exact hne.2 (eq_space_of_isNameChar (hname.chars c hname') hc)
  · exact absurd (hcolon ▸ hc) (by decide)
  · simp [htoken.chars c htoken'] at hc

end Line
end DocSchema
