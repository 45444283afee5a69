import MailConnection.Proofs.Host.Literal

/-!
# The grammar of hosts

A host is nothing at all, an IPv6 address, a dotted quad or a host name.  `Admitted` says so
for any notion of a label, of which a host name is made (`Name`).

Labels are letters, digits and inner hyphens (`Label`).  The check overlooks a line feed at
the end of a label, also of one in the middle of a name, and so it accepts the hosts that
are made of labels *up to a line feed* (`classify_ok_iff`).  `admitted_upToFeed_iff` and
`not_admitted_of_hasFeed` say that this is all that it overlooks: what it accepts is a host
or a name that holds a line feed, and never both.
-/

namespace MailConnection.Host

open Text (segments)

/-! ## Host names -/

/-- Letters, digits and hyphens, with no hyphen at either end. -/
def Label (cs : List Char) : Prop :=
  cs ≠ [] ∧ (∀ c ∈ cs, c.isAlphanum = true ∨ c = '-') ∧ cs.head? ≠ some '-' ∧
    cs.getLast? ≠ some '-'

/-- Labels with points between them, and possibly one behind the last.  If there are several,
the last one starts with a letter. -/
def Name (label : List Char → Prop) (cs : List Char) : Prop :=
  ∃ labels : List (List Char), labels ≠ [] ∧ (∀ l ∈ labels, label l) ∧
    (1 < labels.length → ∃ c, (labels.getLastD []).head? = some c ∧ c.isAlpha = true) ∧
    (cs = ['.'].intercalate labels ∨ cs = ['.'].intercalate labels ++ ['.'])

theorem isPlainLabel_iff {cs : List Char} : isPlainLabel cs = true ↔ Label cs := by
  simp only [isPlainLabel, Label, Bool.and_eq_true, List.all_eq_true, Bool.or_eq_true, beq_iff_eq]
  constructor
  · rintro ⟨⟨hall, hhead⟩, hlast⟩
    refine ⟨?_, hall, ?_, ?_⟩
    · rintro rfl
      simp at hhead
    · intro h
      rw [h] at hhead
      exact absurd hhead (by decide)
    · intro h
      rw [h] at hlast
      exact absurd hlast (by decide)
  · rintro ⟨hne, hall, hhead, hlast⟩
    have hend {end? : Option Char} (hsome : end? ≠ none) (hmem : ∀ c, end? = some c → c ∈ cs)
        (hhyphen : end? ≠ some '-') : end?.any Char.isAlphanum = true := by
      obtain ⟨c, rfl⟩ := Option.ne_none_iff_exists'.mp hsome
      rcases hall c (hmem c rfl) with halnum | rfl
      · exact halnum
      · exact absurd rfl hhyphen
    refine ⟨⟨hall, hend ?_ (fun c hc => List.mem_of_mem_head? hc) hhead⟩,
      hend ?_ (fun c hc => List.mem_of_mem_getLast? hc) hlast⟩
    · simpa using hne
    · simpa using hne

theorem isLabel_iff {cs : List Char} : isLabel cs = true ↔ Text.UpToFeed Label cs :=
  Text.upToFeed_iff isPlainLabel Label isPlainLabel_iff

theorem hasLetterOnTop_iff {labels : List (List Char)} :
    hasLetterOnTop labels = true ↔
      (1 < labels.length → ∃ c, (labels.getLastD []).head? = some c ∧ c.isAlpha = true) := by
  rw [hasLetterOnTop, Bool.or_eq_true, decide_eq_true_eq, Option.any_eq_true]
  constructor
  · rintro (hone | htop) hseveral
    · omega
    · exact htop
  · intro h
    by_cases hone : labels.length ≤ 1
    · exact .inl hone
    · exact .inr (h (by omega))

theorem ne_nil_of_upToFeed {cs : List Char} (h : Text.UpToFeed Label cs) : cs ≠ [] := by
  rcases h with hlabel | ⟨init, rfl, _⟩
  · exact hlabel.1
  · simp

theorem isNameChar_of_upToFeed {cs : List Char} (h : Text.UpToFeed Label cs) {c : Char}
    (hc : c ∈ cs) : c.isAlphanum = true ∨ c = '-' ∨ c = '\n' := by
  have hlabel {l : List Char} (hl : Label l) (hcl : c ∈ l) :
      c.isAlphanum = true ∨ c = '-' ∨ c = '\n' := by
    rcases hl.2.1 c hcl with halnum | hhyphen
    · exact .inl halnum
    · exact .inr (.inl hhyphen)
  rcases h with hl | ⟨init, rfl, hl⟩
  · exact hlabel hl hc
  · rcases List.mem_append.mp hc with hc | hc
    · exact hlabel hl hc
    · exact .inr (.inr (List.mem_singleton.mp hc))

theorem point_not_mem_label {cs : List Char} (h : Text.UpToFeed Label cs) : '.' ∉ cs := by
  intro hmem
  rcases isNameChar_of_upToFeed h hmem with hc | hc | hc <;> exact absurd hc (by decide)

/-- **A host name** is cut into its labels. -/
theorem name_iff {cs : List Char} :
    Name (Text.UpToFeed Label) cs ↔
      (labels cs).all isLabel = true ∧ hasLetterOnTop (labels cs) = true := by
  simp only [List.all_eq_true, isLabel_iff, hasLetterOnTop_iff]
  constructor
  · rintro ⟨parts, hne, hparts, htop, hcs⟩
    have hsegments : segments '.' (['.'].intercalate parts) = parts :=
      Text.segments_intercalate hne fun part hpart => point_not_mem_label (hparts part hpart)
    -- no label ends in a point, so that one at the end stands behind all of them
    have hlast : (['.'].intercalate parts).getLast? ≠ some '.' := by
      rcases List.eq_nil_or_concat parts with rfl | ⟨init, top, rfl⟩
      · exact absurd rfl hne
      · have htop := hparts top (by simp)
        obtain ⟨front, hfront⟩ := Text.exists_intercalate_concat ['.'] init top
        have hend : (front ++ top).getLast? = top.getLast? := by
          rw [List.getLast?_append, Option.or_of_isSome]
          exact List.getLast?_isSome.mpr (ne_nil_of_upToFeed htop)
        rw [List.concat_eq_append, hfront, hend]
        exact fun h => point_not_mem_label htop (List.mem_of_getLast? h)
    have hlabels : labels cs = parts := by
      rcases hcs with rfl | rfl
      · rw [labels, if_neg hlast, hsegments]
      · rw [labels, if_pos List.getLast?_concat, List.dropLast_concat, hsegments]
    rw [hlabels]
    exact ⟨hparts, htop⟩
  · rintro ⟨hparts, htop⟩
    refine ⟨labels cs, Text.segments_ne_nil '.' _, hparts, htop, ?_⟩
    unfold labels
    split
    · rename_i hlast
      obtain ⟨init, rfl⟩ := List.getLast?_eq_some_iff.mp hlast
      rw [List.dropLast_concat, Text.intercalate_segments]
      exact .inr rfl
    · exact .inl (Text.intercalate_segments '.' cs).symm

/-! ## All hosts -/

/-- The texts that are hosts, given what may be a label of a host name: nothing at all, an IPv6
address, which may stand in brackets, a dotted quad, or a host name. -/
inductive Admitted (label : List Char → Prop) : List Char → Prop
  | empty : Admitted label []
  | literal {cs : List Char} (hcolon : ':' ∈ cs) (h : Ipv6.Literal (unbracket cs)) :
      Admitted label cs
  | quad {cs : List Char} (h : Quad cs) : Admitted label cs
  | name {cs : List Char} (h : Name label cs) : Admitted label cs

theorem isNameChar_of_name {cs : List Char} (h : Name (Text.UpToFeed Label) cs) :
    ∀ c ∈ cs, isNameChar c = true := isNameChar_of_labels (name_iff.mp h).1

/-- **What is accepted as a host.**  A line feed at the end of a label is overlooked. -/
theorem classify_ok_iff {cs : List Char} :
    (∃ form, classify cs = .ok form) ↔ Admitted (Text.UpToFeed Label) cs := by
  constructor
  · rintro ⟨form, h⟩
    rcases classify_cases h with ⟨rfl, _⟩ | ⟨hcolon, haddress, _⟩ | ⟨hquad, _⟩ |
      ⟨hlabels, htop, _⟩
    · exact .empty
    · exact .literal hcolon (Ipv6.isAddress_iff_literal.mp haddress)
    · exact .quad (isAddress_iff_quad.mp hquad)
    · exact .name (name_iff.mpr ⟨hlabels, htop⟩)
  · intro h
    unfold classify
    by_cases hempty : cs = []
    · exact ⟨_, if_pos hempty⟩
    rw [if_neg hempty]
    cases h with
    | empty => exact absurd rfl hempty
    | literal hcolon hliteral =>
      rw [if_pos hcolon, if_pos (Ipv6.isAddress_iff_literal.mpr hliteral)]
      exact ⟨_, rfl⟩
    | quad hquad =>
      have haddress := isAddress_iff_quad.mpr hquad
      have hcolon : ':' ∉ cs := Text.not_mem_of_class (isNameChar_of_isAddress haddress) rfl
      rw [if_neg hcolon, if_pos haddress]
      exact ⟨_, rfl⟩
    | name hname =>
      obtain ⟨hlabels, htop⟩ := name_iff.mp hname
      have hcolon : ':' ∉ cs := Text.not_mem_of_class (isNameChar_of_name hname) rfl
      rw [if_neg hcolon, hlabels, htop]
      split
      · exact ⟨_, rfl⟩
      · exact ⟨_, rfl⟩

/-! ## Line feeds in host names -/

/-- A host name that is legal but for line feeds at the end of some of its labels. -/
def HasFeed (cs : List Char) : Prop := '\n' ∈ cs ∧ Name (Text.UpToFeed Label) cs

theorem Name.mono {label other : List Char → Prop} {cs : List Char} (h : Name label cs)
    (himp : ∀ l, (∀ c ∈ l, c ∈ cs) → label l → other l) : Name other cs := by
  obtain ⟨labels, hne, hlabels, htop, hcs⟩ := h
  refine ⟨labels, hne, fun l hl => himp l (fun c hc => ?_) (hlabels l hl), htop, hcs⟩
  have hmem := Text.mem_intercalate_of_mem ['.'] hl hc
  rcases hcs with rfl | rfl
  · exact hmem
  · exact List.mem_append_left _ hmem

theorem feed_not_mem_of_name {cs : List Char} (h : Name Label cs) : '\n' ∉ cs := by
  obtain ⟨labels, _, hlabels, _, hcs⟩ := h
  intro hmem
  have hjoined : '\n' ∈ ['.'].intercalate labels := by
    rcases hcs with rfl | rfl
    · exact hmem
    · simpa using hmem
  rcases Text.mem_intercalate hjoined with heq | ⟨l, hl, hc⟩
  · exact absurd heq (by decide)
  · rcases (hlabels l hl).2.1 '\n' hc with halnum | hhyphen
    · exact absurd halnum (by decide)
    · exact absurd hhyphen (by decide)

/-- **Line feeds are all that is overlooked.** -/
theorem admitted_upToFeed_iff {cs : List Char} :
    Admitted (Text.UpToFeed Label) cs ↔ Admitted Label cs ∨ HasFeed cs := by
  constructor
  · intro h
    cases h with
    | empty => exact .inl .empty
    | literal hcolon hliteral => exact .inl (.literal hcolon hliteral)
    | quad hquad => exact .inl (.quad hquad)
    | name hname =>
      by_cases hfeed : '\n' ∈ cs
      · exact .inr ⟨hfeed, hname⟩
      · refine .inl (.name (hname.mono fun l hl hlabel => ?_))
        exact Text.legal_of_upToFeed hlabel fun hmem => hfeed (hl _ hmem)
  · rintro (h | ⟨_, hname⟩)
    · cases h with
      | empty => exact .empty
      | literal hcolon hliteral => exact .literal hcolon hliteral
      | quad hquad => exact .quad hquad
      | name hname => exact .name (hname.mono fun l _ hlabel => .inl hlabel)
    · exact .name hname

theorem not_admitted_of_hasFeed {cs : List Char} (h : HasFeed cs) : ¬ Admitted Label cs := by
  obtain ⟨hfeed, hname⟩ := h
  intro hadmitted
  cases hadmitted with
  | empty => simp at hfeed
  | literal hcolon _ => exact Text.not_mem_of_class (isNameChar_of_name hname) rfl hcolon
  | quad hquad =>
    rcases isDigit_or_eq_point_of_isAddress (isAddress_iff_quad.mpr hquad) '\n' hfeed with h | h
    · exact absurd h (by decide)
    · exact absurd h (by decide)
  | name hlegal => exact feed_not_mem_of_name hlegal hfeed

end MailConnection.Host
