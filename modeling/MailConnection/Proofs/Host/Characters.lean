import MailConnection.Host
import MailConnection.Text.Blank
import MailConnection.Text.Percent

/-!
# The characters of a host

A host is written into a connection string without escapes, apart from the `%` of an
IPv6 zone.  What keeps it from running into its neighbours is the check that it is a
host at all.  This file says what that check lets through:

* `classify_eq_ok`: a host name or an IPv4 address is letters, digits, hyphens and
  points, and the line feeds that may end a label;
* `Ipv6.isLiteralChar_or_mem_zone`: an IPv6 address is hexadecimal digits, colons and
  points up to its zone, which is any text without `%` and `/`.

So the zone is the one part of a host that may hold a separator, and `ConfinedZone`
says that it holds none.
-/

namespace MailConnection

theorem Text.not_mem_of_class {p : Char → Bool} {cs : List Char} (h : ∀ c ∈ cs, p c = true)
    {d : Char} (hd : p d = false) : d ∉ cs := by
  intro hmem
  exact Bool.false_ne_true (hd.symm.trans (h d hmem))

theorem Text.mem_dropLast_or_eq {cs : List Char} {c d : Char} (hlast : cs.getLast? = some d)
    (hc : c ∈ cs) : c ∈ cs.dropLast ∨ c = d := by
  obtain ⟨init, rfl⟩ := List.getLast?_eq_some_iff.mp hlast
  rw [List.dropLast_concat]
  rcases List.mem_append.mp hc with hinit | hd
  · exact .inl hinit
  · exact .inr (List.mem_singleton.mp hd)

/-- What holds of the characters of a plain text, and of a line feed, holds of a text that a
line feed may end. -/
theorem Text.class_of_line_feed {plain : List Char → Bool} {p : Char → Bool}
    (hplain : ∀ {cs : List Char}, plain cs = true → ∀ c ∈ cs, p c = true) (hfeed : p '\n' = true)
    {cs : List Char} (h : (plain cs || (cs.getLast? == some '\n' && plain cs.dropLast)) = true) :
    ∀ c ∈ cs, p c = true := by
  simp only [Bool.or_eq_true, Bool.and_eq_true, beq_iff_eq] at h
  rcases h with hcs | ⟨hlast, hinit⟩
  · exact hplain hcs
  · intro c hc
    rcases Text.mem_dropLast_or_eq hlast hc with hc | rfl
    · exact hplain hinit c hc
    · exact hfeed

namespace Host

/-! ## Names and IPv4 addresses -/

/-- A character that a host name or an IPv4 address may hold. -/
def isNameChar (c : Char) : Bool := c.isAlphanum || c == '-' || c == '.' || c == '\n'

theorem isDigit_of_isOctet {cs : List Char} (h : Ipv4.isOctet cs = true) :
    ∀ c ∈ cs, c.isDigit = true := by
  simp only [Ipv4.isOctet, Bool.and_eq_true] at h
  exact List.all_eq_true.mp h.1.1.1.2

theorem isDigit_or_eq_point_of_isAddress {cs : List Char} (h : Ipv4.isAddress cs = true) :
    ∀ c ∈ cs, c.isDigit = true ∨ c = '.' := by
  simp only [Ipv4.isAddress, Bool.and_eq_true] at h
  intro c hc
  rcases Text.mem_segment_of_mem '.' hc with rfl | ⟨octet, hoctet, hmem⟩
  · exact .inr rfl
  · exact .inl (isDigit_of_isOctet (List.all_eq_true.mp h.2 octet hoctet) c hmem)

theorem isNameChar_of_isAddress {cs : List Char} (h : Ipv4.isAddress cs = true) :
    ∀ c ∈ cs, isNameChar c = true := by
  intro c hc
  rcases isDigit_or_eq_point_of_isAddress h c hc with hdigit | rfl
  · simp [isNameChar, Char.isAlphanum, hdigit]
  · rfl

theorem isNameChar_of_isPlainLabel {cs : List Char} (h : isPlainLabel cs = true) :
    ∀ c ∈ cs, isNameChar c = true := by
  simp only [isPlainLabel, Bool.and_eq_true] at h
  intro c hc
  have hlabel := List.all_eq_true.mp h.1.1 c hc
  simp only [isNameChar, hlabel, Bool.true_or]

theorem isNameChar_of_isLabel {cs : List Char} (h : isLabel cs = true) :
    ∀ c ∈ cs, isNameChar c = true :=
  Text.class_of_line_feed isNameChar_of_isPlainLabel rfl h

theorem isNameChar_of_labels {cs : List Char} (h : (labels cs).all isLabel = true) :
    ∀ c ∈ cs, isNameChar c = true := by
  have hsegments : ∀ body : List Char, (Text.segments '.' body).all isLabel = true →
      ∀ c ∈ body, isNameChar c = true := by
    intro body hall c hc
    rcases Text.mem_segment_of_mem '.' hc with rfl | ⟨label, hlabel, hmem⟩
    · rfl
    · exact isNameChar_of_isLabel (List.all_eq_true.mp hall label hlabel) c hmem
  unfold labels at h
  split at h
  · rename_i hlast
    intro c hc
    rcases Text.mem_dropLast_or_eq hlast hc with hc | rfl
    · exact hsegments _ h c hc
    · rfl
  · exact hsegments cs h

/-! ## IPv6 addresses -/

/-- A character that an IPv6 address may hold before its zone. -/
def isLiteralChar (c : Char) : Bool := (Text.hexValue? c).isSome || c == ':' || c == '.'

/-- An IPv6 address without a zone has nothing to trim. -/
theorem isBlank_of_isLiteralChar {c : Char} (h : isLiteralChar c = true) :
    Text.isBlank c = false := by
  have hrange : 46 ≤ c.toNat ∧ c.toNat ≤ 102 := by
    simp only [isLiteralChar, Bool.or_eq_true, beq_iff_eq] at h
    rcases h with (hhex | rfl) | rfl
    · have := Text.toNat_of_isSome_hexValue? hhex
      omega
    · decide
    · decide
  simp only [Text.isBlank, Text.isSpace, Bool.or_eq_false_iff, Bool.and_eq_false_iff,
    decide_eq_false_iff_not, beq_eq_false_iff_ne]
  omega

theorem isLiteralChar_of_isQuad {cs : List Char} (h : Ipv4.isAddress cs = true) :
    ∀ c ∈ cs, isLiteralChar c = true := by
  intro c hc
  rcases isDigit_or_eq_point_of_isAddress h c hc with hdigit | rfl
  · have hrange : '0' ≤ c ∧ c ≤ '9' := by simpa [Char.isDigit, Char.le_def] using hdigit
    simp [isLiteralChar, Text.hexValue?, hrange]
  · rfl

namespace Ipv6

theorem isLiteralChar_of_isGroup {cs : List Char} (h : isGroup cs = true) :
    ∀ c ∈ cs, isLiteralChar c = true := by
  simp only [isGroup, Bool.and_eq_true] at h
  intro c hc
  have hhex := List.all_eq_true.mp h.2 c hc
  simp only [isLiteralChar, hhex, Bool.true_or]

theorem eq_nil_or_isGroup_of_sideCount? {groups : List (List Char)} {n : Nat}
    (h : sideCount? groups = some n) : ∀ g ∈ groups, g = [] ∨ isGroup g = true := by
  unfold sideCount? at h
  split at h
  · rename_i hempty
    intro g hg
    rw [hempty] at hg
    exact .inl (List.mem_singleton.mp hg)
  · split at h
    · rename_i hall
      exact fun g hg => .inr (List.all_eq_true.mp hall g hg)
    · simp at h

theorem getElem?_of_mem_innerGaps {groups : List (List Char)} {gap : Nat}
    (h : gap ∈ innerGaps groups) : groups[gap]? = some [] := by
  simp only [innerGaps, List.mem_filter, Bool.and_eq_true, beq_iff_eq] at h
  exact h.2.2

/-- In an address only the gap is empty. -/
theorem eq_nil_or_isGroup_of_areGroups {groups : List (List Char)}
    (h : areGroups groups = true) : ∀ g ∈ groups, g = [] ∨ isGroup g = true := by
  unfold areGroups at h
  split at h
  · simp only [Bool.and_eq_true] at h
    exact fun g hg => .inr (List.all_eq_true.mp h.2 g hg)
  · rename_i gap hgaps
    have hgap : groups[gap]? = some [] := getElem?_of_mem_innerGaps (by simp [hgaps])
    simp only [Bool.and_eq_true] at h
    obtain ⟨_, hsides⟩ := h
    split at hsides
    · rename_i high low hhigh hlow
      intro g hg
      -- before the gap, the gap, and after it
      rw [← List.take_append_drop gap groups, List.drop_eq_getElem?_toList_append, hgap] at hg
      simp only [Option.toList_some, List.mem_append, List.mem_singleton] at hg
      rcases hg with hg | rfl | hg
      · exact eq_nil_or_isGroup_of_sideCount? hhigh g hg
      · exact .inl rfl
      · exact eq_nil_or_isGroup_of_sideCount? hlow g hg
    · simp at hsides
  · simp at h

/-- Every segment of the text is one of the groups, apart from a dotted quad at the end. -/
theorem mem_or_isAddress_of_groups? {cs : List Char} {groups : List (List Char)}
    (h : groups? cs = some groups) :
    ∀ g ∈ Text.segments ':' cs, g ∈ groups ∨ Ipv4.isAddress g = true := by
  unfold groups? at h
  simp only at h
  split at h
  · simp at h
  · split at h
    · split at h
      · rename_i hquad
        obtain rfl := Option.some.inj h
        intro g hg
        -- the quad is the last segment, and two groups of zero stand for it
        rcases List.eq_nil_or_concat (Text.segments ':' cs) with hnil | ⟨init, last, hcut⟩
        · exact absurd hnil (Text.segments_ne_nil ':' cs)
        · rw [hcut] at hg hquad ⊢
          simp only [List.concat_eq_append, List.mem_append, List.mem_singleton,
            List.getLastD_concat, List.dropLast_concat] at hg hquad ⊢
          rcases hg with hg | rfl
          · exact .inl (.inl hg)
          · exact .inr hquad
      · simp at h
    · obtain rfl := Option.some.inj h
      exact fun g hg => .inl hg

theorem isLiteralChar_of_isPlainAddress {cs : List Char} (h : isPlainAddress cs = true) :
    ∀ c ∈ cs, isLiteralChar c = true := by
  unfold isPlainAddress at h
  split at h
  · rename_i groups hgroups
    intro c hc
    rcases Text.mem_segment_of_mem ':' hc with rfl | ⟨g, hg, hmem⟩
    · rfl
    · rcases mem_or_isAddress_of_groups? hgroups g hg with hg | hquad
      · rcases eq_nil_or_isGroup_of_areGroups h g hg with rfl | hgroup
        · simp at hmem
        · exact isLiteralChar_of_isGroup hgroup c hmem
      · exact isLiteralChar_of_isQuad hquad c hmem
  · simp at h

end Ipv6

/-! ## Zones -/

/-- The zone of an IPv6 address, if it has one. -/
def zone? (literal : List Char) : Option (List Char) := Text.after? '%' literal

/-- No character of the zone ends an authority or a part of it. -/
def ConfinedZone (zone : List Char) : Prop := ∀ c ∈ ['@', ']', '?', '#'], c ∉ zone

instance (zone : List Char) : Decidable (ConfinedZone zone) := List.decidableBAll _ _

namespace Ipv6

variable {literal : List Char}

theorem slash_not_mem_of_isAddress (h : isAddress literal = true) : '/' ∉ literal := by
  simp only [isAddress, Bool.and_eq_true] at h
  simpa using h.1.1

theorem isPlainAddress_of_isAddress (h : isAddress literal = true) :
    isPlainAddress (Text.before '%' literal) = true := by
  simp only [isAddress, Bool.and_eq_true] at h
  exact h.1.2

theorem percent_not_mem_zone {zone : List Char} (h : isAddress literal = true)
    (hzone : zone? literal = some zone) : '%' ∉ zone := by
  unfold zone? at hzone
  simp only [isAddress, Bool.and_eq_true, hzone, isZone] at h
  simpa using h.2.2

/-- Outside its zone an address holds nothing that ends a part. -/
theorem isLiteralChar_or_mem_zone (h : isAddress literal = true) {c : Char} (hc : c ∈ literal) :
    isLiteralChar c = true ∨ c = '%' ∨ ∃ zone, zone? literal = some zone ∧ c ∈ zone := by
  have hplain := isLiteralChar_of_isPlainAddress (isPlainAddress_of_isAddress h)
  cases hzone : zone? literal with
  | none =>
    rw [Text.before_of_not_mem (Text.after?_eq_none_iff.mp hzone)] at hplain
    exact .inl (hplain c hc)
  | some zone =>
    rw [← Text.before_append_after hzone] at hc
    rcases List.mem_append.mp hc with hc | hc
    · exact .inl (hplain c hc)
    · rcases List.mem_cons.mp hc with rfl | hc
      · exact .inr (.inl rfl)
      · exact .inr (.inr ⟨zone, rfl, hc⟩)

/-- An address without a zone is nothing but its plain characters. -/
theorem isLiteralChar_of_isAddress (h : isAddress literal = true) (hpercent : '%' ∉ literal) :
    ∀ c ∈ literal, isLiteralChar c = true := by
  have hplain := isPlainAddress_of_isAddress h
  rw [Text.before_of_not_mem hpercent] at hplain
  exact isLiteralChar_of_isPlainAddress hplain

/-- An address with a confined zone holds none of the marks that end an authority or a
part of it. -/
theorem not_mem_of_confinedZone (h : isAddress literal = true)
    (hzone : ∀ zone, zone? literal = some zone → ConfinedZone zone) {d : Char}
    (hd : d ∈ ['@', ']', '/', '?', '#']) : d ∉ literal := by
  intro hmem
  rcases isLiteralChar_or_mem_zone h hmem with hplain | rfl | ⟨zone, hsome, hin⟩
  · have hnot : isLiteralChar d = false := by
      simp only [List.mem_cons, List.not_mem_nil, or_false] at hd
      rcases hd with rfl | rfl | rfl | rfl | rfl <;> rfl
    exact Bool.false_ne_true (hnot.symm.trans hplain)
  · exact absurd hd (by decide)
  · by_cases hslash : d = '/'
    · subst hslash
      exact slash_not_mem_of_isAddress h hmem
    · have hmark : d ∈ ['@', ']', '?', '#'] := by
        simp only [List.mem_cons, List.not_mem_nil, or_false] at hd ⊢
        rcases hd with rfl | rfl | rfl | rfl | rfl <;> simp_all
      exact hzone zone hsome d hmark hin

end Ipv6

/-! ## All hosts -/

theorem mem_of_mem_unbracket {cs : List Char} {c : Char} (h : c ∈ unbracket cs) : c ∈ cs := by
  unfold unbracket at h
  split at h
  · exact List.mem_of_mem_drop (List.dropLast_subset _ h)
  · exact h

/-- Only brackets are taken off. -/
theorem mem_unbracket {cs : List Char} {c : Char} (h : c ∈ cs) (hopen : c ≠ '[')
    (hclose : c ≠ ']') : c ∈ unbracket cs := by
  unfold unbracket
  split
  · rename_i hbrackets
    obtain ⟨rest, rfl⟩ := List.head?_eq_some_iff.mp hbrackets.1
    have hrest : c ∈ rest := by simpa [hopen] using h
    have hlast : rest.getLast? = some ']' := by
      cases rest with
      | nil => simp at hrest
      | cons d others => simpa using hbrackets.2
    exact (Text.mem_dropLast_or_eq hlast hrest).resolve_right hclose
  · exact h

/-- The address without the brackets that an IPv6 address may stand in. -/
def bare (cs : List Char) : List Char := if ':' ∈ cs then unbracket cs else cs

/-- A host without the brackets and escapes of its written form. -/
def Form.text : Form → List Char
  | .name text => text
  | .literal text => text

/-- What a host is: nothing at all, an IPv6 address, a dotted quad, or a host name. -/
theorem classify_cases {cs : List Char} {form : Form} (h : classify cs = .ok form) :
    cs = [] ∧ form = .name [] ∨
      ':' ∈ cs ∧ Ipv6.isAddress (unbracket cs) = true ∧ form = .literal (unbracket cs) ∨
      Ipv4.isAddress cs = true ∧ form = .name cs ∨
      (labels cs).all isLabel = true ∧ hasLetterOnTop (labels cs) = true ∧ form = .name cs := by
  revert h
  fun_cases classify cs with
  | case1 hempty =>
    rintro ⟨⟩
    exact .inl ⟨hempty, rfl⟩
  | case2 _ hcolon haddress =>
    rintro ⟨⟩
    exact .inr (.inl ⟨hcolon, haddress, rfl⟩)
  | case4 _ _ hquad =>
    rintro ⟨⟩
    exact .inr (.inr (.inl ⟨hquad, rfl⟩))
  | case7 _ _ _ hlabels htop =>
    rintro ⟨⟩
    exact .inr (.inr (.inr ⟨by simpa using hlabels, by simpa using htop, rfl⟩))
  | case3 | case5 | case6 => rintro ⟨⟩

/-- What a text is when it is a host. -/
theorem classify_eq_ok {cs : List Char} {form : Form} (h : classify cs = .ok form) :
    form = .name cs ∧ (∀ c ∈ cs, isNameChar c = true) ∨
      form = .literal (unbracket cs) ∧ ':' ∈ cs ∧ Ipv6.isAddress (unbracket cs) = true := by
  rcases classify_cases h with ⟨rfl, rfl⟩ | ⟨hcolon, haddress, rfl⟩ | ⟨hquad, rfl⟩ |
    ⟨hlabels, _, rfl⟩
  · exact .inl ⟨rfl, List.forall_mem_nil _⟩
  · exact .inr ⟨rfl, hcolon, haddress⟩
  · exact .inl ⟨rfl, isNameChar_of_isAddress hquad⟩
  · exact .inl ⟨rfl, isNameChar_of_labels hlabels⟩

theorem text_eq_bare {cs : List Char} {form : Form} (h : classify cs = .ok form) :
    form.text = bare cs := by
  unfold bare
  rcases classify_eq_ok h with ⟨rfl, hname⟩ | ⟨rfl, hcolon, _⟩
  · rw [if_neg (Text.not_mem_of_class hname rfl)]
    rfl
  · rw [if_pos hcolon]
    rfl

end Host

end MailConnection
