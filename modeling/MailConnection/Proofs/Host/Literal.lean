import MailConnection.Proofs.Host.Characters
import MailConnection.Proofs.Text.Joined

/-!
# The grammar of IP addresses

A dotted quad is four numbers with points between them (`Quad`).  An IPv6 address is eight
groups of hexadecimal digits with colons between them, or fewer around two colons that stand
for groups of zeros; the last two groups may be a dotted quad, and a zone may follow
(`Ipv6.Literal`).  Nothing in these definitions cuts a text or counts its colons.

The checks `Ipv4.isAddress` and `Ipv6.isAddress` do, and they accept exactly this grammar
(`isAddress_iff_quad`, `Ipv6.isAddress_iff_literal`).  For IPv6 the argument has two steps.
The segments of the text become groups, a quad at the end being replaced by two of them
(`Ipv6.row_iff`); and a row of groups is an address if there are eight of them, or if there is
a single empty place strictly inside with groups on both sides, where a side on which nothing
stands is written as one more empty part (`Ipv6.areGroups_iff`).
-/

namespace MailConnection

namespace Host

open Text (numeral numeralValue segments)

/-! ## Dotted quads -/

/-- Four numbers up to 255 with points between them. -/
def Quad (cs : List Char) : Prop :=
  ∃ numbers : List Nat, numbers.length = 4 ∧ (∀ n ∈ numbers, n ≤ 255) ∧
    cs = ['.'].intercalate (numbers.map numeral)

theorem isOctet_iff {cs : List Char} : Ipv4.isOctet cs = true ↔ ∃ n ≤ 255, cs = numeral n := by
  constructor
  · intro h
    have hdigits := isDigit_of_isOctet h
    simp only [Ipv4.isOctet, Bool.and_eq_true, Bool.or_eq_true, bne_iff_ne, beq_iff_eq,
      decide_eq_true_eq] at h
    obtain ⟨⟨⟨⟨hne, _⟩, _⟩, hzero⟩, hvalue⟩ := h
    exact ⟨numeralValue cs, hvalue, (Text.numeral_numeralValue hdigits hne hzero).symm⟩
  · rintro ⟨n, hn, rfl⟩
    have hall : ∀ m : Fin 256, Ipv4.isOctet (numeral m) = true := by decide +kernel
    exact hall ⟨n, by omega⟩

theorem isAddress_iff_quad {cs : List Char} : Ipv4.isAddress cs = true ↔ Quad cs := by
  simp only [Ipv4.isAddress, Bool.and_eq_true, beq_iff_eq, List.all_eq_true, isOctet_iff]
  constructor
  · rintro ⟨hlength, hoctets⟩
    have hvalue : ∀ octet ∈ segments '.' cs, numeralValue octet ≤ 255 ∧
        numeral (numeralValue octet) = octet := by
      intro octet hoctet
      obtain ⟨n, hn, rfl⟩ := hoctets octet hoctet
      rw [Text.numeralValue_numeral]
      exact ⟨hn, rfl⟩
    refine ⟨(segments '.' cs).map numeralValue, by rw [List.length_map, hlength], ?_, ?_⟩
    · intro n hn
      obtain ⟨octet, hoctet, rfl⟩ := List.mem_map.mp hn
      exact (hvalue octet hoctet).1
    · have hmap : ((segments '.' cs).map numeralValue).map numeral = segments '.' cs := by
        rw [List.map_map]
        have hback := List.map_congr_left fun octet hoctet => (hvalue octet hoctet).2
        exact hback.trans (List.map_id _)
      rw [hmap, Text.intercalate_segments]
  · rintro ⟨numbers, hlength, hbound, rfl⟩
    have hne : numbers.map numeral ≠ [] := by
      rintro hnil
      rw [List.map_eq_nil_iff.mp hnil] at hlength
      exact absurd hlength (by decide)
    have hpoint : ∀ octet ∈ numbers.map numeral, '.' ∉ octet := by
      intro octet hoctet
      obtain ⟨n, _, rfl⟩ := List.mem_map.mp hoctet
      exact Text.not_mem_of_class (fun c hc => Text.isDigit_of_mem_numeral hc) rfl
    rw [Text.segments_intercalate hne hpoint]
    refine ⟨by rw [List.length_map, hlength], ?_⟩
    intro octet hoctet
    obtain ⟨n, hn, rfl⟩ := List.mem_map.mp hoctet
    exact ⟨n, hbound n hn, rfl⟩

/-! ## IPv6 addresses -/

namespace Ipv6

/-- A digit of a hexadecimal number, in either case. -/
def HexDigit (c : Char) : Prop := ('0' ≤ c ∧ c ≤ '9') ∨ ('a' ≤ c ∧ c ≤ 'f') ∨ ('A' ≤ c ∧ c ≤ 'F')

/-- One to four hexadecimal digits. -/
def Group (cs : List Char) : Prop := 1 ≤ cs.length ∧ cs.length ≤ 4 ∧ ∀ c ∈ cs, HexDigit c

/-- A row of groups, which make up `n` groups of an address: the last one may be a dotted
quad, which counts for two. -/
def Row (groups : List (List Char)) (n : Nat) : Prop :=
  ((∀ g ∈ groups, Group g) ∧ groups.length = n) ∨
    ∃ init quad, groups = init ++ [quad] ∧ (∀ g ∈ init, Group g) ∧ Quad quad ∧ init.length + 2 = n

/-- An address without a zone: eight groups with colons between them, or at most seven, with
two colons where groups of zeros are left out. -/
inductive Plain : List Char → Prop
  | full (groups : List (List Char)) (h : Row groups 8) : Plain ([':'].intercalate groups)
  | compressed (high low : List (List Char)) (n : Nat) (hhigh : ∀ g ∈ high, Group g)
      (hlow : Row low n) (hcount : high.length + n ≤ 7) :
      Plain ([':'].intercalate high ++ ':' :: ':' :: [':'].intercalate low)

/-- An address with or without a zone. -/
def Literal (cs : List Char) : Prop :=
  '/' ∉ cs ∧ (Plain cs ∨ ∃ plain zone, cs = plain ++ '%' :: zone ∧ Plain plain ∧ zone ≠ [] ∧
    '%' ∉ zone)

theorem isGroup_iff {cs : List Char} : isGroup cs = true ↔ Group cs := by
  have hhex (c : Char) : (Text.hexValue? c).isSome = true ↔ HexDigit c := by
    unfold Text.hexValue? HexDigit
    split
    · simp [*]
    · split
      · simp [*]
      · split <;> simp [*]
  simp only [isGroup, Group, Bool.and_eq_true, bne_iff_ne, ne_eq, decide_eq_true_eq,
    List.all_eq_true, hhex, and_assoc, ← List.length_pos_iff]
  rfl

/-- The groups that a row of written groups makes up, a dotted quad counting as two. -/
def expand? (written : List (List Char)) : Option (List (List Char)) :=
  if (written.getLastD []).contains '.' then
    if Ipv4.isAddress (written.getLastD []) then some (written.dropLast ++ [['0'], ['0']]) else none
  else some written

theorem groups?_eq (cs : List Char) :
    groups? cs = if (segments ':' cs).length < 3 then none else expand? (segments ':' cs) := rfl

theorem Group.ne_nil {g : List Char} (h : Group g) : g ≠ [] := List.length_pos_iff.mp h.1

theorem Group.not_mem {g : List Char} (h : Group g) {d : Char} (hd : ¬ HexDigit d) : d ∉ g :=
  fun hmem => hd (h.2.2 d hmem)

theorem not_hexDigit : ¬ HexDigit ':' ∧ ¬ HexDigit '.' := by
  unfold HexDigit
  decide

theorem group_zero : Group ['0'] := isGroup_iff.mp (by decide)

theorem all_isGroup_iff {groups : List (List Char)} :
    groups.all isGroup = true ↔ ∀ g ∈ groups, Group g := by
  simp only [List.all_eq_true, isGroup_iff]

theorem point_mem_of_quad {cs : List Char} (h : Quad cs) : '.' ∈ cs := by
  obtain ⟨numbers, hlength, _, rfl⟩ := h
  match numbers, hlength with
  | first :: second :: rest, _ => simp [List.intercalate_cons_cons]

theorem colon_not_mem_of_quad {cs : List Char} (h : Quad cs) : ':' ∉ cs := by
  intro hmem
  rcases isDigit_or_eq_point_of_isAddress (isAddress_iff_quad.mpr h) ':' hmem with hdigit | hpoint
  · exact absurd hdigit (by decide)
  · exact absurd hpoint (by decide)

theorem expand?_concat (init : List (List Char)) (last : List Char) :
    expand? (init ++ [last]) =
      if '.' ∈ last then
        if Ipv4.isAddress last then some (init ++ [['0'], ['0']]) else none
      else some (init ++ [last]) := by
  simp only [expand?, List.getLastD_concat, List.dropLast_concat, List.contains_iff_mem]

/-- Groups in front of a row stay as they are. -/
theorem expand?_append (front : List (List Char)) {written : List (List Char)}
    (hne : written ≠ []) :
    expand? (front ++ written) = (expand? written).map (front ++ ·) := by
  rcases List.eq_nil_or_concat written with rfl | ⟨init, last, rfl⟩
  · exact absurd rfl hne
  · rw [List.concat_eq_append, ← List.append_assoc, expand?_concat, expand?_concat]
    split
    · split <;> simp
    · simp

/-- Written groups are a row exactly if they make up groups. -/
theorem row_iff {written : List (List Char)} (hne : written ≠ []) {n : Nat} :
    Row written n ↔ ∃ groups, expand? written = some groups ∧ (∀ g ∈ groups, Group g) ∧
      groups.length = n := by
  constructor
  · rintro (⟨hgroups, hlength⟩ | ⟨init, quad, rfl, hinit, hquad, hlength⟩)
    · refine ⟨written, ?_, hgroups, hlength⟩
      rcases List.eq_nil_or_concat written with rfl | ⟨init, last, rfl⟩
      · exact absurd rfl hne
      · rw [List.concat_eq_append] at hgroups ⊢
        rw [expand?_concat, if_neg ((hgroups last (by simp)).not_mem not_hexDigit.2)]
    · refine ⟨init ++ [['0'], ['0']], ?_, ?_, by simpa using hlength⟩
      · rw [expand?_concat, if_pos (point_mem_of_quad hquad),
          if_pos (isAddress_iff_quad.mpr hquad)]
      · intro g hg
        rcases List.mem_append.mp hg with hg | hg
        · exact hinit g hg
        · obtain rfl : g = ['0'] := by simpa using hg
          exact group_zero
  · rintro ⟨groups, hexpand, hgroups, rfl⟩
    rcases List.eq_nil_or_concat written with rfl | ⟨init, last, rfl⟩
    · exact absurd rfl hne
    · rw [List.concat_eq_append] at hexpand ⊢
      rw [expand?_concat] at hexpand
      split at hexpand
      · split at hexpand
        · rename_i hquad
          obtain rfl := Option.some.inj hexpand
          refine .inr ⟨init, last, rfl, ?_, isAddress_iff_quad.mp hquad, by simp⟩
          intro g hg
          exact hgroups g (by simp [hg])
        · simp at hexpand
      · obtain rfl := Option.some.inj hexpand
        exact .inl ⟨hgroups, rfl⟩

theorem colon_not_mem_of_row {written : List (List Char)} {n : Nat} (h : Row written n) :
    ∀ g ∈ written, ':' ∉ g := by
  rcases h with ⟨hgroups, _⟩ | ⟨init, quad, rfl, hinit, hquad, _⟩
  · exact fun g hg => (hgroups g hg).not_mem not_hexDigit.1
  · intro g hg
    rcases List.mem_append.mp hg with hg | hg
    · exact (hinit g hg).not_mem not_hexDigit.1
    · obtain rfl := List.mem_singleton.mp hg
      exact colon_not_mem_of_quad hquad

/-! ### The gap -/

/-- What is written on one side of two colons: a lone empty part where no group is. -/
def side (groups : List (List Char)) : List (List Char) := if groups = [] then [[]] else groups

theorem side_ne_nil (groups : List (List Char)) : side groups ≠ [] := by
  unfold side
  split
  · simp
  · assumption

theorem side_of_ne_nil {groups : List (List Char)} (h : groups ≠ []) : side groups = groups :=
  if_neg h

theorem length_side (groups : List (List Char)) :
    (side groups).length = max 1 groups.length := by
  unfold side
  split
  · rename_i hnil
    rw [hnil]
    rfl
  · rename_i hne
    have := List.length_pos_iff.mpr hne
    omega

theorem intercalate_side (separator : List Char) (groups : List (List Char)) :
    separator.intercalate (side groups) = separator.intercalate groups := by
  unfold side
  split
  · rename_i hnil
    rw [hnil]
    rfl
  · rfl

theorem sideCount?_eq_some_iff {groups : List (List Char)} (hne : groups ≠ []) {n : Nat} :
    sideCount? groups = some n ↔
      ∃ inner, groups = side inner ∧ (∀ g ∈ inner, Group g) ∧ inner.length = n := by
  unfold sideCount?
  constructor
  · intro h
    split at h
    · rename_i hempty
      exact ⟨[], hempty, by simp, Option.some.inj h⟩
    · split at h
      · rename_i hall
        exact ⟨groups, (side_of_ne_nil hne).symm, all_isGroup_iff.mp hall, Option.some.inj h⟩
      · simp at h
  · rintro ⟨inner, rfl, hinner, rfl⟩
    by_cases hnil : inner = []
    · subst hnil
      rfl
    · rw [side_of_ne_nil hnil, if_neg, if_pos (all_isGroup_iff.mpr hinner)]
      rintro rfl
      exact (hinner [] (by simp)).ne_nil rfl

theorem mem_innerGaps {groups : List (List Char)} {i : Nat} :
    i ∈ innerGaps groups ↔ 0 < i ∧ i + 1 < groups.length ∧ groups[i]? = some [] := by
  simp only [innerGaps, List.mem_filter, List.mem_range, Bool.and_eq_true, decide_eq_true_eq,
    beq_iff_eq, and_assoc]
  constructor
  · rintro ⟨_, h⟩
    exact h
  · rintro ⟨hpos, hlt, hgap⟩
    exact ⟨by omega, hpos, hlt, hgap⟩

theorem innerGaps_of_groups {groups : List (List Char)} (h : ∀ g ∈ groups, Group g) :
    innerGaps groups = [] := by
  refine List.eq_nil_iff_forall_not_mem.mpr fun i hi => ?_
  obtain ⟨_, _, hgap⟩ := mem_innerGaps.mp hi
  exact (h [] (List.mem_of_getElem? hgap)).ne_nil rfl

/-- The parts of one side are empty only where the text begins or ends. -/
theorem eq_nil_of_getElem?_side {groups : List (List Char)} (h : ∀ g ∈ groups, Group g) {i : Nat}
    (hi : (side groups)[i]? = some []) : i = 0 ∧ (side groups).length = 1 := by
  by_cases hnil : groups = []
  · subst hnil
    have hlt : i < 1 := (List.getElem?_eq_some_iff.mp hi).1
    exact ⟨by omega, rfl⟩
  · rw [side_of_ne_nil hnil] at hi
    exact absurd rfl (h [] (List.mem_of_getElem? hi)).ne_nil

theorem innerGaps_of_sides {high low : List (List Char)} (hhigh : ∀ g ∈ high, Group g)
    (hlow : ∀ g ∈ low, Group g) :
    innerGaps (side high ++ [] :: side low) = [(side high).length] := by
  have hhighLength := length_side high
  have hlowLength := length_side low
  have hmem : ∀ i, i ∈ innerGaps (side high ++ [] :: side low) ↔ i = (side high).length := by
    intro i
    rw [mem_innerGaps, List.length_append, List.length_cons]
    constructor
    · rintro ⟨hpos, hlt, hgap⟩
      rcases Nat.lt_trichotomy i (side high).length with hleft | heq | hright
      · rw [List.getElem?_append_left hleft] at hgap
        have := eq_nil_of_getElem?_side hhigh hgap
        omega
      · exact heq
      · -- behind the gap, counted from there
        obtain ⟨k, rfl⟩ := Nat.exists_eq_add_of_lt hright
        rw [List.getElem?_append_right (by omega)] at hgap
        have hindex : (side high).length + k + 1 - (side high).length = k + 1 := by omega
        rw [hindex, List.getElem?_cons_succ] at hgap
        have := eq_nil_of_getElem?_side hlow hgap
        omega
    · rintro rfl
      refine ⟨by omega, by omega, ?_⟩
      rw [List.getElem?_append_right (Nat.le_refl _), Nat.sub_self]
      rfl
  have hnodup : (innerGaps (side high ++ [] :: side low)).Nodup := List.nodup_range.filter _
  rw [← List.perm_singleton, List.perm_ext_iff_of_nodup hnodup (by simp)]
  simpa using hmem

/-- **Eight groups, or at most seven with a gap among them.** -/
theorem areGroups_iff {groups : List (List Char)} :
    areGroups groups = true ↔ ((∀ g ∈ groups, Group g) ∧ groups.length = 8) ∨
      ∃ high low, groups = side high ++ [] :: side low ∧ (∀ g ∈ high, Group g) ∧
        (∀ g ∈ low, Group g) ∧ high.length + low.length ≤ 7 := by
  constructor
  · intro h
    unfold areGroups at h
    split at h
    · simp only [Bool.and_eq_true, beq_iff_eq, all_isGroup_iff] at h
      exact .inl ⟨h.2, h.1⟩
    · rename_i gap hgaps
      obtain ⟨hpos, hlt, hgap⟩ := mem_innerGaps.mp (hgaps ▸ List.mem_singleton_self gap)
      simp only [Bool.and_eq_true] at h
      obtain ⟨_, hsides⟩ := h
      split at hsides
      · rename_i m n hhigh hlow
        have hcut : groups = groups.take gap ++ [] :: groups.drop (gap + 1) := by
          conv_lhs => rw [← List.take_append_drop gap groups,
            List.drop_eq_getElem?_toList_append, hgap]
          rfl
        have htake : groups.take gap ≠ [] := by
          rw [← List.length_pos_iff, List.length_take]
          omega
        have hdrop : groups.drop (gap + 1) ≠ [] := by
          rw [← List.length_pos_iff, List.length_drop]
          omega
        obtain ⟨high, hfront, hhighGroups, rfl⟩ := (sideCount?_eq_some_iff htake).mp hhigh
        obtain ⟨low, hback, hlowGroups, rfl⟩ := (sideCount?_eq_some_iff hdrop).mp hlow
        rw [hfront, hback] at hcut
        exact .inr ⟨high, low, hcut, hhighGroups, hlowGroups, by simpa using hsides⟩
      · simp at hsides
    · simp at h
  · rintro (⟨hgroups, hlength⟩ | ⟨high, low, rfl, hhigh, hlow, hcount⟩)
    · simp [areGroups, innerGaps_of_groups hgroups, hlength, all_isGroup_iff.mpr hgroups]
    · have hhighCount := (sideCount?_eq_some_iff (side_ne_nil high)).mpr ⟨high, rfl, hhigh, rfl⟩
      have hlowCount := (sideCount?_eq_some_iff (side_ne_nil low)).mpr ⟨low, rfl, hlow, rfl⟩
      have hbound : (side high).length + ((side low).length + 1) ≤ 9 := by
        rw [length_side, length_side]
        omega
      simp [areGroups, innerGaps_of_sides hhigh hlow, hhighCount, hlowCount, hcount, hbound]

/-! ### Addresses -/

/-- Cutting what is written around a gap gives both sides and the empty part between them. -/
theorem intercalate_sides (high : List (List Char)) {low : List (List Char)} (hne : low ≠ []) :
    [':'].intercalate (side high ++ [] :: low) =
      [':'].intercalate high ++ ':' :: ':' :: [':'].intercalate low := by
  rw [Text.intercalate_append (side_ne_nil high) (List.cons_ne_nil _ _), intercalate_side,
    List.intercalate_cons_of_ne_nil hne]
  rfl

theorem segments_of_row {written : List (List Char)} {n : Nat} (h : Row written n)
    (hne : written ≠ []) : segments ':' ([':'].intercalate written) = written :=
  Text.segments_intercalate hne (colon_not_mem_of_row h)

theorem isPlainAddress_of_expand? {cs : List Char} {groups : List (List Char)}
    (hlength : 3 ≤ (segments ':' cs).length) (hexpand : expand? (segments ':' cs) = some groups)
    (hgroups : areGroups groups = true) : isPlainAddress cs = true := by
  rw [isPlainAddress, groups?_eq, if_neg (Nat.not_lt.mpr hlength), hexpand]
  exact hgroups

theorem Row.count_bounds {written : List (List Char)} {n : Nat} (h : Row written n) :
    written.length ≤ n ∧ n ≤ written.length + 1 ∧ (written = [] → n = 0) := by
  rcases h with ⟨_, rfl⟩ | ⟨init, quad, rfl, _, _, rfl⟩
  · exact ⟨Nat.le_refl _, Nat.le_succ _, fun h => by rw [h]; rfl⟩
  · simp

theorem colon_not_mem_of_side {row : List (List Char)} {n : Nat} (h : Row row n) :
    ∀ part ∈ side row, ':' ∉ part := by
  intro part hpart
  by_cases hnil : row = []
  · subst hnil
    obtain rfl : part = [] := by simpa [side] using hpart
    simp
  · rw [side_of_ne_nil hnil] at hpart
    exact colon_not_mem_of_row h part hpart

/-- What is written behind the gap makes up groups, or there is nothing. -/
theorem exists_groups_of_side {row : List (List Char)} {n : Nat} (h : Row row n) :
    ∃ groups, expand? (side row) = some (side groups) ∧ (∀ g ∈ groups, Group g) ∧
      groups.length = n := by
  by_cases hnil : row = []
  · subst hnil
    exact ⟨[], rfl, by simp, (h.count_bounds.2.2 rfl).symm⟩
  · obtain ⟨groups, hexpand, hgroups, hlength⟩ := (row_iff hnil).mp h
    have hsome : groups ≠ [] := by
      rw [← List.length_pos_iff, hlength]
      exact Nat.lt_of_lt_of_le (List.length_pos_iff.mpr hnil) h.count_bounds.1
    exact ⟨groups, by rw [side_of_ne_nil hnil, side_of_ne_nil hsome, hexpand], hgroups, hlength⟩

theorem segments_of_sides {high low : List (List Char)} {m n : Nat} (hhigh : Row high m)
    (hlow : Row low n) :
    segments ':' ([':'].intercalate high ++ ':' :: ':' :: [':'].intercalate low) =
      side high ++ [] :: side low := by
  rw [← intercalate_side [':'] low, ← intercalate_sides high (side_ne_nil low)]
  refine Text.segments_intercalate (by simp) fun part hpart => ?_
  rcases List.mem_append.mp hpart with hpart | hpart
  · exact colon_not_mem_of_side hhigh part hpart
  · rcases List.mem_cons.mp hpart with rfl | hpart
    · simp
    · exact colon_not_mem_of_side hlow part hpart

theorem isPlainAddress_of_plain {cs : List Char} (h : Plain cs) : isPlainAddress cs = true := by
  cases h with
  | full written hrow =>
    have hcount := hrow.count_bounds
    have hne : written ≠ [] := fun hnil => absurd (hcount.2.2 hnil) (by decide)
    obtain ⟨groups, hexpand, hgroups, hlength⟩ := (row_iff hne).mp hrow
    have hsegments := segments_of_row hrow hne
    refine isPlainAddress_of_expand? ?_ (by rw [hsegments, hexpand])
      (areGroups_iff.mpr (.inl ⟨hgroups, hlength⟩))
    rw [hsegments]
    omega
  | compressed high low n hhigh hlow hcount =>
    have hsegments := segments_of_sides (.inl ⟨hhigh, rfl⟩) hlow
    obtain ⟨groups, hexpand, hgroups, hlength⟩ := exists_groups_of_side hlow
    refine isPlainAddress_of_expand? ?_ ?_
      (areGroups_iff.mpr (.inr ⟨high, groups, rfl, hhigh, hgroups, by omega⟩))
    · rw [hsegments, List.length_append, List.length_cons, length_side, length_side]
      omega
    · have happend : side high ++ [] :: side low = (side high ++ [[]]) ++ side low := by simp
      rw [hsegments, happend, expand?_append _ (side_ne_nil low), hexpand]
      simp

/-- Two groups at the end that stand for a dotted quad are behind every gap. -/
theorem exists_of_append_eq {init left right : List (List Char)}
    (h : init ++ [['0'], ['0']] = left ++ [] :: right) :
    ∃ middle, right = middle ++ [['0'], ['0']] ∧ init = left ++ [] :: middle := by
  rcases List.append_eq_append_iff.mp h with ⟨between, _, hzeros⟩ | ⟨between, hinit, hgap⟩
  · have hmem : [] ∈ [['0'], ['0']] := by
      rw [hzeros]
      simp
    simp at hmem
  · cases between with
    | nil => simp at hgap
    | cons first middle =>
      simp only [List.cons_append, List.cons.injEq] at hgap
      obtain ⟨rfl, rfl⟩ := hgap
      exact ⟨middle, rfl, hinit⟩

/-- What is written of an address with a gap, given the groups that it makes up. -/
theorem exists_row_of_expand?_gap {written high low : List (List Char)} (hne : written ≠ [])
    (hlow : ∀ g ∈ low, Group g) (h : expand? written = some (side high ++ [] :: side low)) :
    ∃ back, back ≠ [] ∧ written = side high ++ [] :: back ∧
      ∃ row, Row row low.length ∧ [':'].intercalate back = [':'].intercalate row := by
  rcases List.eq_nil_or_concat written with rfl | ⟨init, last, rfl⟩
  · exact absurd rfl hne
  · rw [List.concat_eq_append] at h ⊢
    rw [expand?_concat] at h
    split at h
    · split at h
      · rename_i hquad
        obtain ⟨middle, hside, rfl⟩ := exists_of_append_eq (Option.some.inj h)
        have hsome : low ≠ [] := by
          rintro rfl
          have hlength := congrArg List.length hside
          simp [side] at hlength
        rw [side_of_ne_nil hsome] at hside
        refine ⟨middle ++ [last], by simp, by simp, middle ++ [last], ?_, rfl⟩
        refine .inr ⟨middle, last, rfl, ?_, isAddress_iff_quad.mp hquad, by simp [hside]⟩
        intro g hg
        exact hlow g (by simp [hside, hg])
      · simp at h
    · exact ⟨side low, side_ne_nil low, Option.some.inj h, low, .inl ⟨hlow, rfl⟩,
        intercalate_side [':'] low⟩

/-- **An address without a zone** is written as the grammar says. -/
theorem isPlainAddress_iff {cs : List Char} : isPlainAddress cs = true ↔ Plain cs := by
  refine ⟨fun h => ?_, isPlainAddress_of_plain⟩
  rw [isPlainAddress, groups?_eq] at h
  split at h
  · rename_i groups hexpand
    split at hexpand
    · simp at hexpand
    · have hne := Text.segments_ne_nil ':' cs
      rw [← Text.intercalate_segments ':' cs]
      rcases areGroups_iff.mp h with ⟨hgroups, hlength⟩ | ⟨high, low, rfl, hhigh, hlow, hcount⟩
      · exact .full _ ((row_iff hne).mpr ⟨groups, hexpand, hgroups, hlength⟩)
      · obtain ⟨back, hback, hwritten, row, hrow, hjoin⟩ :=
          exists_row_of_expand?_gap hne hlow hexpand
        rw [hwritten, intercalate_sides high hback, hjoin]
        exact .compressed high row low.length hhigh hrow hcount
  · simp at h

/-- **An address with or without a zone** is written as the grammar says. -/
theorem isAddress_iff_literal {cs : List Char} : isAddress cs = true ↔ Literal cs := by
  have hpercent {plain : List Char} (h : Plain plain) : '%' ∉ plain :=
    Text.not_mem_of_class (isLiteralChar_of_isPlainAddress (isPlainAddress_of_plain h)) rfl
  constructor
  · intro h
    have hplain := isPlainAddress_iff.mp (isPlainAddress_of_isAddress h)
    refine ⟨slash_not_mem_of_isAddress h, ?_⟩
    simp only [isAddress, Bool.and_eq_true] at h
    cases hzone : Text.after? '%' cs with
    | none =>
      rw [Text.before_of_not_mem (Text.after?_eq_none_iff.mp hzone)] at hplain
      exact .inl hplain
    | some zone =>
      rw [hzone] at h
      simp only [isZone, Bool.and_eq_true, bne_iff_ne, ne_eq] at h
      have hcut := (Text.before_append_after hzone).symm
      exact .inr ⟨_, zone, hcut, hplain, h.2.1, by simpa using h.2.2⟩
  · rintro ⟨hslash, hplain | ⟨plain, zone, rfl, hplain, hne, hzone⟩⟩
    · have hnot := hpercent hplain
      simp [isAddress, hslash, Text.before_of_not_mem hnot, Text.after?_of_not_mem hnot,
        isPlainAddress_of_plain hplain]
    · have hnot := hpercent hplain
      simp [isAddress, hslash, Text.before_append_cons hnot, Text.after?_append_cons hnot,
        isPlainAddress_of_plain hplain, isZone, hne, hzone]

end Ipv6

end Host

end MailConnection
