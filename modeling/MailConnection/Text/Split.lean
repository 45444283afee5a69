/-!
# Cutting a text at a separator

A text is cut at the first or at the last place where a separator occurs.
`before` and `after?` belong to the first place, `beforeLast` and `afterLast` to
the last.  A text without the separator has nothing after the first one
(`after? = none`) and is all after the last one.

The lemmas say what is put together again is the text (`before_append_after`),
and what the parts of a text with a known separator are
(`before_append_cons`, `afterLast_append_cons`).  `segments` cuts at every
separator.
-/

namespace MailConnection.Text

/-! ## The first separator -/

/-- The text before the first separator, or all of it. -/
def before (separator : Char) : List Char → List Char
  | [] => []
  | c :: rest => if c = separator then [] else c :: before separator rest

/-- The text after the first separator, if there is one. -/
def after? (separator : Char) : List Char → Option (List Char)
  | [] => none
  | c :: rest => if c = separator then some rest else after? separator rest

theorem before_of_not_mem {separator : Char} {cs : List Char} (h : separator ∉ cs) :
    before separator cs = cs := by
  induction cs with
  | nil => rfl
  | cons c r ih =>
    simp only [List.mem_cons, not_or] at h
    simp [before, Ne.symm h.1, ih h.2]

theorem after?_of_not_mem {separator : Char} {cs : List Char} (h : separator ∉ cs) :
    after? separator cs = none := by
  induction cs with
  | nil => rfl
  | cons c r ih =>
    simp only [List.mem_cons, not_or] at h
    simp [after?, Ne.symm h.1, ih h.2]

theorem before_append_cons {separator : Char} {left : List Char} (h : separator ∉ left)
    (right : List Char) : before separator (left ++ separator :: right) = left := by
  induction left with
  | nil => simp [before]
  | cons c r ih =>
    simp only [List.mem_cons, not_or] at h
    simp [before, Ne.symm h.1, ih h.2]

theorem before_append_of_not_mem {separator : Char} {left : List Char} (h : separator ∉ left)
    (right : List Char) :
    before separator (left ++ right) = left ++ before separator right := by
  induction left with
  | nil => rfl
  | cons c r ih =>
    simp only [List.mem_cons, not_or] at h
    simp [before, Ne.symm h.1, ih h.2]

theorem mem_of_mem_before {separator c : Char} {cs : List Char} (h : c ∈ before separator cs) :
    c ∈ cs := by
  induction cs with
  | nil => exact h
  | cons d r ih =>
    unfold before at h
    split at h
    · simp at h
    · rcases List.mem_cons.mp h with rfl | hr
      · exact List.mem_cons_self
      · exact List.mem_cons_of_mem d (ih hr)

theorem after?_append_cons {separator : Char} {left : List Char} (h : separator ∉ left)
    (right : List Char) : after? separator (left ++ separator :: right) = some right := by
  induction left with
  | nil => simp [after?]
  | cons c r ih =>
    simp only [List.mem_cons, not_or] at h
    simp [after?, Ne.symm h.1, ih h.2]

theorem not_mem_before (separator : Char) (cs : List Char) : separator ∉ before separator cs := by
  induction cs with
  | nil => simp [before]
  | cons c r ih =>
    by_cases hc : c = separator
    · simp [before, hc]
    · simp [before, hc, Ne.symm hc, ih]

theorem before_append_after {separator : Char} {cs rest : List Char}
    (h : after? separator cs = some rest) : before separator cs ++ separator :: rest = cs := by
  induction cs with
  | nil => simp [after?] at h
  | cons c r ih =>
    by_cases hc : c = separator
    · simp only [after?, hc, if_true, Option.some.injEq] at h
      simp [before, hc, h]
    · simp only [after?, hc, if_false] at h
      simp [before, hc, ih h]

theorem after?_eq_none_iff {separator : Char} {cs : List Char} :
    after? separator cs = none ↔ separator ∉ cs := by
  refine ⟨fun h => ?_, after?_of_not_mem⟩
  induction cs with
  | nil => simp
  | cons c r ih =>
    by_cases hc : c = separator
    · simp [after?, hc] at h
    · simp only [after?, hc, if_false] at h
      simp [Ne.symm hc, ih h]

/-! ## The last separator -/

/-- The text before the last separator, empty if there is none. -/
def beforeLast (separator : Char) (cs : List Char) : List Char :=
  match after? separator cs.reverse with
  | none => []
  | some rest => rest.reverse

/-- The text after the last separator, or all of it. -/
def afterLast (separator : Char) (cs : List Char) : List Char :=
  (before separator cs.reverse).reverse

theorem beforeLast_of_not_mem {separator : Char} {cs : List Char} (h : separator ∉ cs) :
    beforeLast separator cs = [] := by
  rw [beforeLast, after?_of_not_mem (by simpa using h)]

theorem afterLast_of_not_mem {separator : Char} {cs : List Char} (h : separator ∉ cs) :
    afterLast separator cs = cs := by
  rw [afterLast, before_of_not_mem (by simpa using h), List.reverse_reverse]

theorem beforeLast_append_cons {separator : Char} {right : List Char} (h : separator ∉ right)
    (left : List Char) : beforeLast separator (left ++ separator :: right) = left := by
  have hreverse : (left ++ separator :: right).reverse =
      right.reverse ++ separator :: left.reverse := by simp
  rw [beforeLast, hreverse, after?_append_cons (by simpa using h)]
  simp

theorem afterLast_append_cons {separator : Char} {right : List Char} (h : separator ∉ right)
    (left : List Char) : afterLast separator (left ++ separator :: right) = right := by
  have hreverse : (left ++ separator :: right).reverse =
      right.reverse ++ separator :: left.reverse := by simp
  rw [afterLast, hreverse, before_append_cons (by simpa using h), List.reverse_reverse]

theorem not_mem_afterLast (separator : Char) (cs : List Char) :
    separator ∉ afterLast separator cs := by
  simpa [afterLast] using not_mem_before separator cs.reverse

theorem beforeLast_append_afterLast {separator : Char} {cs : List Char} (h : separator ∈ cs) :
    beforeLast separator cs ++ separator :: afterLast separator cs = cs := by
  have hmem : ¬ separator ∉ cs.reverse := by simpa using h
  cases hafter : after? separator cs.reverse with
  | none => exact absurd (after?_eq_none_iff.mp hafter) hmem
  | some rest =>
    have hcut := congrArg List.reverse (before_append_after hafter)
    rw [beforeLast, afterLast, hafter]
    simpa using hcut

/-- What stands before a separator has no part in what follows the last one. -/
theorem afterLast_append_cons_of_any (separator : Char) (left right : List Char) :
    afterLast separator (left ++ separator :: right) = afterLast separator right := by
  by_cases h : separator ∈ right
  · have hright := beforeLast_append_afterLast h
    have hnot := not_mem_afterLast separator right
    calc afterLast separator (left ++ separator :: right)
        = afterLast separator ((left ++ separator :: beforeLast separator right) ++
            separator :: afterLast separator right) := by
          rw [List.append_assoc, List.cons_append, hright]
      _ = afterLast separator right := afterLast_append_cons hnot _
  · rw [afterLast_append_cons h, afterLast_of_not_mem h]

/-- Nor is it lost from what stands before the last one. -/
theorem beforeLast_append_cons_of_any (separator : Char) (left right : List Char) :
    beforeLast separator (left ++ separator :: right) =
      left ++ if separator ∈ right then separator :: beforeLast separator right else [] := by
  by_cases h : separator ∈ right
  · have hright := beforeLast_append_afterLast h
    have hnot := not_mem_afterLast separator right
    calc beforeLast separator (left ++ separator :: right)
        = beforeLast separator ((left ++ separator :: beforeLast separator right) ++
            separator :: afterLast separator right) := by
          rw [List.append_assoc, List.cons_append, hright]
      _ = left ++ separator :: beforeLast separator right := beforeLast_append_cons hnot _
      _ = _ := by rw [if_pos h]
  · rw [beforeLast_append_cons h, if_neg h, List.append_nil]

/-! ## All separators -/

/-- The segments of a text between its separators; a text without any is one segment. -/
def segments (separator : Char) : List Char → List (List Char)
  | [] => [[]]
  | c :: rest =>
    if c = separator then [] :: segments separator rest
    else match segments separator rest with
      | [] => [[c]]
      | first :: others => (c :: first) :: others

theorem segments_ne_nil (separator : Char) (cs : List Char) : segments separator cs ≠ [] := by
  cases cs with
  | nil => simp [segments]
  | cons c r =>
    unfold segments
    split
    · simp
    · split <;> simp

/-- The first segment stands before the first separator, and the others make up what follows
it. -/
theorem segments_eq (separator : Char) (cs : List Char) :
    segments separator cs =
      before separator cs :: ((after? separator cs).map (segments separator)).getD [] := by
  induction cs with
  | nil => rfl
  | cons c r ih =>
    by_cases hc : c = separator
    · simp [segments, before, after?, hc]
    · simp only [segments, before, after?, if_neg hc, ih]

/-- No character is lost: the segments with the separators between them are the text. -/
theorem intercalate_segments (separator : Char) (cs : List Char) :
    [separator].intercalate (segments separator cs) = cs := by
  induction cs with
  | nil => rfl
  | cons c r ih =>
    obtain ⟨first, others, hs⟩ := List.exists_cons_of_ne_nil (segments_ne_nil separator r)
    rw [hs] at ih
    by_cases hc : c = separator
    · simpa [segments, hc, hs, List.intercalate] using ih
    · cases others <;> simpa [segments, hc, hs, List.intercalate] using ih

theorem mem_segment_of_mem (separator : Char) {c : Char} {cs : List Char} (h : c ∈ cs) :
    c = separator ∨ ∃ segment ∈ segments separator cs, c ∈ segment := by
  induction cs with
  | nil => simp at h
  | cons d r ih =>
    by_cases hd : d = separator
    · rcases List.mem_cons.mp h with rfl | h
      · exact .inl hd
      · rcases ih h with hc | ⟨segment, hsegment, hc⟩
        · exact .inl hc
        · exact .inr ⟨segment, by simp [segments, hd, hsegment], hc⟩
    · obtain ⟨first, others, hs⟩ := List.exists_cons_of_ne_nil (segments_ne_nil separator r)
      rw [hs] at ih
      rcases List.mem_cons.mp h with rfl | h
      · exact .inr ⟨c :: first, by simp [segments, hd, hs], by simp⟩
      · rcases ih h with hc | ⟨segment, hsegment, hc⟩
        · exact .inl hc
        · rcases List.mem_cons.mp hsegment with rfl | hsegment
          · exact .inr ⟨d :: segment, by simp [segments, hd, hs], by simp [hc]⟩
          · exact .inr ⟨segment, by simp [segments, hd, hs, hsegment], hc⟩

end MailConnection.Text
