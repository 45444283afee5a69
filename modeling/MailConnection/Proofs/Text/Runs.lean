import MailConnection.Text.Percent

/-!
# Escapes in runs of ASCII

Percent escapes are ASCII, so that a text with escapes is made of runs of ASCII characters
with other characters between them.  No escape reaches beyond its run: a `%` at the end of a
run is a `%`, and octets that are no whole character when the run ends become a replacement
character there and then (`unescape_append_cons`).  To resolve the escapes of each run by itself
is therefore to resolve those of the text (`unescapeRuns_eq`).

An escaped character keeps to itself in the same way (`unescape_append_escapeChar`).  Its first
octet begins a character, so it completes none that was begun before, and its `%` is no
hexadecimal digit, so it takes no part in a broken escape in front of it.  That is why a text
may be respelled: whether its characters beyond ASCII stand there raw or escaped makes no
difference to what is read (`unescape_escape_isAscii`).
-/

namespace MailConnection.Text

/-! ## Octets that begin a character -/

namespace Utf8

/-- The next octet of a character under way has to be one that begins no character. -/
def Partial.Continues (p : Partial) : Prop := 0x80 ≤ p.low ∧ p.high ≤ 0xBF

theorem Partial.continues_of_ofOctet {b : Nat} {p : Partial} (h : Lead.ofOctet b = .multi p) :
    p.Continues := by
  simp only [Lead.ofOctet] at h
  repeat' split at h
  all_goals simp only [reduceCtorEq, Lead.multi.injEq] at h
  all_goals
    subst h
    constructor <;> simp

/-- The octets of a character start with one that continues none. -/
theorem exists_encodeChar_eq_cons (c : Char) :
    ∃ b rest, encodeChar c = b :: rest ∧ (b < 0x80 ∨ 0xBF < b) := by
  unfold encodeChar
  dsimp only
  repeat' split
  all_goals exact ⟨_, _, rfl, by omega⟩

/-- A character that is not continued is given up, and the reading starts anew. -/
theorem decodeFrom_some_of_not_continued {p : Partial} {b : Nat} (h : ¬ (p.low ≤ b ∧ b ≤ p.high))
    (rest : List Nat) :
    decodeFrom (some p) (b :: rest) = replacement :: decodeFrom none (b :: rest) := by
  simp only [decodeFrom, if_neg h]

/-- A whole character is read as such, whatever octets stand around it. -/
theorem decodeFrom_append_encodeChar (c : Char) (rest octets : List Nat) {under : Option Partial}
    (hunder : ∀ p, under = some p → p.Continues) :
    decodeFrom under (octets ++ (encodeChar c ++ rest)) =
      decodeFrom under octets ++ c :: decodeFrom none rest := by
  -- along the octets in front, what is under way keeps waiting for a continuation
  induction octets generalizing under with
  | nil =>
    cases under with
    | none => exact decodeFrom_encodeChar_append c rest
    | some p =>
      obtain ⟨hlow, hhigh⟩ := hunder p rfl
      obtain ⟨b, others, hencode, hb⟩ := exists_encodeChar_eq_cons c
      have hread := decodeFrom_encodeChar_append c rest
      rw [hencode, List.cons_append] at hread
      rw [List.nil_append, hencode, List.cons_append,
        decodeFrom_some_of_not_continued (by omega), hread]
      rfl
  | cons b octets ih =>
    have hnone : decodeFrom none (octets ++ (encodeChar c ++ rest)) =
        decodeFrom none octets ++ c :: decodeFrom none rest := ih (by simp)
    have hsome {p : Partial} (hp : p.Continues) :
        decodeFrom (some p) (octets ++ (encodeChar c ++ rest)) =
          decodeFrom (some p) octets ++ c :: decodeFrom none rest :=
      ih fun q hq => Option.some.inj hq ▸ hp
    -- the octet is read anew where no character is under way or the one that is breaks off
    have hlead : decodeFrom none (b :: (octets ++ (encodeChar c ++ rest))) =
        decodeFrom none (b :: octets) ++ c :: decodeFrom none rest := by
      cases hb : Lead.ofOctet b with
      | whole d => simp only [decodeFrom, hb, hnone, List.cons_append]
      | multi p => simp only [decodeFrom, hb, hsome (Partial.continues_of_ofOctet hb)]
      | invalid => simp only [decodeFrom, hb, hnone, List.cons_append]
    rw [List.cons_append]
    cases under with
    | none => exact hlead
    | some p =>
      by_cases hrange : p.low ≤ b ∧ b ≤ p.high
      · by_cases hlast : p.missing = 1
        · simp only [decodeFrom, if_pos hrange, if_pos hlast, hnone, List.cons_append]
        · simp only [decodeFrom, if_pos hrange, if_neg hlast]
          exact hsome ⟨Nat.le_refl _, Nat.le_refl _⟩
      · rw [decodeFrom_some_of_not_continued hrange, decodeFrom_some_of_not_continued hrange,
          hlead, List.cons_append]

theorem decode_append_encodeChar (octets : List Nat) (c : Char) (rest : List Nat) :
    decode (octets ++ (encodeChar c ++ rest)) = decode octets ++ c :: decode rest :=
  decodeFrom_append_encodeChar c rest octets (by simp)

end Utf8

namespace Percent

/-! ## Where a text with escapes may be cut -/

/-- A character of one octet, such as all that escapes are made of. -/
def isAscii (c : Char) : Bool := decide (c.toNat < 0x80)

theorem hexValue?_of_not_isAscii {c : Char} (h : isAscii c = false) : hexValue? c = none := by
  cases hvalue : hexValue? c with
  | none => rfl
  | some n =>
    have hrange := toNat_of_isSome_hexValue? (Option.isSome_of_eq_some hvalue)
    simp only [isAscii, decide_eq_false_iff_not] at h
    omega

/-- No escape starts right before a character that is no hexadecimal digit. -/
theorem octets_cons_of_head {c : Char} {rest : List Char}
    (h : ∀ d, rest.head? = some d → hexValue? d = none) :
    octets (c :: rest) = Utf8.encodeChar c ++ octets rest := by
  rcases rest with _ | ⟨d, _ | ⟨e, rest⟩⟩
  · simp [octets]
  · simp [octets]
  · simp [octets, escapedOctet?, h d rfl]

/-- A text may be cut before any character that is no hexadecimal digit, even inside an escape
that breaks off there. -/
theorem octets_append {left right : List Char}
    (h : ∀ d, right.head? = some d → hexValue? d = none) :
    octets (left ++ right) = octets left ++ octets right := by
  induction left using octets.induct with
  | case1 => rfl
  | case2 c => simpa [octets] using octets_cons_of_head h
  | case3 c d ih =>
    rw [List.singleton_append] at ih
    cases right with
    | nil => simp [octets]
    | cons e rest =>
      have hbroken : escapedOctet? d e = none := by
        cases hd : hexValue? d <;> simp [escapedOctet?, hd, h e rfl]
      simp only [List.cons_append, List.nil_append, octets, hbroken, ite_self, ih,
        List.append_assoc]
  | case4 c high low rest b hescape ih =>
    simp only [List.cons_append, octets, hescape, ih]
  | case5 c high low rest hescape ih =>
    simp only [List.cons_append] at ih
    simp only [List.cons_append, octets, hescape, ih, List.append_assoc]

/-! ## Characters beyond ASCII -/

section
variable {c : Char}

/-- **A text is read run by run:** a character beyond ASCII stands for itself, and what is in
front of it is read without regard to what comes after it. -/
theorem unescape_append_cons (hc : isAscii c = false) (left right : List Char) :
    unescape (left ++ c :: right) = unescape left ++ c :: unescape right := by
  have hne : c ≠ '%' := by
    rintro rfl
    exact Bool.false_ne_true (hc.symm.trans (by decide))
  have hcut : ∀ d, (c :: right).head? = some d → hexValue? d = none := by
    rintro d ⟨⟩
    exact hexValue?_of_not_isAscii hc
  rw [unescape, octets_append hcut, octets_cons_of_ne hne, Utf8.decode_append_encodeChar]
  rfl

/-- The same holds of a character that is escaped. -/
theorem unescape_append_escapeChar (hc : isAscii c = false) (left right : List Char) :
    unescape (left ++ (escapeChar isAscii c ++ right)) = unescape left ++ c :: unescape right := by
  have hescape : escapeChar isAscii c = (Utf8.encodeChar c).flatMap escapeOctet :=
    if_neg (by simp [hc])
  have hcut : ∀ d, (escapeChar isAscii c ++ right).head? = some d → hexValue? d = none := by
    obtain ⟨b, rest, hencode, _⟩ := Utf8.exists_encodeChar_eq_cons c
    rw [hescape, hencode]
    rintro d ⟨⟩
    decide
  rw [unescape, octets_append hcut, hescape,
    octets_flatMap_escapeOctet_append fun b hb => Utf8.lt_of_mem_encodeChar hb,
    Utf8.decode_append_encodeChar]
  rfl

end

/-- The text with the escapes of each run of ASCII resolved by itself, where `run` is what was
seen of the current one, the last character first. -/
def unescapeRuns (run : List Char) : List Char → List Char
  | [] => unescape run.reverse
  | c :: rest =>
    if isAscii c then unescapeRuns (c :: run) rest
    else unescape run.reverse ++ c :: unescapeRuns [] rest

theorem unescapeRuns_eq (run cs : List Char) :
    unescapeRuns run cs = unescape (run.reverse ++ cs) := by
  induction cs generalizing run with
  | nil => rw [unescapeRuns, List.append_nil]
  | cons c rest ih =>
    cases hc : isAscii c with
    | true =>
      rw [unescapeRuns, if_pos hc, ih, List.reverse_cons, List.append_assoc,
        List.singleton_append]
    | false =>
      rw [unescapeRuns, if_neg (by simp [hc]), ih, unescape_append_cons hc]
      rfl

/-- **Raw or escaped, characters beyond ASCII are read alike,** among escapes that are whole,
broken off or no UTF-8. -/
theorem unescape_escape_isAscii (cs : List Char) : unescape (escape isAscii cs) = unescape cs := by
  -- an escape may begin in what was already gone through, so that has to be kept in front
  have hfront (left : List Char) :
      unescape (left ++ escape isAscii cs) = unescape (left ++ cs) := by
    induction cs generalizing left with
    | nil => rfl
    | cons c rest ih =>
      have hcons : escape isAscii (c :: rest) = escapeChar isAscii c ++ escape isAscii rest :=
        List.flatMap_cons
      rw [hcons]
      cases hc : isAscii c with
      | true =>
        have hraw : escapeChar isAscii c = [c] := if_pos hc
        rw [hraw, ← List.append_assoc, ih, List.append_assoc, List.singleton_append]
      | false =>
        have hrest := ih []
        rw [List.nil_append, List.nil_append] at hrest
        rw [unescape_append_escapeChar hc, unescape_append_cons hc, hrest]
  exact hfront []

end Percent

end MailConnection.Text
