/-!
# The parts of a connection string

A connection string is `scheme://authority path ?query #fragment`, the last three
of which may be missing.  `split?` takes a text apart, `Parts.text` puts the parts
together, and `Parts.Legal` says which characters each part may hold.

The main statement is `split?_eq_some_iff`: the parts found in a text are the only
legal ones that make it up.  It is put together from one lemma for each cut: at the
marks in front of the path (`split?_of_hierarchy`, `split?_hierarchy`), at the query
(`splitTail?_eq_some_iff`) and at the fragment (`splitFragment?_eq_some_iff`).
-/

namespace MailConnection.ConnectionString

/-- The parts of a connection string, as they are written. -/
structure Parts where
  scheme : List Char
  authority : List Char
  path : List Char
  query : Option (List Char)
  fragment : Option (List Char)
deriving DecidableEq, Repr

/-! ## Characters -/

/-- A character that may stand in a scheme. -/
def inScheme (c : Char) : Bool := c != ':' && c != '/' && c != '?' && c != '#'

/-- A character that may stand in an authority. -/
def inAuthority (c : Char) : Bool := c != '/' && c != '?' && c != '#'

/-- A character that may stand in a path. -/
def inPath (c : Char) : Bool := c != '?' && c != '#'

/-- A character that may stand in a query. -/
def inQuery (c : Char) : Bool := c != '#'

/-- A fragment holds no line feed, unless it ends in one. -/
def isFragment (cs : List Char) : Bool := !cs.dropLast.contains '\n'

/-! ## Putting together -/

/-- A part after its mark, if there is one. -/
def marked (mark : Char) : Option (List Char) → List Char
  | none => []
  | some cs => mark :: cs

/-- The connection string with these parts. -/
def Parts.text (parts : Parts) : List Char :=
  parts.scheme ++ ':' :: '/' :: '/' :: (parts.authority ++
    (parts.path ++ (marked '?' parts.query ++ marked '#' parts.fragment)))

/-- Every part holds characters of its own only. -/
structure Parts.Legal (parts : Parts) : Prop where
  scheme_ne_nil : parts.scheme ≠ []
  scheme_all : parts.scheme.all inScheme
  authority_all : parts.authority.all inAuthority
  path_all : parts.path.all inPath
  path_head : ∀ c, parts.path.head? = some c → c = '/'
  query_all : ∀ q, parts.query = some q → q.all inQuery
  fragment_ok : ∀ f, parts.fragment = some f → isFragment f

/-! ## Taking apart -/

/-- The fragment in what follows a query. -/
def splitFragment? : List Char → Option (Option (List Char))
  | [] => some none
  | '#' :: fragment => if isFragment fragment then some (some fragment) else none
  | _ => none

/-- The query and the fragment in what follows a path. -/
def splitTail? : List Char → Option (Option (List Char) × Option (List Char))
  | '?' :: r =>
    (splitFragment? (r.dropWhile inQuery)).map fun fragment =>
      (some (r.takeWhile inQuery), fragment)
  | cs => (splitFragment? cs).map fun fragment => (none, fragment)

/-- The parts of a connection string. -/
def split? (cs : List Char) : Option Parts :=
  let scheme := cs.takeWhile inScheme
  match cs.dropWhile inScheme with
  | ':' :: '/' :: '/' :: rest =>
    let hierarchy := rest.dropWhile inAuthority
    if scheme = [] then none
    else
      (splitTail? (hierarchy.dropWhile inPath)).map fun (query, fragment) =>
        { scheme := scheme
          authority := rest.takeWhile inAuthority
          path := hierarchy.takeWhile inPath
          query := query
          fragment := fragment }
  | _ => none

/-! ## One reading -/

theorem takeWhile_append_of_all {p : Char → Bool} {left : List Char}
    (hall : left.all p = true) (right : List Char)
    (hstop : ∀ c, right.head? = some c → p c = false) :
    (left ++ right).takeWhile p = left ∧ (left ++ right).dropWhile p = right := by
  induction left with
  | nil =>
    cases right with
    | nil => simp
    | cons c r => simp [hstop c rfl]
  | cons c r ih =>
    simp only [List.all_cons, Bool.and_eq_true] at hall
    have := ih hall.2
    simp [hall.1, this]

theorem head?_dropWhile_neg {p : Char → Bool} {cs : List Char} {c : Char}
    (h : (cs.dropWhile p).head? = some c) : p c = false := by
  have hstop := List.head?_dropWhile_not p cs
  rwa [h] at hstop

theorem head?_marked {mark c : Char} {part : Option (List Char)}
    (h : (marked mark part).head? = some c) : c = mark := by
  cases part with
  | none => cases h
  | some cs => exact (Option.some.inj h).symm

theorem splitFragment?_eq_some_iff {cs : List Char} {fragment : Option (List Char)} :
    splitFragment? cs = some fragment ↔
      cs = marked '#' fragment ∧ ∀ f, fragment = some f → isFragment f := by
  constructor
  · fun_cases splitFragment? cs with
    | case1 =>
      rintro ⟨⟩
      exact ⟨rfl, by simp⟩
    | case2 f hok =>
      rintro ⟨⟩
      exact ⟨rfl, by simp [hok]⟩
    | case3 | case4 => rintro ⟨⟩
  · rintro ⟨rfl, hok⟩
    cases fragment with
    | none => rfl
    | some f => exact if_pos (hok f rfl)

theorem splitTail?_of_not_query {cs : List Char} (h : ∀ r, cs ≠ '?' :: r) :
    splitTail? cs = (splitFragment? cs).map fun fragment => (none, fragment) := by
  unfold splitTail?
  split
  · exact absurd rfl (h _)
  · rfl

theorem splitTail?_eq_some_iff {cs : List Char} {query fragment : Option (List Char)} :
    splitTail? cs = some (query, fragment) ↔
      cs = marked '?' query ++ marked '#' fragment ∧
        (∀ q, query = some q → q.all inQuery) ∧ (∀ f, fragment = some f → isFragment f) := by
  constructor
  · fun_cases splitTail? cs with
    | case1 r =>
      intro h
      obtain ⟨_, hfragment, ⟨⟩⟩ := Option.map_eq_some_iff.mp h
      obtain ⟨hrest, hok⟩ := splitFragment?_eq_some_iff.mp hfragment
      refine ⟨?_, ?_, hok⟩
      · rw [← hrest, marked, List.cons_append, List.takeWhile_append_dropWhile]
      · rintro _ ⟨⟩
        exact List.all_takeWhile
    | case2 cs hnot =>
      intro h
      obtain ⟨_, hfragment, ⟨⟩⟩ := Option.map_eq_some_iff.mp h
      obtain ⟨hrest, hok⟩ := splitFragment?_eq_some_iff.mp hfragment
      exact ⟨hrest, by simp, hok⟩
  · rintro ⟨rfl, hquery, hok⟩
    have hfragment := splitFragment?_eq_some_iff.mpr ⟨rfl, hok⟩
    cases query with
    | none =>
      -- a fragment is not taken for a query
      have hnot : ∀ r, marked '#' fragment ≠ '?' :: r := by
        intro r hr
        exact absurd (head?_marked (by rw [hr]; rfl)) (by decide)
      rw [marked, List.nil_append, splitTail?_of_not_query hnot, hfragment]
      rfl
    | some q =>
      obtain ⟨htake, hdrop⟩ := takeWhile_append_of_all (hquery q rfl) (marked '#' fragment)
        fun c hc => by rw [head?_marked hc]; rfl
      rw [marked, List.cons_append, splitTail?, htake, hdrop, hfragment]
      rfl

/-- What follows a path does not go on with it. -/
theorem head?_tail_inPath {query fragment : Option (List Char)} (c : Char)
    (h : (marked '?' query ++ marked '#' fragment).head? = some c) : inPath c = false := by
  cases query with
  | none =>
    rw [marked, List.nil_append] at h
    rw [head?_marked h]
    rfl
  | some q =>
    obtain rfl : '?' = c := Option.some.inj h
    rfl

theorem split?_of_hierarchy {cs rest : List Char}
    (h : cs.dropWhile inScheme = ':' :: '/' :: '/' :: rest) :
    split? cs =
      if cs.takeWhile inScheme = [] then none
      else (splitTail? ((rest.dropWhile inAuthority).dropWhile inPath)).map
        fun (query, fragment) =>
          ⟨cs.takeWhile inScheme, rest.takeWhile inAuthority,
            (rest.dropWhile inAuthority).takeWhile inPath, query, fragment⟩ := by
  simp only [split?, h]

theorem split?_of_no_hierarchy {cs : List Char}
    (h : ∀ rest, cs.dropWhile inScheme ≠ ':' :: '/' :: '/' :: rest) : split? cs = none := by
  unfold split?
  split
  · rename_i rest hrest
    exact absurd hrest (h rest)
  · rfl

/-- What ends an authority and starts a path is a slash. -/
theorem head?_path (rest : List Char) :
    ∀ c, ((rest.dropWhile inAuthority).takeWhile inPath).head? = some c → c = '/' := by
  intro c hc
  cases hhierarchy : rest.dropWhile inAuthority with
  | nil => simp [hhierarchy] at hc
  | cons first others =>
    have hend : inAuthority first = false := head?_dropWhile_neg (by rw [hhierarchy]; rfl)
    rw [hhierarchy, List.takeWhile_cons] at hc
    split at hc
    · rename_i hinside
      obtain rfl : first = c := by simpa using hc
      simp only [inPath, Bool.and_eq_true] at hinside
      simpa [inAuthority, hinside] using hend
    · simp at hc

/-- The pieces that a text is cut into make it up. -/
theorem eq_hierarchy {cs rest : List Char} (h : cs.dropWhile inScheme = ':' :: '/' :: '/' :: rest) :
    cs = cs.takeWhile inScheme ++ ':' :: '/' :: '/' :: (rest.takeWhile inAuthority ++
      ((rest.dropWhile inAuthority).takeWhile inPath ++
        (rest.dropWhile inAuthority).dropWhile inPath)) := by
  rw [List.takeWhile_append_dropWhile, List.takeWhile_append_dropWhile, ← h,
    List.takeWhile_append_dropWhile]

/-- A text is cut where its authority and its path end. -/
theorem split?_hierarchy {scheme authority path tail : List Char}
    (hscheme : scheme.all inScheme = true) (hauthority : authority.all inAuthority = true)
    (hpath : path.all inPath = true) (hhead : ∀ c, path.head? = some c → c = '/')
    (htail : ∀ c, tail.head? = some c → inPath c = false) :
    split? (scheme ++ ':' :: '/' :: '/' :: (authority ++ (path ++ tail))) =
      if scheme = [] then none
      else (splitTail? tail).map fun (query, fragment) =>
        ⟨scheme, authority, path, query, fragment⟩ := by
  have hend : ∀ c, (path ++ tail).head? = some c → inAuthority c = false := by
    intro c hc
    cases path with
    | nil =>
      have hinside := htail c hc
      simp only [inPath, Bool.and_eq_false_iff] at hinside
      rcases hinside with hinside | hinside <;> simp [inAuthority, hinside]
    | cons first rest =>
      obtain rfl := hhead first rfl
      obtain rfl : '/' = c := by simpa using hc
      rfl
  obtain ⟨htake, hdrop⟩ := takeWhile_append_of_all hscheme
    (':' :: '/' :: '/' :: (authority ++ (path ++ tail))) (by rintro c ⟨⟩; rfl)
  obtain ⟨htake', hdrop'⟩ := takeWhile_append_of_all hauthority (path ++ tail) hend
  obtain ⟨htake'', hdrop''⟩ := takeWhile_append_of_all hpath tail htail
  simp only [split?, htake, hdrop, htake', hdrop', htake'', hdrop'']

/-- **A connection string has one reading.**  The parts that are found are legal and
make up the text, and no other legal parts do. -/
theorem split?_eq_some_iff {cs : List Char} {parts : Parts} :
    split? cs = some parts ↔ cs = parts.text ∧ parts.Legal := by
  constructor
  · fun_cases split? cs with
    | case1 | case3 => rintro ⟨⟩
    | case2 scheme rest hrest hierarchy hne =>
      intro h
      obtain ⟨⟨query, fragment⟩, htail, rfl⟩ := Option.map_eq_some_iff.mp h
      obtain ⟨htext, hquery, hfragment⟩ := splitTail?_eq_some_iff.mp htail
      refine ⟨?_, hne, List.all_takeWhile, List.all_takeWhile, List.all_takeWhile, head?_path rest,
        hquery, hfragment⟩
      rw [Parts.text, ← htext]
      exact eq_hierarchy hrest
  · rintro ⟨rfl, legal⟩
    have htail := splitTail?_eq_some_iff.mpr ⟨rfl, legal.query_all, legal.fragment_ok⟩
    rw [Parts.text, split?_hierarchy legal.scheme_all legal.authority_all legal.path_all
      legal.path_head head?_tail_inPath, if_neg legal.scheme_ne_nil, htail]
    rfl

end MailConnection.ConnectionString
