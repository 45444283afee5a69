import MailConnection.Binary64

/-!
# Values read from documents

A configuration document, an environment variable in JSON or a stored row
yields a `Value`: a tree of texts, numbers, lists and records whose shape is not
known in advance.  Fields are checked against what is expected of them later.

Records keep their entries in the order in which the keys first occurred; a key
that occurs again replaces the value (`setEntry`, with `lookup_setEntry` and
`lookup_setEntry_of_ne` for what is found afterwards).
-/

namespace MailConnection

/-- Data of unknown shape. -/
inductive Value where
  | null
  | bool (b : Bool)
  | int (n : Int)
  | real (x : Binary64)
  | text (s : String)
  | octets (bs : List Nat)
  | moment (s : String)
  | list (items : List Value)
  | record (entries : List (Value × Value))
deriving Repr, Inhabited

namespace Value

/-! ## Sameness -/

mutual

/-- Whether two values are the same. -/
def same : Value → Value → Bool
  | .null, .null => true
  | .bool a, .bool b => a == b
  | .int m, .int n => m == n
  | .real x, .real y => x == y
  | .text s, .text t => s == t
  | .octets bs, .octets cs => bs == cs
  | .moment s, .moment t => s == t
  | .list items, .list others => sameItems items others
  | .record entries, .record others => sameEntries entries others
  | _, _ => false
termination_by structural value => value

/-- Whether two lists have the same items. -/
def sameItems : List Value → List Value → Bool
  | [], [] => true
  | a :: items, b :: others => same a b && sameItems items others
  | _, _ => false
termination_by structural items => items

/-- Whether two records have the same entries in the same order. -/
def sameEntries : List (Value × Value) → List (Value × Value) → Bool
  | [], [] => true
  | a :: entries, b :: others => sameEntry a b && sameEntries entries others
  | _, _ => false
termination_by structural entries => entries

/-- Whether two entries have the same key and the same value. -/
def sameEntry : Value × Value → Value × Value → Bool
  | (k, v), (l, w) => same k l && same v w
termination_by structural entry => entry

end

mutual

theorem same_iff : ∀ a b : Value, same a b = true ↔ a = b
  | .null, b | .bool _, b | .int _, b | .real _, b | .text _, b | .octets _, b | .moment _, b => by
    cases b <;> simp [same]
  | .list items, b => by
    cases b with
    | list others => simp [same, sameItems_iff items others]
    | _ => simp [same]
  | .record entries, b => by
    cases b with
    | record others => simp [same, sameEntries_iff entries others]
    | _ => simp [same]
termination_by structural value => value

theorem sameItems_iff : ∀ items others : List Value, sameItems items others = true ↔ items = others
  | [], others => by cases others <;> simp [sameItems]
  | a :: items, others => by
    cases others with
    | nil => simp [sameItems]
    | cons b others => simp [sameItems, same_iff a b, sameItems_iff items others]
termination_by structural items => items

theorem sameEntries_iff : ∀ entries others : List (Value × Value),
    sameEntries entries others = true ↔ entries = others
  | [], others => by cases others <;> simp [sameEntries]
  | a :: entries, others => by
    cases others with
    | nil => simp [sameEntries]
    | cons b others => simp [sameEntries, sameEntry_iff a b, sameEntries_iff entries others]
termination_by structural entries => entries

theorem sameEntry_iff : ∀ a b : Value × Value, sameEntry a b = true ↔ a = b
  | (k, v), (l, w) => by simp [sameEntry, same_iff k l, same_iff v w]
termination_by structural entry => entry

end

instance : DecidableEq Value := fun a b => decidable_of_iff (same a b = true) (same_iff a b)

/-! ## Keys -/

/-- The number that a truth value or a whole number is as a key. -/
private def wholeKey? : Value → Option Int
  | .bool b => some (if b then 1 else 0)
  | .int n => some n
  | .real x => x.toInt?
  | _ => none

/-- Whether two values are the same key.  Truth values and numbers with the same
numerical value are. -/
def sameKey (a b : Value) : Bool :=
  match wholeKey? a, wholeKey? b with
  | some m, some n => m == n
  | none, none =>
    match a, b with
    | .null, .null => true
    | .text s, .text t => s == t
    | .octets s, .octets t => s == t
    | .moment s, .moment t => s == t
    | .real x, .real y => x == y
    | _, _ => false
  | _, _ => false

/-- The entries with the value of a key replaced, or added at the end. -/
def setEntry {α : Type} (key : Value) (value : α) : List (Value × α) → List (Value × α)
  | [] => [(key, value)]
  | (k, v) :: rest =>
    if sameKey k key then (k, value) :: rest else (k, v) :: setEntry key value rest

/-- The entries that a row of keys and values leaves, later ones replacing earlier ones. -/
def ofEntries {α : Type} (entries : List (Value × α)) : List (Value × α) :=
  entries.foldl (fun acc (k, v) => setEntry k v acc) []

/-- The value of the first entry with a text as its key. -/
def lookup (name : String) : List (Value × Value) → Option Value
  | [] => none
  | (k, v) :: rest => if sameKey k (.text name) then some v else lookup name rest

/-- The value of a field of a record; other values have no fields. -/
def field? (name : String) : Value → Option Value
  | .record entries => lookup name entries
  | _ => none

/-! ## Looking up after storing -/

theorem sameKey_text (s t : String) : sameKey (.text s) (.text t) = (s == t) := rfl

/-- Only a text is the same key as a text. -/
theorem sameKey_text_iff {key : Value} {s : String} :
    sameKey key (.text s) = true ↔ key = .text s := by
  cases key with
  | text t => simp [sameKey_text]
  | real x => cases h : x.toInt? <;> simp [sameKey, wholeKey?, h]
  | _ => simp [sameKey, wholeKey?]

theorem mem_of_lookup {name : String} {entries : List (Value × Value)} {value : Value}
    (h : lookup name entries = some value) : (.text name, value) ∈ entries := by
  induction entries with
  | nil => simp [lookup] at h
  | cons entry rest ih =>
    obtain ⟨key, first⟩ := entry
    simp only [lookup] at h
    split at h
    · rename_i hkey
      obtain rfl := sameKey_text_iff.1 hkey
      obtain rfl := Option.some.inj h
      exact List.mem_cons_self
    · exact List.mem_cons_of_mem _ (ih h)

theorem lookup_append (name : String) (before after : List (Value × Value)) :
    lookup name (before ++ after) = (lookup name before).or (lookup name after) := by
  induction before with
  | nil => rfl
  | cons entry rest ih =>
    obtain ⟨k, v⟩ := entry
    by_cases h : sameKey k (.text name) = true
    · simp [lookup, h]
    · simp [lookup, h, ih]

theorem lookup_setEntry (name : String) (value : Value) (entries : List (Value × Value)) :
    lookup name (setEntry (.text name) value entries) = some value := by
  induction entries with
  | nil => simp [setEntry, lookup, sameKey, wholeKey?]
  | cons entry rest ih =>
    obtain ⟨k, v⟩ := entry
    by_cases h : sameKey k (.text name) = true
    · simp [setEntry, lookup, h]
    · simp [setEntry, lookup, h, ih]

/-- Storing under one name leaves what is found under another. -/
theorem lookup_setEntry_of_ne {name other : String} (hne : other ≠ name) (value : Value)
    (entries : List (Value × Value)) :
    lookup other (setEntry (.text name) value entries) = lookup other entries := by
  have hkey : sameKey (.text name) (.text other) = false := by
    rw [sameKey_text, beq_eq_false_iff_ne]
    exact hne.symm
  induction entries with
  | nil => simp [setEntry, lookup, hkey]
  | cons entry rest ih =>
    obtain ⟨k, v⟩ := entry
    by_cases h : sameKey k (.text name) = true
    · obtain rfl := sameKey_text_iff.1 h
      simp [setEntry, lookup, sameKey_text, beq_eq_false_iff_ne.2 hne.symm]
    · simp [setEntry, lookup, h, ih]

end Value

end MailConnection
