import CodeScribe.Text.Basic

/-! Dictionaries that keep the order in which their keys came. -/
namespace CodeScribe

/-- Entries in order. Every key occurs once when they are made by `insert`. -/
abbrev Dictionary (α : Type) := List (String × α)

namespace Dictionary
variable {α : Type}

/-- Sets the value of a key. A known key keeps its place, a new one comes last. -/
def insert (key : String) (value : α) : Dictionary α → Dictionary α
  | [] => [(key, value)]
  | (k, v) :: rest => if k = key then (key, value) :: rest else (k, v) :: insert key value rest

def find? (d : Dictionary α) (key : String) : Option α := d.lookup key

def contains (d : Dictionary α) (key : String) : Bool := (d.find? key).isSome

def keys (d : Dictionary α) : List String := d.map (·.1)

/-- Sets several values in order, so that the last one of a key counts. -/
def insertAll (entries : List (String × α)) (d : Dictionary α) : Dictionary α :=
  entries.foldl (fun acc (key, value) => insert key value acc) d

def sorted (d : Dictionary α) : Dictionary α :=
  d.mergeSort fun a b => Text.atMost a.1.toList b.1.toList

@[simp] theorem find?_insert_self (key : String) (value : α) (d : Dictionary α) :
    (insert key value d).find? key = some value := by
  induction d with
  | nil => simp [insert, find?]
  | cons entry rest ih =>
    obtain ⟨k, v⟩ := entry
    by_cases h : k = key
    · simp [insert, find?, h]
    · have hk : (key == k) = false := by simpa using Ne.symm h
      simpa [insert, find?, List.lookup_cons, h, hk] using ih

@[simp] theorem find?_insert_of_ne {key other : String} (h : other ≠ key) (value : α)
    (d : Dictionary α) : (insert key value d).find? other = d.find? other := by
  induction d with
  | nil =>
    have hk : (other == key) = false := by simpa using h
    simp [insert, find?, List.lookup_cons, hk]
  | cons entry rest ih =>
    obtain ⟨k, v⟩ := entry
    by_cases he : k = key
    · have hk : (other == key) = false := by simpa using h
      simp [insert, find?, List.lookup_cons, he, hk]
    · simp only [find?] at ih
      simp [insert, find?, List.lookup_cons, he, ih]

end Dictionary
end CodeScribe
