/-
Finite tables: at most one value for each key.
-/

namespace MailReconciler

/-- A table as a list of its entries, one for each key. -/
structure Table (κ ν : Type) where
  entries : List (κ × ν)
deriving DecidableEq, Repr

namespace Table

variable {κ ν : Type} [DecidableEq κ]

/-- A table without entries. -/
def empty : Table κ ν := ⟨[]⟩

/-- The value of a key. -/
def get? (t : Table κ ν) (k : κ) : Option ν := (t.entries.find? (·.1 = k)).map (·.2)

/-- Whether a key has a value. -/
def has (t : Table κ ν) (k : κ) : Bool := (t.get? k).isSome

/-- Removes a key and its value. -/
def erase (t : Table κ ν) (k : κ) : Table κ ν := ⟨t.entries.filter (·.1 ≠ k)⟩

/-- Gives a key a value, in the place of the one that it has. -/
def insert (t : Table κ ν) (k : κ) (v : ν) : Table κ ν := ⟨(k, v) :: (t.erase k).entries⟩

@[simp] theorem get?_empty (k : κ) : (empty : Table κ ν).get? k = none := rfl

@[simp] theorem get?_erase_self (t : Table κ ν) (k : κ) : (t.erase k).get? k = none := by
  simp [get?, erase, List.find?_filter]

theorem get?_erase_of_ne (t : Table κ ν) {k l : κ} (h : l ≠ k) : (t.erase k).get? l = t.get? l := by
  obtain ⟨entries⟩ := t
  simp only [get?, erase]
  congr 1
  induction entries with
  | nil => rfl
  | cons e rest ih => by_cases he : e.1 = k <;> by_cases hl : e.1 = l <;> simp_all

@[simp] theorem get?_insert_self (t : Table κ ν) (k : κ) (v : ν) : (t.insert k v).get? k = some v := by
  simp [get?, insert]

theorem get?_insert_of_ne (t : Table κ ν) {k l : κ} (v : ν) (h : l ≠ k) : (t.insert k v).get? l = t.get? l := by
  have := get?_erase_of_ne t h
  simp_all [get?, insert, Ne.symm h]

end Table
end MailReconciler
