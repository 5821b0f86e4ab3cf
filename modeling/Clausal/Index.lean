import Std.Data.HashMap

/-!
# Indexes

An index finds the entry of a list that has a given key without going through the list.  It
belongs to one list and is determined by it; of several entries with the same key it finds
the first.
-/

namespace Clausal

variable {ε α : Type} [BEq α] [Hashable α]

/-- The first entry for each key. -/
def tableOf (key : ε → α) : List ε → Std.HashMap α ε
  | [] => ∅
  | entry :: rest => (tableOf key rest).insert (key entry) entry

/-- The table of a list's entries by key. -/
structure Index (key : ε → α) (entries : List ε) where
  table : Std.HashMap α ε
  table_eq : table = tableOf key entries

namespace Index

variable {key : ε → α} {entries : List ε}

instance : DecidableEq (Index key entries) := fun a b =>
  isTrue (by cases a; cases b; simp_all)

def empty : Index key [] := ⟨∅, rfl⟩

/-- The index of a list with one more entry. -/
def cons (index : Index key entries) (entry : ε) : Index key (entry :: entries) :=
  ⟨index.table.insert (key entry) entry, by rw [index.table_eq]; rfl⟩

/-- The first entry with this key. -/
def find? (index : Index key entries) (wanted : α) : Option ε := index.table[wanted]?

def has (index : Index key entries) (wanted : α) : Bool := index.table.contains wanted

theorem find?_eq [LawfulBEq α] (index : Index key entries) (wanted : α) :
    index.find? wanted = entries.find? fun entry => key entry == wanted := by
  rw [find?, index.table_eq]
  induction entries with
  | nil => simp [tableOf]
  | cons entry rest ih =>
      rw [tableOf, Std.HashMap.getElem?_insert, List.find?_cons, ih ⟨_, rfl⟩]
      cases key entry == wanted <;> rfl

theorem has_eq [LawfulBEq α] (index : Index key entries) (wanted : α) :
    index.has wanted = entries.any fun entry => key entry == wanted := by
  rw [has, index.table_eq]
  induction entries with
  | nil => simp [tableOf]
  | cons entry rest ih =>
      rw [tableOf, Std.HashMap.contains_insert, List.any_cons, ih ⟨_, rfl⟩]

end Index

end Clausal
