import GreetCalc.FileTree

/-!
# The same files

Two file trees hold the same files if the same stands at every location, in whatever order they
came to be put there (`FileTree.Same`). Changes keep this, and a look-up cannot tell such trees
apart (`Same.find`).
-/

namespace GreetCalc

section Entries

variable {α β : Type} [BEq α] [LawfulBEq α] [DecidableEq α]

theorem lookup_cons_ite (xs : List (α × β)) (key k : α) (value : β) :
    ((key, value) :: xs).lookup k = if k = key then some value else xs.lookup k := by
  rw [List.lookup_cons]
  by_cases hk : k = key
  · simp [hk]
  · rw [if_neg hk, beq_false_of_ne hk]

/-- Removing the entries of a key hides this key and no other. -/
theorem lookup_filter_bne (xs : List (α × β)) (l k : α) :
    (xs.filter fun (key, _) => key != l).lookup k = if k = l then none else xs.lookup k := by
  induction xs with
  | nil => simp
  | cons x xs ih =>
      obtain ⟨key, value⟩ := x
      by_cases hkey : key = l
      · rw [List.filter_cons_of_neg (by simpa using hkey), ih, lookup_cons_ite]
        grind
      · rw [List.filter_cons_of_pos (by simpa using hkey), lookup_cons_ite, lookup_cons_ite, ih]
        grind

end Entries

namespace FileTree

/-- After something was put at a location, this stands there and all else is as it was. -/
theorem node?_set (t : FileTree) (l k : Location) (n : Node) :
    (t.set l n).node? k = if k = [] then some .directory else if k = l then some n
      else t.node? k := by
  unfold node? set
  by_cases hk : k = []
  · simp [hk]
  · rw [if_neg hk, if_neg hk, if_neg hk, lookup_cons_ite, lookup_filter_bne]
    grind

/-- After a removal nothing stands at the location and all else is as it was. -/
theorem node?_remove (t : FileTree) (l k : Location) :
    (t.remove l).node? k = if k = [] then some .directory else if k = l then none
      else t.node? k := by
  unfold node? remove
  by_cases hk : k = []
  · simp [hk]
  · rw [if_neg hk, if_neg hk, if_neg hk, lookup_filter_bne]

/-- The same stands at every location. -/
def Same (t u : FileTree) : Prop := ∀ l, t.node? l = u.node? l

namespace Same

variable {t u : FileTree}

theorem set (h : Same t u) (l : Location) (n : Node) : Same (t.set l n) (u.set l n) := by
  intro k
  rw [node?_set, node?_set, h k]

theorem remove (h : Same t u) (l : Location) : Same (t.remove l) (u.remove l) := by
  intro k
  rw [node?_remove, node?_remove, h k]

theorem ensureDirectory (h : Same t u) (l : Location) :
    Same (t.ensureDirectory l) (u.ensureDirectory l) := by
  unfold FileTree.ensureDirectory
  rw [h l]
  split
  · exact h
  · exact h.set l .directory

theorem put (h : Same t u) (l : Location) (n : Node) : Same (t.put l n) (u.put l n) := by
  have hparents : ∀ ls : List Location,
      Same (ls.foldl FileTree.ensureDirectory t) (ls.foldl FileTree.ensureDirectory u) := by
    intro ls
    induction ls generalizing t u with
    | nil => exact h
    | cons l ls ih => exact ih (h.ensureDirectory l)
  exact (hparents (parents l)).set l n

/-- A look-up sees nothing of a tree but what stands at its locations. -/
theorem walk (h : Same t u) (l : Location) (names : List String) :
    t.walk l names = u.walk l names := by
  induction names generalizing l with
  | nil => rw [FileTree.walk, FileTree.walk, h l]
  | cons name names ih => rw [FileTree.walk, FileTree.walk, h l, ih, ih]

theorem find (h : Same t u) (current : Location) (p : Path) :
    t.find current p = u.find current p := by
  rw [FileTree.find, FileTree.find, h.walk]

end Same

end FileTree

end GreetCalc
