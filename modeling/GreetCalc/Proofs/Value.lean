import GreetCalc.Value

/-!
# Tables with distinct keys

In a table that has each of its keys once, an entry is what stands under its key, so the order of
the entries does not matter to a look-up.
-/

namespace GreetCalc.Table

variable {t t' : Table} {k : String}

theorem mem_of_get? {v : Value} (h : t.get? k = some v) : (k, v) ∈ t := by
  obtain ⟨before, after, rfl, -⟩ := List.lookup_eq_some_iff.mp h
  exact List.mem_append_right _ List.mem_cons_self

/-- In a table without repeated keys, looking up is the same as being an entry. -/
theorem get?_eq_some_iff (hkeys : (t.map Prod.fst).Nodup) {v : Value} :
    t.get? k = some v ↔ (k, v) ∈ t := by
  refine ⟨mem_of_get?, ?_⟩
  intro h
  obtain ⟨before, after, rfl⟩ := List.append_of_mem h
  rw [List.map_append, List.map_cons] at hkeys
  have hbefore : ∀ e ∈ before, (k != e.1) = true := by
    intro e he
    have hne : e.1 ≠ k :=
      (List.nodup_append.mp hkeys).2.2 e.1 (List.mem_map_of_mem he) k List.mem_cons_self
    simpa using hne.symm
  exact List.lookup_eq_some_iff.mpr ⟨before, after, rfl, hbefore⟩

theorem get?_perm (h : t'.Perm t) (hkeys : (t.map Prod.fst).Nodup) : t'.get? k = t.get? k := by
  have hkeys' : (t'.map Prod.fst).Nodup := (h.map Prod.fst).nodup_iff.mpr hkeys
  apply Option.ext
  intro v
  rw [get?_eq_some_iff hkeys', get?_eq_some_iff hkeys, h.mem_iff]

end GreetCalc.Table
