import GreetCalc.Greeter.Kept
import GreetCalc.Proofs.FileTree

/-!
# What can be done to a kept greeter

Putting a value under a key and taking one away are refused or do one of a few things, which
`Put` and `delete_ok` list. Two properties of a greeter follow from the list:

* `Carries g t`: the plain keys of `g`, those that are no marks, hold what they hold in the table
  `t`. Only a table put in the place of all fields can change this (`Put.carries`), and the greeting
  depends on nothing else (`Carries.greet_eq`).
* `AsMade g n`: the greeter counts as one that has just been made with the name `n`. It takes a
  table of fields or one of three more marks to change this (`Put.asMade`). Among such greeters,
  being equal means having the same name (`AsMade.equals_eq`).
-/

namespace GreetCalc

/-- After a value was put under a key, it stands there and all else is as it was. -/
theorem Table.get?_set (t : Table) (k key : String) (v : Value) :
    Table.get? (t.set k v) key = if key = k then some v else t.get? key := by
  unfold Table.get?
  induction t with
  | nil => rw [Table.set, lookup_cons_ite]
  | cons e t ih =>
      obtain ⟨k', w⟩ := e
      rw [Table.set]
      by_cases hk' : k' = k
      · subst hk'
        rw [if_pos rfl, lookup_cons_ite, lookup_cons_ite]
        by_cases hk : key = k' <;> simp [hk]
      · rw [if_neg hk', lookup_cons_ite, lookup_cons_ite, ih]
        by_cases hk : key = k'
        · subst hk
          simp [hk']
        · simp [hk]

namespace KeptGreeter

/-! ## Putting and taking away -/

/-- What putting a value under a key can make of a greeter. -/
inductive Put (g : KeptGreeter) (key : String) (v : Value) : KeptGreeter → Prop
  | fields {t : Table} : key = Part.fields.key → v = .table t → Put g key v { g with fields := t }
  /-- Nothing changes that is ever looked at. -/
  | noted : key = Part.noted.key → Put g key v g
  | spare : key = Part.spare.key → Put g key v { g with spare := v }
  | hidden : key = Part.hidden.key → Put g key v { g with hidden := v }
  | stored : isMark key = true → Part.ofKey? key = none →
      Put g key v { g with fields := g.fields.set key v }

variable {g g' : KeptGreeter} {key : String} {v : Value}

theorem key_of_ofKey? {part : Part} (h : Part.ofKey? key = some part) : key = part.key := by
  have := List.find?_some h
  exact (beq_iff_eq.mp this).symm

/-- What is put in the place of a part goes by one of the rules. -/
theorem put_of_replace {part : Part} (hkey : key = part.key) (h : g.replace v part = .ok g') :
    Put g key v g' := by
  cases part with
  | fields =>
      cases v with
      | table t =>
          cases h
          exact .fields hkey rfl
      | _ => cases h
  | noted =>
      cases h
      exact .noted hkey
  | spare =>
      cases h
      exact .spare hkey
  | hidden =>
      cases h
      exact .hidden hkey
  | _ => cases h

/-- Putting a value under a key does one of the things that `Put` lists, if it is not refused. -/
theorem put_of_set (h : g.set key v = .ok g') : Put g key v g' := by
  unfold set at h
  cases hsetters : g.passSetters key with
  | error fault => rw [hsetters] at h; cases h
  | ok _ =>
    cases hsetter : g.passSetter with
    | error fault => rw [hsetters, hsetter] at h; cases h
    | ok _ =>
      rw [hsetters, hsetter] at h
      replace h : (if isMark key = true then g.mark key v
        else .error (.frozen (Greeter.frozenReport key v))) = .ok g' := h
      by_cases hmark : isMark key = true
      · rw [if_pos hmark, mark] at h
        cases hpart : Part.ofKey? key with
        | none =>
            rw [hpart] at h
            cases h
            exact .stored hmark hpart
        | some part =>
            rw [hpart] at h
            exact put_of_replace (key_of_ofKey? hpart) h
      · rw [if_neg hmark] at h
        cases h

/-- A table that is put under the mark of the fields is what the fields are then. -/
theorem Put.fields_eq {t : Table} (h : Put g Part.fields.key (.table t) g') : g'.fields = t := by
  cases h with
  | fields _ hv =>
      cases hv
      rfl
  | stored _ hpart => cases hpart
  | noted hkey => exact absurd hkey (by decide)
  | spare hkey => exact absurd hkey (by decide)
  | hidden hkey => exact absurd hkey (by decide)

theorem Put.isMark (h : Put g key v g') : isMark key = true := by
  cases h with
  | stored hmark => exact hmark
  | fields hkey => rw [hkey]; rfl
  | noted hkey => rw [hkey]; rfl
  | spare hkey => rw [hkey]; rfl
  | hidden hkey => rw [hkey]; rfl

/-- Taking something away concerns hidden values only. -/
theorem delete_ok (h : g.delete key = .ok g') :
    ∃ w, g.hidden.without key = .ok w ∧ g' = { g with hidden := w } := by
  unfold delete at h
  cases hhides : g.hides key with
  | error fault => rw [hhides] at h; cases h
  | ok b =>
    rw [hhides] at h
    cases b with
    | false => cases h
    | true =>
      replace h : (fieldAnswered key (g.hidden.without key) >>= fun hidden =>
        Except.ok { g with hidden := hidden }) = .ok g' := h
      cases hwithout : g.hidden.without key with
      | error fault =>
          rw [hwithout] at h
          cases fault <;> cases h
      | ok w =>
          rw [hwithout] at h
          cases h
          exact ⟨w, rfl, rfl⟩

/-! ## Plain keys -/

/-- The plain keys of a greeter hold what they hold in a table. -/
def Carries (g : KeptGreeter) (t : Table) : Prop :=
  ∀ key, isMark key = false → g.fields.get? key = t.get? key

theorem carries_fields (g : KeptGreeter) : g.Carries g.fields := fun _ _ => rfl

/-- Only a new table of fields changes what the plain keys hold. -/
theorem Put.carries (h : Put g key v g')
    (hfields : key = Part.fields.key → ∀ t, v ≠ .table t) {t : Table} (hg : g.Carries t) :
    g'.Carries t := by
  cases h with
  | fields hkey hv => exact absurd hv (hfields hkey _)
  | stored hmark =>
      intro k hk
      have hne : k ≠ key := by
        rintro rfl
        rw [hmark] at hk
        cases hk
      rw [Table.get?_set, if_neg hne]
      exact hg k hk
  | _ => exact hg

/-- The greeting names what stands under the key of the name, if nothing stands in its way and it
can be written. -/
theorem Carries.greet_eq {t : Table} (h : g.Carries t) (hgreet : t.get? greetKey = none)
    (hname : t.get? nameKey = some v) (room : Nat) :
    g.greet room = ((v.plain room).map (greetingStart ++ ·)).mapError .unwritable := by
  rw [← h greetKey (by decide)] at hgreet
  rw [← h nameKey (by decide)] at hname
  rw [greet, hgreet]
  dsimp only
  rw [field, hname]
  show Except.bind ((v.plain room).mapError Fault.unwritable) _ = _
  cases v.plain room with
  | error fault => rfl
  | ok name => rfl

/-! ## Greeters as they are made -/

/-- The fields of a greeter that has just been made with a name. -/
def nameTable (n : String) : Table := [(nameKey, .text n)]

/-- A greeter counts as one that has just been made with a name. -/
structure AsMade (g : KeptGreeter) (n : String) : Prop where
  carries : g.Carries (nameTable n)
  lineage : g.fields.get? lineageKey = none
  spare : g.spare = .null
  hidden : g.hidden = .null

theorem asMade_ofGreeter (g : Greeter) : (ofGreeter g).AsMade g.name :=
  ⟨carries_fields _, rfl, rfl, rfl⟩

/-- The marks that change what a greeter counts as. -/
def tellingKeys : List String :=
  [Part.fields.key, Part.spare.key, Part.hidden.key, lineageKey]

/-- What is put under another mark does not change what a greeter counts as. -/
theorem Put.asMade (h : Put g key v g') (hkey : key ∉ tellingKeys) {n : String}
    (hg : g.AsMade n) : g'.AsMade n := by
  simp only [tellingKeys, List.mem_cons, List.not_mem_nil, or_false, not_or] at hkey
  obtain ⟨hfields, hspare, hhidden, hlineage⟩ := hkey
  refine ⟨h.carries (fun he => absurd he hfields) hg.carries, ?_, ?_, ?_⟩
  · cases h with
    | fields he => exact absurd he hfields
    | stored => rw [Table.get?_set, if_neg (Ne.symm hlineage), hg.lineage]
    | _ => exact hg.lineage
  · cases h with
    | spare he => exact absurd he hspare
    | _ => exact hg.spare
  · cases h with
    | hidden he => exact absurd he hhidden
    | _ => exact hg.hidden

/-- Such a greeter has nothing hidden that could be taken away. -/
theorem AsMade.delete_ne_ok {n : String} (hg : g.AsMade n) : g.delete key ≠ .ok g' := by
  intro h
  obtain ⟨w, hwithout, -⟩ := delete_ok h
  rw [hg.hidden] at hwithout
  cases hwithout

/-! ## Comparing -/

section Comparing

variable {h : KeptGreeter} {n m : String}

theorem AsMade.name (hg : g.AsMade n) : g.fields.get? nameKey = some (.text n) :=
  hg.carries nameKey (by decide)

theorem AsMade.origin_eq (hg : g.AsMade n) : g.origin = .ok none := by
  rw [origin, hg.lineage]
  rfl

theorem AsMade.checkName_eq (hg : g.AsMade n) : g.checkName = .ok () := by
  rw [checkName, hg.name]
  rfl

/-- Greeters as they were made are equal if and only if they have one name. -/
theorem AsMade.equals_eq (hg : g.AsMade n) (hh : h.AsMade m) : g.equals h = .ok (n == m) := by
  have hname : sameGiven (some (.text n)) (some (.text m)) = (n == m) := by
    rw [sameGiven, Value.same]
  rw [equals, hg.origin_eq, hh.origin_eq, hg.spare, hh.spare, hg.hidden, hh.hidden, hg.name,
    hh.name, hname]
  rfl

theorem AsMade.equalsItself_eq (hg : g.AsMade n) : g.equalsItself = .ok true := by
  rw [equalsItself, hg.origin_eq, hg.spare, hg.hidden]
  rfl

end Comparing

end KeptGreeter

end GreetCalc
