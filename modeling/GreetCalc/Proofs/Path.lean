import GreetCalc.Path

/-!
# Paths that have no location

A path has a location unless one of its names holds the null character or it asks for the home of a
user whose home is not known (`resolve_error_iff`). The names of a text hold a null character if and
only if the text does (`any_hasNull_ofText`).
-/

namespace GreetCalc.Path

/-! ## Pieces of a text -/

/-- Cutting a text at the slashes loses no other character. -/
theorem exists_mem_pieces {c : Char} (hc : c ≠ '/') (cs : List Char) :
    (∃ p ∈ pieces cs, c ∈ p) ↔ c ∈ cs := by
  induction cs with
  | nil => simp [pieces]
  | cons d cs ih =>
      rw [pieces]
      by_cases hd : d = '/'
      · subst hd
        rw [if_pos rfl, List.mem_cons, ← ih]
        simp [hc]
      · rw [if_neg hd, List.mem_cons, ← ih]
        cases pieces cs with
        | nil => simp
        | cons p ps => simp [or_assoc]

theorem hasNull_iff (name : String) : hasNull name = true ↔ '\x00' ∈ name.toList := by
  rw [hasNull, List.contains_iff_mem]

theorem any_hasNull_ofText (s : String) :
    (ofText s).names.any hasNull = true ↔ '\x00' ∈ s.toList := by
  have hslash : '\x00' ≠ '/' := by decide
  rw [← exists_mem_pieces hslash, List.any_eq_true]
  constructor
  · rintro ⟨name, hname, hnull⟩
    obtain ⟨p, hp, rfl⟩ := List.mem_map.mp (List.mem_filter.mp hname).1
    refine ⟨p, hp, ?_⟩
    rwa [hasNull_iff, String.toList_ofList] at hnull
  · rintro ⟨p, hp, hnull⟩
    refine ⟨String.ofList p, List.mem_filter.mpr ⟨List.mem_map_of_mem hp, ?_⟩, ?_⟩
    · -- A name that is dropped holds no null character.
      have hne : ∀ t : String, '\x00' ∉ t.toList → String.ofList p ≠ t := by
        rintro t ht rfl
        exact ht (by rwa [String.toList_ofList])
      simp [hne "" (by decide), hne "." (by decide)]
    · rwa [hasNull_iff, String.toList_ofList]

/-! ## Locations -/

/-- The user whose home a path begins at, if it begins at one. -/
def homeUser? (p : Path) : Option String :=
  match p.anchor, p.names with
  | .current, first :: _ => userOf? first
  | _, _ => none

/-- The path begins at the home of a user whose home is not known. -/
def AsksForUnknown (homes : Homes) (p : Path) : Prop :=
  ∃ user, p.homeUser? = some user ∧ homes.lookup user = none

/-- The tilde before the name of a user is no null character. -/
theorem hasNull_of_userOf? {name user : String} (h : userOf? name = some user) :
    hasNull name = hasNull user := by
  unfold userOf? at h
  split at h
  · next cs hname =>
    cases h
    rw [hasNull, hasNull, hname, String.toList_ofList]
    simp
  · cases h

section Resolving

variable {current : Location} {homes : Homes} {p : Path}

/-- From a start that is known, only a null character stops a path. -/
theorem resolve_error_of_start_ok {l : Location} {names : List String}
    (h : p.start current homes = .ok (l, names)) :
    (∃ fault, p.resolve current homes = .error fault) ↔ names.any hasNull = true := by
  have hresolve : p.resolve current homes =
      if names.any hasNull = true then .error .nullName else .ok (names.foldl enter l) := by
    rw [resolve, h]
    rfl
  rw [hresolve]
  by_cases hn : names.any hasNull = true
  · simp [hn]
  · simp [hn]

theorem resolve_error_of_start_error {fault : Fault} (h : p.start current homes = .error fault) :
    p.resolve current homes = .error fault := by
  rw [resolve, h]
  rfl

/-- A path that names no user starts where its anchor says, and keeps its names. -/
theorem start_of_no_user (h : p.homeUser? = none) (current : Location) (homes : Homes) :
    ∃ l, (l = current ∨ l = []) ∧ p.start current homes = .ok (l, p.names) := by
  obtain ⟨anchor, names⟩ := p
  cases anchor with
  | top => exact ⟨[], .inr rfl, rfl⟩
  | doubled => exact ⟨[], .inr rfl, rfl⟩
  | current =>
      cases names with
      | nil => exact ⟨current, .inl rfl, rfl⟩
      | cons first rest =>
          have hfirst : userOf? first = none := h
          exact ⟨current, .inl rfl, by simp only [start, hfirst]⟩

/-- A path that begins at the home of a user starts from this home, if there is one. -/
theorem start_of_user {user : String} (h : p.homeUser? = some user) (current : Location)
    (homes : Homes) :
    ∃ rest, p.names.any hasNull = (hasNull user || rest.any hasNull) ∧
      p.start current homes = (homeOf homes user).map fun home => (home, rest) := by
  obtain ⟨anchor, names⟩ := p
  cases anchor with
  | top => cases h
  | doubled => cases h
  | current =>
      cases names with
      | nil => cases h
      | cons first rest =>
          have hfirst : userOf? first = some user := h
          refine ⟨rest, ?_, by simp only [start, hfirst]⟩
          rw [List.any_cons, hasNull_of_userOf? hfirst]

/-- **Paths without a location.** A path has none exactly if a name in it holds the null character,
or it begins at the home of a user whose home is not known. -/
theorem resolve_error_iff :
    (∃ fault, p.resolve current homes = .error fault) ↔
      p.names.any hasNull = true ∨ p.AsksForUnknown homes := by
  cases huser : p.homeUser? with
  | none =>
      have hno : ¬ p.AsksForUnknown homes := by
        rintro ⟨user, hasks, -⟩
        rw [huser] at hasks
        cases hasks
      obtain ⟨l, -, hstart⟩ := start_of_no_user huser current homes
      rw [resolve_error_of_start_ok hstart]
      exact ⟨.inl, fun h => h.resolve_right hno⟩
  | some user =>
      have hasks : p.AsksForUnknown homes ↔ homes.lookup user = none := by
        unfold AsksForUnknown
        simp [huser]
      obtain ⟨rest, hnames, hstart⟩ := start_of_user huser current homes
      rw [hasks, hnames, Bool.or_eq_true]
      by_cases hnull : hasNull user = true
      · rw [homeOf, if_pos hnull] at hstart
        exact ⟨fun _ => .inl (.inl hnull), fun _ => ⟨_, resolve_error_of_start_error hstart⟩⟩
      rw [homeOf, if_neg hnull] at hstart
      cases hhome : homes.lookup user with
      | none =>
          rw [hhome] at hstart
          exact ⟨fun _ => .inr rfl, fun _ => ⟨_, resolve_error_of_start_error hstart⟩⟩
      | some home =>
          rw [hhome] at hstart
          rw [resolve_error_of_start_ok hstart]
          simp [hnull]

end Resolving

end GreetCalc.Path
