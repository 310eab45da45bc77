import GreetCalc.Proofs.Path

/-!
# The normal form of a path

Reading a path drops empty names and single dots, and resolving it drops double dots. From the
current directory of a machine, whose names are proper ones, a path that asks for no home directory
resolves to a location with proper names only (`exists_resolve`). Its text is a normal one
(`normalText_of_proper`), and proper names are read back from it as they are (`ofText_text`), so
resolving it once more changes nothing (`resolve_ofLocation`).
-/

namespace GreetCalc.Path

/-! ## Proper names -/

/-- A name that a file or a directory can have. -/
structure ProperName (name : String) : Prop where
  ne_empty : name ≠ ""
  ne_dot : name ≠ "."
  ne_dots : name ≠ ".."
  no_slash : '/' ∉ name.toList
  no_null : '\x00' ∉ name.toList

/-- All names on the way to a location are proper ones. -/
def Proper (l : Location) : Prop := ∀ name ∈ l, ProperName name

/-- An absolute path as a text with no empty names, no names of dots and no slash at its end. -/
structure NormalText (s : String) : Prop where
  absolute : s.toList.head? = some '/'
  ending : s ≠ "/" → s.toList.getLast? ≠ some '/'
  names : s ≠ "/" → ∀ name ∈ s.toList.tail.splitOn '/',
    name ≠ [] ∧ name ≠ ['.'] ∧ name ≠ ['.', '.']

/-! ## Reading -/

/-- Cutting a text at slashes is splitting it there. -/
theorem pieces_eq_splitOn (cs : List Char) : pieces cs = cs.splitOn '/' := by
  induction cs with
  | nil => rfl
  | cons c cs ih =>
      rw [pieces, ih, List.splitOn_cons_eq_if_modifyHead]
      by_cases hc : c = '/'
      · rw [if_pos hc, if_pos (by simpa using hc)]
      · rw [if_neg hc, if_neg (by simpa using hc)]
        cases hs : cs.splitOn '/' with
        | nil => exact absurd hs (List.splitOn_ne_nil _ _)
        | cons p ps => rfl

theorem slash_not_mem_of_mem_pieces {cs p : List Char} (h : p ∈ pieces cs) : '/' ∉ p := by
  induction cs generalizing p with
  | nil =>
      rw [List.mem_singleton.mp h]
      exact List.not_mem_nil
  | cons c cs ih =>
      rw [pieces] at h
      split at h
      · rcases List.mem_cons.mp h with rfl | h
        · exact List.not_mem_nil
        · exact ih h
      · next hc =>
        have hcons : ∀ {q : List Char}, '/' ∉ q → '/' ∉ c :: q := by
          intro q hq hmem
          rcases List.mem_cons.mp hmem with heq | hmem
          · exact hc heq.symm
          · exact hq hmem
        split at h
        · rw [List.mem_singleton.mp h]
          exact hcons List.not_mem_nil
        · next q qs hpieces =>
          rw [hpieces] at ih
          rcases List.mem_cons.mp h with rfl | h
          · exact hcons (ih List.mem_cons_self)
          · exact ih (List.mem_cons_of_mem _ h)

/-- What is left to do for a name that is read from a text: it may be double dots. -/
theorem properName_of_mem {s name : String} (hnull : '\x00' ∉ s.toList)
    (h : name ∈ (ofText s).names) (hdots : name ≠ "..") : ProperName name := by
  have hmem := h
  obtain ⟨hpiece, hkept⟩ := List.mem_filter.mp h
  obtain ⟨p, hp, rfl⟩ := List.mem_map.mp hpiece
  simp only [Bool.and_eq_true, bne_iff_ne] at hkept
  refine ⟨hkept.1, hkept.2, hdots, ?_, ?_⟩
  · rw [String.toList_ofList]
    exact slash_not_mem_of_mem_pieces hp
  · intro hn
    apply hnull
    rw [← any_hasNull_ofText, List.any_eq_true]
    exact ⟨_, hmem, (hasNull_iff _).mpr hn⟩

/-! ## Resolving -/

theorem Proper.enter {l : Location} {name : String} (hl : Proper l)
    (hname : name ≠ ".." → ProperName name) : Proper (enter l name) := by
  intro other hother
  unfold Path.enter at hother
  split at hother
  · exact hl other (List.dropLast_subset l hother)
  · next hne =>
    rcases List.mem_append.mp hother with hother | hother
    · exact hl other hother
    · rw [List.mem_singleton.mp hother]
      exact hname hne

/-- Names that are proper or two dots lead from a proper location to a proper one. -/
theorem Proper.foldl_enter {names : List String} {l : Location} (hl : Proper l)
    (h : ∀ name ∈ names, name ≠ ".." → ProperName name) : Proper (names.foldl Path.enter l) := by
  induction names generalizing l with
  | nil => exact hl
  | cons name names ih =>
      obtain ⟨hname, hnames⟩ := List.forall_mem_cons.mp h
      exact ih (hl.enter hname) hnames

/-- Without two dots among them, names only lead further. -/
theorem foldl_enter_of_ne_dots {names : List String} (l : Location)
    (h : ∀ name ∈ names, name ≠ "..") : names.foldl enter l = l ++ names := by
  induction names generalizing l with
  | nil => exact (List.append_nil l).symm
  | cons name names ih =>
      obtain ⟨hname, hnames⟩ := List.forall_mem_cons.mp h
      rw [List.foldl_cons, enter, if_neg hname, ih _ hnames, List.append_assoc,
        List.singleton_append]

theorem homeUser?_eq_none {p : Path}
    (h : ∀ name, p.names.head? = some name → name.toList.head? ≠ some '~') :
    p.homeUser? = none := by
  obtain ⟨anchor, names⟩ := p
  cases anchor with
  | top => rfl
  | doubled => rfl
  | current =>
      cases names with
      | nil => rfl
      | cons first rest =>
          have hfirst := h first rfl
          show userOf? first = none
          unfold userOf?
          split
          · next hname =>
            rw [hname] at hfirst
            exact absurd rfl hfirst
          · rfl

/-- From a proper directory a path without a null character and without a tilde resolves to a
proper location. -/
theorem exists_resolve {current : Location} (hcurrent : Proper current) (homes : Homes)
    {s : String} (hnull : '\x00' ∉ s.toList)
    (htilde : ∀ name, (ofText s).names.head? = some name → name.toList.head? ≠ some '~') :
    ∃ l, (ofText s).resolve current homes = .ok l ∧ Proper l := by
  obtain ⟨l, hl, hstart⟩ := start_of_no_user (homeUser?_eq_none htilde) current homes
  have hnames : ¬ (ofText s).names.any hasNull = true := by
    rw [any_hasNull_ofText]
    exact hnull
  have hproper : Proper l := by
    rcases hl with rfl | rfl
    · exact hcurrent
    · intro name hname
      cases hname
  refine ⟨(ofText s).names.foldl enter l, ?_, ?_⟩
  · rw [resolve, hstart]
    show (if _ then _ else _) = _
    rw [if_neg hnames]
  · exact hproper.foldl_enter fun name hname => properName_of_mem hnull hname

/-! ## The text of a location -/

theorem ProperName.toList_ne_nil {name : String} (h : ProperName name) : name.toList ≠ [] := by
  intro hnil
  exact h.ne_empty (String.toList_eq_nil_iff.mp hnil)

/-- The text of a location is its names with a slash before each. -/
theorem toList_text (l : Location) :
    (ofLocation l).text.toList = '/' :: ['/'].intercalate (l.map String.toList) := by
  simp [text, ofLocation, anchorText]

section Joined

variable {p : List Char} {ps : List (List Char)}

theorem exists_joined_eq_cons (hne : p ≠ []) (hslash : '/' ∉ p) (ps : List (List Char)) :
    ∃ c cs, ['/'].intercalate (p :: ps) = c :: cs ∧ c ≠ '/' := by
  obtain ⟨c, cs, rfl⟩ := List.exists_cons_of_ne_nil hne
  have hc : c ≠ '/' := by
    rintro rfl
    exact hslash List.mem_cons_self
  cases ps with
  | nil => exact ⟨c, cs, by rw [List.intercalate_singleton], hc⟩
  | cons q qs =>
      rw [List.intercalate_cons_cons]
      exact ⟨c, _, rfl, hc⟩

theorem getLast?_joined_ne (hne : ∀ p ∈ ps, p ≠ []) (hslash : ∀ p ∈ ps, '/' ∉ p) :
    (['/'].intercalate ps).getLast? ≠ some '/' := by
  induction ps with
  | nil => simp
  | cons p ps ih =>
      obtain ⟨-, hne'⟩ := List.forall_mem_cons.mp hne
      obtain ⟨hp, hslash'⟩ := List.forall_mem_cons.mp hslash
      cases ps with
      | nil =>
          rw [List.intercalate_singleton]
          exact fun hlast => hp (List.mem_of_getLast? hlast)
      | cons q qs =>
          obtain ⟨c, cs, hjoined, -⟩ := exists_joined_eq_cons (hne' q List.mem_cons_self)
            (hslash' q List.mem_cons_self) qs
          have hrest := ih hne' hslash'
          rw [hjoined] at hrest
          rw [List.intercalate_cons_cons, hjoined]
          simpa using hrest

end Joined

/-- Where there are names, the text after the first slash is cut into them. -/
theorem splitOn_text {l : Location} (h : Proper l) (hne : l ≠ []) :
    (ofLocation l).text.toList.tail.splitOn '/' = l.map String.toList := by
  rw [toList_text, List.tail_cons]
  apply List.splitOn_intercalate
  · intro cs hcs
    obtain ⟨name, hname, rfl⟩ := List.mem_map.mp hcs
    exact (h name hname).no_slash
  · simpa using hne

theorem ofText_text {l : Location} (h : Proper l) :
    ofText (ofLocation l).text = ofLocation l := by
  cases l with
  | nil => decide
  | cons name names =>
      have hlist := toList_text (name :: names)
      have hsplit := splitOn_text h (List.cons_ne_nil _ _)
      rw [hlist, List.tail_cons] at hsplit
      have hname := h name List.mem_cons_self
      obtain ⟨c, cs, hjoined, hc⟩ := exists_joined_eq_cons hname.toList_ne_nil hname.no_slash
        (names.map String.toList)
      have hanchor : anchorOf (ofLocation (name :: names)).text.toList = .top := by
        rw [hlist, List.map_cons, hjoined]
        simp [anchorOf, hc]
      -- Reading drops no name, since none is empty or a single dot.
      have hkept : (name :: names).filter (fun other => other != "" && other != ".") =
          name :: names := by
        rw [List.filter_eq_self]
        intro other hother
        simp [(h other hother).ne_empty, (h other hother).ne_dot]
      have hread : ((name :: names).map String.toList).map String.ofList = name :: names := by
        rw [List.map_map]
        exact (List.map_congr_left fun _ _ => String.ofList_toList).trans (List.map_id _)
      rw [ofText, hanchor, hlist, pieces, if_pos rfl, pieces_eq_splitOn, hsplit, List.map_cons,
        hread, List.filter_cons_of_neg (by decide), hkept]
      rfl

/-- A location is where it is, from wherever it is looked for. -/
theorem resolve_ofLocation {l : Location} (h : Proper l) (current : Location) (homes : Homes) :
    (ofLocation l).resolve current homes = .ok l := by
  have hnull : ¬ l.any hasNull = true := by
    rw [List.any_eq_true]
    rintro ⟨name, hname, hn⟩
    exact (h name hname).no_null ((hasNull_iff _).mp hn)
  show (if l.any hasNull = true then _ else Except.ok (l.foldl enter [])) = _
  rw [if_neg hnull, foldl_enter_of_ne_dots [] fun name hname => (h name hname).ne_dots]
  rfl

/-- A proper location has a normal text. -/
theorem normalText_of_proper {l : Location} (h : Proper l) : NormalText (ofLocation l).text := by
  have hlist := toList_text l
  have hnil : (ofLocation l).text ≠ "/" → l ≠ [] := by
    rintro hne rfl
    exact hne (by decide)
  refine ⟨by rw [hlist]; rfl, ?_, ?_⟩
  · intro hne
    obtain ⟨name, names, rfl⟩ := List.exists_cons_of_ne_nil (hnil hne)
    rw [hlist, List.map_cons]
    have hname := h name List.mem_cons_self
    obtain ⟨c, cs, hjoined, -⟩ := exists_joined_eq_cons hname.toList_ne_nil hname.no_slash
      (names.map String.toList)
    have hlast : (['/'].intercalate ((name :: names).map String.toList)).getLast? ≠ some '/' := by
      apply getLast?_joined_ne
      · intro p hp
        obtain ⟨other, hother, rfl⟩ := List.mem_map.mp hp
        exact (h other hother).toList_ne_nil
      · intro p hp
        obtain ⟨other, hother, rfl⟩ := List.mem_map.mp hp
        exact (h other hother).no_slash
    rw [List.map_cons, hjoined] at hlast
    rw [hjoined, List.getLast?_cons_cons]
    exact hlast
  · intro hne p hp
    rw [splitOn_text h (hnil hne)] at hp
    obtain ⟨name, hname, rfl⟩ := List.mem_map.mp hp
    have hproper := h name hname
    refine ⟨hproper.toList_ne_nil, ?_, ?_⟩
    · intro hdot
      exact hproper.ne_dot (String.toList_inj.mp hdot)
    · intro hdots
      exact hproper.ne_dots (String.toList_inj.mp hdots)

end GreetCalc.Path
