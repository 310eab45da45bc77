import GreetCalc.Proofs.Greeter.Kept
import GreetCalc.Proofs.Session.Steps
import Mathlib.Tactic.TFAE

/-!
# Greeters over a session

A greeter that is kept under an identifier stays as it is until something is done to it.
`step_greeter` says what one step can do: make it anew, put a value under one of its marks, or take
a hidden value away from it. What holds of it after a session is a matter of what was done last.

So a greeter greets the name it was last made with, as long as no table takes the place of all its
fields after that (`carrying_since_makes`), and counts as one that has just been made, as long as
nothing is put under a mark that changes what it counts as (`standing_since_makes`). What this means
for what greeters answer is `greeters_over_session`; that the marks are a way around the frozen
fields is `greeter_changed`.
-/

namespace GreetCalc

/-- A greeter is made from fields that give a text for its name, whatever else they give. -/
theorem Greeter.ofFields_eq_ok_iff {fields : Table} {g : Greeter} :
    ofFields fields = .ok g ↔ fields.get? "name" = some (.text g.name) := by
  unfold ofFields
  constructor
  · intro h
    split at h
    · next s hs =>
      cases h
      exact hs
    · cases h
    · cases h
  · intro h
    rw [h]

namespace World

/-! ## What a step does to a greeter -/

/-- A step makes a greeter with a name under an identifier. -/
def Makes (id n : String) (_ : World) (s : Step) : Prop :=
  ∃ fields, s.operation = .makeGreeter id fields ∧ Table.get? fields "name" = some (.text n)

/-- A step puts a value under a key of the greeter under an identifier, and is not refused. -/
def Puts (id key : String) (v : Value) (w : World) (s : Step) : Prop :=
  s.operation = .setField id key v ∧ (w.step s).2.reply = .ok .nothing

/-- What a step can leave under an identifier if it touches the greeter there. -/
inductive Rekept (id : String) (w : World) (s : Step) : KeptGreeter → Prop
  | made {n : String} : Makes id n w s → Rekept id w s (.ofGreeter ⟨n⟩)
  | put {key : String} {v : Value} {g g' : KeptGreeter} : Puts id key v w s →
      w.greeters.lookup id = some g → KeptGreeter.Put g key v g' → Rekept id w s g'
  | taken {key : String} {g g' : KeptGreeter} : w.greeters.lookup id = some g →
      g.delete key = .ok g' → Rekept id w s g'

/-- The greeter that is kept under an identifier takes the place of the one before, and no other. -/
theorem lookup_keep (w : World) (id id' : String) (g : KeptGreeter) :
    (w.keep id g).greeters.lookup id' = if id' = id then some g else w.greeters.lookup id' := by
  unfold keep
  rw [lookup_cons_ite, lookup_filter_bne]
  grind

/-- Making a greeter succeeds and keeps it as it is made. -/
theorem step_of_makes {w : World} {s : Step} {id n : String} (h : Makes id n w s) :
    w.step s = ((w.prepared s).keep id (.ofGreeter ⟨n⟩), ⟨.ok (.text n), []⟩) := by
  obtain ⟨fields, hop, hname⟩ := h
  have hg : Greeter.ofFields fields = .ok ⟨n⟩ := Greeter.ofFields_eq_ok_iff.mpr hname
  show (w.prepared s).perform _ _ s.operation = _
  rw [hop, perform, hg]
  rfl

/-- Making a greeter is refused, or it is made with the name that its fields give. -/
theorem step_makeGreeter {w : World} {s : Step} {id : String} {fields : Table}
    (hop : s.operation = .makeGreeter id fields) :
    (∃ failure, w.step s = (w.prepared s, ⟨.error failure, []⟩)) ∨ ∃ n, Makes id n w s := by
  have h := performed_step w s
  rw [hop] at h
  generalize w.step s = p at h ⊢
  cases h with
  | refused => exact .inl ⟨_, rfl⟩
  | answered htouching => exact absurd trivial htouching
  | @made _ _ g hg => exact .inr ⟨g.name, fields, hop, Greeter.ofFields_eq_ok_iff.mp hg⟩

/-- What is put to a greeter without being refused goes by one of the rules. -/
theorem step_of_puts {w : World} {s : Step} {id key : String} {v : Value}
    (h : Puts id key v w s) : ∃ g g', KeptGreeter.Put g key v g' ∧
      (w.step s).1.greeters.lookup id = some g' := by
  obtain ⟨hop, hreply⟩ := h
  have h := performed_step w s
  rw [hop] at h
  generalize w.step s = p at h hreply ⊢
  cases h with
  | refused => cases hreply
  | answered htouching => exact absurd trivial htouching
  | @set _ _ _ g g' hg hset =>
      exact ⟨g, g', KeptGreeter.put_of_set hset, (lookup_keep _ _ _ _).trans (if_pos rfl)⟩

/-- A step leaves what is kept under an identifier alone, or touches it in one of three ways. -/
theorem step_greeter (w : World) (s : Step) (id : String) :
    (w.step s).1.greeters.lookup id = w.greeters.lookup id ∨
    ∃ g, Rekept id w s g ∧ (w.step s).1.greeters.lookup id = some g := by
  -- Keeping a greeter under another identifier changes nothing here.
  have hkeep : ∀ {id' : String} {g : KeptGreeter} {answer : Answer},
      w.step s = ((w.prepared s).keep id' g, answer) → (id' = id → Rekept id w s g) →
      (w.step s).1.greeters.lookup id = w.greeters.lookup id ∨
      ∃ g, Rekept id w s g ∧ (w.step s).1.greeters.lookup id = some g := by
    intro id' g answer hstep hre
    rw [hstep]
    dsimp only
    rw [lookup_keep, prepared_greeters]
    by_cases hid : id = id'
    · exact .inr ⟨g, hre hid.symm, if_pos hid⟩
    · exact .inl (if_neg hid)
  have h := performed_step w s
  -- The rules are split with the operation and the result as variables.
  generalize hop : s.operation = op at h
  generalize hstep : w.step s = p at h
  rw [← hstep]
  cases h with
  | refused => exact .inl (by rw [hstep, prepared_greeters])
  | answered => exact .inl (by rw [hstep, prepared_greeters])
  | setUp => exact .inl (by rw [hstep, prepared_greeters])
  | run => exact .inl (by rw [hstep, runReply_world, prepared_greeters])
  | @made id' fields g hg =>
      refine hkeep hstep ?_
      rintro rfl
      exact .made ⟨fields, hop, Greeter.ofFields_eq_ok_iff.mp hg⟩
  | @set id' key v g g' hg hset =>
      refine hkeep hstep ?_
      rintro rfl
      rw [prepared_greeters] at hg
      exact .put ⟨hop, by rw [hstep]⟩ hg (KeptGreeter.put_of_set hset)
  | @deleted id' key g g' hg hdelete =>
      refine hkeep hstep ?_
      rintro rfl
      rw [prepared_greeters] at hg
      exact .taken hg hdelete

/-! ## What holds over a session -/

/-- A step gives the greeter under an identifier its fields, all of them at once. -/
def GivesFields (id : String) (w : World) (s : Step) : Prop :=
  (∃ n, Makes id n w s) ∨ ∃ t, Puts id KeptGreeter.Part.fields.key (.table t) w s

/-- A step makes the greeter under an identifier anew or puts something under one of the marks that
change what it counts as. -/
def ChangesStanding (id : String) (w : World) (s : Step) : Prop :=
  (∃ n, Makes id n w s) ∨ ∃ key ∈ KeptGreeter.tellingKeys, ∃ v, Puts id key v w s

/-- The plain keys of the greeter under an identifier hold what they hold in a table. -/
def Carrying (id : String) (t : Table) (w : World) : Prop :=
  ∃ g, w.greeters.lookup id = some g ∧ g.Carries t

/-- The greeter under an identifier counts as one that has just been made with a name. -/
def Standing (id n : String) (w : World) : Prop :=
  ∃ g, w.greeters.lookup id = some g ∧ g.AsMade n

section Invariants

variable {w : World} {s : Step} {ss : List Step} {id n : String} {t : Table}

theorem standing_of_makes (h : Makes id n w s) : Standing id n (w.step s).1 := by
  refine ⟨.ofGreeter ⟨n⟩, ?_, KeptGreeter.asMade_ofGreeter ⟨n⟩⟩
  rw [step_of_makes h]
  exact (lookup_keep _ _ _ _).trans (if_pos rfl)

theorem Standing.carrying (h : Standing id n w) : Carrying id (KeptGreeter.nameTable n) w := by
  obtain ⟨g, hg, hmade⟩ := h
  exact ⟨g, hg, hmade.carries⟩

theorem carrying_of_puts (h : Puts id KeptGreeter.Part.fields.key (.table t) w s) :
    Carrying id t (w.step s).1 := by
  obtain ⟨g, g', hput, hg'⟩ := step_of_puts h
  refine ⟨g', hg', ?_⟩
  rw [← hput.fields_eq]
  exact KeptGreeter.carries_fields g'

/-- Nothing but making keeps a greeter where none was. -/
theorem lookup_step_eq_none (hs : ¬ GivesFields id w s) (h : w.greeters.lookup id = none) :
    (w.step s).1.greeters.lookup id = none := by
  rcases step_greeter w s id with heq | ⟨g', hre, -⟩
  · rw [heq, h]
  · cases hre with
    | made hmakes => exact absurd (.inl ⟨_, hmakes⟩) hs
    | put _ hg _ => rw [h] at hg; cases hg
    | taken hg _ => rw [h] at hg; cases hg

/-- What the plain keys hold stays, unless all fields are given anew. -/
theorem carrying_step (hs : ¬ GivesFields id w s) (h : Carrying id t w) :
    Carrying id t (w.step s).1 := by
  obtain ⟨g, hg, hcarries⟩ := h
  rcases step_greeter w s id with heq | ⟨g', hre, hg'⟩
  · exact ⟨g, heq.trans hg, hcarries⟩
  · refine ⟨g', hg', ?_⟩
    cases hre with
    | made hmakes => exact absurd (.inl ⟨_, hmakes⟩) hs
    | put hputs hg₁ hput =>
        cases hg.symm.trans hg₁
        refine hput.carries ?_ hcarries
        rintro rfl t' rfl
        exact hs (.inr ⟨t', hputs⟩)
    | taken hg₁ hdelete =>
        cases hg.symm.trans hg₁
        obtain ⟨hidden, -, rfl⟩ := KeptGreeter.delete_ok hdelete
        exact hcarries

/-- What a greeter counts as stays, unless a mark is changed that tells. -/
theorem standing_step (hs : ¬ ChangesStanding id w s) (h : Standing id n w) :
    Standing id n (w.step s).1 := by
  obtain ⟨g, hg, hmade⟩ := h
  rcases step_greeter w s id with heq | ⟨g', hre, hg'⟩
  · exact ⟨g, heq.trans hg, hmade⟩
  · refine ⟨g', hg', ?_⟩
    cases hre with
    | made hmakes => exact absurd (.inl ⟨_, hmakes⟩) hs
    | put hputs hg₁ hput =>
        cases hg.symm.trans hg₁
        exact hput.asMade (fun hkey => hs (.inr ⟨_, hkey, _, hputs⟩)) hmade
    | taken hg₁ hdelete =>
        cases hg.symm.trans hg₁
        exact absurd hdelete hmade.delete_ne_ok

/-- A greeter carries the name it was made with, as long as its fields are not given anew. -/
theorem carrying_since_makes (h : Since (Makes id n) (GivesFields id) w ss) :
    Carrying id (KeptGreeter.nameTable n) (w.steps ss).1 :=
  holds_of_since (fun _ _ hs => (standing_of_makes hs).carrying) (fun _ _ => carrying_step) h

/-- A greeter carries the table of fields that it was given last. -/
theorem carrying_since_puts
    (h : Since (Puts id KeptGreeter.Part.fields.key (.table t)) (GivesFields id) w ss) :
    Carrying id t (w.steps ss).1 :=
  holds_of_since (fun _ _ => carrying_of_puts) (fun _ _ => carrying_step) h

/-- A greeter counts as just made, as long as no mark is changed that tells. -/
theorem standing_since_makes (h : Since (Makes id n) (ChangesStanding id) w ss) :
    Standing id n (w.steps ss).1 :=
  holds_of_since (fun _ _ => standing_of_makes) (fun _ _ => standing_step) h

/-- A greeter that is kept has been given its fields, and there was a last time. -/
theorem since_givesFields (h : w.greeters.lookup id = none) :
    (w.steps ss).1.greeters.lookup id = none ∨
    (∃ n, Since (Makes id n) (GivesFields id) w ss) ∨
    ∃ t, Since (Puts id KeptGreeter.Part.fields.key (.table t)) (GivesFields id) w ss := by
  rcases never_or_since (GivesFields id) w ss with hnever | ⟨before, s, after, heq, hs, hafter⟩
  · exact .inl (holds_of_never (I := fun v => v.greeters.lookup id = none)
      (fun _ _ => lookup_step_eq_none) hnever h)
  · rcases hs with ⟨n, hmakes⟩ | ⟨t, hputs⟩
    · exact .inr (.inl ⟨n, before, s, after, heq, hmakes, hafter⟩)
    · exact .inr (.inr ⟨t, before, s, after, heq, hputs, hafter⟩)

end Invariants

/-! ## What kept greeters answer -/

/-- The greeter under an identifier greets, whoever asks. -/
def Greets (w : World) (id greeting : String) : Prop :=
  ∀ s, s.operation = .greet id → (w.step s).2 = ⟨.ok (.text greeting), []⟩

/-- The greeter under an identifier fails to greet, whoever asks. -/
def FailsToGreet (w : World) (id : String) (failure : Failure) : Prop :=
  ∀ s, s.operation = .greet id → (w.step s).2 = ⟨.error failure, []⟩

/-- What comes of comparing the greeters under two identifiers: whether they are equal, and whether
they are one among themselves. -/
def Compares (w : World) (id id' : String) (equal single : Bool) : Prop :=
  ∀ s, s.operation = .compare id id' → (w.step s).2 = ⟨.ok (.comparison equal single), []⟩

section Answers

variable {w : World} {id id' n n' : String}

theorem greeter_prepared {s : Step} {g : KeptGreeter} (hg : w.greeters.lookup id = some g) :
    (w.prepared s).greeter id = .ok g := by
  rw [greeter, prepared_greeters, hg]

/-- A greeting is a matter of the greeter alone, and of the room there is to write its name. -/
theorem step_greet {g : KeptGreeter} (hg : w.greeters.lookup id = some g) {s : Step}
    (hop : s.operation = .greet id) :
    (w.step s).2 = ⟨((g.greet w.host.writeRoom).map Reply.text).mapError .greeter, []⟩ := by
  show ((w.prepared s).perform _ _ s.operation).2 = _
  rw [hop, perform, greeter_prepared hg, prepared_host]
  rfl

theorem greets_of_greet {g : KeptGreeter} {greeting : String}
    (hg : w.greeters.lookup id = some g) (hgreet : g.greet w.host.writeRoom = .ok greeting) :
    w.Greets id greeting := by
  intro s hop
  rw [step_greet hg hop, hgreet]
  rfl

/-- What a greeter with these fields answers is a matter of what stands for its name. -/
theorem Carrying.step_greet {t : Table} {v : Value} (h : Carrying id t w)
    (hgreet : t.get? KeptGreeter.greetKey = none) (hname : t.get? KeptGreeter.nameKey = some v)
    {s : Step} (hop : s.operation = .greet id) :
    (w.step s).2 =
      ⟨(((((v.plain w.host.writeRoom).map (greetingStart ++ ·)).mapError
        KeptGreeter.Fault.unwritable).map Reply.text).mapError .greeter), []⟩ := by
  obtain ⟨g, hg, hcarries⟩ := h
  rw [World.step_greet hg hop, hcarries.greet_eq hgreet hname]

/-- A name that can be written out is greeted. -/
theorem Carrying.greets {t : Table} {v : Value} {name : String} (h : Carrying id t w)
    (hgreet : t.get? KeptGreeter.greetKey = none) (hname : t.get? KeptGreeter.nameKey = some v)
    (hplain : v.plain w.host.writeRoom = .ok name) : w.Greets id (Greeter.greet ⟨name⟩) := by
  intro s hop
  rw [h.step_greet hgreet hname hop, hplain]
  rfl

/-- A name that cannot be written out makes the greeting fail. -/
theorem Carrying.failsToGreet {t : Table} {v : Value} {fault : Unwritable} (h : Carrying id t w)
    (hgreet : t.get? KeptGreeter.greetKey = none) (hname : t.get? KeptGreeter.nameKey = some v)
    (hplain : v.plain w.host.writeRoom = .error fault) :
    w.FailsToGreet id (.greeter (.unwritable fault)) := by
  intro s hop
  rw [h.step_greet hgreet hname hop, hplain]
  rfl

theorem Standing.greets (h : Standing id n w) : w.Greets id (Greeter.greet ⟨n⟩) :=
  h.carrying.greets rfl rfl rfl

theorem Standing.name_unique (h : Standing id n w) (h' : Standing id n' w) : n = n' := by
  obtain ⟨g, hg, hmade⟩ := h
  obtain ⟨g', hg', hmade'⟩ := h'
  cases hg.symm.trans hg'
  have hname := hmade.name.symm.trans hmade'.name
  cases hname
  rfl

/-- Greeters as they were made compare by their names. -/
theorem Standing.compares (h : Standing id n w) (h' : Standing id' n' w) :
    w.Compares id id' (n == n') (n == n') := by
  have hself : id = id' → n = n' := by
    rintro rfl
    exact h.name_unique h'
  obtain ⟨g, hg, hmade⟩ := h
  obtain ⟨g', hg', hmade'⟩ := h'
  have hcompare : compareGreeters g g' (id == id') = .ok (.comparison (n == n') (n == n')) := by
    unfold compareGreeters
    rw [hmade.checkName_eq, hmade'.checkName_eq]
    by_cases hid : id = id'
    · rw [hself hid, beq_iff_eq.mpr hid, hmade.equalsItself_eq, beq_self_eq_true]
      rfl
    · rw [beq_eq_false_iff_ne.mpr hid, hmade.equals_eq hmade']
      rfl
  intro s hop
  show ((w.prepared s).perform _ _ s.operation).2 = _
  rw [hop, perform, greeter_prepared hg, greeter_prepared hg']
  show (reply _ ((compareGreeters g g' (id == id')).mapError _)).2 = _
  rw [hcompare]
  rfl

theorem greet_injective {m m' : String} :
    Greeter.greet ⟨m⟩ = Greeter.greet ⟨m'⟩ ↔ m = m' := by
  unfold Greeter.greet
  rw [← String.toList_inj, String.toList_append, String.toList_append, List.append_cancel_left_eq,
    String.toList_inj]

end Answers

/-- Making a greeter succeeds if and only if the fields give a name that is a text, whatever else
they give. -/
theorem making_succeeds_iff {w : World} {s : Step} {id : String} {fields : Table}
    (hop : s.operation = .makeGreeter id fields) :
    (∃ r, (w.step s).2.reply = .ok r) ↔ ∃ n, fields.get? "name" = some (.text n) := by
  constructor
  · rintro ⟨r, hr⟩
    rcases step_makeGreeter (w := w) hop with ⟨report, hstep⟩ | ⟨n, fields', hop', hname⟩
    · rw [hstep] at hr
      cases hr
    · cases hop.symm.trans hop'
      exact ⟨n, hname⟩
  · rintro ⟨n, hname⟩
    rw [step_of_makes (w := w) ⟨fields, hop, hname⟩]
    exact ⟨_, rfl⟩

/-- **Greeters over a session.**

Making a greeter succeeds if and only if its fields give a name that is a text. Nothing can be put
under a key that is no mark. A greeter that is kept has been given its fields by being made, or else
by a table that took the place of all its fields, and there was a last time. If it was made, it
greets the name it was made with, whatever was done since. If a table took the place of its fields,
it greets the name in that table, unless the table has something in the way of the greeting; a name
that cannot be written out makes it fail.

Two greeters that have been made, and that were not put anything since under a mark that changes
what they count as, are equal if and only if they are one among themselves, and if and only if they
have the same name, and if and only if they greet alike. -/
theorem greeters_over_session (host : Host) (ss : List Step) :
    (∀ (w : World) (s : Step) (id : String) (fields : Table),
      s.operation = .makeGreeter id fields →
      ((∃ r, (w.step s).2.reply = .ok r) ↔ ∃ n, fields.get? "name" = some (.text n))) ∧
    (∀ id key v w s, Puts id key v w s → KeptGreeter.isMark key = true) ∧
    (∀ id, ((fresh host).steps ss).1.greeters.lookup id = none ∨
      (∃ n, Since (Makes id n) (GivesFields id) (fresh host) ss) ∨
      ∃ t, Since (Puts id "__dict__" (.table t)) (GivesFields id) (fresh host) ss) ∧
    (∀ id n, Since (Makes id n) (GivesFields id) (fresh host) ss →
      ((fresh host).steps ss).1.Greets id (Greeter.greet ⟨n⟩)) ∧
    (∀ id (t : Table) (v : Value),
      Since (Puts id "__dict__" (.table t)) (GivesFields id) (fresh host) ss →
      t.get? "greet" = none → t.get? "name" = some v →
      (∀ name, v.plain host.writeRoom = .ok name →
        ((fresh host).steps ss).1.Greets id (Greeter.greet ⟨name⟩)) ∧
      (∀ fault, v.plain host.writeRoom = .error fault →
        ((fresh host).steps ss).1.FailsToGreet id (.greeter (.unwritable fault)))) ∧
    ∀ id id' n n', Since (Makes id n) (ChangesStanding id) (fresh host) ss →
      Since (Makes id' n') (ChangesStanding id') (fresh host) ss →
      ∃ equal single greeting greeting',
        ((fresh host).steps ss).1.Compares id id' equal single ∧
        ((fresh host).steps ss).1.Greets id greeting ∧
        ((fresh host).steps ss).1.Greets id' greeting' ∧
        [equal = true, single = true, n = n', greeting = greeting'].TFAE := by
  refine ⟨fun _ _ _ _ => making_succeeds_iff, ?_, fun _ => since_givesFields rfl, ?_, ?_, ?_⟩
  · intro id key v w s hputs
    obtain ⟨g, g', hput, -⟩ := step_of_puts hputs
    exact hput.isMark
  · intro id n h
    exact (carrying_since_makes h).greets rfl rfl rfl
  · intro id t v h hgreet hname
    have hcarrying := carrying_since_puts h
    have hhost : ((fresh host).steps ss).1.host = host := steps_host _ _
    refine ⟨fun name hplain => hcarrying.greets hgreet hname ?_,
      fun fault hplain => hcarrying.failsToGreet hgreet hname ?_⟩
    · rw [hhost, hplain]
    · rw [hhost, hplain]
  · intro id id' n n' h h'
    have hstanding := standing_since_makes h
    have hstanding' := standing_since_makes h'
    refine ⟨n == n', n == n', Greeter.greet ⟨n⟩, Greeter.greet ⟨n'⟩,
      hstanding.compares hstanding', hstanding.greets, hstanding'.greets, ?_⟩
    -- All four come down to the names, which a greeting gives away.
    tfae_have 1 ↔ 2 := Iff.rfl
    tfae_have 1 ↔ 3 := beq_iff_eq
    tfae_have 4 ↔ 3 := greet_injective
    tfae_finish

/-- A step that does one operation at the beginning of time and touches no files. -/
def doing (op : Operation) : Step := ⟨[], 0, none, op⟩

/-- Two greeters of one name are made. -/
def makingTwo : List Step :=
  [doing (.makeGreeter "g" [("name", .text "a"), ("age", .int 3)]),
    doing (.makeGreeter "h" [("name", .text "a")])]

/-- A note is put to the first one, its name is not changed, and it is not made anew. -/
def disturbing : List Step :=
  [doing (.setField "g" "_note" (.text "b")), doing (.setField "g" "name" (.text "b")),
    doing (.makeGreeter "g" [("name", .int 1)])]

theorem never_changesStanding_disturbing (id : String) (w : World) :
    Never (ChangesStanding id) w disturbing := by
  have hput : ∀ {v : World} {key : String} {x : Value}, key ∉ KeptGreeter.tellingKeys →
      ¬ ChangesStanding id v (doing (.setField "g" key x)) := by
    rintro v key x hkey (⟨n, fields, hop, -⟩ | ⟨key', hkey', y, hop, -⟩)
    · cases hop
    · cases hop
      exact hkey hkey'
  have hmake : ∀ v, ¬ ChangesStanding id v (doing (.makeGreeter "g" [("name", .int 1)])) := by
    rintro v (⟨n, fields, hop, hname⟩ | ⟨key, hkey, y, hop, -⟩)
    · cases hop
      cases hname
    · cases hop
  refine never_cons.mpr ⟨hput (by decide), never_cons.mpr ⟨hput (by decide),
    never_cons.mpr ⟨hmake _, never_nil _ _⟩⟩⟩

/-- None of this shows: the greeters are equal and greet alike. -/
theorem greeters_over_session_undisturbed :
    ((fresh (.lone ["home"])).steps (makingTwo ++ disturbing)).1.Compares "g" "h" true true ∧
    ∃ greeting, ((fresh (.lone ["home"])).steps (makingTwo ++ disturbing)).1.Greets "g" greeting ∧
      ((fresh (.lone ["home"])).steps (makingTwo ++ disturbing)).1.Greets "h" greeting := by
  obtain ⟨-, -, -, -, -, hcompare⟩ :=
    greeters_over_session (.lone ["home"]) (makingTwo ++ disturbing)
  have hother : ∀ v, ¬ ChangesStanding "g" v (doing (.makeGreeter "h" [("name", .text "a")])) := by
    rintro v (⟨n, fields, hop, -⟩ | ⟨key, hkey, y, hop, -⟩)
    · simp [doing] at hop
    · cases hop
  have hg : Since (Makes "g" "a") (ChangesStanding "g") (fresh (.lone ["home"]))
      (makingTwo ++ disturbing) :=
    ⟨[], _, _, rfl, ⟨_, rfl, rfl⟩,
      never_cons.mpr ⟨hother _, never_changesStanding_disturbing _ _⟩⟩
  have hh : Since (Makes "h" "a") (ChangesStanding "h") (fresh (.lone ["home"]))
      (makingTwo ++ disturbing) :=
    ⟨[doing _], _, _, rfl, ⟨_, rfl, rfl⟩, never_changesStanding_disturbing _ _⟩
  obtain ⟨equal, single, greeting, greeting', hcompares, hgreets, hgreets', htfae⟩ :=
    hcompare "g" "h" "a" "a" hg hh
  have hequal : equal = true := (htfae.out 0 2).mpr rfl
  have hsingle : single = true := (htfae.out 1 2).mpr rfl
  have hgreeting : greeting = greeting' := (htfae.out 3 2).mpr rfl
  subst hequal hsingle hgreeting
  exact ⟨hcompares, greeting, hgreets, hgreets'⟩

/-- The fields of a greeter are not quite frozen: what a greeter greets changes if a table takes the
place of its fields, and greeters of one name are not equal if one of them is given hidden values.
-/
theorem greeter_changed :
    (∃ ss, Since (Makes "g" "a") (fun w s => ∃ n, Makes "g" n w s) (fresh (.lone ["home"])) ss ∧
      ¬ ((fresh (.lone ["home"])).steps ss).1.Greets "g" (Greeter.greet ⟨"a"⟩)) ∧
    ∃ ss, ((fresh (.lone ["home"])).steps ss).1.Greets "g" (Greeter.greet ⟨"a"⟩) ∧
      ((fresh (.lone ["home"])).steps ss).1.Greets "h" (Greeter.greet ⟨"a"⟩) ∧
      ((fresh (.lone ["home"])).steps ss).1.Compares "g" "h" false false := by
  refine ⟨⟨makingTwo ++ [doing (.setField "g" "__dict__" (.table [("name", .text "b")]))],
    ?_, ?_⟩, makingTwo ++ [doing (.setField "g" "__pydantic_private__" (.table []))], ?_⟩
  · refine ⟨[], _, _, rfl, ⟨_, rfl, rfl⟩, never_cons.mpr ⟨?_, never_cons.mpr ⟨?_, never_nil _ _⟩⟩⟩
    · rintro ⟨n, fields, hop, -⟩
      simp [doing] at hop
    · rintro ⟨n, fields, hop, -⟩
      cases hop
  · intro hgreets
    have hanswer := hgreets (doing (.greet "g")) rfl
    have hreply : (Except.ok (.text "hello b") : Except Failure Reply) = .ok (.text "hello a") :=
      congrArg Answer.reply hanswer
    simp at hreply
  · refine ⟨?_, ?_, ?_⟩
    · exact greets_of_greet rfl rfl
    · exact greets_of_greet rfl rfl
    · intro s hop
      show ((World.prepared _ s).perform _ _ s.operation).2 = _
      rw [hop, perform, greeter_prepared rfl, greeter_prepared rfl]
      rfl

end World

end GreetCalc
