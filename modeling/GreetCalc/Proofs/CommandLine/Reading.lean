import GreetCalc.CommandLine.Invocation
import GreetCalc.Proofs.CommandLine.Token
import Mathlib.Logic.Relation

/-!
# What accepted arguments hold

Reading the arguments of a command changes a draft step by step. `Draft.Step` says once what a
single step can do, whichever argument is behind it, and `takeAll_steps` that the whole reading is
a run of such steps. The invariants below follow from the steps alone:

* an operand is missing only as long as its place is free (`Draft.Accounted`);
* nothing is left empty unless the marker was given as a word or as a value (`Draft.Filled`).

Together they say what an accepted invocation holds (`Invocation.Complete`, `Invocation.Filled`).
-/

namespace GreetCalc.CommandLine

/-! ## Steps -/

/-- The operand on a side, as far as it has been taken. -/
def Draft.operand (d : Draft) : Addition.Side → Entry Int
  | .left => d.left
  | .right => d.right

/-- What taking an argument can do to a draft. A field is left empty only where the marker was
given, which `marked` stands for. -/
inductive Draft.Step (marked : Prop) (d : Draft) : Draft → Prop
  | rest (extras : List String) : Step marked d { d with placed := false, extras := extras }
  /-- The place of the name stays without one. -/
  | pass {free : List Place} : d.free = .name :: free → Step marked d { d with free := free }
  | name {free : List Place} (word : Option String) : d.free = .name :: free →
      Step marked d { d with free := free, placed := true, name := word }
  | operand {free : List Place} {side : Addition.Side} {x : Entry Int} :
      d.free = .operand side :: free → x ≠ .absent → (x = .empty → marked) →
      Step marked d (Draft.setOperand { d with free := free, placed := true } side x)
  | root {x : Entry String} : (x = .empty → marked) →
      Step marked d { d with placed := false, root := x }
  | level {x : Entry LevelName} : (x = .empty → marked) →
      Step marked d { d with placed := false, level := x }
  | overflow {x : Entry OverflowMode} : (x = .empty → marked) →
      Step marked d { d with placed := false, overflow := x }

/-- A run of steps. -/
abbrev Draft.Steps (marked : Prop) : Draft → Draft → Prop :=
  Relation.ReflTransGen (Draft.Step marked)

/-- Both parts of a computation have gone well if the whole has. -/
theorem bind_ok {ε α β : Type} {x : Except ε α} {f : α → Except ε β} {b : β}
    (h : x >>= f = .ok b) : ∃ a, x = .ok a ∧ f a = .ok b := by
  cases x with
  | error e => cases h
  | ok a => exact ⟨a, rfl, h⟩

theorem onPage_ok {α : Type} {page : Page} {x : Except Complaint α} {a : α}
    (h : onPage page x = .ok a) : x = .ok a := by
  cases x with
  | error e => cases h
  | ok b => cases h; rfl

variable {marked : Prop} {d d' : Draft}

/-- Taking a word is one of the steps; the place stays empty only for the marker. -/
theorem takeWord_step {s : String} {word : Option String} (hw : word = none → marked)
    (h : d.takeWord s word = .ok d') : d.Step marked d' := by
  unfold Draft.takeWord at h
  split at h
  · cases h
    exact .rest _
  · next p free hfree =>
    cases p with
    | name =>
        cases h
        exact .name word hfree
    | operand side =>
        cases word with
        | none =>
            cases h
            exact .operand hfree (by simp) fun _ => hw rfl
        | some w =>
            simp only [Draft.fill] at h
            split at h
            · cases h
              exact .operand hfree (by simp) (by simp)
            · cases h

theorem takeValue_step {o : Switch} {s : String} (hm : s = marker → marked)
    (h : d.takeValue o s = .ok d') : d.Step marked d' := by
  cases o with
  | help => cases h
  | verbose => cases h
  | root =>
      cases h
      apply Draft.Step.root
      split
      · next hs =>
        intro _
        exact hm hs
      · intro he
        cases he
  | logLevel =>
      -- The marker leaves the level empty; any other value is a level or is complained about.
      simp only [Draft.takeValue] at h
      split at h
      · next hs =>
        cases h
        exact .level fun _ => hm hs
      · split at h
        · cases h
          exact .level fun he => nomatch he
        · cases h
  | overflow =>
      simp only [Draft.takeValue] at h
      split at h
      · next hs =>
        cases h
        exact .overflow fun _ => hm hs
      · split at h
        · cases h
          exact .overflow fun he => nomatch he
        · cases h

/-- Switches without values set the level at most. -/
theorem takeSwitches_cases {page : Page} {os : List Switch}
    (h : takeSwitches page d os = .ok d') :
    d' = { d with placed := false } ∨ d' = { d with placed := false, level := .given .debug } := by
  induction os generalizing d with
  | nil =>
      cases h
      exact .inl rfl
  | cons o os ih =>
      cases o with
      | help => cases h
      | verbose =>
          rcases ih h with rfl | rfl
          · exact .inr rfl
          · exact .inr rfl
      | root => exact ih h
      | logLevel => exact ih h
      | overflow => exact ih h

theorem takeSwitches_step {page : Page} {os : List Switch}
    (h : takeSwitches page d os = .ok d') : d.Step marked d' := by
  rcases takeSwitches_cases h with rfl | rfl
  · exact .rest d.extras
  · apply Draft.Step.level
    intro he
    cases he

/-! ## Runs -/

/-- The marker is the token itself or the value attached to it. -/
def Token.HoldsMarker (t : Token) : Prop := t = .word marker ∨ ∃ o, t = .long o (some marker)

/-- Taking tokens is a run of steps, if the marker is `marked` wherever a token holds it. -/
theorem take_steps {c : Command} {ts : List Token} (hm : ∀ t ∈ ts, t.HoldsMarker → marked)
    (h : take c d ts = .ok d') : d.Steps marked d' := by
  fun_induction take c d ts with
  | case1 d =>
      cases h
      exact .refl
  | case2 d s ts ih =>
      obtain ⟨-, htail⟩ := List.forall_mem_cons.mp hm
      obtain ⟨d₁, h₁, h⟩ := bind_ok h
      exact .head (takeWord_step (by simp) (onPage_ok h₁)) (ih d₁ htail h)
  | case3 d s ts ih =>
      obtain ⟨-, htail⟩ := List.forall_mem_cons.mp hm
      exact .head (.rest _) (ih htail h)
  | case4 d o attached ts ih =>
      obtain ⟨-, htail⟩ := List.forall_mem_cons.mp hm
      obtain ⟨os, _, h⟩ := bind_ok h
      obtain ⟨d₁, h₁, h⟩ := bind_ok h
      exact .head (takeSwitches_step h₁) (ih d₁ htail h)
  | case5 d o s ts ih =>
      obtain ⟨hhead, htail⟩ := List.forall_mem_cons.mp hm
      obtain ⟨d₁, h₁, h⟩ := bind_ok h
      have hvalue : s = marker → marked := by
        rintro rfl
        exact hhead (.inr ⟨o, rfl⟩)
      exact .head (takeValue_step hvalue (onPage_ok h₁)) (ih d₁ htail h)
  | case6 d o ho s ts ih =>
      -- The value is the word after the switch, so two tokens go at once.
      obtain ⟨-, hm⟩ := List.forall_mem_cons.mp hm
      obtain ⟨hhead, htail⟩ := List.forall_mem_cons.mp hm
      obtain ⟨d₁, h₁, h⟩ := bind_ok h
      have hvalue : s = marker → marked := by
        rintro rfl
        exact hhead (.inl rfl)
      exact .head (takeValue_step hvalue (onPage_ok h₁)) (ih d₁ htail h)
  | case7 => cases h
  | case8 d o ts ho ih =>
      obtain ⟨-, htail⟩ := List.forall_mem_cons.mp hm
      obtain ⟨d₁, h₁, h⟩ := bind_ok h
      exact .head (takeSwitches_step h₁) (ih d₁ htail h)

theorem takeWords_steps {ws : List String} (hm : marked) (h : takeWords d ws = .ok d') :
    d.Steps marked d' := by
  induction ws generalizing d with
  | nil =>
      cases h
      exact .refl
  | cons w ws ih =>
      obtain ⟨d₁, h₁, h⟩ := bind_ok h
      exact .head (takeWord_step (fun _ => hm) h₁) (ih h)

theorem takeMarked_steps {ws : List String} (hm : marked) (h : takeMarked d ws = .ok d') :
    d.Steps marked d' := by
  unfold takeMarked at h
  split at h
  · exact takeWords_steps hm h
  · next hp =>
    split at h
    · next free hfree =>
      cases h
      exact .single (.pass hfree)
    · obtain ⟨d₁, h₁, h⟩ := bind_ok h
      exact .head (takeWord_step (fun _ => hm) h₁) (takeWords_steps hm h)
    · cases h
      -- Nothing was placed just before, so the flag of the step is the one that is there.
      have hplaced : d.placed = false := by simpa using hp
      have hrest : ∀ xs, d.Step marked { d with placed := false, extras := xs } := .rest
      rw [← hplaced] at hrest
      exact .single (hrest _)

/-! ## Where the marker stands -/

/-- The marker is one of the arguments, or what is attached to one by an equals sign. -/
def Marked (args : List String) : Prop :=
  ∃ s ∈ args, s = marker ∨ '=' :: marker.toList <:+ s.toList

instance (args : List String) : Decidable (Marked args) :=
  inferInstanceAs (Decidable (∃ s ∈ args, _))

theorem classifyAll_mem {available : List Switch} {args : List String} {ts : List Token}
    (h : classifyAll available args = .ok ts) {t : Token} (ht : t ∈ ts) :
    ∃ s ∈ args, classify available s = .ok t := by
  induction args generalizing ts with
  | nil =>
      cases h
      cases ht
  | cons s ss ih =>
      unfold classifyAll at h
      split at h
      · cases h
      · next t' ht' =>
        obtain ⟨ts', hts', rfl⟩ : ∃ ts', classifyAll available ss = .ok ts' ∧ t' :: ts' = ts := by
          cases hr : classifyAll available ss with
          | error e => rw [hr] at h; cases h
          | ok ts' => rw [hr] at h; exact ⟨ts', rfl, Except.ok.inj h⟩
        rcases List.mem_cons.mp ht with rfl | ht
        · exact ⟨s, List.mem_cons_self, ht'⟩
        · obtain ⟨s', hs', hc⟩ := ih hts' ht
          exact ⟨s', List.mem_cons_of_mem _ hs', hc⟩

/-- Reading the arguments of a command is a run of steps from the empty draft. -/
theorem takeAll_steps {c : Command} {args : List String} (h : takeAll c args = .ok d) :
    (Draft.start c.places).Steps (Marked args) d := by
  obtain ⟨ts, hts, h⟩ := bind_ok h
  obtain ⟨d₁, h₁, h⟩ := bind_ok h
  -- Tokens come from arguments, so a marker among them is a marker among the arguments.
  have hbefore : ∀ s ∈ args.takeWhile (· != marker), s ∈ args := fun s hs =>
    (List.takeWhile_prefix _).subset hs
  have hsteps : (Draft.start c.places).Steps (Marked args) d₁ := by
    refine take_steps ?_ h₁
    intro t ht hholds
    obtain ⟨s, hs, hc⟩ := classifyAll_mem (onPage_ok hts) ht
    refine ⟨s, hbefore s hs, ?_⟩
    rcases hholds with rfl | ⟨o, rfl⟩
    · exact .inl (eq_of_classify_word hc).symm
    · exact .inr (suffix_of_classify_long hc)
  split at h
  · cases h
    exact hsteps
  · -- What is left begins with the marker, and all words after it are taken as they stand.
    next m words hdrop =>
    have hmark : m ∈ args := (List.dropWhile_suffix _).subset (hdrop ▸ List.mem_cons_self)
    have hm : m = marker := by
      have := List.head_dropWhile_not (· != marker) (l := args) (by rw [hdrop]; simp)
      simpa [hdrop] using this
    exact hsteps.trans (takeMarked_steps ⟨m, hmark, .inl hm⟩ (onPage_ok h))

/-! ## Invariants -/

theorem Draft.operand_setOperand (d : Draft) (side side' : Addition.Side) (x : Entry Int) :
    (d.setOperand side x).operand side' = if side' = side then x else d.operand side' := by
  cases side <;> cases side' <;> rfl

/-- An operand is missing only as long as its place is free. -/
def Draft.Accounted (d : Draft) : Prop :=
  ∀ side, d.operand side = .absent → .operand side ∈ d.free

/-- Nothing has been left empty. -/
structure Draft.Filled (d : Draft) : Prop where
  root : d.root ≠ .empty
  level : d.level ≠ .empty
  overflow : d.overflow ≠ .empty
  operand : ∀ side, d.operand side ≠ .empty

/-- A step fills a place or leaves it free, so that no operand gets lost. -/
theorem Draft.Step.accounted (hs : d.Step marked d') (h : d.Accounted) : d'.Accounted := by
  intro side habsent
  cases hs with
  | pass hfree =>
      have := h side habsent
      rw [hfree] at this
      simpa using this
  | name word hfree =>
      have := h side habsent
      rw [hfree] at this
      simpa using this
  | @operand free p x hfree hx _ =>
      -- The operand of this place is there now, and the other one still has its own place.
      have hfree' : (Draft.setOperand { d with free := free, placed := true } p x).free = free := by
        cases p <;> rfl
      rw [operand_setOperand] at habsent
      rw [hfree']
      split at habsent
      · exact absurd habsent hx
      · next hne =>
        have := h side habsent
        rw [hfree] at this
        simpa [hne] using this
  | _ => exact h side habsent

/-- Without the marker a step leaves nothing empty. -/
theorem Draft.Step.filled (hs : d.Step marked d') (hm : ¬ marked) (h : d.Filled) : d'.Filled := by
  cases hs with
  | rest => exact ⟨h.root, h.level, h.overflow, h.operand⟩
  | pass => exact ⟨h.root, h.level, h.overflow, h.operand⟩
  | name => exact ⟨h.root, h.level, h.overflow, h.operand⟩
  | @operand free p x _ _ hx =>
      refine ⟨by cases p <;> exact h.root, by cases p <;> exact h.level,
        by cases p <;> exact h.overflow, ?_⟩
      intro side
      rw [operand_setOperand]
      split
      · exact fun he => hm (hx he)
      · exact h.operand side
  | root hx => exact ⟨fun he => hm (hx he), h.level, h.overflow, h.operand⟩
  | level hx => exact ⟨h.root, fun he => hm (hx he), h.overflow, h.operand⟩
  | overflow hx => exact ⟨h.root, h.level, fun he => hm (hx he), h.operand⟩

/-- At every point an operand has been given or its place is still free. -/
theorem Draft.Steps.accounted (hs : d.Steps marked d') (h : d.Accounted) : d'.Accounted := by
  induction hs with
  | refl => exact h
  | tail _ step ih => exact step.accounted ih

theorem Draft.Steps.filled (hs : d.Steps marked d') (hm : ¬ marked) (h : d.Filled) :
    d'.Filled := by
  induction hs with
  | refl => exact h
  | tail _ step ih => exact step.filled hm ih

theorem Draft.filled_start (places : List Place) : (Draft.start places).Filled := by
  refine ⟨?_, ?_, ?_, ?_⟩
  · intro he
    cases he
  · intro he
    cases he
  · intro he
    cases he
  · intro side he
    cases side <;> cases he

theorem Draft.accounted_start_add : (Draft.start Command.add.places).Accounted := by
  intro side _
  cases side <;> decide

/-! ## Commands -/

/-- What a draft amounts to once all arguments have been taken. -/
def Draft.finish (c : Command) (d : Draft) : Except Stop (Invocation × List String) :=
  match d.free.filter Place.isRequired with
  | [] => .ok (⟨d.root, d.level, d.task c⟩, d.extras)
  | missing => .error (.misuse c (.missing (missing.map Place.shown)))

/-- The arguments of a command are taken, and then the draft is finished. -/
theorem readCommand_eq (c : Command) (args : List String) :
    readCommand c args = takeAll c args >>= Draft.finish c := rfl

theorem Draft.finish_ok {c : Command} {i : Invocation} {left : List String}
    (h : d.finish c = .ok (i, left)) :
    (∀ p ∈ d.free, p.isRequired = false) ∧ i = ⟨d.root, d.level, d.task c⟩ := by
  unfold finish at h
  split at h
  · next hfree =>
    cases h
    rw [List.filter_eq_nil_iff] at hfree
    exact ⟨fun p hp => by simpa using hfree p hp, rfl⟩
  · cases h

/-- What the arguments of a command ask for, if none of them is left over. -/
def complete : Invocation × List String → Except Stop Invocation
  | (i, []) => .ok i
  | (_, extras) => .error (.misuse none (.unrecognized extras))

/-- The name of a command hands the arguments after it to the command. -/
theorem read_command (c : Command) (args : List String) :
    read (c.name :: args) = readCommand c args >>= complete := by
  have hm : c.name ≠ marker := by cases c <;> decide
  have hw : classify [.help] c.name = .ok (.word c.name) := by cases c <;> rfl
  have hc : Command.ofName? c.name = some c := by cases c <;> decide
  rw [read, readFrom, if_neg hm]
  simp only [hw, hc, List.nil_append]
  cases readCommand c args with
  | error e => rfl
  | ok r =>
      obtain ⟨i, left⟩ := r
      cases left <;> rfl

/-- Accepted arguments name a command, leave nothing over, and are accepted by this command. -/
theorem readFrom_ok {extras argv : List String} {i : Invocation}
    (h : readFrom extras argv = .ok i) :
    extras = [] ∧ ∃ c args, argv = Command.name c :: args ∧ readCommand c args = .ok (i, []) := by
  induction argv generalizing extras with
  | nil => cases h
  | cons s ss ih =>
      unfold readFrom at h
      split at h
      · cases h
      · split at h
        · cases h
        · next w hw =>
          split at h
          · cases h
          · next c hc =>
            obtain ⟨⟨i', left⟩, hr, h⟩ := bind_ok h
            have hname : c.name = s := by
              rw [← eq_of_classify_word hw]
              simpa using List.find?_some hc
            dsimp only at h
            split at h
            · next hnil =>
              cases h
              obtain ⟨rfl, rfl⟩ := List.append_eq_nil_iff.mp hnil
              exact ⟨rfl, c, ss, by rw [hname], hr⟩
            · cases h
        · -- An unknown switch before the command is left over for good.
          exact absurd (ih h).1 (by simp)
        · obtain ⟨_, _, h⟩ := bind_ok h
          cases h
        · cases h
        · cases h

/-- Arguments are accepted if they begin with the name of a command and it accepts the others. -/
theorem read_ok {argv : List String} {i : Invocation} (h : read argv = .ok i) :
    ∃ c args, argv = Command.name c :: args ∧ readCommand c args = .ok (i, []) :=
  (readFrom_ok h).2

/-! ## Invocations -/

/-- Both operands of a sum have been given, a value or nothing at all. -/
def Invocation.Complete (i : Invocation) : Prop :=
  ∀ a b m, i.task = .add a b m → a ≠ .absent ∧ b ≠ .absent

/-- Nothing has been left empty, and the operands of a sum are values. -/
structure Invocation.Filled (i : Invocation) : Prop where
  root : i.root ≠ .empty
  level : i.level ≠ .empty
  task : ∀ a b m, i.task = .add a b m → m ≠ .empty ∧ ∃ x y, a = .given x ∧ b = .given y

theorem Draft.task_eq_add {c : Command} {a b : Entry Int} {m : Entry OverflowMode}
    (h : d.task c = .add a b m) :
    c = .add ∧ d.operand .left = a ∧ d.operand .right = b ∧ d.overflow = m := by
  cases c with
  | add => cases h; exact ⟨rfl, rfl, rfl, rfl⟩
  | sample => cases h
  | greet => cases h

/-- No operand of an accepted sum is missing. -/
theorem read_complete {argv : List String} {i : Invocation} (h : read argv = .ok i) :
    i.Complete := by
  obtain ⟨c, args, rfl, hr⟩ := read_ok h
  obtain ⟨d, hd, hf⟩ := bind_ok hr
  obtain ⟨hfree, rfl⟩ := Draft.finish_ok hf
  intro a b m ht
  obtain ⟨rfl, rfl, rfl, rfl⟩ := Draft.task_eq_add ht
  -- An operand that is missing would still have its place, which is a required one.
  have hacc := (takeAll_steps hd).accounted Draft.accounted_start_add
  have hside : ∀ side, d.operand side ≠ .absent := by
    intro side habsent
    exact absurd (hfree _ (hacc side habsent)) (by simp [Place.isRequired])
  exact ⟨hside .left, hside .right⟩

/-- Without the marker nothing in accepted arguments is empty. -/
theorem read_filled {argv : List String} {i : Invocation} (h : read argv = .ok i)
    (hm : ¬ Marked argv) : i.Filled := by
  have hcomplete := read_complete h
  obtain ⟨c, args, rfl, hr⟩ := read_ok h
  obtain ⟨d, hd, hf⟩ := bind_ok hr
  obtain ⟨-, rfl⟩ := Draft.finish_ok hf
  have hargs : ¬ Marked args := by
    rintro ⟨s, hs, hmark⟩
    exact hm ⟨s, List.mem_cons_of_mem _ hs, hmark⟩
  have hfilled := (takeAll_steps hd).filled hargs (Draft.filled_start _)
  have hgiven : ∀ {x : Entry Int}, x ≠ .absent → x ≠ .empty → ∃ n, x = .given n := by
    intro x ha he
    cases x with
    | absent => exact absurd rfl ha
    | empty => exact absurd rfl he
    | given n => exact ⟨n, rfl⟩
  refine ⟨hfilled.root, hfilled.level, ?_⟩
  intro a b m ht
  obtain ⟨ha, hb⟩ := hcomplete a b m ht
  obtain ⟨rfl, rfl, rfl, rfl⟩ := Draft.task_eq_add ht
  obtain ⟨x, hx⟩ := hgiven ha (hfilled.operand .left)
  obtain ⟨y, hy⟩ := hgiven hb (hfilled.operand .right)
  exact ⟨hfilled.overflow, x, y, hx, hy⟩

end GreetCalc.CommandLine
