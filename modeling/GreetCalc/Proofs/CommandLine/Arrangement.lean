import GreetCalc.CommandLine.Run
import GreetCalc.Proofs.Addition
import GreetCalc.Proofs.CommandLine.Reading
import GreetCalc.Proofs.Log

/-!
# Arrangements of arguments

The words of a command and the switches before, between and after them can be arranged in many
ways, and a switch can be spelled in many ways. None of this matters: a run sees the words in
their order and the choices in theirs (`run_arranged`).

* `Choice` is what a switch asks for, and `Spelled` the ways of writing it: by its letter, by a
  beginning of its name, with the value attached or apart.
* `Arranged c words choices args` says that `args` puts `words` and spelled `choices` together,
  each in their order. It is the relation that the reader of arguments undoes.

The proof is a commutation: taking a word fills a place, taking a choice sets a field that no word
touches, so every choice can wait until all words have been taken (`takeWords_set`).
-/

namespace GreetCalc.CommandLine

/-! ## Choices -/

/-- What a switch asks for, help apart. -/
inductive Choice where
  | verbose
  | level (l : LevelName)
  | root (r : String)
  | overflow (m : OverflowMode)
  deriving DecidableEq, Repr

namespace Choice

/-- The switch that asks for it. -/
def switch : Choice → Switch
  | .verbose => .verbose
  | .level _ => .logLevel
  | .root _ => .root
  | .overflow _ => .overflow

/-- The value that the switch is given. -/
def value? : Choice → Option String
  | .verbose => none
  | .level l => some l.text
  | .root r => some r
  | .overflow m => some m.text

/-- The arguments that write a choice in full. -/
def full (o : Choice) : List String := o.switch.long :: o.value?.toList

/-- The draft in which a choice has been taken. -/
def set (o : Choice) (d : Draft) : Draft :=
  match o with
  | .verbose => { d with level := .given .debug }
  | .level l => { d with level := .given l }
  | .root r => { d with root := .given r }
  | .overflow m => { d with overflow := .given m }

end Choice

/-- The ways of writing a choice. -/
inductive Spelled (c : Command) : Choice → List String → Prop
  | letter : Spelled c .verbose ["-v"]
  | flag {s : List Char} : Abbreviates c .verbose s → Spelled c .verbose [String.ofList s]
  | apart {o : Choice} {s : List Char} {v : String} : o.value? = some v → Plain v →
      Abbreviates c o.switch s → Spelled c o [String.ofList s, v]
  | attached {o : Choice} {s : List Char} {v : String} : o.value? = some v → Plain v →
      Abbreviates c o.switch s → Spelled c o [String.ofList (s ++ '=' :: v.toList)]

/-! ## Words and arrangements -/

/-- A numeral: digits, and possibly a minus sign before them. -/
def IsNumeral (s : String) : Prop :=
  isDigits s.toList = true ∨ ∃ ds, s.toList = '-' :: ds ∧ isDigits ds = true

/-- The words that a command is given. -/
inductive WordsOf : Command → List String → Prop
  | add {a b : String} : IsNumeral a → IsNumeral b → WordsOf .add [a, b]
  | sample : WordsOf .sample []
  | greet : WordsOf .greet []
  | greetName {n : String} : Plain n → WordsOf .greet [n]

/-- `args` holds the words and the choices, each in their order. -/
inductive Arranged (c : Command) : List String → List Choice → List String → Prop
  | nil : Arranged c [] [] []
  | word {w : String} {ws : List String} {os : List Choice} {args : List String} :
      Arranged c ws os args → Arranged c (w :: ws) os (w :: args)
  | choice {o : Choice} {spelling ws : List String} {os : List Choice} {args : List String} :
      Spelled c o spelling → Arranged c ws os args → Arranged c ws (o :: os) (spelling ++ args)

/-- The arrangement with the words first and every choice in full. -/
def canonical (words : List String) (choices : List Choice) : List String :=
  words ++ choices.flatMap Choice.full

/-! ## Classifying an arrangement -/

/-- What the reader takes for a word. -/
def IsWord (c : Command) (s : String) : Prop :=
  classify c.switches s = .ok (.word s) ∧ s ≠ marker

/-- What begins with no dash is taken for a word by every command. -/
theorem isWord_of_plain {c : Command} {s : String} (h : Plain s) : IsWord c s :=
  ⟨classify_of_plain h _, ne_marker_of_plain h⟩

/-- A numeral with a minus sign begins like a switch and is taken for a word all the same. -/
theorem isWord_of_isNumeral {c : Command} {s : String} (h : IsNumeral s) : IsWord c s := by
  rcases h with hd | ⟨ds, hs, hd⟩
  · apply isWord_of_plain
    intro hhead
    have hmem : '-' ∈ s.toList := List.mem_of_head? hhead
    rw [isDigits, Bool.and_eq_true, List.all_eq_true] at hd
    exact absurd (hd.2 _ hmem) (by decide)
  · refine ⟨classify_negative hs hd _, ?_⟩
    -- The marker is a dash before a dash, which is no digit.
    rintro rfl
    have : ds = ['-'] := by
      have hm : marker.toList = ['-', '-'] := rfl
      rw [hm] at hs
      exact (List.cons.inj hs).2.symm
    subst this
    exact absurd hd (by decide)

theorem WordsOf.isWord {c : Command} {words : List String} (h : WordsOf c words) :
    ∀ w ∈ words, IsWord c w := by
  cases h with
  | add ha hb =>
      intro w hw
      simp only [List.mem_cons, List.not_mem_nil, or_false] at hw
      rcases hw with rfl | rfl
      · exact isWord_of_isNumeral ha
      · exact isWord_of_isNumeral hb
  | sample => intro w hw; cases hw
  | greet => intro w hw; cases hw
  | greetName hn =>
      intro w hw
      rw [List.mem_singleton.mp hw]
      exact isWord_of_plain hn

theorem classifyAll_append {available : List Switch} {xs ys : List String} {ts us : List Token}
    (hx : classifyAll available xs = .ok ts) (hy : classifyAll available ys = .ok us) :
    classifyAll available (xs ++ ys) = .ok (ts ++ us) := by
  induction xs generalizing ts with
  | nil => cases hx; exact hy
  | cons x xs ih =>
      rw [List.cons_append]
      unfold classifyAll at hx ⊢
      split at hx
      · cases hx
      · next t ht =>
        cases hrest : classifyAll available xs with
        | error e => rw [hrest] at hx; cases hx
        | ok ts' =>
            rw [hrest] at hx
            cases hx
            rw [ih hrest]
            rfl

/-! ## Taking a choice -/

theorem Choice.takeValue_eq {o : Choice} {v : String} (hv : o.value? = some v) (hm : v ≠ marker)
    (d : Draft) : d.takeValue o.switch v = .ok { o.set d with placed := false } := by
  cases o with
  | verbose => cases hv
  | level l =>
      cases hv
      simp only [Draft.takeValue, Choice.switch, if_neg hm, LevelName.ofText?_text, Choice.set]
  | root r =>
      cases hv
      simp only [Draft.takeValue, Choice.switch, if_neg hm, Choice.set]
  | overflow m =>
      cases hv
      simp only [Draft.takeValue, Choice.switch, if_neg hm, OverflowMode.ofText?_text, Choice.set]

theorem Choice.takesValue_switch {o : Choice} {v : String} (hv : o.value? = some v) :
    o.switch.takesValue = true := by
  cases o with
  | verbose => cases hv
  | level => rfl
  | root => rfl
  | overflow => rfl

theorem take_flag (c : Command) (d : Draft) {o : Switch} (ho : o.takesValue = false)
    (ts : List Token) :
    take c d (.long o none :: ts) = takeSwitches c d [o] >>= fun d' => take c d' ts := by
  conv => lhs; unfold take
  simp [ho]

/-- What the spellings of a choice are taken for. -/
inductive Choice.Classified : Choice → List Token → Prop
  | letter : Classified .verbose [.short .verbose none]
  | flag : Classified .verbose [.long .verbose none]
  | apart {o : Choice} {v : String} : o.value? = some v → v ≠ marker →
      Classified o [.long o.switch none, .word v]
  | attached {o : Choice} {v : String} : o.value? = some v → v ≠ marker →
      Classified o [.long o.switch (some v)]

/-- Every spelling of a choice is classified as the tokens of this choice. -/
theorem Spelled.classified {c : Command} {o : Choice} {spelling : List String}
    (h : Spelled c o spelling) :
    ∃ ts, classifyAll c.switches spelling = .ok ts ∧ o.Classified ts := by
  cases h with
  | letter => exact ⟨_, by cases c <;> rfl, .letter⟩
  | flag ha => exact ⟨_, by simp only [classifyAll, ha.classify]; rfl, .flag⟩
  | apart hv hp ha =>
      refine ⟨_, ?_, .apart hv (ne_marker_of_plain hp)⟩
      simp only [classifyAll, ha.classify, classify_of_plain hp]
      rfl
  | attached hv hp ha =>
      refine ⟨_, ?_, .attached hv (ne_marker_of_plain hp)⟩
      simp only [classifyAll, ha.classify_attached]
      rfl

/-- However a choice is spelled, taking the spelling takes the choice. -/
theorem Choice.Classified.taken {o : Choice} {ts : List Token} (h : o.Classified ts)
    (c : Command) (d : Draft) (rest : List Token) :
    take c d (ts ++ rest) = take c { o.set d with placed := false } rest := by
  cases h with
  | letter =>
      rw [List.singleton_append, take]
      rfl
  | flag =>
      rw [List.singleton_append, take_flag c d rfl]
      rfl
  | apart hv hm =>
      rw [List.cons_append, List.singleton_append, take, if_pos (Choice.takesValue_switch hv),
        Choice.takeValue_eq hv hm]
      rfl
  | attached hv hm =>
      rw [List.singleton_append, take, Choice.takeValue_eq hv hm]
      rfl

/-! ## Choices can wait -/

/-- Take choices in their order. -/
def setAll (os : List Choice) (d : Draft) : Draft := os.foldl (fun d o => o.set d) d

/-- No word touches a field that a choice sets, and no choice one that a word does. -/
theorem Choice.takeWord_set (o : Choice) (d : Draft) (s : String) (word : Option String) :
    (o.set d).takeWord s word = (d.takeWord s word).map o.set := by
  have hfree : (o.set d).free = d.free := by cases o <;> rfl
  unfold Draft.takeWord
  rw [hfree]
  split
  · cases o <;> rfl
  · next p free _ =>
    cases p with
    | name => cases o <;> rfl
    | operand side =>
        cases word with
        | none => cases o <;> cases side <;> rfl
        | some w =>
            simp only [Draft.fill]
            cases Decimal.readInt? w with
            | none => rfl
            | some n => cases o <;> cases side <;> rfl

/-- A choice and words can be taken in either order. -/
theorem takeWords_set (o : Choice) (d : Draft) (ws : List String) :
    takeWords (o.set d) ws = (takeWords d ws).map o.set := by
  induction ws generalizing d with
  | nil => rfl
  | cons w ws ih =>
      unfold takeWords
      rw [o.takeWord_set]
      cases d.takeWord w (if w = marker then none else some w) with
      | error e => rfl
      | ok d' => exact ih d'

/-- Whether the last argument found a place no longer matters at the end. -/
theorem takeWords_placed (c : Command) (os : List Choice) (d : Draft) (b : Bool)
    (ws : List String) :
    (onPage c (takeWords { d with placed := b } ws) >>= fun d' => (setAll os d').finish c) =
      onPage c (takeWords d ws) >>= fun d' => (setAll os d').finish c := by
  cases ws with
  | cons w ws => rfl
  | nil =>
      show (setAll os { d with placed := b }).finish c = (setAll os d).finish c
      induction os generalizing d with
      | nil => rfl
      | cons o os ih =>
          show (setAll os (o.set { d with placed := b })).finish c = _
          have : o.set { d with placed := b } = { o.set d with placed := b } := by
            cases o <;> rfl
          rw [this, ih]
          rfl

/-- Taking an arrangement is taking its words and then its choices. -/
theorem Arranged.taken {c : Command} {ws args : List String} {os : List Choice}
    (h : Arranged c ws os args) (hw : ∀ w ∈ ws, IsWord c w) :
    ∃ ts, classifyAll c.switches args = .ok ts ∧
      ∀ d, (take c d ts >>= Draft.finish c) =
        onPage c (takeWords d ws) >>= fun d' => (setAll os d').finish c := by
  induction h with
  | nil => exact ⟨[], rfl, fun d => rfl⟩
  | @word w ws os args _ ih =>
      obtain ⟨ts, hts, htake⟩ := ih fun x hx => hw x (List.mem_cons_of_mem _ hx)
      have hhead := hw w List.mem_cons_self
      refine ⟨.word w :: ts, by simp only [classifyAll, hhead.1, hts]; rfl, ?_⟩
      intro d
      rw [take, takeWords, if_neg hhead.2]
      cases d.takeWord w (some w) with
      | error e => rfl
      | ok d' => exact htake d'
  | @choice o spelling ws os args hs _ ih =>
      obtain ⟨ts, hts, htake⟩ := ih hw
      obtain ⟨us, hus, hclassified⟩ := hs.classified
      refine ⟨us ++ ts, classifyAll_append hus hts, ?_⟩
      intro d
      -- The choice is taken first; by commutation it may as well be taken after all words.
      rw [hclassified.taken, htake, takeWords_placed, takeWords_set]
      cases takeWords d ws with
      | error e => rfl
      | ok d' => rfl

/-! ## Reading an arrangement -/

theorem Spelled.ne_marker {c : Command} {o : Choice} {spelling : List String}
    (h : Spelled c o spelling) : ∀ s ∈ spelling, s ≠ marker := by
  -- A spelling that begins with a long name is longer than the marker.
  have hlong : ∀ {sw : Switch} {s t : List Char}, Abbreviates c sw s →
      String.ofList (s ++ t) ≠ marker := by
    intro sw s t ha he
    have hlen := congrArg (fun x => x.toList.length) he
    have h2 := ha.named
    simp only [String.toList_ofList, List.length_append] at hlen
    have : marker.toList.length = 2 := rfl
    omega
  cases h with
  | letter => decide
  | flag ha =>
      intro s hs
      rw [List.mem_singleton.mp hs]
      simpa using hlong (t := []) ha
  | apart hv hp ha =>
      intro s hs
      simp only [List.mem_cons, List.not_mem_nil, or_false] at hs
      rcases hs with rfl | rfl
      · simpa using hlong (t := []) ha
      · exact ne_marker_of_plain hp
  | attached hv hp ha =>
      intro s hs
      rw [List.mem_singleton.mp hs]
      exact hlong ha

theorem Arranged.ne_marker {c : Command} {ws args : List String} {os : List Choice}
    (h : Arranged c ws os args) (hw : ∀ w ∈ ws, IsWord c w) : ∀ s ∈ args, s ≠ marker := by
  induction h with
  | nil => intro s hs; cases hs
  | word _ ih =>
      intro s hs
      rcases List.mem_cons.mp hs with rfl | hs
      · exact (hw s List.mem_cons_self).2
      · exact ih (fun x hx => hw x (List.mem_cons_of_mem _ hx)) s hs
  | choice hsp _ ih =>
      intro s hs
      rcases List.mem_append.mp hs with hs | hs
      · exact hsp.ne_marker s hs
      · exact ih hw s hs

/-- Without the marker all arguments are classified and then taken. -/
theorem takeAll_of_ne_marker (c : Command) {args : List String} (h : ∀ s ∈ args, s ≠ marker) :
    takeAll c args =
      onPage c (classifyAll c.switches args) >>= take c (Draft.start c.places) := by
  have hall : ∀ s ∈ args, (s != marker) = true := by
    intro s hs
    simpa using h s hs
  have htake : args.takeWhile (· != marker) = args := List.takeWhile_eq_self_iff.mpr hall
  have hdrop : args.dropWhile (· != marker) = [] := List.dropWhile_eq_nil_iff.mpr hall
  unfold takeAll
  dsimp only
  rw [htake, hdrop]
  cases onPage c (classifyAll c.switches args) with
  | error e => rfl
  | ok ts =>
      show (take c _ ts >>= fun d => Except.ok d) = take c _ ts
      cases take c (Draft.start c.places) ts <;> rfl

/-- What an arrangement is read as: the words are taken in their order and then the choices. -/
theorem readCommand_arranged {c : Command} {ws args : List String} {os : List Choice}
    (h : Arranged c ws os args) (hw : ∀ w ∈ ws, IsWord c w) :
    readCommand c args =
      onPage c (takeWords (Draft.start c.places) ws) >>= fun d => (setAll os d).finish c := by
  obtain ⟨ts, hts, htake⟩ := h.taken hw
  rw [readCommand_eq, takeAll_of_ne_marker c (h.ne_marker hw), hts]
  exact htake _

/-! ## The canonical arrangement -/

/-- A choice that can be spelled at all can be spelled in full. -/
theorem Spelled.full {c : Command} {o : Choice} {spelling : List String}
    (h : Spelled c o spelling) : Spelled c o o.full := by
  cases h with
  | letter =>
      have hv : Switch.verbose ∈ c.switches := by cases c <;> decide
      simpa [Choice.full, Choice.value?, Choice.switch] using .flag (Abbreviates.full hv)
  | flag ha =>
      simpa [Choice.full, Choice.value?, Choice.switch] using .flag (Abbreviates.full ha.available)
  | apart hv hp ha =>
      have := Spelled.apart hv hp (Abbreviates.full ha.available)
      rwa [String.ofList_toList, ← Option.toList_some, ← hv] at this
  | attached hv hp ha =>
      have := Spelled.apart hv hp (Abbreviates.full ha.available)
      rwa [String.ofList_toList, ← Option.toList_some, ← hv] at this

/-- The canonical arrangement has the same words and choices: all words first, then all choices,
fully spelled. -/
theorem Arranged.canonical {c : Command} {ws args : List String} {os : List Choice}
    (h : Arranged c ws os args) : Arranged c ws os (canonical ws os) := by
  -- The words do not matter for how the choices are written, so they can be put in front.
  have hchoices : Arranged c [] os (os.flatMap Choice.full) := by
    induction h with
    | nil => exact .nil
    | word _ ih => exact ih
    | choice hs _ ih => exact .choice hs.full ih
  clear h
  induction ws with
  | nil => exact hchoices
  | cons w ws ih => exact .word ih

/-- **Arrangement and spelling do not matter**: a run on any arrangement of the words of a command
and of its choices is the run on the canonical one. -/
theorem run_arranged {c : Command} {words args : List String} {choices : List Choice}
    (hw : WordsOf c words) (h : Arranged c words choices args)
    (disk : Disk) (now : Int) (log : Log) :
    run disk now log (c.name :: args) =
      run disk now log (c.name :: canonical words choices) := by
  have hread : read (c.name :: args) = read (c.name :: canonical words choices) := by
    rw [read_command, read_command, readCommand_arranged h hw.isWord,
      readCommand_arranged h.canonical hw.isWord]
  unfold run runAs plan
  rw [hread]

/-- Switches before, between and after the operands, one of them cut to a single letter, one with
its value attached and one repeated, and a negative operand that could pass for a switch. -/
theorem run_arranged_add :
    WordsOf .add ["-5", "7"] ∧
    Arranged .add ["-5", "7"]
      [.overflow .wrap, .verbose, .root "a b", .level .info, .overflow .raise]
      ["--o=wrap", "-5", "-v", "--root", "a b", "7", "--log-lev", "info", "--over", "raise"] ∧
    run (Disk.empty (.lone [])) 0 Log.fresh
        ["add", "--o=wrap", "-5", "-v", "--root", "a b", "7", "--log-lev", "info", "--over",
          "raise"] =
      run (Disk.empty (.lone [])) 0 Log.fresh
        ["add", "-5", "7", "--overflow", "wrap", "--verbose", "--root", "a b", "--log-level",
          "info", "--overflow", "raise"] := by
  have hw : WordsOf .add ["-5", "7"] := .add (.inr ⟨['5'], rfl, by decide⟩) (.inl (by decide))
  have h₁ : Spelled .add (.overflow .wrap) ["--o=wrap"] :=
    .attached (s := ['-', '-', 'o']) (v := "wrap") rfl (by decide) (by decide)
  have h₂ : Spelled .add (.root "a b") ["--root", "a b"] :=
    .apart (s := ['-', '-', 'r', 'o', 'o', 't']) rfl (by decide) (by decide)
  have h₃ : Spelled .add (.level .info) ["--log-lev", "info"] :=
    .apart (s := ['-', '-', 'l', 'o', 'g', '-', 'l', 'e', 'v']) rfl (by decide) (by decide)
  have h₄ : Spelled .add (.overflow .raise) ["--over", "raise"] :=
    .apart (s := ['-', '-', 'o', 'v', 'e', 'r']) rfl (by decide) (by decide)
  have ha : Arranged .add ["-5", "7"]
      [.overflow .wrap, .verbose, .root "a b", .level .info, .overflow .raise]
      ["--o=wrap", "-5", "-v", "--root", "a b", "7", "--log-lev", "info", "--over", "raise"] :=
    .choice h₁ (.word (.choice .letter (.choice h₂ (.word (.choice h₃ (.choice h₄ .nil))))))
  exact ⟨hw, ha, run_arranged hw ha _ _ _⟩

end GreetCalc.CommandLine
