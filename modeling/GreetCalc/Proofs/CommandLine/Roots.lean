import GreetCalc.Proofs.CommandLine.Arrangement
import GreetCalc.Proofs.CommandLine.Endings
import GreetCalc.Proofs.CommandLine.Plans
import GreetCalc.Proofs.Path.Normal

/-!
# Spellings of the root directory

Of the root directory only its location matters. Two values of the switch that lead to the same
place give drafts that agree but for the root (`Draft.Alike`), and taking further arguments,
whatever they are, keeps this: both runs complain of the same or go on alike (`take_alike`). What a
plan and a run make of the root is its location (`runAs_of_alike`).

With the normal form of paths this means that a root can be given by its resolved text as well
(`run_normal_root`).
-/

namespace GreetCalc.CommandLine

/-! ## Computations that end alike -/

/-- Both fail with the same error, or both give results that are related. -/
inductive EndAlike {ε α : Type} (R : α → α → Prop) : Except ε α → Except ε α → Prop
  | error (e : ε) : EndAlike R (.error e) (.error e)
  | ok {a b : α} : R a b → EndAlike R (.ok a) (.ok b)

namespace EndAlike

variable {ε α β : Type} {R : α → α → Prop} {S : β → β → Prop}

theorem refl (hR : ∀ a, R a a) (x : Except ε α) : EndAlike R x x := by
  cases x with
  | error e => exact .error e
  | ok a => exact .ok (hR a)

theorem bind {x y : Except ε α} {f g : α → Except ε β} (h : EndAlike R x y)
    (hf : ∀ a b, R a b → EndAlike S (f a) (g b)) : EndAlike S (x >>= f) (y >>= g) := by
  cases h with
  | error e => exact .error e
  | ok hab => exact hf _ _ hab

theorem onPage {x y : Except Complaint α} (h : EndAlike R x y) (page : Page) :
    EndAlike R (onPage page x) (onPage page y) := by
  cases h with
  | error e => exact .error _
  | ok hab => exact .ok hab

end EndAlike

/-! ## Drafts that agree but for the root -/

/-- Drafts that agree but for the root, and have related roots. -/
inductive Draft.Alike (R : Entry String → Entry String → Prop) (d : Draft) : Draft → Prop
  | root {x : Entry String} : R d.root x → Alike R d { d with root := x }

/-- Invocations that agree but for the root, and have related roots. -/
inductive Invocation.Alike (R : Entry String → Entry String → Prop) (i : Invocation) :
    Invocation → Prop
  | root {x : Entry String} : R i.root x → Alike R i { i with root := x }

section Taking

variable {R : Entry String → Entry String → Prop} {d e : Draft}

theorem takeWord_alike (h : d.Alike R e) (s : String) (word : Option String) :
    EndAlike (Draft.Alike R) (d.takeWord s word) (e.takeWord s word) := by
  obtain ⟨hroot⟩ := h
  unfold Draft.takeWord
  dsimp only
  split
  · exact .ok (.root hroot)
  · next p free _ =>
    cases p with
    | name => exact .ok (.root hroot)
    | operand side =>
        cases word with
        | none => cases side <;> exact .ok (.root hroot)
        | some w =>
            simp only [Draft.fill]
            cases Decimal.readInt? w with
            | none => exact .error _
            | some n => cases side <;> exact .ok (.root hroot)

theorem takeValue_alike (hR : ∀ x, R x x) (h : d.Alike R e) (o : Switch) (s : String) :
    EndAlike (Draft.Alike R) (d.takeValue o s) (e.takeValue o s) := by
  obtain ⟨hroot⟩ := h
  cases o with
  | help => exact .error _
  | verbose => exact .error _
  | root => exact .ok (.root (hR _))
  | logLevel =>
      simp only [Draft.takeValue]
      split
      · exact .ok (.root hroot)
      · split
        · exact .ok (.root hroot)
        · exact .error _
  | overflow =>
      simp only [Draft.takeValue]
      split
      · exact .ok (.root hroot)
      · split
        · exact .ok (.root hroot)
        · exact .error _

theorem takeSwitches_alike (h : d.Alike R e) (page : Page) (os : List Switch) :
    EndAlike (Draft.Alike R) (takeSwitches page d os) (takeSwitches page e os) := by
  induction os generalizing d e with
  | nil =>
      obtain ⟨hroot⟩ := h
      exact .ok (.root hroot)
  | cons o os ih =>
      cases o with
      | help => exact .error _
      | verbose =>
          obtain ⟨hroot⟩ := h
          exact ih (.root hroot)
      | root => exact ih h
      | logLevel => exact ih h
      | overflow => exact ih h

/-- Further arguments find no difference. -/
theorem take_alike (hR : ∀ x, R x x) (c : Command) (h : d.Alike R e) (ts : List Token) :
    EndAlike (Draft.Alike R) (take c d ts) (take c e ts) := by
  fun_induction take c d ts generalizing e with
  | case1 d => exact .ok h
  | case2 d s ts ih =>
      rw [take]
      exact ((takeWord_alike h _ _).onPage _).bind fun d' _ h' => ih d' h'
  | case3 d s ts ih =>
      obtain ⟨hroot⟩ := h
      rw [take]
      exact ih (.root hroot)
  | case4 d o attached ts ih =>
      rw [take]
      apply (EndAlike.refl (fun _ => rfl) _).bind
      rintro os _ rfl
      exact (takeSwitches_alike h _ _).bind fun d' _ h' => ih d' h'
  | case5 d o s ts ih =>
      rw [take]
      exact ((takeValue_alike hR h _ _).onPage _).bind fun d' _ h' => ih d' h'
  | case6 d o ho s ts ih =>
      rw [take, if_pos ho]
      exact ((takeValue_alike hR h _ _).onPage _).bind fun d' _ h' => ih d' h'
  | case7 d o ts ho hts =>
      -- The switch lacks its value, whatever the draft is.
      rw [take, if_pos ho]
      · exact .error _
      · exact hts
  | case8 d o ts ho ih =>
      rw [take_flag c _ (by simpa using ho)]
      exact (takeSwitches_alike h _ _).bind fun d' _ h' => ih d' h'

theorem takeWords_alike (h : d.Alike R e) (ws : List String) :
    EndAlike (Draft.Alike R) (takeWords d ws) (takeWords e ws) := by
  induction ws generalizing d e with
  | nil => exact .ok h
  | cons w ws ih => exact (takeWord_alike h w _).bind fun _ _ h' => ih h'

theorem takeMarked_alike (h : d.Alike R e) (ws : List String) :
    EndAlike (Draft.Alike R) (takeMarked d ws) (takeMarked e ws) := by
  have hwords := takeWords_alike h ws
  have hword : ∀ w, EndAlike (Draft.Alike R) (d.takeWord w (some w)) (e.takeWord w (some w)) :=
    fun w => takeWord_alike h w _
  obtain ⟨hroot⟩ := h
  unfold takeMarked
  dsimp only
  split
  · exact hwords
  · split
    · exact .ok (.root hroot)
    · exact (hword _).bind fun _ _ h' => takeWords_alike h' _
    · exact .ok (.root hroot)

theorem finish_alike (h : d.Alike R e) (c : Command) :
    EndAlike (fun x y => x.1.Alike R y.1 ∧ x.2 = y.2) (d.finish c) (e.finish c) := by
  obtain ⟨hroot⟩ := h
  unfold Draft.finish
  dsimp only
  split
  · refine .ok ⟨?_, rfl⟩
    cases c <;> exact .root hroot
  · exact .error _

end Taking

/-! ## The root as the first argument -/

/-- Take arguments when others have been taken before. -/
def takeFrom (c : Command) (d : Draft) (args : List String) : Except Stop Draft := do
  let tokens ← onPage c (classifyAll c.switches (args.takeWhile (· != marker)))
  let d ← take c d tokens
  match args.dropWhile (· != marker) with
  | [] => .ok d
  | _ :: words => onPage c (takeMarked d words)

theorem takeFrom_start (c : Command) (args : List String) :
    takeFrom c (Draft.start c.places) args = takeAll c args := rfl

/-- A choice that comes first and has its value attached is taken first. -/
theorem takeFrom_attached {c : Command} {o : Choice} {s v : String} (hv : o.value? = some v)
    (hs : s ≠ marker) (hm : v ≠ marker)
    (hc : classify c.switches s = .ok (.long o.switch (some v))) (d : Draft) (rest : List String) :
    takeFrom c d (s :: rest) = takeFrom c { o.set d with placed := false } rest := by
  have hpos : (s != marker) = true := by simpa using hs
  unfold takeFrom
  rw [List.takeWhile_cons_of_pos (p := (· != marker)) hpos,
    List.dropWhile_cons_of_pos (p := (· != marker)) hpos, classifyAll, hc]
  cases classifyAll c.switches (rest.takeWhile (· != marker)) with
  | error e => rfl
  | ok ts =>
      show (take c d ([.long o.switch (some v)] ++ ts) >>= _) = _
      rw [(Choice.Classified.attached hv hm).taken]
      rfl

/-- Arguments are taken in the same way into drafts that differ in their roots. -/
theorem takeFrom_alike {R : Entry String → Entry String → Prop} {d e : Draft} (hR : ∀ x, R x x)
    (c : Command) (h : d.Alike R e) (args : List String) :
    EndAlike (Draft.Alike R) (takeFrom c d args) (takeFrom c e args) := by
  unfold takeFrom
  apply (EndAlike.refl (fun _ => rfl) _).bind
  rintro ts _ rfl
  apply (take_alike hR c h ts).bind
  intro d' e' h'
  split
  · exact .ok h'
  · exact (takeMarked_alike h' _).onPage _

/-- A switch for the root at the front is taken before all other arguments. -/
theorem takeAll_root (c : Command) {r : String} (hr : r ≠ marker) (rest : List String) :
    takeAll c (("--root=" ++ r) :: rest) =
      takeFrom c { Draft.start c.places with root := .given r } rest := by
  have hroot : Switch.root ∈ c.switches := by cases c <;> decide
  have htext : "--root=" ++ r = String.ofList (Switch.root.long.toList ++ '=' :: r.toList) :=
    String.toList_inj.mp (by simp [Switch.long])
  have hne : "--root=" ++ r ≠ marker := by
    intro he
    have hlength := congrArg (fun s => s.toList.length) he
    simp [marker] at hlength
  have hc := (Abbreviates.full hroot).classify_attached r
  rw [← htext] at hc
  rw [← takeFrom_start, takeFrom_attached (o := .root r) rfl hne hr hc]
  rfl

/-! ## Runs -/

/-- Values of the switch that lead to the same place, or to none for the same reason. -/
def SamePlace (disk : Disk) (x y : Entry String) : Prop :=
  ∀ i : Invocation, { i with root := x }.rootLocation disk = { i with root := y }.rootLocation disk

/-- Texts with one location name the same place. -/
theorem samePlace_given {disk : Disk} {r r' : String}
    (h : (Path.ofText r).resolve disk.host.current disk.host.homes =
      (Path.ofText r').resolve disk.host.current disk.host.homes) :
    SamePlace disk (.given r) (.given r') := by
  intro i
  simp only [Invocation.rootLocation, h]

/-- What is read from spellings of one root agrees but for the spelling. -/
theorem read_alike {disk : Disk} {r r' : String} (hr : r ≠ marker) (hr' : r' ≠ marker)
    (h : SamePlace disk (.given r) (.given r')) (c : Command) (rest : List String) :
    EndAlike (Invocation.Alike (SamePlace disk)) (read (c.name :: ("--root=" ++ r) :: rest))
      (read (c.name :: ("--root=" ++ r') :: rest)) := by
  have htaken : EndAlike (Draft.Alike (SamePlace disk)) (takeAll c (("--root=" ++ r) :: rest))
      (takeAll c (("--root=" ++ r') :: rest)) := by
    rw [takeAll_root c hr, takeAll_root c hr']
    exact takeFrom_alike (fun _ _ => rfl) c (.root h) rest
  rw [read_command, read_command, readCommand_eq, readCommand_eq]
  apply (htaken.bind fun d e h' => finish_alike h' c).bind
  rintro ⟨i, left⟩ ⟨j, _⟩ ⟨halike, rfl⟩
  cases left with
  | nil => exact .ok halike
  | cons s ss => exact .error _

/-- Of the root a run makes its location and nothing else. -/
theorem runAs_of_alike {disk : Disk} {argv argv' : List String}
    (h : EndAlike (Invocation.Alike (SamePlace disk)) (read argv) (read argv'))
    (logger : String) (now : Int) (log : Log) :
    runAs logger disk now log argv = runAs logger disk now log argv' := by
  unfold runAs plan
  generalize read argv = x at h
  generalize read argv' = y at h
  cases h with
  | error stop => rfl
  | @ok i _ halike =>
      obtain ⟨hplace⟩ := halike
      dsimp only
      unfold Invocation.plan
      rw [← hplace i]
      cases i.rootLocation disk with
      | error failure => rfl
      | ok root =>
          dsimp only
          cases Settings.load disk (Path.ofLocation root) with
          | error fault => rfl
          | ok s =>
              dsimp only [Invocation.levelValue]
              cases resolveLevel (i.level.value (.text s.logLevel.text) fun l => .text l.text) <;>
                rfl

/-- **Only the location of the root matters.** From the current directory of a machine, whose names
are proper ones, a root without a null character and without a tilde at its front resolves to a
location. The text of this location is a normal one, and resolves to the same location from
everywhere. A run cannot tell the root from this text, nor from any other spelling of the location,
and the settings of every run with this root are those that load at the text. -/
theorem run_normal_root (disk : Disk) (hcurrent : Path.Proper disk.host.current) {r : String}
    (hnull : '\x00' ∉ r.toList) (hmarker : r ≠ marker)
    (htilde : ∀ name, (Path.ofText r).names.head? = some name → name.toList.head? ≠ some '~') :
    ∃ l s, (Path.ofText r).resolve disk.host.current disk.host.homes = .ok l ∧
      s = (Path.ofLocation l).text ∧ Path.NormalText s ∧
      (∀ current homes, (Path.ofText s).resolve current homes = .ok l) ∧
      (∀ (c : Command) (rest : List String) (now : Int) (log : Log),
        run disk now log (c.name :: ("--root=" ++ r) :: rest) =
          run disk now log (c.name :: ("--root=" ++ s) :: rest)) ∧
      (∀ r' ≠ marker, (Path.ofText r').resolve disk.host.current disk.host.homes = .ok l →
        ∀ (c : Command) (rest : List String) (now : Int) (log : Log),
          run disk now log (c.name :: ("--root=" ++ r) :: rest) =
            run disk now log (c.name :: ("--root=" ++ r') :: rest)) ∧
      (∀ argv i, read argv = .ok i → i.root = .given r →
        (∀ fault, Settings.load disk (Path.ofText s) = .error fault →
          ∀ (now : Int) (log : Log), run disk now log argv =
            ⟨(Halt.ofLoadFault disk.host.writeRoom fault).ending,
              (Halt.ofLoadFault disk.host.writeRoom fault).writes, log⟩) ∧
        (∀ p, plan disk argv = .ok p →
          p.root = l ∧ Settings.load disk (Path.ofText s) = .ok p.settings)) := by
  obtain ⟨l, hl, hproper⟩ := Path.exists_resolve hcurrent disk.host.homes hnull htilde
  have hnormal := Path.normalText_of_proper hproper
  have hread := Path.ofText_text hproper
  have hagain : ∀ current homes,
      (Path.ofText (Path.ofLocation l).text).resolve current homes = .ok l := by
    intro current homes
    rw [hread]
    exact Path.resolve_ofLocation hproper current homes
  have hruns : ∀ r' ≠ marker, (Path.ofText r').resolve disk.host.current disk.host.homes = .ok l →
      ∀ (c : Command) (rest : List String) (now : Int) (log : Log),
        run disk now log (c.name :: ("--root=" ++ r) :: rest) =
          run disk now log (c.name :: ("--root=" ++ r') :: rest) := by
    intro r' hr' hl' c rest now log
    have hplace := samePlace_given (hl.trans hl'.symm)
    exact runAs_of_alike (read_alike hmarker hr' hplace c rest) _ _ _
  -- A normal text begins with a slash, which the marker does not.
  have hne : (Path.ofLocation l).text ≠ marker := by
    intro he
    have habsolute := hnormal.absolute
    rw [he] at habsolute
    exact absurd habsolute (by decide)
  refine ⟨l, _, hl, rfl, hnormal, hagain, hruns _ hne (hagain _ _), hruns, ?_⟩
  intro argv i hi hroot
  have hlocation : i.rootLocation disk = .ok l := by
    simp only [Invocation.rootLocation, hroot, hl]
    rfl
  rw [hread]
  refine ⟨?_, ?_⟩
  · intro fault hload now log
    exact run_of_loadFault hi hlocation hload now log
  · intro p hp
    obtain ⟨hi', hlocation', hload, -⟩ := plan_eq_ok_iff.mp hp
    obtain rfl : i = p.invocation := Except.ok.inj (hi.symm.trans hi')
    obtain rfl : l = p.root := Except.ok.inj (hlocation.symm.trans hlocation')
    exact ⟨rfl, hload⟩

/-- Slashes and dots make no difference, and two dots go back by one name. -/
theorem run_normal_root_dots :
    Path.Proper ["home"] ∧
    run (Disk.empty (.lone ["home"])) 0 Log.fresh ["greet", "--root=a//./b/../c/"] =
      run (Disk.empty (.lone ["home"])) 0 Log.fresh ["greet", "--root=/home/a/c"] := by
  have hcurrent : Path.Proper ["home"] := by
    intro name hname
    rw [List.mem_singleton.mp hname]
    exact ⟨by decide, by decide, by decide, by decide, by decide⟩
  have htilde : ∀ name, (Path.ofText "a//./b/../c/").names.head? = some name →
      name.toList.head? ≠ some '~' := by
    intro name hname
    obtain rfl : "a" = name := Option.some.inj hname
    decide
  obtain ⟨l, s, hl, rfl, -, -, hrun, -⟩ :=
    run_normal_root (Disk.empty (.lone ["home"])) hcurrent (by decide) (by decide) htilde
  obtain rfl : ["home", "a", "c"] = l := Except.ok.inj hl
  exact ⟨hcurrent, hrun .greet [] 0 Log.fresh⟩

end GreetCalc.CommandLine
