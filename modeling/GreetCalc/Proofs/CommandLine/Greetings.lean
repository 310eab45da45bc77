import GreetCalc.Proofs.CommandLine.Failures
import GreetCalc.Proofs.Settings.RoundTrip

/-!
# Names on their way to the greeting

A name reaches the greeting in three ways: as a word, as a word after the marker, and from the
settings file. Each of them passes it on as it is, so that it does not matter whether the name is
empty, looks like a switch or like the marker, or holds quotes and line ends
(`run_greets_verbatim`).

The first two ways are ways of reading arguments (`read_greet_word`, `read_greet_marked`); behind
them, and without a name among the arguments, the run is the same (`greets_of_read`).
-/

namespace GreetCalc.CommandLine

/-! ## Reading a name -/

/-- What arguments ask for that give no more than a name, or not even that. -/
def greetInvocation (name : Option String) : Invocation := ⟨.absent, .absent, .greet name⟩

theorem read_greet_nameless : read [Command.greet.name] = .ok (greetInvocation none) := by cbv

/-- After the marker any text is a name, the marker itself as well. -/
theorem read_greet_marked (name : String) :
    read [Command.greet.name, marker, name] = .ok (greetInvocation (some name)) := by
  have hbefore : [marker, name].takeWhile (· != marker) = [] := by simp
  have hafter : [marker, name].dropWhile (· != marker) = [marker, name] := by simp
  have htake : takeAll .greet [marker, name] =
      .ok { Draft.start [] with name := some name, placed := true } := by
    unfold takeAll
    dsimp only
    rw [hbefore, hafter]
    rfl
  rw [read_command, readCommand_eq, htake]
  rfl

theorem read_greet_word {name : String} (h : Plain name) :
    read [Command.greet.name, name] = .ok (greetInvocation (some name)) := by
  have hne : (name != marker) = true := by simpa using ne_marker_of_plain h
  have hbefore : [name].takeWhile (· != marker) = [name] := by simp [hne]
  have hafter : [name].dropWhile (· != marker) = [] := by simp [hne]
  have hclassified : classifyAll Command.greet.switches [name] = .ok [.word name] := by
    simp only [classifyAll, classify_of_plain h]
    rfl
  have htake : takeAll .greet [name] =
      .ok { Draft.start [] with name := some name, placed := true } := by
    unfold takeAll
    dsimp only
    rw [hbefore, hafter, hclassified]
    rfl
  rw [read_command, readCommand_eq, htake]
  rfl

/-! ## Greeting it -/

/-- A run greets a name: it returns 0, and all that it writes to the output stream is the greeting
of the greeter that is made with this name, on a line of its own. -/
structure Greets (name : String) (o : Outcome) : Prop where
  code : o.ending = .returned 0
  line : o.textsOn standardOutput = ["hello " ++ name ++ "\n"]
  greeter : ∃ g, Greeter.ofFields [("name", .text name)] = .ok g ∧
    o.textsOn standardOutput = [g.greet ++ "\n"]

/-- A run with settings greets the name among its arguments, or else that of the settings. -/
theorem greets_of_read {argv : List String} {name : Option String}
    (hread : read argv = .ok (greetInvocation name)) {disk : Disk} {s : Settings}
    (hload : Settings.load disk (Path.ofLocation disk.host.current) = .ok s) (now : Int)
    (log : Log) :
    Greets (name.getD s.defaultName) (run disk now log argv) := by
  have hroot : (greetInvocation name).rootLocation disk = .ok disk.host.current := rfl
  have hfilled : (greetInvocation name).Filled := by
    refine ⟨nofun, nofun, ?_⟩
    intro a b m ht
    cases ht
  have hthrough := outcome_goesThrough hfilled disk.host.current s now
  rw [← run_of_plan hread hroot hload (resolveLevel_levelValue hfilled.level s) now log] at hthrough
  -- A greeting is no sum, so it is not refused.
  have hcode : (run disk now log argv).ending = .returned 0 := by
    refine hthrough.code.resolve_right fun hone => ?_
    obtain ⟨a, b, m, ht, -⟩ := hthrough.refused.mp hone
    cases ht
  obtain ⟨result, hresult, hline⟩ := hthrough.result hcode
  cases hresult with
  | greet => exact ⟨hcode, hline, ⟨name.getD s.defaultName⟩, rfl, hline⟩

/-- **A name is greeted as it is.** Whatever the name and the settings are, a run greets the name
that stands after the marker. It greets a name without the marker if it does not begin with a dash.
And without a name among the arguments it greets the one that a settings file in the current
directory sets, if the file can be opened and sets nothing else, writing the name between double
quotes; every name can be written so. -/
theorem run_greets_verbatim (name : String) :
    (∀ (disk : Disk) (now : Int) (log : Log) (s : Settings),
      Settings.load disk (Path.ofLocation disk.host.current) = .ok s →
      Greets name (run disk now log ["greet", "--", name])) ∧
    (Plain name → ∀ (disk : Disk) (now : Int) (log : Log) (s : Settings),
      Settings.load disk (Path.ofLocation disk.host.current) = .ok s →
      Greets name (run disk now log ["greet", name])) ∧
    (∃ text, Toml.Holds [("default_name", name)] text) ∧
    (∀ (text : List Char) (disk : Disk) (now : Int) (log : Log),
      Toml.Holds [("default_name", name)] text → disk.openFault = none →
      disk.files.find disk.host.current
          ((Path.ofLocation disk.host.current).child Settings.fileName) =
        .found (.file (Text.Utf8.encode text)) →
      Greets name (run disk now log ["greet"])) := by
  let a : Settings.Assignment := ⟨none, some name, none⟩
  refine ⟨?_, ?_, ?_, ?_⟩
  · intro disk now log s hs
    exact greets_of_read (read_greet_marked name) hs now log
  · intro hplain disk now log s hs
    exact greets_of_read (read_greet_word hplain) hs now log
  · have hlaid : ∃ text, Toml.Laid a.entries text := Toml.exists_laid fun e he =>
      Settings.bareKey_of_mem (Settings.Assignment.mem_keys he)
    exact hlaid.imp fun _ => .ended
  · intro text disk now log htext hopen hfile
    exact greets_of_read read_greet_nameless
      (Settings.load_holds (a := a) htext hopen hfile) now log

/-- A settings file of a single line without an end. It sets a name that begins like a switch, with
a quote and a line feed in it. -/
def dashText : List Char := "default_name = \"-v\\\"\\u000A\"".toList

/-- A machine with this settings file. -/
def dashDisk : Disk := Settings.diskWith (Text.Utf8.encode dashText)

/-- This name is greeted as it stands after the marker and from the settings file. The empty name is
greeted too, and not taken for a name that is missing. -/
theorem run_greets_verbatim_dash :
    Toml.Holds [("default_name", "-v\"\n")] dashText ∧
    Settings.load dashDisk (Path.ofLocation []) = .ok ⟨.wrap, "-v\"\n", .warning⟩ ∧
    Greets "-v\"\n" (run dashDisk 0 Log.fresh ["greet", "--", "-v\"\n"]) ∧
    Greets "" (run dashDisk 0 Log.fresh ["greet", ""]) ∧
    Greets "-v\"\n" (run dashDisk 0 Log.fresh ["greet"]) := by
  have hspelling : Toml.Spelled "-v\"\n".toList "-v\\\"\\u000A".toList :=
    .plain rfl (by decide) (by decide) (.plain rfl (by decide) (by decide)
      (.escaped (.inl rfl) (.control rfl (by decide) (by decide) .nil)))
  have hline := @Toml.LaidLine.entry "default_name" _ [] [' '] [' '] [] _ (by decide) hspelling
    (by decide) (by decide) (by decide) (by decide)
  have htext : Toml.Holds [("default_name", "-v\"\n")] dashText := .cut .nil hline
  have hload : Settings.load dashDisk (Path.ofLocation []) = .ok ⟨.wrap, "-v\"\n", .warning⟩ :=
    Settings.load_holds (a := ⟨none, some "-v\"\n", none⟩) htext rfl rfl
  obtain ⟨hmarked, -, -, hfile⟩ := run_greets_verbatim "-v\"\n"
  obtain ⟨-, hword, -, -⟩ := run_greets_verbatim ""
  exact ⟨htext, hload, hmarked _ 0 Log.fresh _ hload, hword (by decide) _ 0 Log.fresh _ hload,
    hfile dashText _ 0 Log.fresh htext rfl rfl⟩

end GreetCalc.CommandLine
