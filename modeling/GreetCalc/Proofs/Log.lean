import GreetCalc.Log
import GreetCalc.Proofs.Decimal.Numeral

/-!
# Level names and the log

A level name is read back from its spelling, both exactly and in any case of letters, so a log
that is set up with one always gets the severity that the name stands for.

Setting up the log starts over, whatever log was there: the removals leave no handler behind
(`foldl_removeHandler`), so that afterwards there is the one that was added and no other
(`setUp_eq_ok_iff`).

There is a word for every severity whose number can be written, and for no other
(`exists_severityWord`, `severityWord_of_not_writable`).
-/

namespace GreetCalc

@[simp] theorem LevelName.ofText?_text (l : LevelName) : ofText? l.text = some l := by
  cases l <;> decide

@[simp] theorem LevelName.lower_text (l : LevelName) : Text.lower l.text = l.text := by
  cases l <;> decide

@[simp] theorem resolveLevel_text (l : LevelName) :
    resolveLevel (.text l.text) = .ok l.severity := by
  rw [resolveLevel, LevelName.lower_text, LevelName.ofText?_text]

/-! ## Words for severities -/

theorem LevelName.writable_severity (l : LevelName) : Decimal.Writable l.severity := by
  apply Decimal.writable_of_lt (k := 2) (by decide)
  cases l <;> decide

/-- A severity that is too long to be written is none of the levels, so it has no word. -/
theorem severityWord_of_not_writable {n : Int} (h : ¬ Decimal.Writable n) :
    severityWord n = .error .digits := by
  have hzero : n ≠ 0 := by
    rintro rfl
    exact h (Decimal.writable_of_lt (k := 1) (by decide) (by decide))
  have hlevel : LevelName.all.find? (·.severity == n) = none := by
    rw [List.find?_eq_none]
    intro l _ hl
    rw [beq_iff_eq] at hl
    exact h (hl ▸ l.writable_severity)
  rw [severityWord, if_neg hzero, hlevel]
  dsimp only
  rw [Decimal.write, if_neg h]
  rfl

theorem exists_severityWord {n : Int} (h : Decimal.Writable n) :
    ∃ word, severityWord n = .ok word := by
  unfold severityWord
  split
  · exact ⟨_, rfl⟩
  · split
    · exact ⟨_, rfl⟩
    · rw [Decimal.write, if_pos h]
      exact ⟨_, rfl⟩

namespace Record

variable {logger message : String} {severity : Int} {r : Record}

theorem of_make (h : make logger severity message = .ok r) :
    r.logger = logger ∧ r.severity = severity ∧ r.message = message := by
  unfold make at h
  split at h
  · cases h
    exact ⟨rfl, rfl, rfl⟩
  · cases h

/-- Nothing can be recorded with a severity that cannot be written. -/
theorem make_of_not_writable (h : ¬ Decimal.Writable severity) :
    make logger severity message = .error .digits := by
  unfold make
  split
  · next hword =>
    rw [severityWord_of_not_writable h] at hword
    cases hword
  · next fault hword =>
    rw [severityWord_of_not_writable h] at hword
    cases hword
    rfl

/-- Everything can be recorded with a severity that can be written. -/
theorem make_eq_ok (h : Decimal.Writable severity) (logger message : String) :
    ∃ r, make logger severity message = .ok r := by
  obtain ⟨word, hword⟩ := exists_severityWord h
  unfold make
  split
  · exact ⟨_, rfl⟩
  · next herror =>
    rw [hword] at herror
    cases herror

theorem line_eq (now : Int) (r : Record) :
    r.line now = clockStamp now ++ " " ++ padRight 8 r.word ++ " [" ++ shownLogger r.logger
      ++ "] " ++ r.message ++ "\n" := by
  simp [line, lineParts, LinePart.shown, String.join]

end Record

/-- The description of lines and the lines themselves have the same parts. -/
example : lineFormat = "%(asctime)s %(levelname)-8s [%(name)s] %(message)s" := by decide

namespace Log

/-! ## Handlers -/

/-- Removing handlers one by one, from the first one on, leaves those that come after them. -/
theorem foldl_removeHandler (n : Int) (streams rest : List String) :
    streams.foldl removeHandler ⟨n, streams ++ rest⟩ = ⟨n, rest⟩ := by
  induction streams with
  | nil => rfl
  | cons stream streams ih =>
      have hfirst : removeHandler ⟨n, stream :: streams ++ rest⟩ stream = ⟨n, streams ++ rest⟩ := by
        rw [removeHandler, List.cons_append, List.erase_cons_head]
      rw [List.foldl_cons, hfirst, ih]

theorem foldl_addHandler (log : Log) (streams : List String) :
    streams.foldl addHandler log = ⟨log.threshold, log.handlers ++ streams⟩ := by
  induction streams generalizing log with
  | nil => rw [List.append_nil, List.foldl_nil]
  | cons stream streams ih =>
      rw [List.foldl_cons, ih, addHandler, List.append_assoc, List.singleton_append]

/-- What a log becomes does not depend on what it was. -/
theorem configure_eq (log : Log) (n : Int) (streams : List String) :
    log.configure n streams = ⟨n, streams⟩ := by
  have hcleared : log.handlers.foldl removeHandler log = ⟨log.threshold, []⟩ := by
    obtain ⟨threshold, handlers⟩ := log
    have hremove := foldl_removeHandler threshold handlers []
    rwa [List.append_nil] at hremove
  unfold configure
  rw [hcleared]
  dsimp only
  rw [if_pos rfl, foldl_addHandler, List.nil_append]

/-- Setting up a log with a level leaves exactly one handler. -/
theorem setUp_eq_ok_iff {log log' : Log} {level : Value} {stream : String} :
    log.setUp level stream = .ok log' ↔
      ∃ n, resolveLevel level = .ok n ∧ log' = ⟨n, [stream]⟩ := by
  unfold setUp
  cases resolveLevel level with
  | error fault => simp [Except.map]
  | ok n => simp [Except.map, configure_eq, eq_comm]

/-! ## Telling -/

theorem tell_eq_nil {log : Log} {r : Record} (h : ¬ log.Tells r.severity) (now : Int) :
    log.tell now r = [] := if_neg h

/-- A log with one handler writes nothing but a line to the stream of this handler. -/
theorem tell_handler (n : Int) (stream : String) (now : Int) (r : Record) :
    tell ⟨n, [stream]⟩ now r =
      if 0 < r.severity ∧ n ≤ r.severity then [⟨stream, r.line now⟩] else [] := rfl

theorem tellAs_of_make {log : Log} {logger message : String} {severity : Int} {r : Record}
    (h : Record.make logger severity message = .ok r) (now : Int) :
    log.tellAs now logger severity message = .ok (log.tell now r) := by
  obtain ⟨-, rfl, -⟩ := Record.of_make h
  unfold tellAs tell
  by_cases htells : log.Tells r.severity
  · rw [if_pos htells, if_pos htells, h]
    rfl
  · rw [if_neg htells, if_neg htells]

/-- What cannot be recorded writes nothing, and fails where it would be told. -/
theorem tellAs_of_not_writable {severity : Int} (h : ¬ Decimal.Writable severity) (log : Log)
    (now : Int) (logger message : String) :
    log.tellAs now logger severity message =
      if log.Tells severity then .error .digits else .ok [] := by
  unfold tellAs
  rw [Record.make_of_not_writable h]
  rfl

end Log

end GreetCalc
