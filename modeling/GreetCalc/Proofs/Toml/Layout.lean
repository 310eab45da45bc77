import GreetCalc.Proofs.Toml.Strings
import GreetCalc.Toml.Document

/-!
# Documents of plain entries

The simplest documents: every line is empty, a comment, or an entry `key = "…"` with a bare key.
`Laid es text` says that a text lays out the entries `es` in this way, with spaces and tabs around
keys and equals signs, and with line ends of either kind; in `Holds es text` the last line may also
lack its end.

One line adds its entry, if it has one, to the end of the table (`line_of_laidLine`), and so reading
such a text gives the table of its entries, whatever stands between them (`parse_laid`,
`parse_holds`).
-/

namespace GreetCalc.Toml

/-! ## Layouts -/

/-- Spaces and tabs. -/
def Blanks (s : List Char) : Prop := ∀ c ∈ s, isBlank c = true

instance (s : List Char) : Decidable (Blanks s) :=
  List.decidableBAll _ s

/-- A key that needs no quotes. -/
def BareKey (k : String) : Prop := k ≠ "" ∧ ∀ c ∈ k.toList, isBare c = true

instance (k : String) : Decidable (BareKey k) :=
  haveI : Decidable (∀ c ∈ k.toList, isBare c = true) := List.decidableBAll _ _
  inferInstanceAs (Decidable (k ≠ "" ∧ ∀ c ∈ k.toList, isBare c = true))

/-- The text of a comment. -/
def Remark (s : List Char) : Prop := ∀ c ∈ s, isBarred c = false

instance (s : List Char) : Decidable (Remark s) :=
  List.decidableBAll _ s

/-- The two ways in which a line ends. -/
inductive LineEnd : List Char → Prop
  | lf : LineEnd ['\n']
  | crlf : LineEnd ['\r', '\n']

/-- What stands on a line before its end, with the entry that it makes. -/
inductive LaidLine : Option (String × String) → List Char → Prop
  | blank {s : List Char} : Blanks s → LaidLine none s
  | comment {s remark : List Char} : Blanks s → Remark remark →
      LaidLine none (s ++ '#' :: remark)
  | entry {key value : String} {s₁ s₂ s₃ s₄ spelling : List Char} : BareKey key →
      Spelled value.toList spelling → Blanks s₁ → Blanks s₂ → Blanks s₃ → Blanks s₄ →
      LaidLine (some (key, value))
        (s₁ ++ (key.toList ++ (s₂ ++ '=' :: (s₃ ++ '"' :: (spelling ++ '"' :: s₄)))))

/-- A text that lays out entries in order. -/
inductive Laid : List (String × String) → List Char → Prop
  | nil : Laid [] []
  | line {e : Option (String × String)} {s ending text : List Char}
      {es : List (String × String)} : LaidLine e s → LineEnd ending → Laid es text →
      Laid (e.toList ++ es) (s ++ (ending ++ text))

/-- A text that holds entries in order, one to a line. The last line may lack its end. -/
inductive Holds : List (String × String) → List Char → Prop
  | ended {es : List (String × String)} {text : List Char} : Laid es text → Holds es text
  | cut {e : Option (String × String)} {s text : List Char} {es : List (String × String)} :
      Laid es text → LaidLine e s → Holds (es ++ e.toList) (text ++ s)

/-- What stands after the characters of a line, and the lines that are left after its end. -/
inductive LineTail : List Char → Option (List Char) → Prop
  | ended (rest : List Char) : LineTail ('\n' :: rest) (some rest)
  | cut : LineTail [] none

theorem blanks_nil : Blanks [] := by
  intro c hc
  cases hc

/-- Entries with bare keys can be laid out in any order. -/
theorem exists_laid {es : List (String × String)} (h : ∀ e ∈ es, BareKey e.1) :
    ∃ text, Laid es text := by
  induction es with
  | nil => exact ⟨_, .nil⟩
  | cons e es ih =>
      obtain ⟨text, htext⟩ := ih fun e he => h e (List.mem_cons_of_mem _ he)
      obtain ⟨spelling, hspelling⟩ := exists_spelled e.2.toList
      have hline : LaidLine (some (e.1, e.2)) _ :=
        .entry (h e List.mem_cons_self) hspelling blanks_nil blanks_nil blanks_nil blanks_nil
      exact ⟨_, .line hline .lf htext⟩

/-! ## Scanning -/

/-- A run of characters ends where the first other character stands. -/
theorem takeWhile_append_stop {p : Char → Bool} {s rest : List Char} (hs : ∀ c ∈ s, p c = true)
    (hrest : ∀ c ∈ rest.head?, p c = false) :
    (s ++ rest).takeWhile p = s ∧ (s ++ rest).dropWhile p = rest := by
  rw [List.takeWhile_append_of_pos hs, List.dropWhile_append_of_pos hs]
  cases rest with
  | nil => simp
  | cons c rest => simp [hrest c rfl]

theorem skipBlanks_append {s : List Char} (h : Blanks s) (rest : List Char) :
    skipBlanks (s ++ rest) = skipBlanks rest :=
  List.dropWhile_append_of_pos h

theorem skipBlanks_cons {c : Char} (h : isBlank c = false) (rest : List Char) :
    skipBlanks (c :: rest) = c :: rest := by
  rw [skipBlanks, List.dropWhile_cons, h]
  rfl

theorem LineTail.head {tail : List Char} {left : Option (List Char)} (h : LineTail tail left) :
    ∀ c ∈ tail.head?, c = '\n' := by
  cases h with
  | ended rest => simp
  | cut => simp

theorem skipBlanks_tail {s tail : List Char} (h : Blanks s) {left : Option (List Char)}
    (htail : LineTail tail left) : skipBlanks (s ++ tail) = tail := by
  rw [skipBlanks_append h]
  cases htail with
  | ended rest => exact skipBlanks_cons (by decide) rest
  | cut => rfl

theorem commentText_remark {remark tail : List Char} (h : Remark remark)
    {left : Option (List Char)} (htail : LineTail tail left) :
    (commentText (remark ++ tail)).map Subtype.val = .ok tail := by
  have hstop : ∀ c ∈ remark, (c != '\n') = true := by
    intro c hc
    have : c ≠ '\n' := by
      rintro rfl
      exact absurd (h _ hc) (by decide)
    simpa using this
  have hend : ∀ c ∈ tail.head?, (c != '\n') = false := by
    intro c hc
    simpa using htail.head c hc
  obtain ⟨htake, hdrop⟩ := takeWhile_append_stop hstop hend
  have hnone : remark.find? isBarred = none := by
    rw [List.find?_eq_none]
    intro c hc
    simp [h c hc]
  unfold commentText
  simp only [htake, hnone, hdrop]
  rfl

/-! ## Entries -/

theorem isBlank_of_isBare {c : Char} (h : isBare c = true) : isBlank c = false := by
  rw [Bool.eq_false_iff]
  intro hc
  simp only [isBlank, Bool.or_eq_true, beq_iff_eq] at hc
  rcases hc with rfl | rfl <;> exact absurd h (by decide)

/-- A bare key is read up to the first character that may not stand in one. -/
theorem keyPart_bare {k : String} (hk : BareKey k) {rest : List Char}
    (hrest : ∀ c ∈ rest.head?, isBare c = false) :
    keyPart (k.toList ++ rest) = .ok (k, rest) := by
  obtain ⟨hne, hbare⟩ := hk
  cases hcs : k.toList with
  | nil => exact absurd (String.toList_eq_nil_iff.mp hcs) hne
  | cons c cs =>
      rw [hcs] at hbare
      obtain ⟨htake, hdrop⟩ :=
        takeWhile_append_stop (fun d hd => hbare d (List.mem_cons_of_mem c hd)) hrest
      rw [List.cons_append, keyPart, if_pos (hbare c List.mem_cons_self), htake, hdrop, ← hcs,
        String.ofList_toList]

theorem key_bare {k : String} (hk : BareKey k) {s : List Char} (hs : Blanks s) (rest : List Char) :
    key (k.toList ++ (s ++ '=' :: rest)) = .ok ([k], '=' :: rest) := by
  have hskip : skipBlanks (s ++ '=' :: rest) = '=' :: rest := by
    rw [skipBlanks_append hs, skipBlanks_cons (by decide)]
  have hhead : ∀ c ∈ (s ++ '=' :: rest).head?, isBare c = false := by
    intro c hc
    cases s with
    | nil =>
        cases hc
        decide
    | cons d s =>
        have hcd : d = c := Option.some.inj hc
        rw [Bool.eq_false_iff, ← hcd]
        intro hbare
        have hblank := hs d List.mem_cons_self
        rw [isBlank_of_isBare hbare] at hblank
        cases hblank
  have hdot : afterDot? (s ++ '=' :: rest) = none := by
    rw [afterDot?, hskip]
    rfl
  -- `key` remembers the results of its readers, so its branches are ruled out one by one.
  rw [key]
  split
  · next e he =>
      rw [keyPart_bare hk hhead] at he
      cases he
  · next part r he =>
      rw [keyPart_bare hk hhead] at he
      cases he
      split
      · rw [hskip]
      · next r' hr =>
          rw [hdot] at hr
          cases hr

/-- A result without the reason why its rest is shorter. -/
def forget {α : Type} {s : List Char} (x : Except Fault (α × Rest s)) :
    Except Fault (α × List Char) :=
  x.map fun (a, r) => (a, r.val)

theorem forget_attach {α : Type} {s : List Char} (x : Except Fault (α × List Char))
    (h : ∀ a r, x = .ok (a, r) → r.length < s.length) : forget (attach x h) = x := by
  cases x <;> rfl

theorem attach_ok {α : Type} {s r : List Char} {a : α} {x : Except Fault (α × List Char)}
    (h : ∀ a r, x = .ok (a, r) → r.length < s.length) (hx : x = .ok (a, r)) :
    attach x h = .ok (a, ⟨r, h a r hx⟩) := by
  subst hx
  rfl

/-- Whether a character may begin a value that holds no others. -/
def startsSimple (c : Char) : Bool := c != '[' && c != '\x7b' && !isBlank c

theorem forget_value (room : Nat) {c : Char} (h : startsSimple c = true) (rest : List Char) :
    forget (value room (c :: rest)) = simple (c :: rest) := by
  simp only [startsSimple, Bool.and_eq_true, bne_iff_ne] at h
  rw [value, if_neg h.1.1, if_neg h.1.2, simpleValue, forget_attach]

theorem forget_pair (room : Nat) {s r : List Char} {k : Key} (hk : key s = .ok (k, '=' :: r)) :
    forget (pair room s) =
      (forget (value room (skipBlanks r))).map fun (v, r') => ((k, v), r') := by
  rw [pair, pairKey, attach_ok _ hk]
  -- The equals sign stands where the key ends, so that only the value can still fail.
  show forget (Except.bind (value room (skipBlanks r)) _) = _
  cases value room (skipBlanks r) <;> rfl

variable {room : Nat}

/-- An assignment is read as a key with its value, which is then put into the document. -/
theorem assignment_eq (d : Draft) (s : List Char) :
    assignment room d s = (forget (pair room s)).bind fun ((k, v), r) =>
      (reportAt r (d.assign k v)).map fun d' => (d', r) := by
  unfold assignment
  cases pair room s with
  | error e => rfl
  | ok p =>
      show Except.bind (reportAt p.2.val (d.assign p.1.1 p.1.2)) _ = Except.map _ _
      cases reportAt p.2.val (d.assign p.1.1 p.1.2) <;> rfl

/-- An entry with a bare key and a value that holds no others is read as far as that value is. -/
theorem assignment_simple (d : Draft) {k : String} (hk : BareKey k) {s₂ s₃ : List Char}
    (hs₂ : Blanks s₂) (hs₃ : Blanks s₃) {c : Char} (hc : startsSimple c = true) (rest : List Char) :
    assignment room d (k.toList ++ (s₂ ++ '=' :: (s₃ ++ c :: rest))) =
      (simple (c :: rest)).bind fun (v, r) =>
        (reportAt r (d.assign [k] v)).map fun d' => (d', r) := by
  have hblank : isBlank c = false := by
    simp only [startsSimple, Bool.and_eq_true, Bool.not_eq_true'] at hc
    exact hc.2
  have hskip : skipBlanks (s₃ ++ c :: rest) = c :: rest := by
    rw [skipBlanks_append hs₃, skipBlanks_cons hblank]
  rw [assignment_eq, forget_pair _ (key_bare hk hs₂ _), hskip, forget_value _ hc]
  cases simple (c :: rest) <;> rfl

/-! ## Drafts without headers -/

/-- A document that has had plain entries only. -/
def Draft.plain (t : Table) : Draft := ⟨t, [], [], [], []⟩

theorem set_new {t : Table} {k : String} (v : Value) (h : t.get? k = none) :
    t.set k v = t ++ [(k, v)] := by
  induction t with
  | nil => rfl
  | cons e t ih =>
      obtain ⟨k', w⟩ := e
      have hne : ¬ k' = k := by
        rintro rfl
        simp [Table.get?] at h
      have ht : Table.get? t k = none := by
        have hbeq : (k == k') = false := by simpa using fun h => hne h.symm
        simpa [Table.get?, List.lookup_cons, hbeq] using h
      rw [Table.set, if_neg hne, ih ht, List.cons_append]

/-- A value under a new key goes to the end of a plain document. -/
theorem assign_new {t : Table} {k : String} {v : Value} (hv : v.isCompound = false)
    (h : t.get? k = none) :
    (Draft.plain t).assign [k] v = .ok (Draft.plain (t ++ [(k, v)])) := by
  rw [← set_new v h]
  have hinsert : insertAt true [k] v t = .ok (t.set k v) := by
    show insertNew k v t = _
    rw [insertNew, h]
    rfl
  simp [Draft.assign, Draft.plain, Draft.passed, isWithin, hv, hinsert, Draft.replaceTable]

/-! ## Lines -/

theorem lineEnd_tail {tail : List Char} {left : Option (List Char)} (htail : LineTail tail left) :
    lineEnd tail = .ok left := by
  cases htail <;> rfl

theorem lineEnd_blanks {s tail : List Char} (h : Blanks s) {left : Option (List Char)}
    (htail : LineTail tail left) : lineEnd (s ++ tail) = .ok left := by
  rw [← lineEnd_tail htail, lineEnd, lineEnd, skipBlanks_append h]

theorem lineEnd_remark {remark tail : List Char} (h : Remark remark) {left : Option (List Char)}
    (htail : LineTail tail left) : lineEnd ('#' :: (remark ++ tail)) = .ok left := by
  have hcomment : skipComment ('#' :: (remark ++ tail)) = .ok tail := commentText_remark h htail
  rw [lineEnd, skipBlanks_cons (by decide), hcomment]
  cases htail <;> rfl

/-- The entry of a line in the table. -/
def textEntry (e : String × String) : String × Value := (e.1, .text e.2)

theorem line_bare (d : Draft) {k : String} (hk : BareKey k) {s : List Char} (hs : Blanks s)
    (r : List Char) :
    line room d (s ++ (k.toList ++ r)) = (assignment room d (k.toList ++ r)).bind fun (d', r') =>
      (lineEnd r').map fun rest => (d', rest) := by
  obtain ⟨hne, hbare⟩ := hk
  cases hcs : k.toList with
  | nil => exact absurd (String.toList_eq_nil_iff.mp hcs) hne
  | cons c cs =>
      rw [hcs] at hbare
      have hc : isBare c = true := hbare c List.mem_cons_self
      have hnewline : after? '\n' (c :: (cs ++ r)) = none := by
        rw [after?, if_neg]
        rintro rfl
        exact absurd hc (by decide)
      have hstart : startsKey c = true := by simp [startsKey, hc]
      rw [List.cons_append, line, skipBlanks_append hs, skipBlanks_cons (isBlank_of_isBare hc),
        hnewline, statement, if_pos hstart]
      cases assignment room d (c :: (cs ++ r)) with
      | error e => rfl
      | ok p =>
          show Except.bind (lineEnd p.2) _ = Except.map _ (lineEnd p.2)
          cases lineEnd p.2 <;> rfl

/-- An entry is read as far as its closing quote; what follows it on the line decides the rest. -/
theorem line_entry {t : Table} {key value : String} {s₁ s₂ s₃ spelling : List Char}
    (hkey : BareKey key) (hspelling : Spelled value.toList spelling) (hs₁ : Blanks s₁)
    (hs₂ : Blanks s₂) (hs₃ : Blanks s₃) (hfresh : t.get? key = none) {r : List Char}
    {left : Option (List Char)} (hquote : r.head? ≠ some '"') (hend : lineEnd r = .ok left) :
    line room (.plain t)
        (s₁ ++ (key.toList ++ (s₂ ++ '=' :: (s₃ ++ '"' :: (spelling ++ '"' :: r))))) =
      .ok (.plain (t ++ [(key, .text value)]), left) := by
  have hsimple : simple ('"' :: (spelling ++ '"' :: r)) = .ok (.text value, r) := by
    rw [simple, if_pos rfl, basicString_spelled hspelling hquote, String.ofList_toList]
  have hassign : (Draft.plain t).assign [key] (.text value) =
      .ok (.plain (t ++ [(key, .text value)])) := assign_new rfl hfresh
  rw [line_bare _ hkey hs₁, assignment_simple _ hkey hs₂ hs₃ (by decide), hsimple]
  simp only [Except.bind, hassign, reportAt, Except.map, hend]

theorem head?_ne_quote {s tail : List Char} (h : Blanks s) {left : Option (List Char)}
    (htail : LineTail tail left) : (s ++ tail).head? ≠ some '"' := by
  cases s with
  | nil =>
      intro hc
      exact absurd (htail.head _ hc) (by decide)
  | cons c s =>
      intro hc
      have hblank := h c List.mem_cons_self
      rw [Option.some.inj hc] at hblank
      exact absurd hblank (by decide)

/-- A line adds its entry, if it has one, to the end of the table. -/
theorem line_of_laidLine {e : Option (String × String)} {s : List Char} (h : LaidLine e s)
    {t : Table} (hfresh : ∀ kv ∈ e, t.get? kv.1 = none) {tail : List Char}
    {left : Option (List Char)} (htail : LineTail tail left) :
    line room (.plain t) (s ++ tail) = .ok (.plain (t ++ e.toList.map textEntry), left) := by
  cases h with
  | blank hs =>
      rw [line, skipBlanks_tail hs htail]
      cases htail <;> simp [after?, statement, lineEnd_tail .cut, bind, Except.bind]
  | @comment s remark hs hremark =>
      have hskip : skipBlanks (s ++ '#' :: remark ++ tail) = '#' :: (remark ++ tail) := by
        rw [List.append_assoc, skipBlanks_append hs, List.cons_append, skipBlanks_cons (by decide)]
      rw [line, hskip]
      show Except.bind (lineEnd ('#' :: (remark ++ tail))) _ = _
      rw [lineEnd_remark hremark htail]
      simp [Except.bind]
  | entry hkey hspelling hs₁ hs₂ hs₃ hs₄ =>
      simp only [List.append_assoc, List.cons_append]
      exact line_entry hkey hspelling hs₁ hs₂ hs₃ (hfresh _ rfl) (head?_ne_quote hs₄ htail)
        (lineEnd_blanks hs₄ htail)

/-! ## Line ends -/

theorem unifyNewlines_cons {c : Char} (h : c ≠ '\r') (s : List Char) :
    unifyNewlines (c :: s) = c :: unifyNewlines s := by
  rw [unifyNewlines]
  intro rest hc
  exact absurd hc h

theorem unifyNewlines_append {s : List Char} (h : '\r' ∉ s) (rest : List Char) :
    unifyNewlines (s ++ rest) = s ++ unifyNewlines rest := by
  induction s with
  | nil => rfl
  | cons c s ih =>
      rw [List.mem_cons, not_or] at h
      rw [List.cons_append, unifyNewlines_cons (Ne.symm h.1), ih h.2, List.cons_append]

theorem LineEnd.unify {ending : List Char} (h : LineEnd ending) (rest : List Char) :
    unifyNewlines (ending ++ rest) = '\n' :: unifyNewlines rest := by
  cases h with
  | lf => exact unifyNewlines_cons (by decide) rest
  | crlf => rfl

theorem not_mem_of_all {p : Char → Bool} {b : Bool} {s : List Char} {c : Char}
    (h : ∀ d ∈ s, p d = b) (hc : p c ≠ b) : c ∉ s :=
  fun hmem => hc (h c hmem)

theorem Spelled.return_not_mem {text s : List Char} (h : Spelled text s) : '\r' ∉ s := by
  have hdigit : ∀ {n : Nat} {d : Char}, IsHexDigit n d → '\r' ≠ d := by
    rintro n d hd rfl
    have hvalue := hexDigitValue?_of_isHexDigit hd
    rw [show Text.hexDigitValue? '\r' = none by decide] at hvalue
    cases hvalue
  induction h with
  | nil => simp
  | plain hc _ _ _ ih =>
      refine List.not_mem_cons_of_ne_of_not_mem ?_ ih
      rintro rfl
      exact absurd hc (by decide)
  | escaped hc _ ih =>
      refine List.not_mem_cons_of_ne_of_not_mem (by decide)
        (List.not_mem_cons_of_ne_of_not_mem ?_ ih)
      rintro rfl
      exact absurd hc (by decide)
  | control _ hhi hlo _ ih =>
      simp [hdigit hhi, hdigit hlo, ih]

/-- The end of a line is the only place of a carriage return. -/
theorem LaidLine.return_not_mem {e : Option (String × String)} {s : List Char}
    (h : LaidLine e s) : '\r' ∉ s := by
  have hblanks : ∀ {s : List Char}, Blanks s → '\r' ∉ s := fun h =>
    not_mem_of_all h (by decide)
  cases h with
  | blank hs => exact hblanks hs
  | comment hs hremark =>
      have := not_mem_of_all hremark (c := '\r') (by decide)
      simp [hblanks hs, this]
  | entry hkey hspelling hs₁ hs₂ hs₃ hs₄ =>
      have := not_mem_of_all hkey.2 (c := '\r') (by decide)
      simp [hblanks hs₁, hblanks hs₂, hblanks hs₃, hblanks hs₄, hspelling.return_not_mem, this]

/-! ## The whole text -/

theorem lines_of_line {d d' : Draft} {s r : List Char} (h : line room d s = .ok (d', some r)) :
    lines room d s = lines room d' r := by
  rw [lines]
  split
  · next e he => rw [h] at he; cases he
  · next d₁ he => rw [h] at he; cases he
  · next d₁ r₁ he => rw [h] at he; cases he; rfl

theorem lines_of_last {d d' : Draft} {s : List Char} (h : line room d s = .ok (d', none)) :
    lines room d s = .ok d'.table := by
  rw [lines]
  split
  · next e he => rw [h] at he; cases he
  · next d₁ he => rw [h] at he; cases he; rfl
  · next d₁ r₁ he => rw [h] at he; cases he

theorem lines_nil (d : Draft) : lines room d [] = .ok d.table := by
  rw [lines]
  rfl

theorem get?_append_ne {t : Table} {k k' : String} (v : Value) (h : t.get? k = none)
    (hne : k' ≠ k) : Table.get? (t ++ [(k', v)]) k = none := by
  have hbeq : (k == k') = false := by simpa using hne.symm
  unfold Table.get? at h ⊢
  rw [List.lookup_append, h, List.lookup_cons, hbeq]
  rfl

/-- Each line of a laid out text adds its entry to the end of the table, whatever follows. -/
theorem lines_laid {es : List (String × String)} {text : List Char} (h : Laid es text)
    {t : Table} (hfresh : ∀ e ∈ es, t.get? e.1 = none) (hkeys : (es.map Prod.fst).Nodup)
    (rest : List Char) :
    lines room (.plain t) (unifyNewlines (text ++ rest)) =
      lines room (.plain (t ++ es.map textEntry)) (unifyNewlines rest) := by
  induction h generalizing t with
  | nil => rw [List.map_nil, List.append_nil, List.nil_append]
  | @line e s ending text es hline hend _ ih =>
      have hown : ∀ kv ∈ e, t.get? kv.1 = none := fun kv hkv =>
        hfresh kv (List.mem_append_left _ (Option.mem_toList.mpr hkv))
      rw [List.append_assoc, List.append_assoc, unifyNewlines_append hline.return_not_mem,
        hend.unify, lines_of_line (line_of_laidLine hline hown (.ended _))]
      cases e with
      | none =>
          rw [Option.toList_none, List.map_nil, List.append_nil, List.nil_append]
          exact ih hfresh hkeys
      | some kv =>
          -- The keys that are left differ from the one that has just been added.
          rw [Option.toList_some, List.map_cons, List.map_nil] at *
          rw [List.singleton_append, List.map_cons, List.nodup_cons] at hkeys
          have hrest : ∀ e ∈ es, Table.get? (t ++ [textEntry kv]) e.1 = none := by
            intro e he
            refine get?_append_ne _ (hfresh e (by simp [he])) ?_
            intro heq
            exact hkeys.1 (heq ▸ List.mem_map_of_mem he)
          rw [ih hrest hkeys.2, List.append_assoc]
          rfl

theorem get?_eq_none {es : List (String × String)} {k : String} (h : ∀ v, (k, v) ∉ es) :
    Table.get? (es.map textEntry) k = none := by
  unfold Table.get?
  rw [List.lookup_eq_none_iff]
  intro e he
  obtain ⟨⟨k', v⟩, hmem, rfl⟩ := List.mem_map.mp he
  have hne : k ≠ k' := by
    rintro rfl
    exact h v hmem
  simpa [textEntry] using hne

/-- A text is parsed line by line after its line ends were made alike. -/
theorem parse_eq (text : List Char) :
    parse room text = (lines room (.plain []) (unifyNewlines text)).mapError
      (Fault.locate (unifyNewlines text)) := rfl

/-- **Reading a text of entries.** A text that holds entries under different keys describes the
table of these entries. -/
theorem parse_holds {es : List (String × String)} {text : List Char} (h : Holds es text)
    (hkeys : (es.map Prod.fst).Nodup) : parse room text = .ok (es.map textEntry) := by
  suffices hlines : lines room (.plain []) (unifyNewlines text) = .ok (es.map textEntry) by
    rw [parse_eq, hlines]
    rfl
  cases h with
  | ended h =>
      have hread : lines room (.plain []) (unifyNewlines (text ++ [])) = _ :=
        lines_laid h (fun _ _ => rfl) hkeys []
      rw [List.append_nil, unifyNewlines, lines_nil] at hread
      exact hread
  | @cut e s text es h hline =>
      rw [List.map_append] at hkeys
      obtain ⟨hown, hlast, hdisjoint⟩ := List.nodup_append.mp hkeys
      have hfresh : ∀ kv ∈ e, Table.get? (es.map textEntry) kv.1 = none := by
        intro kv hkv
        refine get?_eq_none fun v hmem => ?_
        exact hdisjoint _ (List.mem_map_of_mem hmem) _
          (List.mem_map_of_mem (Option.mem_toList.mpr hkv)) rfl
      have hs : unifyNewlines s = s := by
        have := unifyNewlines_append hline.return_not_mem []
        rwa [List.append_nil, unifyNewlines, List.append_nil] at this
      have hend : line room (.plain (es.map textEntry)) (s ++ []) = _ :=
        line_of_laidLine hline hfresh .cut
      rw [List.append_nil] at hend
      rw [lines_laid h (fun _ _ => rfl) hown, hs, List.nil_append, lines_of_last hend,
        List.map_append]
      rfl

/-- A text that lays out entries under different keys describes the table of these entries. -/
theorem parse_laid {es : List (String × String)} {text : List Char} (h : Laid es text)
    (hkeys : (es.map Prod.fst).Nodup) : parse room text = .ok (es.map textEntry) :=
  parse_holds (.ended h) hkeys

end GreetCalc.Toml
