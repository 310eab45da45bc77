import GreetCalc.Proofs.Toml.Layout

/-!
# Numbers of too many digits

A decimal integer is read up to a limit of digits. Beyond it the reading of a value stops
(`simple_tooManyDigits`), and with it that of the whole document, with a fault that has no place of
its own (`parse_tooManyDigits`).
-/

namespace GreetCalc.Toml

open GreetCalc.Text (isAsciiDigit)

theorem ne_of_isAsciiDigit {c d : Char} (hc : isAsciiDigit c = true) (hd : isAsciiDigit d = false) :
    c ≠ d := by
  rintro rfl
  rw [hc] at hd
  cases hd

/-! ## The digits -/

theorem digitRun_line {ds : List Char} (h : ∀ d ∈ ds, isAsciiDigit d = true) (rest : List Char) :
    digitRun isAsciiDigit (ds ++ '\n' :: rest) = (ds, '\n' :: rest) := by
  induction ds with
  | nil =>
      rw [List.nil_append]
      unfold digitRun
      exact if_neg (by decide)
  | cons d ds ih =>
      have hd := h d List.mem_cons_self
      have hds : ∀ d ∈ ds, isAsciiDigit d = true := fun e he => h e (List.mem_cons_of_mem d he)
      have hunderscore : ∀ more, ds ++ '\n' :: rest ≠ '_' :: more := by
        intro more he
        cases ds with
        | nil => exact absurd (List.cons.inj he).1 (by decide)
        | cons e ds =>
            exact ne_of_isAsciiDigit (hds e List.mem_cons_self) (by decide) (List.cons.inj he).1
      rw [List.cons_append, digitRun, if_pos hd, ih hds]
      exact hunderscore

/-- An integer beyond the limit is found out when its digits have been read. -/
theorem decimal?_tooManyDigits {d : Char} {ds : List Char}
    (h : ∀ e ∈ d :: ds, isAsciiDigit e = true) (hd : d ≠ '0')
    (hlen : Decimal.digitLimit < (d :: ds).length) (rest : List Char) :
    decimal? (d :: (ds ++ '\n' :: rest)) = .error (.tooManyDigits (d :: ds).length) := by
  have hdigit := h d List.mem_cons_self
  have hsign : signOf (d :: (ds ++ '\n' :: rest)) = (false, d :: (ds ++ '\n' :: rest)) := by
    unfold signOf
    split
    · next he => exact absurd (List.cons.inj he).1 (ne_of_isAsciiDigit hdigit (by decide))
    · next he => exact absurd (List.cons.inj he).1 (ne_of_isAsciiDigit hdigit (by decide))
    · rfl
  have hwhole : wholeDigits (d :: (ds ++ '\n' :: rest)) = (d :: ds, '\n' :: rest) := by
    unfold wholeDigits
    split
    · next he => exact absurd (List.cons.inj he).1 hd
    · exact digitRun_line h rest
  have hexponent : exponent? ('\n' :: rest) = none := rfl
  have hfraction : fraction ('\n' :: rest) = ([], '\n' :: rest) := rfl
  simp only [decimal?, hsign, hwhole, hfraction, hexponent]
  rw [if_pos (by rfl), if_pos hlen]

/-! ## The value -/

/-- Digits in a row begin no date and no time of day. -/
theorem moment?_digits {a b c d e : Char} (hc : isAsciiDigit c = true) (he : isAsciiDigit e = true)
    (rest : List Char) : moment? (a :: b :: c :: d :: e :: rest) = .ok none := by
  have hdash : expect? '-' (e :: rest) = none :=
    if_neg (ne_of_isAsciiDigit he (by decide))
  have hcolon : expect? ':' (c :: d :: e :: rest) = none :=
    if_neg (ne_of_isAsciiDigit hc (by decide))
  have hdate : date? (a :: b :: c :: d :: e :: rest) = none := by
    rw [date?, year?]
    split
    · show (expect? '-' (e :: rest)).bind _ = none
      rw [hdash]
      rfl
    · rfl
  have htime : time? (a :: b :: c :: d :: e :: rest) = none := by
    simp only [time?, twoDigits?]
    split
    · split
      · show (expect? ':' (c :: d :: e :: rest)).bind _ = none
        rw [hcolon]
        rfl
      · rfl
    · rfl
  rw [moment?, hdate, htime]
  rfl

theorem startsSimple_digit {d : Char} (hd : isAsciiDigit d = true) : startsSimple d = true := by
  have hne : ∀ c, isAsciiDigit c = false → d ≠ c := fun c hc => ne_of_isAsciiDigit hd hc
  simp [startsSimple, isBlank, hne '[' (by decide), hne '\x7b' (by decide), hne ' ' (by decide),
    hne '\t' (by decide)]

theorem truth?_digit {d : Char} (hd : isAsciiDigit d = true) (rest : List Char) :
    truth? (d :: rest) = none := by
  unfold truth?
  split
  · next he => exact absurd (List.cons.inj he).1 (ne_of_isAsciiDigit hd (by decide))
  · next he => exact absurd (List.cons.inj he).1 (ne_of_isAsciiDigit hd (by decide))
  · rfl

theorem simple_tooManyDigits {d : Char} {ds : List Char}
    (h : ∀ e ∈ d :: ds, isAsciiDigit e = true) (hd : d ≠ '0')
    (hlen : Decimal.digitLimit < (d :: ds).length) (rest : List Char) :
    simple (d :: (ds ++ '\n' :: rest)) = .error (.tooManyDigits (d :: ds).length) := by
  have hdigit := h d List.mem_cons_self
  have hmoment : moment? (d :: (ds ++ '\n' :: rest)) = .ok none := by
    -- There are far more than five digits.
    match ds, hlen with
    | b :: c :: d' :: e :: more, _ =>
      exact moment?_digits (h c (by simp)) (h e (by simp)) _
  have hbased : based? (d :: (ds ++ '\n' :: rest)) = none := by
    unfold based?
    split
    · next he => exact absurd (List.cons.inj he).1 hd
    · rfl
  have hnumber : number? (d :: (ds ++ '\n' :: rest)) =
      .error (.tooManyDigits (d :: ds).length) := by
    rw [number?, hbased, decimal?_tooManyDigits h hd hlen]
    rfl
  rw [simple, if_neg (ne_of_isAsciiDigit hdigit (by decide)),
    if_neg (ne_of_isAsciiDigit hdigit (by decide)), scalar, truth?_digit hdigit, hmoment]
  show Except.bind (number? _) _ = _
  rw [hnumber]
  rfl

/-! ## The document -/

variable {room : Nat}

theorem lines_of_error {d : Draft} {s : List Char} {fault : Fault}
    (h : line room d s = .error fault) :
    lines room d s = .error fault := by
  rw [lines]
  split
  · next e he => rw [h] at he; cases he; rfl
  · next d₁ he => rw [h] at he; cases he
  · next d₁ r₁ he => rw [h] at he; cases he

/-- **Too many digits.** A document whose first line sets a key to an integer beyond the limit is
not read, whatever follows. -/
theorem parse_tooManyDigits {k : String} (hk : BareKey k) {s₁ s₂ s₃ : List Char} (hs₁ : Blanks s₁)
    (hs₂ : Blanks s₂) (hs₃ : Blanks s₃) {d : Char} {ds : List Char}
    (h : ∀ e ∈ d :: ds, isAsciiDigit e = true) (hd : d ≠ '0')
    (hlen : Decimal.digitLimit < (d :: ds).length) (rest : List Char) :
    parse room ((s₁ ++ (k.toList ++ (s₂ ++ '=' :: (s₃ ++ d :: ds)))) ++ '\n' :: rest) =
      .error (.tooManyDigits (d :: ds).length) := by
  have hreturn : '\r' ∉ s₁ ++ (k.toList ++ (s₂ ++ '=' :: (s₃ ++ d :: ds))) := by
    have hdigits := not_mem_of_all h (c := '\r') (by decide)
    have hkey := not_mem_of_all hk.2 (c := '\r') (by decide)
    have h₁ := not_mem_of_all hs₁ (c := '\r') (by decide)
    have h₂ := not_mem_of_all hs₂ (c := '\r') (by decide)
    have h₃ := not_mem_of_all hs₃ (c := '\r') (by decide)
    simp only [List.mem_append, List.mem_cons, not_or] at hdigits ⊢
    exact ⟨h₁, hkey, h₂, by decide, h₃, hdigits⟩
  have hstart := startsSimple_digit (h d List.mem_cons_self)
  have hline : line room Draft.empty ((s₁ ++ (k.toList ++ (s₂ ++ '=' :: (s₃ ++ d :: ds)))) ++
      '\n' :: unifyNewlines rest) = .error (.tooManyDigits (d :: ds).length) := by
    simp only [List.append_assoc, List.cons_append]
    rw [line_bare _ hk hs₁, assignment_simple _ hk hs₂ hs₃ hstart, simple_tooManyDigits h hd hlen]
    rfl
  rw [parse, unifyNewlines_append hreturn, unifyNewlines_cons (by decide)]
  rw [lines_of_error hline]
  rfl

end GreetCalc.Toml
