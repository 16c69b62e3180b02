import FormFill.Proofs.Json.Grammar
import FormFill.Proofs.Json.LineEnds
import Mathlib.Data.List.TakeWhile

/-!
# Reading the tokens of JSON

Strings, numbers and words are read exactly as the grammar has them. A number is read as far as it goes, so
what comes behind a number of the grammar must not go on from it.
-/

namespace FormFill.Json

/-! ## Strings -/

theorem hexValue?_eq_some_iff {c : Char} : (∃ value, hexValue? c = some value) ↔ IsHexDigit c := by
  have hdigit : c.isDigit = true ↔ '0' ≤ c ∧ c ≤ '9' := by
    simp [Char.isDigit, Char.le_def]
  rw [hexValue?, IsHexDigit, ← hdigit]
  by_cases h1 : c.isDigit = true
  · simp [h1]
  · by_cases h2 : 'a' ≤ c ∧ c ≤ 'f'
    · simp [h1, h2]
    · by_cases h3 : 'A' ≤ c ∧ c ≤ 'F'
      · simp [h1, h2, h3]
      · simp [h1, h2, h3]

theorem hexFour?_eq_some_iff {a b c d : Char} : (∃ code, hexFour? a b c d = some code) ↔
    IsHexDigit a ∧ IsHexDigit b ∧ IsHexDigit c ∧ IsHexDigit d := by
  simp only [← hexValue?_eq_some_iff, hexFour?]
  cases hexValue? a <;> cases hexValue? b <;> cases hexValue? c <;> cases hexValue? d <;> simp

theorem shortEscape?_eq_some_iff {c : Char} : (∃ e, shortEscape? c = some e) ↔ c ∈ escapes := by
  constructor
  · rintro ⟨e, h⟩
    rw [shortEscape?.eq_def] at h
    split at h
    all_goals first
      | decide
      | cases h
  · intro h
    have hall : (escapes.all fun c => (shortEscape? c).isSome) = true := rfl
    exact Option.isSome_iff_exists.mp (List.all_eq_true.mp hall c h)

variable {openedAt : Nat} {text done content rest body : Text}

/-- A string that is read ends with a quote. -/
theorem exists_stringBody (hread : stringRest openedAt text done = .ok (content, rest)) :
    ∃ body, StringBody body ∧ text = body ++ '"' :: rest := by
  fun_induction stringRest openedAt text done with
  | case1 => cases hread
  | case2 text done =>
      cases hread
      exact ⟨[], .nil, rfl⟩
  | case3 => cases hread
  | case4 => cases hread
  | case5 a b c d next text done code hcode hhigh e f g k last more htail low hlow hsecond ih =>
      obtain ⟨body, hbody, hmore⟩ := ih hread
      obtain ⟨ha, hb, hc, hd⟩ := hexFour?_eq_some_iff.mp ⟨_, hcode⟩
      obtain ⟨he, hf, hg, hk⟩ := hexFour?_eq_some_iff.mp ⟨_, hlow⟩
      exact ⟨_, .codePoint ha hb hc hd (.codePoint he hf hg hk hbody), by simp [htail, hmore]⟩
  | case6 a b c d next text done code hcode hhigh e f g k last more htail low hlow hsecond ih =>
      obtain ⟨body, hbody, hmore⟩ := ih hread
      obtain ⟨ha, hb, hc, hd⟩ := hexFour?_eq_some_iff.mp ⟨_, hcode⟩
      exact ⟨_, .codePoint ha hb hc hd hbody, by simp [hmore]⟩
  | case7 a b c d next text done code hcode hhigh hother ih =>
      obtain ⟨body, hbody, hmore⟩ := ih hread
      obtain ⟨ha, hb, hc, hd⟩ := hexFour?_eq_some_iff.mp ⟨_, hcode⟩
      exact ⟨_, .codePoint ha hb hc hd hbody, by simp [hmore]⟩
  | case8 a b c d next text done code hcode hhigh ih =>
      obtain ⟨body, hbody, hmore⟩ := ih hread
      obtain ⟨ha, hb, hc, hd⟩ := hexFour?_eq_some_iff.mp ⟨_, hcode⟩
      exact ⟨_, .codePoint ha hb hc hd hbody, by simp [hmore]⟩
  | case9 => cases hread
  | case10 c text done hother hc e hshort ih =>
      obtain ⟨body, hbody, hmore⟩ := ih hread
      exact ⟨_, .short (shortEscape?_eq_some_iff.mp ⟨e, hshort⟩) hbody, by simp [hmore]⟩
  | case11 => cases hread
  | case12 => cases hread
  | case13 => cases hread
  | case14 c text done hquote hunicode hshort hbackslash hcontrol ih =>
      obtain ⟨body, hbody, hmore⟩ := ih hread
      exact ⟨_, .plain hquote hbackslash (by omega) hbody, by simp [hmore]⟩

/-- A string is never read as a number. -/
theorem stringRest_ne_tooManyDigits (count : Nat) :
    stringRest openedAt text done ≠ .error (.tooManyDigits count) := by
  fun_induction stringRest openedAt text done with
  | case5 | case6 | case7 | case8 | case10 | case14 => assumption
  | _ => rintro ⟨⟩

/-- A body that begins like a code point escape does so with hexadecimal digits. -/
theorem StringBody.exists_of_codePoint {e f g k : Char} {more : Text} (h : StringBody body)
    (htext : body ++ '"' :: rest = '\\' :: 'u' :: e :: f :: g :: k :: more) :
    (IsHexDigit e ∧ IsHexDigit f ∧ IsHexDigit g ∧ IsHexDigit k) ∧
      ∃ left, StringBody left ∧ left.length < body.length ∧ more = left ++ '"' :: rest := by
  cases h with
  | nil => cases htext
  | plain hquote hbackslash => exact absurd (List.cons.inj htext).1 hbackslash
  | short hc hbody =>
      simp only [List.cons_append, List.cons.injEq, true_and] at htext
      rw [htext.1] at hc
      exact absurd hc (by decide)
  | codePoint ha hb hc hd hbody =>
      simp only [List.cons_append, List.cons.injEq, true_and] at htext
      obtain ⟨rfl, rfl, rfl, rfl, rfl⟩ := htext
      exact ⟨⟨ha, hb, hc, hd⟩, _, hbody, by simp only [List.length_cons]; omega, rfl⟩

/-- What stands between quotes is read up to the second quote. The second half of a surrogate pair is read
along with the first, so the induction is on the length. -/
theorem exists_stringRest_eq_ok (hbody : StringBody body) (openedAt : Nat) (done rest : Text) :
    ∃ content, stringRest openedAt (body ++ '"' :: rest) done = .ok (content, rest) := by
  induction hlength : body.length using Nat.strongRecOn generalizing body done with
  | ind length ih =>
    subst hlength
    cases hbody with
    | nil => exact ⟨done.reverse, by rw [List.nil_append, stringRest]⟩
    | @plain c body hquote hbackslash hcontrol hbody =>
        obtain ⟨content, hread⟩ := ih _ (by simp) hbody (c :: done) rfl
        refine ⟨content, ?_⟩
        rw [List.cons_append, stringRest, if_neg hbackslash, if_neg (by omega), hread]
        · exact hquote
        · intro _ _ _ _ _ _ heq
          exact absurd heq hbackslash
        · intro _ _ heq
          exact absurd heq hbackslash
    | @short c body hc hbody =>
        obtain ⟨e, hshort⟩ := shortEscape?_eq_some_iff.mpr hc
        have hu : c ≠ 'u' := by
          rintro rfl
          exact absurd hc (by decide)
        have hshorter : body.length < ('\\' :: c :: body).length := by
          simp only [List.length_cons]
          omega
        obtain ⟨content, hread⟩ := ih _ hshorter hbody (e :: done) rfl
        refine ⟨content, ?_⟩
        rw [List.cons_append, List.cons_append, stringRest, if_neg hu, hshort]
        · exact hread
        · intro _ _ _ _ _ _ heq
          exact absurd heq hu
    | @codePoint a b c d body ha hb hc hd hbody =>
        obtain ⟨code, hcode⟩ := hexFour?_eq_some_iff.mpr ⟨ha, hb, hc, hd⟩
        have hshorter : body.length < ('\\' :: 'u' :: a :: b :: c :: d :: body).length := by
          simp only [List.length_cons]
          omega
        have hrest := fun done => ih _ hshorter hbody done rfl
        obtain ⟨next, more, hnext⟩ : ∃ next more, body ++ '"' :: rest = next :: more :=
          List.exists_cons_of_ne_nil (by simp)
        simp only [List.cons_append]
        rw [hnext, stringRest]
        simp only [hcode]
        split
        next hhigh =>
          split
          next e f g k last tail heq =>
            obtain ⟨⟨he, hf, hg, hk⟩, left, hleft, hshort, htail⟩ :=
              hbody.exists_of_codePoint (hnext.trans heq)
            obtain ⟨low, hlow⟩ := hexFour?_eq_some_iff.mpr ⟨he, hf, hg, hk⟩
            simp only [hlow]
            split
            next =>
              rw [htail]
              exact ih _ (Nat.lt_trans hshort hshorter) hleft _ rfl
            next =>
              rw [← hnext]
              exact hrest _
          next =>
            rw [← hnext]
            exact hrest _
        next =>
          rw [← hnext]
          exact hrest _

/-! ## Numbers -/

/-- A text that does not begin with a digit. -/
def NoDigit (text : Text) : Prop := ∀ c, text.head? = some c → c.isDigit = false

theorem NoDigit.not_begins {digits : Text} (h : NoDigit text) (hdigits : IsDigits digits) :
    ¬ digits <+: text := by
  rintro ⟨rest, rfl⟩
  obtain ⟨hne, hall⟩ := hdigits
  obtain ⟨c, more, rfl⟩ := List.exists_cons_of_ne_nil hne
  have hdigit := hall c List.mem_cons_self
  rw [h c rfl] at hdigit
  cases hdigit

theorem NoDigit.of_not_begins (h : ∀ c, IsDigits [c] → ¬ [c] <+: text) : NoDigit text := by
  intro c hc
  obtain ⟨more, rfl⟩ := List.head?_eq_some_iff.mp hc
  by_contra hdigit
  exact h c ⟨List.cons_ne_nil _ _, by simpa using hdigit⟩ ⟨more, rfl⟩

/-- Digits are split off as far as they go. -/
theorem splitDigits_cases (text : Text) : ∃ digits rest, splitDigits text = (digits, rest) ∧
    text = digits ++ rest ∧ (∀ c ∈ digits, c.isDigit = true) ∧ NoDigit rest := by
  refine ⟨_, _, rfl, List.takeWhile_append_dropWhile.symm, fun c => List.mem_takeWhile_imp, ?_⟩
  intro c hc
  have hfirst := List.head?_dropWhile_not Char.isDigit text
  rw [hc] at hfirst
  exact hfirst

theorem splitDigits_append {digits : Text} (hdigits : ∀ c ∈ digits, c.isDigit = true)
    (hrest : NoDigit rest) : splitDigits (digits ++ rest) = (digits, rest) := by
  induction digits with
  | nil =>
      cases rest with
      | nil => rfl
      | cons c rest => simp [splitDigits, hrest c rfl]
  | cons c digits ih =>
      obtain ⟨hc, hmore⟩ := List.forall_mem_cons.mp hdigits
      have htail := ih hmore
      rw [splitDigits, Prod.mk.injEq] at htail ⊢
      rw [List.cons_append, List.takeWhile_cons_of_pos hc, List.dropWhile_cons_of_pos hc, htail.1,
        htail.2]
      exact ⟨rfl, rfl⟩

theorem splitDigits_of_noDigit (h : NoDigit text) : splitDigits text = ([], text) :=
  (splitDigits_append nofun h : splitDigits ([] ++ text) = ([], text))

/-- How an optional part of a number is split off: exactly if the text begins with one, and as far as its
digits go. -/
structure SplitsOff {α : Type} (IsPart : Text → Prop) (split : Text → Option α × Text) : Prop where
  absent : ∀ {text}, (∀ part, IsPart part → part <+: text → part = []) → split text = (none, text)
  present : ∀ {part rest}, IsPart part → part ≠ [] → NoDigit rest →
    ∃ found, split (part ++ rest) = (some found, rest)
  extend : ∀ {part digits}, IsPart part → part ≠ [] → (∀ c ∈ digits, c.isDigit = true) →
    IsPart (part ++ digits)

namespace SplitsOff

variable {α : Type} {IsPart : Text → Prop} {split : Text → Option α × Text}

/-- A part is split off if no digit comes behind it, nor, if it is missing, another one. -/
theorem append (h : SplitsOff IsPart split) {part : Text} (hpart : IsPart part)
    (hrest : NoDigit rest) (hother : ∀ other, IsPart other → other <+: rest → other = []) :
    ∃ found, split (part ++ rest) = (found, rest) ∧ (found = none ↔ part = []) := by
  cases part with
  | nil => exact ⟨none, h.absent hother, iff_of_true rfl rfl⟩
  | cons c part =>
      obtain ⟨found, hfound⟩ := h.present hpart (List.cons_ne_nil c part) hrest
      exact ⟨some found, hfound, iff_of_false nofun (List.cons_ne_nil c part)⟩

/-- What is split off is a part, and nothing only if there is none. -/
theorem exists_eq (h : SplitsOff IsPart split) (hnil : IsPart []) (text : Text) :
    ∃ found part rest, split text = (found, rest) ∧ text = part ++ rest ∧ IsPart part ∧
      (found = none ↔ part = []) ∧
      (part = [] → ∀ other, IsPart other → other <+: text → other = []) := by
  by_cases hnone : ∀ part, IsPart part → part <+: text → part = []
  · exact ⟨none, [], text, h.absent hnone, rfl, hnil, iff_of_true rfl rfl, fun _ => hnone⟩
  · simp only [not_forall] at hnone
    obtain ⟨part, hpart, ⟨more, rfl⟩, hne⟩ := hnone
    obtain ⟨digits, rest, -, rfl, hdigits, hrest⟩ := splitDigits_cases more
    have hwhole := h.extend hpart hne hdigits
    have hwholeNe := List.append_ne_nil_of_left_ne_nil hne digits
    obtain ⟨found, hfound⟩ := h.present hwhole hwholeNe hrest
    rw [← List.append_assoc]
    exact ⟨some found, part ++ digits, rest, hfound, rfl, hwhole, iff_of_false nofun hwholeNe,
      fun hempty => absurd hempty hwholeNe⟩

end SplitsOff

theorem IsDigits.append {digits more : Text} (h : IsDigits digits)
    (hmore : ∀ c ∈ more, c.isDigit = true) : IsDigits (digits ++ more) :=
  ⟨List.append_ne_nil_of_left_ne_nil h.1 more, List.forall_mem_append.mpr ⟨h.2, hmore⟩⟩

theorem splitsOff_splitFraction : SplitsOff IsFraction splitFraction where
  absent {text} h := by
    by_cases hpoint : text.head? = some '.'
    · obtain ⟨after, rfl⟩ := List.head?_eq_some_iff.mp hpoint
      have hafter : NoDigit after := NoDigit.of_not_begins fun c hc hbegins =>
        absurd (h ['.', c] (Or.inr ⟨[c], hc, rfl⟩) (List.cons_prefix_cons.mpr ⟨rfl, hbegins⟩))
          (List.cons_ne_nil _ _)
      rw [splitFraction, splitDigits_of_noDigit hafter]
    · exact splitFraction_of_ne hpoint
  present {part rest} hpart hne hrest := by
    rcases hpart with rfl | ⟨digits, ⟨hdigits, hall⟩, rfl⟩
    · exact absurd rfl hne
    · obtain ⟨c, digits, rfl⟩ := List.exists_cons_of_ne_nil hdigits
      rw [List.cons_append, splitFraction, splitDigits_append hall hrest]
      exact ⟨_, rfl⟩
  extend {part digits} hpart hne hdigits := by
    rcases hpart with rfl | ⟨first, hfirst, rfl⟩
    · exact absurd rfl hne
    · exact Or.inr ⟨first ++ digits, hfirst.append hdigits, rfl⟩

theorem splitSign_cases (text : Text) :
    ∃ negative sign rest, splitSign text = (negative, rest) ∧ IsExponentSign sign ∧
      text = sign ++ rest := by
  by_cases hminus : text.head? = some '-'
  · obtain ⟨rest, rfl⟩ := List.head?_eq_some_iff.mp hminus
    exact ⟨true, ['-'], rest, rfl, Or.inr (Or.inl rfl), rfl⟩
  · by_cases hplus : text.head? = some '+'
    · obtain ⟨rest, rfl⟩ := List.head?_eq_some_iff.mp hplus
      exact ⟨false, ['+'], rest, rfl, Or.inr (Or.inr rfl), rfl⟩
    · exact ⟨false, [], text, splitSign_of_ne hminus hplus, Or.inl rfl, rfl⟩

theorem splitSign_append {sign : Text} (hsign : IsExponentSign sign) {c : Char} (hc : c.isDigit = true)
    (rest : Text) : ∃ negative, splitSign (sign ++ c :: rest) = (negative, c :: rest) := by
  rcases hsign with rfl | rfl | rfl
  · refine ⟨false, splitSign_of_ne ?_ ?_⟩
    all_goals
      rw [List.nil_append, List.head?_cons, Ne, Option.some.injEq]
      rintro rfl
      cases hc
  · exact ⟨true, rfl⟩
  · exact ⟨false, rfl⟩

theorem splitsOff_splitExponent : SplitsOff IsExponent splitExponent where
  absent {text} h := by
    cases text with
    | nil => rfl
    | cons letter after =>
        by_cases hletter : letter = 'e' ∨ letter = 'E'
        · obtain ⟨negative, sign, body, hsplit, hsign, rfl⟩ := splitSign_cases after
          have hbody : NoDigit body := NoDigit.of_not_begins fun c hc hbegins =>
            absurd (h (letter :: (sign ++ [c])) (Or.inr ⟨letter, sign, [c], hletter, hsign, hc, rfl⟩)
              (List.cons_prefix_cons.mpr ⟨rfl, (List.prefix_append_right_inj sign).mpr hbegins⟩))
              (List.cons_ne_nil _ _)
          rw [splitExponent, if_pos hletter, hsplit]
          dsimp only
          rw [splitDigits_of_noDigit hbody]
        · rw [splitExponent, if_neg hletter]
  present {part rest} hpart hne hrest := by
    rcases hpart with rfl | ⟨letter, sign, digits, hletter, hsign, ⟨hdigits, hall⟩, rfl⟩
    · exact absurd rfl hne
    · obtain ⟨c, digits, rfl⟩ := List.exists_cons_of_ne_nil hdigits
      obtain ⟨negative, hsplit⟩ := splitSign_append hsign (hall c List.mem_cons_self) (digits ++ rest)
      rw [List.cons_append, List.append_assoc, List.cons_append, splitExponent, if_pos hletter, hsplit]
      dsimp only
      rw [← List.cons_append, splitDigits_append hall hrest]
      exact ⟨_, rfl⟩
  extend {part digits} hpart hne hdigits := by
    rcases hpart with rfl | ⟨letter, sign, first, hletter, hsign, hfirst, rfl⟩
    · exact absurd rfl hne
    · exact Or.inr ⟨letter, sign, first ++ digits, hletter, hsign, hfirst.append hdigits,
        by rw [List.cons_append, List.append_assoc]⟩

theorem splitWhole_of_ne (h : text.head? ≠ some '0') : splitWhole text = splitDigits text := by
  rw [splitWhole]
  rintro rest rfl
  exact h rfl

/-- What is split off is what stands before a point, if it is anything. -/
theorem splitWhole_cases (text : Text) : ∃ digits rest, splitWhole text = (digits, rest) ∧
    text = digits ++ rest ∧ (digits = [] ∨ IsWhole digits) ∧ (digits = ['0'] ∨ NoDigit rest) := by
  by_cases hzero : text.head? = some '0'
  · obtain ⟨rest, rfl⟩ := List.head?_eq_some_iff.mp hzero
    exact ⟨['0'], rest, rfl, rfl, Or.inr (Or.inl rfl), Or.inl rfl⟩
  · obtain ⟨digits, rest, hsplit, htext, hall, hrest⟩ := splitDigits_cases text
    refine ⟨digits, rest, (splitWhole_of_ne hzero).trans hsplit, htext, ?_, Or.inr hrest⟩
    cases digits with
    | nil => exact Or.inl rfl
    | cons c digits =>
        rw [htext] at hzero
        exact Or.inr (Or.inr ⟨⟨List.cons_ne_nil _ _, hall⟩, hzero⟩)

theorem splitWhole_append {digits : Text} (hdigits : IsWhole digits) (hrest : NoDigit rest) :
    splitWhole (digits ++ rest) = (digits, rest) := by
  rcases hdigits with rfl | ⟨⟨hne, hall⟩, hzero⟩
  · rfl
  · have hfirst : (digits ++ rest).head? ≠ some '0' := by
      rwa [List.head?_append_of_ne_nil _ hne]
    exact (splitWhole_of_ne hfirst).trans (splitDigits_append hall hrest)

theorem EndsNumber.noDigit (h : EndsNumber rest) : NoDigit rest :=
  NoDigit.of_not_begins fun c hc hbegins =>
    absurd (h [c] (Or.inl hc) hbegins) (List.cons_ne_nil _ _)

theorem IsExponent.noDigit {exponent : Text} (h : IsExponent exponent) (hrest : NoDigit rest) :
    NoDigit (exponent ++ rest) := by
  rcases h with rfl | ⟨letter, sign, digits, rfl | rfl, -, -, rfl⟩
  · exact hrest
  all_goals
    rintro c ⟨⟩
    decide

theorem IsFraction.noDigit {fraction : Text} (h : IsFraction fraction) (hrest : NoDigit rest) :
    NoDigit (fraction ++ rest) := by
  rcases h with rfl | ⟨digits, -, rfl⟩
  · exact hrest
  · rintro c ⟨⟩
    decide

/-- No fraction stands in front of an exponent that has been taken off together with one. -/
theorem IsExponent.not_fraction {exponent part : Text} (h : IsExponent exponent)
    (hrest : EndsNumber rest) (hpart : IsFraction part) (hbegins : part <+: exponent ++ rest) :
    part = [] := by
  rcases h with rfl | ⟨letter, sign, digits, hletter, -, -, rfl⟩
  · exact hrest part (Or.inr (Or.inl hpart)) hbegins
  · rcases hpart with rfl | ⟨digits, -, rfl⟩
    · rfl
    · obtain ⟨rfl, -⟩ := List.cons_prefix_cons.mp hbegins
      exact absurd hletter (by decide)

theorem IsWhole.exists_cons {whole : Text} (h : IsWhole whole) :
    ∃ c digits, whole = c :: digits ∧ c.isDigit = true := by
  rcases h with rfl | ⟨⟨hne, hall⟩, -⟩
  · exact ⟨'0', [], rfl, rfl⟩
  · obtain ⟨c, digits, rfl⟩ := List.exists_cons_of_ne_nil hne
    exact ⟨c, digits, rfl, hall c List.mem_cons_self⟩

/-- What a number is read as, once its parts have been split off. -/
theorem number_of_splits (negative : Bool) (left : Nat) {c : Char}
    {digits afterWhole afterFraction : Text} {places : Option Text} {power : Option Int}
    (hwhole : splitWhole text = (c :: digits, afterWhole))
    (hplaces : splitFraction afterWhole = (places, afterFraction))
    (hpower : splitExponent afterFraction = (power, rest)) :
    (places = none → power = none → Text.digitLimit < (c :: digits).length →
      number negative left text = .error (.tooManyDigits (c :: digits).length)) ∧
    ((places = none → power = none → (c :: digits).length ≤ Text.digitLimit) →
      ∃ found, number negative left text = .ok (found, rest)) := by
  simp only [number, hwhole, hplaces, hpower]
  cases places with
  | some places => exact ⟨fun h => absurd h (Option.some_ne_none places), fun _ => ⟨_, rfl⟩⟩
  | none =>
      cases power with
      | some power => exact ⟨fun _ h => absurd h (Option.some_ne_none power), fun _ => ⟨_, rfl⟩⟩
      | none => exact ⟨fun _ _ h => if_pos h, fun h => ⟨_, if_neg (Nat.not_lt.mpr (h rfl rfl))⟩⟩

/-- A number of the grammar is read if nothing goes on from it. -/
theorem exists_number_eq_ok (negative : Bool) (left : Nat) {whole fraction exponent : Text}
    (hwhole : IsWhole whole) (hfraction : IsFraction fraction) (hexponent : IsExponent exponent)
    (hlimit : fraction = [] → exponent = [] → whole.length ≤ Text.digitLimit)
    (hrest : EndsNumber rest) :
    ∃ found, number negative left (whole ++ (fraction ++ (exponent ++ rest))) = .ok (found, rest) := by
  have hnext := hexponent.noDigit hrest.noDigit
  have hsplitWhole := splitWhole_append hwhole (hfraction.noDigit hnext)
  obtain ⟨places, hsplitFraction, hplaces⟩ := splitsOff_splitFraction.append hfraction hnext
    fun _ => hexponent.not_fraction hrest
  obtain ⟨power, hsplitExponent, hpower⟩ := splitsOff_splitExponent.append hexponent hrest.noDigit
    fun other hother => hrest other (Or.inr (Or.inr hother))
  obtain ⟨c, digits, rfl, -⟩ := hwhole.exists_cons
  exact (number_of_splits negative left hsplitWhole hsplitFraction hsplitExponent).2
    fun h h' => hlimit (hplaces.mp h) (hpower.mp h')

/-- An integer with too many digits is not read. -/
theorem number_eq_tooManyDigits (negative : Bool) (left : Nat) {whole : Text} (hwhole : IsWhole whole)
    (hlimit : Text.digitLimit < whole.length) (hrest : EndsNumber rest) :
    number negative left (whole ++ rest) = .error (.tooManyDigits whole.length) := by
  have hsplitWhole := splitWhole_append hwhole hrest.noDigit
  have hsplitFraction : splitFraction rest = (none, rest) :=
    splitsOff_splitFraction.absent fun other hother => hrest other (Or.inr (Or.inl hother))
  have hsplitExponent : splitExponent rest = (none, rest) :=
    splitsOff_splitExponent.absent fun other hother => hrest other (Or.inr (Or.inr hother))
  obtain ⟨c, digits, rfl, -⟩ := hwhole.exists_cons
  exact (number_of_splits negative left hsplitWhole hsplitFraction hsplitExponent).1 rfl rfl hlimit

/-- What is read as a number is a number of the grammar, and nothing goes on from an integer that has too
many digits. -/
theorem number_cases (negative : Bool) (left : Nat) (text : Text) :
    (∃ problem position, number negative left text = .error (.problem problem position)) ∨
    (∃ whole rest, number negative left text = .error (.tooManyDigits whole.length) ∧
      text = whole ++ rest ∧ IsWhole whole ∧ Text.digitLimit < whole.length ∧ EndsNumber rest) ∨
    ∃ found whole fraction exponent rest, number negative left text = .ok (found, rest) ∧
      text = whole ++ (fraction ++ (exponent ++ rest)) ∧ IsWhole whole ∧ IsFraction fraction ∧
      IsExponent exponent ∧
      (fraction = [] → exponent = [] → whole.length ≤ Text.digitLimit) := by
  obtain ⟨whole, afterWhole, hsplitWhole, rfl, hwhole, hend⟩ := splitWhole_cases text
  obtain ⟨places, fraction, afterFraction, hsplitFraction, rfl, hfraction, hplaces, hnoFraction⟩ :=
    splitsOff_splitFraction.exists_eq (Or.inl rfl) afterWhole
  obtain ⟨power, exponent, rest, hsplitExponent, rfl, hexponent, hpower, hnoExponent⟩ :=
    splitsOff_splitExponent.exists_eq (Or.inl rfl) afterFraction
  rcases hwhole with rfl | hwhole
  · exact Or.inl ⟨.expectedValue, left, by simp only [number, hsplitWhole]⟩
  obtain ⟨c, digits, rfl, -⟩ := hwhole.exists_cons
  obtain ⟨hlong, hshort⟩ :=
    number_of_splits negative left hsplitWhole hsplitFraction hsplitExponent
  rw [hplaces, hpower] at hlong hshort
  refine Or.inr ?_
  by_cases hlimit : fraction = [] → exponent = [] → (c :: digits).length ≤ Text.digitLimit
  · obtain ⟨found, hfound⟩ := hshort hlimit
    exact Or.inr ⟨found, c :: digits, fraction, exponent, rest, hfound, rfl, hwhole, hfraction,
      hexponent, hlimit⟩
  · simp only [Classical.not_imp, Nat.not_le] at hlimit
    obtain ⟨rfl, rfl, hlimit⟩ := hlimit
    have hnoDigit : NoDigit rest := by
      rcases hend with hzero | hend
      · rw [hzero] at hlimit
        exact absurd hlimit (by decide)
      · exact hend
    refine Or.inl ⟨c :: digits, rest, hlong rfl rfl hlimit, rfl, hwhole, hlimit, ?_⟩
    rintro part (hpart | hpart | hpart) hbegins
    · exact absurd hbegins (hnoDigit.not_begins hpart)
    · exact hnoFraction rfl part hpart hbegins
    · exact hnoExponent rfl part hpart hbegins

/-! ## Words and signs -/

theorem dropWord?_eq_some_iff {word : Text} : dropWord? word text = some rest ↔ text = word ++ rest := by
  by_cases hbegins : word <+: text
  · obtain ⟨after, rfl⟩ := hbegins
    simp [dropWord?, List.append_cancel_left_eq]
  · have hne : text ≠ word ++ rest := fun heq => hbegins ⟨rest, heq.symm⟩
    simp [dropWord?, hbegins, hne]

/-- A word that is read stands at the start of the text. -/
theorem exists_of_word?_eq_some {tried : List (Text × Value)} {found : Value}
    (h : word? tried text = some (found, rest)) :
    ∃ word ∈ tried.map Prod.fst, text = word ++ rest := by
  obtain ⟨entry, hentry, hword⟩ := List.exists_of_findSome?_eq_some h
  obtain ⟨after, hafter, heq⟩ := Option.map_eq_some_iff.mp hword
  cases heq
  exact ⟨entry.1, List.mem_map_of_mem hentry, dropWord?_eq_some_iff.mp hafter⟩

/-- A word at the start of a text is read, since none of them begins another. -/
theorem exists_word?_eq_some {word : Text} (h : word ∈ words.map Prod.fst) (rest : Text) :
    ∃ found, word? words (word ++ rest) = some (found, rest) := by
  simp only [words, List.map_cons, List.map_nil, List.mem_cons, List.not_mem_nil, or_false] at h
  rcases h with rfl | rfl | rfl | rfl | rfl | rfl
  all_goals exact ⟨_, rfl⟩

/-- No word is a number, even after a sign. -/
theorem word?_eq_none {sign : Text} (hsign : IsSign sign) {c : Char} (hc : c.isDigit = true)
    (rest : Text) : word? words (sign ++ c :: rest) = none := by
  have hwords : ∀ word ∈ words.map Prod.fst, ∃ first second more, word = first :: second :: more ∧
      first.isDigit = false ∧ second.isDigit = false := by
    simp only [words, List.map_cons, List.map_nil, List.forall_mem_cons]
    refine ⟨⟨_, _, _, rfl, rfl, rfl⟩, ⟨_, _, _, rfl, rfl, rfl⟩, ⟨_, _, _, rfl, rfl, rfl⟩,
      ⟨_, _, _, rfl, rfl, rfl⟩, ⟨_, _, _, rfl, rfl, rfl⟩, ⟨_, _, _, rfl, rfl, rfl⟩, nofun⟩
  cases hword : word? words (sign ++ c :: rest) with
  | none => rfl
  | some result =>
      obtain ⟨word, hmem, htext⟩ := exists_of_word?_eq_some hword
      obtain ⟨first, second, more, rfl, hfirst, hsecond⟩ := hwords word hmem
      rcases hsign with rfl | rfl
      · obtain ⟨rfl, -⟩ := List.cons.inj htext
        rw [hc] at hfirst
        cases hfirst
      · obtain ⟨-, htail⟩ := List.cons.inj htext
        obtain ⟨rfl, -⟩ := List.cons.inj htail
        rw [hc] at hsecond
        cases hsecond

/-- A sign is taken off a number. -/
theorem signedNumber_append {sign : Text} (hsign : IsSign sign) {c : Char} (hc : c.isDigit = true)
    (rest : Text) :
    ∃ negative left, signedNumber (sign ++ c :: rest) = number negative left (c :: rest) := by
  rcases hsign with rfl | rfl
  · refine ⟨_, _, signedNumber_of_ne ?_⟩
    rintro ⟨⟩
    cases hc
  · exact ⟨_, _, rfl⟩

theorem signedNumber_cases (text : Text) : ∃ sign rest negative left, IsSign sign ∧
    text = sign ++ rest ∧ signedNumber text = number negative left rest := by
  by_cases hminus : text.head? = some '-'
  · obtain ⟨rest, rfl⟩ := List.head?_eq_some_iff.mp hminus
    exact ⟨['-'], rest, _, _, Or.inr rfl, rfl, rfl⟩
  · exact ⟨[], text, _, _, Or.inl rfl, rfl, signedNumber_of_ne hminus⟩

/-- What is read is as the grammar has it: a value at the start of the text, or brackets that it opens and
an integer with too many digits within them. -/
structure Accords (text : Text) (result : Except Stop (Value × Text)) : Prop where
  written : ∀ {found rest}, result = .ok (found, rest) →
    ∃ value, Written value ∧ text = value ++ rest
  reaches : ∀ {count}, result = .error (.tooManyDigits count) → Text.digitLimit < count ∧
    ∃ front tail, Opens front ∧ StartsInteger count tail ∧ text = front ++ tail

namespace Accords

theorem of_written {found : Value} {value : Text} (hvalue : Written value)
    (htext : text = value ++ rest) : Accords text (.ok (found, rest)) where
  written h := by
    cases h
    exact ⟨value, hvalue, htext⟩
  reaches h := by cases h

theorem of_tooManyDigits {count : Nat} {front tail : Text} (hcount : Text.digitLimit < count)
    (hfront : Opens front) (htail : StartsInteger count tail) (htext : text = front ++ tail) :
    Accords text (.error (.tooManyDigits count)) where
  written h := by cases h
  reaches h := by
    cases h
    exact ⟨hcount, front, tail, hfront, htail, htext⟩

theorem of_problem (text : Text) (problem : Problem) (left : Nat) :
    Accords text (.error (.problem problem left)) where
  written h := by cases h
  reaches h := by cases h

end Accords

theorem accords_scalar (text : Text) : Accords text (scalar text) := by
  rw [scalar]
  cases hword : word? words text with
  | some result =>
      obtain ⟨found, rest⟩ := result
      obtain ⟨word, hmem, htext⟩ := exists_of_word?_eq_some hword
      exact .of_written (.word hmem) htext
  | none =>
      obtain ⟨sign, rest, negative, left, hsign, rfl, hnumber⟩ := signedNumber_cases text
      dsimp only
      rw [hnumber]
      rcases number_cases negative left rest with ⟨problem, position, hresult⟩ |
          ⟨whole, after, hresult, rfl, hwhole, hlimit, hend⟩ |
          ⟨found, whole, fraction, exponent, after, hresult, rfl, hwhole, hfraction, hexponent, hlimit⟩
      · rw [hresult]
        exact .of_problem _ problem position
      · rw [hresult]
        exact .of_tooManyDigits hlimit .nil ⟨sign, whole, after, hsign, hwhole, rfl, hend, rfl⟩ rfl
      · rw [hresult]
        refine .of_written (.number hsign hwhole hfraction hexponent hlimit) ?_
        simp only [List.append_assoc]

theorem exists_scalar_of_word {word : Text} (hword : word ∈ words.map Prod.fst) (rest : Text) :
    ∃ found, scalar (word ++ rest) = .ok (found, rest) := by
  obtain ⟨found, hfound⟩ := exists_word?_eq_some hword rest
  exact ⟨found, by rw [scalar, hfound]⟩

/-- After a sign, only a number is tried. -/
theorem scalar_append {sign whole : Text} (hsign : IsSign sign) (hwhole : IsWhole whole) (rest : Text) :
    ∃ negative left, scalar (sign ++ (whole ++ rest)) = number negative left (whole ++ rest) := by
  obtain ⟨c, digits, rfl, hc⟩ := hwhole.exists_cons
  obtain ⟨negative, left, hnumber⟩ := signedNumber_append hsign hc (digits ++ rest)
  refine ⟨negative, left, ?_⟩
  rw [List.cons_append, scalar, word?_eq_none hsign hc]
  exact hnumber

theorem exists_scalar_of_number {sign whole fraction exponent : Text} (hsign : IsSign sign)
    (hwhole : IsWhole whole) (hfraction : IsFraction fraction) (hexponent : IsExponent exponent)
    (hlimit : fraction = [] → exponent = [] → whole.length ≤ Text.digitLimit)
    (hrest : EndsNumber rest) :
    ∃ found, scalar (sign ++ (whole ++ (fraction ++ (exponent ++ rest)))) = .ok (found, rest) := by
  obtain ⟨negative, left, hscalar⟩ := scalar_append hsign hwhole (fraction ++ (exponent ++ rest))
  rw [hscalar]
  exact exists_number_eq_ok negative left hwhole hfraction hexponent hlimit hrest

theorem scalar_eq_tooManyDigits {count : Nat} (hcount : Text.digitLimit < count)
    (h : StartsInteger count text) : scalar text = .error (.tooManyDigits count) := by
  obtain ⟨sign, digits, rest, hsign, hdigits, rfl, hrest, rfl⟩ := h
  obtain ⟨negative, left, hscalar⟩ := scalar_append hsign hdigits rest
  rw [hscalar]
  exact number_eq_tooManyDigits negative left hdigits hcount hrest

end FormFill.Json
