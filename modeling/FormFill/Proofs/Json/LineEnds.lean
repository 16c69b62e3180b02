import FormFill.Json.Reader
import FormFill.Proofs.Text.LineEnds

/-!
# JSON and line ends

Outside strings a carriage return is a blank like a line feed, and inside strings neither may stand. So a
text that is read as JSON is read as the same value when its lines have been made to end with line feeds.
-/

namespace FormFill.Json

open Text

/-- What is left after reading from a text and from the same text with line feeds. -/
structure Left (fed rest fedRest : Text) : Prop where
  lineFed : LineFed rest fedRest
  suffix : fedRest <:+ fed

theorem Left.refl {text fed : Text} (h : LineFed text fed) : Left fed text fed :=
  ⟨h, List.suffix_rfl⟩

/-- What is left of a part is left of the whole. -/
theorem Left.of_suffix {part fed rest fedRest : Text} (h : Left part rest fedRest)
    (hpart : part <:+ fed) : Left fed rest fedRest :=
  ⟨h.lineFed, h.suffix.trans hpart⟩

/-! ## Strings -/

/-- Hexadecimal digits end no line. -/
theorem return_not_mem_of_hexFour? {a b c d : Char} {code : Nat}
    (h : hexFour? a b c d = some code) : '\r' ∉ [a, b, c, d] := by
  have hreturn : hexValue? '\r' = none := by decide
  intro hmem
  simp only [List.mem_cons, List.not_mem_nil, or_false] at hmem
  rcases hmem with rfl | rfl | rfl | rfl <;> simp [hexFour?, hreturn] at h

/-- A code point escape stands in both texts. -/
theorem escape_of_lineFed {a b c d : Char} {code : Nat} {text fed : Text}
    (h : LineFed ('\\' :: 'u' :: a :: b :: c :: d :: text) fed)
    (hcode : hexFour? a b c d = some code) :
    ∃ rest, fed = '\\' :: 'u' :: a :: b :: c :: d :: rest ∧ LineFed text rest := by
  have hdigits := return_not_mem_of_hexFour? hcode
  have hescape : '\r' ∉ ['\\', 'u', a, b, c, d] := by simpa using hdigits
  exact LineFed.of_append h hescape

/-- What begins like a code point escape and is long enough for one does so in both texts. -/
theorem exists_escape_of_lineFed {text more : Text} {e f g k last : Char}
    (h : LineFed text ('\\' :: 'u' :: e :: f :: g :: k :: last :: more)) :
    ∃ e' f' g' k' last' more', text = '\\' :: 'u' :: e' :: f' :: g' :: k' :: last' :: more' := by
  cases h with
  | keep _ tail =>
      cases tail with
      | @keep _ text _ _ tail =>
          have hlength := tail.length_le
          simp only [List.length_cons] at hlength
          rcases text with _ | ⟨e', _ | ⟨f', _ | ⟨g', _ | ⟨k', _ | ⟨last', more'⟩⟩⟩⟩⟩
          all_goals simp only [List.length_cons, List.length_nil] at hlength
          all_goals first
            | exact ⟨e', f', g', k', last', more', rfl⟩
            | omega

/-- A string is read up to the same quote. -/
theorem stringRest_of_lineFed {openedAt : Nat} {text done content rest : Text}
    (hread : stringRest openedAt text done = .ok (content, rest)) {fed : Text}
    (h : LineFed text fed) (otherAt : Nat) :
    ∃ fedRest, stringRest otherAt fed done = .ok (content, fedRest) ∧ Left fed rest fedRest := by
  fun_induction stringRest openedAt text done generalizing fed with
  | case1 => cases hread
  | case2 text done =>
      obtain ⟨after, rfl, hafter⟩ := h.of_cons (by decide)
      simp only [Except.ok.injEq, Prod.mk.injEq] at hread
      obtain ⟨rfl, rfl⟩ := hread
      exact ⟨after, by rw [stringRest], hafter, List.suffix_cons _ _⟩
  | case3 => cases hread
  | case4 => cases hread
  | case5 a b c d next text done code hcode hhigh e f g k last more htail low hlow hsecond ih =>
      obtain ⟨tail, rfl, htail'⟩ := escape_of_lineFed h hcode
      rw [htail] at htail'
      obtain ⟨after, rfl, hafter⟩ := escape_of_lineFed htail' hlow
      obtain ⟨last', after, rfl⟩ := hafter.exists_cons
      obtain ⟨fedRest, hfed, hrest⟩ := ih hread hafter
      refine ⟨fedRest, ?_, hrest.of_suffix
        ⟨['\\', 'u', a, b, c, d, '\\', 'u', e, f, g, k], rfl⟩⟩
      rw [stringRest]
      simp only [hcode, hhigh, hlow, hsecond, if_true, hfed]
  | case6 a b c d next text done code hcode hhigh e f g k last more htail low hlow hsecond ih =>
      obtain ⟨tail, rfl, htail'⟩ := escape_of_lineFed h hcode
      obtain ⟨fedRest, hfed, hrest⟩ := ih hread htail'
      rw [htail] at htail'
      obtain ⟨after, rfl, hafter⟩ := escape_of_lineFed htail' hlow
      obtain ⟨last', after, rfl⟩ := hafter.exists_cons
      refine ⟨fedRest, ?_, hrest.of_suffix ⟨['\\', 'u', a, b, c, d], rfl⟩⟩
      rw [stringRest]
      simp only [hcode, hhigh, hlow, hsecond, if_true, hfed]
      rfl
  | case7 a b c d next text done code hcode hhigh hother ih =>
      obtain ⟨tail, rfl, htail⟩ := escape_of_lineFed h hcode
      obtain ⟨fedRest, hfed, hrest⟩ := ih hread htail
      obtain ⟨next', after, rfl⟩ := htail.exists_cons
      refine ⟨fedRest, ?_, hrest.of_suffix ⟨['\\', 'u', a, b, c, d], rfl⟩⟩
      rw [stringRest]
      simp only [hcode, hhigh, if_true]
      split
      next e f g k last more heq =>
        rw [heq] at htail
        obtain ⟨e', f', g', k', last', more', hescape⟩ := exists_escape_of_lineFed htail
        exact absurd hescape (hother e' f' g' k' last' more')
      next => exact hfed
  | case8 a b c d next text done code hcode hhigh ih =>
      obtain ⟨tail, rfl, htail⟩ := escape_of_lineFed h hcode
      obtain ⟨fedRest, hfed, hrest⟩ := ih hread htail
      obtain ⟨next', after, rfl⟩ := htail.exists_cons
      refine ⟨fedRest, ?_, hrest.of_suffix ⟨['\\', 'u', a, b, c, d], rfl⟩⟩
      rw [stringRest]
      simp only [hcode, hhigh]
      exact hfed
  | case9 => cases hread
  | case10 c text done hother hc e hshort ih =>
      obtain ⟨tail, rfl, htail⟩ := h.of_cons (by decide)
      have hreturn : c ≠ '\r' := by
        rintro rfl
        cases hshort
      obtain ⟨after, rfl, hafter⟩ := htail.of_cons hreturn
      obtain ⟨fedRest, hfed, hrest⟩ := ih hread hafter
      refine ⟨fedRest, ?_, hrest.of_suffix ⟨['\\', c], rfl⟩⟩
      rw [stringRest, if_neg hc, hshort]
      · exact hfed
      · intro _ _ _ _ _ _ heq
        exact absurd heq hc
  | case11 => cases hread
  | case12 => cases hread
  | case13 => cases hread
  | case14 c text done hquote hunicode hshort hbackslash hcontrol ih =>
      have hreturn : c ≠ '\r' := by
        rintro rfl
        exact hcontrol (by decide)
      obtain ⟨after, rfl, hafter⟩ := h.of_cons hreturn
      obtain ⟨fedRest, hfed, hrest⟩ := ih hread hafter
      refine ⟨fedRest, ?_, hrest.of_suffix (List.suffix_cons c after)⟩
      rw [stringRest, if_neg hbackslash, if_neg hcontrol]
      · exact hfed
      · exact hquote
      · intro _ _ _ _ _ _ heq
        exact absurd heq hbackslash
      · intro _ _ heq
        exact absurd heq hbackslash

/-! ## Numbers and words -/

/-- A way to split something off the start of a text that does the same whatever the lines end with. -/
def SplitsAlike {α : Type} (split : Text → α × Text) : Prop :=
  ∀ ⦃text fed : Text⦄, LineFed text fed →
    (split fed).1 = (split text).1 ∧ Left fed (split text).2 (split fed).2

theorem splitsAlike_splitDigits : SplitsAlike splitDigits := by
  intro text fed h
  obtain ⟨hdigits, hrest⟩ := h.takeWhile_eq (p := Char.isDigit) (by decide) (by decide)
  exact ⟨hdigits, hrest, List.dropWhile_suffix _⟩

/-- A text begins with a character that ends no line if the text that goes along with it does. -/
theorem head?_ne_of_lineFed {text fed : Text} {c : Char} (h : LineFed text fed)
    (hfeed : c ≠ '\n') (hne : text.head? ≠ some c) : fed.head? ≠ some c := by
  rcases h.head?_eq_or with heq | ⟨-, heq⟩
  · rwa [heq]
  · rw [heq]
    exact fun hsome => hfeed (Option.some.inj hsome).symm

theorem splitFraction_of_ne {text : Text} (h : text.head? ≠ some '.') :
    splitFraction text = (none, text) := by
  rw [splitFraction]
  rintro rest rfl
  exact h rfl

theorem splitsAlike_splitFraction : SplitsAlike splitFraction := by
  intro text fed h
  by_cases hpoint : text.head? = some '.'
  · obtain ⟨rest, rfl⟩ := List.head?_eq_some_iff.mp hpoint
    obtain ⟨after, rfl, hafter⟩ := h.of_cons (by decide)
    obtain ⟨hdigits, hrest⟩ := splitsAlike_splitDigits hafter
    rw [splitFraction, splitFraction]
    generalize splitDigits rest = found at hdigits hrest
    generalize splitDigits after = foundFed at hdigits hrest
    obtain ⟨digits, rest'⟩ := found
    obtain ⟨digits', after'⟩ := foundFed
    obtain rfl : digits' = digits := hdigits
    cases digits' with
    | nil => exact ⟨rfl, Left.refl h⟩
    | cons => exact ⟨rfl, hrest.of_suffix (List.suffix_cons '.' after)⟩
  · rw [splitFraction_of_ne hpoint, splitFraction_of_ne (head?_ne_of_lineFed h (by decide) hpoint)]
    exact ⟨rfl, Left.refl h⟩

theorem splitSign_of_ne {text : Text} (hminus : text.head? ≠ some '-')
    (hplus : text.head? ≠ some '+') : splitSign text = (false, text) := by
  rw [splitSign]
  · rintro rest rfl
    exact hminus rfl
  · rintro rest rfl
    exact hplus rfl

theorem splitsAlike_splitSign : SplitsAlike splitSign := by
  intro text fed h
  by_cases hminus : text.head? = some '-'
  · obtain ⟨rest, rfl⟩ := List.head?_eq_some_iff.mp hminus
    obtain ⟨after, rfl, hafter⟩ := h.of_cons (by decide)
    exact ⟨rfl, hafter, List.suffix_cons _ _⟩
  · by_cases hplus : text.head? = some '+'
    · obtain ⟨rest, rfl⟩ := List.head?_eq_some_iff.mp hplus
      obtain ⟨after, rfl, hafter⟩ := h.of_cons (by decide)
      exact ⟨rfl, hafter, List.suffix_cons _ _⟩
    · rw [splitSign_of_ne hminus hplus, splitSign_of_ne (head?_ne_of_lineFed h (by decide) hminus)
        (head?_ne_of_lineFed h (by decide) hplus)]
      exact ⟨rfl, Left.refl h⟩

theorem splitsAlike_splitWhole : SplitsAlike splitWhole := by
  intro text fed h
  by_cases hzero : text.head? = some '0'
  · obtain ⟨rest, rfl⟩ := List.head?_eq_some_iff.mp hzero
    obtain ⟨after, rfl, hafter⟩ := h.of_cons (by decide)
    exact ⟨rfl, hafter, List.suffix_cons _ _⟩
  · have hdigits : ∀ other : Text, other.head? ≠ some '0' → splitWhole other = splitDigits other := by
      intro other hother
      rw [splitWhole]
      rintro rest rfl
      exact hother rfl
    rw [hdigits text hzero, hdigits fed (head?_ne_of_lineFed h (by decide) hzero)]
    exact splitsAlike_splitDigits h

theorem splitExponent_of_ne {text : Text} (hsmall : text.head? ≠ some 'e')
    (hcapital : text.head? ≠ some 'E') : splitExponent text = (none, text) := by
  cases text with
  | nil => rfl
  | cons c rest =>
      rw [List.head?_cons, Ne, Option.some.injEq] at hsmall hcapital
      rw [splitExponent, if_neg (not_or.mpr ⟨hsmall, hcapital⟩)]

theorem splitsAlike_splitExponent : SplitsAlike splitExponent := by
  intro text fed h
  by_cases hletter : text.head? = some 'e' ∨ text.head? = some 'E'
  · obtain ⟨e, rest, rfl, he⟩ : ∃ e rest, text = e :: rest ∧ (e = 'e' ∨ e = 'E') := by
      rcases hletter with hhead | hhead
      · obtain ⟨rest, rfl⟩ := List.head?_eq_some_iff.mp hhead
        exact ⟨_, rest, rfl, Or.inl rfl⟩
      · obtain ⟨rest, rfl⟩ := List.head?_eq_some_iff.mp hhead
        exact ⟨_, rest, rfl, Or.inr rfl⟩
    have hreturn : e ≠ '\r' := by
      rintro rfl
      exact absurd he (by decide)
    obtain ⟨after, rfl, hafter⟩ := h.of_cons hreturn
    obtain ⟨hsign, hbody⟩ := splitsAlike_splitSign hafter
    obtain ⟨hdigits, hrest⟩ := splitsAlike_splitDigits hbody.lineFed
    rw [splitExponent, splitExponent, if_pos he, if_pos he]
    dsimp only
    rw [hsign]
    generalize splitDigits (splitSign rest).2 = found at hdigits hrest
    generalize splitDigits (splitSign after).2 = foundFed at hdigits hrest
    obtain ⟨digits, rest'⟩ := found
    obtain ⟨digits', after'⟩ := foundFed
    obtain rfl : digits' = digits := hdigits
    cases digits' with
    | nil => exact ⟨rfl, Left.refl h⟩
    | cons => exact ⟨rfl, hrest.of_suffix (hbody.suffix.trans (List.suffix_cons e after))⟩
  · obtain ⟨hsmall, hcapital⟩ := not_or.mp hletter
    rw [splitExponent_of_ne hsmall hcapital,
      splitExponent_of_ne (head?_ne_of_lineFed h (by decide) hsmall)
        (head?_ne_of_lineFed h (by decide) hcapital)]
    exact ⟨rfl, Left.refl h⟩

/-- A number is read up to the same character. -/
theorem number_of_lineFed {negative : Bool} {left : Nat} {text rest : Text} {found : Value}
    (hread : number negative left text = .ok (found, rest)) {fed : Text} (h : LineFed text fed)
    (otherLeft : Nat) :
    ∃ fedRest, number negative otherLeft fed = .ok (found, fedRest) ∧ Left fed rest fedRest := by
  obtain ⟨hwhole, hafterWhole⟩ := splitsAlike_splitWhole h
  obtain ⟨hfraction, hafterFraction⟩ := splitsAlike_splitFraction hafterWhole.lineFed
  obtain ⟨hexponent, hafterExponent⟩ := splitsAlike_splitExponent hafterFraction.lineFed
  rw [number] at hread ⊢
  dsimp only at hread ⊢
  rw [hwhole, hfraction, hexponent]
  have hleft := hafterExponent.of_suffix (hafterFraction.suffix.trans hafterWhole.suffix)
  generalize (splitWhole text).1 = whole at hread ⊢
  generalize splitFraction (splitWhole text).2 = fraction at hread hleft ⊢
  generalize splitExponent fraction.2 = exponent at hread hleft ⊢
  obtain ⟨fraction, afterFraction⟩ := fraction
  obtain ⟨exponent, afterExponent⟩ := exponent
  cases whole with
  | nil => cases hread
  | cons c whole =>
      cases fraction with
      | none =>
          cases exponent with
          | none =>
              dsimp only at hread ⊢
              split at hread
              next => cases hread
              next hdigits =>
                simp only [Except.ok.injEq, Prod.mk.injEq] at hread
                obtain ⟨rfl, rfl⟩ := hread
                exact ⟨_, if_neg hdigits, hleft⟩
          | some power =>
              simp only [Except.ok.injEq, Prod.mk.injEq] at hread
              obtain ⟨rfl, rfl⟩ := hread
              exact ⟨_, rfl, hleft⟩
      | some digits =>
          simp only [Except.ok.injEq, Prod.mk.injEq] at hread
          obtain ⟨rfl, rfl⟩ := hread
          exact ⟨_, rfl, hleft⟩

/-- A word that ends no line stands at the start of both texts or of neither. -/
theorem dropWord?_of_lineFed {word text fed : Text} (hreturn : '\r' ∉ word) (hfeed : '\n' ∉ word)
    (h : LineFed text fed) : Option.Rel (Left fed) (dropWord? word text) (dropWord? word fed) := by
  by_cases hword : word <+: text
  · obtain ⟨rest, rfl⟩ := hword
    obtain ⟨after, rfl, hafter⟩ := h.of_append hreturn
    simpa [dropWord?] using
      Option.Rel.some (⟨hafter, List.suffix_append word after⟩ : Left (word ++ after) rest after)
  · have hfed : ¬ word <+: fed := by
      rintro ⟨rest, rfl⟩
      obtain ⟨after, rfl⟩ := h.exists_of_append hfeed
      exact hword (List.prefix_append word after)
    simp [dropWord?, hword, hfed]

theorem return_not_mem_words : ∀ entry ∈ words, '\r' ∉ entry.1 ∧ '\n' ∉ entry.1 := by decide

/-- The same one of several words stands at the start of both texts. -/
theorem word?_of_lineFed {tried : List (Text × Value)} {text fed : Text}
    (htried : ∀ entry ∈ tried, '\r' ∉ entry.1 ∧ '\n' ∉ entry.1) (h : LineFed text fed) :
    Option.Rel (fun found other => other.1 = found.1 ∧ Left fed found.2 other.2)
      (word? tried text) (word? tried fed) := by
  induction tried with
  | nil => exact Option.Rel.none
  | cons entry rest ih =>
      obtain ⟨⟨hreturn, hfeed⟩, hrest⟩ := List.forall_mem_cons.mp htried
      have hword := dropWord?_of_lineFed hreturn hfeed h
      rw [word?, word?, List.findSome?_cons, List.findSome?_cons]
      cases htext : dropWord? entry.1 text with
      | none =>
          rw [htext] at hword
          cases hfed : dropWord? entry.1 fed with
          | none => exact ih hrest
          | some after =>
              rw [hfed] at hword
              cases hword
      | some after =>
          rw [htext] at hword
          cases hfed : dropWord? entry.1 fed with
          | none =>
              rw [hfed] at hword
              cases hword
          | some fedAfter =>
              rw [hfed] at hword
              cases hword with
              | some hleft => exact Option.Rel.some ⟨rfl, hleft⟩

theorem signedNumber_of_ne {text : Text} (h : text.head? ≠ some '-') :
    signedNumber text = number false text.length text := by
  rw [signedNumber]
  rintro rest rfl
  exact h rfl

theorem signedNumber_of_lineFed {text rest : Text} {found : Value}
    (hread : signedNumber text = .ok (found, rest)) {fed : Text} (h : LineFed text fed) :
    ∃ fedRest, signedNumber fed = .ok (found, fedRest) ∧ Left fed rest fedRest := by
  by_cases hminus : text.head? = some '-'
  · obtain ⟨digits, rfl⟩ := List.head?_eq_some_iff.mp hminus
    obtain ⟨after, rfl, hafter⟩ := h.of_cons (by decide)
    obtain ⟨fedRest, hfed, hleft⟩ := number_of_lineFed hread hafter (after.length + 1)
    exact ⟨fedRest, hfed, hleft.of_suffix (List.suffix_cons '-' after)⟩
  · rw [signedNumber_of_ne hminus] at hread
    rw [signedNumber_of_ne (head?_ne_of_lineFed h (by decide) hminus)]
    exact number_of_lineFed hread h fed.length

/-- A word or a number is read up to the same character. -/
theorem scalar_of_lineFed {text rest : Text} {found : Value}
    (hread : scalar text = .ok (found, rest)) {fed : Text} (h : LineFed text fed) :
    ∃ fedRest, scalar fed = .ok (found, fedRest) ∧ Left fed rest fedRest := by
  have hword := word?_of_lineFed return_not_mem_words h
  rw [scalar] at hread ⊢
  generalize word? words text = word at hread hword
  generalize word? words fed = fedWord at hword ⊢
  cases hword with
  | none => exact signedNumber_of_lineFed hread h
  | @some _ other hsame =>
      simp only [Except.ok.injEq] at hread
      subst hread
      exact ⟨other.2, congrArg Except.ok (Prod.ext hsame.1 rfl), hsame.2⟩

/-! ## Values -/

theorem skipBlanks_of_lineFed {text fed : Text} (h : LineFed text fed) :
    Left fed (skipBlanks text) (skipBlanks fed) :=
  ⟨h.dropWhile (by decide) (by decide), List.dropWhile_suffix _⟩

/-- The same character comes after the blanks of both texts. -/
theorem token_of_lineFed {text fed after : Text} {c : Char} (hreturn : c ≠ '\r')
    (h : LineFed text fed) (htext : skipBlanks text = c :: after) :
    ∃ fedAfter, skipBlanks fed = c :: fedAfter ∧ Left fed after fedAfter ∧
      fedAfter.length < fed.length := by
  obtain ⟨hblanks, hsuffix⟩ := skipBlanks_of_lineFed h
  rw [htext] at hblanks
  obtain ⟨fedAfter, hfed, hafter⟩ := hblanks.of_cons hreturn
  rw [hfed] at hsuffix
  exact ⟨fedAfter, hfed, ⟨hafter, (List.suffix_cons c fedAfter).trans hsuffix⟩, hsuffix.length_le⟩

section Equations

variable {fuel : Nat} {text inside after rest : Text} {found : Value}

attribute [local simp] value

/-- A string is a value if its rest can be read. -/
theorem value_string_iff : value (fuel + 1) ('"' :: inside) = .ok (found, rest) ↔
    ∃ content, stringRest (inside.length + 1) inside [] = .ok (content, rest) ∧
      found = .string content := by
  rw [value]
  change (stringRest (inside.length + 1) inside [] >>= fun result =>
    pure (Value.string result.1, result.2)) = _ ↔ _
  cases stringRest (inside.length + 1) inside [] with
  | error stop => simp [bind, Except.bind]
  | ok result =>
      obtain ⟨content, after⟩ := result
      simp [bind, Except.bind, pure, Except.pure, eq_comm, and_comm]

theorem value_array_nil (h : skipBlanks inside = ']' :: after) :
    value (fuel + 1) ('[' :: inside) = .ok (.array [], after) := by
  simp [h]

theorem value_array (h : (skipBlanks inside).head? ≠ some ']') :
    value (fuel + 1) ('[' :: inside) = elements fuel (skipBlanks inside) [] := by
  rw [value]
  split
  next heq =>
    rw [heq] at h
    exact absurd rfl h
  next => rfl

theorem value_object_nil (h : skipBlanks inside = '\x7d' :: after) :
    value (fuel + 1) ('\x7b' :: inside) = .ok (.object [], after) := by
  simp [h]

theorem value_object (h : (skipBlanks inside).head? ≠ some '\x7d') :
    value (fuel + 1) ('\x7b' :: inside) = members fuel (skipBlanks inside) [] := by
  rw [value]
  split
  next heq =>
    rw [heq] at h
    exact absurd rfl h
  next => rfl

theorem value_scalar (hquote : text.head? ≠ some '"') (hbracket : text.head? ≠ some '[')
    (hbrace : text.head? ≠ some '\x7b') : value (fuel + 1) text = scalar text := by
  rw [value]
  · rintro rest rfl
    exact hquote rfl
  · rintro rest rfl
    exact hbracket rfl
  · rintro rest rfl
    exact hbrace rfl

end Equations

/-- A reader with fuel reads the same from a text with line feeds, if it has enough fuel for what it
takes off it. -/
def ReadsAlike (read : Nat → Text → Except Stop (Value × Text)) (fuel : Nat) : Prop :=
  ∀ ⦃text found rest⦄, read fuel text = .ok (found, rest) → ∀ ⦃fed⦄, LineFed text fed →
    ∃ fedRest, Left fed rest fedRest ∧
      ∀ other, fed.length < other + fedRest.length → read other fed = .ok (found, fedRest)

/-- Fuel that is enough for what has been read is not used up. -/
theorem Left.exists_fuel {fed rest fedRest : Text} (h : Left fed rest fedRest) {fuel : Nat}
    (hfuel : fed.length < fuel + fedRest.length) : ∃ less, fuel = less + 1 := by
  have hlength := h.suffix.length_le
  exact Nat.exists_eq_succ_of_ne_zero (by omega)

/-- What stands between brackets is read alike if what is inside is. -/
theorem bracketed_of_lineFed {opening closing : Char} {empty : Value}
    {inner : Nat → Text → Except Stop (Value × Text)} (hclosing : closing ≠ '\r' ∧ closing ≠ '\n')
    (hnil : ∀ {fuel inside after}, skipBlanks inside = closing :: after →
      value (fuel + 1) (opening :: inside) = .ok (empty, after))
    (hcons : ∀ {fuel inside}, (skipBlanks inside).head? ≠ some closing →
      value (fuel + 1) (opening :: inside) = inner fuel (skipBlanks inside))
    {fuel : Nat} (hinner : ReadsAlike inner fuel) {inside rest : Text} {found : Value}
    (hread : value (fuel + 1) (opening :: inside) = .ok (found, rest)) {fed : Text}
    (h : LineFed inside fed) :
    ∃ fedRest, Left (opening :: fed) rest fedRest ∧ ∀ other,
      (opening :: fed).length < other + fedRest.length →
        value other (opening :: fed) = .ok (found, fedRest) := by
  by_cases hclose : (skipBlanks inside).head? = some closing
  · obtain ⟨after, hafter⟩ := List.head?_eq_some_iff.mp hclose
    rw [hnil hafter] at hread
    cases hread
    obtain ⟨fedRest, hfed, hleft, -⟩ := token_of_lineFed hclosing.1 h hafter
    have hwhole := hleft.of_suffix (List.suffix_cons opening fed)
    refine ⟨fedRest, hwhole, fun other hfuel => ?_⟩
    obtain ⟨other, rfl⟩ := hwhole.exists_fuel hfuel
    exact hnil hfed
  · rw [hcons hclose] at hread
    have hblanks := skipBlanks_of_lineFed h
    obtain ⟨fedRest, hleft, hfed⟩ := hinner hread hblanks.lineFed
    have hwhole := hleft.of_suffix (hblanks.suffix.trans (List.suffix_cons opening fed))
    refine ⟨fedRest, hwhole, fun other hfuel => ?_⟩
    obtain ⟨other, rfl⟩ := hwhole.exists_fuel hfuel
    rw [hcons (head?_ne_of_lineFed hblanks.lineFed hclosing.2 hclose)]
    have hlength := hblanks.suffix.length_le
    rw [List.length_cons] at hfuel
    exact hfed other (by omega)

/-- A value is read alike if the items of an array and the members of an object are. -/
theorem readsAlike_value_succ {fuel : Nat}
    (helements : ReadsAlike (fun fuel text => elements fuel text []) fuel)
    (hmembers : ReadsAlike (fun fuel text => members fuel text []) fuel) :
    ReadsAlike value (fuel + 1) := by
  intro text found rest hread fed h
  by_cases hquote : text.head? = some '"'
  · obtain ⟨inside, rfl⟩ := List.head?_eq_some_iff.mp hquote
    obtain ⟨fedInside, rfl, hinside⟩ := h.of_cons (by decide)
    obtain ⟨content, hstring, rfl⟩ := value_string_iff.mp hread
    obtain ⟨fedRest, hfed, hleft⟩ := stringRest_of_lineFed hstring hinside (fedInside.length + 1)
    have hwhole := hleft.of_suffix (List.suffix_cons '"' fedInside)
    refine ⟨fedRest, hwhole, fun other hfuel => ?_⟩
    obtain ⟨other, rfl⟩ := hwhole.exists_fuel hfuel
    exact value_string_iff.mpr ⟨content, hfed, rfl⟩
  by_cases hbracket : text.head? = some '['
  · obtain ⟨inside, rfl⟩ := List.head?_eq_some_iff.mp hbracket
    obtain ⟨fedInside, rfl, hinside⟩ := h.of_cons (by decide)
    exact bracketed_of_lineFed (by decide) value_array_nil value_array helements hread hinside
  by_cases hbrace : text.head? = some '\x7b'
  · obtain ⟨inside, rfl⟩ := List.head?_eq_some_iff.mp hbrace
    obtain ⟨fedInside, rfl, hinside⟩ := h.of_cons (by decide)
    exact bracketed_of_lineFed (by decide) value_object_nil value_object hmembers hread hinside
  · rw [value_scalar hquote hbracket hbrace] at hread
    obtain ⟨fedRest, hfed, hleft⟩ := scalar_of_lineFed hread h
    refine ⟨fedRest, hleft, fun other hfuel => ?_⟩
    obtain ⟨other, rfl⟩ := hleft.exists_fuel hfuel
    rw [value_scalar (head?_ne_of_lineFed h (by decide) hquote)
      (head?_ne_of_lineFed h (by decide) hbracket) (head?_ne_of_lineFed h (by decide) hbrace)]
    exact hfed

/-- What comes after an item: the bracket that closes the whole, or a comma after which the next is read. -/
def ClosesOrGoesOn (closing : Char) (whole : Value)
    (next : Nat → Text → Except Stop (Value × Text)) (fuel : Nat) (text : Text) (found : Value)
    (rest : Text) : Prop :=
  (skipBlanks text = closing :: rest ∧ found = whole) ∨
    ∃ more, skipBlanks text = ',' :: more ∧ next fuel (skipBlanks more) = .ok (found, rest)

/-- The same comes after an item of both texts. What is left is shorter, so there is fuel for an item. -/
theorem ClosesOrGoesOn.of_lineFed {closing : Char} {whole found : Value} {fuel : Nat}
    {next : Nat → Text → Except Stop (Value × Text)} {text fed rest : Text}
    (h : ClosesOrGoesOn closing whole next fuel text found rest) (hclosing : closing ≠ '\r')
    (hnext : ReadsAlike next fuel) (hfed : LineFed text fed) :
    ∃ fedRest, Left fed rest fedRest ∧ fedRest.length < fed.length ∧
      ∀ other, fed.length ≤ other + fedRest.length →
        ClosesOrGoesOn closing whole next other fed found fedRest := by
  rcases h with ⟨hclose, rfl⟩ | ⟨more, hcomma, hmore⟩
  · obtain ⟨fedRest, hfedClose, hrest, hshorter⟩ := token_of_lineFed hclosing hfed hclose
    exact ⟨fedRest, hrest, hshorter, fun _ _ => Or.inl ⟨hfedClose, rfl⟩⟩
  · obtain ⟨fedMore, hfedComma, hrest, hshorter⟩ := token_of_lineFed (by decide) hfed hcomma
    have hblanks := skipBlanks_of_lineFed hrest.lineFed
    have hblanksLength := hblanks.suffix.length_le
    obtain ⟨fedRest, hlast, hfedMore⟩ := hnext hmore hblanks.lineFed
    have hlastLength := hlast.suffix.length_le
    refine ⟨fedRest, hlast.of_suffix (hblanks.suffix.trans hrest.suffix), by omega,
      fun other hfuel => ?_⟩
    exact Or.inr ⟨fedMore, hfedComma, hfedMore other (by omega)⟩

/-- Items end with a bracket, or go on after a comma. -/
theorem elements_succ_iff {fuel : Nat} {text rest : Text} {done : List Value} {found : Value} :
    elements (fuel + 1) text done = .ok (found, rest) ↔
      ∃ item after, value fuel text = .ok (item, after) ∧
        ClosesOrGoesOn ']' (.array (item :: done).reverse)
          (fun fuel text => elements fuel text (item :: done)) fuel after found rest := by
  rw [elements]
  simp only [ClosesOrGoesOn]
  cases value fuel text with
  | error stop => simp [bind, Except.bind]
  | ok result =>
      obtain ⟨item, after⟩ := result
      simp only [bind, Except.bind]
      split
      next closed heq => simp [heq, pure, Except.pure, eq_comm, and_comm]
      next more heq => simp [heq]
      next hclose hcomma =>
        have hend : ∀ more, skipBlanks after ≠ ']' :: more := hclose
        have hmore : ∀ more, skipBlanks after ≠ ',' :: more := hcomma
        simp [hend, hmore]

/-- A member is a key, a colon and a value; members end with a brace, or go on after a comma. -/
theorem members_succ_iff {fuel : Nat} {text rest : Text} {done : Table Value} {found : Value} :
    members (fuel + 1) text done = .ok (found, rest) ↔
      ∃ inside key afterKey afterColon item after, text = '"' :: inside ∧
        stringRest (inside.length + 1) inside [] = .ok (key, afterKey) ∧
        skipBlanks afterKey = ':' :: afterColon ∧
        value fuel (skipBlanks afterColon) = .ok (item, after) ∧
        ClosesOrGoesOn '\x7d' (.object (done.set key item))
          (fun fuel text => members fuel text (done.set key item)) fuel after found rest := by
  simp only [ClosesOrGoesOn]
  by_cases hquote : text.head? = some '"'
  · obtain ⟨inside, rfl⟩ := List.head?_eq_some_iff.mp hquote
    rw [members, List.length_cons]
    cases hkey : stringRest (inside.length + 1) inside [] with
    | error stop => simp [hkey, bind, Except.bind]
    | ok result =>
        obtain ⟨key, afterKey⟩ := result
        simp only [bind, Except.bind]
        split
        next afterColon hcolon =>
          cases hitem : value fuel (skipBlanks afterColon) with
          | error stop => simp [hkey, hcolon, hitem]
          | ok result =>
              obtain ⟨item, after⟩ := result
              dsimp only
              split
              next closed hend =>
                simp [hkey, hcolon, hitem, hend, pure, Except.pure, eq_comm, and_comm]
              next more hend => simp [hkey, hcolon, hitem, hend]
              next hclose hcomma =>
                have hend : ∀ more, skipBlanks after ≠ '\x7d' :: more := hclose
                have hmore : ∀ more, skipBlanks after ≠ ',' :: more := hcomma
                simp [hkey, hcolon, hitem, hend, hmore]
        next hcolon =>
          have hnone : ∀ more, skipBlanks afterKey ≠ ':' :: more := hcolon
          simp [hkey, hnone]
  · rw [members]
    · refine ⟨nofun, ?_⟩
      rintro ⟨inside, -, -, -, -, -, rfl, -⟩
      exact absurd rfl hquote
    · rintro inside rfl
      exact absurd rfl hquote

theorem readsAlike_elements_succ {fuel : Nat} (hvalue : ReadsAlike value fuel)
    (helements : ∀ done, ReadsAlike (fun fuel text => elements fuel text done) fuel)
    (done : List Value) : ReadsAlike (fun fuel text => elements fuel text done) (fuel + 1) := by
  intro text found rest hread fed h
  obtain ⟨item, after, hitem, hend⟩ := elements_succ_iff.mp hread
  obtain ⟨fedAfter, hleft, hfedItem⟩ := hvalue hitem h
  obtain ⟨fedRest, hrest, hshorter, hfedEnd⟩ :=
    hend.of_lineFed (by decide) (helements (item :: done)) hleft.lineFed
  have hitemLength := hleft.suffix.length_le
  have hwhole := hrest.of_suffix hleft.suffix
  refine ⟨fedRest, hwhole, fun other hfuel => ?_⟩
  obtain ⟨other, rfl⟩ := hwhole.exists_fuel hfuel
  exact elements_succ_iff.mpr
    ⟨item, fedAfter, hfedItem other (by omega), hfedEnd other (by omega)⟩

theorem readsAlike_members_succ {fuel : Nat} (hvalue : ReadsAlike value fuel)
    (hmembers : ∀ done, ReadsAlike (fun fuel text => members fuel text done) fuel)
    (done : Table Value) : ReadsAlike (fun fuel text => members fuel text done) (fuel + 1) := by
  intro text found rest hread fed h
  obtain ⟨inside, key, afterKey, afterColon, item, after, rfl, hkey, hcolon, hitem, hend⟩ :=
    members_succ_iff.mp hread
  obtain ⟨fedInside, rfl, hinside⟩ := h.of_cons (by decide)
  obtain ⟨fedKey, hfedString, hleftKey⟩ :=
    stringRest_of_lineFed hkey hinside (fedInside.length + 1)
  obtain ⟨fedColon, hfedColon, hleftColon, -⟩ :=
    token_of_lineFed (by decide) hleftKey.lineFed hcolon
  have hblanks := skipBlanks_of_lineFed hleftColon.lineFed
  obtain ⟨fedAfter, hleft, hfedItem⟩ := hvalue hitem hblanks.lineFed
  obtain ⟨fedRest, hrest, hshorter, hfedEnd⟩ :=
    hend.of_lineFed (by decide) (hmembers (done.set key item)) hleft.lineFed
  have hinsideSuffix := hblanks.suffix.trans (hleftColon.suffix.trans hleftKey.suffix)
  have hinsideLength := hinsideSuffix.length_le
  have hitemLength := hleft.suffix.length_le
  have hwhole := hrest.of_suffix
    (hleft.suffix.trans (hinsideSuffix.trans (List.suffix_cons '"' fedInside)))
  refine ⟨fedRest, hwhole, fun other hfuel => ?_⟩
  obtain ⟨other, rfl⟩ := hwhole.exists_fuel hfuel
  rw [List.length_cons] at hfuel
  exact members_succ_iff.mpr ⟨fedInside, key, fedKey, fedColon, item, fedAfter, rfl, hfedString,
    hfedColon, hfedItem other (by omega), hfedEnd other (by omega)⟩

/-- Values, items and members are read alike, by induction on the fuel. -/
theorem readsAlike (fuel : Nat) : ReadsAlike value fuel ∧
    (∀ done, ReadsAlike (fun fuel text => elements fuel text done) fuel) ∧
    ∀ done, ReadsAlike (fun fuel text => members fuel text done) fuel := by
  induction fuel with
  | zero =>
      refine ⟨?_, fun done => ?_, fun done => ?_⟩
      · intro text found rest hread
        cases hread
      · intro text found rest hread
        cases hread
      · intro text found rest hread
        cases hread
  | succ fuel ih =>
      obtain ⟨hvalue, helements, hmembers⟩ := ih
      exact ⟨readsAlike_value_succ (helements []) (hmembers []),
        readsAlike_elements_succ hvalue helements, readsAlike_members_succ hvalue hmembers⟩

/-- What a text that is read holds: one value between blanks, and no byte order mark. -/
theorem read_eq_ok_iff {text : Text} {found : Value} : read text = .ok found ↔
    text.head? ≠ some '\uFEFF' ∧ ∃ rest, value (2 * text.length + 2) (skipBlanks text) =
      .ok (found, rest) ∧ skipBlanks rest = [] := by
  rw [read]
  by_cases hmark : text.head? = some '\uFEFF'
  · simp [hmark, throw, throwThe, MonadExceptOf.throw, bind, Except.bind]
  · simp only [hmark, if_false, bind, Except.bind, ne_eq, not_false_eq_true, true_and]
    cases hvalue : value (2 * text.length + 2) (skipBlanks text) with
    | error stop => cases stop <;> simp
    | ok result =>
        obtain ⟨item, rest⟩ := result
        cases hend : skipBlanks rest with
        | nil => simp [hend, pure, Except.pure]
        | cons c more => simp [hend, throw, throwThe, MonadExceptOf.throw]

/-- A text with line feeds is read as the value as which the text it goes along with is read. -/
theorem read_of_lineFed {text fed : Text} {found : Value} (h : LineFed text fed)
    (hread : read text = .ok found) : read fed = .ok found := by
  obtain ⟨hmark, rest, hvalue, hrest⟩ := read_eq_ok_iff.mp hread
  have hblanks := skipBlanks_of_lineFed h
  obtain ⟨fedRest, hleft, hfed⟩ := (readsAlike _).1 hvalue hblanks.lineFed
  have hend := (skipBlanks_of_lineFed hleft.lineFed).lineFed
  rw [hrest] at hend
  have hlength := hblanks.suffix.length_le
  refine read_eq_ok_iff.mpr ⟨head?_ne_of_lineFed h (by decide) hmark, fedRest,
    hfed _ (by omega), ?_⟩
  generalize skipBlanks fedRest = final at hend ⊢
  cases hend
  rfl

end FormFill.Json
