import FormFill.Proofs.Json.Token

/-!
# Reading the entries of arrays and objects

Arrays and objects are read in the same way, apart from the keys: what stands before a value, the value, and
then a comma or the closing bracket.
-/

namespace FormFill.Json

variable {text inside rest : Text} {count fuel : Nat}

/-! ## Blanks -/

/-- A text that begins with a value, or with what a value begins with. -/
def StartsValue (text : Text) : Prop :=
  ∃ c more, text = c :: more ∧ isBlank c = false ∧ c ∉ [']', '\x7d', '\uFEFF']

theorem skipBlanks_append {gap : Text} (h : IsGap gap) (rest : Text) :
    skipBlanks (gap ++ rest) = skipBlanks rest :=
  List.dropWhile_append_of_pos h

theorem skipBlanks_of_cons {c : Char} (h : isBlank c = false) (rest : Text) :
    skipBlanks (c :: rest) = c :: rest :=
  List.dropWhile_cons_of_neg (by simp [h])

theorem StartsValue.skipBlanks_eq (h : StartsValue text) : skipBlanks text = text := by
  obtain ⟨c, more, rfl, hc, -⟩ := h
  exact skipBlanks_of_cons hc more

theorem StartsValue.append (h : StartsValue text) (rest : Text) : StartsValue (text ++ rest) := by
  obtain ⟨c, more, rfl, hc⟩ := h
  exact ⟨c, more ++ rest, rfl, hc⟩

/-- Neither blanks nor a value begin with a byte order mark. -/
theorem StartsValue.head?_ne_mark {gap : Text} (h : StartsValue text) (hgap : IsGap gap) :
    (gap ++ text).head? ≠ some '\uFEFF' := by
  intro hmark
  cases gap with
  | nil =>
      obtain ⟨c, more, rfl, -, hc⟩ := h
      obtain rfl := Option.some.inj hmark
      exact hc (by decide)
  | cons c gap =>
      obtain rfl := Option.some.inj hmark
      exact absurd (hgap _ List.mem_cons_self) (by decide)

theorem exists_gap (text : Text) : ∃ gap, IsGap gap ∧ text = gap ++ skipBlanks text :=
  ⟨text.takeWhile isBlank, fun _ => List.mem_takeWhile_imp, List.takeWhile_append_dropWhile.symm⟩

/-! ## Entries -/

namespace Brackets

variable (brackets : Brackets)

/-- What has been read between brackets: the items of an array, from the end, or the members of an object. -/
abbrev Contents : Brackets → Type
  | square => List Value
  | curly => Table Value

/-- Nothing has been read yet. -/
def start : (brackets : Brackets) → brackets.Contents
  | square => []
  | curly => []

def add : (brackets : Brackets) → brackets.Contents → Text → Value → brackets.Contents
  | square, done, _, item => item :: done
  | curly, done, key, item => Table.set key item done

def whole : (brackets : Brackets) → brackets.Contents → Value
  | square, done => .array done.reverse
  | curly, done => .object done

/-- Reads entries up to the closing bracket. -/
def readEntries : (brackets : Brackets) → Nat → Text → brackets.Contents → Except Stop (Value × Text)
  | square => elements
  | curly => members

/-- Reads what stands before the value of an entry, and keeps the key. -/
def readHead : Brackets → Text → Except Stop (Text × Text)
  | square, text => .ok ([], text)
  | curly, '"' :: inside =>
    match stringRest (inside.length + 1) inside [] with
    | .error stop => .error stop
    | .ok (key, rest) =>
      match skipBlanks rest with
      | ':' :: rest => .ok (key, skipBlanks rest)
      | rest => .error (.problem .expectedColon rest.length)
  | curly, text => .error (.problem .expectedKey text.length)

/-- Goes on behind an entry: up to the closing bracket, or to the next entry. -/
def goOn (fuel : Nat) (done : brackets.Contents) (rest : Text) : Except Stop (Value × Text) :=
  match skipBlanks rest with
  | [] => .error (.problem .expectedComma 0)
  | c :: after =>
    if c = brackets.closing then .ok (brackets.whole done, after)
    else if c = ',' then brackets.readEntries fuel (skipBlanks after) done
    else .error (.problem .expectedComma (after.length + 1))

theorem goOn_square (fuel : Nat) (done : List Value) (rest : Text) :
    square.goOn fuel done rest =
      match skipBlanks rest with
      | ']' :: after => .ok (.array done.reverse, after)
      | ',' :: after => elements fuel (skipBlanks after) done
      | rest => .error (.problem .expectedComma rest.length) := by
  rw [goOn]
  split
  next hnil =>
    rw [hnil]
    rfl
  next c after hcons =>
    rw [hcons]
    by_cases hclose : c = ']'
    · subst hclose
      rfl
    · by_cases hcomma : c = ','
      · subst hcomma
        rfl
      · simp [closing, hclose, hcomma]

theorem goOn_curly (fuel : Nat) (done : Table Value) (rest : Text) :
    curly.goOn fuel done rest =
      match skipBlanks rest with
      | '\x7d' :: after => .ok (.object done, after)
      | ',' :: after => members fuel (skipBlanks after) done
      | rest => .error (.problem .expectedComma rest.length) := by
  rw [goOn]
  split
  next hnil =>
    rw [hnil]
    rfl
  next c after hcons =>
    rw [hcons]
    by_cases hclose : c = '\x7d'
    · subst hclose
      rfl
    · by_cases hcomma : c = ','
      · subst hcomma
        rfl
      · simp [closing, hclose, hcomma]

/-- An entry is read as its head, its value and what comes behind. -/
theorem readEntries_succ (fuel : Nat) (text : Text) (done : brackets.Contents) :
    brackets.readEntries (fuel + 1) text done =
      match brackets.readHead text with
      | .error stop => .error stop
      | .ok (key, rest) =>
        match value fuel rest with
        | .error stop => .error stop
        | .ok (item, rest) => brackets.goOn fuel (brackets.add done key item) rest := by
  cases brackets with
  | square =>
      simp only [readEntries, readHead, elements]
      cases value fuel text with
      | error stop => rfl
      | ok result => exact (goOn_square fuel (result.1 :: done) result.2).symm
  | curly =>
      by_cases hquote : text.head? = some '"'
      · obtain ⟨inside, rfl⟩ := List.head?_eq_some_iff.mp hquote
        simp only [readEntries, readHead, members, List.length_cons]
        cases stringRest (inside.length + 1) inside [] with
        | error stop => rfl
        | ok result =>
            obtain ⟨key, rest⟩ := result
            simp only [bind, Except.bind]
            cases skipBlanks rest with
            | nil => rfl
            | cons c after =>
                by_cases hcolon : c = ':'
                · subst hcolon
                  cases hvalue : value fuel (skipBlanks after) with
                  | error stop => simp only [hvalue]
                  | ok result =>
                      simp only [hvalue]
                      exact (goOn_curly fuel (Table.set key result.1 done) result.2).symm
                · simp [hcolon]
      · have hmembers : members (fuel + 1) text done = .error (.problem .expectedKey text.length) := by
          rw [members]
          rintro inside rfl
          exact hquote rfl
        have hhead : readHead curly text = .error (.problem .expectedKey text.length) := by
          rw [readHead]
          rintro inside rfl
          exact hquote rfl
        rw [hhead]
        exact hmembers

variable {brackets}

theorem value_of_closing {after : Text} (h : skipBlanks inside = brackets.closing :: after) :
    value (fuel + 1) (brackets.opening :: inside) = .ok (brackets.whole brackets.start, after) := by
  cases brackets with
  | square => exact value_array_nil h
  | curly => exact value_object_nil h

theorem value_of_not_closing (h : (skipBlanks inside).head? ≠ some brackets.closing) :
    value (fuel + 1) (brackets.opening :: inside) =
      brackets.readEntries fuel (skipBlanks inside) brackets.start := by
  cases brackets with
  | square => exact value_array h
  | curly => exact value_object h

theorem readHead_ne_tooManyDigits : brackets.readHead text ≠ .error (.tooManyDigits count) := by
  cases brackets with
  | square => nofun
  | curly =>
      rw [readHead.eq_def]
      split
      next => nofun
      next inside _ =>
        split
        next stop hstop =>
          rintro ⟨⟩
          exact stringRest_ne_tooManyDigits count hstop
        next =>
          split
          all_goals nofun
      next => nofun

/-- What has been read before a value is a head of the grammar. -/
theorem exists_isHead {key : Text} (h : brackets.readHead (skipBlanks text) = .ok (key, rest)) :
    ∃ head, brackets.IsHead head ∧ text = head ++ rest := by
  obtain ⟨before, hbefore, htext⟩ := exists_gap text
  cases brackets with
  | square =>
      cases h
      exact ⟨before, hbefore, htext⟩
  | curly =>
      generalize skipBlanks text = left at h htext
      by_cases hquote : left.head? = some '"'
      · obtain ⟨inside, rfl⟩ := List.head?_eq_some_iff.mp hquote
        rw [readHead] at h
        cases hstring : stringRest (inside.length + 1) inside [] with
        | error stop =>
            rw [hstring] at h
            cases h
        | ok result =>
            obtain ⟨found, afterKey⟩ := result
            rw [hstring] at h
            obtain ⟨body, hbody, rfl⟩ := exists_stringBody hstring
            obtain ⟨between, hbetween, hafterKey⟩ := exists_gap afterKey
            dsimp only at h
            split at h
            next afterColon hcolon =>
              cases h
              obtain ⟨after, hafter, hafterColon⟩ := exists_gap afterColon
              refine ⟨_, ⟨before, body, between, after, hbefore, hbody, hbetween, hafter, rfl⟩, ?_⟩
              rw [htext, hafterKey, hcolon]
              conv_lhs => rw [hafterColon]
              simp only [List.append_assoc, List.cons_append]
            next => cases h
      · rw [readHead] at h
        · cases h
        · rintro inside rfl
          exact hquote rfl

/-- A head of the grammar is read, up to the value. -/
theorem exists_readHead_eq_ok {head : Text} (h : brackets.IsHead head) (rest : Text) :
    ∃ key, brackets.readHead (skipBlanks (head ++ rest)) = .ok (key, skipBlanks rest) := by
  cases brackets with
  | square => exact ⟨[], by rw [skipBlanks_append h]; rfl⟩
  | curly =>
      obtain ⟨before, body, between, after, hbefore, hbody, hbetween, hafter, rfl⟩ := h
      simp only [List.append_assoc, List.cons_append]
      rw [skipBlanks_append hbefore, skipBlanks_of_cons (by decide), readHead]
      obtain ⟨key, hkey⟩ := exists_stringRest_eq_ok hbody
        ((body ++ '"' :: (between ++ ':' :: (after ++ rest))).length + 1) []
        (between ++ ':' :: (after ++ rest))
      have hcolon : isBlank ':' = false := by decide
      refine ⟨key, ?_⟩
      simp only [hkey, skipBlanks_append hbetween, skipBlanks_of_cons hcolon, skipBlanks_append hafter]

/-- Brackets are not closed where an entry begins. -/
theorem head_ne_closing {head : Text} (h : brackets.IsHead head) (hrest : StartsValue rest) :
    (skipBlanks (head ++ rest)).head? ≠ some brackets.closing := by
  cases brackets with
  | square =>
      rw [skipBlanks_append h, hrest.skipBlanks_eq]
      obtain ⟨c, more, rfl, -, hc⟩ := hrest
      intro heq
      obtain rfl := Option.some.inj heq
      exact hc (by decide)
  | curly =>
      obtain ⟨before, body, between, after, hbefore, -, -, -, rfl⟩ := h
      rw [List.append_assoc, skipBlanks_append hbefore, List.cons_append,
        skipBlanks_of_cons (by decide)]
      nofun

end Brackets

end FormFill.Json
