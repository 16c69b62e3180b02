import FormFill.Proofs.Json.Entry

/-!
# What is read as JSON

A text is read exactly if it is one JSON value between blanks. An integer with too many digits is complained
of exactly if one is reached in the text, that is, if nothing before it keeps the text from being JSON.
-/

namespace FormFill.Json

variable {text rest : Text} {count fuel : Nat}

/-! ## What is read is as the grammar has it -/

namespace Brackets

variable {brackets : Brackets}

/-- What is read between brackets is as the grammar has it: entries up to the closing bracket, or some
entries and an integer with too many digits in the next. -/
structure EntriesAccord (brackets : Brackets) (text : Text) (result : Except Stop (Value × Text)) :
    Prop where
  written : ∀ {found rest}, result = .ok (found, rest) →
    ∃ (entries : List (Entry brackets)) (last : Entry brackets),
      (∀ entry ∈ entries, Written entry.value) ∧ Written last.value ∧
      text = led entries ++ (last.text ++ brackets.closing :: rest)
  reaches : ∀ {count}, result = .error (.tooManyDigits count) → Text.digitLimit < count ∧
    ∃ (entries : List (Entry brackets)) (head front tail : Text),
      (∀ entry ∈ entries, Written entry.value) ∧ brackets.IsHead head ∧ Opens front ∧
      StartsInteger count tail ∧ text = led entries ++ (head ++ (front ++ tail))

theorem EntriesAccord.of_problem (text : Text) (problem : Problem) (left : Nat) :
    EntriesAccord brackets text (.error (.problem problem left)) where
  written h := by cases h
  reaches h := by cases h

/-- The closing bracket comes behind the last entry. -/
theorem EntriesAccord.of_last {last : Entry brackets} {found : Value} (hlast : Written last.value) :
    EntriesAccord brackets (last.text ++ brackets.closing :: rest) (.ok (found, rest)) where
  written h := by
    cases h
    exact ⟨[], last, List.forall_mem_nil _, hlast, rfl⟩
  reaches h := by cases h

/-- An integer with too many digits is reached in the first entry. -/
theorem EntriesAccord.of_next {head front tail : Text} (hcount : Text.digitLimit < count)
    (hhead : brackets.IsHead head) (hfront : Opens front) (htail : StartsInteger count tail) :
    EntriesAccord brackets (head ++ (front ++ tail)) (.error (.tooManyDigits count)) where
  written h := by cases h
  reaches h := by
    cases h
    exact ⟨hcount, [], head, front, tail, List.forall_mem_nil _, hhead, hfront, htail, rfl⟩

/-- What is read behind an entry and a comma is as the grammar has it with that entry. -/
theorem EntriesAccord.cons {entry : Entry brackets} {result : Except Stop (Value × Text)}
    (hwritten : Written entry.value) (h : EntriesAccord brackets text result) :
    EntriesAccord brackets (entry.text ++ ',' :: text) result where
  written hresult := by
    obtain ⟨entries, last, hall, hlast, rfl⟩ := h.written hresult
    refine ⟨entry :: entries, last, List.forall_mem_cons.mpr ⟨hwritten, hall⟩, hlast, ?_⟩
    rw [led_cons, List.append_assoc, List.cons_append]
  reaches hresult := by
    obtain ⟨hcount, entries, head, front, tail, hall, hhead, hfront, htail, rfl⟩ := h.reaches hresult
    refine ⟨hcount, entry :: entries, head, front, tail, List.forall_mem_cons.mpr ⟨hwritten, hall⟩,
      hhead, hfront, htail, ?_⟩
    rw [led_cons, List.append_assoc, List.cons_append]

/-- What is read behind the value of an entry is as the grammar has it if the next entries are. -/
theorem entriesAccord_goOn (hentries : ∀ text done, EntriesAccord brackets text
    (brackets.readEntries fuel (skipBlanks text) done)) {head written : Text}
    (hhead : brackets.IsHead head) (hwritten : Written written) (done : brackets.Contents)
    (rest : Text) :
    EntriesAccord brackets (head ++ (written ++ rest)) (brackets.goOn fuel done rest) := by
  obtain ⟨gap, hgap, hrest⟩ := exists_gap rest
  let entry : Entry brackets := ⟨head, written, gap, hhead, hgap⟩
  have htext : head ++ (written ++ rest) = entry.text ++ skipBlanks rest := by
    conv_lhs => rw [hrest]
    simp only [Entry.text, entry, List.append_assoc]
  rw [htext, goOn]
  cases skipBlanks rest with
  | nil => exact .of_problem _ _ _
  | cons c after =>
      dsimp only
      split
      next hclose =>
        rw [hclose]
        exact .of_last hwritten
      next =>
        split
        next hcomma =>
          rw [hcomma]
          exact (hentries after done).cons hwritten
        next => exact .of_problem _ _ _

/-- The first entry is read as a value is, and what comes behind it as entries are. -/
theorem entriesAccord_succ (hvalue : ∀ text, Accords text (value fuel text))
    (hentries : ∀ text done, EntriesAccord brackets text
      (brackets.readEntries fuel (skipBlanks text) done)) (text : Text) (done : brackets.Contents) :
    EntriesAccord brackets text (brackets.readEntries (fuel + 1) (skipBlanks text) done) := by
  rw [readEntries_succ]
  cases hhead : brackets.readHead (skipBlanks text) with
  | error stop =>
      cases stop with
      | problem problem left => exact .of_problem _ _ _
      | tooManyDigits count => exact absurd hhead readHead_ne_tooManyDigits
  | ok result =>
      obtain ⟨key, afterHead⟩ := result
      obtain ⟨head, hisHead, rfl⟩ := exists_isHead hhead
      dsimp only
      cases hitem : value fuel afterHead with
      | error stop =>
          cases stop with
          | problem problem left => exact .of_problem _ _ _
          | tooManyDigits count =>
              obtain ⟨hcount, front, tail, hfront, htail, rfl⟩ := (hvalue afterHead).reaches hitem
              exact .of_next hcount hisHead hfront htail
      | ok result =>
          obtain ⟨item, afterItem⟩ := result
          obtain ⟨written, hwritten, rfl⟩ := (hvalue afterHead).written hitem
          exact entriesAccord_goOn hentries hisHead hwritten (brackets.add done key item) afterItem

end Brackets

theorem accords_value_quote (inside : Text) : Accords ('"' :: inside) (value (fuel + 1) ('"' :: inside)) where
  written h := by
    obtain ⟨content, hstring, -⟩ := value_string_iff.mp h
    obtain ⟨body, hbody, rfl⟩ := exists_stringBody hstring
    exact ⟨_, .string hbody, by simp only [List.cons_append, List.append_assoc, List.nil_append]⟩
  reaches h := by
    rw [value, List.length_cons] at h
    cases hstring : stringRest (inside.length + 1) inside [] with
    | error stop =>
        rw [hstring] at h
        cases h
        exact absurd hstring (stringRest_ne_tooManyDigits _)
    | ok result =>
        rw [hstring] at h
        cases h

theorem accords_value_opening {brackets : Brackets} (hentries : ∀ text done,
    Brackets.EntriesAccord brackets text (brackets.readEntries fuel (skipBlanks text) done))
    (inside : Text) :
    Accords (brackets.opening :: inside) (value (fuel + 1) (brackets.opening :: inside)) := by
  by_cases hclose : (skipBlanks inside).head? = some brackets.closing
  · obtain ⟨after, hafter⟩ := List.head?_eq_some_iff.mp hclose
    obtain ⟨gap, hgap, hinside⟩ := exists_gap inside
    rw [Brackets.value_of_closing hafter]
    refine .of_written (.empty brackets hgap) ?_
    rw [hinside, hafter]
    simp only [List.cons_append, List.append_assoc, List.nil_append]
  · rw [Brackets.value_of_not_closing hclose]
    have hinside := hentries inside brackets.start
    refine ⟨fun h => ?_, fun h => ?_⟩
    · obtain ⟨entries, last, hall, hlast, rfl⟩ := hinside.written h
      exact ⟨_, .entries brackets hall hlast,
        by simp only [List.cons_append, List.append_assoc, List.nil_append]⟩
    · obtain ⟨hcount, entries, head, front, tail, hall, hhead, hfront, htail, rfl⟩ := hinside.reaches h
      exact ⟨hcount, _, tail, .entry brackets hall hhead hfront, htail,
        by simp only [List.cons_append, List.append_assoc]⟩

/-- Values are read as the grammar has them if entries are. -/
theorem accords_value_succ (hentries : ∀ (brackets : Brackets) text done,
    Brackets.EntriesAccord brackets text (brackets.readEntries fuel (skipBlanks text) done))
    (text : Text) : Accords text (value (fuel + 1) text) := by
  by_cases hquote : text.head? = some '"'
  · obtain ⟨inside, rfl⟩ := List.head?_eq_some_iff.mp hquote
    exact accords_value_quote inside
  by_cases hopening : ∃ brackets : Brackets, text.head? = some brackets.opening
  · obtain ⟨brackets, hhead⟩ := hopening
    obtain ⟨inside, rfl⟩ := List.head?_eq_some_iff.mp hhead
    exact accords_value_opening (hentries brackets) inside
  · rw [value_scalar hquote (fun h => hopening ⟨.square, h⟩) fun h => hopening ⟨.curly, h⟩]
    exact accords_scalar text

/-- Values and entries are read as the grammar has them, by induction on the fuel. -/
theorem accords_value (fuel : Nat) : (∀ text, Accords text (value fuel text)) ∧
    ∀ (brackets : Brackets) text done,
      Brackets.EntriesAccord brackets text (brackets.readEntries fuel (skipBlanks text) done) := by
  induction fuel with
  | zero =>
      refine ⟨fun text => .of_problem _ _ _, fun brackets text done => ?_⟩
      cases brackets with
      | square => exact .of_problem _ _ _
      | curly => exact .of_problem _ _ _
  | succ fuel ih =>
      exact ⟨accords_value_succ ih.2, fun brackets => Brackets.entriesAccord_succ ih.1 (ih.2 brackets)⟩

/-! ## What the grammar has is read -/

/-- Nothing goes on from a number in front of a blank, a comma or a closing bracket. -/
theorem endsNumber_of_head
    (h : ∀ c, rest.head? = some c → isBlank c = true ∨ c ∈ [',', ']', '\x7d']) :
    EndsNumber rest := by
  have hdelimiter : ∀ c, isBlank c = true ∨ c ∈ [',', ']', '\x7d'] →
      c.isDigit = false ∧ c ∉ ['.', 'e', 'E'] := by
    intro c hc
    simp only [isBlank, Bool.or_eq_true, beq_iff_eq, List.mem_cons, List.not_mem_nil, or_false] at hc
    rcases hc with (((rfl | rfl) | rfl) | rfl) | rfl | rfl | rfl <;> decide
  rintro part hpart ⟨more, rfl⟩
  cases part with
  | nil => rfl
  | cons c part =>
      obtain ⟨hdigit, hletter⟩ := hdelimiter c (h c rfl)
      rcases hpart with ⟨-, hall⟩ | hfraction | hexponent
      · rw [hall c List.mem_cons_self] at hdigit
        cases hdigit
      · rcases hfraction with hnil | ⟨digits, -, heq⟩
        · exact hnil
        · obtain ⟨rfl, -⟩ := List.cons.inj heq
          exact absurd hletter (by decide)
      · rcases hexponent with hnil | ⟨letter, sign, digits, rfl | rfl, -, -, heq⟩
        · exact hnil
        all_goals
          obtain ⟨rfl, -⟩ := List.cons.inj heq
          exact absurd hletter (by decide)

theorem endsNumber_gap {gap : Text} (h : IsGap gap) : EndsNumber gap :=
  endsNumber_of_head fun _ hc => Or.inl (h _ (List.mem_of_mem_head? hc))

theorem endsNumber_gap_append {gap : Text} {c : Char} (h : IsGap gap) (hc : c ∈ [',', ']', '\x7d'])
    (rest : Text) : EndsNumber (gap ++ c :: rest) := by
  refine endsNumber_of_head fun d hd => ?_
  cases gap with
  | nil =>
      cases hd
      exact Or.inr hc
  | cons b gap =>
      cases hd
      exact Or.inl (h _ List.mem_cons_self)

/-- A text that begins with a word or a number, or with what these begin with. -/
def StartsScalar (text : Text) : Prop :=
  ∃ c more, text = c :: more ∧ isBlank c = false ∧
    c ∉ ['"', '[', '\x7b', ']', '\x7d', '\uFEFF']

theorem StartsScalar.startsValue (h : StartsScalar text) : StartsValue text := by
  obtain ⟨c, more, rfl, hblank, hc⟩ := h
  exact ⟨c, more, rfl, hblank, fun hmem => hc (List.mem_append_right ['"', '[', '\x7b'] hmem)⟩

theorem startsScalar_of_word {word : Text} (h : word ∈ words.map Prod.fst) : StartsScalar word := by
  simp only [words, List.map_cons, List.map_nil, List.mem_cons, List.not_mem_nil, or_false] at h
  rcases h with rfl | rfl | rfl | rfl | rfl | rfl
  all_goals exact ⟨_, _, rfl, by decide, by decide⟩

theorem startsScalar_of_number {sign whole : Text} (hsign : IsSign sign) (hwhole : IsWhole whole)
    (rest : Text) : StartsScalar (sign ++ (whole ++ rest)) := by
  rcases hsign with rfl | rfl
  · obtain ⟨c, digits, rfl, hc⟩ := hwhole.exists_cons
    have hne : ∀ d : Char, d.isDigit = false → c ≠ d := by
      rintro d hd rfl
      rw [hd] at hc
      cases hc
    exact ⟨c, digits ++ rest, rfl, by simp [isBlank, hne], by simp [hne]⟩
  · exact ⟨'-', whole ++ rest, rfl, by decide, by decide⟩

theorem Brackets.startsValue_opening (brackets : Brackets) (rest : Text) :
    StartsValue (brackets.opening :: rest) := by
  cases brackets with
  | square => exact ⟨_, _, rfl, by decide, by decide⟩
  | curly => exact ⟨_, _, rfl, by decide, by decide⟩

theorem Written.startsValue (h : Written text) : StartsValue text := by
  cases h with
  | word hword => exact (startsScalar_of_word hword).startsValue
  | number hsign hwhole => exact (startsScalar_of_number hsign hwhole _).startsValue
  | string => exact ⟨_, _, rfl, by decide, by decide⟩
  | empty brackets => exact brackets.startsValue_opening _
  | entries brackets => exact brackets.startsValue_opening _

/-- A text is read as a value if there is fuel enough, unless a number goes on from it. -/
def IsRead (text : Text) : Prop := ∀ fuel rest, text.length < fuel → EndsNumber rest →
  ∃ found, value fuel (text ++ rest) = .ok (found, rest)

namespace Brackets

variable {brackets : Brackets}

/-- A written entry is read. -/
theorem exists_readEntries_eq_goOn {entry : Entry brackets} (hwritten : Written entry.value)
    (hread : IsRead entry.value) (hfuel : entry.text.length < fuel)
    (hrest : EndsNumber (entry.gap ++ rest)) (done : brackets.Contents) :
    ∃ next, brackets.readEntries (fuel + 1) (skipBlanks (entry.text ++ rest)) done =
      brackets.goOn fuel next rest := by
  have hlength : entry.value.length < fuel := by
    simp only [Entry.text, List.length_append] at hfuel
    omega
  obtain ⟨key, hkey⟩ := exists_readHead_eq_ok entry.isHead (entry.value ++ (entry.gap ++ rest))
  obtain ⟨item, hitem⟩ := hread fuel _ hlength hrest
  rw [(hwritten.startsValue.append _).skipBlanks_eq] at hkey
  refine ⟨brackets.add done key item, ?_⟩
  simp only [readEntries_succ, Entry.text, List.append_assoc, hkey, hitem, goOn,
    skipBlanks_append entry.isGap]

theorem goOn_comma (done : brackets.Contents) (rest : Text) :
    brackets.goOn fuel done (',' :: rest) = brackets.readEntries fuel (skipBlanks rest) done := by
  cases brackets with
  | square => rfl
  | curly => rfl

theorem goOn_closing (done : brackets.Contents) (rest : Text) :
    brackets.goOn fuel done (brackets.closing :: rest) = .ok (brackets.whole done, rest) := by
  cases brackets with
  | square => rfl
  | curly => rfl

theorem closing_mem : brackets.closing ∈ [',', ']', '\x7d'] := by
  cases brackets with
  | square => decide
  | curly => decide

theorem length_le_length_led (entries : List (Entry brackets)) :
    entries.length ≤ (led entries).length := by
  induction entries with
  | nil => exact Nat.le_refl 0
  | cons entry entries ih =>
      simp only [led_cons, List.length_cons, List.length_append]
      omega

/-- Written entries are read up to the last comma, each with one unit of the fuel. -/
theorem exists_readEntries_led {entries : List (Entry brackets)}
    (hwritten : ∀ entry ∈ entries, Written entry.value)
    (hread : ∀ entry ∈ entries, IsRead entry.value) (hfuel : (led entries).length < fuel)
    (done : brackets.Contents) (rest : Text) :
    ∃ next, brackets.readEntries fuel (skipBlanks (led entries ++ rest)) done =
      brackets.readEntries (fuel - entries.length) (skipBlanks rest) next := by
  induction entries generalizing fuel done with
  | nil => exact ⟨done, rfl⟩
  | cons entry entries ih =>
      obtain ⟨hfirst, hothers⟩ := List.forall_mem_cons.mp hwritten
      obtain ⟨hreadFirst, hreadOthers⟩ := List.forall_mem_cons.mp hread
      simp only [led_cons, List.length_append, List.length_cons] at hfuel
      obtain ⟨fuel, rfl⟩ : ∃ less, fuel = less + 1 := Nat.exists_eq_succ_of_ne_zero (by omega)
      rw [led_cons, List.append_assoc, List.cons_append]
      have hentry : entry.text.length < fuel := by omega
      have hmore : (led entries).length < fuel := by omega
      have hends := endsNumber_gap_append entry.isGap (List.mem_cons_self : ',' ∈ _) (led entries ++ rest)
      obtain ⟨next, hnext⟩ := exists_readEntries_eq_goOn hfirst hreadFirst hentry hends done
      obtain ⟨last, hlast⟩ := ih hothers hreadOthers hmore next
      refine ⟨last, ?_⟩
      rw [hnext, goOn_comma, hlast, List.length_cons, Nat.add_sub_add_right]

/-- The first entry stands behind the opening bracket. -/
theorem led_head_ne_closing {entries : List (Entry brackets)} {head : Text}
    (hwritten : ∀ entry ∈ entries, Written entry.value) (hhead : brackets.IsHead head)
    (hrest : StartsValue rest) :
    (skipBlanks (led entries ++ (head ++ rest))).head? ≠ some brackets.closing := by
  cases entries with
  | nil =>
      rw [led, List.flatMap_nil, List.nil_append]
      exact head_ne_closing hhead hrest
  | cons entry entries =>
      have hfirst := (hwritten entry List.mem_cons_self).startsValue
      rw [led_cons, Entry.text]
      simp only [List.append_assoc]
      exact head_ne_closing entry.isHead (hfirst.append _)

end Brackets

theorem value_of_startsScalar (h : StartsScalar text) : value (fuel + 1) text = scalar text := by
  obtain ⟨c, more, rfl, -, hc⟩ := h
  refine value_scalar ?_ ?_ ?_
  all_goals
    intro heq
    obtain rfl := Option.some.inj heq
    exact hc (by decide)

theorem StartsScalar.append (h : StartsScalar text) (rest : Text) : StartsScalar (text ++ rest) := by
  obtain ⟨c, more, rfl, hc⟩ := h
  exact ⟨c, more ++ rest, rfl, hc⟩

/-- A JSON value is read, by induction on how it is written. -/
theorem Written.isRead (h : Written text) : IsRead text := by
  induction h with
  | @word text hword =>
      intro fuel rest hfuel _
      obtain ⟨fuel, rfl⟩ : ∃ less, fuel = less + 1 := Nat.exists_eq_succ_of_ne_zero (by omega)
      rw [value_of_startsScalar ((startsScalar_of_word hword).append rest)]
      exact exists_scalar_of_word hword rest
  | number hsign hwhole hfraction hexponent hlimit =>
      intro fuel rest hfuel hrest
      obtain ⟨fuel, rfl⟩ : ∃ less, fuel = less + 1 := Nat.exists_eq_succ_of_ne_zero (by omega)
      simp only [List.append_assoc]
      rw [value_of_startsScalar (startsScalar_of_number hsign hwhole _)]
      exact exists_scalar_of_number hsign hwhole hfraction hexponent hlimit hrest
  | @string body hbody =>
      intro fuel rest hfuel _
      obtain ⟨fuel, rfl⟩ : ∃ less, fuel = less + 1 := Nat.exists_eq_succ_of_ne_zero (by omega)
      simp only [List.cons_append, List.append_assoc, List.nil_append]
      obtain ⟨content, hstring⟩ :=
        exists_stringRest_eq_ok hbody ((body ++ '"' :: rest).length + 1) [] rest
      exact ⟨_, value_string_iff.mpr ⟨content, hstring, rfl⟩⟩
  | empty brackets hgap =>
      intro fuel rest hfuel _
      obtain ⟨fuel, rfl⟩ : ∃ less, fuel = less + 1 := Nat.exists_eq_succ_of_ne_zero (by omega)
      simp only [List.cons_append, List.append_assoc, List.nil_append]
      have hclosing : isBlank brackets.closing = false := by cases brackets <;> decide
      exact ⟨_, Brackets.value_of_closing
        ((skipBlanks_append hgap _).trans (skipBlanks_of_cons hclosing rest))⟩
  | @entries brackets entries last hentries hlast ihEntries ihLast =>
      intro fuel rest hfuel _
      simp only [List.length_cons, List.length_append, List.length_nil] at hfuel
      obtain ⟨fuel, rfl⟩ : ∃ less, fuel = less + 1 := Nat.exists_eq_succ_of_ne_zero (by omega)
      simp only [List.cons_append, List.append_assoc, List.nil_append]
      have hlastText : last.text ++ brackets.closing :: rest =
          last.head ++ (last.value ++ (last.gap ++ brackets.closing :: rest)) := by
        simp only [Entry.text, List.append_assoc]
      have hopen := Brackets.led_head_ne_closing hentries last.isHead
        (hlast.startsValue.append (last.gap ++ brackets.closing :: rest))
      rw [← hlastText] at hopen
      have hled : (led entries).length < fuel := by omega
      obtain ⟨done, hdone⟩ := Brackets.exists_readEntries_led hentries ihEntries hled
        brackets.start (last.text ++ brackets.closing :: rest)
      have hcount := Brackets.length_le_length_led entries
      obtain ⟨less, hless⟩ : ∃ less, fuel - entries.length = less + 1 :=
        Nat.exists_eq_succ_of_ne_zero (by omega)
      have hlastFuel : last.text.length < less := by omega
      obtain ⟨next, hnext⟩ := Brackets.exists_readEntries_eq_goOn hlast ihLast hlastFuel
        (endsNumber_gap_append last.isGap Brackets.closing_mem rest) done
      rw [Brackets.value_of_not_closing hopen, hdone, hless, hnext, Brackets.goOn_closing]
      exact ⟨_, rfl⟩

theorem StartsInteger.startsScalar (h : StartsInteger count text) : StartsScalar text := by
  obtain ⟨sign, digits, rest, hsign, hdigits, -, -, rfl⟩ := h
  exact startsScalar_of_number hsign hdigits rest

theorem Opens.startsValue {front tail : Text} (hfront : Opens front) (htail : StartsValue tail) :
    StartsValue (front ++ tail) := by
  cases hfront with
  | nil => exact htail
  | entry brackets => exact brackets.startsValue_opening _

/-- An integer with too many digits is complained of within the brackets before it, by induction on these.
An opening bracket may take two units of the fuel: one for itself and one for the entry. -/
theorem Opens.value_eq_tooManyDigits {front tail : Text} (hfront : Opens front)
    (htail : StartsInteger count tail) (hcount : Text.digitLimit < count)
    (hfuel : 2 * front.length < fuel) : value fuel (front ++ tail) = .error (.tooManyDigits count) := by
  induction hfront generalizing fuel with
  | nil =>
      obtain ⟨fuel, rfl⟩ : ∃ less, fuel = less + 1 := Nat.exists_eq_succ_of_ne_zero (by omega)
      rw [List.nil_append, value_of_startsScalar htail.startsScalar]
      exact scalar_eq_tooManyDigits hcount htail
  | @entry brackets entries head front hentries hhead hfront ih =>
      simp only [List.length_cons, List.length_append] at hfuel
      obtain ⟨fuel, rfl⟩ : ∃ less, fuel = less + 1 := Nat.exists_eq_succ_of_ne_zero (by omega)
      simp only [List.cons_append, List.append_assoc]
      have hstart := hfront.startsValue htail.startsScalar.startsValue
      have hopen := Brackets.led_head_ne_closing hentries hhead hstart
      have hled : (led entries).length < fuel := by omega
      obtain ⟨done, hdone⟩ := Brackets.exists_readEntries_led hentries
        (fun entry hentry => (hentries entry hentry).isRead) hled brackets.start
        (head ++ (front ++ tail))
      have hlength := Brackets.length_le_length_led entries
      obtain ⟨less, hless⟩ : ∃ less, fuel - entries.length = less + 1 :=
        Nat.exists_eq_succ_of_ne_zero (by omega)
      obtain ⟨key, hkey⟩ := Brackets.exists_readHead_eq_ok hhead (front ++ tail)
      rw [hstart.skipBlanks_eq] at hkey
      have hinner := ih (show 2 * front.length < less by omega)
      rw [Brackets.value_of_not_closing hopen, hdone, hless, Brackets.readEntries_succ, hkey]
      simp only [hinner]

/-! ## Whole texts -/

theorem read_eq_tooManyDigits_iff_value : read text = .error (.tooManyDigits count) ↔
    text.head? ≠ some '\uFEFF' ∧
      value (2 * text.length + 2) (skipBlanks text) = .error (.tooManyDigits count) := by
  rw [read]
  by_cases hmark : text.head? = some '\uFEFF'
  · simp [hmark, throw, throwThe, MonadExceptOf.throw, bind, Except.bind]
  · simp only [hmark, if_false, bind, Except.bind, ne_eq, not_false_eq_true, true_and]
    cases hvalue : value (2 * text.length + 2) (skipBlanks text) with
    | error stop => cases stop <;> simp
    | ok result =>
        obtain ⟨item, rest⟩ := result
        cases hend : skipBlanks rest with
        | nil => simp [hend, pure, Except.pure]
        | cons c more => simp [hend, throw, throwThe, MonadExceptOf.throw]

/-- An integer with too many digits is complained of exactly if one is reached. -/
theorem read_eq_tooManyDigits_iff : read text = .error (.tooManyDigits count) ↔
    Text.digitLimit < count ∧ ReachesInteger count text := by
  rw [read_eq_tooManyDigits_iff_value]
  obtain ⟨gap, hgap, htext⟩ := exists_gap text
  constructor
  · rintro ⟨-, hvalue⟩
    obtain ⟨hcount, front, tail, hfront, htail, hskip⟩ := ((accords_value _).1 _).reaches hvalue
    exact ⟨hcount, gap, front, tail, hgap, hfront, htail, by rw [← hskip, ← htext]⟩
  · rintro ⟨hcount, gap, front, tail, hgap, hfront, htail, rfl⟩
    have hstart := hfront.startsValue htail.startsScalar.startsValue
    have hfuel : 2 * front.length < 2 * (gap ++ (front ++ tail)).length + 2 := by
      simp only [List.length_append]
      omega
    rw [skipBlanks_append hgap, hstart.skipBlanks_eq]
    exact ⟨hstart.head?_ne_mark hgap, hfront.value_eq_tooManyDigits htail hcount hfuel⟩

/-- A text is read exactly if it is one JSON value between blanks. -/
theorem exists_read_eq_ok_iff : (∃ found, read text = .ok found) ↔ IsDocument text := by
  simp only [read_eq_ok_iff]
  constructor
  · rintro ⟨found, -, rest, hvalue, hrest⟩
    obtain ⟨before, hbefore, htext⟩ := exists_gap text
    obtain ⟨written, hwritten, hskip⟩ := ((accords_value _).1 _).written hvalue
    obtain ⟨after, hafter, hend⟩ := exists_gap rest
    rw [hrest, List.append_nil] at hend
    exact ⟨before, written, after, hbefore, hwritten, hafter, by rw [← hend, ← hskip, ← htext]⟩
  · rintro ⟨before, written, after, hbefore, hwritten, hafter, rfl⟩
    have hfuel : written.length < 2 * (before ++ (written ++ after)).length + 2 := by
      simp only [List.length_append]
      omega
    obtain ⟨found, hfound⟩ := hwritten.isRead _ after hfuel (endsNumber_gap hafter)
    refine ⟨found, (hwritten.startsValue.append after).head?_ne_mark hbefore, after, ?_, ?_⟩
    · rw [skipBlanks_append hbefore, (hwritten.startsValue.append after).skipBlanks_eq, hfound]
    · rw [← List.append_nil after, skipBlanks_append hafter]
      rfl

end FormFill.Json
