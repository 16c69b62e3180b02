import FormFill.Proofs.Substitution.Exact
import Mathlib.Data.List.Perm.Basic

/-!
# Substitution in sequence

A text can be filled alias by alias, each pass over the text that the one before has left. If every
opening brace of the template begins a marker and no value holds one, the texts in between hold the
markers that are not yet replaced and no others, so the passes together do what a single one does.
-/

namespace FormFill

namespace Marker

/-- A piece that is read back wherever its text stands: a marker with an admissible key, or a character
with which no marker begins. -/
def Piece.IsFirm : Piece → Prop
  | .marker found => IsKey found.key
  | .plain c => c ≠ '\x7b'

theorem read?_cons_of_ne {c : Char} (hne : c ≠ '\x7b') (rest : Text) : read? (c :: rest) = none := by
  rw [Option.eq_none_iff_forall_ne_some]
  rintro ⟨marker, after⟩ hread
  exact hne (mark_prefix_cons.mp (mark_prefix_of_read? hread)).1

/-- Firm pieces are the pieces of the text that they make up. -/
theorem split_flatMap_text {pieces : List Piece} (hfirm : ∀ piece ∈ pieces, piece.IsFirm) :
    split (pieces.flatMap Piece.text) = pieces := by
  induction pieces with
  | nil => rw [List.flatMap_nil, split_nil]
  | cons piece rest ih =>
      obtain ⟨hpiece, hrest⟩ := List.forall_mem_cons.mp hfirm
      rw [List.flatMap_cons]
      cases piece with
      | marker found => rw [Piece.text, split_marker hpiece, ih hrest]
      | plain c =>
          rw [Piece.text, List.singleton_append, split_plain (read?_cons_of_ne hpiece _), ih hrest]

/-- A text in which every opening brace is the first character of a marker. -/
def IsTidy (text : Text) : Prop :=
  ∀ rest, '\x7b' :: rest <:+ text →
    ∃ (marker : Marker) (after : Text),
      IsKey marker.key ∧ '\x7b' :: rest = marker.text ++ after

theorem IsTidy.of_suffix {text whole : Text} (h : IsTidy whole) (hsuffix : text <:+ whole) :
    IsTidy text := fun rest hrest => h rest (hrest.trans hsuffix)

instance : DecidablePred IsTidy := fun text =>
  decidable_of_iff (∀ suffix ∈ text.tails, suffix.head? = some '\x7b' → (read? suffix).isSome) <| by
    constructor
    · intro h rest hrest
      obtain ⟨⟨marker, after⟩, hread⟩ :=
        Option.isSome_iff_exists.mp (h _ ((List.mem_tails _ _).mpr hrest) rfl)
      exact ⟨marker, after, read?_eq_some_iff.mp hread⟩
    · intro h suffix hmem hhead
      obtain ⟨rest, rfl⟩ := List.head?_eq_some_iff.mp hhead
      obtain ⟨marker, after, hmarker⟩ := h rest ((List.mem_tails _ _).mp hmem)
      exact Option.isSome_iff_exists.mpr ⟨_, read?_eq_some_iff.mpr hmarker⟩

/-- The pieces of a tidy text are firm. -/
theorem IsTidy.isFirm {text : Text} (h : IsTidy text) : ∀ piece ∈ split text, piece.IsFirm := by
  induction text using pieceInduction with
  | nil => simp
  | marker found rest hkey ih =>
      rw [split_marker hkey]
      exact List.forall_mem_cons.mpr ⟨hkey, ih (h.of_suffix (List.suffix_append _ _))⟩
  | plain c rest hnone ih =>
      rw [split_plain hnone]
      refine List.forall_mem_cons.mpr ⟨?_, ih (h.of_suffix (List.suffix_cons _ _))⟩
      rintro rfl
      obtain ⟨marker, after, hmarker⟩ := h rest List.suffix_rfl
      rw [read?_eq_some_iff.mpr hmarker] at hnone
      cases hnone

/-- The marker of a piece that is one. -/
def Piece.marker? : Piece → Option Marker
  | .marker found => some found
  | .plain _ => none

theorem all_eq_filterMap (text : Text) : all text = (split text).filterMap Piece.marker? := by
  rw [all]
  congr 1

end Marker

namespace Substitution

open Marker (Piece)

variable {aliases : Table Text} {values : Values}

/-- The pieces that come in place of a piece. -/
def filledPieces (aliases : Table Text) (values : Values) : Piece → List Piece
  | .plain c => [.plain c]
  | .marker marker =>
    match outcome aliases values marker with
    | .replaced _ newText => newText.map .plain
    | .unmatched => [.marker marker]

theorem flatMap_plain {β : Type} (text : Text) (f : Piece → List β) :
    (text.map Piece.plain).flatMap f = text.flatMap fun c => f (.plain c) := List.flatMap_map ..

theorem flatMap_text_filledPieces (piece : Piece) :
    (filledPieces aliases values piece).flatMap Piece.text = pieceText aliases values piece := by
  cases piece with
  | plain c => rfl
  | marker marker =>
      rw [filledPieces, pieceText]
      cases outcome aliases values marker with
      | replaced code newText => simp [flatMap_plain, Piece.text]
      | unmatched => simp [Piece.text]

/-- Values without opening braces. -/
def Braceless (values : Values) : Prop := ∀ entry ∈ values, '\x7b' ∉ entry.2.getD []

instance : DecidablePred Braceless := fun values =>
  inferInstanceAs (Decidable (∀ entry ∈ values, '\x7b' ∉ entry.2.getD []))

theorem Braceless.valueOf? (hvalues : Braceless values) (code : Text) :
    '\x7b' ∉ (values.valueOf? code).getD [] := by
  rw [Values.valueOf?, Table.get?]
  cases hfound : values.lookup code with
  | none => simp
  | some value =>
      obtain ⟨before, after, hvalue, -⟩ := List.lookup_eq_some_iff.mp hfound
      simpa using hvalues (code, value) (by simp [hvalue])

theorem isFirm_filledPieces (hvalues : Braceless values) {piece : Piece} (hpiece : piece.IsFirm) :
    ∀ filled ∈ filledPieces aliases values piece, filled.IsFirm := by
  cases piece with
  | plain c => simpa [filledPieces] using hpiece
  | marker marker =>
      rw [filledPieces, outcome]
      cases codeOf? aliases marker.key with
      | none => simpa using hpiece
      | some code =>
          intro filled hfilled
          obtain ⟨c, hc, rfl⟩ := List.mem_map.mp hfilled
          exact fun heq => hvalues.valueOf? code (heq ▸ hc)

theorem isFirm_flatMap_filledPieces (hvalues : Braceless values) {pieces : List Piece}
    (hfirm : ∀ piece ∈ pieces, piece.IsFirm) :
    ∀ filled ∈ pieces.flatMap (filledPieces aliases values), filled.IsFirm := by
  intro filled hfilled
  obtain ⟨piece, hpiece, hmem⟩ := List.mem_flatMap.mp hfilled
  exact isFirm_filledPieces hvalues (hfirm piece hpiece) filled hmem

/-- The pieces of a filled text are those of the template with values in place of the replaced
markers: values neither form nor break a marker. -/
theorem split_fill {template : Text} (hfirm : ∀ piece ∈ Marker.split template, piece.IsFirm)
    (hvalues : Braceless values) :
    Marker.split (fill template aliases values) =
      (Marker.split template).flatMap (filledPieces aliases values) := by
  have htext : fill template aliases values =
      ((Marker.split template).flatMap (filledPieces aliases values)).flatMap Piece.text := by
    rw [List.flatMap_assoc]
    simp only [flatMap_text_filledPieces]
    rfl
  rw [htext, Marker.split_flatMap_text (isFirm_flatMap_filledPieces hvalues hfirm)]

/-- What is left by a pass for the first entry, filled for the other entries, is filled for all. -/
theorem flatMap_filledPieces (entry : Text × Text) (rest : Table Text) (piece : Piece) :
    (filledPieces [entry] values piece).flatMap (pieceText rest values) =
      pieceText (entry :: rest) values piece := by
  cases piece with
  | plain c => rfl
  | marker marker =>
      rw [filledPieces, pieceText, outcome, outcome, codeOf?_cons, codeOf?_cons]
      by_cases hkey : entry.2 = marker.key
      · simp [hkey, flatMap_plain, pieceText]
      · simp [hkey, pieceText, outcome]

theorem fill_cons {template : Text} (hfirm : ∀ piece ∈ Marker.split template, piece.IsFirm)
    (hvalues : Braceless values) (entry : Text × Text) (rest : Table Text) :
    fill (fill template [entry] values) rest values = fill template (entry :: rest) values := by
  change (Marker.split (fill template [entry] values)).flatMap (pieceText rest values) = _
  rw [split_fill hfirm hvalues, List.flatMap_assoc]
  simp only [flatMap_filledPieces]
  rfl

/-- A text none of whose markers has an alias stays as it is. -/
theorem fill_eq_self {text : Text}
    (hnone : ∀ key ∈ Marker.keys text, codeOf? aliases key = none) (values : Values) :
    fill text aliases values = text := by
  have hpieces : ∀ piece ∈ Marker.split text, pieceText aliases values piece = piece.text := by
    intro piece hpiece
    cases piece with
    | plain c => rfl
    | marker marker =>
        have hmem : marker.key ∈ Marker.keys text := by
          rw [Marker.keys, Marker.all_eq_filterMap]
          exact List.mem_map_of_mem (List.mem_filterMap.mpr ⟨_, hpiece, rfl⟩)
        rw [pieceText, outcome, hnone _ hmem, Piece.text]
  conv_rhs => rw [← Marker.flatMap_text_split text]
  exact List.flatMap_congr hpieces

/-- Fills a text for one alias after the other. -/
def fillInTurn (aliases : Table Text) (values : Values) (template : Text) : Text :=
  aliases.foldl (fun text entry => fill text [entry] values) template

/-- Filling alias by alias comes to the same as filling at once. -/
theorem fillInTurn_eq_fill {template : Text}
    (hfirm : ∀ piece ∈ Marker.split template, piece.IsFirm) (hvalues : Braceless values) :
    fillInTurn aliases values template = fill template aliases values := by
  induction aliases generalizing template with
  | nil => exact (fill_eq_self (by simp) values).symm
  | cons entry rest ih =>
      have hfirst : ∀ piece ∈ Marker.split (fill template [entry] values), piece.IsFirm := by
        rw [split_fill hfirm hvalues]
        exact isFirm_flatMap_filledPieces hvalues hfirm
      rw [← fill_cons hfirm hvalues, ← ih hfirst]
      rfl

/-- If no alias is shared, the order of the entries does not matter. -/
theorem fill_perm {other : Table Text} (hnodup : (aliases.map (·.2)).Nodup)
    (hperm : other.Perm aliases) (template : Text) :
    fill template other values = fill template aliases values := by
  have hcodes : codeOf? other = codeOf? aliases := by
    funext key
    refine Option.ext fun code => ?_
    rw [codeOf?_eq_some_iff hnodup, codeOf?_eq_some_iff ((hperm.map _).nodup_iff.mpr hnodup),
      hperm.mem_iff]
  have hpieces : pieceText other values = pieceText aliases values := by
    funext piece
    cases piece with
    | plain c => rfl
    | marker marker => rw [pieceText, pieceText, outcome, outcome, hcodes]
  change (Marker.split template).flatMap (pieceText other values) = _
  rw [hpieces]
  rfl

/-- The markers that come in place of a piece: itself, if it is a marker whose key is no alias. -/
theorem filterMap_filledPieces (piece : Piece) :
    (filledPieces aliases values piece).filterMap Piece.marker? =
      piece.marker?.toList.filter fun marker => marker.key ∉ aliases.map (·.2) := by
  cases piece with
  | plain c => rfl
  | marker marker =>
      rw [filledPieces, outcome]
      cases hcode : codeOf? aliases marker.key with
      | none =>
          have hkey := codeOf?_eq_none_iff.mp hcode
          simp [Piece.marker?, hkey]
      | some code =>
          have hkey : marker.key ∈ aliases.map (·.2) := by
            by_contra hnot
            rw [codeOf?_eq_none_iff.mpr hnot] at hcode
            cases hcode
          simp [Piece.marker?, hkey]

/-- The keys that are left are those that are no alias. -/
theorem keys_fill {template : Text} (hfirm : ∀ piece ∈ Marker.split template, piece.IsFirm)
    (hvalues : Braceless values) :
    Marker.keys (fill template aliases values) =
      (Marker.keys template).filter fun key => key ∉ aliases.map (·.2) := by
  rw [Marker.keys, Marker.keys, Marker.all_eq_filterMap, Marker.all_eq_filterMap,
    split_fill hfirm hvalues, List.filterMap_flatMap, List.filter_map,
    List.filterMap_eq_flatMap_toList, List.filter_flatMap]
  simp only [filterMap_filledPieces]
  rfl

/-- On a tidy template, with values that hold no opening brace, one pass does what passes for one alias
after the other do. If no alias is shared these can be made in any order. The keys that are left are
those that are no alias, in order, so that filling once more changes nothing. -/
theorem fillInTurn_tidy {template : Text} (htemplate : Marker.IsTidy template)
    (hvalues : Braceless values) (aliases : Table Text) :
    fillInTurn aliases values template = fill template aliases values ∧
      ((aliases.map (·.2)).Nodup → ∀ order : Table Text, order.Perm aliases →
        fillInTurn order values template = fillInTurn aliases values template) ∧
      Marker.keys (fill template aliases values) =
        (Marker.keys template).filter (fun key => key ∉ aliases.map (·.2)) ∧
      ∀ others : Values,
        fill (fill template aliases values) aliases others = fill template aliases values := by
  have hfirm := htemplate.isFirm
  refine ⟨fillInTurn_eq_fill hfirm hvalues, fun hnodup order hperm => ?_,
    keys_fill hfirm hvalues, fun others => ?_⟩
  · rw [fillInTurn_eq_fill hfirm hvalues, fillInTurn_eq_fill hfirm hvalues, fill_perm hnodup hperm]
  · apply fill_eq_self
    intro key hkey
    rw [keys_fill hfirm hvalues, List.mem_filter] at hkey
    exact codeOf?_eq_none_iff.mpr (by simpa using hkey.2)

/-- Two codes share an alias, markers touch each other, and a value ends like a marker. -/
theorem fillInTurn_shared_alias :
    let template : Text := "[\x7b?External(A)?\x7d\x7b?Editor(B)?\x7d\x7b?External(Z)?\x7d)".toList
    let aliases : Table Text :=
      [("P".toList, "A".toList), ("Q".toList, "A".toList), ("R".toList, "B".toList)]
    let values : Values :=
      [("P".toList, some "x)?\x7d".toList), ("Q".toList, some "y".toList), ("R".toList, none)]
    Marker.IsTidy template ∧ Braceless values ∧
      fillInTurn aliases values template = "[x)?\x7d\x7b?External(Z)?\x7d)".toList := by
  intro template aliases values
  have htemplate : Marker.IsTidy template := by decide
  have hvalues : Braceless values := by decide
  refine ⟨htemplate, hvalues, ?_⟩
  rw [(fillInTurn_tidy htemplate hvalues aliases).1]
  decide +kernel

end Substitution

end FormFill
